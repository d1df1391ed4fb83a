import Earth2Sandbox.Framework.Glob
import Earth2Sandbox.Framework.Program
import Earth2Sandbox.Runtime.Bytes
import Earth2Sandbox.Runtime.Redis

/-!
# A Redis database

Keys are texts, and a key holds a string, a hash or a sorted set.  A command works on the value
under one key and fails when that value has another type (`RedisCommand.apply`); a hash or a sorted
set that becomes empty is deleted with its key.  `SCAN` goes over all keys and `DEL` deletes a list
of them.

A Lua script is a program of commands that stops at the first that fails, with the effects of those
before it; a script runs without interruption (`RedisScript.exec`).  The keys that no command of a
script works on stay as they were (`RedisScript.lookup_exec`).
-/

namespace Earth2Sandbox

/-- The value under a key.  A string may be set to expire. -/
inductive RedisValue where
  | string (text : String) (expires : Bool)
  | hash (fields : Dict String)
  | zset (members : SortedSet)

inductive RedisError where
  /-- `WRONGTYPE`. -/
  | wrongType
  | notInteger
  deriving DecidableEq

namespace RedisValue

/-- A hash without fields does not exist. -/
def ofHash (fields : Dict String) : Option RedisValue :=
  if fields.entries = [] then none else some (.hash fields)

/-- A sorted set without members does not exist. -/
def ofZset (members : SortedSet) : Option RedisValue :=
  if members = [] then none else some (.zset members)

/-- A command on a hash. -/
def withHash {α : Type} (f : Dict String → α × Dict String) :
    Option RedisValue → Except RedisError α × Option RedisValue
  | none => (.ok (f ∅).1, ofHash (f ∅).2)
  | some (.hash fields) => (.ok (f fields).1, ofHash (f fields).2)
  | some value => (.error .wrongType, some value)

/-- A command on a sorted set. -/
def withZset {α : Type} (f : SortedSet → α × SortedSet) :
    Option RedisValue → Except RedisError α × Option RedisValue
  | none => (.ok (f []).1, ofZset (f []).2)
  | some (.zset members) => (.ok (f members).1, ofZset (f members).2)
  | some value => (.error .wrongType, some value)

/-- `INCR`; the string has to be the numeral of a number. -/
def incr : Option RedisValue → Except RedisError ℕ × Option RedisValue
  | none => (.ok 1, some (.string (Nat.repr 1) false))
  | some (.string text expires) =>
    let n := Nat.ofDigitChars 10 text.toList 0
    if Nat.repr n = text then (.ok (n + 1), some (.string (Nat.repr (n + 1)) expires))
    else (.error .notInteger, some (.string text expires))
  | some value => (.error .wrongType, some value)

@[simp] lemma incr_repr (n : ℕ) (expires : Bool) :
    incr (some (.string (Nat.repr n) expires)) =
      (.ok (n + 1), some (.string (Nat.repr (n + 1)) expires)) := by
  simp [incr]

@[simp] lemma withHash_ofHash {α : Type} (f : Dict String → α × Dict String)
    (fields : Dict String) :
    withHash f (ofHash fields) = (.ok (f fields).1, ofHash (f fields).2) := by
  by_cases h : fields.entries = []
  · obtain rfl : fields = ∅ := AList.ext h
    rfl
  · rw [ofHash, if_neg h]
    rfl

@[simp] lemma withZset_ofZset {α : Type} (f : SortedSet → α × SortedSet) (members : SortedSet) :
    withZset f (ofZset members) = (.ok (f members).1, ofZset (f members).2) := by
  by_cases h : members = []
  · rw [h]
    rfl
  · rw [ofZset, if_neg h]
    rfl

end RedisValue

/-! ## Commands -/

/-- The commands that work on one key. -/
inductive RedisCommand where
  | hget (key field : String)
  | hset (key field value : String)
  | hdel (key field : String)
  | hlen (key : String)
  | zadd (key : String) (score : ℕ) (member : String)
  | zrem (key member : String)
  /-- `ZRANGE key 0 0`. -/
  | zrangeFirst (key : String)
  | incr (key : String)
  /-- `SET key value EX seconds`. -/
  | setEx (key value : String)
  | del (key : String)

namespace RedisCommand

/-- The key that the command works on. -/
def key : RedisCommand → String
  | hget key _ | hset key _ _ | hdel key _ | hlen key | zadd key _ _ | zrem key _
  | zrangeFirst key | incr key | setEx key _ | del key => key

/-- What the command answers. -/
abbrev Answer : RedisCommand → Type
  | hget .. | zrangeFirst .. => Option String
  | hlen .. | incr .. => ℕ
  | hset .. | hdel .. | zadd .. | zrem .. | setEx .. | del .. => Unit

/-- The effect on the value under the key; `SET` and `DEL` take any type. -/
def apply : (c : RedisCommand) → Option RedisValue → Except RedisError c.Answer × Option RedisValue
  | hget _ field, value => RedisValue.withHash (fun fields => (fields.lookup field, fields)) value
  | hset _ field text, value =>
    RedisValue.withHash (fun fields => ((), fields.insert field text)) value
  | hdel _ field, value => RedisValue.withHash (fun fields => ((), fields.erase field)) value
  | hlen _, value => RedisValue.withHash (fun fields => (fields.len, fields)) value
  | zadd _ score member, value =>
    RedisValue.withZset (fun members => ((), members.zadd score member)) value
  | zrem _ member, value => RedisValue.withZset (fun members => ((), members.zrem member)) value
  | zrangeFirst _, value =>
    RedisValue.withZset (fun members => (members.head?.map (·.member), members)) value
  | incr _, value => RedisValue.incr value
  | setEx _ text, _ => (.ok (), some (.string text true))
  | del _, _ => (.ok (), none)

end RedisCommand

/-! ## The database -/

abbrev RedisDatabase := Dict RedisValue

/-- The bytes of a text, each as a character. -/
def redisBytes (text : String) : List Char := (encodeUtf8 text).map fun b => Char.ofNat b.toNat

lemma redisBytes_append (s t : String) : redisBytes (s ++ t) = redisBytes s ++ redisBytes t := by
  simp [redisBytes, encodeUtf8]

/-- `MATCH` compares bytes. -/
def redisMatches (pattern text : String) : Bool :=
  globMatches (redisBytes pattern) (redisBytes text)

namespace RedisDatabase

variable (db : RedisDatabase)

/-- A key gets a value, or is deleted. -/
def put (key : String) : Option RedisValue → RedisDatabase
  | none => db.erase key
  | some value => db.insert key value

@[simp] lemma lookup_put (key : String) (value : Option RedisValue) :
    (db.put key value).lookup key = value := by
  cases value with
  | none => exact AList.lookup_erase ..
  | some value => exact AList.lookup_insert ..

lemma lookup_put_ne {key other : String} (h : other ≠ key) (value : Option RedisValue) :
    (db.put key value).lookup other = db.lookup other := by
  cases value with
  | none => exact AList.lookup_erase_ne h
  | some value => exact AList.lookup_insert_ne h

/-- One command. -/
def perform (c : RedisCommand) (db : RedisDatabase) :
    Except RedisError c.Answer × RedisDatabase :=
  ((c.apply (db.lookup c.key)).1, db.put c.key (c.apply (db.lookup c.key)).2)

/-- These keys expire, if they are set to. -/
def expire (db : RedisDatabase) (keys : List String) : RedisDatabase :=
  keys.foldl (fun db key =>
    match db.lookup key with
    | some (.string _ true) => db.erase key
    | _ => db) db

/-- `SCAN` with `MATCH`. -/
def scan (pattern : String) : List String := db.keys.filter (redisMatches pattern)

/-- `DEL` of several keys. -/
def delete (db : RedisDatabase) (keys : List String) : RedisDatabase := keys.foldl (·.erase ·) db

lemma lookup_perform_ne {c : RedisCommand} {key : String} (h : c.key ≠ key) :
    (perform c db).2.lookup key = db.lookup key := db.lookup_put_ne (Ne.symm h) _

lemma lookup_expire {key : String} (keys : List String)
    (h : ∀ text, db.lookup key ≠ some (.string text true)) :
    (db.expire keys).lookup key = db.lookup key := by
  induction keys generalizing db with
  | nil => rfl
  | cons first keys ih =>
    rw [expire, List.foldl_cons]
    split
    · next text hfirst =>
      have hkey : key ≠ first := fun heq => h text (heq ▸ hfirst)
      have hlookup : (db.erase first).lookup key = db.lookup key := AList.lookup_erase_ne hkey
      exact (ih _ fun text => hlookup ▸ h text).trans hlookup
    · exact ih db h

lemma lookup_delete (key : String) (keys : List String) :
    (db.delete keys).lookup key = if key ∈ keys then none else db.lookup key := by
  induction keys generalizing db with
  | nil => rfl
  | cons first keys ih =>
    rw [delete, List.foldl_cons, ← delete, ih]
    by_cases hkey : key = first
    · subst hkey
      simp
    · simp [hkey, AList.lookup_erase_ne hkey]

lemma mem_scan {pattern key : String} :
    key ∈ db.scan pattern ↔ (db.lookup key).isSome ∧ redisMatches pattern key := by
  rw [scan, List.mem_filter, AList.lookup_isSome, AList.mem_keys]

end RedisDatabase

/-! ## Scripts -/

/-- A program of commands; a command may fail. -/
abbrev RedisScript (α : Type) :=
  Program RedisError RedisCommand (fun c => Except RedisError c.Answer) α

/-- `redis.call`: a failure stops the script. -/
def redisCall (c : RedisCommand) : RedisScript c.Answer := .call c .ofExcept

/-- A script without interruption. -/
def RedisScript.exec {α : Type} (script : RedisScript α) (db : RedisDatabase) :
    Except RedisError α × RedisDatabase := script.run RedisDatabase.perform db

lemma redisCall_only {allowed : RedisCommand → Prop} {c : RedisCommand} (h : allowed c) :
    (redisCall c).Only allowed := ⟨h, fun _ => Program.only_ofExcept _ _⟩

/-- A key that no command of the script works on keeps its value. -/
lemma RedisScript.lookup_exec {α : Type} {script : RedisScript α} {key : String}
    (h : script.Only fun c => c.key ≠ key) (db : RedisDatabase) :
    (script.exec db).2.lookup key = db.lookup key := by
  induction script generalizing db with
  | ret a => rfl
  | raise e => rfl
  | call c next ih => exact (ih _ (h.2 _) _).trans (db.lookup_perform_ne h.1)

end Earth2Sandbox
