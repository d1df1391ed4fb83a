import Earth2Sandbox.Framework.Noninterference
import Earth2Sandbox.Queue.SharedRedis

/-!
# Queues with different names

Two queues on one Redis, and calls on both in any order.  Leases apart, different queues have
different keys, for the endings of the keys differ (`not_mem_queueKeys`).  But a lease of one queue
can be a key of the other, and so can a key that `clear` finds under the pattern of its leases.
Then the names clash (`Clashes`), and then only, calls on one queue change what calls on the other
return (`unaffected_iff`).  Names without `:lease` and without the special characters of patterns do
not clash (`isolated_of_plain`).
-/

namespace Earth2Sandbox

/-! ## The keys of two queues -/

lemma queueKeys_eq_map (queueName : String) :
    queueKeys queueName = (queueKeys "").map (queueName ++ ·) := by
  simp [queueKeys, pendingHashKey, inFlightHashKey, pendingZsetKey, sequenceKey]

/-- The keys of different queues differ, leases apart. -/
lemma not_mem_queueKeys {a b key : String} (hne : a ≠ b) (ha : key ∈ queueKeys a) :
    key ∉ queueKeys b := by
  have hsuffix : ∀ s ∈ queueKeys "", ∀ t ∈ queueKeys "", s.toList <:+ t.toList → s = t := by decide
  intro hb
  rw [queueKeys_eq_map, List.mem_map] at ha hb
  obtain ⟨s, hs, rfl⟩ := ha
  obtain ⟨t, ht, heq⟩ := hb
  have hlist : b.toList ++ t.toList = a.toList ++ s.toList := by
    rw [← String.toList_append, heq, String.toList_append]
  obtain rfl : s = t := by
    rcases List.suffix_or_suffix_of_suffix (List.suffix_append a.toList s.toList)
      (hlist ▸ List.suffix_append b.toList t.toList) with h | h
    · exact hsuffix s hs t ht h
    · exact (hsuffix t ht s hs h).symm
  exact hne (String.toList_inj.mp (List.append_cancel_right hlist)).symm

lemma startsWithText_lease {queueName key : String} :
    startsWithText key (queueName ++ ":lease:") = true ↔ ∃ k, key = leaseKey queueName k := by
  rw [startsWithText, decide_eq_true_eq]
  constructor
  · rintro ⟨rest, hrest⟩
    refine ⟨String.ofList rest, ?_⟩
    rw [← String.toList_inj, leaseKey, String.toList_append, String.toList_ofList, hrest]
  · rintro ⟨k, rfl⟩
    rw [leaseKey, String.toList_append (s := queueName ++ ":lease:")]
    exact List.prefix_append ..

/-- A lease of queue `a`, or a key that its `clear` takes for one, is a key of queue `b`. -/
def Clashes (a b : String) : Bool :=
  (queueKeys b).any fun key =>
    startsWithText key (a ++ ":lease:") || redisMatches (leasePattern a) key

lemma clashes_iff {a b : String} : Clashes a b = true ↔ ∃ key ∈ queueKeys b,
    (∃ k, key = leaseKey a k) ∨ redisMatches (leasePattern a) key := by
  simp only [Clashes, List.any_eq_true, Bool.or_eq_true, startsWithText_lease]

example : Clashes "jobs" "jobs:lease" ∧ Clashes "*[" "jobs" ∧ ¬ Clashes "jobs" "jobs:2" := by decide

/-! ## Calls on two queues -/

/-- A call, and the keys that expire before each of its requests. -/
structure QueueCall where
  op : NamedQueueOp
  expired : ℕ → List String

/-- A call on queue `a` (left) or queue `b` (right). -/
def servePair (a b : String) (db : RedisDatabase) :
    QueueCall ⊕ QueueCall → Except (JobError ⊕ RedisError) QueueReply × RedisDatabase
  | .inl call => call.op.serve a call.expired db
  | .inr call => call.op.serve b call.expired db

/-- No call on queue `a` changes what a call on queue `b` returns. -/
def Unaffected (a b : String) : Prop :=
  ∀ calls, (outputs (servePair a b) ∅ calls).filter (·.1.isRight) =
    outputs (servePair a b) ∅ (calls.filter (·.isRight))

/-- No call on one of the queues changes what a call on the other returns. -/
def Isolated (a b : String) : Prop := Unaffected a b ∧ Unaffected b a

/-! ## Names that do not clash -/

/-- The commands of a request work on the keys of its queue. -/
lemma script_only (queueName : String) (c : RedisCall) :
    (c.script queueName).Only fun command =>
      command.key ∈ queueKeys queueName ∨ ∃ k, command.key = leaseKey queueName k := by
  have hcall : ∀ {command : RedisCommand} {key : String}, key ∈ queueKeys queueName →
      command.key = key → (redisCall command).Only fun command =>
        command.key ∈ queueKeys queueName ∨ ∃ k, command.key = leaseKey queueName k :=
    fun hmem hkey => redisCall_only (.inl (hkey ▸ hmem))
  have hpending : pendingHashKey queueName ∈ queueKeys queueName := by simp [queueKeys]
  have hinFlight : inFlightHashKey queueName ∈ queueKeys queueName := by simp [queueKeys]
  have hscores : pendingZsetKey queueName ∈ queueKeys queueName := by simp [queueKeys]
  have hsequence : sequenceKey queueName ∈ queueKeys queueName := by simp [queueKeys]
  cases c with
  | incrSequence => exact hcall hsequence rfl
  | evalEnqueue key payload score =>
    refine Program.Only.bind (hcall hpending rfl) fun existing => ?_
    cases existing with
    | some existing => trivial
    | none =>
      refine Program.Only.bind (hcall hinFlight rfl) fun existing => ?_
      cases existing with
      | some existing => trivial
      | none =>
        refine Program.Only.bind (hcall hpending rfl) fun _ => ?_
        exact Program.Only.bind (hcall hscores rfl) fun _ => trivial
  | evalDequeue =>
    refine Program.Only.bind (hcall hscores rfl) fun first => ?_
    cases first with
    | none => trivial
    | some key =>
      refine Program.Only.bind (hcall hpending rfl) fun payload => ?_
      refine Program.Only.bind (hcall hscores rfl) fun _ => ?_
      refine Program.Only.bind (hcall hpending rfl) fun _ => ?_
      cases payload with
      | none => trivial
      | some payload => exact Program.Only.bind (hcall hinFlight rfl) fun _ => trivial
  | setLease key jobId => exact redisCall_only (.inr ⟨key, rfl⟩)
  | release key =>
    exact ⟨.inl hinFlight, fun _ => ⟨.inr ⟨key, rfl⟩, fun _ => Program.only_ofExcept ..⟩⟩
  | hlenPending => exact hcall hpending rfl
  | hlenInFlight => exact hcall hinFlight rfl

section Frame

variable {a b : String} {db : RedisDatabase} {state : RedisQueueState}

/-- Calls on queue `a` leave the keys of queue `b` as they were, unless the names clash. -/
lemma Holds.runOn_other (hne : a ≠ b) (hclash : ¬ Clashes a b) (h : Holds b db state) {α : Type}
    (p : RedisProgram α) (expired : ℕ → List String) (n : ℕ) :
    Holds b (RedisProgram.runOn a expired p n db).2 state := by
  induction p generalizing n db with
  | ret r => exact h
  | raise e => exact h
  | call c next ih =>
    have hexec : Holds b ((c.script a).exec (db.expire (expired n))).2 state := by
      refine (h.expire (expired n)).of_lookup_eq fun key hkey => ?_
      refine RedisScript.lookup_exec ((script_only a c).mono fun command hcommand heq => ?_) _
      subst heq
      rcases hcommand with hmem | hlease
      · exact not_mem_queueKeys hne hmem hkey
      · exact hclash (clashes_iff.mpr ⟨_, hkey, .inl hlease⟩)
    rw [RedisProgram.runOn]
    split
    · next reply db' heq =>
      rw [heq] at hexec
      exact ih reply hexec (n + 1)
    · next e db' heq =>
      rw [heq] at hexec
      exact hexec

lemma Holds.serve_other (hne : a ≠ b) (hclash : ¬ Clashes a b) (h : Holds b db state)
    (op : NamedQueueOp) (expired : ℕ → List String) :
    Holds b (op.serve a expired db).2 state := by
  cases op with
  | port op => exact h.runOn_other hne hclash op.onRedis expired 0
  | clear =>
    refine ((h.expire (expired 0)).expire (expired 1)).of_lookup_eq fun key hkey => ?_
    rw [NamedQueueOp.serve, redisClear, RedisDatabase.lookup_delete, if_neg]
    rw [List.mem_append, RedisDatabase.mem_scan]
    rintro (hmem | ⟨-, hmatches⟩)
    · exact not_mem_queueKeys hne hmem hkey
    · exact hclash (clashes_iff.mpr ⟨key, hkey, .inr hmatches⟩)

end Frame

/-- Calls on queue `a` can be left out. -/
lemma unwinding_servePair {a b : String} (hne : a ≠ b) (hclash : ¬ Clashes a b) :
    Unwinding (servePair a b) (·.isRight) fun db db' =>
      ∃ state, Holds b db state ∧ Holds b db' state where
  hidden := by
    rintro db db' (call | call) ⟨state, h, h'⟩ hvisible
    · exact ⟨state, h.serve_other hne hclash call.op call.expired, h'⟩
    · cases hvisible
  output := by
    rintro db db' (call | call) ⟨state, h, h'⟩ hvisible
    · cases hvisible
    · exact (h.serve call.op call.expired).1.trans (h'.serve call.op call.expired).1.symm
  respects := by
    rintro db db' (call | call) ⟨state, h, h'⟩ hvisible
    · cases hvisible
    · exact ⟨_, (h.serve call.op call.expired).2, (h'.serve call.op call.expired).2⟩

lemma unaffected_of_not_clashes {a b : String} (hne : a ≠ b) (hclash : ¬ Clashes a b) :
    Unaffected a b :=
  fun calls => (unwinding_servePair hne hclash).purge ⟨.empty, .empty b, .empty b⟩ calls

/-! ## Plain names -/

/-- A name without the special characters of patterns, and without `:lease`. -/
structure PlainName (name : String) : Prop where
  plain : PlainGlob (redisBytes name)
  noLease : ¬ redisBytes ":lease" <:+: redisBytes name

/-- The keys of queue `b` begin with a lease prefix only when the name of `b` does. -/
lemma not_clashes_of_plain {a b : String} (ha : PlainGlob (redisBytes a))
    (hb : ¬ redisBytes ":lease" <:+: redisBytes b) : ¬ Clashes a b := by
  intro hclash
  obtain ⟨key, hkey, hclash⟩ := clashes_iff.mp hclash
  have hprefix : redisBytes a ++ redisBytes ":lease:" <+: redisBytes key := by
    rcases hclash with ⟨k, rfl⟩ | hmatches
    · rw [leaseKey, redisBytes_append, redisBytes_append]
      exact List.prefix_append ..
    · have hbytes : redisBytes ":lease:" = [':', 'l', 'e', 'a', 's', 'e', ':'] := by decide
      have hlease : PlainGlob (redisBytes ":lease:") := by
        rw [hbytes]
        simp [PlainGlob]
      have hplain : PlainGlob (redisBytes a ++ redisBytes ":lease:") :=
        fun c hc => (List.mem_append.mp hc).elim (ha c) (hlease c)
      have hpattern : redisBytes (leasePattern a) =
          redisBytes a ++ redisBytes ":lease:" ++ ['*'] := by
        rw [leasePattern, redisBytes_append, List.append_assoc]
        rfl
      rw [redisMatches, hpattern] at hmatches
      exact (globMatches_plain_star hplain _).mp hmatches
  rw [queueKeys_eq_map, List.mem_map] at hkey
  obtain ⟨ending, hending, rfl⟩ := hkey
  obtain ⟨rest, hrest⟩ := hprefix
  rw [redisBytes_append, List.append_assoc] at hrest
  have hinside : ∀ s ∈ queueKeys "", ¬ redisBytes ":lease:" <:+: redisBytes s := by decide
  have hacross : ∀ s ∈ queueKeys "", ∀ n < 6,
      ¬ (redisBytes ":lease:").drop n <+: redisBytes s := by decide
  rcases List.append_eq_append_iff.mp hrest with ⟨m, hm, hlease⟩ | ⟨m, -, hending'⟩
  · by_cases hlength : m.length < 6
    · -- the prefix ends within the ending of the key
      refine hacross ending hending m.length hlength ⟨rest, ?_⟩
      have hdrop := congrArg (List.drop m.length) hlease
      rwa [List.drop_left, List.drop_append_of_le_length (hlength.le.trans (by decide))] at hdrop
    · -- the prefix is within the name
      have htake := congrArg (List.take 6) hlease
      rw [List.take_append_of_le_length (by decide), List.take_append_of_le_length (by omega)]
        at htake
      have hinfix : m.take 6 <:+: redisBytes b :=
        hm ▸ (List.take_prefix 6 m).isInfix.trans (List.suffix_append _ m).isInfix
      rw [← htake] at hinfix
      exact hb hinfix
  · exact hinside ending hending ⟨m, rest, by rw [hending', List.append_assoc]⟩

/-- Queues with different plain names are isolated. -/
theorem isolated_of_plain {a b : String} (hne : a ≠ b) (ha : PlainName a) (hb : PlainName b) :
    Isolated a b :=
  ⟨unaffected_of_not_clashes hne (not_clashes_of_plain ha.plain hb.noLease),
    unaffected_of_not_clashes hne.symm (not_clashes_of_plain hb.plain ha.noLease)⟩

/-! ## Names that clash -/

/-- Some keys of the queue are deleted. -/
def RedisQueueState.without (state : RedisQueueState) (queueName : String)
    (deleted : List String) : RedisQueueState where
  sequence := if sequenceKey queueName ∈ deleted then 0 else state.sequence
  pending := if pendingHashKey queueName ∈ deleted then ∅ else state.pending
  inFlight := if inFlightHashKey queueName ∈ deleted then ∅ else state.inFlight
  pendingScores := if pendingZsetKey queueName ∈ deleted then [] else state.pendingScores
  leases := state.leases

/-- An item whose lease would have this key. -/
def leasedItem (key : String) : ForecastQueueItem := ⟨key, .normal, some key⟩

lemma itemKey_leasedItem (key : String) : itemKey (leasedItem key) = key := by
  simp [itemKey, leasedItem, keyOr]

section Clash

variable {a b : String} {db db' : RedisDatabase} {state : RedisQueueState}

lemma Holds.without (h : Holds b db state) {deleted : List String}
    (hlookup : ∀ key ∈ queueKeys b,
      db'.lookup key = if key ∈ deleted then none else db.lookup key) :
    Holds b db' (state.without b deleted) := by
  simp only [queueKeys, List.forall_mem_cons] at hlookup
  obtain ⟨hpending, hinFlight, hscores, hsequence, -⟩ := hlookup
  refine ⟨hpending.trans ?_, hinFlight.trans ?_, hscores.trans ?_, hsequence.trans ?_⟩
  · rw [h.pending, RedisQueueState.without]
    split <;> rfl
  · rw [h.inFlight, RedisQueueState.without]
    split <;> rfl
  · rw [h.scores, RedisQueueState.without]
    split <;> rfl
  · rw [h.sequence, RedisQueueState.without]
    split <;> rfl

lemma lookup_serve_markCompleted (key other : String) (hother : other ∉ queueKeys a) :
    (NamedQueueOp.serve a (fun _ => []) (.port (.markCompleted (leasedItem key))) db).2.lookup
      other = if other ∈ [leaseKey a key] then none else db.lookup other := by
  have hserve : (NamedQueueOp.serve a (fun _ => []) (.port (.markCompleted (leasedItem key)))
      db).2 = ((RedisScript.release a (itemKey (leasedItem key))).exec db).2 :=
    RedisProgram.runOn_call_ret a _ (.release _) (fun _ => QueueReply.done) 0 db
  have hinFlight : other ≠ inFlightHashKey a := by
    rintro rfl
    exact hother (by simp [queueKeys])
  rw [hserve, itemKey_leasedItem, RedisScript.exec, RedisScript.release, Program.run_call,
    Program.run_call, Program.run_ofExcept]
  by_cases hkey : other = leaseKey a key
  · rw [if_pos (List.mem_singleton.mpr hkey), hkey]
    exact RedisDatabase.lookup_put ..
  · rw [if_neg (mt List.mem_singleton.mp hkey)]
    exact (RedisDatabase.lookup_put_ne _ hkey _).trans (RedisDatabase.lookup_put_ne _ hinFlight _)

/-- A call on queue `a` deletes the key of queue `b` that clashes. -/
lemma exists_deleting_call (hne : a ≠ b) {key : String} (hkey : key ∈ queueKeys b)
    (hclash : (∃ k, key = leaseKey a k) ∨ redisMatches (leasePattern a) key) :
    ∃ op : NamedQueueOp, ∀ db state, Holds b db state → ∃ deleted, key ∈ deleted ∧
      Holds b (op.serve a (fun _ => []) db).2 (state.without b deleted) := by
  rcases hclash with ⟨k, rfl⟩ | hmatches
  · exact ⟨.port (.markCompleted (leasedItem k)), fun db state h => ⟨[leaseKey a k],
      List.mem_singleton_self _, h.without fun other hother =>
        lookup_serve_markCompleted k other (not_mem_queueKeys hne.symm hother)⟩⟩
  · refine ⟨.clear, fun db state h => ⟨key :: (queueKeys a ++ db.scan (leasePattern a)),
      List.mem_cons_self, h.without fun other hother => ?_⟩⟩
    refine (RedisDatabase.lookup_delete ..).trans ?_
    by_cases hother : other = key
    · subst hother
      rw [if_pos List.mem_cons_self]
      by_cases hsome : (db.lookup other).isSome
      · exact if_pos (List.mem_append_right _ ((db.mem_scan).mpr ⟨hsome, hmatches⟩))
      · have hnone := Option.not_isSome_iff_eq_none.mp hsome
        simp only [RedisDatabase.expire, List.foldl_nil, hnone, ite_self]
    · simp only [List.mem_cons, hother, false_or]
      rfl

/-- A call on queue `b` during which nothing expires. -/
def onSecond (op : NamedQueueOp) : QueueCall ⊕ QueueCall := .inr ⟨op, fun _ => []⟩

/-- A call on a queue that is alone, as a step. -/
def serveAlone (state : RedisQueueState) (op : NamedQueueOp) :
    Except (JobError ⊕ RedisError) QueueReply × RedisQueueState := op.alone state

/-- Calls on queue `b` return what they return when it is alone. -/
lemma Holds.outputs (h : Holds b db state) (ops : List NamedQueueOp) :
    (outputs (servePair a b) db (ops.map onSecond)).map (·.2) =
        (outputs serveAlone state ops).map (·.2) ∧
      Holds b (finalState (servePair a b) db (ops.map onSecond))
        (finalState serveAlone state ops) := by
  induction ops generalizing db state with
  | nil => exact ⟨rfl, h⟩
  | cons op ops ih =>
    obtain ⟨hreply, hstate⟩ := h.serve op fun _ => []
    obtain ⟨hreplies, hfinal⟩ := ih hstate
    exact ⟨congrArg₂ List.cons hreply hreplies, hfinal⟩

/-- If the queue is unaffected, it answers alike after a call on the other that deletes some of its
keys. -/
lemma Unaffected.replies (h : Unaffected a b) {key : String} {other : NamedQueueOp}
    (hdelete : ∀ db state, Holds b db state → ∃ deleted, key ∈ deleted ∧
      Holds b (other.serve a (fun _ => []) db).2 (state.without b deleted))
    (before after : List NamedQueueOp) : ∃ deleted, key ∈ deleted ∧
      (Earth2Sandbox.outputs serveAlone
          ((finalState serveAlone .empty before).without b deleted) after).map (·.2) =
        (Earth2Sandbox.outputs serveAlone (finalState serveAlone .empty before) after).map
          (·.2) := by
  obtain ⟨-, hbefore⟩ := (Holds.empty b).outputs (a := a) before
  obtain ⟨deleted, hmem, hafter⟩ := hdelete _ _ hbefore
  refine ⟨deleted, hmem, ?_⟩
  have hright : ∀ ops : List NamedQueueOp, (ops.map onSecond).filter (·.isRight) =
      ops.map onSecond := fun ops => List.filter_eq_self.mpr (by simp [onSecond])
  have hfilter : ∀ db (ops : List NamedQueueOp),
      (Earth2Sandbox.outputs (servePair a b) db (ops.map onSecond)).filter (·.1.isRight) =
        Earth2Sandbox.outputs (servePair a b) db (ops.map onSecond) := by
    refine fun db ops => List.filter_eq_self.mpr fun o ho => ?_
    have hinput := List.mem_map_of_mem (f := (·.1)) ho
    rw [map_fst_outputs] at hinput
    obtain ⟨op, -, hop⟩ := List.mem_map.mp hinput
    rw [← hop]
    rfl
  have hcalls := h (before.map onSecond ++ .inl ⟨other, fun _ => []⟩ :: after.map onSecond)
  rw [outputs_append, List.filter_append, hfilter, Earth2Sandbox.outputs, List.filter_cons_of_neg
    (by simp), hfilter, List.filter_append, hright, List.filter_cons_of_neg (by simp), hright,
    outputs_append, List.append_cancel_left_eq] at hcalls
  rw [← (hafter.outputs (a := a) after).1, ← (hbefore.outputs (a := a) after).1]
  exact congrArg (List.map (·.2)) hcalls

lemma serveAlone_dequeue_nil (h : state.pendingScores = []) :
    (serveAlone state (.port .dequeue)).1 = .ok (.dequeued none) := by
  obtain ⟨sequence, pending, inFlight, scores, leases⟩ := state
  subst h
  rfl

lemma not_clashes_of_unaffected (hne : a ≠ b) (h : Unaffected a b) : ¬ Clashes a b := by
  intro hclash
  obtain ⟨key, hkey, hclash⟩ := clashes_iff.mp hclash
  obtain ⟨other, hdelete⟩ := exists_deleting_call hne hkey hclash
  simp only [queueKeys, List.mem_cons, List.not_mem_nil, or_false] at hkey
  rcases hkey with rfl | rfl | rfl | rfl
  · -- nothing is pending any more
    obtain ⟨deleted, hmem, hreplies⟩ := h.replies hdelete
      [.port (.enqueue "job" .normal none)] [.port .pendingCount]
    have hcount := (List.cons.inj hreplies).1
    have hzero : (serveAlone ((finalState serveAlone .empty
        [.port (.enqueue "job" .normal none)]).without b deleted) (.port .pendingCount)).1 =
        .ok (.count (if pendingHashKey b ∈ deleted then ∅ else _ : Dict String).len) := rfl
    rw [if_pos hmem] at hzero
    exact absurd (hzero.symm.trans hcount) (by decide +kernel)
  · -- nothing is in flight any more
    obtain ⟨deleted, hmem, hreplies⟩ := h.replies hdelete
      [.port (.enqueue "job" .normal none), .port .dequeue] [.port .inFlightCount]
    have hcount := (List.cons.inj hreplies).1
    have hzero : (serveAlone ((finalState serveAlone .empty
        [.port (.enqueue "job" .normal none), .port .dequeue]).without b deleted)
        (.port .inFlightCount)).1 =
        .ok (.count (if inFlightHashKey b ∈ deleted then ∅ else _ : Dict String).len) := rfl
    rw [if_pos hmem] at hzero
    exact absurd (hzero.symm.trans hcount) (by decide +kernel)
  · -- the item that is pending is not found
    obtain ⟨deleted, hmem, hreplies⟩ := h.replies hdelete
      [.port (.enqueue "job" .normal none)] [.port .dequeue]
    have hitem := (List.cons.inj hreplies).1
    rw [serveAlone_dequeue_nil (if_pos hmem)] at hitem
    exact absurd hitem (by decide +kernel)
  · -- the numbers start again, so that the second item overtakes the first
    obtain ⟨deleted, hmem, hreplies⟩ := h.replies hdelete
      [.port (.enqueue "job" .normal none)] [.port (.enqueue "any" .normal none), .port .dequeue]
    have hinFlight : (finalState serveAlone .empty
        [.port (.enqueue "job" .normal none)]).inFlight = ∅ := rfl
    simp only [RedisQueueState.without, if_pos hmem, hinFlight, ite_self] at hreplies
    split_ifs at hreplies <;> exact absurd hreplies (by decide +kernel)

end Clash

/-! ## Isolation -/

/-- Calls on queue `a` leave the results of queue `b` alone exactly when no key of `b` is a lease of
`a`, or taken for one. -/
lemma unaffected_iff {a b : String} (hne : a ≠ b) : Unaffected a b ↔ ¬ Clashes a b :=
  ⟨not_clashes_of_unaffected hne, unaffected_of_not_clashes hne⟩

/-- Two queues with different names are isolated exactly when their names do not clash. -/
theorem isolated_iff {queueName queueName' : String}
    (hne : normalizeQueueName queueName ≠ normalizeQueueName queueName') :
    Isolated (normalizeQueueName queueName) (normalizeQueueName queueName') ↔
      ¬ Clashes (normalizeQueueName queueName) (normalizeQueueName queueName') ∧
        ¬ Clashes (normalizeQueueName queueName') (normalizeQueueName queueName) :=
  and_congr (unaffected_iff hne) (unaffected_iff hne.symm)

lemma isolated_iff_versions :
    Isolated (normalizeQueueName " earth2:forecast-jobs:") (normalizeQueueName "earth2:alerts") :=
  (isolated_iff (by decide)).mpr ⟨by decide, by decide⟩

/-- The lease of an item with the key `pending` is the pending hash of a queue whose name ends in
`:lease`. -/
theorem queues_not_isolated : ∃ queueName queueName',
    normalizeQueueName queueName ≠ "" ∧ normalizeQueueName queueName' ≠ "" ∧
      normalizeQueueName queueName ≠ normalizeQueueName queueName' ∧
      ¬ Isolated (normalizeQueueName queueName) (normalizeQueueName queueName') :=
  ⟨"jobs", "jobs:lease", by decide, by decide, by decide,
    fun h => not_clashes_of_unaffected (by decide) h.1 (by decide)⟩

end Earth2Sandbox
