import Earth2Sandbox.Framework.FixedWindow
import Earth2Sandbox.Http.AccessControl
import Mathlib.Data.List.TakeWhile
import Mathlib.Order.Bounds.Defs

/-!
# What the limiter admits

A window of an identity and a route opens with a call of `check` and lasts `window_seconds`; the
first call after its end opens the next one.  In each window the limiter admits calls until
`capacity` is reached and refuses the rest (`check_bounds`), which leaves twice the capacity for
any interval as long as a window.  The seconds of a refusal are the least whole number after which
a call is admitted again (`retryAfter_least`): whole seconds reach the end of the window or pass it
by less than one.
-/

namespace Earth2Sandbox

/-- A call of `check`, with the reading of the clock that it makes. -/
structure RateLimitCall where
  identity : String
  route : String
  now : ℚ

namespace RateLimitCall

/-- The key of the call's window. -/
def key (call : RateLimitCall) : String × String := (call.identity, call.route)

/-- The same call at another time. -/
def atTime (call : RateLimitCall) (now : ℚ) : RateLimitCall := { call with now }

end RateLimitCall

namespace InMemoryFixedWindowRateLimiter

variable {limiter : InMemoryFixedWindowRateLimiter} {windows : Windows} {call : RateLimitCall}
  {calls : List RateLimitCall} {start : ℚ} {count : ℕ}

/-- The decision on a call. -/
def answer (limiter : InMemoryFixedWindowRateLimiter) (windows : Windows) (call : RateLimitCall) :
    RateLimitDecision × Windows :=
  limiter.check windows call.identity call.route call.now

/-- The decisions on a sequence of calls. -/
def checks (limiter : InMemoryFixedWindowRateLimiter) (windows : Windows) :
    List RateLimitCall → List (RateLimitCall × RateLimitDecision) :=
  outputs limiter.answer windows

/-- The windows after a sequence of calls. -/
def windowsAfter (limiter : InMemoryFixedWindowRateLimiter) (windows : Windows) :
    List RateLimitCall → Windows :=
  finalState limiter.answer windows

/-! ## One call -/

/-- The window of a key has ended, or there is none. -/
def Ended (limiter : InMemoryFixedWindowRateLimiter) (windows : Windows) (key : String × String)
    (now : ℚ) : Prop :=
  ∀ start count, windows key = some (start, count) → start + limiter.windowSeconds ≤ now

/-- The call that opens a window is admitted and counted. -/
lemma answer_of_ended (hcapacity : 1 ≤ limiter.capacity)
    (h : limiter.Ended windows call.key call.now) :
    (limiter.answer windows call).1.allowed = true ∧
      (limiter.answer windows call).2 call.key = some (call.now, 1) := by
  unfold answer check
  cases hkey : windows (call.identity, call.route) with
  | none =>
    have hroom : ¬ limiter.capacity = 0 := by omega
    by_cases hzero : (limiter.windowSeconds : ℚ) ≤ 0 <;>
      simp [hkey, hzero, hroom, RateLimitCall.key]
  | some window =>
    obtain ⟨start, count⟩ := window
    have hended : (limiter.windowSeconds : ℚ) ≤ call.now - start := by
      have := h start count hkey
      linarith
    simp [hkey, hended, RateLimitCall.key]

/-- In a window, a call is admitted and counted while there is room. -/
lemma answer_within (hkey : windows call.key = some (start, count))
    (hopen : call.now < start + limiter.windowSeconds) :
    ((limiter.answer windows call).1.allowed = true ↔ count < limiter.capacity) ∧
      (limiter.answer windows call).2 call.key =
        some (start, if count < limiter.capacity then count + 1 else count) := by
  have hrunning : ¬ (limiter.windowSeconds : ℚ) ≤ call.now - start := by linarith
  have hkey : windows (call.identity, call.route) = some (start, count) := hkey
  by_cases hfull : limiter.capacity ≤ count
  · simp [answer, check, RateLimitCall.key, hkey, hrunning, hfull, not_lt.mpr hfull]
  · simp [answer, check, RateLimitCall.key, hkey, hrunning, hfull, not_le.mp hfull]

lemma answer_frame {key : String × String} (h : call.key ≠ key) :
    (limiter.answer windows call).2 key = windows key :=
  check_frame h.symm

lemma unwinding_key (limiter : InMemoryFixedWindowRateLimiter) (key : String × String) :
    Unwinding limiter.answer (fun call => call.key = key)
      fun windows windows' => windows key = windows' key where
  hidden := by
    intro windows windows' call hsame hother
    rw [answer_frame (by simpa using hother), hsame]
  output := by
    intro windows windows' call hsame hmine
    obtain rfl : call.key = key := by simpa using hmine
    exact (check_congr limiter call.now hsame).1
  respects := by
    intro windows windows' call hsame hmine
    obtain rfl : call.key = key := by simpa using hmine
    exact (check_congr limiter call.now hsame).2

/-- Every stored count lies between one and the capacity. -/
def Counts (limiter : InMemoryFixedWindowRateLimiter) (windows : Windows) : Prop :=
  ∀ key start count, windows key = some (start, count) → 1 ≤ count ∧ count ≤ limiter.capacity

lemma Counts.answer (hcapacity : 1 ≤ limiter.capacity) (h : limiter.Counts windows) :
    limiter.Counts (limiter.answer windows call).2 := by
  intro key start count hstored
  by_cases hmine : call.key = key
  · subst hmine
    by_cases hended : limiter.Ended windows call.key call.now
    · rw [(answer_of_ended hcapacity hended).2] at hstored
      obtain ⟨-, rfl⟩ := Prod.mk.inj (Option.some.inj hstored)
      exact ⟨le_rfl, hcapacity⟩
    · simp only [Ended, not_forall, not_le] at hended
      obtain ⟨start', count', hkey, hopen⟩ := hended
      obtain ⟨hone, hfew⟩ := h _ _ _ hkey
      rw [(answer_within hkey hopen).2] at hstored
      obtain ⟨-, rfl⟩ := Prod.mk.inj (Option.some.inj hstored)
      split <;> omega
  · rw [answer_frame hmine] at hstored
    exact h key start count hstored

/-! ## One window -/

/-- In a window that has admitted `count` calls, the later ones fill it up. -/
lemma windowsAfter_within {key : String × String} (hmine : ∀ call ∈ calls, call.key = key)
    (hopen : ∀ call ∈ calls, call.now < start + limiter.windowSeconds)
    (hkey : windows key = some (start, count)) (hfew : count ≤ limiter.capacity) :
    limiter.windowsAfter windows calls key =
        some (start, count + (limiter.checks windows calls).countP (·.2.allowed)) ∧
      count + (limiter.checks windows calls).countP (·.2.allowed) ≤ limiter.capacity := by
  induction calls generalizing windows count with
  | nil => exact ⟨hkey, hfew⟩
  | cons call calls ih =>
    obtain ⟨rfl, hmine⟩ := List.forall_mem_cons.mp hmine
    obtain ⟨hnow, hopen⟩ := List.forall_mem_cons.mp hopen
    obtain ⟨hallowed, hafter⟩ := answer_within hkey hnow
    have ih := ih hmine hopen hafter (by split <;> omega)
    simp only [windowsAfter, finalState, checks, outputs, List.countP_cons] at ih ⊢
    by_cases hroom : count < limiter.capacity
    · simp only [hroom, if_true, hallowed.mpr hroom] at ih ⊢
      rwa [Nat.add_assoc, Nat.add_comm 1] at ih
    · have hrefused : ¬ (limiter.answer windows call).1.allowed = true :=
        fun h => hroom (hallowed.mp h)
      simp only [hroom, if_false, hrefused] at ih ⊢
      exact ih

/-- The decisions in a window: admitted until the capacity is reached, and refused from then
on. -/
structure Fills (capacity : ℕ) (window : List (RateLimitCall × RateLimitDecision)) : Prop where
  countP_le : window.countP (·.2.allowed) ≤ capacity
  refused_iff : ∀ earlier o later, window = earlier ++ o :: later →
    (o.2.allowed = false ↔ earlier.countP (·.2.allowed) = capacity)

lemma fills_window (hcapacity : 1 ≤ limiter.capacity)
    (hended : limiter.Ended windows call.key call.now)
    (hmine : ∀ call' ∈ calls, call'.key = call.key)
    (hopen : ∀ call' ∈ calls, call'.now < call.now + limiter.windowSeconds) :
    Fills limiter.capacity (limiter.checks windows (call :: calls)) := by
  obtain ⟨hallowed, hafter⟩ := answer_of_ended hcapacity hended
  have hcons : limiter.checks windows (call :: calls) =
      (call, (limiter.answer windows call).1) ::
        limiter.checks (limiter.answer windows call).2 calls := rfl
  have hcount (rest : List (RateLimitCall × RateLimitDecision)) :
      ((call, (limiter.answer windows call).1) :: rest).countP (·.2.allowed) =
        rest.countP (·.2.allowed) + 1 :=
    List.countP_cons_of_pos (p := fun o : RateLimitCall × RateLimitDecision => o.2.allowed) hallowed
  rw [hcons]
  refine ⟨?_, fun earlier o later hsplit => ?_⟩
  · have := (windowsAfter_within hmine hopen hafter hcapacity).2
    rw [hcount]
    omega
  · cases earlier with
    | nil =>
      obtain ⟨rfl, -⟩ := List.cons.inj hsplit
      simp only [hallowed, List.countP_nil, Bool.true_eq_false, false_iff]
      omega
    | cons e earlier =>
      obtain ⟨rfl, htail⟩ := List.cons.inj hsplit
      obtain ⟨before, rfl, hbefore, hmem, ho⟩ := outputs_eq_append_cons htail
      obtain ⟨hstored, hfew⟩ := windowsAfter_within
        (fun call' hmem => hmine call' (hbefore.subset hmem))
        (fun call' hmem => hopen call' (hbefore.subset hmem)) hafter hcapacity
      have hkey : limiter.windowsAfter (limiter.answer windows call).2 before o.1.key = _ :=
        hmine _ hmem ▸ hstored
      have hdecision := (answer_within hkey (hopen _ hmem)).1
      rw [windowsAfter, ← ho] at hdecision
      rw [hcount, ← Bool.not_eq_true, hdecision]
      simp only [checks] at hfew ⊢
      omega

/-! ## All windows -/

/-- The calls of one key fill its windows one after the other. -/
lemma fills_windows (hcapacity : 1 ≤ limiter.capacity)
    {key : String × String} (calls : List RateLimitCall) (windows : Windows)
    (hmine : ∀ call ∈ calls, call.key = key) (hordered : calls.Pairwise (·.now ≤ ·.now))
    (hended : ∀ call ∈ calls, limiter.Ended windows key call.now) :
    ∀ window ∈ windowsOf (fun o : RateLimitCall × RateLimitDecision => o.1.now)
      (limiter.windowSeconds : ℚ) (limiter.checks windows calls),
      Fills limiter.capacity window := by
  induction calls using windowsOf.induct RateLimitCall.now (limiter.windowSeconds : ℚ)
    generalizing windows with
  | case1 => simp [checks, outputs]
  | case2 call calls ih =>
    let opens (call' : RateLimitCall) : Bool := call'.now < call.now + limiter.windowSeconds
    obtain ⟨rfl, hmine⟩ := List.forall_mem_cons.mp hmine
    have hordered := (List.pairwise_cons.mp hordered).2
    have hopen : ∀ call' ∈ calls.takeWhile opens, call'.now < call.now + limiter.windowSeconds :=
      fun call' hmem => by simpa [opens] using List.mem_takeWhile_imp hmem
    have hsame : ∀ call' ∈ calls.takeWhile opens, call'.key = call.key :=
      fun call' hmem => hmine call' ((List.takeWhile_sublist _).subset hmem)
    have hfirst : limiter.Ended windows call.key call.now := hended call List.mem_cons_self
    have hwindows : windowsOf (fun o : RateLimitCall × RateLimitDecision => o.1.now)
          (limiter.windowSeconds : ℚ) (limiter.checks windows (call :: calls)) =
        limiter.checks windows (call :: calls.takeWhile opens) ::
          windowsOf (fun o : RateLimitCall × RateLimitDecision => o.1.now)
            (limiter.windowSeconds : ℚ) (limiter.checks
              (limiter.windowsAfter windows (call :: calls.takeWhile opens))
              (calls.dropWhile opens)) := by
      simp only [checks, outputs, windowsAfter, finalState]
      rw [windowsOf_cons, takeWhile_outputs _ opens, dropWhile_outputs _ opens]
    rw [hwindows, List.forall_mem_cons]
    refine ⟨fills_window hcapacity hfirst hsame hopen, ?_⟩
    refine ih _ (fun call' hmem => hmine call' ((List.dropWhile_sublist _).subset hmem))
      (pairwise_dropWhile hordered) fun call' hmem start count hstored => ?_
    -- the window is the one that the first call has opened
    have hafter := (windowsAfter_within hsame hopen (answer_of_ended hcapacity hfirst).2
      hcapacity).1
    have hstored : limiter.windowsAfter (limiter.answer windows call).2 (calls.takeWhile opens)
        call.key = some (start, count) := hstored
    rw [hafter] at hstored
    obtain ⟨rfl, -⟩ := Prod.mk.inj (Option.some.inj hstored)
    exact le_time_of_mem_dropWhile hordered call' hmem

/-- The decisions on the calls of one key, of a limiter that has just been built. -/
def decisionsOf (limiter : InMemoryFixedWindowRateLimiter) (calls : List RateLimitCall)
    (key : String × String) : List (RateLimitCall × RateLimitDecision) :=
  (limiter.checks (fun _ => none) calls).filter fun o => o.1.key = key

/-- They are the decisions on these calls alone. -/
lemma decisionsOf_eq (limiter : InMemoryFixedWindowRateLimiter) (calls : List RateLimitCall)
    (key : String × String) : limiter.decisionsOf calls key =
      limiter.checks (fun _ => none) (calls.filter fun call => call.key = key) :=
  (unwinding_key limiter key).purge rfl calls

/-- **The limiter bounds traffic and refuses only when it must.**  In a window of a key it admits
at most `capacity` calls, and refuses a call exactly when it has admitted `capacity` earlier calls
of the window; an interval as long as a window has at most `2 * capacity` admitted calls; other
keys' calls influence none of this; and every stored count lies between one and `capacity`. -/
theorem check_bounds (limiter : InMemoryFixedWindowRateLimiter) (hcapacity : 1 ≤ limiter.capacity)
    (calls : List RateLimitCall)
    (hordered : calls.Pairwise (·.now ≤ ·.now)) :
    (∀ key,
      (∀ window ∈ windowsOf (·.1.now) (limiter.windowSeconds : ℚ) (limiter.decisionsOf calls key),
        window.countP (·.2.allowed) ≤ limiter.capacity ∧
        ∀ earlier o later, window = earlier ++ o :: later →
          (o.2.allowed = false ↔ earlier.countP (·.2.allowed) = limiter.capacity)) ∧
      (∀ since, (limiter.decisionsOf calls key).countP
        (fun o => inInterval (·.1.now) (limiter.windowSeconds : ℚ) since o && o.2.allowed) ≤
          2 * limiter.capacity) ∧
      limiter.decisionsOf calls key =
        limiter.checks (fun _ => none) (calls.filter fun call => call.key = key)) ∧
    ∀ key start count, limiter.windowsAfter (fun _ => none) calls key = some (start, count) →
      1 ≤ count ∧ count ≤ limiter.capacity := by
  refine ⟨fun key => ?_, ?_⟩
  · have hmine : ∀ call ∈ calls.filter (fun call => call.key = key), call.key = key :=
      fun call hmem => by simpa using (List.mem_filter.mp hmem).2
    have hfills := fills_windows hcapacity _ (fun _ => none) hmine (hordered.filter _)
      (by simp [Ended])
    rw [← decisionsOf_eq] at hfills
    refine ⟨fun window hmem => ⟨(hfills window hmem).countP_le, (hfills window hmem).refused_iff⟩,
      fun since => ?_, decisionsOf_eq limiter calls key⟩
    apply countP_interval_le
    · have hcalls :
          ((limiter.checks (fun _ => none) calls).map (·.1)).Pairwise (·.now ≤ ·.now) := by
        rw [checks, map_fst_outputs]
        exact hordered
      exact (List.pairwise_map.mp hcalls).filter _
    · exact fun window hmem => (hfills window hmem).countP_le
  · exact finalState_induct (P := limiter.Counts) (fun windows call h => h.answer hcapacity)
      (by simp [Counts]) calls

/-- One request a minute. -/
def oneAMinute : InMemoryFixedWindowRateLimiter := ⟨1, 60⟩

/-- A call of the point forecast at a time. -/
def callAt (identity : String) (now : ℚ) : RateLimitCall :=
  ⟨identity, "GET /api/v1/forecast/point", now⟩

/-- The second of three calls of one client is refused. -/
theorem check_bounds_three :
    (oneAMinute.decisionsOf [callAt "ip:a" 0, callAt "ip:a" 59, callAt "ip:b" 59, callAt "ip:a" 60]
      ("ip:a", "GET /api/v1/forecast/point")).countP
        (fun o => inInterval (·.1.now) (oneAMinute.windowSeconds : ℚ) 1 o && o.2.allowed) ≤ 2 * 1 :=
  ((check_bounds oneAMinute le_rfl _ (by norm_num [callAt])).1 _).2.1 1

/-! ## Retry-After -/

/-- A refused call finds its window full and tells the whole seconds that reach its end. -/
lemma answer_refused (hcapacity : 1 ≤ limiter.capacity) {seconds : ℤ}
    (h : (limiter.answer windows call).1 = ⟨false, seconds⟩) :
    ∃ start count, windows call.key = some (start, count) ∧ limiter.capacity ≤ count ∧
      call.now < start + limiter.windowSeconds ∧
      seconds = ⌈start + limiter.windowSeconds - call.now⌉ ∧
      (limiter.answer windows call).2 = windows := by
  by_cases hended : limiter.Ended windows call.key call.now
  · have := (answer_of_ended hcapacity hended).1
    simp [h] at this
  simp only [Ended, not_forall, not_le] at hended
  obtain ⟨start, count, hkey, hopen⟩ := hended
  have hfull : limiter.capacity ≤ count := by
    have := (answer_within hkey hopen).1
    simpa [h] using this
  have hrunning : ¬ (limiter.windowSeconds : ℚ) ≤ call.now - start := by linarith
  have hstored : windows (call.identity, call.route) = some (start, count) := hkey
  have hanswer : limiter.answer windows call =
      (⟨false, max 1 ⌈(limiter.windowSeconds : ℚ) - (call.now - start)⌉⟩, windows) := by
    simp [answer, check, hstored, hrunning, hfull]
  have hleft : (limiter.windowSeconds : ℚ) - (call.now - start) =
      start + limiter.windowSeconds - call.now := by ring
  have hone : 1 ≤ ⌈start + limiter.windowSeconds - call.now⌉ := by
    rw [Int.one_le_ceil_iff]
    linarith
  rw [hanswer, hleft, max_eq_right hone] at h
  refine ⟨start, count, hkey, hfull, hopen, ?_, by rw [hanswer]⟩
  have := congrArg RateLimitDecision.retryAfterSeconds h
  simpa using this.symm

lemma answer_unchanged (hcapacity : 1 ≤ limiter.capacity)
    (h : (limiter.answer windows call).1.allowed = false) :
    (limiter.answer windows call).2 = windows := by
  have hanswer : (limiter.answer windows call).1 =
      ⟨false, (limiter.answer windows call).1.retryAfterSeconds⟩ := by rw [← h]
  obtain ⟨-, -, -, -, -, -, hsame⟩ := answer_refused hcapacity hanswer
  exact hsame

/-- A full window refuses every call of its key until it ends. -/
lemma answer_full {key : String × String} (hkey : windows key = some (start, count))
    (hfull : limiter.capacity ≤ count) (hmine : call.key = key)
    (hopen : call.now < start + limiter.windowSeconds) :
    (limiter.answer windows call).1.allowed = false := by
  subst hmine
  rw [← Bool.not_eq_true, (answer_within hkey hopen).1]
  omega

/-- Refused calls of a key and calls of other keys leave its window. -/
lemma windowsAfter_refused {key : String × String} (hcapacity : 1 ≤ limiter.capacity)
    (hrefused : ∀ o ∈ limiter.checks windows calls, o.1.key = key → o.2.allowed = false) :
    limiter.windowsAfter windows calls key = windows key := by
  induction calls generalizing windows with
  | nil => rfl
  | cons call calls ih =>
    obtain ⟨hfirst, hrest⟩ := List.forall_mem_cons.mp hrefused
    refine (ih hrest).trans ?_
    by_cases hmine : call.key = key
    · rw [answer_unchanged hcapacity (hfirst hmine)]
    · exact answer_frame hmine

/-- A full window refuses all calls of its key that come before it ends. -/
lemma checks_full {key : String × String} (hcapacity : 1 ≤ limiter.capacity)
    (hkey : windows key = some (start, count)) (hfull : limiter.capacity ≤ count)
    (hopen : ∀ call ∈ calls, call.key = key → call.now < start + limiter.windowSeconds) :
    ∀ o ∈ limiter.checks windows calls, o.1.key = key → o.2.allowed = false := by
  induction calls generalizing windows with
  | nil => simp [checks, outputs]
  | cons call calls ih =>
    obtain ⟨hfirst, hrest⟩ := List.forall_mem_cons.mp hopen
    have hanswer (hmine : call.key = key) := answer_full hkey hfull hmine (hfirst hmine)
    have hafter : (limiter.answer windows call).2 key = some (start, count) := by
      by_cases hmine : call.key = key
      · rw [answer_unchanged hcapacity (hanswer hmine), hkey]
      · rw [answer_frame hmine, hkey]
    intro o hmem
    rcases List.mem_cons.mp hmem with rfl | hmem
    · exact hanswer
    · exact ih hafter hrest o hmem

/-- **The seconds of a refusal are the least that suffice.**  They are the least positive whole
number after which the next call of the same key is admitted.  Refused calls of the key in the
meantime do not change that, nor do calls of other keys; and every call of the key until one second
before that time is refused. -/
theorem retryAfter_least (limiter : InMemoryFixedWindowRateLimiter)
    (hcapacity : 1 ≤ limiter.capacity) (windows : Windows) (call : RateLimitCall) (seconds : ℤ)
    (hrefused : (limiter.answer windows call).1 = ⟨false, seconds⟩) (between : List RateLimitCall) :
    ((∀ o ∈ limiter.checks (limiter.answer windows call).2 between,
        o.1.key = call.key → o.2.allowed = false) →
      IsLeast {later : ℤ | 0 < later ∧
        (limiter.answer (limiter.windowsAfter (limiter.answer windows call).2 between)
          (call.atTime (call.now + later))).1.allowed = true} seconds) ∧
    ((∀ other ∈ between, other.key = call.key → other.now ≤ call.now + (seconds - 1)) →
      ∀ o ∈ limiter.checks (limiter.answer windows call).2 between,
        o.1.key = call.key → o.2.allowed = false) := by
  obtain ⟨start, count, hkey, hfull, hopen, rfl, hsame⟩ := answer_refused hcapacity hrefused
  rw [hsame]
  have hceil := Int.le_ceil (start + limiter.windowSeconds - call.now)
  have hlt := Int.ceil_lt_add_one (start + limiter.windowSeconds - call.now)
  refine ⟨fun hbetween => ?_, fun hearly => ?_⟩
  · have hafter : limiter.windowsAfter windows between call.key = some (start, count) :=
      (windowsAfter_refused hcapacity hbetween).trans hkey
    refine ⟨⟨?_, ?_⟩, fun later ⟨hpositive, hallowed⟩ => ?_⟩
    · rw [Int.ceil_pos]
      linarith
    · refine (answer_of_ended hcapacity fun start' count' hstored => ?_).1
      obtain ⟨rfl, -⟩ := Prod.mk.inj (Option.some.inj (hafter.symm.trans hstored))
      show start + limiter.windowSeconds ≤
        call.now + (⌈start + limiter.windowSeconds - call.now⌉ : ℚ)
      linarith
    · by_contra hearly
      have hopen : call.now + (later : ℚ) < start + limiter.windowSeconds := by
        have := Int.lt_ceil.mp (not_le.mp hearly)
        linarith
      exact absurd (hallowed.symm.trans (answer_full hafter hfull rfl hopen))
        Bool.false_ne_true.symm
  · refine checks_full hcapacity hkey hfull fun other hmem hmine => ?_
    have := hearly other hmem hmine
    linarith

/-- After half a second of the minute, a whole minute has to be waited. -/
theorem retryAfter_least_half : IsLeast {later : ℤ | 0 < later ∧
    (oneAMinute.answer (oneAMinute.windowsAfter (oneAMinute.answer
        (oneAMinute.windowsAfter (fun _ => none) [callAt "ip:a" 0]) (callAt "ip:a" (1 / 2))).2
          [callAt "ip:a" 59])
      ((callAt "ip:a" (1 / 2)).atTime ((callAt "ip:a" (1 / 2)).now + later))).1.allowed =
        true} 60 :=
  (retryAfter_least oneAMinute le_rfl _ _ 60 (by decide +kernel) [callAt "ip:a" 59]).1
    (by decide +kernel)

end InMemoryFixedWindowRateLimiter

end Earth2Sandbox
