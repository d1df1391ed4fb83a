import Earth2Sandbox.Lifecycle.Discipline

/-!
# Histories of interleaved commands

A `Trace` is a history in which every call is justified by the earlier events of its own task
and is performed on the store that the earlier events have left.  `trace_of_reaches` says that
every interleaving has produced a trace: the commands are verified one at a time
(`Command.program_follows`) and put together by the soundness theorem of the rely–guarantee
rule, the rely of a task being that its own events stay what they are.

`effect_of_perform` lists what one event of a trace can do to the records.  All results on
runs are inductions over traces with one case per effect.
-/

namespace Earth2Sandbox

variable [Runtime] {S : ForecastJobStore} {permitted : Command → Bool} {config : ServiceConfig}

/-! ## Traces -/

variable (permitted) in
/-- A history of justified calls, each performed on what the calls before it have left. -/
inductive Trace (init : S.State) : Lifecycle S → Prop
  | nil : Trace init (Lifecycle.initial init).shared
  | cons {s s' : Lifecycle S} {t : ℕ} {command : Command} {c : JobCall} {r : JobReply c}
      {input : CallInput} :
      Trace init s → permitted command = true → Justified command (own t s.history) c →
      s.perform t command c input = some (r, s') → Trace init s'

lemma perform_eq_some {i : ℕ} {command : Command} {s s' : Lifecycle S} {c : JobCall}
    {input : CallInput} {r : JobReply c} :
    s.perform i command c input = some (r, s') ↔
      r = (performStoreCall S s.store input c).1 ∧ freshReply s.issued c r = true ∧
      s' = ⟨(performStoreCall S s.store input c).2, markIssued s.issued c r,
        ⟨i, command, c, r, s.store⟩ :: s.history⟩ := by
  unfold Lifecycle.perform
  simp only [Option.ite_none_right_eq_some, Option.some.injEq, Prod.mk.injEq]
  constructor
  · rintro ⟨hfresh, rfl, rfl⟩
    exact ⟨rfl, hfresh, rfl⟩
  · rintro ⟨rfl, hfresh, rfl⟩
    exact ⟨hfresh, rfl, rfl⟩

lemma history_of_perform {i : ℕ} {command : Command} {s s' : Lifecycle S} {c : JobCall}
    {input : CallInput} {r : JobReply c} (h : s.perform i command c input = some (r, s')) :
    s'.history = ⟨i, command, c, r, s.store⟩ :: s.history := by
  obtain ⟨-, -, rfl⟩ := perform_eq_some.mp h
  rfl

lemma answers_of_perform {i : ℕ} {command : Command} {s s' : Lifecycle S} {c : JobCall}
    {input : CallInput} {r : JobReply c} (h : s.perform i command c input = some (r, s')) :
    Answers s.store c r := by
  obtain ⟨rfl, -, -⟩ := perform_eq_some.mp h
  exact ⟨input, rfl⟩

/-! ## Every interleaving produces a trace -/

/-- The contract of a task: it makes justified calls, and relies on its own events only. -/
def commandContract : Contract (Lifecycle S) (ℕ × Command) JobError JobCall JobReply Unit where
  rely g s s' := own g.1 s'.history = own g.1 s.history
  guar g s c r s' g' := g' = g ∧ Justified g.2 (own g.1 s.history) c ∧
    ∃ input, s.perform g.1 g.2 c input = some (r, s')
  post _ _ _ := True

/-- A program that follows the discipline fulfils the contract. -/
lemma safe_of_follows {t : ℕ} {command : Command} {p : JobProgram Unit}
    {mine : List (Event S)} {post : List (Event S) → Unit → Prop}
    (h : Follows t command mine p post) {s : Lifecycle S} (hmine : own t s.history = mine) :
    p.Safe commandContract ((lifecycle S config permitted).exec t command) (t, command) s := by
  induction p generalizing s mine with
  | ret a => trivial
  | raise e => trivial
  | call c next ih =>
    intro s₁ hrely r s₂ ⟨input, hperform⟩
    have hown : own t s₁.history = mine := Eq.trans hrely hmine
    refine ⟨(t, command), ⟨rfl, hown ▸ h.1, input, hperform⟩, ?_⟩
    refine ih r (h.2 s₁.store r (answers_of_perform hperform)) ?_
    rw [history_of_perform hperform, ← hown]
    exact own_cons_self _ _

/-- The invariant that joins the tasks: a trace, whose events belong to the tasks there are. -/
def TraceOf (permitted : Command → Bool) (init : S.State) (s : Lifecycle S)
    (γ : List (ℕ × Command)) : Prop :=
  Trace permitted init s ∧ (∀ e ∈ s.history, e.task < γ.length) ∧
    ∀ (i : ℕ) (g : ℕ × Command), γ[i]? = some g → g.1 = i ∧ permitted g.2 = true

lemma own_eq_nil {t : ℕ} {history : List (Event S)} (h : ∀ e ∈ history, e.task ≠ t) :
    own t history = [] :=
  List.filter_eq_nil_iff.mpr fun e he => by simpa using h e he

lemma lifecycle_verified (config : ServiceConfig) (init : S.State) :
    (lifecycle S config permitted).Verified commandContract (TraceOf permitted init) Prod.mk where
  rely_refl _ _ := rfl
  rely_trans _ _ _ _ h₁ h₂ := Eq.trans h₂ h₁
  post_stable _ _ _ _ _ _ := trivial
  interfere s γ i j g h c r s' g' hinv hi hj hij hguar := by
    obtain ⟨-, -, input, hperform⟩ := hguar
    change own h.1 s'.history = own h.1 s.history
    rw [history_of_perform hperform]
    refine own_cons_ne ?_ _
    rw [(hinv.2.2 i g hi).1, (hinv.2.2 j h hj).1]
    exact hij
  preserve s γ i g c r s' g' hinv hi hguar := by
    obtain ⟨rfl, hjust, input, hperform⟩ := hguar
    obtain ⟨htrace, htask, hghost⟩ := hinv
    obtain ⟨hlt, hget⟩ := List.getElem?_eq_some_iff.mp hi
    rw [show γ.set i g' = γ by rw [← hget, List.set_getElem_self]]
    refine ⟨htrace.cons (hghost i g' hi).2 hjust hperform, fun e he => ?_, fun j h hj => ?_⟩
    · rw [history_of_perform hperform] at he
      rcases List.mem_cons.mp he with rfl | he
      · simpa [(hghost i g' hi).1, lifecycle, System.spawnedGhosts] using hlt
      · simpa [lifecycle, System.spawnedGhosts] using htask e he
    · exact hghost j h (by simpa [lifecycle, System.spawnedGhosts] using hj)
  spawned _ _ _ _ _ _ _ _ _ _ _ _ _ hl := by simp [lifecycle] at hl
  admitted s γ command hinv hadmits := by
    obtain ⟨htrace, htask, hghost⟩ := hinv
    refine ⟨⟨htrace, fun e he => ?_, fun i g hi => ?_⟩, ?_⟩
    · have := htask e he
      simp only [List.length_append, List.length_singleton]
      omega
    · rw [List.getElem?_append] at hi
      split at hi
      · exact hghost i g hi
      · next hge =>
        obtain ⟨hlt, rfl⟩ := List.getElem?_eq_some_iff.mp hi
        simp only [List.length_singleton] at hlt
        simp only [List.getElem_singleton]
        exact ⟨by omega, hadmits⟩
    · exact safe_of_follows (command.program_follows config)
        (own_eq_nil fun e he => Nat.ne_of_lt (htask e he))
  resumed _ _ _ _ _ _ hres := by cases hres

/-- Every interleaving has produced a trace. -/
theorem trace_of_reaches {init : S.State} {cfg : LifecycleConfig S}
    (h : (lifecycle S config permitted).Reaches (Lifecycle.initial init) cfg) :
    Trace permitted init cfg.shared := by
  obtain ⟨γ, hinv, -, -⟩ := (lifecycle_verified config init).safe_of_reaches
    ⟨[], ⟨.nil, by simp [Lifecycle.initial], by simp⟩, rfl, by simp [Lifecycle.initial]⟩ h
  exact hinv.1

lemma justified_of_reaches {init : S.State} {cfg : LifecycleConfig S}
    (h : (lifecycle S config permitted).Reaches (Lifecycle.initial init) cfg)
    {i : ℕ} {command : Command} {c : JobCall} {next : JobReply c → JobProgram Unit}
    (htask : cfg.tasks[i]? = some ⟨command, .call c next⟩) {input : CallInput}
    {r : JobReply c} {s' : Lifecycle S}
    (hperform : cfg.shared.perform i command c input = some (r, s')) :
    permitted command = true ∧ Justified command (own i cfg.shared.history) c := by
  obtain ⟨γ, ⟨-, -, hghost⟩, hlen, hsafe⟩ :=
    (lifecycle_verified config init).safe_of_reaches
      ⟨[], ⟨.nil, by simp [Lifecycle.initial], by simp⟩, rfl, by simp [Lifecycle.initial]⟩ h
  have hlt : i < γ.length := hlen ▸ (List.getElem?_eq_some_iff.mp htask).1
  obtain ⟨hi, hpermitted⟩ := hghost i γ[i] (List.getElem?_eq_getElem hlt)
  obtain ⟨_, ⟨-, hjust, input', hperform'⟩, _⟩ :=
    hsafe i _ γ[i] htask (List.getElem?_eq_getElem hlt) cfg.shared rfl r s' ⟨input, hperform⟩
  -- the event that the call has recorded names the command
  have hevent := (history_of_perform hperform).symm.trans (history_of_perform hperform')
  have hcommand : command = γ[i].2 := (Event.mk.inj (List.cons.inj hevent).1).2.1
  rw [← hcommand] at hpermitted
  rw [← hcommand, hi] at hjust
  exact ⟨hpermitted, hjust⟩

/-! ## Reads -/

lemma Trace.answers {init : S.State} {s : Lifecycle S} (h : Trace permitted init s) :
    ∀ e ∈ s.history, Answers e.before e.call e.reply := by
  induction h with
  | nil => simp [Lifecycle.initial]
  | cons _ _ _ hperform ih =>
    rw [history_of_perform hperform]
    exact List.forall_mem_cons.mpr ⟨answers_of_perform hperform, ih⟩

lemma stored_of_read {e : Event S} (hanswers : Answers e.before e.call e.reply) {k : String}
    {job : ForecastJob} (hread : e.read k = some job) : S.records e.before k = some job := by
  obtain ⟨t, command, c, r, before⟩ := e
  unfold Event.read at hread
  split at hread
  · next _ _ jobId job' before heq =>
    cases heq
    obtain ⟨k', -, hrec, hid⟩ := answers_get hanswers
    split at hread
    · next hk =>
      cases hread
      rw [← hk, hid]
      exact hrec
    · cases hread
  · next _ _ jobs before heq =>
    cases heq
    have hid : job.id = k := by simpa using List.find?_some hread
    have hmem := List.mem_of_find?_eq_some hread
    obtain rfl : jobs = S.listActive before := answers_listActive hanswers
    exact hid ▸ (S.mem_listActive.mp hmem).1
  · cases hread

lemma Trace.exists_of_lastRead {init : S.State} {s : Lifecycle S} (h : Trace permitted init s)
    {t : ℕ} {k : String} {job : ForecastJob} (hread : lastRead k (own t s.history) = some job) :
    ∃ e ∈ s.history, e.read k = some job ∧ S.records e.before k = some job := by
  obtain ⟨e, he, hread⟩ := List.exists_of_findSome?_eq_some hread
  have he' := (mem_own.mp he).1
  exact ⟨e, he', hread, stored_of_read (h.answers e he') hread⟩

/-! ## Effects -/

omit [Runtime] in
@[simp] lemma GuardedWrite.id_eq {command : Command} {snapshot job : ForecastJob}
    {expected : Finset ForecastJobStatus} (h : GuardedWrite command snapshot job expected) :
    job.id = snapshot.id := by
  cases h <;> rfl

omit [Runtime] in
lemma GuardedWrite.expected_active {command : Command} {snapshot job : ForecastJob}
    {expected : Finset ForecastJobStatus} (h : GuardedWrite command snapshot job expected) :
    expected ⊆ activeJobStatuses := by
  cases h <;> decide

/-- What one event can do: nothing to the records, or a creation under an unused id, or a
guarded write, or a deletion. -/
inductive Effect (s s' : Lifecycle S) (e : Event S) : Prop
  | kept :
      S.records s'.store = S.records s.store → s'.issued = s.issued → e.committed = none →
      Effect s s' e
  | created (latitude longitude : PyFloat) (parent : Option String) (attempt : ℤ) (now : Time)
      (newId : String) (job : ForecastJob) :
      buildNewJob latitude longitude parent attempt now newId = .ok job →
      s.issued job.id = false →
      S.records s'.store = Function.update (S.records s.store) job.id (some job) →
      s'.issued = (fun k => k == job.id || s.issued k) → e.committed = none → Effect s s' e
  | written (snapshot job current : ForecastJob) (expected : Finset ForecastJobStatus)
      (now : Time) :
      lastRead snapshot.id (own e.task s.history) = some snapshot →
      GuardedWrite e.command snapshot job expected →
      (e.command.isRun = true → expected = {.running} →
        Claimed snapshot.id (own e.task s.history)) →
      S.records s.store snapshot.id = some current → current.status ∈ expected →
      e.committed = some { job with updatedAt := now } →
      S.records s'.store =
        Function.update (S.records s.store) snapshot.id (some { job with updatedAt := now }) →
      s'.issued = s.issued → Effect s s' e
  | deleted (hours : Option ℤ) (statuses : Option (List ForecastJobTerminalStatus))
      (cutoff : Time) (selected : Finset ForecastJobTerminalStatus) :
      e.command = .cleanup hours statuses → e.call = .deleteOlderThan cutoff selected →
      S.records s'.store = (S.records s.store).deleteOlderThan cutoff selected →
      s'.issued = s.issued → e.committed = none → Effect s s' e

lemma effect_of_create {s s' : Lifecycle S} {t : ℕ} {command : Command}
    {latitude longitude : PyFloat} {parent : Option String} {attempt : ℤ} {input : CallInput}
    {r : Except JobError ForecastJob}
    (hperform : s.perform t command (.create latitude longitude parent attempt) input =
      some (r, s')) :
    Effect s s' ⟨t, command, .create latitude longitude parent attempt, r, s.store⟩ := by
  obtain ⟨hr, hfresh, rfl⟩ := perform_eq_some.mp hperform
  have hreply := S.create_reply s.store latitude longitude parent attempt input.clock input.newId
  have hrecs := S.create_records s.store latitude longitude parent attempt input.clock input.newId
  obtain ⟨e, he, hcreate⟩ | ⟨job, hjob, hcreate⟩ :=
    (S.records s.store).create_cases latitude longitude parent attempt
      input.clock input.newId
  · rw [hcreate] at hreply hrecs
    obtain rfl : r = .error e := hr.trans hreply
    exact .kept hrecs rfl rfl
  · rw [hcreate] at hreply hrecs
    obtain rfl : r = .ok job := hr.trans hreply
    exact .created _ _ _ _ _ _ job hjob (by simpa [freshReply] using hfresh) hrecs rfl rfl

lemma effect_of_updateIfStatus {init : S.State} {s s' : Lifecycle S} {t : ℕ}
    {command : Command} {job : ForecastJob} {expected : Finset ForecastJobStatus}
    {input : CallInput} {r : Except JobError ForecastJob} (htrace : Trace permitted init s)
    (hjust : Justified command (own t s.history) (.updateIfStatus job expected))
    (hperform : s.perform t command (.updateIfStatus job expected) input = some (r, s')) :
    Effect s s' ⟨t, command, .updateIfStatus job expected, r, s.store⟩ := by
  obtain ⟨snapshot, hread, hwrite, hclaim⟩ := hjust
  obtain ⟨_, _, _, hstored⟩ := htrace.exists_of_lastRead hread
  have hcanonical := (S.records_id _ _ _ hstored).2
  obtain ⟨hr, -, rfl⟩ := perform_eq_some.mp hperform
  have hreply := S.updateIfStatus_reply s.store job expected input.clock
  have hrecs := S.updateIfStatus_records s.store job expected input.clock
  obtain ⟨e, hcase⟩ | ⟨k, current, hk, hcurrent, hmem, hcase⟩ :=
    (S.records s.store).updateIfStatus_cases job expected input.clock
  · rw [hcase] at hreply hrecs
    obtain rfl : r = .error e := hr.trans hreply
    exact .kept hrecs rfl rfl
  · rw [hcase] at hreply hrecs
    obtain rfl : r = _ := hr.trans hreply
    rw [hwrite.id_eq, normalizeJobId_canonical hcanonical] at hk
    obtain rfl : snapshot.id = k := Except.ok.inj hk
    have hjob : ({ job with id := snapshot.id, updatedAt := input.clock } : ForecastJob) =
        { job with updatedAt := input.clock } := by
      rw [← hwrite.id_eq]
    exact .written snapshot job current expected input.clock hread hwrite hclaim hcurrent hmem
      (congrArg some hjob) (hjob ▸ hrecs) rfl

/-- A committed record is the argument of the call with the time of the write. -/
lemma call_of_committed {init : S.State} {s s' : Lifecycle S} {t : ℕ} {command : Command}
    {c : JobCall} {r : JobReply c} {input : CallInput} (htrace : Trace permitted init s)
    (hjust : Justified command (own t s.history) c)
    (hperform : s.perform t command c input = some (r, s')) {new : ForecastJob}
    (hnew : (⟨t, command, c, r, s.store⟩ : Event S).committed = some new) :
    ∃ job expected now, c = .updateIfStatus job expected ∧ new = { job with updatedAt := now } := by
  have hanswers := answers_of_perform hperform
  cases c with
  | updateIfStatus job expected =>
    cases r with
    | error e => cases hnew
    | ok updated =>
      cases hnew
      obtain ⟨snapshot, hread, hwrite, -⟩ := hjust
      obtain ⟨_, _, _, hstored⟩ := htrace.exists_of_lastRead hread
      obtain ⟨k, _, now, hk, -, -, rfl⟩ := answers_updateIfStatus hanswers
      rw [hwrite.id_eq, normalizeJobId_canonical (S.records_id _ _ _ hstored).2] at hk
      refine ⟨job, expected, now, rfl, ?_⟩
      rw [← Except.ok.inj hk, ← hwrite.id_eq]
  | _ => cases hnew

/-- Everything an event of a trace can do. -/
theorem effect_of_perform {init : S.State} {s s' : Lifecycle S} {t : ℕ} {command : Command}
    {c : JobCall} {r : JobReply c} {input : CallInput} (htrace : Trace permitted init s)
    (hjust : Justified command (own t s.history) c)
    (hperform : s.perform t command c input = some (r, s')) :
    Effect s s' ⟨t, command, c, r, s.store⟩ := by
  cases c with
  | create latitude longitude parent attempt => exact effect_of_create hperform
  | updateIfStatus job expected => exact effect_of_updateIfStatus htrace hjust hperform
  | deleteOlderThan cutoff statuses =>
    obtain ⟨hours, selected, hcommand⟩ := hjust
    obtain ⟨-, -, rfl⟩ := perform_eq_some.mp hperform
    exact .deleted hours selected cutoff statuses hcommand rfl
      (S.deleteOlderThan_records s.store cutoff statuses) rfl rfl
  | _ =>
    obtain ⟨-, -, rfl⟩ := perform_eq_some.mp hperform
    exact .kept rfl rfl rfl

/-- Every event of a trace was performed on what the events before it had left. -/
lemma Trace.split {init : S.State} {s : Lifecycle S} (h : Trace permitted init s)
    {later earlier : List (Event S)} {e : Event S} (hs : s.history = later ++ e :: earlier) :
    ∃ s₁ s₂, Trace permitted init s₁ ∧ s₁.history = earlier ∧ e.before = s₁.store ∧
      permitted e.command = true ∧ Justified e.command (own e.task earlier) e.call ∧
      Effect s₁ s₂ e := by
  induction h generalizing later with
  | nil => simp [Lifecycle.initial] at hs
  | @cons s s' t command c r input htrace hpermitted hjust hperform ih =>
    rw [history_of_perform hperform] at hs
    cases later with
    | nil =>
      obtain ⟨rfl, rfl⟩ := List.cons.inj hs
      exact ⟨s, s', htrace, rfl, rfl, hpermitted, hjust,
        effect_of_perform htrace hjust hperform⟩
    | cons _ later => exact ih (List.cons.inj hs).2

/-- A step of the interleaving leaves the shared state alone or has the effect of its event. -/
theorem effect_of_step {init : S.State} {cfg cfg' : LifecycleConfig S}
    (h : (lifecycle S config permitted).Reaches (Lifecycle.initial init) cfg)
    {ch : Choice Command CallInput}
    (hstep : (lifecycle S config permitted).step cfg ch = some cfg') :
    cfg'.shared = cfg.shared ∨
    ∃ i input command c next r, ch = .act i input ∧
      cfg.tasks[i]? = some ⟨command, .call c next⟩ ∧
      cfg'.shared.history = ⟨i, command, c, r, cfg.shared.store⟩ :: cfg.shared.history ∧
      Effect cfg.shared cfg'.shared ⟨i, command, c, r, cfg.shared.store⟩ := by
  obtain ⟨_, -, -, rfl⟩ | ⟨i, input, command, c, next, r, s, hch, htask, hperform, rfl⟩ |
    ⟨_, _, _, _, -, -, -, rfl⟩ := System.step_cases _ hstep
  · exact .inl rfl
  · obtain ⟨-, hjust⟩ := justified_of_reaches h htask hperform
    exact .inr ⟨i, input, command, c, next, r, hch, htask, history_of_perform hperform,
      effect_of_perform (trace_of_reaches h) hjust hperform⟩
  · exact .inl rfl

/-! ## Where the data of an event come from -/

/-- Every event is allowed by `J` after the earlier events of its own task, and every task makes
allowed calls only from here on. -/
structure Recorded (J : Command → List (Event S) → JobCall → Prop) (cfg : LifecycleConfig S) :
    Prop where
  tasks : ∀ (i : ℕ) (task : Task Command JobError JobCall JobReply Unit),
    cfg.tasks[i]? = some task →
      FollowsBy J i task.label (own i cfg.shared.history) task.program fun _ _ => True
  numbered : ∀ e ∈ cfg.shared.history, e.task < cfg.tasks.length
  events : ∀ later e earlier, cfg.shared.history = later ++ e :: earlier →
    J e.command (own e.task earlier) e.call

/-- What every command keeps to by itself, every history records. -/
theorem recorded_of_reaches {J : Command → List (Event S) → JobCall → Prop}
    (hJ : ∀ (t : ℕ) (command : Command),
      FollowsBy J t command [] (command.program config) fun _ _ => True)
    {init : S.State} {cfg : LifecycleConfig S}
    (h : (lifecycle S config permitted).Reaches (Lifecycle.initial init) cfg) :
    Recorded J cfg := by
  refine h.invariant (P := Recorded J)
    ⟨by simp [Lifecycle.initial], by simp [Lifecycle.initial], by simp [Lifecycle.initial]⟩
    fun cfg cfg' ch _ hrecorded hstep => ?_
  obtain ⟨command, -, -, rfl⟩ | ⟨i, input, command, c, next, r, s, -, htask, hperform, rfl⟩ |
    ⟨_, _, _, _, -, -, hresumes, -⟩ := System.step_cases _ hstep
  · -- a new task has no events yet
    refine ⟨fun i task hi => ?_, fun e he => ?_, hrecorded.events⟩
    · rcases lt_or_ge i cfg.tasks.length with hlt | hge
      · rw [List.getElem?_append_left hlt] at hi
        exact hrecorded.tasks i task hi
      · rw [List.getElem?_append_right hge] at hi
        obtain ⟨-, rfl⟩ := List.getElem?_eq_some_iff.mp hi
        rw [own_eq_nil fun e he => Nat.ne_of_lt ((hrecorded.numbered e he).trans_le hge)]
        simp only [List.getElem_singleton]
        exact hJ i command
    · have := hrecorded.numbered e he
      simp only [List.length_append, List.length_singleton]
      omega
  · -- a call of task `i`
    have hlt : i < cfg.tasks.length := (List.getElem?_eq_some_iff.mp htask).1
    obtain ⟨hcall, hnext⟩ := hrecorded.tasks i _ htask
    have hhistory := history_of_perform hperform
    refine ⟨fun j task hj => ?_, fun e he => ?_, fun later e earlier hsplit => ?_⟩
    · simp only [lifecycle, List.map_nil, List.append_nil] at hj
      by_cases hij : i = j
      · subst hij
        rw [List.getElem?_set_self hlt] at hj
        cases hj
        rw [hhistory]
        exact own_cons_self _ _ ▸ hnext _ r (answers_of_perform hperform)
      · rw [List.getElem?_set_ne hij] at hj
        rw [hhistory, own_cons_ne hij]
        exact hrecorded.tasks j task hj
    · simp only [lifecycle, List.map_nil, List.append_nil, List.length_set]
      rw [hhistory] at he
      rcases List.mem_cons.mp he with rfl | he
      · exact hlt
      · exact hrecorded.numbered e he
    · rw [hhistory] at hsplit
      cases later with
      | nil =>
        obtain ⟨rfl, rfl⟩ := List.cons.inj hsplit
        exact hcall
      | cons _ later => exact hrecorded.events later e earlier (List.cons.inj hsplit).2
  · cases hresumes

/-- The data of every call of the history have their sources. -/
def SourcedHistory (history : List (Event S)) : Prop :=
  ∀ later e earlier, history = later ++ e :: earlier →
    Sourced e.command (own e.task earlier) e.call

lemma SourcedHistory.tail {e : Event S} {history : List (Event S)}
    (h : SourcedHistory (e :: history)) : SourcedHistory history :=
  fun later e' earlier heq => h (e :: later) e' earlier (congrArg _ heq)

lemma sourced_of_reaches {init : S.State} {cfg : LifecycleConfig S}
    (h : (lifecycle S config permitted).Reaches (Lifecycle.initial init) cfg) :
    SourcedHistory cfg.shared.history :=
  (recorded_of_reaches (fun _ command => command.program_sourced config) h).events

end Earth2Sandbox
