import Earth2Sandbox.Workers.Dispatch

/-!
# Attendance

A process that is started over what an earlier one has left finds jobs pending that no task will
take.  One worker is enough for all of them, since it takes jobs from the queue until none is
pending, and does not die as long as records are kept (`Stored`).  `Attended` says that there is
such a worker, or that one is sure to come because a job is going to be handed over that the queue
does not know.  A process without one leaves the pending jobs alone (`Worked`).

Jobs that an earlier process has left in flight are taken by no worker: once recovery has moved such
a job back to queued, it is never running again (`Parked`).
-/

namespace Earth2Sandbox

/-- The task is a worker that goes on until no job is pending. -/
def Role.works : Role → ℕ
  | draining | taken _ | claimed _ | handled _ => 1
  | _ => 0

lemma Role.Idle.works {g : Role} (h : g.Idle) : g.works = 0 := by
  cases g <;> first | rfl | cases h

/-- How often a task is going to hand job `id` over. -/
def Role.brings (id : String) (g : Role) : ℕ :=
  g.desk id (.listed .requeue) + g.desk id (.listed .handOver) + g.desk id .handing

/-- The pending jobs will be taken. -/
def Attended (v : View) (γ : List Role) : Prop :=
  v.pending = ∅ ∨ 0 < tally Role.works γ ∨
    ∃ id, 0 < tally (Role.brings id) γ ∧ id ∉ v.pending ∧ id ∉ v.inFlight

/-- Records are kept. -/
structure Stored (v : View) (γ : List Role) : Prop where
  cleaning : Role.cleaning ∉ γ
  issued : ∀ id, v.issued id = true → v.status id ≠ none

/-- The jobs that were pending in `v₀` will be taken, or nothing has happened to the queue, and no
job was created. -/
def Worked (v₀ v : View) (γ : List Role) : Prop :=
  Attended v γ ∨ v.pending = v₀.pending ∧ v.issued = v₀.issued

section Steps

variable {canonical : String → Prop} {orphans : Finset String} {v₀ v v' : View}
  {γ new : List Role} {i : ℕ} {g g' : Role}

/-! ## Records -/

/-- Only a request that deletes jobs makes a record vanish. -/
lemma Act.status_ne_none (hact : Act canonical g v v' g' new) (hg : g ≠ .cleaning)
    (hsane : g ≠ .astray) (hsane' : g' ≠ .astray) {id : String} (h : v.status id ≠ none) :
    v'.status id ≠ none := by
  have hwrite (k : String) (status : ForecastJobStatus) : (v.write k status).status id ≠ none := by
    by_cases hk : id = k
    · simp [View.write, hk]
    · simpa [View.write, hk] using h
  cases hact with
  | timeOut | requeue | cancel | create | claim | finish => exact hwrite _ _
  | delete => exact absurd rfl hg
  | dequeueStray => exact absurd rfl hsane'
  | astray => exact absurd rfl hsane
  | _ => exact h

/-- An id is issued with a record. -/
lemma Act.issued (hact : Act canonical g v v' g' new) (hsane : g ≠ .astray)
    (hsane' : g' ≠ .astray) {id : String} (h : v'.issued id = true) :
    v.issued id = true ∨ v'.status id ≠ none := by
  cases hact with
  | create _ k =>
    by_cases hk : id = k
    · exact .inr (by simp [View.write, hk])
    · exact .inl (by simpa [hk] using h)
  | dequeueStray => exact absurd rfl hsane'
  | astray => exact absurd rfl hsane
  | _ => exact .inl h

lemma Act.ne_cleaning (hact : Act canonical g v v' g' new) (hg : g ≠ .cleaning)
    (hsane : g ≠ .astray) : g' ≠ .cleaning ∧ Role.cleaning ∉ new := by
  cases hact with
  | stay => exact ⟨hg, by simp⟩
  | delete => exact absurd rfl hg
  | astray => exact absurd rfl hsane
  | _ => simp

lemma Stored.step (h : Stored v γ) (hi : γ[i]? = some g)
    (hact : Act canonical g v v' g' new) (hsane : g ≠ .astray) (hsane' : g' ≠ .astray) :
    Stored v' (γ.set i g' ++ new) := by
  have hg : g ≠ .cleaning := fun hg => h.cleaning (hg ▸ List.mem_of_getElem? hi)
  have hkeep {id : String} (h : v.status id ≠ none) : v'.status id ≠ none :=
    hact.status_ne_none hg hsane hsane' h
  obtain ⟨hg', hnew⟩ := hact.ne_cleaning hg hsane
  refine ⟨fun hmem => ?_, fun id hissued => ?_⟩
  · rcases List.mem_append.mp hmem with hmem | hmem
    · exact (List.mem_or_eq_of_mem_set hmem).elim h.cleaning hg'.symm
    · exact hnew hmem
  · exact (hact.issued hsane hsane' hissued).elim (fun hold => hkeep (h.issued id hold))
      fun hsome => hsome

lemma Stored.arrive (h : Stored v γ) (hg : g ≠ .cleaning) : Stored v (γ ++ [g]) :=
  ⟨fun hmem => (List.mem_append.mp hmem).elim h.cleaning fun hmem =>
    hg (List.mem_singleton.mp hmem).symm, h.issued⟩

/-- The record of a job that a task holds is there. -/
lemma Stored.status_of_slot (h : Stored v γ) (hinv : Dispatched canonical orphans v γ)
    (hi : γ[i]? = some g) {id : String} {s : Slot} (hs : 0 < g.slot id s) :
    v.status id ≠ none := by
  have hg : g ≠ .startup := by
    rintro rfl
    simp [Role.slot] at hs
  obtain ⟨desk, slot, hledger, haccount⟩ := hinv.accounts (hinv.listed hi hg) id
  have hslot := hledger.slot_eq hi hs
  exact h.issued id (haccount.known (.inr (.inr (.inr (by simp [hslot]))))).1

/-- What a process leaves behind, wherever it dies. -/
lemma Stored.restartable (h : Stored v γ) (hinv : Dispatched canonical orphans v γ) :
    Restartable canonical v.inFlight { v with issued := fun k => (v.status k).isSome } := by
  suffices hleft : ∀ id, (v.status id ≠ none ∨ id ∈ v.pending ∨ id ∈ v.inFlight →
      v.issued id = true ∧ canonical id) ∧
      (id ∈ v.pending → v.status id ≠ some .running ∧ id ∉ v.inFlight) by
    refine ⟨fun id hid => ?_, fun id hid => ((hleft id).2 hid).1,
      fun id hid => ((hleft id).2 hid).2, rfl⟩
    obtain ⟨hissued, hcanonical⟩ := (hleft id).1 hid
    exact ⟨Option.isSome_iff_ne_none.mpr (h.issued id hissued), hcanonical⟩
  intro id
  by_cases hlisted : Role.startup ∈ γ
  · obtain ⟨-, hrestart⟩ := hinv.restart hlisted
    exact ⟨hrestart.known id, fun hid => ⟨hrestart.idle id hid, hrestart.disjoint id hid⟩⟩
  obtain ⟨desk, slot, hledger, haccount⟩ := hinv.accounts hlisted id
  refine ⟨fun hid => haccount.known ?_, fun hid => ?_⟩
  · rcases hid with hstatus | hpending | hinFlight
    · exact .inr (.inl hstatus)
    · exact .inr (.inr (.inr (by simp [hledger.mem_pending.mp hpending])))
    · rcases haccount.inFlight.mp hinFlight with horphan | ⟨s, hs, -⟩
      · exact .inl horphan
      · exact .inr (.inr (.inr (Option.ne_none_iff_exists'.mpr ⟨s, hs⟩)))
  · obtain rfl := hledger.mem_pending.mp hid
    refine ⟨haccount.slot_fits .waiting rfl, fun hinFlight => ?_⟩
    rcases haccount.inFlight.mp hinFlight with horphan | ⟨s, hs, hne⟩
    · cases haccount.orphan horphan
    · cases hs
      exact hne rfl

/-! ## Workers -/

/-- A worker goes on, unless the queue is empty; what is not handed over is in the queue. -/
lemma Act.works (hact : Act canonical g v v' g' new) (hsane : g ≠ .astray) (hsane' : g' ≠ .astray)
    (hstored : ∀ id s, 0 < g.slot id s → v.status id ≠ none) :
    v'.pending = ∅ ∨ 0 < g'.works ∨
      v'.pending = v.pending ∧ v'.inFlight ⊆ v.inFlight ∧ g.works = 0 ∧
        ∀ id, id ∉ v.pending → id ∉ v.inFlight →
          g.brings id ≤ g'.brings id + tally (Role.brings id) new := by
  cases hact with
  | exhausted _ hpending => exact .inl hpending
  | enqueue | dequeue | release | skip | claim | finish | superseded =>
    exact .inr (.inl Nat.one_pos)
  | skipMissing _ id hnone => exact absurd hnone (hstored id .taken (by simp [Role.slot]))
  | supersededMissing _ id hnone => exact absurd hnone (hstored id .claimed (by simp [Role.slot]))
  | stay =>
    by_cases hworks : g.works = 0
    · exact .inr (.inr ⟨rfl, subset_rfl, hworks, fun _ _ _ => Nat.le_add_right _ _⟩)
    · exact .inr (.inl (Nat.pos_of_ne_zero hworks))
  | refused _ id hqueued =>
    refine .inr (.inr ⟨rfl, subset_rfl, rfl, fun k hpending hinFlight => ?_⟩)
    have hk : id ≠ k := by
      rintro rfl
      exact hqueued.elim hpending hinFlight
    simp [Role.brings, Role.desk, hk]
  | die _ id =>
    refine .inr (.inr ⟨rfl, Finset.erase_subset _ _, rfl, fun k _ _ => ?_⟩)
    simp [Role.brings, Role.desk]
  | requeueMissed | recordMissed | dequeueStray => exact absurd rfl hsane'
  | astray => exact absurd rfl hsane
  | _ =>
    refine .inr (.inr ⟨rfl, subset_rfl, rfl, fun k _ _ => ?_⟩)
    simp [Role.brings, Role.desk, List.countP_cons, tally_cons] <;> omega

lemma Attended.step (h : Attended v γ) (hi : γ[i]? = some g)
    (hact : Act canonical g v v' g' new) (hsane : g ≠ .astray) (hsane' : g' ≠ .astray)
    (hstored : ∀ id s, 0 < g.slot id s → v.status id ≠ none) :
    Attended v' (γ.set i g' ++ new) := by
  have hworks := tally_step Role.works hi g' new
  rcases hact.works hsane hsane' hstored with hempty | hpos | ⟨hpending, hinFlight, hnone, hbrings⟩
  · exact .inl hempty
  · have hle := le_tally Role.works hi
    exact .inr (.inl (by omega))
  rcases h with hempty | hpos | ⟨id, hpos, hid, hid'⟩
  · exact .inl (hpending.trans hempty)
  · exact .inr (.inl (by omega))
  · have htally := tally_step (Role.brings id) hi g' new
    have hle := hbrings id hid hid'
    exact .inr (.inr ⟨id, by omega, hpending ▸ hid, fun hmem => hid' (hinFlight hmem)⟩)

lemma Attended.arrive (h : Attended v γ) : Attended v (γ ++ [g]) := by
  refine h.imp_right (Or.imp (fun hpos => ?_) fun ⟨id, hpos, hid⟩ => ⟨id, ?_, hid⟩)
  · rw [tally_append]
    omega
  · rw [tally_append]
    omega

/-- When no task has anything left to do, nothing is pending. -/
lemma Attended.pending_eq_empty (h : Attended v γ) (hidle : ∀ g ∈ γ, g.Idle) : v.pending = ∅ := by
  rcases h with hempty | hpos | ⟨id, hpos, -⟩
  · exact hempty
  · have hnone : tally Role.works γ = 0 := tally_eq_zero fun g hg => (hidle g hg).works
    omega
  · have hnone : tally (Role.brings id) γ = 0 := tally_eq_zero fun g hg => by
      simp [Role.brings, (hidle g hg).empty.2.2.1]
    omega

/-- The queue changes only by what a worker does, and a job that is created is handed over. -/
lemma Worked.step (h : Worked v₀ v γ) (hinv : Dispatched canonical orphans v γ)
    (hstored : Stored v γ) (hi : γ[i]? = some g) (hact : Act canonical g v v' g' new)
    (hsane' : g' ≠ .astray) : Worked v₀ v' (γ.set i g' ++ new) := by
  have hsane : g ≠ .astray := fun hg => hinv.sane (hg ▸ List.mem_of_getElem? hi)
  have hslot (id : String) (s : Slot) (hs : 0 < g.slot id s) : v.status id ≠ none :=
    hstored.status_of_slot hinv hi hs
  rcases h with hattended | ⟨hpending, hissued⟩
  · exact .inl (hattended.step hi hact hsane hsane' hslot)
  have hattended (h : Attended v γ) : Worked v₀ v' (γ.set i g' ++ new) :=
    .inl (h.step hi hact hsane hsane' hslot)
  cases hact with
  | enqueue _ id regular hid hid' =>
    refine hattended (.inr (.inr ⟨id, ?_, hid, hid'⟩))
    have hle := le_tally (Role.brings id) hi
    simp only [Role.brings, Role.desk] at hle
    simp at hle
    omega
  | dequeue =>
    refine hattended (.inr (.inl ?_))
    exact Nat.lt_of_lt_of_le Nat.one_pos (le_tally Role.works hi)
  | create _ id hcanonical hnew =>
    -- the queue does not know the new job
    obtain ⟨desk, slot, hledger, haccount⟩ := hinv.accounts (hinv.listed hi (by simp)) id
    obtain ⟨horphan, -, rfl⟩ := Account.eq_none haccount (by simp [hnew])
    have htally := tally_step (Role.brings id) hi (.accepted id) []
    refine .inl (.inr (.inr ⟨id, ?_, fun hmem => ?_, fun hmem => ?_⟩))
    · simp only [Role.brings, Role.desk] at htally ⊢
      simp at htally ⊢
      omega
    · exact absurd (hledger.mem_pending.mp hmem) (by simp)
    · simpa [horphan] using haccount.inFlight.mp hmem
  | dequeueStray => exact absurd rfl hsane'
  | astray => exact absurd rfl hsane
  | _ => exact .inr ⟨hpending, hissued⟩

lemma Worked.arrive (h : Worked v₀ v γ) : Worked v₀ v (γ ++ [g]) := h.imp_left Attended.arrive

/-! ## Orphans -/

/-- How often recovery has a job on its list that may be running. -/
def Role.sees (id : String) (g : Role) : ℕ :=
  g.desk id (.listed .timeOut) + g.desk id (.listed .requeue)

/-- A job that is running will be seen to by recovery. -/
def Parked (id : String) (v : View) (γ : List Role) : Prop :=
  v.status id = some .running → Role.startup ∈ γ ∨
    0 < tally (Role.sees id) γ

/-- A job that no task has taken does not start to run, and recovery forgets none that runs. -/
lemma Act.parked (hact : Act canonical g v v' g' new) (hsane : g ≠ .astray)
    (hsane' : g' ≠ .astray) {id : String} (htaken : g.slot id .taken = 0)
    (hrunning : v'.status id = some .running) :
    v.status id = some .running ∧
      (g' = .startup ∨ g ≠ .startup ∧ g.sees id ≤ g'.sees id ∨ 0 < g'.sees id) := by
  -- a write of another status is about another job
  have hother {k : String} {status : ForecastJobStatus} (hstatus : status ≠ .running)
      (hwrite : (v.write k status).status id = some .running) : k ≠ id ∧
        v.status id = some .running := by
    by_cases hk : id = k
    · subst hk
      simp [View.write, hstatus] at hwrite
    · exact ⟨Ne.symm hk, by simpa [View.write, hk] using hwrite⟩
  have hne {status : ForecastJobStatus} (hdone : ¬ Active (some status)) : status ≠ .running :=
    fun heq => hdone (.inr (congrArg some heq))
  cases hact with
  | stay => by_cases hg : g = .startup <;> simp [hrunning, hg]
  | listed _ rest _ hactive hrest =>
    obtain ⟨duty, hmem⟩ := hactive id (.inr hrunning)
    obtain ⟨-, hduty⟩ := hrest _ hmem
    have hcount : 0 < (Role.recovering rest).desk id (.listed duty) :=
      List.countP_pos_iff.mpr ⟨_, hmem, by simp⟩
    refine ⟨hrunning, .inr (.inr ?_)⟩
    unfold Role.sees
    cases duty with
    | timeOut => omega
    | requeue => omega
    | handOver =>
      rw [hrunning] at hduty
      cases hduty
  | timeOut _ k rest status hdone =>
    obtain ⟨hk, hbefore⟩ := hother (hne hdone) hrunning
    exact ⟨hbefore, .inr (.inl (by simp [Role.sees, Role.desk, hk]))⟩
  | timeOutMissed _ k rest hdone =>
    have hk : k ≠ id := by
      rintro rfl
      exact hdone (.inr hrunning)
    exact ⟨hrunning, .inr (.inl (by simp [Role.sees, Role.desk, hk]))⟩
  | requeue _ k rest =>
    obtain ⟨hk, hbefore⟩ := hother (by simp) hrunning
    exact ⟨hbefore, .inr (.inl (by simp [Role.sees, Role.desk, hk]))⟩
  | cancel _ k status hactive hdone =>
    obtain ⟨-, hbefore⟩ := hother (hne hdone) hrunning
    exact ⟨hbefore, .inr (.inl (by simp))⟩
  | delete _ status hstatus =>
    rcases hstatus id with hsame | ⟨hnone, -⟩
    · exact ⟨hsame ▸ hrunning, .inr (.inl (by simp))⟩
    · rw [show View.status { v with status := status } id = status id from rfl, hnone] at hrunning
      cases hrunning
  | create _ k =>
    obtain ⟨-, hbefore⟩ := hother (k := k) (by simp) hrunning
    exact ⟨hbefore, .inr (.inl (by simp [Role.sees, Role.desk]))⟩
  | claim _ k =>
    have hk : id ≠ k := by
      rintro rfl
      simp [Role.slot] at htaken
    exact ⟨by simpa [View.write, hk] using hrunning, .inr (.inl (by simp [Role.sees, Role.desk]))⟩
  | finish _ k status _ hdone =>
    obtain ⟨-, hbefore⟩ := hother (hne hdone) hrunning
    exact ⟨hbefore, .inr (.inl (by simp [Role.sees, Role.desk]))⟩
  | requeueMissed | recordMissed | dequeueStray => exact absurd rfl hsane'
  | astray => exact absurd rfl hsane
  | _ => exact ⟨hrunning, .inr (.inl (by simp [Role.sees, Role.desk]))⟩

lemma Parked.step {id : String} (h : Parked id v γ) (hinv : Dispatched canonical orphans v γ)
    (hid : id ∈ orphans) (hi : γ[i]? = some g) (hact : Act canonical g v v' g' new)
    (hsane' : g' ≠ .astray) : Parked id v' (γ.set i g' ++ new) := by
  have hsane : g ≠ .astray := fun hg => hinv.sane (hg ▸ List.mem_of_getElem? hi)
  -- no task has taken the job
  have htaken : g.slot id .taken = 0 := by
    by_contra hne
    have hlisted := hinv.listed hi fun hg => hne (hg ▸ rfl)
    obtain ⟨desk, slot, hledger, haccount⟩ := hinv.accounts hlisted id
    have hslot := hledger.slot_eq hi (Nat.pos_of_ne_zero hne)
    rw [haccount.orphan hid] at hslot
    cases hslot
  intro hrunning
  obtain ⟨hbefore, hkept⟩ := hact.parked hsane hsane' htaken hrunning
  have htally := tally_step (Role.sees id) hi g' new
  have hle := le_tally (Role.sees id) hi
  rcases hkept with rfl | ⟨hg, hkept⟩ | hpos
  · have hlt := (List.getElem?_eq_some_iff.mp hi).1
    exact .inl (List.mem_append_left _ (List.mem_set hlt _))
  · rcases h hbefore with hstartup | hpos
    · exact absurd hstartup (hinv.listed hi hg)
    · exact .inr (by omega)
  · exact .inr (by omega)

lemma Parked.arrive {id : String} (h : Parked id v γ) : Parked id v (γ ++ [g]) := by
  refine fun hrunning => (h hrunning).imp (fun hmem => List.mem_append_left _ hmem) fun hpos => ?_
  rw [tally_append]
  omega

/-- When requests are served, recovery has seen to all. -/
lemma Parked.ne_running {id : String} (h : Parked id v γ) (hinv : Dispatched canonical orphans v γ)
    (hserving : v.serving = true) : v.status id ≠ some .running := by
  intro hrunning
  have honce := hinv.once
  rw [hserving, Bool.toNat_true] at honce
  rcases h hrunning with hmem | hpos
  · obtain ⟨j, hj⟩ := List.getElem?_of_mem hmem
    have hle := le_tally Role.recovers hj
    simp only [Role.recovers] at hle
    omega
  · have hnone : tally (Role.sees id) γ = 0 := by
      refine tally_eq_zero fun g hg => ?_
      obtain ⟨j, hj⟩ := List.getElem?_of_mem hg
      have hle := le_tally Role.recovers hj
      cases g with
      | recovering rest =>
        simp only [Role.recovers] at hle
        omega
      | _ => simp [Role.sees, Role.desk]
    omega

end Steps

end Earth2Sandbox
