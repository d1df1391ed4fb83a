import Earth2Sandbox.Domain.Jobs
import Earth2Sandbox.Framework.Tally
import Mathlib.Data.Finset.Card

/-!
# The dispatch protocol

What recovery, requests and workers do to the jobs of one process, without stores, queues and
programs.  A `Role` is what a task is about to do, a `View` what the protocol sees of the shared
state, and `Act` lists the atomic actions.

Every job is on one `Desk` at most, with a task that is going to hand it over, and in one `Slot` of
the queue at most.  `Account` says how the two, the status of the job and the queue hang together:
an active job is on a desk or in a slot.  An earlier process may have left jobs in flight that no
task of this one holds; these are the `orphans`.
-/

namespace Earth2Sandbox

/-! ## Roles -/

/-- What recovery is going to do with a job. -/
inductive Duty where
  | timeOut
  | requeue
  | handOver
  deriving DecidableEq

/-- Why a job is with a task that will hand it over. -/
inductive Desk where
  | listed (duty : Duty)
  | handing
  deriving DecidableEq

/-- Where a job is in the queue. -/
inductive Slot where
  | waiting
  | taken
  | claimed
  | handled
  deriving DecidableEq

/-- What a task is about to do. -/
inductive Role where
  /-- Recovery, before it has listed the active jobs. -/
  | startup
  | recovering (rest : List (String × Duty))
  | requesting
  /-- A request that deletes jobs. -/
  | cleaning
  /-- A request that has created a job. -/
  | accepted (id : String)
  | enqueuing (id : String)
  | draining
  | taken (id : String)
  | claimed (id : String)
  /-- A worker that is done with a job; and one that dies of it. -/
  | handled (id : String)
  | raised (id : String)
  | finished
  /-- What cannot happen has happened. -/
  | astray

namespace Role

/-- How often a task has job `id` on this desk. -/
def desk (id : String) (d : Desk) : Role → ℕ
  | recovering rest => rest.countP fun entry => entry.1 = id ∧ Desk.listed entry.2 = d
  | accepted id' | enqueuing id' => if id' = id ∧ Desk.handing = d then 1 else 0
  | _ => 0

/-- How often a task holds job `id` in this slot. -/
def slot (id : String) (s : Slot) : Role → ℕ
  | taken id' => if id' = id ∧ Slot.taken = s then 1 else 0
  | claimed id' => if id' = id ∧ Slot.claimed = s then 1 else 0
  | handled id' | raised id' => if id' = id ∧ Slot.handled = s then 1 else 0
  | _ => 0

/-- The task will take a job from the queue. -/
def drains : Role → ℕ
  | draining => 1
  | _ => 0

/-- The task is recovery. -/
def recovers : Role → ℕ
  | startup | recovering _ => 1
  | _ => 0

/-- The task is a request. -/
def Requests : Role → Prop
  | requesting | cleaning | accepted _ => True
  | _ => False

/-- The task is responsible for nothing, and needs not go on. -/
def Idle : Role → Prop
  | requesting | cleaning | finished => True
  | _ => False

/-- The task holds job `id` in this slot, and does nothing else. -/
structure Holds (id : String) (s : Slot) (g : Role) : Prop where
  ne_startup : g ≠ startup
  ne_astray : g ≠ astray
  recovers : g.recovers = 0
  requests : ¬ g.Requests
  desk : ∀ k d, g.desk k d = 0
  slot : ∀ k t, g.slot k t = if id = k ∧ s = t then 1 else 0
  ne_waiting : s ≠ .waiting

lemma holds_taken (id : String) : (taken id).Holds id .taken :=
  ⟨by simp, by simp, rfl, not_false, fun _ _ => rfl, fun _ _ => rfl, by simp⟩

lemma holds_claimed (id : String) : (claimed id).Holds id .claimed :=
  ⟨by simp, by simp, rfl, not_false, fun _ _ => rfl, fun _ _ => rfl, by simp⟩

lemma holds_handled (id : String) : (handled id).Holds id .handled :=
  ⟨by simp, by simp, rfl, not_false, fun _ _ => rfl, fun _ _ => rfl, by simp⟩

lemma holds_raised (id : String) : (raised id).Holds id .handled :=
  ⟨by simp, by simp, rfl, not_false, fun _ _ => rfl, fun _ _ => rfl, by simp⟩

end Role

/-! ## Actions -/

/-- What the protocol sees of the shared state. -/
structure View where
  status : String → Option ForecastJobStatus
  issued : String → Bool
  serving : Bool
  pending : Finset String
  inFlight : Finset String
  /-- Every pending item is keyed by its job, and canonically. -/
  regular : Prop

/-- A job with this status is not done. -/
def Active (status : Option ForecastJobStatus) : Prop :=
  status = some .queued ∨ status = some .running

/-- The status of job `id` is replaced. -/
def View.write (v : View) (id : String) (status : ForecastJobStatus) : View :=
  { v with status := Function.update v.status id (some status) }

/-- The duties of recovery are in order. -/
def DutiesFit (canonical : String → Prop) (v : View) (rest : List (String × Duty)) : Prop :=
  ∀ entry ∈ rest, canonical entry.1 ∧ match entry.2 with
    | .timeOut => Active (v.status entry.1)
    | .requeue => v.status entry.1 = some .running
    | .handOver => v.status entry.1 = some .queued

/-- The actions of a task: its role and the view before and after, and the roles of the tasks it
starts.  `canonical` are the ids in canonical form. -/
inductive Act (canonical : String → Prop) : Role → View → View → Role → List Role → Prop
  | stay (g : Role) (v : View) : Act canonical g v v g []
  | listed (v : View) (rest : List (String × Duty)) :
      (rest.map Prod.fst).Nodup →
      (∀ id, Active (v.status id) → ∃ duty, (id, duty) ∈ rest) →
      DutiesFit canonical v rest →
      Act canonical .startup v v (.recovering rest) []
  | timeOut (v : View) (id : String) (rest : List (String × Duty)) (status : ForecastJobStatus) :
      ¬ Active (some status) →
      Act canonical (.recovering ((id, .timeOut) :: rest)) v (v.write id status)
        (.recovering rest) []
  | timeOutMissed (v : View) (id : String) (rest : List (String × Duty)) :
      ¬ Active (v.status id) →
      Act canonical (.recovering ((id, .timeOut) :: rest)) v v (.recovering rest) []
  | requeue (v : View) (id : String) (rest : List (String × Duty)) :
      v.status id = some .running →
      Act canonical (.recovering ((id, .requeue) :: rest)) v (v.write id .queued)
        (.recovering ((id, .handOver) :: rest)) []
  | requeueMissed (v : View) (id : String) (rest : List (String × Duty)) :
      v.status id ≠ some .running →
      Act canonical (.recovering ((id, .requeue) :: rest)) v v .astray []
  | recordMissed (v : View) (id : String) (duty : Duty) (rest : List (String × Duty)) :
      duty ≠ .handOver → v.status id = none →
      Act canonical (.recovering ((id, duty) :: rest)) v v .astray []
  | recoveryHandOver (v : View) (id : String) (rest : List (String × Duty)) :
      Act canonical (.recovering ((id, .handOver) :: rest)) v v (.recovering rest) [.enqueuing id]
  | serve (v : View) :
      Act canonical (.recovering []) v { v with serving := true } .finished []
  | cancel (v : View) (id : String) (status : ForecastJobStatus) :
      Active (v.status id) → ¬ Active (some status) →
      Act canonical .requesting v (v.write id status) .requesting []
  | delete (v : View) (status : String → Option ForecastJobStatus) :
      (∀ id, status id = v.status id ∨ status id = none ∧ ¬ Active (v.status id)) →
      Act canonical .cleaning v { v with status := status } .cleaning []
  | create (v : View) (id : String) :
      canonical id → v.issued id = false →
      Act canonical .requesting v
        { v.write id .queued with issued := fun k => k == id || v.issued k } (.accepted id) []
  | handOver (v : View) (id : String) :
      Act canonical (.accepted id) v v .finished [.enqueuing id]
  | enqueue (v : View) (id : String) (regular : Prop) :
      id ∉ v.pending → id ∉ v.inFlight → (v.regular → canonical id → regular) →
      Act canonical (.enqueuing id) v
        { v with pending := insert id v.pending, regular := regular } .draining []
  | refused (v : View) (id : String) :
      id ∈ v.pending ∨ id ∈ v.inFlight → Act canonical (.enqueuing id) v v .finished []
  | exhausted (v : View) : v.pending = ∅ → Act canonical .draining v v .finished []
  | dequeue (v : View) (id : String) (regular : Prop) :
      id ∈ v.pending → (v.regular → regular) →
      Act canonical .draining v
        { v with
          pending := v.pending.erase id
          inFlight := insert id v.inFlight
          regular := regular } (.taken id) []
  | dequeueStray (v v' : View) : ¬ v.regular → Act canonical .draining v v' .astray []
  | skip (v : View) (id : String) :
      v.status id ≠ some .queued → Act canonical (.taken id) v v (.handled id) []
  | skipMissing (v : View) (id : String) :
      v.status id = none → Act canonical (.taken id) v v (.raised id) []
  | claim (v : View) (id : String) :
      v.status id = some .queued →
      Act canonical (.taken id) v (v.write id .running) (.claimed id) []
  | finish (v : View) (id : String) (status : ForecastJobStatus) :
      v.status id = some .running → ¬ Active (some status) →
      Act canonical (.claimed id) v (v.write id status) (.handled id) []
  | superseded (v : View) (id : String) :
      v.status id ≠ some .running → Act canonical (.claimed id) v v (.handled id) []
  | supersededMissing (v : View) (id : String) :
      v.status id = none → Act canonical (.claimed id) v v (.raised id) []
  | release (v : View) (id : String) (regular : Prop) :
      (v.regular → regular) →
      Act canonical (.handled id) v
        { v with inFlight := v.inFlight.erase id, regular := regular } .draining []
  | die (v : View) (id : String) (regular : Prop) :
      (v.regular → regular) →
      Act canonical (.raised id) v
        { v with inFlight := v.inFlight.erase id, regular := regular } .finished []
  | astray (v v' : View) (g : Role) (new : List Role) : Act canonical .astray v v' g new

/-! ## The account of a job -/

/-- The desk of a job is in order. -/
def Desk.Fits (status : Option ForecastJobStatus) (slot : Option Slot) : Desk → Prop
  | listed .timeOut => status ≠ none
  | listed .requeue => status = some .running ∧ slot = none
  | listed .handOver | handing => True

/-- The slot of a job is in order. -/
def Slot.Fits (status : Option ForecastJobStatus) : Slot → Prop
  | waiting | taken => status ≠ some .running
  | claimed => status ≠ some .queued
  | handled => ¬ Active status

/-- A job that is done fits in any slot. -/
lemma Slot.fits_of_not_active {status : Option ForecastJobStatus} (h : ¬ Active status)
    (s : Slot) : s.Fits status := by
  unfold Active at h
  cases s with
  | waiting | taken => exact fun hrunning => h (.inr hrunning)
  | claimed => exact fun hqueued => h (.inl hqueued)
  | handled => exact h

/-- How the status of a job, its desk and its place in the queue hang together. -/
structure Account (orphan inFlight known : Prop) (status : Option ForecastJobStatus)
    (desk : Option Desk) (slot : Option Slot) : Prop where
  known : orphan ∨ status ≠ none ∨ desk ≠ none ∨ slot ≠ none → known
  carried : Active status → orphan ∨ desk ≠ none ∨ slot ≠ none
  running : status = some .running → orphan ∨ desk = some (.listed .timeOut) ∨
    desk = some (.listed .requeue) ∨ slot = some .claimed
  desk_fits : ∀ d ∈ desk, d.Fits status slot
  slot_fits : ∀ s ∈ slot, s.Fits status
  inFlight : inFlight ↔ orphan ∨ ∃ s ∈ slot, s ≠ .waiting
  orphan : orphan → slot = none

namespace Account

variable {orphan inFlight known : Prop} {status status' : Option ForecastJobStatus}
  {desk desk' : Option Desk} {slot : Option Slot}

/-- A job is done, and leaves its desk or stays. -/
lemma settle (h : Account orphan inFlight known status desk slot) (hdone : ¬ Active status')
    (hstatus : status' ≠ none → status ≠ none)
    (hdesk : ∀ d ∈ desk', d ∈ desk ∧ d.Fits status' slot) :
    Account orphan inFlight known status' desk' slot where
  known := by
    rintro (horphan | hsome | hsome | hsome)
    · exact h.known (.inl horphan)
    · exact h.known (.inr (.inl (hstatus hsome)))
    · obtain ⟨d, hd⟩ := Option.ne_none_iff_exists'.mp hsome
      obtain ⟨hmem, -⟩ := hdesk d hd
      exact h.known (.inr (.inr (.inl (Option.ne_none_iff_exists'.mpr ⟨d, hmem⟩))))
    · exact h.known (.inr (.inr (.inr hsome)))
  carried hactive := absurd hactive hdone
  running hrunning := absurd (.inr hrunning) hdone
  desk_fits d hd := (hdesk d hd).2
  slot_fits s _ := Slot.fits_of_not_active hdone s
  inFlight := h.inFlight
  orphan := h.orphan

/-- Recovery moves a running job back to queued. -/
lemma requeue (h : Account orphan inFlight known status (some (.listed .requeue)) slot) :
    Account orphan inFlight known (some .queued) (some (.listed .handOver)) slot where
  known _ := h.known (.inr (.inr (.inl (by simp))))
  carried _ := .inr (.inl (by simp))
  running hrunning := by cases hrunning
  desk_fits d hd := by
    cases hd
    trivial
  slot_fits s hs := by
    obtain ⟨-, hslot⟩ := h.desk_fits _ rfl
    rw [hslot] at hs
    cases hs
  inFlight := h.inFlight
  orphan := h.orphan

/-- Recovery hands a job over. -/
lemma handOver (h : Account orphan inFlight known status (some (.listed .handOver)) slot) :
    Account orphan inFlight known status (some .handing) slot where
  known _ := h.known (.inr (.inr (.inl (by simp))))
  carried _ := .inr (.inl (by simp))
  running hrunning := by simpa using h.running hrunning
  desk_fits d hd := by
    cases hd
    trivial
  slot_fits := h.slot_fits
  inFlight := h.inFlight
  orphan := h.orphan

/-- A job with a new id has no account. -/
lemma eq_none (h : Account orphan inFlight known status desk slot) (hnew : ¬ known) :
    ¬ orphan ∧ desk = none ∧ slot = none := by
  have hnot := mt h.known hnew
  simpa using ⟨fun ho => hnot (.inl ho), not_not.mp fun hd => hnot (.inr (.inr (.inl hd))),
    not_not.mp fun hs => hnot (.inr (.inr (.inr hs)))⟩

/-- A job is created. -/
lemma create (h : Account orphan inFlight known status none none) (horphan : ¬ orphan) :
    Account orphan inFlight True (some .queued) (some .handing) none where
  known _ := trivial
  carried _ := .inr (.inl (by simp))
  running hrunning := by cases hrunning
  desk_fits d hd := by
    cases hd
    trivial
  slot_fits s hs := by cases hs
  inFlight := h.inFlight
  orphan ho := absurd ho horphan

/-- A job that is not in the queue is enqueued. -/
lemma enqueue (h : Account orphan inFlight known status (some .handing) slot)
    (hwaiting : slot ≠ some .waiting) (hinFlight : ¬ inFlight) :
    slot = none ∧ Account orphan inFlight known status none (some .waiting) := by
  have horphan : ¬ orphan := fun ho => hinFlight (h.inFlight.mpr (.inl ho))
  have hslot : slot = none := by
    cases slot with
    | none => rfl
    | some s =>
      exact absurd (h.inFlight.mpr (.inr ⟨s, rfl, fun hs => hwaiting (hs ▸ rfl)⟩)) hinFlight
  subst hslot
  refine ⟨rfl, ⟨fun _ => h.known (.inr (.inr (.inl (by simp)))), fun _ => .inr (.inr (by simp)),
    fun hrunning => ?_, by simp, fun s hs => ?_, ?_, fun ho => absurd ho horphan⟩⟩
  · simpa using h.running hrunning
  · cases hs
    exact fun hrunning => by simpa [horphan] using h.running hrunning
  · simpa [horphan] using hinFlight

/-- A job that is in the queue already is left there. -/
lemma refuse (h : Account orphan inFlight known status (some .handing) slot)
    (hqueued : slot = some .waiting ∨ inFlight) :
    Account orphan inFlight known status none slot where
  known hsome := h.known (hsome.imp_right (Or.imp_right fun hrest => .inl (by simp)))
  carried _ := by
    rcases hqueued with rfl | hinFlight
    · exact .inr (.inr (by simp))
    · rcases h.inFlight.mp hinFlight with ho | ⟨s, hs, -⟩
      · exact .inl ho
      · exact .inr (.inr (Option.ne_none_iff_exists'.mpr ⟨s, hs⟩))
  running hrunning := by simpa using h.running hrunning
  desk_fits d hd := by cases hd
  slot_fits := h.slot_fits
  inFlight := h.inFlight
  orphan := h.orphan

section Slots

variable {s s' : Slot}

/-- A desk next to a slot does not depend on it. -/
lemma desk_fits_of_slot (s' : Slot) (h : Account orphan inFlight known status desk (some s))
    (hstatus : status ≠ none → status' ≠ none) : ∀ d ∈ desk, d.Fits status' (some s') := by
  intro d hd
  have hfits := h.desk_fits d hd
  cases d with
  | handing => trivial
  | listed duty =>
    cases duty with
    | timeOut => exact hstatus hfits
    | requeue => cases hfits.2
    | handOver => trivial

/-- A job moves on in the queue. -/
lemma move (h : Account orphan inFlight known status desk (some s))
    (hstatus : status ≠ none → status' ≠ none) {inFlight' : Prop}
    (hrunning : status' = some .running → s' = .claimed) (hfits : s'.Fits status')
    (hinFlight : inFlight' ↔ s' ≠ .waiting) :
    Account orphan inFlight' known status' desk (some s') where
  known _ := h.known (.inr (.inr (.inr (by simp))))
  carried _ := .inr (.inr (by simp))
  running heq := .inr (.inr (.inr (congrArg some (hrunning heq))))
  desk_fits := h.desk_fits_of_slot s' hstatus
  slot_fits t ht := by
    cases ht
    exact hfits
  inFlight := by
    have horphan : ¬ orphan := fun ho => by cases h.orphan ho
    simpa [horphan] using hinFlight
  orphan ho := by cases h.orphan ho

/-- A job leaves the queue. -/
lemma release (h : Account orphan inFlight known status desk (some .handled)) :
    Account orphan False known status desk none where
  known hsome := h.known (.inr (.inr (.inr (by simp))))
  carried hactive := absurd hactive (h.slot_fits _ rfl)
  running hrunning := absurd (.inr hrunning) (h.slot_fits _ rfl)
  desk_fits d hd := by
    have hfits := h.desk_fits_of_slot .handled (fun h => h) d hd
    cases d with
    | handing => trivial
    | listed duty =>
      cases duty with
      | timeOut => exact hfits
      | requeue => cases hfits.2
      | handOver => trivial
  slot_fits t ht := by cases ht
  inFlight := by
    have horphan : ¬ orphan := fun ho => by cases h.orphan ho
    simpa using horphan
  orphan _ := rfl

end Slots

end Account

/-! ## The ledger of the tasks -/

/-- How often job `id` waits in the queue, which no task holds. -/
def View.waiting (v : View) (id : String) (s : Slot) : ℕ :=
  if id ∈ v.pending ∧ Slot.waiting = s then 1 else 0

@[simp] lemma View.waiting_write (v : View) (id k : String) (status : ForecastJobStatus)
    (s : Slot) : (v.write id status).waiting k s = v.waiting k s := rfl

/-- What all tasks together, and the queue, have of job `id`. -/
structure Ledger (γ : List Role) (v : View) (id : String) (desk : Option Desk)
    (slot : Option Slot) : Prop where
  desk : Single (fun d => tally (Role.desk id d) γ) desk
  slot : Single (fun s => tally (Role.slot id s) γ + v.waiting id s) slot

namespace Ledger

variable {γ new : List Role} {v v' : View} {id : String} {desk desk' : Option Desk}
  {slot slot' : Option Slot} {i : ℕ} {g g' : Role}

lemma desk_eq (h : Ledger γ v id desk slot) (hi : γ[i]? = some g) {d : Desk}
    (hd : 0 < g.desk id d) : desk = some d :=
  h.desk.eq_some (Nat.lt_of_lt_of_le hd (le_tally (Role.desk id d) hi))

lemma slot_eq (h : Ledger γ v id desk slot) (hi : γ[i]? = some g) {s : Slot}
    (hs : 0 < g.slot id s) : slot = some s := by
  refine h.slot.eq_some ?_
  have hle := le_tally (Role.slot id s) hi
  omega

/-- No task holds a waiting job. -/
lemma slot_waiting (id : String) (g : Role) : g.slot id .waiting = 0 := by
  cases g <;> simp [Role.slot]

lemma mem_pending (h : Ledger γ v id desk slot) : id ∈ v.pending ↔ slot = some .waiting := by
  have hslot := h.slot .waiting
  have hnone : tally (Role.slot id .waiting) γ = 0 := tally_eq_zero fun g _ => slot_waiting id g
  simp only [hnone, View.waiting, and_true, Nat.zero_add] at hslot
  by_cases hmem : id ∈ v.pending <;> by_cases hwaiting : slot = some .waiting <;>
    simp_all

/-- One task acts and starts others. -/
lemma step (h : Ledger γ v id desk slot) (hi : γ[i]? = some g)
    (hdesk : ∀ d, g'.desk id d + tally (Role.desk id d) new + (if desk = some d then 1 else 0) =
      g.desk id d + if desk' = some d then 1 else 0)
    (hslot : ∀ s, g'.slot id s + tally (Role.slot id s) new + v'.waiting id s +
      (if slot = some s then 1 else 0) =
        g.slot id s + v.waiting id s + if slot' = some s then 1 else 0) :
    Ledger (γ.set i g' ++ new) v' id desk' slot' where
  desk := h.desk.exchange fun d => by
    have htally := tally_step (Role.desk id d) hi g' new
    have := hdesk d
    omega
  slot := h.slot.exchange fun s => by
    have htally := tally_step (Role.slot id s) hi g' new
    have := hslot s
    omega

/-- Nothing that concerns the job happens. -/
lemma frame (h : Ledger γ v id desk slot) (hi : γ[i]? = some g)
    (hdesk : ∀ d, g'.desk id d + tally (Role.desk id d) new = g.desk id d)
    (hslot : ∀ s, g'.slot id s + tally (Role.slot id s) new = g.slot id s)
    (hpending : id ∈ v'.pending ↔ id ∈ v.pending) :
    Ledger (γ.set i g' ++ new) v' id desk slot := by
  refine h.step hi (fun d => ?_) fun s => ?_
  · rw [hdesk]
  · rw [hslot]
    simp only [View.waiting, hpending]

end Ledger

/-! ## The invariant -/

/-- What an earlier process may have left behind: nothing is done by anyone. -/
structure Restartable (canonical : String → Prop) (orphans : Finset String) (v : View) : Prop where
  known : ∀ id, v.status id ≠ none ∨ id ∈ v.pending ∨ id ∈ v.inFlight →
    v.issued id = true ∧ canonical id
  idle : ∀ id ∈ v.pending, v.status id ≠ some .running
  disjoint : ∀ id ∈ v.pending, id ∉ v.inFlight
  orphans : v.inFlight = orphans

/-- The account of job `id`. -/
def View.Account (canonical : String → Prop) (orphans : Finset String) (v : View) (id : String)
    (desk : Option Desk) (slot : Option Slot) : Prop :=
  Earth2Sandbox.Account (id ∈ orphans) (id ∈ v.inFlight) (v.issued id = true ∧ canonical id)
    (v.status id) desk slot

/-- The tasks of a process, together. -/
structure Dispatched (canonical : String → Prop) (orphans : Finset String) (v : View)
    (γ : List Role) : Prop where
  regular : v.regular
  sane : Role.astray ∉ γ
  once : tally Role.recovers γ + v.serving.toNat ≤ 1
  requests : ∀ g ∈ γ, g.Requests → v.serving = true
  restart : Role.startup ∈ γ → γ = [.startup] ∧ Restartable canonical orphans v
  accounts : Role.startup ∉ γ →
    ∀ id, ∃ desk slot, Ledger γ v id desk slot ∧ v.Account canonical orphans id desk slot

namespace Dispatched

variable {canonical : String → Prop} {orphans : Finset String} {v v' : View} {γ new : List Role}
  {i : ℕ} {g g' : Role} {id : String}

/-- Once recovery has listed the jobs, no task starts up. -/
lemma listed (h : Dispatched canonical orphans v γ) (hi : γ[i]? = some g) (hg : g ≠ .startup) :
    Role.startup ∉ γ := by
  intro hmem
  obtain ⟨rfl, -⟩ := h.restart hmem
  exact hg (List.mem_singleton.mp (List.mem_of_getElem? hi))

/-- An action about one job. -/
lemma accounts_of_job (id : String)
    (haccounts : ∀ k, ∃ desk slot, Ledger γ v k desk slot ∧ v.Account canonical orphans k desk slot)
    (hi : γ[i]? = some g)
    (hview : ∀ k ≠ id, v'.status k = v.status k ∧ v'.issued k = v.issued k ∧
      (k ∈ v'.pending ↔ k ∈ v.pending) ∧ (k ∈ v'.inFlight ↔ k ∈ v.inFlight))
    (hroles : ∀ k ≠ id, (∀ d, g'.desk k d + tally (Role.desk k d) new = g.desk k d) ∧
      ∀ s, g'.slot k s + tally (Role.slot k s) new = g.slot k s)
    (hjob : ∀ desk slot, Ledger γ v id desk slot → v.Account canonical orphans id desk slot →
      ∃ desk' slot', v'.Account canonical orphans id desk' slot' ∧
        (∀ d, g'.desk id d + tally (Role.desk id d) new + (if desk = some d then 1 else 0) =
          g.desk id d + if desk' = some d then 1 else 0) ∧
        ∀ s, g'.slot id s + tally (Role.slot id s) new + v'.waiting id s +
          (if slot = some s then 1 else 0) =
            g.slot id s + v.waiting id s + if slot' = some s then 1 else 0) (k : String) :
    ∃ desk slot, Ledger (γ.set i g' ++ new) v' k desk slot ∧
      v'.Account canonical orphans k desk slot := by
  obtain ⟨desk, slot, hledger, haccount⟩ := haccounts k
  by_cases hk : k = id
  · subst hk
    obtain ⟨desk', slot', haccount', hdesk, hslot⟩ := hjob desk slot hledger haccount
    exact ⟨desk', slot', hledger.step hi hdesk hslot, haccount'⟩
  · obtain ⟨hstatus, hissued, hpending, hinFlight⟩ := hview k hk
    obtain ⟨hdesk, hslot⟩ := hroles k hk
    refine ⟨desk, slot, hledger.frame hi hdesk hslot hpending, ?_⟩
    unfold View.Account at haccount ⊢
    rw [hstatus, hissued, propext hinFlight]
    exact haccount

/-- The invariant after an action that is not the listing, given the accounts. -/
lemma of_accounts (h : Dispatched canonical orphans v γ) (hi : γ[i]? = some g)
    (hg : g ≠ .startup) (hregular : v.regular → v'.regular)
    (hg' : g' ≠ .startup ∧ g' ≠ .astray) (hnew : new = [] ∨ ∃ id, new = [.enqueuing id])
    (honce : g'.recovers + v'.serving.toNat ≤ g.recovers + v.serving.toNat)
    (hserving : v.serving = true → v'.serving = true) (hrequests : g'.Requests → g.Requests)
    (haccounts : ∀ k, ∃ desk slot, Ledger (γ.set i g' ++ new) v' k desk slot ∧
      v'.Account canonical orphans k desk slot) :
    Dispatched canonical orphans v' (γ.set i g' ++ new) := by
  have hmem {x : Role} (hx : x ∈ γ.set i g' ++ new) :
      x ∈ γ ∨ x = g' ∨ ∃ id, x = .enqueuing id := by
    rcases List.mem_append.mp hx with hx | hx
    · exact (List.mem_or_eq_of_mem_set hx).imp_right .inl
    · rcases hnew with rfl | ⟨id, rfl⟩
      · cases hx
      · exact .inr (.inr ⟨id, List.mem_singleton.mp hx⟩)
  refine ⟨hregular h.regular, fun hastray => ?_, ?_, fun x hx hrequest => ?_, fun hstartup => ?_,
    fun _ => haccounts⟩
  · rcases hmem hastray with hx | hx | ⟨id, hx⟩
    · exact h.sane hx
    · exact hg'.2 hx.symm
    · cases hx
  · have htally := tally_step Role.recovers hi g' new
    have hnone : tally Role.recovers new = 0 := by
      rcases hnew with rfl | ⟨id, rfl⟩ <;> rfl
    have := h.once
    omega
  · rcases hmem hx with hx | rfl | ⟨id, rfl⟩
    · exact hserving (h.requests x hx hrequest)
    · exact hserving (h.requests g (List.mem_of_getElem? hi) (hrequests hrequest))
    · cases hrequest
  · rcases hmem hstartup with hx | hx | ⟨id, hx⟩
    · exact absurd hx (h.listed hi hg)
    · exact absurd hx.symm hg'.1
    · cases hx

lemma enqueue (h : Dispatched canonical orphans v γ) (hi : γ[i]? = some (.enqueuing id))
    {regular : Prop} (hpending : id ∉ v.pending) (hinFlight : id ∉ v.inFlight)
    (hregular : v.regular → canonical id → regular) :
    Dispatched canonical orphans { v with pending := insert id v.pending, regular := regular }
      (γ.set i .draining ++ []) := by
  have hlisted := h.listed hi (by simp)
  have hcanonical : canonical id := by
    obtain ⟨desk, slot, hledger, haccount⟩ := h.accounts hlisted id
    obtain rfl := hledger.desk_eq (d := .handing) hi (by simp [Role.desk])
    exact (haccount.known (by simp)).2
  refine h.of_accounts hi (by simp) (fun hv => hregular hv hcanonical) (by simp) (.inl rfl)
    (Nat.le_refl _) (fun h => h) (by simp [Role.Requests]) ?_
  refine accounts_of_job id (h.accounts hlisted) hi (fun k hk => ?_) (fun k hk => ?_)
    fun desk slot hledger haccount => ?_
  · simp [hk]
  · simp [Role.desk, Role.slot, Ne.symm hk]
  · obtain rfl := hledger.desk_eq (d := .handing) hi (by simp [Role.desk])
    have hwaiting : slot ≠ some .waiting := fun hs => hpending (hledger.mem_pending.mpr hs)
    obtain ⟨rfl, haccount'⟩ := Account.enqueue haccount hwaiting hinFlight
    refine ⟨none, some .waiting, haccount', fun d => ?_, fun s => ?_⟩
    · simp [Role.desk]
    · simp [Role.slot, View.waiting, hpending]

lemma refused (h : Dispatched canonical orphans v γ) (hi : γ[i]? = some (.enqueuing id))
    (hqueued : id ∈ v.pending ∨ id ∈ v.inFlight) :
    Dispatched canonical orphans v (γ.set i .finished ++ []) := by
  have hlisted := h.listed hi (by simp)
  refine h.of_accounts hi (by simp) (fun h => h) (by simp) (.inl rfl) (Nat.le_refl _) (fun h => h)
    (by simp [Role.Requests]) ?_
  refine accounts_of_job id (h.accounts hlisted) hi (fun k hk => ?_) (fun k hk => ?_)
    fun desk slot hledger haccount => ?_
  · simp
  · simp [Role.desk, Role.slot, Ne.symm hk]
  · obtain rfl := hledger.desk_eq (d := .handing) hi (by simp [Role.desk])
    have haccount' := Account.refuse haccount (hqueued.imp_left hledger.mem_pending.mp)
    refine ⟨none, slot, haccount', fun d => ?_, fun s => ?_⟩
    · simp [Role.desk]
    · simp [Role.slot]

lemma exhausted (h : Dispatched canonical orphans v γ) (hi : γ[i]? = some .draining) :
    Dispatched canonical orphans v (γ.set i .finished ++ []) := by
  have hlisted := h.listed hi (by simp)
  refine h.of_accounts hi (by simp) (fun h => h) (by simp) (.inl rfl) (Nat.le_refl _) (fun h => h)
    (by simp [Role.Requests]) fun k => ?_
  obtain ⟨desk, slot, hledger, haccount⟩ := h.accounts hlisted k
  exact ⟨desk, slot, hledger.frame hi (fun d => rfl) (fun s => rfl) Iff.rfl, haccount⟩

lemma dequeue (h : Dispatched canonical orphans v γ) (hi : γ[i]? = some .draining)
    {regular : Prop} (hpending : id ∈ v.pending) (hregular : v.regular → regular) :
    Dispatched canonical orphans
      { v with
        pending := v.pending.erase id
        inFlight := insert id v.inFlight
        regular := regular } (γ.set i (.taken id) ++ []) := by
  have hlisted := h.listed hi (by simp)
  refine h.of_accounts hi (by simp) hregular (by simp) (.inl rfl) (Nat.le_refl _) (fun h => h)
    (by simp [Role.Requests]) ?_
  refine accounts_of_job id (h.accounts hlisted) hi (fun k hk => ?_) (fun k hk => ?_)
    fun desk slot hledger haccount => ?_
  · simp [hk]
  · simp [Role.desk, Role.slot, Ne.symm hk]
  · obtain rfl := hledger.mem_pending.mp hpending
    have hidle : v.status id ≠ some .running := haccount.slot_fits .waiting rfl
    refine ⟨desk, some .taken, ?_, fun d => ?_, fun s => ?_⟩
    · exact Account.move haccount (fun h => h) (fun hrunning => absurd hrunning hidle) hidle
        (by simp)
    · simp [Role.desk]
    · simp only [Role.slot, tally_nil, View.waiting, Finset.mem_erase, ne_eq, not_true_eq_false,
        false_and, if_false, true_and, hpending, Option.some.injEq]
      omega

lemma move (h : Dispatched canonical orphans v γ) (hi : γ[i]? = some g) {s s' : Slot}
    (hg : g.Holds id s) (hg' : g'.Holds id s') {status : String → Option ForecastJobStatus}
    (hother : ∀ k ≠ id, status k = v.status k)
    (hstatus : v.status id ≠ none → status id ≠ none)
    (hrunning : s.Fits (v.status id) → status id = some .running → s' = .claimed)
    (hfits : s.Fits (v.status id) → s'.Fits (status id)) :
    Dispatched canonical orphans { v with status := status } (γ.set i g' ++ []) := by
  have hlisted := h.listed hi hg.ne_startup
  refine h.of_accounts hi hg.ne_startup (fun h => h) ⟨hg'.ne_startup, hg'.ne_astray⟩ (.inl rfl) ?_
    (fun h => h) (fun hrequest => absurd hrequest hg'.requests) ?_
  · rw [hg'.recovers]
    exact Nat.add_le_add_right (Nat.zero_le _) _
  refine accounts_of_job id (h.accounts hlisted) hi (fun k hk => ?_) (fun k hk => ?_)
    fun desk slot hledger haccount => ?_
  · simp [hother k hk]
  · simp [hg.desk, hg'.desk, hg.slot, hg'.slot, Ne.symm hk]
  · obtain rfl := hledger.slot_eq (s := s) hi (by simp [hg.slot])
    have hslot := haccount.slot_fits s rfl
    have hflying : id ∈ v.inFlight := haccount.inFlight.mpr (.inr ⟨s, rfl, hg.ne_waiting⟩)
    refine ⟨desk, some s', ?_, fun d => ?_, fun t => ?_⟩
    · exact Account.move haccount hstatus (hrunning hslot) (hfits hslot)
        (by simp [hflying, hg'.ne_waiting])
    · simp [hg.desk, hg'.desk]
    · simp only [hg.slot, hg'.slot, tally_nil, View.waiting, true_and, Option.some.injEq]
      omega

lemma release (h : Dispatched canonical orphans v γ) (hi : γ[i]? = some g)
    (hg : g.Holds id .handled) (hg' : g' = .draining ∨ g' = .finished)
    {regular : Prop} (hregular : v.regular → regular) :
    Dispatched canonical orphans
      { v with inFlight := v.inFlight.erase id, regular := regular } (γ.set i g' ++ []) := by
  have hlisted := h.listed hi hg.ne_startup
  have hslot' (k : String) (t : Slot) : g'.slot k t = 0 := by rcases hg' with rfl | rfl <;> rfl
  have hdesk' (k : String) (d : Desk) : g'.desk k d = 0 := by rcases hg' with rfl | rfl <;> rfl
  refine h.of_accounts hi hg.ne_startup hregular ?_ (.inl rfl) ?_ (fun h => h) ?_ ?_
  · rcases hg' with rfl | rfl <;> simp
  · rcases hg' with rfl | rfl <;> simp [Role.recovers]
  · rcases hg' with rfl | rfl <;> simp [Role.Requests]
  refine accounts_of_job id (h.accounts hlisted) hi (fun k hk => ?_) (fun k hk => ?_)
    fun desk slot hledger haccount => ?_
  · simp [hk]
  · simp [hg.slot, hslot', hg.desk, hdesk', Ne.symm hk]
  · obtain rfl := hledger.slot_eq (s := .handled) hi (by simp [hg.slot])
    refine ⟨desk, none, ?_, fun d => ?_, fun t => ?_⟩
    · have haccount' := Account.release haccount
      simpa [View.Account] using haccount'
    · simp [hg.desk, hdesk']
    · simp only [hg.slot, hslot', tally_nil, View.waiting, true_and, Option.some.injEq,
        reduceCtorEq, if_false]
      omega

lemma leave (h : Dispatched canonical orphans v γ) {rest : List (String × Duty)}
    (hi : γ[i]? = some (.recovering ((id, .timeOut) :: rest)))
    {status : String → Option ForecastJobStatus} (hother : ∀ k ≠ id, status k = v.status k)
    (hdone : ¬ Active (status id)) (hstatus : status id ≠ none → v.status id ≠ none) :
    Dispatched canonical orphans { v with status := status }
      (γ.set i (.recovering rest) ++ []) := by
  have hlisted := h.listed hi (by simp)
  refine h.of_accounts hi (by simp) (fun h => h) (by simp) (.inl rfl) (Nat.le_refl _) (fun h => h)
    (by simp [Role.Requests]) ?_
  refine accounts_of_job id (h.accounts hlisted) hi (fun k hk => ?_) (fun k hk => ?_)
    fun desk slot hledger haccount => ?_
  · simp [hother k hk]
  · simp [Role.desk, Role.slot, Ne.symm hk]
  · obtain rfl := hledger.desk_eq (d := .listed .timeOut) hi (by simp [Role.desk])
    refine ⟨none, slot, Account.settle haccount hdone hstatus (by simp), fun d => ?_, fun s => ?_⟩
    · simp [Role.desk, List.countP_cons]
    · simp [Role.slot, View.waiting]

lemma requeue (h : Dispatched canonical orphans v γ) {rest : List (String × Duty)}
    (hi : γ[i]? = some (.recovering ((id, .requeue) :: rest))) :
    Dispatched canonical orphans (v.write id .queued)
      (γ.set i (.recovering ((id, .handOver) :: rest)) ++ []) := by
  have hlisted := h.listed hi (by simp)
  refine h.of_accounts hi (by simp) (fun h => h) (by simp) (.inl rfl) (Nat.le_refl _) (fun h => h)
    (by simp [Role.Requests]) ?_
  refine accounts_of_job id (h.accounts hlisted) hi (fun k hk => ?_) (fun k hk => ?_)
    fun desk slot hledger haccount => ?_
  · simp [View.write, hk]
  · simp [Role.desk, Role.slot, Ne.symm hk]
  · obtain rfl := hledger.desk_eq (d := .listed .requeue) hi (by simp [Role.desk])
    refine ⟨some (.listed .handOver), slot, ?_, fun d => ?_, fun s => ?_⟩
    · simpa [View.Account, View.write] using Account.requeue haccount
    · simp only [Role.desk, List.countP_cons, tally_nil, Option.some.injEq, true_and,
        decide_eq_true_eq]
      omega
    · simp [Role.slot]

lemma recoveryHandOver (h : Dispatched canonical orphans v γ) {rest : List (String × Duty)}
    (hi : γ[i]? = some (.recovering ((id, .handOver) :: rest))) :
    Dispatched canonical orphans v (γ.set i (.recovering rest) ++ [.enqueuing id]) := by
  have hlisted := h.listed hi (by simp)
  refine h.of_accounts hi (by simp) (fun h => h) (by simp) (.inr ⟨id, rfl⟩) (Nat.le_refl _)
    (fun h => h) (by simp [Role.Requests]) ?_
  refine accounts_of_job id (h.accounts hlisted) hi (fun k hk => ?_) (fun k hk => ?_)
    fun desk slot hledger haccount => ?_
  · simp
  · simp [Role.desk, Role.slot, Ne.symm hk]
  · obtain rfl := hledger.desk_eq (d := .listed .handOver) hi (by simp [Role.desk])
    refine ⟨some .handing, slot, Account.handOver haccount, fun d => ?_, fun s => ?_⟩
    · simp only [Role.desk, List.countP_cons, tally_cons, tally_nil, Option.some.injEq, true_and,
        decide_eq_true_eq]
      omega
    · simp [Role.slot]

lemma serve (h : Dispatched canonical orphans v γ) (hi : γ[i]? = some (.recovering [])) :
    Dispatched canonical orphans { v with serving := true } (γ.set i .finished ++ []) := by
  have hlisted := h.listed hi (by simp)
  have hserving : v.serving = false := by
    have hle := le_tally Role.recovers hi
    have honce := h.once
    cases hs : v.serving with
    | false => rfl
    | true =>
      rw [hs] at honce
      simp only [Role.recovers, Bool.toNat_true] at hle honce
      omega
  refine h.of_accounts hi (by simp) (fun h => h) (by simp) (.inl rfl) ?_ (fun _ => rfl)
    (by simp [Role.Requests]) fun k => ?_
  · simp [Role.recovers, hserving]
  · obtain ⟨desk, slot, hledger, haccount⟩ := h.accounts hlisted k
    exact ⟨desk, slot, hledger.frame hi (fun d => rfl) (fun s => rfl) Iff.rfl, haccount⟩

/-- When requests are served, no job is listed any more. -/
lemma desk_eq_handing (h : Dispatched canonical orphans v γ) (hi : γ[i]? = some g)
    (hg : g.Requests) {desk : Option Desk} {slot : Option Slot} {k : String}
    (hledger : Ledger γ v k desk slot) : ∀ d ∈ desk, d = .handing := by
  have hserving := h.requests g (List.mem_of_getElem? hi) hg
  have hnone : tally Role.recovers γ = 0 := by
    have honce := h.once
    rw [hserving, Bool.toNat_true] at honce
    omega
  intro d hd
  cases d with
  | handing => rfl
  | listed duty =>
    have hdesk : tally (Role.desk k (.listed duty)) γ = _ := hledger.desk (.listed duty)
    have hzero : tally (Role.desk k (.listed duty)) γ = 0 := by
      refine tally_eq_zero fun x hx => ?_
      obtain ⟨j, hj⟩ := List.getElem?_of_mem hx
      have hle := le_tally Role.recovers hj
      cases x with
      | recovering rest =>
        simp only [Role.recovers] at hle
        omega
      | _ => simp [Role.desk]
    rw [hzero, if_pos (Option.mem_def.mp hd)] at hdesk
    cases hdesk

lemma settle (h : Dispatched canonical orphans v γ) (hi : γ[i]? = some g) (hg : g.Requests)
    {status : String → Option ForecastJobStatus}
    (hstatus : ∀ k, status k = v.status k ∨
      ¬ Active (status k) ∧ (status k ≠ none → v.status k ≠ none)) :
    Dispatched canonical orphans { v with status := status } (γ.set i g ++ []) := by
  have hne : g ≠ .startup ∧ g ≠ .astray := by cases g <;> simp_all [Role.Requests]
  have hlisted := h.listed hi hne.1
  refine h.of_accounts hi hne.1 (fun h => h) hne (.inl rfl) (Nat.le_refl _) (fun h => h)
    (fun h => h) fun k => ?_
  obtain ⟨desk, slot, hledger, haccount⟩ := h.accounts hlisted k
  refine ⟨desk, slot, hledger.frame hi (fun d => rfl) (fun s => rfl) Iff.rfl, ?_⟩
  rcases hstatus k with hsame | ⟨hdone, hsome⟩
  · unfold View.Account at haccount ⊢
    rw [show ({ v with status := status } : View).status k = v.status k from hsame]
    exact haccount
  · refine Account.settle haccount hdone hsome fun d hd => ⟨hd, ?_⟩
    obtain rfl := h.desk_eq_handing hi hg hledger d hd
    trivial

lemma create (h : Dispatched canonical orphans v γ) (hi : γ[i]? = some .requesting)
    (hcanonical : canonical id) (hnew : v.issued id = false) :
    Dispatched canonical orphans
      { v.write id .queued with issued := fun k => k == id || v.issued k }
      (γ.set i (.accepted id) ++ []) := by
  have hlisted := h.listed hi (by simp)
  refine h.of_accounts hi (by simp) (fun h => h) (by simp) (.inl rfl) (Nat.le_refl _) (fun h => h)
    (by simp [Role.Requests]) ?_
  refine accounts_of_job id (h.accounts hlisted) hi (fun k hk => ?_) (fun k hk => ?_)
    fun desk slot hledger haccount => ?_
  · simp [View.write, hk]
  · simp [Role.desk, Role.slot, Ne.symm hk]
  · obtain ⟨horphan, rfl, rfl⟩ := Account.eq_none haccount (by simp [hnew])
    refine ⟨some .handing, none, ?_, fun d => ?_, fun s => ?_⟩
    · simpa [View.Account, View.write, hcanonical] using Account.create haccount horphan
    · simp [Role.desk]
    · rfl

lemma handOver (h : Dispatched canonical orphans v γ) (hi : γ[i]? = some (.accepted id)) :
    Dispatched canonical orphans v (γ.set i .finished ++ [.enqueuing id]) := by
  have hlisted := h.listed hi (by simp)
  refine h.of_accounts hi (by simp) (fun h => h) (by simp) (.inr ⟨id, rfl⟩) (Nat.le_refl _)
    (fun h => h) (by simp [Role.Requests]) fun k => ?_
  obtain ⟨desk, slot, hledger, haccount⟩ := h.accounts hlisted k
  refine ⟨desk, slot, hledger.frame hi (fun d => ?_) (fun s => ?_) Iff.rfl, haccount⟩
  · simp [Role.desk]
  · simp [Role.slot]

/-- In a listing without repeated ids a job has one duty at most. -/
lemma exists_desk {rest : List (String × Duty)} (h : (rest.map Prod.fst).Nodup) (id : String) :
    ∃ desk, Single (fun d => (Role.recovering rest).desk id d) desk ∧
      ∀ d, desk = some d ↔ ∃ duty, d = .listed duty ∧ (id, duty) ∈ rest := by
  induction rest with
  | nil => exact ⟨none, fun d => rfl, by simp⟩
  | cons entry rest ih =>
    obtain ⟨hfirst, hrest⟩ := List.nodup_cons.mp h
    obtain ⟨desk, hsingle, hdesk⟩ := ih hrest
    by_cases hid : entry.1 = id
    · -- the rest has nothing of this job
      have hnone : desk = none := by
        cases desk with
        | none => rfl
        | some d =>
          obtain ⟨duty, -, hmem⟩ := (hdesk d).mp rfl
          exact absurd (hid ▸ List.mem_map_of_mem hmem) hfirst
      refine ⟨some (.listed entry.2), hsingle.exchange fun d => ?_, fun d => ⟨?_, ?_⟩⟩
      · simp [hnone, Role.desk, List.countP_cons, hid]
      · rintro ⟨⟩
        exact ⟨entry.2, rfl, by rw [← hid]; exact List.mem_cons_self⟩
      · rintro ⟨duty, rfl, hmem⟩
        rcases List.mem_cons.mp hmem with heq | hmem
        · rw [← heq]
        · exact absurd (hid ▸ List.mem_map_of_mem hmem) hfirst
    · refine ⟨desk, hsingle.exchange fun d => ?_, fun d => (hdesk d).trans ?_⟩
      · simp [Role.desk, hid]
      · have hne (duty : Duty) : (id, duty) ≠ entry := fun heq => hid (heq ▸ rfl)
        simp [List.mem_cons, hne]

/-- The account of a job that recovery has just listed, or not. -/
lemma account_of_restart (h : Restartable canonical orphans v) {rest : List (String × Duty)}
    (hactive : ∀ id, Active (v.status id) → ∃ duty, (id, duty) ∈ rest)
    (hrest : DutiesFit canonical v rest) {desk : Option Desk}
    (hdesk : ∀ d, desk = some d ↔ ∃ duty, d = .listed duty ∧ (id, duty) ∈ rest) :
    v.Account canonical orphans id desk (if id ∈ v.pending then some .waiting else none) := by
  have hlisted {d : Desk} (hd : desk = some d) :
      ∃ duty, d = .listed duty ∧ (id, duty) ∈ rest ∧ Active (v.status id) := by
    obtain ⟨duty, rfl, hmem⟩ := (hdesk d).mp hd
    obtain ⟨-, hduty⟩ := hrest _ hmem
    refine ⟨duty, rfl, hmem, ?_⟩
    cases duty with
    | timeOut => exact hduty
    | requeue => exact .inr hduty
    | handOver => exact .inl hduty
  have hexists (hid : Active (v.status id)) :
      ∃ duty, desk = some (.listed duty) ∧ (id, duty) ∈ rest := by
    obtain ⟨duty, hmem⟩ := hactive id hid
    exact ⟨duty, (hdesk _).mpr ⟨duty, rfl, hmem⟩, hmem⟩
  refine ⟨fun hknown => h.known id ?_, fun hid => ?_, fun hrunning => ?_, fun d hd => ?_,
    fun s hs => ?_, ?_, fun horphan => ?_⟩
  · rcases hknown with horphan | hsome | hsome | hsome
    · exact .inr (.inr (h.orphans ▸ horphan))
    · exact .inl hsome
    · obtain ⟨d, hd⟩ := Option.ne_none_iff_exists'.mp hsome
      obtain ⟨-, -, -, hid⟩ := hlisted hd
      refine .inl fun hnone => ?_
      simp [Active, hnone] at hid
    · exact .inr (.inl (by simpa using hsome))
  · obtain ⟨duty, hd, -⟩ := hexists hid
    exact .inr (.inl (by simp [hd]))
  · obtain ⟨duty, hd, hmem⟩ := hexists (.inr hrunning)
    cases duty with
    | timeOut => exact .inr (.inl hd)
    | requeue => exact .inr (.inr (.inl hd))
    | handOver =>
      obtain ⟨-, hqueued⟩ := hrest _ hmem
      rw [hrunning] at hqueued
      cases hqueued
  · obtain ⟨duty, rfl, hmem, hid⟩ := hlisted hd
    cases duty with
    | timeOut =>
      intro hnone
      simp [Active, hnone] at hid
    | requeue =>
      obtain ⟨-, hrunning⟩ := hrest _ hmem
      refine ⟨hrunning, if_neg fun hpending => ?_⟩
      exact h.idle id hpending hrunning
    | handOver => trivial
  · by_cases hpending : id ∈ v.pending
    · obtain rfl : Slot.waiting = s := by simpa [hpending] using hs
      exact h.idle id hpending
    · simp [hpending] at hs
  · rw [h.orphans]
    by_cases hpending : id ∈ v.pending <;> simp [hpending]
  · exact if_neg fun hpending => h.disjoint id hpending (h.orphans ▸ horphan)

lemma list (h : Dispatched canonical orphans v γ) (hi : γ[i]? = some .startup)
    {rest : List (String × Duty)} (hnodup : (rest.map Prod.fst).Nodup)
    (hactive : ∀ id, Active (v.status id) → ∃ duty, (id, duty) ∈ rest)
    (hrest : DutiesFit canonical v rest) :
    Dispatched canonical orphans v (γ.set i (.recovering rest) ++ []) := by
  have honce := h.once
  obtain ⟨rfl, hrestart⟩ := h.restart (List.mem_of_getElem? hi)
  obtain rfl : i = 0 := by
    have := (List.getElem?_eq_some_iff.mp hi).1
    simpa using this
  refine ⟨h.regular, by simp, honce, by simp [Role.Requests], by simp, fun _ id => ?_⟩
  obtain ⟨desk, hsingle, hdesk⟩ := exists_desk hnodup id
  refine ⟨desk, _, ⟨hsingle, fun s => ?_⟩, account_of_restart hrestart hactive hrest hdesk⟩
  by_cases hpending : id ∈ v.pending <;> simp [Role.slot, View.waiting, hpending]

lemma started (hrestart : Restartable canonical orphans v) (hregular : v.regular)
    (hserving : v.serving = false) : Dispatched canonical orphans v [.startup] where
  regular := hregular
  sane := by simp
  once := by simp [Role.recovers, hserving]
  requests := by simp [Role.Requests]
  restart _ := ⟨rfl, hrestart⟩
  accounts hnot := absurd (List.mem_singleton.mpr rfl) hnot

lemma arrive (h : Dispatched canonical orphans v γ) (hserving : v.serving = true)
    (hg : g = .requesting ∨ g = .cleaning) : Dispatched canonical orphans v (γ ++ [g]) := by
  have hlisted : Role.startup ∉ γ := by
    intro hmem
    obtain ⟨rfl, -⟩ := h.restart hmem
    have honce := h.once
    simp [Role.recovers, hserving] at honce
  have hmem {x : Role} (hx : x ∈ γ ++ [g]) : x ∈ γ ∨ x = g :=
    (List.mem_append.mp hx).imp_right List.mem_singleton.mp
  refine ⟨h.regular, fun hastray => ?_, ?_, fun x hx hrequest => hserving, fun hstartup => ?_,
    fun _ k => ?_⟩
  · rcases hmem hastray with hx | hx
    · exact h.sane hx
    · rcases hg with rfl | rfl <;> cases hx
  · have honce := h.once
    rw [tally_append]
    rcases hg with rfl | rfl <;> exact honce
  · rcases hmem hstartup with hx | hx
    · exact absurd hx hlisted
    · rcases hg with rfl | rfl <;> cases hx
  · obtain ⟨desk, slot, hledger, haccount⟩ := h.accounts hlisted k
    refine ⟨desk, slot, ⟨hledger.desk.exchange fun d => ?_, hledger.slot.exchange fun s => ?_⟩,
      haccount⟩
    · simp only [tally_append]
      rcases hg with rfl | rfl <;> rfl
    · simp only [tally_append]
      rcases hg with rfl | rfl <;> rfl

/-- **Step.**  Every action keeps the invariant. -/
theorem step (h : Dispatched canonical orphans v γ) (hi : γ[i]? = some g)
    (hact : Act canonical g v v' g' new) : Dispatched canonical orphans v' (γ.set i g' ++ new) := by
  have hsane : g ≠ .astray := fun hg => h.sane (hg ▸ List.mem_of_getElem? hi)
  -- what recovery has listed is still as it was
  have hduty {duty : Duty} {id : String} {rest : List (String × Duty)}
      (hi : γ[i]? = some (.recovering ((id, duty) :: rest))) :
      ∃ slot, (Desk.listed duty).Fits (v.status id) slot := by
    obtain ⟨desk, slot, hledger, haccount⟩ := h.accounts (h.listed hi (by simp)) id
    obtain rfl := hledger.desk_eq (d := .listed duty) hi (by simp [Role.desk])
    exact ⟨slot, haccount.desk_fits _ rfl⟩
  cases hact with
  | stay =>
    obtain ⟨hlength, rfl⟩ := List.getElem?_eq_some_iff.mp hi
    rw [List.append_nil, List.set_getElem_self hlength]
    exact h
  | listed _ rest hnodup hactive hrest => exact h.list hi hnodup hactive hrest
  | timeOut _ id rest status hdone =>
    exact h.leave hi (fun k hk => Function.update_of_ne hk _ _)
      (by rwa [Function.update_self]) fun _ => by
        obtain ⟨slot, hfits⟩ := hduty hi
        exact hfits
  | timeOutMissed _ id rest hdone => exact h.leave hi (fun _ _ => rfl) hdone fun hsome => hsome
  | requeue _ id rest _ => exact h.requeue hi
  | requeueMissed _ id rest hmissed =>
    obtain ⟨slot, hrunning, -⟩ := hduty hi
    exact absurd hrunning hmissed
  | recordMissed _ id duty rest hne hnone =>
    obtain ⟨slot, hfits⟩ := hduty hi
    cases duty with
    | timeOut => exact absurd hnone hfits
    | requeue =>
      rw [hnone] at hfits
      cases hfits.1
    | handOver => exact absurd rfl hne
  | recoveryHandOver _ id rest => exact h.recoveryHandOver hi
  | serve _ => exact h.serve hi
  | cancel _ id status hactive hdone =>
    refine h.settle hi trivial fun k => ?_
    by_cases hk : k = id
    · subst hk
      refine .inr ⟨by rwa [Function.update_self], fun _ hnone => ?_⟩
      simp [Active, hnone] at hactive
    · exact .inl (Function.update_of_ne hk _ _)
  | delete _ status hstatus =>
    refine h.settle hi trivial fun k => (hstatus k).imp_right fun ⟨hnone, _⟩ => ?_
    simp [hnone, Active]
  | create _ id hcanonical hnew => exact h.create hi hcanonical hnew
  | handOver _ id => exact h.handOver hi
  | enqueue _ id regular hpending hinFlight hregular =>
    exact h.enqueue hi hpending hinFlight hregular
  | refused _ id hqueued => exact h.refused hi hqueued
  | exhausted _ => exact h.exhausted hi
  | dequeue _ id regular hpending hregular => exact h.dequeue hi hpending hregular
  | dequeueStray _ _ hstray => exact absurd h.regular hstray
  | skip _ id hskip =>
    refine h.move hi (Role.holds_taken id) (Role.holds_handled id) (fun _ _ => rfl) (fun h => h)
      (fun hidle hrunning => absurd hrunning hidle) fun hidle => ?_
    exact fun hactive => hactive.elim hskip hidle
  | skipMissing _ id hnone =>
    refine h.move hi (Role.holds_taken id) (Role.holds_raised id) (fun _ _ => rfl) (fun h => h)
      (fun hidle hrunning => absurd hrunning hidle) fun _ => ?_
    simp [Slot.Fits, Active, hnone]
  | claim _ id hqueued =>
    refine h.move hi (Role.holds_taken id) (Role.holds_claimed id)
      (fun k hk => Function.update_of_ne hk _ _) (by simp) (fun _ _ => rfl) fun _ => ?_
    simp [Slot.Fits]
  | finish _ id status hrunning hdone =>
    refine h.move hi (Role.holds_claimed id) (Role.holds_handled id)
      (fun k hk => Function.update_of_ne hk _ _) (by simp) (fun _ hrun => ?_) fun _ => ?_
    · rw [Function.update_self] at hrun
      exact absurd (.inr hrun) hdone
    · rwa [Function.update_self]
  | superseded _ id hsuperseded =>
    refine h.move hi (Role.holds_claimed id) (Role.holds_handled id) (fun _ _ => rfl) (fun h => h)
      (fun _ hrunning => absurd hrunning hsuperseded) fun hclaimed => ?_
    exact fun hactive => hactive.elim hclaimed hsuperseded
  | supersededMissing _ id hnone =>
    refine h.move hi (Role.holds_claimed id) (Role.holds_raised id) (fun _ _ => rfl) (fun h => h)
      (fun _ hrunning => by simp [hnone] at hrunning) fun _ => ?_
    simp [Slot.Fits, Active, hnone]
  | release _ id regular hregular => exact h.release hi (Role.holds_handled id) (.inl rfl) hregular
  | die _ id regular hregular => exact h.release hi (Role.holds_raised id) (.inr rfl) hregular
  | astray => exact absurd rfl hsane

end Dispatched

/-! ## Staff -/

/-- For every pending job there is a task that will take one. -/
def Staffed (v : View) (γ : List Role) : Prop := v.pending.card ≤ tally Role.drains γ

section Staff

variable {canonical : String → Prop} {v v' : View} {γ new : List Role} {i : ℕ} {g g' : Role}

/-- An enqueuer becomes a drainer, and a drainer stops with an empty queue or goes with a job that
it has taken. -/
lemma Act.drains (hact : Act canonical g v v' g' new) (hsane : g ≠ .astray) (hregular : v.regular) :
    v'.pending = ∅ ∨
      v'.pending.card + g.drains ≤ v.pending.card + g'.drains + tally Role.drains new := by
  cases hact with
  | enqueue _ id regular hpending =>
    have hcard := Finset.card_insert_of_notMem hpending
    simp only [Role.drains, tally_nil]
    omega
  | dequeue _ id regular hpending =>
    have hcard := Finset.card_erase_add_one hpending
    simp only [Role.drains, tally_nil]
    omega
  | exhausted _ hpending => exact .inl hpending
  | dequeueStray _ _ hstray => exact absurd hregular hstray
  | astray => exact absurd rfl hsane
  | _ => simp [Role.drains, View.write]

lemma Staffed.step (h : Staffed v γ) (hi : γ[i]? = some g) (hact : Act canonical g v v' g' new)
    (hsane : g ≠ .astray) (hregular : v.regular) : Staffed v' (γ.set i g' ++ new) := by
  have htally := tally_step Role.drains hi g' new
  unfold Staffed at h ⊢
  rcases hact.drains hsane hregular with hempty | hcard
  · rw [hempty, Finset.card_empty]
    exact Nat.zero_le _
  · omega

lemma Staffed.arrive (h : Staffed v γ) : Staffed v (γ ++ [g]) := by
  unfold Staffed at h ⊢
  rw [tally_append]
  omega

end Staff

/-! ## The end -/

/-- A task that needs not go on has nothing. -/
lemma Role.Idle.empty {g : Role} (h : g.Idle) :
    g ≠ .startup ∧ g.drains = 0 ∧ (∀ id d, g.desk id d = 0) ∧ ∀ id s, g.slot id s = 0 := by
  cases g <;> simp_all [Role.Idle, Role.drains, Role.desk, Role.slot]

/-- When no task has anything left to do, an active job is an orphan or pending, and nothing but the
orphans is in flight. -/
lemma Dispatched.leftover {canonical : String → Prop} {orphans : Finset String} {v : View}
    {γ : List Role} (h : Dispatched canonical orphans v γ) (hidle : ∀ g ∈ γ, g.Idle) :
    (∀ id, Active (v.status id) → id ∈ orphans ∨ id ∈ v.pending) ∧ v.inFlight = orphans := by
  have hlisted : Role.startup ∉ γ := fun hmem => (hidle _ hmem).empty.1 rfl
  have haccount (id : String) :
      v.Account canonical orphans id none (if id ∈ v.pending then some .waiting else none) := by
    obtain ⟨desk, slot, hledger, haccount⟩ := h.accounts hlisted id
    obtain rfl : desk = none := by
      refine Option.eq_none_iff_forall_ne_some.mpr fun d hd => ?_
      have hcount : tally (Role.desk id d) γ = _ := hledger.desk d
      rw [tally_eq_zero fun g hg => (hidle g hg).empty.2.2.1 id d, if_pos hd] at hcount
      cases hcount
    obtain rfl : slot = if id ∈ v.pending then some .waiting else none := by
      by_cases hmem : id ∈ v.pending
      · rw [if_pos hmem]
        exact hledger.mem_pending.mp hmem
      · rw [if_neg hmem]
        refine Option.eq_none_iff_forall_ne_some.mpr fun s hs => ?_
        have hcount : tally (Role.slot id s) γ + v.waiting id s = _ := hledger.slot s
        rw [tally_eq_zero fun g hg => (hidle g hg).empty.2.2.2 id s, if_pos hs] at hcount
        simp [View.waiting, hmem] at hcount
    exact haccount
  refine ⟨fun id hactive => ?_, Finset.ext fun id => (haccount id).inFlight.trans ?_⟩
  · rcases (haccount id).carried hactive with horphan | hdesk | hslot
    · exact .inl horphan
    · exact absurd rfl hdesk
    · exact .inr (by simpa using hslot)
  · by_cases hmem : id ∈ v.pending <;> simp [hmem]

/-- **End.**  When no task has anything left to do, no job is active but the orphans, and the queue
is empty but for them. -/
theorem Dispatched.settled {canonical : String → Prop} {orphans : Finset String} {v : View}
    {γ : List Role} (h : Dispatched canonical orphans v γ) (hstaffed : Staffed v γ)
    (hidle : ∀ g ∈ γ, g.Idle) :
    (∀ id ∉ orphans, ¬ Active (v.status id)) ∧ v.pending = ∅ ∧ v.inFlight = orphans := by
  have hpending : v.pending = ∅ := by
    have hnone : tally Role.drains γ = 0 := tally_eq_zero fun g hg => (hidle g hg).empty.2.1
    rw [Staffed, hnone] at hstaffed
    exact Finset.card_eq_zero.mp (Nat.le_zero.mp hstaffed)
  obtain ⟨hactive, hinFlight⟩ := h.leftover hidle
  refine ⟨fun id horphan hid => ?_, hpending, hinFlight⟩
  simpa [horphan, hpending] using hactive id hid

end Earth2Sandbox
