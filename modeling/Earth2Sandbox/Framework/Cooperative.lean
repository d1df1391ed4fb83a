import Earth2Sandbox.Framework.Interleaving
import Earth2Sandbox.Framework.Tally

/-!
# Cooperative scheduling

A `Coroutine` is a program of *operations*, which are done at once, and *awaits*, at which it is
suspended until the environment answers.  Nothing else happens between two awaits of a task: a step
of a `CoSystem` starts a task or answers one, and carries it on to its next await (`settle`).  That
is how an event loop runs asynchronous functions.

`Follows K p` says that whenever `p` is answered at an await, what it does up to the next one is
as `K` allows; for `Proceeds K p` it matters whether there is a next one.  `Within n p` says that
`p`, with the tasks that it starts, comes to `n` awaits at most, and bounds what each task does in a
run (`CoSystem.tally_begun_le`).
-/

namespace Earth2Sandbox

/-- A program of operations `O` and awaits `A`. -/
abbrev Coroutine (E O A : Type) (RO : O → Type) (RA : A → Type) (α : Type) :=
  Program E (O ⊕ A) (Sum.elim RO RA) α

namespace Coroutine

variable {S L E O A : Type} {RO : O → Type} {RA : A → Type} {α β : Type}

/-- The operations up to the next await: what is left of the program, the state, and the tasks that
the operations start. -/
def settle (perform : (o : O) → S → RO o × S) (spawns : O → List L) :
    Coroutine E O A RO RA α → S → Coroutine E O A RO RA α × S × List L
  | .ret a, s => (.ret a, s, [])
  | .raise e, s => (.raise e, s, [])
  | .call (.inl o) next, s =>
    let rest := settle perform spawns (next (perform o s).1) (perform o s).2
    (rest.1, rest.2.1, spawns o ++ rest.2.2)
  | .call (.inr a) next, s => (.call (.inr a) next, s, [])

/-- The program is suspended. -/
def Suspended : Coroutine E O A RO RA α → Prop
  | .call (.inr _) _ => True
  | _ => False

instance : (p : Coroutine E O A RO RA α) → Decidable (Suspended p)
  | .call (.inr _) _ => isTrue trivial
  | .call (.inl _) _ => isFalse id
  | .ret _ => isFalse id
  | .raise _ => isFalse id

/-- From an answer to the next await the state changes as `K` says. -/
def Follows (perform : (o : O) → S → RO o × S) (spawns : O → List L) (K : A → S → S → Prop) :
    Coroutine E O A RO RA α → Prop
  | .ret _ => True
  | .raise _ => True
  | .call (.inl _) next => ∀ r, Follows perform spawns K (next r)
  | .call (.inr a) next => ∀ r, (∀ s, K a s (settle perform spawns (next r) s).2.1) ∧
      Follows perform spawns K (next r)

variable {perform : (o : O) → S → RO o × S} {spawns : O → List L} {K : A → S → S → Prop}

lemma Follows.mono {K' : A → S → S → Prop} (hK : ∀ a s s', K a s s' → K' a s s')
    {p : Coroutine E O A RO RA α} (h : Follows perform spawns K p) :
    Follows perform spawns K' p := by
  induction p with
  | ret a => trivial
  | raise e => trivial
  | call c next ih =>
    cases c with
    | inl o => exact fun r => ih r (h r)
    | inr a => exact fun r => ⟨fun s => hK _ _ _ ((h r).1 s), ih r (h r).2⟩

/-- What is left after the operations still follows. -/
lemma Follows.settle {p : Coroutine E O A RO RA α} (h : Follows perform spawns K p) (s : S) :
    Follows perform spawns K (p.settle perform spawns s).1 := by
  induction p generalizing s with
  | ret a => exact h
  | raise e => exact h
  | call c next ih =>
    cases c with
    | inl o => exact ih _ (h _) _
    | inr a => exact h

/-- A program whose continuation is suspended has done its operations. -/
lemma settle_bind {p : Coroutine E O A RO RA α} {f : α → Coroutine E O A RO RA β}
    (hf : ∀ a, Suspended (f a)) (s : S) :
    settle perform spawns (p >>= f) s =
      ((p.settle perform spawns s).1 >>= f, (p.settle perform spawns s).2) := by
  induction p generalizing s with
  | ret a =>
    have hsuspended := hf a
    change Coroutine.settle perform spawns (f a) s = (f a, s, [])
    cases hfa : f a with
    | ret b => exact absurd hsuspended (by simp [hfa, Suspended])
    | raise e => exact absurd hsuspended (by simp [hfa, Suspended])
    | call c next =>
      cases c with
      | inl o => exact absurd hsuspended (by simp [hfa, Suspended])
      | inr a => rfl
  | raise e => rfl
  | call c next ih =>
    cases c with
    | inl o =>
      exact congrArg (fun rest => (rest.1, rest.2.1, spawns o ++ rest.2.2))
        (ih (perform o s).1 (perform o s).2)
    | inr a => rfl

/-- The handler changes nothing before the end. -/
lemma settle_attempt (p : Coroutine E O A RO RA α) (s : S) :
    settle perform spawns p.attempt s =
      ((p.settle perform spawns s).1.attempt, (p.settle perform spawns s).2) := by
  induction p generalizing s with
  | ret a => rfl
  | raise e => rfl
  | call c next ih =>
    cases c with
    | inl o =>
      exact congrArg (fun rest => (rest.1, rest.2.1, spawns o ++ rest.2.2))
        (ih (perform o s).1 (perform o s).2)
    | inr a => rfl

lemma Follows.bind {p : Coroutine E O A RO RA α} {f : α → Coroutine E O A RO RA β}
    (hp : Follows perform spawns K p)
    (hf : ∀ a, Suspended (f a) ∧ Follows perform spawns K (f a)) :
    Follows perform spawns K (p >>= f) := by
  induction p with
  | ret a => exact (hf a).2
  | raise e => trivial
  | call c next ih =>
    cases c with
    | inl o => exact fun r => ih r (hp r)
    | inr a =>
      refine fun r => ⟨fun s => ?_, ih r (hp r).2⟩
      change K a s (Coroutine.settle perform spawns (next r >>= f) s).2.1
      rw [settle_bind fun a => (hf a).1]
      exact (hp r).1 s

/-- Operations come to no await of their own. -/
lemma Follows.after_operations {p : Coroutine E O A RO RA α} {f : α → Coroutine E O A RO RA β}
    (hp : p.Only fun c => c.isLeft) (hf : ∀ a, Follows perform spawns K (f a)) :
    Follows perform spawns K (p >>= f) := by
  induction p with
  | ret a => exact hf a
  | raise e => trivial
  | call c next ih =>
    cases c with
    | inl o => exact fun r => ih r (hp.2 r)
    | inr a => cases hp.1

lemma Follows.attempt {p : Coroutine E O A RO RA α} (hp : Follows perform spawns K p) :
    Follows perform spawns K p.attempt := by
  induction p with
  | ret a => trivial
  | raise e => trivial
  | call c next ih =>
    cases c with
    | inl o => exact fun r => ih r (hp r)
    | inr a =>
      refine fun r => ⟨fun s => ?_, ih r (hp r).2⟩
      change K a s (Coroutine.settle perform spawns (next r).attempt s).2.1
      rw [settle_attempt]
      exact (hp r).1 s

/-- A program without operations leaves the state alone. -/
lemma settle_of_awaits {p : Coroutine E O A RO RA α} (h : p.Only fun c => c.isRight) (s : S) :
    (settle perform spawns p s).2.1 = s := by
  cases p with
  | ret a => rfl
  | raise e => rfl
  | call c next =>
    cases c with
    | inl o => cases h.1
    | inr a => rfl

lemma follows_of_awaits {p : Coroutine E O A RO RA α} (h : p.Only fun c => c.isRight)
    (hK : ∀ a s, K a s s) : Follows perform spawns K p := by
  induction p with
  | ret a => trivial
  | raise e => trivial
  | call c next ih =>
    cases c with
    | inl o => cases h.1
    | inr a =>
      refine fun r => ⟨fun s => ?_, ih r (h.2 r)⟩
      rw [settle_of_awaits (h.2 r)]
      exact hK a s

/-- A program without awaits follows anything. -/
lemma follows_of_operations {p : Coroutine E O A RO RA α} (h : p.Only fun c => c.isLeft) :
    Follows perform spawns K p := by
  induction p with
  | ret a => trivial
  | raise e => trivial
  | call c next ih =>
    cases c with
    | inl o => exact fun r => ih r (h.2 r)
    | inr a => cases h.1

/-- Operations that all keep to a preorder. -/
lemma follows_of_only {P : S → S → Prop} (hrefl : ∀ s, P s s)
    (htrans : ∀ s₁ s₂ s₃, P s₁ s₂ → P s₂ s₃ → P s₁ s₃) {p : Coroutine E O A RO RA α}
    (h : p.Only fun c => ∀ o, c = .inl o → ∀ s, P s (perform o s).2) :
    Follows perform spawns (fun _ => P) p ∧ ∀ s, P s (settle perform spawns p s).2.1 := by
  induction p with
  | ret a => exact ⟨trivial, hrefl⟩
  | raise e => exact ⟨trivial, hrefl⟩
  | call c next ih =>
    cases c with
    | inl o =>
      exact ⟨fun r => (ih r (h.2 r)).1, fun s =>
        htrans _ _ _ (h.1 o rfl s) ((ih (perform o s).1 (h.2 _)).2 (perform o s).2)⟩
    | inr a => exact ⟨fun r => ⟨(ih r (h.2 r)).2, (ih r (h.2 r)).1⟩, hrefl⟩

/-! ### Turns that may be the last -/

/-- In every turn the state changes as `K` says, when the program is suspended after it or not. -/
def Proceeds (perform : (o : O) → S → RO o × S) (spawns : O → List L) (K : Prop → S → S → Prop) :
    Coroutine E O A RO RA α → Prop
  | .ret _ => True
  | .raise _ => True
  | .call (.inl _) next => ∀ r, Proceeds perform spawns K (next r)
  | .call (.inr _) next => ∀ r,
      (∀ s, K (Suspended (settle perform spawns (next r) s).1) s
        (settle perform spawns (next r) s).2.1) ∧ Proceeds perform spawns K (next r)

lemma Proceeds.settle {K : Prop → S → S → Prop} {p : Coroutine E O A RO RA α}
    (h : Proceeds perform spawns K p) (s : S) :
    Proceeds perform spawns K (p.settle perform spawns s).1 := by
  induction p generalizing s with
  | ret a => exact h
  | raise e => exact h
  | call c next ih =>
    cases c with
    | inl o => exact ih _ (h _) _
    | inr a => exact h

lemma proceeds_of_operations {K : Prop → S → S → Prop} {p : Coroutine E O A RO RA α}
    (h : p.Only fun c => c.isLeft) : Proceeds perform spawns K p := by
  induction p with
  | ret a => trivial
  | raise e => trivial
  | call c next ih =>
    cases c with
    | inl o => exact fun r => ih r (h.2 r)
    | inr a => cases h.1

lemma Suspended.settle_eq {p : Coroutine E O A RO RA α} (h : Suspended p) (s : S) :
    settle perform spawns p s = (p, s, []) := by
  cases p with
  | ret a => cases h
  | raise e => cases h
  | call c next =>
    cases c with
    | inl o => cases h
    | inr a => rfl

/-- A program that is handled, and suspended when it has ended, is suspended after every turn. -/
lemma suspended_attempt_bind {p : Coroutine E O A RO RA α}
    {f : Except E α → Coroutine E O A RO RA β} (hf : ∀ outcome, Suspended (f outcome)) (s : S) :
    Suspended (settle perform spawns (p.attempt >>= f) s).1 := by
  induction p generalizing s with
  | ret a =>
    change Suspended (settle perform spawns (f (.ok a)) s).1
    rw [(hf _).settle_eq]
    exact hf _
  | raise e =>
    change Suspended (settle perform spawns (f (.error e)) s).1
    rw [(hf _).settle_eq]
    exact hf _
  | call c next ih =>
    cases c with
    | inl o => exact ih _ _
    | inr a => trivial

/-- None of the turns of such a program is the last. -/
lemma Follows.proceeds {K : Prop → S → S → Prop} {p : Coroutine E O A RO RA α}
    {f : Except E α → Coroutine E O A RO RA β}
    (hp : Follows perform spawns (fun _ => K True) p)
    (hf : ∀ outcome, Suspended (f outcome) ∧ Proceeds perform spawns K (f outcome)) :
    Proceeds perform spawns K (p.attempt >>= f) := by
  induction p with
  | ret a => exact (hf (.ok a)).2
  | raise e => exact (hf (.error e)).2
  | call c next ih =>
    cases c with
    | inl o => exact fun r => ih r (hp r)
    | inr a =>
      refine fun r => ⟨fun s => ?_, ih r (hp r).2⟩
      change K (Suspended (Coroutine.settle perform spawns ((next r).attempt >>= f) s).1) s
        (Coroutine.settle perform spawns ((next r).attempt >>= f) s).2.1
      rw [eq_true (suspended_attempt_bind (fun outcome => (hf outcome).1) s),
        settle_bind fun outcome => (hf outcome).1, settle_attempt]
      exact (hp r).1 s

/-! ### Turns by their answers -/

/-- The program awaits what `P` allows, and from an answer to the next await the state changes as
`K` says of that answer. -/
def Obeys (perform : (o : O) → S → RO o × S) (spawns : O → List L) (P : A → Prop)
    (K : (a : A) → RA a → S → S → Prop) : Coroutine E O A RO RA α → Prop
  | .ret _ => True
  | .raise _ => True
  | .call (.inl _) next => ∀ r, Obeys perform spawns P K (next r)
  | .call (.inr a) next => P a ∧ ∀ r,
      (∀ s, K a r s (settle perform spawns (next r) s).2.1) ∧ Obeys perform spawns P K (next r)

section Obeys

variable {P : A → Prop} {K : (a : A) → RA a → S → S → Prop} {p : Coroutine E O A RO RA α}

lemma Obeys.settle (h : Obeys perform spawns P K p) (s : S) :
    Obeys perform spawns P K (p.settle perform spawns s).1 := by
  induction p generalizing s with
  | ret a => exact h
  | raise e => exact h
  | call c next ih =>
    cases c with
    | inl o => exact ih _ (h _) _
    | inr a => exact h

lemma Obeys.bind {f : α → Coroutine E O A RO RA β} (hp : Obeys perform spawns P K p)
    (hf : ∀ a, Suspended (f a) ∧ Obeys perform spawns P K (f a)) :
    Obeys perform spawns P K (p >>= f) := by
  induction p with
  | ret a => exact (hf a).2
  | raise e => trivial
  | call c next ih =>
    cases c with
    | inl o => exact fun r => ih r (hp r)
    | inr a =>
      refine ⟨hp.1, fun r => ⟨fun s => ?_, ih r (hp.2 r).2⟩⟩
      change K a r s (Coroutine.settle perform spawns (next r >>= f) s).2.1
      rw [settle_bind fun a => (hf a).1]
      exact (hp.2 r).1 s

lemma Obeys.attempt (hp : Obeys perform spawns P K p) : Obeys perform spawns P K p.attempt := by
  induction p with
  | ret a => trivial
  | raise e => trivial
  | call c next ih =>
    cases c with
    | inl o => exact fun r => ih r (hp r)
    | inr a =>
      refine ⟨hp.1, fun r => ⟨fun s => ?_, ih r (hp.2 r).2⟩⟩
      change K a r s (Coroutine.settle perform spawns (next r).attempt s).2.1
      rw [settle_attempt]
      exact (hp.2 r).1 s

lemma obeys_of_operations (h : p.Only fun c => c.isLeft) : Obeys perform spawns P K p := by
  induction p with
  | ret a => trivial
  | raise e => trivial
  | call c next ih =>
    cases c with
    | inl o => exact fun r => ih r (h.2 r)
    | inr a => cases h.1

/-- Programs without operations change nothing. -/
lemma obeys_of_awaits (h : p.Only fun c => ∃ a, c = .inr a ∧ P a) (hK : ∀ a r s, K a r s s) :
    Obeys perform spawns P K p := by
  induction p with
  | ret a => trivial
  | raise e => trivial
  | call c next ih =>
    obtain ⟨⟨a, rfl, hP⟩, hnext⟩ := h
    refine ⟨hP, fun r => ⟨fun s => ?_, ih r (hnext r)⟩⟩
    have hawaits : (next r).Only fun c => c.isRight := (hnext r).mono (by
      rintro _ ⟨a, rfl, -⟩
      rfl)
    rw [settle_of_awaits hawaits]
    exact hK a r s

end Obeys

/-! ### The awaits of a program -/

/-- The program and the tasks that it starts come to awaits of weight `n` at most, where a task of
label `l` comes to `cost l`. -/
def Within (spawns : O → List L) (weight : A → ℕ) (cost : L → ℕ) :
    ℕ → Coroutine E O A RO RA α → Prop
  | _, .ret _ => True
  | _, .raise _ => True
  | n, .call (.inl o) next => tally cost (spawns o) ≤ n ∧
      ∀ r, Within spawns weight cost (n - tally cost (spawns o)) (next r)
  | n, .call (.inr a) next => weight a ≤ n ∧
      ∀ r, Within spawns weight cost (n - weight a) (next r)

section Within

variable {weight : A → ℕ} {cost : L → ℕ} {p : Coroutine E O A RO RA α} {m n : ℕ}

lemma Within.mono (h : Within spawns weight cost m p) (hmn : m ≤ n) :
    Within spawns weight cost n p := by
  induction p generalizing m n with
  | ret a => trivial
  | raise e => trivial
  | call c next ih =>
    cases c with
    | inl o => exact ⟨Nat.le_trans h.1 hmn, fun r => ih r (h.2 r) (Nat.sub_le_sub_right hmn _)⟩
    | inr a => exact ⟨Nat.le_trans h.1 hmn, fun r => ih r (h.2 r) (Nat.sub_le_sub_right hmn _)⟩

lemma Within.bind {f : α → Coroutine E O A RO RA β} (hp : Within spawns weight cost m p)
    (hf : ∀ a, Within spawns weight cost n (f a)) :
    Within spawns weight cost (m + n) (p >>= f) := by
  induction p generalizing m with
  | ret a => exact (hf a).mono (Nat.le_add_left ..)
  | raise e => trivial
  | call c next ih =>
    cases c with
    | inl o =>
      refine ⟨Nat.le_trans hp.1 (Nat.le_add_right ..), fun r => (ih r (hp.2 r)).mono ?_⟩
      have hspawned := hp.1
      omega
    | inr a =>
      refine ⟨Nat.le_trans hp.1 (Nat.le_add_right ..), fun r => (ih r (hp.2 r)).mono ?_⟩
      have hawait := hp.1
      omega

/-- The continuation gets what the program leaves of the whole. -/
lemma Within.bind_sub {f : α → Coroutine E O A RO RA β} (hp : Within spawns weight cost m p)
    (hmn : m ≤ n) (hf : ∀ a, Within spawns weight cost (n - m) (f a)) :
    Within spawns weight cost n (p >>= f) :=
  (hp.bind hf).mono (by omega)

lemma Within.attempt (hp : Within spawns weight cost n p) :
    Within spawns weight cost n p.attempt := by
  induction p generalizing n with
  | ret a => trivial
  | raise e => trivial
  | call c next ih =>
    cases c with
    | inl o => exact ⟨hp.1, fun r => ih r (hp.2 r)⟩
    | inr a => exact ⟨hp.1, fun r => ih r (hp.2 r)⟩

lemma within_ofExcept (n : ℕ) (x : Except E α) :
    Within spawns weight cost n (.ofExcept x : Coroutine E O A RO RA α) := by
  cases x <;> trivial

/-- The operations up to the next await pay for the tasks that they start. -/
lemma Within.settle (h : Within spawns weight cost n p) (s : S) :
    ∃ m, tally cost (p.settle perform spawns s).2.2 + m ≤ n ∧
      Within spawns weight cost m (p.settle perform spawns s).1 := by
  induction p generalizing n s with
  | ret a => exact ⟨n, by simp [Coroutine.settle], trivial⟩
  | raise e => exact ⟨n, by simp [Coroutine.settle], trivial⟩
  | call c next ih =>
    cases c with
    | inl o =>
      obtain ⟨m, hm, hrest⟩ := ih (perform o s).1 (h.2 _) (perform o s).2
      refine ⟨m, ?_, hrest⟩
      have hspawned := h.1
      simp only [Coroutine.settle, tally_append]
      omega
    | inr a => exact ⟨n, by simp [Coroutine.settle], h⟩

end Within

lemma mem_spawns_of_settle {p : Coroutine E O A RO RA α} {s : S} {l : L}
    (h : l ∈ (settle perform spawns p s).2.2) : ∃ o, l ∈ spawns o := by
  induction p generalizing s with
  | ret a => cases h
  | raise e => cases h
  | call c next ih =>
    cases c with
    | inl o =>
      rcases List.mem_append.mp h with hmem | hmem
      · exact ⟨o, hmem⟩
      · exact ih _ hmem
    | inr a => cases h

end Coroutine

/-! ## Tasks that take turns -/

/-- What may happen next: a task is started, or the await of task `i` is answered. -/
inductive Turn (L I : Type) where
  | start (label : L)
  | answer (i : ℕ) (input : I)

/-- The task that is started. -/
def Turn.started {L I : Type} : Turn L I → Option L
  | start label => some label
  | answer .. => none

/-- Coroutines with labels `L` over shared state `S`, with inputs `I` from the environment. -/
structure CoSystem (S L I E O A : Type) (RO : O → Type) (RA : A → Type) (α : Type) where
  /-- The coroutine a label stands for. -/
  body : L → Coroutine E O A RO RA α
  /-- One operation of task `i`. -/
  perform : ℕ → (o : O) → S → RO o × S
  /-- The tasks an operation starts; they begin with an await. -/
  spawns : O → List L
  /-- The answer to an await; `none` when the environment never gives this input. -/
  respond : S → (a : A) → I → Option (RA a)

namespace CoSystem

variable {S L I E O A : Type} {RO : O → Type} {RA : A → Type} {α : Type}
  (sys : CoSystem S L I E O A RO RA α)

/-- The state and the tasks, each at an await or at its end. -/
abbrev Configuration (_ : CoSystem S L I E O A RO RA α) :=
  Config S L E (O ⊕ A) (Sum.elim RO RA) α

/-- Task `i` carries on with `p` to its next await; the tasks that it starts are new. -/
def resume (cfg : sys.Configuration) (i : ℕ) (l : L) (p : Coroutine E O A RO RA α) :
    sys.Configuration :=
  let rest := p.settle (sys.perform i) sys.spawns cfg.shared
  ⟨rest.2.1, cfg.tasks.set i ⟨l, rest.1⟩ ++ rest.2.2.map fun l => ⟨l, sys.body l⟩⟩

/-- One turn; `none` when it is not available. -/
def step (cfg : sys.Configuration) : Turn L I → Option sys.Configuration
  | .start l =>
    some (sys.resume ⟨cfg.shared, cfg.tasks ++ [⟨l, sys.body l⟩]⟩ cfg.tasks.length l (sys.body l))
  | .answer i input =>
    match cfg.tasks[i]? with
    | some ⟨l, .call (.inr a) next⟩ =>
      (sys.respond cfg.shared a input).map fun r => sys.resume cfg i l (next r)
    | _ => none

/-- What task `i` is waiting for. -/
def awaiting (cfg : sys.Configuration) (i : ℕ) : Option A :=
  match cfg.tasks[i]? with
  | some ⟨_, .call (.inr a) _⟩ => some a
  | _ => none

/-- Everything an answer can do. -/
lemma step_answer {cfg cfg' : sys.Configuration} {i : ℕ} {input : I}
    (h : sys.step cfg (.answer i input) = some cfg') :
    ∃ l a next r, cfg.tasks[i]? = some ⟨l, .call (.inr a) next⟩ ∧
      sys.awaiting cfg i = some a ∧ sys.respond cfg.shared a input = some r ∧
      cfg' = sys.resume cfg i l (next r) := by
  simp only [step] at h
  split at h
  · next l a next htask =>
    obtain ⟨r, hr, rfl⟩ := Option.map_eq_some_iff.mp h
    exact ⟨l, a, next, r, htask, by simp [awaiting, htask], hr, rfl⟩
  · cases h

lemma getElem?_resume {cfg : sys.Configuration} {i k : ℕ} {l : L} {p : Coroutine E O A RO RA α}
    {task : Task L E (O ⊕ A) (Sum.elim RO RA) α}
    (h : (sys.resume cfg i l p).tasks[k]? = some task) :
    (k = i ∧ task = ⟨l, (p.settle (sys.perform i) sys.spawns cfg.shared).1⟩) ∨
      (k ≠ i ∧ cfg.tasks[k]? = some task) ∨ ∃ o, ∃ l ∈ sys.spawns o, task = ⟨l, sys.body l⟩ := by
  simp only [resume, List.getElem?_append, List.getElem?_set, List.length_set] at h
  split at h
  · split at h
    · next hki =>
      split at h
      · exact .inl ⟨hki.symm, (Option.some.inj h).symm⟩
      · cases h
    · next hki => exact .inr (.inl ⟨Ne.symm hki, h⟩)
  · obtain ⟨l, hl, rfl⟩ := List.mem_map.mp (List.mem_of_getElem? h)
    obtain ⟨o, ho⟩ := Coroutine.mem_spawns_of_settle hl
    exact .inr (.inr ⟨o, l, ho, rfl⟩)

lemma getElem?_resume_self {cfg : sys.Configuration} {i : ℕ} (hi : i < cfg.tasks.length) (l : L)
    (p : Coroutine E O A RO RA α) : (sys.resume cfg i l p).tasks[i]? =
      some ⟨l, (p.settle (sys.perform i) sys.spawns cfg.shared).1⟩ := by
  simp only [resume]
  rw [List.getElem?_append_left (by simpa using hi), List.getElem?_set_self hi]

lemma getElem?_resume_ne {cfg : sys.Configuration} {i k : ℕ} (hki : k ≠ i)
    {task : Task L E (O ⊕ A) (Sum.elim RO RA) α} (h : cfg.tasks[k]? = some task) (l : L)
    (p : Coroutine E O A RO RA α) : (sys.resume cfg i l p).tasks[k]? = some task := by
  have hk := (List.getElem?_eq_some_iff.mp h).1
  simp only [resume]
  rw [List.getElem?_append_left (by simpa using hk), List.getElem?_set_ne (Ne.symm hki), h]

lemma awaiting_eq_some {cfg : sys.Configuration} {i : ℕ} {a : A} :
    sys.awaiting cfg i = some a ↔
      ∃ l next, cfg.tasks[i]? = some ⟨l, .call (.inr a) next⟩ := by
  unfold awaiting
  constructor
  · intro h
    split at h
    · next l a' next htask =>
      obtain rfl := Option.some.inj h
      exact ⟨l, next, htask⟩
    · cases h
  · rintro ⟨l, next, htask⟩
    simp only [htask]

/-- `cfg'` is reached from `cfg` by turns that are `allowed`. -/
inductive Reaches (allowed : sys.Configuration → Turn L I → Prop) (cfg : sys.Configuration) :
    sys.Configuration → Prop
  | refl : Reaches allowed cfg cfg
  | step {cfg₁ cfg₂ : sys.Configuration} (turn : Turn L I) :
      Reaches allowed cfg cfg₁ → allowed cfg₁ turn → sys.step cfg₁ turn = some cfg₂ →
        Reaches allowed cfg cfg₂

/-- The configuration after the turns; those that are not available or not allowed are left out. -/
def after (allowed : sys.Configuration → Turn L I → Prop)
    [∀ cfg turn, Decidable (allowed cfg turn)] (cfg : sys.Configuration) :
    List (Turn L I) → sys.Configuration
  | [] => cfg
  | turn :: rest =>
    if allowed cfg turn then
      match sys.step cfg turn with
      | some cfg' => after allowed cfg' rest
      | none => after allowed cfg rest
    else after allowed cfg rest

lemma Reaches.after {allowed : sys.Configuration → Turn L I → Prop}
    [∀ cfg turn, Decidable (allowed cfg turn)] {cfg₀ cfg : sys.Configuration}
    (h : sys.Reaches allowed cfg₀ cfg) (turns : List (Turn L I)) :
    sys.Reaches allowed cfg₀ (sys.after allowed cfg turns) := by
  induction turns generalizing cfg with
  | nil => exact h
  | cons turn rest ih =>
    unfold CoSystem.after
    split
    · next hallowed =>
      split
      · next cfg' hstep => exact ih (h.step turn hallowed hstep)
      · exact ih h
    · exact ih h

/-! ### What each task does in a run -/

open Coroutine (Within)

/-- What the tasks do in a turn that leads to `cfg'`: an await of theirs is answered, or they start
another task. -/
def events (cfg cfg' : sys.Configuration) : Turn L I → List (ℕ × (A ⊕ L))
  | .start _ =>
    (cfg'.tasks.drop (cfg.tasks.length + 1)).map fun t => (cfg.tasks.length, .inr t.label)
  | .answer i _ => (sys.awaiting cfg i).toList.map (fun a => (i, .inl a)) ++
      (cfg'.tasks.drop cfg.tasks.length).map fun t => (i, .inr t.label)

/-- The configuration after the turns, and what the tasks have done; `none` when one of the turns is
not available. -/
def run (cfg : sys.Configuration) :
    List (Turn L I) → Option (sys.Configuration × List (ℕ × (A ⊕ L)))
  | [] => some (cfg, [])
  | turn :: rest =>
    (sys.step cfg turn).bind fun cfg' =>
      (run cfg' rest).map fun last => (last.1, sys.events cfg cfg' turn ++ last.2)

/-- What task `i` has done. -/
def eventsOf (events : List (ℕ × (A ⊕ L))) (i : ℕ) : List (A ⊕ L) :=
  (events.filter (·.1 = i)).map (·.2)

/-- What task `i` has done, and what it is waiting for. -/
def begun (cfg : sys.Configuration) (events : List (ℕ × (A ⊕ L))) (i : ℕ) : List (A ⊕ L) :=
  eventsOf events i ++ (sys.awaiting cfg i).toList.map Sum.inl

lemma eventsOf_append (done : List (ℕ × (A ⊕ L))) (i k : ℕ) (new : List (A ⊕ L)) :
    eventsOf (done ++ new.map fun e => (i, e)) k =
      if k = i then eventsOf done i ++ new else eventsOf done k := by
  unfold eventsOf
  by_cases hk : k = i
  · subst hk
    simp [List.filter_map, Function.comp_def]
  · simp [List.filter_map, Function.comp_def, hk, Ne.symm hk]

lemma eventsOf_eq_nil {done : List (ℕ × (A ⊕ L))} {n k : ℕ} (h : ∀ e ∈ done, e.1 < n)
    (hk : n ≤ k) : eventsOf done k = [] := by
  simp only [eventsOf, List.map_eq_nil_iff, List.filter_eq_nil_iff, decide_eq_true_eq]
  exact fun e he => Nat.ne_of_lt (Nat.lt_of_lt_of_le (h e he) hk)

/-- What every task has done and still needs comes to no more than it may cost. -/
structure Accounted (weight : A → ℕ) (cost : L → ℕ) (done : List (ℕ × (A ⊕ L)))
    (cfg : sys.Configuration) : Prop where
  spent : ∀ i task, cfg.tasks[i]? = some task → ∃ m,
    tally (Sum.elim weight cost) (eventsOf done i) + m ≤ cost task.label ∧
      Within sys.spawns weight cost m task.program
  known : ∀ e ∈ done, e.1 < cfg.tasks.length

variable {sys} {weight : A → ℕ} {cost : L → ℕ} {cfg cfg' : sys.Configuration}
  {done : List (ℕ × (A ⊕ L))}

/-- Task `i` carries on with a program that needs less by what it has done. -/
lemma Accounted.resume (h : sys.Accounted weight cost done cfg)
    (hbody : ∀ l, Within sys.spawns weight cost (cost l) (sys.body l)) {i : ℕ} {l : L}
    {q p : Coroutine E O A RO RA α} (htask : cfg.tasks[i]? = some ⟨l, q⟩) (new : List (A ⊕ L))
    (hp : ∀ n, Within sys.spawns weight cost n q → ∃ m,
      tally (Sum.elim weight cost) new + m ≤ n ∧ Within sys.spawns weight cost m p) :
    sys.Accounted weight cost (done ++ (new ++
      (p.settle (sys.perform i) sys.spawns cfg.shared).2.2.map Sum.inr).map fun e => (i, e))
      (sys.resume cfg i l p) := by
  have hi : i < cfg.tasks.length := (List.getElem?_eq_some_iff.mp htask).1
  refine ⟨fun k task hk => ?_, fun e he => ?_⟩
  · rw [eventsOf_append]
    by_cases hki : k = i
    · subst hki
      rw [getElem?_resume_self sys hi] at hk
      obtain rfl := Option.some.inj hk
      obtain ⟨n, hn, hq⟩ := h.spent k _ htask
      obtain ⟨m, hm, hp⟩ := hp n hq
      obtain ⟨left, hleft, hrest⟩ : ∃ left,
          tally (fun l => Sum.elim weight cost (.inr l))
            (p.settle (sys.perform k) sys.spawns cfg.shared).2.2 + left ≤ m ∧
          Within sys.spawns weight cost left
            (p.settle (sys.perform k) sys.spawns cfg.shared).1 := hp.settle cfg.shared
      refine ⟨left, ?_, hrest⟩
      rw [if_pos rfl, tally_append, tally_append, tally_map]
      dsimp only at hn ⊢
      omega
    · rw [if_neg hki]
      by_cases hlt : k < cfg.tasks.length
      · rw [getElem?_resume_ne sys hki (List.getElem?_eq_getElem hlt)] at hk
        obtain rfl := Option.some.inj hk
        exact h.spent k _ (List.getElem?_eq_getElem hlt)
      · -- a task that was started just now
        rw [eventsOf_eq_nil h.known (Nat.le_of_not_lt hlt)]
        rcases sys.getElem?_resume hk with ⟨heq, -⟩ | ⟨-, hold⟩ | ⟨o, l', -, rfl⟩
        · exact absurd heq hki
        · exact absurd (List.getElem?_eq_some_iff.mp hold).1 hlt
        · exact ⟨cost l', by simp, hbody l'⟩
  · have hlength : cfg.tasks.length ≤ (sys.resume cfg i l p).tasks.length := by
      simp [CoSystem.resume]
    rcases List.mem_append.mp he with he | he
    · exact Nat.lt_of_lt_of_le (h.known e he) hlength
    · obtain ⟨e, -, rfl⟩ := List.mem_map.mp he
      exact Nat.lt_of_lt_of_le hi hlength

/-- A task has been added. -/
lemma Accounted.start (h : sys.Accounted weight cost done cfg)
    (hbody : ∀ l, Within sys.spawns weight cost (cost l) (sys.body l)) (l : L) :
    sys.Accounted weight cost done ⟨cfg.shared, cfg.tasks ++ [⟨l, sys.body l⟩]⟩ := by
  refine ⟨fun k task hk => ?_, fun e he => ?_⟩
  · by_cases hlt : k < cfg.tasks.length
    · rw [List.getElem?_append_left hlt] at hk
      exact h.spent k task hk
    · rw [List.getElem?_append_right (Nat.le_of_not_lt hlt)] at hk
      obtain rfl := List.mem_singleton.mp (List.mem_of_getElem? hk)
      rw [eventsOf_eq_nil h.known (Nat.le_of_not_lt hlt)]
      exact ⟨cost l, by simp, hbody l⟩
  · simpa using Nat.lt_succ_of_lt (h.known e he)

lemma drop_tasks_resume (cfg : sys.Configuration) (i : ℕ) (l : L) (p : Coroutine E O A RO RA α) :
    ((sys.resume cfg i l p).tasks.drop cfg.tasks.length).map (·.label) =
      (p.settle (sys.perform i) sys.spawns cfg.shared).2.2 := by
  simp [CoSystem.resume, Function.comp_def]

lemma Accounted.step (h : sys.Accounted weight cost done cfg)
    (hbody : ∀ l, Within sys.spawns weight cost (cost l) (sys.body l)) {turn : Turn L I}
    (hstep : sys.step cfg turn = some cfg') :
    sys.Accounted weight cost (done ++ sys.events cfg cfg' turn) cfg' := by
  cases turn with
  | start l =>
    obtain rfl := Option.some.inj hstep
    have htask : (cfg.tasks ++ [⟨l, sys.body l⟩])[cfg.tasks.length]? = some ⟨l, sys.body l⟩ := by
      simp
    have hresume := (h.start hbody l).resume hbody htask (p := sys.body l) []
      fun n hn => ⟨n, by simp, hn⟩
    rw [List.nil_append, ← drop_tasks_resume _ _ l, List.length_append, List.length_singleton,
      List.map_map, List.map_map] at hresume
    exact hresume
  | answer i input =>
    obtain ⟨l, a, next, r, htask, hawaiting, -, rfl⟩ := sys.step_answer hstep
    have hresume := h.resume hbody htask (p := next r) [.inl a]
      fun n hn => ⟨n - weight a, by have := hn.1; simp; omega, hn.2 r⟩
    rw [← drop_tasks_resume cfg i l, List.map_append, List.map_map, List.map_map] at hresume
    simpa [events, hawaiting, Function.comp_def] using hresume

lemma Accounted.run (h : sys.Accounted weight cost done cfg)
    (hbody : ∀ l, Within sys.spawns weight cost (cost l) (sys.body l)) {turns : List (Turn L I)}
    {events : List (ℕ × (A ⊕ L))} (hrun : sys.run cfg turns = some (cfg', events)) :
    sys.Accounted weight cost (done ++ events) cfg' := by
  induction turns generalizing cfg done events with
  | nil =>
    obtain ⟨rfl, rfl⟩ := Prod.mk.inj (Option.some.inj hrun)
    rwa [List.append_nil]
  | cons turn rest ih =>
    obtain ⟨cfg₁, hstep, hmap⟩ := Option.bind_eq_some_iff.mp hrun
    obtain ⟨last, hrest, hlast⟩ := Option.map_eq_some_iff.mp hmap
    obtain ⟨rfl, rfl⟩ := Prod.mk.inj hlast
    rw [← List.append_assoc]
    exact ih (h.step hbody hstep) hrest

/-- What each task has done in a run, and what it is waiting for, comes to no more than it costs. -/
lemma tally_begun_le (hbody : ∀ l, Within sys.spawns weight cost (cost l) (sys.body l)) {s : S}
    {turns : List (Turn L I)} {events : List (ℕ × (A ⊕ L))}
    (hrun : sys.run ⟨s, []⟩ turns = some (cfg', events)) {i : ℕ}
    {task : Task L E (O ⊕ A) (Sum.elim RO RA) α} (htask : cfg'.tasks[i]? = some task) :
    tally (Sum.elim weight cost) (sys.begun cfg' events i) ≤ cost task.label := by
  have hstart : sys.Accounted weight cost [] ⟨s, []⟩ :=
    ⟨fun i task h => (by cases h), fun e he => (by cases he)⟩
  obtain ⟨m, hspent, hprogram⟩ := (hstart.run hbody hrun).spent i task htask
  rw [List.nil_append] at hspent
  rw [begun, tally_append]
  cases hawaiting : sys.awaiting cfg' i with
  | none => exact Nat.le_of_add_right_le hspent
  | some a =>
    obtain ⟨l, next, hnext⟩ := sys.awaiting_eq_some.mp hawaiting
    obtain rfl := Option.some.inj (htask.symm.trans hnext)
    have hm : weight a ≤ m := hprogram.1
    exact Nat.le_trans (Nat.add_le_add_left hm _) hspent

end CoSystem

end Earth2Sandbox
