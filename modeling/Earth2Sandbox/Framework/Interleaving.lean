import Earth2Sandbox.Framework.Program
import Mathlib.Data.List.Basic

/-!
# Interleavings of programs over shared state

A `System` runs any number of tasks over one shared state.  A task is a `Program` under a
label; at each step the scheduler picks a task and performs its next call, which is the unit
of atomicity.  A call may start further tasks (`spawns`), the environment may start tasks of
its own (`admits`), and a task that has returned may continue under another label
(`resumes`), which is how an unbounded `while` loop of a task is written.

What the environment contributes to a call (a clock reading, a generated identifier, an
answer from outside) is its *input*; `perform` is a function of it and refuses the inputs the
environment never gives.  A run is therefore determined by its list of `Choice`s, and
`System.run` executes it.

The proof rule is thread-modular (`Framework/RelyGuarantee.lean`).
-/

namespace Earth2Sandbox

/-- A running task: the label it was started under and what is left of its program. -/
structure Task (L E C : Type) (R : C → Type) (α : Type) where
  label : L
  program : Program E C R α

/-- Shared state and the tasks started so far; a task's position is its number. -/
structure Config (S L E C : Type) (R : C → Type) (α : Type) where
  shared : S
  tasks : List (Task L E C R α)

/-- A choice of the scheduler: start a task, perform the next call of task `i`, or let the
returned task `i` continue under the label it names. -/
inductive Choice (L I : Type) where
  | start (label : L)
  | act (i : ℕ) (input : I)
  | resume (i : ℕ)

/-- Tasks with labels `L` over shared state `S`, with inputs `I` from the environment. -/
structure System (S L I E C : Type) (R : C → Type) (α : Type) where
  /-- The program a label stands for. -/
  body : L → Program E C R α
  /-- One atomic call by task `i` under a label; `none` when the environment never gives this
  input. -/
  perform : ℕ → L → S → (c : C) → I → Option (R c × S)
  /-- The tasks a call starts. -/
  spawns : (c : C) → R c → List L
  /-- The tasks the environment may start. -/
  admits : S → L → Prop
  admitsDecidable : ∀ s l, Decidable (admits s l)
  /-- The label a returned task continues under. -/
  resumes : α → Option L

namespace System

variable {S L I E C : Type} {R : C → Type} {α : Type} (sys : System S L I E C R α)

instance (s : S) (l : L) : Decidable (sys.admits s l) := sys.admitsDecidable s l

/-- A task at the beginning of its label's program. -/
def task (l : L) : Task L E C R α := ⟨l, sys.body l⟩

/-- One step of the scheduler; `none` when the choice is not available. -/
def step (cfg : Config S L E C R α) : Choice L I → Option (Config S L E C R α)
  | .start l =>
    if sys.admits cfg.shared l then some ⟨cfg.shared, cfg.tasks ++ [sys.task l]⟩ else none
  | .act i input =>
    match cfg.tasks[i]? with
    | some ⟨l, .call c next⟩ =>
      (sys.perform i l cfg.shared c input).map fun q =>
        ⟨q.2, cfg.tasks.set i ⟨l, next q.1⟩ ++ (sys.spawns c q.1).map sys.task⟩
    | _ => none
  | .resume i =>
    match cfg.tasks[i]? with
    | some ⟨_, .ret a⟩ => (sys.resumes a).map fun l => ⟨cfg.shared, cfg.tasks.set i (sys.task l)⟩
    | _ => none

/-- Everything a step can do, guards included. -/
lemma step_cases {cfg cfg' : Config S L E C R α} {ch : Choice L I}
    (h : sys.step cfg ch = some cfg') :
    (∃ l, ch = .start l ∧ sys.admits cfg.shared l ∧
      cfg' = ⟨cfg.shared, cfg.tasks ++ [sys.task l]⟩) ∨
    (∃ i input l c next r s, ch = .act i input ∧ cfg.tasks[i]? = some ⟨l, .call c next⟩ ∧
      sys.perform i l cfg.shared c input = some (r, s) ∧
      cfg' = ⟨s, cfg.tasks.set i ⟨l, next r⟩ ++ (sys.spawns c r).map sys.task⟩) ∨
    (∃ i l a l', ch = .resume i ∧ cfg.tasks[i]? = some ⟨l, .ret a⟩ ∧ sys.resumes a = some l' ∧
      cfg' = ⟨cfg.shared, cfg.tasks.set i (sys.task l')⟩) := by
  cases ch with
  | start l =>
    simp only [step, Option.ite_none_right_eq_some, Option.some.injEq] at h
    exact .inl ⟨l, rfl, h.1, h.2.symm⟩
  | act i input =>
    right; left
    simp only [step] at h
    split at h
    · next l c next htask =>
      obtain ⟨⟨r, s⟩, hp, rfl⟩ := Option.map_eq_some_iff.mp h
      exact ⟨i, input, l, c, next, r, s, rfl, htask, hp, rfl⟩
    · cases h
  | resume i =>
    right; right
    simp only [step] at h
    split at h
    · next l a htask =>
      obtain ⟨l', hr, rfl⟩ := Option.map_eq_some_iff.mp h
      exact ⟨i, l, a, l', rfl, htask, hr, rfl⟩
    · cases h

/-- A whole run: the choices, in order. -/
def run (cfg : Config S L E C R α) : List (Choice L I) → Option (Config S L E C R α)
  | [] => some cfg
  | ch :: rest => (sys.step cfg ch).bind fun cfg' => run cfg' rest

/-- What a task has returned. -/
def returned? (t : Task L E C R α) : Option α :=
  match t.program with
  | .ret a => some a
  | _ => none

lemma returned?_eq_some {t : Task L E C R α} {a : α} :
    returned? t = some a ↔ t.program = .ret a := by
  obtain ⟨l, program⟩ := t
  cases program <;> simp [returned?]

/-- No task has anything left to do. -/
def Finished (cfg : Config S L E C R α) : Prop :=
  ∀ t ∈ cfg.tasks, (∃ e, t.program = .raise e) ∨
    ∃ a, t.program = .ret a ∧ sys.resumes a = none

lemma finished_iff {cfg : Config S L E C R α} :
    sys.Finished cfg ↔ ∀ p ∈ cfg.tasks.map (·.program), (∃ e, p = .raise e) ∨
      ∃ a, p = .ret a ∧ sys.resumes a = none := by
  rw [Finished, List.forall_mem_map]

/-- `cfg'` is reached from `cfg` by some interleaving. -/
inductive Reaches (cfg : Config S L E C R α) : Config S L E C R α → Prop
  | refl : Reaches cfg cfg
  | step {cfg₁ cfg₂ : Config S L E C R α} (ch : Choice L I) :
      Reaches cfg cfg₁ → sys.step cfg₁ ch = some cfg₂ → Reaches cfg cfg₂

variable {sys}

lemma Reaches.trans {c₁ c₂ c₃ : Config S L E C R α} (h₁ : sys.Reaches c₁ c₂)
    (h₂ : sys.Reaches c₂ c₃) : sys.Reaches c₁ c₃ := by
  induction h₂ with
  | refl => exact h₁
  | step ch _ hstep ih => exact ih.step ch hstep

lemma Reaches.single {c₁ c₂ : Config S L E C R α} {ch : Choice L I}
    (h : sys.step c₁ ch = some c₂) : sys.Reaches c₁ c₂ :=
  Reaches.refl.step ch h

/-- An executed run is an interleaving. -/
lemma reaches_of_run {cfg cfg' : Config S L E C R α} {choices : List (Choice L I)}
    (h : sys.run cfg choices = some cfg') : sys.Reaches cfg cfg' := by
  induction choices generalizing cfg with
  | nil =>
    cases h
    exact .refl
  | cons ch rest ih =>
    obtain ⟨cfg₁, hstep, hrest⟩ := Option.bind_eq_some_iff.mp h
    exact (Reaches.single hstep).trans (ih hrest)

/-- The configuration after the choices; the given one when they are not all available. -/
def after (sys : System S L I E C R α) (cfg : Config S L E C R α)
    (choices : List (Choice L I)) : Config S L E C R α :=
  (sys.run cfg choices).getD cfg

lemma reaches_after (cfg : Config S L E C R α) (choices : List (Choice L I)) :
    sys.Reaches cfg (sys.after cfg choices) := by
  unfold after
  cases h : sys.run cfg choices with
  | none => exact .refl
  | some cfg' => exact reaches_of_run h

lemma run_eq_after {cfg : Config S L E C R α} {choices : List (Choice L I)}
    (h : (sys.run cfg choices).isSome) : sys.run cfg choices = some (sys.after cfg choices) := by
  obtain ⟨cfg', hrun⟩ := Option.isSome_iff_exists.mp h
  simp [after, hrun]

/-- The induction rule of a run: what holds initially and is kept by every step holds
throughout. -/
lemma Reaches.invariant {P : Config S L E C R α → Prop} {cfg cfg' : Config S L E C R α}
    (h : sys.Reaches cfg cfg') (hinit : P cfg)
    (hstep : ∀ c₁ c₂ ch, sys.Reaches cfg c₁ → P c₁ → sys.step c₁ ch = some c₂ → P c₂) :
    P cfg' := by
  induction h with
  | refl => exact hinit
  | step ch hreach hs ih => exact hstep _ _ ch hreach ih hs

/-- Tasks whose bodies make only certain calls have only such calls left. -/
lemma Reaches.only {allowed : C → Prop} (hbody : ∀ l, (sys.body l).Only allowed)
    {cfg cfg' : Config S L E C R α} (h : sys.Reaches cfg cfg')
    (hinit : ∀ t ∈ cfg.tasks, t.program.Only allowed) :
    ∀ t ∈ cfg'.tasks, t.program.Only allowed := by
  refine Reaches.invariant (P := fun c => ∀ t ∈ c.tasks, t.program.Only allowed) h hinit
    fun c₁ c₂ ch _ ih hstep => ?_
  rcases sys.step_cases hstep with
    ⟨l, -, -, rfl⟩ | ⟨i, input, l, c, next, r, s, -, htask, -, rfl⟩ | ⟨i, l, a, l', -, -, -, rfl⟩
  · intro t ht
    rcases List.mem_append.mp ht with ht | ht
    · exact ih t ht
    · rw [List.mem_singleton.mp ht]
      exact hbody l
  · intro t ht
    rcases List.mem_append.mp ht with ht | ht
    · rcases List.mem_or_eq_of_mem_set ht with ht | rfl
      · exact ih t ht
      · exact (ih _ (List.mem_of_getElem? htask)).2 r
    · obtain ⟨l', -, rfl⟩ := List.mem_map.mp ht
      exact hbody l'
  · intro t ht
    rcases List.mem_or_eq_of_mem_set ht with ht | rfl
    · exact ih t ht
    · exact hbody l'

/-! ### What tasks return -/

variable (sys) in
/-- The system in which nobody sees what a task returns. -/
def forget : System S L I E C R Unit where
  body l := sys.body l >>= fun _ => .ret ()
  perform := sys.perform
  spawns := sys.spawns
  admits := sys.admits
  admitsDecidable := sys.admitsDecidable
  resumes _ := none

def forgetTask (t : Task L E C R α) : Task L E C R Unit :=
  ⟨t.label, t.program >>= fun _ => .ret ()⟩

def forgetResults (cfg : Config S L E C R α) : Config S L E C R Unit :=
  ⟨cfg.shared, cfg.tasks.map forgetTask⟩

/-- When no task continues, its steps are steps of the system. -/
lemma step_forget (hresumes : ∀ a, sys.resumes a = none) {cfg cfg' : Config S L E C R α}
    {ch : Choice L I} (h : sys.step cfg ch = some cfg') :
    sys.forget.step (forgetResults cfg) ch = some (forgetResults cfg') := by
  rcases sys.step_cases h with ⟨l, rfl, hadmits, rfl⟩ |
    ⟨i, input, l, c, next, r, s, rfl, htask, hperform, rfl⟩ |
    ⟨i, l, a, l', rfl, htask, hresume, rfl⟩
  · have hadmits' : sys.forget.admits cfg.shared l := hadmits
    simp only [step, forgetResults, List.map_append, List.map_cons, List.map_nil]
    exact if_pos hadmits'
  · have htask' : (cfg.tasks.map forgetTask)[i]? =
        some ⟨l, .call c fun r => next r >>= fun _ => .ret ()⟩ := by
      rw [List.getElem?_map, htask]
      rfl
    have hperform' : sys.forget.perform i l cfg.shared c input = some (r, s) := hperform
    simp only [step, forgetResults, htask', hperform', Option.map_some, List.map_append,
      List.map_set, List.map_map]
    rfl
  · cases (hresumes a).symm.trans hresume

/-- A task keeps its label, and what it has ended with. -/
lemma step_task (hresumes : ∀ a, sys.resumes a = none) {cfg cfg' : Config S L E C R α}
    {ch : Choice L I} (h : sys.step cfg ch = some cfg') {t : ℕ} {task : Task L E C R α}
    (htask : cfg.tasks[t]? = some task) : ∃ program, cfg'.tasks[t]? = some ⟨task.label, program⟩ ∧
      ((∀ c next, task.program ≠ .call c next) → program = task.program) := by
  have ht := (List.getElem?_eq_some_iff.mp htask).1
  rcases sys.step_cases h with ⟨l, -, -, rfl⟩ | ⟨i, input, l, c, next, r, s, -, hi, -, rfl⟩ |
    ⟨i, l, a, l', -, -, hresume, -⟩
  · exact ⟨task.program, by rw [List.getElem?_append_left ht, htask], fun _ => rfl⟩
  · have hlt : t < (cfg.tasks.set i ⟨l, next r⟩).length := by simpa using ht
    rw [List.getElem?_append_left hlt]
    by_cases hit : i = t
    · subst hit
      obtain rfl := Option.some.inj (htask.symm.trans hi)
      exact ⟨next r, List.getElem?_set_self ht, fun hended => absurd rfl (hended c next)⟩
    · exact ⟨task.program, by rw [List.getElem?_set_ne hit, htask], fun _ => rfl⟩
  · cases (hresumes a).symm.trans hresume

lemma Reaches.forget (hresumes : ∀ a, sys.resumes a = none) {cfg cfg' : Config S L E C R α}
    (h : sys.Reaches cfg cfg') :
    sys.forget.Reaches (forgetResults cfg) (forgetResults cfg') := by
  induction h with
  | refl => exact .refl
  | step ch _ hstep ih => exact ih.step ch (step_forget hresumes hstep)

end System

end Earth2Sandbox
