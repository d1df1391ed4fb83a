import Earth2Sandbox.Framework.Linearization
import Mathlib.Data.Finset.Card
import Mathlib.Data.List.Nodup

/-!
# Linearizability

Every task of a system performs one operation of a shared object.  When each operation takes effect
at once (`Program.Linearizes`), a run of any number of tasks can be told as its operations one after
the other: `Linearizable` asks for one sequence of operations that explains the whole run, and of
which an earlier part explains every earlier configuration.  Hence an operation that had returned
before another one was called comes first (`Linearizable.before`).

`linearizable_of_linearizes` is the theorem; the sequence grows by one with each call that has an
effect.
-/

namespace Earth2Sandbox

/-- An operation that has taken effect: the task that performs it, and its result. -/
structure Occurrence (L α : Type) where
  task : ℕ
  label : L
  result : α

/-- The operations take effect one after the other, the latest last. -/
inductive Sequential {L α V : Type} (effect : L → α → V → V → Prop) (v : V) :
    List (Occurrence L α) → V → Prop
  | nil : Sequential effect v [] v
  | snoc {operations : List (Occurrence L α)} {o : Occurrence L α} {v₁ v₂ : V} :
      Sequential effect v operations v₁ → effect o.label o.result v₁ v₂ →
        Sequential effect v (operations ++ [o]) v₂

/-- The induction rule of a sequence of operations: an invariant that each of them keeps. -/
lemma Sequential.invariant {L α V : Type} {effect : L → α → V → V → Prop} {v v' : V}
    {operations : List (Occurrence L α)} (h : Sequential effect v operations v')
    {P : List (Occurrence L α) → V → Prop} (hnil : P [] v)
    (hsnoc : ∀ earlier o v₁ v₂, P earlier v₁ → effect o.label o.result v₁ v₂ →
      P (earlier ++ [o]) v₂) : P operations v' := by
  induction h with
  | nil => exact hnil
  | snoc _ heffect ih => exact hsnoc _ _ _ _ ih heffect

namespace System

variable {S L I E C V : Type} {R : C → Type} {α : Type} (sys : System S L I E C R α)

/-- The operations explain what can be seen in the configuration: they belong to different tasks of
it and lead to its state, and every task that has returned is among them with what it returned.  No
task has raised. -/
structure Explains (view : S → V) (effect : L → α → V → V → Prop) (v : V)
    (operations : List (Occurrence L α)) (cfg : Config S L E C R α) : Prop where
  sequential : Sequential effect v operations (view cfg.shared)
  nodup : (operations.map (·.task)).Nodup
  label : ∀ o ∈ operations, ∃ p, cfg.tasks[o.task]? = some ⟨o.label, p⟩
  returned : ∀ i l a, cfg.tasks[i]? = some ⟨l, .ret a⟩ → ⟨i, l, a⟩ ∈ operations
  raised : ∀ t ∈ cfg.tasks, ∀ e, t.program ≠ .raise e

/-- Every run can be told as operations one after the other: one sequence explains the whole run,
and an earlier part of it every earlier configuration. -/
def Linearizable (view : S → V) (effect : L → α → V → V → Prop) (cfg : Config S L E C R α) :
    Prop :=
  ∀ choices cfg', sys.run cfg choices = some cfg' →
    ∃ operations, Explains view effect (view cfg.shared) operations cfg' ∧
      ∀ earlier later cfg₁, choices = earlier ++ later → sys.run cfg earlier = some cfg₁ →
        ∃ done, done <+: operations ∧ Explains view effect (view cfg.shared) done cfg₁

variable {sys} {view : S → V} {effect : L → α → V → V → Prop}

/-- An operation that had returned before another one was called comes before it. -/
lemma Explains.before {v : V} {done operations : List (Occurrence L α)}
    {cfg : Config S L E C R α} (h : Explains view effect v done cfg) (hdone : done <+: operations)
    {i : ℕ} {l : L} {a : α} (hreturned : cfg.tasks[i]? = some ⟨l, .ret a⟩)
    {o : Occurrence L α} (ho : o ∈ operations) (hcalled : cfg.tasks.length ≤ o.task) :
    ∃ later, operations = done ++ later ∧ ⟨i, l, a⟩ ∈ done ∧ o ∈ later := by
  obtain ⟨later, rfl⟩ := hdone
  refine ⟨later, rfl, h.returned _ _ _ hreturned, ?_⟩
  rcases List.mem_append.mp ho with ho | ho
  · obtain ⟨p, hp⟩ := h.label o ho
    rw [List.getElem?_eq_none hcalled] at hp
    cases hp
  · exact ho

/-! ## Counting operations -/

/-- The tasks of which `p` holds, told by the operation and what it has returned. -/
def tasksWhere (cfg : Config S L E C R α) (p : L → Option α → Bool) : Finset ℕ :=
  (Finset.range cfg.tasks.length).filter fun i =>
    cfg.tasks[i]?.any fun t => p t.label (returned? t)

lemma mem_tasksWhere {cfg : Config S L E C R α} {p : L → Option α → Bool} {i : ℕ} :
    i ∈ tasksWhere cfg p ↔ ∃ t, cfg.tasks[i]? = some t ∧ p t.label (returned? t) := by
  rw [tasksWhere, Finset.mem_filter, Finset.mem_range, Option.any_eq_true]
  exact ⟨fun h => h.2, fun ⟨t, ht, hp⟩ => ⟨(List.getElem?_eq_some_iff.mp ht).1, t, ht, hp⟩⟩

lemma tasksWhere_mono {cfg : Config S L E C R α} {p q : L → Option α → Bool}
    (h : ∀ l r, p l r → q l r) : tasksWhere cfg p ⊆ tasksWhere cfg q := by
  intro i hi
  obtain ⟨t, ht, hp⟩ := mem_tasksWhere.mp hi
  exact mem_tasksWhere.mpr ⟨t, ht, h _ _ hp⟩

namespace Explains

variable {v : V} {operations : List (Occurrence L α)} {cfg : Config S L E C R α}
  (h : Explains view effect v operations cfg) (p : L → α → Bool)
include h

lemma card_returned_le :
    (tasksWhere cfg fun l r => r.any (p l)).card ≤
      operations.countP fun o => p o.label o.result := by
  have hsub : tasksWhere cfg (fun l r => r.any (p l)) ⊆
      ((operations.filter fun o => p o.label o.result).map (·.task)).toFinset := by
    intro i hi
    obtain ⟨⟨l, program⟩, ht, hp⟩ := mem_tasksWhere.mp hi
    obtain ⟨a, ha, hpa⟩ := (Option.any_eq_true _ _).mp hp
    obtain rfl := returned?_eq_some.mp ha
    simpa using ⟨⟨i, l, a⟩, ⟨h.returned i l a ht, hpa⟩, rfl⟩
  refine (Finset.card_le_card hsub).trans ((List.toFinset_card_le _).trans ?_)
  rw [List.length_map, List.countP_eq_length_filter]

/-- What has taken effect has been called, and nothing else has been returned for it. -/
lemma countP_le (called : L → Bool) (hcalled : ∀ l a, p l a → called l) :
    operations.countP (fun o => p o.label o.result) ≤
      (tasksWhere cfg fun l r => called l && r.all (p l)).card := by
  have hsub : ((operations.filter fun o => p o.label o.result).map (·.task)).toFinset ⊆
      tasksWhere cfg fun l r => called l && r.all (p l) := by
    intro i hi
    obtain ⟨o, ho, rfl⟩ := List.mem_map.mp (List.mem_toFinset.mp hi)
    obtain ⟨ho, hpo⟩ := List.mem_filter.mp ho
    obtain ⟨program, ht⟩ := h.label o ho
    refine mem_tasksWhere.mpr ⟨_, ht, (Bool.and_eq_true _ _).mpr
      ⟨hcalled _ _ hpo, (Option.all_eq_true _ _).mpr fun a ha => ?_⟩⟩
    obtain rfl := returned?_eq_some.mp ha
    -- a task has one result
    have hresult := List.inj_on_of_nodup_map h.nodup (h.returned _ _ _ ht) ho rfl
    rwa [← hresult] at hpo
  have hnodup : ((operations.filter fun o => p o.label o.result).map (·.task)).Nodup :=
    (List.filter_sublist.map _).nodup h.nodup
  rw [List.countP_eq_length_filter, ← List.length_map, ← List.toFinset_card_of_nodup hnodup]
  exact Finset.card_le_card hsub

/-- When every task has returned, what has taken effect is what has been returned. -/
lemma card_returned (called : L → Bool) (hcalled : ∀ l a, p l a → called l)
    (hfinished : ∀ t ∈ cfg.tasks, (returned? t).isSome) :
    (tasksWhere cfg fun l r => r.any (p l)).card =
        operations.countP (fun o => p o.label o.result) ∧
      (tasksWhere cfg fun l r => called l && r.all (p l)).card =
        operations.countP fun o => p o.label o.result := by
  have hsub : tasksWhere cfg (fun l r => called l && r.all (p l)) ⊆
      tasksWhere cfg fun l r => r.any (p l) := by
    intro i hi
    obtain ⟨t, ht, hp⟩ := mem_tasksWhere.mp hi
    obtain ⟨a, ha⟩ := Option.isSome_iff_exists.mp (hfinished t (List.mem_of_getElem? ht))
    simp only [ha, Option.all_some, Bool.and_eq_true] at hp
    exact mem_tasksWhere.mpr ⟨t, ht, by simp [ha, hp.2]⟩
  have hreturned := h.card_returned_le p
  have htaken := h.countP_le p called hcalled
  have hall := Finset.card_le_card hsub
  omega

end Explains

/-! ## The theorem -/

/-- The result of a task's operation, once it has taken effect. -/
def resultOf (operations : List (Occurrence L α)) (i : ℕ) : Option α :=
  (operations.find? (·.task = i)).map (·.result)

lemma resultOf_eq_none {operations : List (Occurrence L α)} {i : ℕ} :
    resultOf operations i = none ↔ ∀ o ∈ operations, o.task ≠ i := by
  simp [resultOf]

lemma resultOf_append {operations : List (Occurrence L α)} {o : Occurrence L α} {i : ℕ}
    (hnew : ∀ o' ∈ operations, o'.task ≠ o.task) :
    resultOf (operations ++ [o]) i =
      if i = o.task then some o.result else resultOf operations i := by
  unfold resultOf
  by_cases hi : i = o.task
  · subst hi
    have hnone : operations.find? (·.task = o.task) = none := by simpa using hnew
    simp [List.find?_append, hnone]
  · simp [List.find?_append, hi, Ne.symm hi]

/-- What is known of a configuration in the course of a run: each task is still safe, from the
result of its operation. -/
structure Underway (sys : System S L I E C R α) (view : S → V) (effect : L → α → V → V → Prop)
    (v : V) (operations : List (Occurrence L α)) (cfg : Config S L E C R α) : Prop where
  sequential : Sequential effect v operations (view cfg.shared)
  nodup : (operations.map (·.task)).Nodup
  label : ∀ o ∈ operations, ∃ p, cfg.tasks[o.task]? = some ⟨o.label, p⟩
  safe : ∀ (i : ℕ) (l : L) (p : Program E C R α), cfg.tasks[i]? = some ⟨l, p⟩ →
    p.Safe (Program.linearization view (effect l)) (sys.exec i l) (resultOf operations i) cfg.shared

/-- What has taken effect explains what can be seen. -/
lemma Underway.explains {v : V} {operations : List (Occurrence L α)} {cfg : Config S L E C R α}
    (h : Underway sys view effect v operations cfg) : Explains view effect v operations cfg where
  sequential := h.sequential
  nodup := h.nodup
  label := h.label
  returned i l a htask := by
    obtain ⟨b, hresult, heq⟩ := h.safe i l _ htask
    cases heq
    obtain ⟨o, hfind, rfl⟩ := Option.map_eq_some_iff.mp hresult
    obtain ⟨p, hp⟩ := h.label o (List.mem_of_find?_eq_some hfind)
    have htaskOf : o.task = i := by simpa using List.find?_some hfind
    rw [htaskOf, htask] at hp
    cases hp
    exact htaskOf ▸ List.mem_of_find?_eq_some hfind
  raised t ht e hraise := by
    obtain ⟨i, hi⟩ := List.getElem?_of_mem ht
    have hsafe := h.safe i t.label t.program hi
    rw [hraise] at hsafe
    obtain ⟨b, -, heq⟩ := hsafe
    cases heq

/-- What another task does cannot disturb an operation. -/
lemma safe_linearization {i : ℕ} {l : L} {p : Program E C R α} {g : Option α} {s s' : S}
    (h : p.Safe (Program.linearization view (effect l)) (sys.exec i l) g s) :
    p.Safe (Program.linearization view (effect l)) (sys.exec i l) g s' :=
  Program.Safe.stable (s := s) (fun _ _ _ _ _ => trivial) (fun _ _ hpost => hpost) trivial h

section Runs

variable (hbody : ∀ i l, (sys.body l).Linearizes (sys.exec i l) view (effect l))
include hbody

/-- One step: at most one operation takes effect. -/
lemma Underway.step (hresumes : ∀ a, sys.resumes a = none) {v : V}
    {operations : List (Occurrence L α)} {cfg cfg' : Config S L E C R α} {ch : Choice L I}
    (h : Underway sys view effect v operations cfg) (hstep : sys.step cfg ch = some cfg') :
    ∃ operations', operations <+: operations' ∧ Underway sys view effect v operations' cfg' := by
  have hlt : ∀ o ∈ operations, o.task < cfg.tasks.length := by
    intro o ho
    obtain ⟨p, hp⟩ := h.label o ho
    exact (List.getElem?_eq_some_iff.mp hp).1
  have hnone : ∀ i, cfg.tasks.length ≤ i → resultOf operations i = none :=
    fun i hi => resultOf_eq_none.mpr fun o ho => Nat.ne_of_lt (Nat.lt_of_lt_of_le (hlt o ho) hi)
  obtain ⟨l, -, -, rfl⟩ | ⟨i, input, l, c, next, r, s, -, htask, hperf, rfl⟩ |
    ⟨i, l, a, l', -, -, hres, -⟩ := sys.step_cases hstep
  · -- an operation is called
    refine ⟨operations, List.prefix_rfl, h.sequential, h.nodup, fun o ho => ?_, fun i l' p hi => ?_⟩
    · obtain ⟨p, hp⟩ := h.label o ho
      exact ⟨p, by rw [List.getElem?_append_left (hlt o ho), hp]⟩
    · by_cases hold : i < cfg.tasks.length
      · exact h.safe i l' p (by rwa [List.getElem?_append_left hold] at hi)
      · rw [hnone i (by omega)]
        rw [List.getElem?_append_right (by omega), List.getElem?_singleton] at hi
        split at hi
        · cases hi
          exact hbody i l _
        · cases hi
  · -- a call of the operation of task `i`
    have hi : i < cfg.tasks.length := (List.getElem?_eq_some_iff.mp htask).1
    obtain ⟨g, hguar, hnext⟩ := h.safe i l _ htask cfg.shared trivial r s ⟨input, hperf⟩
    have hlabel : ∀ o ∈ operations, ∃ p,
        (cfg.tasks.set i ⟨l, next r⟩ ++ (sys.spawns c r).map sys.task)[o.task]? =
          some ⟨o.label, p⟩ := by
      intro o ho
      rw [List.getElem?_append_left (by simpa using hlt o ho)]
      obtain ⟨p, hp⟩ := h.label o ho
      by_cases hio : i = o.task
      · rw [← hio, htask] at hp
        cases hp
        exact ⟨next r, by rw [← hio, List.getElem?_set_self hi]⟩
      · exact ⟨p, by rw [List.getElem?_set_ne hio, hp]⟩
    -- the other tasks keep what they know, for any operations that differ in task `i` only
    have hsafe : ∀ operations' : List (Occurrence L α), resultOf operations' i = g →
        (∀ j, j ≠ i → resultOf operations' j = resultOf operations j) →
        ∀ (j : ℕ) (l' : L) (p : Program E C R α),
        (cfg.tasks.set i ⟨l, next r⟩ ++ (sys.spawns c r).map sys.task)[j]? = some ⟨l', p⟩ →
        p.Safe (Program.linearization view (effect l')) (sys.exec j l')
          (resultOf operations' j) s := by
      intro operations' hself hothers j l' p hj
      by_cases hold : j < cfg.tasks.length
      · rw [List.getElem?_append_left (by simpa using hold)] at hj
        by_cases hij : i = j
        · subst hij
          rw [List.getElem?_set_self hi] at hj
          cases hj
          rw [hself]
          exact hnext
        · rw [List.getElem?_set_ne hij] at hj
          rw [hothers j (Ne.symm hij)]
          exact safe_linearization (h.safe j l' p hj)
      · rw [hothers j (by omega), hnone j (by omega)]
        rw [List.getElem?_append_right (by simpa using hold), List.getElem?_map,
          Option.map_eq_some_iff] at hj
        obtain ⟨l'', -, heq⟩ := hj
        cases heq
        exact hbody j l' s
    rcases hguar with ⟨hview, hg⟩ | ⟨a, hbefore, rfl, heffect⟩
    · refine ⟨operations, List.prefix_rfl, hview ▸ h.sequential, h.nodup, hlabel,
        hsafe operations hg.symm fun _ _ => rfl⟩
    · have hnew : ∀ o ∈ operations, o.task ≠ i := resultOf_eq_none.mp hbefore
      refine ⟨operations ++ [⟨i, l, a⟩], List.prefix_append _ _, h.sequential.snoc heffect, ?_,
        fun o ho => ?_, hsafe _ ?_ fun j hj => ?_⟩
      · rw [List.map_append, List.map_singleton]
        refine List.nodup_append.mpr ⟨h.nodup, List.nodup_singleton _, fun j hj k hk => ?_⟩
        obtain ⟨o, ho, rfl⟩ := List.mem_map.mp hj
        rw [List.mem_singleton.mp hk]
        exact hnew o ho
      · rcases List.mem_append.mp ho with ho | ho
        · exact hlabel o ho
        · rw [List.mem_singleton.mp ho]
          exact ⟨next r, by
            rw [List.getElem?_append_left (by simpa using hi), List.getElem?_set_self hi]⟩
      · rw [resultOf_append hnew, if_pos rfl]
      · rw [resultOf_append hnew, if_neg hj]
  · rw [hresumes] at hres
    cases hres

/-- A run: the operations that have taken effect at its end, and on the way. -/
lemma Underway.run (hresumes : ∀ a, sys.resumes a = none) {v : V}
    {operations : List (Occurrence L α)} {cfg cfg' : Config S L E C R α}
    {choices : List (Choice L I)} (h : Underway sys view effect v operations cfg)
    (hrun : sys.run cfg choices = some cfg') :
    ∃ operations', operations <+: operations' ∧ Underway sys view effect v operations' cfg' ∧
      ∀ earlier later cfg₁, choices = earlier ++ later → sys.run cfg earlier = some cfg₁ →
        ∃ done, done <+: operations' ∧ Underway sys view effect v done cfg₁ := by
  induction choices generalizing cfg operations with
  | nil =>
    cases hrun
    refine ⟨operations, List.prefix_rfl, h, fun earlier later cfg₁ heq hearlier => ?_⟩
    obtain ⟨rfl, rfl⟩ := List.append_eq_nil_iff.mp heq.symm
    cases hearlier
    exact ⟨operations, List.prefix_rfl, h⟩
  | cons ch rest ih =>
    obtain ⟨cfg₁, hstep, hrest⟩ := Option.bind_eq_some_iff.mp hrun
    obtain ⟨operations₁, hgrows, h₁⟩ := h.step hbody hresumes hstep
    obtain ⟨operations', hgrows', h', hearlier⟩ := ih h₁ hrest
    refine ⟨operations', hgrows.trans hgrows', h', fun earlier later cfg₂ heq hrun₂ => ?_⟩
    cases earlier with
    | nil =>
      cases hrun₂
      exact ⟨operations, hgrows.trans hgrows', h⟩
    | cons ch' earlier =>
      obtain ⟨rfl, hrest'⟩ := List.cons_eq_cons.mp heq
      have hrun₁ : sys.run cfg₁ earlier = some cfg₂ := by
        simpa [System.run, hstep] using hrun₂
      exact hearlier earlier later cfg₂ hrest' hrun₁

/-- **Operations that take effect at once make runs linearizable.** -/
theorem linearizable_of_linearizes (hresumes : ∀ a, sys.resumes a = none)
    (cfg : Config S L E C R α) (hcfg : cfg.tasks = []) : sys.Linearizable view effect cfg := by
  have hstart : Underway sys view effect (view cfg.shared) [] cfg :=
    ⟨.nil, List.nodup_nil, by simp, by simp [hcfg]⟩
  intro choices cfg' hrun
  obtain ⟨operations, -, h, hearlier⟩ := hstart.run hbody hresumes hrun
  refine ⟨operations, h.explains, fun earlier later cfg₁ heq hrun₁ => ?_⟩
  obtain ⟨done, hdone, h₁⟩ := hearlier earlier later cfg₁ heq hrun₁
  exact ⟨done, hdone, h₁.explains⟩

end Runs

end System

end Earth2Sandbox
