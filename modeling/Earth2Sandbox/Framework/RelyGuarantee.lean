import Earth2Sandbox.Framework.Interleaving

/-!
# Rely–guarantee reasoning for interleaved programs

A task is verified on its own, against a `Contract`: what it may *rely* on the other tasks to
leave alone, what it must *guarantee* about each of its own calls, and what holds when it
ends.  A contract is stated relative to a ghost value `g : G` of the task, the proof's record
of what the task has learned or owns so far; each call may replace it.

`Program.Safe` is the verification condition, computed along the program: before every call
the shared state may change as the contract's rely allows, and the call itself must fulfil
the guarantee.  `Verified` collects the obligations that make the parts fit together — one
task's guarantee implies every other task's rely — and `Verified.safe_of_reaches` is the
soundness theorem: in every reachable configuration the invariant holds and every task is
still safe.
-/

namespace Earth2Sandbox

/-- What a task with ghost value `g : G` may assume and must deliver. -/
structure Contract (S G E C : Type) (R : C → Type) (α : Type) where
  /-- How the shared state may change between two calls of the task. -/
  rely : G → S → S → Prop
  /-- What a call of the task does, with its new ghost value. -/
  guar : G → S → (c : C) → R c → S → G → Prop
  /-- What holds when the task has returned or raised. -/
  post : G → S → Except E α → Prop

variable {S G L I E C : Type} {R : C → Type} {α β : Type}

namespace Contract

/-- The same contract with another postcondition. -/
def withPost (K : Contract S G E C R α) (post : G → S → Except E β → Prop) :
    Contract S G E C R β :=
  ⟨K.rely, K.guar, post⟩

@[simp] lemma withPost_rely (K : Contract S G E C R α) (Q : G → S → Except E β → Prop) :
    (K.withPost Q).rely = K.rely := rfl

@[simp] lemma withPost_guar (K : Contract S G E C R α) (Q : G → S → Except E β → Prop) :
    (K.withPost Q).guar = K.guar := rfl

@[simp] lemma withPost_post (K : Contract S G E C R α) (Q : G → S → Except E β → Prop) :
    (K.withPost Q).post = Q := rfl

end Contract

namespace Program

/-- The program fulfils the contract from ghost value `g` and shared state `s`, when its calls
have the effects `exec`. -/
def Safe (K : Contract S G E C R α) (exec : S → (c : C) → R c → S → Prop) :
    Program E C R α → G → S → Prop
  | ret a, g, s => K.post g s (.ok a)
  | raise e, g, s => K.post g s (.error e)
  | call c next, g, s =>
    ∀ s₁, K.rely g s s₁ → ∀ r s₂, exec s₁ c r s₂ →
      ∃ g', K.guar g s₁ c r s₂ g' ∧ Safe K exec (next r) g' s₂

variable {K : Contract S G E C R α} {exec : S → (c : C) → R c → S → Prop}

@[simp] lemma safe_ret {a : α} {g : G} {s : S} :
    (ret a : Program E C R α).Safe K exec g s ↔ K.post g s (.ok a) := Iff.rfl

@[simp] lemma safe_raise {e : E} {g : G} {s : S} :
    (raise e : Program E C R α).Safe K exec g s ↔ K.post g s (.error e) := Iff.rfl

lemma safe_call {c : C} {next : R c → Program E C R α} {g : G} {s : S} :
    (call c next).Safe K exec g s ↔
      ∀ s₁, K.rely g s s₁ → ∀ r s₂, exec s₁ c r s₂ →
        ∃ g', K.guar g s₁ c r s₂ g' ∧ (next r).Safe K exec g' s₂ := Iff.rfl

/-- The sequencing rule: the first program's postcondition is what the rest starts from. -/
lemma Safe.bind {K : Contract S G E C R β} {p : Program E C R α} {f : α → Program E C R β}
    {Q : G → S → Except E α → Prop} {g : G} {s : S}
    (hp : p.Safe (K.withPost Q) exec g s)
    (hret : ∀ a g s, Q g s (.ok a) → (f a).Safe K exec g s)
    (hraise : ∀ e g s, Q g s (.error e) → K.post g s (.error e)) :
    (p >>= f).Safe K exec g s := by
  induction p generalizing g s with
  | ret a => exact hret a g s hp
  | raise e => exact hraise e g s hp
  | call c next ih =>
    intro s₁ hrely r s₂ hexec
    obtain ⟨g', hguar, hnext⟩ := hp s₁ hrely r s₂ hexec
    exact ⟨g', hguar, ih r hnext⟩

/-- The handler rule: the handled program ends where `p` does, with the outcome as a value. -/
lemma Safe.attempt {K : Contract S G E C R (Except E α)} {p : Program E C R α} {g : G} {s : S}
    (hp : p.Safe (K.withPost fun g s o => K.post g s (.ok o)) exec g s) :
    p.attempt.Safe K exec g s := by
  induction p generalizing g s with
  | ret a => exact hp
  | raise e => exact hp
  | call c next ih =>
    intro s₁ hrely r s₂ hexec
    obtain ⟨g', hguar, hnext⟩ := hp s₁ hrely r s₂ hexec
    exact ⟨g', hguar, ih r hnext⟩

lemma Safe.mono {p : Program E C R α} {Q : G → S → Except E α → Prop} {g : G} {s : S}
    (hp : p.Safe K exec g s) (hpost : ∀ g s o, K.post g s o → Q g s o) :
    p.Safe (K.withPost Q) exec g s := by
  induction p generalizing g s with
  | ret a => exact hpost g s _ hp
  | raise e => exact hpost g s _ hp
  | call c next ih =>
    intro s₁ hrely r s₂ hexec
    obtain ⟨g', hguar, hnext⟩ := hp s₁ hrely r s₂ hexec
    exact ⟨g', hguar, ih r hnext⟩

/-- Interference that the contract allows keeps a program safe. -/
lemma Safe.stable {p : Program E C R α} {g : G} {s s' : S}
    (htrans : ∀ s₁ s₂ s₃, K.rely g s₁ s₂ → K.rely g s₂ s₃ → K.rely g s₁ s₃)
    (hpost : ∀ o, K.rely g s s' → K.post g s o → K.post g s' o)
    (hrely : K.rely g s s') (hp : p.Safe K exec g s) : p.Safe K exec g s' := by
  cases p with
  | ret a => exact hpost _ hrely hp
  | raise e => exact hpost _ hrely hp
  | call c next => exact fun s₁ h => hp s₁ (htrans _ _ _ hrely h)

/-- What is safe does not depend on why the calls are allowed. -/
lemma safe_restrict {allowed : C → Prop}
    {K : Contract S G E { c // allowed c } (fun c => R c.1) α}
    {exec : S → (c : { c // allowed c }) → R c.1 → S → Prop} {p q : Program E C R α}
    (hp : p.Only allowed) (heq : p = q) {g : G} {s : S}
    (hq : ∀ h : q.Only allowed, (q.restrict h).Safe K exec g s) :
    (p.restrict hp).Safe K exec g s := by
  subst heq
  exact hq hp

/-- A program over some calls is safe as a program over more, when the contracts agree on these. -/
lemma Safe.embed {E' C' : Type} {R' : C' → Type} {K' : Contract S G E' C' R' α} {wrap : E → E'}
    {inject : C → C'} {reply : (c : C) → R' (inject c) → R c}
    {exec' : S → (c : C') → R' c → S → Prop}
    (hrely : ∀ g s s', K'.rely g s s' → K.rely g s s')
    (hexec : ∀ s c r s', exec' s (inject c) r s' → exec s c (reply c r) s')
    (hguar : ∀ g s c r s' g', K.guar g s c (reply c r) s' g' → K'.guar g s (inject c) r s' g')
    (hpost : ∀ g s outcome, K.post g s outcome → K'.post g s (outcome.mapError wrap))
    {p : Program E C R α} {g : G} {s : S} (hp : p.Safe K exec g s) :
    (p.embed wrap inject reply).Safe K' exec' g s := by
  induction p generalizing g s with
  | ret a => exact hpost g s _ hp
  | raise e => exact hpost g s _ hp
  | call c next ih =>
    intro s₁ hs₁ r s₂ hcall
    obtain ⟨g', hguar', hnext⟩ := hp s₁ (hrely g s s₁ hs₁) _ _ (hexec s₁ c r s₂ hcall)
    exact ⟨g', hguar g s₁ c r s₂ g' hguar', ih _ hnext⟩

/-- A program that runs alone, with interference as its contract allows, fulfils its
postcondition, and every call fulfils the guarantee. -/
theorem Safe.eval (perform : (c : C) → S → R c × S) (env : ℕ → S → S) {allowed : C → Prop}
    (henv : ∀ g n s, K.rely g s (env n s))
    (hguar : ∀ g s c r s' g', K.guar g s c r s' g' → allowed c) {p : Program E C R α} {g : G}
    {s : S} (hp : p.Safe K (fun s c r s' => perform c s = (r, s')) g s) (n : ℕ) :
    (∃ g', K.post g' (p.eval perform env n s).2.2 (p.eval perform env n s).1) ∧
      ∀ c ∈ p.calls perform env n s, allowed c := by
  induction p generalizing g s n with
  | ret a => exact ⟨⟨g, hp⟩, by simp [calls]⟩
  | raise e => exact ⟨⟨g, hp⟩, by simp [calls]⟩
  | call c next ih =>
    obtain ⟨g', hcall, hnext⟩ := hp (env n s) (henv g n s) _ _ rfl
    obtain ⟨hpost, hcalls⟩ := ih _ hnext (n + 1)
    refine ⟨hpost, fun d hd => ?_⟩
    rcases List.mem_cons.mp hd with rfl | hd
    · exact hguar _ _ _ _ _ _ hcall
    · exact hcalls d hd

end Program

namespace System

variable (sys : System S L I E C R α)

/-- The effects of the calls of task `i` under label `l`, over all inputs. -/
def exec (i : ℕ) (l : L) (s : S) (c : C) (r : R c) (s' : S) : Prop :=
  ∃ input, sys.perform i l s c input = some (r, s')

/-- Every task is safe for its ghost value, and the invariant holds of the ghosts together. -/
def AllSafe (K : Contract S G E C R α) (inv : S → List G → Prop)
    (cfg : Config S L E C R α) (γ : List G) : Prop :=
  inv cfg.shared γ ∧ γ.length = cfg.tasks.length ∧
    ∀ (i : ℕ) (t : Task L E C R α) (g : G), cfg.tasks[i]? = some t → γ[i]? = some g →
      t.program.Safe K (sys.exec i t.label) g cfg.shared

/-- The ghost values of the tasks a call starts. -/
def spawnedGhosts (init : ℕ → L → G) (n : ℕ) (ls : List L) : List G :=
  ls.mapIdx fun k l => init (n + k) l

/-- The obligations under which contracts proved task by task hold of the whole system. -/
structure Verified (K : Contract S G E C R α) (inv : S → List G → Prop)
    (init : ℕ → L → G) : Prop where
  rely_refl : ∀ g s, K.rely g s s
  rely_trans : ∀ g s₁ s₂ s₃, K.rely g s₁ s₂ → K.rely g s₂ s₃ → K.rely g s₁ s₃
  post_stable : ∀ g s s' o, K.rely g s s' → K.post g s o → K.post g s' o
  /-- One task's guarantee is what the others rely on. -/
  interfere : ∀ (s : S) (γ : List G) (i j : ℕ) (g h : G) (c : C) (r : R c) (s' : S) (g' : G),
    inv s γ → γ[i]? = some g → γ[j]? = some h → i ≠ j → K.guar g s c r s' g' → K.rely h s s'
  preserve : ∀ (s : S) (γ : List G) (i : ℕ) (g : G) (c : C) (r : R c) (s' : S) (g' : G),
    inv s γ → γ[i]? = some g → K.guar g s c r s' g' →
      inv s' (γ.set i g' ++ spawnedGhosts init γ.length (sys.spawns c r))
  spawned : ∀ (s : S) (γ : List G) (i : ℕ) (g : G) (c : C) (r : R c) (s' : S) (g' : G),
    inv s γ → γ[i]? = some g → K.guar g s c r s' g' →
      ∀ n, ∀ l ∈ sys.spawns c r, (sys.body l).Safe K (sys.exec n l) (init n l) s'
  admitted : ∀ (s : S) (γ : List G) (l : L), inv s γ → sys.admits s l →
    inv s (γ ++ [init γ.length l]) ∧
      (sys.body l).Safe K (sys.exec γ.length l) (init γ.length l) s
  resumed : ∀ (g : G) (s : S) (a : α) (l : L) (i : ℕ), K.post g s (.ok a) →
    sys.resumes a = some l → (sys.body l).Safe K (sys.exec i l) g s

namespace Verified

variable {sys} {K : Contract S G E C R α} {inv : S → List G → Prop} {init : ℕ → L → G}
  (V : sys.Verified K inv init)
include V

/-- One step keeps every task safe. -/
lemma step_safe {cfg cfg' : Config S L E C R α} {ch : Choice L I} {γ : List G}
    (hsafe : sys.AllSafe K inv cfg γ) (hstep : sys.step cfg ch = some cfg') :
    ∃ γ', sys.AllSafe K inv cfg' γ' := by
  obtain ⟨hinv, hlen, htasks⟩ := hsafe
  obtain ⟨l, -, hadm, rfl⟩ | ⟨i, input, l, c, next, r, s, -, htask, hperf, rfl⟩ |
    ⟨i, l, a, l', -, htask, hres, rfl⟩ := sys.step_cases hstep
  · -- a new task at the end
    obtain ⟨hinv', hnew⟩ := V.admitted _ _ _ hinv hadm
    refine ⟨γ ++ [init γ.length l], hinv', by simp [hlen], fun i t g ht hg => ?_⟩
    by_cases hi : i < cfg.tasks.length
    · rw [List.getElem?_append_left hi] at ht
      rw [List.getElem?_append_left (hlen ▸ hi)] at hg
      exact htasks i t g ht hg
    · have hi' : i = cfg.tasks.length := by
        have := (List.getElem?_eq_some_iff.mp ht).1
        simp only [List.length_append, List.length_singleton] at this
        omega
      subst hi'
      rw [List.getElem?_append_right (Nat.le_refl _), Nat.sub_self] at ht
      rw [← hlen, List.getElem?_append_right (Nat.le_refl _), Nat.sub_self] at hg
      cases ht
      cases hg
      rw [← hlen]
      exact hnew
  · -- a call of task `i`
    have hi : i < cfg.tasks.length := (List.getElem?_eq_some_iff.mp htask).1
    obtain ⟨g, hg⟩ : ∃ g, γ[i]? = some g := ⟨_, List.getElem?_eq_getElem (hlen ▸ hi)⟩
    obtain ⟨g', hguar, hnext⟩ :=
      htasks i _ g htask hg cfg.shared (V.rely_refl _ _) r s ⟨input, hperf⟩
    refine ⟨_, V.preserve _ _ _ _ _ _ _ _ hinv hg hguar, by simp [spawnedGhosts, hlen],
      fun j t h ht hh => ?_⟩
    by_cases hj : j < cfg.tasks.length
    · rw [List.getElem?_append_left (by simpa using hj)] at ht
      rw [List.getElem?_append_left (by simpa [hlen] using hj)] at hh
      by_cases hij : i = j
      · subst hij
        rw [List.getElem?_set_self hi] at ht
        rw [List.getElem?_set_self (hlen ▸ hi)] at hh
        cases ht
        cases hh
        exact hnext
      · rw [List.getElem?_set_ne hij] at ht hh
        have hrely := V.interfere _ _ _ _ _ _ _ _ _ _ hinv hg hh hij hguar
        exact (htasks j t h ht hh).stable (V.rely_trans h) (fun o => V.post_stable h _ _ o) hrely
    · rw [List.getElem?_append_right (by simpa using Nat.le_of_not_lt hj)] at ht
      rw [List.getElem?_append_right (by simpa [hlen] using Nat.le_of_not_lt hj)] at hh
      simp only [List.length_set, List.getElem?_map, Option.map_eq_some_iff] at ht
      obtain ⟨l', hl', rfl⟩ := ht
      simp only [List.length_set, spawnedGhosts, List.getElem?_mapIdx, hlen, hl',
        Option.map_some, Option.some.injEq] at hh
      have hmem : l' ∈ sys.spawns c r := List.mem_of_getElem? hl'
      have hidx : cfg.tasks.length + (j - cfg.tasks.length) = j := by omega
      rw [hidx] at hh
      subst hh
      exact V.spawned _ _ _ _ _ _ _ _ hinv hg hguar j l' hmem
  · -- task `i` continues under another label
    have hi : i < cfg.tasks.length := (List.getElem?_eq_some_iff.mp htask).1
    refine ⟨γ, hinv, by simp [hlen], fun j t h ht hh => ?_⟩
    by_cases hij : i = j
    · subst hij
      rw [List.getElem?_set_self hi] at ht
      cases ht
      exact V.resumed _ _ _ _ _ (htasks i _ h htask hh) hres
    · rw [List.getElem?_set_ne hij] at ht
      exact htasks j t h ht hh

/-- **Soundness.**  Contracts proved task by task hold in every reachable configuration. -/
theorem safe_of_reaches {cfg cfg' : Config S L E C R α}
    (hinit : ∃ γ, sys.AllSafe K inv cfg γ) (hreach : sys.Reaches cfg cfg') :
    ∃ γ, sys.AllSafe K inv cfg' γ :=
  hreach.invariant (P := fun c => ∃ γ, sys.AllSafe K inv c γ) hinit
    fun _ _ _ _ ⟨_, hγ⟩ hstep => V.step_safe hγ hstep

end Verified

end System

end Earth2Sandbox
