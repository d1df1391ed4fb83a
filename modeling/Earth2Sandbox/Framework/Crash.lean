import Earth2Sandbox.Framework.RelyGuarantee

/-!
# Programs that are cut short

A program runs to its end, or the process dies on the way: between two calls, or inside one,
which then leaves a *torn* state.  `Program.Completes` and `Program.Dies` are the two, for a
program whose surroundings change the state between its calls as `rely` says.

A contract covers both: when its guarantee says of every call that the state before it and the
states inside it are acceptable, every state in which the process can die is acceptable or one
that the postcondition describes (`Safe.dies`).
-/

namespace Earth2Sandbox

variable {S G E C : Type} {R : C → Type} {α : Type}

namespace Program

/-- The program runs to its end, with this outcome. -/
def Completes (rely : S → S → Prop) (exec : S → (c : C) → R c → S → Prop) :
    Program E C R α → S → Except E α → S → Prop
  | ret a, s, o, s' => o = .ok a ∧ s' = s
  | raise e, s, o, s' => o = .error e ∧ s' = s
  | call c next, s, o, s' =>
    ∃ s₁ r s₂, rely s s₁ ∧ exec s₁ c r s₂ ∧ Completes rely exec (next r) s₂ o s'

/-- The process dies in the course of the program. -/
def Dies (rely : S → S → Prop) (exec : S → (c : C) → R c → S → Prop) (torn : C → S → S → Prop) :
    Program E C R α → S → S → Prop
  | ret _, s, s' => s' = s
  | raise _, s, s' => s' = s
  | call c next, s, s' => ∃ s₁, rely s s₁ ∧
      (s' = s₁ ∨ torn c s₁ s' ∨ ∃ r s₂, exec s₁ c r s₂ ∧ Dies rely exec torn (next r) s₂ s')

variable {rely : S → S → Prop} {exec : S → (c : C) → R c → S → Prop} {torn : C → S → S → Prop}

/-- A program whose calls are always answered runs to its end. -/
lemma exists_completes (hrely : ∀ s, rely s s) (htotal : ∀ s c, ∃ r s', exec s c r s')
    (p : Program E C R α) (s : S) : ∃ o s', p.Completes rely exec s o s' := by
  induction p generalizing s with
  | ret a => exact ⟨_, s, rfl, rfl⟩
  | raise e => exact ⟨_, s, rfl, rfl⟩
  | call c next ih =>
    obtain ⟨r, s₂, hexec⟩ := htotal s c
    obtain ⟨o, s', hnext⟩ := ih r s₂
    exact ⟨o, s', s, r, s₂, hrely s, hexec, hnext⟩

variable {K : Contract S G E C R α} {p : Program E C R α} {g : G} {s s' : S}

/-- A program that runs to its end fulfils its postcondition. -/
lemma Safe.completes (hrely : ∀ g s s', rely s s' → K.rely g s s') (hp : p.Safe K exec g s)
    {o : Except E α} (h : p.Completes rely exec s o s') : ∃ g', K.post g' s' o := by
  induction p generalizing g s with
  | ret a =>
    obtain ⟨rfl, rfl⟩ := h
    exact ⟨g, hp⟩
  | raise e =>
    obtain ⟨rfl, rfl⟩ := h
    exact ⟨g, hp⟩
  | call c next ih =>
    obtain ⟨s₁, r, s₂, hs, hexec, hnext⟩ := h
    obtain ⟨g', -, hsafe⟩ := hp s₁ (hrely g s s₁ hs) r s₂ hexec
    exact ih r hsafe hnext

/-- **Dying is covered.**  A process dies in an acceptable state, or in one that the
postcondition describes. -/
theorem Safe.dies {crash : S → Prop} (hrely : ∀ g s s', rely s s' → K.rely g s s')
    (htotal : ∀ s c, ∃ r s', exec s c r s')
    (hguar : ∀ g s c r s' g', K.guar g s c r s' g' → crash s ∧ ∀ s'', torn c s s'' → crash s'')
    (hp : p.Safe K exec g s) (h : p.Dies rely exec torn s s') :
    crash s' ∨ ∃ g' o, K.post g' s' o := by
  induction p generalizing g s with
  | ret a =>
    obtain rfl := h
    exact .inr ⟨g, _, hp⟩
  | raise e =>
    obtain rfl := h
    exact .inr ⟨g, _, hp⟩
  | call c next ih =>
    obtain ⟨s₁, hs, rfl | htorn | ⟨r, s₂, hexec, hnext⟩⟩ := h
    · obtain ⟨r, s₂, hexec⟩ := htotal s' c
      obtain ⟨g', hcall, -⟩ := hp s' (hrely g s s' hs) r s₂ hexec
      exact .inl (hguar g s' c r s₂ g' hcall).1
    · obtain ⟨r, s₂, hexec⟩ := htotal s₁ c
      obtain ⟨g', hcall, -⟩ := hp s₁ (hrely g s s₁ hs) r s₂ hexec
      exact .inl ((hguar g s₁ c r s₂ g' hcall).2 s' htorn)
    · obtain ⟨g', -, hsafe⟩ := hp s₁ (hrely g s s₁ hs) r s₂ hexec
      exact ih r hsafe hnext

end Program

end Earth2Sandbox
