import Earth2Sandbox.Framework.RelyGuarantee

/-!
# Operations that take effect at once

An operation of a shared object may take several calls.  It *linearizes* when exactly one of them
changes what can be seen of the object, whatever the other tasks do in between, and its result is
the one of that call.  A task that uses such an operation may be verified as if it were a single
call (`Linearizes.safe_embed`).
-/

namespace Earth2Sandbox

namespace Program

variable {S V G E C : Type} {R : C → Type} {α : Type}

/-- The contract of an operation that takes effect at once.  The ghost value is the result, once
the operation has taken effect. -/
def linearization (view : S → V) (effect : α → V → V → Prop) : Contract S (Option α) E C R α where
  rely _ _ _ := True
  guar g s _ _ s' g' := view s' = view s ∧ g' = g ∨
    ∃ a, g = none ∧ g' = some a ∧ effect a (view s) (view s')
  post g _ outcome := ∃ a, g = some a ∧ outcome = .ok a

/-- The operation takes effect at once: `effect` says what it does and returns. -/
def Linearizes (exec : S → (c : C) → R c → S → Prop) (view : S → V) (effect : α → V → V → Prop)
    (p : Program E C R α) : Prop :=
  ∀ s, p.Safe (linearization view effect) exec none s

/-- What an operation returns may be wrapped. -/
lemma Linearizes.map {β : Type} {exec : S → (c : C) → R c → S → Prop} {view : S → V}
    {effect : α → V → V → Prop} {effect' : β → V → V → Prop} {p : Program E C R α} {f : α → β}
    (hp : p.Linearizes exec view effect) (heffect : ∀ a v v', effect a v v' → effect' (f a) v v') :
    (p >>= fun a => ret (f a)).Linearizes exec view effect' := by
  -- the ghost value of the operation, wrapped
  suffices hsafe : ∀ (p : Program E C R α) (g : Option α) (s : S),
      p.Safe (linearization view effect) exec g s →
        (p >>= fun a => ret (f a)).Safe (linearization view effect') exec (g.map f) s from
    fun s => hsafe p none s (hp s)
  intro p
  induction p with
  | ret a =>
    rintro g s ⟨b, rfl, heq⟩
    cases heq
    exact ⟨f a, rfl, rfl⟩
  | raise e =>
    rintro g s ⟨b, -, heq⟩
    cases heq
  | call c next ih =>
    intro g s hsafe s₁ _ r s₂ hcall
    obtain ⟨g', hguar, hnext⟩ := hsafe s₁ trivial r s₂ hcall
    refine ⟨g'.map f, ?_, ih r g' s₂ hnext⟩
    rcases hguar with ⟨hview, rfl⟩ | ⟨a, rfl, rfl, heff⟩
    · exact .inl ⟨hview, rfl⟩
    · exact .inr ⟨f a, rfl, rfl, heffect a _ _ heff⟩

/-- A task performs an operation of an object that is a part of the shared state. -/
lemma Linearizes.safe_embed {S' E' C' : Type} {R' : C' → Type} {exec : S → (c : C) → R c → S → Prop}
    {exec' : S' → (c : C') → R' c → S' → Prop} {view : S → V} {effect : α → V → V → Prop}
    {p : Program E C R α} (hp : p.Linearizes exec view effect) {wrap : E → E'} {inject : C → C'}
    {reply : (c : C) → R' (inject c) → R c} (part : S' → S) {K : Contract S' G E' C' R' α}
    (before : G) (after : α → G)
    (hexec : ∀ s c r s', exec' s (inject c) r s' → exec (part s) c (reply c r) (part s'))
    (hstay : ∀ g s c r s', exec' s (inject c) r s' → view (part s') = view (part s) →
      K.guar g s (inject c) r s' g)
    (heffect : ∀ a s c r s', exec' s (inject c) r s' → effect a (view (part s)) (view (part s')) →
      K.guar before s (inject c) r s' (after a))
    (hpost : ∀ a s, K.post (after a) s (.ok a)) (s : S') :
    (p.embed wrap inject reply).Safe K exec' before s := by
  -- the ghost value of the operation tells where the task is
  suffices hsafe : ∀ (p : Program E C R α) (g : Option α) (s : S'),
      p.Safe (linearization view effect) exec g (part s) →
        (p.embed wrap inject reply).Safe K exec' (g.elim before after) s from
    hsafe p none s (hp (part s))
  intro p
  induction p with
  | ret a =>
    rintro g s ⟨b, rfl, heq⟩
    cases heq
    exact hpost a s
  | raise e =>
    rintro g s ⟨b, -, heq⟩
    cases heq
  | call c next ih =>
    intro g s hsafe s₁ _ r s₂ hcall
    obtain ⟨g', hguar, hnext⟩ := hsafe (part s₁) trivial _ _ (hexec s₁ c r s₂ hcall)
    refine ⟨g'.elim before after, ?_, ih _ g' s₂ hnext⟩
    rcases hguar with ⟨hview, rfl⟩ | ⟨a, rfl, rfl, heff⟩
    · exact hstay _ s₁ c r s₂ hcall hview
    · exact heffect a s₁ c r s₂ hcall heff

end Program

end Earth2Sandbox
