import Earth2Sandbox.Framework.Program

/-!
# Programs in dialogue with an arbitrary server

`Program.dialogue` runs a program whose calls are answered by a server that sees the whole
exchange so far and chooses each reply freely.  The exchange is the list of calls with their
replies, latest first.

`Program.Obeys` is the verification condition for such runs: every call is allowed by the
exchange before it, whatever the replies, and the postcondition holds where the program ends.
`Obeys.dialogue` is its soundness.  It is the counterpart of `Program.Safe` for a program that
shares no state with others.
-/

namespace Earth2Sandbox

variable {E E' C : Type} {R : C → Type} {α β : Type}

/-- Calls with their replies, latest first. -/
abbrev Exchange (C : Type) (R : C → Type) := List (Σ c : C, R c)

namespace Program

/-- The program run to its end against a server: how it ends, and the exchange. -/
def dialogue (server : Exchange C R → (c : C) → R c) :
    Program E C R α → Exchange C R → Except E α × Exchange C R
  | ret a, log => (.ok a, log)
  | raise e, log => (.error e, log)
  | call c next, log => dialogue server (next (server log c)) (⟨c, server log c⟩ :: log)

/-- A dialogue is a run in which the exchange is the state. -/
lemma dialogue_eq_run (server : Exchange C R → (c : C) → R c) (p : Program E C R α)
    (log : Exchange C R) :
    p.dialogue server log = p.run (fun c log => (server log c, ⟨c, server log c⟩ :: log)) log := by
  induction p generalizing log with
  | ret a => rfl
  | raise e => rfl
  | call c next ih => exact ih _ _

lemma dialogue_suffix (server : Exchange C R → (c : C) → R c) (p : Program E C R α)
    (log : Exchange C R) : log <:+ (p.dialogue server log).2 := by
  induction p generalizing log with
  | ret a => exact List.suffix_rfl
  | raise e => exact List.suffix_rfl
  | call c next ih => exact (List.suffix_cons _ _).trans (ih _ _)

/-- The handler that turns every exception into another exception. -/
def mapError (f : E → E') : Program E C R α → Program E' C R α
  | ret a => ret a
  | raise e => raise (f e)
  | call c next => call c fun r => mapError f (next r)

lemma run_mapError {S : Type} {perform : (c : C) → S → R c × S} (f : E → E')
    (p : Program E C R α) (s : S) :
    (p.mapError f).run perform s = ((p.run perform s).1.mapError f, (p.run perform s).2) := by
  induction p generalizing s with
  | ret a => rfl
  | raise e => rfl
  | call c next ih => exact ih _ _

/-- Whatever the replies, the calls are allowed and the program ends in `post`. -/
def Obeys (allowed : Exchange C R → C → Prop) (post : Exchange C R → Except E α → Prop) :
    Program E C R α → Exchange C R → Prop
  | ret a, log => post log (.ok a)
  | raise e, log => post log (.error e)
  | call c next, log => allowed log c ∧ ∀ r, Obeys allowed post (next r) (⟨c, r⟩ :: log)

namespace Obeys

variable {allowed : Exchange C R → C → Prop} {post : Exchange C R → Except E α → Prop}
  {log : Exchange C R}

/-- The sequencing rule. -/
lemma bind {p : Program E C R α} {f : α → Program E C R β}
    {post' : Exchange C R → Except E β → Prop} (hp : p.Obeys allowed post log)
    (hret : ∀ a log, post log (.ok a) → (f a).Obeys allowed post' log)
    (hraise : ∀ e log, post log (.error e) → post' log (.error e)) :
    (p >>= f).Obeys allowed post' log := by
  induction p generalizing log with
  | ret a => exact hret a log hp
  | raise e => exact hraise e log hp
  | call c next ih => exact ⟨hp.1, fun r => ih r (hp.2 r)⟩

/-- The handler rule. -/
lemma mapError {f : E → E'} {post' : Exchange C R → Except E' α → Prop} {p : Program E C R α}
    (hp : p.Obeys allowed post log) (hret : ∀ a log, post log (.ok a) → post' log (.ok a))
    (hraise : ∀ e log, post log (.error e) → post' log (.error (f e))) :
    (p.mapError f).Obeys allowed post' log := by
  induction p generalizing log with
  | ret a => exact hret a log hp
  | raise e => exact hraise e log hp
  | call c next ih => exact ⟨hp.1, fun r => ih r (hp.2 r)⟩

/-- **Soundness.**  Against every server the program ends in its postcondition, and each of its
calls was allowed by the exchange before it. -/
theorem dialogue (server : Exchange C R → (c : C) → R c) {p : Program E C R α}
    (hp : p.Obeys allowed post log) :
    post (p.dialogue server log).2 (p.dialogue server log).1 ∧
      ∃ sent, (p.dialogue server log).2 = sent ++ log ∧
        ∀ later exchange earlier, sent = later ++ exchange :: earlier →
          allowed (earlier ++ log) exchange.1 := by
  induction p generalizing log with
  | ret a => exact ⟨hp, [], rfl, by simp⟩
  | raise e => exact ⟨hp, [], rfl, by simp⟩
  | call c next ih =>
    obtain ⟨hpost, sent, hsent, hallowed⟩ := ih (server log c) (hp.2 _)
    refine ⟨hpost, sent ++ [⟨c, server log c⟩], ?_, ?_⟩
    · rw [List.append_assoc]
      exact hsent
    · intro later exchange earlier heq
      rcases List.eq_nil_or_concat earlier with rfl | ⟨earlier', last, rfl⟩
      · -- the first call
        obtain ⟨-, hlast⟩ := List.append_inj' heq rfl
        obtain rfl := List.singleton_inj.mp hlast.symm
        exact hp.1
      · have heq' : sent ++ [⟨c, server log c⟩] = (later ++ exchange :: earlier') ++ [last] := by
          simpa using heq
        obtain ⟨hstart, hlast⟩ := List.append_inj' heq' rfl
        obtain rfl := List.singleton_inj.mp hlast.symm
        have := hallowed later exchange earlier' hstart
        simpa using this

end Obeys

end Program

end Earth2Sandbox
