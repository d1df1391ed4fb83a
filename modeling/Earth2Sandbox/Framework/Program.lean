import Mathlib.Data.List.Forall2
import Mathlib.Logic.Function.Basic

/-!
# Sequential programs over atomic calls

A `Program` is a sequential, possibly failing computation that reaches shared state only
through calls `c : C`; the environment answers a call with a value of `R c`.  Everything
between two calls is local computation, so a call is the unit of atomicity: an interleaving
of programs (`Framework/Interleaving.lean`) may switch tasks between any two calls and
nowhere else.

`raise` is an exception of type `E` that no enclosing handler has caught.  `attempt` is the
handler: it turns a raised exception into an ordinary value.
-/

namespace Earth2Sandbox

/-- A computation that may raise continues exactly when its first part does. -/
lemma Except.bind_eq_ok {ε α β : Type} {x : Except ε α} {f : α → Except ε β} {b : β} :
    x >>= f = .ok b ↔ ∃ a, x = .ok a ∧ f a = .ok b := by
  cases x with
  | error e => simp [bind, Except.bind]
  | ok a => simp [bind, Except.bind]

lemma Except.map_eq_ok {ε α β : Type} {x : Except ε α} {f : α → β} {b : β} :
    x.map f = .ok b ↔ ∃ a, x = .ok a ∧ f a = b := by
  cases x with
  | error e => simp [Except.map]
  | ok a => simp [Except.map]

/-- A computation on every element of a list succeeds when it succeeds on each. -/
lemma Except.mapM_eq_ok {ε α β : Type} {f : α → Except ε β} {xs : List α} {ys : List β} :
    xs.mapM f = .ok ys ↔ List.Forall₂ (fun x y => f x = .ok y) xs ys := by
  induction xs generalizing ys with
  | nil =>
    rw [List.mapM_nil, List.forall₂_nil_left_iff]
    exact ⟨fun h => (Except.ok.inj h).symm, fun h => congrArg _ h.symm⟩
  | cons x xs ih =>
    rw [List.mapM_cons, Except.bind_eq_ok, List.forall₂_cons_left_iff]
    constructor
    · rintro ⟨y, hy, hrest⟩
      obtain ⟨ys', hys', hpure⟩ := Except.bind_eq_ok.mp hrest
      exact ⟨y, ys', hy, ih.mp hys', (Except.ok.inj hpure).symm⟩
    · rintro ⟨y, ys', hy, hys', rfl⟩
      exact ⟨y, hy, Except.bind_eq_ok.mpr ⟨ys', ih.mpr hys', rfl⟩⟩

lemma Except.exists_mapM_eq_ok {ε α β : Type} {f : α → Except ε β} {xs : List α} :
    (∃ ys, xs.mapM f = .ok ys) ↔ ∀ x ∈ xs, ∃ y, f x = .ok y := by
  simp only [Except.mapM_eq_ok]
  induction xs with
  | nil => simp
  | cons x xs ih =>
    rw [List.forall_mem_cons, ← ih]
    constructor
    · rintro ⟨ys, hys⟩
      obtain ⟨y, ys', hy, hys', -⟩ := List.forall₂_cons_left_iff.mp hys
      exact ⟨⟨y, hy⟩, ys', hys'⟩
    · rintro ⟨⟨y, hy⟩, ys, hys⟩
      exact ⟨y :: ys, .cons hy hys⟩

/-- It fails with the failure of the first element on which it fails. -/
lemma Except.mapM_eq_error {ε α β : Type} {f : α → Except ε β} {xs : List α} {e : ε} :
    xs.mapM f = .error e ↔ ∃ before x after, xs = before ++ x :: after ∧
      (∀ y ∈ before, ∃ z, f y = .ok z) ∧ f x = .error e := by
  induction xs with
  | nil => simp [pure, Except.pure]
  | cons x xs ih =>
    rw [List.mapM_cons]
    constructor
    · intro h
      cases hx : f x with
      | error failure =>
        rw [hx] at h
        cases h
        exact ⟨[], x, xs, rfl, by simp, hx⟩
      | ok y =>
        cases hxs : xs.mapM f with
        | ok ys =>
          rw [hx, hxs] at h
          cases h
        | error failure =>
          rw [hx, hxs] at h
          cases h
          obtain ⟨before, z, after, rfl, hbefore, hz⟩ := ih.mp hxs
          exact ⟨x :: before, z, after, rfl, List.forall_mem_cons.mpr ⟨⟨y, hx⟩, hbefore⟩, hz⟩
    · rintro ⟨before, z, after, hsplit, hbefore, hz⟩
      cases before with
      | nil =>
        obtain ⟨rfl, rfl⟩ := List.cons.inj hsplit
        rw [hz]
        rfl
      | cons y before =>
        obtain ⟨rfl, hxs⟩ := List.cons.inj hsplit
        obtain ⟨⟨value, hvalue⟩, hrest⟩ := List.forall_mem_cons.mp hbefore
        rw [hvalue, ih.mpr ⟨before, z, after, hxs, hrest, hz⟩]
        rfl

/-- A sequential program: it returns, raises, or makes a call and continues with the reply. -/
inductive Program (E C : Type) (R : C → Type) (α : Type) where
  | ret (a : α)
  | raise (e : E)
  | call (c : C) (next : R c → Program E C R α)

namespace Program

variable {E C : Type} {R : C → Type} {α β : Type}

/-- Sequencing: the calls of `p`, then those of `f` at the value `p` returns.  An exception
of `p` skips `f`. -/
def bind : Program E C R α → (α → Program E C R β) → Program E C R β
  | ret a, f => f a
  | raise e, _ => raise e
  | call c next, f => call c fun r => bind (next r) f

instance : Monad (Program E C R) where
  pure := ret
  bind := bind

@[simp] lemma pure_eq (a : α) : (pure a : Program E C R α) = ret a := rfl

@[simp] lemma ret_bind (a : α) (f : α → Program E C R β) : ret a >>= f = f a := rfl

@[simp] lemma raise_bind (e : E) (f : α → Program E C R β) : raise e >>= f = raise e := rfl

@[simp] lemma call_bind (c : C) (next : R c → Program E C R α) (f : α → Program E C R β) :
    call c next >>= f = call c fun r => next r >>= f := rfl

lemma bind_assoc {γ : Type} (p : Program E C R α) (f : α → Program E C R β)
    (g : β → Program E C R γ) : p >>= f >>= g = p >>= fun a => f a >>= g := by
  induction p with
  | ret a => rfl
  | raise e => rfl
  | call c next ih => exact congrArg (call c) (funext fun r => ih r)

lemma bind_ret (p : Program E C R α) : p >>= ret = p := by
  induction p with
  | ret a => rfl
  | raise e => rfl
  | call c next ih => exact congrArg (call c) (funext fun r => ih r)

/-- The exception handler: an exception of `p` becomes the value `.error e`. -/
def attempt : Program E C R α → Program E C R (Except E α)
  | ret a => ret (.ok a)
  | raise e => ret (.error e)
  | call c next => call c fun r => attempt (next r)

@[simp] lemma attempt_ret (a : α) : (ret a : Program E C R α).attempt = ret (.ok a) := rfl

@[simp] lemma attempt_raise (e : E) :
    (raise e : Program E C R α).attempt = ret (.error e) := rfl

@[simp] lemma attempt_call (c : C) (next : R c → Program E C R α) :
    (call c next).attempt = call c fun r => (next r).attempt := rfl

/-- The program that makes one call and returns its reply. -/
def perform (c : C) : Program E C R (R c) := call c ret

/-- A computed result as a program without calls. -/
def ofExcept : Except E α → Program E C R α
  | .ok a => ret a
  | .error e => raise e

@[simp] lemma ofExcept_ok (a : α) : (ofExcept (.ok a) : Program E C R α) = ret a := rfl

@[simp] lemma ofExcept_error (e : E) : (ofExcept (.error e) : Program E C R α) = raise e := rfl

lemma ofExcept_bind {x : Except E α} {a : α} (h : x = .ok a) (f : α → Program E C R β) :
    (ofExcept x >>= f) = f a := by
  rw [h, ofExcept_ok, ret_bind]

/-- The program run to its end, alone. -/
def run {S : Type} (perform : (c : C) → S → R c × S) : Program E C R α → S → Except E α × S
  | ret a, s => (.ok a, s)
  | raise e, s => (.error e, s)
  | call c next, s => run perform (next (perform c s).1) (perform c s).2

section Run

variable {S : Type} {perform : (c : C) → S → R c × S}

@[simp] lemma run_ret (a : α) (s : S) :
    (ret a : Program E C R α).run perform s = (.ok a, s) := rfl

@[simp] lemma run_raise (e : E) (s : S) :
    (raise e : Program E C R α).run perform s = (.error e, s) := rfl

@[simp] lemma run_call (c : C) (next : R c → Program E C R α) (s : S) :
    (call c next).run perform s = (next (perform c s).1).run perform (perform c s).2 := rfl

@[simp] lemma run_ofExcept (x : Except E α) (s : S) :
    (ofExcept x : Program E C R α).run perform s = (x, s) := by
  cases x <;> rfl

lemma run_bind_of_ok {p : Program E C R α} {f : α → Program E C R β} {s s' : S} {a : α}
    (h : p.run perform s = (.ok a, s')) :
    (p >>= f).run perform s = (f a).run perform s' := by
  induction p generalizing s with
  | ret b =>
    simp only [run_ret, Prod.mk.injEq, Except.ok.injEq] at h
    obtain ⟨rfl, rfl⟩ := h
    rfl
  | raise e => simp at h
  | call c next ih => exact ih _ h

lemma run_bind_of_error {p : Program E C R α} {f : α → Program E C R β} {s s' : S} {e : E}
    (h : p.run perform s = (.error e, s')) : (p >>= f).run perform s = (.error e, s') := by
  induction p generalizing s with
  | ret b => simp at h
  | raise e' =>
    simp only [run_raise, Prod.mk.injEq, Except.error.injEq] at h
    obtain ⟨rfl, rfl⟩ := h
    rfl
  | call c next ih => exact ih _ h

/-- A computation without calls at the end of a program. -/
lemma run_bind_ofExcept (p : Program E C R α) (f : α → Except E β) (s : S) :
    (p >>= fun a => ofExcept (f a)).run perform s =
      ((p.run perform s).1.bind f, (p.run perform s).2) := by
  cases h : (p.run perform s).1 with
  | ok a =>
    rw [run_bind_of_ok (Prod.ext h rfl), run_ofExcept]
    rfl
  | error e =>
    rw [run_bind_of_error (Prod.ext h rfl)]
    rfl

end Run

/-- A program over the calls `C` as a program over more calls. -/
def embed {E' C' : Type} {R' : C' → Type} (wrap : E → E') (inject : C → C')
    (reply : (c : C) → R' (inject c) → R c) : Program E C R α → Program E' C' R' α
  | ret a => ret a
  | raise e => raise (wrap e)
  | call c next => call (inject c) fun r => embed wrap inject reply (next (reply c r))

/-- An embedded program does to its part of the state what it does alone. -/
lemma run_embed {S S' E' C' : Type} {R' : C' → Type} {wrap : E → E'} {inject : C → C'}
    {reply : (c : C) → R' (inject c) → R c} (perform : (c : C) → S → R c × S)
    {perform' : (c : C') → S' → R' c × S'} (combine : S → S')
    (h : ∀ c s, reply c (perform' (inject c) (combine s)).1 = (perform c s).1 ∧
      (perform' (inject c) (combine s)).2 = combine (perform c s).2)
    (p : Program E C R α) (s : S) :
    (p.embed wrap inject reply).run perform' (combine s) =
      ((p.run perform s).1.mapError wrap, combine (p.run perform s).2) := by
  induction p generalizing s with
  | ret a => rfl
  | raise e => rfl
  | call c next ih =>
    obtain ⟨hreply, hstate⟩ := h c s
    rw [embed, run_call, run_call, hreply, hstate]
    exact ih _ _

/-- The program run to its end, alone but for what the environment does to the state before
each call: `env n` before the `n`-th call.  The result comes with the number of calls made. -/
def eval {S : Type} (perform : (c : C) → S → R c × S) (env : ℕ → S → S) :
    Program E C R α → ℕ → S → Except E α × ℕ × S
  | ret a, n, s => (.ok a, n, s)
  | raise e, n, s => (.error e, n, s)
  | call c next, n, s =>
    eval perform env (next (perform c (env n s)).1) (n + 1) (perform c (env n s)).2

/-- The calls that the program makes in this run. -/
def calls {S : Type} (perform : (c : C) → S → R c × S) (env : ℕ → S → S) :
    Program E C R α → ℕ → S → List C
  | ret _, _, _ => []
  | raise _, _, _ => []
  | call c next, n, s =>
    c :: calls perform env (next (perform c (env n s)).1) (n + 1) (perform c (env n s)).2

lemma eval_bind {S : Type} {perform : (c : C) → S → R c × S} {env : ℕ → S → S}
    {p : Program E C R α} {f : α → Program E C R β} {n n' : ℕ} {s s' : S} {a : α}
    (h : p.eval perform env n s = (.ok a, n', s')) :
    (p >>= f).eval perform env n s = (f a).eval perform env n' s' := by
  induction p generalizing n s with
  | ret b =>
    simp only [eval, Prod.mk.injEq, Except.ok.injEq] at h
    obtain ⟨rfl, rfl, rfl⟩ := h
    rfl
  | raise e => simp [eval] at h
  | call c next ih => exact ih _ h

/-! ## Programs that make certain calls only -/

/-- Every call of the program is allowed, whatever the replies. -/
def Only (allowed : C → Prop) : Program E C R α → Prop
  | ret _ => True
  | raise _ => True
  | call c next => allowed c ∧ ∀ r, Only allowed (next r)

lemma only_ofExcept (allowed : C → Prop) (x : Except E α) :
    (ofExcept x : Program E C R α).Only allowed := by
  cases x <;> trivial

lemma Only.bind {allowed : C → Prop} {p : Program E C R α} {f : α → Program E C R β}
    (hp : p.Only allowed) (hf : ∀ a, (f a).Only allowed) : (p >>= f).Only allowed := by
  induction p with
  | ret a => exact hf a
  | raise e => trivial
  | call c next ih => exact ⟨hp.1, fun r => ih r (hp.2 r)⟩

lemma Only.attempt {allowed : C → Prop} {p : Program E C R α} (hp : p.Only allowed) :
    p.attempt.Only allowed := by
  induction p with
  | ret a => trivial
  | raise e => trivial
  | call c next ih => exact ⟨hp.1, fun r => ih r (hp.2 r)⟩

lemma Only.mono {allowed allowed' : C → Prop} (himp : ∀ c, allowed c → allowed' c)
    {p : Program E C R α} (h : p.Only allowed) : p.Only allowed' := by
  induction p with
  | ret a => trivial
  | raise e => trivial
  | call c next ih => exact ⟨himp c h.1, fun r => ih r (h.2 r)⟩

/-- The program over the allowed calls. -/
def restrict {allowed : C → Prop} : (p : Program E C R α) → p.Only allowed →
    Program E { c // allowed c } (fun c => R c.1) α
  | ret a, _ => ret a
  | raise e, _ => raise e
  | call c next, h => call ⟨c, h.1⟩ fun r => restrict (next r) (h.2 r)

end Program

end Earth2Sandbox
