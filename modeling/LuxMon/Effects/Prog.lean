import Mathlib.Tactic

/-!
# Effect programs

A program is a tree: it returns, raises, or asks its environment for an effect
`e : E` and continues with the answer `R e`.  Nothing is assumed about the
answers here; a run is a program, the list of its effects with their answers,
and its outcome.  What the environment may answer is a separate relation
(`Steps`), so one program is used against any number of environments.

    Run (p >>= f) tr out ↔ p returned and f ran, or p raised          (run_bind)
    Run (tryCatch p h) tr out ↔ p returned, or p raised and h ran     (run_tryCatch)
    the run along a list of events is unique                          (Run.unique)
-/

namespace Effects

/-- Programs over effects `E`, answered in `R e`, that raise `X` or return `α`. -/
inductive Prog (E : Type) (R : E → Type) (X α : Type) where
  | ret (a : α)
  | raise (x : X)
  | ask (e : E) (k : R e → Prog E R X α)

/-- One effect with its answer. -/
abbrev Event (E : Type) (R : E → Type) := (e : E) × R e

variable {E : Type} {R : E → Type} {X α β : Type}

namespace Prog

def bind (p : Prog E R X α) (f : α → Prog E R X β) : Prog E R X β :=
  match p with
  | .ret a => f a
  | .raise x => .raise x
  | .ask e k => .ask e fun r => (k r).bind f

instance : Monad (Prog E R X) where
  pure := .ret
  bind := bind

/-- `try p except: h`. -/
def tryCatch (p : Prog E R X α) (h : X → Prog E R X α) : Prog E R X α :=
  match p with
  | .ret a => .ret a
  | .raise x => h x
  | .ask e k => .ask e fun r => (k r).tryCatch h

/-- Ask for one effect and return its answer. -/
def perform (e : E) : Prog E R X (R e) := .ask e .ret

/-- A pure computation that may raise. -/
def ofExcept : Except X α → Prog E R X α
  | .ok a => .ret a
  | .error x => .raise x

theorem bind_assoc {γ : Type} (p : Prog E R X α) (f : α → Prog E R X β) (g : β → Prog E R X γ) :
    (p >>= f) >>= g = p >>= fun a => f a >>= g := by
  show (p.bind f).bind g = p.bind fun a => (f a).bind g
  induction p with
  | ret a => rfl
  | raise x => rfl
  | ask e k ih => exact congrArg (Prog.ask e) (funext ih)

@[simp] theorem perform_bind (e : E) (f : R e → Prog E R X α) :
    (perform e >>= f) = .ask e f := rfl

@[simp] theorem ofExcept_ok_bind (a : α) (f : α → Prog E R X β) :
    (ofExcept (.ok a) >>= f) = f a := rfl

@[simp] theorem ofExcept_pure_bind (a : α) (f : α → Prog E R X β) :
    (ofExcept (Pure.pure a) >>= f) = f a := rfl

@[simp] theorem ofExcept_error_bind (x : X) (f : α → Prog E R X β) :
    (ofExcept (.error x) >>= f) = .raise x := rfl

@[simp] theorem pure_bind (a : α) (f : α → Prog E R X β) : (pure a >>= f) = f a := rfl

@[simp] theorem raise_bind (x : X) (f : α → Prog E R X β) :
    ((.raise x : Prog E R X α) >>= f) = .raise x := rfl

/-- `tr` lists the effects of one complete run of `p` with their answers, `out` is its outcome. -/
def Run : Prog E R X α → List (Event E R) → Except X α → Prop
  | .ret a, tr, out => tr = [] ∧ out = .ok a
  | .raise x, tr, out => tr = [] ∧ out = .error x
  | .ask e k, tr, out => ∃ r t, tr = ⟨e, r⟩ :: t ∧ Run (k r) t out

@[simp] theorem run_ret (a : α) (tr : List (Event E R)) (out : Except X α) :
    Run (.ret a) tr out ↔ tr = [] ∧ out = .ok a := Iff.rfl

@[simp] theorem run_pure (a : α) (tr : List (Event E R)) (out : Except X α) :
    Run (pure a) tr out ↔ tr = [] ∧ out = .ok a := Iff.rfl

@[simp] theorem run_raise (x : X) (tr : List (Event E R)) (out : Except X α) :
    Run (.raise x) tr out ↔ tr = [] ∧ out = .error x := Iff.rfl

theorem run_ask (e : E) (k : R e → Prog E R X α) (tr : List (Event E R)) (out : Except X α) :
    Run (.ask e k) tr out ↔ ∃ r t, tr = ⟨e, r⟩ :: t ∧ Run (k r) t out := Iff.rfl

theorem run_ofExcept (x : Except X α) (tr : List (Event E R)) (out : Except X α) :
    Run (ofExcept x) tr out ↔ tr = [] ∧ out = x := by
  cases x <;> rfl

theorem run_bind (p : Prog E R X α) (f : α → Prog E R X β) (tr : List (Event E R))
    (out : Except X β) :
    Run (p >>= f) tr out ↔
      (∃ a t u, tr = t ++ u ∧ Run p t (.ok a) ∧ Run (f a) u out) ∨
      ∃ x, out = .error x ∧ Run p tr (.error x) := by
  show Run (p.bind f) tr out ↔ _
  induction p generalizing tr with
  | ret a =>
    simp only [bind, run_ret]
    constructor
    · intro h
      exact Or.inl ⟨a, [], tr, rfl, ⟨rfl, rfl⟩, h⟩
    · rintro (⟨a', t, u, rfl, ⟨rfl, h⟩, hf⟩ | ⟨x, -, -, h⟩)
      · cases h
        exact hf
      · cases h
  | raise x =>
    simp only [bind, run_raise]
    constructor
    · rintro ⟨rfl, rfl⟩
      exact Or.inr ⟨x, rfl, rfl, rfl⟩
    · rintro (⟨a, t, u, -, ⟨-, h⟩, -⟩ | ⟨y, rfl, rfl, h⟩)
      · cases h
      · cases h
        exact ⟨rfl, rfl⟩
  | ask e k ih =>
    simp only [bind, run_ask, ih]
    constructor
    · rintro ⟨r, t, rfl, ⟨a, t1, t2, rfl, hp, hf⟩ | ⟨x, rfl, hp⟩⟩
      · exact Or.inl ⟨a, ⟨e, r⟩ :: t1, t2, rfl, ⟨r, t1, rfl, hp⟩, hf⟩
      · exact Or.inr ⟨x, rfl, r, t, rfl, hp⟩
    · rintro (⟨a, t, u, rfl, ⟨r, t1, rfl, hp⟩, hf⟩ | ⟨x, rfl, r, t, rfl, hp⟩)
      · exact ⟨r, t1 ++ u, rfl, Or.inl ⟨a, t1, u, rfl, hp, hf⟩⟩
      · exact ⟨r, t, rfl, Or.inr ⟨x, rfl, hp⟩⟩

theorem run_bind_ok (p : Prog E R X α) (f : α → Prog E R X β) (tr : List (Event E R)) (b : β) :
    Run (p >>= f) tr (.ok b) ↔ ∃ a t u, tr = t ++ u ∧ Run p t (.ok a) ∧ Run (f a) u (.ok b) := by
  rw [run_bind]
  constructor
  · rintro (h | ⟨x, h, -⟩)
    · exact h
    · cases h
  · exact Or.inl

theorem run_tryCatch (p : Prog E R X α) (h : X → Prog E R X α) (tr : List (Event E R))
    (out : Except X α) :
    Run (p.tryCatch h) tr out ↔
      (∃ a, out = .ok a ∧ Run p tr (.ok a)) ∨
      ∃ x t u, tr = t ++ u ∧ Run p t (.error x) ∧ Run (h x) u out := by
  induction p generalizing tr with
  | ret a =>
    simp only [tryCatch, run_ret]
    constructor
    · rintro ⟨rfl, rfl⟩
      exact Or.inl ⟨a, rfl, rfl, rfl⟩
    · rintro (⟨a', rfl, rfl, h⟩ | ⟨x, t, u, -, ⟨-, h⟩, -⟩)
      · exact ⟨rfl, h⟩
      · cases h
  | raise x =>
    simp only [tryCatch, run_raise]
    constructor
    · intro hh
      exact Or.inr ⟨x, [], tr, rfl, ⟨rfl, rfl⟩, hh⟩
    · rintro (⟨a, -, -, h⟩ | ⟨y, t, u, rfl, ⟨rfl, h⟩, hh⟩)
      · cases h
      · cases h
        exact hh
  | ask e k ih =>
    simp only [tryCatch, run_ask, ih]
    constructor
    · rintro ⟨r, t, rfl, ⟨a, rfl, hp⟩ | ⟨x, t1, t2, rfl, hp, hh⟩⟩
      · exact Or.inl ⟨a, rfl, r, t, rfl, hp⟩
      · exact Or.inr ⟨x, ⟨e, r⟩ :: t1, t2, rfl, ⟨r, t1, rfl, hp⟩, hh⟩
    · rintro (⟨a, rfl, r, t, rfl, hp⟩ | ⟨x, t, u, rfl, ⟨r, t1, rfl, hp⟩, hh⟩)
      · exact ⟨r, t, rfl, Or.inl ⟨a, rfl, hp⟩⟩
      · exact ⟨r, t1 ++ u, rfl, Or.inr ⟨x, t1, u, rfl, hp, hh⟩⟩

/-- Two runs of a program along the same events are the same run. -/
theorem Run.unique {p : Prog E R X α} {t u t' u' : List (Event E R)} {out out' : Except X α}
    (h : p.Run t out) (h' : p.Run t' out') (heq : t ++ u = t' ++ u') :
    t = t' ∧ u = u' ∧ out = out' := by
  induction p generalizing t t' with
  | ret a =>
    obtain ⟨rfl, rfl⟩ := h
    obtain ⟨rfl, rfl⟩ := h'
    exact ⟨rfl, heq, rfl⟩
  | raise x =>
    obtain ⟨rfl, rfl⟩ := h
    obtain ⟨rfl, rfl⟩ := h'
    exact ⟨rfl, heq, rfl⟩
  | ask e k ih =>
    obtain ⟨r, t, rfl, h⟩ := h
    obtain ⟨r', t', rfl, h'⟩ := h'
    obtain ⟨hev, htail⟩ := List.cons.inj heq
    obtain rfl : r = r' := eq_of_heq (Sigma.mk.inj hev).2
    obtain ⟨rfl, rfl, rfl⟩ := ih r h h' htail
    exact ⟨rfl, rfl, rfl⟩

/-! ## Exceptions that come from the environment -/

/-- The program raises exactly when an event of its run is `bad`. -/
def RaisesOn (bad : Event E R → Bool) (p : Prog E R X α) : Prop :=
  ∀ tr out, p.Run tr out → tr.any bad = !out.isOk

section
variable {bad : Event E R → Bool}

theorem raisesOn_pure (a : α) : RaisesOn bad (pure a : Prog E R X α) := by
  rintro tr out ⟨rfl, rfl⟩
  rfl

theorem raisesOn_bind {p : Prog E R X α} {f : α → Prog E R X β} (hp : p.RaisesOn bad)
    (hf : ∀ a, (f a).RaisesOn bad) : (p >>= f).RaisesOn bad := by
  intro tr out h
  rcases (run_bind p f tr out).mp h with ⟨a, t, u, rfl, hp', hf'⟩ | ⟨x, rfl, hp'⟩
  · rw [List.any_append, hp t _ hp', hf a u out hf']
    rfl
  · exact hp tr _ hp'

/-- An effect whose answers are not bad, and what follows. -/
theorem raisesOn_ask {e : E} {k : R e → Prog E R X α} (he : ∀ r, bad ⟨e, r⟩ = false)
    (hk : ∀ r, (k r).RaisesOn bad) : (Prog.ask e k).RaisesOn bad := by
  rintro tr out ⟨r, t, rfl, h⟩
  rw [List.any_cons, he r, hk r t out h]
  rfl

end

end Prog

end Effects
