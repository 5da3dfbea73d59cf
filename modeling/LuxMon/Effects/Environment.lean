import LuxMon.Effects.Prog

/-!
# Environments of effect programs

`step s ev s'` says that in state `s` the environment may answer the effect of
`ev` with the answer of `ev` and go to `s'`; `Steps` follows a whole trace.

    a step-wise invariant holds after every trace                        (Steps.invariant)
    a quantity that each event sets or keeps has the value last set      (Steps.last_set)
    a key that is new whenever it is taken is taken once                 (Steps.fresh)
    an environment function gives every program exactly one run          (exec_spec)
-/

namespace Effects

variable {E : Type} {R : E → Type} {X α β S γ : Type}

/-- The environment answers the effects of a trace one after the other. -/
def Steps (step : S → Event E R → S → Prop) : S → List (Event E R) → S → Prop
  | s, [], s' => s' = s
  | s, ev :: tr, s' => ∃ m, step s ev m ∧ Steps step m tr s'

section
variable {step : S → Event E R → S → Prop} {s s' : S} {tr : List (Event E R)}

@[simp] theorem steps_nil : Steps step s [] s' ↔ s' = s := Iff.rfl

theorem steps_cons {ev : Event E R} :
    Steps step s (ev :: tr) s' ↔ ∃ m, step s ev m ∧ Steps step m tr s' := Iff.rfl

@[simp] theorem steps_single {ev : Event E R} : Steps step s [ev] s' ↔ step s ev s' := by
  simp only [steps_cons, steps_nil]
  constructor
  · rintro ⟨m, h, rfl⟩
    exact h
  · intro h
    exact ⟨s', h, rfl⟩

theorem steps_append {t u : List (Event E R)} :
    Steps step s (t ++ u) s' ↔ ∃ m, Steps step s t m ∧ Steps step m u s' := by
  induction t generalizing s with
  | nil => simp
  | cons ev t ih =>
    simp only [List.cons_append, steps_cons, ih]
    constructor
    · rintro ⟨m, h, m', ht, hu⟩
      exact ⟨m', ⟨m, h, ht⟩, hu⟩
    · rintro ⟨m', ⟨m, h, ht⟩, hu⟩
      exact ⟨m, h, m', ht, hu⟩

theorem Steps.invariant (I : S → Prop)
    (hstep : ∀ ev ∈ tr, ∀ a b, I a → step a ev b → I b) (h : Steps step s tr s') (hs : I s) :
    I s' := by
  induction tr generalizing s with
  | nil => cases h; exact hs
  | cons ev tr ih =>
    obtain ⟨m, hm, ht⟩ := h
    exact ih (fun e he => hstep e (List.mem_cons_of_mem _ he)) ht
      (hstep ev List.mem_cons_self _ _ hs hm)

/-- Steps of one environment are steps of one that allows more. -/
theorem Steps.mono {step' : S → Event E R → S → Prop} (hstep : ∀ a ev b, step a ev b → step' a ev b)
    (h : Steps step s tr s') : Steps step' s tr s' := by
  induction tr generalizing s with
  | nil => exact h
  | cons ev tr ih =>
    obtain ⟨m, hev, htr⟩ := h
    exact ⟨m, hstep _ _ _ hev, ih htr⟩

/-- What each step says of its event holds of every event. -/
theorem Steps.events {P : Event E R → Prop} (hstep : ∀ a ev b, step a ev b → P ev) (h : Steps step s tr s') :
    ∀ ev ∈ tr, P ev := by
  induction tr generalizing s with
  | nil => exact fun _ hev => (List.not_mem_nil hev).elim
  | cons ev tr ih =>
    obtain ⟨m, hm, ht⟩ := h
    exact List.forall_mem_cons.mpr ⟨hstep _ _ _ hm, ih ht⟩

/-- What no event of the trace changes is the same at its end. -/
theorem Steps.unchanged (f : S → γ)
    (hstep : ∀ ev ∈ tr, ∀ a b, step a ev b → f b = f a) (h : Steps step s tr s') :
    f s' = f s :=
  h.invariant (fun x => f x = f s) (fun ev he a b ha hab => (hstep ev he a b hab).trans ha) rfl

/-- If every event either sets `f` (to `val ev`) or keeps it, then a trace leaves
the value set last. -/
theorem Steps.last_set (f : S → γ) (val : Event E R → Option γ)
    (hstep : ∀ a ev b, step a ev b → f b = (val ev).getD (f a)) (h : Steps step s tr s') :
    f s' = (tr.filterMap val).getLast?.getD (f s) := by
  induction tr generalizing s with
  | nil => cases h; rfl
  | cons ev tr ih =>
    obtain ⟨m, hm, ht⟩ := h
    rw [ih ht, hstep _ _ _ hm]
    cases hv : val ev with
    | none => rw [List.filterMap_cons_none hv]; rfl
    | some v =>
      rw [List.filterMap_cons_some hv, List.getLast?_cons]
      rfl

/-- A key that is unknown before the event that takes it, and known from then on, is taken once. -/
theorem Steps.fresh {κ : Type} (known : S → κ → Prop) {key : Event E R → Option κ}
    (hkeep : ∀ a ev b, step a ev b → ∀ k, known a k → known b k)
    (htake : ∀ a ev b, step a ev b → ∀ k, key ev = some k → ¬ known a k ∧ known b k) (h : Steps step s tr s') :
    (tr.filterMap key).Nodup ∧ ∀ k ∈ tr.filterMap key, ¬ known s k := by
  induction tr generalizing s with
  | nil => simp
  | cons ev tr ih =>
    obtain ⟨m, hm, ht⟩ := h
    obtain ⟨hnodup, hnew⟩ := ih ht
    have hold : ∀ k ∈ tr.filterMap key, ¬ known s k := fun k hk hs => hnew k hk (hkeep _ _ _ hm k hs)
    cases hkey : key ev with
    | none =>
      rw [List.filterMap_cons_none hkey]
      exact ⟨hnodup, hold⟩
    | some k =>
      obtain ⟨hunknown, hknown⟩ := htake _ _ _ hm k hkey
      rw [List.filterMap_cons_some hkey]
      refine ⟨List.nodup_cons.mpr ⟨fun hk => hnew k hk hknown, hnodup⟩, fun j hj => ?_⟩
      rcases List.mem_cons.mp hj with rfl | hj
      · exact hunknown
      · exact hold j hj

/-- Events that determine the next state fold over the trace. -/
theorem Steps.foldl {after : S → Event E R → S} (hafter : ∀ a ev b, step a ev b → b = after a ev)
    (h : Steps step s tr s') : s' = tr.foldl after s := by
  induction tr generalizing s with
  | nil => exact h
  | cons ev tr ih =>
    obtain ⟨m, hm, ht⟩ := h
    rw [List.foldl_cons, ← hafter _ _ _ hm]
    exact ih ht

end

/-! ## The effects a program may ask for -/

namespace Prog

/-- Every effect the program can ask for, whatever it is answered, satisfies `P`. -/
def Asks (P : E → Prop) : Prog E R X α → Prop
  | .ret _ => True
  | .raise _ => True
  | .ask e k => P e ∧ ∀ r, (k r).Asks P

variable {P : E → Prop}

@[simp] theorem asks_pure (a : α) : Asks P (pure a : Prog E R X α) := trivial

@[simp] theorem asks_ret (a : α) : Asks P (.ret a : Prog E R X α) := trivial

@[simp] theorem asks_raise (x : X) : Asks P (.raise x : Prog E R X α) := trivial

@[simp] theorem asks_perform (e : E) : Asks P (perform e : Prog E R X (R e)) ↔ P e :=
  ⟨And.left, fun h => ⟨h, fun _ => trivial⟩⟩

@[simp] theorem asks_ofExcept (x : Except X α) : Asks P (ofExcept x : Prog E R X α) := by
  cases x <;> trivial

theorem asks_bind {p : Prog E R X α} {f : α → Prog E R X β} (hp : p.Asks P)
    (hf : ∀ a, (f a).Asks P) : (p >>= f).Asks P := by
  show (p.bind f).Asks P
  induction p with
  | ret a => exact hf a
  | raise x => trivial
  | ask e k ih => exact ⟨hp.1, fun r => ih r (hp.2 r)⟩

theorem asks_tryCatch {p : Prog E R X α} {h : X → Prog E R X α} (hp : p.Asks P)
    (hh : ∀ x, (h x).Asks P) : (p.tryCatch h).Asks P := by
  induction p with
  | ret a => trivial
  | raise x => exact hh x
  | ask e k ih => exact ⟨hp.1, fun r => ih r (hp.2 r)⟩

theorem Asks.mono {P Q : E → Prop} {p : Prog E R X α} (hp : p.Asks P) (h : ∀ e, P e → Q e) :
    p.Asks Q := by
  induction p with
  | ret a => trivial
  | raise x => trivial
  | ask e k ih => exact ⟨h e hp.1, fun r => ih r (hp.2 r)⟩

theorem Asks.of_run {p : Prog E R X α} (hp : p.Asks P) {tr : List (Event E R)}
    {out : Except X α} (h : p.Run tr out) : ∀ ev ∈ tr, P ev.1 := by
  induction p generalizing tr with
  | ret a => cases h.1; simp
  | raise x => cases h.1; simp
  | ask e k ih =>
    obtain ⟨r, t, rfl, ht⟩ := h
    intro ev hev
    rcases List.mem_cons.mp hev with rfl | hev
    · exact hp.1
    · exact ih r (hp.2 r) ht ev hev

/-! ## Environment functions -/

/-- The result of a program when each effect has one answer. -/
def eval (ans : (e : E) → R e) : Prog E R X α → Except X α
  | .ret a => .ok a
  | .raise x => .error x
  | .ask e k => (k (ans e)).eval ans

theorem eval_bind (ans : (e : E) → R e) (p : Prog E R X α) (f : α → Prog E R X β) :
    (p >>= f).eval ans = (p.eval ans).bind fun a => (f a).eval ans := by
  induction p with
  | ret a => rfl
  | raise x => rfl
  | ask e k ih => exact ih (ans e)

/-- A run whose events have these answers has that result. -/
theorem Run.eval_eq {ans : (e : E) → R e} {p : Prog E R X α} {tr : List (Event E R)} {out : Except X α}
    (h : p.Run tr out) (hans : ∀ ev ∈ tr, ev.2 = ans ev.1) : p.eval ans = out := by
  induction p generalizing tr with
  | ret a => exact h.2.symm
  | raise x => exact h.2.symm
  | ask e k ih =>
    obtain ⟨r, t, rfl, h⟩ := h
    obtain rfl : r = ans e := hans _ List.mem_cons_self
    exact ih _ h fun ev hev => hans ev (List.mem_cons_of_mem _ hev)

/-- Run a program against an environment that computes its answers. -/
def exec (ans : S → (e : E) → R e × S) : S → Prog E R X α → List (Event E R) × Except X α × S
  | s, .ret a => ([], .ok a, s)
  | s, .raise x => ([], .error x, s)
  | s, .ask e k =>
    let ra := ans s e
    let rest := exec ans ra.2 (k ra.1)
    (⟨e, ra.1⟩ :: rest.1, rest.2)

/-- Every program runs to its end against an environment function. -/
theorem exec_spec (step : S → Event E R → S → Prop) (ans : S → (e : E) → R e × S)
    (hans : ∀ s e, step s ⟨e, (ans s e).1⟩ (ans s e).2) (p : Prog E R X α) (s : S) :
    p.Run (exec ans s p).1 (exec ans s p).2.1 ∧ Steps step s (exec ans s p).1 (exec ans s p).2.2 := by
  induction p generalizing s with
  | ret a => exact ⟨⟨rfl, rfl⟩, rfl⟩
  | raise x => exact ⟨⟨rfl, rfl⟩, rfl⟩
  | ask e k ih =>
    obtain ⟨hr, hs⟩ := ih (ans s e).1 (ans s e).2
    exact ⟨⟨_, _, rfl, hr⟩, _, hans s e, hs⟩

end Prog

end Effects
