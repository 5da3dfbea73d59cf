import LuxMon.Effects.Environment

/-!
# Postconditions of effect programs

`Ensures step s p Q`: every complete run of `p` from state `s` of the environment
ends with a trace, an outcome and a state that satisfy `Q`.  The rules follow the
constructors of programs, so a program is taken apart statement by statement.

    Ensures s p Q₁ and every outcome of Q₁ continues to Q → Ensures s (p >>= f) Q    (Ensures.bind)

`Returns` is the special case of a program that never raises there, and `Yields` that of
one which only looks: it returns `a`, and the environment is as it was.
-/

namespace Effects

variable {E : Type} {R : E → Type} {X α β S : Type}

def Ensures (step : S → Event E R → S → Prop) (s : S) (p : Prog E R X α)
    (Q : List (Event E R) → Except X α → S → Prop) : Prop :=
  ∀ tr out s', p.Run tr out → Steps step s tr s' → Q tr out s'

/-- The environment that answers anything; with it `Ensures` speaks of all runs. -/
def anyStep (_ : Unit) (_ : Event E R) (_ : Unit) : Prop := True

theorem steps_anyStep (tr : List (Event E R)) : Steps anyStep () tr () := by
  induction tr with
  | nil => rfl
  | cons ev tr ih => exact ⟨(), trivial, ih⟩

variable {step : S → Event E R → S → Prop} {s : S} {p : Prog E R X α}
  {Q Q' : List (Event E R) → Except X α → S → Prop}

theorem Ensures.trivial : Ensures step s p fun _ _ _ => True := fun _ _ _ _ _ => True.intro

theorem Ensures.mono (h : Ensures step s p Q') (hQ : ∀ tr out s', Q' tr out s' → Q tr out s') :
    Ensures step s p Q :=
  fun tr out s' hr hs => hQ tr out s' (h tr out s' hr hs)

/-- What holds in one environment holds in one that allows less. -/
theorem Ensures.of_steps {step' : S → Event E R → S → Prop} (hstep : ∀ a ev b, step' a ev b → step a ev b)
    (h : Ensures step s p Q) : Ensures step' s p Q :=
  fun tr out s' hr hs => h tr out s' hr (hs.mono hstep)

theorem Ensures.and (h : Ensures step s p Q) (h' : Ensures step s p Q') :
    Ensures step s p fun tr out s' => Q tr out s' ∧ Q' tr out s' :=
  fun tr out s' hr hs => ⟨h tr out s' hr hs, h' tr out s' hr hs⟩

@[simp] theorem ensures_ret (a : α) : Ensures step s (.ret a) Q ↔ Q [] (.ok a) s := by
  constructor
  · intro h
    exact h [] _ s ⟨rfl, rfl⟩ rfl
  · rintro h tr out s' ⟨rfl, rfl⟩ rfl
    exact h

@[simp] theorem ensures_pure (a : α) : Ensures step s (pure a) Q ↔ Q [] (.ok a) s := ensures_ret a

@[simp] theorem ensures_raise (x : X) : Ensures step s (.raise x) Q ↔ Q [] (.error x) s := by
  constructor
  · intro h
    exact h [] _ s ⟨rfl, rfl⟩ rfl
  · rintro h tr out s' ⟨rfl, rfl⟩ rfl
    exact h

@[simp] theorem ensures_ofExcept (x : Except X α) :
    Ensures step s (Prog.ofExcept x) Q ↔ Q [] x s := by
  cases x <;> simp [Prog.ofExcept]

theorem ensures_ask (e : E) (k : R e → Prog E R X α) :
    Ensures step s (.ask e k) Q ↔
      ∀ r m, step s ⟨e, r⟩ m → Ensures step m (k r) fun t out s' => Q (⟨e, r⟩ :: t) out s' := by
  constructor
  · intro h r m hm t out s' hr hs
    exact h _ _ _ ⟨r, t, rfl, hr⟩ ⟨m, hm, hs⟩
  · rintro h tr out s' ⟨r, t, rfl, hr⟩ ⟨m, hm, hs⟩
    exact h r m hm t out s' hr hs

theorem Ensures.bind {f : α → Prog E R X β} {Q₂ : List (Event E R) → Except X β → S → Prop}
    (h : Ensures step s p Q)
    (hok : ∀ t a m, Q t (.ok a) m → Ensures step m (f a) fun u out s' => Q₂ (t ++ u) out s')
    (herr : ∀ t x m, Q t (.error x) m → Q₂ t (.error x) m) : Ensures step s (p >>= f) Q₂ := by
  intro tr out s' hr hs
  rcases (Prog.run_bind p f tr out).mp hr with ⟨a, t, u, rfl, hp, hf⟩ | ⟨x, rfl, hp⟩
  · obtain ⟨m, hm, hs⟩ := steps_append.mp hs
    exact hok t a m (h t _ m hp hm) u out s' hf hs
  · exact herr tr x s' (h tr _ s' hp hs)

theorem Ensures.tryCatch {h : X → Prog E R X α} {Q₂ : List (Event E R) → Except X α → S → Prop}
    (hp : Ensures step s p Q) (hok : ∀ t a m, Q t (.ok a) m → Q₂ t (.ok a) m)
    (herr : ∀ t x m, Q t (.error x) m → Ensures step m (h x) fun u out s' => Q₂ (t ++ u) out s') :
    Ensures step s (p.tryCatch h) Q₂ := by
  intro tr out s' hr hs
  rcases (Prog.run_tryCatch p h tr out).mp hr with ⟨a, rfl, ha⟩ | ⟨x, t, u, rfl, hx, hu⟩
  · exact hok tr a s' (hp tr _ s' ha hs)
  · obtain ⟨m, hm, hs⟩ := steps_append.mp hs
    exact herr t x m (hp t _ m hx hm) u out s' hu hs

/-- What a program may ask for, for every event of its trace. -/
theorem Ensures.of_asks {P : E → Prop} (hp : p.Asks P) :
    Ensures step s p fun tr _ _ => ∀ ev ∈ tr, P ev.1 :=
  fun _ _ _ hr _ => hp.of_run hr

/-- The state facts that no event of an asked kind breaks. -/
theorem Ensures.frame {P : E → Prop} (hp : p.Asks P) (I : S → Prop)
    (hstep : ∀ ev a b, P ev.1 → I a → step a ev b → I b) (hs : I s) :
    Ensures step s p fun _ _ s' => I s' :=
  fun _ _ _ hr hst =>
    hst.invariant I (fun ev hev a b ha hab => hstep ev a b (hp.of_run hr ev hev) ha hab) hs

/-! ## Programs that return -/

/-- The program returns, with a value and a state that satisfy `Q`. -/
def Returns (step : S → Event E R → S → Prop) (s : S) (p : Prog E R X α) (Q : α → S → Prop) : Prop :=
  Ensures step s p fun _ out s' => ∃ a, out = .ok a ∧ Q a s'

/-- The program returns `a` and leaves the state as it is. -/
abbrev Yields (step : S → Event E R → S → Prop) (s : S) (p : Prog E R X α) (a : α) : Prop :=
  Returns step s p fun b s' => b = a ∧ s' = s

section
variable {P : α → S → Prop} {P' : β → S → Prop} {f : α → Prog E R X β}

theorem returns_pure {a : α} (h : P a s) : Returns step s (pure a : Prog E R X α) P :=
  (ensures_pure a).mpr ⟨a, rfl, h⟩

theorem returns_ofExcept {x : Except X α} {a : α} (hx : x = .ok a) (h : P a s) :
    Returns step s (Prog.ofExcept x) P :=
  (ensures_ofExcept x).mpr ⟨a, hx, h⟩

theorem Returns.mono {P₂ : α → S → Prop} (h : Returns step s p P) (hP : ∀ a s', P a s' → P₂ a s') :
    Returns step s p P₂ :=
  Ensures.mono h fun _ _ s' ⟨a, ha, hs⟩ => ⟨a, ha, hP a s' hs⟩

theorem Returns.bind (h : Returns step s p P) (hf : ∀ a m, P a m → Returns step m (f a) P') :
    Returns step s (p >>= f) P' := by
  refine Ensures.bind h ?_ ?_
  · rintro t a m ⟨_, ha, hm⟩
    cases ha
    exact hf a m hm
  · rintro t x m ⟨_, hx, -⟩
    cases hx

theorem Returns.tryCatch {handler : X → Prog E R X α} (h : Returns step s p P) :
    Returns step s (p.tryCatch handler) P := by
  refine Ensures.tryCatch h (fun t a m ha => ha) ?_
  rintro t x m ⟨_, hx, -⟩
  cases hx

theorem yields_pure (a : α) : Yields step s (pure a : Prog E R X α) a := returns_pure ⟨rfl, rfl⟩

theorem yields_ofExcept {x : Except X α} {a : α} (h : x = .ok a) : Yields step s (Prog.ofExcept x) a :=
  returns_ofExcept h ⟨rfl, rfl⟩

theorem Yields.bind {a : α} (h : Yields step s p a) (hf : Returns step s (f a) P') :
    Returns step s (p >>= f) P' := by
  refine Returns.bind h ?_
  rintro _ _ ⟨rfl, rfl⟩
  exact hf

end

end Effects
