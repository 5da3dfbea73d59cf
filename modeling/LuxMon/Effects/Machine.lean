import Mathlib.Tactic

/-!
# Machines with output

A machine goes from state to state, one input at a time, and gives one output a
step.  `after` is the state it reaches and `outputs` what it gave on the way.

    the outputs split as the inputs do                         (outputs_split)
    what every step keeps holds after every run                (after_invariant)
-/

namespace Machine

variable {σ ι ο : Type} (step : σ → ι → σ × ο)

/-- The state after the inputs. -/
def after : σ → List ι → σ
  | s, [] => s
  | s, i :: is => after (step s i).1 is

/-- The outputs, one for each input. -/
def outputs : σ → List ι → List ο
  | _, [] => []
  | s, i :: is => (step s i).2 :: outputs (step s i).1 is

@[simp] theorem after_nil (s : σ) : after step s [] = s := rfl

@[simp] theorem after_cons (s : σ) (i : ι) (is : List ι) :
    after step s (i :: is) = after step (step s i).1 is := rfl

@[simp] theorem outputs_nil (s : σ) : outputs step s [] = [] := rfl

@[simp] theorem outputs_cons (s : σ) (i : ι) (is : List ι) :
    outputs step s (i :: is) = (step s i).2 :: outputs step (step s i).1 is := rfl

theorem after_append (s : σ) (is js : List ι) :
    after step s (is ++ js) = after step (after step s is) js := by
  induction is generalizing s with
  | nil => rfl
  | cons i is ih => exact ih _

theorem outputs_append (s : σ) (is js : List ι) :
    outputs step s (is ++ js) = outputs step s is ++ outputs step (after step s is) js := by
  induction is generalizing s with
  | nil => rfl
  | cons i is ih => exact congrArg ((step s i).2 :: ·) (ih _)

theorem length_outputs (s : σ) (is : List ι) : (outputs step s is).length = is.length := by
  induction is generalizing s with
  | nil => rfl
  | cons i is ih => exact congrArg (· + 1) (ih _)

/-- Each input gives its output in the state that the inputs before it lead to. -/
theorem outputs_getElem? (s : σ) (is : List ι) (n : ℕ) :
    (outputs step s is)[n]? = is[n]?.map fun i => (step (after step s (is.take n)) i).2 := by
  induction is generalizing s n with
  | nil => rfl
  | cons i is ih =>
    cases n with
    | zero => rfl
    | succ n => exact ih _ n

variable {step}

/-- Where the outputs split, the inputs do. -/
theorem outputs_split {s : σ} {is : List ι} {opre opost : List ο} {o : ο}
    (h : outputs step s is = opre ++ o :: opost) :
    ∃ ipre i ipost, is = ipre ++ i :: ipost ∧ outputs step s ipre = opre ∧
      (step (after step s ipre) i).2 = o ∧
      outputs step (step (after step s ipre) i).1 ipost = opost := by
  induction opre generalizing s is with
  | nil =>
    cases is with
    | nil => cases h
    | cons i is =>
      obtain ⟨ho, hpost⟩ := List.cons.inj h
      exact ⟨[], i, is, rfl, rfl, ho, hpost⟩
  | cons p opre ih =>
    cases is with
    | nil => cases h
    | cons i is =>
      obtain ⟨hp, hrest⟩ := List.cons.inj h
      obtain ⟨ipre, j, ipost, rfl, hpre, ho, hpost⟩ := ih hrest
      exact ⟨i :: ipre, j, ipost, rfl, by rw [outputs_cons, hp, hpre], ho, hpost⟩

/-- An invariant of the steps holds after every run. -/
theorem after_invariant (I : σ → Prop) {s : σ} {is : List ι}
    (hstep : ∀ i ∈ is, ∀ s, I s → I (step s i).1) (hs : I s) : I (after step s is) := by
  induction is generalizing s with
  | nil => exact hs
  | cons i is ih =>
    exact ih (fun j hj => hstep j (List.mem_cons_of_mem _ hj)) (hstep i List.mem_cons_self s hs)

end Machine
