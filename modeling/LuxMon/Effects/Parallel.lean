import LuxMon.Effects.Environment

/-!
# Two programs over one environment

`ParRun` interleaves two programs effect by effect.  An interleaving is the same
thing as one trace whose left events are a run of the left program, whose right
events are a run of the right program, and which the environment answers
(`parRun_iff`); so whoever performed the last event of a kind decides what is
left behind (`lastSide`).
-/

namespace Effects

variable {E : Type} {R : E → Type} {X α β S γ : Type}

inductive Side
  | left
  | right
  deriving DecidableEq, Repr

/-- A trace of two programs: every event with the program that performed it. -/
abbrev ParTrace (E : Type) (R : E → Type) := List (Side × Event E R)

namespace ParTrace

/-- The events of one program. -/
def side (d : Side) (tr : ParTrace E R) : List (Event E R) :=
  tr.filterMap fun x => if x.1 = d then some x.2 else none

/-- The values `val` reads off the events, each with the program that performed it. -/
def tagged (val : Event E R → Option γ) (tr : ParTrace E R) : List (Side × γ) :=
  tr.filterMap fun x => (val x.2).map fun v => (x.1, v)

/-- The program whose event is the last one that `val` selects. -/
def lastSide (val : Event E R → Option γ) (tr : ParTrace E R) : Option Side :=
  (tagged val tr).getLast?.map Prod.fst

@[simp] theorem side_nil (d : Side) : side d ([] : ParTrace E R) = [] := rfl

theorem side_cons (d : Side) (x : Side × Event E R) (tr : ParTrace E R) :
    side d (x :: tr) = if x.1 = d then x.2 :: side d tr else side d tr := by
  unfold side
  split
  · next h => rw [List.filterMap_cons_some (by rw [if_pos h])]
  · next h => rw [List.filterMap_cons_none (by rw [if_neg h])]

@[simp] theorem side_append (d : Side) (t u : ParTrace E R) :
    side d (t ++ u) = side d t ++ side d u := by
  simp [side]

theorem tagged_map_snd (val : Event E R → Option γ) (tr : ParTrace E R) :
    (tagged val tr).map Prod.snd = (tr.map Prod.snd).filterMap val := by
  induction tr with
  | nil => rfl
  | cons x tr ih =>
    unfold tagged at ih ⊢
    cases hv : val x.2 <;> simp [hv, ih]

theorem tagged_side (val : Event E R → Option γ) (d : Side) (tr : ParTrace E R) :
    (tagged val tr).filterMap (fun y => if y.1 = d then some y.2 else none) =
      (side d tr).filterMap val := by
  induction tr with
  | nil => rfl
  | cons x tr ih =>
    rw [side_cons]
    unfold tagged at ih ⊢
    by_cases hd : x.1 = d <;> cases hv : val x.2 <;>
      simp [hv, hd, ih]

/-- A trace can be cut at any event of one side. -/
theorem exists_of_side_eq {d : Side} {ev : Event E R} {t u : List (Event E R)} {tr : ParTrace E R}
    (h : side d tr = t ++ ev :: u) :
    ∃ tr₁ tr₂, tr = tr₁ ++ (d, ev) :: tr₂ ∧ side d tr₁ = t ∧ side d tr₂ = u := by
  induction tr generalizing t with
  | nil => simp at h
  | cons x tr ih =>
    rw [side_cons] at h
    split at h
    · next hd =>
      cases t with
      | nil =>
        obtain ⟨rfl, rfl⟩ := List.cons.inj h
        exact ⟨[], tr, by rw [← hd]; rfl, rfl, rfl⟩
      | cons e t =>
        obtain ⟨rfl, h'⟩ := List.cons.inj h
        obtain ⟨tr₁, tr₂, rfl, h₁, h₂⟩ := ih h'
        exact ⟨x :: tr₁, tr₂, rfl, by rw [side_cons, if_pos hd, h₁], h₂⟩
    · next hd =>
      obtain ⟨tr₁, tr₂, rfl, h₁, h₂⟩ := ih h
      exact ⟨x :: tr₁, tr₂, rfl, by rw [side_cons, if_neg hd, h₁], h₂⟩

/-- What `val` selects comes from one side when it selects nothing on the other. -/
theorem filterMap_of_side {d d' : Side} (hne : d ≠ d') (val : Side × Event E R → Option γ)
    (tr : ParTrace E R) (h : ∀ ev ∈ side d' tr, val (d', ev) = none) :
    tr.filterMap val = (side d tr).filterMap fun ev => val (d, ev) := by
  induction tr with
  | nil => rfl
  | cons x tr ih =>
    obtain ⟨e, ev⟩ := x
    rw [side_cons] at h
    rw [side_cons, List.filterMap_cons]
    by_cases hd : e = d
    · subst hd
      rw [if_neg hne] at h
      rw [if_pos rfl, List.filterMap_cons, ih h]
    · have hd' : e = d' := by cases e <;> cases d <;> cases d' <;> simp_all
      subst hd'
      rw [if_pos rfl] at h
      rw [if_neg (Ne.symm hne), h ev List.mem_cons_self, ih fun x hx => h x (List.mem_cons_of_mem _ hx)]

/-- One event of a kind on each side: they come in one of the two orders. -/
theorem tagged_pair (val : Event E R → Option γ) (tr : ParTrace E R) (a b : γ)
    (ha : (side .left tr).filterMap val = [a]) (hb : (side .right tr).filterMap val = [b]) :
    tagged val tr = [(.left, a), (.right, b)] ∨ tagged val tr = [(.right, b), (.left, a)] := by
  rw [← tagged_side] at ha hb
  generalize tagged val tr = l at ha hb
  match l, ha, hb with
  | [], ha, _ => simp at ha
  | [(.left, x)], _, hb => simp at hb
  | [(.right, x)], ha, _ => simp at ha
  | (.left, x) :: (.left, y) :: l, ha, _ => simp at ha
  | (.right, x) :: (.right, y) :: l, _, hb => simp at hb
  | [(.left, x), (.right, y)], ha, hb =>
    simp only [List.filterMap_cons, List.filterMap_nil, reduceCtorEq, if_true, if_false,
      List.cons.injEq, and_true] at ha hb
    exact Or.inl (by rw [ha, hb])
  | [(.right, x), (.left, y)], ha, hb =>
    simp only [List.filterMap_cons, List.filterMap_nil, reduceCtorEq, if_true, if_false,
      List.cons.injEq, and_true] at ha hb
    exact Or.inr (by rw [ha, hb])
  | (.left, x) :: (.right, y) :: (.left, z) :: l, ha, _ => simp at ha
  | (.left, x) :: (.right, y) :: (.right, z) :: l, _, hb => simp at hb
  | (.right, x) :: (.left, y) :: (.left, z) :: l, ha, _ => simp at ha
  | (.right, x) :: (.left, y) :: (.right, z) :: l, _, hb => simp at hb

/-- One event of a kind on each side: the last one is the last on its side. -/
theorem last_of_pair (val : Event E R → Option γ) (tr : ParTrace E R) (a b : γ)
    (ha : (side .left tr).filterMap val = [a]) (hb : (side .right tr).filterMap val = [b]) :
    (lastSide val tr = some .left ∧ ((tr.map Prod.snd).filterMap val).getLast? = some a) ∨
      (lastSide val tr = some .right ∧ ((tr.map Prod.snd).filterMap val).getLast? = some b) := by
  unfold lastSide
  rw [← tagged_map_snd]
  rcases tagged_pair val tr a b ha hb with h | h
  · exact Or.inr (by simp [h])
  · exact Or.inl (by simp [h])

end ParTrace

open ParTrace

/-- An interleaving of two programs: `p` and `q` take effects in turn, in any
order, until both have returned or raised. -/
inductive ParRun (step : S → Event E R → S → Prop) :
    S → Prog E R X α → Prog E R X β → ParTrace E R → S → Except X α → Except X β → Prop
  | done {s p q a b} : p.Run [] a → q.Run [] b → ParRun step s p q [] s a b
  | left {s m s' e k q r tr a b} : step s ⟨e, r⟩ m → ParRun step m (k r) q tr s' a b →
      ParRun step s (.ask e k) q ((.left, ⟨e, r⟩) :: tr) s' a b
  | right {s m s' p e k r tr a b} : step s ⟨e, r⟩ m → ParRun step m p (k r) tr s' a b →
      ParRun step s p (.ask e k) ((.right, ⟨e, r⟩) :: tr) s' a b

theorem parRun_iff (step : S → Event E R → S → Prop) (s s' : S) (p : Prog E R X α)
    (q : Prog E R X β) (tr : ParTrace E R) (a : Except X α) (b : Except X β) :
    ParRun step s p q tr s' a b ↔
      p.Run (side .left tr) a ∧ q.Run (side .right tr) b ∧ Steps step s (tr.map Prod.snd) s' := by
  constructor
  · intro h
    induction h with
    | done hp hq => exact ⟨hp, hq, rfl⟩
    | left hstep _ ih => exact ⟨⟨_, _, rfl, ih.1⟩, ih.2.1, _, hstep, ih.2.2⟩
    | right hstep _ ih => exact ⟨ih.1, ⟨_, _, rfl, ih.2.1⟩, _, hstep, ih.2.2⟩
  · rintro ⟨hp, hq, hs⟩
    induction tr generalizing s p q with
    | nil => cases hs; exact .done hp hq
    | cons x tr ih =>
      obtain ⟨d, ev⟩ := x
      obtain ⟨m, hm, hs⟩ := hs
      cases d with
      | left =>
        cases p with
        | ret v => exact absurd hp.1 (by simp [side_cons])
        | raise v => exact absurd hp.1 (by simp [side_cons])
        | ask e k =>
          obtain ⟨r, t, he, hp⟩ := hp
          rw [side_cons, if_pos rfl] at he
          obtain ⟨rfl, rfl⟩ := List.cons.inj he
          exact .left hm (ih m _ _ hp hq hs)
      | right =>
        cases q with
        | ret v => exact absurd hq.1 (by simp [side_cons])
        | raise v => exact absurd hq.1 (by simp [side_cons])
        | ask e k =>
          obtain ⟨r, t, he, hq⟩ := hq
          rw [side_cons, if_pos rfl] at he
          obtain ⟨rfl, rfl⟩ := List.cons.inj he
          exact .right hm (ih m _ _ hp hq hs)

/-- The program has returned a value that satisfies `f`. -/
def Prog.returns (f : α → Bool) : Prog E R X α → Bool
  | .ret a => f a
  | _ => false

theorem Prog.returns_iff {f : α → Bool} {p : Prog E R X α} :
    p.returns f = true ↔ ∃ a, p = .ret a ∧ f a = true := by
  cases p <;> simp [Prog.returns]

/-- Interleave two programs against an environment function; the schedule says
whose turn it is (a turn of a finished program is skipped). -/
def execPar (ans : S → (e : E) → R e × S) :
    List Side → S → Prog E R X α → Prog E R X β →
      ParTrace E R × S × Prog E R X α × Prog E R X β
  | [], s, p, q => ([], s, p, q)
  | .left :: sched, s, .ask e k, q =>
    let ra := ans s e
    let rest := execPar ans sched ra.2 (k ra.1) q
    ((.left, ⟨e, ra.1⟩) :: rest.1, rest.2)
  | .right :: sched, s, p, .ask e k =>
    let ra := ans s e
    let rest := execPar ans sched ra.2 p (k ra.1)
    ((.right, ⟨e, ra.1⟩) :: rest.1, rest.2)
  | _ :: sched, s, p, q => execPar ans sched s p q

/-- A schedule under which both programs return gives an interleaving. -/
theorem execPar_spec (step : S → Event E R → S → Prop) (ans : S → (e : E) → R e × S)
    (hans : ∀ s e, step s ⟨e, (ans s e).1⟩ (ans s e).2) (sched : List Side) (s : S)
    (p : Prog E R X α) (q : Prog E R X β) (a : α) (b : β)
    (hp : (execPar ans sched s p q).2.2.1 = .ret a) (hq : (execPar ans sched s p q).2.2.2 = .ret b) :
    ParRun step s p q (execPar ans sched s p q).1 (execPar ans sched s p q).2.1 (.ok a) (.ok b) := by
  fun_induction execPar ans sched s p q with
  | case1 s p q =>
    subst hp hq
    exact .done ⟨rfl, rfl⟩ ⟨rfl, rfl⟩
  | case2 sched s e k q ra rest ih => exact .left (hans s e) (ih hp hq)
  | case3 sched s p e k ra rest ih => exact .right (hans s e) (ih hp hq)
  | case4 d sched s p q hl hr ih => exact ih hp hq

end Effects
