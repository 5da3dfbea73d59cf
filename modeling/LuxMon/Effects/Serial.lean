import LuxMon.Effects.Pool

/-!
# Serial orders

A trace of several programs is conflict-serialisable when the programs can be put
in an order with which all conflicts of the trace agree.  Then the programs can be
run one after the other, each with the steps it took: the first one's steps move
to the front, past steps they do not conflict with.

    conflicts agree with an order → the trace can be run in that order     (path_serial)
    two groups that never conflict can run one group after the other       (poolRun_grouped)
-/

namespace Effects

variable {α S : Type}

/-- A sequence of steps. -/
def Path (step : S → α → S → Prop) : S → List α → S → Prop
  | s, [], s' => s' = s
  | s, a :: as, s' => ∃ m, step s a m ∧ Path step m as s'

section
variable {step : S → α → S → Prop} {s s' : S}

@[simp] theorem path_nil : Path step s [] s' ↔ s' = s := Iff.rfl

theorem path_cons {a : α} {as : List α} :
    Path step s (a :: as) s' ↔ ∃ m, step s a m ∧ Path step m as s' := Iff.rfl

@[simp] theorem path_single {a : α} : Path step s [a] s' ↔ step s a s' := by
  constructor
  · rintro ⟨m, h, rfl⟩
    exact h
  · intro h
    exact ⟨s', h, rfl⟩

theorem path_append {as bs : List α} :
    Path step s (as ++ bs) s' ↔ ∃ m, Path step s as m ∧ Path step m bs s' := by
  induction as generalizing s with
  | nil => simp
  | cons a as ih =>
    simp only [List.cons_append, path_cons, ih]
    constructor
    · rintro ⟨m, h, m', has, hbs⟩
      exact ⟨m', ⟨m, h, has⟩, hbs⟩
    · rintro ⟨m', ⟨m, h, has⟩, hbs⟩
      exact ⟨m, h, m', has, hbs⟩

end

/-- Steps that do not conflict may be taken in the other order. -/
def Commute (step : S → α → S → Prop) (Conflicts : α → α → Prop) : Prop :=
  ∀ s m s' a b, ¬ Conflicts a b → step s a m → step m b s' → ∃ m', step s b m' ∧ step m' a s'

variable {step : S → α → S → Prop} {Conflicts : α → α → Prop} {s s' : S}

/-- A step moves behind steps that it does not conflict with. -/
theorem path_move (hcomm : Commute step Conflicts) {a : α} {as : List α}
    (hfree : ∀ b ∈ as, ¬ Conflicts a b) (h : Path step s (a :: as) s') :
    ∃ m, Path step s as m ∧ step m a s' := by
  induction as generalizing s with
  | nil => exact ⟨s, rfl, path_single.mp h⟩
  | cons b as ih =>
    obtain ⟨m, ha, m', hb, has⟩ := h
    obtain ⟨m₁, hb', ha'⟩ := hcomm _ _ _ _ _ (hfree b List.mem_cons_self) ha hb
    obtain ⟨m₂, has', hlast⟩ := ih (fun c hc => hfree c (List.mem_cons_of_mem _ hc)) ⟨m', ha', has⟩
    exact ⟨m₂, ⟨m₁, hb', has'⟩, hlast⟩

variable {ι : Type} [DecidableEq ι]

/-- What belongs to the other programs. -/
def without (i : ι) (tr : List (ι × α)) : List (ι × α) := tr.filter fun x => x.1 ≠ i

theorem without_cons (i : ι) (x : ι × α) (tr : List (ι × α)) :
    without i (x :: tr) = if x.1 = i then without i tr else x :: without i tr := by
  unfold without
  rw [List.filter_cons]
  by_cases h : x.1 = i <;> simp [h]

theorem only_without {i j : ι} (h : j ≠ i) (tr : List (ι × α)) : only j (without i tr) = only j tr := by
  induction tr with
  | nil => rfl
  | cons x tr ih =>
    rw [without_cons, only_cons]
    by_cases hi : x.1 = i
    · rw [if_pos hi, ih, if_neg fun hj => h (hj.symm.trans hi)]
    · rw [if_neg hi, only_cons, ih]

/-- A program whose steps conflict with no earlier step of another comes first. -/
theorem path_first (hcomm : Commute step Conflicts) {i : ι} {tr : List (ι × α)}
    (hfirst : tr.Pairwise fun x y => x.1 ≠ i → y.1 = i → ¬ Conflicts x.2 y.2)
    (h : Path step s (tr.map Prod.snd) s') :
    ∃ m, Path step s (only i tr) m ∧ Path step m ((without i tr).map Prod.snd) s' := by
  induction tr generalizing s with
  | nil => exact ⟨s, rfl, h⟩
  | cons x tr ih =>
    obtain ⟨m, hx, hrest⟩ := h
    obtain ⟨hhead, htail⟩ := List.pairwise_cons.mp hfirst
    obtain ⟨m', honly, hwithout⟩ := ih htail hrest
    rw [only_cons, without_cons]
    by_cases hi : x.1 = i
    · rw [if_pos hi, if_pos hi]
      exact ⟨m', ⟨m, hx, honly⟩, hwithout⟩
    · have hfree : ∀ b ∈ only i tr, ¬ Conflicts x.2 b := fun b hb =>
        hhead (i, b) (mem_only.mp hb) hi rfl
      obtain ⟨m₁, hfront, hback⟩ := path_move hcomm hfree ⟨m, hx, honly⟩
      rw [if_neg hi, if_neg hi]
      exact ⟨m₁, hfront, m', hback, hwithout⟩

/-- Of two conflicting steps of different programs, the program of the earlier one comes first. -/
def InOrder (Conflicts : α → α → Prop) (order : List ι) (tr : List (ι × α)) : Prop :=
  tr.Pairwise fun x y => x.1 ≠ y.1 → Conflicts x.2 y.2 → [x.1, y.1].Sublist order

omit [DecidableEq ι] in
theorem InOrder.first {i : ι} {order : List ι} {tr : List (ι × α)} (hnodup : (i :: order).Nodup)
    (h : InOrder Conflicts (i :: order) tr) :
    tr.Pairwise fun x y => x.1 ≠ i → y.1 = i → ¬ Conflicts x.2 y.2 := by
  refine h.imp fun {x y} hxy hx hy hconflict => ?_
  have hsub := hxy (fun heq => hx (heq.trans hy)) hconflict
  cases hsub with
  | cons _ hsub =>
    exact (List.nodup_cons.mp hnodup).1 (hy ▸ hsub.subset (by simp))
  | cons_cons _ hsub => exact hx rfl

theorem InOrder.rest {i : ι} {order : List ι} {tr : List (ι × α)} (h : InOrder Conflicts (i :: order) tr) :
    InOrder Conflicts order (without i tr) := by
  have hne : ∀ x ∈ without i tr, x.1 ≠ i := fun x hx => by simpa using (List.mem_filter.mp hx).2
  refine (List.Pairwise.sublist List.filter_sublist h).imp_of_mem fun {x y} hx hy hxy hdiff hconflict => ?_
  cases hxy hdiff hconflict with
  | cons _ hsub => exact hsub
  | cons_cons _ hsub => exact absurd rfl (hne _ hx)

/-- A conflict-serialisable trace can be run serially, every program with its own steps. -/
theorem path_serial (hcomm : Commute step Conflicts) {order : List ι} (hnodup : order.Nodup)
    {tr : List (ι × α)} (hmem : ∀ x ∈ tr, x.1 ∈ order) (horder : InOrder Conflicts order tr)
    (h : Path step s (tr.map Prod.snd) s') : Path step s (order.flatMap fun i => only i tr) s' := by
  induction order generalizing s tr with
  | nil =>
    obtain rfl : tr = [] := List.eq_nil_iff_forall_not_mem.mpr fun x hx => by simpa using hmem x hx
    exact h
  | cons i order ih =>
    obtain ⟨m, honly, hwithout⟩ := path_first hcomm (horder.first hnodup) h
    obtain ⟨hi, hnodup⟩ := List.nodup_cons.mp hnodup
    have hmem' : ∀ x ∈ without i tr, x.1 ∈ order := by
      intro x hx
      obtain ⟨hx, hne⟩ := List.mem_filter.mp hx
      exact (List.mem_cons.mp (hmem x hx)).resolve_left (by simpa using hne)
    have hrest := ih hnodup hmem' horder.rest hwithout
    have hsame : (order.flatMap fun j => only j (without i tr)) = order.flatMap fun j => only j tr :=
      List.flatMap_congr fun j hj => only_without (fun heq => hi (by rwa [heq] at hj)) tr
    rw [hsame] at hrest
    exact path_append.mpr ⟨m, honly, hrest⟩

/-! ## Two groups of programs -/

variable {E : Type} {R : E → Type}

theorem steps_iff_path {step : S → Event E R → S → Prop} {tr : List (Event E R)} :
    Steps step s tr s' ↔ Path step s tr s' := by
  induction tr generalizing s with
  | nil => exact Iff.rfl
  | cons ev tr ih => exact exists_congr fun m => and_congr_right fun _ => ih

/-- The steps of one group, then those of the other. -/
def grouped (group : ι → Bool) (tr : List (ι × α)) : List (ι × α) :=
  (tr.filter fun x => group x.1) ++ tr.filter fun x => !group x.1

/-- Every program keeps its steps. -/
theorem only_grouped (group : ι → Bool) (i : ι) (tr : List (ι × α)) : only i (grouped group tr) = only i tr := by
  have hside : ∀ keep : ι → Bool, only i (tr.filter fun x => keep x.1) = if keep i then only i tr else [] := by
    intro keep
    induction tr with
    | nil => simp
    | cons x tr ih =>
      rw [List.filter_cons, only_cons]
      by_cases hi : x.1 = i
      · cases hk : keep i <;> simp_all [only_cons]
      · cases hk : keep x.1 <;> simp_all [only_cons]
  unfold grouped
  rw [only_append, hside group, hside fun i => !group i]
  cases group i <;> simp

omit [DecidableEq ι] in
theorem only_group (group : ι → Bool) (tr : List (ι × α)) :
    only true (tr.map fun x => (group x.1, x.2)) = (tr.filter fun x => group x.1).map Prod.snd := by
  induction tr with
  | nil => rfl
  | cons x tr ih =>
    rw [List.map_cons, only_cons, List.filter_cons, ih]
    cases group x.1 <;> rfl

omit [DecidableEq ι] in
theorem without_group (group : ι → Bool) (tr : List (ι × α)) :
    (without true (tr.map fun x => (group x.1, x.2))).map Prod.snd =
      (tr.filter fun x => !group x.1).map Prod.snd := by
  induction tr with
  | nil => rfl
  | cons x tr ih =>
    rw [List.map_cons, without_cons, List.filter_cons]
    cases group x.1 <;> simp [ih]

variable {X : Type} {β : Type}

/-- Programs of two groups that never conflict: the groups can run one after the other, every program
with its own steps and outcome, to the same state. -/
theorem poolRun_grouped {step : S → Event E R → S → Prop} {Conflicts : Event E R → Event E R → Prop}
    (hcomm : Commute step Conflicts) (group : ι → Bool) {ps : ι → Prog E R X β} {tr : List (ι × Event E R)}
    {out : ι → Except X β}
    (hfree : ∀ x ∈ tr, ∀ y ∈ tr, group x.1 = false → group y.1 = true → ¬ Conflicts x.2 y.2)
    (h : PoolRun step s ps tr s' out) : PoolRun step s ps (grouped group tr) s' out := by
  obtain ⟨hruns, hs⟩ := (poolRun_iff _ _ _ _ _ _).mp h
  refine (poolRun_iff _ _ _ _ _ _).mpr ⟨fun i => by rw [only_grouped]; exact hruns i, ?_⟩
  -- the groups as two programs
  have hpath : Path step s ((tr.map fun x => (group x.1, x.2)).map Prod.snd) s' := by
    rw [List.map_map]
    exact steps_iff_path.mp hs
  have hfirst : (tr.map fun x => (group x.1, x.2)).Pairwise fun x y =>
      x.1 ≠ true → y.1 = true → ¬ Conflicts x.2 y.2 := by
    refine List.pairwise_map.mpr (List.pairwise_of_forall_mem_list fun x hx y hy hne heq => ?_)
    exact hfree x hx y hy (by simpa using hne) heq
  obtain ⟨m, hone, hother⟩ := path_first hcomm hfirst hpath
  refine steps_iff_path.mpr ?_
  unfold grouped
  rw [List.map_append, path_append]
  refine ⟨m, ?_, ?_⟩
  · rwa [only_group] at hone
  · rwa [without_group] at hother

end Effects
