import LuxMon.Effects.Parallel

/-!
# Any number of programs over one environment

`PoolRun` interleaves a family of programs effect by effect.  As for two programs
(`parRun_iff`), an interleaving is the same thing as one trace whose events of
each program are a run of that program, and which the environment answers.

    an interleaving is a trace that projects to a run of each program     (poolRun_iff)
    what is known of each program's events is known of the trace's        (weave_spec)
    what one program alone contributes is found among its own events      (filterMap_of_owner)
-/

namespace Effects

variable {ι : Type} [DecidableEq ι] {α β : Type}

/-! ## Projections -/

/-- What belongs to one of the programs. -/
def only (i : ι) (tr : List (ι × α)) : List α := tr.filterMap fun x => if x.1 = i then some x.2 else none

@[simp] theorem only_nil (i : ι) : only i ([] : List (ι × α)) = [] := rfl

theorem only_cons (i : ι) (x : ι × α) (tr : List (ι × α)) :
    only i (x :: tr) = if x.1 = i then x.2 :: only i tr else only i tr := by
  unfold only
  split
  · next h => rw [List.filterMap_cons_some (by rw [if_pos h])]
  · next h => rw [List.filterMap_cons_none (by rw [if_neg h])]

@[simp] theorem only_append (i : ι) (t u : List (ι × α)) : only i (t ++ u) = only i t ++ only i u := by
  simp [only]

theorem mem_only {i : ι} {a : α} {tr : List (ι × α)} : a ∈ only i tr ↔ (i, a) ∈ tr := by
  unfold only
  rw [List.mem_filterMap]
  constructor
  · rintro ⟨⟨j, b⟩, hx, h⟩
    split at h
    · next hj =>
      cases hj
      cases h
      exact hx
    · cases h
  · intro h
    exact ⟨(i, a), h, if_pos rfl⟩

/-- Elements that are mapped or left out, each with its program. -/
theorem only_filterMap (f : α → Option β) (i : ι) (tr : List (ι × α)) :
    only i (tr.filterMap fun x => (f x.2).map (x.1, ·)) = (only i tr).filterMap f := by
  induction tr with
  | nil => rfl
  | cons x tr ih =>
    rw [only_cons]
    cases hx : f x.2 with
    | none =>
      rw [List.filterMap_cons_none (by rw [hx]; rfl), ih]
      split
      · rw [List.filterMap_cons_none hx]
      · rfl
    | some b =>
      rw [List.filterMap_cons_some (by rw [hx]; rfl), only_cons, ih]
      split
      · rw [List.filterMap_cons_some hx]
      · rfl

/-- A trace can be cut at any element of one program. -/
theorem exists_of_only_eq {i : ι} {a : α} {t u : List α} {tr : List (ι × α)} (h : only i tr = t ++ a :: u) :
    ∃ tr₁ tr₂, tr = tr₁ ++ (i, a) :: tr₂ ∧ only i tr₁ = t ∧ only i tr₂ = u := by
  induction tr generalizing t with
  | nil => simp at h
  | cons x tr ih =>
    rw [only_cons] at h
    split at h
    · next hi =>
      cases t with
      | nil =>
        obtain ⟨rfl, rfl⟩ := List.cons.inj h
        exact ⟨[], tr, by rw [← hi]; rfl, rfl, rfl⟩
      | cons b t =>
        obtain ⟨rfl, h'⟩ := List.cons.inj h
        obtain ⟨tr₁, tr₂, rfl, h₁, h₂⟩ := ih h'
        exact ⟨x :: tr₁, tr₂, rfl, by rw [only_cons, if_pos hi, h₁], h₂⟩
    · next hi =>
      obtain ⟨tr₁, tr₂, rfl, h₁, h₂⟩ := ih h
      exact ⟨x :: tr₁, tr₂, rfl, by rw [only_cons, if_neg hi, h₁], h₂⟩

/-- What only one program contributes is found among its own elements. -/
theorem filterMap_of_owner {f : α → Option β} {i : ι} {tr : List (ι × α)}
    (h : ∀ x ∈ tr, (f x.2).isSome → x.1 = i) : (tr.map Prod.snd).filterMap f = (only i tr).filterMap f := by
  induction tr with
  | nil => rfl
  | cons x tr ih =>
    have ih := ih fun y hy => h y (List.mem_cons_of_mem x hy)
    rw [List.map_cons, only_cons]
    cases hx : f x.2 with
    | none =>
      rw [List.filterMap_cons_none hx, ih]
      split
      · rw [List.filterMap_cons_none hx]
      · rfl
    | some b =>
      rw [if_pos (h x List.mem_cons_self (by rw [hx]; rfl)), List.filterMap_cons_some hx,
        List.filterMap_cons_some hx, ih]

omit [DecidableEq ι] in
/-- A value that occurs once has one owner. -/
theorem owner_unique {f : α → Option β} {tr : List (ι × α)} (h : ((tr.map Prod.snd).filterMap f).Nodup)
    {i j : ι} {a a' : α} {b : β} (hi : (i, a) ∈ tr) (hj : (j, a') ∈ tr) (ha : f a = some b) (ha' : f a' = some b) :
    i = j := by
  induction tr with
  | nil => cases hi
  | cons x tr ih =>
    have hmem : ∀ {k : ι} {c : α}, (k, c) ∈ tr → f c = some b → b ∈ (tr.map Prod.snd).filterMap f :=
      fun hk hc => List.mem_filterMap.mpr ⟨_, List.mem_map.mpr ⟨_, hk, rfl⟩, hc⟩
    rw [List.map_cons] at h
    rcases List.mem_cons.mp hi with rfl | hi'
    · rw [List.filterMap_cons_some ha] at h
      rcases List.mem_cons.mp hj with hj | hj
      · exact (congrArg Prod.fst hj).symm
      · exact absurd (hmem hj ha') (List.nodup_cons.mp h).1
    · rcases List.mem_cons.mp hj with rfl | hj'
      · rw [List.filterMap_cons_some ha'] at h
        exact absurd (hmem hi' ha) (List.nodup_cons.mp h).1
      · refine ih ?_ hi' hj'
        cases hx : f x.2 with
        | none => rwa [List.filterMap_cons_none hx] at h
        | some c =>
          rw [List.filterMap_cons_some hx] at h
          exact (List.nodup_cons.mp h).2

/-- Give the elements of each program what the program's own list has for them. -/
def weave : List (ι × α) → (ι → List β) → List (ι × β)
  | [], _ => []
  | (i, _) :: tr, ann =>
    match ann i with
    | [] => weave tr ann
    | b :: bs => (i, b) :: weave tr (Function.update ann i bs)

theorem weave_spec (f : β → α) {tr : List (ι × α)} {ann : ι → List β}
    (h : ∀ i, (ann i).map f = only i tr) :
    (weave tr ann).map (fun x => (x.1, f x.2)) = tr ∧ ∀ i, only i (weave tr ann) = ann i := by
  induction tr generalizing ann with
  | nil => exact ⟨rfl, fun i => (List.map_eq_nil_iff.mp (h i)).symm⟩
  | cons x tr ih =>
    obtain ⟨i, a⟩ := x
    have hi := h i
    rw [only_cons, if_pos rfl] at hi
    obtain ⟨b, bs, hann, rfl, hbs⟩ := List.map_eq_cons_iff.mp hi
    have hrest : ∀ j, (Function.update ann i bs j).map f = only j tr := by
      intro j
      by_cases hj : j = i
      · subst hj
        rw [Function.update_self, hbs]
      · rw [Function.update_of_ne hj, h j, only_cons, if_neg (Ne.symm hj)]
    obtain ⟨htr, honly⟩ := ih hrest
    have hweave : weave ((i, f b) :: tr) ann = (i, b) :: weave tr (Function.update ann i bs) := by
      simp only [weave, hann]
    rw [hweave]
    refine ⟨by rw [List.map_cons, htr], fun j => ?_⟩
    rw [only_cons]
    by_cases hj : j = i
    · subst hj
      rw [if_pos rfl, honly, Function.update_self, hann]
    · rw [if_neg (Ne.symm hj), honly, Function.update_of_ne hj]

/-! ## Interleavings -/

variable {E : Type} {R : E → Type} {X S : Type}

/-- An interleaving: the programs take effects in turn, in any order, until all have returned or
raised. -/
inductive PoolRun (step : S → Event E R → S → Prop) :
    S → (ι → Prog E R X α) → List (ι × Event E R) → S → (ι → Except X α) → Prop
  | done {s ps out} : (∀ i, (ps i).Run [] (out i)) → PoolRun step s ps [] s out
  | turn {s m s' ps i e k r tr out} : ps i = .ask e k → step s ⟨e, r⟩ m →
      PoolRun step m (Function.update ps i (k r)) tr s' out →
      PoolRun step s ps ((i, ⟨e, r⟩) :: tr) s' out

theorem poolRun_iff (step : S → Event E R → S → Prop) (s s' : S) (ps : ι → Prog E R X α)
    (tr : List (ι × Event E R)) (out : ι → Except X α) :
    PoolRun step s ps tr s' out ↔
      (∀ i, (ps i).Run (only i tr) (out i)) ∧ Steps step s (tr.map Prod.snd) s' := by
  constructor
  · intro h
    induction h with
    | done hps => exact ⟨hps, rfl⟩
    | @turn s m s' ps i e k r tr out hask hstep _ ih =>
      refine ⟨fun j => ?_, m, hstep, ih.2⟩
      have hj := ih.1 j
      rw [only_cons]
      by_cases hij : i = j
      · subst hij
        rw [Function.update_self] at hj
        rw [if_pos rfl, hask]
        exact ⟨r, _, rfl, hj⟩
      · rw [if_neg hij]
        rwa [Function.update_of_ne (Ne.symm hij)] at hj
  · rintro ⟨hps, hs⟩
    induction tr generalizing s ps with
    | nil =>
      cases hs
      exact .done hps
    | cons x tr ih =>
      obtain ⟨i, ev⟩ := x
      obtain ⟨m, hm, hs⟩ := hs
      have hi := hps i
      rw [only_cons, if_pos rfl] at hi
      cases hp : ps i with
      | ret a =>
        rw [hp] at hi
        exact absurd hi.1 (by simp)
      | raise x =>
        rw [hp] at hi
        exact absurd hi.1 (by simp)
      | ask e k =>
        rw [hp] at hi
        obtain ⟨r, t, he, ht⟩ := hi
        obtain ⟨rfl, rfl⟩ := List.cons.inj he
        refine .turn hp hm (ih m _ (fun j => ?_) hs)
        by_cases hij : j = i
        · subst hij
          rwa [Function.update_self]
        · have hj := hps j
          rw [only_cons, if_neg (Ne.symm hij)] at hj
          rwa [Function.update_of_ne hij]

/-- Interleave programs against an environment function; the schedule says whose turn it is
(a turn of a finished program is skipped). -/
def execPool (ans : S → (e : E) → R e × S) :
    List ι → S → (ι → Prog E R X α) → List (ι × Event E R) × S × (ι → Prog E R X α)
  | [], s, ps => ([], s, ps)
  | i :: sched, s, ps =>
    match ps i with
    | .ask e k =>
      let ra := ans s e
      let rest := execPool ans sched ra.2 (Function.update ps i (k ra.1))
      ((i, ⟨e, ra.1⟩) :: rest.1, rest.2)
    | _ => execPool ans sched s ps

/-- A schedule under which every program returns gives an interleaving. -/
theorem execPool_spec (step : S → Event E R → S → Prop) (ans : S → (e : E) → R e × S)
    (hans : ∀ s e, step s ⟨e, (ans s e).1⟩ (ans s e).2) (sched : List ι) (s : S)
    (ps : ι → Prog E R X α) (out : ι → Except X α)
    (hout : ∀ i, ((execPool ans sched s ps).2.2 i).Run [] (out i)) :
    PoolRun step s ps (execPool ans sched s ps).1 (execPool ans sched s ps).2.1 out := by
  induction sched generalizing s ps with
  | nil => exact .done hout
  | cons i sched ih =>
    cases hp : ps i with
    | ask e k =>
      simp only [execPool, hp] at hout ⊢
      exact .turn hp (hans s e) (ih _ _ hout)
    | ret a =>
      simp only [execPool, hp] at hout ⊢
      exact ih _ _ hout
    | raise x =>
      simp only [execPool, hp] at hout ⊢
      exact ih _ _ hout

theorem execPool_returns (step : S → Event E R → S → Prop) (ans : S → (e : E) → R e × S)
    (hans : ∀ s e, step s ⟨e, (ans s e).1⟩ (ans s e).2) (sched : List ι) (s : S) (ps : ι → Prog E R X α)
    (hreturns : ∀ i, ((execPool ans sched s ps).2.2 i).returns (fun _ => true) = true) :
    ∃ out, PoolRun step s ps (execPool ans sched s ps).1 (execPool ans sched s ps).2.1 out := by
  choose a ha _ using fun i => Prog.returns_iff.mp (hreturns i)
  exact ⟨fun i => .ok (a i), execPool_spec step ans hans sched s ps _ fun i => by
    rw [ha i]
    exact ⟨rfl, rfl⟩⟩

end Effects
