import LuxMon.Effects.Environment

/-!
# Runs of operations

An operation that is over is a record with a state before and a state after it.
`Runs` lines records up, each from the state its predecessor left; an invariant
may speak of the records so far.

    a step-wise invariant with history holds around every record           (Runs.invariant)
    a run of runs is one run                                               (Runs.flatMap)
    records that leave a part of the state alone drop out of its run       (Runs.filter)
-/

namespace Effects

variable {ρ σ : Type} {ok : ρ → Prop} {before after : ρ → σ}

/-- Records one after the other, from state `s` on. -/
def Runs (ok : ρ → Prop) (before after : ρ → σ) : σ → List ρ → Prop
  | _, [] => True
  | s, r :: rs => before r = s ∧ ok r ∧ Runs ok before after (after r) rs

/-- The state that is left at the end. -/
def finalState (after : ρ → σ) : σ → List ρ → σ
  | s, [] => s
  | _, r :: rs => finalState after (after r) rs

theorem Runs.of_mem {s : σ} {rs : List ρ} (h : Runs ok before after s rs) {r : ρ} (hr : r ∈ rs) :
    ok r := by
  induction rs generalizing s with
  | nil => cases hr
  | cons q rs ih =>
    rcases List.mem_cons.mp hr with rfl | hr
    · exact h.2.1
    · exact ih h.2.2 hr

/-- An invariant of the state and the records so far, from a history on. -/
theorem Runs.invariant_from (I : List ρ → σ → Prop) (hist : List ρ) {cond : List ρ → ρ → Prop}
    (hstep : ∀ hist r, ok r → cond hist r → I hist (before r) → I (hist ++ [r]) (after r))
    {s : σ} {rs : List ρ} (hrun : Runs ok before after s rs)
    (hcond : ∀ pre r post, rs = pre ++ r :: post → cond (hist ++ pre) r) (hs : I hist s)
    {pre post : List ρ} {r : ρ} (hsplit : rs = pre ++ r :: post) :
    I (hist ++ pre) (before r) ∧ I (hist ++ pre ++ [r]) (after r) := by
  induction pre generalizing s hist rs with
  | nil =>
    subst hsplit
    obtain ⟨rfl, hok, -⟩ := hrun
    have hc := hcond [] r post rfl
    rw [List.append_nil] at hc ⊢
    exact ⟨hs, hstep hist r hok hc hs⟩
  | cons q pre ih =>
    subst hsplit
    obtain ⟨rfl, hok, hrest⟩ := hrun
    have hc := hcond [] q (pre ++ r :: post) rfl
    rw [List.append_nil] at hc
    have hq := hstep hist q hok hc hs
    have := ih (hist ++ [q]) hrest (fun p x u hu => by
      rw [List.append_assoc]
      exact hcond (q :: p) x u (congrArg (q :: ·) hu)) hq rfl
    simpa using this

/-- What a state and the records so far satisfy, when every record passes it on. -/
theorem Runs.invariant (I : List ρ → σ → Prop) {cond : List ρ → ρ → Prop}
    (hstep : ∀ hist r, ok r → cond hist r → I hist (before r) → I (hist ++ [r]) (after r))
    {s : σ} {rs : List ρ} (hrun : Runs ok before after s rs)
    (hcond : ∀ pre r post, rs = pre ++ r :: post → cond pre r) (hs : I [] s)
    {pre post : List ρ} {r : ρ} (hsplit : rs = pre ++ r :: post) :
    I pre (before r) ∧ I (pre ++ [r]) (after r) :=
  Runs.invariant_from I [] hstep hrun hcond hs hsplit

/-! ## Parts of a run -/

section
variable {τ κ : Type} {s : σ} {rs : List ρ}

theorem Runs.mono {ok' : ρ → Prop} (h : Runs ok before after s rs) (hok : ∀ r, ok r → ok' r) :
    Runs ok' before after s rs := by
  induction rs generalizing s with
  | nil => trivial
  | cons r rs ih => exact ⟨h.1, hok r h.2.1, ih h.2.2⟩

theorem Runs.append {qs : List ρ} (h : Runs ok before after s rs)
    (hqs : Runs ok before after (finalState after s rs) qs) : Runs ok before after s (rs ++ qs) := by
  induction rs generalizing s with
  | nil => exact hqs
  | cons r rs ih => exact ⟨h.1, h.2.1, ih h.2.2 hqs⟩

/-- A run of runs is one run. -/
theorem Runs.flatMap {okAll : κ → Prop} {first last : κ → σ} {parts : κ → List ρ} {ks : List κ}
    (h : Runs okAll first last s ks)
    (hparts : ∀ k, okAll k → Runs ok before after (first k) (parts k) ∧
      finalState after (first k) (parts k) = last k) : Runs ok before after s (ks.flatMap parts) := by
  induction ks generalizing s with
  | nil => trivial
  | cons k ks ih =>
    obtain ⟨rfl, hok, hrest⟩ := h
    obtain ⟨hruns, hfinal⟩ := hparts k hok
    rw [List.flatMap_cons]
    refine hruns.append ?_
    rw [hfinal]
    exact ih hrest

/-- What a part of the state sees of a run. -/
theorem Runs.view (f : σ → τ) (h : Runs ok before after s rs) :
    Runs ok (fun r => f (before r)) (fun r => f (after r)) (f s) rs := by
  induction rs generalizing s with
  | nil => trivial
  | cons r rs ih => exact ⟨congrArg f h.1, h.2.1, ih h.2.2⟩

theorem finalState_view (f : σ → τ) :
    finalState (fun r => f (after r)) (f s) rs = f (finalState after s rs) := by
  induction rs generalizing s with
  | nil => rfl
  | cons r rs ih => exact ih

/-- The records that leave a part of the state alone can be left out for it. -/
theorem Runs.filter (p : ρ → Bool) (h : Runs ok before after s rs)
    (hother : ∀ r ∈ rs, p r = false → after r = before r) :
    Runs ok before after s (rs.filter p) := by
  induction rs generalizing s with
  | nil => trivial
  | cons r rs ih =>
    obtain ⟨rfl, hok, hrest⟩ := h
    have htail := ih hrest fun q hq => hother q (List.mem_cons_of_mem r hq)
    cases hp : p r with
    | true =>
      rw [List.filter_cons_of_pos hp]
      exact ⟨rfl, hok, htail⟩
    | false =>
      rw [List.filter_cons_of_neg (by simp [hp])]
      rwa [hother r List.mem_cons_self hp] at htail

/-- The same run in other records. -/
theorem Runs.map {ok' : κ → Prop} {before' after' : κ → σ} (g : ρ → κ) (h : Runs ok before after s rs)
    (hg : ∀ r ∈ rs, ok r → ok' (g r) ∧ before' (g r) = before r ∧ after' (g r) = after r) :
    Runs ok' before' after' s (rs.map g) := by
  induction rs generalizing s with
  | nil => trivial
  | cons r rs ih =>
    obtain ⟨rfl, hok, hrest⟩ := h
    obtain ⟨hok', hbefore, hafter⟩ := hg r List.mem_cons_self hok
    refine ⟨hbefore, hok', ?_⟩
    rw [hafter]
    exact ih hrest fun q hq => hg q (List.mem_cons_of_mem r hq)

/-- A second part of the state, which nobody changes between the records. -/
theorem Runs.pair {seen left : ρ → τ} (h : Runs ok before after s rs)
    (hchain : rs.IsChain fun r q => seen q = left r) {t : τ} (hhead : ∀ r ∈ rs.head?, seen r = t) :
    Runs ok (fun r => (before r, seen r)) (fun r => (after r, left r)) (s, t) rs := by
  induction rs generalizing s t with
  | nil => trivial
  | cons r rs ih =>
    obtain ⟨rfl, hok, hrest⟩ := h
    refine ⟨Prod.ext rfl (hhead r rfl), hok, ?_⟩
    cases rs with
    | nil => trivial
    | cons q rs =>
      obtain ⟨hlink, hchain⟩ := List.isChain_cons_cons.mp hchain
      refine ih hrest hchain ?_
      rintro _ ⟨⟩
      exact hlink

end

end Effects
