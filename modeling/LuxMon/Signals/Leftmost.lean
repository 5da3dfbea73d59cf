import Mathlib.Data.List.Zip
import Mathlib.Order.RelClasses
import Mathlib.Tactic

/-!
# The leftmost best of a scan

A loop that keeps the best value so far, starting from a sentinel, and replaces it by a
strictly better one only.

    nothing is better than the sentinel, or the result is the first of the best     (scanBest_spec)
    nothing else is                                                             (Leftmost.unique)
-/

namespace Signals

variable {α : Type} (better : α → α → Prop) [DecidableRel better]

/-- The value kept so far, with its place; the sentinel has place 0. -/
def offer (kept : α × ℕ) (x : α × ℕ) : α × ℕ := if better x.1 kept.1 then x else kept

/-- The whole loop; places count from 1. -/
def scanBest (sentinel : α) (xs : List α) : α × ℕ := (xs.zipIdx 1).foldl (offer better) (sentinel, 0)

/-- `kept` is what the loop must end with. -/
def Leftmost (sentinel : α) (xs : List α) (kept : α × ℕ) : Prop :=
  (kept = (sentinel, 0) ∧ ∀ x ∈ xs, ¬ better x sentinel) ∨
    ∃ front x back, xs = front ++ x :: back ∧ kept = (x, front.length + 1) ∧ better x sentinel ∧
      (∀ y ∈ front, better x y) ∧ ∀ y ∈ back, ¬ better y x

theorem scanBest_concat (sentinel : α) (xs : List α) (x : α) :
    scanBest better sentinel (xs ++ [x]) = offer better (scanBest better sentinel xs) (x, xs.length + 1) := by
  unfold scanBest
  rw [List.zipIdx_append, List.foldl_append, Nat.add_comm]
  rfl

variable [IsStrictTotalOrder α better]

omit [DecidableRel better] in
/-- Strictly better than what nothing beats. -/
theorem better_of_not {x y z : α} (hxy : better x y) (hzy : ¬ better z y) : better x z := by
  rcases trichotomous_of better z y with h | rfl | h
  · exact absurd h hzy
  · exact hxy
  · exact trans_of better hxy h

/-- By induction on the values, the last one first. -/
theorem scanBest_spec (sentinel : α) (xs : List α) :
    Leftmost better sentinel xs (scanBest better sentinel xs) := by
  induction xs using List.reverseRecOn with
  | nil => exact Or.inl ⟨rfl, by simp⟩
  | append_singleton xs x ih =>
    rw [scanBest_concat]
    unfold offer
    rcases ih with ⟨hkept, hnone⟩ | ⟨front, b, back, rfl, hkept, hb, hfront, hback⟩
    · rw [hkept]
      split_ifs with hx
      · refine Or.inr ⟨xs, x, [], rfl, rfl, hx, fun y hy => ?_, by simp⟩
        exact better_of_not better hx (hnone y hy)
      · refine Or.inl ⟨rfl, fun y hy => ?_⟩
        rcases List.mem_append.mp hy with hy | hy
        · exact hnone y hy
        · rwa [List.mem_singleton.mp hy]
    · rw [hkept]
      split_ifs with hx
      · refine Or.inr ⟨front ++ b :: back, x, [], rfl, rfl, trans_of better hx hb, fun y hy => ?_, by simp⟩
        rcases List.mem_append.mp hy with hy | hy
        · exact trans_of better hx (hfront y hy)
        · rcases List.mem_cons.mp hy with rfl | hy
          · exact hx
          · exact better_of_not better hx (hback y hy)
      · refine Or.inr ⟨front, b, back ++ [x], by simp, rfl, hb, hfront, fun y hy => ?_⟩
        rcases List.mem_append.mp hy with hy | hy
        · exact hback y hy
        · rwa [List.mem_singleton.mp hy]

omit [DecidableRel better] [IsStrictTotalOrder α better] in
theorem Leftmost.unique {sentinel : α} {xs : List α} {a b : α × ℕ} (ha : Leftmost better sentinel xs a)
    (hb : Leftmost better sentinel xs b) : a = b := by
  rcases ha with ⟨rfl, hnone⟩ | ⟨front, x, back, rfl, rfl, hx, hfront, hback⟩ <;>
    rcases hb with ⟨rfl, hnone'⟩ | ⟨front', x', back', hsplit, rfl, hx', hfront', hback'⟩
  · rfl
  · exact absurd hx' (hnone x' (by simp [hsplit]))
  · exact absurd hx (hnone' x (by simp))
  · -- the first of two places is in front of the second, and the second behind the first
    rcases List.append_eq_append_iff.mp hsplit with ⟨c, rfl, hc⟩ | ⟨c, rfl, hc⟩
    · cases c with
      | nil =>
        obtain ⟨rfl, -⟩ := List.cons.inj hc
        simp
      | cons y c =>
        obtain ⟨rfl, rfl⟩ := List.cons.inj hc
        exact absurd (hfront' x (by simp)) (hback x' (by simp))
    · cases c with
      | nil =>
        obtain ⟨rfl, -⟩ := List.cons.inj hc
        simp
      | cons y c =>
        obtain ⟨rfl, rfl⟩ := List.cons.inj hc
        exact absurd (hfront x' (by simp)) (hback' x (by simp))

end Signals
