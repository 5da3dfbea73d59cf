import Mathlib.Data.List.Basic
import Mathlib.Tactic

/-!
# Once for each key

A loop that lets an item through when its key is new, and remembers the key.

    a key gets through exactly when it is offered and new      (mem_passed)
    no two items that get through have one key                 (passNew_nodup)
    the keys seen are the old ones and those that got through  (mem_seen)
-/

namespace Signals

variable {α κ : Type} [DecidableEq κ] (key : α → κ)

/-- The keys seen afterwards, and the items that get through. -/
def passNew : List κ → List α → List κ × List α
  | seen, [] => (seen, [])
  | seen, a :: as =>
    if key a ∈ seen then passNew seen as
    else ((passNew (key a :: seen) as).1, a :: (passNew (key a :: seen) as).2)

theorem passNew_old {seen : List κ} {a : α} (h : key a ∈ seen) (as : List α) :
    passNew key seen (a :: as) = passNew key seen as := by
  rw [passNew, if_pos h]

theorem passNew_new {seen : List κ} {a : α} (h : key a ∉ seen) (as : List α) :
    passNew key seen (a :: as) =
      ((passNew key (key a :: seen) as).1, a :: (passNew key (key a :: seen) as).2) := by
  rw [passNew, if_neg h]

/-- By induction on the items: with the first one through, its key is seen. -/
theorem mem_passed {seen : List κ} {as : List α} {k : κ} :
    k ∈ (passNew key seen as).2.map key ↔ k ∉ seen ∧ k ∈ as.map key := by
  induction as generalizing seen with
  | nil => simp [passNew]
  | cons a as ih =>
    by_cases h : key a ∈ seen
    · rw [passNew_old key h, ih, List.map_cons, List.mem_cons]
      exact and_congr_right fun hk => (or_iff_right fun heq : k = key a => hk (heq ▸ h)).symm
    · rw [passNew_new key h, List.map_cons, List.mem_cons, ih, List.map_cons, List.mem_cons]
      by_cases hk : k = key a
      · simp [hk, h]
      · simp [hk]

theorem mem_seen {seen : List κ} {as : List α} {k : κ} :
    k ∈ (passNew key seen as).1 ↔ k ∈ seen ∨ k ∈ (passNew key seen as).2.map key := by
  induction as generalizing seen with
  | nil => simp [passNew]
  | cons a as ih =>
    by_cases h : key a ∈ seen
    · rw [passNew_old key h]
      exact ih
    · rw [passNew_new key h, ih, List.map_cons, List.mem_cons, List.mem_cons, or_assoc, or_left_comm]

theorem passNew_subset {seen : List κ} {as : List α} : ∀ a ∈ (passNew key seen as).2, a ∈ as := by
  induction as generalizing seen with
  | nil => exact fun a ha => ha
  | cons b as ih =>
    intro a ha
    by_cases hb : key b ∈ seen
    · rw [passNew_old key hb] at ha
      exact List.mem_cons_of_mem b (ih a ha)
    · rw [passNew_new key hb] at ha
      exact List.mem_cons.mpr ((List.mem_cons.mp ha).imp_right (ih a))

theorem passNew_nodup (seen : List κ) (as : List α) : ((passNew key seen as).2.map key).Nodup := by
  induction as generalizing seen with
  | nil => exact List.nodup_nil
  | cons a as ih =>
    by_cases h : key a ∈ seen
    · rw [passNew_old key h]
      exact ih seen
    · rw [passNew_new key h, List.map_cons, List.nodup_cons]
      exact ⟨fun hmem => ((mem_passed key).mp hmem).1 List.mem_cons_self, ih _⟩

end Signals
