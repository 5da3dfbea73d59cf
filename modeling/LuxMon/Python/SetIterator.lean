import Mathlib.Data.List.ReduceOption
import Mathlib.Tactic

/-!
# Iterating over a set

A Python set is a table of slots, and an iterator is a position in it with the size
that the set had at first.  Each `next` compares the sizes and goes on to the next
occupied slot.  An insertion may rearrange the table when it grows.

    `next` raises ↔ the size has changed                              (next_raises_iff)
    an element is yielded as long as its slot lies ahead             (ahead_next, not_ahead_done)
-/

namespace Python

variable {α : Type}

/-- The slots of a set; the free ones are `none`. -/
abbrev SetTable (α : Type) := List (Option α)

namespace SetTable

def elems (t : SetTable α) : List α := t.reduceOption

/-- `s.discard(a)`. -/
def discard [DecidableEq α] (t : SetTable α) (a : α) : SetTable α := t.map fun slot => if slot = some a then none else slot

/-- `t'` is what an insertion of `a` may make of the table. -/
def Inserts (t : SetTable α) (a : α) (t' : SetTable α) : Prop :=
  a ∉ t.elems ∧ t'.elems.Perm (a :: t.elems)

instance [DecidableEq α] (t : SetTable α) (a : α) (t' : SetTable α) : Decidable (t.Inserts a t') :=
  inferInstanceAs (Decidable (_ ∧ _))

/-- No element has moved. -/
def KeepsSlots (t t' : SetTable α) : Prop :=
  ∀ (i : ℕ) (a : α), t[i]? = some (some a) → t'[i]? = some (some a)

/-- The first occupied slot, where the table begins at position `i`: the position behind it, and
its element. -/
def firstFrom : SetTable α → ℕ → Option (ℕ × α)
  | [], _ => none
  | none :: t, i => firstFrom t (i + 1)
  | some a :: _, i => some (i + 1, a)

end SetTable

structure SetIterator where
  used : ℕ
  pos : ℕ

/-- What `next(it)` comes to. -/
inductive NextResult (α : Type)
  | raises
  | done
  | yields (it : SetIterator) (a : α)

namespace SetIterator

/-- `iter(s)`. -/
def start (t : SetTable α) : SetIterator := ⟨t.elems.length, 0⟩

/-- `next(it)`: "Set changed size during iteration", the end, or the next element. -/
def next (it : SetIterator) (t : SetTable α) : NextResult α :=
  if it.used ≠ t.elems.length then .raises
  else
    match SetTable.firstFrom (t.drop it.pos) it.pos with
    | none => .done
    | some (pos, a) => .yields { it with pos := pos } a

/-- The element is in a slot that the iterator has still to visit. -/
def Ahead (it : SetIterator) (t : SetTable α) (a : α) : Prop := ∃ i, it.pos ≤ i ∧ t[i]? = some (some a)

variable {it it' : SetIterator} {t t' : SetTable α} {a b : α}

theorem next_raises_iff : it.next t = .raises ↔ it.used ≠ t.elems.length := by
  unfold next
  by_cases h : it.used ≠ t.elems.length
  · rw [if_pos h]
    exact iff_of_true rfl h
  · rw [if_neg h]
    refine iff_of_false ?_ h
    cases SetTable.firstFrom (t.drop it.pos) it.pos with
    | none => exact fun hraise => by cases hraise
    | some found => exact fun hraise => by cases hraise

theorem firstFrom_none {t : SetTable α} {i : ℕ} (h : t.firstFrom i = none) (j : ℕ) (a : α) :
    t[j]? ≠ some (some a) := by
  induction t generalizing i j with
  | nil => simp
  | cons slot t ih =>
    cases slot with
    | some b => cases h
    | none =>
      cases j with
      | zero => simp
      | succ j => exact ih (i := i + 1) h j

theorem firstFrom_some {t : SetTable α} {i pos : ℕ} (h : t.firstFrom i = some (pos, a)) :
    ∃ k, pos = i + k + 1 ∧ t[k]? = some (some a) ∧ ∀ j < k, ∀ b, t[j]? ≠ some (some b) := by
  induction t generalizing i with
  | nil => cases h
  | cons slot t ih =>
    cases slot with
    | some b =>
      obtain ⟨rfl, rfl⟩ := Prod.mk.inj (Option.some.inj h)
      exact ⟨0, rfl, rfl, fun j hj => absurd hj (Nat.not_lt_zero j)⟩
    | none =>
      obtain ⟨k, hpos, hk, hbefore⟩ := ih (i := i + 1) h
      refine ⟨k + 1, by omega, hk, fun j hj b => ?_⟩
      cases j with
      | zero => simp
      | succ j => exact hbefore j (by omega) b

/-- At the start every element is ahead. -/
theorem ahead_start (h : a ∈ t.elems) : (start t).Ahead t a := by
  obtain ⟨i, hi⟩ := List.getElem?_of_mem (List.reduceOption_mem_iff.mp h)
  exact ⟨i, Nat.zero_le i, hi⟩

/-- What lies ahead is the element that comes next, or lies ahead still. -/
theorem ahead_next (h : it.next t = .yields it' a) (hb : it.Ahead t b) : b = a ∨ it'.Ahead t b := by
  unfold next at h
  split at h
  · cases h
  · cases hfound : SetTable.firstFrom (t.drop it.pos) it.pos with
    | none =>
      rw [hfound] at h
      cases h
    | some found =>
      obtain ⟨pos, c⟩ := found
      rw [hfound] at h
      cases h
      obtain ⟨k, rfl, hk, hbefore⟩ := firstFrom_some hfound
      obtain ⟨i, hi, hslot⟩ := hb
      obtain ⟨j, rfl⟩ := Nat.exists_eq_add_of_le hi
      rw [← List.getElem?_drop] at hslot
      rcases Nat.lt_trichotomy j k with hlt | rfl | hgt
      · exact absurd hslot (hbefore j hlt b)
      · rw [hk] at hslot
        exact Or.inl (Option.some.inj (Option.some.inj hslot)).symm
      · rw [List.getElem?_drop] at hslot
        exact Or.inr ⟨it.pos + j, by show it.pos + k + 1 ≤ it.pos + j; omega, hslot⟩

/-- At the end nothing is ahead. -/
theorem not_ahead_done (h : it.next t = .done) : ¬ it.Ahead t a := by
  unfold next at h
  split at h
  · cases h
  · cases hfound : SetTable.firstFrom (t.drop it.pos) it.pos with
    | some found =>
      rw [hfound] at h
      cases h
    | none =>
      rintro ⟨i, hi, hslot⟩
      obtain ⟨j, rfl⟩ := Nat.exists_eq_add_of_le hi
      rw [← List.getElem?_drop] at hslot
      exact firstFrom_none hfound j a hslot

theorem Ahead.keepsSlots (h : it.Ahead t a) (hkeeps : t.KeepsSlots t') : it.Ahead t' a := by
  obtain ⟨i, hi, hslot⟩ := h
  exact ⟨i, hi, hkeeps i a hslot⟩

/-- Discarding frees one slot. -/
theorem Ahead.discard [DecidableEq α] (h : it.Ahead t a) (hne : a ≠ b) : it.Ahead (t.discard b) a := by
  obtain ⟨i, hi, hslot⟩ := h
  refine ⟨i, hi, ?_⟩
  unfold SetTable.discard
  rw [List.getElem?_map, hslot, Option.map_some, if_neg fun h => hne (Option.some.inj h)]

end SetIterator

theorem SetTable.mem_discard [DecidableEq α] {t : SetTable α} {a b : α} : a ∈ (t.discard b).elems ↔ a ∈ t.elems ∧ a ≠ b := by
  unfold SetTable.elems SetTable.discard
  rw [List.reduceOption_mem_iff, List.reduceOption_mem_iff, List.mem_map]
  constructor
  · rintro ⟨slot, hslot, heq⟩
    split at heq
    · cases heq
    · next hne =>
      subst heq
      exact ⟨hslot, fun hab => hne (congrArg some hab)⟩
  · rintro ⟨hmem, hne⟩
    exact ⟨some a, hmem, if_neg fun h => hne (Option.some.inj h)⟩

end Python
