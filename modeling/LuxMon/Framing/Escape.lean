import Mathlib.Tactic

/-!
# Escaped symbols

A text is written between delimiters with an escape in front of each special symbol.  A reader
takes symbols up to a delimiter, and whatever follows an escape as it is.

    escaping one symbol after the other is escaping them at once        (escape_flatMap)
    the reader gives back the text and what follows it                  (readUntil_escape)
-/

namespace Framing

variable {α : Type} (esc : α)

/-- A special symbol gets the escape. -/
def mark (special : α → Bool) (a : α) : List α := if special a then [esc, a] else [a]

def escape (special : α → Bool) (s : List α) : List α := s.flatMap (mark esc special)

variable {esc} {special stop : α → Bool} {s rest : List α}

theorem escape_cons (a : α) (s : List α) : escape esc special (a :: s) = mark esc special a ++ escape esc special s :=
  List.flatMap_cons

/-- Nothing in the text is special. -/
theorem escape_plain (h : ∀ a ∈ s, special a = false) : escape esc special s = s := by
  induction s with
  | nil => rfl
  | cons a s ih =>
    rw [escape_cons, ih fun b hb => h b (List.mem_cons_of_mem _ hb)]
    unfold mark
    rw [h a List.mem_cons_self]
    rfl

/-- The text ends there. -/
def Ends (stop : α → Bool) (rest : List α) : Prop := ∀ a, rest.head? = some a → stop a = true

theorem ends_cons {a : α} (h : stop a = true) (rest : List α) : Ends stop (a :: rest) := by
  rintro b ⟨⟩
  exact h

variable [DecidableEq α]

/-- A further symbol is escaped afterwards. -/
theorem escape_flatMap {c : α} (hc : c ≠ esc) (hnew : special c = false) (s : List α) :
    (escape esc special s).flatMap (mark esc fun a => a = c) = escape esc (fun a => special a || a = c) s := by
  unfold escape
  rw [List.flatMap_assoc]
  congr 1
  funext a
  unfold mark
  by_cases ha : special a = true
  · have hac : a ≠ c := by
      rintro rfl
      rw [ha] at hnew
      cases hnew
    simp [ha, hac, Ne.symm hc]
  · simp [ha]

variable (esc) in
/-- The text up to the first delimiter without an escape, and the rest. -/
def readUntil (stop : α → Bool) : List α → List α × List α
  | [] => ([], [])
  | [a] => if stop a then ([], [a]) else ([a], [])
  | a :: b :: rest =>
    if a = esc then (b :: (readUntil stop rest).1, (readUntil stop rest).2)
    else if stop a then ([], a :: b :: rest)
    else (a :: (readUntil stop (b :: rest)).1, (readUntil stop (b :: rest)).2)

theorem readUntil_ends (hesc : stop esc = false) (h : Ends stop rest) : readUntil esc stop rest = ([], rest) := by
  cases rest with
  | nil => rfl
  | cons a rest =>
    have hstop : stop a = true := h a rfl
    have hne : a ≠ esc := by
      rintro rfl
      rw [hstop] at hesc
      cases hesc
    cases rest with
    | nil => exact if_pos hstop
    | cons b rest => rw [readUntil, if_neg hne, if_pos hstop]

theorem readUntil_escaped (a : α) (rest : List α) :
    readUntil esc stop (esc :: a :: rest) = (a :: (readUntil esc stop rest).1, (readUntil esc stop rest).2) := by
  rw [readUntil, if_pos rfl]

theorem readUntil_cons {a : α} (hne : a ≠ esc) (hstop : stop a = false) (rest : List α) :
    readUntil esc stop (a :: rest) = (a :: (readUntil esc stop rest).1, (readUntil esc stop rest).2) := by
  cases rest with
  | nil => exact if_neg (by rw [hstop]; exact Bool.false_ne_true)
  | cons b rest =>
    rw [readUntil, if_neg hne, hstop]
    rfl

/-- When the escape and all delimiters are special, the text comes back. -/
theorem readUntil_escape (hspecial : special esc = true) (hesc : stop esc = false)
    (hstop : ∀ a, stop a = true → special a = true) (s : List α) (h : Ends stop rest) : readUntil esc stop (escape esc special s ++ rest) = (s, rest) := by
  induction s with
  | nil => exact readUntil_ends hesc h
  | cons a s ih =>
    rw [escape_cons, List.append_assoc]
    unfold mark
    by_cases ha : special a = true
    · rw [if_pos ha, List.cons_append, List.singleton_append, readUntil_escaped, ih]
    · have hne : a ≠ esc := by
        rintro rfl
        exact ha hspecial
      have hgo : stop a = false := Bool.eq_false_iff.mpr fun hs => ha (hstop a hs)
      rw [if_neg ha, List.singleton_append, readUntil_cons hne hgo, ih]

end Framing
