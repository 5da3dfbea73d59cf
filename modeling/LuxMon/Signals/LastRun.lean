import Mathlib.Data.List.TakeWhile
import Mathlib.Tactic

/-!
# The last run of a sampled signal

Where the samples at the end of a list satisfy a predicate, `LastRun` names the first of
them: the ones from it on satisfy the predicate, and the one before it, if any, does not.

    reading the list backwards finds it                          (lastRun_iff)
    there is at most one                                         (LastRun.unique)
    equal samples at the end: one more, or a new run             (runLength_concat, runLength_spec)
-/

namespace Signals

variable {α : Type} {p : α → Bool} {l : List α} {j : α}

/-- The samples from `j` on are the last ones that satisfy `p` without a gap. -/
def LastRun (p : α → Bool) (l : List α) (j : α) : Prop :=
  ∃ before after, l = before ++ j :: after ∧ (∀ x ∈ j :: after, p x = true) ∧
    ∀ x, before.getLast? = some x → p x = false

theorem lastRun_iff : LastRun p l j ↔ (l.reverse.takeWhile p).getLast? = some j := by
  constructor
  · rintro ⟨before, after, rfl, hrun, hbefore⟩
    have hstop : before.reverse.takeWhile p = [] := by
      rcases List.eq_nil_or_concat before with rfl | ⟨front, x, rfl⟩
      · rfl
      · have hx : p x = false := hbefore x (by simp)
        rw [List.concat_eq_append, List.reverse_append, List.reverse_singleton, List.singleton_append,
          List.takeWhile_cons_of_neg (by simp [hx])]
    rw [List.reverse_append, List.takeWhile_append_of_pos fun x hx => hrun x (List.mem_reverse.mp hx), hstop,
      List.append_nil, List.getLast?_reverse, List.head?_cons]
  · intro h
    have hsplit : l.reverse.takeWhile p ++ l.reverse.dropWhile p = l.reverse := List.takeWhile_append_dropWhile
    obtain ⟨run, hrun⟩ := List.getLast?_eq_some_iff.mp h
    refine ⟨(l.reverse.dropWhile p).reverse, run.reverse, ?_, fun x hx => ?_, fun x hx => ?_⟩
    · have hreverse := congrArg List.reverse hsplit
      rw [hrun, List.reverse_append, List.reverse_append, List.reverse_singleton, List.reverse_reverse] at hreverse
      exact hreverse.symm
    · refine List.mem_takeWhile_imp (l := l.reverse) ?_
      rw [hrun]
      rcases List.mem_cons.mp hx with rfl | hx
      · exact List.mem_append_right _ (List.mem_singleton_self _)
      · exact List.mem_append_left _ (List.mem_reverse.mp hx)
    · rw [List.getLast?_reverse] at hx
      have hfirst := List.head?_dropWhile_not p l.reverse
      rw [hx] at hfirst
      exact hfirst

theorem LastRun.unique {j' : α} (h : LastRun p l j) (h' : LastRun p l j') : j = j' :=
  Option.some.inj ((lastRun_iff.mp h).symm.trans (lastRun_iff.mp h'))

/-! ## Equal samples at the end -/

section
variable [DecidableEq α]

/-- How often the last sample stands at the end. -/
def runLength (l : List α) : ℕ :=
  match l.reverse with
  | [] => 0
  | a :: rest => (rest.takeWhile fun x => x = a).length + 1

@[simp] theorem runLength_nil : runLength ([] : List α) = 0 := rfl

theorem runLength_concat (l : List α) (a : α) :
    runLength (l ++ [a]) = if l.getLast? = some a then runLength l + 1 else 1 := by
  unfold runLength
  rw [List.reverse_append, List.reverse_singleton, List.singleton_append, ← List.head?_reverse]
  cases l.reverse with
  | nil => rfl
  | cons b rest =>
    by_cases hb : b = a
    · subst hb
      simp
    · simp [hb]

theorem runLength_pos {l : List α} {a : α} (h : l.getLast? = some a) : 0 < runLength l := by
  obtain ⟨front, rfl⟩ := List.getLast?_eq_some_iff.mp h
  rw [runLength_concat]
  split_ifs <;> omega

/-- The run is the longest one at the end. -/
theorem runLength_spec (l : List α) (a : α) : ∃ before,
    l ++ [a] = before ++ List.replicate (runLength (l ++ [a])) a ∧ before.getLast? ≠ some a := by
  induction l using List.reverseRecOn with
  | nil => exact ⟨[], rfl, by simp⟩
  | append_singleton l b ih =>
    rw [runLength_concat, List.getLast?_concat]
    by_cases hb : b = a
    · subst hb
      obtain ⟨before, hsplit, hlast⟩ := ih
      refine ⟨before, ?_, hlast⟩
      rw [if_pos rfl, List.replicate_succ', ← List.append_assoc, ← hsplit]
    · rw [if_neg (by simpa using hb)]
      exact ⟨l ++ [b], rfl, by simpa using hb⟩

end

end Signals
