import LuxMon.Calendar.Gregorian

/-!
# Weeks

Weeks begin on Monday.  The first week of a year is the one with its first Thursday,
so a few days around New Year are in a week of the neighbouring year.  `isocalendar`
says which one; `weekOfYear` counts from the first week of the calendar year instead,
with 0 before it.

    the year of isocalendar is the one whose weeks hold the day      (isoYear_iff)
    both give the same week ↔ the calendar year is the ISO year     (weekOfYear_eq_iff)
-/

namespace Calendar

/-- The number of the Monday that the first week of the year begins with. -/
def week1Monday (y : ℕ) : ℤ :=
  let firstday : ℤ := daysBeforeYear y + 1
  let firstweekday := (firstday + 6) % 7
  let monday := firstday - firstweekday
  if firstweekday > 3 then monday + 7 else monday

/-- The weeks between the first Monday of the year's weeks and the day, rounded down. -/
def weeksFrom (y : ℕ) (o : ℤ) : ℤ := (o - week1Monday y) / 7

namespace Date

/-- The year and the week of `isocalendar`. -/
def isocalendar (d : Date) : ℕ × ℕ :=
  let o : ℤ := d.toOrdinal
  let week := weeksFrom d.year o
  if week < 0 then (d.year - 1, (weeksFrom (d.year - 1) o).toNat + 1)
  else if 52 ≤ week ∧ week1Monday (d.year + 1) ≤ o then (d.year + 1, 1)
  else (d.year, week.toNat + 1)

def isoYear (d : Date) : ℕ := d.isocalendar.1

def isoWeek (d : Date) : ℕ := d.isocalendar.2

/-- `WEEK(d, 1)`: from Monday, 0 to 53, week 1 is the first with four or more days in the year. -/
def weekOfYear (d : Date) : ℕ :=
  let o : ℤ := d.toOrdinal
  if o < week1Monday d.year then 0 else (weeksFrom d.year o).toNat + 1

/-- The weeks before the week of the date, from 1 January of the year 1 on, a Monday. -/
def weekIndex (d : Date) : ℕ := (d.toOrdinal - 1) / 7

end Date

/-! ## The weeks of a year -/

theorem week1Monday_mod (y : ℕ) : week1Monday y % 7 = 1 := by
  unfold week1Monday
  dsimp only
  split <;> omega

theorem week1Monday_near (y : ℕ) :
    daysBeforeYear y - 2 ≤ week1Monday y ∧ week1Monday y ≤ daysBeforeYear y + 4 := by
  unfold week1Monday
  dsimp only
  split <;> omega

theorem daysInYear_bounds (y : ℕ) : 365 ≤ daysInYear y ∧ daysInYear y ≤ 366 := by
  unfold daysInYear
  split <;> decide

/-- A year has 52 or 53 weeks. -/
theorem week1Monday_succ {y : ℕ} (hy : 1 ≤ y) :
    week1Monday (y + 1) = week1Monday y + 364 ∨ week1Monday (y + 1) = week1Monday y + 371 := by
  have hmod := week1Monday_mod y
  have hmod' := week1Monday_mod (y + 1)
  have hnear := week1Monday_near y
  have hnear' := week1Monday_near (y + 1)
  have hyear := daysInYear_bounds y
  rw [daysBeforeYear_succ hy] at hnear'
  push_cast at hnear'
  omega

theorem week1Monday_lt {y y' : ℕ} (hy : 1 ≤ y) (h : y < y') : week1Monday y < week1Monday y' := by
  induction y', h using Nat.le_induction with
  | base =>
    show week1Monday y < week1Monday (y + 1)
    rcases week1Monday_succ hy with h | h <;> omega
  | succ n hn ih => rcases week1Monday_succ (y := n) (by omega) with h | h <;> omega

/-- A day is in the weeks of one year only. -/
theorem year_of_weeks {y y' : ℕ} (hy : 1 ≤ y) (hy' : 1 ≤ y') {o : ℤ} (h : week1Monday y ≤ o)
    (hlt : o < week1Monday (y + 1)) (h' : week1Monday y' ≤ o) (hlt' : o < week1Monday (y' + 1)) :
    y = y' := by
  rcases Nat.lt_trichotomy y y' with hless | heq | hmore
  · have hmono : week1Monday (y + 1) ≤ week1Monday y' := by
      rcases Nat.eq_or_lt_of_le (show y + 1 ≤ y' from hless) with heq | hlt
      · rw [heq]
      · exact (week1Monday_lt (by omega) hlt).le
    omega
  · exact heq
  · have hmono : week1Monday (y' + 1) ≤ week1Monday y := by
      rcases Nat.eq_or_lt_of_le (show y' + 1 ≤ y from hmore) with heq | hlt
      · rw [heq]
      · exact (week1Monday_lt (by omega) hlt).le
    omega

namespace Date

variable {d d' : Date}

/-- The year of `isocalendar` is the one whose weeks hold the day, and the week counts them. -/
theorem isocalendar_spec (d : Date) :
    1 ≤ d.isoYear ∧ week1Monday d.isoYear ≤ d.toOrdinal ∧ d.toOrdinal < week1Monday (d.isoYear + 1) ∧
      (d.isoWeek : ℤ) = weeksFrom d.isoYear d.toOrdinal + 1 := by
  have hpos := d.year_pos
  have hstart := d.daysBeforeYear_lt_toOrdinal
  have hend := d.toOrdinal_le_year
  have hnear := week1Monday_near d.year
  have hnear' := week1Monday_near (d.year + 1)
  have hnear'' := week1Monday_near (d.year + 1 + 1)
  have hsucc := daysBeforeYear_succ (y := d.year + 1) (by omega)
  have hlong := daysInYear_bounds (d.year + 1)
  unfold isoYear isoWeek isocalendar
  dsimp only
  by_cases hearly : weeksFrom d.year d.toOrdinal < 0
  · rw [if_pos hearly]
    unfold weeksFrom at hearly
    have hone : 1 < d.year := by
      by_contra hone
      have hfirst : d.year = 1 := by omega
      have hmonday : week1Monday 1 = 1 := by decide
      rw [hfirst, hmonday] at hearly
      omega
    have hprev := week1Monday_near (d.year - 1)
    have hprevsucc := daysBeforeYear_succ (y := d.year - 1) (by omega)
    have hprevlong := daysInYear_bounds (d.year - 1)
    rw [Nat.sub_add_cancel hpos] at hprevsucc
    have hle : week1Monday (d.year - 1) ≤ d.toOrdinal := by omega
    refine ⟨by omega, hle, ?_, ?_⟩
    · show (d.toOrdinal : ℤ) < week1Monday (d.year - 1 + 1)
      rw [Nat.sub_add_cancel hpos]
      omega
    · unfold weeksFrom
      push_cast
      omega
  · rw [if_neg hearly]
    unfold weeksFrom at hearly ⊢
    by_cases hlate : 52 ≤ ((d.toOrdinal : ℤ) - week1Monday d.year) / 7 ∧ week1Monday (d.year + 1) ≤ d.toOrdinal
    · rw [if_pos hlate]
      refine ⟨by omega, hlate.2, ?_, ?_⟩
      · show (d.toOrdinal : ℤ) < week1Monday (d.year + 1 + 1)
        omega
      · show ((1 : ℕ) : ℤ) = ((d.toOrdinal : ℤ) - week1Monday (d.year + 1)) / 7 + 1
        omega
    · rw [if_neg hlate]
      have hweeks := week1Monday_succ hpos
      refine ⟨hpos, ?_, ?_, ?_⟩
      · show week1Monday d.year ≤ d.toOrdinal
        omega
      · show (d.toOrdinal : ℤ) < week1Monday (d.year + 1)
        by_contra hge
        exact hlate ⟨by omega, by omega⟩
      · push_cast
        omega

theorem isoYear_iff {y : ℕ} (hy : 1 ≤ y) :
    d.isoYear = y ↔ week1Monday y ≤ d.toOrdinal ∧ d.toOrdinal < week1Monday (y + 1) := by
  obtain ⟨hpos, hle, hlt, -⟩ := d.isocalendar_spec
  constructor
  · rintro rfl
    exact ⟨hle, hlt⟩
  · intro ⟨h, h'⟩
    exact year_of_weeks hpos hy hle hlt h h'

theorem isoWeek_pos (d : Date) : 1 ≤ d.isoWeek := by
  obtain ⟨-, hle, -, hweek⟩ := d.isocalendar_spec
  unfold weeksFrom at hweek
  omega

theorem isoWeek_le (d : Date) : d.isoWeek ≤ 53 := by
  obtain ⟨hpos, -, hlt, hweek⟩ := d.isocalendar_spec
  have := week1Monday_succ hpos
  unfold weeksFrom at hweek
  omega

/-- Year and week of `isocalendar` name the week. -/
theorem isocalendar_eq_iff :
    (d.isoYear = d'.isoYear ∧ d.isoWeek = d'.isoWeek) ↔ d.weekIndex = d'.weekIndex := by
  obtain ⟨hpos, hle, hlt, hweek⟩ := d.isocalendar_spec
  obtain ⟨hpos', hle', hlt', hweek'⟩ := d'.isocalendar_spec
  have hstart := d.daysBeforeYear_lt_toOrdinal
  have hstart' := d'.daysBeforeYear_lt_toOrdinal
  have hmod := week1Monday_mod d.isoYear
  have hmod' := week1Monday_mod d'.isoYear
  unfold weekIndex
  unfold weeksFrom at hweek hweek'
  constructor
  · intro ⟨hyear, hsame⟩
    rw [← hyear] at hweek'
    omega
  · intro hindex
    have hmodnext := week1Monday_mod (d.isoYear + 1)
    have hyear : d'.isoYear = d.isoYear := by
      rw [isoYear_iff hpos]
      omega
    rw [hyear] at hweek'
    exact ⟨hyear.symm, by omega⟩

/-- Counting from the first week of the calendar year gives a week of `isocalendar` exactly if the
calendar year is the ISO year. -/
theorem weekOfYear_eq_iff :
    (d.year = d'.isoYear ∧ d.weekOfYear = d'.isoWeek) ↔
      d.weekIndex = d'.weekIndex ∧ d.isoYear = d.year := by
  obtain ⟨hpos, hle, hlt, hweek⟩ := d.isocalendar_spec
  obtain ⟨hpos', hle', hlt', hweek'⟩ := d'.isocalendar_spec
  unfold weekOfYear
  dsimp only
  constructor
  · intro ⟨hyear, hsame⟩
    have hfrom : week1Monday d.year ≤ d.toOrdinal := by
      by_contra hbefore
      rw [if_pos (by omega)] at hsame
      have := d'.isoWeek_pos
      omega
    rw [if_neg (by omega)] at hsame
    rw [← hyear] at hweek' hlt' hle'
    have hmod := week1Monday_mod d.year
    have hmod' := week1Monday_mod (d.year + 1)
    unfold weeksFrom at hsame hweek'
    have hiso : d.isoYear = d.year := by
      rw [isoYear_iff d.year_pos]
      omega
    refine ⟨?_, hiso⟩
    unfold weekIndex
    omega
  · intro ⟨hindex, hiso⟩
    obtain ⟨hyear, hsame⟩ := isocalendar_eq_iff.mpr hindex
    rw [hiso] at hle hweek
    rw [if_neg (by omega)]
    refine ⟨by omega, ?_⟩
    unfold weeksFrom at hweek ⊢
    omega

end Date

end Calendar
