import Mathlib.Tactic

/-!
# Dates

The Gregorian calendar: a date is a year, a month and a day of that month.
`toOrdinal` numbers the days from 1 January of the year 1 on.

    the order of dates is the order of their numbers               (le_iff_toOrdinal_le)
    the number determines the date                                 (toOrdinal_inj)
    n days before a date is the date with the number less n        (subDays_toOrdinal)
-/

namespace Calendar

def isLeap (y : ℕ) : Bool := y % 4 == 0 && (y % 100 != 0 || y % 400 == 0)

def daysInMonth (y : ℕ) : ℕ → ℕ
  | 0 => 0
  | 2 => if isLeap y then 29 else 28
  | 4 => 30
  | 6 => 30
  | 9 => 30
  | 11 => 30
  | _ => 31

/-- The days before 1 January. -/
def daysBeforeYear (y : ℕ) : ℕ := (y - 1) * 365 + (y - 1) / 4 - (y - 1) / 100 + (y - 1) / 400

/-- The days of the year before the first of the month. -/
def daysBeforeMonth (y : ℕ) : ℕ → ℕ
  | 0 => 0
  | m + 1 => daysBeforeMonth y m + daysInMonth y m

def daysInYear (y : ℕ) : ℕ := if isLeap y then 366 else 365

structure Date where
  year : ℕ
  month : ℕ
  day : ℕ
  year_pos : 1 ≤ year
  month_pos : 1 ≤ month
  month_le : month ≤ 12
  day_pos : 1 ≤ day
  day_le : day ≤ daysInMonth year month
  deriving DecidableEq

/-- The numbers make a date. -/
abbrev Date.Valid (year month day : ℕ) : Prop :=
  1 ≤ year ∧ 1 ≤ month ∧ month ≤ 12 ∧ 1 ≤ day ∧ day ≤ daysInMonth year month

def Date.of {year month day : ℕ} (h : Date.Valid year month day) : Date where
  year := year
  month := month
  day := day
  year_pos := h.1
  month_pos := h.2.1
  month_le := h.2.2.1
  day_pos := h.2.2.2.1
  day_le := h.2.2.2.2

/-! ## Years and months -/

theorem isLeap_iff (y : ℕ) : isLeap y = true ↔ 4 ∣ y ∧ (¬ 100 ∣ y ∨ 400 ∣ y) := by
  unfold isLeap
  simp only [Bool.and_eq_true, Bool.or_eq_true, beq_iff_eq, bne_iff_ne, Nat.dvd_iff_mod_eq_zero, ne_eq]

theorem daysBeforeYear_succ {y : ℕ} (hy : 1 ≤ y) :
    daysBeforeYear (y + 1) = daysBeforeYear y + daysInYear y := by
  obtain ⟨n, rfl⟩ : ∃ n, y = n + 1 := ⟨y - 1, by omega⟩
  have hcentury : n / 100 ≤ n / 4 := Nat.div_le_div_left (by decide) (by decide)
  have h100 : 100 ∣ n + 1 → 4 ∣ n + 1 := Nat.dvd_trans (by decide)
  have h400 : 400 ∣ n + 1 → 100 ∣ n + 1 := Nat.dvd_trans (by decide)
  unfold daysBeforeYear daysInYear
  simp only [Nat.add_sub_cancel, isLeap_iff, Nat.succ_div]
  generalize n / 4 = q, n / 100 = c, n / 400 = g at *
  split_ifs <;> omega

theorem daysBeforeMonth_end (y : ℕ) : daysBeforeMonth y 13 = daysInYear y := by
  simp only [daysBeforeMonth, daysInMonth, daysInYear]
  cases isLeap y <;> rfl

theorem daysInMonth_pos (y : ℕ) {m : ℕ} (hm : 1 ≤ m) : 1 ≤ daysInMonth y m := by
  unfold daysInMonth
  split <;> first | omega | (split <;> omega)

theorem daysBeforeMonth_mono (y : ℕ) : Monotone (daysBeforeMonth y) :=
  monotone_nat_of_le_succ fun _ => Nat.le_add_right _ _

theorem daysBeforeYear_mono {y y' : ℕ} (hy : 1 ≤ y) (h : y ≤ y') :
    daysBeforeYear y ≤ daysBeforeYear y' := by
  induction y', h using Nat.le_induction with
  | base => exact le_rfl
  | succ n hn ih =>
    rw [daysBeforeYear_succ (hy.trans hn)]
    exact ih.trans (Nat.le_add_right _ _)

namespace Date

/-- The number of the day. -/
def toOrdinal (d : Date) : ℕ := daysBeforeYear d.year + daysBeforeMonth d.year d.month + d.day

/-- Dates are compared by year, month and day. -/
instance : LE Date where
  le a b := a.year < b.year ∨
    (a.year = b.year ∧ (a.month < b.month ∨ (a.month = b.month ∧ a.day ≤ b.day)))

instance (a b : Date) : Decidable (a ≤ b) := inferInstanceAs (Decidable (_ ∨ _))

variable {d d' : Date}

theorem toOrdinal_le_month (d : Date) :
    d.toOrdinal ≤ daysBeforeYear d.year + daysBeforeMonth d.year (d.month + 1) := by
  have := d.day_le
  rw [daysBeforeMonth]
  unfold toOrdinal
  omega

theorem toOrdinal_le_year (d : Date) : d.toOrdinal ≤ daysBeforeYear (d.year + 1) := by
  have hmonth := d.toOrdinal_le_month
  have hend : daysBeforeMonth d.year (d.month + 1) ≤ daysBeforeMonth d.year 13 :=
    daysBeforeMonth_mono d.year (Nat.succ_le_succ d.month_le)
  rw [daysBeforeMonth_end] at hend
  rw [daysBeforeYear_succ d.year_pos]
  omega

theorem daysBeforeYear_lt_toOrdinal (d : Date) : daysBeforeYear d.year < d.toOrdinal := by
  have := d.day_pos
  unfold toOrdinal
  omega

theorem toOrdinal_lt_of_year (h : d.year < d'.year) : d.toOrdinal < d'.toOrdinal :=
  calc d.toOrdinal ≤ daysBeforeYear (d.year + 1) := d.toOrdinal_le_year
    _ ≤ daysBeforeYear d'.year := daysBeforeYear_mono (by omega) h
    _ < d'.toOrdinal := d'.daysBeforeYear_lt_toOrdinal

theorem toOrdinal_lt_of_month (hyear : d.year = d'.year) (h : d.month < d'.month) :
    d.toOrdinal < d'.toOrdinal := by
  have hle := d.toOrdinal_le_month
  have hmono : daysBeforeMonth d.year (d.month + 1) ≤ daysBeforeMonth d.year d'.month :=
    daysBeforeMonth_mono d.year h
  have hday := d'.day_pos
  rw [hyear] at hle hmono
  unfold toOrdinal at hle ⊢
  rw [hyear] at hle ⊢
  omega

theorem le_iff_toOrdinal_le : d ≤ d' ↔ d.toOrdinal ≤ d'.toOrdinal := by
  constructor
  · rintro (hyear | ⟨hyear, hmonth | ⟨hmonth, hday⟩⟩)
    · exact (toOrdinal_lt_of_year hyear).le
    · exact (toOrdinal_lt_of_month hyear hmonth).le
    · unfold toOrdinal
      rw [hyear, hmonth]
      omega
  · intro h
    rcases Nat.lt_trichotomy d.year d'.year with hlt | hyear | hgt
    · exact Or.inl hlt
    · refine Or.inr ⟨hyear, ?_⟩
      rcases Nat.lt_trichotomy d.month d'.month with hlt | hmonth | hgt
      · exact Or.inl hlt
      · refine Or.inr ⟨hmonth, ?_⟩
        unfold toOrdinal at h
        rw [hyear, hmonth] at h
        omega
      · exact absurd h (Nat.not_le_of_lt (toOrdinal_lt_of_month hyear.symm hgt))
    · exact absurd h (Nat.not_le_of_lt (toOrdinal_lt_of_year hgt))

theorem eq_of_le_of_le (h : d ≤ d') (h' : d' ≤ d) : d = d' := by
  obtain ⟨y, m, day, _, _, _, _, _⟩ := d
  obtain ⟨y', m', day', _, _, _, _, _⟩ := d'
  have hle : y < y' ∨ (y = y' ∧ (m < m' ∨ (m = m' ∧ day ≤ day'))) := h
  have hge : y' < y ∨ (y' = y ∧ (m' < m ∨ (m' = m ∧ day' ≤ day))) := h'
  obtain ⟨rfl, rfl, rfl⟩ : y = y' ∧ m = m' ∧ day = day' := by omega
  rfl

theorem toOrdinal_inj (h : d.toOrdinal = d'.toOrdinal) : d = d' :=
  eq_of_le_of_le (le_iff_toOrdinal_le.mpr h.le) (le_iff_toOrdinal_le.mpr h.ge)

/-! ## Days and months before a date -/

/-- The day before, if the calendar has one. -/
def pred (d : Date) : Option Date :=
  if hday : 1 < d.day then
    some { d with day := d.day - 1, day_pos := by omega, day_le := by have := d.day_le; omega }
  else if hmonth : 1 < d.month then
    some
      { year := d.year, month := d.month - 1, day := daysInMonth d.year (d.month - 1)
        year_pos := d.year_pos, month_pos := by omega, month_le := by have := d.month_le; omega
        day_pos := daysInMonth_pos _ (by omega), day_le := le_rfl }
  else if hyear : 1 < d.year then
    some
      { year := d.year - 1, month := 12, day := 31, year_pos := by omega, month_pos := by decide
        month_le := le_rfl, day_pos := by decide, day_le := le_rfl }
  else none

/-- `n` days before. -/
def subDays (d : Date) : ℕ → Option Date
  | 0 => some d
  | n + 1 => (subDays d n).bind pred

theorem pred_toOrdinal (h : 1 < d.toOrdinal) : ∃ d', d.pred = some d' ∧ d'.toOrdinal + 1 = d.toOrdinal := by
  have hpos := d.day_pos
  have hmpos := d.month_pos
  have hypos := d.year_pos
  unfold pred
  by_cases hday : 1 < d.day
  · rw [dif_pos hday]
    refine ⟨_, rfl, ?_⟩
    show daysBeforeYear d.year + daysBeforeMonth d.year d.month + (d.day - 1) + 1 = d.toOrdinal
    unfold toOrdinal
    omega
  · have hone : d.day = 1 := by omega
    rw [dif_neg hday]
    by_cases hmonth : 1 < d.month
    · rw [dif_pos hmonth]
      refine ⟨_, rfl, ?_⟩
      show daysBeforeYear d.year + daysBeforeMonth d.year (d.month - 1) +
        daysInMonth d.year (d.month - 1) + 1 = d.toOrdinal
      have hstep : daysBeforeMonth d.year (d.month - 1 + 1) =
        daysBeforeMonth d.year (d.month - 1) + daysInMonth d.year (d.month - 1) := rfl
      rw [Nat.sub_add_cancel hmpos] at hstep
      unfold toOrdinal
      omega
    · have hjan : d.month = 1 := by omega
      have hstart : d.toOrdinal = daysBeforeYear d.year + 1 := by
        unfold toOrdinal
        rw [hjan, hone]
        rfl
      rw [dif_neg hmonth]
      by_cases hyear : 1 < d.year
      · rw [dif_pos hyear]
        refine ⟨_, rfl, ?_⟩
        have hend := daysBeforeMonth_end (d.year - 1)
        rw [daysBeforeMonth] at hend
        have hsucc := daysBeforeYear_succ (y := d.year - 1) (by omega)
        rw [Nat.sub_add_cancel hypos] at hsucc
        show daysBeforeYear (d.year - 1) + daysBeforeMonth (d.year - 1) 12 + 31 + 1 = d.toOrdinal
        have hdec : daysInMonth (d.year - 1) 12 = 31 := rfl
        omega
      · have hyear' : d.year = 1 := by omega
        rw [hstart, hyear'] at h
        exact absurd h (by decide)

theorem subDays_toOrdinal {n : ℕ} (h : n < d.toOrdinal) :
    ∃ d', d.subDays n = some d' ∧ d'.toOrdinal + n = d.toOrdinal := by
  induction n with
  | zero => exact ⟨d, rfl, rfl⟩
  | succ n ih =>
    obtain ⟨d₁, hd₁, hn⟩ := ih (by omega)
    obtain ⟨d₂, hd₂, hpred⟩ := pred_toOrdinal (d := d₁) (by omega)
    refine ⟨d₂, ?_, by omega⟩
    rw [subDays, hd₁]
    exact hd₂

/-- The months before the month of the date, from the year 0 on. -/
def monthIndex (d : Date) : ℕ := 12 * d.year + (d.month - 1)

/-- `n` months before; a day that the month does not have becomes its last one. -/
def subMonths (d : Date) (n : ℕ) : Option Date :=
  let m := d.monthIndex - n
  if h : 12 ≤ m then
    some
      { year := m / 12, month := m % 12 + 1, day := min d.day (daysInMonth (m / 12) (m % 12 + 1))
        year_pos := by omega, month_pos := by omega, month_le := by omega
        day_pos := le_min d.day_pos (daysInMonth_pos _ (by omega)), day_le := min_le_right _ _ }
  else none

theorem subMonths_monthIndex {n : ℕ} (h : n + 12 ≤ d.monthIndex) :
    ∃ d', d.subMonths n = some d' ∧ d'.monthIndex + n = d.monthIndex := by
  unfold subMonths
  rw [dif_pos (by omega)]
  refine ⟨_, rfl, ?_⟩
  show 12 * ((d.monthIndex - n) / 12) + ((d.monthIndex - n) % 12 + 1 - 1) + n = d.monthIndex
  omega

theorem le_of_monthIndex_lt (h : d.monthIndex < d'.monthIndex) : d ≤ d' := by
  have := d.month_pos
  have := d.month_le
  have := d'.month_pos
  have := d'.month_le
  unfold monthIndex at h
  rcases Nat.lt_or_ge d.year d'.year with hlt | hge
  · exact Or.inl hlt
  · exact Or.inr ⟨by omega, Or.inl (by omega)⟩

end Date

end Calendar
