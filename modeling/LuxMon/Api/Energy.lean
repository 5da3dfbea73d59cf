import LuxMon.Calendar.Weeks
import LuxMon.Python.Dict

/-!
# The energy report

`/api/energy` sums the hourly rollups by day, week or month.  The database names the
period of a row, and the endpoint names the periods of the report and looks the sums
up by name: a row whose two names differ is in no sum.

    days and months have one name on both sides, a week has one if the calendar
    year is the ISO year                                          (sqlPeriod_eq_iff)
    the report has the periods up to the current one              (report_consecutive)
    every row counts in its period ↔ its category is known and, by weeks, its
    calendar year is its ISO year                                 (energy_conserved_iff)
-/

namespace LuxMon

open Python Calendar

/-! ## The names of periods -/

/-- `f"{n:0{width}d}"`. -/
def zeroPad (width n : ℕ) : String :=
  String.ofList (List.replicate (width - (Nat.toDigits 10 n).length) '0' ++ Nat.toDigits 10 n)

/-- `LPAD(s, len, '0')`; a longer text is cut. -/
def lpad (len : ℕ) (s : String) : String :=
  String.ofList ((List.replicate (len - s.toList.length) '0' ++ s.toList).take len)

/-- `date.isoformat()`, and `str` of what `DATE(hour)` is fetched as. -/
def isoformat (d : Date) : String :=
  zeroPad 4 d.year ++ "-" ++ zeroPad 2 d.month ++ "-" ++ zeroPad 2 d.day

/-- `f"{y:04d}-{m:02d}"`, and `DATE_FORMAT` with `%Y-%m`. -/
def yearMonth (y m : ℕ) : String := zeroPad 4 y ++ "-" ++ zeroPad 2 m

/-- `f"{y}-W{w:02d}"`. -/
def yearWeek (y w : ℕ) : String := toString y ++ "-W" ++ zeroPad 2 w

inductive EnergyRange
  | daily
  | weekly
  | monthly
  deriving DecidableEq

/-! ## The query -/

/-- A `DATETIME`: the date and the second of the day. -/
structure Timestamp where
  date : Date
  second : ℕ

/-- A row of `lux_hourly_energy`. -/
structure HourlyRow where
  hour : Timestamp
  name : String
  valueIn : Option ℚ
  valueOut : Option ℚ

/-- A row of the answer: the sums of a group are those of its rows. -/
structure EnergyGroup where
  period : String
  name : String
  rows : List HourlyRow

/-- `DATE(NOW())`, in the range that MySQL supports. -/
structure SqlDate where
  date : Date
  supported : 1000 ≤ date.year ∧ date.year ≤ 9999

/-- The first column of the query. -/
def sqlPeriod : EnergyRange → Date → String
  | .daily, d => isoformat d
  | .weekly, d => toString d.year ++ "-W" ++ lpad 2 (toString d.weekOfYear)
  | .monthly, d => yearMonth d.year d.month

/-- `DATE(NOW()) - INTERVAL periods DAY`, `WEEK` or `MONTH`. -/
def oldestDate (today : Date) (periods : ℕ) : EnergyRange → Option Date
  | .daily => today.subDays periods
  | .weekly => today.subDays (7 * periods)
  | .monthly => today.subMonths periods

/-- The rows of the `WHERE` clause: no time of the bound's day is before its midnight. -/
def selectedRows (range : EnergyRange) (today : Date) (periods : ℕ) (table : List HourlyRow) :
    List HourlyRow :=
  table.filter fun r => (oldestDate today periods range).any fun bound => decide (bound ≤ r.hour.date)

/-- The query: one group for each period and name that occurs. -/
def energyGroups (range : EnergyRange) (today : Date) (periods : ℕ) (table : List HourlyRow) :
    List EnergyGroup :=
  let rows := selectedRows range today periods table
  (rows.map fun r => (sqlPeriod range r.hour.date, r.name)).dedup.map fun k =>
    ⟨k.1, k.2, rows.filter fun r => decide ((sqlPeriod range r.hour.date, r.name) = k)⟩

/-! ## The report -/

/-- The sums of one category in one period, with the rows that are added up; a missing one has
none. -/
structure EnergySum where
  rows : List HourlyRow := []

/-- `SUM(value_in) / 1000` before rounding, 0 when nothing is summed. -/
def EnergySum.inKwh (s : EnergySum) : ℚ := (s.rows.filterMap HourlyRow.valueIn).sum / 1000

def EnergySum.outKwh (s : EnergySum) : ℚ := (s.rows.filterMap HourlyRow.valueOut).sum / 1000

def knownCategories : List String := ["PV power", "Battery power", "Grid power", "Load power"]

/-- One turn of the loop over the fetched rows: `data[str(period)][name] = {...}`. -/
def pivotRow (data : Dict String (Dict String EnergySum)) (g : EnergyGroup) :
    Dict String (Dict String EnergySum) :=
  data.set g.period (((data.get? g.period).getD Dict.empty).set g.name ⟨g.rows⟩)

/-- `data`. -/
def pivot (fetched : List EnergyGroup) : Dict String (Dict String EnergySum) :=
  fetched.foldl pivotRow Dict.empty

/-- `while m <= 0`, on the year and the month. -/
def walkBack (y m : ℤ) : ℤ × ℤ :=
  if m ≤ 0 then walkBack (y - 1) (m + 12) else (y, m)
termination_by (1 - m).toNat

/-- The name of the period `i` back; `none` where the date arithmetic overflows. -/
def periodKey (today : Date) (i : ℕ) : EnergyRange → Option String
  | .daily => (today.subDays i).map isoformat
  | .weekly => (today.subDays (7 * i)).map fun d => yearWeek d.isoYear d.isoWeek
  | .monthly =>
    let ym := walkBack today.year (today.month - i)
    some (yearMonth ym.1.toNat ym.2.toNat)

/-- The value of one period: every known category. -/
def categories (existing : Dict String EnergySum) : Dict String EnergySum :=
  Dict.ofList (knownCategories.map fun cat => (cat, (existing.get? cat).getD {}))

/-- `full_data` of the answer. -/
def apiEnergy (range : EnergyRange) (today : Date) (periods : ℕ) (fetched : List EnergyGroup) :
    Option (Dict String (Dict String EnergySum)) := do
  let data := pivot fetched
  let entries ← (List.range periods).reverse.mapM fun i => do
    let period ← periodKey today i range
    return (period, categories ((data.get? period).getD Dict.empty))
  return Dict.ofList entries

/-! ## What a report should hold -/

/-- The periods in order. -/
def periodIndex : EnergyRange → Date → ℕ
  | .daily, d => d.toOrdinal
  | .weekly, d => d.weekIndex
  | .monthly, d => d.monthIndex

/-- The date is in the period `i` before the current one. -/
def InPeriod (range : EnergyRange) (today : Date) (i : ℕ) (d : Date) : Prop :=
  periodIndex range d + i = periodIndex range today

instance (range : EnergyRange) (today : Date) (i : ℕ) (d : Date) :
    Decidable (InPeriod range today i d) := inferInstanceAs (Decidable (_ = _))

/-- The endpoint's own name of the period of a date. -/
def pyPeriod : EnergyRange → Date → String
  | .daily, d => isoformat d
  | .weekly, d => yearWeek d.isoYear d.isoWeek
  | .monthly, d => yearMonth d.year d.month

/-- The keys are the names of as many periods, one after the other, and the last is the current. -/
structure Consecutive (range : EnergyRange) (today : Date) (periods : ℕ) (keys : List String) :
    Prop where
  length : keys.length = periods
  nodup : keys.Nodup
  names : ∀ i < periods, ∃ d : Date, InPeriod range today i d ∧
    keys.reverse[i]? = some (pyPeriod range d)

/-- The sums of a category in the period `i` back. -/
def sumAt (report : Dict String (Dict String EnergySum)) (i : ℕ) (name : String) : Option EnergySum :=
  (report.keys.reverse[i]?.bind report.get?).bind fun sums => sums.get? name

/-- Every row of a period of the report is added up there, under its name, and nowhere else. -/
structure Conserves (range : EnergyRange) (today : Date) (periods : ℕ) (table : List HourlyRow)
    (report : Dict String (Dict String EnergySum)) : Prop where
  own : ∀ row ∈ table, ∀ i < periods, InPeriod range today i row.hour.date →
    ∃ s, sumAt report i row.name = some s ∧ s.rows = table.filter fun r =>
      decide (InPeriod range today i r.hour.date ∧ r.name = row.name)
  only : ∀ i < periods, ∀ name s, sumAt report i name = some s →
    ∀ r ∈ s.rows, r ∈ table ∧ InPeriod range today i r.hour.date ∧ r.name = name

/-! ## Names that are equal -/

theorem toList_zeroPad (width n : ℕ) : (zeroPad width n).toList =
    List.replicate (width - (Nat.toDigits 10 n).length) '0' ++ Nat.toDigits 10 n := by
  unfold zeroPad
  rw [String.toList_ofList]

theorem zeroPad_inj {width n n' : ℕ} (h : zeroPad width n = zeroPad width n') : n = n' := by
  have hvalue : ∀ m, Nat.ofDigitChars 10 (zeroPad width m).toList 0 = m := by
    intro m
    rw [toList_zeroPad, Nat.ofDigitChars_append, Nat.ofDigitChars_replicate_zero, Nat.mul_zero,
      Nat.ofDigitChars_ten_toDigits]
  rw [← hvalue n, h, hvalue]

theorem toString_eq_zeroPad (n : ℕ) : toString n = zeroPad 0 n := by
  apply String.toList_injective
  rw [toList_zeroPad, Nat.zero_sub, List.replicate_zero, List.nil_append]
  exact Nat.toList_repr

theorem length_zeroPad_two {n : ℕ} (h : n < 100) : (zeroPad 2 n).toList.length = 2 := by
  have hlen : (Nat.toDigits 10 n).length ≤ 2 :=
    (Nat.length_toDigits_le_iff (by decide) (by decide)).mpr h
  rw [toList_zeroPad, List.length_append, List.length_replicate]
  omega

theorem append_inj {a b c d : String} (hlen : b.toList.length = d.toList.length)
    (h : a ++ b = c ++ d) : a = c ∧ b = d := by
  have hlists := congrArg String.toList h
  rw [String.toList_append, String.toList_append] at hlists
  obtain ⟨ha, hb⟩ := List.append_inj' hlists hlen
  exact ⟨String.toList_injective ha, String.toList_injective hb⟩

theorem lpad_eq {n : ℕ} (h : n < 100) : lpad 2 (toString n) = zeroPad 2 n := by
  have hlen : (Nat.toDigits 10 n).length ≤ 2 :=
    (Nat.length_toDigits_le_iff (by decide) (by decide)).mpr h
  have hdigits : (toString n).toList = Nat.toDigits 10 n := Nat.toList_repr
  unfold lpad zeroPad
  rw [hdigits, List.take_of_length_le]
  rw [List.length_append, List.length_replicate]
  omega

theorem yearMonth_inj {y y' m m' : ℕ} (hm : m < 100) (hm' : m' < 100) :
    yearMonth y m = yearMonth y' m' ↔ y = y' ∧ m = m' := by
  constructor
  · intro h
    obtain ⟨hyear, hmonth⟩ := append_inj
      ((length_zeroPad_two hm).trans (length_zeroPad_two hm').symm) h
    exact ⟨zeroPad_inj (append_inj rfl hyear).1, zeroPad_inj hmonth⟩
  · rintro ⟨rfl, rfl⟩
    rfl

theorem yearWeek_inj {y y' w w' : ℕ} (hw : w < 100) (hw' : w' < 100) :
    yearWeek y w = yearWeek y' w' ↔ y = y' ∧ w = w' := by
  constructor
  · intro h
    obtain ⟨hyear, hweek⟩ := append_inj
      ((length_zeroPad_two hw).trans (length_zeroPad_two hw').symm) h
    have hyear := (append_inj rfl hyear).1
    rw [toString_eq_zeroPad, toString_eq_zeroPad] at hyear
    exact ⟨zeroPad_inj hyear, zeroPad_inj hweek⟩
  · rintro ⟨rfl, rfl⟩
    rfl

section
variable {d d' : Date}

theorem month_lt (d : Date) : d.month < 100 := by
  have := d.month_le
  omega

theorem day_lt (d : Date) : d.day < 100 := by
  have hle := d.day_le
  have hmonth : ∀ y m, daysInMonth y m ≤ 31 := by
    intro y m
    unfold daysInMonth
    split <;> first | omega | (split <;> omega)
  have := hmonth d.year d.month
  omega

theorem isoWeek_lt (d : Date) : d.isoWeek < 100 := Nat.lt_of_le_of_lt d.isoWeek_le (by decide)

theorem weekOfYear_lt (d : Date) : d.weekOfYear < 100 := by
  have hend := d.toOrdinal_le_year
  have hyear := daysInYear_bounds d.year
  have hnear := week1Monday_near d.year
  rw [daysBeforeYear_succ d.year_pos] at hend
  unfold Date.weekOfYear weeksFrom
  dsimp only
  split <;> omega

theorem isoformat_inj : isoformat d = isoformat d' ↔ d.toOrdinal = d'.toOrdinal := by
  constructor
  · intro h
    obtain ⟨hfront, hday⟩ := append_inj
      ((length_zeroPad_two (day_lt d)).trans (length_zeroPad_two (day_lt d')).symm) h
    obtain ⟨hfront, -⟩ := append_inj rfl hfront
    obtain ⟨hyear, hmonth⟩ := (yearMonth_inj (month_lt d) (month_lt d')).mp hfront
    unfold Date.toOrdinal
    rw [hyear, hmonth, zeroPad_inj hday]
  · intro h
    rw [Date.toOrdinal_inj h]

theorem monthIndex_eq_iff : d.monthIndex = d'.monthIndex ↔ d.year = d'.year ∧ d.month = d'.month := by
  have := d.month_pos
  have := d.month_le
  have := d'.month_pos
  have := d'.month_le
  unfold Date.monthIndex
  omega

/-- The endpoint gives every period a name of its own. -/
theorem pyPeriod_eq_iff (range : EnergyRange) :
    pyPeriod range d = pyPeriod range d' ↔ periodIndex range d = periodIndex range d' := by
  cases range with
  | daily => exact isoformat_inj
  | weekly => exact (yearWeek_inj (isoWeek_lt d) (isoWeek_lt d')).trans Date.isocalendar_eq_iff
  | monthly => exact (yearMonth_inj (month_lt d) (month_lt d')).trans monthIndex_eq_iff.symm

/-- The database gives a date the name that the endpoint gives its period, unless it is grouped by
weeks and belongs to a week of another year. -/
theorem sqlPeriod_eq_iff (range : EnergyRange) :
    sqlPeriod range d = pyPeriod range d' ↔
      periodIndex range d = periodIndex range d' ∧ (range = .weekly → d.isoYear = d.year) := by
  cases range with
  | daily => exact isoformat_inj.trans (and_iff_left fun h => by cases h).symm
  | weekly =>
    show _ ++ lpad 2 (toString d.weekOfYear) = _ ↔ _
    rw [lpad_eq (weekOfYear_lt d)]
    refine (yearWeek_inj (weekOfYear_lt d) (isoWeek_lt d')).trans ?_
    rw [Date.weekOfYear_eq_iff]
    exact and_congr_right fun _ => ⟨fun h _ => h, fun h => h rfl⟩
  | monthly =>
    exact ((yearMonth_inj (month_lt d) (month_lt d')).trans monthIndex_eq_iff.symm).trans
      (and_iff_left fun h => by cases h).symm

end

/-! ## The periods of a report -/

theorem walkBack_spec (y m : ℤ) (hm : m ≤ 12) :
    12 * (walkBack y m).1 + (walkBack y m).2 = 12 * y + m ∧ 1 ≤ (walkBack y m).2 ∧
      (walkBack y m).2 ≤ 12 := by
  fun_induction walkBack y m with
  | case1 y m hle ih =>
    obtain ⟨hsum, hbounds⟩ := ih (by omega)
    exact ⟨by omega, hbounds⟩
  | case2 y m hpos => exact ⟨rfl, by omega, hm⟩

namespace SqlDate

variable (today : SqlDate)

theorem toOrdinal_large : 3000 < today.date.toOrdinal := by
  have hstart := today.date.daysBeforeYear_lt_toOrdinal
  have hmono : daysBeforeYear 1000 ≤ daysBeforeYear today.date.year :=
    daysBeforeYear_mono (by decide) today.supported.1
  have hvalue : daysBeforeYear 1000 = 364877 := by decide
  omega

theorem monthIndex_large : 12000 ≤ today.date.monthIndex := by
  have := today.supported.1
  unfold Date.monthIndex
  omega

/-- The loop names the period `i` back after a date in it. -/
theorem periodKey_eq (range : EnergyRange) {i : ℕ} (hi : i < 365) :
    ∃ d : Date, InPeriod range today.date i d ∧
      periodKey today.date i range = some (pyPeriod range d) := by
  have hlarge := today.toOrdinal_large
  cases range with
  | daily =>
    obtain ⟨d, hd, hordinal⟩ := Date.subDays_toOrdinal (d := today.date) (n := i) (by omega)
    exact ⟨d, hordinal, congrArg (Option.map isoformat) hd⟩
  | weekly =>
    obtain ⟨d, hd, hordinal⟩ := Date.subDays_toOrdinal (d := today.date) (n := 7 * i) (by omega)
    refine ⟨d, ?_, ?_⟩
    · show (d.toOrdinal - 1) / 7 + i = (today.date.toOrdinal - 1) / 7
      have := d.daysBeforeYear_lt_toOrdinal
      omega
    · rw [periodKey, hd]
      rfl
  | monthly =>
    have hmonths := today.monthIndex_large
    obtain ⟨d, -, hindex⟩ := Date.subMonths_monthIndex (d := today.date) (n := i) (by omega)
    refine ⟨d, hindex, ?_⟩
    have hmonth := today.date.month_le
    have hmonth' := today.date.month_pos
    have hd := d.month_le
    have hd' := d.month_pos
    have hspec := walkBack_spec today.date.year (today.date.month - i) (by omega)
    unfold Date.monthIndex at hindex
    rw [periodKey]
    generalize walkBack today.date.year (today.date.month - i) = ym at hspec ⊢
    have hyear : ym.1.toNat = d.year := by omega
    have hmonth : ym.2.toNat = d.month := by omega
    rw [hyear, hmonth]
    rfl

/-- No row of a period of the report is before the bound of the query. -/
theorem oldestDate_le (range : EnergyRange) {periods i : ℕ} (hperiods : periods ≤ 365) (hi : i < periods)
    {d : Date} (h : InPeriod range today.date i d) :
    (oldestDate today.date periods range).any fun bound => decide (bound ≤ d) := by
  have hlarge := today.toOrdinal_large
  have hpos := d.daysBeforeYear_lt_toOrdinal
  cases range with
  | daily =>
    obtain ⟨bound, hbound, hordinal⟩ := Date.subDays_toOrdinal (d := today.date) (n := periods) (by omega)
    have h : d.toOrdinal + i = today.date.toOrdinal := h
    rw [oldestDate, hbound, Option.any_some, decide_eq_true_eq, Date.le_iff_toOrdinal_le]
    omega
  | weekly =>
    obtain ⟨bound, hbound, hordinal⟩ :=
      Date.subDays_toOrdinal (d := today.date) (n := 7 * periods) (by omega)
    have h : (d.toOrdinal - 1) / 7 + i = (today.date.toOrdinal - 1) / 7 := h
    rw [oldestDate, hbound, Option.any_some, decide_eq_true_eq, Date.le_iff_toOrdinal_le]
    omega
  | monthly =>
    have hmonths := today.monthIndex_large
    obtain ⟨bound, hbound, hindex⟩ :=
      Date.subMonths_monthIndex (d := today.date) (n := periods) (by omega)
    have h : d.monthIndex + i = today.date.monthIndex := h
    rw [oldestDate, hbound, Option.any_some, decide_eq_true_eq]
    exact Date.le_of_monthIndex_lt (by omega)

end SqlDate

/-! ## The sums of a report -/

/-- The sums that `data` holds for a name in a period. -/
def cell (data : Dict String (Dict String EnergySum)) (period name : String) : Option EnergySum :=
  ((data.get? period).getD Dict.empty).get? name

theorem cell_pivotRow (data : Dict String (Dict String EnergySum)) (g : EnergyGroup)
    (period name : String) :
    cell (pivotRow data g) period name =
      if period = g.period ∧ name = g.name then some ⟨g.rows⟩ else cell data period name := by
  unfold cell pivotRow
  rw [Dict.get?_set]
  by_cases hperiod : period = g.period
  · rw [if_pos hperiod, Option.getD_some, Dict.get?_set, hperiod]
    by_cases hname : name = g.name
    · rw [if_pos hname, if_pos ⟨rfl, hname⟩]
    · rw [if_neg hname, if_neg fun h => hname h.2]
  · rw [if_neg hperiod, if_neg fun h => hperiod h.1]

/-- After the pivot a cell holds a fetched group of its period and name, if there is one. -/
theorem cell_foldl (data : Dict String (Dict String EnergySum)) (fetched : List EnergyGroup)
    (period name : String) :
    (∃ g ∈ fetched, (period = g.period ∧ name = g.name) ∧
        cell (fetched.foldl pivotRow data) period name = some ⟨g.rows⟩) ∨
      ((∀ g ∈ fetched, ¬ (period = g.period ∧ name = g.name)) ∧
        cell (fetched.foldl pivotRow data) period name = cell data period name) := by
  induction fetched generalizing data with
  | nil => exact Or.inr ⟨by simp, rfl⟩
  | cons g gs ih =>
    rw [List.foldl_cons]
    rcases ih (pivotRow data g) with ⟨g', hg', hkey, hcell⟩ | ⟨hnone, hcell⟩
    · exact Or.inl ⟨g', List.mem_cons_of_mem g hg', hkey, hcell⟩
    · rw [cell_pivotRow] at hcell
      by_cases hkey : period = g.period ∧ name = g.name
      · rw [if_pos hkey] at hcell
        exact Or.inl ⟨g, List.mem_cons_self, hkey, hcell⟩
      · rw [if_neg hkey] at hcell
        refine Or.inr ⟨fun g' hg' => ?_, hcell⟩
        rcases List.mem_cons.mp hg' with rfl | hg'
        · exact hkey
        · exact hnone g' hg'

section
variable {range : EnergyRange} {today : Date} {periods : ℕ} {table : List HourlyRow}
  {fetched : List EnergyGroup}

/-- The rows that the query groups under a period and a name. -/
def groupRows (range : EnergyRange) (today : Date) (periods : ℕ) (table : List HourlyRow)
    (period name : String) : List HourlyRow :=
  (selectedRows range today periods table).filter fun r =>
    decide ((sqlPeriod range r.hour.date, r.name) = (period, name))

theorem mem_energyGroups {g : EnergyGroup} :
    g ∈ energyGroups range today periods table ↔
      (∃ r ∈ selectedRows range today periods table,
        (sqlPeriod range r.hour.date, r.name) = (g.period, g.name)) ∧
      g.rows = groupRows range today periods table g.period g.name := by
  unfold energyGroups
  simp only [List.mem_map, List.mem_dedup]
  constructor
  · rintro ⟨k, ⟨r, hr, rfl⟩, rfl⟩
    exact ⟨⟨r, hr, rfl⟩, rfl⟩
  · rintro ⟨⟨r, hr, hkey⟩, hrows⟩
    refine ⟨(g.period, g.name), ⟨r, hr, hkey⟩, ?_⟩
    obtain ⟨period, name, rows⟩ := g
    exact congrArg (EnergyGroup.mk period name) hrows.symm

/-- However the database orders its answer, a period and a name get the rows of their group. -/
theorem cell_pivot (hfetched : fetched.Perm (energyGroups range today periods table))
    (period name : String) :
    ((cell (pivot fetched) period name).getD {}).rows =
      groupRows range today periods table period name := by
  unfold pivot
  rcases cell_foldl Dict.empty fetched period name with ⟨g, hg, ⟨rfl, rfl⟩, hcell⟩ | ⟨hnone, hcell⟩
  · rw [hcell]
    exact (mem_energyGroups.mp (hfetched.mem_iff.mp hg)).2
  · rw [hcell]
    symm
    show groupRows range today periods table period name = []
    unfold groupRows
    rw [List.filter_eq_nil_iff]
    intro r hr hkey
    rw [decide_eq_true_eq] at hkey
    have hg : (⟨period, name, groupRows range today periods table period name⟩ : EnergyGroup) ∈ fetched :=
      hfetched.mem_iff.mpr (mem_energyGroups.mpr ⟨⟨r, hr, hkey⟩, rfl⟩)
    exact hnone _ hg ⟨rfl, rfl⟩

end

theorem get?_categories (existing : Dict String EnergySum) (name : String) :
    (categories existing).get? name =
      if name ∈ knownCategories then some ((existing.get? name).getD {}) else none := by
  have hentries : (categories existing).entries =
      knownCategories.map fun cat => (cat, (existing.get? cat).getD {}) := by
    refine Dict.entries_ofList ?_
    rw [List.map_map]
    exact (List.map_id _).symm ▸ (by decide : knownCategories.Nodup)
  by_cases hname : name ∈ knownCategories
  · rw [if_pos hname, ← Dict.mem_entries, hentries]
    exact List.mem_map.mpr ⟨name, hname, rfl⟩
  · rw [if_neg hname, ← Option.not_isSome_iff_eq_none, Option.isSome_iff_exists]
    rintro ⟨s, hs⟩
    rw [← Dict.mem_entries, hentries] at hs
    obtain ⟨cat, hcat, heq⟩ := List.mem_map.mp hs
    exact hname ((Prod.mk.inj heq).1 ▸ hcat)

theorem mapM_some {α β : Type} {f : α → Option β} {g : α → β} {l : List α}
    (h : ∀ a ∈ l, f a = some (g a)) : l.mapM f = some (l.map g) := by
  induction l with
  | nil => rfl
  | cons a l ih =>
    rw [List.mapM_cons, h a List.mem_cons_self, ih fun b hb => h b (List.mem_cons_of_mem a hb)]
    rfl

/-! ## What the report holds -/

/-- The name of a period of the report. -/
def reportKey (range : EnergyRange) (today : Date) (i : ℕ) : String := (periodKey today i range).getD ""

/-- The entries of the report, from the first period. -/
def reportEntries (range : EnergyRange) (today : Date) (periods : ℕ) (fetched : List EnergyGroup) :
    List (String × Dict String EnergySum) :=
  (List.range periods).reverse.map fun i =>
    (reportKey range today i, categories (((pivot fetched).get? (reportKey range today i)).getD Dict.empty))

section
variable (range : EnergyRange) (today : SqlDate) {periods : ℕ} (hperiods : periods ≤ 365)
include hperiods

theorem reportKey_eq {i : ℕ} (hi : i < periods) : ∃ d : Date, InPeriod range today.date i d ∧
    periodKey today.date i range = some (pyPeriod range d) ∧ reportKey range today.date i = pyPeriod range d := by
  obtain ⟨d, hd, hname⟩ := today.periodKey_eq range (show i < 365 by omega)
  exact ⟨d, hd, hname, congrArg (Option.getD · "") hname⟩

/-- The periods have distinct names. -/
theorem reportKeys_nodup : ((List.range periods).map (reportKey range today.date)).Nodup := by
  refine (List.nodup_map_iff_inj_on List.nodup_range).mpr fun i hi j hj hij => ?_
  obtain ⟨d, hd, -, hname⟩ := reportKey_eq range today hperiods (List.mem_range.mp hi)
  obtain ⟨d', hd', -, hname'⟩ := reportKey_eq range today hperiods (List.mem_range.mp hj)
  rw [hname, hname', pyPeriod_eq_iff] at hij
  unfold InPeriod at hd hd'
  omega

variable (fetched : List EnergyGroup)

theorem apiEnergy_eq : apiEnergy range today.date periods fetched =
    some (Dict.ofList (reportEntries range today.date periods fetched)) := by
  unfold apiEnergy
  have hturns : (List.range periods).reverse.mapM (fun i => do
      let period ← periodKey today.date i range
      return (period, categories (((pivot fetched).get? period).getD Dict.empty))) =
        some (reportEntries range today.date periods fetched) := by
    refine mapM_some fun i hi => ?_
    obtain ⟨d, -, hname, hkey⟩ := reportKey_eq range today hperiods (List.mem_range.mp (List.mem_reverse.mp hi))
    rw [hname, ← hkey]
    rfl
  simp only [hturns]
  rfl

theorem entries_report : (Dict.ofList (reportEntries range today.date periods fetched)).entries =
    reportEntries range today.date periods fetched := by
  refine Dict.entries_ofList ?_
  unfold reportEntries
  rw [List.map_map]
  have hnodup := reportKeys_nodup range today hperiods
  rw [← List.nodup_reverse, ← List.map_reverse] at hnodup
  exact hnodup

theorem keys_report : (Dict.ofList (reportEntries range today.date periods fetched)).keys =
    ((List.range periods).map (reportKey range today.date)).reverse := by
  rw [Dict.keys, entries_report range today hperiods, reportEntries, List.map_map, ← List.map_reverse]
  rfl

theorem get?_report {i : ℕ} (hi : i < periods) :
    (Dict.ofList (reportEntries range today.date periods fetched)).get? (reportKey range today.date i) =
      some (categories (((pivot fetched).get? (reportKey range today.date i)).getD Dict.empty)) := by
  rw [← Dict.mem_entries, entries_report range today hperiods]
  exact List.mem_map.mpr ⟨i, List.mem_reverse.mpr (List.mem_range.mpr hi), rfl⟩

variable {fetched} {table : List HourlyRow} (hfetched : fetched.Perm (energyGroups range today.date periods table))
include hfetched

/-- A known category of a period has the rows that the database gives the name of that period. -/
theorem sumAt_report {i : ℕ} (hi : i < periods) (name : String) :
    (sumAt (Dict.ofList (reportEntries range today.date periods fetched)) i name).map EnergySum.rows =
      if name ∈ knownCategories then
        some (groupRows range today.date periods table (reportKey range today.date i) name)
      else none := by
  have hat : (Dict.ofList (reportEntries range today.date periods fetched)).keys.reverse[i]? =
      some (reportKey range today.date i) := by
    rw [keys_report range today hperiods, List.reverse_reverse, List.getElem?_map, List.getElem?_range hi]
    rfl
  unfold sumAt
  rw [hat, Option.bind_some, get?_report range today hperiods fetched hi, Option.bind_some, get?_categories]
  split
  · exact congrArg some (cell_pivot hfetched (reportKey range today.date i) name)
  · rfl

/-- The keys are the periods up to the current one, and a known category of a period has the rows
that the database gives the name of that period. -/
theorem report_spec :
    ∃ report key, apiEnergy range today.date periods fetched = some report ∧
      report.keys = ((List.range periods).map key).reverse ∧ report.keys.Nodup ∧
      (∀ i < periods, ∃ d : Date, InPeriod range today.date i d ∧ key i = pyPeriod range d) ∧
      ∀ i < periods, ∀ name, (sumAt report i name).map EnergySum.rows =
        if name ∈ knownCategories then
          some (groupRows range today.date periods table (key i) name)
        else none := by
  refine ⟨_, reportKey range today.date, apiEnergy_eq range today hperiods fetched, keys_report range today hperiods fetched,
    ?_, fun i hi => ?_, fun i hi => sumAt_report range today hperiods hfetched hi⟩
  · rw [keys_report range today hperiods]
    exact List.nodup_reverse.mpr (reportKeys_nodup range today hperiods)
  · obtain ⟨d, hd, -, hname⟩ := reportKey_eq range today hperiods hi
    exact ⟨d, hd, hname⟩

end

/-- Under the name of a period, the database groups its rows but for those that it counts to a
week of another year. -/
theorem groupRows_eq (range : EnergyRange) (today : SqlDate) {periods i : ℕ} (hperiods : periods ≤ 365)
    (hi : i < periods) (table : List HourlyRow) {d : Date} (hd : InPeriod range today.date i d)
    (name : String) :
    groupRows range today.date periods table (pyPeriod range d) name = table.filter fun r =>
      decide (InPeriod range today.date i r.hour.date ∧ r.name = name ∧
        (range = .weekly → r.hour.date.isoYear = r.hour.date.year)) := by
  unfold groupRows selectedRows
  rw [List.filter_filter]
  refine List.filter_congr fun r _ => ?_
  have hperiod : periodIndex range r.hour.date = periodIndex range d ↔
      InPeriod range today.date i r.hour.date := by
    unfold InPeriod at hd ⊢
    omega
  rw [Bool.eq_iff_iff, Bool.and_eq_true, decide_eq_true_eq, decide_eq_true_eq, Prod.mk.injEq,
    sqlPeriod_eq_iff, hperiod]
  constructor
  · rintro ⟨⟨⟨hin, hweek⟩, hname⟩, -⟩
    exact ⟨hin, hname, hweek⟩
  · rintro ⟨hin, hname, hweek⟩
    exact ⟨⟨⟨hin, hweek⟩, hname⟩, today.oldestDate_le range hperiods hi hin⟩

section
variable {range : EnergyRange} {today : SqlDate} {periods : ℕ} (hperiods : periods ≤ 365)
  {table : List HourlyRow} {fetched : List EnergyGroup}
  (hfetched : fetched.Perm (energyGroups range today.date periods table))
include hperiods hfetched

theorem report_consecutive :
    ∃ report, apiEnergy range today.date periods fetched = some report ∧
      Consecutive range today.date periods report.keys := by
  obtain ⟨report, key, hreport, hkeys, hnodup, hkey, -⟩ := report_spec range today hperiods hfetched
  refine ⟨report, hreport, ?_, hnodup, fun i hi => ?_⟩
  · rw [hkeys, List.length_reverse, List.length_map, List.length_range]
  · obtain ⟨d, hd, hname⟩ := hkey i hi
    refine ⟨d, hd, ?_⟩
    rw [hkeys, List.reverse_reverse, List.getElem?_map, List.getElem?_range hi, Option.map_some, hname]

/-- A row that is added up in its period has a known category and, by weeks, a date whose calendar
year is its ISO year. -/
theorem counted_of_conserves {report : Dict String (Dict String EnergySum)}
    (hreport : apiEnergy range today.date periods fetched = some report)
    (h : Conserves range today.date periods table report) {row : HourlyRow} (hrow : row ∈ table)
    {i : ℕ} (hi : i < periods) (hin : InPeriod range today.date i row.hour.date) :
    row.name ∈ knownCategories ∧
      (range = .weekly → row.hour.date.isoYear = row.hour.date.year) := by
  obtain ⟨report', key, hreport', -, -, hkey, hsums⟩ := report_spec range today hperiods hfetched
  obtain rfl := Option.some.inj (hreport.symm.trans hreport')
  obtain ⟨s, hs, hrows⟩ := h.own row hrow i hi hin
  obtain ⟨d, hd, hname⟩ := hkey i hi
  have hsum := hsums i hi row.name
  rw [hs, hname, groupRows_eq range today hperiods hi table hd] at hsum
  by_cases hknown : row.name ∈ knownCategories
  · rw [if_pos hknown, Option.map_some, Option.some.injEq, hrows] at hsum
    refine ⟨hknown, ?_⟩
    have hmem : row ∈ table.filter fun r =>
        decide (InPeriod range today.date i r.hour.date ∧ r.name = row.name) := by
      simp [hrow, hin]
    rw [hsum, List.mem_filter, decide_eq_true_eq] at hmem
    exact hmem.2.2.2
  · rw [if_neg hknown] at hsum
    cases hsum

theorem conserves_of_counted {report : Dict String (Dict String EnergySum)}
    (hreport : apiEnergy range today.date periods fetched = some report)
    (h : ∀ row ∈ table, (∃ i < periods, InPeriod range today.date i row.hour.date) →
      row.name ∈ knownCategories ∧
        (range = .weekly → row.hour.date.isoYear = row.hour.date.year)) :
    Conserves range today.date periods table report := by
  obtain ⟨report', key, hreport', -, -, hkey, hsums⟩ := report_spec range today hperiods hfetched
  obtain rfl := Option.some.inj (hreport.symm.trans hreport')
  constructor
  · intro row hrow i hi hin
    obtain ⟨d, hd, hname⟩ := hkey i hi
    have hsum := hsums i hi row.name
    rw [if_pos (h row hrow ⟨i, hi, hin⟩).1, hname, groupRows_eq range today hperiods hi table hd] at hsum
    obtain ⟨s, hs, hrows⟩ := Option.map_eq_some_iff.mp hsum
    refine ⟨s, hs, hrows.trans (List.filter_congr fun r hr => ?_)⟩
    rw [decide_eq_decide]
    constructor
    · intro ⟨hin', hname', _⟩
      exact ⟨hin', hname'⟩
    · intro ⟨hin', hname'⟩
      exact ⟨hin', hname', (h r hr ⟨i, hi, hin'⟩).2⟩
  · intro i hi name s hs r hr
    obtain ⟨d, hd, hname⟩ := hkey i hi
    have hsum := hsums i hi name
    rw [hs, hname, groupRows_eq range today hperiods hi table hd] at hsum
    split at hsum
    · rw [Option.map_some, Option.some.injEq] at hsum
      rw [hsum, List.mem_filter, decide_eq_true_eq] at hr
      exact ⟨hr.1, hr.2.1, hr.2.2.1⟩
    · cases hsum

end

/-- Whatever order the database answers in: the report has exactly the periods up to the current one
and adds every row of them up in its own period, exactly if each such row has a known category and,
by weeks, a date whose calendar year is the year of its ISO week. -/
theorem energy_conserved_iff (range : EnergyRange) (today : SqlDate) (periods : ℕ)
    (hperiods : periods ≤ 365) (table : List HourlyRow) (fetched : List EnergyGroup)
    (hfetched : fetched.Perm (energyGroups range today.date periods table)) :
    (∃ report, apiEnergy range today.date periods fetched = some report ∧
        Consecutive range today.date periods report.keys ∧
        Conserves range today.date periods table report) ↔
      ∀ row ∈ table, (∃ i < periods, InPeriod range today.date i row.hour.date) →
        row.name ∈ knownCategories ∧
          (range = .weekly → row.hour.date.isoYear = row.hour.date.year) := by
  constructor
  · rintro ⟨report, hreport, -, hconserves⟩ row hrow ⟨i, hi, hin⟩
    exact counted_of_conserves hperiods hfetched hreport hconserves hrow hi hin
  · intro h
    obtain ⟨report, hreport, hconsecutive⟩ := report_consecutive hperiods hfetched
    exact ⟨report, hreport, hconsecutive, conserves_of_counted hperiods hfetched hreport h⟩

/-! ## Around New Year -/

theorem january2_valid : Date.Valid 2025 1 2 := by decide

theorem january2_supported : 1000 ≤ (Date.of january2_valid).year ∧ (Date.of january2_valid).year ≤ 9999 := by decide

/-- Thursday, 2 January 2025. -/
def january2 : SqlDate where
  date := .of january2_valid
  supported := january2_supported

/-- One kWh from the panels at noon of the day. -/
def noonRow (d : Date) : HourlyRow := ⟨⟨d, 43200⟩, "PV power", some 1000, none⟩

theorem december30_valid : Date.Valid 2024 12 30 := by decide

/-- Monday, 30 December 2024, is in the first week of 2025. -/
def december30 : Date := .of december30_valid

theorem january_week_conserved :
    ∃ report, apiEnergy .weekly january2.date 1
        (energyGroups .weekly january2.date 1 [noonRow january2.date]) = some report ∧
      Consecutive .weekly january2.date 1 report.keys ∧
      Conserves .weekly january2.date 1 [noonRow january2.date] report := by
  refine (energy_conserved_iff .weekly january2 1 (by decide) [noonRow january2.date] _
    (List.Perm.refl _)).mpr fun row hrow _ => ?_
  rw [List.mem_singleton.mp hrow]
  exact ⟨by decide, fun _ => by decide +kernel⟩

/-- The Monday's energy is missing from the current week: it is grouped as week 53 of 2024. -/
theorem monday_energy_lost :
    ¬ ∃ report, apiEnergy .weekly january2.date 1
        (energyGroups .weekly january2.date 1 [noonRow december30]) = some report ∧
      Consecutive .weekly january2.date 1 report.keys ∧
      Conserves .weekly january2.date 1 [noonRow december30] report := by
  rintro ⟨report, hreport, -, hconserves⟩
  have hin : InPeriod .weekly january2.date 0 (noonRow december30).hour.date := by decide +kernel
  have hiso := (counted_of_conserves (by decide) (List.Perm.refl _) hreport hconserves
    List.mem_cons_self Nat.one_pos hin).2 rfl
  exact absurd hiso (by decide +kernel)

end LuxMon
