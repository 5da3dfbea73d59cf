import LuxMon.Automation.Evaluation
import LuxMon.Automation.Intended

/-!
# What a rule table decides

The groups of a rule table and their ranges are searched for the first pair whose two
conditions hold.  Its action value is written; with no such pair a value written before is
restored.

    a window start-end holds in its interval of minutes, past midnight too        (timeOfDayMatches_iff)
    a condition is tested as it is meant                                           (Condition.test_iff)
    the nested search finds the first of the pairs                                 (findMatchingRange_eval)
    a turn writes what the first pair says, and records the activity               (rule_table_decides)
-/

namespace LuxMon

open Python Effects Prog World

/-! ## What the conditions mean -/

/-- `x` is the first in the list that satisfies `P`. -/
def FirstIn {α : Type} (P : α → Prop) (l : List α) (x : α) : Prop :=
  ∃ pre post, l = pre ++ x :: post ∧ P x ∧ ∀ y ∈ pre, ¬ P y

/-- The value is a text `start-end`, and the time lies in this interval, both ends included.  When
the start is the later one, the interval goes past midnight. -/
def InWindow (value : Json) (now : LocalTime) : Prop :=
  value.truthy = true ∧ ∃ start stop s e, value.toStr.toList = start ++ '-' :: stop ∧ '-' ∉ start ∧
    parseHhmm (.str (String.ofList start)) = some s ∧ parseHhmm (.str (String.ofList stop)) = some e ∧
    ((s ≤ e ∧ s ≤ now.minutes ∧ now.minutes ≤ e) ∨ (e < s ∧ (s ≤ now.minutes ∨ now.minutes ≤ e)))

/-- `min <= value <= max`, where a missing bound is ignored. -/
def Condition.Between (c : Condition) (x : PyFloat) : Prop :=
  (∀ m, c.min = some m → m.le x = true) ∧ ∀ m, c.max = some m → x.le m = true

/-- The same, where NaN as a bound is ignored too, and lies between all bounds itself. -/
def Condition.Within (c : Condition) (x : PyFloat) : Prop :=
  x = .nan ∨ ((∀ m, c.min = some m → m = .nan ∨ m.le x = true) ∧
    ∀ m, c.max = some m → m = .nan ∨ x.le m = true)

/-- The condition holds, with `within` for the bounds of a sensor. -/
def Condition.HoldsBy (within : Condition → PyFloat → Prop) (snapshot : Snapshot) (now : LocalTime) (c : Condition) : Prop :=
  if c.kind.isStr "time_of_day" = true then InWindow c.value now
  else if c.kind.isStr "day_of_week" = true then now.weekday = c.value.toStr
  else if c.kind.isStr "month_of_year" = true then now.month = c.value.toStr
  else ∃ sensor x, conditionSensor c.kind = .ok (some sensor) ∧ sensorValue snapshot sensor = .ok (some x) ∧ within c x

def Condition.Holds : Snapshot → LocalTime → Condition → Prop := Condition.HoldsBy Condition.Within

/-- Every sensor of the snapshot has a number. -/
def NumericSensors (snapshot : Snapshot) : Prop :=
  ∀ sensor value, snapshot sensor = some value → ∃ x, sensorValue snapshot sensor = .ok (some x)

/-- The value can be the key of a dict. -/
def hashable : Json → Bool
  | .arr _ => false
  | .obj _ => false
  | _ => true

/-! ## What a turn is to do -/

/-- The groups with each of their ranges, in the order of the search. -/
def pairs (groups : List Group) : List (Group × Range) := groups.flatMap fun g => g.ranges.map fun r => (g, r)

namespace Automation

/-- A type that is none of the other three. -/
def isRuleTable (a : Automation) : Bool :=
  !a.type.isStr "notify" && !a.type.isStr "battery_protection" && !a.type.isStr "battery_soc"

/-- The conditions that a turn may look at. -/
def everyCondition (a : Automation) : List Condition :=
  a.conditions ++ a.groups.flatMap fun g => g.condition :: g.ranges.map Range.condition

/-- The first pair whose two conditions hold has the action value, and there is a setting. -/
def Applies (holds : Condition → Prop) (a : Automation) (value : PyFloat) : Prop :=
  a.setting.isNone = false ∧ ∃ g r, FirstIn (fun p => holds p.1.condition ∧ holds p.2.condition) (pairs a.groups) (g, r) ∧
    r.actionValue = some value

/-- The automation was active, and there are a setting and its restore value. -/
def Restores (e : Engine) (a : Automation) (value : PyFloat) : Prop :=
  a.setting.isNone = false ∧ e.lastEval a.id = true ∧ a.restoreValue = some value

end Automation

section
variable (cfg : EngineConfig) (s : Switches) (e : Engine) (a : Automation)

/-- After looking at the clock the turn calls the write routine, once.  If that returns, the activity is recorded. -/
def WritesOnce (tr : List Ev) (out : Except PyErr Engine) (value : PyFloat) (active : Bool) : Prop :=
  ∃ looked acts w, tr = looked ++ acts ∧ (∀ ev ∈ looked, ev.1 = .nowInTz cfg.timezone) ∧
    (doWrite cfg.dongle (a.job a.setting) value s.dryRun).Run acts w ∧
    out = .ok (if w.isOk then e.mark a.id active else e)

/-- The turn only looks at the clock, and the automation is inactive afterwards. -/
def WritesNothing (tr : List Ev) (out : Except PyErr Engine) : Prop :=
  (∀ ev ∈ tr, ev.1 = .nowInTz cfg.timezone) ∧ out = .ok (e.mark a.id false)

/-- The turn does what the rule table says, where `holds` says what its conditions mean. -/
structure Decides (holds : Condition → Prop) (tr : List Ev) (out : Except PyErr Engine) : Prop where
  action : ∀ value, a.Applies holds value → WritesOnce cfg s e a tr out value true
  restore : (∀ value, ¬ a.Applies holds value) → ∀ value, a.Restores e value → WritesOnce cfg s e a tr out value false
  idle : (∀ value, ¬ a.Applies holds value) → (∀ value, ¬ a.Restores e value) → WritesNothing cfg e a tr out

end

/-! ## Testing one condition -/

theorem splitAt1_eq_some {c : Char} {cs front back : List Char} :
    splitAt1 c cs = some (front, back) ↔ cs = front ++ c :: back ∧ c ∉ front := by
  unfold splitAt1
  rw [List.span_eq_takeWhile_dropWhile]
  constructor
  · intro h
    cases hdrop : cs.dropWhile (· != c) with
    | nil =>
      rw [hdrop] at h
      cases h
    | cons x rest =>
      rw [hdrop] at h
      obtain ⟨rfl, rfl⟩ := Prod.mk.inj (Option.some.inj h)
      have hx : (x != c) = false := by
        have := List.head?_dropWhile_not (· != c) cs
        rw [hdrop] at this
        simpa using this
      have hx : x = c := by simpa using hx
      constructor
      · calc cs = cs.takeWhile (· != c) ++ cs.dropWhile (· != c) := List.takeWhile_append_dropWhile.symm
          _ = cs.takeWhile (· != c) ++ c :: rest := by rw [hdrop, hx]
      · intro hmem
        have := List.all_eq_true.mp List.all_takeWhile c hmem
        simp at this
  · rintro ⟨rfl, hc⟩
    have hall : ∀ x ∈ front, (x != c) = true := fun x hx => by
      simp only [bne_iff_ne, ne_eq]
      rintro rfl
      exact hc hx
    rw [List.takeWhile_append_of_pos hall, List.dropWhile_append_of_pos hall]
    simp

/-- The two ends of a window stand around its first dash. -/
theorem inWindow_iff {value : Json} {now : LocalTime} {start stop : List Char}
    (h : splitAt1 '-' value.toStr.toList = some (start, stop)) :
    InWindow value now ↔ value.truthy = true ∧ ∃ s e, parseHhmm (.str (String.ofList start)) = some s ∧
      parseHhmm (.str (String.ofList stop)) = some e ∧
      ((s ≤ e ∧ s ≤ now.minutes ∧ now.minutes ≤ e) ∨ (e < s ∧ (s ≤ now.minutes ∨ now.minutes ≤ e))) := by
  obtain ⟨htext, hstart⟩ := splitAt1_eq_some.mp h
  constructor
  · rintro ⟨htruthy, start', stop', s, e, htext', hstart', hs, he, hin⟩
    have hsame := h.symm.trans (splitAt1_eq_some.mpr ⟨htext', hstart'⟩)
    obtain ⟨rfl, rfl⟩ := Prod.mk.inj (Option.some.inj hsame)
    exact ⟨htruthy, s, e, hs, he, hin⟩
  · rintro ⟨htruthy, s, e, hs, he, hin⟩
    exact ⟨htruthy, start, stop, s, e, htext, hstart, hs, he, hin⟩

/-- The window of a time of day. -/
theorem timeOfDayMatches_iff {value : Json} {now : LocalTime} : timeOfDayMatches value now = true ↔ InWindow value now := by
  unfold timeOfDayMatches
  cases hvalue : value.truthy with
  | false =>
    have hno : ¬ InWindow value now := fun h => by cases hvalue.symm.trans h.1
    simp [splitAt1, hno]
  | true =>
    simp only [if_true]
    cases hsplit : splitAt1 '-' value.toStr.toList with
    | none =>
      refine iff_of_false Bool.false_ne_true ?_
      rintro ⟨-, start, stop, s, e, htext, hstart, -⟩
      cases hsplit.symm.trans (splitAt1_eq_some.mpr ⟨htext, hstart⟩)
    | some ends =>
      obtain ⟨start, stop⟩ := ends
      rw [inWindow_iff hsplit]
      dsimp only
      cases hs : parseHhmm (.str (String.ofList start)) with
      | none => simp
      | some s =>
        cases he : parseHhmm (.str (String.ofList stop)) with
        | none => simp
        | some e =>
          simp only [hvalue, true_and, Option.some.injEq]
          by_cases hse : s ≤ e
          · simp [hse]
          · simp [hse, not_le.mp hse]

/-- Not below a bound: at least it, unless one of the two is NaN. -/
theorem PyFloat.lt_eq_false_iff (x m : PyFloat) : x.lt m = false ↔ x = .nan ∨ m = .nan ∨ m.le x = true := by
  cases x <;> cases m <;> simp [PyFloat.lt, PyFloat.le, le_iff_lt_or_eq]

/-- A sensor condition looks only at the bounds that are numbers. -/
theorem inRange_iff {c : Condition} {x : PyFloat} : inRange c x = true ↔ c.Within x := by
  have hbound : ∀ (bound : Option PyFloat) (p : PyFloat → Bool),
      bound.any p = false ↔ ∀ m, bound = some m → p m = false := by
    intro bound p
    cases bound <;> simp
  unfold inRange Condition.Within
  rw [Bool.and_eq_true, Bool.not_eq_true', Bool.not_eq_true', hbound, hbound]
  simp only [PyFloat.lt_eq_false_iff]
  constructor
  · rintro ⟨hmin, hmax⟩
    by_cases hx : x = .nan
    · exact Or.inl hx
    · refine Or.inr ⟨fun m hm => (hmin m hm).resolve_left hx, fun m hm => ?_⟩
      rcases hmax m hm with h | h | h
      · exact Or.inl h
      · exact absurd h hx
      · exact Or.inr h
  · rintro (hx | ⟨hmin, hmax⟩)
    · exact ⟨fun _ _ => Or.inl hx, fun _ _ => Or.inr (Or.inl hx)⟩
    · exact ⟨fun m hm => Or.inr (hmin m hm), fun m hm => (hmax m hm).imp_right Or.inr⟩

/-- What `_condition_matches` returns at the time `now`, where nothing raises. -/
def Condition.test (snapshot : Snapshot) (now : LocalTime) (c : Condition) : Bool :=
  if c.kind.isStr "time_of_day" || c.kind.isStr "day_of_week" || c.kind.isStr "month_of_year" then
    timeMatches c.value c.kind now
  else
    match conditionSensor c.kind with
    | .ok (some sensor) =>
      match sensorValue snapshot sensor with
      | .ok (some x) => inRange c x
      | _ => false
    | _ => false

section
variable {snapshot : Snapshot} {now : LocalTime} {c : Condition}

/-- A condition is tested as it is meant. -/
theorem Condition.test_iff : c.test snapshot now = true ↔ c.Holds snapshot now := by
  unfold Condition.test Condition.Holds Condition.HoldsBy timeMatches
  by_cases htime : c.kind.isStr "time_of_day" = true
  · simp [htime, timeOfDayMatches_iff]
  · by_cases hday : c.kind.isStr "day_of_week" = true
    · simp [htime, hday]
    · by_cases hmonth : c.kind.isStr "month_of_year" = true
      · simp [htime, hday, hmonth]
      · simp only [htime, hday, hmonth, Bool.or_self, Bool.false_eq_true, if_false]
        constructor
        · intro h
          split at h
          · next sensor hsensor =>
            split at h
            · next x hx => exact ⟨sensor, x, hsensor, hx, inRange_iff.mp h⟩
            · cases h
          · cases h
        · rintro ⟨sensor, x, hsensor, hx, hin⟩
          simp only [hsensor, hx]
          exact inRange_iff.mpr hin

theorem conditionSensor_ok {kind : Json} (h : hashable kind = true) : ∃ sensor, conditionSensor kind = .ok sensor := by
  cases kind <;> first | exact ⟨_, rfl⟩ | cases h

/-- The sensors are numbers or missing, so no lookup raises. -/
theorem NumericSensors.sensorValue_ok (h : NumericSensors snapshot) (sensor : String) :
    ∃ x, sensorValue snapshot sensor = .ok x := by
  cases hvalue : snapshot sensor with
  | none => exact ⟨none, by rw [sensorValue, hvalue]⟩
  | some value =>
    obtain ⟨x, hx⟩ := h sensor value hvalue
    exact ⟨some x, hx⟩

end

/-! ## The search -/

section
variable {snapshot : Snapshot} {clock : Clock} {tz : String}

theorem conditionMatches_eval (hnumeric : NumericSensors snapshot) {c : Condition} (hkind : hashable c.kind = true) :
    (conditionMatches c snapshot tz).eval clock.answer = .ok (c.test snapshot (clock.inTz tz)) := by
  unfold conditionMatches Condition.test
  split
  · rfl
  · obtain ⟨sensor, hsensor⟩ := conditionSensor_ok hkind
    rw [hsensor, ofExcept_ok_bind]
    cases sensor with
    | none => rfl
    | some sensor =>
      obtain ⟨x, hx⟩ := hnumeric.sensorValue_ok sensor
      simp only [hx, ofExcept_ok_bind]
      cases x <;> rfl

theorem allConditionsMatch_eval (hnumeric : NumericSensors snapshot) {cs : List Condition}
    (hkinds : ∀ c ∈ cs, hashable c.kind = true) :
    (allConditionsMatch snapshot tz cs).eval clock.answer = .ok (cs.all fun c => c.test snapshot (clock.inTz tz)) := by
  induction cs with
  | nil => rfl
  | cons c cs ih =>
    have hrest := ih fun c' hc => hkinds c' (List.mem_cons_of_mem c hc)
    rw [allConditionsMatch, eval_bind, conditionMatches_eval hnumeric (hkinds c List.mem_cons_self), List.all_cons]
    cases c.test snapshot (clock.inTz tz) with
    | true => exact hrest
    | false => rfl

theorem findRange_eval (hnumeric : NumericSensors snapshot) {rs : List Range}
    (hkinds : ∀ r ∈ rs, hashable r.condition.kind = true) :
    (findRange snapshot tz rs).eval clock.answer = .ok (rs.find? fun r => r.condition.test snapshot (clock.inTz tz)) := by
  induction rs with
  | nil => rfl
  | cons r rs ih =>
    have hrest := ih fun r' hr => hkinds r' (List.mem_cons_of_mem r hr)
    rw [findRange, eval_bind, conditionMatches_eval hnumeric (hkinds r List.mem_cons_self), List.find?_cons]
    cases r.condition.test snapshot (clock.inTz tz) with
    | true => rfl
    | false => exact hrest

/-- The nested loops find the range of the first pair. -/
theorem findMatchingRange_eval (hnumeric : NumericSensors snapshot) {gs : List Group}
    (hkinds : ∀ g ∈ gs, hashable g.condition.kind = true ∧ ∀ r ∈ g.ranges, hashable r.condition.kind = true) :
    (findMatchingRange snapshot tz gs).eval clock.answer = .ok (((pairs gs).find? fun p =>
      p.1.condition.test snapshot (clock.inTz tz) && p.2.condition.test snapshot (clock.inTz tz)).map Prod.snd) := by
  induction gs with
  | nil => rfl
  | cons g gs ih =>
    have hrest := ih fun g' hg => hkinds g' (List.mem_cons_of_mem g hg)
    obtain ⟨hgroup, hranges⟩ := hkinds g List.mem_cons_self
    have hpairs : pairs (g :: gs) = (g.ranges.map fun r => (g, r)) ++ pairs gs := List.flatMap_cons
    rw [findMatchingRange, eval_bind, conditionMatches_eval hnumeric hgroup, hpairs, List.find?_append, List.find?_map]
    cases hg : g.condition.test snapshot (clock.inTz tz) with
    | false =>
      have hnone : (g.ranges.find? ((fun p : Group × Range => p.1.condition.test snapshot (clock.inTz tz) &&
          p.2.condition.test snapshot (clock.inTz tz)) ∘ fun r => (g, r))) = none :=
        List.find?_eq_none.mpr fun r _ => by simp [hg]
      rw [hnone]
      exact hrest
    | true =>
      have hsame : ((fun p : Group × Range => p.1.condition.test snapshot (clock.inTz tz) &&
          p.2.condition.test snapshot (clock.inTz tz)) ∘ fun r => (g, r)) =
            fun r => r.condition.test snapshot (clock.inTz tz) := by
        funext r
        simp [hg]
      rw [hsame]
      show (findRange snapshot tz g.ranges >>= _).eval clock.answer = _
      rw [eval_bind, findRange_eval hnumeric hranges]
      cases g.ranges.find? fun r => r.condition.test snapshot (clock.inTz tz) with
      | some r => rfl
      | none => exact hrest

end

/-! ## The turn -/

/-- The value that the first pair writes. -/
def Automation.tableValue (test : Condition → Bool) (a : Automation) : Option PyFloat :=
  if a.setting.isNone then none
  else (((pairs a.groups).find? fun p => test p.1.condition && test p.2.condition).map Prod.snd).bind Range.actionValue

/-- The value that is restored otherwise. -/
def Automation.tableRestore (active : Bool) (a : Automation) : Option PyFloat :=
  if active && !a.setting.isNone then a.restoreValue else none

/-- An action comes first, then a restore. -/
def Decision.ofTable (value restore : Option PyFloat) : Decision :=
  match value, restore with
  | some value, _ => .action value
  | none, some value => .restore value
  | none, none => .clear

def Automation.tableDecision (test : Condition → Bool) (active : Bool) (a : Automation) : Decision :=
  .ofTable (a.tableValue test) (a.tableRestore active)

theorem firstIn_iff {α : Type} {test : α → Bool} {P : α → Prop} (htest : ∀ x, test x = true ↔ P x) {l : List α}
    {x : α} : l.find? test = some x ↔ FirstIn P l x := by
  rw [List.find?_eq_some_iff_append]
  constructor
  · rintro ⟨hx, pre, post, hl, hpre⟩
    refine ⟨pre, post, hl, (htest x).mp hx, fun y hy hP => ?_⟩
    have hno := hpre y hy
    rw [(htest y).mpr hP] at hno
    cases hno
  · rintro ⟨pre, post, hl, hx, hpre⟩
    refine ⟨(htest x).mpr hx, pre, post, hl, fun y hy => ?_⟩
    cases hy' : test y with
    | false => rfl
    | true => exact absurd ((htest y).mp hy') (hpre y hy)

section
variable {a : Automation} {value : PyFloat}

theorem Automation.applies_iff {test : Condition → Bool} {holds : Condition → Prop} (htest : ∀ c, test c = true ↔ holds c) :
    a.Applies holds value ↔ a.tableValue test = some value := by
  have hpair : ∀ p : Group × Range, (test p.1.condition && test p.2.condition) = true ↔
      holds p.1.condition ∧ holds p.2.condition := fun p => by rw [Bool.and_eq_true, htest, htest]
  unfold Automation.Applies Automation.tableValue
  by_cases hsetting : a.setting.isNone = true
  · simp [hsetting]
  · have hgiven : a.setting.isNone = false := by simpa using hsetting
    rw [if_neg hsetting, Option.bind_eq_some_iff]
    constructor
    · rintro ⟨-, g, r, hfirst, hvalue⟩
      exact ⟨r, by rw [(firstIn_iff hpair).mpr hfirst]; rfl, hvalue⟩
    · rintro ⟨r, hfound, hvalue⟩
      obtain ⟨p, hp, rfl⟩ := Option.map_eq_some_iff.mp hfound
      exact ⟨hgiven, p.1, p.2, (firstIn_iff hpair).mp hp, hvalue⟩

theorem isRuleTable_types (h : a.isRuleTable = true) :
    a.type.isStr "notify" = false ∧ a.type.isStr "battery_protection" = false ∧ a.type.isStr "battery_soc" = false := by
  unfold Automation.isRuleTable at h
  simp only [Bool.and_eq_true, Bool.not_eq_true'] at h
  exact ⟨h.1.1, h.1.2, h.2⟩

theorem Automation.restores_iff {e : Engine} : a.Restores e value ↔ a.tableRestore (e.lastEval a.id) = some value := by
  unfold Automation.Restores Automation.tableRestore
  cases a.setting.isNone <;> cases e.lastEval a.id <;> simp

end

section
variable {cfg : EngineConfig} {snapshot : Snapshot} {s : Switches} {e : Engine} {a : Automation} {clock : Clock}
  {tr : List Ev} {out : Except PyErr Engine}

/-- What a rule table decides about the range that was found. -/
theorem decideRuleTable_eval {tz : String} {active : Bool} {found : Option Range}
    (hfound : (findMatchingRange snapshot tz a.groups).eval clock.answer = .ok found) :
    (decideRuleTable tz snapshot active a).eval clock.answer =
      .ok (.ofTable (if a.setting.isNone then none else found.bind Range.actionValue) (a.tableRestore active)) := by
  unfold decideRuleTable Automation.tableRestore
  rw [eval_bind, hfound]
  show Prog.eval clock.answer _ = _
  generalize (if a.setting.isNone then none else found.bind Range.actionValue) = value
  generalize (if active && !a.setting.isNone then a.restoreValue else none) = restore
  cases value with
  | some value => rfl
  | none => cases restore <;> rfl

/-- Looking comes to the decision of the table. -/
theorem look_eval (htable : a.isRuleTable = true) (hnumeric : NumericSensors snapshot)
    (hkinds : ∀ c ∈ a.everyCondition, hashable c.kind = true) {tz : String} {active : Bool} :
    (a.look tz snapshot active).eval clock.answer =
      .ok (a.tableDecision (fun c => c.test snapshot (clock.inTz tz)) active) := by
  have hprotection : ¬ a.type.isStr "battery_protection" = true := by simp [(isRuleTable_types htable).2.1]
  have hgroups : ∀ g ∈ a.groups, hashable g.condition.kind = true ∧ ∀ r ∈ g.ranges, hashable r.condition.kind = true := by
    intro g hg
    have hin : ∀ c ∈ g.condition :: g.ranges.map Range.condition, hashable c.kind = true := fun c hc =>
      hkinds c (List.mem_append_right _ (List.mem_flatMap.mpr ⟨g, hg, hc⟩))
    exact ⟨hin _ List.mem_cons_self, fun r hr => hin _ (List.mem_cons_of_mem _ (List.mem_map_of_mem hr))⟩
  unfold Automation.look
  rw [eval_bind, allConditionsMatch_eval hnumeric fun c hc => hkinds c (List.mem_append_left _ hc)]
  show (if _ then _ else decideRuleTable tz snapshot active a).eval clock.answer = _
  rw [if_neg hprotection]
  exact decideRuleTable_eval (findMatchingRange_eval hnumeric hgroups)

/-- A turn that takes place is an evaluation; when that raises, the engine stays as it is. -/
theorem turn_evaluates (hon : s.enabled = true) (hone : a.enabled = true) (htime : a.timedOut s.now = false)
    (h : (turn cfg snapshot s e a).Run tr out) :
    ∃ o, (evaluateOne cfg snapshot s.dryRun e a).Run tr o ∧ out = .ok (o.toOption.getD e) := by
  obtain ⟨hoff, -⟩ | ⟨-, hturn⟩ := turn_cases cfg snapshot s e a
  · exact absurd ⟨hon, hone, htime⟩ hoff
  rw [hturn] at h
  rcases (run_tryCatch _ _ _ _).mp h with ⟨e', rfl, he⟩ | ⟨x, t, u, rfl, hx, rfl, rfl⟩
  · exact ⟨_, he, rfl⟩
  · exact ⟨_, by rw [List.append_nil]; exact hx, rfl⟩

/-- What follows a decision that is not `keep` or `activate`. -/
theorem tableTurn_run (hon : s.enabled = true) (hone : a.enabled = true) (htime : a.timedOut s.now = false)
    (htable : a.isRuleTable = true) (hnumeric : NumericSensors snapshot)
    (hkinds : ∀ c ∈ a.everyCondition, hashable c.kind = true) (hclock : ∀ ev ∈ tr, clock.Shows ev)
    (h : (turn cfg snapshot s e a).Run tr out) :
    ∃ looked acts o, tr = looked ++ acts ∧ (∀ ev ∈ looked, ev.1 = .nowInTz cfg.timezone) ∧
      ((a.tableDecision (fun c => c.test snapshot (clock.inTz cfg.timezone)) (e.lastEval a.id)).perform cfg.dongle
        (a.job a.setting) s.dryRun (e.lastEval a.id)).Run acts o ∧
      out = .ok ((o.map fun active => e.mark a.id active).toOption.getD e) := by
  obtain ⟨o, hrun, rfl⟩ := turn_evaluates hon hone htime h
  obtain ⟨hnotify, hprotection, hsoc⟩ := isRuleTable_types htable
  have hwrites : a.writes = true := by simp [Automation.writes, hnotify, hsoc]
  have hjob : a.writeJob = a.job a.setting := by simp [Automation.writeJob, hprotection]
  rw [evaluateOne_eq hwrites, hjob] at hrun
  -- the clock shows one time, so the look has one result
  have hlook : ∀ t o', (∀ ev ∈ t, ev ∈ tr) → (a.look cfg.timezone snapshot (e.lastEval a.id)).Run t o' →
      (∀ ev ∈ t, ev.1 = .nowInTz cfg.timezone) ∧
      o' = .ok (a.tableDecision (fun c => c.test snapshot (clock.inTz cfg.timezone)) (e.lastEval a.id)) := by
    intro t o' ht hlook
    have hasks := look_asks.of_run hlook
    refine ⟨hasks, ?_⟩
    rw [← look_eval htable hnumeric hkinds]
    refine (hlook.eval_eq fun ev hev => ?_).symm
    have hshows := hclock ev (ht ev hev)
    have hop := hasks ev hev
    obtain ⟨op, r⟩ := ev
    obtain rfl : op = .nowInTz cfg.timezone := hop
    exact hshows
  rcases (run_bind _ _ _ _).mp hrun with ⟨dec, looked, rest, rfl, hlooked, hrest⟩ | ⟨x, -, hlooked⟩
  · obtain ⟨hasks, hdec⟩ := hlook looked _ (fun ev hev => List.mem_append_left _ hev) hlooked
    obtain rfl := Except.ok.inj hdec
    rcases (run_bind _ _ _ _).mp hrest with ⟨active, acts, u, rfl, hperform, rfl, rfl⟩ | ⟨x, rfl, hperform⟩
    · exact ⟨looked, acts, .ok active, by rw [List.append_nil], hasks, hperform, rfl⟩
    · exact ⟨looked, rest, .error x, rfl, hasks, hperform, rfl⟩
  · cases (hlook tr _ (fun ev hev => hev) hlooked).2

/-- The write of a decision, and what is recorded when it returns. -/
theorem writesOnce_of_perform {value : PyFloat} {active : Bool} {looked acts : List Ev} {o : Except PyErr Bool}
    (hlooked : ∀ ev ∈ looked, ev.1 = .nowInTz cfg.timezone)
    (h : (doWrite cfg.dongle (a.job a.setting) value s.dryRun >>= fun _ => pure active : Py Bool).Run acts o) :
    WritesOnce cfg s e a (looked ++ acts) (.ok ((o.map fun active => e.mark a.id active).toOption.getD e)) value active := by
  obtain ⟨w, hwrite, rfl⟩ := perform_run h
  refine ⟨looked, acts, w, rfl, hlooked, hwrite, ?_⟩
  cases w <;> rfl

/-- A rule table writes the action value of the first pair whose two conditions hold, and becomes
active; without one it becomes inactive, and its restore value is written if it was active.  An
exception of the write leaves the activity as it was. -/
theorem rule_table_decides (cfg : EngineConfig) (snapshot : Snapshot) (s : Switches) (e : Engine) (a : Automation)
    (clock : Clock) (tr : List Ev) (out : Except PyErr Engine) (htable : a.isRuleTable = true)
    (hon : s.enabled = true) (hone : a.enabled = true) (htime : a.timedOut s.now = false)
    (hnumeric : NumericSensors snapshot) (hkinds : ∀ c ∈ a.everyCondition, hashable c.kind = true)
    (hrun : (turn cfg snapshot s e a).Run tr out) (hclock : ∀ ev ∈ tr, clock.Shows ev) :
    Decides cfg s e a (fun c => c.Holds snapshot (clock.inTz cfg.timezone)) tr out := by
  obtain ⟨looked, acts, o, rfl, hlooked, hperform, rfl⟩ := tableTurn_run hon hone htime htable hnumeric hkinds hclock hrun
  have htest : ∀ c : Condition, c.test snapshot (clock.inTz cfg.timezone) = true ↔ c.Holds snapshot (clock.inTz cfg.timezone) :=
    fun c => Condition.test_iff
  have hnone : (∀ value, ¬ a.Applies (fun c => c.Holds snapshot (clock.inTz cfg.timezone)) value) →
      a.tableValue (fun c => c.test snapshot (clock.inTz cfg.timezone)) = none := fun hno =>
    Option.eq_none_iff_forall_ne_some.mpr fun value hvalue => hno value ((Automation.applies_iff htest).mpr hvalue)
  unfold Automation.tableDecision at hperform
  refine ⟨fun value happlies => ?_, fun hno value hrestores => ?_, fun hno hrestores => ?_⟩
  · rw [(Automation.applies_iff htest).mp happlies] at hperform
    exact writesOnce_of_perform hlooked hperform
  · rw [hnone hno, Automation.restores_iff.mp hrestores] at hperform
    exact writesOnce_of_perform hlooked hperform
  · have hclear : a.tableRestore (e.lastEval a.id) = none :=
      Option.eq_none_iff_forall_ne_some.mpr fun value hvalue => hrestores value (Automation.restores_iff.mpr hvalue)
    rw [hnone hno, hclear] at hperform
    obtain ⟨rfl, rfl⟩ := hperform
    exact ⟨by rw [List.append_nil]; exact hlooked, rfl⟩

end

/-! ## A table with a window past midnight, and one with a bound that is no number -/

/-- The run of a program in which the clock stands still and everything else fails. -/
def Clock.run {α : Type} (c : Clock) (p : Py α) : List Ev × Except PyErr α × Unit :=
  exec (fun _ op => (c.answer op, ())) () p

theorem Clock.run_shows {α : Type} (c : Clock) (p : Py α) :
    p.Run (c.run p).1 (c.run p).2.1 ∧ ∀ ev ∈ (c.run p).1, c.Shows ev := by
  obtain ⟨hrun, hsteps⟩ := exec_spec (fun _ ev _ => c.Shows ev) (fun (_ : Unit) op => (c.answer op, ()))
    (fun _ op => by cases op <;> first | exact rfl | trivial) p ()
  exact ⟨hrun, hsteps.events fun _ _ _ h => h⟩

/-- Half an hour before midnight. -/
def lateClock : Clock := { time := 0, inTz := fun _ => { hour := 23, minute := 30, weekday := "Mon", month := "Jan" } }

/-- At night, and with a battery of at least `low`, the grid charge current is set to 50 A. -/
def nightTable (low : PyFloat) : Automation :=
  { id := "night", name := .str "Night", type := .str "rule_table", setting := .str "grid_charge_current",
    groups := [{
      condition := { kind := .str "time_of_day", value := .str "22:00-06:00" },
      ranges := [{ condition := { kind := .str "battery_soc", min := some low }, actionValue := some (.fin 50) }] }] }

/-- Half a charge, in a snapshot with nothing else. -/
def halfCharged : Snapshot := fun sensor => if sensor = "soc" then some (.float (.fin 50)) else none

def liveSwitches : Switches := { enabled := true, dryRun := false, now := 0 }

theorem halfCharged_numeric : NumericSensors halfCharged := by
  intro sensor value hvalue
  unfold halfCharged at hvalue
  split at hvalue
  · next hsoc =>
    subst hsoc
    exact ⟨.fin 50, rfl⟩
  · cases hvalue

theorem nightTable_hashable (low : PyFloat) : ∀ c ∈ (nightTable low).everyCondition, hashable c.kind = true := by
  intro c hc
  simp only [Automation.everyCondition, nightTable, List.nil_append, List.flatMap_cons, List.flatMap_nil, List.append_nil,
    List.map_cons, List.map_nil, List.mem_cons, List.not_mem_nil, or_false] at hc
  rcases hc with rfl | rfl <;> rfl

/-- The pair of the table is the first one, if it holds. -/
theorem nightTable_applies {low : PyFloat} {holds : Condition → Prop}
    (htime : holds { kind := .str "time_of_day", value := .str "22:00-06:00" })
    (hsoc : holds { kind := .str "battery_soc", min := some low }) : (nightTable low).Applies holds (.fin 50) :=
  ⟨rfl, _, _, ⟨[], [], rfl, ⟨htime, hsoc⟩, fun _ hy => (List.not_mem_nil hy).elim⟩, rfl⟩

/-- At half past eleven the current of 50 A is written. -/
theorem rule_table_at_night : ∃ tr out, (turn guardConfig halfCharged liveSwitches {} (nightTable (.fin 20))).Run tr out ∧
    WritesOnce guardConfig liveSwitches {} (nightTable (.fin 20)) tr out (.fin 50) true := by
  obtain ⟨hrun, hclock⟩ := lateClock.run_shows (turn guardConfig halfCharged liveSwitches {} (nightTable (.fin 20)))
  refine ⟨_, _, hrun, (rule_table_decides guardConfig halfCharged liveSwitches {} (nightTable (.fin 20)) lateClock _ _ rfl rfl rfl
    (by decide +kernel) halfCharged_numeric (nightTable_hashable _) hrun hclock).action (.fin 50) (nightTable_applies ?_ ?_)⟩
  · exact ⟨rfl, "22:00".toList, "06:00".toList, 1320, 360, by decide +kernel, by decide, by decide +kernel, by decide +kernel,
      Or.inr ⟨by decide, Or.inl (by decide)⟩⟩
  · refine ⟨"soc", .fin 50, rfl, rfl, Or.inr ⟨fun m hm => Or.inr ?_, fun m hm => ?_⟩⟩
    · obtain rfl := Option.some.inj hm
      decide +kernel
    · cases hm

/-- Every turn decides as the table says, for the automations that are admitted and with `within` for the bounds. -/
def TablesDecide (within : Condition → PyFloat → Prop) (admitted : Automation → Prop) : Prop :=
  ∀ (cfg : EngineConfig) (snapshot : Snapshot) (s : Switches) (e : Engine) (a : Automation) (clock : Clock) (tr : List Ev)
    (out : Except PyErr Engine), a.isRuleTable = true → s.enabled = true → a.enabled = true → a.timedOut s.now = false →
    NumericSensors snapshot → admitted a → (turn cfg snapshot s e a).Run tr out → (∀ ev ∈ tr, clock.Shows ev) →
    Decides cfg s e a (fun c => c.HoldsBy within snapshot (clock.inTz cfg.timezone)) tr out

/-- A lower bound of NaN lies below no charge and above none: by the comparison no pair holds, and
yet the automation writes and becomes active. -/
theorem nan_bound_ignored :
    ¬ TablesDecide Condition.Between fun a => ∀ c ∈ a.everyCondition, hashable c.kind = true := by
  intro h
  obtain ⟨hrun, hclock⟩ := lateClock.run_shows (turn guardConfig halfCharged liveSwitches {} (nightTable .nan))
  have hdecides := h guardConfig halfCharged liveSwitches {} (nightTable .nan) lateClock _ _ rfl rfl rfl (by decide +kernel)
    halfCharged_numeric (nightTable_hashable _) hrun hclock
  have hno : ∀ value, ¬ (nightTable .nan).Applies
      (fun c => c.HoldsBy Condition.Between halfCharged (lateClock.inTz guardConfig.timezone)) value := by
    rintro value ⟨-, g, r, ⟨pre, post, hpairs, ⟨-, hrange⟩, -⟩, -⟩
    have hmem : (g, r) ∈ pairs (nightTable .nan).groups := by
      rw [hpairs]
      exact List.mem_append_right _ List.mem_cons_self
    obtain ⟨-, rfl⟩ := Prod.mk.inj (List.mem_singleton.mp hmem)
    obtain ⟨sensor, x, -, -, hmin, -⟩ := hrange
    have hle := hmin .nan rfl
    cases x <;> cases hle
  have hinactive := (hdecides.idle hno fun value hrestores => by cases hrestores.2.1).2
  have hactive : (lateClock.run (turn guardConfig halfCharged liveSwitches {} (nightTable .nan))).2.1.toOption.map
      (fun e => e.lastEval "night") = some true := by decide +kernel
  rw [hinactive] at hactive
  cases hactive

/-- A table whose only condition has a list as its kind. -/
def listKind : Automation :=
  { id := "list", name := .str "List", type := .str "rule_table", groups := [{ condition := { kind := .arr [] } }] }

/-- The lookup of the kind raises, and an automation that was active stays active. -/
theorem list_kind_kept : ¬ TablesDecide Condition.Within fun _ => True := by
  intro h
  let e : Engine := { lastEval := fun _ => true }
  obtain ⟨hrun, hclock⟩ := lateClock.run_shows (turn guardConfig halfCharged liveSwitches e listKind)
  have hdecides := h guardConfig halfCharged liveSwitches e listKind lateClock _ _ rfl rfl rfl (by decide +kernel)
    halfCharged_numeric trivial hrun hclock
  have hinactive := (hdecides.idle (fun value happlies => by cases happlies.1) fun value hrestores => by
    cases hrestores.1).2
  have hactive : (lateClock.run (turn guardConfig halfCharged liveSwitches e listKind)).2.1.toOption.map
      (fun e => e.lastEval "list") = some true := by decide +kernel
  rw [hinactive] at hactive
  cases hactive

/-- Neither a bound of NaN nor a kind that cannot be looked up fits the plain comparison. -/
theorem rule_table_exceptions :
    (¬ TablesDecide Condition.Between fun a => ∀ c ∈ a.everyCondition, hashable c.kind = true) ∧
      ¬ TablesDecide Condition.Within fun _ => True :=
  ⟨nan_bound_ignored, list_kind_kept⟩

end LuxMon
