import LuxMon.Dongle.Transaction

/-!
# Automations and their conditions

The stored automations, as `json.loads` and `from_dict` read them, and the
conditions that gate them.  A stored value keeps the type the user gave it; the
`from_dict` methods raise where Python would.  Conditions look at a snapshot of
the sensors and, through the effect `nowInTz`, at the clock.
-/

namespace LuxMon

open Python Effects

/-! ## Setting names -/

/-- `SETTING_NAME_TO_REGISTER`; `none` is a key that is not mapped yet. -/
def settingNameToRegister : List (String × Option String) := [
  ("absorption_charge_voltage", some "lead_acid_charge_voltage"),
  ("float_charge_voltage", some "floating_voltage"),
  ("equalization_voltage", some "equalization_voltage"),
  ("grid_charge", none),
  ("grid_charge_according_to", none),
  ("grid_charge_current", some "ac_charge_battery_current"),
  ("grid_charge_slot_1_start", some "ac_charge_period_1_start"),
  ("grid_charge_slot_1_end", some "ac_charge_period_1_end"),
  ("grid_charge_slot_2_start", some "ac_charge_period_2_start"),
  ("grid_charge_slot_2_end", some "ac_charge_period_2_end"),
  ("grid_charge_slot_3_start", some "ac_charge_period_3_start"),
  ("grid_charge_slot_3_end", some "ac_charge_period_3_end"),
  ("grid_charge_start_capacity", some "ac_charge_start_battery_soc"),
  ("grid_charge_start_voltage", some "ac_charge_start_battery_voltage"),
  ("grid_charge_stop_capacity", some "ac_charge_end_battery_soc"),
  ("grid_charge_stop_voltage", some "ac_charge_end_battery_voltage"),
  ("grid_first_slot_1_start", some "ac_first_period_1_start"),
  ("grid_first_slot_1_end", some "ac_first_period_1_end"),
  ("grid_first_slot_2_start", some "ac_first_period_2_start"),
  ("grid_first_slot_2_end", some "ac_first_period_2_end"),
  ("grid_first_slot_3_start", some "ac_first_period_3_start"),
  ("grid_first_slot_3_end", some "ac_first_period_3_end"),
  ("max_charge_current", some "ac_charge_battery_current"),
  ("max_discharge_current", some "lead_acid_discharge_rate"),
  ("force_off_grid", none),
  ("on-grid_mode", none),
  ("ac_couple", none),
  ("combine_pv/ac_supply", none),
  ("export_to_grid", none),
  ("export_power_rate", some "feed_in_grid_power_percent"),
  ("discharge_according_to", none),
  ("stop_discharge_voltage", some "lead_acid_discharge_cut_voltage"),
  ("stop_discharge_capacity", some "discharge_cutoff_soc_eod"),
  ("shutdown_battery_voltage", some "battery_low_to_utility_voltage"),
  ("shutdown_battery_capacity", some "battery_low_to_utility_soc"),
  ("warning_start_voltage", some "battery_warning_voltage"),
  ("warning_start_capacity", some "battery_warning_soc"),
  ("generator_charge_according_to", none),
  ("generator_charge_current", some "forced_charge_power"),
  ("generator_charge_start_voltage", none),
  ("generator_charge_start_capacity", none),
  ("generator_charge_stop_voltage", none),
  ("generator_charge_stop_capacity", none),
  ("generator_power", some "max_generator_input_power"),
  ("smart_load", none),
  ("smart_load_start_pv_power", none),
  ("smart_load_start_capacity", none),
  ("smart_load_start_voltage", none),
  ("smart_load_stop_capacity", none),
  ("smart_load_stop_voltage", none),
  ("soft_start_slope", some "soft_start_slope"),
  ("active_power_percent", some "active_power_percent"),
  ("reactive_power_percent", some "reactive_power_percent"),
  ("power_factor_command", some "power_factor_command"),
  ("charge_power_percent", some "charge_power_percent"),
  ("discharge_power_percent", some "discharge_power_percent"),
  ("ac_charge_power_percent", some "ac_charge_power_percent")]

/-- `SETTING_NAME_TO_REGISTER.get(name)`; a list or dict cannot be a key. -/
def settingRegister : Json → Except PyErr (Option String)
  | .str s => .ok (settingNameToRegister.lookup s).join
  | .arr _ => .error .typeError
  | .obj _ => .error .typeError
  | _ => .ok none

/-- `ALL_CONDITION_SENSOR`; `none` is a kind without a live sensor. -/
def allConditionSensor : List (String × Option String) := [
  ("time_of_day", none),
  ("day_of_week", none),
  ("month_of_year", none),
  ("battery_voltage", some "battery_voltage"),
  ("battery_soc", some "soc"),
  ("battery_current", some "battery_current"),
  ("grid_voltage", some "grid_voltage"),
  ("grid_frequency", some "grid_frequency"),
  ("pv_energy_progress", none),
  ("pv_energy_remaining_today", none),
  ("load_power", some "eps_power"),
  ("inverter_temp", some "temp_inverter"),
  ("battery_temp", some "temp_battery"),
  ("pv_power", some "pv1_power"),
  ("grid_power", some "grid_import_power")]

/-- `ALL_CONDITION_SENSOR.get(kind)`. -/
def conditionSensor : Json → Except PyErr (Option String)
  | .str s => .ok (allConditionSensor.lookup s).join
  | .arr _ => .error .typeError
  | .obj _ => .error .typeError
  | _ => .ok none

/-! ## Stored automations -/

/-- `_to_float`: no number counts as absent; another exception than `TypeError` and
`ValueError` escapes. -/
def toFloatOpt (value : Json) : Except PyErr (Option PyFloat) :=
  if value.isNone || value.isStr "" then .ok none
  else
    match value.toFloat with
    | .ok x => .ok (some x)
    | .error .typeError => .ok none
    | .error (.valueError _) => .ok none
    | .error e => .error e

structure Condition where
  kind : Json
  min : Option PyFloat := none
  max : Option PyFloat := none
  value : Json := .null

def Condition.fromDict (data : Json) : Except PyErr Condition := do
  let kind ← data.get "kind" (.str "time_of_day")
  let min ← toFloatOpt (← data.get "min" .null)
  let max ← toFloatOpt (← data.get "max" .null)
  let value ← data.get "value" .null
  return { kind := kind, min := min, max := max, value := value }

/-- An inner range: a gate and the value to write. -/
structure Range where
  condition : Condition
  actionValue : Option PyFloat := none

def Range.fromDict (data : Json) : Except PyErr Range := do
  let condition ← Condition.fromDict (← data.get "condition" (.obj []))
  let actionValue ← toFloatOpt (← data.get "action_value" .null)
  return { condition := condition, actionValue := actionValue }

/-- An outer block: a gate and its ranges. -/
structure Group where
  condition : Condition
  ranges : List Range := []

def Group.fromDict (data : Json) : Except PyErr Group := do
  let condition ← Condition.fromDict (← data.get "condition" (.obj []))
  let ranges ← (← (← data.get "ranges" (.arr [])).items).mapM Range.fromDict
  return { condition := condition, ranges := ranges }

structure Automation where
  id : String
  name : Json
  type : Json
  enabled : Bool := true
  disabledUntil : PyFloat := .fin 0
  setting : Json := .null
  groupKind : Json := .null
  rangeKind : Json := .null
  groups : List Group := []
  conditions : List Condition := []
  actionValue : Option PyFloat := none
  restoreValue : Option PyFloat := none
  points : List Json := []
  threshold : Option PyFloat := none
  notifyMessage : Json := .str ""

def Automation.fromDict (data : Json) : Except PyErr Automation := do
  let id ← data.get "id" (.str "")
  let name ← data.get "name" (.str "")
  let type ← data.get "type" (.str "rule_table")
  let enabled ← data.get "enabled" (.bool true)
  let disabledUntil ← ((← data.get "disabled_until" (.float (.fin 0))).orElse (.float (.fin 0))).toFloat
  let setting ← data.get "setting" .null
  let groupKind ← data.get "group_kind" .null
  let rangeKind ← data.get "range_kind" .null
  let groups ← (← (← data.get "groups" (.arr [])).items).mapM Group.fromDict
  let conditions ← (← (← data.get "conditions" (.arr [])).items).mapM Condition.fromDict
  let actionValue ← toFloatOpt (← data.get "action_value" .null)
  let restoreValue ← toFloatOpt (← data.get "restore_value" .null)
  let points ← (← data.get "points" (.arr [])).items
  let threshold ← toFloatOpt (← data.get "threshold" .null)
  let notifyMessage ← data.get "notify_message" (.str "")
  return { id := id.toStr, name := name, type := type, enabled := enabled.truthy,
           disabledUntil := disabledUntil, setting := setting, groupKind := groupKind,
           rangeKind := rangeKind, groups := groups, conditions := conditions, actionValue := actionValue,
           restoreValue := restoreValue, points := points, threshold := threshold,
           notifyMessage := notifyMessage }

/-! ## Conditions -/

/-- Sensor values by name. -/
abbrev Snapshot := String → Option Json

/-- Split at the first occurrence of a character. -/
def splitAt1 (c : Char) (cs : List Char) : Option (List Char × List Char) :=
  match cs.span (· != c) with
  | (a, _ :: b) => some (a, b)
  | (_, []) => none

/-- `_parse_hhmm`; anything unreadable is `None`. -/
def parseHhmm (value : Json) : Option ℤ :=
  match splitAt1 ':' (strip value.toStr.toList) with
  | none => none
  | some (h, m) =>
    match intOfString (String.ofList h), intOfString (String.ofList m) with
    | .ok h, .ok m => some (h * 60 + m)
    | _, _ => none

def LocalTime.minutes (now : LocalTime) : ℤ := now.hour * 60 + now.minute

/-- The comparison in `_time_matches` for `time_of_day`. -/
def timeOfDayMatches (value : Json) (now : LocalTime) : Bool :=
  let txt := if value.truthy then value.toStr else ""
  match splitAt1 '-' txt.toList with
  | none => false
  | some (start, stop) =>
    match parseHhmm (.str (String.ofList start)), parseHhmm (.str (String.ofList stop)) with
    | some startMins, some endMins =>
      if startMins ≤ endMins then startMins ≤ now.minutes && now.minutes ≤ endMins
      else startMins ≤ now.minutes || now.minutes ≤ endMins
    | _, _ => false

/-- `_time_matches` at the time `now`. -/
def timeMatches (value kind : Json) (now : LocalTime) : Bool :=
  if kind.isStr "time_of_day" then timeOfDayMatches value now
  else if kind.isStr "day_of_week" then now.weekday == value.toStr
  else if kind.isStr "month_of_year" then now.month == value.toStr
  else false

/-- `_sensor_value`: the conversion of a bare value may fail quietly, that of a
`{"value": …}` dict raises. -/
def sensorValue (snapshot : Snapshot) (sensor : String) : Except PyErr (Option PyFloat) :=
  match snapshot sensor with
  | none => .ok none
  | some (.obj fields) => do
    let value ← (Json.obj fields).get "value" (.int 0)
    return some (← value.toFloat)
  | some value =>
    match value.toFloat with
    | .ok x => .ok (some x)
    | .error _ => .ok none

/-- The range check of a sensor condition. -/
def inRange (condition : Condition) (value : PyFloat) : Bool :=
  !(condition.min.any fun m => value.lt m) && !(condition.max.any fun m => m.lt value)

/-- `_condition_matches`. -/
def conditionMatches (condition : Condition) (snapshot : Snapshot) (tz : String) : Py Bool := do
  if condition.kind.isStr "time_of_day" || condition.kind.isStr "day_of_week" ||
      condition.kind.isStr "month_of_year" then
    let now : LocalTime ← Prog.perform (Op.nowInTz tz)
    return timeMatches condition.value condition.kind now
  else
    match ← Prog.ofExcept (conditionSensor condition.kind) with
    | none => return false
    | some sensor =>
      match ← Prog.ofExcept (sensorValue snapshot sensor) with
      | none => return false
      | some value => return inRange condition value

/-- `_all_conditions_match`, left to right up to the first that fails. -/
def allConditionsMatch (snapshot : Snapshot) (tz : String) : List Condition → Py Bool
  | [] => return true
  | c :: cs => do
    if ← conditionMatches c snapshot tz then allConditionsMatch snapshot tz cs else return false

/-- The first of the ranges that matches. -/
def findRange (snapshot : Snapshot) (tz : String) : List Range → Py (Option Range)
  | [] => return none
  | r :: rs => do
    if ← conditionMatches r.condition snapshot tz then return some r else findRange snapshot tz rs

/-- `_find_matching_range`; only the range is used. -/
def findMatchingRange (snapshot : Snapshot) (tz : String) : List Group → Py (Option Range)
  | [] => return none
  | g :: gs => do
    if ← conditionMatches g.condition snapshot tz then
      match ← findRange snapshot tz g.ranges with
      | some r => return some r
      | none => findMatchingRange snapshot tz gs
    else findMatchingRange snapshot tz gs

/-! ## What conditions ask for -/

section
variable {snapshot : Snapshot} {tz : String}

/-- Conditions only look at the clock. -/
theorem conditionMatches_asks (c : Condition) :
    (conditionMatches c snapshot tz).Asks fun op => op = .nowInTz tz := by
  unfold conditionMatches
  split
  · exact ⟨rfl, fun _ => trivial⟩
  · refine Prog.asks_bind (Prog.asks_ofExcept _) fun sensor => ?_
    split
    · trivial
    · refine Prog.asks_bind (Prog.asks_ofExcept _) fun value => ?_
      split <;> trivial

theorem allConditionsMatch_asks (cs : List Condition) :
    (allConditionsMatch snapshot tz cs).Asks fun op => op = .nowInTz tz := by
  induction cs with
  | nil => trivial
  | cons c cs ih =>
    refine Prog.asks_bind (conditionMatches_asks c) fun b => ?_
    split
    · exact ih
    · trivial

theorem findRange_asks (rs : List Range) :
    (findRange snapshot tz rs).Asks fun op => op = .nowInTz tz := by
  induction rs with
  | nil => trivial
  | cons r rs ih =>
    refine Prog.asks_bind (conditionMatches_asks r.condition) fun b => ?_
    split
    · trivial
    · exact ih

theorem findMatchingRange_asks (gs : List Group) :
    (findMatchingRange snapshot tz gs).Asks fun op => op = .nowInTz tz := by
  induction gs with
  | nil => trivial
  | cons g gs ih =>
    refine Prog.asks_bind (conditionMatches_asks g.condition) fun b => ?_
    split
    · refine Prog.asks_bind (findRange_asks g.ranges) fun r => ?_
      split
      · trivial
      · exact ih
    · exact ih

end

end LuxMon
