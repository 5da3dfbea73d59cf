import LuxMon.Automation.Rules
import LuxMon.Protocol.Convert

/-!
# The automation engine

`AutomationEngine.evaluate_and_apply` as an effect program.  The two dictionaries
of the engine are passed through; no statement after an assignment to them can
raise, so an exception leaves the engine as it was before the automation.
-/

namespace LuxMon

open Python Effects

def SETTING_AUTOMATIONS : String := "automations_v2"
def SETTING_ENABLED : String := "automation_enabled"
def SETTING_DRY_RUN : String := "automation_global_dry_run"
def SETTING_MODEL : String := "inverter_model"

/-- `_last_eval` and `_last_notify`, with the defaults of their `get`. -/
structure Engine where
  lastEval : String → Bool := fun _ => false
  lastNotify : String → ℚ := fun _ => 0

/-- `self._last_eval[id] = active`. -/
def Engine.mark (e : Engine) (id : String) (active : Bool) : Engine :=
  { e with lastEval := Function.update e.lastEval id active }

/-! ## Settings and log -/

/-- What `_get_setting` makes of the row: a failing statement counts as no row. -/
def settingOrDefault (answer : Except PyErr (Option String)) (default : String) : String :=
  match answer with
  | .ok (some value) => value
  | _ => default

/-- `AutomationEngine._get_setting`. -/
def engineSetting (name default : String) : Py String := do
  let answer : Except PyErr (Option String) ← Prog.perform (Op.getSetting name)
  return settingOrDefault answer default

/-- `str(value).lower() in ("true", "1", "yes")`. -/
def isTrue (value : String) : Bool :=
  ["true", "1", "yes"].contains (String.ofList (value.toList.map Char.toLower))

/-- What `load` makes of the row; anything unreadable is an empty list. -/
def loadedAutomations (answer : Except PyErr (Option (Option Json))) : List Automation :=
  match answer with
  | .ok (some (some j)) =>
    match j.items >>= fun items => items.mapM Automation.fromDict with
    | .ok automations => automations
    | .error _ => []
  | _ => []

def load : Py (List Automation) := do
  let answer : Except PyErr (Option (Option Json)) ← Prog.perform (Op.getDocument SETTING_AUTOMATIONS)
  return loadedAutomations answer

/-- `AutomationEngine._log`; a failing insert is swallowed. -/
def logAutomation (id : String) (name registerName : Json) (raw : Option ℤ) (scaled : Option PyFloat)
    (dryRun success : Bool) (message : String) : Py Unit := do
  let _answer : Except PyErr Unit ← Prog.perform (Op.insertLog
    { ruleId := id, ruleName := name, registerName := registerName, raw := raw, scaled := scaled,
      dryRun := dryRun, success := success, message := message })
  return ()

/-! ## Writing a setting -/

/-- Who writes which setting. -/
structure WriteJob where
  id : String
  name : Json
  setting : Json

/-- The live part of `_do_write`: read, compare, write, read back. -/
def writeVerified (d : Dongle) (job : WriteJob) (regName : String) (reg : Nat) (raw : ℤ)
    (clamped : PyFloat) : Py Unit := do
  let current ← readHoldingRegister d reg
  if current.confirms raw then return ()
  match ← writeHoldingRegister d reg raw with
  | .error msg => logAutomation job.id job.name job.setting (some raw) (some clamped) false false msg
  | .ok msg =>
    let verified ← readBack d reg raw 4
    if verified then
      logAutomation job.id job.name job.setting (some raw) (some clamped) false true msg
    else
      logAutomation job.id job.name job.setting (some raw) (some clamped) false false
        s!"Write to {regName} not confirmed on inverter (echoed but read-back mismatch)"

/-- `_do_write` once the register and its row are known. -/
def writeRegister (d : Dongle) (job : WriteJob) (regName : String) (reg : Nat) (info : HoldingRegister)
    (value : PyFloat) (dryRun : Bool) : Py Unit := do
  let clamped := clampToRegister value info
  match engineeringToRaw clamped info with
  | none =>
    logAutomation job.id job.name job.setting none (some value) dryRun false
      s!"Failed to convert {clamped.repr} to raw value for {regName}"
  | some raw =>
    if dryRun then
      logAutomation job.id job.name job.setting (some raw) (some clamped) true true
        s!"DRY-RUN would write {job.setting.toStr}={clamped.repr} ({regName}@{reg}={raw})"
    else writeVerified d job regName reg raw clamped

/-- `_do_write` once the model is known. -/
def writeSupported (d : Dongle) (job : WriteJob) (regName : String) (reg : Nat) (value : PyFloat)
    (dryRun : Bool) (model : String) : Py Unit :=
  if supports model reg then do
    let info ← Prog.ofExcept (registerInfo reg)
    writeRegister d job regName reg info value dryRun
  else
    logAutomation job.id job.name job.setting none (some value) dryRun false
      s!"Register '{regName}' not supported by this inverter model"

/-- `_do_write`. -/
def doWrite (d : Dongle) (job : WriteJob) (value : PyFloat) (dryRun : Bool) : Py Unit := do
  match ← Prog.ofExcept (settingRegister job.setting) with
  | none =>
    logAutomation job.id job.name job.setting none (some value) dryRun false
      s!"Setting '{job.setting.toStr}' is not mapped to a holding register yet"
  | some regName =>
    match holdingByName regName with
    | none =>
      logAutomation job.id job.name job.setting none (some value) dryRun false
        s!"Register '{regName}' not found in HOLDING_BY_NAME"
    | some reg =>
      let model ← engineSetting SETTING_MODEL DEFAULT_MODEL
      writeSupported d job regName reg value dryRun model

/-! ## The four types -/

/-- What `_do_write` is called with for an automation's own setting. -/
def Automation.job (a : Automation) (setting : Json) : WriteJob :=
  { id := a.id, name := a.name, setting := setting }

/-- The rule table: the first matching range with an action value is written; with no
match a value written before is restored. -/
def evaluateRuleTable (d : Dongle) (tz : String) (snapshot : Snapshot) (dryRun : Bool) (e : Engine)
    (a : Automation) : Py Engine := do
  let found ← findMatchingRange snapshot tz a.groups
  match if a.setting.isNone then none else found.bind Range.actionValue with
  | some value =>
    doWrite d (a.job a.setting) value dryRun
    return e.mark a.id true
  | none =>
    match if e.lastEval a.id && !a.setting.isNone then a.restoreValue else none with
    | some value =>
      doWrite d (a.job a.setting) value dryRun
      return e.mark a.id false
    | none => return e.mark a.id false

def protectionSetting : Json := .str "shutdown_battery_voltage"

/-- `_evaluate_battery_protection`. -/
def evaluateBatteryProtection (d : Dongle) (snapshot : Snapshot) (dryRun : Bool) (e : Engine)
    (a : Automation) : Py Engine := do
  match ← Prog.ofExcept (sensorValue snapshot "soc"), a.threshold with
  | some soc, some threshold =>
    if soc.le threshold then
      match a.actionValue with
      | some value =>
        doWrite d (a.job protectionSetting) value dryRun
        return e.mark a.id true
      | none => return e.mark a.id true
    else
      match if e.lastEval a.id then a.restoreValue else none with
      | some value =>
        doWrite d (a.job protectionSetting) value dryRun
        return e.mark a.id false
      | none => return e.mark a.id false
  | _, _ => return e

/-- The time of a point, `None` when unreadable. -/
def pointTime (point : Json) : Except PyErr (Option ℤ) := do
  return parseHhmm (← point.get "time" (.str "00:00"))

/-- The loop over the points, each with its successor. -/
def activeSource (currentMins : ℤ) : List (Json × Json) → Except PyErr Json
  | [] => .ok (.str "battery")
  | (point, next) :: rest => do
    match ← pointTime point with
    | none => activeSource currentMins rest
    | some t =>
      let nextT := (← pointTime next).getD t
      if t ≤ nextT then
        if t ≤ currentMins ∧ currentMins < nextT then point.get "source" (.str "battery")
        else activeSource currentMins rest
      else if t ≤ currentMins ∨ currentMins < nextT then point.get "source" (.str "battery")
      else activeSource currentMins rest

/-- The points by time; an unreadable time sorts as 00:00. -/
def sortPoints (points : List Json) : Except PyErr (List Json) := do
  let keyed ← points.mapM fun p => do return ((← pointTime p).getD 0, p)
  return (keyed.mergeSort fun p q => p.1 ≤ q.1).map Prod.snd

def targetSource (points : List Json) (currentMins : ℤ) : Except PyErr Json := do
  let sorted ← sortPoints points
  activeSource currentMins (sorted.zip (sorted.rotate 1))

/-- `_evaluate_battery_soc` only logs. -/
def evaluateBatterySoc (snapshot : Snapshot) (tz : String) (dryRun : Bool) (a : Automation) :
    Py Unit := do
  match ← Prog.ofExcept (sensorValue snapshot "soc") with
  | none => return ()
  | some soc =>
    let now : LocalTime ← Prog.perform (Op.nowInTz tz)
    let source ← Prog.ofExcept (targetSource a.points now.minutes)
    logAutomation a.id a.name (.str "battery_source") none none dryRun true
      s!"Battery SOC control: active interval source={source.toStr}, SOC={soc.fixed1}%"

/-- `_send_notification`: at most one in 300 s; a failure is swallowed. -/
def sendNotification (notifiers : Bool) (e : Engine) (a : Automation) : Py Engine := do
  if !notifiers then return e
  let now : ℚ ← Prog.perform Op.time
  if now - e.lastNotify a.id < 300 then return e
  let msg := a.notifyMessage.orElse (.str s!"Automation '{a.name.toStr}' condition matched")
  let sent : Except PyErr Unit ← Prog.perform (Op.notify a.name msg)
  match sent with
  | .ok () => logAutomation a.id a.name (.str "notify") none none false true msg.toStr
  | .error _ => pure ()
  return { e with lastNotify := Function.update e.lastNotify a.id now }

/-! ## The evaluation -/

/-- What the evaluations of one engine share. -/
structure EngineConfig where
  dongle : Dongle
  timezone : String
  notifiers : Bool

/-- `_evaluate_one`; a type that is none of the other three is a rule table. -/
def evaluateOne (cfg : EngineConfig) (snapshot : Snapshot) (dryRun : Bool) (e : Engine)
    (a : Automation) : Py Engine := do
  let matched ← allConditionsMatch snapshot cfg.timezone a.conditions
  if a.type.isStr "notify" then
    if matched && !e.lastEval a.id then
      let e ← sendNotification cfg.notifiers e a
      return e.mark a.id matched
    else return e.mark a.id matched
  else if a.type.isStr "battery_protection" then
    evaluateBatteryProtection cfg.dongle snapshot dryRun e a
  else if a.type.isStr "battery_soc" then
    evaluateBatterySoc snapshot cfg.timezone dryRun a
    return e
  else evaluateRuleTable cfg.dongle cfg.timezone snapshot dryRun e a

/-- What is read at the start of an evaluation. -/
structure Switches where
  enabled : Bool
  dryRun : Bool
  now : ℚ

/-- The automation is not switched off by its timer. -/
def Automation.timedOut (a : Automation) (now : ℚ) : Bool :=
  a.disabledUntil.truthy && (PyFloat.fin now).lt a.disabledUntil

/-- One turn of the loop: the gates, then the evaluation; an exception is logged. -/
def turn (cfg : EngineConfig) (snapshot : Snapshot) (s : Switches) (e : Engine) (a : Automation) :
    Py Engine :=
  if !s.enabled || !a.enabled then pure e
  else if a.timedOut s.now then pure e
  else (evaluateOne cfg snapshot s.dryRun e a).tryCatch fun _ => pure e

/-- An automation whose gates are open is evaluated, and nothing is done for any other. -/
theorem turn_cases (cfg : EngineConfig) (snapshot : Snapshot) (s : Switches) (e : Engine) (a : Automation) :
    (¬ (s.enabled = true ∧ a.enabled = true ∧ a.timedOut s.now = false) ∧ turn cfg snapshot s e a = pure e) ∨
      ((s.enabled = true ∧ a.enabled = true ∧ a.timedOut s.now = false) ∧
        turn cfg snapshot s e a = (evaluateOne cfg snapshot s.dryRun e a).tryCatch fun _ => pure e) := by
  unfold turn
  cases s.enabled <;> cases a.enabled <;> cases a.timedOut s.now <;> simp

def turns (cfg : EngineConfig) (snapshot : Snapshot) (s : Switches) (e : Engine) :
    List Automation → Py Engine
  | [] => return e
  | a :: rest => do
    let e ← turn cfg snapshot s e a
    turns cfg snapshot s e rest

/-- `evaluate_and_apply`. -/
def evaluateAndApply (cfg : EngineConfig) (snapshot : Snapshot) (e : Engine) : Py Engine := do
  let enabled ← engineSetting SETTING_ENABLED "false"
  let dryRun ← engineSetting SETTING_DRY_RUN "true"
  let automations ← load
  let now : ℚ ← Prog.perform Op.time
  turns cfg snapshot { enabled := isTrue enabled, dryRun := isTrue dryRun, now := now } e automations

end LuxMon
