import LuxMon.Dongle.Inverter
import LuxMon.Protocol.Convert

/-!
# Quick charge

`QuickChargeManager.start`, `stop` and `tick` as effect programs.  A result dict
with `"ok": False` is `.error` of its `"error"` text, one with `"ok": True` is
`.ok` of a report.
-/

namespace LuxMon

open Python Effects

def qcStateKey : String := "quick_charge_state"
def qcMinutesKey : String := "quick_charge_minutes"

def qcEnableName : String := "function_enable_5"
def qcDurationName : String := "quick_charge_duration"

/-- `HOLDING_BY_NAME[QC_ENABLE_NAME]`. -/
def qcEnableReg : Nat := 233
/-- `HOLDING_BY_NAME[QC_DURATION_NAME]`. -/
def qcDurationReg : Nat := 234

example : holdingByName qcEnableName = some qcEnableReg ∧ holdingByName qcDurationName = some qcDurationReg := by
  decide +kernel

def qcMinMinutes : ℤ := 1
def qcMaxMinutes : ℤ := 1440

structure QuickChargeState where
  active : Bool := false
  minutes : ℤ := 0
  deadlineTs : PyFloat := .fin 0
  startedAt : String := ""

namespace QuickChargeState

def toDict (s : QuickChargeState) : Json :=
  .obj [("active", .bool s.active), ("minutes", .int s.minutes),
    ("deadline_ts", .float s.deadlineTs), ("started_at", .str s.startedAt)]

def fromDict (d : Json) : Except PyErr QuickChargeState := do
  let active ← d.get "active" (.bool false)
  let minutes ← (← d.get "minutes" (.int 0)).toInt
  let deadlineTs ← (← d.get "deadline_ts" (.float (.fin 0))).toFloat
  let startedAt ← d.get "started_at" (.str "")
  return { active := active.truthy, minutes := minutes, deadlineTs := deadlineTs,
           startedAt := startedAt.toStr }

theorem fromDict_toDict (s : QuickChargeState) : fromDict s.toDict = .ok s := by
  cases s; rfl

end QuickChargeState

/-! ## Settings and log -/

/-- `QuickChargeManager._get_setting`. -/
def getSetting (name : String) : Py (Option String) := do
  let answer : Except PyErr (Option String) ← Prog.perform (Op.getSetting name)
  Prog.ofExcept answer

/-- What `_load_state` makes of the row: the default for no row, for a text that
is no JSON, and where `from_dict` raises `TypeError` or `ValueError`. -/
def decodeState : Option (Option Json) → Except PyErr QuickChargeState
  | none => .ok {}
  | some none => .ok {}
  | some (some j) =>
    match QuickChargeState.fromDict j with
    | .error .typeError => .ok {}
    | .error (.valueError _) => .ok {}
    | r => r

/-- A saved state is loaded as it was saved. -/
@[simp] theorem decodeState_saved (s : QuickChargeState) :
    decodeState (some (some s.toDict)) = .ok s := by
  simp only [decodeState, QuickChargeState.fromDict_toDict]

def loadState : Py QuickChargeState := do
  let answer : Except PyErr (Option (Option Json)) ← Prog.perform (Op.getDocument qcStateKey)
  Prog.ofExcept (answer >>= decodeState)

def saveState (s : QuickChargeState) : Py Unit := do
  let answer : Except PyErr Unit ← Prog.perform (Op.setDocument qcStateKey s.toDict)
  Prog.ofExcept answer

/-- `QuickChargeManager._log`; a failing insert raises. -/
def logQc (registerName : String) (raw : Option ℤ) (scaled : Option ℤ) (success : Bool)
    (message : String) : Py Unit := do
  let answer : Except PyErr Unit ← Prog.perform (Op.insertLog
    { ruleId := "quick_charge", ruleName := .str "Quick Charge", registerName := .str registerName,
      raw := raw, scaled := scaled.map fun n => .fin n, dryRun := false, success := success,
      message := message })
  Prog.ofExcept answer

/-! ## The enable bit -/

/-- `cur | 1` or `cur & ~1`. -/
def withEnableBit (cur : Nat) (enable : Bool) : Nat :=
  if enable then cur ||| 1 else (cur >>> 1) <<< 1

/-- `_set_enable_bit`: read, write and read back register 233. -/
def setEnableBit (d : Dongle) (enable : Bool) : Py (Except String (String × Nat)) := do
  match ← readHoldingRegister d qcEnableReg with
  | .error msg => return .error s!"Failed to read enable register: {msg}"
  | .ok (cur, _) =>
    let new := withEnableBit cur enable
    match ← writeHoldingRegister d qcEnableReg new with
    | .error msg => return .error msg
    | .ok _ =>
      let verified ← readBack d qcEnableReg new 4
      if verified then
        let verb := if enable then "set" else "cleared"
        return .ok (s!"bit 0 {verb} (was {cur}, now {new})", new)
      else
        return .error
          "Enable register write not confirmed on inverter (echoed but read-back mismatch)"

/-! ## Start, stop and tick -/

structure StartReport where
  dryRun : Bool
  minutes : ℤ
  durationRaw : ℤ
  deadlineTs : Option PyFloat

structure StopReport where
  dryRun : Bool
  stopped : Bool

/-- `int(row or "60")`. -/
def minutesOfSetting (row : Option String) : Except PyErr ℤ :=
  let text := row.getD ""
  intOfString (if text = "" then "60" else text)

/-- `int(minutes) if minutes is not None else int(self._get_setting(QC_MINUTES_KEY) or "60")`. -/
def requestedMinutes (minutes : Option ℤ) : Py ℤ :=
  match minutes with
  | some m => pure m
  | none => do
    let row ← getSetting qcMinutesKey
    Prog.ofExcept (minutesOfSetting row)

def clampMinutes (minutes : ℤ) : ℤ := max qcMinMinutes (min qcMaxMinutes minutes)

/-- The end of `start`: enable bit, then the persisted state. -/
def startEnable (d : Dongle) (minutes durRaw : ℤ) : Py (Except String StartReport) := do
  match ← setEnableBit d true with
  | .error msg =>
    logQc qcEnableName none (some 1) false msg
    return .error s!"Failed to enable quick charge: {msg}"
  | .ok (_, newRaw) =>
    logQc qcEnableName (some newRaw) (some 1) true "Quick charge enabled (bit 0 set)"
    let now : ℚ ← Prog.perform Op.time
    let deadline : PyFloat := .fin (now + minutes * 60)
    let startedAt : String ← Prog.perform Op.utcNow
    saveState { active := true, minutes := minutes, deadlineTs := deadline, startedAt := startedAt }
    return .ok { dryRun := false, minutes := minutes, durationRaw := durRaw,
                 deadlineTs := some deadline }

/-- `start` from the duration write on; the duration goes first, then the switch. -/
def startDuration (d : Dongle) (minutes durRaw : ℤ) : Py (Except String StartReport) := do
  match ← writeHoldingRegister d qcDurationReg durRaw with
  | .error msg =>
    logQc qcDurationName (some durRaw) (some minutes) false msg
    return .error s!"Failed to set duration: {msg}"
  | .ok _ =>
    logQc qcDurationName (some durRaw) (some minutes) true
      s!"Quick charge duration set to {minutes}min"
    startEnable d minutes durRaw

def start (d : Dongle) (minutes : Option ℤ) (dryRun : Bool) : Py (Except String StartReport) := do
  let requested ← requestedMinutes minutes
  let minutes := clampMinutes requested
  let durMeta ← Prog.ofExcept (registerInfo qcDurationReg)
  match engineeringToRaw (.fin minutes) durMeta with
  | none => return .error s!"Invalid duration {minutes}"
  | some durRaw =>
    if dryRun then
      logQc qcDurationName (some durRaw) (some minutes) true
        s!"DRY-RUN would set duration={minutes}min then enable quick charge"
      return .ok { dryRun := true, minutes := minutes, durationRaw := durRaw, deadlineTs := none }
    startDuration d minutes durRaw

/-- `stop` from the duration write on; the state is recorded as inactive last. -/
def stopDuration (d : Dongle) (state : QuickChargeState) (durRaw : ℤ) :
    Py (Except String StopReport) := do
  match ← writeHoldingRegister d qcDurationReg durRaw with
  | .error msg =>
    logQc qcDurationName (some durRaw) (some 0) false msg
    return .error s!"Failed to clear duration: {msg}"
  | .ok _ =>
    logQc qcDurationName (some durRaw) (some 0) true "Quick charge duration cleared"
    saveState { state with active := false }
    return .ok { dryRun := false, stopped := true }

/-- `stop` from the conversion of the duration 0 on. -/
def stopClear (d : Dongle) (state : QuickChargeState) : Py (Except String StopReport) := do
  let durMeta ← Prog.ofExcept (registerInfo qcDurationReg)
  -- a `None` raises in the range check of `build_write_request`
  match engineeringToRaw (.fin 0) durMeta with
  | none => .raise .typeError
  | some durRaw => stopDuration d state durRaw

def stop (d : Dongle) (dryRun : Bool) : Py (Except String StopReport) := do
  let state ← loadState
  if dryRun then
    logQc qcEnableName (some 0) (some 0) true
      "DRY-RUN would disable quick charge and clear duration"
    return .ok { dryRun := true, stopped := state.active }
  match ← setEnableBit d false with
  | .error msg =>
    logQc qcEnableName none (some 0) false msg
    return .error s!"Failed to disable quick charge: {msg}"
  | .ok (_, newRaw) =>
    logQc qcEnableName (some newRaw) (some 0) true "Quick charge disabled (bit 0 cleared)"
    stopClear d state

/-- `none` when no stop was due. -/
def tick (d : Dongle) : Py (Option (Except String StopReport)) := do
  let state ← loadState
  if !state.active then return none
  let now : ℚ ← Prog.perform Op.time
  if PyFloat.lt (.fin now) state.deadlineTs then return none
  let result ← stop d false
  match result with
  | .error _ => return some result
  | .ok _ =>
    logQc qcDurationName (some 0) (some 0) true
      s!"Quick charge expired after {state.minutes}min, stopped"
    return some result

/-! ## The conversions of the duration -/

/-- The duration row has scale 1. -/
theorem registerInfo_duration : ∃ info, registerInfo qcDurationReg = .ok info ∧ info.scale = 1 :=
  ⟨⟨"quick_charge_duration", "min", 1, 0, 1440, []⟩, by decide +kernel, rfl⟩

/-- Live, `start` writes the clamped minutes. -/
theorem start_live (d : Dongle) (minutes : Option ℤ) :
    start d minutes false = requestedMinutes minutes >>= fun requested =>
      startDuration d (clampMinutes requested) (clampMinutes requested) := by
  obtain ⟨info, hinfo, hscale⟩ := registerInfo_duration
  unfold start
  simp only [hinfo, Prog.ofExcept_ok_bind, engineeringToRaw_int _ _ hscale, Bool.false_eq_true,
    if_false]

theorem stopClear_eq (d : Dongle) (state : QuickChargeState) :
    stopClear d state = stopDuration d state 0 := by
  obtain ⟨info, hinfo, hscale⟩ := registerInfo_duration
  unfold stopClear
  rw [hinfo, Prog.ofExcept_ok_bind, show (PyFloat.fin 0) = .fin ((0 : ℤ) : ℚ) by simp,
    engineeringToRaw_int _ _ hscale]

theorem clampMinutes_range (minutes : ℤ) : 1 ≤ clampMinutes minutes ∧ clampMinutes minutes ≤ 1440 := by
  unfold clampMinutes qcMinMinutes qcMaxMinutes
  omega

end LuxMon
