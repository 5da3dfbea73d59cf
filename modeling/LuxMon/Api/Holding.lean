import LuxMon.Dongle.Inverter
import LuxMon.Protocol.Convert

/-!
# The holding-register endpoints

`PUT /api/holding/{name}` and `POST /api/holding/multi/{start_name}`.  An
`HTTPException` is raised with its status and detail.  The single write is retried
and read back; the block write takes the echo for success.
-/

namespace LuxMon

open Python Effects World

/-- `s or …`: an absent and an empty setting count as not set. -/
def nonEmpty (s : Option String) : Option String := s.filter (· != "")

/-- `_load_db_setting`: a failing statement counts as no row. -/
def loadDbSetting (name : String) : Py (Option String) := do
  let answer : Except PyErr (Option String) ← Prog.perform (Op.getSetting name)
  return answer.toOption.join

/-- `_load_db_setting(name) or os.getenv(env) or default`. -/
def settingOr (name env default : String) : Py String := do
  match nonEmpty (← loadDbSetting name) with
  | some value => return value
  | none =>
    let value : Option String ← Prog.perform (Op.getenv env)
    return (nonEmpty value).getD default

theorem settingOr_asks {P : Op → Prop} {name env : String} (hname : P (.getSetting name)) (henv : P (.getenv env))
    (default : String) : (settingOr name env default).Asks P := by
  unfold settingOr
  refine Prog.asks_bind (Prog.asks_bind ⟨hname, fun _ => trivial⟩ fun _ => trivial) fun row => ?_
  split
  · trivial
  · exact ⟨henv, fun _ => trivial⟩

/-- `_resolve_dongle`. -/
def resolveDongle : Py Dongle := do
  let host ← settingOr "dongle_host" "LUX_DONGLE_HOST" "192.168.1.100"
  let port ← settingOr "dongle_port" "LUX_DONGLE_PORT" "8000"
  let port ← Prog.ofExcept (intOfString port)
  let datalog ← settingOr "datalog_serial" "LUX_DATALOG_SERIAL" ""
  let inverter ← settingOr "inverter_serial" "LUX_INVERTER_SERIAL" ""
  return { host := host, port := port, datalogSerial := datalog, inverterSerial := inverter }

/-- The dongle is resolved from four settings and the environment. -/
theorem resolveDongle_asks {P : Op → Prop}
    (hnames : ∀ name ∈ ["dongle_host", "dongle_port", "datalog_serial", "inverter_serial"], P (.getSetting name))
    (henv : ∀ name, P (.getenv name)) : resolveDongle.Asks P := by
  have hsetting {name : String} (h : name ∈ ["dongle_host", "dongle_port", "datalog_serial", "inverter_serial"])
      (env default : String) : (settingOr name env default).Asks P := settingOr_asks (hnames name h) (henv env) default
  unfold resolveDongle
  refine Prog.asks_bind (hsetting (by simp) _ _) fun host => Prog.asks_bind (hsetting (by simp) _ _) fun text => ?_
  generalize intOfString text = parsed
  refine Prog.asks_bind (Prog.asks_ofExcept _) fun port => Prog.asks_bind (hsetting (by simp) _ _) fun datalog => ?_
  exact Prog.asks_bind (hsetting (by simp) _ _) fun inverter => trivial

/-- `_resolve_model` of the API: the environment comes before the database. -/
def resolveModelApi : Py String := do
  let value : Option String ← Prog.perform (Op.getenv "LUX_INVERTER_MODEL")
  match nonEmpty value with
  | some model => return model
  | none => return (nonEmpty (← loadDbSetting "inverter_model")).getD DEFAULT_MODEL

def httpError {α : Type} (status : Nat) (detail : String) : Except PyErr α :=
  .error (.httpException status detail)

/-- The dongle of a request, or 400 when a serial is missing. -/
def requireDongle : Py Dongle := do
  let dongle ← resolveDongle
  if dongle.datalogSerial = "" ∨ dongle.inverterSerial = "" then
    Prog.ofExcept (httpError 400 "datalog_serial / inverter_serial not configured")
  else return dongle

/-! ## One register -/

structure HoldingUpdate where
  value : Option PyFloat := none
  raw : Option ℤ := none

/-- The range check: `min` and `max` against the raw value. -/
def checkRaw (name : String) (info : HoldingRegister) (raw : ℤ) : Except PyErr ℤ :=
  if raw < info.min then httpError 400 s!"{name} raw {raw} below minimum {info.min}"
  else if info.max < raw then httpError 400 s!"{name} raw {raw} above maximum {info.max}"
  else .ok raw

/-- The raw value that a request asks for. -/
def requestedRaw (name : String) (info : HoldingRegister) (body : HoldingUpdate) : Except PyErr ℤ :=
  match body.raw, body.value with
  | some _, some _ => httpError 400 "Specify either `value` or `raw`, not both"
  | none, none => httpError 400 "Specify `value` or `raw`"
  | some raw, none => checkRaw name info raw
  | none, some value =>
    match engineeringToRaw value info with
    | none => httpError 400 s!"Could not convert value {value.repr} for {name}"
    | some raw => checkRaw name info raw

/-- Exactly the raw values from `min` to `max` are accepted. -/
theorem requestedRaw_raw_ok_iff (name : String) (info : HoldingRegister) (raw : ℤ) :
    (∃ r, requestedRaw name info { raw := some raw } = .ok r) ↔ info.min ≤ raw ∧ raw ≤ info.max := by
  unfold requestedRaw checkRaw httpError
  simp only
  split
  · simp; omega
  · split
    · simp; omega
    · simp; omega

/-- The write loop: up to `tries` attempts, 0.7 s apart. -/
def writeAttempts (d : Dongle) (reg : Nat) (raw : ℤ) : (tries : Nat) → (msg : String) → Py WriteResult
  | 0, msg => return .error msg
  | tries + 1, _ => do
    match ← writeHoldingRegister d reg raw with
    | .ok msg => return .ok msg
    | .error msg =>
      Prog.perform (Op.sleep 0.7)
      writeAttempts d reg raw tries msg

structure HoldingWritten where
  name : String
  address : Nat
  raw : ℤ
  message : String

/-- `api_holding_put` from the dongle on: write, read back, report. -/
def putVerified (d : Dongle) (name : String) (reg : Nat) (raw : ℤ) : Py HoldingWritten := do
  match ← writeAttempts d reg raw 4 "" with
  | .error msg => Prog.ofExcept (httpError 502 s!"Failed to write {name}: {msg}")
  | .ok msg =>
    let verified ← readBack d reg raw 4
    if verified then return { name := name, address := reg, raw := raw, message := msg }
    else Prog.ofExcept (httpError 502
      s!"Write to {name} not confirmed on inverter (echoed but read-back mismatch)")

def apiHoldingPut (name : String) (body : HoldingUpdate) : Py HoldingWritten := do
  match holdingByName name with
  | none => Prog.ofExcept (httpError 404 s!"Unknown holding register: {name}")
  | some reg =>
    let model ← resolveModelApi
    if !supports model reg then
      Prog.ofExcept (httpError 404 s!"Register {name} not supported by this inverter model")
    else
      let info ← Prog.ofExcept (registerInfo reg)
      let raw ← Prog.ofExcept (requestedRaw name info body)
      let dongle ← requireDongle
      putVerified dongle name reg raw

/-! ## A block of registers -/

/-- The validated body of a block write. -/
structure HoldingMultiUpdate where
  values : List ℤ
  nonempty : values ≠ []
  length_le : values.length ≤ 123
  range : ∀ v ∈ values, 0 ≤ v ∧ v ≤ 0xFFFF

/-- `_validate_values`. -/
def HoldingMultiUpdate.validate (values : List ℤ) : Except String HoldingMultiUpdate :=
  if h : values = [] then .error "values must not be empty"
  else if hl : 123 < values.length then .error "too many registers for one multi-write (max 123)"
  else match hf : values.find? fun v => !decide (0 ≤ v ∧ v ≤ 0xFFFF) with
    | some v => .error s!"register value out of range: {v}"
    | none => .ok
      { values := values
        nonempty := h
        length_le := by omega
        range := by simpa using hf }

/-- The checks of `api_holding_multi_write` for one register of the block. -/
def checkBlockRegister (model : String) (reg : Nat) (raw : ℤ) : Except PyErr Unit :=
  match holdingRegister reg with
  | none => httpError 404 s!"Unknown holding register address: {reg}"
  | some info =>
    if !supports model reg then
      httpError 404 s!"Register address {reg} not supported by this inverter model"
    else if raw < info.min then httpError 400 s!"address {reg} raw {raw} below minimum {info.min}"
    else if info.max < raw then httpError 400 s!"address {reg} raw {raw} above maximum {info.max}"
    else .ok ()

def checkBlock (model : String) : (reg : Nat) → List ℤ → Except PyErr Unit
  | _, [] => .ok ()
  | reg, raw :: raws => do
    checkBlockRegister model reg raw
    checkBlock model (reg + 1) raws

structure HoldingMultiWritten where
  startName : String
  startAddress : Nat
  count : Nat
  message : String

def apiHoldingMultiWrite (startName : String) (body : HoldingMultiUpdate) :
    Py HoldingMultiWritten := do
  match holdingByName startName with
  | none => Prog.ofExcept (httpError 404 s!"Unknown holding register: {startName}")
  | some startReg =>
    let model ← resolveModelApi
    if !supports model startReg then
      Prog.ofExcept (httpError 404 s!"Register {startName} not supported by this inverter model")
    else
      Prog.ofExcept (checkBlock model startReg body.values)
      let dongle ← requireDongle
      match ← writeHoldingRegisters dongle startReg body.values with
      | .error msg =>
        Prog.ofExcept (httpError 502 s!"Failed to write block starting at {startName}: {msg}")
      | .ok msg =>
        return { startName := startName, startAddress := startReg, count := body.values.length,
                 message := msg }

end LuxMon
