import LuxMon.Storage.Database
import Mathlib.Data.Int.Bitwise

/-!
# The latest snapshot

How the API shows the latest snapshot: `api_status`, `_fetch_latest_snapshot` (for
`/api/alerts/live` and the WebSocket) and the broadcaster.  Each asks for the largest
id first and for the register rows of that id in a second statement.

    what a reader shows are the rows that one SELECT found for that id     (fetchLatestSnapshot_shown)
-/

namespace LuxMon

open Python Effects

/-! ## Labels -/

/-- `_STATE_LABELS` of the API. -/
def apiStateLabels : List (ℤ × String) := [
  (0x00, "Standby"),
  (0x01, "Fault"),
  (0x02, "FW Updating"),
  (0x04, "PV On-grid"),
  (0x08, "PV Charge"),
  (0x0C, "PV Charge On-grid"),
  (0x10, "Battery On-grid"),
  (0x11, "Bypass"),
  (0x14, "PV & Battery On-grid"),
  (0x19, "PV Charge + Bypass"),
  (0x20, "AC Charge"),
  (0x28, "PV & AC Charge"),
  (0x40, "Battery Off-grid"),
  (0x80, "PV Off-grid"),
  (0x88, "PV Charge Off-grid"),
  (0xC0, "PV & Battery Off-grid")]

def FAULT_CODES : List (ℤ × String) := [
  (0, "Internal communication failure 1"),
  (1, "Model fault"),
  (8, "Parallel CAN communication failure"),
  (9, "The host is missing"),
  (10, "Inconsistent rated power"),
  (11, "Inconsistent AC or safety settings"),
  (12, "UPS short circuit"),
  (13, "UPS reverse current"),
  (14, "BUS short circuit"),
  (15, "Abnormal phase in three-phase system"),
  (16, "Relay failure"),
  (17, "Internal communication failure 2"),
  (18, "Internal communication failure 3"),
  (19, "BUS overvoltage"),
  (20, "EPS connection fault"),
  (21, "PV overvoltage"),
  (22, "Overcurrent protection"),
  (23, "Neutral fault"),
  (24, "PV short circuit"),
  (25, "Heatsink temperature out of range"),
  (26, "Internal failure"),
  (27, "Consistency failure"),
  (28, "Inconsistent generator connection"),
  (29, "Parallel sync signal loss"),
  (31, "Internal communication failure 4")]

def WARNING_CODES : List (ℤ × String) := [
  (0, "Battery communication failed"),
  (1, "AFCI communication failure"),
  (2, "Battery low temperature"),
  (3, "Meter communication failed"),
  (4, "Battery cannot be charged/discharged"),
  (5, "Automated test failed"),
  (6, "RSD active"),
  (7, "LCD communication failure"),
  (8, "Software version mismatch"),
  (9, "Fan is stuck"),
  (10, "Grid overload"),
  (11, "Parallel secondaries exceed limit"),
  (12, "Battery reverse MOS abnormal"),
  (13, "Radiator temperature out of range"),
  (14, "Multiple primary units in parallel"),
  (15, "Battery reverse"),
  (16, "No grid connection"),
  (17, "Grid voltage out of range"),
  (18, "Grid frequency out of range"),
  (20, "Insulation resistance low"),
  (21, "Leakage current too high"),
  (22, "DCI exceeded standard"),
  (23, "PV short circuit"),
  (25, "Battery overvoltage"),
  (26, "Battery undervoltage"),
  (27, "Battery open circuit"),
  (28, "EPS overload"),
  (29, "EPS voltage high"),
  (30, "Meter reversed"),
  (31, "DCV exceeded standard")]

/-- `_decode_bits`: a code of the table, or one bit each. -/
def decodeBits (value : ℤ) (table : List (ℤ × String)) : List String :=
  if value = 0 then []
  else
    match table.lookup value with
    | some text => [text]
    | none => (List.range 32).filterMap fun bit => if value.testBit bit then table.lookup (bit : ℤ) else none

/-- `_state_label` of the API. -/
def apiStateLabel (value : Json) : Except PyErr String :=
  match value.toInt with
  | .ok code => .ok ((apiStateLabels.lookup code).getD s!"Unknown ({code})")
  | .error .overflowError => .error .overflowError
  | .error _ => .ok value.toStr

/-- `_fault_label` and `_warning_label`, with their tables. -/
def codeLabel (table : List (ℤ × String)) (value : Json) : Except PyErr String :=
  match value.toInt with
  | .ok code => .ok (", ".intercalate (decodeBits code table))
  | .error .overflowError => .error .overflowError
  | .error _ => .ok ""

/-- `_fault_label`. -/
def faultLabel : Json → Except PyErr String := codeLabel FAULT_CODES

/-- `_warning_label`. -/
def warningLabel : Json → Except PyErr String := codeLabel WARNING_CODES

/-- The labels that stand beside a raw code: raw name, label name, label. -/
def registerLabels : List (String × String × (Json → Except PyErr String)) := [
  ("state", "state_label", apiStateLabel),
  ("fault_code", "fault_code_text", faultLabel),
  ("warning_code", "warning_code_text", warningLabel),
  ("internal_fault", "internal_fault_text", faultLabel),
  ("bms_fault_code", "bms_fault_code_text", faultLabel),
  ("bms_warning_code", "bms_warning_code_text", warningLabel)]

/-- `if raw_name in registers: registers[label_name] = …`. -/
def addLabel (registers : Decoded) (l : String × String × (Json → Except PyErr String)) : Except PyErr Decoded :=
  match registers.get? l.1 with
  | some info => do
    let label ← l.2.2 info.value
    return registers.set l.2.1 { value := .str label, unit := "" }
  | none => .ok registers

def addLabels (registers : Decoded) : Except PyErr Decoded := registerLabels.foldlM addLabel registers

/-! ## Registers as they are shown -/

/-- The dict over the fetched rows. -/
def rowRegisters (rows : List RegisterRow) : Decoded :=
  .ofList (rows.map fun row => (row.name, { value := .float row.value, unit := row.unit }))

/-- One turn of the loop over the temperatures; the values are floats of the database. -/
def showFahrenheit (registers : Decoded) (key : String) : Decoded :=
  match registers.get? key with
  | some { value := .float c, .. } => registers.set key { value := .float (toFahrenheit c), unit := "°F" }
  | _ => registers

/-- `_convert_temperatures` of the API, with the row of `temperature_unit`. -/
def apiConvertTemperatures (row : Option String) (registers : Decoded) : Decoded :=
  if row.getD "celsius" = "fahrenheit" then TEMP_KEYS.foldl showFahrenheit registers else registers

/-- What the API answers for a snapshot. -/
structure LiveSnapshot where
  snapshotId : Nat
  timestamp : Nat
  registers : Decoded

/-! ## Readers -/

/-- `_get_conn`. -/
def getConn : Sql Unit := do
  let r : Except PyErr Unit ← Prog.perform TableOp.getConn
  Prog.ofExcept r

/-- `SELECT … ORDER BY id DESC LIMIT 1`. -/
def selectLatest : Sql (Option SnapshotRow) := do
  let r : Except PyErr (Option SnapshotRow) ← Prog.perform TableOp.selectLatest
  Prog.ofExcept r

/-- `SELECT … WHERE snapshot_id = …`. -/
def selectRegisters (id : Nat) (names : Option (List String)) : Sql (List RegisterRow) := do
  let r : Except PyErr (List RegisterRow) ← Prog.perform (TableOp.selectRegisters id names)
  Prog.ofExcept r

/-- `SELECT value FROM lux_settings WHERE name = …`. -/
def selectSetting (name : String) : Sql (Option String) := do
  let r : Except PyErr (Option String) ← Prog.perform (TableOp.selectSetting name)
  Prog.ofExcept r

/-- `api_status`. -/
def apiStatus : Sql LiveSnapshot := do
  getConn
  match ← selectLatest with
  | none => Prog.raise (.httpException 404 "No snapshots found")
  | some snap =>
    let rows ← selectRegisters snap.id none
    let registers ← Prog.ofExcept (addLabels (rowRegisters rows))
    return { snapshotId := snap.id, timestamp := snap.ts, registers := registers }

/-- What `_fetch_latest_snapshot` makes of the newest header. -/
def fetchSnapshot (snap : SnapshotRow) : Sql LiveSnapshot := do
  let rows ← selectRegisters snap.id none
  let unit ← selectSetting "temperature_unit"
  let registers ← Prog.ofExcept (addLabels (apiConvertTemperatures unit (rowRegisters rows)))
  return { snapshotId := snap.id, timestamp := snap.ts, registers := registers }

/-- `_fetch_latest_snapshot`. -/
def fetchLatestSnapshot : Sql (Option LiveSnapshot) := do
  getConn
  Prog.tryCatch (do
      match ← selectLatest with
      | none => return none
      | some snap => return some (← fetchSnapshot snap))
    fun _ => return none

/-- One round of `_ws_broadcaster_task`: the id it remembers, and the snapshot it sends. -/
def broadcastRound (lastId : Option Nat) : Sql (Option Nat × Option LiveSnapshot) := do
  let clients : Bool ← Prog.perform TableOp.activeClients
  if !clients then return (none, none)
  match ← fetchLatestSnapshot.tryCatch fun _ => return none with
  | none => return (lastId, none)
  | some snap =>
    if lastId = some snap.snapshotId then return (lastId, none)
    else return (some snap.snapshotId, some snap)

/-- Some rounds of the broadcaster: the snapshots it has marked as sent. -/
def broadcaster : Nat → Option Nat → Sql (List LiveSnapshot)
  | 0, _ => return []
  | rounds + 1, lastId => do
    let turn ← broadcastRound lastId
    let sent ← broadcaster rounds turn.1
    return turn.2.toList ++ sent

/-! ## What is shown -/

/-- Everything a reader asks for. -/
def TableOp.reading : TableOp → Bool
  | .getConn => true
  | .selectLatest => true
  | .selectRegisters _ _ => true
  | .selectSetting _ => true
  | .activeClients => true
  | _ => false

/-- The snapshot shows these rows, in some unit of temperature. -/
def LiveSnapshot.ShowsRows (snap : LiveSnapshot) (rows : List RegisterRow) : Prop :=
  ∃ unit, addLabels (apiConvertTemperatures unit (rowRegisters rows)) = .ok snap.registers

/-- A SELECT of the run found the rows that the snapshot shows. -/
def ShownFrom (tr : List TableEvent) (snap : LiveSnapshot) : Prop :=
  ∃ tr₁ rows tr₂, tr = tr₁ ++ ⟨.selectRegisters snap.snapshotId none, .ok rows⟩ :: tr₂ ∧ snap.ShowsRows rows

theorem selectRegisters_run {id : Nat} {names : Option (List String)} {tr : List TableEvent}
    {rows : List RegisterRow} (h : (selectRegisters id names).Run tr (.ok rows)) :
    tr = [⟨.selectRegisters id names, .ok rows⟩] := by
  obtain ⟨(r : Except PyErr (List RegisterRow)), t, rfl, hrest⟩ := h
  obtain ⟨rfl, hr⟩ := (Prog.run_ofExcept r _ _).mp hrest
  rw [hr]

theorem fetchSnapshot_shown {header : SnapshotRow} {tr : List TableEvent} {snap : LiveSnapshot}
    (h : (fetchSnapshot header).Run tr (.ok snap)) : ShownFrom tr snap := by
  obtain ⟨rows, t₁, u₁, rfl, hrows, h₁⟩ := (Prog.run_bind_ok _ _ _ _).mp h
  obtain ⟨unit, t₂, u₂, rfl, -, h₂⟩ := (Prog.run_bind_ok _ _ _ _).mp h₁
  obtain ⟨registers, t₃, u₃, rfl, hlabels, h₃⟩ := (Prog.run_bind_ok _ _ _ _).mp h₂
  obtain ⟨rfl, hregisters⟩ := (Prog.run_ofExcept _ _ _).mp hlabels
  obtain ⟨rfl, hsnap⟩ := (Prog.run_pure _ _ _).mp h₃
  cases hsnap
  rw [selectRegisters_run hrows]
  exact ⟨[], rows, _, rfl, unit, hregisters.symm⟩

theorem ShownFrom.append_left {t u : List TableEvent} {snap : LiveSnapshot} (h : ShownFrom u snap) :
    ShownFrom (t ++ u) snap := by
  obtain ⟨tr₁, rows, tr₂, rfl, hrows⟩ := h
  exact ⟨t ++ tr₁, rows, tr₂, (List.append_assoc _ _ _).symm, hrows⟩

theorem ShownFrom.append_right {t u : List TableEvent} {snap : LiveSnapshot} (h : ShownFrom t snap) :
    ShownFrom (t ++ u) snap := by
  obtain ⟨tr₁, rows, tr₂, rfl, hrows⟩ := h
  exact ⟨tr₁, rows, tr₂ ++ u, by rw [List.append_assoc, List.cons_append], hrows⟩

theorem apiStatus_shown {tr : List TableEvent} {snap : LiveSnapshot} (h : apiStatus.Run tr (.ok snap)) :
    ShownFrom tr snap := by
  obtain ⟨-, t₁, u₁, rfl, -, h₁⟩ := (Prog.run_bind_ok _ _ _ _).mp h
  obtain ⟨latest, t₂, u₂, rfl, -, h₂⟩ := (Prog.run_bind_ok _ _ _ _).mp h₁
  cases latest with
  | none => cases h₂.2
  | some header =>
    obtain ⟨rows, t₃, u₃, rfl, hrows, h₃⟩ := (Prog.run_bind_ok _ _ _ _).mp h₂
    obtain ⟨registers, t₄, u₄, rfl, hlabels, h₄⟩ := (Prog.run_bind_ok _ _ _ _).mp h₃
    obtain ⟨rfl, hregisters⟩ := (Prog.run_ofExcept _ _ _).mp hlabels
    obtain ⟨rfl, hsnap⟩ := (Prog.run_pure _ _ _).mp h₄
    cases hsnap
    rw [selectRegisters_run hrows]
    exact ShownFrom.append_left (ShownFrom.append_left ⟨[], rows, _, rfl, none, hregisters.symm⟩)

theorem fetchLatestSnapshot_shown {tr : List TableEvent} {snap : LiveSnapshot}
    (h : fetchLatestSnapshot.Run tr (.ok (some snap))) : ShownFrom tr snap := by
  obtain ⟨-, t₁, u₁, rfl, -, h₁⟩ := (Prog.run_bind_ok _ _ _ _).mp h
  rcases (Prog.run_tryCatch _ _ _ _).mp h₁ with ⟨found, hfound, h₂⟩ | ⟨e, t, u, rfl, -, h₂⟩
  · cases hfound
    obtain ⟨latest, t₂, u₂, rfl, -, h₃⟩ := (Prog.run_bind_ok _ _ _ _).mp h₂
    cases latest with
    | none => cases h₃.2
    | some header =>
      obtain ⟨snap', t₃, u₃, rfl, hfetch, h₄⟩ := (Prog.run_bind_ok _ _ _ _).mp h₃
      cases h₄.2
      exact (fetchSnapshot_shown hfetch).append_right.append_left.append_left
  · cases h₂.2

theorem broadcastRound_shown {lastId : Option Nat} {tr : List TableEvent} {turn : Option Nat × Option LiveSnapshot}
    {snap : LiveSnapshot} (h : (broadcastRound lastId).Run tr (.ok turn)) (hsent : turn.2 = some snap) :
    ShownFrom tr snap := by
  obtain ⟨(clients : Bool), t₁, u₁, rfl, -, h₁⟩ := (Prog.run_bind_ok _ _ _ _).mp h
  cases clients with
  | false =>
    cases h₁.2
    cases hsent
  | true =>
    obtain ⟨found, t₂, u₂, rfl, hfound, h₂⟩ := (Prog.run_bind_ok _ _ _ _).mp h₁
    cases found with
    | none =>
      cases h₂.2
      cases hsent
    | some snap' =>
      have h₂ : (if lastId = some snap'.snapshotId then pure (lastId, none)
        else pure (some snap'.snapshotId, some snap') : Sql _).Run u₂ (.ok turn) := h₂
      split at h₂
      · cases h₂.2
        cases hsent
      · cases h₂.2
        cases hsent
        rcases (Prog.run_tryCatch _ _ _ _).mp hfound with ⟨found, hsome, hfetch⟩ | ⟨e, t, u, rfl, -, hnone⟩
        · cases hsome
          exact (fetchLatestSnapshot_shown hfetch).append_right.append_left
        · cases hnone.2

theorem broadcaster_shown {rounds : Nat} {lastId : Option Nat} {tr : List TableEvent} {sent : List LiveSnapshot}
    (h : (broadcaster rounds lastId).Run tr (.ok sent)) : ∀ snap ∈ sent, ShownFrom tr snap := by
  induction rounds generalizing lastId tr sent with
  | zero =>
    cases h.2
    simp
  | succ rounds ih =>
    obtain ⟨turn, t₁, u₁, rfl, hturn, h₁⟩ := (Prog.run_bind_ok _ _ _ _).mp h
    obtain ⟨rest, t₂, u₂, rfl, hrest, h₂⟩ := (Prog.run_bind_ok _ _ _ _).mp h₁
    cases h₂.2
    intro snap hsnap
    rcases List.mem_append.mp hsnap with hsnap | hsnap
    · exact (broadcastRound_shown hturn (Option.mem_toList.mp hsnap)).append_right
    · exact (ih hrest snap hsnap).append_right.append_left

/-! ## Readers change nothing -/

theorem fetchLatestSnapshot_reading : fetchLatestSnapshot.Asks fun op => op.reading = true := by
  refine Prog.asks_bind ⟨rfl, fun r => Prog.asks_ofExcept r⟩ fun _ => Prog.asks_tryCatch ?_ fun _ => trivial
  refine Prog.asks_bind ⟨rfl, fun r => Prog.asks_ofExcept r⟩ fun latest => ?_
  cases latest with
  | none => trivial
  | some header =>
    refine Prog.asks_bind ?_ fun _ => trivial
    refine Prog.asks_bind ⟨rfl, fun r => Prog.asks_ofExcept r⟩ fun rows => ?_
    refine Prog.asks_bind ⟨rfl, fun r => Prog.asks_ofExcept r⟩ fun unit => ?_
    exact Prog.asks_bind (Prog.asks_ofExcept _) fun _ => trivial

theorem apiStatus_reading : apiStatus.Asks fun op => op.reading = true := by
  refine Prog.asks_bind ⟨rfl, fun r => Prog.asks_ofExcept r⟩ fun _ => ?_
  refine Prog.asks_bind ⟨rfl, fun r => Prog.asks_ofExcept r⟩ fun latest => ?_
  cases latest with
  | none => trivial
  | some header =>
    refine Prog.asks_bind ⟨rfl, fun r => Prog.asks_ofExcept r⟩ fun rows => ?_
    exact Prog.asks_bind (Prog.asks_ofExcept _) fun _ => trivial

theorem broadcastRound_reading (lastId : Option Nat) : (broadcastRound lastId).Asks fun op => op.reading = true := by
  refine Prog.asks_bind ⟨rfl, fun _ => trivial⟩ fun (clients : Bool) => ?_
  cases clients with
  | false => trivial
  | true =>
    refine Prog.asks_bind (Prog.asks_tryCatch fetchLatestSnapshot_reading fun _ => trivial) fun found => ?_
    cases found with
    | none => trivial
    | some snap =>
      show Prog.Asks _ (if lastId = some snap.snapshotId then pure (lastId, none)
        else pure (some snap.snapshotId, some snap) : Sql _)
      split <;> trivial

theorem broadcaster_reading (rounds : Nat) (lastId : Option Nat) :
    (broadcaster rounds lastId).Asks fun op => op.reading = true := by
  induction rounds generalizing lastId with
  | zero => trivial
  | succ rounds ih =>
    exact Prog.asks_bind (broadcastRound_reading lastId) fun turn => Prog.asks_bind (ih turn.1) fun _ => trivial

theorem newRegisters_reading {tr : List TableEvent} (h : ∀ ev ∈ tr, ev.1.reading = true) (id : Nat) :
    tr.filterMap (newRegisters id) = [] := by
  rw [List.filterMap_eq_nil_iff]
  rintro ⟨op, r⟩ hev
  have hop := h _ hev
  cases op <;> first | rfl | cases hop

end LuxMon
