import LuxMon.Api.Snapshot

/-!
# Summary, batteries and history

The other endpoints that read the snapshot tables: `api_summary` and `api_batteries`
for the latest snapshot, `api_history` for a window.

    a window that is not downsampled has one point for each snapshot      (history_length)
-/

namespace LuxMon

open Python Effects

/-! ## Summary -/

/-- The key metrics of the summary. -/
def summaryKeys : List String := ["soc", "soh", "battery_voltage", "battery_current",
  "battery_capacity",
  "charge_power", "discharge_power",
  "charge_energy_today", "discharge_energy_today",
  "pv1_power", "pv2_power", "pv1_energy_today", "pv2_energy_today",
  "grid_import_power", "grid_export_power",
  "grid_import_today", "grid_export_today",
  "grid_voltage_r", "grid_frequency",
  "eps_power", "eps_energy_today",
  "temp_inverter", "temp_battery", "temp_radiator_1", "temp_radiator_2",
  "cell_voltage_min", "cell_voltage_max",
  "cell_temp_min", "cell_temp_max",
  "runtime", "cycle_count",
  "state", "fault_code", "warning_code",
  "bms_status_0", "bms_status_1", "bms_status_2",
  "bms_status_3", "bms_status_4", "bms_status_5",
  "bms_status_6", "bms_status_7", "bms_status_8", "bms_status_9",
  "bms_charge_voltage_ref", "bms_discharge_cut_voltage",
  "bms_max_charge_current", "bms_max_discharge_current",
  "bms_fault_code", "bms_warning_code",
  "eps_voltage_r", "eps_voltage_s", "eps_voltage_t"]

/-- The AC output voltage, from EPS phase R. -/
def addOutputVoltage (registers : Decoded) : Decoded :=
  match registers.get? "eps_voltage_r" with
  | some { value := .float x, .. } => registers.set "ac_output_voltage" { value := .float x.round1, unit := "V" }
  | _ => registers

/-- `api_summary`. -/
def apiSummary : Sql LiveSnapshot := do
  getConn
  match ← selectLatest with
  | none => Prog.raise (.httpException 404 "No snapshots found")
  | some snap =>
    let rows ← selectRegisters snap.id (some summaryKeys)
    let unit ← selectSetting "temperature_unit"
    let registers ← Prog.ofExcept (addLabels (apiConvertTemperatures unit (addOutputVoltage (rowRegisters rows))))
    return { snapshotId := snap.id, timestamp := snap.ts, registers := registers }

/-! ## Batteries -/

/-- `str.isspace` of a character below 256. -/
def isSpace (c : Char) : Bool :=
  c.isWhitespace || [0x0b, 0x0c, 0x1c, 0x1d, 0x1e, 0x1f, 0x85, 0xa0].contains c.toNat

/-- `decode_battery_serial`. -/
def decodeBatterySerial (regValues : Dict Nat Nat) (batt : Nat) : String :=
  let base := BATTERY_START + (batt - 1) * BATTERY_BLOCK_SIZE
  let chars := (List.range 14).flatMap fun i =>
    let raw := (regValues.get? (base + 19 + i)).getD 0
    [Char.ofNat (raw >>> 8 &&& 0xFF), Char.ofNat (raw &&& 0xFF)]
  let chars := (chars.reverse.dropWhile (· = Char.ofNat 0)).reverse
  String.ofList ((chars.dropWhile isSpace).reverse.dropWhile isSpace).reverse

/-- `_scale`: `round(raw * factor, 3)`. -/
def scaleRaw (raw : Option ℤ) (factor : ℚ) : Option ℚ := raw.map fun n => roundHalfEven (n * factor * 1000) / 1000

/-- `_scale_signed`. -/
def scaleSigned (raw : Option ℤ) (factor : ℚ) : Option ℚ :=
  scaleRaw (raw.map fun n => if 0x8000 ≤ n then n - 0x10000 else n) factor

/-- `_fmt_firmware`. -/
def fmtFirmware (raw : Option Nat) : Option String :=
  raw.map fun n =>
    let minor := n &&& 0xFF
    s!"{n >>> 8}." ++ (if minor < 10 then s!"0{minor}" else s!"{minor}")

structure Battery where
  index : Nat
  serial : String
  capacityAh : Option Nat
  maxChargeCurrentA : Option ℚ
  maxDischargeCurrentA : Option ℚ
  voltageV : Option ℚ
  currentA : Option ℚ
  socPct : Nat
  sohPct : Nat
  cycleCount : Option Nat
  maxCellTempC : Option ℚ
  minCellTempC : Option ℚ
  maxCellVoltageV : Option ℚ
  minCellVoltageV : Option ℚ
  firmware : Option String

/-- What the loop appends for one battery. -/
def battery (regValues : Dict Nat Nat) (batt : Nat) : Option Battery :=
  let base := BATTERY_START + (batt - 1) * BATTERY_BLOCK_SIZE
  let get (off : Nat) : Option Nat := regValues.get? (base + off)
  let word (off : Nat) : Option ℤ := (get off).map Int.ofNat
  -- a battery is present if any of its registers is not zero
  if (List.range BATTERY_BLOCK_SIZE).any fun off => (get off).getD 0 != 0 then
    some {
      index := batt
      serial := decodeBatterySerial regValues batt
      capacityAh := get 3
      maxChargeCurrentA := scaleRaw (word 5) 0.1
      maxDischargeCurrentA := scaleRaw (word 6) 0.1
      voltageV := scaleRaw (word 8) 0.01
      currentA := scaleSigned (word 9) 0.1
      socPct := (get 10).getD 0 &&& 0xFF
      sohPct := (get 10).getD 0 >>> 8 &&& 0xFF
      cycleCount := get 11
      maxCellTempC := scaleRaw (word 12) 0.1
      minCellTempC := scaleRaw (word 13) 0.1
      maxCellVoltageV := scaleRaw (word 14) 0.001
      minCellVoltageV := scaleRaw (word 15) 0.001
      firmware := fmtFirmware (get 18) }
  else none

/-- `api_batteries`: the snapshot id and the batteries. -/
def apiBatteries : Sql (Nat × List Battery) := do
  getConn
  match ← selectLatest with
  | none => Prog.raise (.httpException 404 "No snapshots found")
  | some snap => return (snap.id, (List.range BATTERY_COUNT).filterMap fun i => battery snap.rawRegisters (i + 1))

/-! ## History -/

/-- A snapshot of a window. -/
structure HistoryPoint where
  timestamp : Nat
  registers : Dict String PyFloat

/-- `xs[::step]`. -/
def everyNth {α : Type} (step : Nat) (xs : List α) : List α :=
  (xs.zipIdx.filter fun x => x.2 % step = 0).map Prod.fst

/-- Large windows are thinned out. -/
def downsample {α : Type} (maxPoints : Nat) (xs : List α) : List α :=
  if maxPoints < xs.length then everyNth ((xs.length + maxPoints - 1) / maxPoints) xs else xs

/-- The names of a `fields` parameter; an empty one asks for all. -/
def fieldNames (fields : String) : Option (List String) :=
  if fields = "" then none
  else some (((fields.toList.splitOn ',').map fun f => String.ofList (strip f)).filter (· ≠ ""))

/-- `SELECT … WHERE ts >= … ORDER BY ts`. -/
def selectSince (since : Nat) : Sql (List SnapshotRow) := do
  let r : Except PyErr (List SnapshotRow) ← Prog.perform (TableOp.selectSince since)
  Prog.ofExcept r

/-- `SELECT … WHERE snapshot_id IN (…)`. -/
def selectHistory (ids : List Nat) (names : Option (List String)) : Sql (List (Nat × RegisterRow)) := do
  let r : Except PyErr (List (Nat × RegisterRow)) ← Prog.perform (TableOp.selectHistory ids names)
  Prog.ofExcept r

/-- The point of a snapshot. -/
def historyPoint (rows : List (Nat × RegisterRow)) (snap : SnapshotRow) : HistoryPoint where
  timestamp := snap.ts
  registers := .ofList ((rows.filter (·.1 = snap.id)).map fun r => (r.2.name, r.2.value))

/-- `api_history` of the snapshots since a time. -/
def apiHistory (since : Nat) (fields : String) (maxPoints : Nat) : Sql (List HistoryPoint) := do
  getConn
  let snapshots ← selectSince since
  if snapshots.isEmpty then return []
  else
    let snapshots := downsample maxPoints snapshots
    let rows ← selectHistory (snapshots.map SnapshotRow.id) (fieldNames fields)
    return snapshots.map (historyPoint rows)

/-! ## Answers of a database at rest -/

/-- What a reader answers when nothing happens in between and everything works. -/
def Tables.ask {α : Type} (t : Tables) (settings : String → Option String) (p : Sql α) : Except PyErr α :=
  (Prog.exec (Tables.answer "" settings) t p).2.1

/-- The snapshots since a time, as the database sorts them. -/
def Tables.since (t : Tables) (since : Nat) : List SnapshotRow :=
  (t.snapshots.filter (since ≤ ·.ts)).mergeSort (·.ts ≤ ·.ts)

theorem ask_selectHistory {β : Type} (t : Tables) (ids : List Nat) {names : List String} (hnames : names ≠ [])
    (f : List (Nat × RegisterRow) → Sql β) :
    t.ask noSettings (selectHistory ids (some names) >>= f) =
      t.ask noSettings (f (t.registers.filter fun r => ids.contains r.1 && wanted (some names) r.2)) := by
  have hreply : t.reply "" noSettings (.selectHistory ids (some names)) =
      Except.ok (t.registers.filter fun r => ids.contains r.1 && wanted (some names) r.2) :=
    if_neg fun h => hnames (Option.some.inj h)
  have hask : t.ask noSettings (selectHistory ids (some names) >>= f) =
      t.ask noSettings (Prog.ofExcept (t.reply "" noSettings (.selectHistory ids (some names))) >>= f) := rfl
  rw [hask, hreply]
  rfl

/-- A window from the beginning on, asked for enough points, has one for each snapshot. -/
theorem history_length (t : Tables) {names : List String} {fields : String} {maxPoints : Nat}
    (hfields : fieldNames fields = some names) (hnames : names ≠ []) (hpoints : t.snapshots.length ≤ maxPoints) :
    ∃ points, t.ask noSettings (apiHistory 0 fields maxPoints) = .ok points ∧ points.length = t.snapshots.length := by
  have hlength : (t.since 0).length = t.snapshots.length := by
    unfold Tables.since
    rw [List.length_mergeSort, List.filter_eq_self.mpr fun x _ => decide_eq_true (Nat.zero_le x.ts)]
  have hask : t.ask noSettings (apiHistory 0 fields maxPoints) = t.ask noSettings (if (t.since 0).isEmpty then pure [] else
      selectHistory ((downsample maxPoints (t.since 0)).map SnapshotRow.id) (fieldNames fields) >>= fun rows =>
        pure ((downsample maxPoints (t.since 0)).map (historyPoint rows))) := rfl
  rw [hask]
  split
  · next hempty =>
    refine ⟨[], rfl, ?_⟩
    rw [← hlength, List.isEmpty_iff.mp hempty]
    rfl
  · rw [hfields, ask_selectHistory t _ hnames]
    refine ⟨_, rfl, ?_⟩
    unfold downsample
    rw [List.length_map, if_neg (by omega), hlength]

end LuxMon
