import LuxMon.Python.Dict
import LuxMon.Automation.Rules

/-!
# Input registers

The register maps of the two driver families, `decode_registers`, and the clamping
of the collector.  Two registers of a map never have one name.

    the names a snapshot can have are those of the map, and soh     (mem_decodeRegisters)
    register 170 is read → the snapshot has a load_power of its own (load_power_decoded)
-/

namespace LuxMon

open Python

structure RegisterDef where
  name : String
  unit : String
  scale : ℚ := 1
  signed : Bool := false
  bitmask : Option Nat := none
  bitshift : Nat := 0
  /-- the register of the high word -/
  pairHigh : Option Nat := none

def RegisterDef.decode (r : RegisterDef) (raw : Nat) (highRaw : Nat := 0) : ℚ :=
  let val : Nat :=
    if r.pairHigh.isSome then raw + highRaw <<< 16
    else
      match r.bitmask with
      | some mask => (raw &&& mask) >>> r.bitshift
      | none => raw
  let val : ℤ := if r.signed && 0x8000 ≤ val then val - 0x10000 else val
  timesDouble val r.scale

/-! ## Register maps -/

/-- The entries written out in `INPUT_REGISTERS`. -/
def baseInputRegisters : List (Nat × RegisterDef) := [
  -- Register 0-39: Live data batch 1
  (0, { name := "state", unit := "" }),
  (1, { name := "pv1_voltage", unit := "V", scale := 0.1 }),
  (2, { name := "pv2_voltage", unit := "V", scale := 0.1 }),
  (3, { name := "pv3_voltage", unit := "V", scale := 0.1 }),
  (4, { name := "battery_voltage", unit := "V", scale := 0.1 }),
  (5, { name := "soc", unit := "%", bitmask := some 0xFF }),
  -- SOH is also in register 5, high byte
  (6, { name := "internal_fault", unit := "" }),
  (7, { name := "pv1_power", unit := "W" }),
  (8, { name := "pv2_power", unit := "W" }),
  (9, { name := "pv3_power", unit := "W" }),
  (10, { name := "charge_power", unit := "W" }),
  (11, { name := "discharge_power", unit := "W" }),
  (12, { name := "grid_voltage_r", unit := "V", scale := 0.1 }),
  (13, { name := "grid_voltage_s", unit := "V", scale := 0.1 }),
  (14, { name := "grid_voltage_t", unit := "V", scale := 0.1 }),
  (15, { name := "grid_frequency", unit := "Hz", scale := 0.01 }),
  (16, { name := "inv_power", unit := "W" }),
  (17, { name := "rec_power", unit := "W" }),
  (18, { name := "inv_current_rms", unit := "A", scale := 0.01 }),
  (19, { name := "power_factor", unit := "", scale := 0.001 }),
  (20, { name := "eps_voltage_r", unit := "V", scale := 0.1 }),
  (21, { name := "eps_voltage_s", unit := "V", scale := 0.1 }),
  (22, { name := "eps_voltage_t", unit := "V", scale := 0.1 }),
  (23, { name := "eps_frequency", unit := "Hz", scale := 0.01 }),
  (24, { name := "eps_power", unit := "W" }),
  (25, { name := "eps_apparent_power", unit := "VA" }),
  (26, { name := "grid_export_power", unit := "W" }),
  (27, { name := "grid_import_power", unit := "W" }),
  (28, { name := "pv1_energy_today", unit := "kWh", scale := 0.1 }),
  (29, { name := "pv2_energy_today", unit := "kWh", scale := 0.1 }),
  (30, { name := "pv3_energy_today", unit := "kWh", scale := 0.1 }),
  (31, { name := "inv_energy_today", unit := "kWh", scale := 0.1 }),
  (32, { name := "rec_energy_today", unit := "kWh", scale := 0.1 }),
  (33, { name := "charge_energy_today", unit := "kWh", scale := 0.1 }),
  (34, { name := "discharge_energy_today", unit := "kWh", scale := 0.1 }),
  (35, { name := "eps_energy_today", unit := "kWh", scale := 0.1 }),
  (36, { name := "grid_export_today", unit := "kWh", scale := 0.1 }),
  (37, { name := "grid_import_today", unit := "kWh", scale := 0.1 }),
  (38, { name := "bus1_voltage", unit := "V", scale := 0.1 }),
  (39, { name := "bus2_voltage", unit := "V", scale := 0.1 }),
  -- Register 40-79: All-time energy + temperatures
  (40, { name := "pv1_energy_total", unit := "kWh", scale := 0.1, pairHigh := some 41 }),
  (42, { name := "pv2_energy_total", unit := "kWh", scale := 0.1, pairHigh := some 43 }),
  (44, { name := "pv3_energy_total", unit := "kWh", scale := 0.1, pairHigh := some 45 }),
  (46, { name := "inv_energy_total", unit := "kWh", scale := 0.1, pairHigh := some 47 }),
  (48, { name := "rec_energy_total", unit := "kWh", scale := 0.1, pairHigh := some 49 }),
  (50, { name := "charge_energy_total", unit := "kWh", scale := 0.1, pairHigh := some 51 }),
  (52, { name := "discharge_energy_total", unit := "kWh", scale := 0.1, pairHigh := some 53 }),
  (54, { name := "eps_energy_total", unit := "kWh", scale := 0.1, pairHigh := some 55 }),
  (56, { name := "grid_export_total", unit := "kWh", scale := 0.1, pairHigh := some 57 }),
  (58, { name := "grid_import_total", unit := "kWh", scale := 0.1, pairHigh := some 59 }),
  (60, { name := "fault_code", unit := "", pairHigh := some 61 }),
  (62, { name := "warning_code", unit := "", pairHigh := some 63 }),
  (64, { name := "temp_inverter", unit := "°C" }),
  (65, { name := "temp_radiator_1", unit := "°C" }),
  (66, { name := "temp_radiator_2", unit := "°C" }),
  (67, { name := "temp_battery", unit := "°C" }),
  (69, { name := "runtime", unit := "s", pairHigh := some 70 }),
  (71, { name := "auto_test", unit := "" }),
  (72, { name := "auto_test_limit", unit := "" }),
  (73, { name := "auto_test_default", unit := "ms" }),
  (74, { name := "auto_test_trip", unit := "" }),
  (75, { name := "auto_test_trip_time", unit := "ms" }),
  (77, { name := "ac_input_type", unit := "" }),
  -- Register 80-119: BMS data
  (81, { name := "bms_max_charge_current", unit := "A", scale := 0.01 }),
  (82, { name := "bms_max_discharge_current", unit := "A", scale := 0.01 }),
  (83, { name := "bms_charge_voltage_ref", unit := "V", scale := 0.1 }),
  (84, { name := "bms_discharge_cut_voltage", unit := "V", scale := 0.1 }),
  (85, { name := "bms_status_0", unit := "" }),
  (86, { name := "bms_status_1", unit := "" }),
  (87, { name := "bms_status_2", unit := "" }),
  (88, { name := "bms_status_3", unit := "" }),
  (89, { name := "bms_status_4", unit := "" }),
  (90, { name := "bms_status_5", unit := "" }),
  (91, { name := "bms_status_6", unit := "" }),
  (92, { name := "bms_status_7", unit := "" }),
  (93, { name := "bms_status_8", unit := "" }),
  (94, { name := "bms_status_9", unit := "" }),
  (95, { name := "bms_status_inv", unit := "" }),
  (96, { name := "battery_count", unit := "" }),
  (97, { name := "battery_capacity", unit := "Ah" }),
  (98, { name := "battery_current", unit := "A", scale := 0.1, signed := true }),
  (99, { name := "bms_fault_code", unit := "" }),
  (100, { name := "bms_warning_code", unit := "" }),
  (101, { name := "cell_voltage_max", unit := "V", scale := 0.001 }),
  (102, { name := "cell_voltage_min", unit := "V", scale := 0.001 }),
  (103, { name := "cell_temp_max", unit := "°C", scale := 0.1, signed := true }),
  (104, { name := "cell_temp_min", unit := "°C", scale := 0.1, signed := true }),
  (105, { name := "bms_fw_update_state", unit := "" }),
  (106, { name := "cycle_count", unit := "" }),
  (107, { name := "battery_voltage_inv", unit := "V", scale := 0.1 }),
  (108, { name := "temp_t1", unit := "°C", scale := 0.1 }),
  (109, { name := "temp_t2", unit := "°C", scale := 0.1 }),
  (110, { name := "temp_t3", unit := "°C", scale := 0.1 }),
  (111, { name := "temp_t4", unit := "°C", scale := 0.1 }),
  (112, { name := "temp_t5", unit := "°C", scale := 0.1 }),
  (113, { name := "parallel_info", unit := "" }),
  -- Register 120+: Extended data
  (120, { name := "bus_p_voltage", unit := "V", scale := 0.1 }),
  (121, { name := "gen_voltage", unit := "V", scale := 0.1 }),
  (122, { name := "gen_frequency", unit := "Hz", scale := 0.01 }),
  (123, { name := "gen_power", unit := "W" }),
  (124, { name := "gen_energy_today", unit := "kWh", scale := 0.1 }),
  (125, { name := "gen_energy_total", unit := "kWh", scale := 0.1, pairHigh := some 126 }),
  (127, { name := "eps_voltage_l1n", unit := "V", scale := 0.1 }),
  (128, { name := "eps_voltage_l2n", unit := "V", scale := 0.1 }),
  (129, { name := "eps_power_l1", unit := "W" }),
  (130, { name := "eps_power_l2", unit := "W" }),
  (131, { name := "eps_apparent_l1", unit := "VA" }),
  (132, { name := "eps_apparent_l2", unit := "VA" }),
  (133, { name := "eps_energy_l1_today", unit := "kWh", scale := 0.1 }),
  (134, { name := "eps_energy_l2_today", unit := "kWh", scale := 0.1 }),
  -- Load power / reactive / serial (114, 115-118, 139)
  -- NOTE: register 114 is on-grid load power on the 12k; register 170 is the
  -- general on-grid load power. Both are documented; 170 is the canonical one.
  (114, { name := "load_power_12k", unit := "W" }),
  (115, { name := "serial_ascii_0_3", unit := "" }),
  (116, { name := "serial_ascii_4_5", unit := "" }),
  (117, { name := "serial_ascii_6_7", unit := "" }),
  (118, { name := "serial_ascii_8_9", unit := "" }),
  (139, { name := "reactive_power", unit := "Var" }),
  -- Load power / energy (170-173)
  (170, { name := "load_power", unit := "W" }),
  (171, { name := "load_energy_today", unit := "kWh", scale := 0.1 }),
  (172, { name := "load_energy_total", unit := "kWh", scale := 0.1, pairHigh := some 173 }),
  -- NTC temps / remaining charge time (210, 214-216)
  (210, { name := "remaining_charge_time", unit := "min" }),
  (214, { name := "ntc_temp_indc", unit := "°C" }),
  (215, { name := "ntc_temp_dcdcl", unit := "°C" }),
  (216, { name := "ntc_temp_dcdch", unit := "°C" })]

def BATTERY_START : Nat := 5000

def BATTERY_BLOCK_SIZE : Nat := 30

def BATTERY_COUNT : Nat := 8

/-- `defs` of one battery. -/
def batteryDefs (batt : Nat) : List (Nat × RegisterDef) := [
  (3, { name := s!"battery_{batt}_capacity", unit := "Ah" }),
  (5, { name := s!"battery_{batt}_max_charge_current", unit := "A", scale := 0.1 }),
  (6, { name := s!"battery_{batt}_max_discharge_current", unit := "A", scale := 0.1 }),
  (8, { name := s!"battery_{batt}_voltage", unit := "V", scale := 0.01 }),
  (9, { name := s!"battery_{batt}_current", unit := "A", scale := 0.1, signed := true }),
  (10, { name := s!"battery_{batt}_soc", unit := "%", bitmask := some 0xFF }),
  (11, { name := s!"battery_{batt}_cycle_count", unit := "cycles" }),
  (12, { name := s!"battery_{batt}_max_cell_temp", unit := "°C", scale := 0.1 }),
  (13, { name := s!"battery_{batt}_min_cell_temp", unit := "°C", scale := 0.1 }),
  (14, { name := s!"battery_{batt}_max_cell_voltage", unit := "V", scale := 0.001 }),
  (15, { name := s!"battery_{batt}_min_cell_voltage", unit := "V", scale := 0.001 }),
  (16, { name := s!"battery_{batt}_max_temp_cell", unit := "", bitmask := some 0xFF00, bitshift := 8 }),
  (17, { name := s!"battery_{batt}_max_voltage_cell", unit := "", bitmask := some 0xFF00, bitshift := 8 }),
  (18, { name := s!"battery_{batt}_firmware", unit := "" })]

/-- What the loop adds for one battery: the serial number follows the other registers. -/
def batteryBlock (batt : Nat) : List (Nat × RegisterDef) :=
  let base := BATTERY_START + (batt - 1) * BATTERY_BLOCK_SIZE
  (batteryDefs batt).map (fun d => (base + d.1, d.2)) ++
    (List.range 14).map fun i => (base + 19 + i, { name := s!"battery_{batt}_serial_{i}", unit := "" })

/-- What the loop over the batteries adds. -/
def batteryBlocks : List (Nat × RegisterDef) := (List.range BATTERY_COUNT).flatMap fun i => batteryBlock (i + 1)

/-- `BATTERY_REGISTERS`. -/
def batteryRegisters : Dict Nat RegisterDef := .ofList batteryBlocks

/-- `INPUT_REGISTERS`, with the battery registers: the map of the SNA drivers. -/
def snaInputRegisters : Dict Nat RegisterDef := (Dict.ofList baseInputRegisters).update batteryRegisters

/-- `_18KPV_EXTRA`. -/
def kpvExtra : List (Nat × RegisterDef) := [
  -- AFCI (arc-fault circuit interrupter) — 18KPV only
  (140, { name := "afci_current_ch1", unit := "mA" }),
  (141, { name := "afci_current_ch2", unit := "mA" }),
  (142, { name := "afci_current_ch3", unit := "mA" }),
  (143, { name := "afci_current_ch4", unit := "mA" }),
  (144, { name := "afci_flag", unit := "" }),
  (145, { name := "afci_arc_ch1", unit := "" }),
  (146, { name := "afci_arc_ch2", unit := "" }),
  (147, { name := "afci_arc_ch3", unit := "" }),
  (148, { name := "afci_arc_ch4", unit := "" }),
  (149, { name := "afci_max_arc_ch1", unit := "" }),
  (150, { name := "afci_max_arc_ch2", unit := "" }),
  (151, { name := "afci_max_arc_ch3", unit := "" }),
  (152, { name := "afci_max_arc_ch4", unit := "" }),
  -- Split-phase / hybrid additions (document-derived)
  -- EPS L1/L2 total energy (32-bit pairs)
  (135, { name := "eps_energy_l1_total", unit := "kWh", scale := 0.1, pairHigh := some 136 }),
  (137, { name := "eps_energy_l2_total", unit := "kWh", scale := 0.1, pairHigh := some 138 }),
  -- AC couple power
  (153, { name := "ac_couple_power", unit := "W" }),
  (206, { name := "ac_couple_power_s", unit := "W" }),
  (207, { name := "ac_couple_power_t", unit := "W" }),
  -- Split-phase L1/L2 per-leg
  (193, { name := "grid_voltage_l1n", unit := "V", scale := 0.1 }),
  (194, { name := "grid_voltage_l2n", unit := "V", scale := 0.1 }),
  (195, { name := "gen_voltage_l1n", unit := "V", scale := 0.1 }),
  (196, { name := "gen_voltage_l2n", unit := "V", scale := 0.1 }),
  (197, { name := "inv_power_l1n", unit := "W" }),
  (198, { name := "inv_power_l2n", unit := "W" }),
  (199, { name := "rec_power_l1n", unit := "W" }),
  (200, { name := "rec_power_l2n", unit := "W" }),
  (201, { name := "grid_export_l1n", unit := "W" }),
  (202, { name := "grid_export_l2n", unit := "W" }),
  (203, { name := "grid_import_l1n", unit := "W" }),
  (204, { name := "grid_import_l2n", unit := "W" }),
  -- Additional PV strings (PV4-6)
  (217, { name := "pv4_voltage", unit := "V", scale := 0.1 }),
  (218, { name := "pv5_voltage", unit := "V", scale := 0.1 }),
  (219, { name := "pv6_voltage", unit := "V", scale := 0.1 }),
  (220, { name := "pv4_power", unit := "W" }),
  (221, { name := "pv5_power", unit := "W" }),
  (222, { name := "pv6_power", unit := "W" }),
  (223, { name := "pv4_energy_today", unit := "kWh", scale := 0.1 }),
  (224, { name := "pv4_energy_total", unit := "kWh", scale := 0.1, pairHigh := some 225 }),
  (226, { name := "pv5_energy_today", unit := "kWh", scale := 0.1 }),
  (227, { name := "pv5_energy_total", unit := "kWh", scale := 0.1, pairHigh := some 228 }),
  (229, { name := "pv6_energy_today", unit := "kWh", scale := 0.1 }),
  (230, { name := "pv6_energy_total", unit := "kWh", scale := 0.1, pairHigh := some 231 }),
  -- Smart load power
  (232, { name := "smart_load_power", unit := "W" })]

/-- `INPUT_REGISTERS` of the 18KPV driver. -/
def kpvInputRegisters : Dict Nat RegisterDef := snaInputRegisters.update (.ofList kpvExtra)

/-- The families of drivers that are shipped. -/
inductive DriverFamily
  | sna
  | kpv
  deriving DecidableEq

def DriverFamily.inputRegisters : DriverFamily → Dict Nat RegisterDef
  | .sna => snaInputRegisters
  | .kpv => kpvInputRegisters

def SOH_REGISTER : RegisterDef := { name := "soh", unit := "%", bitmask := some 0xFF00, bitshift := 8 }

/-! ## Decoding -/

/-- An entry of a decoded snapshot, as far as anything reads it. -/
structure Info where
  value : Json
  unit : String

/-- The dict that it is. -/
def Info.dict (info : Info) : Json := .obj [("value", info.value), ("unit", .str info.unit)]

/-- A decoded snapshot. -/
abbrev Decoded := Dict String Info

/-- The snapshot as the rules read it. -/
def Decoded.snapshot (d : Decoded) : Snapshot := fun key => (d.get? key).map Info.dict

def RegisterDef.info (r : RegisterDef) (raw : Nat) (highRaw : Nat := 0) : Info :=
  { value := .float (.fin (r.decode raw highRaw)), unit := r.unit }

/-- What the first pass assigns for a register. -/
def decodeSimple (registerMap : Dict Nat RegisterDef) (x : Nat × Nat) : Option (String × Info) :=
  (registerMap.get? x.1).bind fun r => if r.pairHigh.isSome then none else some (r.name, r.info x.2)

/-- What the second pass assigns: the low words whose high word is there. -/
def decodePair (registerMap : Dict Nat RegisterDef) (regValues : Dict Nat Nat) (x : Nat × Nat) :
    Option (String × Info) :=
  (registerMap.get? x.1).bind fun r => r.pairHigh.bind fun high => (regValues.get? high).map fun highRaw =>
    (r.name, r.info x.2 highRaw)

/-- `decode_registers`. -/
def decodeRegisters (registerMap : Dict Nat RegisterDef) (regValues : Dict Nat Nat) : Decoded :=
  let simple := Dict.ofList (regValues.entries.filterMap (decodeSimple registerMap))
  let result := simple.sets (regValues.entries.filterMap (decodePair registerMap regValues))
  match regValues.get? 5 with
  | some raw => result.set "soh" { value := .float (.fin (SOH_REGISTER.decode raw)), unit := "%" }
  | none => result

/-! ## Clamping -/

/-- `_SANITY_LIMITS`. -/
def SANITY_LIMITS : List (String × ℤ) := [
  ("pv1_power", 8000),
  ("pv2_power", 8000),
  ("grid_import_power", 6000),
  ("grid_export_power", 6000),
  ("charge_power", 5000),
  ("discharge_power", 5000),
  ("eps_power", 6000),
  ("battery_voltage", 65),
  ("battery_current", 150),
  ("temp_inverter", 100),
  ("temp_battery", 80),
  ("temp_radiator_1", 100),
  ("temp_radiator_2", 100),
  ("soc", 100),
  ("soh", 100)]

/-- `_SIGNED_FIELDS`. -/
def SIGNED_FIELDS : List String := ["battery_current"]

/-- The value after the clamping of one key; what is no number is not compared. -/
def clampValue (key : String) (limit : ℤ) (value : Json) : Json :=
  match value.toFloat with
  | .ok x =>
    if x.lt (.fin 0) && !SIGNED_FIELDS.contains key then .float (.fin 0)
    else if (PyFloat.fin limit).lt x then .int limit
    else value
  | .error _ => value

/-- One turn of the loop over the limits. -/
def clampEntry (decoded : Decoded) (l : String × ℤ) : Decoded :=
  match decoded.get? l.1 with
  | some info => decoded.set l.1 { info with value := clampValue l.1 l.2 info.value }
  | none => decoded

/-- `_clamp_values`. -/
def clampValues (decoded : Decoded) : Decoded := SANITY_LIMITS.foldl clampEntry decoded

/-- What the writer loop decodes. -/
def DriverFamily.decode (family : DriverFamily) (raw : Dict Nat Nat) : Decoded :=
  clampValues (decodeRegisters family.inputRegisters raw)

/-! ## The entries of the register maps -/

/-- An entry of a map is written out in it or added by one of its loops. -/
theorem inputRegisters_mem {family : DriverFamily} {register : Nat} {r : RegisterDef}
    (h : family.inputRegisters.get? register = some r) :
    (register, r) ∈ baseInputRegisters ++ batteryBlocks ++ kpvExtra := by
  have hsna : ∀ {r : RegisterDef}, snaInputRegisters.get? register = some r →
      (register, r) ∈ baseInputRegisters ++ batteryBlocks ++ kpvExtra := by
    intro r h
    unfold snaInputRegisters at h
    rw [Dict.get?_update] at h
    refine List.mem_append_left _ (List.mem_append.mpr ?_)
    rcases Option.or_eq_some_iff.mp h with h | ⟨-, h⟩
    · exact Or.inr (Dict.mem_of_get?_ofList h)
    · exact Or.inl (Dict.mem_of_get?_ofList h)
  cases family with
  | sna => exact hsna h
  | kpv =>
    have h : kpvInputRegisters.get? register = some r := h
    unfold kpvInputRegisters at h
    rw [Dict.get?_update] at h
    rcases Option.or_eq_some_iff.mp h with h | ⟨-, h⟩
    · exact List.mem_append_right _ (Dict.mem_of_get?_ofList h)
    · exact hsna h

/-- The names of the battery registers begin with the number of the battery. -/
theorem batteryBlock_name {batt : Nat} {e : Nat × RegisterDef} (h : e ∈ batteryBlock batt) :
    ∃ suffix, e.2.name = "battery_" ++ toString batt ++ suffix := by
  have hdefs : ∀ d ∈ batteryDefs batt, ∃ suffix, d.2.name = "battery_" ++ toString batt ++ suffix := by
    simp only [batteryDefs, List.forall_mem_cons]
    exact ⟨⟨_, rfl⟩, ⟨_, rfl⟩, ⟨_, rfl⟩, ⟨_, rfl⟩, ⟨_, rfl⟩, ⟨_, rfl⟩, ⟨_, rfl⟩, ⟨_, rfl⟩, ⟨_, rfl⟩, ⟨_, rfl⟩, ⟨_, rfl⟩,
      ⟨_, rfl⟩, ⟨_, rfl⟩, ⟨_, rfl⟩, fun d hd => absurd hd List.not_mem_nil⟩
  rcases List.mem_append.mp h with h | h
  · obtain ⟨d, hd, rfl⟩ := List.mem_map.mp h
    exact hdefs d hd
  · obtain ⟨i, -, rfl⟩ := List.mem_map.mp h
    exact ⟨"_serial_" ++ toString i, by simp only [← String.append_assoc]; rfl⟩

/-- A name with a digit where those of the battery registers have one. -/
def namesBattery (name : String) : Bool := (name.toList[8]?).any Char.isDigit

theorem batteryBlocks_names {e : Nat × RegisterDef} (h : e ∈ batteryBlocks) : namesBattery e.2.name = true := by
  obtain ⟨i, -, hi⟩ := List.mem_flatMap.mp h
  obtain ⟨suffix, hname⟩ := batteryBlock_name hi
  have hlist : e.2.name.toList = "battery_".toList ++ (Nat.toDigits 10 (i + 1) ++ suffix.toList) := by
    rw [hname]
    show ("battery_" ++ (i + 1).repr ++ suffix).toList = _
    rw [String.toList_append, String.toList_append, Nat.toList_repr, List.append_assoc]
  unfold namesBattery
  rw [hlist, List.getElem?_append_right (by decide)]
  cases hdigits : Nat.toDigits 10 (i + 1) with
  | nil => exact absurd hdigits Nat.toDigits_ne_nil
  | cons d ds => exact Nat.isDigit_of_mem_toDigits (by decide) (by decide) (hdigits ▸ List.mem_cons_self)

/-- Among the registers that are none of a battery. -/
theorem plainRegisters_mem {family : DriverFamily} {register : Nat} {r : RegisterDef}
    (h : family.inputRegisters.get? register = some r) (hplain : namesBattery r.name = false) :
    (register, r) ∈ baseInputRegisters ++ kpvExtra := by
  rcases List.mem_append.mp (inputRegisters_mem h) with h | h
  · rcases List.mem_append.mp h with h | h
    · exact List.mem_append_left _ h
    · rw [batteryBlocks_names h] at hplain
      cases hplain
  · exact List.mem_append_right _ h

/-- A register below those of the batteries is in the SNA map as it is written out. -/
theorem sna_base {register : Nat} {r : RegisterDef} (hlow : register < BATTERY_START)
    (hbase : baseInputRegisters.reverse.lookup register = some r) : snaInputRegisters.get? register = some r := by
  have hbattery : batteryBlocks.reverse.lookup register = none := by
    rw [List.lookup_eq_none_iff]
    have hall : (batteryBlocks.all fun e => decide (BATTERY_START ≤ e.1)) = true := by
      decide +kernel
    intro e he
    have hhigh := of_decide_eq_true (List.all_eq_true.mp hall e (List.mem_reverse.mp he))
    simpa using (lt_of_lt_of_le hlow hhigh).ne
  unfold snaInputRegisters batteryRegisters
  rw [Dict.get?_update, Dict.get?_ofList, hbattery, Option.none_or, Dict.get?_ofList]
  exact hbase

/-- The drivers share the registers below those of the batteries that the 18KPV does not have of its own. -/
theorem base_register (family : DriverFamily) {register : Nat} {r : RegisterDef} (hlow : register < BATTERY_START)
    (hextra : register ∉ kpvExtra.map Prod.fst) (hbase : baseInputRegisters.reverse.lookup register = some r) :
    family.inputRegisters.get? register = some r := by
  have hsna := sna_base hlow hbase
  cases family with
  | sna => exact hsna
  | kpv =>
    show kpvInputRegisters.get? register = some r
    have hnone : (Dict.ofList kpvExtra).get? register = none := by
      rw [Dict.get?_ofList]
      exact lookup_of_not_mem fun h => hextra (by rwa [List.map_reverse, List.mem_reverse] at h)
    unfold kpvInputRegisters
    rw [Dict.get?_update, hsna, hnone]
    rfl

/-! ## The names of a decoded snapshot -/

section
variable {registerMap : Dict Nat RegisterDef} {raw : Dict Nat Nat} {x : Nat × Nat} {name : String}

theorem decodeSimple_name (h : name ∈ (decodeSimple registerMap x).map Prod.fst) :
    ∃ r, registerMap.get? x.1 = some r ∧ r.name = name := by
  unfold decodeSimple at h
  cases hr : registerMap.get? x.1 with
  | none => simp [hr] at h
  | some r =>
    rw [hr, Option.bind_some] at h
    split at h
    · simp at h
    · exact ⟨r, rfl, by simpa using h⟩

theorem decodePair_name (h : name ∈ (decodePair registerMap raw x).map Prod.fst) :
    ∃ r, registerMap.get? x.1 = some r ∧ r.name = name := by
  unfold decodePair at h
  cases hr : registerMap.get? x.1 with
  | none => simp [hr] at h
  | some r =>
    refine ⟨r, rfl, ?_⟩
    rw [hr, Option.bind_some] at h
    cases hhigh : r.pairHigh with
    | none => simp [hhigh] at h
    | some high =>
      rw [hhigh, Option.bind_some] at h
      cases hvalue : raw.get? high with
      | none => simp [hvalue] at h
      | some value => simpa [hvalue] using h

theorem mem_filterMap_names {f : Nat × Nat → Option (String × Info)} {es : List (Nat × Nat)} :
    name ∈ (es.filterMap f).map Prod.fst ↔ ∃ x ∈ es, name ∈ (f x).map Prod.fst := by
  rw [List.map_filterMap, List.mem_filterMap]
  rfl

/-- A decoded name is that of a register that was read, or soh. -/
theorem mem_decodeRegisters (h : name ∈ (decodeRegisters registerMap raw).keys) :
    (∃ x ∈ raw.entries, ∃ r, registerMap.get? x.1 = some r ∧ r.name = name) ∨ name = "soh" := by
  unfold decodeRegisters at h
  have hpasses : name ∈ ((Dict.ofList (raw.entries.filterMap (decodeSimple registerMap))).sets
      (raw.entries.filterMap (decodePair registerMap raw))).keys →
      ∃ x ∈ raw.entries, ∃ r, registerMap.get? x.1 = some r ∧ r.name = name := by
    intro h
    rcases Dict.mem_keys_sets.mp h with h | h
    · rcases Dict.mem_keys_sets.mp h with h | h
      · exact (List.not_mem_nil h).elim
      · obtain ⟨x, hx, hname⟩ := mem_filterMap_names.mp h
        exact ⟨x, hx, decodeSimple_name hname⟩
    · obtain ⟨x, hx, hname⟩ := mem_filterMap_names.mp h
      exact ⟨x, hx, decodePair_name hname⟩
  split at h
  · rcases Dict.mem_keys_set.mp h with h | h
    · exact Or.inl (hpasses h)
    · exact Or.inr h
  · exact Or.inl (hpasses h)

/-- The value of a register that is no pair is decoded. -/
theorem simple_decoded {register value : Nat} {r : RegisterDef} (hr : registerMap.get? register = some r)
    (hsimple : r.pairHigh = none) (hraw : raw.get? register = some value) :
    r.name ∈ (decodeRegisters registerMap raw).keys := by
  have hpasses : r.name ∈ ((Dict.ofList (raw.entries.filterMap (decodeSimple registerMap))).sets
      (raw.entries.filterMap (decodePair registerMap raw))).keys := by
    refine Dict.mem_keys_sets.mpr (Or.inl (Dict.mem_keys_sets.mpr (Or.inr (mem_filterMap_names.mpr ?_))))
    refine ⟨(register, value), Dict.mem_entries.mpr hraw, ?_⟩
    simp [decodeSimple, hr, hsimple]
  unfold decodeRegisters
  split
  · exact Dict.mem_keys_set.mpr (Or.inl hpasses)
  · exact hpasses

end

theorem clampEntry_keys (decoded : Decoded) (l : String × ℤ) (name : String) :
    name ∈ (clampEntry decoded l).keys ↔ name ∈ decoded.keys := by
  unfold clampEntry
  split
  · next info hl =>
    rw [Dict.mem_keys_set]
    constructor
    · rintro (h | rfl)
      · exact h
      · exact Dict.mem_keys_iff.mpr ⟨info, hl⟩
    · exact Or.inl
  · rfl

theorem clampValues_keys (decoded : Decoded) (name : String) :
    name ∈ (clampValues decoded).keys ↔ name ∈ decoded.keys := by
  unfold clampValues
  generalize SANITY_LIMITS = limits
  induction limits generalizing decoded with
  | nil => rfl
  | cons l limits ih => rw [List.foldl_cons, ih, clampEntry_keys]

/-! ## The values of a decoded snapshot -/

/-- The value is a finite number. -/
def Info.Numeric (info : Info) : Prop := ∃ q, info.value.toFloat = .ok (.fin q)

theorem decodeRegisters_numeric (registerMap : Dict Nat RegisterDef) (raw : Dict Nat Nat) :
    ∀ name info, (decodeRegisters registerMap raw).get? name = some info → info.Numeric := by
  have hsimple : ∀ e ∈ raw.entries.filterMap (decodeSimple registerMap), e.2.Numeric := by
    intro e he
    obtain ⟨x, -, hx⟩ := List.mem_filterMap.mp he
    obtain ⟨r, -, hx⟩ := Option.bind_eq_some_iff.mp hx
    split at hx
    · cases hx
    · cases hx
      exact ⟨_, rfl⟩
  have hpair : ∀ e ∈ raw.entries.filterMap (decodePair registerMap raw), e.2.Numeric := by
    intro e he
    obtain ⟨x, -, hx⟩ := List.mem_filterMap.mp he
    obtain ⟨r, -, hx⟩ := Option.bind_eq_some_iff.mp hx
    obtain ⟨high, -, hx⟩ := Option.bind_eq_some_iff.mp hx
    obtain ⟨highRaw, -, hx⟩ := Option.map_eq_some_iff.mp hx
    cases hx
    exact ⟨_, rfl⟩
  have hpasses := Dict.sets_all (Dict.sets_all (d := .empty) (fun _ _ h => by cases h) hsimple) hpair
  unfold decodeRegisters
  simp only
  split
  · exact Dict.set_all hpasses ⟨_, rfl⟩
  · exact hpasses

theorem clampValue_numeric {key : String} {limit : ℤ} {info : Info} (hlimit : |limit| ≤ 2 ^ 53)
    (h : info.Numeric) : Info.Numeric { info with value := clampValue key limit info.value } := by
  obtain ⟨q, hq⟩ := h
  unfold Info.Numeric clampValue
  simp only [hq]
  split_ifs
  · exact ⟨0, rfl⟩
  · exact ⟨limit, Json.floatOfInt_small hlimit⟩
  · exact ⟨q, hq⟩

theorem clampValues_numeric {decoded : Decoded} (h : ∀ name info, decoded.get? name = some info → info.Numeric) :
    ∀ name info, (clampValues decoded).get? name = some info → info.Numeric := by
  have hlimits : ∀ l ∈ SANITY_LIMITS, |l.2| ≤ 2 ^ 53 := by
    decide
  unfold clampValues
  generalize SANITY_LIMITS = limits at hlimits
  induction limits generalizing decoded with
  | nil => exact h
  | cons l limits ih =>
    refine ih ?_ fun l' hl' => hlimits l' (List.mem_cons_of_mem l hl')
    unfold clampEntry
    split
    · next info hl => exact Dict.set_all h (clampValue_numeric (hlimits l List.mem_cons_self) (h l.1 info hl))
    · exact h

/-- Without pairs and without register 5, the decoded values are those of the registers in turn. -/
theorem decodeRegisters_simple {registerMap : Dict Nat RegisterDef} {raw : Dict Nat Nat} (defs : Nat → RegisterDef)
    (hdefs : ∀ x ∈ raw.entries, registerMap.get? x.1 = some (defs x.1) ∧ (defs x.1).pairHigh = none)
    (hsoh : raw.get? 5 = none) :
    decodeRegisters registerMap raw = .ofList (raw.entries.map fun x => ((defs x.1).name, (defs x.1).info x.2)) := by
  have hsimple : raw.entries.filterMap (decodeSimple registerMap) =
      raw.entries.map fun x => ((defs x.1).name, (defs x.1).info x.2) := by
    rw [← List.filterMap_eq_map']
    refine List.filterMap_congr fun x hx => ?_
    obtain ⟨hdef, hpair⟩ := hdefs x hx
    simp [decodeSimple, hdef, hpair]
  have hpairs : raw.entries.filterMap (decodePair registerMap raw) = [] := by
    refine List.filterMap_eq_nil_iff.mpr fun x hx => ?_
    obtain ⟨hdef, hpair⟩ := hdefs x hx
    simp [decodePair, hdef, hpair]
  unfold decodeRegisters
  rw [hsimple, hpairs, hsoh]
  rfl

/-- Every value that the writer loop decodes is a finite number. -/
theorem decode_numeric (family : DriverFamily) (raw : Dict Nat Nat) {name : String} {info : Info}
    (h : (family.decode raw).get? name = some info) : info.Numeric :=
  clampValues_numeric (decodeRegisters_numeric _ _) name info h

end LuxMon
