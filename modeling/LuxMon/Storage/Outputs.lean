import LuxMon.Storage.Decode
import LuxMon.Alerts.Evaluate

/-!
# Outputs

What the three writers make of a decoded snapshot: the rows for MariaDB, the lines
for InfluxDB and the MQTT state.  Each derives the combined values anew and merges
them with the decoded ones in its own way.

    every snapshot has a derived load power                     (load_power_computed)
-/

namespace LuxMon

open Python

/-! ## Derived values -/

/-- `_sa_value` of an entry; an integer too large for a float raises. -/
def Info.saValue (info : Info) : Except PyErr (Option PyFloat) :=
  match info.value.toFloat with
  | .ok x => .ok (some x)
  | .error .overflowError => .error .overflowError
  | .error _ => .ok none

/-- `_sa_value`. -/
def saValue (decoded : Decoded) (key : String) : Except PyErr (Option PyFloat) :=
  match decoded.get? key with
  | some info => info.saValue
  | none => .ok none

/-- `if cond: computed[key] = value`. -/
def assignIf (cond : Bool) (key : String) (value : PyFloat) : List (String × PyFloat) :=
  if cond then [(key, value)] else []

/-- `if value is not None: computed[key] = value`. -/
def assignSome (key : String) (value : Option PyFloat) : List (String × PyFloat) :=
  value.toList.map (key, ·)

/-- A PV current derived from voltage and power when it is missing. -/
def pvCurrent (decoded : Decoded) (cKey vKey pKey : String) : Except PyErr (List (String × PyFloat)) := do
  let c ← saValue decoded cKey
  if c.isSome then return []
  let v ← saValue decoded vKey
  let p ← saValue decoded pKey
  match v, p with
  | some v, some p => return assignIf ((PyFloat.fin 0).lt v) cKey (p.div v)
  | _, _ => return []

/-- `_build_computed`. -/
def buildComputed (decoded : Decoded) : Except PyErr (Dict String PyFloat) := do
  let pv1 ← saValue decoded "pv1_power"
  let pv2 ← saValue decoded "pv2_power"
  let pv3 ← saValue decoded "pv3_power"
  let pvTotal := ((orZero pv1).add (orZero pv2)).add (orZero pv3)
  let gridExport ← saValue decoded "grid_export_power"
  let gridImport ← saValue decoded "grid_import_power"
  let gridExport := orZero gridExport
  let gridImport := orZero gridImport
  let charge ← saValue decoded "charge_power"
  let discharge ← saValue decoded "discharge_power"
  let charge := orZero charge
  let discharge := orZero discharge
  let load := ((pvTotal.add discharge).add gridImport).sub (charge.add gridExport)
  let epsR ← saValue decoded "eps_voltage_r"
  let current1 ← pvCurrent decoded "pv1_current" "pv1_voltage" "pv1_power"
  let current2 ← pvCurrent decoded "pv2_current" "pv2_voltage" "pv2_power"
  let energy1 ← saValue decoded "pv1_energy_total"
  let energy2 ← saValue decoded "pv2_energy_total"
  let energy3 ← saValue decoded "pv3_energy_total"
  let pvEnergyTotal := ((orZero energy1).add (orZero energy2)).add (orZero energy3)
  let chargeTotal ← saValue decoded "charge_energy_total"
  let dischargeTotal ← saValue decoded "discharge_energy_total"
  let gridImportTotal ← saValue decoded "grid_import_total"
  let gridExportTotal ← saValue decoded "grid_export_total"
  return .ofList (
    assignIf ((PyFloat.fin 0).lt pvTotal || (pv1.isSome || pv2.isSome || pv3.isSome)) "pv_power_total" pvTotal ++
    assignIf ((PyFloat.fin 0).lt gridExport || (PyFloat.fin 0).lt gridImport) "grid_power_net"
      (gridImport.sub gridExport) ++
    assignIf ((PyFloat.fin 0).lt charge || (PyFloat.fin 0).lt discharge) "battery_power_net"
      (charge.sub discharge) ++
    [("load_power", (PyFloat.fin 0).max load)] ++
    assignSome "ac_output_voltage" epsR ++
    current1 ++
    current2 ++
    assignIf ((PyFloat.fin 0).lt pvEnergyTotal || (energy1.isSome || energy2.isSome || energy3.isSome))
      "pv_energy_total" pvEnergyTotal ++
    assignSome "battery_in_energy_total" chargeTotal ++
    assignSome "battery_out_energy_total" dischargeTotal ++
    assignSome "grid_import_energy_total" gridImportTotal ++
    assignSome "grid_export_energy_total" gridExportTotal)

/-! ## MariaDB -/

/-- A row of the registers table, without its snapshot id. -/
structure RegisterRow where
  name : String
  value : PyFloat
  unit : String
  deriving DecidableEq

/-- The derived values that are stored. -/
def storedComputed : List String := ["load_power", "pv_power_total", "grid_power_net", "battery_power_net"]

/-- The row of a decoded entry. -/
def registerRow (e : String × Info) : Except PyErr RegisterRow := do
  let value ← e.2.value.toFloat
  return { name := e.1, value := value, unit := e.2.unit }

/-- The row of a derived value. -/
def computedRow (computed : Dict String PyFloat) (key : String) : Option RegisterRow :=
  (computed.get? key).map fun value => { name := key, value := value, unit := "W" }

/-- `rows` of `_write_mariadb`. -/
def snapshotRows (decoded : Decoded) : Except PyErr (List RegisterRow) := do
  let rows ← decoded.entries.mapM registerRow
  let computed ← buildComputed decoded
  return rows ++ storedComputed.filterMap (computedRow computed)

/-- The rows that get written: none when they cannot be computed, which is only logged. -/
def writtenRows (decoded : Decoded) : List RegisterRow :=
  match snapshotRows decoded with
  | .ok rows => rows
  | .error _ => []

/-! ## InfluxDB and MQTT -/

/-- The decoded values that are numbers. -/
def decodedValues (decoded : Decoded) : Except PyErr (List (String × PyFloat × String)) := do
  let values ← decoded.entries.mapM fun e => do
    let value ← e.2.saValue
    return value.map fun x => (e.1, x, e.2.unit)
  return values.reduceOption

/-- The decoded values, updated by the derived ones. -/
def allValues (decoded : Decoded) : Except PyErr (Dict String PyFloat) := do
  let values ← decodedValues decoded
  let computed ← buildComputed decoded
  return (Dict.ofList (values.map fun v => (v.1, v.2.1))).update computed

/-- `_REGISTER_TO_SA`: measurement and field. -/
def REGISTER_TO_SA : List (String × String × String) := [
  -- Power values
  ("pv1_power", ("PV power 1", "inverter_0")),
  ("pv2_power", ("PV power 2", "inverter_0")),
  ("pv3_power", ("Auxiliary PV power", "inverter_0")),
  ("pv_power_total", ("PV power", "combined")),
  ("grid_export_power", ("Grid power", "inverter_0_out")),
  ("grid_import_power", ("Grid power", "inverter_0_in")),
  ("grid_power_net", ("Grid power", "combined")),
  ("inv_power", ("Inverter power", "inverter_0")),
  ("eps_power", ("EPS power", "inverter_0")),
  ("load_power", ("Load power", "combined")),
  ("charge_power", ("Battery power", "inverter_0_in")),
  ("discharge_power", ("Battery power", "inverter_0_out")),
  ("battery_power_net", ("Battery power", "combined")),
  -- Voltage / current / frequency
  ("pv1_voltage", ("PV voltage 1", "inverter_0")),
  ("pv2_voltage", ("PV voltage 2", "inverter_0")),
  ("pv1_current", ("PV current 1", "inverter_0")),
  ("pv2_current", ("PV current 2", "inverter_0")),
  ("battery_voltage", ("Battery voltage", "inverter_0")),
  ("battery_current", ("Battery current", "inverter_0")),
  ("grid_voltage_r", ("Grid voltage", "inverter_0")),
  ("grid_frequency", ("Grid frequency", "inverter_0")),
  ("ac_output_voltage", ("AC output voltage", "inverter_0")),
  ("eps_frequency", ("Generator frequency", "inverter_0")),
  -- State of charge / health
  ("soc", ("Battery state of charge", "inverter_0")),
  ("soh", ("Battery state of charge", "inverter_0_soh")),
  -- Temperatures
  ("temp_inverter", ("Inverter temperature", "inverter_0")),
  ("temp_battery", ("Battery temperature", "combined")),
  ("temp_radiator_1", ("Radiator temperature 1", "inverter_0")),
  ("temp_radiator_2", ("Radiator temperature 2", "inverter_0")),
  ("runtime", ("Inverter runtime", "inverter_0")),
  ("state", ("Inverter state", "inverter_0")),
  ("fault_code", ("Inverter fault code", "inverter_0")),
  ("warning_code", ("Inverter warning code", "inverter_0")),
  ("outside_temperature", ("Outside temperature", "combined")),
  ("cloud_cover", ("Cloud cover", "combined")),
  ("pv_power_predicted", ("PV power predicted", "combined")),
  -- Energy (kWh) - totals and today
  ("pv1_energy_today", ("PV energy today 1", "inverter_0")),
  ("pv2_energy_today", ("PV energy today 2", "inverter_0")),
  ("pv1_energy_total", ("PV energy total 1", "inverter_0")),
  ("pv2_energy_total", ("PV energy total 2", "inverter_0")),
  ("charge_energy_today", ("Battery energy in today", "inverter_0")),
  ("discharge_energy_today", ("Battery energy out today", "inverter_0")),
  ("grid_export_today", ("Grid energy out today", "inverter_0")),
  ("grid_import_today", ("Grid energy in today", "inverter_0"))]

/-- A line of the InfluxDB payload, as its parts; the time is the same for all. -/
structure Line where
  measurement : String
  tags : List (String × String)
  fields : List (String × PyFloat)
  deriving DecidableEq

/-- `_to_line`: empty tags and NaN are left out, and there is no line without fields. -/
def toLine (measurement : String) (tags : List (String × String)) (fields : List (String × PyFloat)) : Option Line :=
  let fields := fields.filter fun f => f.2 != .nan
  if fields.isEmpty then none
  else some { measurement := measurement, tags := tags.filter fun t => t.2 != "", fields := fields }

/-- `measurements.setdefault(measurement, {})[field] = val`. -/
def setField (measurements : Dict String (Dict String PyFloat)) (measurement field : String) (value : PyFloat) :
    Dict String (Dict String PyFloat) :=
  measurements.set measurement (((measurements.get? measurement).getD .empty).set field value)

/-- One turn of the loop over all values. -/
def addMeasurement (measurements : Dict String (Dict String PyFloat)) (v : String × PyFloat) :
    Dict String (Dict String PyFloat) :=
  match REGISTER_TO_SA.lookup v.1 with
  | some (measurement, field) => setField measurements measurement field v.2
  | none => measurements

/-- The SolarAssistant measurements of some values. -/
def saMeasurements (values : List (String × PyFloat)) : Dict String (Dict String PyFloat) :=
  values.foldl addMeasurement .empty

/-- The payload of `_write_influxdb`. -/
def influxLines (decoded : Decoded) : Except PyErr (List Line) := do
  let values ← allValues decoded
  let measured := (saMeasurements values.entries).entries.filterMap fun m => toLine m.1 [] m.2.entries
  let registers ← decodedValues decoded
  let catchAll := registers.filterMap fun v => toLine "luxmon_register" [("name", v.1), ("unit", v.2.2)] [("value", v.2.1)]
  return measured ++ catchAll

/-- `_STATE_LABELS`. -/
def STATE_LABELS : List (ℤ × String) := [
  (0x00, "Standby"),
  (0x01, "Fault"),
  (0x02, "Programming"),
  (0x04, "PV on-grid"),
  (0x08, "PV charging battery"),
  (0x0C, "PV charging battery + on-grid"),
  (0x10, "Battery on-grid"),
  (0x14, "PV + battery on-grid"),
  (0x20, "AC charge (grid → battery)"),
  (0x28, "PV + AC charge"),
  (0x40, "Battery off-grid"),
  (0x80, "PV off-grid"),
  (0x88, "PV charge + off-grid"),
  (0xC0, "PV + battery off-grid")]

/-- `_state_label` of a float; one that is no number raises nothing that is caught, but infinity does. -/
def stateLabel (value : PyFloat) : Except PyErr String :=
  match value.toInt with
  | .ok code =>
    match STATE_LABELS.lookup code with
    | some label => .ok s!"{label} ({code})"
    | none => .ok s!"Unknown ({code})"
  | .error .overflowError => .error .overflowError
  | .error _ => .ok value.repr

/-- The state payload of `_write_mqtt`. -/
def mqttPayload (decoded : Decoded) : Except PyErr (Dict String Json) := do
  let values ← allValues decoded
  let payload : Dict String Json := .ofList (values.entries.map fun v => (v.1, .float v.2))
  match values.get? "state" with
  | some state =>
    let label ← stateLabel state
    return payload.set "state_label" (.str label)
  | none => return payload

/-! ## Temperatures -/

/-- `round(c * 9.0 / 5.0 + 32.0, 1)`. -/
def toFahrenheit (c : PyFloat) : PyFloat :=
  match c with
  | .fin q => (PyFloat.fin (q * 9 / 5 + 32)).round1
  | x => x

/-- The temperatures that are shown in the configured unit. -/
def TEMP_KEYS : List String := ["temp_inverter", "temp_battery", "temp_radiator_1", "temp_radiator_2"]

/-- `Outputs._convert_temperatures`. -/
def convertTemperatures (temperatureUnit : String) (decoded : Decoded) : Except PyErr Decoded :=
  if temperatureUnit ≠ "fahrenheit" then .ok decoded
  else (TEMP_KEYS ++ ["outside_temperature"]).foldlM (fun out key =>
    match out.get? key with
    | none => .ok out
    | some info =>
      match info.value.toFloat with
      | .ok c => .ok (out.set key { value := .float (toFahrenheit c), unit := "°F" })
      | .error .overflowError => .error .overflowError
      | .error _ => .ok out) decoded

/-- What `write` sends to the three backends when all are enabled. -/
structure Written where
  rows : List RegisterRow
  lines : List Line
  payload : Dict String Json

/-- `Outputs.write`, all backends enabled. -/
def writeOutputs (temperatureUnit : String) (decoded : Decoded) : Except PyErr Written := do
  let shown ← convertTemperatures temperatureUnit decoded
  let lines ← influxLines shown
  let payload ← mqttPayload shown
  return { rows := writtenRows decoded, lines := lines, payload := payload }

/-! ## What is derived -/

/-- All names that `_build_computed` can assign. -/
def computedNames : List String := ["pv_power_total", "grid_power_net", "battery_power_net", "load_power",
  "ac_output_voltage", "pv1_current", "pv2_current", "pv_energy_total", "battery_in_energy_total",
  "battery_out_energy_total", "grid_import_energy_total", "grid_export_energy_total"]

theorem assignIf_names {cond : Bool} {key k : String} {value : PyFloat}
    (h : k ∈ (assignIf cond key value).map Prod.fst) : k = key := by
  unfold assignIf at h
  split at h <;> simp_all

theorem assignSome_names {key k : String} {value : Option PyFloat}
    (h : k ∈ (assignSome key value).map Prod.fst) : k = key := by
  unfold assignSome at h
  cases value <;> simp_all

theorem pvCurrent_names {decoded : Decoded} {cKey vKey pKey k : String} {es : List (String × PyFloat)}
    (h : pvCurrent decoded cKey vKey pKey = .ok es) (hk : k ∈ es.map Prod.fst) : k = cKey := by
  obtain ⟨c, -, h⟩ := bind_eq_ok.mp h
  split at h
  · cases h
    exact (List.not_mem_nil hk).elim
  · obtain ⟨v, -, h⟩ := bind_eq_ok.mp h
    obtain ⟨p, -, h⟩ := bind_eq_ok.mp h
    split at h
    · cases h
      exact assignIf_names hk
    · cases h
      exact (List.not_mem_nil hk).elim

/-- The names that are derived; a load power always is. -/
theorem buildComputed_keys {decoded : Decoded} {computed : Dict String PyFloat}
    (h : buildComputed decoded = .ok computed) :
    "load_power" ∈ computed.keys ∧ ∀ k ∈ computed.keys, k ∈ computedNames := by
  unfold buildComputed at h
  simp only [bind_eq_ok] at h
  obtain ⟨pv1, -, pv2, -, pv3, -, gridExport, -, gridImport, -, charge, -, discharge, -, epsR, -, es₁, hes₁, es₂,
    hes₂, energy1, -, energy2, -, energy3, -, chargeTotal, -, dischargeTotal, -, importTotal, -, exportTotal, -, h⟩ := h
  obtain rfl := Except.ok.inj h
  refine ⟨Dict.mem_keys_sets.mpr (Or.inr (by simp)), fun k hk => ?_⟩
  have hk := (Dict.mem_keys_sets.mp hk).resolve_left List.not_mem_nil
  simp only [List.map_append, List.mem_append, List.map_cons, List.map_nil, List.mem_singleton] at hk
  unfold computedNames
  rcases hk with ((((((((((hk | hk) | hk) | hk) | hk) | hk) | hk) | hk) | hk) | hk) | hk) | hk
  · simp [assignIf_names hk]
  · simp [assignIf_names hk]
  · simp [assignIf_names hk]
  · simp [hk]
  · simp [assignSome_names hk]
  · simp [pvCurrent_names hes₁ hk]
  · simp [pvCurrent_names hes₂ hk]
  · simp [assignIf_names hk]
  · simp [assignSome_names hk]
  · simp [assignSome_names hk]
  · simp [assignSome_names hk]
  · simp [assignSome_names hk]

theorem load_power_computed {decoded : Decoded} {computed : Dict String PyFloat}
    (h : buildComputed decoded = .ok computed) : "load_power" ∈ computed.keys := (buildComputed_keys h).1

theorem pvCurrent_exists {decoded : Decoded} (h : ∀ key, ∃ x, saValue decoded key = .ok x) (cKey vKey pKey : String) :
    ∃ es, pvCurrent decoded cKey vKey pKey = .ok es := by
  refine bind_exists_ok (h cKey) fun c => ?_
  split
  · exact ⟨[], rfl⟩
  · refine bind_exists_ok (h vKey) fun v => bind_exists_ok (h pKey) fun p => ?_
    split
    · exact ⟨_, rfl⟩
    · exact ⟨[], rfl⟩

theorem buildComputed_exists {decoded : Decoded} (h : ∀ key, ∃ x, saValue decoded key = .ok x) :
    ∃ computed, buildComputed decoded = .ok computed := by
  unfold buildComputed
  refine bind_exists_ok (h _) fun pv1 => bind_exists_ok (h _) fun pv2 => bind_exists_ok (h _) fun pv3 => ?_
  refine bind_exists_ok (h _) fun gridExport => bind_exists_ok (h _) fun gridImport => ?_
  refine bind_exists_ok (h _) fun charge => bind_exists_ok (h _) fun discharge => bind_exists_ok (h _) fun epsR => ?_
  refine bind_exists_ok (pvCurrent_exists h _ _ _) fun es₁ => bind_exists_ok (pvCurrent_exists h _ _ _) fun es₂ => ?_
  refine bind_exists_ok (h _) fun energy1 => bind_exists_ok (h _) fun energy2 => bind_exists_ok (h _) fun energy3 => ?_
  refine bind_exists_ok (h _) fun chargeTotal => bind_exists_ok (h _) fun dischargeTotal => ?_
  exact bind_exists_ok (h _) fun importTotal => bind_exists_ok (h _) fun exportTotal => ⟨_, rfl⟩

end LuxMon
