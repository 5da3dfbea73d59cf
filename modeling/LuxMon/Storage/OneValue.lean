import LuxMon.Storage.Outputs
import Mathlib.Data.List.ReduceOption

/-!
# One name, one value

Register 170 is the only one of the maps whose name is derived as well.  When it
has been read, MariaDB gets two rows with that name, and the derived value hides
the decoded one in the InfluxDB measurements and in the MQTT state.

    names and values agree ↔ register 170 was not read          (one_value_iff)
-/

namespace LuxMon

open Python

/-! ## What the backends carry -/

/-- The line carries the value under the name: in the catch-all, or in the name's measurement. -/
def Line.carries (line : Line) (name : String) (value : PyFloat) : Prop :=
  (line.measurement = "luxmon_register" ∧ ("name", name) ∈ line.tags ∧ ("value", value) ∈ line.fields) ∨
    ∃ measurement field, REGISTER_TO_SA.lookup name = some (measurement, field) ∧
      line.measurement = measurement ∧ (field, value) ∈ line.fields

namespace Written

def mariadb (w : Written) (name : String) (value : PyFloat) : Prop :=
  ∃ row ∈ w.rows, row.name = name ∧ row.value = value

def influx (w : Written) (name : String) (value : PyFloat) : Prop := ∃ line ∈ w.lines, line.carries name value

def mqtt (w : Written) (name : String) (value : PyFloat) : Prop := w.payload.get? name = some (.float value)

/-- The rows have distinct names, and what two backends carry under one name is the same. -/
structure OneValue (w : Written) : Prop where
  distinct : (w.rows.map RegisterRow.name).Nodup
  mariadbInflux : ∀ name x y, w.mariadb name x → w.influx name y → x = y
  mariadbMqtt : ∀ name x y, w.mariadb name x → w.mqtt name y → x = y
  influxMqtt : ∀ name x y, w.influx name x → w.mqtt name y → x = y

end Written

/-! ## Where a value comes from -/

/-- The decoded value of a name. -/
def DecodedAs (decoded : Decoded) (name : String) (value : PyFloat) : Prop :=
  ∃ info, decoded.get? name = some info ∧ info.value.toFloat = .ok value

/-- The value of a name, decoded or derived. -/
def ValueOf (decoded : Decoded) (computed : Dict String PyFloat) (name : String) (value : PyFloat) : Prop :=
  DecodedAs decoded name value ∨ computed.get? name = some value

section
variable {decoded : Decoded} {computed : Dict String PyFloat} {name : String} {value x y : PyFloat}

theorem DecodedAs.key (h : DecodedAs decoded name value) : name ∈ decoded.keys := by
  obtain ⟨info, hinfo, -⟩ := h
  exact Dict.mem_keys_iff.mpr ⟨info, hinfo⟩

/-- When no decoded name is derived as well, a name has one value. -/
theorem ValueOf.unique (hdisjoint : ∀ k ∈ decoded.keys, k ∉ computed.keys) (hx : ValueOf decoded computed name x)
    (hy : ValueOf decoded computed name y) : x = y := by
  rcases hx with hx | hx <;> rcases hy with hy | hy
  · obtain ⟨info, hinfo, hx⟩ := hx
    obtain ⟨info', hinfo', hy⟩ := hy
    rw [hinfo] at hinfo'
    cases hinfo'
    rw [hx] at hy
    exact Except.ok.inj hy
  · exact absurd (Dict.mem_keys_iff.mpr ⟨y, hy⟩) (hdisjoint name hx.key)
  · exact absurd (Dict.mem_keys_iff.mpr ⟨x, hx⟩) (hdisjoint name hy.key)
  · rw [hx] at hy
    exact Option.some.inj hy

theorem saValue_some {info : Info} (h : info.saValue = .ok (some value)) : info.value.toFloat = .ok value := by
  unfold Info.saValue at h
  split at h
  · next x hx =>
    cases h
    exact hx
  · cases h
  · cases h

theorem registerRow_spec {e : String × Info} {row : RegisterRow} (h : registerRow e = .ok row) :
    row.name = e.1 ∧ e.2.value.toFloat = .ok row.value := by
  obtain ⟨x, hx, h⟩ := bind_eq_ok.mp h
  cases h
  exact ⟨rfl, hx⟩

theorem registerRows_spec {rows : List RegisterRow} (h : decoded.entries.mapM registerRow = .ok rows) :
    rows.map RegisterRow.name = decoded.keys ∧ ∀ row ∈ rows, DecodedAs decoded row.name row.value := by
  refine ⟨mapM_map h fun e row he => (registerRow_spec he).1, fun row hrow => ?_⟩
  obtain ⟨e, he, hrow⟩ := mapM_mem h hrow
  obtain ⟨hname, hvalue⟩ := registerRow_spec hrow
  exact ⟨e.2, hname ▸ Dict.mem_entries.mp he, hvalue⟩

theorem decodedValues_spec {values : List (String × PyFloat × String)} (h : decodedValues decoded = .ok values) :
    ∀ v ∈ values, DecodedAs decoded v.1 v.2.1 := by
  obtain ⟨found, hfound, h⟩ := bind_eq_ok.mp h
  cases h
  intro v hv
  obtain ⟨e, he, hv⟩ := mapM_mem hfound (List.reduceOption_mem_iff.mp hv)
  obtain ⟨x, hx, hv⟩ := bind_eq_ok.mp hv
  cases x with
  | none => cases hv
  | some x =>
    cases hv
    exact ⟨e.2, Dict.mem_entries.mp he, saValue_some hx⟩

theorem allValues_spec {values : Dict String PyFloat} (hcomputed : buildComputed decoded = .ok computed)
    (h : allValues decoded = .ok values) (hname : values.get? name = some x) : ValueOf decoded computed name x := by
  obtain ⟨decodedOnes, hdecoded, h⟩ := bind_eq_ok.mp h
  rw [hcomputed] at h
  cases h
  rw [Dict.get?_update] at hname
  cases hc : computed.get? name with
  | some y =>
    rw [hc] at hname
    exact Or.inr (hc.trans hname)
  | none =>
    rw [hc, Option.none_or] at hname
    obtain ⟨v, hv, hvx⟩ := List.mem_map.mp (Dict.mem_of_get?_ofList hname)
    cases hvx
    exact Or.inl (decodedValues_spec hdecoded v hv)

/-! ## The three payloads -/

theorem rows_spec {rows : List RegisterRow} (hcomputed : buildComputed decoded = .ok computed)
    (h : snapshotRows decoded = .ok rows) :
    rows.map RegisterRow.name = decoded.keys ++ storedComputed.filter (fun key => (computed.get? key).isSome) ∧
      ∀ row ∈ rows, ValueOf decoded computed row.name row.value := by
  obtain ⟨decodedRows, hdecoded, h⟩ := bind_eq_ok.mp h
  rw [hcomputed] at h
  cases h
  obtain ⟨hnames, hvalues⟩ := registerRows_spec hdecoded
  constructor
  · rw [List.map_append, hnames]
    congr 1
    generalize storedComputed = stored
    induction stored with
    | nil => rfl
    | cons key stored ih =>
      unfold computedRow
      cases hc : computed.get? key with
      | none =>
        rw [List.filterMap_cons_none (by rw [hc]; rfl), List.filter_cons_of_neg (by simp [hc])]
        exact ih
      | some x =>
        rw [List.filterMap_cons_some (by rw [hc]; rfl), List.filter_cons_of_pos (by simp [hc]), List.map_cons]
        exact congrArg (key :: ·) ih
  · intro row hrow
    rcases List.mem_append.mp hrow with hrow | hrow
    · exact Or.inl (hvalues row hrow)
    · obtain ⟨key, -, hrow⟩ := List.mem_filterMap.mp hrow
      obtain ⟨x, hx, rfl⟩ := Option.map_eq_some_iff.mp hrow
      exact Or.inr hx

theorem mqtt_spec {payload : Dict String Json} (hcomputed : buildComputed decoded = .ok computed)
    (h : mqttPayload decoded = .ok payload) (hname : payload.get? name = some (.float x)) :
    ValueOf decoded computed name x := by
  obtain ⟨values, hvalues, h⟩ := bind_eq_ok.mp h
  have hvalue : (Dict.ofList (values.entries.map fun v => (v.1, Json.float v.2))).get? name = some (.float x) →
      ValueOf decoded computed name x := by
    intro hget
    obtain ⟨v, hv, hvx⟩ := List.mem_map.mp (Dict.mem_of_get?_ofList hget)
    cases hvx
    exact allValues_spec hcomputed hvalues (Dict.mem_entries.mp hv)
  simp only at h
  split at h
  · obtain ⟨label, -, h⟩ := bind_eq_ok.mp h
    cases h
    rw [Dict.get?_set] at hname
    split at hname
    · cases hname
    · exact hvalue hname
  · cases h
    exact hvalue hname

/-- Every field of the measurements is the value of a name that the table maps there. -/
def FieldsFrom (values : List (String × PyFloat)) (ms : Dict String (Dict String PyFloat)) : Prop :=
  ∀ measurement field x fields, ms.get? measurement = some fields → fields.get? field = some x →
    ∃ v ∈ values, REGISTER_TO_SA.lookup v.1 = some (measurement, field) ∧ v.2 = x

theorem addMeasurement_fields {values : List (String × PyFloat)} {ms : Dict String (Dict String PyFloat)}
    {v : String × PyFloat} (hv : v ∈ values) (h : FieldsFrom values ms) : FieldsFrom values (addMeasurement ms v) := by
  unfold addMeasurement
  split
  · next target measurement field htarget =>
    intro m f y fs hfs hy
    unfold setField at hfs
    rw [Dict.get?_set] at hfs
    split at hfs
    · next hm =>
      cases hfs
      rw [Dict.get?_set] at hy
      split at hy
      · next hf => exact ⟨v, hv, by rw [htarget, hm, hf], Option.some.inj hy⟩
      · cases hold : ms.get? measurement with
        | none =>
          rw [hold] at hy
          cases hy
        | some old =>
          rw [hold] at hy
          exact h m f y old (hm ▸ hold) hy
    · exact h m f y fs hfs hy
  · exact h

theorem saMeasurements_fields (values : List (String × PyFloat)) : FieldsFrom values (saMeasurements values) := by
  have hloop : ∀ vs : List (String × PyFloat), vs ⊆ values → ∀ ms, FieldsFrom values ms →
      FieldsFrom values (vs.foldl addMeasurement ms) := by
    intro vs
    induction vs with
    | nil => exact fun _ ms hms => hms
    | cons v vs ih =>
      intro hsub ms hms
      exact ih (fun u hu => hsub (List.mem_cons_of_mem v hu)) _
        (addMeasurement_fields (hsub List.mem_cons_self) hms)
  exact hloop values (fun _ h => h) .empty fun _ _ _ _ h => by cases h

theorem measurement_ne {v : String} {measurement field : String}
    (h : REGISTER_TO_SA.lookup v = some (measurement, field)) : measurement ≠ "luxmon_register" := by
  have hall : ∀ e ∈ REGISTER_TO_SA, e.2.1 ≠ "luxmon_register" := by
    decide +kernel
  obtain ⟨front, back, htable, -⟩ := List.lookup_eq_some_iff.mp h
  exact hall (v, measurement, field) (htable ▸ List.mem_append_right _ List.mem_cons_self)

/-- No two names go to one field. -/
theorem register_to_sa_injective {a b : String} {target : String × String} (ha : REGISTER_TO_SA.lookup a = some target)
    (hb : REGISTER_TO_SA.lookup b = some target) : a = b := by
  have hnodup : (REGISTER_TO_SA.map Prod.snd).Nodup := by
    decide +kernel
  have hmem : ∀ {a : String}, REGISTER_TO_SA.lookup a = some target → (a, target) ∈ REGISTER_TO_SA := fun h => by
    obtain ⟨front, back, htable, -⟩ := List.lookup_eq_some_iff.mp h
    exact htable ▸ List.mem_append_right _ List.mem_cons_self
  exact congrArg Prod.fst (List.inj_on_of_nodup_map hnodup (hmem ha) (hmem hb) rfl)

theorem toLine_some {measurement : String} {tags : List (String × String)} {fields : List (String × PyFloat)}
    {line : Line} (h : toLine measurement tags fields = some line) : line.measurement = measurement ∧
      (∀ t ∈ line.tags, t ∈ tags) ∧ ∀ f ∈ line.fields, f ∈ fields := by
  unfold toLine at h
  simp only at h
  split at h
  · cases h
  · cases h
    exact ⟨rfl, fun t ht => (List.mem_filter.mp ht).1, fun f hf => (List.mem_filter.mp hf).1⟩

theorem influx_spec {lines : List Line} {line : Line} (hcomputed : buildComputed decoded = .ok computed)
    (h : influxLines decoded = .ok lines) (hline : line ∈ lines) (hcarries : line.carries name x) :
    ValueOf decoded computed name x := by
  obtain ⟨values, hvalues, h⟩ := bind_eq_ok.mp h
  obtain ⟨registers, hregisters, h⟩ := bind_eq_ok.mp h
  cases h
  rcases List.mem_append.mp hline with hline | hline
  · -- a SolarAssistant measurement
    obtain ⟨m, hm, hline⟩ := List.mem_filterMap.mp hline
    obtain ⟨hmeasurement, -, hfields⟩ := toLine_some hline
    rcases hcarries with ⟨hcatch, -, hvalue⟩ | ⟨measurement, field, hlookup, hm', hvalue⟩
    · obtain ⟨v, -, hv, -⟩ := saMeasurements_fields _ _ _ _ _ (Dict.mem_entries.mp hm)
        (Dict.mem_entries.mp (hfields _ hvalue))
      exact absurd (hmeasurement.symm.trans hcatch) (measurement_ne hv)
    · obtain ⟨v, hv, hv', rfl⟩ := saMeasurements_fields _ _ _ _ _ (Dict.mem_entries.mp hm)
        (Dict.mem_entries.mp (hfields _ hvalue))
      rw [← hmeasurement, hm'] at hv'
      obtain rfl := register_to_sa_injective hlookup hv'
      exact allValues_spec hcomputed hvalues (Dict.mem_entries.mp hv)
  · -- a register point
    obtain ⟨v, hv, hline⟩ := List.mem_filterMap.mp hline
    obtain ⟨hmeasurement, htags, hfields⟩ := toLine_some hline
    rcases hcarries with ⟨-, htag, hvalue⟩ | ⟨measurement, field, hlookup, hm', -⟩
    · have hname : name = v.1 := by simpa using htags _ htag
      have hx : x = v.2.1 := by simpa using hfields _ hvalue
      rw [hname, hx]
      exact Or.inl (decodedValues_spec hregisters v hv)
    · exact absurd (hm'.symm.trans hmeasurement) (measurement_ne hlookup)

end

/-! ## Snapshots of the inverter -/

section
variable {decoded : Decoded} (hnumeric : ∀ name info, decoded.get? name = some info → info.Numeric)

include hnumeric

theorem saValue_exists (key : String) : ∃ x, saValue decoded key = .ok x := by
  unfold saValue
  cases hkey : decoded.get? key with
  | none => exact ⟨none, rfl⟩
  | some info =>
    obtain ⟨q, hq⟩ := hnumeric key info hkey
    exact ⟨some (.fin q), by simp only [Info.saValue, hq]⟩

theorem snapshotRows_exists : ∃ rows, snapshotRows decoded = .ok rows := by
  refine bind_exists_ok (mapM_exists_ok fun e he => ?_) fun rows =>
    bind_exists_ok (buildComputed_exists (saValue_exists hnumeric)) fun computed => ⟨_, rfl⟩
  obtain ⟨q, hq⟩ := hnumeric e.1 e.2 (Dict.mem_entries.mp he)
  exact bind_exists_ok ⟨.fin q, hq⟩ fun x => ⟨_, rfl⟩

theorem decodedValues_exists : ∃ values, decodedValues decoded = .ok values := by
  refine bind_exists_ok (mapM_exists_ok fun e he => ?_) fun values => ⟨_, rfl⟩
  obtain ⟨q, hq⟩ := hnumeric e.1 e.2 (Dict.mem_entries.mp he)
  exact bind_exists_ok ⟨some (.fin q), by simp only [Info.saValue, hq]⟩ fun x => ⟨_, rfl⟩

theorem allValues_exists : ∃ values, allValues decoded = .ok values :=
  bind_exists_ok (decodedValues_exists hnumeric) fun _ =>
    bind_exists_ok (buildComputed_exists (saValue_exists hnumeric)) fun _ => ⟨_, rfl⟩

theorem mqttPayload_exists : ∃ payload, mqttPayload decoded = .ok payload := by
  obtain ⟨computed, hcomputed⟩ := buildComputed_exists (saValue_exists hnumeric)
  obtain ⟨values, hvalues⟩ := allValues_exists hnumeric
  unfold mqttPayload
  rw [hvalues, ok_bind]
  simp only
  split
  · next state hstate =>
    -- the state is a decoded value
    rcases allValues_spec hcomputed hvalues hstate with ⟨info, hinfo, hvalue⟩ | hderived
    · obtain ⟨q, hq⟩ := hnumeric "state" info hinfo
      obtain rfl := Except.ok.inj (hvalue.symm.trans hq)
      refine bind_exists_ok ?_ fun label => ⟨_, rfl⟩
      unfold stateLabel PyFloat.toInt
      simp only
      split <;> exact ⟨_, rfl⟩
    · have hkey := (buildComputed_keys hcomputed).2 "state" (Dict.mem_keys_iff.mpr ⟨state, hderived⟩)
      exact absurd hkey (by decide)
  · exact ⟨_, rfl⟩

theorem writeOutputs_exists : ∃ rows written, snapshotRows decoded = .ok rows ∧
    writeOutputs "celsius" decoded = .ok written ∧ written.rows = rows ∧ influxLines decoded = .ok written.lines ∧
      mqttPayload decoded = .ok written.payload := by
  obtain ⟨rows, hrows⟩ := snapshotRows_exists hnumeric
  obtain ⟨payload, hpayload⟩ := mqttPayload_exists hnumeric
  obtain ⟨lines, hlines⟩ : ∃ lines, influxLines decoded = .ok lines :=
    bind_exists_ok (allValues_exists hnumeric) fun _ => bind_exists_ok (decodedValues_exists hnumeric) fun _ => ⟨_, rfl⟩
  have hshown : convertTemperatures "celsius" decoded = .ok decoded := if_pos (by decide)
  refine ⟨rows, ⟨rows, lines, payload⟩, hrows, ?_, rfl, hlines, hpayload⟩
  unfold writeOutputs writtenRows
  rw [hshown, ok_bind, hlines, ok_bind, hpayload, ok_bind, hrows]
  rfl

end

/-- Of the decoded names only that of register 170 is derived as well. -/
theorem derived_registers {family : DriverFamily} {register : Nat} {r : RegisterDef}
    (h : family.inputRegisters.get? register = some r) (hname : r.name ∈ computedNames) : register = 170 := by
  have hplain : ∀ name ∈ computedNames, namesBattery name = false := by
    decide +kernel
  have hall : ((baseInputRegisters ++ kpvExtra).all fun e =>
      !computedNames.contains e.2.name || e.1 == 170) = true := by
    decide +kernel
  have h := List.all_eq_true.mp hall _ (plainRegisters_mem h (hplain _ hname))
  rw [Bool.or_eq_true] at h
  rcases h with h | h
  · simp [hname] at h
  · exact beq_iff_eq.mp h

theorem register_170 (family : DriverFamily) :
    family.inputRegisters.get? 170 = some { name := "load_power", unit := "W" } :=
  base_register family (by decide) (by decide) rfl

theorem decode_derived (family : DriverFamily) {raw : Dict Nat Nat} {name : String}
    (h : name ∈ (family.decode raw).keys) (hderived : name ∈ computedNames) : 170 ∈ raw.keys := by
  have h := (clampValues_keys _ name).mp h
  rcases mem_decodeRegisters h with ⟨x, hx, r, hr, rfl⟩ | rfl
  · exact derived_registers hr hderived ▸ List.mem_map.mpr ⟨x, hx, rfl⟩
  · exact absurd hderived (by decide)

/-- The rows and the values of the backends agree exactly when register 170 was not read. -/
theorem one_value_iff (family : DriverFamily) (raw : Dict Nat Nat) :
    ∃ written, writeOutputs "celsius" (family.decode raw) = .ok written ∧ (written.OneValue ↔ 170 ∉ raw.keys) := by
  have hnumeric : ∀ name info, (family.decode raw).get? name = some info → info.Numeric := fun _ _ =>
    decode_numeric family raw
  obtain ⟨computed, hcomputed⟩ := buildComputed_exists (saValue_exists hnumeric)
  obtain ⟨rows, written, hrows, hwritten, rfl, hlines, hpayload⟩ := writeOutputs_exists hnumeric
  obtain ⟨hload, hnames⟩ := buildComputed_keys hcomputed
  obtain ⟨hrowNames, hrowValues⟩ := rows_spec hcomputed hrows
  refine ⟨written, hwritten, fun h h170 => ?_, fun h170 => ?_⟩
  · -- both the register and the derivation give a row
    obtain ⟨value, hvalue⟩ := Dict.mem_keys_iff.mp h170
    have hdecoded : "load_power" ∈ (family.decode raw).keys :=
      (clampValues_keys _ _).mpr (simple_decoded (register_170 family) rfl hvalue)
    obtain ⟨x, hx⟩ := Dict.mem_keys_iff.mp hload
    have hdistinct := h.distinct
    rw [hrowNames] at hdistinct
    refine (List.disjoint_of_nodup_append hdistinct) hdecoded (List.mem_filter.mpr ⟨by decide, ?_⟩)
    rw [hx]
    rfl
  · have hdisjoint : ∀ k ∈ (family.decode raw).keys, k ∉ computed.keys := fun k hk hk' =>
      h170 (decode_derived family hk (hnames k hk'))
    have hmariadb : ∀ {name x}, written.mariadb name x → ValueOf (family.decode raw) computed name x := by
      rintro name x ⟨row, hrow, rfl, rfl⟩
      exact hrowValues row hrow
    have hinflux : ∀ {name x}, written.influx name x → ValueOf (family.decode raw) computed name x := by
      rintro name x ⟨line, hline, hcarries⟩
      exact influx_spec hcomputed hlines hline hcarries
    have hmqtt : ∀ {name x}, written.mqtt name x → ValueOf (family.decode raw) computed name x := fun h =>
      mqtt_spec hcomputed hpayload h
    constructor
    · rw [hrowNames]
      refine List.nodup_append.mpr ⟨(family.decode raw).nodup, (by decide : storedComputed.Nodup).filter _, ?_⟩
      rintro a ha b hb rfl
      refine hdisjoint a ha (Dict.mem_keys_iff.mpr ?_)
      obtain ⟨x, hx⟩ := Option.isSome_iff_exists.mp (List.mem_filter.mp hb).2
      exact ⟨x, hx⟩
    · exact fun name x y hx hy => (hmariadb hx).unique hdisjoint (hinflux hy)
    · exact fun name x y hx hy => (hmariadb hx).unique hdisjoint (hmqtt hy)
    · exact fun name x y hx hy => (hinflux hx).unique hdisjoint (hmqtt hy)

theorem written_rows {temperatureUnit : String} {decoded : Decoded} {written : Written}
    (h : writeOutputs temperatureUnit decoded = .ok written) : written.rows = writtenRows decoded := by
  obtain ⟨shown, -, h⟩ := bind_eq_ok.mp h
  obtain ⟨lines, -, h⟩ := bind_eq_ok.mp h
  obtain ⟨payload, -, h⟩ := bind_eq_ok.mp h
  cases h
  rfl

/-- A battery at 51.2 V, and a load of 100 W that the inverter measured itself. -/
def loadRegisters : Dict Nat Nat := .ofList [(4, 512), (170, 100)]

theorem loadRegisters_decoded : decodeRegisters snaInputRegisters loadRegisters = .ofList [
    ("battery_voltage", { value := .float (.fin (timesDouble (512 : ℤ) 0.1)), unit := "V" }),
    ("load_power", { value := .float (.fin (timesDouble (100 : ℤ) 1)), unit := "W" })] := by
  have h4 : snaInputRegisters.get? 4 = some { name := "battery_voltage", unit := "V", scale := 0.1 } :=
    sna_base (by decide) rfl
  have hentries : loadRegisters.entries = [(4, 512), (170, 100)] := rfl
  refine (decodeRegisters_simple (fun register =>
    if register = 4 then { name := "battery_voltage", unit := "V", scale := 0.1 }
    else { name := "load_power", unit := "W" }) ?_ rfl).trans (by rw [hentries]; rfl)
  rw [hentries]
  rintro x hx
  rcases List.mem_cons.mp hx with rfl | hx
  · exact ⟨h4, rfl⟩
  · obtain rfl := List.mem_singleton.mp hx
    exact ⟨register_170 .sna, rfl⟩

theorem loadRegisters_rows :
    (writtenRows (DriverFamily.sna.decode loadRegisters)).map (fun row => (row.name, row.value)) =
      [("battery_voltage", .fin (nearest 51.2)), ("load_power", .fin 100), ("load_power", .fin 0)] := by
  have hdecoded : DriverFamily.sna.decode loadRegisters = clampValues (.ofList [
      ("battery_voltage", { value := .float (.fin (timesDouble (512 : ℤ) 0.1)), unit := "V" }),
      ("load_power", { value := .float (.fin (timesDouble (100 : ℤ) 1)), unit := "W" })]) :=
    congrArg clampValues loadRegisters_decoded
  rw [hdecoded]
  decide +kernel

/-- MariaDB gets the load power twice, with two values. -/
theorem load_power_two_values :
    (writtenRows (DriverFamily.sna.decode loadRegisters)).map (fun row => (row.name, row.value)) =
        [("battery_voltage", .fin (nearest 51.2)), ("load_power", .fin 100), ("load_power", .fin 0)] ∧
      ¬ ∀ (family : DriverFamily) (raw : Dict Nat Nat),
        ∃ written, writeOutputs "celsius" (family.decode raw) = .ok written ∧ written.OneValue := by
  refine ⟨loadRegisters_rows, fun h => ?_⟩
  obtain ⟨written, hwritten, hone⟩ := h .sna loadRegisters
  have hnames := congrArg (List.map Prod.fst) loadRegisters_rows
  rw [List.map_map, ← written_rows hwritten] at hnames
  have hdistinct : (List.map (Prod.fst ∘ fun row : RegisterRow => (row.name, row.value)) written.rows).Nodup :=
    hone.distinct
  rw [hnames] at hdistinct
  exact absurd hdistinct (by decide)

end LuxMon
