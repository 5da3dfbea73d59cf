import LuxMon.Storage.OneValue

/-!
# The MQTT state of a decoded snapshot

All decoded values are finite numbers, so the payload is known name by name: a derived
value, else the decoded one in the configured temperature unit.

    a derived name is there when what it is derived from is    (mem_computed)
    the payload has every decoded and every derived number     (payload_get?)
    the payload has only numbers, and a label                   (mqttPayload_state)
-/

namespace LuxMon

open Python

/-- Every value is a finite number. -/
def Decoded.Numeric (decoded : Decoded) : Prop := ∀ name info, decoded.get? name = some info → info.Numeric

/-- The number of an entry. -/
def Info.number (info : Info) : ℚ :=
  match info.value.toFloat with
  | .ok (.fin q) => q
  | _ => 0

theorem Info.Numeric.number_eq {info : Info} (h : info.Numeric) : info.value.toFloat = .ok (.fin info.number) := by
  obtain ⟨q, hq⟩ := h
  unfold Info.number
  rw [hq]

/-- The number of a name. -/
def quantity (decoded : Decoded) (name : String) : Option ℚ := (decoded.get? name).map Info.number

theorem quantity_isSome {decoded : Decoded} {name : String} :
    (quantity decoded name).isSome = true ↔ name ∈ decoded.keys := by
  rw [quantity, Option.isSome_map, Option.isSome_iff_exists, Dict.mem_keys_iff]

/-- A dict with the same keys. -/
theorem get?_mapEntries {α β γ : Type} [DecidableEq α] (d : Dict α β) (f : α → β → γ) (k : α) :
    (Dict.ofList (d.entries.map fun e => (e.1, f e.1 e.2))).get? k = (d.get? k).map (f k) := by
  have hkeys : (d.entries.map fun e => (e.1, f e.1 e.2)).map Prod.fst = d.entries.map Prod.fst := by
    rw [List.map_map]
    rfl
  unfold Dict.get?
  rw [Dict.entries_ofList (hkeys ▸ d.nodup), lookup_map_entries]

/-! ## Derived values -/

section
variable {decoded : Decoded} (hnumeric : decoded.Numeric)

include hnumeric

theorem Info.saValue_number {info : Info} {name : String} (h : decoded.get? name = some info) :
    info.saValue = .ok (some (.fin info.number)) := by
  unfold Info.saValue
  rw [(hnumeric name info h).number_eq]

theorem saValue_quantity (name : String) : saValue decoded name = .ok ((quantity decoded name).map .fin) := by
  unfold saValue quantity
  cases h : decoded.get? name with
  | none => rfl
  | some info => exact Info.saValue_number hnumeric h

end

@[simp] theorem orZero_fin (q : Option ℚ) : orZero (q.map .fin) = .fin (q.getD 0) := by
  unfold orZero orNum
  cases q with
  | none => rfl
  | some q =>
    by_cases hq : q = 0
    · subst hq
      rfl
    · have htruthy : (PyFloat.fin q).truthy = true := by simpa [PyFloat.truthy] using hq
      simp [htruthy]

theorem add_fin_fin (a b : ℚ) : (PyFloat.fin a).add (.fin b) = .fin (a + b) := rfl

theorem lt_fin_fin (a b : ℚ) : (PyFloat.fin a).lt (.fin b) = decide (a < b) := rfl

theorem mem_assignIf {cond : Bool} {key k : String} {value : PyFloat} :
    k ∈ (assignIf cond key value).map Prod.fst ↔ k = key ∧ cond = true := by
  unfold assignIf
  cases cond <;> simp

theorem mem_assignSome {key k : String} {value : Option PyFloat} :
    k ∈ (assignSome key value).map Prod.fst ↔ k = key ∧ value.isSome = true := by
  unfold assignSome
  cases value <;> simp

/-- All values are finite. -/
def AllFinite (es : List (String × PyFloat)) : Prop := ∀ e ∈ es, ∃ q, e.2 = .fin q

theorem AllFinite.append {es es' : List (String × PyFloat)} (h : AllFinite es) (h' : AllFinite es') :
    AllFinite (es ++ es') := List.forall_mem_append.mpr ⟨h, h'⟩

theorem single_finite (key : String) {x : PyFloat} (h : ∃ q, x = .fin q) : AllFinite [(key, x)] := by
  intro e he
  obtain rfl := List.mem_singleton.mp he
  exact h

theorem assignIf_finite (cond : Bool) (key : String) (q : ℚ) : AllFinite (assignIf cond key (.fin q)) := by
  unfold assignIf AllFinite
  cases cond <;> simp

theorem assignSome_finite (key : String) (q : Option ℚ) : AllFinite (assignSome key (q.map .fin)) := by
  unfold assignSome AllFinite
  cases q <;> simp

theorem max_fin_fin (a b : ℚ) : ∃ q, (PyFloat.fin a).max (.fin b) = .fin q := by
  unfold PyFloat.max
  split
  · exact ⟨b, rfl⟩
  · exact ⟨a, rfl⟩

/-- What it takes to derive a value: that one of some names is there, or that one of two powers flows. -/
inductive Need
  | nothing
  | one (names : List String)
  | flow (power power' : String)

def Need.powers : Need → List String
  | .flow power power' => [power, power']
  | _ => []

/-- The derived names but the PV currents, with what they need. -/
def derivedNames : List (String × Need) := [
  ("pv_power_total", .one ["pv1_power", "pv2_power", "pv3_power"]),
  ("grid_power_net", .flow "grid_export_power" "grid_import_power"),
  ("battery_power_net", .flow "charge_power" "discharge_power"),
  ("load_power", .nothing),
  ("ac_output_voltage", .one ["eps_voltage_r"]),
  ("pv_energy_total", .one ["pv1_energy_total", "pv2_energy_total", "pv3_energy_total"]),
  ("battery_in_energy_total", .one ["charge_energy_total"]),
  ("battery_out_energy_total", .one ["discharge_energy_total"]),
  ("grid_import_energy_total", .one ["grid_import_total"]),
  ("grid_export_energy_total", .one ["grid_export_total"])]

/-- The power flows. -/
def Flows (decoded : Decoded) (name : String) : Prop := ∃ q, quantity decoded name = some q ∧ 0 < q

def Need.Met (decoded : Decoded) : Need → Prop
  | .nothing => True
  | .one names => ∃ name ∈ names, name ∈ decoded.keys
  | .flow power power' => Flows decoded power ∨ Flows decoded power'

/-- The name can be derived. -/
def Derives (decoded : Decoded) (k : String) : Prop := ∃ e ∈ derivedNames, k = e.1 ∧ e.2.Met decoded

theorem lt_getD_iff {q : Option ℚ} : 0 < q.getD 0 ↔ ∃ x, q = some x ∧ 0 < x := by
  cases q with
  | none => simp
  | some q => simp

/-- A sum of powers is not positive when none is there. -/
theorem sum_cond {a b c : Option ℚ} :
    (decide (0 < a.getD 0 + b.getD 0 + c.getD 0) || (a.isSome || b.isSome || c.isSome)) =
      (a.isSome || b.isSome || c.isSome) := by
  cases a <;> cases b <;> cases c <;> simp

section
variable {decoded : Decoded} (hnumeric : decoded.Numeric)

include hnumeric

theorem pvCurrent_finite (cKey vKey pKey : String) :
    ∃ es, pvCurrent decoded cKey vKey pKey = .ok es ∧ AllFinite es ∧ ∀ k ∈ es.map Prod.fst, k = cKey := by
  have hnames := fun es (h : pvCurrent decoded cKey vKey pKey = .ok es) k (hk : k ∈ es.map Prod.fst) => pvCurrent_names h hk
  unfold pvCurrent at hnames ⊢
  simp only [saValue_quantity hnumeric, ok_bind] at hnames ⊢
  split
  · exact ⟨[], rfl, fun _ h => (by cases h), by simp⟩
  · split
    · next v p hv hp =>
      obtain ⟨qv, -, rfl⟩ := Option.map_eq_some_iff.mp hv
      obtain ⟨qp, -, rfl⟩ := Option.map_eq_some_iff.mp hp
      refine ⟨_, rfl, fun e he => ?_, fun k hk => assignIf_names hk⟩
      unfold assignIf at he
      split at he
      · obtain rfl := List.mem_singleton.mp he
        exact ⟨qp / qv, rfl⟩
      · cases he
    · exact ⟨[], rfl, fun _ h => (by cases h), by simp⟩

/-- All that is derived is finite, and what is derived depends on what is there. -/
theorem mem_computed : ∃ computed, buildComputed decoded = .ok computed ∧
    (∀ k x, computed.get? k = some x → ∃ q, x = .fin q) ∧
      ∀ k, k ≠ "pv1_current" → k ≠ "pv2_current" → (k ∈ computed.keys ↔ Derives decoded k) := by
  obtain ⟨es₁, hes₁, hfinite₁, hnames₁⟩ := pvCurrent_finite hnumeric "pv1_current" "pv1_voltage" "pv1_power"
  obtain ⟨es₂, hes₂, hfinite₂, hnames₂⟩ := pvCurrent_finite hnumeric "pv2_current" "pv2_voltage" "pv2_power"
  unfold buildComputed
  simp only [saValue_quantity hnumeric, ok_bind, hes₁, hes₂, orZero_fin]
  refine ⟨_, rfl, fun k x hx => ?_, fun k hk₁ hk₂ => ?_⟩
  · refine ((((((((((((assignIf_finite _ _ _).append (assignIf_finite _ _ _)).append (assignIf_finite _ _ _)).append
      (single_finite _ (max_fin_fin _ _))).append (assignSome_finite _ _)).append hfinite₁).append hfinite₂).append
      (assignIf_finite _ _ _)).append (assignSome_finite _ _)).append (assignSome_finite _ _)).append
      (assignSome_finite _ _)).append (assignSome_finite _ _)) _ (Dict.mem_of_get?_ofList hx)
  · have hnot₁ : k ∉ es₁.map Prod.fst := fun h => hk₁ (hnames₁ k h)
    have hnot₂ : k ∉ es₂.map Prod.fst := fun h => hk₂ (hnames₂ k h)
    have hempty : k ∉ (Dict.empty : Dict String PyFloat).keys := List.not_mem_nil
    have hflows : ∀ name, Flows decoded name ↔ 0 < (quantity decoded name).getD 0 := fun name => lt_getD_iff.symm
    unfold Dict.ofList
    rw [Dict.mem_keys_sets]
    simp only [List.map_append, List.mem_append, mem_assignIf, mem_assignSome, List.map_cons, List.map_nil,
      List.mem_singleton, hnot₁, hnot₂, hempty, add_fin_fin, lt_fin_fin, Option.isSome_map, sum_cond, Bool.or_eq_true,
      quantity_isSome, decide_eq_true_eq, or_false, false_or, or_assoc]
    simp only [Derives, derivedNames, Need.Met, List.mem_cons, List.not_mem_nil, or_false, exists_eq_or_imp,
      exists_eq_left, hflows, and_true]

/-! ## The payload -/

theorem decodedValues_eq : decodedValues decoded =
    .ok (decoded.entries.map fun e => (e.1, PyFloat.fin e.2.number, e.2.unit)) := by
  unfold decodedValues
  rw [mapM_ok (g := fun e => some (e.1, PyFloat.fin e.2.number, e.2.unit)) fun e he => ?_, ok_bind]
  · have hsome : (decoded.entries.map fun e => some (e.1, PyFloat.fin e.2.number, e.2.unit)).reduceOption =
        decoded.entries.map fun e => (e.1, PyFloat.fin e.2.number, e.2.unit) := by
      rw [List.reduceOption, List.filterMap_map]
      exact congrFun List.filterMap_eq_map decoded.entries
    rw [hsome]
    rfl
  · rw [Info.saValue_number hnumeric (Dict.mem_entries.mp he)]
    rfl

theorem allValues_get? {computed : Dict String PyFloat} (hcomputed : buildComputed decoded = .ok computed) :
    ∃ values, allValues decoded = .ok values ∧
      ∀ k, values.get? k = (computed.get? k).or ((quantity decoded k).map .fin) := by
  unfold allValues
  rw [decodedValues_eq hnumeric, hcomputed]
  refine ⟨_, rfl, fun k => ?_⟩
  rw [Dict.get?_update, List.map_map]
  refine congrArg _ ((get?_mapEntries decoded (fun _ info => PyFloat.fin info.number) k).trans ?_)
  rw [quantity, Option.map_map]
  rfl

/-- Name by name: a derived value hides the decoded one. -/
theorem payload_get? {computed : Dict String PyFloat} (hcomputed : buildComputed decoded = .ok computed) :
    ∃ payload, mqttPayload decoded = .ok payload ∧ ∀ k, k ≠ "state_label" →
      payload.get? k = ((computed.get? k).or ((quantity decoded k).map .fin)).map .float := by
  obtain ⟨payload, hpayload⟩ := mqttPayload_exists hnumeric
  refine ⟨payload, hpayload, fun k hk => ?_⟩
  obtain ⟨values, hvalues, hget⟩ := allValues_get? hnumeric hcomputed
  rw [← hget k]
  have hplain := get?_mapEntries values (fun _ => Json.float) k
  unfold mqttPayload at hpayload
  rw [hvalues, ok_bind] at hpayload
  dsimp only at hpayload
  split at hpayload
  · obtain ⟨label, -, h⟩ := bind_eq_ok.mp hpayload
    obtain rfl := Except.ok.inj h
    rw [Dict.get?_set, if_neg hk]
    exact hplain
  · obtain rfl := Except.ok.inj hpayload
    exact hplain

/-- The state that is published of a snapshot. -/
structure StateOf (decoded : Decoded) (payload : Dict String Json) : Prop where
  finite : ∀ k value, k ≠ "state_label" → payload.get? k = some value → ∃ q, value = .float (.fin q)
  present : ∀ k, k ∉ ["state_label", "pv1_current", "pv2_current"] →
    (k ∈ payload.keys ↔ k ∈ decoded.keys ∨ Derives decoded k)
  decoded : ∀ k, k ≠ "state_label" → k ∉ computedNames →
    payload.get? k = (quantity decoded k).map fun q => .float (.fin q)

theorem mqttPayload_state : ∃ payload, mqttPayload decoded = .ok payload ∧ StateOf decoded payload := by
  obtain ⟨computed, hcomputed, hfinite, hderives⟩ := mem_computed hnumeric
  obtain ⟨payload, hpayload, hget⟩ := payload_get? hnumeric hcomputed
  refine ⟨payload, hpayload, fun k value hk hvalue => ?_, fun k hk => ?_, fun k hk hderived => ?_⟩
  · rw [hget k hk] at hvalue
    obtain ⟨x, hx, rfl⟩ := Option.map_eq_some_iff.mp hvalue
    rcases Option.or_eq_some_iff.mp hx with hx | ⟨-, hx⟩
    · obtain ⟨q, rfl⟩ := hfinite k x hx
      exact ⟨q, rfl⟩
    · obtain ⟨q, -, rfl⟩ := Option.map_eq_some_iff.mp hx
      exact ⟨q, rfl⟩
  · simp only [List.mem_cons, List.not_mem_nil, or_false, not_or] at hk
    rw [← hderives k hk.2.1 hk.2.2, Dict.mem_keys_iff, ← Option.isSome_iff_exists, hget k hk.1, Option.isSome_map,
      Option.isSome_or, Option.isSome_map, Bool.or_eq_true, quantity_isSome, Option.isSome_iff_exists,
      ← Dict.mem_keys_iff, or_comm]
  · have hnone : computed.get? k = none := by
      refine lookup_of_not_mem fun hmem => hderived ?_
      exact (buildComputed_keys hcomputed).2 k hmem
    rw [hget k hk, hnone, Option.none_or, Option.map_map]
    rfl

end

/-! ## In the configured unit -/

/-- `toFahrenheit` of a number. -/
def fahrenheit (q : ℚ) : ℚ := roundHalfEven ((q * 9 / 5 + 32) * 10) / 10

/-- The number of a name as it is shown in a temperature unit. -/
def inUnit (temperatureUnit k : String) (q : ℚ) : ℚ :=
  if temperatureUnit = "fahrenheit" ∧ k ∈ TEMP_KEYS ++ ["outside_temperature"] then fahrenheit q else q

/-- By induction on the keys that are converted. -/
theorem convertTemperatures_numeric (temperatureUnit : String) {decoded : Decoded} (hnumeric : decoded.Numeric) :
    ∃ shown, convertTemperatures temperatureUnit decoded = .ok shown ∧ shown.Numeric ∧
      ∀ k, quantity shown k = (quantity decoded k).map (inUnit temperatureUnit k) := by
  have hnodup : (TEMP_KEYS ++ ["outside_temperature"]).Nodup := by
    decide
  unfold convertTemperatures inUnit
  by_cases hunit : temperatureUnit = "fahrenheit"
  · rw [if_neg (not_not.mpr hunit)]
    generalize TEMP_KEYS ++ ["outside_temperature"] = keys at hnodup ⊢
    induction keys generalizing decoded with
    | nil => exact ⟨decoded, rfl, hnumeric, fun k => by simp⟩
    | cons key keys ih =>
      obtain ⟨hnew, hnodup⟩ := List.nodup_cons.mp hnodup
      rw [List.foldlM_cons]
      cases hkey : decoded.get? key with
      | none =>
        obtain ⟨shown, hshown, hshownNumeric, hquantity⟩ := ih hnumeric hnodup
        refine ⟨shown, hshown, hshownNumeric, fun k => ?_⟩
        rw [hquantity k]
        by_cases hk : k = key
        · subst hk
          simp [quantity, hkey]
        · simp [hk]
      | some info =>
        obtain ⟨q, hq⟩ := hnumeric key info hkey
        have hset : Decoded.Numeric (decoded.set key { value := .float (toFahrenheit (.fin q)), unit := "°F" }) :=
          Dict.set_all (P := Info.Numeric) hnumeric ⟨fahrenheit q, rfl⟩
        obtain ⟨shown, hshown, hshownNumeric, hquantity⟩ := ih hset hnodup
        refine ⟨shown, ?_, hshownNumeric, fun k => ?_⟩
        · dsimp only
          rw [hq, ok_bind]
          exact hshown
        · rw [hquantity k]
          unfold quantity
          rw [Dict.get?_set]
          by_cases hk : k = key
          · subst hk
            have hnumber : info.number = q := by
              unfold Info.number
              rw [hq]
            simp [hunit, hnew, hkey, hnumber]
            rfl
          · simp [hk]
  · rw [if_pos hunit]
    exact ⟨decoded, rfl, hnumeric, fun k => by simp [hunit]⟩

end LuxMon
