import LuxMon.Alerts.Delivered
import LuxMon.Api.Snapshot
import LuxMon.Config.Settings
import LuxMon.Effects.Ensures
import LuxMon.Storage.OneValue

/-!
# The live alert view

`api_alerts_live` evaluates the alerts once more for the latest snapshot: with a new
`Alerts`, the settings as they are stored, and the registers as
`_fetch_latest_snapshot` shows them.

    what the view reads is what was decoded, temperatures in the shown unit    (viewed_num)
    the timer of the collector is the first moment of the absence so far       (gridLostSince_after)
    the view agrees with the collector on every alert whose rule depends on
      neither                                                                  (alerts_live_iff)
-/

namespace LuxMon

open Python Effects

/-! ## The endpoint -/

/-- `settings.get`; a read that fails is logged. -/
def settingsGet (name : String) : Sql (Option String) := do
  let row ← (selectSetting name).tryCatch fun _ => return none
  return row.or (defaults.lookup name)

/-- `_bool` of the endpoint. -/
def liveBool (raw : Option String) : Bool := raw.any fun s => ["true", "1", "yes", "on"].contains s.toLower

/-- `_float` of the endpoint. -/
def liveFloat (raw : Option String) (default : PyFloat) : PyFloat :=
  match raw with
  | none => default
  | some s =>
    match floatOfString s with
    | .ok x => x
    | .error _ => default

/-- The namespace that is built from the settings; the rest of it is absent. -/
def fetchLiveConfig : Sql OutputConfig := do
  getConn
  let enabled ← settingsGet "alerts_enabled"
  let socLow ← settingsGet "alerts_soc_low"
  let socCritical ← settingsGet "alerts_soc_critical"
  let batteryTempHigh ← settingsGet "alerts_battery_temp_high"
  let inverterTempHigh ← settingsGet "alerts_inverter_temp_high"
  let gridLostThresholdSec ← settingsGet "alerts_grid_lost_threshold_sec"
  return {
    alertsEnabled := liveBool enabled
    alertsSocLow := liveFloat socLow (.fin 20)
    alertsSocCritical := liveFloat socCritical (.fin 10)
    alertsBatteryTempHigh := liveFloat batteryTempHigh (.fin 50)
    alertsInverterTempHigh := liveFloat inverterTempHigh (.fin 60)
    alertsGridLostThresholdSec := liveFloat gridLostThresholdSec (.fin 30)
    mqttEnabled := false }

/-- An alert of the answer. -/
structure LiveAlert where
  active : Bool
  value : PyFloat
  message : String

structure LiveAlerts where
  alerts : List (AlertName × LiveAlert)
  snapshotId : Option Nat
  timestamp : Option Nat

/-- The bare values of the shown registers. -/
def LiveSnapshot.values (snap : LiveSnapshot) : Snapshot := fun key => (snap.registers.get? key).map Info.value

/-- `Alerts(cfg)`, without any connection. -/
def liveEvaluator (cfg : OutputConfig) : Alerts where
  cfg := cfg
  mqttClient := false
  mariadbConn := false
  notifiers := { cfg := cfg }

/-- `api_alerts_live`, evaluated at a moment. -/
def apiAlertsLive (m : Moment) : Sql LiveAlerts := do
  match ← fetchLatestSnapshot with
  | none => return { alerts := [], snapshotId := none, timestamp := none }
  | some snap =>
    let cfg ← fetchLiveConfig
    let states := ((liveEvaluator cfg).evaluate m snap.values).2.1
    return {
      alerts := states.map fun s => (s.1, { active := s.2.active, value := s.2.value, message := s.2.message })
      snapshotId := some snap.snapshotId
      timestamp := some snap.timestamp }

/-- The active flag of an alert in the answer. -/
def LiveAlerts.verdict (live : LiveAlerts) (name : AlertName) : Option Bool :=
  (live.alerts.lookup name).map LiveAlert.active

/-! ## A database that answers -/

/-- The tables and the settings answer every read, and stay as they are. -/
def Tables.serves (settings : Rows) (t : Tables) (ev : TableEvent) (t' : Tables) : Prop :=
  t' = t ∧
    match ev with
    | ⟨.getConn, r⟩ => r = .ok ()
    | ⟨.selectLatest, r⟩ => r = .ok t.latest
    | ⟨.selectRegisters id names, r⟩ => ∃ rows, r = .ok rows ∧ rows.Perm ((t.registersOf id).filter (wanted names))
    | ⟨.selectSetting name, r⟩ => r = .ok (settings name)
    | _ => True

section
variable {settings : Rows} {t : Tables}

theorem getConn_yields : Yields (Tables.serves settings) t getConn () := by
  refine (ensures_ask _ _).mpr ?_
  rintro r _ ⟨rfl, hr⟩
  exact yields_ofExcept hr

theorem selectLatest_yields : Yields (Tables.serves settings) t selectLatest t.latest := by
  refine (ensures_ask _ _).mpr ?_
  rintro r _ ⟨rfl, hr⟩
  exact yields_ofExcept hr

theorem selectSetting_yields (name : String) :
    Yields (Tables.serves settings) t (selectSetting name) (settings name) := by
  refine (ensures_ask _ _).mpr ?_
  rintro r _ ⟨rfl, hr⟩
  exact yields_ofExcept hr

theorem settingsGet_yields (name : String) :
    Yields (Tables.serves settings) t (settingsGet name) (stored settings name) :=
  Yields.bind (selectSetting_yields name).tryCatch (yields_pure _)

/-- The configuration of the view with these settings. -/
def liveConfig (settings : Settings) : OutputConfig where
  alertsEnabled := liveBool (settings "alerts_enabled")
  alertsSocLow := liveFloat (settings "alerts_soc_low") (.fin 20)
  alertsSocCritical := liveFloat (settings "alerts_soc_critical") (.fin 10)
  alertsBatteryTempHigh := liveFloat (settings "alerts_battery_temp_high") (.fin 50)
  alertsInverterTempHigh := liveFloat (settings "alerts_inverter_temp_high") (.fin 60)
  alertsGridLostThresholdSec := liveFloat (settings "alerts_grid_lost_threshold_sec") (.fin 30)
  mqttEnabled := false

theorem fetchLiveConfig_yields :
    Yields (Tables.serves settings) t fetchLiveConfig (liveConfig (stored settings)) :=
  getConn_yields.bind <| (settingsGet_yields _).bind <| (settingsGet_yields _).bind <|
    (settingsGet_yields _).bind <| (settingsGet_yields _).bind <| (settingsGet_yields _).bind <|
      (settingsGet_yields _).bind (yields_pure _)

end

/-! ## What the view reads -/

/-- A temperature as it is shown. -/
def Info.fahrenheit (info : Info) : Info :=
  match info with
  | { value := .float c, .. } => { value := .float (toFahrenheit c), unit := "°F" }
  | _ => info

theorem showFahrenheit_get? (registers : Decoded) (key k : String) :
    (showFahrenheit registers key).get? k =
      if k = key then (registers.get? k).map Info.fahrenheit else registers.get? k := by
  unfold showFahrenheit
  split
  · next c unit hkey =>
    rw [Dict.get?_set]
    split
    · next hk =>
      rw [hk, hkey]
      rfl
    · rfl
  · next hother =>
    split
    · next hk =>
      subst hk
      cases hinfo : registers.get? k with
      | none => rfl
      | some info =>
        obtain ⟨value, unit⟩ := info
        cases value with
        | float c => exact absurd hinfo (hother c unit)
        | _ => rfl
    · rfl

theorem showFahrenheit_foldl {keys : List String} (hnodup : keys.Nodup) (registers : Decoded) (k : String) :
    (keys.foldl showFahrenheit registers).get? k =
      if k ∈ keys then (registers.get? k).map Info.fahrenheit else registers.get? k := by
  induction keys generalizing registers with
  | nil => rfl
  | cons key keys ih =>
    obtain ⟨hkey, hnodup⟩ := List.nodup_cons.mp hnodup
    rw [List.foldl_cons, ih hnodup, showFahrenheit_get?]
    by_cases hk : k = key
    · subst hk
      rw [if_neg hkey, if_pos rfl, if_pos List.mem_cons_self]
    · rw [if_neg hk]
      exact if_congr (by rw [List.mem_cons, or_iff_right hk]) rfl rfl

/-- A reading in the shown unit. -/
def shownReading (unit : Option String) (key : String) (c : PyFloat) : PyFloat :=
  if unit.getD "celsius" = "fahrenheit" ∧ key ∈ TEMP_KEYS then toFahrenheit c else c

theorem converted_value (unit : Option String) {registers : Decoded} {key : String} {reading : Option PyFloat}
    (h : (registers.get? key).map Info.value = reading.map Json.float) :
    ((apiConvertTemperatures unit registers).get? key).map Info.value =
      (reading.map (shownReading unit key)).map Json.float := by
  unfold apiConvertTemperatures shownReading
  by_cases hunit : unit.getD "celsius" = "fahrenheit"
  · rw [if_pos hunit, showFahrenheit_foldl (by decide)]
    by_cases hkey : key ∈ TEMP_KEYS
    · rw [if_pos hkey]
      cases hinfo : registers.get? key with
      | none =>
        rw [hinfo] at h
        cases reading with
        | none => rfl
        | some c => cases h
      | some info =>
        rw [hinfo] at h
        cases reading with
        | none => cases h
        | some c =>
          obtain ⟨value, u⟩ := info
          obtain rfl : value = .float c := Option.some.inj h
          simp only [Option.map_some, hunit, hkey, and_self, if_true, Info.fahrenheit]
    · simpa only [hkey, and_false, if_false, Option.map_id'] using h
  · simpa only [hunit, false_and, if_false, Option.map_id'] using h

/-- The names under which labels stand. -/
def labelNames : List String := registerLabels.map fun l => l.2.1

theorem addLabel_get? {registers labelled : Decoded} {l : String × String × (Json → Except PyErr String)} {k : String}
    (h : addLabel registers l = .ok labelled) (hk : k ≠ l.2.1) : labelled.get? k = registers.get? k := by
  unfold addLabel at h
  split at h
  · obtain ⟨label, -, h⟩ := bind_eq_ok.mp h
    cases h
    rw [Dict.get?_set, if_neg hk]
  · cases h
    rfl

/-- The labels stand beside the registers. -/
theorem addLabels_get? {registers labelled : Decoded} {k : String} (h : addLabels registers = .ok labelled)
    (hk : k ∉ labelNames) : labelled.get? k = registers.get? k := by
  unfold addLabels at h
  unfold labelNames at hk
  generalize registerLabels = labels at h hk
  induction labels generalizing registers with
  | nil =>
    cases h
    rfl
  | cons l labels ih =>
    obtain ⟨next, hnext, h⟩ := bind_eq_ok.mp h
    rw [List.map_cons, List.mem_cons, not_or] at hk
    rw [ih h hk.2, addLabel_get? hnext hk.1]

/-- A label of a finite float never raises. -/
theorem label_exists {l : String × String × (Json → Except PyErr String)} (hl : l ∈ registerLabels) (q : ℚ) :
    ∃ label, l.2.2 (.float (.fin q)) = .ok label := by
  unfold registerLabels at hl
  simp only [List.mem_cons, List.not_mem_nil, or_false] at hl
  rcases hl with rfl | rfl | rfl | rfl | rfl | rfl <;> exact ⟨_, rfl⟩

theorem addLabel_exists {registers : Decoded} {l : String × String × (Json → Except PyErr String)}
    (hl : l ∈ registerLabels) (h : ∀ info, registers.get? l.1 = some info → ∃ q, info.value = .float (.fin q)) :
    ∃ labelled, addLabel registers l = .ok labelled := by
  unfold addLabel
  cases hinfo : registers.get? l.1 with
  | none => exact ⟨registers, rfl⟩
  | some info =>
    obtain ⟨q, hq⟩ := h info hinfo
    obtain ⟨label, hlabel⟩ := label_exists hl q
    simp only [hq, hlabel]
    exact ⟨_, rfl⟩

theorem addLabels_exists {registers : Decoded}
    (h : ∀ l ∈ registerLabels, ∀ info, registers.get? l.1 = some info → ∃ q, info.value = .float (.fin q)) :
    ∃ labelled, addLabels registers = .ok labelled := by
  -- no raw code stands under the name of a label
  have hraw : ∀ l ∈ registerLabels, ∀ l' ∈ registerLabels, l'.1 ≠ l.2.1 := by
    have hall : ((registerLabels.map fun l => l.2.1).all fun name =>
        !(registerLabels.map Prod.fst).contains name) = true := by
      decide
    intro l hl l' hl' heq
    have hname := List.all_eq_true.mp hall l.2.1 (List.mem_map_of_mem hl)
    have hmem : l.2.1 ∈ registerLabels.map Prod.fst := heq ▸ List.mem_map_of_mem hl'
    simp [hmem] at hname
  unfold addLabels
  generalize hlabels : registerLabels = labels at h hraw
  have hsub : ∀ l ∈ labels, l ∈ registerLabels := fun l hl => hlabels ▸ hl
  clear hlabels
  induction labels generalizing registers with
  | nil => exact ⟨registers, rfl⟩
  | cons l labels ih =>
    obtain ⟨next, hnext⟩ := addLabel_exists (hsub l List.mem_cons_self) (h l List.mem_cons_self)
    rw [List.foldlM_cons, hnext, ok_bind]
    refine ih (fun l' hl' info hinfo => ?_) (fun l' hl' l'' hl'' => ?_) fun l' hl' => hsub l' (List.mem_cons_of_mem l hl')
    · rw [addLabel_get? hnext (hraw l List.mem_cons_self l' (List.mem_cons_of_mem l hl'))] at hinfo
      exact h l' (List.mem_cons_of_mem l hl') info hinfo
    · exact hraw l' (List.mem_cons_of_mem l hl') l'' (List.mem_cons_of_mem l hl'')

theorem num_snapshot (decoded : Decoded) (key : String) :
    num decoded.snapshot key = (decoded.get? key).bind fun info => info.value.toFloat.toOption := by
  unfold num Decoded.snapshot
  cases decoded.get? key <;> rfl

theorem num_values (snap : LiveSnapshot) (key : String) (reading : Option PyFloat)
    (h : (snap.registers.get? key).map Info.value = reading.map Json.float) : num snap.values key = reading := by
  unfold num LiveSnapshot.values
  rw [h]
  cases reading <;> rfl

section
variable {decoded : Decoded} {rows : List RegisterRow}
  (hnumeric : ∀ name info, decoded.get? name = some info → info.Numeric) (hrows : rows.Perm (writtenRows decoded))

include hnumeric hrows

/-- A name that is not derived has the one row of its decoded value. -/
theorem rowRegisters_value {key : String} (hkey : key ∉ computedNames) :
    ((rowRegisters rows).get? key).map Info.value = (num decoded.snapshot key).map Json.float := by
  obtain ⟨stored, hstored⟩ := snapshotRows_exists hnumeric
  obtain ⟨computed, hcomputed⟩ := buildComputed_exists (saValue_exists hnumeric)
  obtain ⟨hnames, hvalues⟩ := rows_spec hcomputed hstored
  have hrows : rows.Perm stored := by
    unfold writtenRows at hrows
    rwa [hstored] at hrows
  have hcomputedKey : key ∉ computed.keys := fun h => hkey ((buildComputed_keys hcomputed).2 key h)
  rw [num_snapshot]
  cases hfound : (rowRegisters rows).get? key with
  | some shown =>
    obtain ⟨row, hrow, hshown⟩ := List.mem_map.mp (Dict.mem_of_get?_ofList hfound)
    cases hshown
    rcases hvalues row (hrows.mem_iff.mp hrow) with ⟨info, hinfo, hvalue⟩ | hderived
    · rw [hinfo, Option.bind_some, hvalue]
      rfl
    · exact absurd (Dict.mem_keys_iff.mpr ⟨_, hderived⟩) hcomputedKey
  | none =>
    cases hinfo : decoded.get? key with
    | none => rfl
    | some info =>
      exfalso
      have hname : key ∈ rows.map RegisterRow.name := by
        rw [(hrows.map RegisterRow.name).mem_iff, hnames]
        exact List.mem_append_left _ (Dict.mem_keys_iff.mpr ⟨info, hinfo⟩)
      obtain ⟨row, hrow, rfl⟩ := List.mem_map.mp hname
      have hmem : row.name ∈ (rowRegisters rows).keys :=
        Dict.mem_keys_sets.mpr (Or.inr (List.mem_map.mpr ⟨_, List.mem_map.mpr ⟨row, hrow, rfl⟩, rfl⟩))
      obtain ⟨shown, hshown⟩ := Dict.mem_keys_iff.mp hmem
      rw [hfound] at hshown
      cases hshown

/-- The rows can be shown. -/
theorem shown_exists (unit : Option String) :
    ∃ registers, addLabels (apiConvertTemperatures unit (rowRegisters rows)) = .ok registers := by
  refine addLabels_exists fun l hl info hinfo => ?_
  have hraw : l.1 ∉ computedNames ∧ l.1 ∉ TEMP_KEYS := by
    have hall : (registerLabels.map Prod.fst).all (fun name =>
        !computedNames.contains name && !TEMP_KEYS.contains name) = true := by
      decide
    have hname := List.all_eq_true.mp hall l.1 (List.mem_map_of_mem hl)
    simpa using hname
  have hvalue := converted_value unit (rowRegisters_value hnumeric hrows hraw.1)
  rw [hinfo] at hvalue
  cases hreading : num decoded.snapshot l.1 with
  | none =>
    rw [hreading] at hvalue
    cases hvalue
  | some c =>
    rw [hreading] at hvalue
    have hvalue : info.value = .float (shownReading unit l.1 c) := Option.some.inj hvalue
    rw [num_snapshot] at hreading
    obtain ⟨decodedInfo, hdecoded, hc⟩ := Option.bind_eq_some_iff.mp hreading
    obtain ⟨q, hq⟩ := hnumeric l.1 decodedInfo hdecoded
    rw [hq] at hc
    cases hc
    exact ⟨q, hvalue.trans (by rw [shownReading, if_neg fun h => hraw.2 h.2])⟩

/-- What the view reads under a name that is neither derived nor a label. -/
theorem viewed_num {unit : Option String} {snap : LiveSnapshot}
    (hshown : addLabels (apiConvertTemperatures unit (rowRegisters rows)) = .ok snap.registers) {key : String}
    (hkey : key ∉ computedNames) (hlabel : key ∉ labelNames) :
    num snap.values key = (num decoded.snapshot key).map (shownReading unit key) := by
  refine num_values snap key _ ?_
  rw [addLabels_get? hshown hlabel]
  exact converted_value _ (rowRegisters_value hnumeric hrows hkey)

end

/-! ## The run of the endpoint -/

/-- The snapshot shows what is stored under an id, in the configured unit. -/
def LiveSnapshot.ShowsStored (snap : LiveSnapshot) (settings : Rows) (t : Tables) (id : Nat) : Prop :=
  ∃ rows, rows.Perm (t.registersOf id) ∧
    addLabels (apiConvertTemperatures (settings "temperature_unit") (rowRegisters rows)) = .ok snap.registers

section
variable {settings : Rows} {t : Tables}

theorem selectRegisters_returns (id : Nat) :
    Returns (Tables.serves settings) t (selectRegisters id none) fun rows t' =>
      t' = t ∧ rows.Perm (t.registersOf id) := by
  refine (ensures_ask _ _).mpr ?_
  rintro r m ⟨rfl, rows, hr, hperm⟩
  have hall : (m.registersOf id).filter (wanted none) = m.registersOf id := List.filter_eq_self.mpr fun _ _ => rfl
  rw [hall] at hperm
  exact returns_ofExcept hr ⟨rfl, hperm⟩

/-- The latest snapshot is fetched and shown. -/
theorem fetchLatestSnapshot_returns {header : SnapshotRow} (hlatest : t.latest = some header)
    (hshown : ∀ rows, rows.Perm (t.registersOf header.id) →
      ∃ registers, addLabels (apiConvertTemperatures (settings "temperature_unit") (rowRegisters rows)) = .ok registers) :
    Returns (Tables.serves settings) t fetchLatestSnapshot fun found t' =>
      t' = t ∧ ∃ snap, found = some snap ∧ snap.ShowsStored settings t header.id := by
  have hfetch : Returns (Tables.serves settings) t (fetchSnapshot header) fun snap t' =>
      t' = t ∧ snap.ShowsStored settings t header.id := by
    refine (selectRegisters_returns header.id).bind ?_
    rintro rows m ⟨rfl, hperm⟩
    obtain ⟨registers, hregisters⟩ := hshown rows hperm
    refine (selectSetting_yields "temperature_unit").bind ((yields_ofExcept hregisters).bind ?_)
    exact returns_pure ⟨rfl, rows, hperm, hregisters⟩
  refine getConn_yields.bind (Returns.tryCatch (selectLatest_yields.bind ?_))
  rw [hlatest]
  refine hfetch.bind ?_
  rintro snap m ⟨rfl, hsnap⟩
  exact returns_pure ⟨rfl, snap, rfl, hsnap⟩

end

/-! ## The collector's alerts -/

/-- Since when the grid has been absent, at the end of a run: the first of the last evaluations
without it. -/
def absentSince (run : List AlertRound) : Option ℚ :=
  ((run.reverse.takeWhile fun e => !gridPresent e.1).getLast?).map fun e => e.2.now

/-- For how long, at an evaluation after the run that does not find it either. -/
def absentFor (run : List AlertRound) (m : Moment) : ℚ := m.now - (absentSince run).getD m.now

theorem absentSince_concat (run : List AlertRound) (e : AlertRound) :
    absentSince (run ++ [e]) = gridLost (gridPresent e.1) (absentSince run) e.2.now := by
  unfold absentSince gridLost
  rw [List.reverse_append, List.reverse_singleton, List.singleton_append]
  by_cases hgrid : gridPresent e.1 = true
  · rw [List.takeWhile_cons_of_neg (by simp [hgrid]), if_pos hgrid]
    rfl
  · rw [List.takeWhile_cons_of_pos (by simpa using hgrid), if_neg hgrid, List.getLast?_cons]
    cases (run.reverse.takeWhile fun e => !gridPresent e.1).getLast? <;> rfl

theorem alertRound_cfg (a : Alerts) (e : AlertRound) : (alertRound a e).1.cfg = a.cfg := (evaluate_setup a e.2 e.1).1

theorem after_cfg (a : Alerts) (run : List AlertRound) : (Machine.after alertRound a run).cfg = a.cfg := by
  induction run generalizing a with
  | nil => rfl
  | cons e run ih => exact (ih _).trans (alertRound_cfg a e)

theorem alertRound_gridLostSince {a : Alerts} (henabled : a.cfg.alertsEnabled = true) (e : AlertRound) :
    (alertRound a e).1.gridLostSince = gridLost (gridPresent e.1) a.gridLostSince e.2.now := by
  unfold alertRound Alerts.evaluate
  rw [if_pos henabled]
  exact (turns_setup e.2 _ _).gridLostSince

/-- The timer of the grid rule, after any run of evaluations. -/
theorem gridLostSince_after {a : Alerts} (henabled : a.cfg.alertsEnabled = true) (hfresh : a.gridLostSince = none)
    (run : List AlertRound) : (Machine.after alertRound a run).gridLostSince = absentSince run := by
  induction run using List.reverseRecOn with
  | nil => exact hfresh
  | append_singleton run e ih =>
    have hon : (Machine.after alertRound a run).cfg.alertsEnabled = true := by
      rw [after_cfg]
      exact henabled
    rw [Machine.after_append, absentSince_concat, ← ih]
    exact alertRound_gridLostSince hon e

/-- A verdict is that of the rules. -/
theorem verdict_judge {a : Alerts} (henabled : a.cfg.alertsEnabled = true) (m : Moment) (decoded : Snapshot)
    (name : AlertName) :
    a.verdict m decoded name = ((judge a.cfg a.gridLostSince m.now decoded).lookup name).map Verdict.active := by
  have hstates : (a.evaluate m decoded).2.1 = (judge a.cfg a.gridLostSince m.now decoded).map (activeEntry m) := by
    unfold Alerts.evaluate
    rw [if_pos henabled]
  have hlookup := lookup_map_entries (fun name (v : Verdict) =>
    ({ active := v.active, value := v.value, message := v.message, since := m.since name } : Active)) name
    (judge a.cfg a.gridLostSince m.now decoded)
  rw [Alerts.verdict, hstates]
  exact (congrArg (Option.map Active.active) hlookup).trans (Option.map_map ..)

/-! ## The rules side by side -/

/-- What `evaluate` reads of a snapshot. -/
def alertKeys : List String :=
  ["soc", "temp_battery", "temp_inverter", "grid_voltage_r", "grid_frequency", "fault", "fault_code", "error"]

/-- The active flag of each rule, when the grid has been absent for so long. -/
def ruleActive (cfg : OutputConfig) (lostFor : ℚ) (decoded : Snapshot) : AlertName → Bool
  | .batterySocLow => (num decoded "soc").any fun x => x.le (cfgFloat cfg.alertsSocLow (.fin 20))
  | .batterySocCritical => (num decoded "soc").any fun x => x.le (cfgFloat cfg.alertsSocCritical (.fin 10))
  | .batteryTempHigh => (num decoded "temp_battery").any fun x => (cfgFloat cfg.alertsBatteryTempHigh (.fin 50)).le x
  | .inverterTempHigh => (num decoded "temp_inverter").any fun x => (cfgFloat cfg.alertsInverterTempHigh (.fin 60)).le x
  | .gridLoss => !gridPresent decoded && (cfgFloat cfg.alertsGridLostThresholdSec (.fin 30)).le (.fin lostFor)
  | .faultActive =>
    (orNum (orNum (num decoded "fault") (num decoded "fault_code")) (num decoded "error")).any fun x => x != .fin 0

theorem judge_active (cfg : OutputConfig) (lostSince : Option ℚ) (now : ℚ) (decoded : Snapshot) (name : AlertName) :
    ((judge cfg lostSince now decoded).lookup name).map Verdict.active =
      some (ruleActive cfg (now - lostSince.getD now) decoded name) := by
  cases name with
  | gridLoss =>
    unfold judge gridLost ruleActive
    cases gridPresent decoded <;> rfl
  | faultActive =>
    unfold judge ruleActive
    cases orNum (orNum (num decoded "fault") (num decoded "fault_code")) (num decoded "error") with
    | none => rfl
    | some x =>
      rw [Option.any_some]
      by_cases hx : (x != .fin 0) = true
      · simp only [hx, if_true]
        rfl
      · simp only [hx, Bool.false_eq_true, if_false]
        rfl
  | _ => rfl

/-- Alerts are enabled on both sides, with the same thresholds. -/
structure SameThresholds (cfg cfg' : OutputConfig) : Prop where
  enabled : cfg.alertsEnabled = true
  enabled' : cfg'.alertsEnabled = true
  socLow : cfg.alertsSocLow = cfg'.alertsSocLow
  socCritical : cfg.alertsSocCritical = cfg'.alertsSocCritical
  batteryTempHigh : cfg.alertsBatteryTempHigh = cfg'.alertsBatteryTempHigh
  inverterTempHigh : cfg.alertsInverterTempHigh = cfg'.alertsInverterTempHigh
  gridLostThresholdSec : cfg.alertsGridLostThresholdSec = cfg'.alertsGridLostThresholdSec

/-- The threshold lies on the same side of the reading in °C and of the shown one. -/
def SameSide (unit : Option String) (key : String) (threshold : PyFloat) (reading : Option PyFloat) : Prop :=
  ∀ c, reading = some c → threshold.le (shownReading unit key c) = threshold.le c

/-- The rule of the alert comes out the same in the shown unit and without a history. -/
def Indifferent (unit : Option String) (cfg : OutputConfig) (lostFor : ℚ) (decoded : Snapshot) : AlertName → Prop
  | .batteryTempHigh =>
    SameSide unit "temp_battery" (cfgFloat cfg.alertsBatteryTempHigh (.fin 50)) (num decoded "temp_battery")
  | .inverterTempHigh =>
    SameSide unit "temp_inverter" (cfgFloat cfg.alertsInverterTempHigh (.fin 60)) (num decoded "temp_inverter")
  | .gridLoss => gridPresent decoded = true ∨
    (cfgFloat cfg.alertsGridLostThresholdSec (.fin 30)).le (.fin lostFor) =
      (cfgFloat cfg.alertsGridLostThresholdSec (.fin 30)).le (.fin 0)
  | _ => True

theorem any_map_eq_iff {reading : Option PyFloat} {shown : PyFloat → PyFloat} {p : PyFloat → Bool} :
    (reading.map shown).any p = reading.any p ↔ ∀ c, reading = some c → p (shown c) = p c := by
  cases reading <;> simp

/-- A rule on what the view reads, without a history, against the rule on what was decoded. -/
theorem ruleActive_eq_iff {cfg cfg' : OutputConfig} (hsame : SameThresholds cfg cfg') {unit : Option String}
    {viewed decoded : Snapshot} (hviewed : ∀ key ∈ alertKeys, num viewed key = (num decoded key).map (shownReading unit key))
    (lostFor : ℚ) (name : AlertName) :
    ruleActive cfg 0 viewed name = ruleActive cfg' lostFor decoded name ↔ Indifferent unit cfg' lostFor decoded name := by
  -- only two of the readings are temperatures
  have hplain : ∀ key ∈ alertKeys, key ∉ TEMP_KEYS → num viewed key = num decoded key := by
    intro key hkey htemp
    rw [hviewed key hkey]
    have hid : shownReading unit key = id := funext fun c => if_neg fun h => htemp h.2
    rw [hid, Option.map_id]
    rfl
  have hgrid : gridPresent viewed = gridPresent decoded := by
    unfold gridPresent
    rw [hplain "grid_voltage_r" (by decide) (by decide), hplain "grid_frequency" (by decide) (by decide)]
  cases name with
  | batterySocLow =>
    unfold ruleActive Indifferent
    rw [hplain "soc" (by decide) (by decide), hsame.socLow]
    exact iff_of_true rfl trivial
  | batterySocCritical =>
    unfold ruleActive Indifferent
    rw [hplain "soc" (by decide) (by decide), hsame.socCritical]
    exact iff_of_true rfl trivial
  | batteryTempHigh =>
    unfold ruleActive Indifferent
    rw [hviewed "temp_battery" (by decide), hsame.batteryTempHigh]
    exact any_map_eq_iff
  | inverterTempHigh =>
    unfold ruleActive Indifferent
    rw [hviewed "temp_inverter" (by decide), hsame.inverterTempHigh]
    exact any_map_eq_iff
  | gridLoss =>
    unfold ruleActive Indifferent
    rw [hgrid, hsame.gridLostThresholdSec]
    cases gridPresent decoded with
    | true => exact iff_of_true rfl (Or.inl rfl)
    | false => simp [eq_comm]
  | faultActive =>
    unfold ruleActive Indifferent
    rw [hplain "fault" (by decide) (by decide), hplain "fault_code" (by decide) (by decide),
      hplain "error" (by decide) (by decide)]
    exact iff_of_true rfl trivial

/-! ## The view against the collector -/

section
variable {t : Tables} {settings : Rows} {header : SnapshotRow} {decoded : Decoded} {a : Alerts}

/-- The verdicts of the view are those of the rules, on what it reads and without a history. -/
theorem alertsLive_verdicts (hnumeric : ∀ name info, decoded.get? name = some info → info.Numeric)
    (hlatest : t.latest = some header) (hstored : (t.registersOf header.id).Perm (writtenRows decoded))
    (henabled : (liveConfig (stored settings)).alertsEnabled = true) (m : Moment) :
    Returns (Tables.serves settings) t (apiAlertsLive m) fun live _ => ∃ viewed : Snapshot,
      (∀ key ∈ alertKeys, num viewed key =
        (num decoded.snapshot key).map (shownReading (settings "temperature_unit") key)) ∧
      ∀ name, live.verdict name = some (ruleActive (liveConfig (stored settings)) 0 viewed name) := by
  refine (fetchLatestSnapshot_returns hlatest fun rows hrows => shown_exists hnumeric (hrows.trans hstored) _).bind ?_
  rintro _ m' ⟨rfl, snap, rfl, rows, hrows, hshown⟩
  refine fetchLiveConfig_yields.bind (returns_pure ⟨snap.values, fun key hkey => ?_, fun name => ?_⟩)
  · have hall : (alertKeys.all fun key => !computedNames.contains key && !labelNames.contains key) = true := by
      decide
    have hplain := List.all_eq_true.mp hall key hkey
    simp only [Bool.and_eq_true, Bool.not_eq_true', List.contains_eq_mem, decide_eq_false_iff_not] at hplain
    exact viewed_num hnumeric (hrows.trans hstored) hshown hplain.1 hplain.2
  · have hverdict := verdict_judge (a := liveEvaluator (liveConfig (stored settings))) henabled m snap.values name
    rw [judge_active] at hverdict
    have hnow : m.now - (liveEvaluator (liveConfig (stored settings))).gridLostSince.getD m.now = 0 := sub_self m.now
    rw [hnow] at hverdict
    refine Eq.trans ?_ hverdict
    have hlookup := lookup_map_entries (fun _ (s : Active) =>
      ({ active := s.active, value := s.value, message := s.message } : LiveAlert)) name
      ((liveEvaluator (liveConfig (stored settings))).evaluate m snap.values).2.1
    unfold LiveAlerts.verdict Alerts.verdict
    rw [hlookup, Option.map_map]
    rfl

/-- The collector's verdict, after any run of evaluations since its alerts were built. -/
theorem collector_verdict (henabled : a.cfg.alertsEnabled = true) (hfresh : a.gridLostSince = none)
    (run : List AlertRound) (m : Moment) (snapshot : Snapshot) (name : AlertName) :
    (Machine.after alertRound a run).verdict m snapshot name =
      some (ruleActive a.cfg (absentFor run m) snapshot name) := by
  rw [verdict_judge (by rw [after_cfg]; exact henabled), judge_active, gridLostSince_after henabled hfresh, after_cfg]
  rfl

/-- The live view and the collector give one verdict on an alert exactly when its rule comes out the
same in the shown unit and without a history. -/
theorem alerts_live_iff (family : DriverFamily) (raw : Dict Nat Nat) (hlatest : t.latest = some header)
    (hstored : (t.registersOf header.id).Perm (writtenRows (family.decode raw))) (hfresh : a.gridLostSince = none)
    (hsame : SameThresholds (liveConfig (stored settings)) a.cfg) (run : List AlertRound) (m m' : Moment) :
    Returns (Tables.serves settings) t (apiAlertsLive m') fun live _ => ∀ name,
      live.verdict name = (Machine.after alertRound a run).verdict m (family.decode raw).snapshot name ↔
        Indifferent (settings "temperature_unit") a.cfg (absentFor run m) (family.decode raw).snapshot name := by
  refine (alertsLive_verdicts (fun _ _ => decode_numeric family raw) hlatest hstored hsame.enabled m').mono ?_
  rintro live _ ⟨viewed, hviewed, hverdicts⟩ name
  rw [hverdicts, collector_verdict hsame.enabled' hfresh, Option.some.injEq]
  exact ruleActive_eq_iff hsame hviewed _ name

end

/-! ## A warm inverter -/

/-- One stored snapshot with its rows. -/
def storedSnapshot (header : SnapshotRow) (rows : List RegisterRow) : Tables where
  snapshots := [header]
  registers := rows.map fun row => (header.id, row)
  hourlyEnergy := .empty
  increasing := List.pairwise_singleton _ _
  known := by
    intro r hr
    obtain ⟨row, -, rfl⟩ := List.mem_map.mp hr
    exact List.mem_cons_self

theorem registersOf_storedSnapshot (header : SnapshotRow) (rows : List RegisterRow) :
    (storedSnapshot header rows).registersOf header.id = rows := by
  unfold Tables.registersOf storedSnapshot
  rw [List.filter_eq_self.mpr (by simp), List.map_map]
  exact List.map_id rows

/-- The database answers every program. -/
theorem serves_runs {α : Type} (settings : Rows) (t : Tables) (p : Sql α) :
    ∃ tr out, p.Run tr out ∧ ∃ t', Steps (Tables.serves settings) t tr t' := by
  have hserves : ∀ (t : Tables) (op : TableOp), t.serves settings ⟨op, t.reply "" settings op⟩ t := by
    intro t op
    refine ⟨rfl, ?_⟩
    cases op with
    | selectRegisters id names => exact ⟨_, rfl, List.Perm.refl _⟩
    | _ => trivial
  obtain ⟨hrun, hsteps⟩ := Prog.exec_spec (Tables.serves settings) (fun t op => (t.reply "" settings op, t)) hserves p t
  exact ⟨_, _, hrun, _, hsteps⟩

/-- Alerts are enabled, and temperatures are shown in °F. -/
def fahrenheitSettings : Rows := fun name =>
  [("alerts_enabled", "true"), ("temperature_unit", "fahrenheit")].lookup name

/-- The collector's alerts with the default thresholds. -/
def collectorAlerts : Alerts := liveEvaluator { alertsEnabled := true }

theorem fahrenheit_thresholds : SameThresholds (liveConfig (stored fahrenheitSettings)) collectorAlerts.cfg := by
  constructor <;> decide +kernel

/-- A battery at 51.2 V, and an inverter at 40 °C. -/
def warmRegisters : Dict Nat Nat := .ofList [(4, 512), (64, 40)]

def warmHeader : SnapshotRow := { id := 1, ts := 0, rawRegisters := warmRegisters }

def warmTables : Tables := storedSnapshot warmHeader (writtenRows (DriverFamily.sna.decode warmRegisters))

theorem warmRegisters_decoded : decodeRegisters snaInputRegisters warmRegisters = .ofList [
    ("battery_voltage", { value := .float (.fin (timesDouble (512 : ℤ) 0.1)), unit := "V" }),
    ("temp_inverter", { value := .float (.fin (timesDouble (40 : ℤ) 1)), unit := "°C" })] := by
  have hentries : warmRegisters.entries = [(4, 512), (64, 40)] := rfl
  refine (decodeRegisters_simple (fun register =>
    if register = 4 then { name := "battery_voltage", unit := "V", scale := 0.1 }
    else { name := "temp_inverter", unit := "°C" }) ?_ rfl).trans (by rw [hentries]; rfl)
  rw [hentries]
  rintro x hx
  rcases List.mem_cons.mp hx with rfl | hx
  · exact ⟨sna_base (by decide) rfl, rfl⟩
  · obtain rfl := List.mem_singleton.mp hx
    exact ⟨sna_base (by decide) rfl, rfl⟩

theorem warm_temperature : num (DriverFamily.sna.decode warmRegisters).snapshot "temp_inverter" = some (.fin 40) := by
  have hdecoded : DriverFamily.sna.decode warmRegisters = clampValues (.ofList [
      ("battery_voltage", { value := .float (.fin (timesDouble (512 : ℤ) 0.1)), unit := "V" }),
      ("temp_inverter", { value := .float (.fin (timesDouble (40 : ℤ) 1)), unit := "°C" })]) :=
    congrArg clampValues warmRegisters_decoded
  rw [hdecoded]
  decide +kernel

/-- The view agrees on the state of charge, whatever the unit. -/
theorem warm_soc_agrees : Returns (Tables.serves fahrenheitSettings) warmTables (apiAlertsLive (goodMoment 1)) fun live _ =>
    live.verdict .batterySocLow = (Machine.after alertRound collectorAlerts []).verdict (goodMoment 0)
      (DriverFamily.sna.decode warmRegisters).snapshot .batterySocLow :=
  (alerts_live_iff .sna warmRegisters (a := collectorAlerts) (show warmTables.latest = some warmHeader from rfl)
    (by rw [warmTables, registersOf_storedSnapshot]) rfl fahrenheit_thresholds [] (goodMoment 0) (goodMoment 1)).mono
    fun _ _ h => (h .batterySocLow).mpr trivial

/-- At 40 °C, shown as 104 °F, the view raises the alert for an inverter above 60. -/
theorem warm_inverter_raised :
    (Returns (Tables.serves fahrenheitSettings) warmTables (apiAlertsLive (goodMoment 1)) fun live _ =>
      live.verdict .inverterTempHigh = some true) ∧
    collectorAlerts.verdict (goodMoment 0) (DriverFamily.sna.decode warmRegisters).snapshot .inverterTempHigh =
      some false ∧
    ¬ ∀ (t : Tables) (settings : Rows) (header : SnapshotRow) (a : Alerts) (family : DriverFamily) (raw : Dict Nat Nat)
      (run : List AlertRound) (m m' : Moment), t.latest = some header →
      (t.registersOf header.id).Perm (writtenRows (family.decode raw)) → a.gridLostSince = none →
      SameThresholds (liveConfig (stored settings)) a.cfg →
      Returns (Tables.serves settings) t (apiAlertsLive m') fun live _ => ∀ name,
        live.verdict name = (Machine.after alertRound a run).verdict m (family.decode raw).snapshot name := by
  have hrows : (warmTables.registersOf warmHeader.id).Perm (writtenRows (DriverFamily.sna.decode warmRegisters)) := by
    rw [warmTables, registersOf_storedSnapshot]
  have hview : Returns (Tables.serves fahrenheitSettings) warmTables (apiAlertsLive (goodMoment 1)) fun live _ =>
      live.verdict .inverterTempHigh = some true := by
    refine (alertsLive_verdicts (fun _ _ => decode_numeric .sna warmRegisters) (show warmTables.latest = some warmHeader from rfl) hrows
      fahrenheit_thresholds.enabled (goodMoment 1)).mono ?_
    rintro live _ ⟨viewed, hviewed, hverdicts⟩
    have hthreshold : (liveConfig (stored fahrenheitSettings)).alertsInverterTempHigh = .fin 60 := by
      decide +kernel
    rw [hverdicts]
    show some ((num viewed "temp_inverter").any fun x =>
      (cfgFloat (liveConfig (stored fahrenheitSettings)).alertsInverterTempHigh (.fin 60)).le x) = some true
    rw [hviewed "temp_inverter" (by decide), warm_temperature, hthreshold]
    decide +kernel
  have hcollector : collectorAlerts.verdict (goodMoment 0) (DriverFamily.sna.decode warmRegisters).snapshot
      .inverterTempHigh = some false := by
    refine (collector_verdict (a := collectorAlerts) rfl rfl [] (goodMoment 0) _ _).trans ?_
    show some ((num (DriverFamily.sna.decode warmRegisters).snapshot "temp_inverter").any fun x =>
      (cfgFloat (.fin 60) (.fin 60)).le x) = some false
    rw [warm_temperature]
    decide +kernel
  refine ⟨hview, hcollector, fun h => ?_⟩
  obtain ⟨tr, out, hrun, t', hsteps⟩ := serves_runs fahrenheitSettings warmTables (apiAlertsLive (goodMoment 1))
  obtain ⟨live, rfl, hraised⟩ := hview tr out t' hrun hsteps
  obtain ⟨live', hlive, hsame⟩ := h warmTables fahrenheitSettings warmHeader collectorAlerts .sna warmRegisters []
    (goodMoment 0) (goodMoment 1) rfl hrows rfl fahrenheit_thresholds tr _ t' hrun hsteps
  cases hlive
  have hverdict := hsame .inverterTempHigh
  rw [hraised] at hverdict
  exact absurd (hverdict.trans hcollector) (by decide)

end LuxMon
