import LuxMon.Api.AlertsLive
import LuxMon.Config.Acknowledged

/-!
# Configured thresholds

The five thresholds of the alert rules: a row of the settings, loaded as a float into
the configuration, and read by `_cfg_float`, which takes zero for a missing value.

    a loaded threshold is the one that the rule compares with ↔ it is not zero   (threshold_used_iff)
-/

namespace LuxMon

open Python

/-- The thresholds of the alert rules. -/
inductive Threshold
  | socLow
  | socCritical
  | batteryTempHigh
  | inverterTempHigh
  | gridLostThresholdSec
  deriving DecidableEq

namespace Threshold

/-- The setting. -/
def key : Threshold → String
  | socLow => "alerts_soc_low"
  | socCritical => "alerts_soc_critical"
  | batteryTempHigh => "alerts_battery_temp_high"
  | inverterTempHigh => "alerts_inverter_temp_high"
  | gridLostThresholdSec => "alerts_grid_lost_threshold_sec"

/-- The alert whose rule reads it. -/
def alert : Threshold → AlertName
  | socLow => .batterySocLow
  | socCritical => .batterySocCritical
  | batteryTempHigh => .batteryTempHigh
  | inverterTempHigh => .inverterTempHigh
  | gridLostThresholdSec => .gridLoss

/-- The field of the configuration. -/
def field (cfg : OutputConfig) : Threshold → PyFloat
  | socLow => cfg.alertsSocLow
  | socCritical => cfg.alertsSocCritical
  | batteryTempHigh => cfg.alertsBatteryTempHigh
  | inverterTempHigh => cfg.alertsInverterTempHigh
  | gridLostThresholdSec => cfg.alertsGridLostThresholdSec

/-- The default that `evaluate` gives to `_cfg_float`. -/
def default : Threshold → ℚ
  | socLow => 20
  | socCritical => 10
  | batteryTempHigh => 50
  | inverterTempHigh => 60
  | gridLostThresholdSec => 30

/-- The reading is present and on the alarm side of this threshold; for the grid, it has been
absent for so many seconds. -/
def Alarm (threshold : PyFloat) (lostFor : ℚ) (decoded : Snapshot) : Threshold → Prop
  | socLow => ∃ soc, num decoded "soc" = some soc ∧ soc.le threshold
  | socCritical => ∃ soc, num decoded "soc" = some soc ∧ soc.le threshold
  | batteryTempHigh => ∃ temp, num decoded "temp_battery" = some temp ∧ threshold.le temp
  | inverterTempHigh => ∃ temp, num decoded "temp_inverter" = some temp ∧ threshold.le temp
  | gridLostThresholdSec => gridPresent decoded = false ∧ threshold.le (.fin lostFor)

/-- The alarm side of the rule is that of what `_cfg_float` makes of the field. -/
theorem ruleActive_iff (t : Threshold) (cfg : OutputConfig) (lostFor : ℚ) (decoded : Snapshot) :
    ruleActive cfg lostFor decoded t.alert = true ↔
      t.Alarm (cfgFloat (t.field cfg) (.fin t.default)) lostFor decoded := by
  cases t with
  | socLow => exact Option.any_eq_true _ _
  | socCritical => exact Option.any_eq_true _ _
  | batteryTempHigh => exact Option.any_eq_true _ _
  | inverterTempHigh => exact Option.any_eq_true _ _
  | gridLostThresholdSec => simp [Threshold.alert, Threshold.Alarm, Threshold.field, Threshold.default, ruleActive]

/-- A value in the range that `SETTING_META` has for the setting. -/
def Admitted (t : Threshold) (x : ℚ) : Prop :=
  ∃ mn mx step, controllableSettings.lookup t.key = some (.number (some mn) (some mx) step) ∧ mn ≤ x ∧ x ≤ mx

/-- Alerts that are enabled and run with this configuration compare with `x`: the verdict is
active iff the reading is on the alarm side of `x`. -/
def Uses (t : Threshold) (cfg : Config) (x : ℚ) : Prop :=
  ∀ (a : Alerts) (m : Moment) (decoded : Snapshot), a.cfg.alertsEnabled = true → cfg t.key = .float (t.field a.cfg) →
    (a.verdict m decoded t.alert = some true ↔ t.Alarm (.fin x) (m.now - a.gridLostSince.getD m.now) decoded)

/-- A verdict compares with what `_cfg_float` makes of the field. -/
theorem verdict_iff (t : Threshold) {a : Alerts} (henabled : a.cfg.alertsEnabled = true) (m : Moment)
    (decoded : Snapshot) : a.verdict m decoded t.alert = some true ↔
      t.Alarm (cfgFloat (t.field a.cfg) (.fin t.default)) (m.now - a.gridLostSince.getD m.now) decoded := by
  rw [verdict_judge henabled, judge_active, Option.some.injEq, ruleActive_iff]

theorem key_mem_outputKeys (t : Threshold) : (t.key, Cast.float) ∈ outputKeys := by
  cases t <;> decide

/-- A load puts the number of a readable row into the field. -/
theorem loaded_value (t : Threshold) {l : Load} (hconnects : l.connects = true) {text : String} {x : PyFloat}
    (hrow : l.get t.key = some text) (htext : floatOfString text = .ok x) (cfg : Config) :
    loadDbOutputSettings l cfg t.key = .float x := by
  have hne : text ≠ "" := by
    rintro rfl
    rw [show floatOfString "" = .error (.valueError "could not convert string to float: ''") by decide] at htext
    cases htext
  unfold loadDbOutputSettings
  rw [if_pos hconnects, loadKeys_of_mem l.get outputKeys_nodup t.key_mem_outputKeys, hrow, override, if_neg hne]
  simp only [Cast.apply, htext]
  rfl

/-- A configuration whose threshold is zero. -/
def zeroConfig : OutputConfig where
  alertsEnabled := true
  alertsSocLow := .fin 0
  alertsSocCritical := .fin 0
  alertsBatteryTempHigh := .fin 0
  alertsInverterTempHigh := .fin 0
  alertsGridLostThresholdSec := .fin 0

/-- They have seen the grid go at moment zero. -/
def zeroAlerts : Alerts where
  cfg := zeroConfig
  mqttClient := false
  mariadbConn := false
  notifiers := { cfg := zeroConfig }
  gridLostSince := some 0

/-- Ten percent and ten degrees, without the grid. -/
def tens : Snapshot := fun key =>
  if key = "soc" ∨ key = "temp_battery" ∨ key = "temp_inverter" then some (.float (.fin 10)) else none

/-- With the grid absent for ten seconds, each rule tells zero from its default. -/
theorem alarm_tens (t : Threshold) : ¬ (t.Alarm (.fin t.default) 10 tens ↔ t.Alarm (.fin 0) 10 tens) := by
  have hsoc : num tens "soc" = some (.fin 10) := rfl
  have hbattery : num tens "temp_battery" = some (.fin 10) := rfl
  have hinverter : num tens "temp_inverter" = some (.fin 10) := rfl
  have hgrid : gridPresent tens = false := rfl
  cases t <;> norm_num [Alarm, default, hsoc, hbattery, hinverter, hgrid, PyFloat.le_fin]

/-- Zero is not used: the rule compares with its default. -/
theorem zero_not_used (t : Threshold) {cfg : Config} (hzero : cfg t.key = .float (.fin 0)) : ¬ t.Uses cfg 0 := by
  intro huses
  have hfield : t.field zeroConfig = .fin 0 := by cases t <;> rfl
  have hlost : (goodMoment 10).now - zeroAlerts.gridLostSince.getD (goodMoment 10).now = 10 := by
    norm_num [goodMoment, zeroAlerts]
  have hdefault : cfgFloat (t.field zeroAlerts.cfg) (.fin t.default) = .fin t.default := by
    rw [show t.field zeroAlerts.cfg = .fin 0 from hfield]
    rfl
  have hverdict := huses zeroAlerts (goodMoment 10) tens rfl (by rw [hzero]; exact congrArg _ hfield.symm)
  rw [t.verdict_iff (a := zeroAlerts) rfl, hlost, hdefault] at hverdict
  exact t.alarm_tens hverdict

/-- Any other number is. -/
theorem nonzero_used (t : Threshold) {cfg : Config} {x : ℚ} (hvalue : cfg t.key = .float (.fin x)) (hx : x ≠ 0) :
    t.Uses cfg x := by
  intro a m decoded henabled hfield
  rw [hvalue, Value.float.injEq] at hfield
  have htruthy : (PyFloat.fin x).truthy = true := by simpa [PyFloat.truthy] using hx
  rw [t.verdict_iff henabled, ← hfield, cfgFloat, if_pos htruthy]

end Threshold

/-- A loaded threshold is the one that the rule compares with, unless it is zero. -/
theorem threshold_used_iff (t : Threshold) (l : Load) (cfg : Config) {text : String} {x : ℚ}
    (hconnects : l.connects = true) (hrow : l.get t.key = some text) (htext : floatOfString text = .ok (.fin x)) :
    t.Uses (loadDbOutputSettings l cfg) x ↔ x ≠ 0 := by
  have hloaded := t.loaded_value hconnects hrow htext cfg
  constructor
  · rintro huses rfl
    exact t.zero_not_used hloaded huses
  · exact t.nonzero_used hloaded

/-- A load that finds this text for every setting. -/
def uniformLoad (text : String) : Load := ⟨true, fun _ _ => some text, fun _ => true⟩

theorem grid_threshold_used :
    Threshold.gridLostThresholdSec.Uses (loadDbOutputSettings (uniformLoad "600.0") fun _ => .text "") 600 :=
  (threshold_used_iff .gridLostThresholdSec (uniformLoad "600.0") _ rfl rfl (by decide +kernel)).mpr (by decide)

/-- A battery alert is not to come before zero percent, which the settings admit; it comes at five. -/
theorem zero_critical_ignored :
    Threshold.socCritical.Admitted 0 ∧
      loadDbOutputSettings (uniformLoad "0") (fun _ => .text "") "alerts_soc_critical" = .float (.fin 0) ∧
      Threshold.zeroAlerts.verdict (goodMoment 10) (socSnapshot 5) .batterySocCritical = some true ∧
      ¬ Threshold.socCritical.Uses (loadDbOutputSettings (uniformLoad "0") fun _ => .text "") 0 := by
  have hloaded : loadDbOutputSettings (uniformLoad "0") (fun _ => .text "") "alerts_soc_critical" = .float (.fin 0) :=
    Threshold.socCritical.loaded_value rfl rfl (by decide +kernel) _
  refine ⟨⟨0, 100, none, rfl, by norm_num, by norm_num⟩, hloaded, by decide +kernel, ?_⟩
  exact Threshold.socCritical.zero_not_used hloaded

end LuxMon
