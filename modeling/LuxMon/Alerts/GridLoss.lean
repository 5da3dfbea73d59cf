import LuxMon.Api.AlertsLive
import LuxMon.Signals.LastRun

/-!
# Grid loss

The rule for the grid keeps one time: since when it has been absent.  Between two
evaluations the configuration may change; while alerts are disabled nothing is looked at.

    the time kept is that of the first of the last evaluations without grid   (gridLostSince_evaluated)
    the alert is active ↔ the grid has been absent in all evaluations of
      at least the threshold                                                  (grid_loss_debounced)
-/

namespace LuxMon

open Python Effects Signals

/-! ## Steps -/

/-- A call of `evaluate`, under the configuration of that time. -/
structure GridStep where
  cfg : OutputConfig
  decoded : Snapshot
  moment : Moment

def GridStep.round (s : GridStep) : AlertRound := (s.decoded, s.moment)

/-- `_cfg_float("alerts_grid_lost_threshold_sec", 30.0)`. -/
def GridStep.threshold (s : GridStep) : PyFloat := cfgFloat s.cfg.alertsGridLostThresholdSec (.fin 30)

/-- The voltage is missing or not above 80 V, or the frequency is missing or not above 45 Hz. -/
def GridAbsent (decoded : Snapshot) : Prop :=
  (∀ v, num decoded "grid_voltage_r" = some v → PyFloat.lt (.fin 80) v = false) ∨
    ∀ f, num decoded "grid_frequency" = some f → PyFloat.lt (.fin 45) f = false

theorem gridAbsent_iff (decoded : Snapshot) : GridAbsent decoded ↔ gridPresent decoded = false := by
  have hreading : ∀ (reading : Option PyFloat) (limit : PyFloat),
      (∀ x, reading = some x → limit.lt x = false) ↔ reading.any limit.lt = false := by
    intro reading limit
    cases reading with
    | none => simp
    | some x => simp
  unfold GridAbsent gridPresent
  rw [hreading, hreading, Bool.and_eq_false_iff]

/-- The configuration is applied, then the snapshot evaluated. -/
def gridStep (a : Alerts) (s : GridStep) : Alerts := (alertRound { a with cfg := s.cfg } s.round).1

/-- The steps at which alerts are enabled. -/
def evaluated (steps : List GridStep) : List GridStep := steps.filter fun s => s.cfg.alertsEnabled

theorem evaluated_enabled (steps : List GridStep) {s : GridStep} (h : s.cfg.alertsEnabled = true) :
    evaluated (steps ++ [s]) = evaluated steps ++ [s] := by
  simp [evaluated, h]

theorem evaluated_disabled (steps : List GridStep) {s : GridStep} (h : s.cfg.alertsEnabled = false) :
    evaluated (steps ++ [s]) = evaluated steps := by
  simp [evaluated, h]

/-- What `evaluate` returns for `grid_loss` after these steps. -/
def gridLossAt (a : Alerts) (steps : List GridStep) (s : GridStep) : Option Bool :=
  ({ steps.foldl gridStep a with cfg := s.cfg } : Alerts).verdict s.moment s.decoded .gridLoss

/-! ## The timer -/

theorem gridStep_disabled (a : Alerts) {s : GridStep} (h : s.cfg.alertsEnabled = false) :
    (gridStep a s).gridLostSince = a.gridLostSince := by
  unfold gridStep alertRound Alerts.evaluate
  rw [if_neg (by rw [h]; exact Bool.false_ne_true)]

theorem gridStep_enabled (a : Alerts) {s : GridStep} (h : s.cfg.alertsEnabled = true) :
    (gridStep a s).gridLostSince = gridLost (gridPresent s.decoded) a.gridLostSince s.moment.now :=
  alertRound_gridLostSince (a := { a with cfg := s.cfg }) h s.round

/-- Steps without an evaluation leave the timer alone. -/
theorem gridLostSince_evaluated {a : Alerts} (hfresh : a.gridLostSince = none) (steps : List GridStep) :
    (steps.foldl gridStep a).gridLostSince = absentSince ((evaluated steps).map GridStep.round) := by
  induction steps using List.reverseRecOn with
  | nil => exact hfresh
  | append_singleton steps s ih =>
    rw [List.foldl_append, List.foldl_cons, List.foldl_nil]
    cases henabled : s.cfg.alertsEnabled with
    | false => rw [gridStep_disabled _ henabled, evaluated_disabled steps henabled, ih]
    | true =>
      rw [gridStep_enabled _ henabled, evaluated_enabled steps henabled, ih, List.map_append]
      exact (absentSince_concat _ s.round).symm

/-- The first of the last evaluations without grid. -/
theorem absentSince_eq_iff {run : List GridStep} {since : ℚ} :
    absentSince (run.map GridStep.round) = some since ↔
      ∃ j, LastRun (fun s => !gridPresent s.decoded) run j ∧ j.moment.now = since := by
  have hrun : (run.map GridStep.round).reverse.takeWhile (fun e => !gridPresent e.1) =
      (run.reverse.takeWhile fun s => !gridPresent s.decoded).map GridStep.round := by
    rw [← List.map_reverse, List.takeWhile_map]
    rfl
  unfold absentSince
  rw [hrun, List.getLast?_map, Option.map_map, Option.map_eq_some_iff]
  constructor
  · rintro ⟨j, hj, hsince⟩
    exact ⟨j, lastRun_iff.mpr hj, hsince⟩
  · rintro ⟨j, hj, hsince⟩
    exact ⟨j, lastRun_iff.mp hj, hsince⟩

/-! ## The debounce -/

/-- At an evaluation the alert is active exactly when the grid is absent and the run of evaluations without it
that ends here began at least the threshold ago. -/
theorem grid_loss_debounced {a : Alerts} (hfresh : a.gridLostSince = none) (steps : List GridStep) {k : GridStep}
    (henabled : k.cfg.alertsEnabled = true) :
    gridLossAt a steps k = some true ↔ GridAbsent k.decoded ∧
      ∃ j, LastRun (fun s => !gridPresent s.decoded) (evaluated (steps ++ [k])) j ∧
        k.threshold.le (.fin (k.moment.now - j.moment.now)) = true := by
  have hverdict : gridLossAt a steps k = some (!gridPresent k.decoded &&
      k.threshold.le (.fin (k.moment.now - (steps.foldl gridStep a).gridLostSince.getD k.moment.now))) :=
    (verdict_judge (a := { steps.foldl gridStep a with cfg := k.cfg }) henabled _ _ _).trans (judge_active _ _ _ _ _)
  have hconcat : absentSince ((evaluated (steps ++ [k])).map GridStep.round) =
      gridLost (gridPresent k.decoded) (absentSince ((evaluated steps).map GridStep.round)) k.moment.now := by
    rw [evaluated_enabled steps henabled, List.map_append]
    exact absentSince_concat _ k.round
  rw [hverdict, gridLostSince_evaluated hfresh, Option.some.injEq, Bool.and_eq_true, Bool.not_eq_true', gridAbsent_iff]
  refine and_congr_right fun habsent => ?_
  rw [habsent] at hconcat
  obtain ⟨j, hj, hsince⟩ := absentSince_eq_iff.mp hconcat
  constructor
  · intro hlong
    exact ⟨j, hj, by rw [hsince]; exact hlong⟩
  · rintro ⟨j', hj', hlong⟩
    rw [hj'.unique hj, hsince] at hlong
    exact hlong

/-- A call at this time that finds neither voltage nor frequency. -/
def darkAt (now : ℚ) (enabled : Bool := true) : GridStep where
  cfg := { alertsEnabled := enabled }
  decoded := fun _ => none
  moment := goodMoment now

/-- Dark since 0 s, with alerts disabled at 20 s. -/
theorem grid_loss_after_outage : gridLossAt collectorAlerts [darkAt 0, darkAt 20 false] (darkAt 30) = some true := by
  have habsent : GridAbsent (darkAt 30).decoded := Or.inl fun v h => by cases h
  refine (grid_loss_debounced rfl [darkAt 0, darkAt 20 false] rfl).mpr ⟨habsent, darkAt 0, ?_, ?_⟩
  · refine ⟨[], [darkAt 30], rfl, fun s hs => ?_, fun s hs => by cases hs⟩
    rcases List.mem_cons.mp hs with rfl | hs
    · rfl
    · obtain rfl := List.mem_singleton.mp hs
      rfl
  · decide +kernel

end LuxMon
