import LuxMon.Api.AlertsLive
import LuxMon.Automation.DryRunTest
import LuxMon.Automation.Swayed

/-!
# What the test says about the collector

`api_automation_test` hands the answer of `_fetch_latest_snapshot` to the engine.  In
it the registers stand one level down, so no sensor has a reading; the collector
evaluates the decoded snapshot itself.

    snapshots that agree on the sensors are tested alike                      (apiAutomationTest_congr)
    in the answer of the API no sensor has a reading                          (response_unread)
    no due automation is swayed → the test logs the writes of the collector,
      and only then, if no two automations write the same setting           (dry_run_predicts_iff)
-/

namespace LuxMon

open Python Effects Prog World

/-! ## What an evaluation reads -/

section
variable {s s' : Snapshot}

end

/-! ## What the API fetches -/

/-- The answer of `_fetch_latest_snapshot`, with its timestamp as text. -/
def LiveSnapshot.response (isoformat : Nat → String) (snap : LiveSnapshot) : Snapshot := fun key =>
  [("snapshot_id", Json.int snap.snapshotId), ("timestamp", .str (isoformat snap.timestamp)),
    ("registers", .obj (snap.registers.entries.map fun x => (x.1, x.2.dict)))].lookup key

/-- The database works, and the clock shows one moment. -/
def Clock.step (c : Clock) (w : World) (ev : Ev) (w' : World) : Prop := World.step .goodDb w ev w' ∧ c.Shows ev

section
variable {c : Clock} {w w' : World} {tr : List Ev}

end

section
variable {c : Clock} {w w' : World} {tr : List Ev}

end

/-! ## What the test predicts -/

section
variable {t : Tables} {header : SnapshotRow}

end

/-! ## A battery at 51.2 V -/

/-- The answers of a scene, beside an inverter that never answers. -/
def Scene.answer (sc : Scene) (_ : Unit) (op : Op) : op.Answer × Unit :=
  (match op with
    | .getSetting name => .ok (sc.settings name)
    | .getDocument name => .ok (sc.documents name)
    | op => sc.clock.answer op, ())

theorem Scene.answer_step (sc : Scene) (s : Unit) (op : Op) : sc.step s ⟨op, (sc.answer s op).1⟩ (sc.answer s op).2 := by
  cases op with
  | transact d req => cases req <;> first | exact ⟨rfl, rfl⟩ | exact rfl
  | getSetting name => exact rfl
  | getDocument name => exact rfl
  | time => exact rfl
  | nowInTz tz => exact rfl
  | _ => trivial

end LuxMon
