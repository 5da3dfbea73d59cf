import LuxMon.Automation.Rounds

/-!
# No spurious restore

A restore is sent whenever the automation is recorded as active, and every match
records it as active, also a match in dry-run or one whose write failed.  Where
each match that makes an automation active has really been recorded on the inverter,
and no restore raises after its write was sent, a restore always has its reason.

    every activity is recorded → every restore is justified        (restore_justified)
-/

namespace LuxMon

open Python Effects Prog World

/-- An answered read of the register with the value. -/
def readsValue (reg : Nat) (raw : ℤ) : Ev → Bool
  | ⟨.transact _ (.readHoldOne r), .ok (some f)⟩ =>
    r == reg && !f.1.isError && ((f.1.values.headD 0 : Nat) : ℤ) == raw
  | _ => false

namespace Evaluation

variable (cfg : EngineConfig) (applies : Nat → Bool) (a : Automation)

/-- A live action whose write was applied, or which read its value from the register. -/
def Recorded (r : Evaluation) : Prop :=
  ∃ value acts p, r.Did cfg a (.action value) acts ∧ r.switches.dryRun = false ∧
    writePlan a.writeJob.setting value = some p ∧
    ((sends p.reg acts = true ∧ applies r.before.2.writes = true) ∨
      acts.any (readsValue p.reg p.raw) = true)

/-- A restore write was sent. -/
def SentRestore (r : Evaluation) : Prop :=
  ∃ value acts p, r.Did cfg a (.restore value) acts ∧
    writePlan a.writeJob.setting value = some p ∧ sends p.reg acts = true

/-- An action was recorded, and no restore was sent since. -/
def Justified (hist : List Evaluation) : Prop :=
  ∃ pre q post, hist = pre ++ q :: post ∧ q.Recorded cfg applies a ∧
    ∀ x ∈ post, ¬ x.SentRestore cfg a

/-- The write of the value raises: the setting cannot be looked up, a transaction raised,
or the raw value does not fit into 16 bits. -/
def Aborts (r : Evaluation) (value : PyFloat) (acts : List Ev) : Prop :=
  (∃ x, settingRegister a.writeJob.setting = .error x) ∨ acts.any raised = true ∨
    (r.switches.dryRun = false ∧ ∃ p, writePlan a.writeJob.setting value = some p ∧
      modelsSupport p.reg acts = true ∧ ¬ (0 ≤ p.raw ∧ p.raw ≤ 0xFFFF))

/-- After the evaluations `hist`, this one records what it makes active, and a restore of it
does not raise after its write. -/
structure Confirms (hist : List Evaluation) (r : Evaluation) : Prop where
  action : ∀ value acts, r.Did cfg a (.action value) acts → r.active a = false →
    r.Aborts a value acts ∨ r.Recorded cfg applies a ∨ Justified cfg applies a hist
  activate : ∀ acts, r.Did cfg a .activate acts → r.active a = false → Justified cfg applies a hist
  restore : ∀ value acts, r.Did cfg a (.restore value) acts → r.SentRestore cfg a →
    acts.any raised = false

end Evaluation

open Evaluation

/-- A restore is sent only with a reason. -/
def NoSpuriousRestore (cfg : EngineConfig) (applies : Nat → Bool) (a : Automation)
    (rs : List Evaluation) : Prop :=
  ∀ pre r post, rs = pre ++ r :: post → r.SentRestore cfg a → Justified cfg applies a pre

/-! ## One evaluation -/

section
variable {cfg : EngineConfig} {applies : Nat → Bool} {a : Automation} {hist : List Evaluation}
  {r : Evaluation} {value : PyFloat} {acts : List Ev}

theorem Evaluation.Justified.snoc (h : Justified cfg applies a hist) (hno : ¬ r.SentRestore cfg a) :
    Justified cfg applies a (hist ++ [r]) := by
  obtain ⟨pre, q, post, rfl, hq, hpost⟩ := h
  refine ⟨pre, q, post ++ [r], by simp, hq, fun x hx => ?_⟩
  rcases List.mem_append.mp hx with hx | hx
  · exact hpost x hx
  · rw [List.mem_singleton.mp hx]
    exact hno

theorem justified_of_recorded (h : r.Recorded cfg applies a) :
    Justified cfg applies a (hist ++ [r]) :=
  ⟨hist, r, [], rfl, h, fun x hx => by cases hx⟩

/-- Only a decision to restore sends a restore. -/
theorem not_sentRestore {dec : Decision} (hdid : r.Did cfg a dec acts)
    (hdec : ∀ value, dec ≠ .restore value) : ¬ r.SentRestore cfg a := by
  rintro ⟨value, acts', p, hdid', -⟩
  exact hdec value (hdid.unique hdid').1.symm

theorem Quiet.not_raised {tr : List Ev} (h : Quiet tr) : tr.any raised = false := by
  refine List.any_eq_false.mpr fun ev hev hr => ?_
  have := h ev hev
  obtain ⟨op, ans⟩ := ev
  cases op <;> first | cases hr | cases this

/-- A setting that cannot be looked up raises at once. -/
theorem doWrite_settingError {d : Dongle} {job : WriteJob} {dryRun : Bool} {x : PyErr}
    {out : Except PyErr Unit} (hset : settingRegister job.setting = .error x)
    (h : (doWrite d job value dryRun).Run acts out) : out = .error x := by
  unfold doWrite at h
  rw [hset] at h
  exact h.2

/-- A write that returns does not abort. -/
theorem not_aborts {out : Except PyErr Unit} (hout : out.isOk = true)
    (hrun : (doWrite cfg.dongle a.writeJob value r.switches.dryRun).Run acts out)
    (hs : Steps (step (.silent applies)) r.before.2 acts r.after.2) : ¬ r.Aborts a value acts := by
  rintro (⟨x, hset⟩ | hraised | ⟨hlive, p, hp, hsup, hno⟩)
  · rw [doWrite_settingError hset hrun] at hout
    cases hout
  · rcases doWrite_done hrun hs with ⟨hquiet, -⟩ | ⟨p, -, -, hdone, hraises⟩
    · exact absurd (hquiet.not_raised.symm.trans hraised) Bool.false_ne_true
    · rw [hraises (hdone.range_of_ok hout), hout] at hraised
      cases hraised
  · exact hno ((doWrite_live hrun hs hlive hp hsup).1.range_of_ok hout)

/-- An automation that is recorded as active has a reason for a restore. -/
def JustifiedInv (cfg : EngineConfig) (applies : Nat → Bool) (a : Automation)
    (hist : List Evaluation) (active : Bool) : Prop :=
  active = true → Justified cfg applies a hist

theorem justifiedInv_action {out : Except PyErr Bool}
    (hacted : r.Acted cfg applies a (.action value) acts out)
    (hc : r.Confirms cfg applies a hist) (hinv : JustifiedInv cfg applies a hist (r.active a)) :
    JustifiedInv cfg applies a (hist ++ [r]) (r.activeAfter a) := by
  intro hafter
  have hno : ¬ r.SentRestore cfg a := not_sentRestore hacted.did (by rintro _ ⟨⟩)
  cases hactive : r.active a with
  | true => exact (hinv hactive).snoc hno
  | false =>
    obtain ⟨o, hrun, rfl⟩ := perform_run hacted.performed
    rw [hacted.active, hactive] at hafter
    cases o with
    | error x => cases hafter
    | ok u =>
      rcases hc.action value acts hacted.did hactive with habort | hrecorded | hjustified
      · exact absurd habort (not_aborts rfl hrun hacted.steps)
      · exact justified_of_recorded hrecorded
      · exact hjustified.snoc hno

theorem justifiedInv_restore {out : Except PyErr Bool}
    (hacted : r.Acted cfg applies a (.restore value) acts out)
    (hc : r.Confirms cfg applies a hist) (hinv : JustifiedInv cfg applies a hist (r.active a)) :
    JustifiedInv cfg applies a (hist ++ [r]) (r.activeAfter a) := by
  intro hafter
  obtain ⟨hactive, -⟩ := hacted.did.fits
  obtain ⟨o, hrun, rfl⟩ := perform_run hacted.performed
  rw [hacted.active] at hafter
  cases o with
  | ok u => cases hafter
  | error x =>
    -- the restore raised, so its write was not sent
    refine (hinv hactive).snoc fun hsent => ?_
    have hquiet := hc.restore value acts hacted.did hsent
    obtain ⟨v, acts', p, hdid, hp, hsends⟩ := hsent
    obtain ⟨hdec, rfl⟩ := hacted.did.unique hdid
    cases hdec
    rcases doWrite_done hrun hacted.steps with ⟨hq, -⟩ | ⟨p', -, hp', hdone, hraises⟩
    · exact absurd ((hq.sends p.reg).symm.trans hsends) Bool.false_ne_true
    · obtain rfl := Option.some.inj (hp.symm.trans hp')
      rw [hraises (hdone.range hsends)] at hquiet
      cases hquiet

theorem justifiedInv_step (ha : a.writes = true) (hran : r.Ran cfg applies a)
    (hc : r.Confirms cfg applies a hist) (hinv : JustifiedInv cfg applies a hist (r.active a)) :
    JustifiedInv cfg applies a (hist ++ [r]) (r.activeAfter a) := by
  rcases hran.cases ha with hskip | ⟨dec, acts, out, hacted⟩
  · intro hafter
    refine (hinv (hskip.active.symm.trans hafter)).snoc ?_
    rintro ⟨value, acts, p, hdid, -⟩
    exact hskip.undecided _ _ hdid
  · cases dec with
    | keep =>
      intro hafter
      obtain ⟨-, rfl⟩ := hacted.performed
      exact (hinv (hacted.active.symm.trans hafter)).snoc (not_sentRestore hacted.did (by rintro _ ⟨⟩))
    | activate =>
      intro _
      have hno : ¬ r.SentRestore cfg a := not_sentRestore hacted.did (by rintro _ ⟨⟩)
      cases hactive : r.active a with
      | true => exact (hinv hactive).snoc hno
      | false => exact (hc.activate acts hacted.did hactive).snoc hno
    | action value => exact justifiedInv_action hacted hc hinv
    | restore value => exact justifiedInv_restore hacted hc hinv
    | clear =>
      intro hafter
      obtain ⟨-, rfl⟩ := hacted.performed
      cases hacted.active.symm.trans hafter

end

/-- In the rounds of an engine whose evaluations of the automation record what they make
active, an automation that is the only one of its id sends a restore only with a reason. -/
theorem restore_justified (cfg : EngineConfig) (applies : Nat → Bool) (a : Automation)
    (ha : a.writes = true) (e : Engine) (rounds : List Round) (hidle : e.lastEval a.id = false)
    (hrun : EngineRun cfg applies e rounds) (hown : ∀ R ∈ rounds, R.Owns a)
    (hconfirms : ∀ pre r post, evaluationsOf a rounds = pre ++ r :: post → r.Confirms cfg applies a pre) :
    NoSpuriousRestore cfg applies a (evaluationsOf a rounds) := by
  intro pre r post hsplit hsent
  have hactive := evaluationsOf_run hrun hown
  rw [hidle] at hactive
  obtain ⟨hbefore, -⟩ := Runs.invariant (JustifiedInv cfg applies a)
    (fun hist r hran hc hinv => justifiedInv_step ha hran hc hinv) hactive
    hconfirms (by rintro ⟨⟩) hsplit
  obtain ⟨value, acts, p, hdid, -⟩ := hsent
  exact hbefore hdid.fits.1

/-! ## A match in dry-run -/

/-- A match seen only in dry-run, then a live evaluation: the restore is written. -/
theorem restore_spurious :
    EngineRun guardConfig (fun _ => true) {} (guardRounds (fun _ => true) ({}, idleWorld) [(10, true), (50, false)]) ∧
    (∀ R ∈ guardRounds (fun _ => true) ({}, idleWorld) [(10, true), (50, false)], R.Owns batteryGuard) ∧
    ¬ NoSpuriousRestore guardConfig (fun _ => true) batteryGuard (evaluationsOf batteryGuard
      (guardRounds (fun _ => true) ({}, idleWorld) [(10, true), (50, false)])) := by
  refine ⟨guardRounds_run ({}, idleWorld) _, guardRounds_own _ _, fun h => ?_⟩
  rw [evaluationsOf_guardRounds] at h
  let e₁ := evaluate (fun _ => true) 10 true ({}, guardStore true idleWorld)
  let e₂ := evaluate (fun _ => true) 50 false (e₁.after.1, guardStore false e₁.after.2)
  have hsent : e₂.SentRestore guardConfig batteryGuard := by
    have hactive : e₁.after.1.lastEval "bp" = true := by decide +kernel
    exact ⟨.fin 45, e₂.trace, _, evaluate_restores hactive, guardPlan _ 450 (by decide +kernel),
      by decide +kernel⟩
  obtain ⟨pre, q, post, hsplit, ⟨value, acts, p, hdid, hlive, -⟩, -⟩ := h [e₁] e₂ [] rfl hsent
  have hq : q ∈ [e₁] := by
    rw [hsplit]
    simp
  obtain rfl := List.mem_singleton.mp hq
  cases hlive

/-- A live action that was applied justifies the restore. -/
theorem restore_with_reason : NoSpuriousRestore guardConfig (fun _ => true) batteryGuard (evaluationsOf batteryGuard
    (guardRounds (fun _ => true) ({}, idleWorld) [(10, false), (50, false)])) := by
  let e₁ := evaluate (fun _ => true) 10 false ({}, guardStore false idleWorld)
  let e₂ := evaluate (fun _ => true) 50 false (e₁.after.1, guardStore false e₁.after.2)
  have hdid₁ : e₁.Did guardConfig batteryGuard (.action (.fin 48)) e₁.trace := evaluate_acts
  have hactive : e₁.after.1.lastEval "bp" = true := by decide +kernel
  refine restore_justified guardConfig (fun _ => true) batteryGuard rfl {} _ rfl
    (guardRounds_run ({}, idleWorld) _) (guardRounds_own _ _) fun pre r post hsplit => ?_
  rw [evaluationsOf_guardRounds] at hsplit
  match pre, hsplit with
  | [], hsplit =>
    obtain rfl := (List.cons.inj hsplit).1
    refine ⟨fun _ _ _ _ => Or.inr (Or.inl ?_), fun acts hdid => ?_, fun value acts hdid => ?_⟩
    · exact ⟨.fin 48, e₁.trace, _, hdid₁, rfl, guardPlan _ 480 (by decide +kernel),
        Or.inl ⟨by decide +kernel, rfl⟩⟩
    · cases (hdid₁.unique hdid).1
    · cases (hdid₁.unique hdid).1
  | [x], hsplit =>
    obtain ⟨rfl, htail⟩ := List.cons.inj hsplit
    obtain rfl := (List.cons.inj htail).1
    have hdid₂ : e₂.Did guardConfig batteryGuard (.restore (.fin 45)) e₂.trace :=
      evaluate_restores hactive
    refine ⟨fun value acts hdid => ?_, fun acts hdid => ?_, fun value acts hdid _ => ?_⟩
    · cases (hdid₂.unique hdid).1
    · cases (hdid₂.unique hdid).1
    · rw [(hdid₂.unique hdid).2]
      decide +kernel
  | x :: y :: pre, hsplit => simp [guardEvaluations] at hsplit

end LuxMon
