import LuxMon.Automation.Decide
import LuxMon.Automation.Gate
import LuxMon.Automation.WriteRange
import LuxMon.Dongle.Footprint
import LuxMon.QuickCharge.Deadline

/-!
# Quick charge alongside the automations

The collector evaluates the automations and ticks the quick charge, the API starts and
stops it, in different threads and processes.  The automations never touch what the
quick charge stores or drives, and it stores nothing that they read.

    no automation reads or writes a register of the quick charge         (evaluateAndApply_asks)
    automations and quick charge in any interleaving are as if one of
      the two had come first: the same outcomes, the same final state    (jobs_independent)
-/

namespace LuxMon

open Python Effects Prog World

/-- What the quick charge drives and where it keeps its state. -/
def Cell.quickCharge : Cell → Bool
  | .reg r => r == qcEnableReg || r == qcDurationReg
  | .document n => n == qcStateKey
  | .setting _ => false

/-- Writes only what is the quick charge's, and reads beyond it only a setting. -/
structure Op.OfQuickCharge (op : Op) : Prop where
  writes : ∀ c, op.writes c = true → c.quickCharge = true
  reads : ∀ c, op.reads c = true → c.quickCharge = true ∨ ∃ n, c = .setting n

/-- Writes only registers, and touches nothing of the quick charge. -/
structure Op.OfAutomations (op : Op) : Prop where
  writes : ∀ c, op.writes c = true → c.quickCharge = false ∧ ∃ r, c = .reg r
  reads : ∀ c, op.reads c = true → c.quickCharge = false

theorem Op.OfQuickCharge.free {a b : Op} (ha : a.OfQuickCharge) (hb : b.OfAutomations) :
    ¬ a.Conflicts b ∧ ¬ b.Conflicts a := by
  have hwrite : ∀ c, a.writes c = true → b.reads c = true ∨ b.writes c = true → False := by
    rintro c hc (hr | hw)
    · exact absurd (ha.writes c hc) (by rw [hb.reads c hr]; decide)
    · exact absurd (ha.writes c hc) (by rw [(hb.writes c hw).1]; decide)
  have hread : ∀ c, a.reads c = true → b.writes c = true → False := by
    intro c hc hw
    obtain ⟨hq, r, rfl⟩ := hb.writes c hw
    rcases ha.reads _ hc with h | ⟨n, hn⟩
    · exact absurd h (by rw [hq]; decide)
    · cases hn
  constructor
  · rintro ⟨c, ⟨hw, h⟩ | ⟨hr, hw⟩⟩
    · exact hwrite c hw h
    · exact hread c hr hw
  · rintro ⟨c, ⟨hw, hr | hw'⟩ | ⟨hr, hw⟩⟩
    · exact hread c hr hw
    · exact hwrite c hw' (Or.inr hw)
    · exact hwrite c hw (Or.inl hr)

/-! ## What the automations touch -/

section
variable {d : Dongle} {r : Nat}

/-- No setting is mapped to a register of the quick charge. -/
theorem settingNameToRegister_others : (settingNameToRegister.all fun s =>
    ((s.2.bind holdingByName).map fun reg => !(Cell.reg reg).quickCharge).getD true) = true := by
  decide +kernel

theorem other_of_setting {setting : Json} {name : String} {reg : Nat}
    (hset : settingRegister setting = .ok (some name)) (hreg : holdingByName name = some reg) :
    (Cell.reg reg).quickCharge = false := by
  obtain ⟨s, hmem⟩ := settingRegister_mem hset
  have := List.all_eq_true.mp settingNameToRegister_others _ hmem
  simpa [hreg] using this

theorem ofAutomations_silent {op : Op} (hw : ∀ c, op.writes c = false) (hr : ∀ c, op.reads c = false) :
    op.OfAutomations :=
  ⟨fun c h => absurd h (by rw [hw c]; decide), fun c h => absurd h (by rw [hr c]; decide)⟩

theorem ofAutomations_setting (n : String) : (Op.getSetting n).OfAutomations := by
  refine ⟨fun c h => (by cases c <;> cases h), fun c h => ?_⟩
  obtain rfl : c = .setting n := by simpa [Op.reads] using h
  rfl

theorem ofAutomations_read (h : (Cell.reg r).quickCharge = false) :
    (Op.transact d (.readHoldOne r)).OfAutomations := by
  refine ⟨fun c hc => (by cases c <;> cases hc), fun c hc => ?_⟩
  obtain rfl : c = .reg r := by simpa [Op.reads] using hc
  exact h

theorem ofAutomations_write {v : ℤ} (h : (Cell.reg r).quickCharge = false) :
    (Op.transact d (.writeSingle r v)).OfAutomations := by
  refine ⟨fun c hc => ?_, fun c hc => by cases hc⟩
  cases c with
  | reg q =>
    obtain rfl : r = q := by
      by_contra hne
      simp [Op.writes, hne] at hc
    exact ⟨h, r, rfl⟩
  | setting n => cases hc
  | document n => cases hc

theorem ofAutomations_log (row : LogRow) : (Op.insertLog row).OfAutomations :=
  ofAutomations_silent (fun c => by cases c <;> rfl) fun c => rfl

theorem ofAutomations_clock (tz : String) : (Op.nowInTz tz).OfAutomations :=
  ofAutomations_silent (fun c => by cases c <;> rfl) fun c => rfl

theorem doWrite_ofAutomations (job : WriteJob) (value : PyFloat) (dryRun : Bool) :
    (doWrite d job value dryRun).Asks Op.OfAutomations :=
  doWrite_asks_register (ofAutomations_setting _)
    (fun _ _ hset hreg => ⟨ofAutomations_read (other_of_setting hset hreg), fun _ =>
      ofAutomations_write (other_of_setting hset hreg)⟩)
    (ofAutomations_silent (fun c => by cases c <;> rfl) fun c => rfl) ofAutomations_log

end

section
variable {cfg : EngineConfig} {snapshot : Snapshot} {dryRun : Bool} {e : Engine} {a : Automation}

/-- What an automation that writes does with its decision. -/
theorem perform_ofAutomations (job : WriteJob) (active : Bool) (dec : Decision) :
    (dec.perform cfg.dongle job dryRun active).Asks Op.OfAutomations := by
  cases dec with
  | keep => trivial
  | activate => trivial
  | action value => exact asks_bind (doWrite_ofAutomations _ _ _) fun _ => trivial
  | restore value => exact asks_bind (doWrite_ofAutomations _ _ _) fun _ => trivial
  | clear => trivial

theorem evaluateOne_ofAutomations : (evaluateOne cfg snapshot dryRun e a).Asks Op.OfAutomations := by
  have hclock : ∀ {α : Type} {p : Py α}, (p.Asks fun op => op = .nowInTz cfg.timezone) →
      p.Asks Op.OfAutomations := fun h => h.mono fun op hop => by
    rw [hop]
    exact ofAutomations_clock _
  by_cases hw : a.writes = true
  · rw [evaluateOne_eq hw]
    refine asks_bind (hclock look_asks) fun dec => ?_
    exact asks_bind (perform_ofAutomations _ _ dec) fun active => trivial
  · unfold evaluateOne
    refine asks_bind (hclock (allConditionsMatch_asks _)) fun matched => ?_
    split
    · split
      · refine asks_bind (sendNotification_asks _ ?_ ?_ fun row _ => ofAutomations_log row) fun _ => trivial
        · exact ofAutomations_silent (fun c => by cases c <;> rfl) fun c => rfl
        · exact fun _ _ => ofAutomations_silent (fun c => by cases c <;> rfl) fun c => rfl
      · trivial
    · next hnotify =>
      split
      · next hprotection =>
        exact absurd hw (by simp [Automation.writes, hnotify, hprotection])
      · next hprotection =>
        split
        · exact asks_bind (evaluateBatterySoc_asks (ofAutomations_clock _) fun row _ => ofAutomations_log row)
            fun _ => trivial
        · next hsoc => exact absurd hw (by simp [Automation.writes, hnotify, hprotection, hsoc])

theorem evaluateAndApply_asks (cfg : EngineConfig) (snapshot : Snapshot) (e : Engine) :
    (evaluateAndApply cfg snapshot e).Asks Op.OfAutomations := by
  have hturns : ∀ (s : Switches) (as : List Automation) (e : Engine),
      (turns cfg snapshot s e as).Asks Op.OfAutomations := by
    intro s as
    induction as with
    | nil => exact fun e => trivial
    | cons a as ih =>
      intro e
      refine asks_bind ?_ ih
      rcases turn_cases cfg snapshot s e a with ⟨-, h⟩ | ⟨-, h⟩
      · rw [h]
        trivial
      · rw [h]
        exact asks_tryCatch evaluateOne_ofAutomations fun _ => trivial
  unfold evaluateAndApply
  refine asks_bind ⟨ofAutomations_setting _, fun _ => trivial⟩ fun enabled => ?_
  refine asks_bind ⟨ofAutomations_setting _, fun _ => trivial⟩ fun dryRun => ?_
  refine asks_bind ⟨⟨fun c h => (by cases c <;> cases h), fun c h => ?_⟩, fun _ => trivial⟩ fun automations => ?_
  · obtain rfl : c = .document SETTING_AUTOMATIONS := by simpa [Op.reads] using h
    decide
  · exact ⟨ofAutomations_silent (fun c => by cases c <;> rfl) fun c => rfl, fun now => hturns _ _ _⟩

end

/-! ## What the quick charge touches -/

section
variable {d : Dongle}

theorem ofQuickCharge_silent {op : Op} (hw : ∀ c, op.writes c = false) (hr : ∀ c, op.reads c = false) :
    op.OfQuickCharge :=
  ⟨fun c h => absurd h (by rw [hw c]; decide), fun c h => absurd h (by rw [hr c]; decide)⟩

theorem ofQuickCharge_log (row : LogRow) : (Op.insertLog row).OfQuickCharge :=
  ofQuickCharge_silent (fun c => by cases c <;> rfl) fun c => rfl

theorem ofQuickCharge_sleep (seconds : ℚ) : (Op.sleep seconds).OfQuickCharge :=
  ofQuickCharge_silent (fun c => by cases c <;> rfl) fun c => rfl

theorem ofQuickCharge_setting (n : String) : (Op.getSetting n).OfQuickCharge := by
  refine ⟨fun c h => (by cases c <;> cases h), fun c h => ?_⟩
  obtain rfl : c = .setting n := by simpa [Op.reads] using h
  exact Or.inr ⟨n, rfl⟩

theorem ofQuickCharge_read {r : Nat} (h : (Cell.reg r).quickCharge = true) :
    (Op.transact d (.readHoldOne r)).OfQuickCharge := by
  refine ⟨fun c hc => (by cases c <;> cases hc), fun c hc => ?_⟩
  obtain rfl : c = .reg r := by simpa [Op.reads] using hc
  exact Or.inl h

theorem ofQuickCharge_write {r : Nat} {v : ℤ} (h : (Cell.reg r).quickCharge = true) :
    (Op.transact d (.writeSingle r v)).OfQuickCharge := by
  refine ⟨fun c hc => ?_, fun c hc => by cases hc⟩
  cases c with
  | reg q =>
    obtain rfl : r = q := by
      by_contra hne
      simp [Op.writes, hne] at hc
    exact h
  | setting n => cases hc
  | document n => cases hc

theorem loadState_ofQuickCharge : loadState.Asks Op.OfQuickCharge := by
  refine asks_bind ⟨⟨fun c h => (by cases c <;> cases h), fun c h => ?_⟩, fun _ => trivial⟩ fun a => asks_ofExcept _
  obtain rfl : c = .document qcStateKey := by simpa [Op.reads] using h
  exact Or.inl (by decide)

theorem saveState_ofQuickCharge (s : QuickChargeState) : (saveState s).Asks Op.OfQuickCharge := by
  refine asks_bind ⟨⟨fun c hc => ?_, fun c h => (by cases h)⟩, fun _ => trivial⟩ fun a => asks_ofExcept _
  cases c with
  | reg q => cases hc
  | setting n => cases hc
  | document n =>
    obtain rfl : qcStateKey = n := by
      by_contra hne
      simp [Op.writes, hne] at hc
    decide

theorem logQc_ofQuickCharge (name : String) (raw scaled : Option ℤ) (success : Bool) (msg : String) :
    (logQc name raw scaled success msg).Asks Op.OfQuickCharge :=
  logQc_asks ofQuickCharge_log name raw scaled success msg

theorem setEnableBit_ofQuickCharge (enable : Bool) : (setEnableBit d enable).Asks Op.OfQuickCharge :=
  setEnableBit_asks (ofQuickCharge_read (by decide)) (fun _ => ofQuickCharge_write (by decide))
    (ofQuickCharge_sleep _) enable

theorem startEnable_ofQuickCharge (minutes raw : ℤ) : (startEnable d minutes raw).Asks Op.OfQuickCharge := by
  refine asks_bind (setEnableBit_ofQuickCharge true) fun res => ?_
  rcases res with msg | ⟨msg, new⟩
  · exact asks_bind (logQc_ofQuickCharge _ _ _ _ _) fun _ => trivial
  · refine asks_bind (logQc_ofQuickCharge _ _ _ _ _) fun _ => ?_
    refine asks_bind ⟨ofQuickCharge_silent (fun c => by cases c <;> rfl) fun c => rfl, fun _ => trivial⟩ fun now => ?_
    refine asks_bind ⟨ofQuickCharge_silent (fun c => by cases c <;> rfl) fun c => rfl, fun _ => trivial⟩ fun utc => ?_
    exact asks_bind (saveState_ofQuickCharge _) fun _ => trivial

theorem start_ofQuickCharge (minutes : Option ℤ) (dryRun : Bool) :
    (start d minutes dryRun).Asks Op.OfQuickCharge := by
  have hminutes : (requestedMinutes minutes).Asks Op.OfQuickCharge :=
    (requestedMinutes_asks minutes).mono fun op hop => by
      rw [hop]
      exact ofQuickCharge_setting _
  refine asks_bind hminutes fun requested => asks_bind (asks_ofExcept _) fun durMeta => ?_
  split
  · trivial
  · split
    · exact asks_bind (logQc_ofQuickCharge _ _ _ _ _) fun _ => trivial
    · refine asks_bind (writeHoldingRegister_asks (ofQuickCharge_write (by decide))) fun res => ?_
      cases res with
      | error msg => exact asks_bind (logQc_ofQuickCharge _ _ _ _ _) fun _ => trivial
      | ok msg => exact asks_bind (logQc_ofQuickCharge _ _ _ _ _) fun _ => startEnable_ofQuickCharge _ _

theorem stop_ofQuickCharge (dryRun : Bool) : (stop d dryRun).Asks Op.OfQuickCharge := by
  refine asks_bind loadState_ofQuickCharge fun state => ?_
  split
  · exact asks_bind (logQc_ofQuickCharge _ _ _ _ _) fun _ => trivial
  · refine asks_bind (setEnableBit_ofQuickCharge false) fun res => ?_
    rcases res with msg | ⟨msg, new⟩
    · exact asks_bind (logQc_ofQuickCharge _ _ _ _ _) fun _ => trivial
    · refine asks_bind (logQc_ofQuickCharge _ _ _ _ _) fun _ => ?_
      rw [stopClear_eq]
      refine asks_bind (writeHoldingRegister_asks (ofQuickCharge_write (by decide))) fun res => ?_
      cases res with
      | error msg => exact asks_bind (logQc_ofQuickCharge _ _ _ _ _) fun _ => trivial
      | ok msg =>
        refine asks_bind (logQc_ofQuickCharge _ _ _ _ _) fun _ => ?_
        exact asks_bind (saveState_ofQuickCharge _) fun _ => trivial

theorem tick_ofQuickCharge : (tick d).Asks Op.OfQuickCharge := by
  refine asks_bind loadState_ofQuickCharge fun state => ?_
  split
  · trivial
  · refine asks_bind ⟨ofQuickCharge_silent (fun c => by cases c <;> rfl) fun c => rfl, fun _ => trivial⟩ fun now => ?_
    split
    · trivial
    · refine asks_bind (stop_ofQuickCharge false) fun result => ?_
      cases result with
      | error msg => trivial
      | ok report => exact asks_bind (logQc_ofQuickCharge _ _ _ _ _) fun _ => trivial

end

/-! ## Jobs of both kinds -/

/-- What runs against the inverter and the database. -/
inductive Job
  | evaluate (cfg : EngineConfig) (snapshot : Snapshot) (e : Engine)
  | start (d : Dongle) (minutes : Option ℤ) (dryRun : Bool)
  | stop (d : Dongle) (dryRun : Bool)
  | tick (d : Dongle)

/-- What a job returns. -/
inductive Job.Result
  | engine (e : Engine)
  | started (report : Except String StartReport)
  | stopped (report : Except String StopReport)
  | ticked (report : Option (Except String StopReport))

def Job.run : Job → Py Job.Result
  | .evaluate cfg snapshot e => do return .engine (← evaluateAndApply cfg snapshot e)
  | .start d minutes dryRun => do return .started (← LuxMon.start d minutes dryRun)
  | .stop d dryRun => do return .stopped (← LuxMon.stop d dryRun)
  | .tick d => do return .ticked (← LuxMon.tick d)

def Job.isQuickCharge : Job → Bool
  | .evaluate _ _ _ => false
  | _ => true

theorem Job.run_asks (job : Job) : job.run.Asks fun op =>
    if job.isQuickCharge then op.OfQuickCharge else op.OfAutomations := by
  cases job with
  | evaluate cfg snapshot e => exact asks_bind (evaluateAndApply_asks cfg snapshot e) fun _ => trivial
  | start d minutes dryRun => exact asks_bind (start_ofQuickCharge minutes dryRun) fun _ => trivial
  | stop d dryRun => exact asks_bind (stop_ofQuickCharge dryRun) fun _ => trivial
  | tick d => exact asks_bind tick_ofQuickCharge fun _ => trivial

/-- Evaluations of the automations and operations of the quick charge, in any number and interleaved in any
way, could have run with all of one kind before all of the other: every job with its own answers and result,
to the same registers, settings and documents. -/
theorem jobs_independent {ι : Type} [DecidableEq ι] {pol : Policy} (hpol : pol.Memoryless) (jobs : ι → Job)
    {w w' : World} {tr : List (ι × Ev)} {out : ι → Except PyErr Job.Result}
    (hrun : PoolRun (step pol) w (fun i => (jobs i).run) tr w' out) :
    PoolRun (step pol) w (fun i => (jobs i).run) (grouped (fun i => (jobs i).isQuickCharge) tr) w' out ∧
      PoolRun (step pol) w (fun i => (jobs i).run) (grouped (fun i => !(jobs i).isQuickCharge) tr) w' out := by
  have hkind : ∀ x ∈ tr, if (jobs x.1).isQuickCharge then x.2.1.OfQuickCharge else x.2.1.OfAutomations := by
    rintro ⟨i, ev⟩ hx
    exact (jobs i).run_asks.of_run (((poolRun_iff _ _ _ _ _ _).mp hrun).1 i) ev (mem_only.mpr hx)
  have hfree : ∀ x ∈ tr, ∀ y ∈ tr, (jobs x.1).isQuickCharge = true → (jobs y.1).isQuickCharge = false →
      ¬ x.2.1.Conflicts y.2.1 ∧ ¬ y.2.1.Conflicts x.2.1 := by
    intro x hx y hy hqx hqy
    have hkx := hkind x hx
    have hky := hkind y hy
    rw [if_pos hqx] at hkx
    rw [if_neg (by rw [hqy]; decide)] at hky
    exact hkx.free hky
  constructor
  · exact poolRun_grouped (step_commute hpol) _ (fun x hx y hy hqx hqy => (hfree y hy x hx hqy hqx).2) hrun
  · refine poolRun_grouped (step_commute hpol) _ (fun x hx y hy hqx hqy => (hfree x hx y hy ?_ ?_).1) hrun
    · simpa using hqx
    · simpa using hqy

/-- Half an hour is started while the automation of `armedWorld` is evaluated, effect by effect in turn. -/
def startBeside : Bool → Job
  | true => .start idleDongle (some 30) false
  | false => .evaluate ⟨idleDongle, "UTC", false⟩ (fun _ => some (.int 40)) {}

def besideRun :=
  execPool World.answer ((List.replicate 12 [true, false]).flatten) armedWorld fun i => (startBeside i).run

theorem besideRun_independent :
    ((besideRun.2.1.regs qcDurationReg, besideRun.2.1.regs qcEnableReg, besideRun.2.1.regs 99) = (30, 1, 540)) ∧
      ∃ out, PoolRun (step .reliable) armedWorld (fun i => (startBeside i).run)
        (grouped (fun i => (startBeside i).isQuickCharge) besideRun.1) besideRun.2.1 out := by
  have hreturns : ∀ i, (besideRun.2.2 i).returns (fun _ => true) = true := by decide +kernel
  obtain ⟨out, hrun⟩ : ∃ out, PoolRun (step .reliable) armedWorld (fun i => (startBeside i).run)
      besideRun.1 besideRun.2.1 out := by
    unfold besideRun at hreturns ⊢
    exact execPool_returns (step .reliable) World.answer World.answer_step _ _ _ hreturns
  exact ⟨by decide +kernel, out, (jobs_independent (fun _ _ => rfl) startBeside hrun).1⟩

end LuxMon
