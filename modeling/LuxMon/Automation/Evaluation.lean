import LuxMon.Automation.Decide
import LuxMon.Automation.Gate
import LuxMon.Dongle.Silent
import LuxMon.Effects.History

/-!
# One evaluation against the inverter

What one evaluation of an automation leaves behind: the recorded activity and the
register of its setting.  The writes may be applied or not, the reads may fail.

    a write that is sent and applied sets the register; nothing else does      (doWrite_done)
    an evaluation decides nothing, or it looks, acts and records               (Evaluation.Ran.cases)
-/

namespace LuxMon

open Python Effects Prog World

variable {applies : Nat → Bool} {d : Dongle} {w w' : World}

/-! ## Writing a setting -/

/-- What a live write of a register does. -/
structure WriteDone (applies : Nat → Bool) (reg : Nat) (raw : ℤ) (w : World) (tr : List Ev)
    (out : Except PyErr Unit) (w' : World) : Prop where
  target : w'.regs reg = if sends reg tr && applies w.writes then raw.toNat.toUInt16 else w.regs reg
  range : sends reg tr = true → 0 ≤ raw ∧ raw ≤ 0xFFFF
  unsent : sends reg tr = false → out.isOk = true → ((w.regs reg).toNat : ℤ) = raw

section
variable {reg : Nat} {raw : ℤ} {tr : List Ev} {out : Except PyErr Unit}

theorem WriteDone.of_unsent (hs : sends reg tr = false)
    (hok : out.isOk = true → ((w.regs reg).toNat : ℤ) = raw) : WriteDone applies reg raw w tr out w :=
  ⟨by rw [hs]; rfl, fun h => absurd (hs.symm.trans h) Bool.false_ne_true, fun _ => hok⟩

theorem WriteDone.of_sent {echoed : Bool} (hv : 0 ≤ raw ∧ raw ≤ 0xFFFF)
    (h : writeStep (.silent applies) w reg [raw] echoed w') (hs : sends reg tr = true) :
    WriteDone applies reg raw w tr out w' := by
  obtain ⟨-, -, -, applied, rfl, hreg⟩ := writeStep_regs h
  refine ⟨?_, fun _ => hv, fun h => ?_⟩
  · rw [hreg, hs, Bool.true_and]
  · rw [hs] at h
    cases h

/-- A write that returns had a 16-bit value. -/
theorem WriteDone.range_of_ok (h : WriteDone applies reg raw w tr out w') (hok : out.isOk = true) :
    0 ≤ raw ∧ raw ≤ 0xFFFF := by
  cases hs : sends reg tr with
  | true => exact h.range hs
  | false =>
    have := h.unsent hs hok
    have := (w.regs reg).toNat_lt
    omega

/-- The register holds a 16-bit value that was sent and applied. -/
theorem WriteDone.applied (h : WriteDone applies reg raw w tr out w') (hs : sends reg tr = true)
    (happ : applies w.writes = true) : ((w'.regs reg).toNat : ℤ) = raw := by
  have hrange := h.range hs
  rw [h.target, hs, happ]
  simp only [Bool.and_self, if_true, Nat.toUInt16_eq, UInt16.toNat_ofNat']
  omega

end

theorem writeVerified_done (job : WriteJob) (regName : String) {reg : Nat} (hreg : reg ≤ 0xFFFF)
    (raw : ℤ) (clamped : PyFloat) :
    Ensures (step (.silent applies)) w (writeVerified d job regName reg raw clamped)
      (WriteDone applies reg raw w) := by
  unfold writeVerified
  refine (readHoldingRegister_spec hreg).bind ?_ ?_
  · rintro t res w ⟨rfl, hval, a, rfl, -⟩
    have hread : sends reg [⟨.transact d (.readHoldOne reg), a⟩] = false := rfl
    split
    · next hc =>
      refine (ensures_pure _).mpr (.of_unsent (by simp [hread]) fun _ => ?_)
      cases res with
      | error msg => cases hc
      | ok read =>
        obtain ⟨v, msg⟩ := read
        rw [← hval v msg rfl]
        simpa [ReadResult.confirms] using hc
    · refine (writeHoldingRegister_spec hreg).bind ?_ ?_
      · rintro t wres w' (⟨-, -, -, e, he⟩ | ⟨hv, b, rfl, -, hw⟩)
        · cases he
        · have hsent : ∀ u, sends reg ([⟨.transact d (.readHoldOne reg), a⟩] ++
              ([⟨.transact d (.writeSingle reg raw), b⟩] ++ u)) = true := fun u => by
            simp [sends, Op.writesReg]
          cases wres with
          | error msg =>
            refine (logAutomation_spec _ _ _ _ _ _ _ _).mono ?_
            rintro u _ w' ⟨rfl, -⟩
            exact .of_sent hv hw (hsent u)
          | ok msg =>
            refine (readBack_spec hreg 4).bind ?_ ?_
            · rintro t verified w' ⟨rfl, -⟩
              split
              · refine (logAutomation_spec _ _ _ _ _ _ _ _).mono ?_
                rintro u _ w' ⟨rfl, -⟩
                exact .of_sent hv hw (hsent _)
              · refine (logAutomation_spec _ _ _ _ _ _ _ _).mono ?_
                rintro u _ w' ⟨rfl, -⟩
                exact .of_sent hv hw (hsent _)
            · rintro t x w' ⟨rfl, -⟩
              exact .of_sent hv hw (hsent _)
      · rintro t x w' (⟨-, rfl, rfl, -⟩ | ⟨hv, b, rfl, -, hw⟩)
        · exact .of_unsent (by simp [hread]) fun h => by cases h
        · exact .of_sent hv hw (by simp [sends, Op.writesReg])
  · rintro t x w ⟨rfl, -, a, rfl, -⟩
    exact .of_unsent rfl fun h => by cases h

theorem logAutomation_raisesOn (id : String) (name registerName : Json) (raw : Option ℤ)
    (scaled : Option PyFloat) (dryRun success : Bool) (message : String) :
    (logAutomation id name registerName raw scaled dryRun success message).RaisesOn raised :=
  raisesOn_ask (fun _ => rfl) fun _ => raisesOn_pure _

/-- A 16-bit value raises only what a transaction raises. -/
theorem writeVerified_raisesOn (job : WriteJob) (regName : String) {reg : Nat} (hreg : reg ≤ 0xFFFF)
    {raw : ℤ} (hraw : 0 ≤ raw ∧ raw ≤ 0xFFFF) (clamped : PyFloat) :
    (writeVerified d job regName reg raw clamped).RaisesOn raised := by
  refine raisesOn_bind (readHoldingRegister_raisesOn hreg) fun current => ?_
  split
  · exact raisesOn_pure _
  · refine raisesOn_bind (writeHoldingRegister_raisesOn hreg hraw) fun res => ?_
    split
    · exact logAutomation_raisesOn _ _ _ _ _ _ _ _
    · refine raisesOn_bind (readBack_raisesOn hreg 4) fun verified => ?_
      split <;> exact logAutomation_raisesOn _ _ _ _ _ _ _ _

/-- Without transactions no register changes. -/
theorem Quiet.keeps_regs {pol : Policy} {tr : List Ev} (h : Quiet tr) (hs : Steps (step pol) w tr w') :
    w'.regs = w.regs := by
  refine hs.unchanged World.regs fun ev hev a b hab => (step_keeps_regs hab ?_).1
  have := h ev hev
  obtain ⟨op, ans⟩ := ev
  cases op <;> first | rfl | cases this

theorem Quiet.sends {tr : List Ev} (h : Quiet tr) (r : Nat) : sends r tr = false := by
  refine List.any_eq_false.mpr fun ev hev hw => ?_
  have := h ev hev
  obtain ⟨op, ans⟩ := ev
  cases op <;> first | cases hw | cases this

/-- A `doWrite` is not live and changes nothing, or it carries out its plan. -/
theorem doWrite_done {job : WriteJob} {value : PyFloat} {dryRun : Bool} {tr : List Ev}
    {out : Except PyErr Unit} (h : (doWrite d job value dryRun).Run tr out)
    (hs : Steps (step (.silent applies)) w tr w') :
    (Quiet tr ∧ NotLive job.setting value dryRun tr ∧ w'.regs = w.regs) ∨
      ∃ p, dryRun = false ∧ writePlan job.setting value = some p ∧
        WriteDone applies p.reg p.raw w tr out w' ∧
        (0 ≤ p.raw ∧ p.raw ≤ 0xFFFF → tr.any raised = !out.isOk) := by
  rcases doWrite_run h with ⟨hidle, hnot⟩ | ⟨p, m, rest, hdry, hp, rfl, -, hrest⟩
  · exact Or.inl ⟨hidle.quiet, hnot, hidle.quiet.keeps_regs hs⟩
  · obtain ⟨-, hname, -, -⟩ := settingRegister_of_plan hp
    have hreg := holdingByName_le hname
    obtain ⟨w₁, ⟨rfl, -⟩, hs⟩ := hs
    refine Or.inr ⟨p, hdry, hp, ?_, fun hraw => ?_⟩
    · obtain ⟨h1, h2, h3⟩ := writeVerified_done job p.regName hreg p.raw _ rest out w' hrest hs
      exact ⟨h1, h2, h3⟩
    · exact writeVerified_raisesOn job p.regName hreg hraw _ rest out hrest

/-- Every model that is read has the register. -/
def modelsSupport (reg : Nat) (acts : List Ev) : Bool :=
  acts.all fun
    | ⟨.getSetting _, m⟩ => supports (settingOrDefault m DEFAULT_MODEL) reg
    | _ => true

/-- Live, with a plan and a model that has the register, the plan is carried out. -/
theorem doWrite_live {job : WriteJob} {value : PyFloat} {dryRun : Bool} {tr : List Ev}
    {out : Except PyErr Unit} {p : WritePlan} (h : (doWrite d job value dryRun).Run tr out)
    (hs : Steps (step (.silent applies)) w tr w') (hlive : dryRun = false)
    (hp : writePlan job.setting value = some p) (hsup : modelsSupport p.reg tr = true) :
    WriteDone applies p.reg p.raw w tr out w' ∧
      (0 ≤ p.raw ∧ p.raw ≤ 0xFFFF → tr.any raised = !out.isOk) := by
  rcases doWrite_done h hs with ⟨-, hnot, -⟩ | ⟨p', -, hp', hdone⟩
  · exfalso
    rcases hnot with hdry | hnone | ⟨m, p', hm, hp', hno⟩
    · exact absurd (hlive.symm.trans hdry) Bool.false_ne_true
    · exact absurd (hp.symm.trans hnone) (by simp)
    · obtain rfl := Option.some.inj (hp.symm.trans hp')
      exact absurd (hno.symm.trans (List.all_eq_true.mp hsup _ hm)) Bool.false_ne_true
  · obtain rfl := Option.some.inj (hp.symm.trans hp')
    exact hdone

/-- The register that the automation writes. -/
def Automation.targetReg (a : Automation) : Option Nat :=
  match settingRegister a.writeJob.setting with
  | .ok (some name) => holdingByName name
  | _ => none

/-- An act that writes is its `doWrite`, with the activity it stands for. -/
theorem perform_run {p : Py Unit} {b : Bool} {acts : List Ev} {out : Except PyErr Bool}
    (h : (p >>= fun _ => pure b).Run acts out) :
    ∃ o : Except PyErr Unit, p.Run acts o ∧ out = o.map fun _ => b := by
  rcases (run_bind _ _ _ _).mp h with ⟨u, t, v, rfl, hp, ⟨rfl, rfl⟩⟩ | ⟨x, rfl, hp⟩
  · exact ⟨.ok u, by rwa [List.append_nil], rfl⟩
  · exact ⟨.error x, hp, rfl⟩

/-! ## Evaluations -/

/-- One turn of an automation, with what surrounds it. -/
structure Evaluation where
  snapshot : Snapshot
  switches : Switches
  before : Engine × World
  trace : List Ev
  after : Engine × World

namespace Evaluation

variable {cfg : EngineConfig} {a : Automation} {r : Evaluation}

/-- The recorded activity before the evaluation. -/
def active (a : Automation) (r : Evaluation) : Bool := r.before.1.lastEval a.id

/-- The recorded activity after it. -/
def activeAfter (a : Automation) (r : Evaluation) : Bool := r.after.1.lastEval a.id

/-- A complete turn against the dongle that drops writes. -/
def Ran (cfg : EngineConfig) (applies : Nat → Bool) (a : Automation) (r : Evaluation) : Prop :=
  (turn cfg r.snapshot r.switches r.before.1 a).Run r.trace (.ok r.after.1) ∧
    Steps (step (.silent applies)) r.before.2 r.trace r.after.2

/-- The turn takes place, comes to the decision `dec` and then does `acts`. -/
structure Did (cfg : EngineConfig) (a : Automation) (r : Evaluation) (dec : Decision)
    (acts : List Ev) : Prop where
  enabled : r.switches.enabled = true
  enabledOne : a.enabled = true
  notTimedOut : a.timedOut r.switches.now = false
  looked : ∃ look, r.trace = look ++ acts ∧
    (a.look cfg.timezone r.snapshot (r.active a)).Run look (.ok dec)

theorem Did.unique {dec dec' : Decision} {acts acts' : List Ev} (h : r.Did cfg a dec acts)
    (h' : r.Did cfg a dec' acts') : dec' = dec ∧ acts' = acts := by
  obtain ⟨look, htr, hlook⟩ := h.looked
  obtain ⟨look', htr', hlook'⟩ := h'.looked
  obtain ⟨-, rfl, hdec⟩ := hlook.unique hlook' (htr.symm.trans htr')
  exact ⟨(Except.ok.inj hdec).symm, rfl⟩

theorem Did.fits {dec : Decision} {acts : List Ev} (h : r.Did cfg a dec acts) :
    dec.Fits a (r.active a) := by
  obtain ⟨look, -, hlook⟩ := h.looked
  exact look_fits look _ () hlook (steps_anyStep look) dec rfl

/-- Nothing is decided, and everything stays. -/
structure Skipped (cfg : EngineConfig) (a : Automation) (r : Evaluation) : Prop where
  undecided : ∀ dec acts, ¬ r.Did cfg a dec acts
  active : r.activeAfter a = r.active a
  regs : r.after.2.regs = r.before.2.regs

/-- The decision is carried out, and the activity recorded unless that raises. -/
structure Acted (cfg : EngineConfig) (applies : Nat → Bool) (a : Automation) (r : Evaluation)
    (dec : Decision) (acts : List Ev) (out : Except PyErr Bool) : Prop where
  did : r.Did cfg a dec acts
  performed : (dec.perform cfg.dongle a.writeJob r.switches.dryRun (r.active a)).Run acts out
  steps : Steps (step (.silent applies)) r.before.2 acts r.after.2
  active : r.activeAfter a = out.toOption.getD (r.active a)

/-- Looking does not touch the inverter. -/
theorem look_keeps {tz : String} {snapshot : Snapshot} {active : Bool} :
    Ensures (step (.silent applies)) w (a.look tz snapshot active) fun _ _ w' => w' = w :=
  Ensures.frame look_asks (· = w) (by rintro ⟨op, ans⟩ x y rfl rfl hstep; exact hstep) rfl

/-- A turn without a decision that ends at once. -/
theorem skipped_of_nil (hrun : (pure r.before.1 : Py Engine).Run r.trace (.ok r.after.1))
    (hs : Steps (step (.silent applies)) r.before.2 r.trace r.after.2)
    (hno : ∀ dec acts, ¬ r.Did cfg a dec acts) : r.Skipped cfg a := by
  obtain ⟨htr, he⟩ := hrun
  rw [htr] at hs
  have hw : r.after.2 = r.before.2 := hs
  exact ⟨hno, by rw [activeAfter, active, Except.ok.inj he], by rw [hw]⟩

/-- A decision whose act raises keeps the recorded activity. -/
theorem acted_of_error {dec : Decision} {acts : List Ev} {x : PyErr} (hdid : r.Did cfg a dec acts)
    (hp : (dec.perform cfg.dongle a.writeJob r.switches.dryRun (r.active a)).Run acts (.error x))
    (hs : Steps (step (.silent applies)) r.before.2 acts r.after.2) (he : r.after.1 = r.before.1) :
    r.Acted cfg applies a dec acts (.error x) :=
  ⟨hdid, hp, hs, by rw [activeAfter, he]; rfl⟩

theorem Ran.cases (ha : a.writes = true) (h : r.Ran cfg applies a) :
    r.Skipped cfg a ∨ ∃ dec acts out, r.Acted cfg applies a dec acts out := by
  obtain ⟨hrun, hs⟩ := h
  rcases turn_cases cfg r.snapshot r.switches r.before.1 a with ⟨hoff, hturn⟩ | ⟨⟨hon, hone, htime⟩, hturn⟩
  · rw [hturn] at hrun
    refine Or.inl (skipped_of_nil hrun hs fun dec acts hdid => ?_)
    exact hoff ⟨hdid.enabled, hdid.enabledOne, hdid.notTimedOut⟩
  · rw [hturn, evaluateOne_eq ha] at hrun
    rcases (run_tryCatch _ _ _ _).mp hrun with ⟨e, he, hrun⟩ | ⟨x, t, u, htr, hrun, hu⟩
    · -- looked, acted and recorded
      obtain ⟨dec, look, rest, htr, hlook, hrest⟩ := (run_bind_ok _ _ _ _).mp hrun
      obtain ⟨active, acts, u, rfl, hperform, ⟨rfl, hmark⟩⟩ := (run_bind_ok _ _ _ _).mp hrest
      rw [List.append_nil] at htr
      rw [htr] at hs
      obtain ⟨m, hlooked, hs⟩ := steps_append.mp hs
      obtain rfl := look_keeps look _ m hlook hlooked
      refine Or.inr ⟨dec, acts, .ok active, ⟨hon, hone, htime, look, htr, hlook⟩, hperform, hs, ?_⟩
      rw [activeAfter, Except.ok.inj he, Except.ok.inj hmark, Engine.mark_lastEval]
      rfl
    · obtain ⟨rfl, he⟩ := hu
      have he : r.after.1 = r.before.1 := Except.ok.inj he
      rw [List.append_nil] at htr
      rcases (run_bind _ _ _ _).mp hrun with ⟨dec, look, rest, rfl, hlook, hrest⟩ | ⟨y, -, hlook⟩
      · -- the act raised
        rw [htr] at hs
        obtain ⟨m, hlooked, hs⟩ := steps_append.mp hs
        obtain rfl := look_keeps look _ m hlook hlooked
        rcases (run_bind _ _ _ _).mp hrest with ⟨active, t, u, -, -, -, hbad⟩ | ⟨y, -, hperform⟩
        · cases hbad
        · exact Or.inr ⟨dec, rest, .error y,
            acted_of_error ⟨hon, hone, htime, look, htr, hlook⟩ hperform hs he⟩
      · -- looking raised
        refine Or.inl ⟨fun dec acts hdid => ?_, by rw [activeAfter, Evaluation.active, he], ?_⟩
        · obtain ⟨look, hsplit, hlook'⟩ := hdid.looked
          have hsame : look ++ acts = t ++ [] := by rw [← hsplit, htr, List.append_nil]
          obtain ⟨-, -, hout⟩ := hlook'.unique hlook hsame
          cases hout
        · rw [htr] at hs
          rw [look_keeps t _ _ hlook hs]

end Evaluation

/-! ## A battery protection on the idle inverter -/

/-- Below 20 % SOC shut down at 48 V, above it at 45 V. -/
def batteryGuard : Automation :=
  { id := "bp", name := .str "Guard", type := .str "battery_protection", threshold := some (.fin 20),
    actionValue := some (.fin 48), restoreValue := some (.fin 45) }

def guardConfig : EngineConfig := { dongle := idleDongle, timezone := "UTC", notifiers := false }

theorem guardPlan (value : PyFloat) (raw : ℤ)
    (h : engineeringToRaw (clampToRegister value
      ⟨"battery_low_to_utility_voltage", "V", 0.1, 0, 600, []⟩)
      ⟨"battery_low_to_utility_voltage", "V", 0.1, 0, 600, []⟩ = some raw) :
    writePlan batteryGuard.writeJob.setting value = some ⟨"battery_low_to_utility_voltage", 166,
      ⟨"battery_low_to_utility_voltage", "V", 0.1, 0, 600, []⟩, raw⟩ := by
  have hset : settingRegister batteryGuard.writeJob.setting =
      .ok (some "battery_low_to_utility_voltage") := by decide +kernel
  have hname : holdingByName "battery_low_to_utility_voltage" = some 166 := by decide +kernel
  have hinfo : holdingRegister 166 =
      some ⟨"battery_low_to_utility_voltage", "V", 0.1, 0, 600, []⟩ := by decide +kernel
  unfold writePlan
  simp only [hset, hname, Option.bind_some, registerPlan, hinfo, h, Option.map_some]

/-- One evaluation at a given SOC. -/
def evaluate (applies : Nat → Bool) (soc : ℤ) (dryRun : Bool) (s : Engine × World) : Evaluation :=
  let switches : Switches := { enabled := true, dryRun := dryRun, now := 0 }
  let run := exec (World.silentAnswer applies) s.2
    (turn guardConfig (fun _ => some (.int soc)) switches s.1 batteryGuard)
  { snapshot := fun _ => some (.int soc), switches := switches, before := s, trace := run.1,
    after := (run.2.1.toOption.getD s.1, run.2.2) }

theorem evaluate_ran (applies : Nat → Bool) (soc : ℤ) (dryRun : Bool) (s : Engine × World) :
    (evaluate applies soc dryRun s).Ran guardConfig applies batteryGuard := by
  obtain ⟨hr, hs⟩ := exec_spec (step (.silent applies)) _ (World.silentAnswer_step applies)
    (turn guardConfig (fun _ => some (.int soc)) { enabled := true, dryRun := dryRun, now := 0 } s.1
      batteryGuard) s.2
  obtain ⟨⟨e, he⟩, -⟩ := turn_gate _ _ () hr (steps_anyStep _)
  refine ⟨?_, hs⟩
  show Run _ _ (.ok (Option.getD (Except.toOption _) _))
  rw [he] at hr ⊢
  exact hr

/-- Without a look at the clock, all the trace is the act. -/
theorem evaluate_did {applies : Nat → Bool} {soc : ℤ} {dryRun : Bool} {s : Engine × World}
    {dec : Decision}
    (h : batteryGuard.look "UTC" (fun _ => some (.int soc)) (s.1.lastEval "bp") = .ret dec) :
    (evaluate applies soc dryRun s).Did guardConfig batteryGuard dec
      (evaluate applies soc dryRun s).trace :=
  ⟨rfl, rfl, rfl, [], rfl, by
    show Run (batteryGuard.look "UTC" (fun _ => some (.int soc)) (s.1.lastEval "bp")) [] (.ok dec)
    rw [h]
    exact ⟨rfl, rfl⟩⟩

/-- What the guard decides at a SOC. -/
theorem guard_look {soc : ℤ} (hsoc : |soc| ≤ 2 ^ 53) (active : Bool) :
    batteryGuard.look "UTC" (fun _ => some (.int soc)) active =
      .ret (if soc ≤ 20 then .action (.fin 48) else if active then .restore (.fin 45) else .clear) := by
  have hfloat : (Json.int soc).toFloat = .ok (.fin soc) := Json.floatOfInt_small hsoc
  have hsensor : sensorValue (fun _ => some (.int soc)) "soc" = .ok (some (.fin soc)) := by
    simp only [sensorValue, hfloat]
  have hle : (PyFloat.fin soc).le (.fin 20) = true ↔ soc ≤ 20 := by
    rw [PyFloat.le_fin]
    norm_cast
  show Prog.ofExcept (decideBatteryProtection (fun _ => some (.int soc)) active batteryGuard) = _
  unfold decideBatteryProtection
  rw [hsensor]
  show Prog.ofExcept (if (PyFloat.fin soc).le (.fin 20) = true then _ else _) = _
  by_cases hlow : soc ≤ 20
  · rw [if_pos (hle.mpr hlow), if_pos hlow]
    rfl
  · rw [if_neg fun h => hlow (hle.mp h), if_neg hlow]
    cases active with
    | true => rfl
    | false => rfl

/-- A low battery shuts down, -/
theorem evaluate_acts {applies : Nat → Bool} {s : Engine × World} :
    (evaluate applies 10 false s).Did guardConfig batteryGuard (.action (.fin 48))
      (evaluate applies 10 false s).trace := by
  refine evaluate_did ?_
  rw [guard_look (by norm_num)]
  rfl

/-- a recovered battery restores while the automation is recorded active, -/
theorem evaluate_restores {applies : Nat → Bool} {s : Engine × World}
    (h : s.1.lastEval "bp" = true) :
    (evaluate applies 50 false s).Did guardConfig batteryGuard (.restore (.fin 45))
      (evaluate applies 50 false s).trace := by
  refine evaluate_did ?_
  rw [h, guard_look (by norm_num)]
  rfl

end LuxMon
