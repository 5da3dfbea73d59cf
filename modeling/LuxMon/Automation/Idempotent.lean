import LuxMon.Automation.RuleTable

/-!
# A second evaluation finds nothing to do

Beside a dongle that does what it is asked, a write leaves its value in the register, so the
next write of this value reads and stops.  An evaluation leaves each automation settled: what
it decides next is in its register already, and what it would notify about is recorded.

    a write settles its register, and a settled one is not written                  (writeVerified_reliable)
    the decision that follows a decision is the same one, or none                   (Finding.decide_again)
    a turn settles its automation and keeps the others                              (turn_settles, turn_frame)
    the turn of a settled automation sends nothing                                  (turn_silent)
    an evaluation settles all, so the second one sends nothing                      (second_evaluation_silent)
-/

namespace LuxMon

open Python Effects Prog World

/-- The dongle and the database do what they are asked, and the clock stands still. -/
def Clock.reliable (c : Clock) (w : World) (ev : Ev) (w' : World) : Prop := World.step .reliable w ev w' ∧ c.Shows ev

/-- A write request or a notification. -/
@[simp] def Op.outgoing : Op → Bool
  | .transact _ req => req.isWrite
  | .notify _ _ => true
  | _ => false

/-- Nothing is written and nobody is notified. -/
def Silent (tr : List Ev) : Prop := ∀ ev ∈ tr, ev.1.outgoing = false

theorem silent_nil : Silent [] := fun _ h => (List.not_mem_nil h).elim

theorem Silent.append {t u : List Ev} (ht : Silent t) (hu : Silent u) : Silent (t ++ u) := fun ev hev =>
  (List.mem_append.mp hev).elim (ht ev) (hu ev)

/-! ## One write -/

/-- The raw value is that of a register. -/
def Fits16 (raw : ℤ) : Prop := 0 ≤ raw ∧ raw ≤ 0xFFFF

/-- The register holds the raw value, if that is the value of a register at all. -/
def HoldsRaw (w : World) (reg : ℕ) (raw : ℤ) : Prop := Fits16 raw → ((w.regs reg).toNat : ℤ) = raw

section
variable {d : Dongle} {w w' : World} {c : Clock} {tr : List Ev}

theorem logAutomation_reliable (id : String) (name registerName : Json) (raw : Option ℤ) (scaled : Option PyFloat)
    (dryRun success : Bool) (message : String) :
    Ensures (step .reliable) w (logAutomation id name registerName raw scaled dryRun success message) fun tr out w' =>
      w' = w ∧ out = .ok () ∧ Silent tr := by
  refine (ensures_ask _ _).mpr ?_
  rintro a m h
  obtain ⟨rfl, rfl⟩ := stores_reliable h
  exact (ensures_pure _).mpr ⟨rfl, rfl, by simp [Silent]⟩

/-- After the live part of a write the register holds the value; when it does so before, nothing is sent. -/
theorem writeVerified_reliable (job : WriteJob) (regName : String) {reg : ℕ} (hreg : reg ≤ 0xFFFF) (raw : ℤ)
    (clamped : PyFloat) :
    Ensures (step .reliable) w (writeVerified d job regName reg raw clamped) fun tr _ w' =>
      HoldsRaw w' reg raw ∧ (HoldsRaw w reg raw → Silent tr) := by
  have hread : (readHoldingRegister d reg).Asks fun op => op.outgoing = false := readHoldingRegister_asks rfl
  unfold writeVerified
  refine ((readHoldingRegister_reliable hreg).and (Ensures.of_asks hread)).bind ?_ ?_
  · rintro t res m ⟨⟨rfl, ⟨msg, hres⟩, -⟩, ht⟩
    obtain rfl := Except.ok.inj hres
    by_cases hsame : ((m.regs reg).toNat : ℤ) = raw
    · rw [if_pos (by simpa [ReadResult.confirms] using hsame)]
      exact (ensures_pure _).mpr ⟨fun _ => hsame, fun _ => Silent.append ht silent_nil⟩
    · rw [if_neg (by simpa [ReadResult.confirms] using hsame)]
      by_cases hfits : Fits16 raw
      · -- the value is new
        refine (writeHoldingRegister_reliable hreg hfits).bind ?_ (by rintro u x m' ⟨⟨_, hx⟩, -⟩; cases hx)
        rintro u res m' ⟨⟨msg', hres⟩, -, hset, -⟩
        obtain rfl := Except.ok.inj hres
        have hnow : ((m'.regs reg).toNat : ℤ) = raw := by
          obtain ⟨hpos, hle⟩ := hfits
          rw [hset]
          simp only [Nat.toUInt16_eq, UInt16.toNat_ofNat']
          omega
        have hnot : ¬ HoldsRaw m reg raw := fun h => hsame (h hfits)
        refine (readBack_reliable hreg hnow 3).bind ?_ (by rintro v x m'' ⟨-, hx, -⟩; cases hx)
        rintro v verified m'' ⟨rfl, hverified, -⟩
        obtain rfl := Except.ok.inj hverified
        refine (logAutomation_reliable _ _ _ _ _ _ _ _).mono ?_
        rintro _ _ _ ⟨rfl, -, -⟩
        exact ⟨fun _ => hnow, fun h => absurd h hnot⟩
      · -- no request can be built for it
        refine (writeHoldingRegister_spec hreg).bind ?_ ?_
        · rintro u res m' (⟨-, -, -, _, hx⟩ | ⟨h, -⟩)
          · cases hx
          · exact absurd h hfits
        · rintro u x m' (⟨-, rfl, rfl, -⟩ | ⟨h, -⟩)
          · exact ⟨fun h => absurd h hfits, fun _ => Silent.append ht silent_nil⟩
          · exact absurd h hfits
  · rintro t x m ⟨⟨-, ⟨_, hx⟩, -⟩, -⟩
    cases hx

/-- A setting that is read has its stored value, where the trace stores none. -/
theorem setting_read {name : String} {a : Except PyErr (Option String)} (hs : Steps (step .reliable) w tr w')
    (hnone : ∀ ev ∈ tr, ev.1.storesSetting = false) (hmem : ⟨.getSetting name, a⟩ ∈ tr) : a = .ok (w.settings name) := by
  obtain ⟨front, back, rfl⟩ := List.append_of_mem hmem
  obtain ⟨m, hfront, m', ⟨-, hread⟩, -⟩ := steps_append.mp hs
  have hkept : m.settings = w.settings := hfront.unchanged World.settings fun ev hev _ _ hstep =>
    step_keeps_settings hstep (hnone ev (List.mem_append_left _ hev))
  rw [← hkept]
  exact hread.resolve_right fun h => h.1

end

/-- The model that the settings name. -/
def World.inverterModel (w : World) : String := (w.settings SETTING_MODEL).getD DEFAULT_MODEL

/-- The setting has the value already, if it can have it. -/
def AtValue (w : World) (setting : Json) (value : PyFloat) : Prop :=
  ∀ p, writePlan setting value = some p → supports w.inverterModel p.reg = true → HoldsRaw w p.reg p.raw

section
variable {d : Dongle} {w w' : World} {dryRun : Bool}

/-- After a live write the setting has the value; when it does so before, nothing is sent. -/
theorem doWrite_reliable (job : WriteJob) (value : PyFloat) :
    Ensures (step .reliable) w (doWrite d job value dryRun) fun tr _ w' =>
      (dryRun = false → AtValue w' job.setting value) ∧ (AtValue w job.setting value → Silent tr) := by
  intro tr out w' hr hs
  have hnone : ∀ ev ∈ tr, ev.1.storesSetting = false := fun ev hev =>
    (Bool.or_eq_false_iff.mp ((doWrite_storesNone job value).of_run hr ev hev)).1
  have hmodel : w'.inverterModel = w.inverterModel := by
    unfold World.inverterModel
    rw [hs.unchanged World.settings fun ev hev _ _ hstep => step_keeps_settings hstep (hnone ev hev)]
  have hread : ∀ m, ⟨.getSetting SETTING_MODEL, m⟩ ∈ tr → settingOrDefault m DEFAULT_MODEL = w.inverterModel := by
    intro m hm
    rw [setting_read hs hnone hm, settingOrDefault_ok]
    rfl
  rcases doWrite_run hr with ⟨hidle, hnot⟩ | ⟨p, m, rest, -, hp, rfl, hsup, hrest⟩
  · constructor
    · intro hlive p hp hsup
      rw [hmodel] at hsup
      rcases hnot with hdry | hplan | ⟨m, q, hm, hq, hno⟩
      · cases hlive.symm.trans hdry
      · cases hplan.symm.trans hp
      · obtain rfl := Option.some.inj (hq.symm.trans hp)
        rw [hread m hm] at hno
        cases hno.symm.trans hsup
    · intro _ ev hev
      have hasks : (doWrite d job value dryRun).Asks fun op => op.quiet = true → op.outgoing = false :=
        doWrite_asks (fun _ => rfl) (by simp) (by simp) (fun _ => rfl) fun _ _ => rfl
      exact hasks.of_run hr ev hev (hidle.quiet ev hev)
  · obtain ⟨-, hname, -, -⟩ := settingRegister_of_plan hp
    obtain ⟨w₁, ⟨rfl, -⟩, hsteps⟩ := hs
    obtain ⟨hholds, hsilent⟩ :=
      writeVerified_reliable job p.regName (holdingByName_le hname) p.raw _ rest out w' hrest hsteps
    constructor
    · intro _ q hq _
      obtain rfl := Option.some.inj (hp.symm.trans hq)
      exact hholds
    · intro hat
      rw [hread m List.mem_cons_self] at hsup
      exact List.forall_mem_cons.mpr ⟨rfl, hsilent (hat p hp hsup)⟩

end

/-! ## One decision after the other -/

/-- What an automation that writes finds, whatever its recorded activity is. -/
inductive Finding
  | keep
  | activate
  | action (value : PyFloat)
  | miss (restore : Option PyFloat)

/-- An automation that was active restores. -/
def Finding.decide (active : Bool) : Finding → Decision
  | .keep => .keep
  | .activate => .activate
  | .action value => .action value
  | .miss (some value) => if active then .restore value else .clear
  | .miss none => .clear

/-- The recorded activity after a decision, unless its write raises. -/
def Decision.after (active : Bool) : Decision → Bool
  | .keep => active
  | .activate => true
  | .action _ => true
  | .restore _ => false
  | .clear => false

/-- What the decision writes is in its register already. -/
def Decision.Written (w : World) (setting : Json) : Decision → Prop
  | .action value => AtValue w setting value
  | .restore value => AtValue w setting value
  | _ => True

section
variable {w : World} {setting : Json} {active : Bool}

/-- The decision that follows a decision is the same one, or has nothing to write. -/
theorem Finding.decide_again (f : Finding) (h : (f.decide active).Written w setting) :
    (f.decide ((f.decide active).after active)).Written w setting := by
  cases f with
  | keep => trivial
  | activate => trivial
  | action value => exact h
  | miss restore =>
    cases restore with
    | none => trivial
    | some value => cases active <;> trivial

/-- A rule table finds an action value or none. -/
theorem decideRuleTable_finding (tz : String) (snapshot : Snapshot) (a : Automation) (c : Clock) :
    ∃ r : Except PyErr Finding, ∀ active,
      (decideRuleTable tz snapshot active a).eval c.answer = r.map (Finding.decide active) := by
  cases hfound : (findMatchingRange snapshot tz a.groups).eval c.answer with
  | error x =>
    refine ⟨.error x, fun active => ?_⟩
    rw [decideRuleTable, eval_bind, hfound]
    rfl
  | ok found =>
    cases hvalue : if a.setting.isNone then none else found.bind Range.actionValue with
    | some value =>
      refine ⟨.ok (.action value), fun active => ?_⟩
      rw [decideRuleTable_eval hfound, hvalue]
      rfl
    | none =>
      refine ⟨.ok (.miss (if a.setting.isNone then none else a.restoreValue)), fun active => ?_⟩
      rw [decideRuleTable_eval hfound, hvalue, Automation.tableRestore]
      cases active <;> cases a.setting.isNone <;> cases a.restoreValue <;> rfl

theorem decideBatteryProtection_finding (snapshot : Snapshot) (a : Automation) :
    ∃ r : Except PyErr Finding, ∀ active, decideBatteryProtection snapshot active a = r.map (Finding.decide active) := by
  unfold decideBatteryProtection
  cases sensorValue snapshot "soc" with
  | error x => exact ⟨.error x, fun _ => rfl⟩
  | ok soc =>
    cases soc with
    | none => exact ⟨.ok .keep, fun _ => rfl⟩
    | some soc =>
      cases a.threshold with
      | none => exact ⟨.ok .keep, fun _ => rfl⟩
      | some threshold =>
        by_cases hle : soc.le threshold = true
        · cases haction : a.actionValue with
          | none => exact ⟨.ok .activate, fun _ => by simp only [ok_bind, hle, if_true]; rfl⟩
          | some value => exact ⟨.ok (.action value), fun _ => by simp only [ok_bind, hle, if_true]; rfl⟩
        · refine ⟨.ok (.miss a.restoreValue), fun active => ?_⟩
          simp only [ok_bind, if_neg hle]
          cases active <;> cases a.restoreValue <;> rfl

/-- Looking finds the same thing at every recorded activity. -/
theorem look_finding (tz : String) (snapshot : Snapshot) (a : Automation) (c : Clock) :
    ∃ r : Except PyErr Finding, ∀ active, (a.look tz snapshot active).eval c.answer = r.map (Finding.decide active) := by
  unfold Automation.look
  cases hmatched : (allConditionsMatch snapshot tz a.conditions).eval c.answer with
  | error x => exact ⟨.error x, fun active => by rw [eval_bind, hmatched]; rfl⟩
  | ok matched =>
    by_cases hprotection : a.type.isStr "battery_protection" = true
    · obtain ⟨r, hr⟩ := decideBatteryProtection_finding snapshot a
      refine ⟨r, fun active => ?_⟩
      rw [eval_bind, hmatched, ← hr active]
      show (if _ then _ else _ : Py Decision).eval c.answer = _
      rw [if_pos hprotection]
      cases decideBatteryProtection snapshot active a <;> rfl
    · obtain ⟨r, hr⟩ := decideRuleTable_finding tz snapshot a c
      refine ⟨r, fun active => ?_⟩
      rw [eval_bind, hmatched, ← hr active]
      show (if _ then _ else _ : Py Decision).eval c.answer = _
      rw [if_neg hprotection]

end

/-! ## One turn -/

/-- The automation has nothing left to send: a match is recorded, and its decision is written. -/
structure Automation.AtRest (cfg : EngineConfig) (snapshot : Snapshot) (c : Clock) (e : Engine) (w : World)
    (a : Automation) : Prop where
  notified : a.type.isStr "notify" = true → ∀ matched,
    (allConditionsMatch snapshot cfg.timezone a.conditions).eval c.answer = .ok matched → matched = true →
      e.lastEval a.id = true
  written : a.writes = true → ∀ dec, (a.look cfg.timezone snapshot (e.lastEval a.id)).eval c.answer = .ok dec →
    dec.Written w a.writeJob.setting

section
variable {cfg : EngineConfig} {snapshot : Snapshot} {c : Clock} {e : Engine} {w w' : World} {a : Automation} {dryRun : Bool}

theorem perform_reliable (d : Dongle) (job : WriteJob) (active : Bool) (dec : Decision) :
    Ensures (step .reliable) w (dec.perform d job dryRun active) fun tr out w' =>
      (dryRun = false → dec.Written w' job.setting) ∧ (∀ b, out = .ok b → b = dec.after active) ∧
        (dec.Written w job.setting → Silent tr) := by
  have hwrite : ∀ (value : PyFloat) (b : Bool), Ensures (step .reliable) w
      (doWrite d job value dryRun >>= fun _ => pure b : Py Bool) fun tr out w' =>
        (dryRun = false → AtValue w' job.setting value) ∧ (∀ b', out = .ok b' → b' = b) ∧
          (AtValue w job.setting value → Silent tr) := by
    intro value b tr out w' hr hs
    obtain ⟨o, hrun, rfl⟩ := perform_run hr
    obtain ⟨hat, hsilent⟩ := doWrite_reliable job value tr o w' hrun hs
    refine ⟨hat, fun b' hb => ?_, hsilent⟩
    cases o with
    | ok u => exact (Except.ok.inj hb).symm
    | error x => cases hb
  have hpure : ∀ b : Bool, Ensures (step .reliable) w (pure b : Py Bool) fun tr out _ =>
      (dryRun = false → True) ∧ (∀ b', out = .ok b' → b' = b) ∧ (True → Silent tr) := fun b =>
    (ensures_pure b).mpr ⟨fun _ => trivial, fun _ hb => (Except.ok.inj hb).symm, fun _ => silent_nil⟩
  cases dec with
  | keep => exact hpure _
  | activate => exact hpure _
  | action value => exact hwrite value true
  | restore value => exact hwrite value false
  | clear => exact hpure _

/-- What only looks at the clock has the result of the clock, and sends nothing. -/
theorem clock_sees {α : Type} {tz : String} {p : Py α} (hp : p.Asks fun op => op = .nowInTz tz) :
    Ensures c.reliable w p fun tr out w' => p.eval c.answer = out ∧ w' = w ∧ Silent tr := by
  intro tr out w' hrun hsteps
  have hasks := hp.of_run hrun
  refine ⟨hrun.eval_eq fun ev hev => ?_, hsteps.invariant (· = w) ?_ rfl, fun ev hev => by rw [hasks ev hev]; rfl⟩
  · have hshows := hsteps.events (P := c.Shows) (fun _ _ _ h => h.2) ev hev
    obtain ⟨op, r⟩ := ev
    obtain rfl : op = .nowInTz tz := hasks _ hev
    exact hshows
  · rintro ⟨op, r⟩ hev x y rfl ⟨hstep, -⟩
    obtain rfl : op = .nowInTz tz := hasks _ hev
    exact hstep

theorem notify_writes (h : a.type.isStr "notify" = true) : a.writes = false := by
  simp [Automation.writes, h]

theorem atRest_notify (h : a.type.isStr "notify" = true) {matched : Bool}
    (heval : (allConditionsMatch snapshot cfg.timezone a.conditions).eval c.answer = .ok matched)
    (hlast : e.lastEval a.id = matched) : a.AtRest cfg snapshot c e w := by
  refine ⟨fun _ matched' heval' hmatched => ?_, fun hwrites => ?_⟩
  · obtain rfl := Except.ok.inj (heval.symm.trans heval')
    exact hlast.trans hmatched
  · cases (notify_writes h).symm.trans hwrites

/-- A notification is sent at most once, for the match that was not recorded. -/
theorem evaluateNotify_reliable (h : a.type.isStr "notify" = true) :
    Ensures c.reliable w (evaluateOne cfg snapshot dryRun e a) fun tr out w' =>
      a.AtRest cfg snapshot c (out.toOption.getD e) w' ∧ (a.AtRest cfg snapshot c e w → Silent tr) := by
  unfold evaluateOne
  refine (clock_sees (allConditionsMatch_asks a.conditions)).bind ?_ ?_
  · rintro t matched m ⟨hmatched, rfl, ht⟩
    rw [if_pos h]
    by_cases hnew : (matched && !e.lastEval a.id) = true
    · rw [if_pos hnew]
      refine (sendNotification_lastEval _).bind ?_ (by rintro u x m' ⟨_, hx, -⟩; cases hx)
      rintro u e' m' ⟨_, he, -⟩
      refine (ensures_pure _).mpr ⟨atRest_notify h hmatched (Engine.mark_lastEval _ _ _), fun hrest => ?_⟩
      simp only [Bool.and_eq_true, Bool.not_eq_true'] at hnew
      cases hnew.2.symm.trans (hrest.notified h matched hmatched hnew.1)
    · rw [if_neg hnew]
      refine (ensures_pure _).mpr ⟨atRest_notify h hmatched (Engine.mark_lastEval _ _ _), fun _ => ?_⟩
      exact ht.append silent_nil
  · rintro t x m ⟨hx, rfl, ht⟩
    refine ⟨⟨fun _ matched hmatched => ?_, fun hwrites => ?_⟩, fun _ => ht⟩
    · cases hx.symm.trans hmatched
    · cases (notify_writes h).symm.trans hwrites

/-- After the evaluation of an automation that writes, its next decision is written. -/
theorem evaluateWriter_reliable (h : a.writes = true) :
    Ensures c.reliable w (evaluateOne cfg snapshot dryRun e a) fun tr out w' =>
      (dryRun = false → a.AtRest cfg snapshot c (out.toOption.getD e) w') ∧ (a.AtRest cfg snapshot c e w → Silent tr) := by
  have hnotify : ∀ {P : Prop}, a.type.isStr "notify" = true → P := fun hn => by
    cases (notify_writes hn).symm.trans h
  rw [evaluateOne_eq h]
  obtain ⟨r, hr⟩ := look_finding cfg.timezone snapshot a c
  refine (clock_sees look_asks).bind ?_ ?_
  · rintro t dec m ⟨hdec, rfl, ht⟩
    refine ((perform_reliable cfg.dongle a.writeJob (e.lastEval a.id) dec).of_steps fun _ _ _ hstep => hstep.1).bind ?_ ?_
    · rintro u b m' ⟨hwritten, hafter, hsilent⟩
      obtain rfl := hafter b rfl
      refine (ensures_pure _).mpr ⟨fun hlive => ⟨fun hn => hnotify hn, fun _ dec' hdec' => ?_⟩, fun hrest => ?_⟩
      · rw [Except.toOption, Option.getD_some, Engine.mark_lastEval, hr] at hdec'
        rw [hr] at hdec
        cases r with
        | error x => cases hdec
        | ok f =>
          obtain rfl := Except.ok.inj hdec
          obtain rfl := Except.ok.inj hdec'
          exact f.decide_again (hwritten hlive)
      · exact ht.append ((hsilent (hrest.written h dec hdec)).append silent_nil)
    · rintro u x m' ⟨hwritten, -, hsilent⟩
      refine ⟨fun hlive => ⟨fun hn => hnotify hn, fun _ dec' hdec' => ?_⟩, fun hrest => ?_⟩
      · obtain rfl := Except.ok.inj (hdec.symm.trans hdec')
        exact hwritten hlive
      · exact ht.append (hsilent (hrest.written h dec hdec))
  · rintro t x m ⟨hx, rfl, ht⟩
    refine ⟨fun _ => ⟨fun hn => hnotify hn, fun _ dec hdec => ?_⟩, fun _ => ht⟩
    cases hx.symm.trans hdec

/-- A battery SOC automation only logs. -/
theorem evaluateSoc_reliable (hnotify : ¬ a.type.isStr "notify" = true) (hwrites : ¬ a.writes = true) :
    Ensures c.reliable w (evaluateOne cfg snapshot dryRun e a) fun tr _ _ => Silent tr := by
  have htype : a.type.isStr "battery_protection" = false ∧ a.type.isStr "battery_soc" = true := by
    simpa [Automation.writes, hnotify] using hwrites
  refine Ensures.of_asks (P := fun op : Op => op.outgoing = false) ?_
  unfold evaluateOne
  refine asks_bind ((allConditionsMatch_asks a.conditions).mono fun op hop => by rw [hop]; rfl) fun matched => ?_
  rw [if_neg hnotify, if_neg (by simp [htype.1]), if_pos htype.2]
  exact asks_bind (evaluateBatterySoc_asks rfl fun _ _ => rfl) fun _ => trivial

/-- An evaluation leaves its automation at rest, and one at rest sends nothing. -/
theorem evaluateOne_reliable :
    Ensures c.reliable w (evaluateOne cfg snapshot dryRun e a) fun tr out w' =>
      (dryRun = false → a.AtRest cfg snapshot c (out.toOption.getD e) w') ∧ (a.AtRest cfg snapshot c e w → Silent tr) := by
  by_cases hnotify : a.type.isStr "notify" = true
  · exact (evaluateNotify_reliable hnotify).mono fun _ _ _ h => ⟨fun _ => h.1, h.2⟩
  · by_cases hwrites : a.writes = true
    · exact evaluateWriter_reliable hwrites
    · refine (evaluateSoc_reliable hnotify hwrites).mono fun _ _ _ h => ⟨fun _ => ⟨?_, ?_⟩, fun _ => h⟩
      · exact fun hn => absurd hn hnotify
      · exact fun hw => absurd hw hwrites

end

/-- At rest, if the automation has a turn at all. -/
def Automation.Rests (cfg : EngineConfig) (snapshot : Snapshot) (s : Switches) (c : Clock) (e : Engine) (w : World)
    (a : Automation) : Prop :=
  s.enabled = true → a.enabled = true → a.timedOut s.now = false → a.AtRest cfg snapshot c e w

/-- The register that the automation can write. -/
def Automation.targetRegister (a : Automation) : Option ℕ :=
  a.target.bind fun setting =>
    match settingRegister setting with
    | .ok (some name) => holdingByName name
    | _ => none

/-- The rows of the settings are as before, and so is all that does not belong to the automations. -/
structure OthersKept (as : List Automation) (e : Engine) (w : World) (e' : Engine) (w' : World) : Prop where
  settings : w'.settings = w.settings
  documents : w'.documents = w.documents
  regs : ∀ r, (∀ a ∈ as, a.targetRegister ≠ some r) → w'.regs r = w.regs r
  lastEval : ∀ id, (∀ a ∈ as, a.id ≠ id) → e'.lastEval id = e.lastEval id

theorem OthersKept.cons {a : Automation} {as : List Automation} {e e' e'' : Engine} {w w' w'' : World}
    (h : OthersKept [a] e w e' w') (hs : OthersKept as e' w' e'' w'') : OthersKept (a :: as) e w e'' w'' := by
  refine ⟨hs.settings.trans h.settings, hs.documents.trans h.documents, fun r hr => ?_, fun id hid => ?_⟩
  · obtain ⟨ha, has⟩ := List.forall_mem_cons.mp hr
    exact (hs.regs r has).trans (h.regs r (List.forall_mem_singleton.mpr ha))
  · obtain ⟨ha, has⟩ := List.forall_mem_cons.mp hid
    exact (hs.lastEval id has).trans (h.lastEval id (List.forall_mem_singleton.mpr ha))

section
variable {cfg : EngineConfig} {snapshot : Snapshot} {s : Switches} {c : Clock} {e e' : Engine} {w w' : World} {a : Automation}

theorem targetRegister_of_plan {value : PyFloat} {p : WritePlan} (ha : a.writes = true)
    (h : writePlan a.writeJob.setting value = some p) : a.targetRegister = some p.reg := by
  obtain ⟨hset, hname, -, -⟩ := settingRegister_of_plan h
  have htarget : a.target = some a.writeJob.setting := by
    unfold Automation.writes at ha
    simp only [Bool.and_eq_true, Bool.not_eq_true', Bool.or_eq_true] at ha
    unfold Automation.target
    rw [if_neg (by simp [ha.1])]
    by_cases hp : a.type.isStr "battery_protection" = true
    · rw [if_pos hp, Automation.writeJob, if_pos hp]
      rfl
    · have hjob : a.writeJob.setting = a.setting := by
        rw [Automation.writeJob, if_neg hp]
        rfl
      rw [hjob] at h
      have hgiven : ¬ a.setting.isNone = true := fun hnone => by cases h.symm.trans (writePlan_none hnone value)
      rw [if_neg hp, if_neg (by simp [ha.2.resolve_left hp]), if_neg hgiven, hjob]
  unfold Automation.targetRegister
  rw [htarget, Option.bind_some, hset]
  exact hname

/-- An automation stays at rest while its entry, its register and the settings stay. -/
theorem Automation.AtRest.keep (h : a.AtRest cfg snapshot c e w) (hlast : e'.lastEval a.id = e.lastEval a.id)
    (hregs : ∀ r, a.targetRegister = some r → w'.regs r = w.regs r) (hsettings : w'.settings = w.settings) :
    a.AtRest cfg snapshot c e' w' := by
  refine ⟨fun hn matched heval hmatched => hlast.trans (h.notified hn matched heval hmatched), fun hw dec hdec => ?_⟩
  rw [hlast] at hdec
  have hwritten := h.written hw dec hdec
  have hat : ∀ value, AtValue w a.writeJob.setting value → AtValue w' a.writeJob.setting value := by
    intro value hvalue p hp hsup
    unfold World.inverterModel at hsup
    rw [hsettings] at hsup
    unfold HoldsRaw
    rw [hregs p.reg (targetRegister_of_plan hw hp)]
    exact hvalue p hp hsup
  cases dec with
  | keep => trivial
  | activate => trivial
  | action value => exact hat value hwritten
  | restore value => exact hat value hwritten
  | clear => trivial

/-- A turn touches what belongs to its automation, and nothing else. -/
theorem turn_frame : Ensures (step .reliable) w (turn cfg snapshot s e a) fun _ out w' =>
    ∀ e', out = .ok e' → OthersKept [a] e w e' w' := by
  rintro tr out w' hrun hs e' rfl
  have hnone := turn_storesNone.of_run hrun
  have hrow : ∀ ev ∈ tr, ev.1.storesSetting = false ∧ ev.1.storesDocument = false := fun ev hev =>
    Bool.or_eq_false_iff.mp (hnone ev hev)
  refine ⟨hs.unchanged World.settings fun ev hev _ _ hstep => step_keeps_settings hstep (hrow ev hev).1,
    hs.unchanged World.documents fun ev hev _ _ hstep => step_keeps_documents hstep (hrow ev hev).2,
    fun r hr => ?_, fun id hid => ?_⟩
  · refine hs.unchanged (fun x => x.regs r) fun ev hev x y hstep => ?_
    have hsets : setsReg r ev = none := by
      obtain ⟨op, ans⟩ := ev
      cases op with
      | transact d req =>
        obtain ⟨pre, post, rfl⟩ := List.append_of_mem hev
        obtain ⟨setting, name, reg, m, htarget, hset, hname, -, -, hreq⟩ := (turn_transact hrun).register
        have hreg : a.targetRegister = some reg := by
          unfold Automation.targetRegister
          rw [htarget, Option.bind_some, hset]
          exact hname
        have hne : reg ≠ r := fun h => hr a List.mem_cons_self (h ▸ hreg)
        rcases hreq with rfl | ⟨v, rfl⟩
        · rfl
        · exact if_neg hne
      | _ => rfl
    rw [step_setsReg r x ev y hstep, hsets]
    rfl
  · exact turn_lastEval hrun (hid a List.mem_cons_self)

/-- A turn leaves its automation at rest, and sends nothing for one at rest. -/
theorem turn_reliable : Ensures c.reliable w (turn cfg snapshot s e a) fun tr out w' =>
    ∃ e', out = .ok e' ∧ (s.dryRun = false → a.Rests cfg snapshot s c e' w') ∧
      (a.Rests cfg snapshot s c e w → Silent tr) := by
  rcases turn_cases cfg snapshot s e a with ⟨hoff, hturn⟩ | ⟨⟨hon, hone, htime⟩, hturn⟩
  · rw [hturn]
    exact (ensures_pure e).mpr ⟨e, rfl, fun _ hon hone htime => absurd ⟨hon, hone, htime⟩ hoff, fun _ => silent_nil⟩
  · rw [hturn]
    refine evaluateOne_reliable.tryCatch (fun t e' m h => ?_) fun t x m h => (ensures_pure e).mpr ?_
    · exact ⟨e', rfl, fun hlive _ _ _ => h.1 hlive, fun hrest => h.2 (hrest hon hone htime)⟩
    · refine ⟨e, rfl, fun hlive _ _ _ => h.1 hlive, fun hrest => ?_⟩
      exact (h.2 (hrest hon hone htime)).append silent_nil

end

/-! ## The loop -/

/-- No two automations have the same id. -/
def DistinctIds (as : List Automation) : Prop := as.Pairwise fun a b => a.id ≠ b.id

/-- No two automations can write the same register. -/
def DistinctTargets (as : List Automation) : Prop :=
  as.Pairwise fun a b => a.targetRegister = none ∨ a.targetRegister ≠ b.targetRegister

section
variable {cfg : EngineConfig} {snapshot : Snapshot} {s : Switches} {c : Clock} {w : World} {as : List Automation}

/-- The turns of other automations keep an automation at rest. -/
theorem Automation.Rests.keep {a : Automation} {e e' : Engine} {w' : World} (h : a.Rests cfg snapshot s c e w)
    (hother : OthersKept as e w e' w') (hids : ∀ b ∈ as, a.id ≠ b.id)
    (hregs : ∀ b ∈ as, a.targetRegister = none ∨ a.targetRegister ≠ b.targetRegister) : a.Rests cfg snapshot s c e' w' := by
  intro hon hone htime
  refine (h hon hone htime).keep (hother.lastEval a.id fun b hb => Ne.symm (hids b hb)) (fun r hr => ?_) hother.settings
  refine hother.regs r fun b hb htarget => ?_
  rcases hregs b hb with hnone | hne
  · cases hnone.symm.trans hr
  · exact hne (hr.trans htarget.symm)

/-- The loop leaves all its automations at rest. -/
theorem turns_settle (hlive : s.dryRun = false) (hids : DistinctIds as) (hregs : DistinctTargets as) (e : Engine) :
    Ensures c.reliable w (turns cfg snapshot s e as) fun _ out w' =>
      ∃ e', out = .ok e' ∧ OthersKept as e w e' w' ∧ ∀ a ∈ as, a.Rests cfg snapshot s c e' w' := by
  induction as generalizing e w with
  | nil =>
    have hsame : OthersKept [] e w e w := ⟨rfl, rfl, fun _ _ => rfl, fun _ _ => rfl⟩
    exact (ensures_pure e).mpr ⟨e, rfl, hsame, fun _ h => (List.not_mem_nil h).elim⟩
  | cons a rest ih =>
    obtain ⟨hid, hids⟩ := List.pairwise_cons.mp hids
    obtain ⟨hreg, hregs⟩ := List.pairwise_cons.mp hregs
    refine (turn_reliable.and (turn_frame.of_steps fun _ _ _ hstep => hstep.1)).bind ?_ ?_
    · rintro t e₁ m ⟨⟨_, he, hrests, -⟩, hframe⟩
      cases he
      have hone := hframe e₁ rfl
      refine (ih hids hregs e₁).mono ?_
      rintro u _ w' ⟨e', rfl, hothers, hrest⟩
      refine ⟨e', rfl, hone.cons hothers, List.forall_mem_cons.mpr ⟨?_, hrest⟩⟩
      exact (hrests hlive).keep hothers hid hreg
    · rintro t x m ⟨⟨_, hx, -⟩, -⟩
      cases hx

/-- What sends nothing changes no register. -/
theorem Silent.keeps_regs {tr : List Ev} {w' : World} (h : Silent tr) (hs : Steps (step .reliable) w tr w') :
    w'.regs = w.regs := by
  refine hs.unchanged World.regs fun ev hev x y hstep => (step_keeps_regs hstep ?_).1
  have hno := h ev hev
  obtain ⟨op, ans⟩ := ev
  cases op <;> first | exact hno | rfl

/-- Where all automations are at rest, the loop sends nothing. -/
theorem turns_silent (hids : DistinctIds as) (e : Engine) (hrest : ∀ a ∈ as, a.Rests cfg snapshot s c e w) :
    Ensures c.reliable w (turns cfg snapshot s e as) fun tr _ _ => Silent tr := by
  induction as generalizing e w with
  | nil => exact (ensures_pure e).mpr silent_nil
  | cons a rest ih =>
    obtain ⟨hid, hids⟩ := List.pairwise_cons.mp hids
    obtain ⟨ha, hrest⟩ := List.forall_mem_cons.mp hrest
    have hturn : Ensures c.reliable w (turn cfg snapshot s e a) fun tr out w' =>
        Silent tr ∧ ∃ e', out = .ok e' ∧ OthersKept [a] e w e' w' ∧ w'.regs = w.regs := by
      intro tr out w' hr hs
      have hsteps := hs.mono fun _ _ _ (h : c.reliable _ _ _) => h.1
      obtain ⟨e', he, -, hsilent⟩ := turn_reliable tr out w' hr hs
      exact ⟨hsilent ha, e', he, turn_frame tr out w' hr hsteps e' he, (hsilent ha).keeps_regs hsteps⟩
    refine hturn.bind ?_ ?_
    · rintro t e₁ m ⟨ht, _, he, hone, hregs⟩
      cases he
      refine (ih hids e₁ fun b hb hon honeB htime => ?_).mono fun u _ _ hu => ht.append hu
      exact (hrest b hb hon honeB htime).keep (hone.lastEval b.id (List.forall_mem_singleton.mpr (hid b hb)))
        (fun r _ => by rw [hregs]) hone.settings
    · rintro t x m ⟨-, _, hx, -⟩
      cases hx

end

/-! ## The evaluation -/

namespace World

/-- The switches of an evaluation. -/
def switches (w : World) (c : Clock) : Switches where
  enabled := isTrue ((w.settings SETTING_ENABLED).getD "false")
  dryRun := isTrue ((w.settings SETTING_DRY_RUN).getD "true")
  now := c.time

/-- The stored automations. -/
def automations (w : World) : List Automation := loadedAutomations (.ok (w.documents SETTING_AUTOMATIONS))

end World

section
variable {cfg : EngineConfig} {snapshot : Snapshot} {c : Clock} {e : Engine} {w : World}

theorem engineSetting_reliable (name default : String) :
    Ensures c.reliable w (engineSetting name default) fun tr out w' =>
      w' = w ∧ out = .ok ((w.settings name).getD default) ∧ Silent tr := by
  refine (ensures_ask _ _).mpr ?_
  rintro r m ⟨⟨rfl, hr⟩, -⟩
  obtain rfl : r = .ok (m.settings name) := hr.resolve_right fun h => h.1
  exact (ensures_pure _).mpr ⟨rfl, congrArg Except.ok (settingOrDefault_ok _ _), by simp [Silent]⟩

/-- An evaluation is its loop, after reads of what is stored. -/
theorem evaluateAndApply_reliable {Q : List Ev → Except PyErr Engine → World → Prop}
    (h : Ensures c.reliable w (turns cfg snapshot (w.switches c) e w.automations) Q) :
    Ensures c.reliable w (evaluateAndApply cfg snapshot e) fun tr out w' =>
      ∃ front u, tr = front ++ u ∧ Silent front ∧ Q u out w' := by
  refine (engineSetting_reliable SETTING_ENABLED "false").bind ?_ (by rintro t x m ⟨-, hx, -⟩; cases hx)
  rintro t₁ enabled m ⟨rfl, henabled, ht₁⟩
  cases henabled
  refine (engineSetting_reliable SETTING_DRY_RUN "true").bind ?_ (by rintro t x m ⟨-, hx, -⟩; cases hx)
  rintro t₂ dryRun m ⟨rfl, hdry, ht₂⟩
  cases hdry
  refine (ensures_ask _ _).mpr ?_
  rintro r m ⟨⟨rfl, hr⟩, -⟩
  obtain rfl : r = .ok (m.documents SETTING_AUTOMATIONS) := hr.resolve_right fun h => h.1
  refine (ensures_ask _ _).mpr ?_
  rintro now m ⟨rfl, rfl⟩
  refine h.mono fun u out w' hu => ?_
  let reads : List Ev := [⟨.getDocument SETTING_AUTOMATIONS, .ok (m.documents SETTING_AUTOMATIONS)⟩, ⟨.time, c.time⟩]
  have hreads : Silent reads := by simp [Silent, reads]
  refine ⟨t₁ ++ (t₂ ++ reads), u, ?_, ht₁.append (ht₂.append hreads), hu⟩
  simp only [reads, List.append_assoc, List.cons_append, List.nil_append]

/-- For automations with different ids and different registers, live and beside a dongle that does
what it is asked: whatever the snapshot, the clock and the recorded activity are, a second evaluation
sends no write request and no notification. -/
theorem second_evaluation_silent (cfg : EngineConfig) (snapshot : Snapshot) (c : Clock) (e : Engine) (w : World)
    (hids : DistinctIds w.automations) (hregs : DistinctTargets w.automations)
    (hlive : (w.switches c).dryRun = false) :
    Ensures c.reliable w (evaluateAndApply cfg snapshot e) fun _ out w' => ∃ e', out = .ok e' ∧
      Ensures c.reliable w' (evaluateAndApply cfg snapshot e') fun tr _ _ => ∀ ev ∈ tr, ev.1.outgoing = false := by
  refine (evaluateAndApply_reliable (turns_settle hlive hids hregs e)).mono ?_
  rintro _ _ w' ⟨front, u, -, -, e', rfl, hkept, hrests⟩
  have hswitches : w'.switches c = w.switches c := by
    unfold World.switches
    rw [hkept.settings]
  have hautomations : w'.automations = w.automations := by
    unfold World.automations
    rw [hkept.documents]
  have hsilent : Ensures c.reliable w' (turns cfg snapshot (w'.switches c) e' w'.automations) fun tr _ _ => Silent tr := by
    rw [hswitches, hautomations]
    exact turns_silent hids e' hrests
  refine ⟨e', rfl, (evaluateAndApply_reliable hsilent).mono ?_⟩
  rintro _ _ _ ⟨front, u, rfl, hfront, hu⟩
  exact hfront.append hu

end

/-- The one automation of the armed inverter writes 540 in its first evaluation, and nothing in its second. -/
theorem armed_second_silent : armedRun.1.filterMap (setsReg 99) = [540] ∧ ∃ e', armedRun.2.1 = .ok e' ∧
    ∀ ev ∈ (exec World.answer armedRun.2.2 (evaluateAndApply ⟨idleDongle, "UTC", false⟩ (fun _ => some (.int 40)) e')).1,
      ev.1.outgoing = false := by
  have hanswer : ∀ w op, mondayClock.reliable w ⟨op, (w.answer op).1⟩ (w.answer op).2 := fun w op =>
    ⟨w.answer_step op, mondayClock_shows w op⟩
  obtain ⟨hrun, hsteps⟩ := exec_spec mondayClock.reliable World.answer hanswer
    (evaluateAndApply ⟨idleDongle, "UTC", false⟩ (fun _ => some (.int 40)) {}) armedWorld
  have hids : DistinctIds armedWorld.automations := by
    unfold DistinctIds
    decide +kernel
  have htargets : DistinctTargets armedWorld.automations := by
    unfold DistinctTargets
    decide +kernel
  obtain ⟨e', he, hsecond⟩ := second_evaluation_silent ⟨idleDongle, "UTC", false⟩ (fun _ => some (.int 40)) mondayClock {}
    armedWorld hids htargets (by decide +kernel) _ _ _ hrun hsteps
  obtain ⟨hrun', hsteps'⟩ := exec_spec mondayClock.reliable World.answer hanswer
    (evaluateAndApply ⟨idleDongle, "UTC", false⟩ (fun _ => some (.int 40)) e') armedRun.2.2
  exact ⟨by decide +kernel, e', he, hsecond _ _ _ hrun' hsteps'⟩

end LuxMon
