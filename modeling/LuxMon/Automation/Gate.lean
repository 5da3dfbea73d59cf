import LuxMon.Automation.Write
import LuxMon.Effects.History
import LuxMon.Dongle.Reliable

/-!
# The write gate of the automations

Every transaction of an evaluation belongs to one turn of the loop, and a turn
starts one only when all the gates are open; it then addresses the register that
the automation's setting is mapped to and no other.

    the trace of an evaluation is its settings and one piece per automation   (evaluateAndApply_turns)
    every transaction of a piece has passed the gate                          (evaluateAndApply_gate)
-/

namespace LuxMon

open Python Effects Prog

/-- The setting that the automation writes. -/
def Automation.target (a : Automation) : Option Json :=
  if a.type.isStr "notify" then none
  else if a.type.isStr "battery_protection" then some protectionSetting
  else if a.type.isStr "battery_soc" then none
  else if a.setting.isNone then none
  else some a.setting

/-- A trace whose transactions, if any, come live, after a read of a model that supports
the register of the target, and address that register. -/
def GateTrace (target : Option Json) (dryRun : Bool) (tr : List Ev) : Prop :=
  Quiet tr ∨ ∃ setting name reg pre m rest, target = some setting ∧ dryRun = false ∧
    settingRegister setting = .ok (some name) ∧ holdingByName name = some reg ∧
    tr = pre ++ ⟨.getSetting SETTING_MODEL, m⟩ :: rest ∧ Quiet pre ∧
    supports (settingOrDefault m DEFAULT_MODEL) reg = true ∧ ∀ ev ∈ rest, ev.1.within reg = true

theorem GateTrace.prepend {target : Option Json} {dryRun : Bool} {t u : List Ev} (ht : Quiet t)
    (hu : GateTrace target dryRun u) : GateTrace target dryRun (t ++ u) := by
  rcases hu with hu | ⟨setting, name, reg, pre, m, rest, h1, h2, h3, h4, rfl, hpre, h6, h7⟩
  · exact Or.inl (ht.append hu)
  · exact Or.inr ⟨setting, name, reg, t ++ pre, m, rest, h1, h2, h3, h4, by simp, ht.append hpre, h6, h7⟩

section
variable {d : Dongle} {tz : String} {snapshot : Snapshot} {dryRun : Bool} {e : Engine}
  {a : Automation} {cfg : EngineConfig} {s : Switches}

/-! ## Writing a setting -/

theorem doWrite_gate (job : WriteJob) (value : PyFloat) (dryRun : Bool) :
    Ensures anyStep () (doWrite d job value dryRun) fun tr _ _ =>
      GateTrace (some job.setting) dryRun tr := by
  intro tr out _ hr _
  rcases doWrite_run hr with ⟨hq, -⟩ | ⟨p, m, rest, hdry, hp, rfl, hsup, hrest⟩
  · exact Or.inl hq.quiet
  · obtain ⟨hset, hreg, -, -⟩ := settingRegister_of_plan hp
    have hasks : (p.write d job value).Asks fun op => op.within p.reg = true :=
      writeVerified_asks job p.regName p.reg p.raw _ (by simp) (by simp) rfl fun _ => rfl
    exact Or.inr ⟨job.setting, p.regName, p.reg, [], m, rest, rfl, hdry, hset, hreg, rfl, quiet_nil,
      hsup, hasks.of_run hrest⟩

/-! ## The four types -/

/-- Matching conditions only looks at the clock. -/
theorem quiet_of_clock {α : Type} {p : Py α} (h : p.Asks fun op => op = .nowInTz tz) :
    Ensures anyStep () p fun tr _ _ => Quiet tr :=
  Ensures.of_asks (h.mono fun op hop => show op.quiet = true by rw [hop]; rfl)

/-- A write followed by the assignment to `_last_eval`. -/
theorem doWrite_mark_gate (job : WriteJob) (value : PyFloat) (e : Engine) :
    Ensures anyStep () (doWrite d job value dryRun >>= fun _ => pure e) fun tr _ _ =>
      GateTrace (some job.setting) dryRun tr := by
  refine (doWrite_gate job value dryRun).bind (fun t _ m h => ?_) fun t x m h => h
  rw [ensures_pure, List.append_nil]
  exact h

theorem evaluateRuleTable_gate :
    Ensures anyStep () (evaluateRuleTable d tz snapshot dryRun e a) fun tr _ _ =>
      GateTrace (if a.setting.isNone then none else some a.setting) dryRun tr := by
  unfold evaluateRuleTable
  refine (quiet_of_clock (findMatchingRange_asks a.groups)).bind ?_ fun t x m h => Or.inl h
  intro t found m ht
  by_cases hnone : a.setting.isNone = true
  · simp only [hnone, if_true, Bool.not_true, Bool.and_false, Bool.false_eq_true, if_false]
    rw [ensures_pure, List.append_nil]
    exact Or.inl ht
  · simp only [hnone]
    split
    · exact (doWrite_mark_gate _ _ _).mono fun _ _ _ h => h.prepend ht
    · split
      · exact (doWrite_mark_gate _ _ _).mono fun _ _ _ h => h.prepend ht
      · rw [ensures_pure, List.append_nil]
        exact Or.inl ht

theorem evaluateBatteryProtection_gate :
    Ensures anyStep () (evaluateBatteryProtection d snapshot dryRun e a) fun tr _ _ =>
      GateTrace (some protectionSetting) dryRun tr := by
  have hquiet : ∀ e' : Engine, Ensures anyStep () (pure e' : Py Engine) fun tr _ _ =>
      GateTrace (some protectionSetting) dryRun tr :=
    fun e' => (ensures_pure e').mpr (Or.inl quiet_nil)
  unfold evaluateBatteryProtection
  cases sensorValue snapshot "soc" with
  | error x => exact (ensures_raise x).mpr (Or.inl quiet_nil)
  | ok soc =>
    rw [ofExcept_ok_bind]
    split
    · split
      · split
        · exact doWrite_mark_gate _ _ _
        · exact hquiet _
      · split
        · exact doWrite_mark_gate _ _ _
        · exact hquiet _
    · exact hquiet _

theorem evaluateBatterySoc_asks {P : Op → Prop} (hclock : P (.nowInTz tz))
    (hlog : ∀ row : LogRow, row.raw = none → P (.insertLog row)) :
    (evaluateBatterySoc snapshot tz dryRun a).Asks P := by
  refine asks_bind (asks_ofExcept _) fun soc => ?_
  split
  · trivial
  · rw [perform_bind]
    exact ⟨hclock, fun now => asks_bind (asks_ofExcept _) fun source => ⟨hlog _ rfl, fun _ => trivial⟩⟩

theorem sendNotification_asks {P : Op → Prop} (notifiers : Bool) (htime : P .time)
    (hnotify : ∀ name message, P (.notify name message))
    (hlog : ∀ row : LogRow, row.raw = none → P (.insertLog row)) :
    (sendNotification notifiers e a).Asks P := by
  unfold sendNotification
  split
  · trivial
  · rw [perform_bind]
    refine ⟨htime, fun now => ?_⟩
    dsimp only
    split
    · trivial
    · rw [perform_bind]
      refine ⟨hnotify _ _, fun sent => ?_⟩
      cases sent with
      | ok u => exact ⟨hlog _ rfl, fun _ => trivial⟩
      | error x => trivial

theorem evaluateBatterySoc_quiet : (evaluateBatterySoc snapshot tz dryRun a).Asks fun op =>
    op.quiet = true :=
  evaluateBatterySoc_asks rfl fun _ _ => rfl

theorem sendNotification_quiet (notifiers : Bool) : (sendNotification notifiers e a).Asks fun op =>
    op.quiet = true :=
  sendNotification_asks notifiers rfl (fun _ _ => rfl) fun _ _ => rfl

theorem evaluateOne_gate : Ensures anyStep () (evaluateOne cfg snapshot dryRun e a) fun tr _ _ =>
    GateTrace a.target dryRun tr := by
  unfold evaluateOne Automation.target
  refine (quiet_of_clock (allConditionsMatch_asks a.conditions)).bind ?_ fun t x m h => Or.inl h
  intro t matched m ht
  have hquiet : ∀ {p : Py Engine}, (p.Asks fun op => op.quiet = true) →
      Ensures anyStep m p fun u _ _ => GateTrace none dryRun (t ++ u) :=
    fun hp => (Ensures.of_asks hp).mono fun _ _ _ h => Or.inl (ht.append h)
  split
  · split
    · exact hquiet (asks_bind (sendNotification_quiet _) fun _ => trivial)
    · exact hquiet trivial
  · split
    · exact evaluateBatteryProtection_gate.mono fun _ _ _ h => h.prepend ht
    · split
      · exact hquiet (asks_bind evaluateBatterySoc_quiet fun _ => trivial)
      · exact evaluateRuleTable_gate.mono fun _ _ _ h => h.prepend ht

/-! ## One turn and the whole loop -/

/-- A turn never raises; a transaction in it has passed the switches and the gate. -/
theorem turn_gate : Ensures anyStep () (turn cfg snapshot s e a) fun tr out _ =>
    (∃ e', out = .ok e') ∧ (Quiet tr ∨ (s.enabled = true ∧ a.enabled = true ∧
      a.timedOut s.now = false ∧ GateTrace a.target s.dryRun tr)) := by
  rcases turn_cases cfg snapshot s e a with ⟨-, hturn⟩ | ⟨⟨hon, hone, htime⟩, hturn⟩
  · rw [hturn]
    exact (ensures_pure e).mpr ⟨⟨e, rfl⟩, Or.inl quiet_nil⟩
  · rw [hturn]
    refine evaluateOne_gate.tryCatch (fun t e' m h => ⟨⟨e', rfl⟩, Or.inr ⟨hon, hone, htime, h⟩⟩)
      fun t x m h => (ensures_pure e).mpr ⟨⟨e, rfl⟩, Or.inr ⟨hon, hone, htime, ?_⟩⟩
    rwa [List.append_nil]

end

/-- One turn of an evaluation, with the engine around it. -/
structure Turn where
  automation : Automation
  before : Engine
  trace : List Ev
  after : Engine

/-- A complete turn. -/
def Turn.Ran (cfg : EngineConfig) (snapshot : Snapshot) (s : Switches) (t : Turn) : Prop :=
  (turn cfg snapshot s t.before t.automation).Run t.trace (.ok t.after)

/-- Turns one after the other, from one engine on. -/
abbrev Turns (cfg : EngineConfig) (snapshot : Snapshot) (s : Switches) : Engine → List Turn → Prop :=
  Runs (Turn.Ran cfg snapshot s) Turn.before Turn.after

/-- The loop of an evaluation is its turns, whatever they do. -/
theorem turns_run (cfg : EngineConfig) (snapshot : Snapshot) (s : Switches) (e : Engine)
    (as : List Automation) {tr : List Ev} {out : Except PyErr Engine}
    (h : (turns cfg snapshot s e as).Run tr out) :
    ∃ ts, out = .ok (finalState Turn.after e ts) ∧ ts.map Turn.automation = as ∧
      tr = (ts.map Turn.trace).flatten ∧ Turns cfg snapshot s e ts := by
  induction as generalizing e tr with
  | nil =>
    obtain ⟨rfl, rfl⟩ := h
    exact ⟨[], rfl, rfl, rfl, trivial⟩
  | cons a as ih =>
    unfold turns at h
    rcases (run_bind _ _ _ _).mp h with ⟨e₁, t, u, rfl, ht, hu⟩ | ⟨x, rfl, hx⟩
    · obtain ⟨ts, rfl, rfl, rfl, hts⟩ := ih e₁ hu
      exact ⟨⟨a, e, t, e₁⟩ :: ts, rfl, rfl, rfl, rfl, ht, hts⟩
    · obtain ⟨⟨e', he⟩, -⟩ := turn_gate tr _ () hx (steps_anyStep tr)
      cases he

/-- What an evaluation reads at its start. -/
structure EvaluationInput where
  enabled : Except PyErr (Option String)
  dryRun : Except PyErr (Option String)
  automations : Except PyErr (Option (Option Json))
  now : ℚ

def EvaluationInput.switches (i : EvaluationInput) : Switches where
  enabled := isTrue (settingOrDefault i.enabled "false")
  dryRun := isTrue (settingOrDefault i.dryRun "true")
  now := i.now

/-- The events of these reads. -/
def EvaluationInput.events (i : EvaluationInput) : List Ev :=
  [⟨.getSetting SETTING_ENABLED, i.enabled⟩, ⟨.getSetting SETTING_DRY_RUN, i.dryRun⟩,
    ⟨.getDocument SETTING_AUTOMATIONS, i.automations⟩, ⟨.time, i.now⟩]

/-- An evaluation reads its switches and the stored automations, then takes one turn for
each automation; it never raises. -/
theorem evaluateAndApply_turns (cfg : EngineConfig) (snapshot : Snapshot) (e : Engine)
    {tr : List Ev} {out : Except PyErr Engine} (h : (evaluateAndApply cfg snapshot e).Run tr out) :
    ∃ (i : EvaluationInput) (ts : List Turn), out = .ok (finalState Turn.after e ts) ∧
      ts.map Turn.automation = loadedAutomations i.automations ∧
      tr = i.events ++ (ts.map Turn.trace).flatten ∧ Turns cfg snapshot i.switches e ts := by
  obtain ⟨x, t₁, rfl, y, t₂, rfl, z, t₃, rfl, now, t₄, rfl, h⟩ := h
  obtain ⟨ts, rfl, hauto, rfl, hts⟩ := turns_run cfg snapshot _ e _ h
  exact ⟨⟨x, y, z, now⟩, ts, rfl, hauto, rfl, hts⟩

/-- What must hold for automation `a` to start the transaction `req` after the events `pre`
of its turn. -/
structure Gate (s : Switches) (a : Automation) (pre : List Ev) (req : Request) : Prop where
  globallyEnabled : s.enabled = true
  enabled : a.enabled = true
  notTimedOut : a.timedOut s.now = false
  live : s.dryRun = false
  register : ∃ setting name reg m, a.target = some setting ∧
    settingRegister setting = .ok (some name) ∧ holdingByName name = some reg ∧
    ⟨.getSetting SETTING_MODEL, m⟩ ∈ pre ∧ supports (settingOrDefault m DEFAULT_MODEL) reg = true ∧
    (req = .readHoldOne reg ∨ ∃ v, req = .writeSingle reg v)

/-- Every transaction of a turn has passed the gate. -/
theorem turn_transact {cfg : EngineConfig} {snapshot : Snapshot} {s : Switches} {e : Engine}
    {a : Automation} {pre post : List Ev} {d : Dongle} {req : Request}
    {ans : Op.Answer (.transact d req)} {out : Except PyErr Engine}
    (h : (turn cfg snapshot s e a).Run (pre ++ ⟨.transact d req, ans⟩ :: post) out) :
    Gate s a pre req := by
  obtain ⟨-, hquiet | ⟨h1, h2, h3, hgate⟩⟩ := turn_gate _ _ () h (steps_anyStep _)
  · exact absurd (hquiet _ (List.mem_append_right _ List.mem_cons_self)) (by simp)
  · rcases hgate with hquiet | ⟨setting, name, reg, pre', m, rest, h4, h5, h6, h7, heq, hpre, h8, h9⟩
    · exact absurd (hquiet _ (List.mem_append_right _ List.mem_cons_self)) (by simp)
    · rcases List.append_eq_append_iff.mp heq with ⟨u, rfl, hu⟩ | ⟨u, rfl, hu⟩
      · -- a transaction before the model is read
        exfalso
        cases u with
        | nil => exact absurd (congrArg Sigma.fst (List.cons.inj hu).1) (by simp)
        | cons x u =>
          obtain ⟨rfl, -⟩ := List.cons.inj hu
          exact absurd (hpre _ (List.mem_append_right _ List.mem_cons_self)) (by simp)
      · cases u with
        | nil => exact absurd (congrArg Sigma.fst (List.cons.inj hu).1) (by simp)
        | cons x u =>
          obtain ⟨rfl, rfl⟩ := List.cons.inj hu
          refine ⟨h1, h2, h3, h5, setting, name, reg, m, h4, h6, h7, by simp, h8, ?_⟩
          exact Op.within_transact (h9 _ (List.mem_append_right _ List.mem_cons_self))

/-- The trace of an evaluation is what it read at its start and one piece for each stored
automation, a run of that automation's turn; every transaction has passed the gate. -/
def Gated (cfg : EngineConfig) (snapshot : Snapshot) (tr : List Ev) : Prop :=
  ∃ (i : EvaluationInput) (ts : List Turn), tr = i.events ++ (ts.map Turn.trace).flatten ∧
    ts.map Turn.automation = loadedAutomations i.automations ∧
    ∀ t ∈ ts, t.Ran cfg snapshot i.switches ∧
      ∀ pre d req ans post, t.trace = pre ++ ⟨.transact d req, ans⟩ :: post →
        Gate i.switches t.automation pre req

theorem evaluateAndApply_gate (cfg : EngineConfig) (snapshot : Snapshot) (e : Engine)
    (tr : List Ev) (out : Except PyErr Engine) (h : (evaluateAndApply cfg snapshot e).Run tr out) :
    Gated cfg snapshot tr := by
  obtain ⟨i, ts, -, hauto, rfl, hts⟩ := evaluateAndApply_turns cfg snapshot e h
  refine ⟨i, ts, rfl, hauto, fun t ht => ⟨hts.of_mem ht, fun pre d req ans post heq => ?_⟩⟩
  have hran : t.Ran cfg snapshot i.switches := hts.of_mem ht
  rw [Turn.Ran, heq] at hran
  exact turn_transact hran

/-- Automations are live; one is stored, below 50 % SOC it sets the absorption voltage. -/
def armedWorld : World :=
  { idleWorld with
    settings := fun n => [(SETTING_ENABLED, "true"), (SETTING_DRY_RUN, "false")].lookup n
    documents := fun n => if n = SETTING_AUTOMATIONS then some (some (.arr [.obj
      [("id", .str "r1"), ("setting", .str "absorption_charge_voltage"),
        ("groups", .arr [.obj [("condition", .obj [("kind", .str "battery_soc"), ("max", .int 50)]),
          ("ranges", .arr [.obj [("condition", .obj [("kind", .str "battery_soc")]),
            ("action_value", .int 54)]])]])]])) else none }

/-- An evaluation that writes. -/
def armedRun := exec World.answer armedWorld
  (evaluateAndApply ⟨idleDongle, "UTC", false⟩ (fun _ => some (.int 40)) {})

theorem armedRun_gated : armedRun.1.filterMap (setsReg 99) = [540] ∧
    Gated ⟨idleDongle, "UTC", false⟩ (fun _ => some (.int 40)) armedRun.1 :=
  ⟨by decide +kernel,
    evaluateAndApply_gate _ _ {} _ _ (exec_spec _ World.answer World.answer_step _ armedWorld).1⟩

end LuxMon
