import LuxMon.Automation.Endpoints
import LuxMon.Effects.Pool

/-!
# The test request

`api_automation_test` switches dry-run on in the settings, evaluates, and switches
it back.  The evaluation reads the switch again, whatever it is by then.

    the switch is on when a test's evaluation reads it → the test starts no
      transaction; alone it leaves the switch as it was        (test_request_dry)
-/

namespace LuxMon

open Python Effects Prog World

/-! ## The trace of a test -/

/-- A statement that writes the dry-run switch. -/
def writesDryRun : Ev → Bool
  | ⟨.setSetting name _, _⟩ => name == SETTING_DRY_RUN
  | _ => false

/-- What a statement that succeeds stores as the dry-run switch. -/
def storedDryRun : Ev → Option (Option String)
  | ⟨.setSetting name value, .ok _⟩ => if name = SETTING_DRY_RUN then some (some value) else none
  | _ => none

/-- The reads before the test looks at the switch. -/
def Op.resolves : Op → Bool
  | .getSetting name => name != SETTING_ENABLED && name != SETTING_DRY_RUN
  | .getenv _ => true
  | _ => false

theorem resolveDongle_resolves : resolveDongle.Asks fun op => op.resolves = true :=
  resolveDongle_asks (by decide) fun _ => rfl

theorem quiet_of_resolves {tr : List Ev} (h : ∀ ev ∈ tr, ev.1.resolves = true) :
    Quiet tr ∧ tr.countP writesDryRun = 0 := by
  refine ⟨fun ev hev => ?_, List.countP_eq_zero.mpr fun ev hev => ?_⟩
  · obtain ⟨op, a⟩ := ev
    have := h _ hev
    cases op <;> first | exact absurd this Bool.false_ne_true | rfl
  · obtain ⟨op, a⟩ := ev
    have := h _ hev
    cases op <;> first | exact absurd this Bool.false_ne_true | simp [writesDryRun]

/-- An evaluation reads the switches first; with dry-run on it starts no transaction. -/
theorem evaluateAndApply_dry {cfg : EngineConfig} {snapshot : Snapshot} {e : Engine} {tr : List Ev}
    {out : Except PyErr Engine} (h : (evaluateAndApply cfg snapshot e).Run tr out) :
    (∃ e', out = .ok e') ∧ ∃ x y rest, tr = ⟨.getSetting SETTING_ENABLED, x⟩ :: ⟨.getSetting SETTING_DRY_RUN, y⟩ :: rest ∧
      (isTrue (settingOrDefault y "true") = true → Quiet rest) := by
  obtain ⟨i, ts, rfl, -, rfl, hts⟩ := evaluateAndApply_turns cfg snapshot e h
  refine ⟨⟨_, rfl⟩, i.enabled, i.dryRun, _, rfl, fun hdry ev hev => ?_⟩
  rcases List.mem_append.mp (show ev ∈ [⟨.getDocument SETTING_AUTOMATIONS, i.automations⟩, ⟨.time, i.now⟩] ++
    (ts.map Turn.trace).flatten from hev) with hev | hev
  · rcases List.mem_cons.mp hev with rfl | hev
    · rfl
    · obtain rfl := List.mem_singleton.mp hev
      rfl
  · obtain ⟨t, ht, hev⟩ := List.mem_flatten.mp hev
    obtain ⟨r, hr, rfl⟩ := List.mem_map.mp ht
    rcases (turn_gate _ _ () (hts.of_mem hr) (steps_anyStep _)).2 with hquiet | ⟨-, -, -, hgate⟩
    · exact hquiet ev hev
    · rcases hgate with hquiet | ⟨_, _, _, _, _, _, -, hlive, -⟩
      · exact hquiet ev hev
      · exact absurd (hdry.symm.trans hlive) (by decide)

theorem loadDict_quiet : loadDict.Asks fun op => op.quiet = true :=
  ⟨rfl, fun _ => ⟨rfl, fun _ => ⟨rfl, fun _ => trivial⟩⟩⟩

theorem loadDict_storesNone : loadDict.Asks fun op => op.storesRow = false :=
  ⟨rfl, fun _ => ⟨rfl, fun _ => ⟨rfl, fun _ => trivial⟩⟩⟩

theorem testEvaluation_run {d : Dongle} {snapshot : Snapshot} {tr : List Ev} {out : Except PyErr Unit}
    (h : (testEvaluation d snapshot).Run tr out) :
    out = .ok () ∧ ∃ z x y rest, tr = ⟨.getSetting "timezone", z⟩ :: ⟨.getSetting SETTING_ENABLED, x⟩ ::
        ⟨.getSetting SETTING_DRY_RUN, y⟩ :: rest ∧
      (isTrue (settingOrDefault y "true") = true → Quiet rest) ∧ ∀ ev ∈ rest, ev.1.storesRow = false := by
  have hnone := testEvaluation_storesNone.of_run h
  obtain ⟨z, t, rfl, h⟩ := h
  have h : (evaluateAndApply { dongle := d, timezone := (nonEmpty z.toOption.join).getD "America/Chicago", notifiers := false }
    snapshot {} >>= fun _ => (pure () : Py Unit)).Run t out := h
  rcases (run_bind _ _ _ _).mp h with ⟨e, t₁, t₂, rfl, heval, rfl, rfl⟩ | ⟨x, rfl, heval⟩
  · obtain ⟨-, x, y, rest, rfl, hdry⟩ := evaluateAndApply_dry heval
    exact ⟨rfl, z, x, y, rest, by simp, hdry, fun ev hev => hnone ev (by simp [hev])⟩
  · obtain ⟨⟨e', he⟩, -⟩ := evaluateAndApply_dry heval
    cases he

/-- What runs in `try` and does not raise is followed by what stands in `finally`. -/
theorem withFinally_run {α : Type} {p : Py α} {f : Py Unit} {tr : List Ev} {out : Except PyErr α}
    (h : (withFinally p f).Run tr out) (hp : ∀ t x, ¬ p.Run t (.error x)) :
    ∃ a t u o, tr = t ++ u ∧ p.Run t (.ok a) ∧ f.Run u o := by
  rcases (run_bind _ _ _ _).mp h with ⟨a, t, u, rfl, htry, hf⟩ | ⟨x, rfl, htry⟩
  · rcases (run_tryCatch _ _ _ _).mp htry with ⟨a', ha, hrun⟩ | ⟨x, t₁, t₂, -, hrun, -⟩
    · obtain rfl := Except.ok.inj ha
      rcases (run_bind _ _ _ _).mp hf with ⟨u', u₁, u₂, rfl, hdone, rfl, -⟩ | ⟨x, -, hraised⟩
      · exact ⟨a, t, u₁, _, by simp, hrun, hdone⟩
      · exact ⟨a, t, u, _, rfl, hrun, hraised⟩
    · exact absurd hrun (hp _ _)
  · rcases (run_tryCatch _ _ _ _).mp htry with ⟨a', ha, -⟩ | ⟨x', t₁, t₂, -, hrun, -⟩
    · cases ha
    · exact absurd hrun (hp _ _)

/-- The events of a test that comes to its evaluation. -/
structure TestEvents where
  lookups : List Ev
  original : Except PyErr (Option String)
  forced : Except PyErr Unit
  timezone : Except PyErr (Option String)
  enabled : Except PyErr (Option String)
  /-- The switch as the evaluation reads it. -/
  dryRun : Except PyErr (Option String)
  evaluation : List Ev
  restored : Except PyErr Unit
  reload : List Ev

namespace TestEvents

/-- Up to the evaluation's read of the switch. -/
def before (t : TestEvents) : List Ev :=
  t.lookups ++ [⟨.getSetting SETTING_DRY_RUN, t.original⟩, ⟨.setSetting SETTING_DRY_RUN "true", t.forced⟩,
    ⟨.getSetting "timezone", t.timezone⟩, ⟨.getSetting SETTING_ENABLED, t.enabled⟩]

/-- After it. -/
def after (t : TestEvents) : List Ev :=
  t.evaluation ++ ⟨.setSetting SETTING_DRY_RUN (settingOrDefault t.original "true"), t.restored⟩ :: t.reload

def trace (t : TestEvents) : List Ev := t.before ++ ⟨.getSetting SETTING_DRY_RUN, t.dryRun⟩ :: t.after

/-- What the parts of the trace do. -/
structure Valid (t : TestEvents) : Prop where
  lookups : ∀ ev ∈ t.lookups, ev.1.resolves = true
  dry : isTrue (settingOrDefault t.dryRun "true") = true → Quiet t.evaluation
  evaluationStores : ∀ ev ∈ t.evaluation, ev.1.storesRow = false
  reload : Quiet t.reload
  reloadStores : ∀ ev ∈ t.reload, ev.1.storesRow = false

/-- A test whose evaluation finds the switch on starts no transaction. -/
theorem Valid.quiet {t : TestEvents} (h : t.Valid)
    (hdry : isTrue (settingOrDefault t.dryRun "true") = true) : Quiet t.trace := by
  have hreads : ∀ {op : Op} (a : Op.Answer op), op.quiet = true → Quiet [⟨op, a⟩] := fun a hop ev hev => by
    obtain rfl := List.mem_singleton.mp hev
    exact hop
  have hlookups := (quiet_of_resolves h.lookups).1
  have hbefore : Quiet t.before := hlookups.append
    ((hreads _ rfl).append ((hreads _ rfl).append ((hreads _ rfl).append (hreads _ rfl))))
  have hafter : Quiet t.after := (h.dry hdry).append ((hreads _ rfl).append h.reload)
  exact hbefore.append ((hreads _ rfl).append hafter)

theorem Valid.countP_before {t : TestEvents} (h : t.Valid) : t.before.countP writesDryRun = 1 := by
  unfold before
  rw [List.countP_append, (quiet_of_resolves h.lookups).2]
  simp [writesDryRun]

end TestEvents

theorem testWith_run {d : Dongle} {snapshot : Snapshot} {lookups tr : List Ev}
    {out : Except PyErr AutomationConfig} (hlookups : ∀ ev ∈ lookups, ev.1.resolves = true)
    (h : (testWith d snapshot).Run tr out) : ∃ t : TestEvents, lookups ++ tr = t.trace ∧ t.Valid := by
  obtain ⟨o, t, rfl, w, t', rfl, h⟩ := h
  have hnone : ∀ t x, ¬ (testEvaluation d snapshot).Run t (.error x) := fun t x hx => by
    cases (testEvaluation_run hx).1
  have h : (withFinally (testEvaluation d snapshot) (setSetting SETTING_DRY_RUN (settingOrDefault o "true")) >>=
    fun _ => loadDict).Run t' out := h
  have hfin : ∃ v t₁ t₂, t' = t₁ ++ t₂ ∧ (Quiet t₂ ∧ ∀ ev ∈ t₂, ev.1.storesRow = false) ∧
      (withFinally (testEvaluation d snapshot)
        (setSetting SETTING_DRY_RUN (settingOrDefault o "true"))).Run t₁ v := by
    rcases (run_bind _ _ _ _).mp h with ⟨a, t₁, t₂, rfl, hfin, hload⟩ | ⟨e, -, hfin⟩
    · exact ⟨_, t₁, t₂, rfl, ⟨loadDict_quiet.of_run hload, loadDict_storesNone.of_run hload⟩, hfin⟩
    · exact ⟨_, t', [], by simp, ⟨quiet_nil, by simp⟩, hfin⟩
  obtain ⟨v, t₁, t₂, rfl, ⟨htail, htailNone⟩, hfin⟩ := hfin
  obtain ⟨_, t, u, _, rfl, heval, a, _, rfl, rfl, -⟩ := withFinally_run hfin hnone
  obtain ⟨-, z, x, y, rest, rfl, hdry, hrestNone⟩ := testEvaluation_run heval
  exact ⟨⟨lookups, o, w, z, x, y, rest, a, t₂⟩, by simp [TestEvents.trace, TestEvents.before, TestEvents.after],
    hlookups, hdry, hrestNone, htail, htailNone⟩

/-- A test only looks things up, or it comes to its evaluation. -/
theorem apiAutomationTest_run {snapshot : Option Snapshot} {tr : List Ev} {out : Except PyErr AutomationConfig}
    (h : (apiAutomationTest snapshot).Run tr out) :
    (∀ ev ∈ tr, ev.1.resolves = true) ∨ ∃ t : TestEvents, tr = t.trace ∧ t.Valid := by
  cases snapshot with
  | none =>
    have h : (Prog.ofExcept (httpError 503 "No snapshot available yet") : Py AutomationConfig).Run tr out := h
    obtain ⟨rfl, -⟩ := (run_ofExcept _ _ _).mp h
    exact Or.inl fun _ h => (List.not_mem_nil h).elim
  | some snapshot =>
    rcases (run_bind _ _ _ _).mp h with ⟨d, t, u, rfl, hd, hrest⟩ | ⟨x, -, hd⟩
    · have hlookups := resolveDongle_resolves.of_run hd
      split at hrest
      · obtain ⟨rfl, -⟩ := (run_ofExcept _ _ _).mp hrest
        rw [List.append_nil]
        exact Or.inl hlookups
      · exact Or.inr (testWith_run hlookups hrest)
    · exact Or.inl (resolveDongle_resolves.of_run hd)

/-! ## Tests among other requests -/

/-- Every statement may fail, and the dongle does what it likes. -/
def Policy.any : Policy where
  readFails := True
  dbFails := True
  write := fun _ _ _ => True

theorem step_dryRun {pol : Policy} {w w' : World} {ev : Ev} (h : step pol w ev w') :
    w'.settings SETTING_DRY_RUN = (storedDryRun ev).getD (w.settings SETTING_DRY_RUN) := by
  cases hstores : ev.1.storesSetting with
  | false =>
    rw [step_keeps_settings h hstores]
    obtain ⟨op, a⟩ := ev
    cases op <;> first | rfl | cases hstores
  | true =>
    obtain ⟨op, a⟩ := ev
    cases op with
    | setSetting name value =>
      rcases h with ⟨rfl, rfl⟩ | ⟨-, ⟨x, rfl⟩, rfl⟩
      · unfold storedDryRun
        by_cases hname : name = SETTING_DRY_RUN
        · simp [hname]
        · simp [hname, Ne.symm hname]
      · rfl
    | _ => cases hstores

variable {ι : Type} [DecidableEq ι]

/-- Whenever the evaluation of test `i` reads the switch (after one write of its own), it is on: the
value stored last before, by any request, is a true one. -/
def DryWhenRead (w : World) (i : ι) (tr : List (ι × Ev)) : Prop :=
  ∀ pre row post, tr = pre ++ (i, ⟨.getSetting SETTING_DRY_RUN, .ok row⟩) :: post →
    (only i pre).countP writesDryRun = 1 →
    isTrue ((((pre.map Prod.snd).filterMap storedDryRun).getLast?.getD (w.settings SETTING_DRY_RUN)).getD "true") = true

theorem pool_test_quiet (requests : ι → ConfigRequest) {w w' : World} {tr : List (ι × Ev)}
    {out : ι → Except PyErr AutomationConfig}
    (hrun : PoolRun (step .any) w (fun i => (requests i).run) tr w' out) {i : ι} {snapshot : Option Snapshot}
    (hi : requests i = .test snapshot) (hdry : DryWhenRead w i tr) : Quiet (only i tr) := by
  obtain ⟨hps, hs⟩ := (poolRun_iff _ _ _ _ _ _).mp hrun
  have htest := hps i
  rw [hi] at htest
  rcases apiAutomationTest_run htest with hlookups | ⟨t, htr, hvalid⟩
  · exact (quiet_of_resolves hlookups).1
  · rw [htr]
    refine hvalid.quiet ?_
    obtain ⟨tr₁, tr₂, rfl, hpre, -⟩ := exists_of_only_eq htr
    cases hy : t.dryRun with
    | error x =>
      show isTrue "true" = true
      decide +kernel
    | ok row =>
      rw [hy, List.map_append, steps_append] at hs
      obtain ⟨m, hm, m', ⟨-, hrow⟩, -⟩ := hs
      have hlast := hm.last_set (fun w => w.settings SETTING_DRY_RUN) storedDryRun fun _ _ _ => step_dryRun
      have hcond := hdry tr₁ row tr₂ (by rw [hy]) (by rw [hpre]; exact hvalid.countP_before)
      rw [← hlast] at hcond
      rcases hrow with hrow | ⟨-, x, hx⟩
      · obtain rfl := Except.ok.inj hrow
        rw [settingOrDefault_ok]
        exact hcond
      · cases hx

/-! ## A test alone -/

theorem keeps_settings {pol : Policy} {w w' : World} {tr : List Ev}
    (h : ∀ ev ∈ tr, ev.1.storesRow = false) (hs : Steps (step pol) w tr w') : w'.settings = w.settings :=
  hs.unchanged World.settings fun ev hev _ _ hstep =>
    step_keeps_settings hstep (Bool.or_eq_false_iff.mp (h ev hev)).1

theorem storesNone_of_resolves {tr : List Ev} (h : ∀ ev ∈ tr, ev.1.resolves = true) :
    ∀ ev ∈ tr, ev.1.storesRow = false := by
  intro ev hev
  obtain ⟨op, a⟩ := ev
  have := h _ hev
  cases op <;> first | exact absurd this Bool.false_ne_true | rfl

/-- Alone and without failures a test is dry, and leaves the switch as it was. -/
theorem test_alone (snapshot : Option Snapshot) (w : World) :
    Ensures (step .goodDb) w (apiAutomationTest snapshot) fun tr _ w' =>
      Quiet tr ∧ (w'.settings SETTING_DRY_RUN).getD "true" = (w.settings SETTING_DRY_RUN).getD "true" := by
  intro tr out w' hr hs
  rcases apiAutomationTest_run hr with hlookups | ⟨t, rfl, hvalid⟩
  · exact ⟨(quiet_of_resolves hlookups).1, by rw [keeps_settings (storesNone_of_resolves hlookups) hs]⟩
  · obtain ⟨lookups, o, a, z, x, y, evaluation, u, reload⟩ := t
    obtain ⟨m₅, hbefore, m₆, ⟨rfl, hy⟩, hafter⟩ := steps_append.mp hs
    obtain ⟨m₁, hm, m₂, ⟨rfl, ho⟩, m₃, ha, m₄, ⟨rfl, -⟩, m₅, ⟨rfl, -⟩, rfl⟩ := steps_append.mp hbefore
    obtain ⟨m₆, hevaluation, m₇, hu, hreload⟩ := steps_append.mp hafter
    have hsame : m₂.settings = w.settings := keeps_settings (storesNone_of_resolves hvalid.lookups) hm
    obtain rfl := stores_goodDb ha
    obtain rfl := stores_goodDb hu
    obtain rfl := selects_goodDb ho
    obtain rfl := selects_goodDb hy
    refine ⟨hvalid.quiet ?_, ?_⟩
    · show isTrue (settingOrDefault (.ok (Function.update m₂.settings SETTING_DRY_RUN (some "true")
        SETTING_DRY_RUN)) "true") = true
      rw [Function.update_self]
      decide +kernel
    · rw [keeps_settings hvalid.reloadStores hreload]
      simp only [Function.update_self, settingOrDefault_ok, Option.getD_some, hsame]

/-! ## A test stays dry -/

/-- A test whose evaluation finds the switch on starts no transaction, whatever the other requests do
and whatever fails; alone and without failures it always finds it on, and leaves it as it was. -/
theorem test_request_dry (requests : ι → ConfigRequest) {w w' : World} {tr : List (ι × Ev)}
    {out : ι → Except PyErr AutomationConfig}
    (hrun : PoolRun (step .any) w (fun i => (requests i).run) tr w' out) {i : ι} {snapshot : Option Snapshot}
    (hi : requests i = .test snapshot) (hdry : DryWhenRead w i tr) :
    Quiet (only i tr) ∧ ∀ w, Ensures (step .goodDb) w (apiAutomationTest snapshot) fun tr _ w' =>
      Quiet tr ∧ (w'.settings SETTING_DRY_RUN).getD "true" = (w.settings SETTING_DRY_RUN).getD "true" :=
  ⟨pool_test_quiet requests hrun hi hdry, test_alone snapshot⟩

theorem dryWhenRead_of_all {w : World} {i : ι} {tr : List (ι × Ev)}
    (hw : isTrue ((w.settings SETTING_DRY_RUN).getD "true") = true)
    (htr : ∀ x ∈ tr, ∀ value, storedDryRun x.2 = some value → isTrue (value.getD "true") = true) :
    DryWhenRead w i tr := by
  rintro pre row post rfl -
  cases hlast : ((pre.map Prod.snd).filterMap storedDryRun).getLast? with
  | none => exact hw
  | some value =>
    obtain ⟨ev, hev, hvalue⟩ := List.mem_filterMap.mp (List.mem_of_getLast? hlast)
    obtain ⟨x, hx, rfl⟩ := List.mem_map.mp hev
    exact htr x (List.mem_append_left _ hx) value hvalue

/-- What the API reads as the latest snapshot. -/
def fetchedSnapshot : Snapshot := fun key =>
  [("snapshot_id", Json.int 7), ("timestamp", .str "2024-05-06T12:00:00-05:00"), ("registers", .obj [])].lookup key

/-- A dongle is configured; on Mondays an automation sets the absorption voltage. -/
def mondayWorld (dryRun : String) : World :=
  { idleWorld with
    settings := fun n => [(SETTING_ENABLED, "true"), (SETTING_DRY_RUN, dryRun), ("datalog_serial", "BA12345678"),
      ("inverter_serial", "4512345678")].lookup n
    documents := fun n => if n = SETTING_AUTOMATIONS then some (some (.arr [.obj
      [("id", .str "r1"), ("setting", .str "absorption_charge_voltage"),
        ("groups", .arr [.obj [("condition", .obj [("kind", .str "day_of_week"), ("value", .str "Mon")]),
          ("ranges", .arr [.obj [("condition", .obj [("kind", .str "day_of_week"), ("value", .str "Mon")]),
            ("action_value", .int 54)]])]])]])) else none }

/-- A test, and a request that switches dry-run. -/
def testAndSwitch (dryRun : Bool) : Bool → ConfigRequest
  | true => .test (some fetchedSnapshot)
  | false => .dryRun dryRun

/-- The test looks up its dongle and forces dry-run, then the other request runs, then the test goes on. -/
def switchedRun (dryRun : String) (switch : Bool) :=
  execPool World.answer (List.replicate 8 true ++ List.replicate 4 false ++ List.replicate 40 true)
    (mondayWorld dryRun) fun i => (testAndSwitch switch i).run

theorem World.answer_any (w : World) (op : Op) : step .any w ⟨op, (w.answer op).1⟩ (w.answer op).2 :=
  @step_mono .reliable .any _ _ _ (fun _ => trivial) (fun _ => trivial) (fun _ _ _ _ => trivial) (w.answer_step op)

theorem switchedRun_runs (dryRun : String) (switch : Bool)
    (h : ∀ i, ((switchedRun dryRun switch).2.2 i).returns (fun _ => true) = true) :
    ∃ out, PoolRun (step .any) (mondayWorld dryRun) (fun i => (testAndSwitch switch i).run)
      (switchedRun dryRun switch).1 (switchedRun dryRun switch).2.1 out := by
  unfold switchedRun at h ⊢
  exact execPool_returns (step .any) World.answer World.answer_any _ _ _ h

/-- A request that switches dry-run on does not disturb the test. -/
theorem test_request_dry_switched_on : Quiet (only true (switchedRun "true" true).1) := by
  obtain ⟨out, hrun⟩ := switchedRun_runs "true" true (by decide +kernel)
  have hstored : ∀ x ∈ (switchedRun "true" true).1, ∀ value, storedDryRun x.2 = some value →
      isTrue (value.getD "true") = true := by
    have hall : ((switchedRun "true" true).1.all fun x => (storedDryRun x.2).all fun value =>
        isTrue (value.getD "true")) = true := by
      decide +kernel
    intro x hx value hvalue
    have := List.all_eq_true.mp hall x hx
    rwa [hvalue, Option.all_some] at this
  exact (test_request_dry (testAndSwitch true) hrun rfl
    (dryWhenRead_of_all (by decide +kernel) hstored)).1

/-- One that switches it off makes the test write to the inverter. -/
theorem switched_off_test_writes :
    (only true (switchedRun "true" false).1).any (fun ev => ev.1.writesRegs) = true ∧
      ¬ ∀ (requests : Bool → ConfigRequest) (w w' : World) (tr : List (Bool × Ev))
        (out : Bool → Except PyErr AutomationConfig),
        PoolRun (step .any) w (fun i => (requests i).run) tr w' out →
        ∀ i snapshot, requests i = .test snapshot → Quiet (only i tr) := by
  have hwrites : (only true (switchedRun "true" false).1).any (fun ev => ev.1.writesRegs) = true := by
    decide +kernel
  refine ⟨hwrites, fun h => ?_⟩
  obtain ⟨out, hrun⟩ := switchedRun_runs "true" false (by decide +kernel)
  have hquiet := h _ _ _ _ _ hrun true _ rfl
  obtain ⟨ev, hev, hwrite⟩ := List.any_eq_true.mp hwrites
  have hq := hquiet ev hev
  cases hop : ev.1 with
  | transact d req =>
    rw [hop] at hq
    cases hq
  | _ =>
    rw [hop] at hwrite
    cases hwrite

end LuxMon
