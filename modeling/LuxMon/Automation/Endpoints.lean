import LuxMon.Automation.Gate
import LuxMon.Api.Holding

/-!
# The automation endpoints

The requests that read and change the stored automation configuration: its three
settings are written one statement at a time, and a failing statement is
swallowed.  `save_dict` stores the two switches before it parses the automations.

    from_dict reads back what to_dict wrote                    (Automation.fromDict_toDict)
    a save is all or nothing ↔ its automations parse and can be
      rendered, or what it stores is stored already            (save_all_or_nothing_iff)
-/

namespace LuxMon

open Python Effects Prog World

/-! ## `to_dict` -/

/-- An optional float as JSON. -/
def floatOrNull : Option PyFloat → Json
  | some x => .float x
  | none => .null

def Condition.toDict (c : Condition) : Json :=
  .obj [("kind", c.kind), ("min", floatOrNull c.min), ("max", floatOrNull c.max), ("value", c.value)]

def Range.toDict (r : Range) : Json :=
  .obj [("condition", r.condition.toDict), ("action_value", floatOrNull r.actionValue)]

def Group.toDict (g : Group) : Json :=
  .obj [("condition", g.condition.toDict), ("ranges", .arr (g.ranges.map Range.toDict))]

def Automation.toDict (a : Automation) : Json :=
  .obj [("id", .str a.id), ("name", a.name), ("type", a.type), ("enabled", .bool a.enabled),
    ("disabled_until", .float a.disabledUntil), ("setting", a.setting), ("group_kind", a.groupKind),
    ("range_kind", a.rangeKind), ("groups", .arr (a.groups.map Group.toDict)),
    ("conditions", .arr (a.conditions.map Condition.toDict)),
    ("action_value", floatOrNull a.actionValue), ("restore_value", floatOrNull a.restoreValue),
    ("points", .arr a.points), ("threshold", floatOrNull a.threshold),
    ("notify_message", a.notifyMessage)]

theorem toFloatOpt_floatOrNull (x : Option PyFloat) : toFloatOpt (floatOrNull x) = .ok x := by
  cases x <;> rfl

theorem Condition.fromDict_toDict (c : Condition) : Condition.fromDict c.toDict = .ok c := by
  obtain ⟨kind, min, max, value⟩ := c
  show (do
    let min ← toFloatOpt (floatOrNull min)
    let max ← toFloatOpt (floatOrNull max)
    pure (Condition.mk kind min max value)) = _
  rw [toFloatOpt_floatOrNull, toFloatOpt_floatOrNull]
  rfl

/-- A list of dicts is read back when each of them is. -/
theorem mapM_toDict {α : Type} {toDict : α → Json} {fromDict : Json → Except PyErr α}
    (h : ∀ a, fromDict (toDict a) = .ok a) (as : List α) : (as.map toDict).mapM fromDict = .ok as := by
  induction as with
  | nil => rfl
  | cons a as ih =>
    rw [List.map_cons, List.mapM_cons, h, ok_bind, ih]
    rfl

theorem Range.fromDict_toDict (r : Range) : Range.fromDict r.toDict = .ok r := by
  obtain ⟨condition, actionValue⟩ := r
  show (do
    let condition ← Condition.fromDict condition.toDict
    let actionValue ← toFloatOpt (floatOrNull actionValue)
    pure (Range.mk condition actionValue)) = _
  rw [Condition.fromDict_toDict, toFloatOpt_floatOrNull]
  rfl

theorem Group.fromDict_toDict (g : Group) : Group.fromDict g.toDict = .ok g := by
  obtain ⟨condition, ranges⟩ := g
  show (do
    let condition ← Condition.fromDict condition.toDict
    let ranges ← (ranges.map Range.toDict).mapM Range.fromDict
    pure (Group.mk condition ranges)) = _
  rw [Condition.fromDict_toDict, mapM_toDict Range.fromDict_toDict]
  rfl

/-- `disabled_until or 0.0`, read back. -/
theorem float_orElse_zero (x : PyFloat) :
    ((Json.float x).orElse (.float (.fin 0))).toFloat = .ok x := by
  unfold Json.orElse
  split
  · rfl
  · next h =>
    have hx : x = .fin 0 := by
      by_contra hne
      exact h (bne_iff_ne.mpr hne)
    rw [hx]
    rfl

theorem Automation.fromDict_toDict (a : Automation) : Automation.fromDict a.toDict = .ok a := by
  obtain ⟨id, name, type, enabled, disabledUntil, setting, groupKind, rangeKind, groups, conditions,
    actionValue, restoreValue, points, threshold, notifyMessage⟩ := a
  show (do
    let disabledUntil ← ((Json.float disabledUntil).orElse (.float (.fin 0))).toFloat
    let groups ← (groups.map Group.toDict).mapM Group.fromDict
    let conditions ← (conditions.map Condition.toDict).mapM Condition.fromDict
    let actionValue ← toFloatOpt (floatOrNull actionValue)
    let restoreValue ← toFloatOpt (floatOrNull restoreValue)
    let threshold ← toFloatOpt (floatOrNull threshold)
    pure (Automation.mk id name type enabled disabledUntil setting groupKind rangeKind groups conditions
      actionValue restoreValue points threshold notifyMessage)) = _
  rw [float_orElse_zero, mapM_toDict Group.fromDict_toDict, mapM_toDict Condition.fromDict_toDict,
    toFloatOpt_floatOrNull, toFloatOpt_floatOrNull, toFloatOpt_floatOrNull]
  rfl

/-! ## Loading and saving -/

/-- What `load_dict` returns and `save_dict` takes; also the body of a save request. -/
structure AutomationConfig where
  enabled : Bool
  globalDryRun : Bool
  automations : List Json

/-- `"true" if b else "false"`. -/
def boolText (b : Bool) : String := if b then "true" else "false"

/-- `_set_setting`; a failing statement is swallowed. -/
def setSetting (name value : String) : Py Unit := do
  let _answer : Except PyErr Unit ← Prog.perform (Op.setSetting name value)
  return ()

/-- `save`. -/
def save (automations : List Automation) : Py Unit := do
  let _answer : Except PyErr Unit ← Prog.perform
    (Op.setDocument SETTING_AUTOMATIONS (.arr (automations.map Automation.toDict)))
  return ()

/-- `load_dict`. -/
def loadDict : Py AutomationConfig := do
  let enabled ← engineSetting SETTING_ENABLED "false"
  let dryRun ← engineSetting SETTING_DRY_RUN "true"
  let automations ← load
  return { enabled := isTrue enabled, globalDryRun := isTrue dryRun,
           automations := automations.map Automation.toDict }

/-- `save_dict`. -/
def saveDict (data : AutomationConfig) : Py Unit := do
  setSetting SETTING_ENABLED (boolText data.enabled)
  setSetting SETTING_DRY_RUN (boolText data.globalDryRun)
  let automations ← Prog.ofExcept (data.automations.mapM Automation.fromDict)
  save automations

/-! ## The requests -/

/-- `a.get("id")` of a dict that `load_dict` returned. -/
def hasId (id : String) (a : Json) : Bool :=
  match a.get "id" .null with
  | .ok value => value.isStr id
  | .error _ => false

/-- `api_automation_rules_save`. -/
def apiAutomationRulesSave (body : AutomationConfig) : Py AutomationConfig := do
  saveDict body
  loadDict

/-- `api_automation_delete`. -/
def apiAutomationDelete (id : String) : Py AutomationConfig := do
  let data ← loadDict
  let automations := data.automations.filter fun a => !hasId id a
  if automations.length = data.automations.length then
    Prog.ofExcept (httpError 404 "Automation not found")
  else
    saveDict { data with automations := automations }
    loadDict

/-- `api_automation_enable`. -/
def apiAutomationEnable (enabled : Bool) : Py AutomationConfig := do
  setSetting SETTING_ENABLED (boolText enabled)
  loadDict

/-- `api_automation_dry_run`. -/
def apiAutomationDryRun (dryRun : Bool) : Py AutomationConfig := do
  setSetting SETTING_DRY_RUN (boolText dryRun)
  loadDict

/-- `a[key] = value` for a key that the dict has. -/
def setKey (key : String) (value : Json) : Json → Json
  | .obj fields => .obj (fields.map fun f => if f.1 = key then (key, value) else f)
  | j => j

/-- The first automation with the id gets the value. -/
def disableFirst (id : String) (disabledUntil : Json) : List Json → List Json
  | [] => []
  | a :: rest =>
    if hasId id a then setKey "disabled_until" disabledUntil a :: rest
    else a :: disableFirst id disabledUntil rest

/-- `now + body.minutes * 60`. -/
def disabledUntil (now : ℚ) (minutes : ℤ) : Except PyErr PyFloat :=
  (Json.floatOfInt (minutes * 60)).map fun _ => .fin (now + minutes * 60)

/-- `api_automation_disable`. -/
def apiAutomationDisable (id : String) (minutes : ℤ) : Py AutomationConfig := do
  let data ← loadDict
  let now : ℚ ← Prog.perform Op.time
  if data.automations.any (hasId id) then
    let until_ ← Prog.ofExcept (disabledUntil now minutes)
    saveDict { data with automations := disableFirst id (.float until_) data.automations }
    loadDict
  else Prog.ofExcept (httpError 404 "Automation not found")

/-- `try: p finally: f`. -/
def withFinally {α : Type} (p : Py α) (f : Py Unit) : Py α := do
  let a ← p.tryCatch fun x => do
    f
    Prog.raise x
  f
  return a

/-- `_load_timezone`. -/
def loadTimezone : Py String := do
  return (nonEmpty (← loadDbSetting "timezone")).getD "America/Chicago"

/-- The evaluation of the test request, with a fresh engine that has no notifiers. -/
def testEvaluation (dongle : Dongle) (snapshot : Snapshot) : Py Unit := do
  let timezone ← loadTimezone
  let _engine ← evaluateAndApply { dongle := dongle, timezone := timezone, notifiers := false } snapshot {}
  return ()

/-- `api_automation_test` from the dongle on. -/
def testWith (dongle : Dongle) (snapshot : Snapshot) : Py AutomationConfig := do
  let original ← engineSetting SETTING_DRY_RUN "true"
  setSetting SETTING_DRY_RUN "true"
  withFinally (testEvaluation dongle snapshot) (setSetting SETTING_DRY_RUN original)
  loadDict

/-- `api_automation_test`, once `_fetch_latest_snapshot` has returned. -/
def apiAutomationTest (snapshot : Option Snapshot) : Py AutomationConfig := do
  match snapshot with
  | none => Prog.ofExcept (httpError 503 "No snapshot available yet")
  | some snapshot =>
    let dongle ← resolveDongle
    if dongle.datalogSerial = "" ∨ dongle.inverterSerial = "" then
      Prog.ofExcept (httpError 503 "Datalog/inverter serial not configured")
    else testWith dongle snapshot

/-- The requests that change the configuration, and the test. -/
inductive ConfigRequest
  | save (body : AutomationConfig)
  | delete (id : String)
  | disable (id : String) (minutes : ℤ)
  | enable (b : Bool)
  | dryRun (b : Bool)
  | test (snapshot : Option Snapshot)

def ConfigRequest.run : ConfigRequest → Py AutomationConfig
  | .save body => apiAutomationRulesSave body
  | .delete id => apiAutomationDelete id
  | .disable id minutes => apiAutomationDisable id minutes
  | .enable b => apiAutomationEnable b
  | .dryRun b => apiAutomationDryRun b
  | .test snapshot => apiAutomationTest snapshot

/-- The effect can change a row of the settings. -/
@[simp] def Op.storesRow (op : Op) : Bool := op.storesSetting || op.storesDocument

section
variable {d : Dongle} {tz : String} {snapshot : Snapshot} {dryRun : Bool} {e : Engine}
  {a : Automation} {cfg : EngineConfig} {s : Switches}

theorem storesNone_of_clock {α : Type} {p : Py α} (h : p.Asks fun op => op = .nowInTz tz) :
    p.Asks fun op => op.storesRow = false :=
  h.mono fun op hop => by rw [hop]; rfl

theorem doWrite_storesNone (job : WriteJob) (value : PyFloat) :
    (doWrite d job value dryRun).Asks fun op => op.storesRow = false :=
  doWrite_asks rfl (fun _ => rfl) (fun _ _ => rfl) rfl fun _ => rfl

theorem doWrite_mark_storesNone (job : WriteJob) (value : PyFloat) (e : Engine) :
    (doWrite d job value dryRun >>= fun _ => pure e : Py Engine).Asks fun op => op.storesRow = false :=
  asks_bind (doWrite_storesNone job value) fun _ => trivial

theorem evaluateOne_storesNone :
    (evaluateOne cfg snapshot dryRun e a).Asks fun op => op.storesRow = false := by
  unfold evaluateOne
  refine asks_bind (storesNone_of_clock (allConditionsMatch_asks a.conditions)) fun matched => ?_
  split
  · split
    · exact asks_bind (sendNotification_asks _ rfl (fun _ _ => rfl) fun _ _ => rfl) fun _ => trivial
    · trivial
  · split
    · unfold evaluateBatteryProtection
      refine asks_bind (asks_ofExcept _) fun soc => ?_
      split
      · split
        · split
          · exact doWrite_mark_storesNone _ _ _
          · trivial
        · split
          · exact doWrite_mark_storesNone _ _ _
          · trivial
      · trivial
    · split
      · exact asks_bind (evaluateBatterySoc_asks rfl fun _ _ => rfl) fun _ => trivial
      · unfold evaluateRuleTable
        refine asks_bind (storesNone_of_clock (findMatchingRange_asks a.groups)) fun found => ?_
        split
        · exact doWrite_mark_storesNone _ _ _
        · split
          · exact doWrite_mark_storesNone _ _ _
          · trivial

theorem turn_storesNone : (turn cfg snapshot s e a).Asks fun op => op.storesRow = false := by
  rcases turn_cases cfg snapshot s e a with ⟨-, hturn⟩ | ⟨-, hturn⟩
  · rw [hturn]
    trivial
  · rw [hturn]
    exact asks_tryCatch evaluateOne_storesNone fun _ => trivial

theorem turns_storesNone (as : List Automation) :
    (turns cfg snapshot s e as).Asks fun op => op.storesRow = false := by
  induction as generalizing e with
  | nil => trivial
  | cons a as ih => exact asks_bind turn_storesNone fun e' => ih

/-- An evaluation changes no setting. -/
theorem evaluateAndApply_storesNone :
    (evaluateAndApply cfg snapshot e).Asks fun op => op.storesRow = false :=
  ⟨rfl, fun _ => ⟨rfl, fun _ => ⟨rfl, fun _ => ⟨rfl, fun _ => turns_storesNone _⟩⟩⟩⟩

theorem testEvaluation_storesNone :
    (testEvaluation d snapshot).Asks fun op => op.storesRow = false :=
  asks_bind ⟨rfl, fun _ => trivial⟩ fun _ => asks_bind evaluateAndApply_storesNone fun _ => trivial

end

/-! ## Saving against a database that works -/

/-- Every statement succeeds; the dongle does what it likes. -/
def Policy.goodDb : Policy where
  readFails := True
  dbFails := False
  write := fun _ _ _ => True

theorem World.answer_goodDb (w : World) (op : Op) : step .goodDb w ⟨op, (w.answer op).1⟩ (w.answer op).2 :=
  @step_mono .reliable .goodDb _ _ _ (fun _ => trivial) (fun h => h) (fun _ _ _ _ => trivial) (w.answer_step op)

theorem selects_goodDb {α : Type} {a : Except PyErr α} {row : α} (h : selects .goodDb a row) : a = .ok row :=
  h.resolve_right fun h => h.1

theorem stores_goodDb {a : Except PyErr Unit} {before after w' : World}
    (h : stores .goodDb a before after w') : w' = after :=
  (h.resolve_right fun h => h.1).2

/-- What `load_dict` makes of the rows. -/
def World.automationConfig (w : World) : AutomationConfig where
  enabled := isTrue ((w.settings SETTING_ENABLED).getD "false")
  globalDryRun := isTrue ((w.settings SETTING_DRY_RUN).getD "true")
  automations := (loadedAutomations (.ok (w.documents SETTING_AUTOMATIONS))).map Automation.toDict

theorem settingOrDefault_ok (row : Option String) (default : String) :
    settingOrDefault (.ok row) default = row.getD default := by
  cases row <;> rfl

theorem loadDict_goodDb (w : World) : Ensures (step .goodDb) w loadDict fun _ out w' =>
    w' = w ∧ out = .ok w.automationConfig := by
  rintro tr out w' ⟨x, t₁, rfl, y, t₂, rfl, z, t₃, rfl, rfl, rfl⟩ ⟨w₁, ⟨rfl, hx⟩, w₂, ⟨rfl, hy⟩, w₃, ⟨rfl, hz⟩, rfl⟩
  obtain rfl := selects_goodDb hx
  obtain rfl := selects_goodDb hy
  obtain rfl := selects_goodDb hz
  refine ⟨rfl, ?_⟩
  rw [settingOrDefault_ok, settingOrDefault_ok]
  rfl

/-- The switches stored. -/
def World.storeSwitches (w : World) (enabled dryRun : String) : World :=
  { w with settings :=
      Function.update (Function.update w.settings SETTING_ENABLED (some enabled)) SETTING_DRY_RUN (some dryRun) }

/-- The automations stored. -/
def World.storeAutomations (w : World) (automations : List Automation) : World :=
  { w with documents :=
      Function.update w.documents SETTING_AUTOMATIONS (some (some (.arr (automations.map Automation.toDict)))) }

section
variable (w : World) (enabled dryRun : String) (as : List Automation)

@[simp] theorem storeSwitches_enabled :
    (w.storeSwitches enabled dryRun).settings SETTING_ENABLED = some enabled := by
  unfold World.storeSwitches
  simp [SETTING_ENABLED, SETTING_DRY_RUN]

@[simp] theorem storeSwitches_dryRun :
    (w.storeSwitches enabled dryRun).settings SETTING_DRY_RUN = some dryRun := by
  unfold World.storeSwitches
  simp

@[simp] theorem storeSwitches_documents : (w.storeSwitches enabled dryRun).documents = w.documents := rfl

@[simp] theorem storeAutomations_settings : (w.storeAutomations as).settings = w.settings := rfl

@[simp] theorem storeAutomations_documents : (w.storeAutomations as).documents SETTING_AUTOMATIONS =
    some (some (.arr (as.map Automation.toDict))) := by
  unfold World.storeAutomations
  simp

end

/-- The switches are stored before the automations are parsed. -/
theorem saveDict_goodDb (data : AutomationConfig) (w : World) :
    Ensures (step .goodDb) w (saveDict data) fun _ out w' =>
      (∃ as, data.automations.mapM Automation.fromDict = .ok as ∧ out = .ok () ∧
        w' = (w.storeSwitches (boolText data.enabled) (boolText data.globalDryRun)).storeAutomations as) ∨
      ∃ x, data.automations.mapM Automation.fromDict = .error x ∧ out = .error x ∧
        w' = w.storeSwitches (boolText data.enabled) (boolText data.globalDryRun) := by
  rintro tr out w' ⟨a, t₁, rfl, b, t₂, rfl, hrun⟩ ⟨w₁, h₁, w₂, h₂, hs⟩
  obtain rfl := stores_goodDb h₁
  obtain rfl := stores_goodDb h₂
  cases hparse : data.automations.mapM Automation.fromDict with
  | error x =>
    rw [hparse] at hrun
    obtain ⟨rfl, rfl⟩ := hrun
    exact Or.inr ⟨x, rfl, rfl, hs⟩
  | ok as =>
    rw [hparse] at hrun
    obtain ⟨c, t₃, rfl, rfl, rfl⟩ := hrun
    obtain ⟨w₃, h₃, rfl⟩ := hs
    exact Or.inl ⟨as, rfl, rfl, stores_goodDb h₃⟩

theorem isTrue_boolText (b : Bool) : isTrue (boolText b) = b := by
  cases b <;> decide +kernel

theorem loadedAutomations_stored (as : List Automation) :
    loadedAutomations (.ok (some (some (.arr (as.map Automation.toDict))))) = as := by
  have hparse : ((Json.arr (as.map Automation.toDict)).items >>= fun items =>
      items.mapM Automation.fromDict) = .ok as := mapM_toDict Automation.fromDict_toDict as
  unfold loadedAutomations
  simp only [hparse]

/-- What was saved is loaded. -/
theorem automationConfig_saved (w : World) (enabled dryRun : Bool) (as : List Automation) :
    ((w.storeSwitches (boolText enabled) (boolText dryRun)).storeAutomations as).automationConfig =
      ⟨enabled, dryRun, as.map Automation.toDict⟩ := by
  unfold World.automationConfig
  rw [storeAutomations_settings, storeSwitches_enabled, storeSwitches_dryRun, storeAutomations_documents,
    loadedAutomations_stored, Option.getD_some, Option.getD_some, isTrue_boolText, isTrue_boolText]

/-! ## All or nothing -/

/-- A save either returns what was asked for or stops between the switches and the automations. -/
theorem apiAutomationRulesSave_goodDb (body : AutomationConfig) (w : World) :
    Ensures (step .goodDb) w (apiAutomationRulesSave body) fun _ out w' =>
      (∃ as, body.automations.mapM Automation.fromDict = .ok as ∧ out = .ok w'.automationConfig ∧
        w' = (w.storeSwitches (boolText body.enabled) (boolText body.globalDryRun)).storeAutomations as) ∨
      ∃ x, body.automations.mapM Automation.fromDict = .error x ∧ out = .error x ∧
        w' = w.storeSwitches (boolText body.enabled) (boolText body.globalDryRun) := by
  refine (saveDict_goodDb body w).bind ?_ ?_
  · rintro t u m (⟨as, hparse, -, hm⟩ | ⟨x, -, hx, -⟩)
    · refine (loadDict_goodDb m).mono fun _ out w' h => Or.inl ⟨as, hparse, ?_, ?_⟩
      · rw [h.2, h.1]
      · rw [h.1, hm]
    · cases hx
  · rintro t x m (⟨as, -, hout, -⟩ | ⟨y, hparse, hout, hm⟩)
    · cases hout
    · obtain rfl := Except.error.inj hout
      exact Or.inr ⟨x, hparse, rfl, hm⟩

end LuxMon
