import LuxMon.Automation.Write
import LuxMon.Automation.Engine

/-!
# Deciding and acting

An evaluation of a rule table or a battery protection first looks at the snapshot,
the clock and the recorded activity and comes to a `Decision`; then it writes at
most one setting and records the new activity.

    evaluateOne = look; perform; mark                                  (evaluateOne_eq)
-/

namespace LuxMon

open Python Effects Prog

inductive Decision
  /-- nothing can be said; the recorded activity stays as it is -/
  | keep
  /-- the conditions match, and there is nothing to write -/
  | activate
  | action (value : PyFloat)
  | restore (value : PyFloat)
  /-- the conditions do not match, and there is nothing to restore -/
  | clear
  deriving DecidableEq

def decideRuleTable (tz : String) (snapshot : Snapshot) (active : Bool) (a : Automation) :
    Py Decision := do
  let found ← findMatchingRange snapshot tz a.groups
  match if a.setting.isNone then none else found.bind Range.actionValue with
  | some value => return .action value
  | none =>
    match if active && !a.setting.isNone then a.restoreValue else none with
    | some value => return .restore value
    | none => return .clear

def decideBatteryProtection (snapshot : Snapshot) (active : Bool) (a : Automation) :
    Except PyErr Decision := do
  match ← sensorValue snapshot "soc", a.threshold with
  | some soc, some threshold =>
    if soc.le threshold then
      match a.actionValue with
      | some value => return .action value
      | none => return .activate
    else
      match if active then a.restoreValue else none with
      | some value => return .restore value
      | none => return .clear
  | _, _ => return .keep

/-- Rule tables, battery protections and unknown types. -/
def Automation.writes (a : Automation) : Bool :=
  !a.type.isStr "notify" && (a.type.isStr "battery_protection" || !a.type.isStr "battery_soc")

/-- Who writes which setting. -/
def Automation.writeJob (a : Automation) : WriteJob :=
  a.job (if a.type.isStr "battery_protection" then protectionSetting else a.setting)

/-- What an evaluation looks at, up to its decision. -/
def Automation.look (a : Automation) (tz : String) (snapshot : Snapshot) (active : Bool) :
    Py Decision := do
  let _matched ← allConditionsMatch snapshot tz a.conditions
  if a.type.isStr "battery_protection" then Prog.ofExcept (decideBatteryProtection snapshot active a)
  else decideRuleTable tz snapshot active a

/-- What it does then; the result is the new activity. -/
def Decision.perform (d : Dongle) (job : WriteJob) (dryRun active : Bool) : Decision → Py Bool
  | .keep => return active
  | .activate => return true
  | .action value => do
    doWrite d job value dryRun
    return true
  | .restore value => do
    doWrite d job value dryRun
    return false
  | .clear => return false

@[simp] theorem Engine.mark_lastEval (e : Engine) (id : String) (active : Bool) :
    (e.mark id active).lastEval id = active := Function.update_self ..

@[simp] theorem Engine.mark_self (e : Engine) (id : String) : e.mark id (e.lastEval id) = e := by
  unfold Engine.mark
  rw [Function.update_eq_self]

section
variable {d : Dongle} {tz : String} {snapshot : Snapshot} {dryRun : Bool} {e : Engine}
  {a : Automation}

theorem evaluateRuleTable_eq :
    evaluateRuleTable d tz snapshot dryRun e a = decideRuleTable tz snapshot (e.lastEval a.id) a >>=
      fun dec => dec.perform d (a.job a.setting) dryRun (e.lastEval a.id) >>=
        fun active => pure (e.mark a.id active) := by
  unfold evaluateRuleTable decideRuleTable
  rw [Prog.bind_assoc]
  congr 1
  funext found
  cases if a.setting.isNone then none else found.bind Range.actionValue with
  | some value => simp only [Prog.pure_bind, Decision.perform, Prog.bind_assoc]
  | none =>
    cases if e.lastEval a.id && !a.setting.isNone then a.restoreValue else none with
    | some value => simp only [Prog.pure_bind, Decision.perform, Prog.bind_assoc]
    | none => simp only [Prog.pure_bind, Decision.perform]

theorem evaluateBatteryProtection_eq :
    evaluateBatteryProtection d snapshot dryRun e a =
      Prog.ofExcept (decideBatteryProtection snapshot (e.lastEval a.id) a) >>=
        fun dec => dec.perform d (a.job protectionSetting) dryRun (e.lastEval a.id) >>=
          fun active => pure (e.mark a.id active) := by
  unfold evaluateBatteryProtection decideBatteryProtection
  cases sensorValue snapshot "soc" with
  | error x => rfl
  | ok soc =>
    rw [ofExcept_ok_bind, ok_bind]
    have hkeep : (pure e : Py Engine) = pure (e.mark a.id (e.lastEval a.id)) := by
      rw [Engine.mark_self]
    match soc, a.threshold with
    | none, _ => exact hkeep
    | some _, none => exact hkeep
    | some soc, some threshold =>
      by_cases hle : soc.le threshold = true
      · simp only [hle, if_true]
        cases a.actionValue with
        | none => rfl
        | some value =>
          simp only [ofExcept_pure_bind, Decision.perform, Prog.bind_assoc, Prog.pure_bind]
      · simp only [hle, Bool.false_eq_true, if_false]
        cases if e.lastEval a.id then a.restoreValue else none with
        | none => rfl
        | some value =>
          simp only [ofExcept_pure_bind, Decision.perform, Prog.bind_assoc, Prog.pure_bind]

end

/-- An evaluation of an automation that writes is a decision, an act and a record. -/
theorem evaluateOne_eq {cfg : EngineConfig} {snapshot : Snapshot} {dryRun : Bool} {e : Engine}
    {a : Automation} (ha : a.writes = true) :
    evaluateOne cfg snapshot dryRun e a = a.look cfg.timezone snapshot (e.lastEval a.id) >>=
      fun dec => dec.perform cfg.dongle a.writeJob dryRun (e.lastEval a.id) >>=
        fun active => pure (e.mark a.id active) := by
  unfold Automation.writes at ha
  simp only [Bool.and_eq_true, Bool.not_eq_true', Bool.or_eq_true] at ha
  unfold evaluateOne Automation.look Automation.writeJob
  rw [Prog.bind_assoc]
  congr 1
  funext matched
  rw [if_neg (by simp [ha.1])]
  by_cases hp : a.type.isStr "battery_protection" = true
  · simp only [hp, if_true]
    exact evaluateBatteryProtection_eq
  · have hsoc : a.type.isStr "battery_soc" = false := ha.2.resolve_left hp
    simp only [hp, hsoc, Bool.false_eq_true, if_false]
    exact evaluateRuleTable_eq

/-! ## What a decision tells -/

section
variable {a : Automation} {tz : String} {snapshot : Snapshot} {active : Bool}

/-- Looking only looks at the clock. -/
theorem look_asks : (a.look tz snapshot active).Asks fun op => op = .nowInTz tz := by
  refine asks_bind (allConditionsMatch_asks _) fun _ => ?_
  split
  · exact asks_ofExcept _
  · refine asks_bind (findMatchingRange_asks _) fun found => ?_
    split
    · trivial
    · split <;> trivial

/-- What a decision says about the automation and its recorded activity. -/
def Decision.Fits (a : Automation) (active : Bool) : Decision → Prop
  | .restore value => active = true ∧ a.restoreValue = some value
  | .clear => active = false ∨ a.restoreValue = none ∨ ∀ value, writePlan a.writeJob.setting value = none
  | _ => True

/-- A setting of `None` is never written. -/
theorem writePlan_none {setting : Json} (h : setting.isNone = true) (value : PyFloat) :
    writePlan setting value = none := by
  cases setting <;> first | rfl | cases h

theorem decideRuleTable_fits (h : a.type.isStr "battery_protection" = false) :
    Ensures anyStep () (decideRuleTable tz snapshot active a) fun _ out _ =>
      ∀ dec, out = .ok dec → dec.Fits a active := by
  refine Ensures.trivial.bind ?_ fun t x m _ => by rintro _ ⟨⟩
  intro t found m _
  split
  · exact (ensures_pure _).mpr (by rintro _ ⟨⟩; trivial)
  · split
    · next value hr =>
      refine (ensures_pure _).mpr ?_
      rintro _ ⟨⟩
      split at hr
      · next hact => exact ⟨(Bool.and_eq_true _ _ ▸ hact).1, hr⟩
      · cases hr
    · next hr =>
      refine (ensures_pure _).mpr ?_
      rintro _ ⟨⟩
      split at hr
      · exact Or.inr (Or.inl hr)
      · next hact =>
        cases active with
        | false => exact Or.inl rfl
        | true =>
          refine Or.inr (Or.inr fun value => writePlan_none ?_ value)
          simpa [Automation.writeJob, Automation.job, h] using hact

theorem decideBatteryProtection_fits {dec : Decision}
    (h : decideBatteryProtection snapshot active a = .ok dec) : dec.Fits a active := by
  unfold decideBatteryProtection at h
  cases hs : sensorValue snapshot "soc" with
  | error x =>
    rw [hs] at h
    cases h
  | ok soc =>
    rw [hs, ok_bind] at h
    split at h
    · split at h
      · split at h <;> cases h <;> trivial
      · split at h
        · next hr =>
          cases h
          split at hr
          · next hact => exact ⟨hact, hr⟩
          · cases hr
        · next hr =>
          cases h
          split at hr
          · exact Or.inr (Or.inl hr)
          · next hact => exact Or.inl (by simpa using hact)
    · cases h
      trivial

theorem look_fits : Ensures anyStep () (a.look tz snapshot active) fun _ out _ =>
    ∀ dec, out = .ok dec → dec.Fits a active := by
  refine Ensures.trivial.bind ?_ fun t x m _ => by rintro _ ⟨⟩
  intro t _ m _
  by_cases hp : a.type.isStr "battery_protection" = true
  · rw [if_pos hp]
    exact (ensures_ofExcept _).mpr fun dec h => decideBatteryProtection_fits h
  · rw [if_neg hp]
    exact (decideRuleTable_fits (by simpa using hp)).mono fun _ _ _ h => h

end

/-! ## Whose activity is recorded -/

/-- A notification records no activity. -/
theorem sendNotification_lastEval {S : Type} {step : S → Ev → S → Prop} {s : S} {e : Engine} {a : Automation}
    (notifiers : Bool) : Ensures step s (sendNotification notifiers e a) fun _ out _ =>
      ∃ e', out = .ok e' ∧ e'.lastEval = e.lastEval := by
  unfold sendNotification
  split
  · exact (ensures_pure _).mpr ⟨e, rfl, rfl⟩
  · rw [perform_bind]
    refine (ensures_ask _ _).mpr fun now m _ => ?_
    dsimp only
    split
    · exact (ensures_pure _).mpr ⟨e, rfl, rfl⟩
    · rw [perform_bind]
      refine (ensures_ask _ _).mpr fun sent m' _ => ?_
      cases sent with
      | ok u => exact (ensures_ask _ _).mpr fun _ _ _ => (ensures_pure _).mpr ⟨_, rfl, rfl⟩
      | error x => exact (ensures_pure _).mpr ⟨_, rfl, rfl⟩

/-- An evaluation records only the activity of its own automation. -/
theorem evaluateOne_lastEval {S : Type} {step : S → Ev → S → Prop} {x : S} {cfg : EngineConfig} {snapshot : Snapshot}
    {dryRun : Bool} {e : Engine} {a : Automation} : Ensures step x (evaluateOne cfg snapshot dryRun e a) fun _ out _ =>
      ∀ e', out = .ok e' → ∀ id, a.id ≠ id → e'.lastEval id = e.lastEval id := by
  have hmark : ∀ (e' : Engine) (b : Bool), e'.lastEval = e.lastEval → ∀ id, a.id ≠ id →
      (e'.mark a.id b).lastEval id = e.lastEval id := by
    intro e' b hsame id hid
    rw [← hsame]
    exact Function.update_of_ne (Ne.symm hid) _ _
  by_cases hwrites : a.writes = true
  · rw [evaluateOne_eq hwrites]
    refine Ensures.trivial.bind (fun t dec m _ => ?_) (by rintro t x m - e' ⟨⟩)
    refine Ensures.trivial.bind (fun u b m' _ => ?_) (by rintro u x m' - e' ⟨⟩)
    refine (ensures_pure _).mpr ?_
    rintro e' ⟨⟩
    exact hmark e b rfl
  · unfold evaluateOne
    refine Ensures.trivial.bind (fun t matched m _ => ?_) (by rintro t x m - e' ⟨⟩)
    by_cases hnotify : a.type.isStr "notify" = true
    · rw [if_pos hnotify]
      split
      · refine (sendNotification_lastEval _).bind ?_ (by rintro u x m' ⟨_, hx, -⟩; cases hx)
        rintro u e₁ m' ⟨_, he, hsame⟩
        cases he
        refine (ensures_pure _).mpr ?_
        rintro e' ⟨⟩
        exact hmark e₁ matched hsame
      · refine (ensures_pure _).mpr ?_
        rintro e' ⟨⟩
        exact hmark e matched rfl
    · have htype : a.type.isStr "battery_protection" = false ∧ a.type.isStr "battery_soc" = true := by
        simpa [Automation.writes, hnotify] using hwrites
      rw [if_neg hnotify, if_neg (by simp [htype.1]), if_pos htype.2]
      refine Ensures.trivial.bind (fun u _ m' _ => ?_) (by rintro u x m' - e' ⟨⟩)
      refine (ensures_pure _).mpr ?_
      rintro e' ⟨⟩ id -
      rfl

/-- The same of a turn, also of one whose evaluation raises. -/
theorem turn_lastEval {cfg : EngineConfig} {snapshot : Snapshot} {s : Switches} {e e' : Engine} {a : Automation}
    {tr : List Ev} (h : (turn cfg snapshot s e a).Run tr (.ok e')) {id : String} (hid : a.id ≠ id) :
    e'.lastEval id = e.lastEval id := by
  rcases turn_cases cfg snapshot s e a with ⟨-, hturn⟩ | ⟨-, hturn⟩
  · rw [hturn] at h
    rw [Except.ok.inj h.2]
  · rw [hturn] at h
    rcases (run_tryCatch _ _ _ _).mp h with ⟨_, he, hone⟩ | ⟨x, t, u, -, -, -, he⟩
    · exact evaluateOne_lastEval _ _ () (he ▸ hone) (steps_anyStep _) e' rfl id hid
    · rw [Except.ok.inj he]

end LuxMon
