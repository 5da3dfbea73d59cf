import LuxMon.Automation.Evaluation

/-!
# The evaluations of one automation

`evaluate_and_apply` takes one turn for each stored automation.  Over the rounds of one
engine the turns of one automation follow each other: where all that is stored under its
id is the automation itself, nobody else records its activity.

    a call is a round of turns, from the state that it finds           (Round.of_run)
    an automation finds the activity that its last evaluation left     (evaluationsOf_run)
-/

namespace LuxMon

open Python Effects Prog World

/-- A call of `evaluate_and_apply`: what it reads at its start and its turns, with what
surrounds it. -/
structure Round where
  snapshot : Snapshot
  input : EvaluationInput
  before : Engine × World
  turns : List (Automation × Evaluation)
  after : Engine × World

/-- A turn of the automation, with what the round gives it. -/
structure Turned (cfg : EngineConfig) (applies : Nat → Bool) (snapshot : Snapshot) (s : Switches)
    (t : Automation × Evaluation) : Prop where
  snapshot : t.2.snapshot = snapshot
  switches : t.2.switches = s
  ran : t.2.Ran cfg applies t.1

namespace Round

/-- The reads, then what the turns do. -/
def trace (R : Round) : List Ev := R.input.events ++ (R.turns.map fun t => t.2.trace).flatten

/-- A call against the dongle that drops writes, and its turns. -/
structure Ran (cfg : EngineConfig) (applies : Nat → Bool) (R : Round) : Prop where
  run : (evaluateAndApply cfg R.snapshot R.before.1).Run R.trace (.ok R.after.1)
  steps : Steps (step (.silent applies)) R.before.2 R.trace R.after.2
  stored : R.turns.map Prod.fst = loadedAutomations R.input.automations
  turns : Runs (Turned cfg applies R.snapshot R.input.switches) (fun t => t.2.before)
    (fun t => t.2.after) R.before R.turns
  last : finalState (fun t => t.2.after) R.before R.turns = R.after

end Round

/-- The rounds of one engine; between them the inverter and the database are left to others. -/
abbrev EngineRun (cfg : EngineConfig) (applies : Nat → Bool) : Engine → List Round → Prop :=
  Runs (Round.Ran cfg applies) (fun R => R.before.1) (fun R => R.after.1)

/-- All that is stored under the id of the automation is the automation. -/
def Round.Owns (a : Automation) (R : Round) : Prop :=
  ∀ b ∈ loadedAutomations R.input.automations, b.id = a.id → b = a

/-- The evaluations of the automation, in their order. -/
def evaluationsOf (a : Automation) (rounds : List Round) : List Evaluation :=
  ((rounds.flatMap Round.turns).filter fun t => t.1.id == a.id).map Prod.snd

section
variable {cfg : EngineConfig} {applies : Nat → Bool} {a : Automation}

/-! ## A call is a round -/

/-- The worlds between the turns of the loop. -/
theorem turns_worlds {snapshot : Snapshot} {s : Switches} {e : Engine} {w w' : World} {ts : List Turn}
    (h : Turns cfg snapshot s e ts)
    (hs : Steps (step (.silent applies)) w (ts.map Turn.trace).flatten w') :
    ∃ rs : List (Automation × Evaluation), rs.map Prod.fst = ts.map Turn.automation ∧
      rs.map (fun t => t.2.trace) = ts.map Turn.trace ∧
      Runs (Turned cfg applies snapshot s) (fun t => t.2.before) (fun t => t.2.after) (e, w) rs ∧
      finalState (fun t => t.2.after) (e, w) rs = (finalState Turn.after e ts, w') := by
  induction ts generalizing e w with
  | nil =>
    have hw : w' = w := hs
    exact ⟨[], rfl, rfl, trivial, by rw [hw]; rfl⟩
  | cons t ts ih =>
    obtain ⟨rfl, hran, hrest⟩ := h
    rw [List.map_cons, List.flatten_cons] at hs
    obtain ⟨m, hone, hs⟩ := steps_append.mp hs
    obtain ⟨rs, hautomations, htraces, hruns, hlast⟩ := ih hrest hs
    refine ⟨(t.automation, ⟨snapshot, s, (t.before, w), t.trace, (t.after, m)⟩) :: rs, ?_, ?_,
      ⟨rfl, ⟨rfl, rfl, hran, hone⟩, hruns⟩, hlast⟩
    · rw [List.map_cons, List.map_cons, hautomations]
    · rw [List.map_cons, List.map_cons, htraces]

/-- What a call reads at its start leaves everything as it is. -/
theorem EvaluationInput.steps {i : EvaluationInput} {w w' : World} {pol : Policy}
    (h : Steps (step pol) w i.events w') : w' = w := by
  obtain ⟨w₁, ⟨rfl, -⟩, w₂, ⟨rfl, -⟩, w₃, ⟨rfl, -⟩, w₄, hw₄, hw⟩ := h
  exact hw.trans hw₄

/-- Every call is a round. -/
theorem Round.of_run {snapshot : Snapshot} {e e' : Engine} {w w' : World} {tr : List Ev}
    (h : (evaluateAndApply cfg snapshot e).Run tr (.ok e')) (hs : Steps (step (.silent applies)) w tr w') :
    ∃ R : Round, R.Ran cfg applies ∧ R.snapshot = snapshot ∧ R.before = (e, w) ∧ R.trace = tr ∧
      R.after = (e', w') := by
  obtain ⟨i, ts, he, hauto, rfl, hts⟩ := evaluateAndApply_turns cfg snapshot e h
  obtain rfl := Except.ok.inj he
  obtain ⟨m, hreads, hturns⟩ := steps_append.mp hs
  obtain rfl := EvaluationInput.steps hreads
  obtain ⟨rs, hautomations, htraces, hruns, hlast⟩ := turns_worlds hts hturns
  let R : Round := ⟨snapshot, i, (e, m), rs, (finalState Turn.after e ts, w')⟩
  have htrace : R.trace = i.events ++ (ts.map Turn.trace).flatten := by
    rw [Round.trace, htraces]
  exact ⟨R, ⟨htrace ▸ h, htrace ▸ hs, hautomations.trans hauto, hruns, hlast⟩, rfl, rfl, htrace, rfl⟩

/-! ## The evaluations of the automation -/

/-- The rounds of an engine are one run of turns. -/
theorem EngineRun.turns {e : Engine} {rounds : List Round} (h : EngineRun cfg applies e rounds) :
    Runs (fun t => t.2.Ran cfg applies t.1) (fun t => t.2.before.1) (fun t => t.2.after.1) e
      (rounds.flatMap Round.turns) := by
  refine h.flatMap fun R hR => ⟨?_, ?_⟩
  · exact (hR.turns.mono fun t ht => ht.ran).view Prod.fst
  · exact (finalState_view Prod.fst).trans (congrArg Prod.fst hR.last)

/-- Each turn is one of a stored automation. -/
theorem EngineRun.stored {e : Engine} {rounds : List Round} (h : EngineRun cfg applies e rounds)
    {t : Automation × Evaluation} (ht : t ∈ rounds.flatMap Round.turns) :
    ∃ R ∈ rounds, t.1 ∈ loadedAutomations R.input.automations := by
  obtain ⟨R, hR, ht⟩ := List.mem_flatMap.mp ht
  exact ⟨R, hR, (h.of_mem hR).stored ▸ List.mem_map_of_mem ht⟩

/-- An automation finds the activity that its last evaluation left. -/
theorem evaluationsOf_run {e : Engine} {rounds : List Round} (h : EngineRun cfg applies e rounds)
    (hown : ∀ R ∈ rounds, R.Owns a) :
    Runs (Evaluation.Ran cfg applies a) (fun r => r.active a) (fun r => r.activeAfter a)
      (e.lastEval a.id) (evaluationsOf a rounds) := by
  have hactivity := h.turns.view fun e => e.lastEval a.id
  refine ((hactivity.filter fun t => t.1.id == a.id) fun t ht hid => ?_).map Prod.snd fun t ht hran => ?_
  · exact turn_lastEval ((h.turns.of_mem ht).1) (by simpa using hid)
  · obtain ⟨hmem, hid⟩ := List.mem_filter.mp ht
    obtain ⟨R, hR, hstored⟩ := h.stored hmem
    have ha : t.1 = a := hown R hR t.1 hstored (by simpa using hid)
    exact ⟨ha ▸ hran, rfl, rfl⟩

end

/-! ## Rounds of the battery protection -/

/-- The battery protection as it is stored. -/
def guardDict : Json :=
  .obj [("id", .str "bp"), ("name", .str "Guard"), ("type", .str "battery_protection"),
    ("threshold", .float (.fin 20)), ("action_value", .float (.fin 48)), ("restore_value", .float (.fin 45))]

/-- The database that holds it, with the automations switched on. -/
def guardStore (dryRun : Bool) (w : World) : World :=
  { w with
    settings := fun n => [(SETTING_ENABLED, "true"), (SETTING_DRY_RUN, if dryRun then "true" else "false")].lookup n
    documents := fun n => if n = SETTING_AUTOMATIONS then some (some (.arr [guardDict])) else none }

/-- One round at a given SOC. -/
def guardRound (applies : Nat → Bool) (soc : ℤ) (dryRun : Bool) (s : Engine × World) : Round where
  snapshot := fun _ => some (.int soc)
  input :=
    { enabled := .ok (some "true"), dryRun := .ok (some (if dryRun then "true" else "false")),
      automations := .ok (some (some (.arr [guardDict]))), now := 0 }
  before := (s.1, guardStore dryRun s.2)
  turns := [(batteryGuard, evaluate applies soc dryRun (s.1, guardStore dryRun s.2))]
  after := (evaluate applies soc dryRun (s.1, guardStore dryRun s.2)).after

/-- Rounds one after the other, at the given SOCs. -/
def guardRounds (applies : Nat → Bool) : Engine × World → List (ℤ × Bool) → List Round
  | _, [] => []
  | s, (soc, dryRun) :: rest =>
    guardRound applies soc dryRun s :: guardRounds applies (guardRound applies soc dryRun s).after rest

/-- Their evaluations. -/
def guardEvaluations (applies : Nat → Bool) : Engine × World → List (ℤ × Bool) → List Evaluation
  | _, [] => []
  | s, (soc, dryRun) :: rest =>
    evaluate applies soc dryRun (s.1, guardStore dryRun s.2) ::
      guardEvaluations applies (evaluate applies soc dryRun (s.1, guardStore dryRun s.2)).after rest

section
variable {applies : Nat → Bool}

theorem guardDict_loaded : loadedAutomations (.ok (some (some (.arr [guardDict])))) = [batteryGuard] := rfl

theorem guardRound_switches (soc : ℤ) (dryRun : Bool) (s : Engine × World) :
    (guardRound applies soc dryRun s).input.switches = { enabled := true, dryRun := dryRun, now := 0 } := by
  have hon : isTrue "true" = true := by decide +kernel
  have hdry : isTrue (if dryRun then "true" else "false") = dryRun := by cases dryRun <;> decide +kernel
  show Switches.mk (isTrue "true") (isTrue (if dryRun then "true" else "false")) 0 = _
  rw [hon, hdry]

theorem guardRound_ran (soc : ℤ) (dryRun : Bool) (s : Engine × World) :
    (guardRound applies soc dryRun s).Ran guardConfig applies := by
  let r := evaluate applies soc dryRun (s.1, guardStore dryRun s.2)
  have hran : r.Ran guardConfig applies batteryGuard := evaluate_ran applies soc dryRun (s.1, guardStore dryRun s.2)
  have hswitches := @guardRound_switches applies soc dryRun s
  have hturns : (turns guardConfig r.snapshot (guardRound applies soc dryRun s).input.switches s.1 [batteryGuard]).Run
      (r.trace ++ []) (.ok r.after.1) := by
    rw [hswitches]
    exact (run_bind_ok _ _ _ _).mpr ⟨_, r.trace, [], rfl, hran.1, rfl, rfl⟩
  have hsteps : Steps (step (.silent applies)) (guardStore dryRun s.2) (r.trace ++ []) r.after.2 :=
    steps_append.mpr ⟨_, hran.2, rfl⟩
  refine ⟨⟨_, _, rfl, _, _, rfl, _, _, rfl, _, _, rfl, hturns⟩, ?_, guardDict_loaded.symm,
    ⟨rfl, ⟨rfl, hswitches.symm, hran⟩, trivial⟩, rfl⟩
  exact ⟨_, ⟨rfl, Or.inl rfl⟩, _, ⟨rfl, Or.inl rfl⟩, _, ⟨rfl, Or.inl rfl⟩, _, rfl, hsteps⟩

theorem guardRounds_run (s : Engine × World) (steps : List (ℤ × Bool)) :
    EngineRun guardConfig applies s.1 (guardRounds applies s steps) := by
  induction steps generalizing s with
  | nil => trivial
  | cons step steps ih => exact ⟨rfl, guardRound_ran step.1 step.2 s, ih _⟩

theorem guardRounds_own (s : Engine × World) (steps : List (ℤ × Bool)) :
    ∀ R ∈ guardRounds applies s steps, R.Owns batteryGuard := by
  induction steps generalizing s with
  | nil => simp [guardRounds]
  | cons step steps ih =>
    refine List.forall_mem_cons.mpr ⟨fun b hb _ => ?_, ih _⟩
    exact List.mem_singleton.mp (guardDict_loaded ▸ hb)

theorem evaluationsOf_guardRounds (s : Engine × World) (steps : List (ℤ × Bool)) :
    evaluationsOf batteryGuard (guardRounds applies s steps) = guardEvaluations applies s steps := by
  induction steps generalizing s with
  | nil => rfl
  | cons step steps ih => exact congrArg (_ :: ·) (ih _)

end

end LuxMon
