import LuxMon.Alerts.Evaluate
import LuxMon.Effects.Machine
import LuxMon.Signals.Edge

/-!
# Alerts across reloads

The collector evaluates alerts on the current `Outputs` object; a reload closes it
and builds a new one, with a new `Alerts` whose `_state` is empty.  What was
published stays where it is.

    an outlet gets the edges of an alert's verdicts            (publishedStates_eq)
    the published states are truthful ↔ no reload that an evaluation
      follows discards an active alert                         (alerts_truthful_iff)
-/

namespace LuxMon

open Python Signals

/-! ## Outputs -/

/-- Which connections succeed when `Outputs` and its `Alerts` are built. -/
structure Connections where
  mariadb : (host : String) → (port : ℤ) → (user password database : String) → Bool
  mqtt : (host : String) → (port : ℤ) → (username password : String) → Bool
  alertsMqtt : (host : String) → (port : ℤ) → (username password : String) → Bool

/-- `Alerts.__init__`; it opens a client of its own when `Outputs` has none. -/
def Alerts.init (c : Connections) (cfg : OutputConfig) (mqttClient mariadbConn : Bool) : Alerts where
  cfg := cfg
  mqttClient := mqttClient || (cfg.mqttEnabled &&
    c.alertsMqtt (orText cfg.mqttHost "localhost") (if cfg.mqttPort = 0 then 1883 else cfg.mqttPort)
      cfg.mqttUsername cfg.mqttPassword)
  mariadbConn := mariadbConn
  notifiers := { cfg := cfg }

/-- The alerts side of `Outputs`. -/
structure Outputs where
  cfg : OutputConfig
  alerts : Option Alerts
  isSome_alerts : alerts.isSome = cfg.alertsEnabled
  cfg_alerts : ∀ a, alerts = some a → a.cfg = cfg

/-- `Outputs.__init__`. -/
def Outputs.init (c : Connections) (cfg : OutputConfig) : Outputs where
  cfg := cfg
  alerts :=
    if cfg.alertsEnabled then
      some (Alerts.init c cfg
        (cfg.mqttEnabled && c.mqtt cfg.mqttHost cfg.mqttPort cfg.mqttUsername cfg.mqttPassword)
        (cfg.mariadbEnabled && c.mariadb cfg.mariadbHost cfg.mariadbPort cfg.mariadbUser
          cfg.mariadbPassword cfg.mariadbDatabase))
    else none
  isSome_alerts := by split <;> simp_all
  cfg_alerts := by
    intro a ha
    split at ha
    · cases ha
      rfl
    · cases ha

/-- `evaluate_alerts`. -/
def Outputs.evaluateAlerts (s : Outputs) (m : Moment) (decoded : Snapshot) :
    Outputs × List (AlertName × Active) × List Output :=
  ({ cfg := s.cfg
     alerts := s.alerts.map fun a => (a.evaluate m decoded).1
     isSome_alerts := by rw [Option.isSome_map, s.isSome_alerts]
     cfg_alerts := by
      intro a ha
      obtain ⟨b, hb, rfl⟩ := Option.map_eq_some_iff.mp ha
      exact (evaluate_setup b m decoded).1.trans (s.cfg_alerts b hb) },
    match s.alerts with
    | some a => (a.evaluate m decoded).2
    | none => ([], []))

theorem evaluateAlerts_some {s : Outputs} {a : Alerts} (m : Moment) (decoded : Snapshot)
    (ha : s.alerts = some a) :
    (s.evaluateAlerts m decoded).1.alerts = some (a.evaluate m decoded).1 ∧
      (s.evaluateAlerts m decoded).2 = (a.evaluate m decoded).2 := by
  constructor
  · show s.alerts.map _ = _
    rw [ha, Option.map_some]
  · show (match s.alerts with | some a => (a.evaluate m decoded).2 | none => ([], [])) = _
    rw [ha]

theorem evaluateAlerts_none {s : Outputs} (m : Moment) (decoded : Snapshot) (ha : s.alerts = none) :
    (s.evaluateAlerts m decoded).1.alerts = none ∧ (s.evaluateAlerts m decoded).2 = ([], []) := by
  constructor
  · show s.alerts.map _ = _
    rw [ha, Option.map_none]
  · show (match s.alerts with | some a => (a.evaluate m decoded).2 | none => ([], [])) = _
    rw [ha]

/-! ## Runs -/

inductive OutputStep
  | evaluate (decoded : Snapshot) (m : Moment)
  | reload (cfg : OutputConfig) (c : Connections)

/-- What a step gives: the dict that `evaluate_alerts` returns, and what got out. -/
inductive OutputEvent
  | evaluated (active : List (AlertName × Active)) (out : List Output)
  | reloaded

def OutputEvent.out : OutputEvent → List Output
  | .evaluated _ out => out
  | .reloaded => []

/-- Closing the old outputs publishes nothing. -/
def outputStep (s : Outputs) : OutputStep → Outputs × OutputEvent
  | .evaluate decoded m =>
    let (s', active, out) := s.evaluateAlerts m decoded
    (s', .evaluated active out)
  | .reload cfg c => (Outputs.init c cfg, .reloaded)

/-- The states of an alert that an outlet got during a run. -/
def publishedStates (o : Outlet) (name : AlertName) (s : Outputs) (run : List OutputStep) : List Bool :=
  (Machine.outputs outputStep s run).flatMap fun e => published o name e.out

/-- The verdict of an evaluation, when alerts are enabled. -/
def Outputs.verdict (s : Outputs) (m : Moment) (decoded : Snapshot) (name : AlertName) : Option Bool :=
  s.alerts.bind fun a => a.verdict m decoded name

/-- The alert is active in `_state`. -/
def Outputs.state (s : Outputs) (name : AlertName) : Bool :=
  match s.alerts with
  | some a => a.state name
  | none => false

/-- The outlet is connected wherever there are alerts. -/
def Outputs.Connected (o : Outlet) (s : Outputs) : Prop := ∀ a, s.alerts = some a → a.has o = true

/-- All calls to the outlet succeed. -/
def OutputStep.Succeeds (o : Outlet) : OutputStep → Prop
  | .evaluate _ m => ∀ name, m.accepts o name = true
  | .reload cfg c => (Outputs.init c cfg).Connected o

/-- After every enabled evaluation the states that the outlet got alternate, from ON on, and
end in the verdict. -/
def TruthfulAlerts (o : Outlet) (s : Outputs) (run : List OutputStep) : Prop :=
  ∀ pre decoded m post, run = pre ++ .evaluate decoded m :: post →
    (Machine.after outputStep s pre).cfg.alertsEnabled = true → ∀ name,
      Alternates true (publishedStates o name s (pre ++ [.evaluate decoded m])) ∧
        (Machine.after outputStep s pre).verdict m decoded name =
          some (lastState (publishedStates o name s (pre ++ [.evaluate decoded m])))

/-! ## Verdicts as samples -/

def OutputEvent.tick (name : AlertName) : OutputEvent → Tick
  | .evaluated active _ =>
    match (active.lookup name).map Active.active with
    | some b => .sample b
    | none => .idle
  | .reloaded => .reset

def ticks (name : AlertName) (s : Outputs) (run : List OutputStep) : List Tick :=
  (Machine.outputs outputStep s run).map (OutputEvent.tick name)

theorem verdict_of_enabled {s : Outputs} (m : Moment) (decoded : Snapshot) (name : AlertName)
    (h : s.cfg.alertsEnabled = true) : ∃ b, s.verdict m decoded name = some b := by
  obtain ⟨a, ha⟩ := Option.isSome_iff_exists.mp (s.isSome_alerts.trans h)
  have hcfg : a.cfg.alertsEnabled = true := by rw [s.cfg_alerts a ha, h]
  obtain ⟨b, hb, -⟩ := evaluate_judged m decoded name hcfg
  exact ⟨b, by rw [Outputs.verdict, ha, Option.bind_some, hb]⟩

theorem enabled_of_verdict {s : Outputs} {m : Moment} {decoded : Snapshot} {name : AlertName} {b : Bool}
    (h : s.verdict m decoded name = some b) : s.cfg.alertsEnabled = true := by
  obtain ⟨a, ha, -⟩ := Option.bind_eq_some_iff.mp h
  rw [← s.isSome_alerts, ha]
  rfl

theorem tick_evaluate (s : Outputs) (m : Moment) (decoded : Snapshot) (name : AlertName) :
    (outputStep s (.evaluate decoded m)).2.tick name =
      match s.verdict m decoded name with
      | some b => .sample b
      | none => .idle := by
  show OutputEvent.tick name (.evaluated (s.evaluateAlerts m decoded).2.1 _) = _
  cases ha : s.alerts with
  | none =>
    rw [(evaluateAlerts_none m decoded ha).2, Outputs.verdict, ha]
    rfl
  | some a =>
    rw [(evaluateAlerts_some m decoded ha).2, Outputs.verdict, ha]
    rfl

theorem state_of_some {s : Outputs} {a : Alerts} (ha : s.alerts = some a) (name : AlertName) :
    s.state name = a.state name := by
  rw [Outputs.state, ha]

theorem state_of_none {s : Outputs} (ha : s.alerts = none) (name : AlertName) : s.state name = false := by
  rw [Outputs.state, ha]

theorem state_init (c : Connections) (cfg : OutputConfig) (name : AlertName) :
    (Outputs.init c cfg).state name = false := by
  unfold Outputs.init Outputs.state
  by_cases h : cfg.alertsEnabled = true
  · simp only [if_pos h]
    rfl
  · simp only [if_neg h]

/-- One step: what the outlet gets, what `_state` then holds, and the outlet stays connected. -/
theorem step_edges {o : Outlet} {s : Outputs} {st : OutputStep} (name : AlertName) (hconn : s.Connected o)
    (hok : st.Succeeds o) :
    published o name (outputStep s st).2.out = edges (s.state name) [(outputStep s st).2.tick name] ∧
      (outputStep s st).1.state name = recorded (s.state name) [(outputStep s st).2.tick name] ∧
      (outputStep s st).1.Connected o := by
  cases st with
  | reload cfg c => exact ⟨rfl, state_init c cfg name, hok⟩
  | evaluate decoded m =>
    rw [tick_evaluate]
    cases ha : s.alerts with
    | none =>
      have hverdict : s.verdict m decoded name = none := by rw [Outputs.verdict, ha]; rfl
      obtain ⟨halerts, hout⟩ := evaluateAlerts_none m decoded ha
      rw [hverdict]
      refine ⟨?_, ?_, fun b hb => absurd (halerts.symm.trans hb) (by simp)⟩
      · show published o name (s.evaluateAlerts m decoded).2.2 = []
        rw [hout, published_nil]
      · show (s.evaluateAlerts m decoded).1.state name = s.state name
        rw [state_of_none halerts, state_of_none ha]
    | some a =>
      obtain ⟨halerts, hout⟩ := evaluateAlerts_some m decoded ha
      have hen : a.cfg.alertsEnabled = true := by
        rw [s.cfg_alerts a ha, ← s.isSome_alerts, ha]
        rfl
      obtain ⟨active, hactive, hjudged⟩ := evaluate_judged m decoded name hen
      have hverdict : s.verdict m decoded name = some active := by
        rw [Outputs.verdict, ha, Option.bind_some, hactive]
      rw [hverdict]
      refine ⟨?_, ?_, ?_⟩
      · show published o name (s.evaluateAlerts m decoded).2.2 =
          (if active ≠ s.state name then [active] else []) ++ []
        rw [hout, List.append_nil, state_of_some ha]
        exact (hjudged.published o).trans (if_congr
          (and_iff_left ⟨hconn a ha, hok name⟩) rfl rfl)
      · show (s.evaluateAlerts m decoded).1.state name = active
        rw [state_of_some halerts]
        exact hjudged.state
      · intro b hb
        obtain rfl := Option.some.inj (halerts.symm.trans hb)
        rw [(evaluate_setup a m decoded).2.2 o]
        exact hconn a ha

/-- A whole run: what the outlet gets, and what `_state` then holds. -/
theorem publishedStates_eq {o : Outlet} {s : Outputs} {run : List OutputStep} (name : AlertName)
    (hconn : s.Connected o) (hok : ∀ st ∈ run, st.Succeeds o) :
    publishedStates o name s run = edges (s.state name) (ticks name s run) ∧
      (Machine.after outputStep s run).state name = recorded (s.state name) (ticks name s run) := by
  induction run generalizing s with
  | nil => exact ⟨rfl, rfl⟩
  | cons st run ih =>
    obtain ⟨hout, hstate, hconn'⟩ := step_edges name hconn (hok st List.mem_cons_self)
    obtain ⟨hrest, hafter⟩ := ih hconn' fun x hx => hok x (List.mem_cons_of_mem st hx)
    have hticks : ticks name s (st :: run) =
        [(outputStep s st).2.tick name] ++ ticks name (outputStep s st).1 run := rfl
    rw [hticks, edges_append, recorded_append, ← hstate, ← hrest, ← hafter, ← hout]
    exact ⟨rfl, rfl⟩

/-! ## Where the ticks come from -/

theorem ticks_append (name : AlertName) (s : Outputs) (run run' : List OutputStep) :
    ticks name s (run ++ run') = ticks name s run ++ ticks name (Machine.after outputStep s run) run' := by
  rw [ticks, Machine.outputs_append, List.map_append]
  rfl

theorem ticks_split {name : AlertName} {s : Outputs} {run : List OutputStep} {tpre tpost : List Tick} {t : Tick}
    (h : ticks name s run = tpre ++ t :: tpost) :
    ∃ pre st post, run = pre ++ st :: post ∧ ticks name s pre = tpre ∧
      (outputStep (Machine.after outputStep s pre) st).2.tick name = t ∧
      ticks name (outputStep (Machine.after outputStep s pre) st).1 post = tpost := by
  obtain ⟨opre, orest, hsplit, hpre, hrest⟩ := List.map_eq_append_iff.mp h
  obtain ⟨e, opost, rfl, he, hpost⟩ := List.map_eq_cons_iff.mp hrest
  obtain ⟨pre, st, post, rfl, rfl, rfl, rfl⟩ := Machine.outputs_split hsplit
  exact ⟨pre, st, post, rfl, hpre, he, hpost⟩

theorem tick_eq_sample {name : AlertName} {s : Outputs} {st : OutputStep} {b : Bool}
    (h : (outputStep s st).2.tick name = .sample b) :
    ∃ decoded m, st = .evaluate decoded m ∧ s.verdict m decoded name = some b := by
  cases st with
  | reload cfg c => cases h
  | evaluate decoded m =>
    rw [tick_evaluate] at h
    cases hv : s.verdict m decoded name with
    | none => rw [hv] at h; cases h
    | some b' => rw [hv] at h; cases h; exact ⟨decoded, m, rfl, hv⟩

theorem tick_eq_reset {name : AlertName} {s : Outputs} {st : OutputStep}
    (h : (outputStep s st).2.tick name = .reset) : ∃ cfg c, st = .reload cfg c := by
  cases st with
  | reload cfg c => exact ⟨cfg, c, rfl⟩
  | evaluate decoded m =>
    rw [tick_evaluate] at h
    cases hv : s.verdict m decoded name with
    | none => rw [hv] at h; cases h
    | some b => rw [hv] at h; cases h

/-- An evaluation with a verdict is a sample. -/
theorem ticks_evaluate {name : AlertName} {s : Outputs} {pre : List OutputStep} {decoded : Snapshot} {m : Moment} {b : Bool}
    (h : (Machine.after outputStep s pre).verdict m decoded name = some b) (post : List OutputStep) :
    ticks name s (pre ++ .evaluate decoded m :: post) = ticks name s pre ++ .sample b ::
      ticks name (outputStep (Machine.after outputStep s pre) (.evaluate decoded m)).1 post := by
  rw [ticks_append]
  show _ ++ (outputStep _ (.evaluate decoded m)).2.tick name :: _ = _
  rw [tick_evaluate, h]
  rfl

/-- Some evaluation of the run finds alerts enabled. -/
def Evaluates (s : Outputs) (run : List OutputStep) : Prop :=
  ∃ pre decoded m post, run = pre ++ .evaluate decoded m :: post ∧
    (Machine.after outputStep s pre).cfg.alertsEnabled = true

theorem evaluates_iff (name : AlertName) (s : Outputs) (run : List OutputStep) :
    Evaluates s run ↔ ∃ b, Tick.sample b ∈ ticks name s run := by
  constructor
  · rintro ⟨pre, decoded, m, post, rfl, hen⟩
    obtain ⟨b, hb⟩ := verdict_of_enabled m decoded name hen
    refine ⟨b, ?_⟩
    rw [ticks_evaluate hb]
    exact List.mem_append_right _ List.mem_cons_self
  · rintro ⟨b, hb⟩
    obtain ⟨tpre, tpost, hsplit⟩ := List.append_of_mem hb
    obtain ⟨pre, st, post, rfl, -, htick, -⟩ := ticks_split hsplit
    obtain ⟨decoded, m, rfl, hverdict⟩ := tick_eq_sample htick
    exact ⟨pre, decoded, m, post, rfl, enabled_of_verdict hverdict⟩

theorem truthfulAlerts_iff {o : Outlet} {s : Outputs} {run : List OutputStep} (hconn : s.Connected o)
    (hok : ∀ st ∈ run, st.Succeeds o) (hempty : ∀ name, s.state name = false) :
    TruthfulAlerts o s run ↔ ∀ name, Truthful (ticks name s run) := by
  have hedges : ∀ name pre decoded m post, run = pre ++ .evaluate decoded m :: post → ∀ b,
      (Machine.after outputStep s pre).verdict m decoded name = some b →
      publishedStates o name s (pre ++ [.evaluate decoded m]) =
        edges false (ticks name s pre ++ [.sample b]) := by
    intro name pre decoded m post hsplit b hb
    have hok' : ∀ st ∈ pre ++ [.evaluate decoded m], st.Succeeds o := fun st hst => hok st (by
      rw [hsplit, List.append_cons]
      exact List.mem_append_left post hst)
    rw [(publishedStates_eq name hconn hok').1, hempty, ticks_evaluate hb]
    rfl
  constructor
  · intro h name tpre b tpost htsplit
    obtain ⟨pre, st, post, hsplit, rfl, htick, -⟩ := ticks_split htsplit
    obtain ⟨decoded, m, rfl, hverdict⟩ := tick_eq_sample htick
    obtain ⟨halt, hlast⟩ := h pre decoded m post hsplit (enabled_of_verdict hverdict) name
    rw [hedges name pre decoded m post hsplit b hverdict] at halt hlast
    rw [hverdict] at hlast
    exact ⟨halt, (Option.some.inj hlast).symm⟩
  · intro h pre decoded m post hsplit hen name
    obtain ⟨b, hb⟩ := verdict_of_enabled m decoded name hen
    obtain ⟨halt, hlast⟩ := h name _ b _ ((congrArg _ hsplit).trans (ticks_evaluate hb post))
    rw [hedges name pre decoded m post hsplit b hb, hb, hlast]
    exact ⟨halt, rfl⟩

/-- No reload that an evaluation follows finds an alert active in `_state`. -/
def QuietReloads (s : Outputs) (run : List OutputStep) : Prop :=
  ∀ pre cfg c post, run = pre ++ .reload cfg c :: post → Evaluates (Outputs.init c cfg) post →
    ∀ name, (Machine.after outputStep s pre).state name = false

theorem alerts_truthful_iff (o : Outlet) (c₀ : Connections) (cfg₀ : OutputConfig) {run : List OutputStep}
    (hconn : (Outputs.init c₀ cfg₀).Connected o) (hok : ∀ st ∈ run, st.Succeeds o) :
    TruthfulAlerts o (Outputs.init c₀ cfg₀) run ↔ QuietReloads (Outputs.init c₀ cfg₀) run := by
  have hempty := state_init c₀ cfg₀
  have hstate : ∀ name pre post, run = pre ++ post →
      (Machine.after outputStep (Outputs.init c₀ cfg₀) pre).state name =
        recorded false (ticks name (Outputs.init c₀ cfg₀) pre) := by
    intro name pre post hsplit
    have hok' : ∀ st ∈ pre, st.Succeeds o := fun st hst =>
      hok st (hsplit ▸ List.mem_append_left post hst)
    rw [(publishedStates_eq name hconn hok').2, hempty]
  rw [truthfulAlerts_iff hconn hok hempty]
  simp only [edges_truthful_iff]
  constructor
  · intro h pre cfg c post hsplit hev name
    rw [hstate name pre _ hsplit]
    refine h name _ (ticks name (Outputs.init c cfg) post) ?_ ((evaluates_iff name _ post).mp hev)
    rw [hsplit, ticks_append]
    rfl
  · intro h name tpre tpost htsplit hsample
    obtain ⟨pre, st, post, hsplit, rfl, htick, rfl⟩ := ticks_split htsplit
    obtain ⟨cfg, c, rfl⟩ := tick_eq_reset htick
    rw [← hstate name pre _ hsplit]
    exact h pre cfg c post hsplit ((evaluates_iff name _ post).mpr hsample) name

/-! ## A reload while an alert is active -/

/-- Every connection succeeds. -/
def allUp : Connections where
  mariadb := fun _ _ _ _ _ => true
  mqtt := fun _ _ _ _ => true
  alertsMqtt := fun _ _ _ _ => true

def alertsOn : OutputConfig := { mqttEnabled := true, alertsEnabled := true }

/-- A moment at which every call succeeds. -/
def goodMoment (now : ℚ) : Moment where
  now := now
  clock := fun _ _ => now
  since := fun _ => ""
  publishTs := fun _ => ""
  noticeTime := fun _ => ""
  webhookTs := fun _ => ""
  publishes := fun _ => true
  announces := fun _ => true
  inserts := fun _ => true
  delivers := fun _ _ => true

def socSnapshot (soc : ℚ) : Snapshot := fun key =>
  if key = "soc" then some (.float (.fin soc))
  else if key = "grid_voltage_r" then some (.float (.fin 240))
  else if key = "grid_frequency" then some (.float (.fin 60)) else none

/-- The battery stays low over a reload: ON is published twice. -/
def lowOverReload : List OutputStep :=
  [.evaluate (socSnapshot 15) (goodMoment 1000), .reload alertsOn allUp,
    .evaluate (socSnapshot 15) (goodMoment 1010)]

/-- The battery recovers over a reload: OFF is never published. -/
def clearedOverReload : List OutputStep :=
  [.evaluate (socSnapshot 15) (goodMoment 1000), .reload alertsOn allUp,
    .evaluate (socSnapshot 80) (goodMoment 1010)]

theorem allUp_connected (o : Outlet) : (Outputs.init allUp alertsOn).Connected o := by
  intro a ha
  cases ha
  cases o <;> rfl

theorem lowOverReload_succeeds (o : Outlet) : ∀ st ∈ lowOverReload, st.Succeeds o := by
  intro st hst
  simp only [lowOverReload, List.mem_cons, List.not_mem_nil, or_false] at hst
  rcases hst with rfl | rfl | rfl
  · cases o <;> exact fun _ => rfl
  · exact allUp_connected o
  · cases o <;> exact fun _ => rfl

theorem alerts_truthful_low :
    TruthfulAlerts .mqtt (Outputs.init allUp alertsOn) lowOverReload ↔
      QuietReloads (Outputs.init allUp alertsOn) lowOverReload :=
  alerts_truthful_iff .mqtt allUp alertsOn (allUp_connected .mqtt) (lowOverReload_succeeds .mqtt)

theorem reload_breaks_truth :
    (∀ o, publishedStates o .batterySocLow (Outputs.init allUp alertsOn) lowOverReload = [true, true]) ∧
      (∀ o, publishedStates o .batterySocLow (Outputs.init allUp alertsOn) clearedOverReload = [true]) ∧
      ¬ (∀ o c cfg run, (Outputs.init c cfg).Connected o → (∀ st ∈ run, st.Succeeds o) →
        TruthfulAlerts o (Outputs.init c cfg) run) := by
  have hlow : ∀ o, publishedStates o .batterySocLow (Outputs.init allUp alertsOn) lowOverReload =
      [true, true] := by
    intro o
    cases o <;> decide +kernel
  refine ⟨hlow, fun o => by cases o <;> decide +kernel, fun h => ?_⟩
  obtain ⟨halt, -⟩ := h .mqtt allUp alertsOn lowOverReload (allUp_connected .mqtt)
    (lowOverReload_succeeds .mqtt)
    [.evaluate (socSnapshot 15) (goodMoment 1000), .reload alertsOn allUp]
    (socSnapshot 15) (goodMoment 1010) [] rfl rfl .batterySocLow
  have htwice := hlow .mqtt
  unfold lowOverReload at htwice
  rw [List.cons_append, List.singleton_append, htwice] at halt
  exact absurd halt.2.1 (by decide)

end LuxMon
