import LuxMon.Alerts.Reload

/-!
# What the notifications say in the end

One `Alerts` object over many evaluations.  `evaluate` sends a notice only when an
alert changes, and the throttle drops a notice that comes too soon, whatever it
says; nothing sends it later.

    a channel delivers the changes that pass its throttle      (delivered_changes)
    the last delivered notice is the current state ↔
      an even number of changes after it did not get through   (notifications_truthful_iff)
-/

namespace LuxMon

open Python Signals

/-! ## Changes -/

abbrev AlertRound := Snapshot × Moment

def alertRound (a : Alerts) (e : AlertRound) : Alerts × List Output :=
  ((a.evaluate e.2 e.1).1, a.sent e.2 e.1)

/-- The change of an alert in one evaluation: when, and to what. -/
def change (name : AlertName) (a : Alerts) (e : AlertRound) : List (Moment × Bool) :=
  match a.verdict e.2 e.1 name with
  | some b => if b = a.state name then [] else [(e.2, b)]
  | none => []

def changes (name : AlertName) : Alerts → List AlertRound → List (Moment × Bool)
  | _, [] => []
  | a, e :: run => change name a e ++ changes name (alertRound a e).1 run

/-- A change as a channel sees it. -/
def edge (c : Channel) (name : AlertName) (x : Moment × Bool) : Edge :=
  { time := x.1.clock c name, active := x.2, ok := x.1.delivers c name }

/-- The states of an alert that a channel delivered during a run. -/
def deliveredStates (c : Channel) (name : AlertName) (a : Alerts) (run : List AlertRound) : List Bool :=
  (Machine.outputs alertRound a run).flatMap (deliveries c name)

/-- Every alert is judged, and channel `c` is to be used. -/
structure Notifying (c : Channel) (a : Alerts) : Prop where
  enabled : a.cfg.alertsEnabled = true
  same : a.notifiers.cfg = a.cfg
  ready : a.cfg.Ready c

/-- One evaluation: the change, what it leaves in `_state` and the throttle, what is delivered. -/
structure AlertRoundSpec (c : Channel) (name : AlertName) (a : Alerts) (e : AlertRound) : Prop where
  notifying : Notifying c (alertRound a e).1
  alternates : Alternates (!a.state name) ((change name a e).map Prod.snd)
  state : (alertRound a e).1.state name = ((change name a e).map Prod.snd).getLastD (a.state name)
  lastSent : (alertRound a e).1.notifiers.lastSent c name =
    lastAttempt minIntervalSec (a.notifiers.lastSent c name) ((change name a e).map (edge c name))
  deliveries : deliveries c name (alertRound a e).2 =
    delivered minIntervalSec (a.notifiers.lastSent c name) ((change name a e).map (edge c name))

theorem alertRound_spec {c : Channel} {a : Alerts} (name : AlertName) (e : AlertRound)
    (h : Notifying c a) : AlertRoundSpec c name a e := by
  obtain ⟨hcfg, hncfg, -⟩ := evaluate_setup a e.2 e.1
  have hnotify : Notifying c (alertRound a e).1 :=
    { enabled := hcfg ▸ h.enabled
      same := hncfg.trans (h.same.trans hcfg.symm)
      ready := hcfg ▸ h.ready }
  obtain ⟨active, hactive, hjudged⟩ := evaluate_judged e.2 e.1 name h.enabled
  have hen : a.notifiers.cfg.alertsEnabled = true := h.same ▸ h.enabled
  have hready : a.notifiers.cfg.Ready c := h.same ▸ h.ready
  have hlast := hjudged.lastSent hen c hready
  have hdel := hjudged.deliveries hen c hready
  by_cases hsame : active = a.state name
  · have hchange : change name a e = [] := by
      rw [change, hactive]
      exact if_pos hsame
    rw [if_pos (Or.inl hsame)] at hlast hdel
    exact
      { notifying := hnotify
        alternates := by rw [hchange]; trivial
        state := by rw [hchange]; exact hjudged.state.trans hsame
        lastSent := by rw [hchange]; exact hlast
        deliveries := by rw [hchange]; exact hdel }
  · have hchange : change name a e = [(e.2, active)] := by
      rw [change, hactive]
      exact if_neg hsame
    simp only [hsame, false_or] at hlast hdel
    exact
      { notifying := hnotify
        alternates := by
          rw [hchange]
          exact ⟨by cases active <;> simp_all, trivial⟩
        state := by rw [hchange]; exact hjudged.state
        lastSent := by rw [hchange]; exact hlast
        deliveries := by
          rw [hchange]
          show LuxMon.deliveries c name (a.sent e.2 e.1) = if _ then [] else (if _ then _ else _) ++ []
          rw [List.append_nil]
          exact hdel }

/-- A whole run: what a channel delivers, and how the changes lead to `_state`. -/
theorem delivered_changes {c : Channel} (name : AlertName) (run : List AlertRound) {a : Alerts}
    (h : Notifying c a) :
    deliveredStates c name a run = delivered minIntervalSec (a.notifiers.lastSent c name)
        ((changes name a run).map (edge c name)) ∧
      Alternates (!a.state name) ((changes name a run).map Prod.snd) ∧
      (Machine.after alertRound a run).state name =
        ((changes name a run).map Prod.snd).getLastD (a.state name) := by
  induction run generalizing a with
  | nil => exact ⟨rfl, trivial, rfl⟩
  | cons e run ih =>
    have hspec := alertRound_spec name e h
    obtain ⟨hdel, halt, hstate⟩ := ih hspec.notifying
    refine ⟨?_, ?_, ?_⟩
    · rw [changes, List.map_append, delivered_append, ← hspec.lastSent, ← hdel, ← hspec.deliveries]
      rfl
    · rw [changes, List.map_append]
      exact alternates_append hspec.alternates (hspec.state ▸ halt)
    · rw [changes, List.map_append, getLastD_append, ← hspec.state]
      exact hstate

/-! ## Settled alerts -/

/-- The latest change of the alert lies at least the throttle's interval before `now`. -/
def Settled (name : AlertName) (a : Alerts) (run : List AlertRound) (now : ℚ) : Prop :=
  ∃ t, ((changes name a run).map fun x => x.1.now).getLast? = some t ∧ t + minIntervalSec ≤ now

/-- After every evaluation with a settled alert, the last state delivered for it is its current one. -/
def EndsTruthful (c : Channel) (a : Alerts) (run : List AlertRound) : Prop :=
  ∀ pre e post name, run = pre ++ e :: post → Settled name a (pre ++ [e]) e.2.now →
    (deliveredStates c name a (pre ++ [e])).getLast? =
      some ((Machine.after alertRound a (pre ++ [e])).state name)

/-- The last change that got through is followed by an even number of changes that did not:
they came within the interval of an attempt, or failed. -/
def EvenMissed (c : Channel) (name : AlertName) (a : Alerts) (run : List AlertRound) : Prop :=
  ∃ pre n, passed minIntervalSec 0 ((changes name a run).map (edge c name)) =
    pre ++ true :: List.replicate n false ∧ Even n

/-- Nothing happened yet. -/
structure Fresh (a : Alerts) : Prop where
  state : ∀ name, a.state name = false
  lastSent : ∀ c name, a.notifiers.lastSent c name = 0

theorem current_iff {c : Channel} {name : AlertName} {a : Alerts} (hnotify : Notifying c a)
    (hfresh : Fresh a) {run : List AlertRound} (hne : changes name a run ≠ []) :
    (deliveredStates c name a run).getLast? = some ((Machine.after alertRound a run).state name) ↔
      EvenMissed c name a run := by
  obtain ⟨hdel, halt, hstate⟩ := delivered_changes name run hnotify
  rw [hfresh.state] at halt hstate
  rw [hfresh.lastSent] at hdel
  have hactive : ((changes name a run).map (edge c name)).map Edge.active =
      (changes name a run).map Prod.snd := by
    rw [List.map_map]
    rfl
  have hlast : ((changes name a run).map Prod.snd).getLast? =
      some ((Machine.after alertRound a run).state name) := by
    rcases List.eq_nil_or_concat ((changes name a run).map Prod.snd) with hnil | ⟨l, b, hl⟩
    · exact absurd (List.map_eq_nil_iff.mp hnil) hne
    · rw [hstate, hl, List.concat_eq_append, List.getLast?_concat, List.getLastD_concat]
  have hne' : (changes name a run).map (edge c name) ≠ [] := fun h => hne (List.map_eq_nil_iff.mp h)
  have hcurrent := delivered_current_iff minIntervalSec 0 hne' (hactive ▸ halt)
  rw [hactive, hlast] at hcurrent
  rw [hdel]
  exact hcurrent

theorem notifications_truthful_iff {c : Channel} {cfg : OutputConfig} (conn : Connections)
    (mqttClient mariadbConn : Bool) (hen : cfg.alertsEnabled = true) (hready : cfg.Ready c)
    (run : List AlertRound) :
    EndsTruthful c (Alerts.init conn cfg mqttClient mariadbConn) run ↔
      ∀ pre e post name, run = pre ++ e :: post →
        Settled name (Alerts.init conn cfg mqttClient mariadbConn) (pre ++ [e]) e.2.now →
        EvenMissed c name (Alerts.init conn cfg mqttClient mariadbConn) (pre ++ [e]) := by
  have hnotify : Notifying c (Alerts.init conn cfg mqttClient mariadbConn) := ⟨hen, rfl, hready⟩
  have hfresh : Fresh (Alerts.init conn cfg mqttClient mariadbConn) := ⟨fun _ => rfl, fun _ _ => rfl⟩
  refine forall₄_congr fun pre e post name => forall₂_congr fun hsplit hsettled => ?_
  refine current_iff hnotify hfresh fun hnil => ?_
  obtain ⟨t, ht, -⟩ := hsettled
  rw [hnil] at ht
  cases ht

/-! ## A change within the interval -/

def notifyingConfig : OutputConfig :=
  { alertsEnabled := true, alertsEmailEnabled := true, alertsEmailSmtpHost := "smtp",
    alertsEmailUsername := "user", alertsEmailPassword := "secret", alertsEmailFrom := "lux@home",
    alertsEmailTo := "owner@home", alertsWebhookEnabled := true, alertsWebhookUrl := "http://hook" }

/-- Low at 1000 s, recovered at 1010 s, looked at again at 1310 s. -/
def shortLow : List AlertRound :=
  [(socSnapshot 15, goodMoment 1000), (socSnapshot 80, goodMoment 1010), (socSnapshot 80, goodMoment 1310)]

theorem notifyingConfig_ready (c : Channel) : notifyingConfig.Ready c := by
  cases c with
  | email => exact ⟨rfl, by decide, by decide, by decide, by decide, by decide, by decide +kernel⟩
  | webhook => exact ⟨rfl, by decide⟩

theorem notifications_truthful_sample :
    EndsTruthful .email (Alerts.init allUp notifyingConfig false false) shortLow ↔
      ∀ pre e post name, shortLow = pre ++ e :: post →
        Settled name (Alerts.init allUp notifyingConfig false false) (pre ++ [e]) e.2.now →
        EvenMissed .email name (Alerts.init allUp notifyingConfig false false) (pre ++ [e]) :=
  notifications_truthful_iff allUp false false rfl (notifyingConfig_ready .email) shortLow

/-- The clock readings of a run, in order. -/
def InOrder (run : List AlertRound) : Prop :=
  (∀ e ∈ run, ∀ c name, e.2.now ≤ e.2.clock c name) ∧
    run.IsChain fun e e' => ∀ c name, e.2.clock c name ≤ e'.2.now

theorem short_low_not_truthful :
    InOrder shortLow ∧ (∀ e ∈ shortLow, ∀ c name, e.2.delivers c name = true) ∧
      (∀ c, deliveredStates c .batterySocLow (Alerts.init allUp notifyingConfig false false) shortLow = [true]) ∧
      ∀ c, ¬ EndsTruthful c (Alerts.init allUp notifyingConfig false false) shortLow := by
  have hdelivered : ∀ c, deliveredStates c .batterySocLow
      (Alerts.init allUp notifyingConfig false false) shortLow = [true] := by
    intro c
    cases c <;> decide +kernel
  refine ⟨⟨?_, ?_⟩, ?_, hdelivered, fun c h => ?_⟩
  · simp [shortLow, goodMoment]
  · simp only [shortLow, goodMoment, List.isChain_cons_cons, List.isChain_singleton]
    norm_num
  · simp [shortLow, goodMoment]
  · have hsettled : Settled .batterySocLow (Alerts.init allUp notifyingConfig false false) shortLow 1310 := by
      refine ⟨1010, ?_, by norm_num [minIntervalSec]⟩
      decide +kernel
    have hstate : (Machine.after alertRound (Alerts.init allUp notifyingConfig false false) shortLow).state
        .batterySocLow = false := by
      decide +kernel
    have htruth := h [(socSnapshot 15, goodMoment 1000), (socSnapshot 80, goodMoment 1010)]
      (socSnapshot 80, goodMoment 1310) [] .batterySocLow rfl hsettled
    have hlast := hdelivered c
    unfold shortLow at hlast hstate
    rw [List.cons_append, List.cons_append, List.nil_append, hlast, hstate] at htruth
    exact absurd htruth (by decide)

end LuxMon
