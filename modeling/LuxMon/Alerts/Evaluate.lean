import LuxMon.Alerts.Notifiers
import LuxMon.Automation.Rules

/-!
# Alert rules

`Alerts.evaluate`: six rules judge a decoded snapshot, and an alert whose verdict
differs from the one in `_state` is published and sent.

    after an evaluation `_state` holds its verdicts            (evaluate_state)
    an outlet gets an alert's verdict exactly when it differs from
      `_state` and the call does not fail                      (published_evaluate)
-/

namespace LuxMon

open Python

/-! ## Rules -/

/-- `_num`; what `float` raises makes a reading absent. -/
def num (decoded : Snapshot) (key : String) : Option PyFloat :=
  match decoded key with
  | none => none
  | some (.obj fields) => (fields.lookup "value").bind fun v => v.toFloat.toOption
  | some info => info.toFloat.toOption

/-- `a or b` for readings. -/
def orNum (a b : Option PyFloat) : Option PyFloat :=
  match a with
  | some x => if x.truthy then some x else b
  | none => b

/-- `reading or 0.0`. -/
def orZero (x : Option PyFloat) : PyFloat := (orNum x (some (.fin 0))).getD (.fin 0)

/-- A reading in an f-string. -/
def reprNum : Option PyFloat → String
  | some x => x.repr
  | none => "None"

/-- `_cfg_float`: zero counts as not set. -/
def cfgFloat (x default : PyFloat) : PyFloat := if x.truthy then x else default

structure Verdict where
  active : Bool
  value : PyFloat
  message : String

/-- The grid rule's timer after an evaluation at `now`. -/
def gridLost (grid : Bool) (lostSince : Option ℚ) (now : ℚ) : Option ℚ :=
  if grid then none else some (lostSince.getD now)

def gridPresent (decoded : Snapshot) : Bool :=
  (num decoded "grid_voltage_r").any (PyFloat.lt (.fin 80)) &&
    (num decoded "grid_frequency").any (PyFloat.lt (.fin 45))

/-- `results`, in order. -/
def judge (cfg : OutputConfig) (lostSince : Option ℚ) (now : ℚ) (decoded : Snapshot) :
    List (AlertName × Verdict) :=
  let soc := num decoded "soc"
  let batTemp := num decoded "temp_battery"
  let invTemp := num decoded "temp_inverter"
  let gridV := num decoded "grid_voltage_r"
  let fault := orNum (orNum (num decoded "fault") (num decoded "fault_code")) (num decoded "error")
  let socLow := cfgFloat cfg.alertsSocLow (.fin 20)
  let socCritical := cfgFloat cfg.alertsSocCritical (.fin 10)
  let batTempHigh := cfgFloat cfg.alertsBatteryTempHigh (.fin 50)
  let invTempHigh := cfgFloat cfg.alertsInverterTempHigh (.fin 60)
  let gridThreshold := cfgFloat cfg.alertsGridLostThresholdSec (.fin 30)
  [(.batterySocLow,
      { active := soc.any fun x => x.le socLow, value := orZero soc,
        message := "Battery SOC " ++ reprNum soc ++ "% at or below " ++ socLow.repr ++ "%" }),
    (.batterySocCritical,
      { active := soc.any fun x => x.le socCritical, value := orZero soc,
        message := "Battery SOC " ++ reprNum soc ++ "% at or below " ++ socCritical.repr ++ "%" }),
    (.batteryTempHigh,
      { active := batTemp.any fun x => batTempHigh.le x, value := orZero batTemp,
        message := "Battery temperature " ++ reprNum batTemp ++ "°C at or above " ++
          batTempHigh.repr ++ "°C" }),
    (.inverterTempHigh,
      { active := invTemp.any fun x => invTempHigh.le x, value := orZero invTemp,
        message := "Inverter temperature " ++ reprNum invTemp ++ "°C at or above " ++
          invTempHigh.repr ++ "°C" }),
    (.gridLoss,
      match gridLost (gridPresent decoded) lostSince now with
      | none => { active := false, value := orZero gridV, message := "Grid present" }
      | some since =>
        { active := gridThreshold.le (.fin (now - since)), value := orZero gridV,
          message := "Grid absent for " ++ (PyFloat.fin (now - since)).fixed0 ++ "s" }),
    (.faultActive,
      match fault with
      | some x =>
        if x != .fin 0 then
          { active := true, value := x, message := "Fault code " ++ x.repr ++ " active" }
        else { active := false, value := orZero fault, message := "No active fault" }
      | none => { active := false, value := orZero fault, message := "No active fault" })]

/-! ## Publishing -/

structure Alerts where
  cfg : OutputConfig
  /-- `_mqtt_client` is there. -/
  mqttClient : Bool
  /-- `_mariadb_conn` is there. -/
  mariadbConn : Bool
  notifiers : Notifiers
  state : AlertName → Bool := fun _ => false
  gridLostSince : Option ℚ := none
  haAnnounced : AlertName → Bool := fun _ => false

def stateStr (active : Bool) : String := if active then "ON" else "OFF"

def alertTopic (cfg : OutputConfig) (name : AlertName) : String :=
  orText cfg.mqttTopicPrefix "luxmon" ++ "/" ++ orText cfg.mqttDeviceId "luxmon_solar" ++
    "/alert/" ++ name.text

def alertPayload (v : Verdict) (ts : String) : Json := .obj [
  ("state", .str (stateStr v.active)),
  ("value", .float v.value),
  ("message", .str v.message),
  ("ts", .str ts)]

def haConfig (cfg : OutputConfig) (name : AlertName) : Json :=
  let deviceId := orText cfg.mqttDeviceId "luxmon_solar"
  .obj [
    ("name", .str name.title),
    ("unique_id", .str (deviceId ++ "_alert_" ++ name.text)),
    ("state_topic", .str (alertTopic cfg name)),
    ("value_template", .str "\x7b\x7b value_json.state \x7d\x7d"),
    ("payload_on", .str "ON"),
    ("payload_off", .str "OFF"),
    ("device_class", .str "problem"),
    ("device", .obj [
      ("identifiers", .arr [.str deviceId]),
      ("name", .str (orText cfg.mqttDeviceName "luxmon")),
      ("model", .str "lux-mon"),
      ("manufacturer", .str "lux-mon")])]

/-- `_publish_ha_discovery`: announced once, also when that fails. -/
def Alerts.publishHaDiscovery (a : Alerts) (m : Moment) (name : AlertName) : Alerts × List Output :=
  if a.haAnnounced name then (a, [])
  else
    let topic := orText a.cfg.mqttHaPrefix "homeassistant" ++ "/binary_sensor/" ++
      orText a.cfg.mqttDeviceId "luxmon_solar" ++ "_alert_" ++ name.text ++ "/config"
    ({ a with haAnnounced := Function.update a.haAnnounced name true },
      if m.announces name then [.discovery name topic (haConfig a.cfg name)] else [])

/-- `_publish`; a call that fails is logged. -/
def Alerts.publish (a : Alerts) (m : Moment) (name : AlertName) (v : Verdict) : Alerts × List Output :=
  let states := if a.mqttClient && m.publishes name
    then [.alertState name (alertTopic a.cfg name) (alertPayload v (m.publishTs name))] else []
  let (a, announced) := if a.mqttClient && a.cfg.mqttHaDiscovery
    then a.publishHaDiscovery m name else (a, [])
  let rows := if a.mariadbConn && m.inserts name
    then [.alertRow name (stateStr v.active) v.value v.message] else []
  (a, states ++ announced ++ rows)

/-- What `evaluate` returns for one alert. -/
structure Active where
  active : Bool
  value : PyFloat
  message : String
  since : String

/-- An entry of the returned dict. -/
def activeEntry (m : Moment) (r : AlertName × Verdict) : AlertName × Active :=
  (r.1, { active := r.2.active, value := r.2.value, message := r.2.message, since := m.since r.1 })

/-- `self._state[name] = is_active`. -/
def Alerts.remember (a : Alerts) (name : AlertName) (active : Bool) : Alerts :=
  { a with state := Function.update a.state name active }

@[simp] theorem Alerts.remember_self (a : Alerts) (name : AlertName) (active : Bool) :
    (a.remember name active).state name = active := by
  simp [Alerts.remember]

theorem Alerts.remember_of_ne (a : Alerts) {name name' : AlertName} (active : Bool) (hne : name' ≠ name) :
    (a.remember name active).state name' = a.state name' := by
  simp [Alerts.remember, hne]

/-- One turn of the loop over `results`. -/
def Alerts.turn (a : Alerts) (m : Moment) (name : AlertName) (v : Verdict) : Alerts × List Output :=
  let remembered := a.remember name v.active
  if v.active ≠ a.state name then
    let (b, published) := remembered.publish m name v
    let (notifiers, sent) := b.notifiers.send m name v.active v.value v.message
    ({ b with notifiers := notifiers }, published ++ sent)
  else (remembered, [])

def Alerts.turns (m : Moment) : Alerts → List (AlertName × Verdict) → Alerts × List Output
  | a, [] => (a, [])
  | a, (name, v) :: results =>
    let (a, out) := a.turn m name v
    let (a, rest) := Alerts.turns m a results
    (a, out ++ rest)

/-- `evaluate`: the alerts afterwards, the returned dict, and what got out. -/
def Alerts.evaluate (a : Alerts) (m : Moment) (decoded : Snapshot) :
    Alerts × List (AlertName × Active) × List Output :=
  if a.cfg.alertsEnabled then
    let results := judge a.cfg a.gridLostSince m.now decoded
    let a := { a with gridLostSince := gridLost (gridPresent decoded) a.gridLostSince m.now }
    let (a, out) := Alerts.turns m a results
    (a, results.map (activeEntry m), out)
  else (a, [], [])

/-! ## What got out about an alert -/

/-- Where the state of an alert is kept: retained on MQTT, and in `lux_alerts`. -/
inductive Outlet
  | mqtt
  | mariadb
  deriving DecidableEq

def Alerts.has (a : Alerts) : Outlet → Bool
  | .mqtt => a.mqttClient
  | .mariadb => a.mariadbConn

def Moment.accepts (m : Moment) : Outlet → AlertName → Bool
  | .mqtt => m.publishes
  | .mariadb => m.inserts

def parseState (s : String) : Option Bool :=
  if s = "ON" then some true else if s = "OFF" then some false else none

@[simp] theorem parseState_stateStr (active : Bool) : parseState (stateStr active) = some active := by
  cases active <;> decide

/-- The state in an MQTT payload. -/
def payloadState : Json → Option Bool
  | .obj fields =>
    match fields.lookup "state" with
    | some (.str s) => parseState s
    | _ => none
  | _ => none

@[simp] theorem payloadState_alertPayload (v : Verdict) (ts : String) :
    payloadState (alertPayload v ts) = some v.active :=
  parseState_stateStr v.active

def Output.state (o : Outlet) (name : AlertName) : Output → Option Bool
  | .alertState n _ payload => if o = .mqtt ∧ n = name then payloadState payload else none
  | .alertRow n state _ _ => if o = .mariadb ∧ n = name then parseState state else none
  | _ => none

/-- The states of an alert that an outlet got. -/
def published (o : Outlet) (name : AlertName) (out : List Output) : List Bool :=
  out.filterMap (Output.state o name)

/-- The states of an alert that a channel delivered. -/
def deliveries (c : Channel) (name : AlertName) (out : List Output) : List Bool :=
  (notices c out).filterMap fun x => if x.name = name then some x.active else none

@[simp] theorem published_nil (o : Outlet) (name : AlertName) : published o name [] = [] := rfl

@[simp] theorem published_append (o : Outlet) (name : AlertName) (out out' : List Output) :
    published o name (out ++ out') = published o name out ++ published o name out' :=
  List.filterMap_append

@[simp] theorem deliveries_nil (c : Channel) (name : AlertName) : deliveries c name [] = [] := rfl

@[simp] theorem deliveries_append (c : Channel) (name : AlertName) (out out' : List Output) :
    deliveries c name (out ++ out') = deliveries c name out ++ deliveries c name out' := by
  rw [deliveries, notices_append, List.filterMap_append]
  rfl

theorem deliveries_of_notices {c : Channel} {out : List Output} (name : AlertName)
    (h : notices c out = []) : deliveries c name out = [] := by
  rw [deliveries, h, List.filterMap_nil]

/-! ## The loop over the results -/

/-- Nothing that concerns the alert happened. -/
structure Untouched (a : Alerts) (name : AlertName) (r : Alerts × List Output) : Prop where
  state : r.1.state name = a.state name
  lastSent : ∀ c, r.1.notifiers.lastSent c name = a.notifiers.lastSent c name
  published : ∀ o, published o name r.2 = []
  deliveries : ∀ c, deliveries c name r.2 = []

/-- All that concerns the alert after its turn. -/
structure Judged (a : Alerts) (m : Moment) (name : AlertName) (active : Bool)
    (r : Alerts × List Output) : Prop where
  state : r.1.state name = active
  published : ∀ o, published o name r.2 =
    if active ≠ a.state name ∧ a.has o ∧ m.accepts o name then [active] else []
  lastSent : a.notifiers.cfg.alertsEnabled = true → ∀ c, a.notifiers.cfg.Ready c →
    r.1.notifiers.lastSent c name =
      if active = a.state name ∨ m.clock c name - a.notifiers.lastSent c name < minIntervalSec
      then a.notifiers.lastSent c name else m.clock c name
  deliveries : a.notifiers.cfg.alertsEnabled = true → ∀ c, a.notifiers.cfg.Ready c →
    deliveries c name r.2 =
      if active = a.state name ∨ m.clock c name - a.notifiers.lastSent c name < minIntervalSec
      then [] else if m.delivers c name then [active] else []

/-- What no evaluation changes. -/
structure SameSetup (a a' : Alerts) : Prop where
  cfg : a'.cfg = a.cfg
  mqttClient : a'.mqttClient = a.mqttClient
  mariadbConn : a'.mariadbConn = a.mariadbConn
  notifiers : a'.notifiers.cfg = a.notifiers.cfg
  gridLostSince : a'.gridLostSince = a.gridLostSince

theorem SameSetup.refl (a : Alerts) : SameSetup a a := ⟨rfl, rfl, rfl, rfl, rfl⟩

theorem SameSetup.trans {a b c : Alerts} (h : SameSetup a b) (h' : SameSetup b c) : SameSetup a c :=
  ⟨h'.cfg.trans h.cfg, h'.mqttClient.trans h.mqttClient, h'.mariadbConn.trans h.mariadbConn,
    h'.notifiers.trans h.notifiers, h'.gridLostSince.trans h.gridLostSince⟩

theorem SameSetup.has {a b : Alerts} (h : SameSetup a b) (o : Outlet) : b.has o = a.has o := by
  cases o with
  | mqtt => exact h.mqttClient
  | mariadb => exact h.mariadbConn

theorem untouched_nil (a : Alerts) (name : AlertName) : Untouched a name (a, []) :=
  ⟨rfl, fun _ => rfl, fun _ => rfl, fun _ => rfl⟩

theorem Untouched.append {a b c : Alerts} {name : AlertName} {out out' : List Output}
    (h : Untouched a name (b, out)) (h' : Untouched b name (c, out')) :
    Untouched a name (c, out ++ out') where
  state := h'.state.trans h.state
  lastSent := fun ch => (h'.lastSent ch).trans (h.lastSent ch)
  published := fun o => by rw [published_append, h.published, h'.published, List.append_nil]
  deliveries := fun ch => by rw [deliveries_append, h.deliveries, h'.deliveries, List.append_nil]

theorem Judged.append {a b c : Alerts} {m : Moment} {name : AlertName} {active : Bool}
    {out out' : List Output} (h : Judged a m name active (b, out))
    (h' : Untouched b name (c, out')) : Judged a m name active (c, out ++ out') where
  state := h'.state.trans h.state
  published := fun o => by rw [published_append, h'.published, List.append_nil, h.published]
  lastSent := fun hen ch hready => (h'.lastSent ch).trans (h.lastSent hen ch hready)
  deliveries := fun hen ch hready => by
    rw [deliveries_append, h'.deliveries, List.append_nil, h.deliveries hen ch hready]

theorem Untouched.append_judged {a b c : Alerts} {m : Moment} {name : AlertName} {active : Bool}
    {out out' : List Output} (hsame : SameSetup a b) (h : Untouched a name (b, out))
    (h' : Judged b m name active (c, out')) : Judged a m name active (c, out ++ out') where
  state := h'.state
  published := fun o => by
    rw [published_append, h.published, List.nil_append, h'.published, h.state, hsame.has]
  lastSent := fun hen ch hready => by
    rw [h'.lastSent (hsame.notifiers ▸ hen) ch (hsame.notifiers ▸ hready), h.state, h.lastSent]
  deliveries := fun hen ch hready => by
    rw [deliveries_append, h.deliveries, List.nil_append,
      h'.deliveries (hsame.notifiers ▸ hen) ch (hsame.notifiers ▸ hready), h.state, h.lastSent]

section
variable (a : Alerts) (m : Moment) (name : AlertName) (v : Verdict)

theorem publishHaDiscovery_fst :
    ∃ seen, (a.publishHaDiscovery m name).1 = { a with haAnnounced := seen } := by
  unfold Alerts.publishHaDiscovery
  split
  · exact ⟨a.haAnnounced, rfl⟩
  · exact ⟨_, rfl⟩

theorem publishHaDiscovery_snd (o : Output) (ho : o ∈ (a.publishHaDiscovery m name).2) :
    ∃ topic config, o = .discovery name topic config := by
  unfold Alerts.publishHaDiscovery at ho
  split_ifs at ho
  · cases ho
  · exact ⟨_, _, List.mem_singleton.mp ho⟩
  · cases ho

theorem publish_fst : ∃ seen, (a.publish m name v).1 = { a with haAnnounced := seen } := by
  unfold Alerts.publish
  by_cases hann : (a.mqttClient && a.cfg.mqttHaDiscovery) = true
  · rw [if_pos hann]
    exact publishHaDiscovery_fst a m name
  · rw [if_neg hann]
    exact ⟨a.haAnnounced, rfl⟩

/-- The state message, the discovery and the row of one call. -/
theorem publish_snd : ∃ announced, (∀ o ∈ announced, ∃ topic config, o = Output.discovery name topic config) ∧
    (a.publish m name v).2 =
      (if a.mqttClient && m.publishes name
        then [.alertState name (alertTopic a.cfg name) (alertPayload v (m.publishTs name))] else []) ++
      announced ++
      (if a.mariadbConn && m.inserts name
        then [.alertRow name (stateStr v.active) v.value v.message] else []) := by
  have hrow : ((a.publishHaDiscovery m name).1.mariadbConn && m.inserts name) =
      (a.mariadbConn && m.inserts name) := by
    obtain ⟨seen, hseen⟩ := publishHaDiscovery_fst a m name
    rw [hseen]
  unfold Alerts.publish
  by_cases hann : (a.mqttClient && a.cfg.mqttHaDiscovery) = true
  · refine ⟨(a.publishHaDiscovery m name).2, publishHaDiscovery_snd a m name, ?_⟩
    rw [if_pos hann]
    simp only [hrow]
  · refine ⟨[], by simp, ?_⟩
    rw [if_neg hann]

theorem published_publish (o : Outlet) (name' : AlertName) :
    published o name' (a.publish m name v).2 =
      if name = name' ∧ a.has o ∧ m.accepts o name then [v.active] else [] := by
  obtain ⟨announced, hann, hout⟩ := publish_snd a m name v
  have hnone : published o name' announced = [] := by
    rw [published, List.filterMap_eq_nil_iff]
    intro x hx
    obtain ⟨topic, config, rfl⟩ := hann x hx
    rfl
  have hstate : ∀ topic ts, published o name' [.alertState name topic (alertPayload v ts)] =
      if o = .mqtt ∧ name = name' then [v.active] else [] := by
    intro topic ts
    by_cases h : o = .mqtt ∧ name = name' <;> simp [published, Output.state, h]
  have hrow : published o name' [.alertRow name (stateStr v.active) v.value v.message] =
      if o = .mariadb ∧ name = name' then [v.active] else [] := by
    by_cases h : o = .mariadb ∧ name = name' <;> simp [published, Output.state, h]
  rw [hout, published_append, published_append, hnone, List.append_nil, apply_ite (published o name'),
    apply_ite (published o name'), hstate, hrow, published_nil]
  by_cases hname : name = name'
  · cases o <;> simp [hname, Alerts.has, Moment.accepts]
  · simp [hname]

theorem notices_publish (c : Channel) : notices c (a.publish m name v).2 = [] := by
  obtain ⟨announced, hann, hout⟩ := publish_snd a m name v
  have hnone : notices c announced = [] := by
    rw [notices, List.filterMap_eq_nil_iff]
    intro x hx
    obtain ⟨topic, config, rfl⟩ := hann x hx
    rfl
  rw [hout, notices_append, notices_append, hnone, List.append_nil]
  split_ifs <;> simp [notices, Output.notice]

theorem turn_same (h : v.active = a.state name) :
    a.turn m name v = (a.remember name v.active, []) :=
  if_neg (not_not.mpr h)

theorem turn_changed (h : v.active ≠ a.state name) :
    ∃ seen, a.turn m name v =
      ({ a.remember name v.active with
          haAnnounced := seen
          notifiers := (a.notifiers.send m name v.active v.value v.message).1 },
        ((a.remember name v.active).publish m name v).2 ++
          (a.notifiers.send m name v.active v.value v.message).2) := by
  obtain ⟨seen, hseen⟩ := publish_fst (a.remember name v.active) m name v
  refine ⟨seen, ?_⟩
  unfold Alerts.turn
  dsimp only
  rw [if_pos h, hseen]
  rfl

theorem published_send (n : Notifiers) (o : Outlet) (name' : AlertName) :
    published o name' (n.send m name v.active v.value v.message).2 = [] := by
  rw [published, List.filterMap_eq_nil_iff]
  intro x hx
  obtain ⟨c, hc⟩ := send_out n m name v.active v.value v.message hx
  have hself := hc c
  cases x with
  | mail _ => rfl
  | hook _ => rfl
  | alertState _ _ _ => simp [Output.notice] at hself
  | discovery _ _ _ => simp [Output.notice] at hself
  | alertRow _ _ _ _ => simp [Output.notice] at hself

theorem deliveries_send_of_ne (n : Notifiers) (c : Channel) {name' : AlertName} (hne : name' ≠ name) :
    deliveries c name' (n.send m name v.active v.value v.message).2 = [] := by
  rw [deliveries, List.filterMap_eq_nil_iff]
  intro x hx
  obtain ⟨o, ho, hox⟩ := List.mem_filterMap.mp hx
  obtain ⟨c', hc'⟩ := send_out n m name v.active v.value v.message ho
  rw [hc' c] at hox
  split_ifs at hox
  obtain rfl := Option.some.inj hox
  exact if_neg hne.symm

/-! ## One turn and the whole loop -/

theorem turn_setup : SameSetup a (a.turn m name v).1 := by
  by_cases h : v.active = a.state name
  · rw [turn_same a m name v h]
    exact ⟨rfl, rfl, rfl, rfl, rfl⟩
  · obtain ⟨seen, hseen⟩ := turn_changed a m name v h
    rw [hseen]
    exact ⟨rfl, rfl, rfl, send_cfg a.notifiers m name v.active v.value v.message, rfl⟩

theorem turn_untouched {name' : AlertName} (hne : name' ≠ name) :
    Untouched a name' (a.turn m name v) := by
  have hstate := a.remember_of_ne v.active hne
  by_cases h : v.active = a.state name
  · rw [turn_same a m name v h]
    exact ⟨hstate, fun _ => rfl, fun _ => rfl, fun _ => rfl⟩
  · obtain ⟨seen, hseen⟩ := turn_changed a m name v h
    rw [hseen]
    exact
      { state := hstate
        lastSent := fun c => send_others a.notifiers m name v.active v.value v.message c hne
        published := fun o => by
          rw [published_append, published_publish, published_send, List.append_nil,
            if_neg fun hx => hne hx.1.symm]
        deliveries := fun c => by
          rw [deliveries_append, deliveries_of_notices name' (notices_publish _ m name v c),
            deliveries_send_of_ne m name v a.notifiers c hne, List.append_nil] }

theorem turn_judged : Judged a m name v.active (a.turn m name v) := by
  have hstate := a.remember_self name v.active
  by_cases h : v.active = a.state name
  · rw [turn_same a m name v h]
    exact
      { state := hstate
        published := fun _ => (if_neg fun hx => hx.1 h).symm
        lastSent := fun _ _ _ => (if_pos (Or.inl h)).symm
        deliveries := fun _ _ _ => (if_pos (Or.inl h)).symm }
  · obtain ⟨seen, hseen⟩ := turn_changed a m name v h
    rw [hseen]
    exact
      { state := hstate
        published := fun o => by
          rw [published_append, published_publish, published_send, List.append_nil]
          exact if_congr (and_congr_left fun _ => iff_of_true rfl h) rfl rfl
        lastSent := fun hen c hready => by
          rw [lastSent_send m name v.active v.value v.message hen hready]
          exact if_congr (or_iff_right h).symm rfl rfl
        deliveries := fun hen c hready => by
          rw [deliveries_append, deliveries_of_notices name (notices_publish _ m name v c),
            List.nil_append, deliveries, notices_send m name v.active v.value v.message hen hready]
          simp only [or_iff_right h]
          split_ifs
          · rfl
          · simp [formatNotice]
          · rfl }

end

theorem turns_setup (m : Moment) (results : List (AlertName × Verdict)) (a : Alerts) :
    SameSetup a (Alerts.turns m a results).1 := by
  induction results generalizing a with
  | nil => exact SameSetup.refl a
  | cons r results ih => exact (turn_setup a m r.1 r.2).trans (ih (a.turn m r.1 r.2).1)

theorem turns_untouched (m : Moment) {name : AlertName} {results : List (AlertName × Verdict)}
    (hnot : name ∉ results.map Prod.fst) (a : Alerts) : Untouched a name (Alerts.turns m a results) := by
  induction results generalizing a with
  | nil => exact untouched_nil a name
  | cons r results ih =>
    rw [List.map_cons, List.mem_cons, not_or] at hnot
    exact (turn_untouched a m r.1 r.2 hnot.1).append (ih hnot.2 (a.turn m r.1 r.2).1)

/-- Each alert has one turn. -/
theorem turns_judged (m : Moment) {name : AlertName} {v : Verdict} {results : List (AlertName × Verdict)}
    (hnodup : (results.map Prod.fst).Nodup) (hmem : (name, v) ∈ results) (a : Alerts) :
    Judged a m name v.active (Alerts.turns m a results) := by
  induction results generalizing a with
  | nil => cases hmem
  | cons r results ih =>
    rw [List.map_cons, List.nodup_cons] at hnodup
    rcases List.mem_cons.mp hmem with rfl | hmem
    · exact (turn_judged a m name v).append (turns_untouched m hnodup.1 (a.turn m name v).1)
    · have hne : name ≠ r.1 := by
        rintro rfl
        exact hnodup.1 (List.mem_map.mpr ⟨(r.1, v), hmem, rfl⟩)
      exact (turn_untouched a m r.1 r.2 hne).append_judged (turn_setup a m r.1 r.2)
        (ih hnodup.2 hmem (a.turn m r.1 r.2).1)

/-! ## An evaluation -/

def AlertName.all : List AlertName :=
  [.batterySocLow, .batterySocCritical, .batteryTempHigh, .inverterTempHigh, .gridLoss, .faultActive]

theorem judge_names (cfg : OutputConfig) (lostSince : Option ℚ) (now : ℚ) (decoded : Snapshot) :
    (judge cfg lostSince now decoded).map Prod.fst = AlertName.all := rfl

/-- The verdict on an alert that `evaluate` returns. -/
def Alerts.verdict (a : Alerts) (m : Moment) (decoded : Snapshot) (name : AlertName) : Option Bool :=
  ((a.evaluate m decoded).2.1.lookup name).map Active.active

/-- What got out during an evaluation. -/
def Alerts.sent (a : Alerts) (m : Moment) (decoded : Snapshot) : List Output := (a.evaluate m decoded).2.2

theorem evaluate_off {a : Alerts} (m : Moment) (decoded : Snapshot) (h : ¬ a.cfg.alertsEnabled = true) :
    a.evaluate m decoded = (a, [], []) := if_neg h

/-- An enabled evaluation has a verdict on every alert and handles it. -/
theorem evaluate_judged {a : Alerts} (m : Moment) (decoded : Snapshot) (name : AlertName)
    (h : a.cfg.alertsEnabled = true) :
    ∃ active, a.verdict m decoded name = some active ∧
      Judged a m name active ((a.evaluate m decoded).1, a.sent m decoded) := by
  have hnodup : ((judge a.cfg a.gridLostSince m.now decoded).map Prod.fst).Nodup := by
    rw [judge_names]
    decide
  obtain ⟨v, hv⟩ : ∃ v, (name, v) ∈ judge a.cfg a.gridLostSince m.now decoded := by
    have hname : name ∈ (judge a.cfg a.gridLostSince m.now decoded).map Prod.fst := by
      rw [judge_names]
      cases name <;> decide
    obtain ⟨r, hr, rfl⟩ := List.mem_map.mp hname
    exact ⟨r.2, hr⟩
  refine ⟨v.active, ?_, ?_⟩
  · obtain ⟨pre, post, hsplit⟩ := List.append_of_mem hv
    have hpre : name ∉ pre.map Prod.fst := by
      rw [hsplit, List.map_append, List.map_cons] at hnodup
      intro hmem
      exact List.disjoint_of_nodup_append hnodup hmem List.mem_cons_self
    have hlookup : (a.evaluate m decoded).2.1.lookup name = some (activeEntry m (name, v)).2 := by
      unfold Alerts.evaluate
      rw [if_pos h, List.lookup_eq_some_iff]
      refine ⟨pre.map (activeEntry m), post.map (activeEntry m), ?_, ?_⟩
      · show (judge a.cfg a.gridLostSince m.now decoded).map (activeEntry m) = _
        rw [hsplit, List.map_append, List.map_cons]
        rfl
      · intro p hp
        obtain ⟨r, hr, rfl⟩ := List.mem_map.mp hp
        exact bne_iff_ne.mpr fun heq => hpre (List.mem_map.mpr ⟨r, hr, heq.symm⟩)
    rw [Alerts.verdict, hlookup]
    rfl
  · unfold Alerts.sent Alerts.evaluate
    rw [if_pos h]
    have := turns_judged m hnodup hv
      { a with gridLostSince := gridLost (gridPresent decoded) a.gridLostSince m.now }
    exact ⟨this.state, this.published, this.lastSent, this.deliveries⟩

theorem evaluate_setup (a : Alerts) (m : Moment) (decoded : Snapshot) :
    (a.evaluate m decoded).1.cfg = a.cfg ∧ (a.evaluate m decoded).1.notifiers.cfg = a.notifiers.cfg ∧
      ∀ o, (a.evaluate m decoded).1.has o = a.has o := by
  by_cases h : a.cfg.alertsEnabled = true
  · unfold Alerts.evaluate
    rw [if_pos h]
    have hsame := turns_setup m (judge a.cfg a.gridLostSince m.now decoded)
      { a with gridLostSince := gridLost (gridPresent decoded) a.gridLostSince m.now }
    exact ⟨hsame.cfg, hsame.notifiers, hsame.has⟩
  · rw [evaluate_off m decoded h]
    exact ⟨rfl, rfl, fun _ => rfl⟩

end LuxMon
