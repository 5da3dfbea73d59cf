import LuxMon.Python.Json

/-!
# Alert notifications

`OutputConfig` as far as the alerts read it, and `Notifiers.send`: a transition of
an alert goes to e-mail and to a webhook, each behind the throttle `_rate_ok`.  The
clock and the fate of each delivery come with the moment of the evaluation.

    a channel that is ready delivers a notice exactly when the throttle is open and
      the delivery does not fail                               (notices_send)
    and then its throttle closes, whatever became of the delivery (lastSent_send)
-/

namespace LuxMon

open Python

/-! ## Configuration -/

/-- The fields of `OutputConfig` that alerts read. -/
structure OutputConfig where
  mariadbEnabled : Bool := true
  mariadbHost : String := "localhost"
  mariadbPort : ℤ := 3306
  mariadbUser : String := "luxmon"
  mariadbPassword : String := "luxmon"
  mariadbDatabase : String := "luxmon"
  mqttEnabled : Bool := false
  mqttHost : String := "localhost"
  mqttPort : ℤ := 1883
  mqttUsername : String := ""
  mqttPassword : String := ""
  mqttTopicPrefix : String := "luxmon"
  mqttHaDiscovery : Bool := true
  mqttHaPrefix : String := "homeassistant"
  mqttDeviceName : String := "luxmon"
  mqttDeviceId : String := "luxmon_solar"
  alertsEnabled : Bool := false
  alertsSocLow : PyFloat := .fin 20
  alertsSocCritical : PyFloat := .fin 10
  alertsBatteryTempHigh : PyFloat := .fin 50
  alertsInverterTempHigh : PyFloat := .fin 60
  alertsGridLostThresholdSec : PyFloat := .fin 30
  alertsEmailEnabled : Bool := false
  alertsEmailSmtpHost : String := ""
  alertsEmailSmtpPort : ℤ := 587
  alertsEmailUsername : String := ""
  alertsEmailPassword : String := ""
  alertsEmailFrom : String := ""
  alertsEmailTo : String := ""
  alertsEmailTls : Bool := true
  alertsWebhookEnabled : Bool := false
  alertsWebhookUrl : String := ""

/-- `text or default`. -/
def orText (text default : String) : String := if text = "" then default else text

/-- The alerts, in the order of `results`. -/
inductive AlertName
  | batterySocLow
  | batterySocCritical
  | batteryTempHigh
  | inverterTempHigh
  | gridLoss
  | faultActive
  deriving DecidableEq

def AlertName.text : AlertName → String
  | .batterySocLow => "battery_soc_low"
  | .batterySocCritical => "battery_soc_critical"
  | .batteryTempHigh => "battery_temp_high"
  | .inverterTempHigh => "inverter_temp_high"
  | .gridLoss => "grid_loss"
  | .faultActive => "fault_active"

/-- `str.title()`: a capital after every character that is no letter. -/
def titleChars : Bool → List Char → List Char
  | _, [] => []
  | first, c :: cs => (if first then c.toUpper else c.toLower) :: titleChars (!c.isAlpha) cs

/-- `name.replace("_", " ").title()`. -/
def AlertName.title (name : AlertName) : String :=
  String.ofList (titleChars true (name.text.toList.map fun c => if c = '_' then ' ' else c))

/-! ## The moment of an evaluation -/

inductive Channel
  | email
  | webhook
  deriving DecidableEq

/-- What an evaluation meets outside: the clock, and the fate of each call it may make. -/
structure Moment where
  now : ℚ
  /-- `time.time()` in `_rate_ok`. -/
  clock : Channel → AlertName → ℚ
  /-- `time.strftime` of `since`, of the MQTT payload, of the notice and of the webhook payload. -/
  since : AlertName → String
  publishTs : AlertName → String
  noticeTime : AlertName → String
  webhookTs : AlertName → String
  publishes : AlertName → Bool
  announces : AlertName → Bool
  inserts : AlertName → Bool
  /-- The delivery on a channel does not fail. -/
  delivers : Channel → AlertName → Bool

/-! ## Notices -/

/-- What `_format` puts into the subject and the body. -/
structure Notice where
  name : AlertName
  active : Bool
  value : PyFloat
  message : String
  time : String

def Notice.stateStr (n : Notice) : String := if n.active then "ACTIVE" else "CLEARED"

def Notice.subject (n : Notice) : String := "[lux-mon] " ++ n.name.title ++ " " ++ n.stateStr

def Notice.body (n : Notice) : String :=
  "lux-mon alert notification\n" ++
  "-------------------------\n" ++
  "Alert:    " ++ n.name.text ++ "\n" ++
  "State:    " ++ n.stateStr ++ "\n" ++
  "Value:    " ++ n.value.repr ++ "\n" ++
  "Message:  " ++ n.message ++ "\n" ++
  "Time:     " ++ n.time ++ "\n"

structure Mail where
  host : String
  port : ℤ
  /-- `SMTP` and `starttls`, or else `SMTP_SSL`. -/
  starttls : Bool
  username : String
  password : String
  fromAddr : String
  recipients : List String
  notice : Notice

structure Hook where
  url : String
  ts : String
  notice : Notice

def Hook.payload (h : Hook) : Json := .obj [
  ("alert", .str h.notice.name.text),
  ("active", .bool h.notice.active),
  ("state", .str (if h.notice.active then "ON" else "OFF")),
  ("value", .float h.notice.value),
  ("message", .str h.notice.message),
  ("subject", .str h.notice.subject),
  ("body", .str h.notice.body),
  ("ts", .str h.ts)]

/-- What an evaluation gets across to the outside. -/
inductive Output
  | alertState (name : AlertName) (topic : String) (payload : Json)
  | discovery (name : AlertName) (topic : String) (config : Json)
  | alertRow (name : AlertName) (state : String) (value : PyFloat) (message : String)
  | mail (m : Mail)
  | hook (h : Hook)

/-- The notices that a channel delivered. -/
def Output.notice (c : Channel) : Output → Option Notice
  | .mail m => if c = .email then some m.notice else none
  | .hook h => if c = .webhook then some h.notice else none
  | _ => none

def notices (c : Channel) (out : List Output) : List Notice := out.filterMap (Output.notice c)

@[simp] theorem notices_nil (c : Channel) : notices c [] = [] := rfl

@[simp] theorem notices_append (c : Channel) (out out' : List Output) :
    notices c (out ++ out') = notices c out ++ notices c out' := List.filterMap_append

/-! ## Sending -/

structure Notifiers where
  cfg : OutputConfig
  lastSent : Channel → AlertName → ℚ := fun _ _ => 0

def minIntervalSec : ℚ := 300

/-- `self._last_sent[name] = now`; the names are of the form `email:<alert>` and `webhook:<alert>`. -/
def Notifiers.stamp (n : Notifiers) (c : Channel) (name : AlertName) (now : ℚ) : Notifiers :=
  { n with lastSent := fun c' name' => if c' = c ∧ name' = name then now else n.lastSent c' name' }

/-- `_rate_ok`: an attempt counts when it is let through, not when it is delivered. -/
def Notifiers.rateOk (n : Notifiers) (c : Channel) (name : AlertName) (now : ℚ) : Bool × Notifiers :=
  if now - n.lastSent c name < minIntervalSec then (false, n) else (true, n.stamp c name now)

/-- `[a.strip() for a in re.split(r"[,;]", to_addrs) if a.strip()]`. -/
def recipients (toAddrs : String) : List String :=
  (((toAddrs.toList.splitOnP fun c => c = ',' ∨ c = ';').map strip).filter fun a => !a.isEmpty).map
    String.ofList

/-- The message of `_send_email` and the server it goes to; `_cfg_int` takes the default for 0. -/
def mailFor (cfg : OutputConfig) (notice : Notice) : Mail :=
  let port := if cfg.alertsEmailSmtpPort = 0 then 587 else cfg.alertsEmailSmtpPort
  { host := cfg.alertsEmailSmtpHost
    port := port
    starttls := cfg.alertsEmailTls && port != 465
    username := cfg.alertsEmailUsername
    password := cfg.alertsEmailPassword
    fromAddr := cfg.alertsEmailFrom
    recipients := recipients cfg.alertsEmailTo
    notice := notice }

def Notifiers.sendEmail (n : Notifiers) (m : Moment) (notice : Notice) : Notifiers × List Output :=
  if n.cfg.alertsEmailSmtpHost = "" ∨ n.cfg.alertsEmailUsername = "" ∨ n.cfg.alertsEmailPassword = "" ∨
      n.cfg.alertsEmailFrom = "" ∨ n.cfg.alertsEmailTo = "" then (n, [])
  else
    match n.rateOk .email notice.name (m.clock .email notice.name) with
    | (false, n') => (n', [])
    | (true, n') =>
      if recipients n.cfg.alertsEmailTo = [] then (n', [])
      else if m.delivers .email notice.name then (n', [.mail (mailFor n.cfg notice)])
      else (n', [])

def Notifiers.sendWebhook (n : Notifiers) (m : Moment) (notice : Notice) : Notifiers × List Output :=
  if n.cfg.alertsWebhookUrl = "" then (n, [])
  else
    match n.rateOk .webhook notice.name (m.clock .webhook notice.name) with
    | (false, n') => (n', [])
    | (true, n') =>
      if m.delivers .webhook notice.name then
        (n', [.hook { url := n.cfg.alertsWebhookUrl, ts := m.webhookTs notice.name, notice := notice }])
      else (n', [])

/-- `_format`. -/
def formatNotice (m : Moment) (name : AlertName) (active : Bool) (value : PyFloat) (message : String) :
    Notice :=
  { name := name, active := active, value := value, message := message, time := m.noticeTime name }

/-- `send`; what a channel raises is logged. -/
def Notifiers.send (n : Notifiers) (m : Moment) (name : AlertName) (active : Bool) (value : PyFloat)
    (message : String) : Notifiers × List Output :=
  if n.cfg.alertsEnabled then
    let notice := formatNotice m name active value message
    let (n, mails) := if n.cfg.alertsEmailEnabled then n.sendEmail m notice else (n, [])
    let (n, hooks) := if n.cfg.alertsWebhookEnabled then n.sendWebhook m notice else (n, [])
    (n, mails ++ hooks)
  else (n, [])

/-! ## One channel -/

/-- The channel is enabled and configured. -/
def OutputConfig.Ready (cfg : OutputConfig) : Channel → Prop
  | .email => cfg.alertsEmailEnabled = true ∧ cfg.alertsEmailSmtpHost ≠ "" ∧
      cfg.alertsEmailUsername ≠ "" ∧ cfg.alertsEmailPassword ≠ "" ∧ cfg.alertsEmailFrom ≠ "" ∧
      cfg.alertsEmailTo ≠ "" ∧ recipients cfg.alertsEmailTo ≠ []
  | .webhook => cfg.alertsWebhookEnabled = true ∧ cfg.alertsWebhookUrl ≠ ""

/-- The throttle lets an attempt through. -/
def Notifiers.Open (n : Notifiers) (m : Moment) (c : Channel) (name : AlertName) : Prop :=
  ¬ m.clock c name - n.lastSent c name < minIntervalSec

/-- All that the turn of channel `c` can do. -/
structure ChannelTurn (n : Notifiers) (c : Channel) (notice : Notice) (r : Notifiers × List Output) : Prop where
  cfg : r.1.cfg = n.cfg
  others : ∀ c' name, ¬ (c' = c ∧ name = notice.name) → r.1.lastSent c' name = n.lastSent c' name
  out : ∀ o ∈ r.2, ∀ c', o.notice c' = if c' = c then some notice else none

theorem ChannelTurn.silent {n : Notifiers} {c : Channel} {notice : Notice} {r : Notifiers × List Output}
    (h : ChannelTurn n c notice r) (c' : Channel) (hc : c' ≠ c) : notices c' r.2 = [] := by
  rw [notices, List.filterMap_eq_nil_iff]
  intro o ho
  rw [h.out o ho c', if_neg hc]

/-- All that a ready channel does with its turn. -/
structure ReadyTurn (n : Notifiers) (m : Moment) (c : Channel) (notice : Notice)
    (r : Notifiers × List Output) : Prop where
  lastSent : r.1.lastSent c notice.name =
    if m.clock c notice.name - n.lastSent c notice.name < minIntervalSec
    then n.lastSent c notice.name else m.clock c notice.name
  notices : notices c r.2 =
    if m.clock c notice.name - n.lastSent c notice.name < minIntervalSec then []
    else if m.delivers c notice.name then [notice] else []

theorem turn_skip (n : Notifiers) (c : Channel) (notice : Notice) : ChannelTurn n c notice (n, []) where
  cfg := rfl
  others := fun _ _ _ => rfl
  out := fun _ ho => absurd ho (by simp)

theorem turn_stamp (n : Notifiers) (c : Channel) (notice : Notice) (now : ℚ) {out : List Output}
    (hout : ∀ o ∈ out, ∀ c', o.notice c' = if c' = c then some notice else none) :
    ChannelTurn n c notice (n.stamp c notice.name now, out) where
  cfg := rfl
  others := fun _ _ hne => if_neg hne
  out := hout

theorem Notifiers.rateOk_of_open {n : Notifiers} {m : Moment} {c : Channel} {name : AlertName}
    (h : n.Open m c name) : n.rateOk c name (m.clock c name) = (true, n.stamp c name (m.clock c name)) :=
  if_neg h

theorem Notifiers.rateOk_of_not_open {n : Notifiers} {m : Moment} {c : Channel} {name : AlertName}
    (h : ¬ n.Open m c name) : n.rateOk c name (m.clock c name) = (false, n) :=
  if_pos (not_not.mp h)

theorem sendEmail_turn (n : Notifiers) (m : Moment) (notice : Notice) :
    ChannelTurn n .email notice (n.sendEmail m notice) := by
  unfold Notifiers.sendEmail
  split
  · exact turn_skip n .email notice
  · by_cases hopen : n.Open m .email notice.name
    · rw [Notifiers.rateOk_of_open hopen]
      dsimp only
      split_ifs
      · exact turn_stamp n .email notice _ (by simp)
      · exact turn_stamp n .email notice _ (by simp [Output.notice, mailFor])
      · exact turn_stamp n .email notice _ (by simp)
    · rw [Notifiers.rateOk_of_not_open hopen]
      exact turn_skip n .email notice

theorem sendWebhook_turn (n : Notifiers) (m : Moment) (notice : Notice) :
    ChannelTurn n .webhook notice (n.sendWebhook m notice) := by
  unfold Notifiers.sendWebhook
  split
  · exact turn_skip n .webhook notice
  · by_cases hopen : n.Open m .webhook notice.name
    · rw [Notifiers.rateOk_of_open hopen]
      dsimp only
      split_ifs
      · exact turn_stamp n .webhook notice _ (by simp [Output.notice])
      · exact turn_stamp n .webhook notice _ (by simp)
    · rw [Notifiers.rateOk_of_not_open hopen]
      exact turn_skip n .webhook notice

theorem readyTurn_closed {n : Notifiers} {m : Moment} {c : Channel} {notice : Notice}
    (h : ¬ n.Open m c notice.name) : ReadyTurn n m c notice (n, []) where
  lastSent := (if_pos (not_not.mp h)).symm
  notices := (if_pos (not_not.mp h)).symm

theorem readyTurn_open {n : Notifiers} {m : Moment} {c : Channel} {notice : Notice} {out : List Output}
    (h : n.Open m c notice.name)
    (hout : notices c out = if m.delivers c notice.name then [notice] else []) :
    ReadyTurn n m c notice (n.stamp c notice.name (m.clock c notice.name), out) where
  lastSent := (if_pos ⟨rfl, rfl⟩).trans (if_neg h).symm
  notices := hout.trans (if_neg h).symm

theorem sendEmail_ready (n : Notifiers) (m : Moment) (notice : Notice) (h : n.cfg.Ready .email) :
    ReadyTurn n m .email notice (n.sendEmail m notice) := by
  obtain ⟨-, hhost, huser, hpass, hfrom, hto, hrec⟩ := h
  unfold Notifiers.sendEmail
  rw [if_neg (by simp [hhost, huser, hpass, hfrom, hto])]
  by_cases hopen : n.Open m .email notice.name
  · rw [Notifiers.rateOk_of_open hopen]
    dsimp only
    rw [if_neg hrec]
    split_ifs with hok
    · exact readyTurn_open hopen (if_pos hok).symm
    · exact readyTurn_open hopen (if_neg hok).symm
  · rw [Notifiers.rateOk_of_not_open hopen]
    exact readyTurn_closed hopen

theorem sendWebhook_ready (n : Notifiers) (m : Moment) (notice : Notice) (h : n.cfg.Ready .webhook) :
    ReadyTurn n m .webhook notice (n.sendWebhook m notice) := by
  unfold Notifiers.sendWebhook
  rw [if_neg h.2]
  by_cases hopen : n.Open m .webhook notice.name
  · rw [Notifiers.rateOk_of_open hopen]
    dsimp only
    split_ifs with hok
    · exact readyTurn_open hopen (if_pos hok).symm
    · exact readyTurn_open hopen (if_neg hok).symm
  · rw [Notifiers.rateOk_of_not_open hopen]
    exact readyTurn_closed hopen

/-! ## Both channels -/

/-- The turn of one channel in `send`. -/
def Notifiers.turn (n : Notifiers) (m : Moment) (notice : Notice) : Channel → Notifiers × List Output
  | .email => if n.cfg.alertsEmailEnabled then n.sendEmail m notice else (n, [])
  | .webhook => if n.cfg.alertsWebhookEnabled then n.sendWebhook m notice else (n, [])

theorem turn_spec (n : Notifiers) (m : Moment) (notice : Notice) (c : Channel) :
    ChannelTurn n c notice (n.turn m notice c) := by
  cases c with
  | email =>
    show ChannelTurn n .email notice (if n.cfg.alertsEmailEnabled then n.sendEmail m notice else (n, []))
    split
    · exact sendEmail_turn n m notice
    · exact turn_skip n .email notice
  | webhook =>
    show ChannelTurn n .webhook notice (if n.cfg.alertsWebhookEnabled then n.sendWebhook m notice else (n, []))
    split
    · exact sendWebhook_turn n m notice
    · exact turn_skip n .webhook notice

theorem turn_ready (n : Notifiers) (m : Moment) (notice : Notice) (c : Channel) (h : n.cfg.Ready c) :
    ReadyTurn n m c notice (n.turn m notice c) := by
  cases c with
  | email =>
    unfold Notifiers.turn
    rw [if_pos h.1]
    exact sendEmail_ready n m notice h
  | webhook =>
    unfold Notifiers.turn
    rw [if_pos h.1]
    exact sendWebhook_ready n m notice h

theorem send_eq (n : Notifiers) (m : Moment) (name : AlertName) (active : Bool) (value : PyFloat)
    (message : String) (h : n.cfg.alertsEnabled = true) :
    n.send m name active value message =
      let first := n.turn m (formatNotice m name active value message) .email
      let second := first.1.turn m (formatNotice m name active value message) .webhook
      (second.1, first.2 ++ second.2) := by
  unfold Notifiers.send
  rw [if_pos h]
  rfl

section
variable (n : Notifiers) (m : Moment) (name : AlertName) (active : Bool) (value : PyFloat)
  (message : String)

theorem send_cfg : (n.send m name active value message).1.cfg = n.cfg := by
  by_cases h : n.cfg.alertsEnabled = true
  · rw [send_eq n m name active value message h]
    exact (turn_spec _ m _ .webhook).cfg.trans (turn_spec n m _ .email).cfg
  · unfold Notifiers.send
    rw [if_neg h]

/-- Other alerts keep their throttles. -/
theorem send_others (c : Channel) {name' : AlertName} (hne : name' ≠ name) :
    (n.send m name active value message).1.lastSent c name' = n.lastSent c name' := by
  by_cases h : n.cfg.alertsEnabled = true
  · rw [send_eq n m name active value message h]
    exact ((turn_spec _ m _ .webhook).others c name' fun hx => hne hx.2).trans
      ((turn_spec n m _ .email).others c name' fun hx => hne hx.2)
  · unfold Notifiers.send
    rw [if_neg h]

/-- Each thing that `send` gets out is a notice about its alert on one of the channels. -/
theorem send_out {o : Output} (ho : o ∈ (n.send m name active value message).2) :
    ∃ c, ∀ c', o.notice c' = if c' = c then some (formatNotice m name active value message) else none := by
  by_cases h : n.cfg.alertsEnabled = true
  · rw [send_eq n m name active value message h] at ho
    rcases List.mem_append.mp ho with ho | ho
    · exact ⟨.email, (turn_spec n m _ .email).out o ho⟩
    · exact ⟨.webhook, (turn_spec _ m _ .webhook).out o ho⟩
  · unfold Notifiers.send at ho
    rw [if_neg h] at ho
    cases ho

variable {n} (hen : n.cfg.alertsEnabled = true) {c : Channel} (hready : n.cfg.Ready c)

include hen hready

theorem lastSent_send :
    (n.send m name active value message).1.lastSent c name =
      if m.clock c name - n.lastSent c name < minIntervalSec then n.lastSent c name
      else m.clock c name := by
  rw [send_eq n m name active value message hen]
  dsimp only
  cases c with
  | email =>
    rw [(turn_spec _ m _ .webhook).others .email name fun hx => absurd hx.1 (by decide)]
    exact (turn_ready n m (formatNotice m name active value message) .email hready).lastSent
  | webhook =>
    have hfirst := turn_spec n m (formatNotice m name active value message) .email
    have hsecond := (turn_ready _ m (formatNotice m name active value message) .webhook
      (hfirst.cfg.symm ▸ hready)).lastSent
    rw [hfirst.others .webhook _ fun hx => absurd hx.1 (by decide)] at hsecond
    exact hsecond

theorem notices_send :
    notices c (n.send m name active value message).2 =
      if m.clock c name - n.lastSent c name < minIntervalSec then []
      else if m.delivers c name then [formatNotice m name active value message] else [] := by
  rw [send_eq n m name active value message hen]
  dsimp only
  rw [notices_append]
  cases c with
  | email =>
    rw [(turn_spec _ m _ .webhook).silent .email (by decide), List.append_nil]
    exact (turn_ready n m (formatNotice m name active value message) .email hready).notices
  | webhook =>
    have hfirst := turn_spec n m (formatNotice m name active value message) .email
    have hsecond := (turn_ready _ m (formatNotice m name active value message) .webhook
      (hfirst.cfg.symm ▸ hready)).notices
    rw [hfirst.others .webhook _ fun hx => absurd hx.1 (by decide)] at hsecond
    rw [hfirst.silent .webhook (by decide), List.nil_append]
    exact hsecond

end

end LuxMon
