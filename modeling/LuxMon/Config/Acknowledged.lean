import LuxMon.Config.Precedence

/-!
# Acknowledged settings

A setting is written through the API and through MQTT.  Both call `set_`, which logs a
database error and returns; then they mirror the value to the `.env` file or to the
running config, and acknowledge it.

    a statement that fails is acknowledged all the same           (failed_write_acked)
    what is acknowledged is stored ↔ the statement does not fail, or the
    message is rejected before it                                  (setting_acks_iff)
-/

namespace LuxMon

open Python

/-! ## Storing -/

/-- What becomes of a write: no connection, an error and no row, a row, or a row although the
client gets an error (the connection breaks after the statement). -/
inductive WriteOutcome
  | refused
  | failed
  | stored
  | unconfirmed
  deriving DecidableEq

def WriteOutcome.stores : WriteOutcome → Bool
  | .stored => true
  | .unconfirmed => true
  | _ => false

/-- `pymysql.connect(...)`. -/
def WriteOutcome.connect : WriteOutcome → Except PyErr Unit
  | .refused => .error .dbError
  | _ => .ok ()

/-- `INSERT ... ON DUPLICATE KEY UPDATE` in a connection. -/
def insertSetting (o : WriteOutcome) (name value : String) (rows : Rows) : Rows × Except PyErr Unit :=
  (if o.stores then Function.update rows name (some value) else rows,
    if o = .stored then .ok () else .error .dbError)

/-- `set_`: an exception is only logged. -/
def set_ (o : WriteOutcome) (name value : String) (rows : Rows) : Rows :=
  (insertSetting o name value rows).1

/-- The settings as they are kept: the rows, the text of the `.env` file and the running config
(an attribute that the config does not have is `none`). -/
structure KeptSettings where
  rows : Rows
  envFile : Option String
  config : String → Option Value

/-! ## The mirror -/

/-- The characters that end a line. -/
def isLineBreak (c : Char) : Bool := [10, 11, 12, 13, 28, 29, 30, 133, 8232, 8233].contains c.toNat

/-- `text.splitlines()`, with the line that was begun. -/
def splitlines (line : List Char) : List Char → List (List Char)
  | [] => if line.isEmpty then [] else [line]
  | '\r' :: '\n' :: cs => line :: splitlines [] cs
  | c :: cs => if isLineBreak c then line :: splitlines [] cs else splitlines (line ++ [c]) cs

/-- The new text of the `.env` file. -/
def mirrorText (var value text : String) : String :=
  let start := (var ++ "=").toList
  let entry := (var ++ "=" ++ value).toList
  let lines := splitlines [] text.toList
  let newLines := lines.map fun line => if start.isPrefixOf line then entry else line
  let found := lines.any start.isPrefixOf
  let newLines := if found then newLines else newLines ++ [entry]
  String.ofList (['\n'].intercalate newLines) ++ "\n"

/-- How reading and writing the `.env` file goes: it can be written, in an encoding with these characters;
it cannot be read; or the write fails, and it holds anything. -/
inductive FileOutcome
  | done (encodes : Char → Bool)
  | readFails
  | writeFails (left : Option String)

/-- `_sync_env_file`. -/
def syncEnvFile (io : FileOutcome) (name value : String) (envFile : Option String) : Option String :=
  match settingEnv.lookup name, envFile with
  | some (var, _), some text =>
    match io with
    -- the file is truncated when it is opened, before its new text is encoded
    | .done encodes =>
      let newText := mirrorText var value text
      some (if encodesText encodes newText then newText else "")
    | .readFails => some text
    | .writeFails left => left
  | _, _ => envFile

/-! ## The front ends -/

/-- What the client is told: the answer to the PUT request, or a publication on the ack or the
error topic. -/
inductive SettingReply
  | updated (name value : String)
  | ack (name value : String)
  | rejected (name error : String)
  | failed (name : String) (exc : PyErr)
  | raised (exc : PyErr)

/-- The reply acknowledges this value. -/
def SettingReply.Acks : SettingReply → String → String → Prop
  | .updated n v, name, value => n = name ∧ v = value
  | .ack n v, name, value => n = name ∧ v = value
  | _, _, _ => False

/-- `api_setting_put`. -/
def apiSettingPut (o : WriteOutcome) (io : FileOutcome) (name : String) (value : Json)
    (s : KeptSettings) : KeptSettings × SettingReply :=
  match o.connect with
  | .error e => (s, .raised e)
  | .ok () =>
    let strValue := if value.isNone then "" else value.toStr
    let rows := set_ o name strValue s.rows
    ({ s with rows := rows, envFile := syncEnvFile io name strValue s.envFile },
      .updated name strValue)

/-- What `SETTING_META` says of a setting: its type with what that type looks at. -/
inductive SettingType
  | number (min max : Option ℚ) (step : Option ℚ)
  | select (options : List String)
  | checkbox
  | text

/-- `CONTROLLABLE_SETTINGS` with their entries of `SETTING_META`. -/
def controllableSettings : List (String × SettingType) := [
  ("pv_max_power", .number (some 10) (some 1000000) none),
  ("grid_max_power", .number (some 10) (some 1000000) none),
  ("eps_max_power", .number (some 10) (some 1000000) none),
  ("charge_max_power", .number (some 10) (some 1000000) none),
  ("discharge_max_power", .number (some 10) (some 1000000) none),
  ("battery_capacity", .number (some (1 / 10)) (some 100000) (some (1 / 10))),
  ("battery_metric", .select ["soc", "voltage", "both"]),
  ("dashboard_refresh_sec", .number (some 1) (some 60) none),
  ("chart_default_hours", .number (some 1) (some 168) none),
  ("temperature_unit", .select ["fahrenheit", "celsius"]),
  ("alerts_enabled", .checkbox),
  ("alerts_soc_low", .number (some 0) (some 100) none),
  ("alerts_soc_critical", .number (some 0) (some 100) none),
  ("alerts_battery_temp_high", .number (some 0) (some 100) none),
  ("alerts_inverter_temp_high", .number (some 0) (some 100) none),
  ("alerts_grid_lost_threshold_sec", .number (some 0) (some 600) none),
  ("alerts_email_enabled", .checkbox),
  ("alerts_email_smtp_host", .text),
  ("alerts_email_smtp_port", .number (some 1) (some 65535) none),
  ("alerts_email_username", .text),
  ("alerts_email_password", .text),
  ("alerts_email_from", .text),
  ("alerts_email_to", .text),
  ("alerts_email_tls", .checkbox),
  ("alerts_webhook_enabled", .checkbox),
  ("alerts_webhook_url", .text)]

/-- A bound as the messages show it: the table has integers and 0.1. -/
def showBound (q : ℚ) : String := if q.den = 1 then toString q.num else (PyFloat.fin q).repr

/-- The text that the number of a text is stored as: an integer where the step is whole and it has one. -/
def numberText (raw : String) (step : Option ℚ) (value : PyFloat) : Except PyErr String := do
  if step.any fun s => s.den = 1 then
    let n ← value.toInt
    if value = .fin n then return toString n
  return value.textFrom raw

/-- `_validate_and_convert`: the value to store, or the message; an exception is not caught here. -/
def validateAndConvert (name raw : String) : SettingType → Except PyErr (Except String String)
  | .number mn mx step =>
    match floatOfString raw with
    | .error _ => .ok (.error (name ++ " must be a number"))
    | .ok value =>
      if mn.any fun mn => value.lt (.fin mn) then
        .ok (.error (name ++ " must be >= " ++ showBound (mn.getD 0)))
      else if mx.any fun mx => (PyFloat.fin mx).lt value then
        .ok (.error (name ++ " must be <= " ++ showBound (mx.getD 0)))
      else (numberText raw step value).map .ok
  | .select options =>
    if raw ∈ options then .ok (.ok raw)
    else
      let sorted := options.mergeSort fun a b => decide (a ≤ b)
      .ok (.error (name ++ " must be one of " ++ (Json.arr (sorted.map Json.str)).repr))
  | .checkbox =>
    let lower := raw.toLower
    if lower ∉ ["true", "false", "1", "0", "on", "off"] then
      .ok (.error (name ++ " must be a boolean"))
    else .ok (.ok (if lower ∈ ["true", "1", "on"] then "true" else "false"))
  | .text => .ok (.ok raw)

/-- `topic.split("/")[-1]`. -/
def lastLevel (topic : String) : String :=
  String.ofList (topic.toList.reverse.takeWhile (· ≠ '/')).reverse

/-- `setattr` on the running config, if it has the attribute. -/
def setAttr (config : String → Option Value) (name value : String) : String → Option Value :=
  if (config name).isSome then Function.update config name (some (.text value)) else config

/-- `MqttCommands._on_set` on the decoded payload.  An exception of the validation leaves it. -/
def onSet (o : WriteOutcome) (topic payload : String) (s : KeptSettings) : KeptSettings × SettingReply :=
  let name := lastLevel topic
  let raw := String.ofList (strip payload.toList)
  match controllableSettings.lookup name with
  | none => (s, .rejected name "unknown or read-only setting")
  | some type =>
    match validateAndConvert name raw type with
    | .error e => (s, .raised e)
    | .ok (.error error) => (s, .rejected name error)
    | .ok (.ok value) =>
      match o.connect with
      | .error e => (s, .failed name e)
      | .ok () =>
        let rows := set_ o name value s.rows
        ({ s with rows := rows, config := setAttr s.config name value }, .ack name value)

/-- A write of a setting, with everything around it but the database. -/
inductive SettingRequest
  | put (name : String) (value : Json) (io : FileOutcome)
  | message (topic payload : String)

def SettingRequest.handle (o : WriteOutcome) (s : KeptSettings) : SettingRequest → KeptSettings × SettingReply
  | .put name value io => apiSettingPut o io name value s
  | .message topic payload => onSet o topic payload s

/-- The setting and the value that a request asks to store; `none` for a message that is rejected. -/
def SettingRequest.asked : SettingRequest → Option (String × String)
  | .put name value _ => some (name, if value.isNone then "" else value.toStr)
  | .message topic payload => do
    let name := lastLevel topic
    let type ← controllableSettings.lookup name
    let converted ← (validateAndConvert name (String.ofList (strip payload.toList)) type).toOption
    let value ← converted.toOption
    return (name, value)

/-- Whatever was kept before: an acknowledged value is stored, the running config gets no other
value, and a write that stores nothing leaves the mirror and the running config alone. -/
structure Honest (o : WriteOutcome) (r : SettingRequest) : Prop where
  acked : ∀ s name value, (r.handle o s).2.Acks name value → (r.handle o s).1.rows name = some value
  running : ∀ s name, (r.handle o s).1.config name ≠ s.config name →
    ∃ value, (r.handle o s).1.config name = some (.text value) ∧
      (r.handle o s).1.rows name = some value
  unchanged : ∀ s, o.stores = false →
    (r.handle o s).1.envFile = s.envFile ∧ (r.handle o s).1.config = s.config

/-! ## What is acknowledged -/

theorem set_stores {o : WriteOutcome} (h : o.stores = true) (name value : String) (rows : Rows) :
    set_ o name value rows name = some value := by
  have hset : set_ o name value rows = if o.stores then Function.update rows name (some value) else rows := rfl
  rw [hset, if_pos h, Function.update_self]

theorem set_keeps {o : WriteOutcome} (h : o.stores = false) (name value : String) (rows : Rows) :
    set_ o name value rows = rows := by
  have hset : set_ o name value rows = if o.stores then Function.update rows name (some value) else rows := rfl
  rw [hset, h, if_neg Bool.false_ne_true]

theorem connect_ok {o : WriteOutcome} (h : o ≠ .refused) : o.connect = .ok () := by
  cases o with
  | refused => exact absurd rfl h
  | failed => rfl
  | stored => rfl
  | unconfirmed => rfl

/-- The attribute that `setattr` changes is the setting's own. -/
theorem setAttr_changes {config : String → Option Value} {name value n : String}
    (h : setAttr config name value n ≠ config n) :
    n = name ∧ setAttr config name value n = some (.text value) := by
  unfold setAttr at h ⊢
  split at h
  · next hhas =>
    rw [if_pos hhas]
    by_cases hn : n = name
    · exact ⟨hn, by rw [hn, Function.update_self]⟩
    · rw [Function.update_of_ne hn] at h
      exact absurd rfl h
  · exact absurd rfl h

/-- Without a connection, or with a rejected value, nothing changes and nothing is acknowledged. -/
theorem handle_without_write {o : WriteOutcome} {r : SettingRequest} (h : o = .refused ∨ r.asked = none)
    (s : KeptSettings) :
    (r.handle o s).1 = s ∧ ∀ name value, ¬ (r.handle o s).2.Acks name value := by
  cases r with
  | put name value io =>
    rcases h with rfl | hasked
    · exact ⟨rfl, fun _ _ => id⟩
    · cases hasked
  | message topic payload =>
    unfold SettingRequest.handle onSet
    unfold SettingRequest.asked at h
    dsimp only at h ⊢
    cases htype : controllableSettings.lookup (lastLevel topic) with
    | none => exact ⟨rfl, fun _ _ => id⟩
    | some type =>
      rw [htype] at h
      dsimp only
      cases hvalue : validateAndConvert (lastLevel topic) (String.ofList (strip payload.toList)) type with
      | error e => exact ⟨rfl, fun _ _ => id⟩
      | ok converted =>
        rw [Option.bind_eq_bind, Option.bind_some, hvalue] at h
        cases converted with
        | error error => exact ⟨rfl, fun _ _ => id⟩
        | ok value =>
          rcases h with rfl | hasked
          · exact ⟨rfl, fun _ _ => id⟩
          · cases hasked

/-- With a connection and an accepted value, `set_` is called and the value is acknowledged,
whatever the database made of it. -/
theorem handle_with_write {o : WriteOutcome} {r : SettingRequest} {name value : String} (ho : o ≠ .refused)
    (hasked : r.asked = some (name, value)) (s : KeptSettings) :
    (r.handle o s).1.rows = set_ o name value s.rows ∧
      (∀ n v, (r.handle o s).2.Acks n v ↔ name = n ∧ value = v) ∧
      ((r.handle o s).1.config = s.config ∨
        (r.handle o s).1.config = setAttr s.config name value) := by
  have hconnect := connect_ok ho
  cases r with
  | put n v io =>
    obtain ⟨rfl, rfl⟩ := Prod.mk.inj (Option.some.inj hasked)
    unfold SettingRequest.handle apiSettingPut
    rw [hconnect]
    exact ⟨rfl, fun _ _ => Iff.rfl, Or.inl rfl⟩
  | message topic payload =>
    unfold SettingRequest.handle onSet
    unfold SettingRequest.asked at hasked
    dsimp only at hasked ⊢
    cases htype : controllableSettings.lookup (lastLevel topic) with
    | none =>
      rw [htype] at hasked
      cases hasked
    | some type =>
      rw [htype] at hasked
      dsimp only
      cases hvalue : validateAndConvert (lastLevel topic) (String.ofList (strip payload.toList)) type with
      | error e =>
        rw [Option.bind_eq_bind, Option.bind_some, hvalue] at hasked
        cases hasked
      | ok converted =>
        rw [Option.bind_eq_bind, Option.bind_some, hvalue] at hasked
        cases converted with
        | error error => cases hasked
        | ok v =>
          obtain ⟨rfl, rfl⟩ := Prod.mk.inj (Option.some.inj hasked)
          dsimp only
          rw [hconnect]
          exact ⟨rfl, fun _ _ => Iff.rfl, Or.inr rfl⟩

/-- Storing the value is enough. -/
theorem honest_of_stores {o : WriteOutcome} (h : o.stores = true) (r : SettingRequest) : Honest o r := by
  have ho : o ≠ .refused := by
    rintro rfl
    cases h
  cases hasked : r.asked with
  | none =>
    have hnothing := handle_without_write (o := o) (Or.inr hasked)
    refine ⟨fun s n v hacks => absurd hacks ((hnothing s).2 n v), fun s n hchanged => ?_, fun s hstores => ?_⟩
    · rw [(hnothing s).1] at hchanged
      exact absurd rfl hchanged
    · rw [h] at hstores
      cases hstores
  | some asked =>
    obtain ⟨name, value⟩ := asked
    have hwrite := handle_with_write ho hasked
    refine ⟨fun s n v hacks => ?_, fun s n hchanged => ?_, fun s hstores => ?_⟩
    · obtain ⟨hrows, hack, -⟩ := hwrite s
      obtain ⟨rfl, rfl⟩ := (hack n v).mp hacks
      rw [hrows, set_stores h]
    · obtain ⟨hrows, -, hconfig | hconfig⟩ := hwrite s
      · rw [hconfig] at hchanged
        exact absurd rfl hchanged
      · rw [hconfig] at hchanged
        obtain ⟨rfl, hvalue⟩ := setAttr_changes hchanged
        exact ⟨value, by rw [hconfig, hvalue], by rw [hrows, set_stores h]⟩
    · rw [h] at hstores
      cases hstores

/-- The front ends are honest exactly if the statement does not fail, or the message is rejected
before there is one. -/
theorem setting_acks_iff (o : WriteOutcome) (r : SettingRequest) :
    Honest o r ↔ o ≠ .failed ∨ r.asked = none := by
  constructor
  · intro h
    by_contra hno
    rw [not_or, not_not] at hno
    obtain ⟨rfl, hasked⟩ := hno
    obtain ⟨⟨name, value⟩, hsome⟩ := Option.ne_none_iff_exists'.mp hasked
    let s : KeptSettings := ⟨fun _ => none, none, fun _ => none⟩
    obtain ⟨hrows, hack, -⟩ := handle_with_write (o := .failed) (by decide) hsome s
    have hstored := h.acked s name value ((hack name value).mpr ⟨rfl, rfl⟩)
    rw [hrows, set_keeps rfl] at hstored
    cases hstored
  · intro h
    by_cases hstores : o.stores = true
    · exact honest_of_stores hstores r
    · have hwithout : o = .refused ∨ r.asked = none := by
        rcases h with ho | hasked
        · cases o with
          | refused => exact Or.inl rfl
          | failed => exact absurd rfl ho
          | stored => exact absurd rfl hstores
          | unconfirmed => exact absurd rfl hstores
        · exact Or.inr hasked
      have hnothing := handle_without_write hwithout
      refine ⟨fun s n v hacks => absurd hacks ((hnothing s).2 n v), fun s n hchanged => ?_, fun s _ => ?_⟩
      · rw [(hnothing s).1] at hchanged
        exact absurd rfl hchanged
      · rw [(hnothing s).1]
        exact ⟨rfl, rfl⟩

/-- The table is locked: the row keeps its value, the answer says `updated`, and the `.env` file
gets the value that the database does not have. -/
theorem locked_table_acked :
    ∃ s s' : KeptSettings,
      apiSettingPut .failed (.done fun _ => true) "mqtt_host" (.str "10.0.0.9") s = (s', .updated "mqtt_host" "10.0.0.9") ∧
        s.rows "mqtt_host" = some "10.0.0.7" ∧ s'.rows "mqtt_host" = some "10.0.0.7" ∧
        s.envFile = some "LUX_MQTT_HOST=10.0.0.7\n" ∧
        s'.envFile = some "LUX_MQTT_HOST=10.0.0.9\n" ∧
        ¬ Honest .failed (.put "mqtt_host" (.str "10.0.0.9") (.done fun _ => true)) := by
  refine ⟨⟨fun _ => some "10.0.0.7", some "LUX_MQTT_HOST=10.0.0.7\n", fun _ => none⟩, _, rfl, rfl, rfl, rfl,
    by decide +kernel, fun h => ?_⟩
  have hacked := h.acked ⟨fun _ => some "10.0.0.7", none, fun _ => none⟩ "mqtt_host" "10.0.0.9" ⟨rfl, rfl⟩
  have hrow : (some "10.0.0.7" : Option String) = some "10.0.0.9" := hacked
  exact absurd hrow (by decide)

end LuxMon
