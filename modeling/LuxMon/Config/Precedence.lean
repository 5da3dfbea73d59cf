import LuxMon.Config.Settings
import LuxMon.Api.Holding

/-!
# Precedence of settings

`seed_from_env` copies the environment into missing and empty rows, then the loads
take each field from its row.  `settings.get` answers a missing row and a failed
query with the hard-coded default, which a load cannot tell from a stored value.

    every loaded field has its stored value if that was read, else the value it
      had ↔ no default that differs stands in for a value      (settings_precedence_iff)
-/

namespace LuxMon

open Python

/-! ## Seeding -/

/-- `os.environ`. -/
abbrev Environ := String → Option String

/-- `SETTING_ENV`: the variable of each setting, and the type it is cast to. -/
def settingEnv : List (String × String × Cast) := [
  ("inverter_model", "LUX_INVERTER_MODEL", .text),
  ("dongle_host", "LUX_DONGLE_HOST", .text),
  ("dongle_port", "LUX_DONGLE_PORT", .int),
  ("datalog_serial", "LUX_DATALOG_SERIAL", .text),
  ("inverter_serial", "LUX_INVERTER_SERIAL", .text),
  ("write_interval_sec", "LUX_WRITE_INTERVAL", .int),
  ("transport", "LUX_TRANSPORT", .text),
  ("influx_enabled", "LUX_INFLUX_ENABLED", .bool),
  ("influx_url", "LUX_INFLUX_URL", .text),
  ("influx_database", "LUX_INFLUX_DATABASE", .text),
  ("influx_token", "LUX_INFLUX_TOKEN", .text),
  ("influx_org", "LUX_INFLUX_ORG", .text),
  ("influx_username", "LUX_INFLUX_USERNAME", .text),
  ("influx_password", "LUX_INFLUX_PASSWORD", .text),
  ("mqtt_enabled", "LUX_MQTT_ENABLED", .bool),
  ("mqtt_host", "LUX_MQTT_HOST", .text),
  ("mqtt_port", "LUX_MQTT_PORT", .int),
  ("mqtt_username", "LUX_MQTT_USERNAME", .text),
  ("mqtt_password", "LUX_MQTT_PASSWORD", .text),
  ("mqtt_topic_prefix", "LUX_MQTT_TOPIC_PREFIX", .text),
  ("mqtt_ha_discovery", "LUX_MQTT_HA_DISCOVERY", .bool),
  ("mqtt_device_name", "LUX_MQTT_DEVICE_NAME", .text),
  ("mqtt_device_id", "LUX_MQTT_DEVICE_ID", .text),
  ("temperature_unit", "LUX_TEMPERATURE_UNIT", .text),
  ("alerts_enabled", "LUX_ALERTS_ENABLED", .bool),
  ("alerts_soc_low", "LUX_ALERTS_SOC_LOW", .float),
  ("alerts_soc_critical", "LUX_ALERTS_SOC_CRITICAL", .float),
  ("alerts_battery_temp_high", "LUX_ALERTS_BATTERY_TEMP_HIGH", .float),
  ("alerts_inverter_temp_high", "LUX_ALERTS_INVERTER_TEMP_HIGH", .float),
  ("alerts_grid_lost_threshold_sec", "LUX_ALERTS_GRID_LOST_THRESHOLD_SEC", .float),
  ("alerts_email_enabled", "LUX_ALERTS_EMAIL_ENABLED", .bool),
  ("alerts_email_smtp_host", "LUX_ALERTS_EMAIL_SMTP_HOST", .text),
  ("alerts_email_smtp_port", "LUX_ALERTS_EMAIL_SMTP_PORT", .int),
  ("alerts_email_username", "LUX_ALERTS_EMAIL_USERNAME", .text),
  ("alerts_email_password", "LUX_ALERTS_EMAIL_PASSWORD", .text),
  ("alerts_email_from", "LUX_ALERTS_EMAIL_FROM", .text),
  ("alerts_email_to", "LUX_ALERTS_EMAIL_TO", .text),
  ("alerts_email_tls", "LUX_ALERTS_EMAIL_TLS", .bool),
  ("alerts_webhook_enabled", "LUX_ALERTS_WEBHOOK_ENABLED", .bool),
  ("alerts_webhook_url", "LUX_ALERTS_WEBHOOK_URL", .text)]

/-- One connection, and which of its statements (one for each setting) succeed. -/
structure Session where
  connects : Bool
  queries : String → Bool

/-- The INSERT of `seed_from_env` for one setting: only a missing or empty row changes. -/
def seedRow (rows : Rows) (name raw : String) : Rows :=
  if (rows name).getD "" = "" then Function.update rows name (some raw) else rows

/-- `seed_from_env`; a statement that fails ends the loop. -/
def seedFromEnv (env : Environ) (queries : String → Bool) : List (String × String × Cast) → Rows → Rows
  | [], rows => rows
  | (name, var, _) :: table, rows =>
    match nonEmpty (env var) with
    | none => seedFromEnv env queries table rows
    | some raw => if queries name then seedFromEnv env queries table (seedRow rows name raw) else rows

/-- `_seed_db_from_env`. -/
def seedDbFromEnv (env : Environ) (s : Session) (rows : Rows) : Rows :=
  if s.connects then seedFromEnv env s.queries settingEnv rows else rows

/-! ## Startups and reloads -/

/-- The load functions of a start or a reload; only a start seeds first. -/
structure Loading where
  seed : Option Session
  serials : Session
  outputs : Session
  core : Session

/-- The rows that the loads find. -/
def Loading.rows (l : Loading) (env : Environ) (rows : Rows) : Rows :=
  match l.seed with
  | none => rows
  | some s => seedDbFromEnv env s rows

/-- A load that finds these rows at each of its queries. -/
def Session.load (s : Session) (rows : Rows) : Load := ⟨s.connects, fun _ => rows, s.queries⟩

/-- `_load_db_serials`, `_load_db_output_settings` and `_load_db_core_settings`, after the seeding. -/
def Loading.run (l : Loading) (env : Environ) (rows : Rows) (cfg : Config) : Config :=
  loadDbCoreSettings (l.core.load (l.rows env rows)) (loadDbOutputSettings (l.outputs.load (l.rows env rows))
    (loadDbSerials (l.serials.load (l.rows env rows)) cfg))

/-- The session that reads a setting. -/
def Loading.session (l : Loading) (key : String) : Session :=
  if key ∈ serialKeys.map Prod.fst then l.serials
  else if key ∈ outputKeys.map Prod.fst then l.outputs else l.core

/-- The row of a setting, if it was read. -/
def Loading.read (l : Loading) (env : Environ) (rows : Rows) (key : String) : Option String :=
  if (l.session key).connects && (l.session key).queries key then l.rows env rows key else none

/-- What a field should become: the value of a row that was read, is not empty and can be
converted, else the value it had. -/
def preferred (cast : Cast) (row : Option String) (before : Value) : Value :=
  ((nonEmpty row).bind cast.apply).getD before

/-- The hard-coded default stands in for the row of a setting: the load is connected, and the row is
missing or its query fails. -/
def Loading.defaulted (l : Loading) (env : Environ) (rows : Rows) (key : String) : Bool :=
  (l.session key).connects && (l.read env rows key).isNone

/-! ## What the loads apply -/

theorem override_eq_preferred (cast : Cast) (row : Option String) (before : Value) :
    override cast row before = preferred cast row before := by
  unfold override preferred nonEmpty
  cases row with
  | none => rfl
  | some s =>
    by_cases hs : s = ""
    · rw [hs]
      rfl
    · simp [Option.filter, hs]

section
variable {l : Load} {keys : List (String × Cast)}

theorem load_of_mem (hnodup : (keys.map Prod.fst).Nodup) {key : String} {cast : Cast}
    (h : (key, cast) ∈ keys) (cfg : Config) :
    (if l.connects then loadKeys l.get keys cfg else cfg) key =
      if l.connects then preferred cast (l.get key) (cfg key) else cfg key := by
  split
  · rw [loadKeys_of_mem l.get hnodup h, override_eq_preferred]
  · rfl

theorem load_of_not_mem {key : String} (h : key ∉ keys.map Prod.fst) (cfg : Config) :
    (if l.connects then loadKeys l.get keys cfg else cfg) key = cfg key := by
  split
  · exact loadKeys_of_not_mem l.get h cfg
  · rfl

end

/-- Every field is loaded once, by the session of its setting. -/
theorem loading_run (l : Loading) (env : Environ) (rows : Rows) (cfg : Config) {key : String}
    {cast : Cast} (h : (key, cast) ∈ loadedKeys) :
    l.run env rows cfg key =
      if (l.session key).connects then
        preferred cast (((l.session key).load (l.rows env rows)).get key) (cfg key)
      else cfg key := by
  have hnodup := loadedKeys_nodup
  unfold loadedKeys at hnodup h
  rw [List.map_append, List.map_append, List.nodup_append, List.nodup_append] at hnodup
  obtain ⟨⟨hs, ho, hso⟩, hc, hsoc⟩ := hnodup
  have hkey : ∀ {keys : List (String × Cast)}, (key, cast) ∈ keys → key ∈ keys.map Prod.fst :=
    fun h => List.mem_map.mpr ⟨_, h, rfl⟩
  unfold Loading.run Loading.session loadDbCoreSettings loadDbOutputSettings loadDbSerials
  rcases List.mem_append.mp h with h | h
  · have hnc : key ∉ coreKeys.map Prod.fst := fun hx => hsoc key (List.mem_append.mpr (by
      rcases List.mem_append.mp h with h | h
      · exact Or.inl (hkey h)
      · exact Or.inr (hkey h))) key hx rfl
    rw [load_of_not_mem hnc]
    rcases List.mem_append.mp h with h | h
    · have hno : key ∉ outputKeys.map Prod.fst := fun hx => hso key (hkey h) key hx rfl
      rw [load_of_not_mem hno, load_of_mem hs h, if_pos (hkey h)]
      rfl
    · have hns : key ∉ serialKeys.map Prod.fst := fun hx => hso key hx key (hkey h) rfl
      rw [load_of_mem ho h, load_of_not_mem hns, if_neg hns, if_pos (hkey h)]
      rfl
  · have hns : key ∉ serialKeys.map Prod.fst := fun hx =>
      hsoc key (List.mem_append_left _ hx) key (hkey h) rfl
    have hno : key ∉ outputKeys.map Prod.fst := fun hx =>
      hsoc key (List.mem_append_right _ hx) key (hkey h) rfl
    rw [load_of_mem hc h, load_of_not_mem hno, load_of_not_mem hns, if_neg hns, if_neg hno]
    rfl

/-! ## Precedence -/

/-- What `get` answers: the row that was read, or the default. -/
theorem load_get_eq (l : Loading) (env : Environ) (rows : Rows) (key : String)
    (hconnects : (l.session key).connects = true) :
    ((l.session key).load (l.rows env rows)).get key = (l.read env rows key).or (defaults.lookup key) := by
  unfold Load.get Loading.read Session.load stored
  rw [hconnects, Bool.true_and]
  cases hquery : (l.session key).queries key with
  | false => simp [hquery]
  | true => simp [hquery]

/-- One field keeps to the precedence unless a default that differs stands in for its row. -/
theorem field_precedence_iff (l : Loading) (env : Environ) (rows : Rows) (cfg : Config) {key : String}
    {cast : Cast} (h : (key, cast) ∈ loadedKeys) :
    l.run env rows cfg key = preferred cast (l.read env rows key) (cfg key) ↔
      (l.defaulted env rows key = true → preferred cast (defaults.lookup key) (cfg key) = cfg key) := by
  rw [loading_run l env rows cfg h]
  unfold Loading.defaulted
  cases hconnects : (l.session key).connects with
  | false =>
    have hread : l.read env rows key = none := by
      unfold Loading.read
      rw [hconnects, Bool.false_and]
      rfl
    rw [hread, if_neg Bool.false_ne_true]
    exact iff_of_true rfl fun h => absurd h (by decide)
  | true =>
    rw [if_pos rfl, load_get_eq l env rows key hconnects, Bool.true_and]
    cases l.read env rows key with
    | none => exact ⟨fun h _ => h, fun h => h rfl⟩
    | some s => exact iff_of_true rfl fun h => absurd h Bool.false_ne_true

theorem settings_precedence_iff (l : Loading) (env : Environ) (rows : Rows) (cfg : Config) :
    (∀ key cast, (key, cast) ∈ loadedKeys →
      l.run env rows cfg key = preferred cast (l.read env rows key) (cfg key)) ↔
    ∀ key cast, (key, cast) ∈ loadedKeys → l.defaulted env rows key = true →
      preferred cast (defaults.lookup key) (cfg key) = cfg key :=
  forall₃_congr fun _ _ h => field_precedence_iff l env rows cfg h

/-- A reload during which the query for the broker fails. -/
def brokerUnread : Loading where
  seed := none
  serials := ⟨true, fun _ => true⟩
  outputs := ⟨true, fun key => key != "mqtt_host"⟩
  core := ⟨true, fun _ => true⟩

def brokerRows : Rows := fun key => if key = "mqtt_host" then some "broker" else none

/-- The configuration in use: the defaults, and the broker that is stored. -/
def brokerConfig : Config := loadKeys (stored brokerRows) loadedKeys fun _ => .text ""

/-- The broker that is stored and in use gives way to the default. -/
theorem broker_unread_defaulted :
    brokerConfig "mqtt_host" = .text "broker" ∧
      brokerUnread.run (fun _ => none) brokerRows brokerConfig "mqtt_host" = .text "localhost" ∧
      ¬ ∀ key cast, (key, cast) ∈ loadedKeys →
        brokerUnread.run (fun _ => none) brokerRows brokerConfig key =
          preferred cast (brokerUnread.read (fun _ => none) brokerRows key) (brokerConfig key) := by
  have hbefore : brokerConfig "mqtt_host" = .text "broker" := by decide +kernel
  have hrun : brokerUnread.run (fun _ => none) brokerRows brokerConfig "mqtt_host" = .text "localhost" := by
    decide +kernel
  refine ⟨hbefore, hrun, fun h => ?_⟩
  have hread : preferred .text (brokerUnread.read (fun _ => none) brokerRows "mqtt_host") (brokerConfig "mqtt_host") =
      .text "broker" := by
    decide +kernel
  have hbroker := h "mqtt_host" .text (by decide +kernel)
  rw [hrun, hread] at hbroker
  exact absurd hbroker (by decide)

end LuxMon
