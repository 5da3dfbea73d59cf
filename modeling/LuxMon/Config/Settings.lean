import LuxMon.Python.Json

/-!
# Settings

The table `lux_settings`, how the collector reads it, and how it applies what it
read.  Every query finds the rows as they are at that moment; a connection or a
query may fail.

    equal fingerprints ↔ equal values of all watched settings  (fingerprint_eq_iff)
    a load applies the stored value of each of its settings    (loadKeys_of_mem)
-/

namespace LuxMon

open Python

/-! ## Reading -/

/-- The rows of `lux_settings`: the value of each name that has one. -/
abbrev Rows := String → Option String

/-- `DEFAULTS`. -/
def defaults : List (String × String) := [
  ("inverter_model", "eg4_6000xp"),
  ("pv_max_power", "8000"),
  ("grid_max_power", "6000"),
  ("eps_max_power", "6000"),
  ("charge_max_power", "5000"),
  ("discharge_max_power", "5000"),
  ("battery_type", "inverter"),
  ("battery_capacity", "200"),
  ("battery_metric", "soc"),
  ("grid_provider", "default"),
  ("dashboard_refresh_sec", "5"),
  ("chart_default_hours", "6"),
  ("timezone", "America/Chicago"),
  ("temperature_unit", "fahrenheit"),
  ("write_interval_sec", "5"),
  ("transport", "tcp_active"),
  ("dongle_host", "192.168.1.100"),
  ("dongle_port", "8000"),
  ("datalog_serial", ""),
  ("inverter_serial", ""),
  ("influx_enabled", "false"),
  ("influx_url", "http://localhost:8086"),
  ("influx_database", "luxmon"),
  ("influx_token", ""),
  ("influx_org", "luxmon"),
  ("influx_username", ""),
  ("influx_password", ""),
  ("mqtt_enabled", "false"),
  ("mqtt_host", "localhost"),
  ("mqtt_port", "1883"),
  ("mqtt_username", ""),
  ("mqtt_password", ""),
  ("mqtt_topic_prefix", "luxmon"),
  ("mqtt_ha_discovery", "true"),
  ("mqtt_device_name", "luxmon"),
  ("mqtt_device_id", "luxmon_solar"),
  ("alerts_enabled", "false"),
  ("alerts_soc_low", "20"),
  ("alerts_soc_critical", "10"),
  ("alerts_battery_temp_high", "50"),
  ("alerts_inverter_temp_high", "60"),
  ("alerts_grid_lost_threshold_sec", "30"),
  ("alerts_email_enabled", "false"),
  ("alerts_email_smtp_host", ""),
  ("alerts_email_smtp_port", "587"),
  ("alerts_email_username", ""),
  ("alerts_email_password", ""),
  ("alerts_email_from", ""),
  ("alerts_email_to", ""),
  ("alerts_email_tls", "true"),
  ("alerts_webhook_enabled", "false"),
  ("alerts_webhook_url", ""),
  ("automation_enabled", "false"),
  ("automation_global_dry_run", "true"),
  ("automations_v2", "[]"),
  ("quick_charge_minutes", "60"),
  ("quick_charge_state", "\x7b\x7d"),
  ("forecast_enabled", "false"),
  ("forecast_latitude", "30.0591"),
  ("forecast_longitude", "-95.9324"),
  ("array_kwp", "1.56"),
  ("array_azimuth", "180"),
  ("array_tilt", "21"),
  ("array_bifacial_gain", "0.10"),
  ("forecast_provider", "open-meteo"),
  ("forecast_hours", "48"),
  ("forecast_refresh_min", "120"),
  ("forecast_bias_enabled", "true"),
  ("forecast_bias_lookback_days", "7"),
  ("forecast_bias_min_samples", "3")]

/-- A dict of settings. -/
abbrev Settings := String → Option String

/-- `settings.get(key, "")`. -/
def Settings.value (settings : Settings) (key : String) : String := (settings key).getD ""

/-- What `get_all` returns from these rows, and `get` for one name. -/
def stored (rows : Rows) : Settings := fun name => (rows name).or (defaults.lookup name)

/-- One connection with one query, and the rows at that moment. -/
structure Access where
  rows : Rows
  connects : Bool
  queries : Bool

/-- `_read_db_settings`: without a connection nothing, after a failed query the defaults. -/
def readDbSettings (a : Access) : Settings :=
  if a.connects then
    if a.queries then stored a.rows else fun name => defaults.lookup name
  else fun _ => none

/-! ## The fingerprint -/

/-- `_LIVE_SAFE_KEYS`. -/
def liveSafeKeys : List String := [
  "dongle_host", "dongle_port", "datalog_serial", "inverter_serial", "write_interval_sec",
  "influx_enabled", "influx_url", "influx_database", "influx_token", "influx_org",
  "influx_username", "influx_password", "mqtt_enabled", "mqtt_host", "mqtt_port", "mqtt_username",
  "mqtt_password", "mqtt_topic_prefix", "mqtt_ha_discovery", "mqtt_device_name", "mqtt_device_id",
  "temperature_unit", "alerts_enabled", "alerts_soc_low", "alerts_soc_critical",
  "alerts_battery_temp_high", "alerts_inverter_temp_high", "alerts_grid_lost_threshold_sec",
  "alerts_email_enabled", "alerts_email_smtp_host", "alerts_email_smtp_port",
  "alerts_email_username", "alerts_email_password", "alerts_email_from", "alerts_email_to",
  "alerts_email_tls", "alerts_webhook_enabled", "alerts_webhook_url"]

/-- `_RESTART_KEYS`. -/
def restartKeys : List String := ["transport", "inverter_model"]

/-- The SHA-256 digest of the JSON text of a dict, taken to be free of collisions. -/
structure Digest (H : Type) where
  hash : List (String × String) → H
  injective : Function.Injective hash

def relevant (settings : Settings) : List (String × String) :=
  (liveSafeKeys ++ restartKeys).map fun k => (k, settings.value k)

/-- `_compute_config_fingerprint` of what was read. -/
def fingerprint {H : Type} (sha : Digest H) (settings : Settings) : H := sha.hash (relevant settings)

theorem fingerprint_eq_iff {H : Type} (sha : Digest H) (s s' : Settings) :
    fingerprint sha s = fingerprint sha s' ↔
      ∀ k ∈ liveSafeKeys ++ restartKeys, s.value k = s'.value k := by
  unfold fingerprint relevant
  rw [sha.injective.eq_iff, List.map_inj_left]
  exact forall₂_congr fun k _ => by rw [Prod.mk.injEq, and_iff_right rfl]

/-! ## Loading -/

/-- What a setting's text is converted to. -/
inductive Cast
  | text
  | bool
  | int
  | float
  deriving DecidableEq

inductive Value
  | text (s : String)
  | bool (b : Bool)
  | int (n : ℤ)
  | float (x : PyFloat)
  deriving DecidableEq

/-- The conversion; `none` where it raises a `ValueError`. -/
def Cast.apply : Cast → String → Option Value
  | .text, s => some (.text s)
  | .bool, s => some (.bool (s.toLower = "1" ∨ s.toLower = "true" ∨ s.toLower = "yes"))
  | .int, s => (intOfString s).toOption.map Value.int
  | .float, s => (floatOfString s).toOption.map Value.float

/-- The fields of `CollectorConfig` and its `OutputConfig` that settings drive, each under the
name of its setting. -/
abbrev Config := String → Value

/-- `_override` and `_db`: a missing, empty or malformed value leaves the current one. -/
def override (cast : Cast) (raw : Option String) (current : Value) : Value :=
  match raw with
  | none => current
  | some s => if s = "" then current else (cast.apply s).getD current

/-- One connection with one query for each setting, and the rows that each query finds. -/
structure Load where
  connects : Bool
  rows : String → Rows
  queries : String → Bool

/-- `get` in a load. -/
def Load.get (l : Load) (name : String) : Option String :=
  if l.queries name then stored (l.rows name) name else defaults.lookup name

def loadKeys (get : String → Option String) : List (String × Cast) → Config → Config
  | [], cfg => cfg
  | (key, cast) :: table, cfg =>
    loadKeys get table (Function.update cfg key (override cast (get key) (cfg key)))

/-- The settings of `_load_db_serials`. -/
def serialKeys : List (String × Cast) := [("datalog_serial", .text), ("inverter_serial", .text)]

/-- The settings of `_load_db_output_settings`. -/
def outputKeys : List (String × Cast) := [
  ("mariadb_enabled", .bool), ("influx_enabled", .bool), ("influx_url", .text),
  ("influx_database", .text), ("influx_token", .text), ("influx_org", .text),
  ("influx_username", .text), ("influx_password", .text), ("mqtt_enabled", .bool),
  ("mqtt_host", .text), ("mqtt_port", .int), ("mqtt_username", .text), ("mqtt_password", .text),
  ("mqtt_topic_prefix", .text), ("mqtt_ha_discovery", .bool), ("mqtt_device_name", .text),
  ("mqtt_device_id", .text), ("temperature_unit", .text), ("alerts_enabled", .bool),
  ("alerts_soc_low", .float), ("alerts_soc_critical", .float),
  ("alerts_battery_temp_high", .float), ("alerts_inverter_temp_high", .float),
  ("alerts_grid_lost_threshold_sec", .float), ("alerts_email_enabled", .bool),
  ("alerts_email_smtp_host", .text), ("alerts_email_smtp_port", .int),
  ("alerts_email_username", .text), ("alerts_email_password", .text), ("alerts_email_from", .text),
  ("alerts_email_to", .text), ("alerts_email_tls", .bool), ("alerts_webhook_enabled", .bool),
  ("alerts_webhook_url", .text)]

/-- The settings of `_load_db_core_settings`. -/
def coreKeys : List (String × Cast) := [
  ("dongle_host", .text), ("dongle_port", .int), ("write_interval_sec", .int), ("transport", .text)]

def loadDbSerials (l : Load) (cfg : Config) : Config :=
  if l.connects then loadKeys l.get serialKeys cfg else cfg

def loadDbOutputSettings (l : Load) (cfg : Config) : Config :=
  if l.connects then loadKeys l.get outputKeys cfg else cfg

def loadDbCoreSettings (l : Load) (cfg : Config) : Config :=
  if l.connects then loadKeys l.get coreKeys cfg else cfg

/-! ## What a load applies -/

theorem loadKeys_append (get : String → Option String) (table table' : List (String × Cast)) (cfg : Config) :
    loadKeys get (table ++ table') cfg = loadKeys get table' (loadKeys get table cfg) := by
  induction table generalizing cfg with
  | nil => rfl
  | cons x table ih => exact ih _

theorem loadKeys_of_not_mem (get : String → Option String) {table : List (String × Cast)} {key : String}
    (h : key ∉ table.map Prod.fst) (cfg : Config) : loadKeys get table cfg key = cfg key := by
  induction table generalizing cfg with
  | nil => rfl
  | cons x table ih =>
    rw [List.map_cons, List.mem_cons, not_or] at h
    rw [loadKeys, ih h.2, Function.update_of_ne h.1]

/-- A setting that the table lists once gets its value from its query. -/
theorem loadKeys_of_mem (get : String → Option String) {table : List (String × Cast)} {key : String}
    {cast : Cast} (hnodup : (table.map Prod.fst).Nodup) (h : (key, cast) ∈ table) (cfg : Config) :
    loadKeys get table cfg key = override cast (get key) (cfg key) := by
  induction table generalizing cfg with
  | nil => cases h
  | cons x table ih =>
    rw [List.map_cons, List.nodup_cons] at hnodup
    rcases List.mem_cons.mp h with rfl | h
    · rw [loadKeys, loadKeys_of_not_mem get hnodup.1, Function.update_self]
    · have hne : key ≠ x.1 := by
        rintro rfl
        exact hnodup.1 (List.mem_map.mpr ⟨_, h, rfl⟩)
      rw [loadKeys, ih hnodup.2 h, Function.update_of_ne hne]

/-- All settings that the three loads drive. -/
def loadedKeys : List (String × Cast) := serialKeys ++ outputKeys ++ coreKeys

theorem loadedKeys_nodup : (loadedKeys.map Prod.fst).Nodup := by decide +kernel

theorem outputKeys_nodup : (outputKeys.map Prod.fst).Nodup := by
  have hnodup := loadedKeys_nodup
  unfold loadedKeys at hnodup
  rw [List.map_append, List.map_append] at hnodup
  exact hnodup.of_append_left.of_append_right

def castOf (key : String) : Cast := (loadedKeys.lookup key).getD .text

theorem castOf_mem {key : String} (h : key ∈ liveSafeKeys) : (key, castOf key) ∈ loadedKeys := by
  have hall : ∀ k ∈ liveSafeKeys, (k, castOf k) ∈ loadedKeys := by decide +kernel
  exact hall key h

/-- The configuration has the stored values of the live-safe settings. -/
def Applied (cfg : Config) (rows : Rows) : Prop :=
  ∀ k ∈ liveSafeKeys, (castOf k).apply ((stored rows).value k) = some (cfg k)

/-- The stored values of the live-safe settings are not empty and can be converted. -/
def WellTyped (rows : Rows) : Prop :=
  ∀ k ∈ liveSafeKeys, (stored rows).value k ≠ "" ∧ ((castOf k).apply ((stored rows).value k)).isSome

theorem applied_loadKeys {rows : Rows} (h : WellTyped rows) (cfg : Config) :
    Applied (loadKeys (stored rows) loadedKeys cfg) rows := by
  intro k hk
  obtain ⟨hne, hsome⟩ := h k hk
  rw [loadKeys_of_mem (stored rows) loadedKeys_nodup (castOf_mem hk)]
  obtain ⟨v, hv⟩ := Option.isSome_iff_exists.mp hsome
  cases hs : stored rows k with
  | none =>
    rw [Settings.value, hs] at hne
    exact absurd rfl hne
  | some s =>
    rw [Settings.value, hs, Option.getD_some] at hne hv
    rw [Settings.value, hs, Option.getD_some, override, if_neg hne, hv, Option.getD_some]

end LuxMon
