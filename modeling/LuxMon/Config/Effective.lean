import LuxMon.Config.Precedence
import LuxMon.Config.Converge
import LuxMon.Dongle.Reliable

/-!
# Shown and running settings

`effective_value` and the API's `_resolve_model` put the environment before the
database; the collector seeds the database from the environment and then puts the
database first.  They agree where the two sources do.

    every setting is shown as it runs ↔ every stored value agrees with its
      variable, or is used as it is                            (shown_settings_iff)
-/

namespace LuxMon

open Python Effects

/-! ## What the API shows -/

/-- `_cast_env`: a text that cannot be converted stays a text. -/
def castEnv (cast : Cast) (value : String) : Value := (cast.apply value).getD (.text value)

/-- `effective_value`. -/
def effectiveValue (env : Environ) (name : String) (dbValue : Option String) : Value :=
  match (settingEnv.lookup name).bind fun e => (nonEmpty (env e.1)).map (castEnv e.2) with
  | some value => value
  | none => .text ((nonEmpty dbValue).getD ((defaults.lookup name).getD ""))

/-- A shown value as the type of its setting; the database has texts only. -/
def Value.typed (cast : Cast) : Value → Option Value
  | .text s => cast.apply s
  | value => some value

/-! ## What the environment gives -/

/-- How `config_from_env` reads a variable. -/
inductive EnvRead
  /-- `_env_or(var, default, cast)` -/
  | convert (default : Value) (cast : Cast)
  /-- `_env_bool(var, default)` -/
  | flag (default : Bool)
  /-- `_env_bool(var, _env_or("LUX_STORAGE_TYPE") == "influxdb")` -/
  | influxFlag
  /-- `not (_env_or(var) == "influxdb")` -/
  | notInflux
  deriving DecidableEq

/-- `_env_or`; `none` where the conversion raises. -/
def envOr (env : Environ) (var : String) (default : Value) (cast : Cast) : Option Value :=
  match env var with
  | none => some default
  | some s => cast.apply s

/-- `_env_bool`. -/
def envBool (env : Environ) (var : String) (default : Bool) : Bool :=
  let val := ((env var).getD "").toLower
  if val = "" then default else val = "1" ∨ val = "true" ∨ val = "yes"

def EnvRead.value (env : Environ) (var : String) : EnvRead → Option Value
  | .convert default cast => envOr env var default cast
  | .flag default => some (.bool (envBool env var default))
  | .influxFlag => some (.bool (envBool env var (env "LUX_STORAGE_TYPE" = some "influxdb")))
  | .notInflux => some (.bool (env var ≠ some "influxdb"))

/-- The fields of `config_from_env` that settings drive, each under the name of its setting, and
the others whose conversion may raise. -/
def envFields : List (String × String × EnvRead) := [
  ("dongle_host", "LUX_DONGLE_HOST", .convert (.text "192.168.1.100") .text),
  ("dongle_port", "LUX_DONGLE_PORT", .convert (.int 8000) .int),
  ("read_timeout", "LUX_READ_TIMEOUT", .convert (.float (.fin 60)) .float),
  ("reconnect_delay", "LUX_RECONNECT_DELAY", .convert (.float (.fin 5)) .float),
  ("write_interval_sec", "LUX_WRITE_INTERVAL", .convert (.int 30) .int),
  ("transport", "LUX_TRANSPORT", .convert (.text "tcp_active") .text),
  ("poll_interval", "LUX_POLL_INTERVAL", .convert (.float (.fin 2)) .float),
  ("poll_register_start", "LUX_POLL_REG_START", .convert (.int 0) .int),
  ("poll_register_count", "LUX_POLL_REG_COUNT", .convert (.int 40) .int),
  ("datalog_serial", "LUX_DATALOG_SERIAL", .convert (.text "") .text),
  ("inverter_serial", "LUX_INVERTER_SERIAL", .convert (.text "") .text),
  ("mariadb_enabled", "LUX_STORAGE_TYPE", .notInflux),
  ("mariadb_port", "LUX_MARIADB_PORT", .convert (.int 3306) .int),
  ("influx_enabled", "LUX_INFLUX_ENABLED", .influxFlag),
  ("influx_url", "LUX_INFLUX_URL", .convert (.text "http://localhost:8086") .text),
  ("influx_token", "LUX_INFLUX_TOKEN", .convert (.text "") .text),
  ("influx_org", "LUX_INFLUX_ORG", .convert (.text "luxmon") .text),
  ("influx_username", "LUX_INFLUX_USERNAME", .convert (.text "") .text),
  ("influx_password", "LUX_INFLUX_PASSWORD", .convert (.text "") .text),
  ("influx_database", "LUX_INFLUX_DATABASE", .convert (.text "luxmon") .text),
  ("mqtt_enabled", "LUX_MQTT_ENABLED", .flag false),
  ("mqtt_host", "LUX_MQTT_HOST", .convert (.text "localhost") .text),
  ("mqtt_port", "LUX_MQTT_PORT", .convert (.int 1883) .int),
  ("mqtt_username", "LUX_MQTT_USERNAME", .convert (.text "") .text),
  ("mqtt_password", "LUX_MQTT_PASSWORD", .convert (.text "") .text),
  ("mqtt_topic_prefix", "LUX_MQTT_TOPIC_PREFIX", .convert (.text "luxmon") .text),
  ("mqtt_ha_discovery", "LUX_MQTT_HA_DISCOVERY", .flag true),
  ("mqtt_device_name", "LUX_MQTT_DEVICE_NAME", .convert (.text "luxmon") .text),
  ("mqtt_device_id", "LUX_MQTT_DEVICE_ID", .convert (.text "luxmon_solar") .text),
  ("temperature_unit", "LUX_TEMPERATURE_UNIT", .convert (.text "celsius") .text),
  ("alerts_enabled", "LUX_ALERTS_ENABLED", .flag false),
  ("alerts_soc_low", "LUX_ALERTS_SOC_LOW", .convert (.float (.fin 20)) .float),
  ("alerts_soc_critical", "LUX_ALERTS_SOC_CRITICAL", .convert (.float (.fin 10)) .float),
  ("alerts_battery_temp_high", "LUX_ALERTS_BATTERY_TEMP_HIGH", .convert (.float (.fin 50)) .float),
  ("alerts_inverter_temp_high", "LUX_ALERTS_INVERTER_TEMP_HIGH", .convert (.float (.fin 60)) .float),
  ("alerts_grid_lost_threshold_sec", "LUX_ALERTS_GRID_LOST_THRESHOLD_SEC",
    .convert (.float (.fin 30)) .float),
  ("alerts_email_enabled", "LUX_ALERTS_EMAIL_ENABLED", .flag false),
  ("alerts_email_smtp_host", "LUX_ALERTS_EMAIL_SMTP_HOST", .convert (.text "") .text),
  ("alerts_email_smtp_port", "LUX_ALERTS_EMAIL_SMTP_PORT", .convert (.int 587) .int),
  ("alerts_email_username", "LUX_ALERTS_EMAIL_USERNAME", .convert (.text "") .text),
  ("alerts_email_password", "LUX_ALERTS_EMAIL_PASSWORD", .convert (.text "") .text),
  ("alerts_email_from", "LUX_ALERTS_EMAIL_FROM", .convert (.text "") .text),
  ("alerts_email_to", "LUX_ALERTS_EMAIL_TO", .convert (.text "") .text),
  ("alerts_email_tls", "LUX_ALERTS_EMAIL_TLS", .flag true),
  ("alerts_webhook_enabled", "LUX_ALERTS_WEBHOOK_ENABLED", .flag false),
  ("alerts_webhook_url", "LUX_ALERTS_WEBHOOK_URL", .convert (.text "") .text)]

/-- What `config_from_env` reads for a field. -/
def envValue (env : Environ) (name : String) : Option Value :=
  (envFields.lookup name).bind fun f => f.2.value env f.1

/-- `config_from_env`; `none` when a conversion raises. -/
def configFromEnv (env : Environ) : Option Config :=
  if envFields.all fun f => (f.2.2.value env f.2.1).isSome then
    some fun name => (envValue env name).getD (.text "")
  else none

/-! ## What the collector starts with -/

/-- `DRIVERS`. -/
def drivers : List String := [
  "eg4_6000xp", "luxpower_sna", "eg4_12000xp", "eg4_6500ex", "eg4_3000ehv", "eg4_18kpv", "eg4_12kpv",
  "lxp_6k", "lxp_12k", "lxp_18k", "fortress_envy_12k", "bigbattery_sna_6k"]

/-- `get_driver`, and the fallback for a model that has none. -/
def driverModel (model : String) : String := if model ∈ drivers then model else DEFAULT_MODEL

/-- `LUX_POLL_MODE`. -/
def pollMode (env : Environ) : Bool :=
  let val := ((env "LUX_POLL_MODE").getD "").toLower
  val = "1" ∨ val = "true" ∨ val = "yes"

/-- `_load_db_setting("inverter_model", cfg) or _env_or("LUX_INVERTER_MODEL") or DEFAULT_MODEL`. -/
def inverterModel (env : Environ) (rows : Rows) : String :=
  (nonEmpty (stored rows "inverter_model")).getD ((nonEmpty (env "LUX_INVERTER_MODEL")).getD DEFAULT_MODEL)

/-- The configuration and the model of the driver that `PassiveCollector` is built with. -/
structure Started where
  cfg : Config
  model : String

/-- The value in use for a setting. -/
def Started.value (s : Started) (name : String) : Value :=
  if name = "inverter_model" then .text s.model else s.cfg name

/-- The rows after a seeding that succeeds and changes made since. -/
def foundRows (env : Environ) (rows : Rows) (change : Rows → Rows) : Rows :=
  change (seedDbFromEnv env ⟨true, fun _ => true⟩ rows)

/-- `run_collector` without a config file and overrides, when every operation on the database
succeeds; `none` when `config_from_env` raises. -/
def runCollector (env : Environ) (rows : Rows) (change : Rows → Rows) : Option Started :=
  (configFromEnv env).map fun cfg =>
    let load := loadOf (foundRows env rows change)
    { cfg := startupConfig cfg load load load (pollMode env)
      model := driverModel (inverterModel env (foundRows env rows change)) }

/-! ## Agreement -/

/-- What `run_collector` makes of a value: it replaces the passive transport in poll mode, and a
model without a driver. -/
def replaced (env : Environ) (name : String) (value : Value) : Value :=
  if name = "inverter_model" then
    match value with
    | .text model => .text (driverModel model)
    | value => value
  else if name = "transport" ∧ pollMode env = true ∧ value = .text "tcp_passive" then .text "tcp_active"
  else value

/-- What the collector uses for a setting of which neither a variable nor a row says anything. -/
def ownDefault (env : Environ) (name : String) : Option Value :=
  if name = "inverter_model" then some (.text DEFAULT_MODEL) else envValue env name

/-- A variable that is set has the value that the row (or its default) converts to, or the row
decides nothing.  Without a variable the row is missing, or its value can be used as it is, or it is
empty and the collector's own default is that of the settings. -/
def Agrees (env : Environ) (rows : Rows) (name var : String) (cast : Cast) : Prop :=
  match nonEmpty (env var), rows name with
  | some raw, _ =>
    ∀ value, cast.apply raw = some value → replaced env name (preferred cast (stored rows name) value) = value
  | none, none => True
  | none, some s =>
    if s = "" then (ownDefault env name).map (replaced env name) = cast.apply ((defaults.lookup name).getD "")
    else ∃ value, cast.apply s = some value ∧ replaced env name value = value

theorem settingEnv_lookup {name var : String} {cast : Cast} (h : (name, var, cast) ∈ settingEnv) :
    settingEnv.lookup name = some (var, cast) := by
  have hall : ∀ e ∈ settingEnv, settingEnv.lookup e.1 = some e.2 := by decide +kernel
  exact hall _ h

theorem settingEnv_model {var : String} {cast : Cast} (h : ("inverter_model", var, cast) ∈ settingEnv) :
    var = "LUX_INVERTER_MODEL" ∧ cast = .text := by
  have := settingEnv_lookup h
  rw [show settingEnv.lookup "inverter_model" = some ("LUX_INVERTER_MODEL", .text) by decide] at this
  simpa [eq_comm] using this

/-- The loads drive every setting but the model, with the same conversion. -/
theorem settingEnv_loaded {name var : String} {cast : Cast} (h : (name, var, cast) ∈ settingEnv)
    (hne : name ≠ "inverter_model") : (name, cast) ∈ loadedKeys := by
  have hall : ∀ e ∈ settingEnv, e.1 ≠ "inverter_model" → (e.1, e.2.2) ∈ loadedKeys := by decide +kernel
  exact hall _ h hne

/-- The conversion of `config_from_env`. -/
def EnvRead.cast : EnvRead → Cast
  | .convert _ cast => cast
  | _ => .bool

/-- `config_from_env` reads every setting but the model from its variable, with the same conversion. -/
theorem settingEnv_field {name var : String} {cast : Cast} (h : (name, var, cast) ∈ settingEnv)
    (hne : name ≠ "inverter_model") :
    ∃ read, envFields.lookup name = some (var, read) ∧ read.cast = cast ∧ read ≠ .notInflux := by
  have hall : ∀ e ∈ settingEnv, e.1 ≠ "inverter_model" → ∃ read ∈ (envFields.lookup e.1).map Prod.snd,
      envFields.lookup e.1 = some (e.2.1, read) ∧ read.cast = e.2.2 ∧ read ≠ .notInflux := by
    decide +kernel
  obtain ⟨read, -, hread⟩ := hall _ h hne
  exact ⟨read, hread⟩

theorem toLower_ne_empty {s : String} (h : s ≠ "") : s.toLower ≠ "" := by
  intro hlower
  have hmap : s.toLower = s.map Char.toLower := rfl
  have hlist := congrArg String.toList (hmap.symm.trans hlower)
  simp at hlist
  exact h hlist

/-- A variable that is set is converted. -/
theorem value_of_set {env : Environ} {var raw : String} {read : EnvRead} (h : nonEmpty (env var) = some raw)
    (hread : read ≠ .notInflux) : read.value env var = read.cast.apply raw := by
  obtain ⟨hvar, hne⟩ := Option.filter_eq_some_iff.mp h
  have hne : raw ≠ "" := by simpa using hne
  have hflag : ∀ default, envBool env var default = true ↔ raw.toLower = "1" ∨ raw.toLower = "true" ∨ raw.toLower = "yes" := by
    intro default
    unfold envBool
    rw [hvar]
    simp [toLower_ne_empty hne]
  cases read with
  | convert default cast =>
    show envOr env var default cast = cast.apply raw
    unfold envOr
    rw [hvar]
  | flag default =>
    show some (Value.bool (envBool env var default)) = some (Value.bool _)
    rw [Option.some.injEq, Value.bool.injEq, Bool.eq_iff_iff, hflag, decide_eq_true_iff]
  | influxFlag =>
    show some (Value.bool (envBool env var _)) = some (Value.bool _)
    rw [Option.some.injEq, Value.bool.injEq, Bool.eq_iff_iff, hflag, decide_eq_true_iff]
  | notInflux => exact absurd rfl hread

/-- `config_from_env` did not raise. -/
theorem configFromEnv_eq {env : Environ} {cfg : Config} (h : configFromEnv env = some cfg) {name : String}
    {f : String × EnvRead} (hf : envFields.lookup name = some f) : envValue env name = some (cfg name) := by
  unfold configFromEnv at h
  split at h
  · next hall =>
    obtain rfl := Option.some.inj h
    have hmem : (name, f) ∈ envFields := by
      obtain ⟨l₁, l₂, hsplit, -⟩ := List.lookup_eq_some_iff.mp hf
      rw [hsplit]
      exact List.mem_append_right _ List.mem_cons_self
    have hsome := List.all_eq_true.mp hall _ hmem
    obtain ⟨v, hv⟩ := Option.isSome_iff_exists.mp hsome
    have hvalue : envValue env name = some v := by
      unfold envValue
      rw [hf]
      exact hv
    simp only [hvalue, Option.getD_some]
  · cases h

/-! ## What the collector uses -/

/-- The value that a row replaces if it can. -/
def bootstrap (env : Environ) (cfg : Config) (name : String) : Value :=
  if name = "inverter_model" then .text ((nonEmpty (env "LUX_INVERTER_MODEL")).getD DEFAULT_MODEL) else cfg name

theorem preferred_text (row : Option String) (value : String) :
    preferred .text row (.text value) = .text ((nonEmpty row).getD value) := by
  unfold preferred
  cases nonEmpty row <;> rfl

theorem text_eq_iff (cfg : Config) (key : String) {s : String} (hs : s ≠ "") :
    (cfg.text key == s) = true ↔ cfg key = .text s := by
  unfold Config.text
  cases cfg key <;> simp [Ne.symm hs]

/-- Each setting comes from its row, then from the environment, and may be replaced. -/
theorem started_value {env : Environ} {rows : Rows} {change : Rows → Rows} {cfg : Config} {started : Started}
    (hcfg : configFromEnv env = some cfg) (hstarted : runCollector env rows change = some started)
    {name var : String} {cast : Cast} (h : (name, var, cast) ∈ settingEnv) :
    started.value name =
      replaced env name (preferred cast (stored (foundRows env rows change) name) (bootstrap env cfg name)) := by
  unfold runCollector at hstarted
  rw [hcfg, Option.map_some, Option.some.injEq] at hstarted
  subst hstarted
  unfold Started.value bootstrap
  by_cases hmodel : name = "inverter_model"
  · subst hmodel
    obtain ⟨-, rfl⟩ := settingEnv_model h
    rw [if_pos rfl, if_pos rfl, preferred_text]
    rfl
  · rw [if_neg hmodel, if_neg hmodel]
    generalize foundRows env rows change = found
    have hfinds : (loadOf found).Finds found := ⟨rfl, fun _ => ⟨rfl, rfl⟩⟩
    have hloaded := loadKeys_of_mem (stored found) loadedKeys_nodup (settingEnv_loaded h hmodel) cfg
    rw [override_eq_preferred] at hloaded
    rw [← hloaded]
    simp only [startupConfig, loads_eq hfinds hfinds hfinds]
    generalize loadKeys (stored found) loadedKeys cfg = loaded
    unfold replaced
    rw [if_neg hmodel]
    by_cases hname : name = "transport"
    · subst hname
      by_cases hpassive : pollMode env = true ∧ loaded "transport" = .text "tcp_passive"
      · rw [if_pos (by rw [hpassive.1, (text_eq_iff loaded "transport" (by decide)).mpr hpassive.2]; rfl),
          Function.update_self, if_pos ⟨rfl, hpassive⟩]
      · rw [if_neg (by
          rw [Bool.and_eq_true, text_eq_iff loaded "transport" (by decide)]
          exact hpassive), if_neg fun h => hpassive h.2]
    · have hother : ¬ (name = "transport" ∧ pollMode env = true ∧ loaded name = .text "tcp_passive") :=
        fun h => hname h.1
      rw [if_neg hother]
      split
      · rw [Function.update_of_ne hname]
      · rfl

/-! ## What is shown -/

theorem typed_of_apply {cast : Cast} {raw : String} {value : Value} (h : cast.apply raw = some value) :
    value.typed cast = some value := by
  cases cast with
  | text =>
    obtain rfl := Option.some.inj h
    rfl
  | bool =>
    obtain rfl := Option.some.inj h
    rfl
  | int =>
    rw [Cast.apply, Option.map_eq_some_iff] at h
    obtain ⟨n, -, rfl⟩ := h
    rfl
  | float =>
    rw [Cast.apply, Option.map_eq_some_iff] at h
    obtain ⟨x, -, rfl⟩ := h
    rfl

theorem effectiveValue_of_set {env : Environ} {name var raw : String} {cast : Cast} {value : Value}
    (h : (name, var, cast) ∈ settingEnv) (hset : nonEmpty (env var) = some raw)
    (happly : cast.apply raw = some value) (row : Option String) :
    (effectiveValue env name row).typed cast = some value := by
  unfold effectiveValue
  rw [settingEnv_lookup h, Option.bind_some, hset]
  simp only [Option.map_some, castEnv, happly, Option.getD_some]
  exact typed_of_apply happly

theorem effectiveValue_of_unset {env : Environ} {name var : String} {cast : Cast}
    (h : (name, var, cast) ∈ settingEnv) (hunset : nonEmpty (env var) = none) (row : Option String) :
    (effectiveValue env name row).typed cast =
      cast.apply ((nonEmpty row).getD ((defaults.lookup name).getD "")) := by
  unfold effectiveValue
  rw [settingEnv_lookup h, Option.bind_some, hunset]
  rfl

/-- A variable that is set decides what the field had before the loads. -/
theorem bootstrap_of_set {env : Environ} {cfg : Config} (hcfg : configFromEnv env = some cfg)
    {name var raw : String} {cast : Cast} (h : (name, var, cast) ∈ settingEnv)
    (hset : nonEmpty (env var) = some raw) : cast.apply raw = some (bootstrap env cfg name) := by
  unfold bootstrap
  by_cases hmodel : name = "inverter_model"
  · subst hmodel
    obtain ⟨rfl, rfl⟩ := settingEnv_model h
    rw [if_pos rfl, hset]
    rfl
  · obtain ⟨read, hlookup, rfl, hread⟩ := settingEnv_field h hmodel
    rw [if_neg hmodel, ← configFromEnv_eq hcfg hlookup, ← value_of_set hset hread, envValue, hlookup]
    rfl

theorem bootstrap_of_unset {env : Environ} {cfg : Config} (hcfg : configFromEnv env = some cfg)
    {name var : String} {cast : Cast} (h : (name, var, cast) ∈ settingEnv)
    (hunset : nonEmpty (env var) = none) : ownDefault env name = some (bootstrap env cfg name) := by
  unfold ownDefault bootstrap
  by_cases hmodel : name = "inverter_model"
  · subst hmodel
    obtain ⟨rfl, rfl⟩ := settingEnv_model h
    rw [if_pos rfl, if_pos rfl, hunset]
    rfl
  · obtain ⟨read, hlookup, -⟩ := settingEnv_field h hmodel
    rw [if_neg hmodel, if_neg hmodel, configFromEnv_eq hcfg hlookup]

/-! ## The defaults of the settings -/

/-- The default of a setting can be converted, or is the empty text that the collector has as well. -/
theorem default_fits {name var : String} {cast : Cast} (h : (name, var, cast) ∈ settingEnv) :
    ∃ s, defaults.lookup name = some s ∧ (s ≠ "" ∧ (cast.apply s).isSome ∨
      s = "" ∧ name ≠ "inverter_model" ∧ envFields.lookup name = some (var, .convert (.text "") .text)) := by
  have hall : ∀ e ∈ settingEnv, ∃ s ∈ defaults.lookup e.1, s ≠ "" ∧ (e.2.2.apply s).isSome ∨
      s = "" ∧ e.1 ≠ "inverter_model" ∧ envFields.lookup e.1 = some (e.2.1, .convert (.text "") .text) := by
    decide +kernel
  exact hall _ h

/-- No default is replaced. -/
theorem replaced_default (env : Environ) {name var s : String} {cast : Cast} {value : Value}
    (h : (name, var, cast) ∈ settingEnv) (hdefault : defaults.lookup name = some s)
    (happly : cast.apply s = some value) : replaced env name value = value := by
  unfold replaced
  by_cases hmodel : name = "inverter_model"
  · subst hmodel
    obtain ⟨rfl, rfl⟩ := settingEnv_model h
    rw [show defaults.lookup "inverter_model" = some "eg4_6000xp" by decide +kernel] at hdefault
    obtain rfl := Option.some.inj hdefault
    obtain rfl := Option.some.inj happly
    rw [if_pos rfl]
    exact congrArg Value.text (by decide)
  · rw [if_neg hmodel]
    refine if_neg ?_
    rintro ⟨rfl, -, rfl⟩
    rw [show defaults.lookup "transport" = some "tcp_active" by decide +kernel] at hdefault
    obtain rfl := Option.some.inj hdefault
    cases cast with
    | text => exact absurd happly (by decide)
    | bool => cases happly
    | int => exact absurd happly (by decide)
    | float => exact absurd happly (by decide)

theorem default_used {env : Environ} {cfg : Config} (hcfg : configFromEnv env = some cfg) {name var : String}
    {cast : Cast} (h : (name, var, cast) ∈ settingEnv) (hunset : nonEmpty (env var) = none) :
    cast.apply ((defaults.lookup name).getD "") =
      some (replaced env name (preferred cast (defaults.lookup name) (bootstrap env cfg name))) := by
  obtain ⟨s, hdefault, ⟨hs, happly⟩ | ⟨rfl, hmodel, hfield⟩⟩ := default_fits h
  · obtain ⟨value, hvalue⟩ := Option.isSome_iff_exists.mp happly
    have hrow : nonEmpty (some s) = some s := by simp [nonEmpty, hs]
    rw [hdefault, Option.getD_some, hvalue, preferred, hrow, Option.bind_some, hvalue, Option.getD_some,
      replaced_default env h hdefault hvalue]
  · have hcast : cast = .text := by
      obtain ⟨read, hlookup, hread, -⟩ := settingEnv_field h hmodel
      rw [hfield] at hlookup
      obtain rfl := (Prod.mk.inj (Option.some.inj hlookup)).2
      exact hread.symm
    have hempty : envValue env name = some (.text "") := by
      unfold envValue
      rw [hfield]
      show envOr env var (.text "") .text = some (.text "")
      unfold envOr
      cases hvar : env var with
      | none => rfl
      | some raw =>
        have hraw : raw = "" := by simpa [nonEmpty, hvar] using hunset
        rw [hraw]
        rfl
    have hown := configFromEnv_eq hcfg hfield
    rw [hempty, Option.some.injEq] at hown
    have hkept : preferred .text (some "") (.text "") = .text "" := rfl
    have hpassive : ¬ (name = "transport" ∧ pollMode env = true ∧ Value.text "" = .text "tcp_passive") :=
      fun h => absurd h.2.2 (by decide)
    subst hcast
    rw [hdefault, bootstrap, if_neg hmodel, ← hown, hkept, replaced, if_neg hmodel, if_neg hpassive]
    rfl

/-- One setting is shown as it runs exactly when its row agrees with its variable. -/
theorem setting_shown_iff {env : Environ} {rows : Rows} {change : Rows → Rows} {cfg : Config}
    {started : Started} (hcfg : configFromEnv env = some cfg)
    (hstarted : runCollector env rows change = some started) {name var : String} {cast : Cast}
    (h : (name, var, cast) ∈ settingEnv) :
    (effectiveValue env name (foundRows env rows change name)).typed cast = some (started.value name) ↔
      Agrees env (foundRows env rows change) name var cast := by
  rw [started_value hcfg hstarted h]
  generalize foundRows env rows change = found
  unfold Agrees
  cases hvar : nonEmpty (env var) with
  | some raw =>
    have happly := bootstrap_of_set hcfg h hvar
    rw [effectiveValue_of_set h hvar happly, Option.some.injEq, eq_comm]
    show _ ↔ ∀ value, cast.apply raw = some value → _
    rw [happly]
    simp
  | none =>
    have hown := bootstrap_of_unset hcfg h hvar
    rw [effectiveValue_of_unset h hvar]
    cases hrow : found name with
    | none =>
      have hstored : stored found name = defaults.lookup name := by rw [stored, hrow, Option.none_or]
      rw [hstored]
      exact iff_of_true (default_used hcfg h hvar) trivial
    | some s =>
      have hstored : stored found name = some s := by rw [stored, hrow, Option.some_or]
      rw [hstored]
      show _ ↔ if s = "" then _ else _
      by_cases hs : s = ""
      · subst hs
        rw [if_pos rfl, hown, Option.map_some, eq_comm]
        rfl
      · rw [if_neg hs]
        have hrow : nonEmpty (some s) = some s := by simp [nonEmpty, hs]
        rw [hrow, preferred, hrow]
        show cast.apply s = some (replaced env name ((cast.apply s).getD _)) ↔ _
        cases cast.apply s with
        | none => simp
        | some u => simp [eq_comm]

/-! ## All settings -/

/-- The rows that the loads find, which the API finds as well. -/
def World.found (w : World) (change : Rows → Rows) : World :=
  { w with settings := foundRows w.environ w.settings change }

/-- What `_resolve_model` returns. -/
def resolvedModel (w : World) : Except PyErr String := (Prog.exec World.answer w resolveModelApi).2.1

theorem resolvedModel_eq (w : World) :
    resolvedModel w = .ok ((nonEmpty (w.environ "LUX_INVERTER_MODEL")).getD
      ((nonEmpty (w.settings "inverter_model")).getD DEFAULT_MODEL)) := by
  unfold resolvedModel resolveModelApi
  rw [Prog.perform_bind]
  simp only [Prog.exec, World.answer]
  cases nonEmpty (w.environ "LUX_INVERTER_MODEL") with
  | some model => rfl
  | none => rfl

/-- It shows the model that `effective_value` shows. -/
theorem resolvedModel_shown (w : World) :
    (resolvedModel w).map Value.text =
      .ok (effectiveValue w.environ "inverter_model" (w.settings "inverter_model")) := by
  rw [resolvedModel_eq]
  unfold effectiveValue
  rw [show settingEnv.lookup "inverter_model" = some ("LUX_INVERTER_MODEL", .text) by decide, Option.bind_some]
  cases nonEmpty (w.environ "LUX_INVERTER_MODEL") <;> rfl

/-- The API shows every setting, and resolves the model, as the collector started. -/
def ShownAsRun (w : World) (change : Rows → Rows) : Prop :=
  ∀ started, runCollector w.environ w.settings change = some started →
    (∀ name var cast, (name, var, cast) ∈ settingEnv →
      (effectiveValue w.environ name ((w.found change).settings name)).typed cast = some (started.value name)) ∧
    resolvedModel (w.found change) = .ok started.model

theorem shown_settings_iff (w : World) (change : Rows → Rows) :
    ShownAsRun w change ↔ ((configFromEnv w.environ).isSome → ∀ name var cast, (name, var, cast) ∈ settingEnv →
      Agrees w.environ (w.found change).settings name var cast) := by
  constructor
  · intro hshown hsome name var cast h
    obtain ⟨cfg, hcfg⟩ := Option.isSome_iff_exists.mp hsome
    have hstarted : ∃ started, runCollector w.environ w.settings change = some started := by
      rw [runCollector, hcfg]
      exact ⟨_, rfl⟩
    obtain ⟨started, hstarted⟩ := hstarted
    exact (setting_shown_iff hcfg hstarted h).mp ((hshown started hstarted).1 name var cast h)
  · intro hagrees started hstarted
    obtain ⟨cfg, hcfg, -⟩ := Option.map_eq_some_iff.mp hstarted
    have hall : ∀ name var cast, (name, var, cast) ∈ settingEnv →
        (effectiveValue w.environ name ((w.found change).settings name)).typed cast =
          some (started.value name) := fun name var cast h =>
      (setting_shown_iff hcfg hstarted h).mpr (hagrees (by rw [hcfg]; rfl) name var cast h)
    refine ⟨hall, ?_⟩
    have hmodel := hall "inverter_model" "LUX_INVERTER_MODEL" .text (by decide +kernel)
    have hresolved := resolvedModel_shown (w.found change)
    rw [resolvedModel_eq] at hresolved ⊢
    have hshown := Except.ok.inj hresolved
    rw [show (w.found change).environ = w.environ from rfl] at hshown
    rw [← hshown] at hmodel
    have htext := Value.text.inj (Option.some.inj hmodel)
    rw [← htext]
    rfl

/-- A broker in the environment and another one in the database. -/
def twoBrokers : World where
  regs := fun _ => 0
  writes := 0
  settings := fun key => if key = "mqtt_host" then some "b" else none
  documents := fun _ => none
  environ := fun var => if var = "LUX_MQTT_HOST" then some "a" else none

/-- The API shows the one in the environment, the collector uses the other. -/
theorem two_brokers_differ :
    effectiveValue twoBrokers.environ "mqtt_host" ((twoBrokers.found id).settings "mqtt_host") = .text "a" ∧
      (runCollector twoBrokers.environ twoBrokers.settings id).map (fun s => s.value "mqtt_host") =
        some (.text "b") ∧
      ¬ ShownAsRun twoBrokers id := by
  have hshown : effectiveValue twoBrokers.environ "mqtt_host" ((twoBrokers.found id).settings "mqtt_host") =
      .text "a" := by
    decide +kernel
  have hused : (runCollector twoBrokers.environ twoBrokers.settings id).map (fun s => s.value "mqtt_host") =
      some (.text "b") := by
    decide +kernel
  refine ⟨hshown, hused, fun h => ?_⟩
  obtain ⟨started, hstarted, hvalue⟩ := Option.map_eq_some_iff.mp hused
  have hhost := (h started hstarted).1 "mqtt_host" "LUX_MQTT_HOST" .text (by decide +kernel)
  rw [hshown, hvalue] at hhost
  exact absurd hhost (by decide)

end LuxMon
