import LuxMon.Storage.Frames
import LuxMon.Storage.OneValue
import LuxMon.Alerts.Notifiers
import LuxMon.Config.Acknowledged
import LuxMon.Effects.Machine
import LuxMon.Signals.Once

/-!
# MQTT and Home Assistant

What a collector publishes: the state of each write, the controllable settings, and
the discovery configs from which Home Assistant makes its entities.  A config is
retained and published once for each `Outputs` object.  The callback of a command runs
in another thread and can change the temperature unit at any time; frames come in at
any time too.
-/

namespace LuxMon

open Python Signals

/-! ## Discovery configs -/

/-- The fields of `OutputConfig` that the MQTT writer reads. -/
structure MqttConfig extends OutputConfig where
  temperatureUnit : String := "celsius"

/-- A row of the tables of `_ha_announce`. -/
structure SensorInfo where
  key : String
  name : String
  deviceClass : String
  unit : String
  icon : String
  stateClass : Option String := none

/-- `temp_unit`. -/
def tempUnit (temperatureUnit : String) : String := if temperatureUnit = "fahrenheit" then "°F" else "°C"

/-- `sensors`, then `energy_sensors`. -/
def sensorTable (temperatureUnit : String) : List SensorInfo := [
  { key := "pv_power_total", name := "PV Power", deviceClass := "power", unit := "W", icon := "solar-power" },
  { key := "grid_power_net", name := "Grid Net Power", deviceClass := "power", unit := "W", icon := "transmission-tower" },
  { key := "battery_power_net", name := "Battery Net Power", deviceClass := "power", unit := "W", icon := "battery" },
  { key := "load_power", name := "Load Power", deviceClass := "power", unit := "W", icon := "lightning-bolt" },
  { key := "soc", name := "Battery SOC", deviceClass := "battery", unit := "%", icon := "battery" },
  { key := "battery_voltage", name := "Battery Voltage", deviceClass := "voltage", unit := "V", icon := "flash" },
  { key := "pv1_voltage", name := "PV Voltage 1", deviceClass := "voltage", unit := "V", icon := "solar-power" },
  { key := "pv2_voltage", name := "PV Voltage 2", deviceClass := "voltage", unit := "V", icon := "solar-power" },
  { key := "grid_voltage_r", name := "Grid Voltage", deviceClass := "voltage", unit := "V", icon := "transmission-tower" },
  { key := "grid_frequency", name := "Grid Frequency", deviceClass := "frequency", unit := "Hz", icon := "sine-wave" },
  { key := "ac_output_voltage", name := "AC Output Voltage", deviceClass := "voltage", unit := "V", icon := "flash" },
  { key := "temp_inverter", name := "Inverter Temperature", deviceClass := "temperature",
    unit := tempUnit temperatureUnit, icon := "thermometer" },
  { key := "temp_battery", name := "Battery Temperature", deviceClass := "temperature",
    unit := tempUnit temperatureUnit, icon := "thermometer" },
  { key := "temp_radiator_1", name := "Radiator Temperature 1", deviceClass := "temperature",
    unit := tempUnit temperatureUnit, icon := "thermometer" },
  { key := "temp_radiator_2", name := "Radiator Temperature 2", deviceClass := "temperature",
    unit := tempUnit temperatureUnit, icon := "thermometer" },
  { key := "eps_power", name := "EPS Output Power", deviceClass := "power", unit := "W", icon := "flash" },
  { key := "eps_frequency", name := "EPS Output Frequency", deviceClass := "frequency", unit := "Hz", icon := "sine-wave" },
  { key := "runtime", name := "Runtime", deviceClass := "duration", unit := "s", icon := "timer" },
  { key := "state", name := "Operating State", deviceClass := "", unit := "", icon := "information" },
  { key := "fault_code", name := "Fault Code", deviceClass := "", unit := "", icon := "alert" },
  { key := "warning_code", name := "Warning Code", deviceClass := "", unit := "", icon := "alert" },
  { key := "pv_energy_total", name := "PV Energy Total", deviceClass := "energy", unit := "kWh", icon := "solar-power",
    stateClass := some "total_increasing" },
  { key := "grid_import_energy_total", name := "Grid Import Energy Total", deviceClass := "energy", unit := "kWh",
    icon := "transmission-tower", stateClass := some "total_increasing" },
  { key := "grid_export_energy_total", name := "Grid Export Energy Total", deviceClass := "energy", unit := "kWh",
    icon := "transmission-tower", stateClass := some "total_increasing" },
  { key := "battery_in_energy_total", name := "Battery Charge Energy Total", deviceClass := "energy", unit := "kWh",
    icon := "battery-charging", stateClass := some "total_increasing" },
  { key := "battery_out_energy_total", name := "Battery Discharge Energy Total", deviceClass := "energy", unit := "kWh",
    icon := "battery", stateClass := some "total_increasing" }]

/-- `device_info`. -/
def deviceInfo (cfg : MqttConfig) : Json := .obj [
  ("identifiers", .arr [.str cfg.mqttDeviceId]),
  ("name", .str cfg.mqttDeviceName),
  ("model", .str "lux-mon"),
  ("manufacturer", .str "lux-mon"),
  ("sw_version", .str "0.5.0")]

/-- The config of a sensor. -/
structure SensorConfig where
  name : String
  uniqueId : String
  stateTopic : String
  valueTemplate : String
  unitOfMeasurement : String
  deviceClass : String
  stateClass : Option String
  icon : String
  device : Json

def SensorConfig.toJson (c : SensorConfig) : Json := .obj (
  [("name", .str c.name),
   ("unique_id", .str c.uniqueId),
   ("state_topic", .str c.stateTopic),
   ("value_template", .str c.valueTemplate),
   ("unit_of_measurement", .str c.unitOfMeasurement),
   ("device_class", .str c.deviceClass)] ++
  c.stateClass.toList.map (fun s => ("state_class", Json.str s)) ++
  [("icon", .str c.icon),
   ("device", c.device)])

/-- The config of a number. -/
structure NumberConfig where
  name : String
  uniqueId : String
  stateTopic : String
  commandTopic : String
  min : ℚ
  max : ℚ
  step : ℚ
  device : Json
  unit : String

/-- A bound of the table: integers and 0.1. -/
def boundJson (q : ℚ) : Json := if q.den = 1 then .int q.num else .float (.fin q)

def NumberConfig.toJson (c : NumberConfig) : Json := .obj (
  [("name", .str c.name),
   ("unique_id", .str c.uniqueId),
   ("state_topic", .str c.stateTopic),
   ("command_topic", .str c.commandTopic),
   ("min", boundJson c.min),
   ("max", boundJson c.max),
   ("step", boundJson c.step),
   ("device", c.device)] ++
  if c.unit = "" then [] else [("unit_of_measurement", .str c.unit)])

/-- What is published: JSON but for the settings, which are plain text. -/
inductive Publication
  | state (topic : String) (payload : Dict String Json)
  | setting (topic : String) (text : String)
  | sensor (topic : String) (config : SensorConfig)
  | number (topic : String) (config : NumberConfig)

def stateTopic (cfg : MqttConfig) : String := cfg.mqttTopicPrefix ++ "/" ++ cfg.mqttDeviceId ++ "/state"

def settingTopic (cfg : MqttConfig) (name : String) : String :=
  cfg.mqttTopicPrefix ++ "/" ++ cfg.mqttDeviceId ++ "/settings/" ++ name

def commandTopic (cfg : MqttConfig) (name : String) : String :=
  cfg.mqttTopicPrefix ++ "/" ++ cfg.mqttDeviceId ++ "/set/" ++ name

/-- The template that takes the value of a key out of the state. -/
def valueTemplate (key : String) : String := "\x7b\x7b value_json." ++ key ++ " \x7d\x7d"

/-- `uniq` of a sensor. -/
def sensorId (cfg : MqttConfig) (key : String) : String := cfg.mqttDeviceId ++ "_" ++ key

/-- `uniq` of a number. -/
def numberId (cfg : MqttConfig) (name : String) : String := cfg.mqttDeviceId ++ "_set_" ++ name

def sensorConfig (cfg : MqttConfig) (s : SensorInfo) : SensorConfig where
  name := s.name
  uniqueId := sensorId cfg s.key
  stateTopic := stateTopic cfg
  valueTemplate := valueTemplate s.key
  unitOfMeasurement := s.unit
  deviceClass := s.deviceClass
  stateClass := s.stateClass
  icon := "mdi:" ++ s.icon
  device := deviceInfo cfg

/-- `label` and `hint` of `SETTING_META`, for `CONTROLLABLE_SETTINGS`; none has a `unit`. -/
def settingTexts : List (String × String × String) := [
  ("pv_max_power", "Max Solar PV Power", "Watts — gauge ceiling for solar input"),
  ("grid_max_power", "Max Grid Power", "Watts — max grid pass-through"),
  ("eps_max_power", "Max EPS Power", "Watts — max backup output"),
  ("charge_max_power", "Max Charge Power", "Watts — max battery charge rate"),
  ("discharge_max_power", "Max Discharge Power", "Watts — max battery discharge rate"),
  ("battery_capacity", "Capacity", "Amp-hours — rated battery capacity"),
  ("battery_metric", "Battery Metric", "Primary battery display metric on dashboard"),
  ("dashboard_refresh_sec", "Refresh Interval", "Seconds between dashboard updates"),
  ("chart_default_hours", "Default Chart Range", "Hours shown on initial chart load"),
  ("temperature_unit", "Temperature Unit", "Temperature display unit throughout dashboard"),
  ("alerts_enabled", "Enable Alerts", "Evaluate alert rules on every snapshot"),
  ("alerts_soc_low", "SOC Low Threshold", "Battery SOC % that triggers a low alert"),
  ("alerts_soc_critical", "SOC Critical Threshold", "Battery SOC % that triggers a critical alert"),
  ("alerts_battery_temp_high", "Battery High Temp", "Battery temperature (°C) that triggers a high temp alert"),
  ("alerts_inverter_temp_high", "Inverter High Temp",
    "Inverter heatsink temperature (°C) that triggers a high temp alert"),
  ("alerts_grid_lost_threshold_sec", "Grid Loss Delay",
    "Seconds grid voltage/frequency must be absent before a grid-loss alert fires"),
  ("alerts_email_enabled", "Enable Email Alerts", "Send alert state changes via authenticated SMTP relay"),
  ("alerts_email_smtp_host", "SMTP Host", "e.g. smtp.gmail.com — authenticated relay only, never direct delivery"),
  ("alerts_email_smtp_port", "SMTP Port", "587 for STARTTLS, 465 for SSL/TLS"),
  ("alerts_email_username", "SMTP Username", "Usually the full email address"),
  ("alerts_email_password", "SMTP Password / App Token", "Use an app-specific password for Gmail / Outlook"),
  ("alerts_email_from", "From Address", "Sender email address"),
  ("alerts_email_to", "To Address(es)", "Comma-separated recipient addresses"),
  ("alerts_email_tls", "Use TLS", "Always enable TLS/STARTTLS for SMTP relay"),
  ("alerts_webhook_enabled", "Enable Webhook Alerts", "POST JSON alert events to a custom URL"),
  ("alerts_webhook_url", "Webhook URL", "HTTPS endpoint that receives POST JSON payloads")]

/-- `min`, `max` and `step` of an entry, with the defaults that a discovery config takes. -/
def SettingType.bounds : SettingType → ℚ × ℚ × ℚ
  | .number mn mx step => (mn.getD 0, mx.getD 65535, step.getD 1)
  | _ => (0, 65535, 1)

/-- `hint.split()[-1]`, of hints whose words are one space apart. -/
def hintUnit (hint : String) : String :=
  String.ofList (hint.toList.reverse.takeWhile (· ≠ ' ')).reverse

def numberConfig (cfg : MqttConfig) (name : String) (type : SettingType) : NumberConfig :=
  let texts := (settingTexts.lookup name).getD (name, "")
  { name := texts.1
    uniqueId := numberId cfg name
    stateTopic := settingTopic cfg name
    commandTopic := commandTopic cfg name
    min := type.bounds.1
    max := type.bounds.2.1
    step := type.bounds.2.2
    device := deviceInfo cfg
    unit := hintUnit texts.2 }

/-- A config with its `uniq`. -/
structure Discovery where
  uniq : String
  publication : Publication

def sensorDiscovery (cfg : MqttConfig) (s : SensorInfo) : Discovery where
  uniq := sensorId cfg s.key
  publication := .sensor (cfg.mqttHaPrefix ++ "/sensor/" ++ sensorId cfg s.key ++ "/config") (sensorConfig cfg s)

def numberDiscovery (cfg : MqttConfig) (e : String × SettingType) : Discovery where
  uniq := numberId cfg e.1
  publication := .number (cfg.mqttHaPrefix ++ "/number/" ++ numberId cfg e.1 ++ "/config") (numberConfig cfg e.1 e.2)

/-- `key in decoded or key in computed`. -/
def hasKey (decoded : Decoded) (computed : Dict String PyFloat) (key : String) : Bool :=
  decoded.keys.contains key || computed.keys.contains key

/-- The configs that `_ha_announce` and then `_publish_ha_number_discovery` come to; the
settings are those of a set, in some order. -/
def offered (cfg : MqttConfig) (order : List (String × SettingType)) (decoded : Decoded)
    (computed : Dict String PyFloat) : List Discovery :=
  ((sensorTable cfg.temperatureUnit).filter fun s => hasKey decoded computed s.key).map (sensorDiscovery cfg) ++
    order.map (numberDiscovery cfg)

/-! ## The collector -/

/-- The MQTT side of `Outputs`. -/
structure MqttOutputs where
  cfg : MqttConfig
  /-- `_mqtt_client` is there. -/
  client : Bool
  /-- `_mqtt_ha_announced`. -/
  announced : List String := []

/-- The received registers, the outputs, and what the writer has published but not yet announced. -/
structure MqttCollector where
  latest : LatestRaw := {}
  outputs : MqttOutputs
  announcing : Option Decoded := none

/-- The writer thread rebuilds the outputs, or publishes and then announces.  The other threads
deliver frames and carry out commands in between. -/
inductive MqttTurn
  | frame (f : LuxFrame)
  | setUnit (value : String)
  | rebuild (cfg : MqttConfig) (client : Bool)
  | publish (settings : Option Settings)
  | announce

def MqttTurn.frames : MqttTurn → List LuxFrame
  | .frame f => [f]
  | _ => []

section
variable (family : DriverFamily) (order : List (String × SettingType))

/-- `_publish_settings_state`; without a connection to MariaDB there are no settings. -/
def publishSettingsState (cfg : MqttConfig) (settings : Option Settings) : List Publication :=
  match settings with
  | none => []
  | some settings => order.filterMap fun e => (settings e.1).map fun value => .setting (settingTopic cfg e.1) value

/-- `_writer_loop` up to the state and the settings of `_write_mqtt`; an exception ends the cycle. -/
def MqttCollector.publish (m : MqttCollector) (settings : Option Settings) : MqttCollector × List Publication :=
  if 4 ∉ m.latest.input.keys ∨ m.outputs.client = false then (m, [])
  else
    let written := do
      let shown ← convertTemperatures m.outputs.cfg.temperatureUnit (family.decode m.latest.input)
      let payload ← mqttPayload shown
      return (shown, payload)
    match written with
    | .error _ => (m, [])
    | .ok (shown, payload) => ({ m with announcing := some shown },
        .state (stateTopic m.outputs.cfg) payload :: publishSettingsState order m.outputs.cfg settings)

/-- The rest of `_write_mqtt`. -/
def MqttCollector.announce (m : MqttCollector) : MqttCollector × List Publication :=
  match m.announcing with
  | none => (m, [])
  | some shown =>
    match buildComputed shown with
    | .error _ => ({ m with announcing := none }, [])
    | .ok computed =>
      if m.outputs.cfg.mqttHaDiscovery then
        let passed := passNew Discovery.uniq m.outputs.announced (offered m.outputs.cfg order shown computed)
        ({ m with outputs := { m.outputs with announced := passed.1 }, announcing := none },
          passed.2.map Discovery.publication)
      else ({ m with announcing := none }, [])

def mqttStep (m : MqttCollector) : MqttTurn → MqttCollector × List Publication
  | .frame f => ({ m with latest := handleFrame m.latest f }, [])
  | .setUnit value => ({ m with outputs := { m.outputs with cfg := { m.outputs.cfg with temperatureUnit := value } } }, [])
  | .rebuild cfg client => ({ m with outputs := { cfg := cfg, client := client }, announcing := none }, [])
  | .publish settings => m.publish family order settings
  | .announce => m.announce order

/-- All that is published in a run. -/
def publications (m : MqttCollector) (turns : List MqttTurn) : List Publication :=
  (Machine.outputs (mqttStep family order) m turns).flatten

end

/-- The collector that has just started. -/
def MqttCollector.start (cfg : MqttConfig) (client : Bool) : MqttCollector where
  outputs := { cfg := cfg, client := client }

def MqttTurn.Rebuilds : MqttTurn → Prop
  | .rebuild .. => True
  | _ => False

/-- The `unique_id` of a config. -/
def Publication.uniqueId : Publication → Option String
  | .sensor _ config => some config.uniqueId
  | .number _ config => some config.uniqueId
  | _ => none

/-- The frames that come in during a run. -/
def framesOf (turns : List MqttTurn) : List LuxFrame := turns.flatMap MqttTurn.frames

end LuxMon
