import LuxMon.Effects.Prog
import LuxMon.Effects.Environment
import LuxMon.Effects.Ensures
import LuxMon.Effects.History
import LuxMon.Effects.Parallel
import LuxMon.Effects.Machine
import LuxMon.Effects.Pool
import LuxMon.Effects.Serial
import LuxMon.Signals.Edge
import LuxMon.Signals.Leftmost
import LuxMon.Framing.Scan
import LuxMon.Framing.Stream
import LuxMon.Python.Number
import LuxMon.Python.Json
import LuxMon.Protocol.Capabilities
import LuxMon.Protocol.Registers
import LuxMon.Protocol.Frame
import LuxMon.Protocol.Wire
import LuxMon.Protocol.FindFrames
import LuxMon.Protocol.Cut
import LuxMon.Protocol.Requests
import LuxMon.Protocol.Corruption
import LuxMon.Protocol.Conformance
import LuxMon.Dongle.Transaction
import LuxMon.Dongle.Inverter
import LuxMon.Dongle.Reliable
import LuxMon.Dongle.Silent
import LuxMon.Protocol.Convert
import LuxMon.Comm.Receive
import LuxMon.Comm.Chunking
import LuxMon.Comm.Persistent
import LuxMon.Comm.Polling
import LuxMon.Comm.Correlation
import LuxMon.Api.Holding
import LuxMon.Automation.Rules
import LuxMon.Automation.Engine
import LuxMon.Automation.Write
import LuxMon.Automation.Gate
import LuxMon.Automation.WriteRange
import LuxMon.QuickCharge.Manager
import LuxMon.QuickCharge.Spec
import LuxMon.QuickCharge.Races
import LuxMon.QuickCharge.StartStop
import LuxMon.QuickCharge.Tracked
import LuxMon.Reports
import LuxMon.Automation.Decide
import LuxMon.Automation.Evaluation
import LuxMon.Automation.Recorded
import LuxMon.Automation.Restore
import LuxMon.Alerts.Notifiers
import LuxMon.Alerts.Evaluate
import LuxMon.Alerts.Reload
import LuxMon.Alerts.Delivered
import LuxMon.Config.Settings
import LuxMon.Config.Collector
import LuxMon.Config.FailedReads
import LuxMon.Config.Converge
import LuxMon.Config.Precedence
import LuxMon.Config.Effective
import LuxMon.Automation.Endpoints
import LuxMon.Automation.DryRunTest
import LuxMon.Automation.Serialisable
import LuxMon.Python.Dict
import LuxMon.Storage.Decode
import LuxMon.Storage.Outputs
import LuxMon.Storage.OneValue
import LuxMon.Storage.Database
import LuxMon.Api.Snapshot
import LuxMon.Api.Views
import LuxMon.Storage.Visible
import LuxMon.Storage.Rs485
import LuxMon.Protocol.RoundTrip
import LuxMon.Api.WriteGate
import LuxMon.QuickCharge.Deadline
import LuxMon.Api.Batteries
import LuxMon.Comm.Frozen
import LuxMon.Comm.Shared
import LuxMon.Calendar.Gregorian
import LuxMon.Calendar.Weeks
import LuxMon.Api.Energy
import LuxMon.Config.Acknowledged
import LuxMon.Python.SetIterator
import LuxMon.Api.Broadcast
import LuxMon.Api.AlertsLive
import LuxMon.Automation.Intended
import LuxMon.Automation.Predict
import LuxMon.Checksum.ShiftRegister
import LuxMon.Protocol.Crc
import LuxMon.Signals.LastRun
import LuxMon.Alerts.GridLoss
import LuxMon.Automation.SocSchedule
import LuxMon.Automation.RoundTrip
import LuxMon.Api.Encodable
import LuxMon.Api.TimeOfDay
import LuxMon.Api.BlockRead
import LuxMon.Automation.RuleTable
import LuxMon.Automation.Idempotent
import LuxMon.Python.Decimal
import LuxMon.Alerts.Thresholds
import LuxMon.Config.MqttNumbers
import LuxMon.Config.EnvMirror
import LuxMon.Api.CodeBits
import LuxMon.Forecast.Bias
import LuxMon.Storage.Locality
import LuxMon.Storage.Frames
import LuxMon.Storage.Limits
import LuxMon.Storage.HourlyEnergy
import LuxMon.Rs485.JkBms
import LuxMon.Rs485.JkTruncated
import LuxMon.Rs485.Eg4A5
import LuxMon.Framing.Escape
import LuxMon.Python.Double
import LuxMon.Storage.LineProtocol
import LuxMon.Comm.HandedOut
import LuxMon.Comm.Heartbeat
import LuxMon.Comm.Staleness
import LuxMon.Dongle.Footprint
import LuxMon.QuickCharge.Alongside
import LuxMon.Rs485.Eg4A5Device
import LuxMon.Forecast.Refresh
import LuxMon.Forecast.Stored
import LuxMon.Rs485.Collector
import LuxMon.Api.Readings
import LuxMon.Api.History
import LuxMon.Api.HoldingReads
import LuxMon.Signals.Once
import LuxMon.Mqtt.Discovery
import LuxMon.Mqtt.Payload
import LuxMon.Mqtt.Entities
import LuxMon.Mqtt.Commands
import LuxMon.Config.SettingsPage
