import MqttController.Actions
import MqttController.Audit
import MqttController.Automation
import MqttController.Boosts
import MqttController.ButtonSteps
import MqttController.Config.Coverage
import MqttController.Config.Deployment
import MqttController.Config.Heating
import MqttController.Config.HeatingAcceptance
import MqttController.Config.HeatingSection
import MqttController.Config.Scenes
import MqttController.Config.TimeText
import MqttController.Confirmations
import MqttController.Control
import MqttController.CycleCursors
import MqttController.Daemon
import MqttController.Descendants
import MqttController.Domain
import MqttController.Entities
import MqttController.FlowPaths
import MqttController.Frames
import MqttController.Frontend.Bookkeeping
import MqttController.Frontend.Connection
import MqttController.Frontend.ConnectionOutputs
import MqttController.Frontend.ConnectionProgress
import MqttController.Frontend.ConnectionReports
import MqttController.Frontend.ConnectionRoles
import MqttController.Frontend.ConnectionTimers
import MqttController.Frontend.Delivery
import MqttController.Frontend.Energy
import MqttController.Frontend.Exclusivity
import MqttController.Frontend.Protocol
import MqttController.Frontend.RequestSteps
import MqttController.Frontend.Requests
import MqttController.Frontend.Store
import MqttController.GroupCommands
import MqttController.GroupMessages
import MqttController.Handlers
import MqttController.HeatDemand
import MqttController.Heating.Relays
import MqttController.Heating.Telemetry
import MqttController.Heating.Valves
import MqttController.KillSwitchRuns
import MqttController.KillSwitches
import MqttController.KnownPlugs
import MqttController.Lib.Checked
import MqttController.Lib.Cursor
import MqttController.Lib.Emission
import MqttController.Lib.Intervals
import MqttController.Lib.Json
import MqttController.Lib.Keyed
import MqttController.Lib.KeyedChange
import MqttController.Lib.Loop
import MqttController.Lib.OrderedMap
import MqttController.Lib.Overlay
import MqttController.Lib.Text
import MqttController.Lib.Validation
import MqttController.LightChanges
import MqttController.LightReports
import MqttController.LightWrites
import MqttController.Lights
import MqttController.ManualChanges
import MqttController.Motion
import MqttController.MotionChanges
import MqttController.MotionMessages
import MqttController.MotionResets
import MqttController.Mqtt.Parse
import MqttController.Mqtt.Seed
import MqttController.OffOnlyClaims
import MqttController.OpenWindows
import MqttController.Operation
import MqttController.PlugArming
import MqttController.PlugSteps
import MqttController.Plugs
import MqttController.Presses
import MqttController.PressureGroups
import MqttController.Provision.Client
import MqttController.Provision.GroupRequests
import MqttController.Provision.GroupRuns
import MqttController.Provision.Groups
import MqttController.Provision.Inventory
import MqttController.Provision.Names
import MqttController.PumpTimes
import MqttController.Reach
import MqttController.RelayDecisions
import MqttController.ReportChanges
import MqttController.Restarts
import MqttController.SceneControl
import MqttController.Sessions
import MqttController.Setpoints
import MqttController.Settings
import MqttController.SettingsStore
import MqttController.ShortCycling
import MqttController.Staleness
import MqttController.StepConfirmations
import MqttController.StepDown
import MqttController.StepObservations
import MqttController.SwitchCycles
import MqttController.SwitchSteps
import MqttController.Takeover
import MqttController.Tass
import MqttController.Time
import MqttController.TimeArithmetic
import MqttController.TimedActions
import MqttController.Topology
import MqttController.TopologyBuild
import MqttController.TopologyBuilt
import MqttController.TopologyChecks
import MqttController.TopologyRefusals
import MqttController.TopologyRules
import MqttController.Triggers
import MqttController.ValveSteps
import MqttController.Web.Agreement
import MqttController.Web.Snapshot
import MqttController.WindowHolds
import MqttController.World
import MqttController.ZoneObservations
