import MqttController.Automation
import MqttController.Lib.Json

/-!
# The deployed configuration

The configuration file as it is read: the device catalog, rooms, bindings, motion rules and the
heating section, with devices and rooms by name.
-/

namespace MqttController

open Std

/-- Options of a device that the provisioning writes. -/
abbrev DeviceOptions := NameMap JsonValue

/-- An entry of the device catalog. -/
inductive DeviceCatalogEntry
  /-- A bulb. -/
  | light (options : DeviceOptions)
  /-- A switch and the name of its model. -/
  | switch (options : DeviceOptions) (model : String)
  | motionSensor (options : DeviceOptions)
  /-- A valve and its hardware variant. -/
  | trv (options : DeviceOptions) (variant : String)
  /-- A wall thermostat that serves as a relay. -/
  | wallThermostat (options : DeviceOptions)
  | powerMeter (options : DeviceOptions)
  /-- A plug, what it can report, and how it is reached. -/
  | plug (options : DeviceOptions) (variant : String) (capabilities : List String)
      (protocol : PlugProtocol) (nodeId : Option Nat)

namespace DeviceCatalogEntry

/-- The options of a device. -/
def options : DeviceCatalogEntry → DeviceOptions
  | light options => options
  | switch options _ => options
  | motionSensor options => options
  | trv options _ => options
  | wallThermostat options => options
  | powerMeter options => options
  | plug options _ _ _ _ => options

/-- The kind of a device. -/
def kind : DeviceCatalogEntry → DeviceKind
  | light _ => .light
  | switch _ _ => .switch
  | motionSensor _ => .motionSensor
  | trv _ _ => .trv
  | wallThermostat _ => .wallThermostat
  | powerMeter _ => .powerMeter
  | plug _ _ _ _ _ => .plug

/-- How errors call the kind of a device. -/
def kindLabel (entry : DeviceCatalogEntry) : String :=
  match entry.kind with
  | .light => "light"
  | .switch => "switch"
  | .motionSensor => "motion-sensor"
  | .plug => "plug"
  | .trv => "trv"
  | .wallThermostat => "wall-thermostat"
  | .powerMeter => "power-meter"

/-- The model of a switch. -/
def switchModel : DeviceCatalogEntry → Option String
  | switch _ model => some model
  | _ => none

/-- The hardware variant of a valve. -/
def trvVariant : DeviceCatalogEntry → Option String
  | trv _ variant => some variant
  | _ => none

/-- The bridge of a plug. -/
def plugProtocol : DeviceCatalogEntry → Option PlugProtocol
  | plug _ _ _ protocol _ => some protocol
  | _ => none

/-- The node of a Z-Wave plug. -/
def zwaveNodeId : DeviceCatalogEntry → Option Nat
  | plug _ _ _ .zwave nodeId => nodeId
  | _ => none

/-- A plug has a capability. -/
def hasCapability (entry : DeviceCatalogEntry) (capability : String) : Bool :=
  match entry with
  | plug _ _ capabilities _ _ => capabilities.contains capability
  | _ => false

/-- The variant that an error about a plug names. -/
def plugVariant : DeviceCatalogEntry → String
  | plug _ variant _ _ _ => variant
  | _ => "unknown"

/-- What the runtime asks of the device. -/
def info (name : String) (entry : DeviceCatalogEntry) : DeviceInfo where
  name
  kind := entry.kind
  plugProtocol := entry.plugProtocol
  powerMetered := entry.hasCapability "power"
  switchModel := entry.switchModel
  trvVariant := entry.trvVariant

end DeviceCatalogEntry

namespace Config

/-- A light group of the configuration. -/
structure Room where
  name : String
  /-- Name of the group on the bus. -/
  groupName : String
  /-- Number of the group. -/
  id : Nat
  /-- Members, `name/endpoint`. -/
  members : List String
  /-- Name of the parent room. -/
  parent : Option String
  scenes : SceneSchedule
  /-- Switch steps by slot. -/
  switchSteps : NameMap (List SwitchStep)
  offTransitionSeconds : ℚ

/-- When a binding fires. -/
inductive Trigger
  | button (device button : String) (gesture : Gesture)
  | powerBelow (device : String) (watts : ℚ) (forSeconds : Nat)
  | at (time : TimeExpr)

/-- What a binding does. -/
inductive Effect
  | sceneCycle (room : String)
  | groupSceneCycle (room : String)
  | sceneStepDown (room : String)
  | sceneToggle (room : String)
  | sceneToggleCycle (room : String)
  | turnOffRoom (room : String)
  | brightnessStep (room : String) (step : Int) (transition : ℚ)
  | brightnessMove (room : String) (rate : Int)
  | brightnessStop (room : String)
  | toggle (target : String) (confirmOffSeconds : Option ℚ)
  | turnOn (target : String)
  | turnOff (target : String)
  | turnOffAllZones
  deriving DecidableEq

namespace Effect

/-- The room of an effect on a room. -/
def room : Effect → Option String
  | sceneCycle room => some room
  | groupSceneCycle room => some room
  | sceneStepDown room => some room
  | sceneToggle room => some room
  | sceneToggleCycle room => some room
  | turnOffRoom room => some room
  | brightnessStep room _ _ => some room
  | brightnessMove room _ => some room
  | brightnessStop room => some room
  | _ => none

/-- The device of an effect on a device. -/
def target : Effect → Option String
  | toggle target _ => some target
  | turnOn target => some target
  | turnOff target => some target
  | _ => none

/-- The window in which a toggle is confirmed. -/
def confirmOffSeconds : Effect → Option ℚ
  | toggle _ confirmOffSeconds => confirmOffSeconds
  | _ => none

end Effect

/-- A binding of a trigger to an effect. -/
structure Binding where
  name : String
  trigger : Trigger
  effect : Effect

/-- What a motion rule controls in one slot. -/
inductive MotionTarget
  | group (group : String)
  /-- Light endpoints, `name/endpoint`. -/
  | lights (lights : List String)
  deriving DecidableEq

/-- A motion rule of the configuration. -/
structure MotionRule where
  name : String
  sensors : List String
  mode : MotionMode
  scenes : SceneSchedule
  targetsBySlot : NameMap MotionTarget
  offTransitionSeconds : ℚ
  offCooldownSeconds : Nat
  maxIlluminance : Option Nat

/-- The heating section with the meter of the heat pump. -/
structure Heating extends HeatingConfig where
  energyMeter : Option String

end Config

/-- The configuration. -/
structure Config where
  devices : NameMap DeviceCatalogEntry
  switchModels : NameMap SwitchModel
  rooms : List Config.Room
  motionRules : List Config.MotionRule
  bindings : List Config.Binding
  defaults : Defaults
  heating : Option Config.Heating
  location : Option Location

end MqttController
