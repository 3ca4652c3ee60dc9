import MqttController.Topology

/-!
# Events and effects

What reaches the event processor and what it publishes.
-/

namespace MqttController

/-- A body to publish on a set topic. -/
inductive Payload
  /-- Recall a numbered scene on a group. -/
  | sceneRecall (sceneRecall : Nat)
  /-- Turn a light on with a scene's values. -/
  | lightOn (state : String) (brightness colorTemp : Option Nat) (transition : ℚ)
  /-- Turn off with a fade. -/
  | stateOff (state : String) (transition : ℚ)
  /-- Step the brightness. -/
  | brightnessStep (brightnessStep : Int) (transition : ℚ)
  /-- Move the brightness continuously; zero stops. -/
  | brightnessMove (brightnessMove : Int)
  /-- Switch a plug or a relay. -/
  | deviceStateSet (state : String)
  /-- Set a valve's target temperature. -/
  | trvSetpoint (occupiedHeatingSetpoint : ℚ)
  /-- Reassert an operating mode. -/
  | operatingMode (operatingMode : String)
  /-- Reassert a system mode. -/
  | systemMode (systemMode : String)
  deriving DecidableEq

namespace Payload

/-- Turn a light on with a scene. -/
def ofScene (scene : Scene) : Payload :=
  .lightOn "ON" scene.brightness scene.colorTemp scene.transition

/-- Turn off with a transition. -/
def off (transition : ℚ) : Payload := .stateOff "OFF" transition

/-- Switch a device on. -/
def deviceOn : Payload := .deviceStateSet "ON"

/-- Switch a device off. -/
def deviceOff : Payload := .deviceStateSet "OFF"

theorem deviceOn_ne_deviceOff : deviceOn ≠ deviceOff := by decide

end Payload

/-- One thing the controller publishes. -/
inductive Effect
  /-- To the group of a room. -/
  | publishGroupSet (room : RoomIdx) (payload : Payload)
  /-- To a device. -/
  | publishDeviceSet (device : DeviceIdx) (payload : Payload)
  /-- To one light endpoint. -/
  | publishLightSet (light : LightEndpoint) (payload : Payload)
  /-- Ask a device for its state. -/
  | publishDeviceGet (device : DeviceIdx)
  deriving DecidableEq

/-- One input event from the outside world. -/
inductive Event
  | buttonPress (device button : String) (gesture : Gesture) (ts : Instant)
  | occupancy (sensor : String) (occupied : Bool) (illuminance : Option Nat)
      (receivedAtEpochMs : Option Nat) (ts : Instant)
  | groupState (group : String) (on : Bool) (ts : Instant)
  | lightState (device : String) (on : Bool) (brightness colorTemp : Option Nat)
      (colorXy : Option (ℚ × ℚ)) (ts : Instant)
  | plugState (device : String) (on : Bool) (power : Option ℚ) (ts : Instant)
  | plugPowerUpdate (device : String) (watts : ℚ) (ts : Instant)
  | powerMeterState (device : String) (powerWatts energyKwh : Option ℚ) (ts : Instant)
  | trvState (device : String) (localTemperature : Option ℚ) (piHeatingDemand : Option Nat)
      (runningState : Option String) (occupiedHeatingSetpoint : Option ℚ)
      (operatingMode systemMode : Option String) (battery : Option Nat) (ts : Instant)
  | wallThermostatState (device : String) (relayOn : Option Bool) (localTemperature : Option ℚ)
      (operatingMode : Option String) (ts : Instant)
  | tick (ts : Instant)
  deriving DecidableEq

/-- The event reports the state or the power of a plug. -/
def Event.reportsPlug (device : String) : Event → Prop
  | .plugState other _ _ _ => other = device
  | .plugPowerUpdate other _ _ => other = device
  | _ => False

end MqttController
