import MqttController.Plugs
import MqttController.SceneControl

/-!
# The effects of bindings

What a binding does when a button, a time of day or a kill switch triggers it.
-/

namespace MqttController

open Std

namespace WorldState

/-- Forget an armed off confirmation. -/
def dropConfirmOff (world : WorldState) (ruleName : String) : WorldState :=
  { world with confirmOffPending := world.confirmOffPending.erase ruleName }

/-- Arm an off confirmation. -/
def armConfirmOff (world : WorldState) (ruleName : String) (ts : Instant) : WorldState :=
  { world with confirmOffPending := world.confirmOffPending.insert ruleName ts }

/-- Turn off one zone that is on, on behalf of all zones. -/
def turnOffZone (ts : Instant) (entry : RoomIdx × ResolvedRoom × Owner) :
    Emission.Step WorldState Effect := fun world =>
  let (idx, room, owner) := entry
  if (world.zoneAt room.name).isOn then
    (world.modifyZone room.name fun zone =>
      { zone.command .off owner ts with lastPressAt := none, lastOffAt := some ts },
      [.publishGroupSet idx (.off room.offTransitionSeconds)])
  else (world.modifyZone room.name id, [])

end WorldState

namespace Env

variable (env : Env)

/-- Every room with the owner of its OFF write. -/
def zoneOwners (world : WorldState) : List (RoomIdx × ResolvedRoom × Owner) :=
  env.topology.rooms.zipIdx.map fun entry =>
    (entry.2, entry.1, env.resolveZoneOwner world entry.1.name .schedule)

/-- Turn off the zone of every room that is on. -/
def turnOffAllZones (ts : Instant) (world : WorldState) : WorldState × List Effect :=
  Emission.forEach (WorldState.turnOffZone ts) (env.zoneOwners world) world

/-- Switch a plug for a user. -/
def switchPlug (plug : DeviceIdx) (on : Bool) (ts : Instant) (world : WorldState) :
    WorldState × List Effect :=
  (world.modifyPlug (env.topology.deviceName plug) fun plug =>
    plug.command (if on then .on else .off) .user ts,
    [.publishDeviceSet plug (if on then .deviceOn else .deviceOff)])

/-- Toggle a plug; turning it off may need a second press within a window. -/
def togglePlug (ruleName : String) (plug : DeviceIdx) (confirmOffSeconds : Option ℚ)
    (ts : Instant) (world : WorldState) : WorldState × List Effect :=
  let isOn := (world.plugs[env.topology.deviceName plug]?).any (·.isOn)
  match isOn, confirmOffSeconds with
  | true, some window =>
      let confirmed := (world.confirmOffPending[ruleName]?).any fun armed =>
        decide (durationSince ts armed ≤ Duration.fromSecsF64 window)
      if confirmed then env.switchPlug plug false ts (world.dropConfirmOff ruleName)
      else (world.armConfirmOff ruleName ts, [])
  | _, _ => env.switchPlug plug (!isOn) ts (world.dropConfirmOff ruleName)

/-- Execute the effect of a binding. -/
def executeEffect (ruleName : String) (effect : ResolvedEffect) (ts : Instant)
    (world : WorldState) : WorldState × List Effect :=
  match effect with
  | .sceneCycle room => env.executeSceneCycle (env.topology.roomName room) ts world
  | .groupSceneCycle room => env.executeGroupSceneCycle (env.topology.roomName room) ts world
  | .sceneStepDown room => env.executeSceneStepDown (env.topology.roomName room) ts world
  | .sceneToggle room => env.executeSceneToggle (env.topology.roomName room) ts world
  | .sceneToggleCycle room => env.executeSceneToggleCycle (env.topology.roomName room) ts world
  | .turnOffRoom room => env.executeTurnOffRoom (env.topology.roomName room) ts world
  | .brightnessStep room step transition =>
      env.executeBrightnessStep (env.topology.roomName room) step transition ts world
  | .brightnessMove room rate =>
      env.executeBrightnessMove (env.topology.roomName room) rate ts world
  | .brightnessStop room => env.executeBrightnessStop (env.topology.roomName room) ts world
  | .toggle plug confirmOffSeconds => env.togglePlug ruleName plug confirmOffSeconds ts world
  | .turnOn plug => env.switchPlug plug true ts world
  | .turnOff plug => env.switchPlug plug false ts world
  | .turnOffAllZones => env.turnOffAllZones ts world

end Env

end MqttController
