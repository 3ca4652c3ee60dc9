import MqttController.SwitchSteps

/-!
# Scene and brightness control

The actions that buttons, timed triggers and the dashboard perform on a room.
-/

namespace MqttController

namespace Env

variable (env : Env)

/-- Wall switch: every press advances the cycle. -/
def executeSceneCycle (name : String) (ts : Instant) (world : WorldState) :
    WorldState × List Effect :=
  match env.executeSwitchSteps name .cycle ts world with
  | some result => result
  | none => env.executeGroupSceneCycle name ts world

/-- Turn an off room on with its first scene and an on room off. -/
def executeSceneToggle (name : String) (ts : Instant) (world : WorldState) :
    WorldState × List Effect :=
  match env.executeSwitchSteps name .toggle ts world with
  | some result => result
  | none =>
      match env.topology.roomIdx name, env.topology.roomByName name, env.scenesForRoom name with
      | some idx, some room, first :: _ =>
          if !(world.zoneAt name).isOn then env.recallScene name idx ts 0 first world
          else
            env.publishOff name idx room.offTransitionSeconds ts
              (env.resolveZoneOwner world name .user) world
      | _, _, _ => (world, [])

/-- Turn an off room on; cycle within the window after a press; otherwise turn off. -/
def executeSceneToggleCycle (name : String) (ts : Instant) (world : WorldState) :
    WorldState × List Effect :=
  match env.executeSwitchSteps name .toggleCycle ts world with
  | some result => result
  | none =>
      match env.topology.roomIdx name, env.topology.roomByName name, env.scenesForRoom name with
      | some idx, some room, first :: rest =>
          let zone := world.zoneAt name
          if !zone.isOn then env.recallScene name idx ts 0 first world
          else if env.withinCycleWindow zone ts then
            let scenes := first :: rest
            let next := if zone.switchCycle.isSome then 0 else (zone.cycleIdx + 1) % scenes.length
            env.recallScene name idx ts next (scenes.getD next first) world
          else
            env.publishOff name idx room.offTransitionSeconds ts
              (env.resolveZoneOwner world name .user) world
      | _, _, _ => (world, [])

/-- Send a brightness command to the lights of the active step, else to the group. -/
def executeBrightness (name : String) (payload : Payload) (ts : Instant) (world : WorldState) :
    WorldState × List Effect :=
  match env.executeSwitchBrightness name payload ts world with
  | some result => result
  | none =>
      match env.topology.roomIdx name with
      | none => (world, [])
      | some idx => (env.takeOverGroupBrightness name ts world, [.publishGroupSet idx payload])

/-- Step the brightness up or down. -/
def executeBrightnessStep (name : String) (step : Int) (transition : ℚ) (ts : Instant)
    (world : WorldState) : WorldState × List Effect :=
  env.executeBrightness name (.brightnessStep step transition) ts world

/-- Start a continuous brightness change. -/
def executeBrightnessMove (name : String) (rate : Int) (ts : Instant) (world : WorldState) :
    WorldState × List Effect :=
  env.executeBrightness name (.brightnessMove rate) ts world

/-- Stop a continuous brightness change. -/
def executeBrightnessStop (name : String) (ts : Instant) (world : WorldState) :
    WorldState × List Effect :=
  env.executeBrightness name (.brightnessMove 0) ts world

/-- Dashboard: recall a scene of a room. -/
def webRecallScene (name : String) (sceneId : Nat) (ts : Instant) (world : WorldState) :
    WorldState × List Effect :=
  match env.topology.roomIdx name, env.topology.roomByName name with
  | some idx, some room =>
      match room.scenes.sceneById sceneId with
      | none => (world, [])
      | some scene =>
          let cycleIdx := ((env.scenesForRoom name).findIdx? fun id => id == sceneId).getD 0
          let owner := env.resolveZoneOwner world name .webUI
          let targeted := world.modifyZone name fun zone =>
            { zone.command (.on sceneId cycleIdx) owner ts with lastPressAt := some ts }
          let recorded := env.recordGroupLightCommand name (.on scene.brightness scene.colorTemp)
            .webUI ts targeted
          (env.propagateToDescendants name true ts recorded,
            [.publishGroupSet idx (.sceneRecall sceneId)])
  | _, _ => (world, [])

/-- Dashboard: turn a room off. -/
def webSetRoomOff (name : String) (ts : Instant) (world : WorldState) :
    WorldState × List Effect :=
  match env.topology.roomIdx name, env.topology.roomByName name with
  | some idx, some room =>
      env.publishOff name idx room.offTransitionSeconds ts
        (env.resolveZoneOwner world name .webUI) world
  | _, _ => (world, [])

end Env

end MqttController
