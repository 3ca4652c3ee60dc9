import MqttController.Lights

/-!
# Switch steps

A room may cycle through steps that select some of its members instead of recalling group scenes.
-/

namespace MqttController

/-- What a press on a stepped room asks for. -/
inductive SwitchAction
  | cycle
  | toggle
  | toggleCycle
  deriving DecidableEq, Repr

namespace LightZoneEntity

/-- The zone counts as on, unless an OFF command is in flight. -/
def isOnForSteps (zone : LightZoneEntity) : Bool :=
  zone.isOn && !(zone.target.isActionable && zone.target.value == some .off)

/-- The step after the one the cycle points at, the first one outside the cycle. -/
def nextStep (zone : LightZoneEntity) (slot : String) (count : Nat) : Nat :=
  if zone.isOnForSteps && zone.targetIsOn then
    match zone.switchCycle.filter fun cycle => cycle.slot == slot with
    | some cycle => (cycle.step + 1) % count
    | none => 0
  else 0

end LightZoneEntity

namespace Env

variable (env : Env)

/-- The active slot of a room and its switch steps, if the slot has any. -/
def activeSwitchSteps (name : String) : Option (String × List ResolvedSwitchStep) :=
  match env.topology.roomByName name with
  | none => none
  | some room =>
      if (env.roomSwitchSteps room).isEmpty then none
      else
        match env.activeSlot (env.roomSlots room) with
        | none => none
        | some (slot, _) => ((env.roomSwitchSteps room)[slot]?).map fun steps => (slot, steps)

/-- The time since the last press is below the cycle window. -/
def withinCycleWindow (zone : LightZoneEntity) (ts : Instant) : Bool :=
  zone.lastPressAt.any fun last =>
    decide (durationSince ts last < Duration.fromSecsF64 env.defaults.cycleWindowSeconds)

/-- Command one member for a step: selected members on, the others off. -/
def applyStepTo (step : ResolvedSwitchStep) (ts : Instant) (world : WorldState)
    (member : LightEndpoint) : WorldState :=
  let owner := env.resolveLightOwner world member.device .user
  let target :=
    if member ∈ step.lights then .on step.scene.brightness step.scene.colorTemp else .off
  world.modifyLight (env.lightName member) fun light => light.command target owner ts

/-- The message to one member for a step. -/
def stepEffect (step : ResolvedSwitchStep) (offTransition : ℚ) (member : LightEndpoint) : Effect :=
  .publishLightSet member
    (if member ∈ step.lights then Payload.ofScene step.scene else .off offTransition)

/-- Apply the step at a position to every member of a room and point the cycle at it. -/
def applySwitchStep (name : String) (room : ResolvedRoom) (slot : String)
    (step : ResolvedSwitchStep) (index : Nat) (ts : Instant) (world : WorldState) :
    WorldState × List Effect :=
  let commanded := room.lightMembers.foldl (env.applyStepTo step ts) world
  let owner := env.resolveZoneOwner commanded name .user
  (commanded.modifyZone name fun zone =>
    { zone.command (.on step.scene.id index) owner ts with
      switchCycle := some { slot, step := index }, lastPressAt := some ts },
    room.lightMembers.map (stepEffect step room.offTransitionSeconds))

/-- A press turns a stepped room off rather than applying a step. -/
def pressTurnsOff (action : SwitchAction) (zone : LightZoneEntity) (ts : Instant) : Bool :=
  zone.isOnForSteps && match action with
    | .cycle => false
    | .toggle => true
    | .toggleCycle => !env.withinCycleWindow zone ts

/-- Act on a press of a stepped room; nothing happens when the active slot has no steps. -/
def executeSwitchSteps (name : String) (action : SwitchAction) (ts : Instant)
    (world : WorldState) : Option (WorldState × List Effect) :=
  match env.activeSwitchSteps name with
  | none => none
  | some (slot, steps) =>
      let zone := world.zoneAt name
      if env.pressTurnsOff action zone ts then some (env.executeTurnOffRoom name ts world)
      else
        let index := zone.nextStep slot steps.length
        match steps[index]?, env.topology.roomByName name with
        | some step, some room => some (env.applySwitchStep name room slot step index ts world)
        | _, _ => some (world, [])

/-- The light is on, by its command while one is in flight, else by its report. -/
def lightIsEffectivelyOn (world : WorldState) (endpoint : LightEndpoint) : Bool :=
  match world.lights[env.lightName endpoint]? with
  | none => false
  | some light => if light.target.isActionable then light.targetIsOn else light.actualIsOn

/-- The lights a step added to its predecessor, when stepping back would turn off exactly those. -/
def switchStepDownDelta (world : WorldState) (steps : List ResolvedSwitchStep) (index : Nat) :
    Option (List LightEndpoint) :=
  match steps[index]?, if index = 0 then none else steps[index - 1]? with
  | some current, some previous =>
      if current.scene.id = previous.scene.id &&
          previous.lights.all (fun light => current.lights.contains light) &&
          previous.lights.all (env.lightIsEffectivelyOn world) then
        let removed := current.lights.filter fun light => !previous.lights.contains light
        if !removed.isEmpty && removed.any (env.lightIsEffectivelyOn world) then some removed
        else none
      else none
  | _, _ => none

/-- Command one light off for a step back. -/
def removeLight (ts : Instant) (world : WorldState) (endpoint : LightEndpoint) : WorldState :=
  let owner := env.resolveLightOwner world endpoint.device .user
  world.modifyLight (env.lightName endpoint) fun light => light.command .off owner ts

/-- What stepping back does to the zone. -/
def stepDownZone (slot : String) (previous : ResolvedSwitchStep) (candidate : Nat)
    (followsCursor : Bool) (owner : Owner) (ts : Instant) (zone : LightZoneEntity) :
    LightZoneEntity :=
  let stepped :=
    if followsCursor then
      { zone.command (.on previous.scene.id (candidate - 1)) owner ts with
        switchCycle := some { slot, step := candidate - 1 } }
    else if zone.targetIsOn then { zone.reassignOwner owner ts with switchCycle := none }
    else { zone with target := zone.target.adopt (.on 0 0) owner ts, switchCycle := none }
  { stepped with lastPressAt := some ts }

/-- Step back one switch step, turning off the lights it added, or turn the room off. -/
def executeSceneStepDown (name : String) (ts : Instant) (world : WorldState) :
    WorldState × List Effect :=
  match env.activeSwitchSteps name with
  | none => env.executeTurnOffRoom name ts world
  | some (slot, steps) =>
      let current := ((world.lightZones[name]?).bind (·.switchCycle)).bind fun cycle =>
        if cycle.slot = slot then some cycle.step else none
      let expands index := (env.switchStepDownDelta world steps index).isSome
      let candidate :=
        match current.filter expands with
        | some index => some index
        | none => ((List.range steps.length).filter fun index => decide (1 ≤ index)).find? expands
      match candidate with
      | none => env.executeTurnOffRoom name ts world
      | some candidate =>
          let followsCursor := decide (current = some candidate)
          if !followsCursor && (world.lightZones[name]?).any fun zone =>
              zone.target.isActionable && !zone.targetIsOn then
            env.executeTurnOffRoom name ts world
          else
            match env.topology.roomByName name, steps[candidate - 1]?,
                env.switchStepDownDelta world steps candidate with
            | some room, some previous, some removed =>
                let commanded := removed.foldl (env.removeLight ts) world
                let owner := env.resolveZoneOwner commanded name .user
                (commanded.modifyZone name
                  (stepDownZone slot previous candidate followsCursor owner ts),
                  removed.map fun light =>
                    .publishLightSet light (.off room.offTransitionSeconds))
            | _, _, _ => (world, [])

/-- The step the cycle of a zone points at. -/
def cycleStep (room : ResolvedRoom) (cycle : SwitchCycle) : Option ResolvedSwitchStep :=
  ((env.roomSwitchSteps room)[cycle.slot]?).bind fun steps => steps[cycle.step]?

/-- A member shows what the step asks of it, by a report made after its command. -/
def memberConfirms (world : WorldState) (step : ResolvedSwitchStep) (member : LightEndpoint) :
    Bool :=
  match world.lights[env.lightName member]? with
  | none => false
  | some light =>
      match light.target with
      | .unset => false
      | .held expected _ _ commanded =>
          expected.isOn == decide (member ∈ step.lights) &&
            light.actual.value.any expected.isMatchedBy &&
            light.actual.since.any fun since => decide (commanded ≤ since)

/-- Every member confirms the active switch step; true without one. -/
def switchStepIsConfirmed (world : WorldState) (name : String) : Bool :=
  match (world.lightZones[name]?).bind (·.switchCycle) with
  | none => true
  | some cycle =>
      match env.topology.roomByName name with
      | none => true
      | some room =>
          match env.cycleStep room cycle with
          | none => true
          | some step => room.lightMembers.all (env.memberConfirms world step)

/-- Command one selected light of the active step to an unknown level. -/
def moveLight (ts : Instant) (world : WorldState) (endpoint : LightEndpoint) : WorldState :=
  let owner := env.resolveLightOwner world endpoint.device .user
  world.modifyLight (env.lightName endpoint) fun light => light.command (.on none none) owner ts

/-- Send a brightness command to the lights of the active step; nothing without one. -/
def executeSwitchBrightness (name : String) (payload : Payload) (ts : Instant)
    (world : WorldState) : Option (WorldState × List Effect) :=
  match (world.lightZones[name]?).bind (·.switchCycle) with
  | none => none
  | some cycle =>
      match (env.topology.roomByName name).bind fun room => env.cycleStep room cycle with
      | none => some (world, [])
      | some step =>
          let moved := step.lights.foldl (env.moveLight ts) world
          let owner := env.resolveZoneOwner moved name .user
          some (moved.modifyZone name fun zone => zone.reassignOwner owner ts,
            step.lights.map fun light => .publishLightSet light payload)

/-- The lights of the active step are all reported off after the step was commanded. -/
def switchStepIsOff (world : WorldState) (name : String) : Bool :=
  match world.lightZones[name]? with
  | none => false
  | some zone =>
      match zone.switchCycle with
      | none => false
      | some cycle =>
          match (env.topology.roomByName name).bind fun room => env.cycleStep room cycle,
              zone.target.since with
          | some step, some since =>
              step.lights.all fun member =>
                (world.lights[env.lightName member]?).any fun light =>
                  light.actual.value.any (fun actual => !actual.on) &&
                    light.actual.since.any fun observed => decide (since ≤ observed)
          | _, _ => false

end Env

end MqttController
