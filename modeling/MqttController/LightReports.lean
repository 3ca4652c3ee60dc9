import MqttController.SwitchSteps

/-!
# Reports of lights and groups

A report of one light updates its entity and the zones of its rooms; the state a group publishes
updates its zone and, on an off transition, its members.
-/

namespace MqttController

namespace LightEntity

/-- Take in a report: give up an old command, adopt an OFF that contradicts a settled On target,
confirm a command that the report shows. -/
def observe (light : LightEntity) (actual : LightActual) (owner : Owner) (ts : Instant) :
    LightEntity :=
  let aged := light.target.markStaleIfOld ts targetStaleThreshold
  let followed :=
    if !actual.on && aged.value.any LightTarget.isOn && !aged.isActionable then
      aged.adopt .off owner ts
    else aged
  let confirmed :=
    if followed.value.any (·.isMatchedBy actual) &&
        (followed.phase == .commanded || followed.phase == .stale) then followed.confirm ts
    else followed
  { light with target := confirmed, actual := light.actual.update actual ts }

end LightEntity

namespace LightZoneEntity

/-- Turn off without a command, forgetting the cycle. -/
def followOff (zone : LightZoneEntity) (owner : Owner) (ts : Instant) : LightZoneEntity :=
  { zone with
    target := (zone.target.setAndCommand .off owner ts).confirm ts
    switchCycle := none
    lastOffAt := some ts }

/-- Take in the state a group published, before its transition is handled. -/
def observeGroup (zone : LightZoneEntity) (on : Bool) (ts : Instant) : LightZoneEntity :=
  let observed := { zone with actual := zone.actual.update (if on then .on else .off) ts }
  if observed.switchCycle.isSome then
    { observed with target := observed.target.markStaleIfOld ts targetStaleThreshold }
  else observed

/-- An OFF echo during an in-flight switch step says nothing about the target. -/
def ignoresGroupOff (zone : LightZoneEntity) (on : Bool) : Bool :=
  zone.switchCycle.isSome && !on && zone.targetIsOn && zone.target.isActionable

/-- An ON echo confirms an On command outside a switch cycle. -/
def confirmGroupOn (zone : LightZoneEntity) (on : Bool) (ts : Instant) : LightZoneEntity :=
  if on && zone.switchCycle.isNone &&
      (zone.target.phase == .commanded || zone.target.phase == .stale) && zone.targetIsOn then
    { zone with target := zone.target.confirm ts }
  else zone

/-- Take in what the members' reports say about the zone.  `since` is the age of the evidence. -/
def followLights (zone : LightZoneEntity) (actual : LightZoneActual) (since ts : Instant)
    (stepConfirmed stepIsOff : Bool) (owner : Owner) : LightZoneEntity :=
  let wasOn := zone.actualIsOn
  let aged := { zone with
    actual := zone.actual.update actual since
    target := zone.target.markStaleIfOld ts targetStaleThreshold }
  let followsTarget := aged.target.since.any fun commanded => decide (commanded ≤ since)
  let left := if actual = .off ∧ wasOn then { aged with lastOffAt := some ts } else aged
  let followed :=
    if actual = .off ∧ left.targetIsOn ∧ !left.target.isActionable ∧
      (followsTarget ∨ stepIsOff) then
      { left with target := left.target.adopt .off owner ts, switchCycle := none }
    else left
  let shown := match followed.target.value, actual with
    | some (.on _ _), .on => true
    | some .off, .off => true
    | _, _ => false
  let current := if followed.switchCycle.isSome then stepConfirmed else followsTarget
  if shown && current &&
      (followed.target.phase == .commanded || followed.target.phase == .stale) then
    { followed with target := followed.target.confirm ts }
  else followed

end LightZoneEntity

namespace Env

variable (env : Env)

/-! ## Reports of one light -/

/-- Owner of a target adopted from a report of a device. -/
def reportOwner (world : WorldState) (device : String) : Owner :=
  if (env.topology.deviceIdx device).any (env.lightHasOffOnlyClaim world) then .motion else .system

/-- Record a report of one light. -/
def recordLightState (device : String) (actual : LightActual) (ts : Instant)
    (world : WorldState) : WorldState :=
  world.modifyLight device fun light => light.observe actual (env.reportOwner world device) ts

/-- The last report of a member and its time. -/
def memberReading (world : WorldState) (member : LightEndpoint) : Option (Bool × Instant) :=
  match world.lights[env.lightName member]? with
  | none => none
  | some light =>
      match light.actual with
      | .unknown => none
      | .known value _ since => some (value.on, since)

/-- What the members' reports say about a room: one ON is enough, OFF needs every member. -/
def observedState (world : WorldState) (room : ResolvedRoom) :
    Option (LightZoneActual × Instant) :=
  let readings := room.lightMembers.filterMap (env.memberReading world)
  let newestOn := (readings.filterMap fun reading =>
    if reading.1 then some reading.2 else none).max?
  let oldestOff := (readings.filterMap fun reading =>
    if reading.1 then none else some reading.2).min?
  let allKnown := room.lightMembers.all fun member => (env.memberReading world member).isSome
  match newestOn with
  | some since => some (.on, since)
  | none => if allKnown then oldestOff.map fun since => (.off, since) else none

/-- Update the zone of one room after a report of a member. -/
def followMember (ts : Instant) (world : WorldState) (idx : RoomIdx) : WorldState :=
  match env.topology.room idx with
  | none => world
  | some room =>
      let stepConfirmed := env.switchStepIsConfirmed world room.name
      let stepIsOff := env.switchStepIsOff world room.name
      let owner := env.resolveZoneOwner world room.name .system
      match env.observedState world room with
      | none => world.modifyZone room.name fun zone => { zone with actual := .unknown }
      | some (actual, since) =>
          world.modifyZone room.name fun zone =>
            zone.followLights actual since ts stepConfirmed stepIsOff owner

/-- Handle a report of one light. -/
def handleLightState (device : String) (actual : LightActual) (ts : Instant)
    (world : WorldState) : WorldState :=
  let recorded := env.recordLightState device actual ts world
  match env.topology.deviceIdx device with
  | none => recorded
  | some idx => (env.topology.lightRooms idx).foldl (env.followMember ts) recorded

/-! ## Group state -/

/-- Rooms whose members all belong to the given ones. -/
def coveredRooms (room : ResolvedRoom) : List ResolvedRoom :=
  env.topology.rooms.filter fun other =>
    other.name != room.name && !other.lightMembers.isEmpty &&
      other.lightMembers.all fun light => room.lightMembers.contains light

/-- An off transition of a group turns off the zone of a room it covers. -/
def coverOff (ts : Instant) (world : WorldState) (other : ResolvedRoom) : WorldState :=
  let owner := env.resolveZoneOwner world other.name .system
  world.modifyZone other.name fun zone =>
    let observed := { zone with actual := zone.actual.update .off ts, switchCycle := none }
    if observed.targetIsOn then observed.followOff owner ts else observed

/-- An off transition of a group is an off report of a member, keeping its other values. -/
def memberOff (ts : Instant) (world : WorldState) (member : LightEndpoint) : WorldState :=
  let name := env.lightName member
  let previous := (world.lights[name]?).bind (·.actual.value)
  env.recordLightState name
    { on := false
      brightness := previous.bind (·.brightness)
      colorTemp := previous.bind (·.colorTemp)
      colorXy := previous.bind (·.colorXy) } ts world

/-- Handle an off transition of a group. -/
def groupTurnedOff (room : ResolvedRoom) (ts : Instant) (world : WorldState) : WorldState :=
  let covered := (env.coveredRooms room).foldl (env.coverOff ts) world
  let reported := room.lightMembers.foldl (env.memberOff ts) covered
  let owner := env.resolveZoneOwner reported room.name .system
  reported.modifyZone room.name fun zone => zone.followOff owner ts

/-- Handle the state a group published. -/
def handleGroupState (group : String) (on : Bool) (ts : Instant) (world : WorldState) :
    WorldState :=
  match env.topology.roomByGroupName group with
  | none => world
  | some room =>
      let wasOn := (world.zoneAt room.name).isOn
      let observed := world.modifyZone room.name fun zone => zone.observeGroup on ts
      if (observed.zoneAt room.name).ignoresGroupOff on then observed
      else
        let confirmed := observed.modifyZone room.name fun zone => zone.confirmGroupOn on ts
        if wasOn == on || on then confirmed else env.groupTurnedOff room ts confirmed

end Env

end MqttController
