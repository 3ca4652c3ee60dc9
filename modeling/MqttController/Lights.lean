import MqttController.Automation

/-!
# Light zones and their members

Who owns a light write, how a command to a group is recorded for every member and for the zone,
and how it propagates to the zones of descendant rooms.
-/

namespace MqttController

/-- Age at which a light, zone or plug command without confirmation becomes stale. -/
def targetStaleThreshold : Duration := Duration.fromSecs 10

/-! ## Motion claims -/

namespace WorldState

variable (world : WorldState)

/-- A sensor of the rule is fresh and reports occupied. -/
def motionRuleOccupied (rule : ResolvedMotionRule) : Bool :=
  rule.sensors.any fun sensor => (world.motionSensors[sensor]?).any (·.isOccupied)

/-- The live session of a rule. -/
def motionSession (rule : ResolvedMotionRule) : Option MotionSession :=
  (world.motionRules[rule.name]?).bind (·.session)

end WorldState

namespace Env

variable (env : Env)

/-- An occupied off-only rule claims the light. -/
def lightHasOffOnlyClaim (world : WorldState) (device : DeviceIdx) : Bool :=
  env.topology.motionRules.any fun rule =>
    rule.mode == .offOnly && world.motionRuleOccupied rule &&
      (world.motionSession rule).any fun session => decide (device ∈ session.claimed)

/-- Every member of the room is under an off-only claim. -/
def offOnlySessionLive (world : WorldState) (name : String) : Bool :=
  (env.topology.roomByName name).any fun room =>
    !room.lightMembers.isEmpty &&
      room.lightMembers.all fun light => env.lightHasOffOnlyClaim world light.device

/-- Owner of a zone write: motion keeps a zone whose off-only session is live. -/
def resolveZoneOwner (world : WorldState) (name : String) (default : Owner) : Owner :=
  if env.offOnlySessionLive world name then .motion else default

/-- Owner of a user's light write: motion keeps a light under an off-only claim. -/
def resolveLightOwner (world : WorldState) (device : DeviceIdx) (default : Owner) : Owner :=
  if env.lightHasOffOnlyClaim world device then .motion else default

/-- Name of an endpoint's device. -/
def lightName (endpoint : LightEndpoint) : String := env.topology.deviceName endpoint.device

/-! ## Group commands -/

/-- Record a group command for one member; motion ownership of the group does not pass to a light
that is under no claim. -/
def recordLightCommand (target : LightTarget) (owner : Owner) (ts : Instant) (world : WorldState)
    (endpoint : LightEndpoint) : WorldState :=
  let owner := env.resolveLightOwner world endpoint.device
    (if owner = .motion then .user else owner)
  world.modifyLight (env.lightName endpoint) fun light => light.command target owner ts

/-- Record a group command for every member of a room, forgetting its switch cycle. -/
def recordGroupLightCommand (name : String) (target : LightTarget) (owner : Owner) (ts : Instant)
    (world : WorldState) : WorldState :=
  match env.topology.roomByName name with
  | none => world
  | some room =>
      room.lightMembers.foldl (env.recordLightCommand target owner ts)
        (world.modifyZone name fun zone => { zone with switchCycle := none })

/-- Record that a room's group was turned on with a scene.  The scene is one of the room's. -/
def writeAfterOn (name : String) (ts : Instant) (cycleIdx sceneId : Nat) (owner : Owner)
    (world : WorldState) : WorldState :=
  match (env.topology.roomByName name).bind fun room => room.scenes.sceneById sceneId with
  | none => world
  | some scene =>
      (env.recordGroupLightCommand name (.on scene.brightness scene.colorTemp) owner ts
        world).modifyZone name fun zone =>
          { zone.command (.on sceneId cycleIdx) owner ts with lastPressAt := some ts }

/-- Record that a room's group was turned off. -/
def writeAfterOff (name : String) (ts : Instant) (owner : Owner) (world : WorldState) :
    WorldState :=
  (env.recordGroupLightCommand name .off owner ts world).modifyZone name fun zone =>
    { zone.command .off owner ts with lastPressAt := some ts, lastOffAt := some ts }

/-- What a descendant zone takes over from its ancestor. -/
def inheritState (on : Bool) (owner : Owner) (ts : Instant) (zone : LightZoneEntity) :
    LightZoneEntity :=
  if on then
    { zone.command (.on 0 0) owner ts with
      switchCycle := none, actual := zone.actual.update .on ts, lastPressAt := none }
  else
    { zone.command .off owner ts with
      switchCycle := none, actual := zone.actual.update .off ts, lastOffAt := some ts,
      lastPressAt := none }

/-- Propagate an ancestor's state to one descendant zone. -/
def propagateTo (on : Bool) (ts : Instant) (world : WorldState) (child : RoomIdx) : WorldState :=
  match env.topology.room child with
  | none => world
  | some room =>
      world.modifyZone room.name
        (inheritState on (env.resolveZoneOwner world room.name .system) ts)

/-- Propagate a room's new state to the zones of all its descendants. -/
def propagateToDescendants (ancestor : String) (on : Bool) (ts : Instant) (world : WorldState) :
    WorldState :=
  match env.topology.roomIdx ancestor with
  | none => world
  | some idx => (env.topology.descendantsOf idx).foldl (env.propagateTo on ts) world

/-- Publish OFF to a room's group and record it. -/
def publishOff (name : String) (idx : RoomIdx) (offTransition : ℚ) (ts : Instant) (owner : Owner)
    (world : WorldState) : WorldState × List Effect :=
  (env.propagateToDescendants name false ts (env.writeAfterOff name ts owner world),
    [.publishGroupSet idx (.off offTransition)])

/-- Turn a room off. -/
def executeTurnOffRoom (name : String) (ts : Instant) (world : WorldState) :
    WorldState × List Effect :=
  match env.topology.roomIdx name, env.topology.roomByName name with
  | some idx, some room =>
      env.publishOff name idx room.offTransitionSeconds ts
        (env.resolveZoneOwner world name .user) world
  | _, _ => (world, [])

/-- Recall a scene on a room's group for a user and record it. -/
def recallScene (name : String) (idx : RoomIdx) (ts : Instant) (cycleIdx sceneId : Nat)
    (world : WorldState) : WorldState × List Effect :=
  (env.propagateToDescendants name true ts
    (env.writeAfterOn name ts cycleIdx sceneId (env.resolveZoneOwner world name .user) world),
    [.publishGroupSet idx (.sceneRecall sceneId)])

/-- Advance a room's group to the next scene, bypassing switch steps. -/
def executeGroupSceneCycle (name : String) (ts : Instant) (world : WorldState) :
    WorldState × List Effect :=
  match env.topology.roomIdx name, env.scenesForRoom name with
  | none, _ => (world, [])
  | _, [] => (world, [])
  | some idx, first :: rest =>
      let scenes := first :: rest
      let zone := world.zoneAt name
      let next :=
        if !zone.isOn then 0
        else if zone.switchCycle.isSome then
          match zone.target.value with
          | some (.on sceneId _) =>
              match scenes.findIdx? fun id => id == sceneId with
              | some index => (index + 1) % scenes.length
              | none => 0
          | _ => 0
        else (zone.cycleIdx + 1) % scenes.length
      let scene := scenes.getD next first
      let owner := env.resolveZoneOwner world name .user
      let written := (env.writeAfterOn name ts next scene owner world).modifyZone name
        fun zone => { zone with switchCycle := none }
      (env.propagateToDescendants name true ts written, [.publishGroupSet idx (.sceneRecall scene)])

/-! ## Brightness -/

/-- A brightness command takes over one member: on lights are on at an unknown level. -/
def takeOverLight (ts : Instant) (world : WorldState) (endpoint : LightEndpoint) : WorldState :=
  let owner := env.resolveLightOwner world endpoint.device .user
  world.modifyLight (env.lightName endpoint) fun light =>
    if light.isOn then light.command (.on none none) owner ts
    else light.reassignOwner owner ts

/-- A brightness command to a group takes over its members and its zone. -/
def takeOverGroupBrightness (name : String) (ts : Instant) (world : WorldState) : WorldState :=
  match env.topology.roomByName name with
  | none => world
  | some room =>
      let taken := room.lightMembers.foldl (env.takeOverLight ts) world
      taken.modifyZone name fun zone =>
        zone.reassignOwner (env.resolveZoneOwner taken name .user) ts

end Env

end MqttController
