import Mathlib.Data.Finset.Card
import MqttController.LightReports

/-!
# Motion rules

A rule owns an occupancy session; lights own their targets.  A session is opened by an occupied
sensor, claims the lights it may turn off again, and is closed by the last sensor that stops being
occupied.
-/

namespace MqttController

open Std

namespace LightEntity

/-- The target and the last report are known and disagree. -/
def isDivergent (light : LightEntity) : Bool :=
  match light.target.value, light.actual.value with
  | some target, some actual => !target.isMatchedBy actual
  | _, _ => false

/-- An off-only session claims a light without a command: an unset target, or a stale one that its
report contradicts, is taken over from the report; any other target only changes its owner. -/
def claimOffOnly (light : LightEntity) (ts : Instant) : LightEntity :=
  if light.target.isUnset || (light.target.phase == .stale && light.isDivergent) then
    light.adopt (if light.actualIsOn then .on none none else .off) .motion ts
  else if light.target.owner != some .motion then light.reassignOwner .motion ts
  else light

/-- Motion gives up a light it owns. -/
def releaseMotion (light : LightEntity) (ts : Instant) : LightEntity :=
  if light.target.owner == some .motion then light.reassignOwner .system ts else light

end LightEntity

namespace LightZoneEntity

/-- An off-only session claims a whole group without a command. -/
def claimOffOnly (zone : LightZoneEntity) (ts : Instant) : LightZoneEntity :=
  let divergent := zone.targetIsOn != zone.actualIsOn
  if zone.target.isUnset || (zone.target.phase == .stale && divergent) then
    { zone with
      target := zone.target.adopt (if zone.actualIsOn then .on 0 0 else .off) .motion ts }
  else if zone.target.owner != some .motion then zone.reassignOwner .motion ts
  else zone

/-- Motion gives up a zone it owns. -/
def releaseMotion (zone : LightZoneEntity) (ts : Instant) : LightZoneEntity :=
  if zone.isMotionOwned then zone.reassignOwner .system ts else zone

end LightZoneEntity

namespace MotionMode

/-- Owner of the lights a session turns on. -/
def activationOwner : MotionMode → Owner
  | .onOnly => .user
  | _ => .motion

end MotionMode

namespace WorldState

variable (world : WorldState)

/-- It is too bright for the rule, or its cooldown has not passed. -/
def activationSuppressed (rule : ResolvedMotionRule) (illuminance : Option Nat) (ts : Instant) :
    Bool :=
  let bright := match rule.maxIlluminance, illuminance with
    | some max, some actual => decide (max ≤ actual)
    | _, _ => false
  let cooling := ((world.motionRules[rule.name]?).bind (·.lastMotionOffAt)).any fun last =>
    decide (durationSince ts last < Duration.fromSecs rule.offCooldownSeconds)
  bright || cooling

/-- Take the session out of a rule's state. -/
def takeSession (rule : ResolvedMotionRule) : WorldState :=
  { world with
    motionRules := OrderedMap.adjust world.motionRules rule.name fun state =>
      { state with session := none } }

end WorldState

namespace Env

variable (env : Env)

/-! ## Opening a session -/

/-- Claim one light of a target: an off-only rule claims every allowed light, another rule turns on
and claims the ones that are off. -/
def claimLight (rule : ResolvedMotionRule) (scene : Scene) (ts : Instant)
    (state : WorldState × Finset DeviceIdx) (endpoint : LightEndpoint) :
    WorldState × Finset DeviceIdx :=
  let (world, claimed) := state
  if !env.motionAllowedForLight endpoint.device then (world, claimed)
  else
    let name := env.lightName endpoint
    if rule.mode = .offOnly then
      (world.modifyLight name fun light => light.claimOffOnly ts, insert endpoint.device claimed)
    else if (world.lightAt name).isOn then (world.modifyLight name id, claimed)
    else
      (world.modifyLight name fun light =>
        light.command (.on scene.brightness scene.colorTemp) rule.mode.activationOwner ts,
        insert endpoint.device claimed)

/-- Store the session and address the claimed lights: the group when all of a group target's lights
are claimed, single lights otherwise; an off-only session sends nothing. -/
def openSession (rule : ResolvedMotionRule) (slot : String) (sceneId : Nat) (scene : Scene)
    (target : ResolvedMotionTarget) (claimed : Finset DeviceIdx) (ts : Instant)
    (world : WorldState) : WorldState × List Effect :=
  let opened := world.modifyMotionRule rule.name fun state =>
    { state with session := some { slot, target, claimed } }
  let group := if claimed.card = target.lights.length then target.group else none
  if rule.mode = .offOnly then
    match group with
    | some group =>
        (opened.modifyZone (env.topology.roomName group) fun zone => zone.claimOffOnly ts, [])
    | none => (opened, [])
  else
    match group with
    | some group =>
        (opened.modifyZone (env.topology.roomName group) fun zone =>
          zone.command (.on sceneId 0) rule.mode.activationOwner ts,
          [.publishGroupSet group (.sceneRecall sceneId)])
    | none =>
        (opened, (target.lights.filter fun light => decide (light.device ∈ claimed)).map
          fun light => .publishLightSet light (.ofScene scene))

/-- A rule that turns lights on leaves a group alone that is already on as a whole. -/
def groupAlreadyOn (rule : ResolvedMotionRule) (target : ResolvedMotionTarget)
    (world : WorldState) : Bool :=
  rule.mode != .offOnly &&
    target.lights.all (fun light => env.motionAllowedForLight light.device) &&
    target.group.any fun group => (world.zoneAt (env.topology.roomName group)).isOn

/-- Claim the lights of a target and open the session when there are any. -/
def claimTarget (rule : ResolvedMotionRule) (slot : String) (sceneId : Nat) (scene : Scene)
    (target : ResolvedMotionTarget) (ts : Instant) (world : WorldState) :
    WorldState × List Effect :=
  if env.groupAlreadyOn rule target world then (world, [])
  else
    match target.lights.foldl (env.claimLight rule scene ts) (world, ∅) with
    | (claimedWorld, claimed) =>
        if claimed = ∅ then (claimedWorld, [])
        else env.openSession rule slot sceneId scene target claimed ts claimedWorld

/-- The slot of a rule in force now, with its first scene and its target. -/
def activation (rule : ResolvedMotionRule) :
    Option (String × Nat × Scene × ResolvedMotionTarget) :=
  match env.activeSlot (env.motionSlots rule) with
  | none => none
  | some (slotName, slot) =>
      match slot.sceneIds.head?, rule.targetsBySlot[slotName]? with
      | some sceneId, some target =>
          (rule.scenes.sceneById sceneId).map fun scene => (slotName, sceneId, scene, target)
      | _, _ => none

/-- Open a session of a rule. -/
def startMotionSession (rule : ResolvedMotionRule) (illuminance : Option Nat) (ts : Instant)
    (world : WorldState) : WorldState × List Effect :=
  if world.activationSuppressed rule illuminance ts then (world, [])
  else
    match env.activation rule with
    | none => (world, [])
    | some (slot, sceneId, scene, target) => env.claimTarget rule slot sceneId scene target ts world

/-! ## Closing a session -/

/-- Nothing of the target is on or told to be on. -/
def motionTargetIsOff (world : WorldState) (target : ResolvedMotionTarget) : Bool :=
  let groupOff := target.group.any fun group =>
    (world.lightZones[env.topology.roomName group]?).any fun zone =>
      zone.actual.value == some .off && !zone.targetIsOn
  target.lights.all fun endpoint =>
    (world.lights[env.lightName endpoint]?).any fun light =>
      !light.targetIsOn && (groupOff || light.actual.value.any fun actual => !actual.on)

/-- End a session without a command. -/
def releaseMotionSession (rule : ResolvedMotionRule) (ts : Instant) (world : WorldState) :
    WorldState :=
  match world.motionSession rule with
  | none => world
  | some session =>
      let released := session.target.lights.foldl (fun world endpoint =>
        world.modifyLight (env.lightName endpoint) fun light => light.releaseMotion ts)
        (world.takeSession rule)
      match session.target.group with
      | none => released
      | some group =>
          released.modifyZone (env.topology.roomName group) fun zone => zone.releaseMotion ts

/-- Turn off lights of a target: the group when they are all of a group target's lights, single
lights otherwise. -/
def turnOffMotionLights (target : ResolvedMotionTarget) (lights : List LightEndpoint)
    (transition : ℚ) (ts : Instant) (owner : Owner) (world : WorldState) :
    WorldState × List Effect :=
  let commanded := lights.foldl (fun world endpoint =>
    world.modifyLight (env.lightName endpoint) fun light => light.command .off owner ts) world
  match if lights.length = target.lights.length then target.group else none with
  | some group =>
      (commanded.modifyZone (env.topology.roomName group) fun zone =>
        { zone.command .off owner ts with lastOffAt := some ts, lastMotionOffAt := some ts },
        [.publishGroupSet group (.off transition)])
  | none => (commanded, lights.map fun light => .publishLightSet light (.off transition))

/-- The claimed lights a session may still turn off: allowed and owned by motion. -/
def eligibleLights (session : MotionSession) (world : WorldState) : List LightEndpoint :=
  session.target.lights.filter fun endpoint =>
    decide (endpoint.device ∈ session.claimed) && env.motionAllowedForLight endpoint.device &&
      (world.lights[env.lightName endpoint]?).any fun light => light.target.owner == some .motion

/-- Close a session of a rule, turning off what it still may. -/
def finishMotionSession (rule : ResolvedMotionRule) (ts : Instant) (owner : Owner)
    (world : WorldState) : WorldState × List Effect :=
  match world.motionSession rule with
  | none => (world, [])
  | some session =>
      if env.motionTargetIsOff world session.target then
        (env.releaseMotionSession rule ts world, [])
      else
        let taken := world.takeSession rule
        if rule.mode = .onOnly then (taken, [])
        else
          match env.eligibleLights session taken with
          | [] => (taken, [])
          | first :: rest =>
              match env.turnOffMotionLights session.target (first :: rest)
                  rule.offTransitionSeconds ts owner taken with
              | (turnedOff, effects) =>
                  (turnedOff.modifyMotionRule rule.name fun state =>
                    { state with lastMotionOffAt := some ts }, effects)

/-! ## Startup -/

/-- Some light or group of the rule is observed on. -/
def ruleObservedOn (rule : ResolvedMotionRule) (world : WorldState) : Bool :=
  (rule.lights.any fun light => (world.lights[env.lightName light]?).any (·.actualIsOn)) ||
    (OrderedMap.pickValues rule.targetsBySlot (·.group)).any fun group =>
      (world.lightZones[env.topology.roomName group]?).any (·.actualIsOn)

/-- The group of a slot whose target has exactly the rule's lights. -/
def wholeRuleGroup (rule : ResolvedMotionRule) : Option RoomIdx :=
  (rule.targetsBySlot.toList.find? fun entry =>
    entry.2.group.isSome && decide (entry.2.lights.toFinset = rule.lights.toFinset)).bind
      fun entry => entry.2.group

/-- Startup turns off what a rule controls and was left on; an occupied off-only rule opens its
session instead.  The reset does not arm the motion cooldown. -/
def startupTurnOff (rule : ResolvedMotionRule) (ts : Instant) (world : WorldState) :
    WorldState × List Effect :=
  if rule.mode = .onOnly then (world, [])
  else if !env.ruleObservedOn rule world then (world, [])
  else if rule.mode = .offOnly ∧ world.motionRuleOccupied rule then
    env.startMotionSession rule none ts world
  else
    let group := wholeRuleGroup rule
    let eligible := rule.lights.filter fun light => env.motionAllowedForLight light.device
    match env.turnOffMotionLights { group, lights := rule.lights } eligible
        rule.offTransitionSeconds ts .system world with
    | (turnedOff, effects) =>
        match group with
        | none => (turnedOff, effects)
        | some group =>
            (turnedOff.modifyZone (env.topology.roomName group) fun zone =>
              { zone with lastMotionOffAt := none }, effects)

end Env

end MqttController
