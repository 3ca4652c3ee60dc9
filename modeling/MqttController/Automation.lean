import MqttController.Settings
import MqttController.World

/-!
# The automation in force

The deployed topology with the dashboard settings applied.  The stored replacements have passed
validation, which the structure carries.  An environment adds one reading of the clock; it is what
event handlers read besides the runtime state, and none of them changes it.
-/

namespace MqttController

open Std

/-- Top-level defaults. -/
structure Defaults where
  /-- Within this time after a press the next one cycles. -/
  cycleWindowSeconds : ℚ := 1
  /-- Presses are suppressed for this time after a double tap. -/
  doubleTapSuppressionSeconds : ℚ := 2
  /-- Two presses within this time are a double tap. -/
  softDoubleTapWindowSeconds : ℚ := 4 / 5
  deriving DecidableEq

/-- Every stored replacement passed its validation, and what it resolves to is stored with it. -/
structure OverridesFit (tables : TopologyTables) (location : Option Location)
    (settings : ControlSettings) (switchSteps : NameMap (NameMap (List ResolvedSwitchStep)))
    (plugBindings : NameMap (List ResolvedBinding)) : Prop where
  /-- Room overrides are accepted and their steps are the stored ones. -/
  rooms : ∀ (name : String) (value : RoomScheduleOverride),
    settings.roomScheduleOverrides[name]? = some value →
      ∃ steps, switchSteps[name]? = some steps ∧
        validateRoomOverride tables location name value = .ok steps
  /-- Stored steps belong to an override. -/
  steps : ∀ (name : String) (steps : NameMap (List ResolvedSwitchStep)),
    switchSteps[name]? = some steps →
      ∃ value, settings.roomScheduleOverrides[name]? = some value
  /-- Motion overrides are accepted. -/
  rules : ∀ (name : String) (slots : NameMap Slot),
    settings.motionScheduleOverrides[name]? = some slots →
      validateMotionOverride tables location name slots = .ok ()
  /-- Timed action overrides are accepted. -/
  times : ∀ (name : String) (time : TimeExpr),
    settings.timedActionOverrides[name]? = some time →
      validateTimedAction tables name = .ok () ∧ validateTimedActionTime location time = .ok ()
  /-- Plug overrides are accepted and their bindings are the stored ones. -/
  plugs : ∀ (name : String) (value : PlugScheduleOverride),
    settings.plugScheduleOverrides[name]? = some value →
      ∃ bindings, plugBindings[name]? = some bindings ∧
        validatePlugOverride tables location name value = .ok bindings
  /-- Stored plug bindings belong to an override. -/
  bindings : ∀ (name : String) (bindings : List ResolvedBinding),
    plugBindings[name]? = some bindings →
      ∃ value, settings.plugScheduleOverrides[name]? = some value

/-- The deployed configuration with the settings applied. -/
structure Automation where
  topology : Topology
  defaults : Defaults
  location : Option Location
  settings : ControlSettings
  /-- Switch steps of the room overrides. -/
  resolvedSwitchSteps : NameMap (NameMap (List ResolvedSwitchStep))
  /-- Bindings of the plug overrides. -/
  resolvedPlugBindings : NameMap (List ResolvedBinding)
  /-- Monotonic end of each boost. -/
  boostDeadlines : NameMap Instant
  /-- The stored replacements passed validation. -/
  fit : OverridesFit topology.toTopologyTables location settings resolvedSwitchSteps
    resolvedPlugBindings

/-- What an event handler reads besides the runtime state. -/
structure Env extends Automation where
  clock : ClockReading

namespace Automation

variable (automation : Automation)

/-- Motion may act on a room. -/
def motionEnabled (room : String) : Bool := decide (room ∉ automation.settings.disabledZones)

/-- No room that contains the light is disabled. -/
def motionAllowedForLight (device : DeviceIdx) : Bool :=
  automation.topology.rooms.all fun room =>
    automation.motionEnabled room.name ||
      !(room.lightMembers.any fun light => light.device == device)

/-- Effective slots of a room. -/
def roomSlots (room : ResolvedRoom) : NameMap Slot :=
  match automation.settings.roomScheduleOverrides[room.name]? with
  | some value => value.slots
  | none => room.scenes.slots

/-- Effective switch steps of a room. -/
def roomSwitchSteps (room : ResolvedRoom) : NameMap (List ResolvedSwitchStep) :=
  (automation.resolvedSwitchSteps[room.name]?).getD room.switchSteps

/-- Effective slots of a motion rule. -/
def motionSlots (rule : ResolvedMotionRule) : NameMap Slot :=
  (automation.settings.motionScheduleOverrides[rule.name]?).getD rule.scenes.slots

/-- Effective time of a timed binding. -/
def timedActionTime (binding : ResolvedBinding) : Option TimeExpr :=
  match binding.trigger with
  | .at time => some ((automation.settings.timedActionOverrides[binding.name]?).getD time)
  | _ => none

/-- A plug override exists. -/
def plugScheduleOverridden (device : String) : Bool :=
  automation.settings.plugScheduleOverrides.contains device

/-- A plug override replaces a deployed binding. -/
def bindingSuperseded (binding : ResolvedBinding) : Bool :=
  let plug := match binding.trigger with
    | .powerBelow plug _ _ => some plug
    | .at _ => binding.effect.targetPlug
    | .button _ _ _ => none
  plug.any fun plug => automation.plugScheduleOverridden (automation.topology.deviceName plug)

/-- Deployed bindings that are not replaced, and those of the plug overrides. -/
def effectiveBindings : List ResolvedBinding :=
  (automation.topology.bindings.filter fun binding => !automation.bindingSuperseded binding) ++
    automation.resolvedPlugBindings.toList.flatMap Prod.snd

/-- Effective power-below bindings of a plug. -/
def powerBelowBindings (device : DeviceIdx) : List ResolvedBinding :=
  match automation.resolvedPlugBindings[automation.topology.deviceName device]? with
  | some bindings => bindings.filter fun binding =>
      match binding.trigger with
      | .powerBelow _ _ _ => true
      | _ => false
  | none => automation.topology.bindingsForPowerBelow device

/-- The device is a valve of the heating configuration. -/
def isHeatDemandDevice (device : String) : Bool :=
  automation.topology.heatingConfig.any fun config => config.hasTrv device

/-- The effective schedule of a valve. -/
def valveSchedule (config : HeatingConfig) (trv : ZoneTrv) : Option TemperatureSchedule :=
  match automation.settings.scheduleOverrides[trv.device]? with
  | some schedule => some schedule
  | none => config.schedules[trv.schedule]?

/-- Minimum demand and its fallback. -/
def minDemand : Nat × Nat :=
  match automation.topology.heatingConfig with
  | some config => (config.heatPump.minDemandPercent, config.heatPump.minDemandPercentFallback)
  | none => (5, 80)

end Automation

namespace Env

variable (env : Env)

/-- Sun times at the configured location. -/
def sunTimes : Option SunTimes := env.location.map env.clock.sunTimes

/-- The slot in force now. -/
def activeSlot (slots : NameMap Slot) : Option (String × Slot) :=
  slotForTime slots env.clock.localHour env.clock.localMinute env.sunTimes

/-- Scenes of a room's active slot, in cycle order. -/
def scenesForRoom (name : String) : List Nat :=
  match env.topology.roomByName name with
  | none => []
  | some room =>
      match env.activeSlot (env.roomSlots room) with
      | none => []
      | some (_, slot) => slot.sceneIds

/-- The boost of a valve, until either clock passes its end.  Every boost has a deadline. -/
def activeBoost (device : String) : Option ValveBoost :=
  (env.settings.boosts[device]?).filter fun boost =>
    (env.boostDeadlines[device]?).any (fun deadline => decide (env.clock.now < deadline)) &&
      decide (env.clock.epochMillis < boost.endsAtEpochMs)

/-- The valve may demand heat. -/
def effectiveHeatDemandEnabled (device : String) : Bool :=
  decide (device ∉ env.settings.disabledHeatDemand) || (env.activeBoost device).isSome

end Env

/-! ## What validation gives the effective schedules -/

namespace Automation

variable {automation : Automation}

theorem roomSlots_valid {name : String} {room : ResolvedRoom}
    (found : automation.topology.roomByName name = some room) :
    ({ room.scenes with slots := automation.roomSlots room } : SceneSchedule).validate =
      .ok () := by
  obtain ⟨member, rfl⟩ := TopologyTables.mem_rooms_of_roomByName found
  unfold roomSlots
  split
  · rename_i value stored
    obtain ⟨steps, _, accepted⟩ := automation.fit.rooms _ _ stored
    obtain ⟨same, foundSame, valid, _⟩ := validateRoomOverride_ok accepted
    rw [found] at foundSame
    cases foundSame
    exact valid
  · exact automation.topology.valid.scenes_valid room member

/-- Effective switch steps fit the effective slots and the members of their room. -/
theorem roomSwitchSteps_fit {name : String} {room : ResolvedRoom}
    (found : automation.topology.roomByName name = some room) :
    SwitchStepsFit room.scenes.scenes (automation.roomSlots room) room.lightMembers
      (automation.roomSwitchSteps room) := by
  obtain ⟨member, rfl⟩ := TopologyTables.mem_rooms_of_roomByName found
  unfold roomSwitchSteps roomSlots
  cases stored : automation.settings.roomScheduleOverrides[room.name]? with
  | some value =>
      obtain ⟨steps, kept, accepted⟩ := automation.fit.rooms _ _ stored
      obtain ⟨same, foundSame, _, fits⟩ := validateRoomOverride_ok accepted
      rw [found] at foundSame
      cases foundSame
      rw [kept]
      exact fits
  | none =>
      have absent : automation.resolvedSwitchSteps[room.name]? = none := by
        rw [Option.eq_none_iff_forall_not_mem]
        intro steps kept
        obtain ⟨value, present⟩ := automation.fit.steps _ _ kept
        rw [stored] at present
        cases present
      rw [absent]
      exact automation.topology.valid.switch_steps_fit room member

/-- The topology provides the effects of the bindings in force. -/
theorem effectiveBindings_provided {binding : ResolvedBinding}
    (effective : binding ∈ automation.effectiveBindings) :
    automation.topology.Provides binding.effect := by
  unfold effectiveBindings at effective
  rcases List.mem_append.mp effective with deployed | overriding
  · exact .inl ⟨binding, (List.mem_filter.mp deployed).1, rfl⟩
  · obtain ⟨⟨device, bindings⟩, stored, member⟩ := List.mem_flatMap.mp overriding
    have stored := TreeMap.mem_toList_iff_getElem?_eq_some.mp stored
    obtain ⟨value, overridden⟩ := automation.fit.bindings device bindings stored
    obtain ⟨same, resolved, accepted⟩ := automation.fit.plugs device value overridden
    rw [stored] at resolved
    cases resolved
    obtain ⟨plug, timed, _, known, times, shape⟩ := validatePlugOverride_ok accepted
    refine .inr ⟨plug, known, ?_⟩
    rcases shape with rfl | ⟨name, watts, holdoff, rfl⟩
    · exact (times binding member).2
    · rcases List.mem_append.mp member with member | last
      · exact (times binding member).2
      · rw [List.mem_singleton.mp last]
        exact .inr (.inl rfl)

end Automation

/-- The scenes a room cycles through are scenes of the room. -/
theorem Env.scenesForRoom_known {env : Env} {name : String} {id : Nat}
    (listed : id ∈ env.scenesForRoom name) :
    ∃ room, env.topology.roomByName name = some room ∧
      ∃ scene ∈ room.scenes.scenes, scene.id = id := by
  unfold Env.scenesForRoom at listed
  split at listed
  · cases listed
  · rename_i room found
    refine ⟨room, found, ?_⟩
    split at listed
    · cases listed
    · rename_i slotName slot active
      exact SceneSchedule.scene_known_of_validate (Automation.roomSlots_valid found)
        (getElem?_of_slotForTime active) listed

/-! ## The processor -/

/-- The mutable state of the processor. -/
structure Runtime where
  world : WorldState := {}
  /-- When the first relay was observed to turn on. -/
  pumpOnSince : Option Instant := none
  /-- When the last relay was observed to turn off. -/
  pumpOffSince : Option Instant := none
  /-- Counts heating ticks. -/
  heatingTickGen : Nat := 0
  /-- The first heating tick has passed. -/
  startupComplete : Bool := false
  /-- When the thermostats were last asked for their state. -/
  lastWtRefresh : Option Instant := none

/-- The event processor: the automation in force and the runtime state. -/
structure EventProcessor where
  automation : Automation
  runtime : Runtime

namespace EventProcessor

/-- The environment of one event. -/
def env (processor : EventProcessor) (clock : ClockReading) : Env :=
  { processor.automation with clock := clock }

end EventProcessor

end MqttController
