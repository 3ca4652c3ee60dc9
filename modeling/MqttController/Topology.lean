import MqttController.Config.Heating

/-!
# The validated topology

Rooms, devices, bindings and motion rules, resolved to positional indexes.  The tables are what
the runtime reads; a `Topology` also carries what building it has checked, so that every topology
at hand is a valid one.
-/

namespace MqttController

open Std

/-- How a button was used. -/
inductive Gesture
  | press
  | hold
  | holdRelease
  | doubleTap
  | softDoubleTap
  deriving DecidableEq, Repr

/-- What an action string of a switch stands for. -/
structure ActionMapping where
  button : String
  gesture : Gesture
  deriving DecidableEq, Repr

/-- A switch model: its buttons, and what its action strings stand for. -/
structure SwitchModel where
  buttons : List String
  z2mActionMap : NameMap ActionMapping

namespace SwitchModel

/-- What an action string stands for. -/
def resolve (model : SwitchModel) (action : String) : Option ActionMapping :=
  model.z2mActionMap[action]?

/-- Some action string stands for a gesture of a button. -/
def maps (model : SwitchModel) (button : String) (gesture : Gesture) : Bool :=
  OrderedMap.anyValue model.z2mActionMap fun mapping =>
    mapping.button == button && mapping.gesture == gesture

end SwitchModel

/-- What a motion rule may do to its lights. -/
inductive MotionMode
  | onOff
  | onOnly
  | offOnly
  deriving DecidableEq, Repr

/-- Coarse classification of a device. -/
inductive DeviceKind
  | light
  | switch
  | motionSensor
  | plug
  | trv
  | wallThermostat
  | powerMeter
  deriving DecidableEq, Repr

/-- Position of a room. -/
abbrev RoomIdx := Nat

/-- Position of a device. -/
abbrev DeviceIdx := Nat

/-- A light and the endpoint by which it is a group member. -/
structure LightEndpoint where
  device : DeviceIdx
  endpoint : Nat
  deriving DecidableEq, Repr

/-- A configured switch step: a scene and the members it selects. -/
structure SwitchStep where
  sceneId : Nat
  lights : List String
  deriving DecidableEq, Repr

/-- A switch step resolved against its room. -/
structure ResolvedSwitchStep where
  scene : Scene
  lights : List LightEndpoint
  deriving DecidableEq

/-- A light group. -/
structure ResolvedRoom where
  name : String
  /-- Name of the group on the bus. -/
  groupName : String
  /-- Members as configured, `name/endpoint`. -/
  members : List String
  /-- Members as endpoints, in the same order. -/
  lightMembers : List LightEndpoint
  /-- Name of the parent room. -/
  parent : Option String := none
  scenes : SceneSchedule
  /-- Switch steps by slot. -/
  switchSteps : NameMap (List ResolvedSwitchStep)
  offTransitionSeconds : ℚ
  /-- Sensors of the rules that can target a member. -/
  boundMotion : List String

/-- What a motion rule controls in one slot. -/
structure ResolvedMotionTarget where
  /-- The group, when the whole group is the target. -/
  group : Option RoomIdx
  lights : List LightEndpoint
  deriving DecidableEq

/-- A motion rule. -/
structure ResolvedMotionRule where
  name : String
  sensors : List String
  mode : MotionMode
  scenes : SceneSchedule
  targetsBySlot : NameMap ResolvedMotionTarget
  offTransitionSeconds : ℚ
  offCooldownSeconds : Nat
  maxIlluminance : Option Nat
  /-- All lights of all slots. -/
  lights : List LightEndpoint

/-- When a binding fires. -/
inductive ResolvedTrigger
  | button (device : DeviceIdx) (button : String) (gesture : Gesture)
  | powerBelow (plug : DeviceIdx) (watts : ℚ) (holdoff : Duration)
  | at (time : TimeExpr)

/-- What a binding does. -/
inductive ResolvedEffect
  | sceneCycle (room : RoomIdx)
  | groupSceneCycle (room : RoomIdx)
  | sceneStepDown (room : RoomIdx)
  | sceneToggle (room : RoomIdx)
  | sceneToggleCycle (room : RoomIdx)
  | turnOffRoom (room : RoomIdx)
  | brightnessStep (room : RoomIdx) (step : Int) (transition : ℚ)
  | brightnessMove (room : RoomIdx) (rate : Int)
  | brightnessStop (room : RoomIdx)
  | toggle (plug : DeviceIdx) (confirmOffSeconds : Option ℚ)
  | turnOn (plug : DeviceIdx)
  | turnOff (plug : DeviceIdx)
  | turnOffAllZones
  deriving DecidableEq

namespace ResolvedEffect

/-- The room a manual room command is about. -/
def room : ResolvedEffect → Option RoomIdx
  | sceneCycle room => some room
  | groupSceneCycle room => some room
  | sceneStepDown room => some room
  | sceneToggle room => some room
  | sceneToggleCycle room => some room
  | turnOffRoom room => some room
  | brightnessStep room _ _ => some room
  | brightnessMove room _ => some room
  | brightnessStop room => some room
  | toggle _ _ => none
  | turnOn _ => none
  | turnOff _ => none
  | turnOffAllZones => none

/-- The effect switches a plug, without asking for a confirmation. -/
def Switches (plug : DeviceIdx) (effect : ResolvedEffect) : Prop :=
  effect = turnOn plug ∨ effect = turnOff plug ∨ effect = toggle plug none

/-- The plug of a device-targeting effect. -/
def targetPlug : ResolvedEffect → Option DeviceIdx
  | toggle plug _ => some plug
  | turnOn plug => some plug
  | turnOff plug => some plug
  | _ => none

theorem Switches.targetPlug {plug : DeviceIdx} {effect : ResolvedEffect}
    (switches : effect.Switches plug) : effect.targetPlug = some plug := by
  rcases switches with rfl | rfl | rfl
  · rfl
  · rfl
  · rfl

end ResolvedEffect

/-- A binding of a trigger to an effect. -/
structure ResolvedBinding where
  name : String
  trigger : ResolvedTrigger
  effect : ResolvedEffect

/-- The bridge that serves a plug. -/
inductive PlugProtocol
  | zigbee
  | zwave
  deriving DecidableEq, Repr

/-- What the runtime asks of a device. -/
structure DeviceInfo where
  name : String
  kind : DeviceKind
  /-- The bridge of a plug. -/
  plugProtocol : Option PlugProtocol
  /-- The plug reports its power. -/
  powerMetered : Bool
  /-- Model of a switch. -/
  switchModel : Option String
  /-- Hardware variant of a valve. -/
  trvVariant : Option String
  deriving DecidableEq, Repr

/-- The tables of a topology. -/
structure TopologyTables where
  rooms : List ResolvedRoom
  /-- Transitive descendants of each room. -/
  descendantsByRoom : List (List RoomIdx)
  devices : List DeviceInfo
  switchModels : NameMap SwitchModel
  /-- Buttons with a software double-tap binding. -/
  softDoubleTapButtons : List (DeviceIdx × String)
  /-- Buttons whose hardware reports double taps. -/
  hwDoubleTapButtons : List (DeviceIdx × String)
  bindings : List ResolvedBinding
  motionRules : List ResolvedMotionRule
  heatingConfig : Option HeatingConfig

namespace TopologyTables

variable (tables : TopologyTables)

/-- The room at a position. -/
def room (idx : RoomIdx) : Option ResolvedRoom := tables.rooms[idx]?

/-- The position of the room with a name. -/
def roomIdx (name : String) : Option RoomIdx := tables.rooms.findIdx? fun room => room.name == name

/-- The room with a name. -/
def roomByName (name : String) : Option ResolvedRoom := (tables.roomIdx name).bind tables.room

/-- The position of the room with a group name. -/
def roomIdxByGroup (group : String) : Option RoomIdx :=
  tables.rooms.findIdx? fun room => room.groupName == group

/-- The room with a group name. -/
def roomByGroupName (group : String) : Option ResolvedRoom :=
  (tables.roomIdxByGroup group).bind tables.room

/-- Name of the room at a position. -/
def roomName (idx : RoomIdx) : String := ((tables.room idx).map (·.name)).getD ""

/-- The position of the device with a name. -/
def deviceIdx (name : String) : Option DeviceIdx :=
  tables.devices.findIdx? fun device => device.name == name

/-- Name of the device at a position. -/
def deviceName (idx : DeviceIdx) : String := ((tables.devices[idx]?).map (·.name)).getD ""

/-- The device at a position is a plug. -/
def isPlugIdx (idx : DeviceIdx) : Bool :=
  (tables.devices[idx]?).any fun device => device.kind == .plug

/-- The device with a name is of a kind. -/
def isKind (kind : DeviceKind) (name : String) : Bool :=
  (tables.deviceIdx name).any fun idx =>
    (tables.devices[idx]?).any fun device => device.kind == kind

/-- The device with a name is a light. -/
def isLight (name : String) : Bool := tables.isKind .light name

/-- The device with a name is a plug, on either bridge. -/
def isPlug (name : String) : Bool := tables.isKind .plug name

/-- The device with a name is a valve. -/
def isTrv (name : String) : Bool := tables.isKind .trv name

/-- The device with a name is a wall thermostat. -/
def isWallThermostat (name : String) : Bool := tables.isKind .wallThermostat name

/-- The device with a name is a Z-Wave plug. -/
def isZwavePlug (name : String) : Bool :=
  (tables.deviceIdx name).any fun idx =>
    (tables.devices[idx]?).any fun device => device.plugProtocol == some .zwave

/-- The plug reports its power. -/
def powerMetered (idx : DeviceIdx) : Bool := (tables.devices[idx]?).any (·.powerMetered)

/-- Hardware variant of a valve. -/
def trvVariant (device : String) : Option String :=
  (tables.deviceIdx device).bind fun idx => (tables.devices[idx]?).bind (·.trvVariant)

/-- Model of the switch at a position. -/
def switchModelOf (idx : DeviceIdx) : Option SwitchModel :=
  ((tables.devices[idx]?).bind (·.switchModel)).bind fun model => tables.switchModels[model]?

/-- The switch, button and gesture that an action string of a device stands for. -/
def resolveButtonEvent (device action : String) : Option (DeviceIdx × String × Gesture) :=
  (tables.deviceIdx device).bind fun idx =>
    (tables.switchModelOf idx).bind fun model =>
      (model.resolve action).map fun mapping => (idx, mapping.button, mapping.gesture)

/-- Transitive descendants of a room. -/
def descendantsOf (idx : RoomIdx) : List RoomIdx := (tables.descendantsByRoom[idx]?).getD []

/-- The rules that list a sensor. -/
def motionRulesForSensor (sensor : String) : List ResolvedMotionRule :=
  tables.motionRules.filter fun rule => rule.sensors.contains sensor

/-- The rooms with a member that a rule controls. -/
def relatedRooms (rule : ResolvedMotionRule) : List RoomIdx :=
  (List.range tables.rooms.length).filter fun idx =>
    (tables.room idx).any fun room => room.lightMembers.any fun light => rule.lights.contains light

/-- The rooms that the rules of a sensor drive. -/
def roomsForMotion (sensor : String) : List RoomIdx :=
  ((tables.motionRulesForSensor sensor).flatMap tables.relatedRooms).eraseDups

/-- The rooms a device is a member of. -/
def lightRooms (device : DeviceIdx) : List RoomIdx :=
  (List.range tables.rooms.length).filter fun idx =>
    (tables.room idx).any fun room => room.lightMembers.any fun light => light.device == device

/-- The bindings of a button and gesture. -/
def bindingsForButton (device : DeviceIdx) (button : String) (gesture : Gesture) :
    List ResolvedBinding :=
  tables.bindings.filter fun binding =>
    match binding.trigger with
    | .button device' button' gesture' =>
        device' == device && button' == button && gesture' == gesture
    | _ => false

/-- The power-below bindings that watch a plug. -/
def bindingsForPowerBelow (plug : DeviceIdx) : List ResolvedBinding :=
  tables.bindings.filter fun binding =>
    match binding.trigger with
    | .powerBelow plug' _ _ => plug' == plug
    | _ => false

/-- The button has a software double-tap binding. -/
def isSoftDoubleTapButton (device : DeviceIdx) (button : String) : Bool :=
  tables.softDoubleTapButtons.contains (device, button)

/-- The button's hardware reports double taps. -/
def isHwDoubleTapButton (device : DeviceIdx) (button : String) : Bool :=
  tables.hwDoubleTapButtons.contains (device, button)

end TopologyTables

/-- Switch steps fit the scenes, slots and members they are resolved against. -/
structure SwitchStepsFit (scenes : List Scene) (slots : NameMap Slot)
    (members : List LightEndpoint) (steps : NameMap (List ResolvedSwitchStep)) : Prop where
  /-- Every key is a slot. -/
  slot_exists : ∀ slot, steps.contains slot = true → slots.contains slot = true
  /-- No slot has an empty sequence. -/
  steps_nonempty : ∀ (slot : String) (sequence : List ResolvedSwitchStep),
    steps[slot]? = some sequence → sequence ≠ []
  /-- Every step's scene is a scene of the room. -/
  scene_known : ∀ (slot : String) (sequence : List ResolvedSwitchStep),
    steps[slot]? = some sequence → ∀ step ∈ sequence, step.scene ∈ scenes
  /-- Every step selects members. -/
  lights_members : ∀ (slot : String) (sequence : List ResolvedSwitchStep),
    steps[slot]? = some sequence → ∀ step ∈ sequence, ∀ light ∈ step.lights, light ∈ members
  /-- Every step selects a light. -/
  lights_nonempty : ∀ (slot : String) (sequence : List ResolvedSwitchStep),
    steps[slot]? = some sequence → ∀ step ∈ sequence, step.lights ≠ []

/-- What building a motion rule has checked. -/
structure MotionRuleFits (tables : TopologyTables) (rule : ResolvedMotionRule) : Prop where
  /-- A rule has sensors. -/
  sensors_nonempty : rule.sensors ≠ []
  /-- Its sensors are motion sensors of the catalog. -/
  sensors_known : ∀ sensor ∈ rule.sensors, tables.isKind .motionSensor sensor = true
  /-- The rule's schedule is valid. -/
  scenes_valid : rule.scenes.validate = .ok ()
  /-- The targets are keyed by exactly the slots of the schedule. -/
  target_of_slot : ∀ slot, rule.scenes.slots.contains slot = true →
    rule.targetsBySlot.contains slot = true
  /-- Every slot names a scene. -/
  scene_ids_nonempty : ∀ (name : String) (slot : Slot), rule.scenes.slots[name]? = some slot →
    slot.sceneIds ≠ []
  /-- A target names lights. -/
  lights_nonempty : ∀ (slot : String) (target : ResolvedMotionTarget),
    rule.targetsBySlot[slot]? = some target → target.lights ≠ []
  /-- A target names each light once. -/
  lights_nodup : ∀ (slot : String) (target : ResolvedMotionTarget),
    rule.targetsBySlot[slot]? = some target → target.lights.Nodup
  /-- The rule's lights are those of its targets. -/
  lights_iff : ∀ light, light ∈ rule.lights ↔
    ∃ (slot : String) (target : ResolvedMotionTarget),
      rule.targetsBySlot[slot]? = some target ∧ light ∈ target.lights
  /-- A target's lights are group members. -/
  lights_members : ∀ light ∈ rule.lights, ∃ room ∈ tables.rooms, light ∈ room.lightMembers
  /-- A group target has exactly the members of its group. -/
  group_lights : ∀ (slot : String) (target : ResolvedMotionTarget) (group : RoomIdx),
    rule.targetsBySlot[slot]? = some target → target.group = some group →
      ∃ room, tables.room group = some room ∧ target.lights = room.lightMembers
  /-- The scenes of a group target's slot are provisioned on the group. -/
  group_scenes : ∀ (slot : String) (target : ResolvedMotionTarget) (group : RoomIdx)
    (room : ResolvedRoom) (times : Slot), rule.targetsBySlot[slot]? = some target →
      target.group = some group → tables.room group = some room →
      rule.scenes.slots[slot]? = some times → ∀ id ∈ times.sceneIds, ∀ scene,
        rule.scenes.sceneById id = some scene → scene ∈ room.scenes.scenes
  /-- A controlled light is a member by one endpoint only. -/
  single_endpoint : ∀ light ∈ rule.lights, ∀ room ∈ tables.rooms, ∀ member ∈ room.lightMembers,
    member.device = light.device → member = light

/-- What building the topology has checked. -/
structure TopologyTables.Valid (tables : TopologyTables) : Prop where
  /-- Room names are unique. -/
  room_names_nodup : (tables.rooms.map (·.name)).Nodup
  /-- Group names are unique. -/
  group_names_nodup : (tables.rooms.map (·.groupName)).Nodup
  /-- Device names are unique. -/
  device_names_nodup : (tables.devices.map (·.name)).Nodup
  /-- Only plugs are served by a bridge of their own. -/
  protocols_plugs : ∀ device ∈ tables.devices, device.plugProtocol.isSome = true →
    device.kind = .plug
  /-- Every member is a device of the catalog. -/
  members_known : ∀ room ∈ tables.rooms, ∀ light ∈ room.lightMembers,
    light.device < tables.devices.length
  /-- Every room's schedule is valid. -/
  scenes_valid : ∀ room ∈ tables.rooms, room.scenes.validate = .ok ()
  /-- Every room's switch steps fit the room. -/
  switch_steps_fit : ∀ room ∈ tables.rooms,
    SwitchStepsFit room.scenes.scenes room.scenes.slots room.lightMembers room.switchSteps
  /-- Binding names are unique. -/
  binding_names_nodup : (tables.bindings.map (·.name)).Nodup
  /-- A power-below binding watches a metered plug and targets no other plug. -/
  power_below_fits : ∀ binding ∈ tables.bindings, ∀ plug watts holdoff,
    binding.trigger = .powerBelow plug watts holdoff → plug < tables.devices.length ∧
      tables.isPlugIdx plug ∧ tables.powerMetered plug ∧
        ∀ target, binding.effect.targetPlug = some target → target = plug
  /-- A binding switches plugs only. -/
  effects_known : ∀ binding ∈ tables.bindings, ∀ plug, binding.effect.targetPlug = some plug →
    tables.isPlugIdx plug = true
  /-- A button that triggers a binding is a button of its switch. -/
  buttons_known : ∀ binding ∈ tables.bindings, ∀ device button gesture,
    binding.trigger = .button device button gesture →
      ∃ model, tables.switchModelOf device = some model ∧ button ∈ model.buttons
  /-- The buttons with a software double-tap binding are listed. -/
  soft_double_tap_iff : ∀ device button, tables.isSoftDoubleTapButton device button ↔
    ∃ binding ∈ tables.bindings, binding.trigger = .button device button .softDoubleTap
  /-- The buttons are listed whose switch reports both presses and double taps. -/
  hw_double_tap_iff : ∀ device button, tables.isHwDoubleTapButton device button ↔
    ∃ model, tables.switchModelOf device = some model ∧ button ∈ model.buttons ∧
      model.maps button .press ∧ model.maps button .doubleTap
  /-- The parent graph is acyclic, so no room is its own descendant. -/
  descendants_irrefl : ∀ idx, idx ∉ tables.descendantsOf idx
  /-- Motion rule names are unique. -/
  rule_names_nodup : (tables.motionRules.map (·.name)).Nodup
  /-- Every motion rule fits the tables. -/
  rules_fit : ∀ rule ∈ tables.motionRules, MotionRuleFits tables rule
  /-- No light is targeted twice, within a rule or across rules. -/
  rule_lights_disjoint :
    ((tables.motionRules.flatMap (·.lights)).map (·.device)).Nodup
  /-- The heating configuration is valid. -/
  heating_valid : ∀ config, tables.heatingConfig = some config → config.Valid
  /-- Relays and valves are devices of the catalog. -/
  heating_devices : ∀ config, tables.heatingConfig = some config → ∀ zone ∈ config.zones,
    (tables.deviceIdx zone.relay).isSome ∧
      ∀ trv ∈ zone.trvs, (tables.deviceIdx trv.device).isSome

/-! ## Lookups by name and position -/

namespace TopologyTables

variable {tables : TopologyTables}

/-- The effect is that of a deployed binding, or switches a plug as an override may. -/
def Provides (tables : TopologyTables) (effect : ResolvedEffect) : Prop :=
  (∃ binding ∈ tables.bindings, binding.effect = effect) ∨
    ∃ plug, tables.isPlugIdx plug = true ∧ effect.Switches plug

theorem Provides.known (valid : tables.Valid) {effect : ResolvedEffect}
    (provides : tables.Provides effect) {plug : DeviceIdx}
    (targeted : effect.targetPlug = some plug) : tables.isPlugIdx plug = true := by
  rcases provides with ⟨binding, deployed, rfl⟩ | ⟨other, known, switches⟩
  · exact valid.effects_known binding deployed plug targeted
  · rw [switches.targetPlug] at targeted
    cases targeted
    exact known

/-- An effect that no override provides is that of a deployed binding. -/
theorem Provides.deployed {effect : ResolvedEffect} (provides : tables.Provides effect)
    (unswitched : ∀ plug, ¬ effect.Switches plug) :
    ∃ binding ∈ tables.bindings, binding.effect = effect := by
  rcases provides with deployed | ⟨plug, _, switches⟩
  · exact deployed
  · exact absurd switches (unswitched plug)

theorem mem_rooms_of_room {idx : RoomIdx} {room : ResolvedRoom}
    (found : tables.room idx = some room) : room ∈ tables.rooms :=
  List.mem_of_getElem? found

theorem room_of_roomIdx {name : String} {idx : RoomIdx} (found : tables.roomIdx name = some idx) :
    ∃ room, tables.room idx = some room ∧ room.name = name := by
  unfold roomIdx at found
  rw [List.findIdx?_eq_some_iff_getElem] at found
  obtain ⟨bound, named, _⟩ := found
  exact ⟨tables.rooms[idx], List.getElem?_eq_getElem bound, by simpa using named⟩

theorem roomName_of_roomIdx {name : String} {idx : RoomIdx}
    (found : tables.roomIdx name = some idx) : tables.roomName idx = name := by
  obtain ⟨room, here, named⟩ := room_of_roomIdx found
  simp [roomName, here, named]

theorem roomByName_eq_some_iff {name : String} {room : ResolvedRoom} :
    tables.roomByName name = some room ↔
      ∃ idx, tables.roomIdx name = some idx ∧ tables.room idx = some room := by
  unfold roomByName
  rw [Option.bind_eq_some_iff]

theorem mem_rooms_of_roomByName {name : String} {room : ResolvedRoom}
    (found : tables.roomByName name = some room) : room ∈ tables.rooms ∧ room.name = name := by
  obtain ⟨idx, position, here⟩ := roomByName_eq_some_iff.mp found
  obtain ⟨other, there, named⟩ := room_of_roomIdx position
  rw [here] at there
  cases there
  exact ⟨mem_rooms_of_room here, named⟩

theorem eq_of_roomName_eq (valid : tables.Valid) {first second : RoomIdx}
    {room other : ResolvedRoom} (here : tables.room first = some room)
    (there : tables.room second = some other) (same : room.name = other.name) :
    first = second := by
  have bound : first < tables.rooms.length := (List.getElem?_eq_some_iff.mp here).1
  refine (List.getElem?_inj (by simpa using bound) valid.room_names_nodup).mp ?_
  unfold TopologyTables.room at here there
  rw [List.getElem?_map, List.getElem?_map, here, there, Option.map_some, Option.map_some, same]

theorem roomIdx_of_room (valid : tables.Valid) {idx : RoomIdx} {room : ResolvedRoom}
    (found : tables.room idx = some room) : tables.roomIdx room.name = some idx := by
  cases position : tables.roomIdx room.name with
  | none =>
      unfold roomIdx at position
      rw [List.findIdx?_eq_none_iff] at position
      simpa using position room (mem_rooms_of_room found)
  | some other =>
      obtain ⟨namesake, there, named⟩ := room_of_roomIdx position
      rw [eq_of_roomName_eq valid there found named]

theorem roomByName_of_room (valid : tables.Valid) {idx : RoomIdx} {room : ResolvedRoom}
    (found : tables.room idx = some room) : tables.roomByName room.name = some room :=
  roomByName_eq_some_iff.mpr ⟨idx, roomIdx_of_room valid found, found⟩

theorem roomName_of_room {idx : RoomIdx} {room : ResolvedRoom}
    (found : tables.room idx = some room) : tables.roomName idx = room.name := by
  simp [roomName, found]

theorem deviceName_inj (valid : tables.Valid) {first second : DeviceIdx}
    (firstBound : first < tables.devices.length) (secondBound : second < tables.devices.length)
    (same : tables.deviceName first = tables.deviceName second) : first = second := by
  unfold deviceName at same
  rw [List.getElem?_eq_getElem firstBound, List.getElem?_eq_getElem secondBound] at same
  refine (List.getElem?_inj (by simpa using firstBound) valid.device_names_nodup).mp ?_
  rw [List.getElem?_map, List.getElem?_map, List.getElem?_eq_getElem firstBound,
    List.getElem?_eq_getElem secondBound]
  simpa using same

theorem deviceName_of_deviceIdx {name : String} {idx : DeviceIdx}
    (found : tables.deviceIdx name = some idx) :
    tables.deviceName idx = name ∧ idx < tables.devices.length := by
  unfold deviceIdx at found
  rw [List.findIdx?_eq_some_iff_getElem] at found
  obtain ⟨bound, named, _⟩ := found
  refine ⟨?_, bound⟩
  unfold deviceName
  rw [List.getElem?_eq_getElem bound]
  simpa using named

theorem deviceIdx_of_deviceName (valid : tables.Valid) {idx : DeviceIdx}
    (bound : idx < tables.devices.length) :
    tables.deviceIdx (tables.deviceName idx) = some idx := by
  cases position : tables.deviceIdx (tables.deviceName idx) with
  | none =>
      unfold deviceIdx deviceName at position
      rw [List.findIdx?_eq_none_iff] at position
      have named := position tables.devices[idx] (List.getElem_mem bound)
      simp [List.getElem?_eq_getElem bound] at named
  | some other =>
      obtain ⟨named, otherBound⟩ := deviceName_of_deviceIdx position
      rw [deviceName_inj valid otherBound bound named]

end TopologyTables

/-- A validated topology. -/
structure Topology extends TopologyTables where
  /-- The checks of building it. -/
  valid : toTopologyTables.Valid

end MqttController
