import MqttController.Config.HeatingSection
import MqttController.Descendants
import MqttController.Provision.Groups

/-!
# Building the topology

The configuration is checked in one pass, and its names are replaced by positions.  The first
failure ends the pass; what the code takes for granted at that point is a lookup that panics.
-/

namespace MqttController

open Std Checked

/-- Why a configuration is refused. -/
inductive TopologyError
  /-- The text of the error about switch steps. -/
  | invalidSwitchSteps (text : String)
  | invalidMotionRule (rule reason : String)
  /-- The names or the parents of the rooms are refused. -/
  | rooms (error : ParentError)
  | duplicateGroupId (id : Nat) (first second : String)
  | duplicateGroupName (name first second : String)
  | groupNameDeviceCollision (groupName room deviceKind : String)
  | unknownMemberLight (room member bulb : String)
  | malformedMember (room member : String)
  | invalidSceneSchedule (room : String) (source : SceneScheduleError)
  | missingLocationForSunExpressions
  | duplicateBindingName (binding : String)
  | bindingTriggerUnknownDevice (binding device : String)
  | bindingTriggerWrongDeviceKind (binding device actualKind : String)
  | bindingButtonNotInModel (binding device model button : String)
  | bindingRoomNotFound (binding room : String)
  | bindingEffectUnknownDevice (binding device : String)
  | bindingEffectNotPlug (binding device kind : String)
  | bindingPowerBelowWithoutCapability (binding device variant : String)
  | powerBelowCrossTarget (binding triggerDevice effectTarget : String)
  | negativeTransition (room : String) (value : ℚ)
  | negativeCycleWindow (value : ℚ)
  | negativeDoubleTapSuppression (value : ℚ)
  | negativeConfirmOffWindow (binding : String) (value : ℚ)
  | invalidAtTime (binding time : String)
  | zwavePlugMissingNodeId (device : String)
  | duplicateZwaveNodeId (nodeId : Nat) (first second : String)
  | unknownSwitchModel (device model : String)
  | heating (error : HeatingSectionError)

/-- How building a topology fails. -/
inductive BuildFailure
  | refused (error : TopologyError)
  /-- A lookup fails that the code takes for granted. -/
  | panicked (text : String)
  /-- A loop takes more turns than allowed. -/
  | outOfTurns

/-- The failure of a lookup by index. -/
def BuildFailure.noEntry : BuildFailure := .panicked "no entry found for key"

/-- The verdict of loops that may take too many turns. -/
def BuildFailure.verdict {ε α : Type} (failure : ε → BuildFailure)
    (result : ExceptT ε Option α) : Except BuildFailure α :=
  match result.run with
  | none => .error .outOfTurns
  | some (.error error) => .error (failure error)
  | some (.ok value) => .ok value

namespace Config

variable (config : Config)

/-! ## Names and parents of rooms -/

/-- What the checks of the parents read of the rooms. -/
def roomLinks : List RoomLink :=
  config.rooms.map fun room => { name := room.name, parent := room.parent }

/-- Owners of the group numbers and group names. -/
structure GroupOwners where
  ids : TreeMap Nat String := ∅
  names : NameMap String := ∅

/-- The group of a room has a number and a name of its own. -/
def checkGroup (owners : GroupOwners) (room : Room) : Except BuildFailure GroupOwners := do
  let ids ← claim owners.ids room.id room.name fun first =>
    .refused (.duplicateGroupId room.id first room.name)
  let names ← claim owners.names room.groupName room.name fun first =>
    .refused (.duplicateGroupName room.groupName first room.name)
  pure { ids, names }

/-- The group of a room does not have the name of a device. -/
def checkGroupName (room : Room) : Except BuildFailure Unit :=
  match config.devices[room.groupName]? with
  | none => .ok ()
  | some entry =>
      .error (.refused (.groupNameDeviceCollision room.groupName room.name entry.kindLabel))

/-- The names, groups and parents of the rooms. -/
def checkRoomNames (turns : Nat) : Except BuildFailure Unit := do
  let byName ← (RoomLink.roomsByName config.roomLinks).mapError (.refused ∘ .rooms)
  let _ ← config.rooms.foldlM checkGroup {}
  config.rooms.forM config.checkGroupName
  (config.roomLinks.forM (RoomLink.checkParent byName)).mapError (.refused ∘ .rooms)
  BuildFailure.verdict (.refused ∘ .rooms)
    (config.roomLinks.forM (RoomLink.checkChain byName turns))

/-! ## Scenes, defaults and members -/

/-- Validate a schedule; resolving a boundary may need sun times. -/
def validateScenes (schedule : SceneSchedule) (failure : SceneScheduleError → BuildFailure) :
    Except BuildFailure Unit := do
  require (schedule.validatePanics = false)
    (.panicked "sun times required for sun-relative expression")
  schedule.validate.mapError failure

/-- The schedule of a room is valid. -/
def checkScenes (room : Room) : Except BuildFailure Unit :=
  validateScenes room.scenes fun source => .refused (.invalidSceneSchedule room.name source)

/-- The defaults are no negative times. -/
def checkDefaults : Except BuildFailure Unit := do
  require (0 ≤ config.defaults.cycleWindowSeconds)
    (.refused (.negativeCycleWindow config.defaults.cycleWindowSeconds))
  require (0 ≤ config.defaults.doubleTapSuppressionSeconds)
    (.refused (.negativeDoubleTapSuppression config.defaults.doubleTapSuppressionSeconds))

/-- Turning off a room takes no negative time. -/
def checkTransition (room : Room) : Except BuildFailure Unit :=
  require (0 ≤ room.offTransitionSeconds)
    (.refused (.negativeTransition room.name room.offTransitionSeconds))

/-- The device and the endpoint of a member. -/
def parseMemberKey (member : String) : Option (String × Nat) := Provision.parseMemberKey member

/-- A member of a room is a light of the catalog. -/
def checkMember (room : Room) (member : String) : Except BuildFailure Unit := do
  let key ← okOr (parseMemberKey member) (.refused (.malformedMember room.name member))
  match config.devices[key.1]? with
  | some (.light _) => pure ()
  | some other =>
      .error (.refused (.unknownMemberLight room.name member
        (key.1 ++ " (catalog kind: " ++ other.kindLabel ++ ")")))
  | none => .error (.refused (.unknownMemberLight room.name member key.1))

/-- The members of a room are lights of the catalog. -/
def checkMembers (room : Room) : Except BuildFailure Unit :=
  room.members.forM (config.checkMember room)

/-! ## Devices -/

/-- The devices in the order of their names. -/
def deviceInfos : List DeviceInfo := config.devices.toList.map fun entry => entry.2.info entry.1

/-- The position of the device with a name. -/
def deviceByName (name : String) : Option DeviceIdx :=
  config.deviceInfos.findIdx? fun device => device.name == name

/-- The position of the room with a name. -/
def roomByName (name : String) : Option RoomIdx :=
  config.rooms.findIdx? fun room => room.name == name

/-- The buttons of a device whose hardware reports both presses and double taps. -/
def hwDoubleTapButtonsOf : String × DeviceCatalogEntry →
    Except BuildFailure (List (DeviceIdx × String))
  | (name, .switch _ model) => do
      let switchModel ← okOr config.switchModels[model]? (.refused (.unknownSwitchModel name model))
      let device ← okOr (config.deviceByName name) .noEntry
      let buttons := switchModel.buttons.filter fun button =>
        switchModel.maps button .press && switchModel.maps button .doubleTap
      pure (buttons.map fun button => (device, button))
  | _ => pure []

/-- The buttons whose hardware reports both presses and double taps. -/
def hwDoubleTapButtons : Except BuildFailure (List (DeviceIdx × String)) := do
  let buttons ← config.devices.toList.mapM config.hwDoubleTapButtonsOf
  pure buttons.flatten

/-- A Z-Wave plug has a node of its own. -/
def checkNodeId (owners : TreeMap Nat String) (entry : String × DeviceCatalogEntry) :
    Except BuildFailure (TreeMap Nat String) :=
  if entry.2.plugProtocol = some .zwave then do
    let nodeId ← okOr entry.2.zwaveNodeId (.refused (.zwavePlugMissingNodeId entry.1))
    claim owners nodeId entry.1 fun first => .refused (.duplicateZwaveNodeId nodeId first entry.1)
  else pure owners

/-! ## Bindings -/

/-- The device that a trigger watches. -/
def triggerEntry (binding : Binding) (device : String) : Except BuildFailure DeviceCatalogEntry :=
  okOr config.devices[device]? (.refused (.bindingTriggerUnknownDevice binding.name device))

/-- The model of a switch has the button. -/
def checkButton (binding : Binding) (device button : String) (entry : DeviceCatalogEntry) :
    Except BuildFailure Unit :=
  match entry.switchModel with
  | none => .ok ()
  | some name =>
      match config.switchModels[name]? with
      | none => .ok ()
      | some model =>
          require (button ∈ model.buttons)
            (.refused (.bindingButtonNotInModel binding.name device name button))

/-- The effect of a kill switch has the plug that it watches as its target. -/
def checkSameTarget (binding : Binding) (device : String) : Except BuildFailure Unit :=
  match binding.effect.target with
  | none => .ok ()
  | some target =>
      require (target = device) (.refused (.powerBelowCrossTarget binding.name device target))

/-- Check and resolve the trigger of a binding. -/
def resolveTrigger (binding : Binding) : Except BuildFailure ResolvedTrigger :=
  match binding.trigger with
  | .button device button gesture => do
      let entry ← config.triggerEntry binding device
      require (entry.kind = .switch)
        (.refused (.bindingTriggerWrongDeviceKind binding.name device entry.kindLabel))
      config.checkButton binding device button entry
      let idx ← okOr (config.deviceByName device) .noEntry
      pure (.button idx button gesture)
  | .powerBelow device watts forSeconds => do
      let entry ← config.triggerEntry binding device
      require (entry.kind = .plug)
        (.refused (.bindingTriggerWrongDeviceKind binding.name device entry.kindLabel))
      require (entry.hasCapability "power" = true)
        (.refused (.bindingPowerBelowWithoutCapability binding.name device entry.plugVariant))
      checkSameTarget binding device
      let idx ← okOr (config.deviceByName device) .noEntry
      pure (.powerBelow idx watts (Duration.fromSecs forSeconds))
  | .at time => do
      require (time.isValidTriggerTime = true)
        (.refused (.invalidAtTime binding.name time.display))
      pure (.at time)

/-- The room of an effect is a room. -/
def checkEffectRoom (binding : Binding) : Except BuildFailure Unit :=
  match binding.effect.room with
  | none => .ok ()
  | some room =>
      require ((config.roomByName room).isSome = true)
        (.refused (.bindingRoomNotFound binding.name room))

/-- The target of an effect is a plug. -/
def checkEffectTarget (binding : Binding) : Except BuildFailure Unit :=
  match binding.effect.target with
  | none => .ok ()
  | some target => do
      let entry ← okOr config.devices[target]?
        (.refused (.bindingEffectUnknownDevice binding.name target))
      require (entry.kind = .plug)
        (.refused (.bindingEffectNotPlug binding.name target entry.kindLabel))

/-- The window of a confirmation is no negative time. -/
def checkConfirmOff (binding : Binding) : Except BuildFailure Unit :=
  match binding.effect.confirmOffSeconds with
  | none => .ok ()
  | some seconds =>
      require (0 ≤ seconds) (.refused (.negativeConfirmOffWindow binding.name seconds))

/-- The position of a room that is known by now. -/
def knownRoom (name : String) : Except BuildFailure RoomIdx :=
  okOr (config.roomByName name) .noEntry

/-- The position of a device that is known by now. -/
def knownDevice (name : String) : Except BuildFailure DeviceIdx :=
  okOr (config.deviceByName name) .noEntry

/-- An effect with positions for names. -/
def translateEffect : Effect → Except BuildFailure ResolvedEffect
  | .sceneCycle room => return .sceneCycle (← config.knownRoom room)
  | .groupSceneCycle room => return .groupSceneCycle (← config.knownRoom room)
  | .sceneStepDown room => return .sceneStepDown (← config.knownRoom room)
  | .sceneToggle room => return .sceneToggle (← config.knownRoom room)
  | .sceneToggleCycle room => return .sceneToggleCycle (← config.knownRoom room)
  | .turnOffRoom room => return .turnOffRoom (← config.knownRoom room)
  | .brightnessStep room step transition =>
      return .brightnessStep (← config.knownRoom room) step transition
  | .brightnessMove room rate => return .brightnessMove (← config.knownRoom room) rate
  | .brightnessStop room => return .brightnessStop (← config.knownRoom room)
  | .toggle target confirmOffSeconds =>
      return .toggle (← config.knownDevice target) confirmOffSeconds
  | .turnOn target => return .turnOn (← config.knownDevice target)
  | .turnOff target => return .turnOff (← config.knownDevice target)
  | .turnOffAllZones => return .turnOffAllZones

/-- Check and resolve the effect of a binding. -/
def resolveEffect (binding : Binding) : Except BuildFailure ResolvedEffect := do
  config.checkEffectRoom binding
  config.checkEffectTarget binding
  checkConfirmOff binding
  config.translateEffect binding.effect

/-- Position of a gesture. -/
def gestureRank : Gesture → Nat
  | .press => 0
  | .hold => 1
  | .holdRelease => 2
  | .doubleTap => 3
  | .softDoubleTap => 4

/-- Order of gestures of buttons. -/
abbrev gestureOrder : DeviceIdx × String × Gesture → DeviceIdx × String × Gesture → Ordering :=
  compareLex (compareOn Prod.fst)
    (compareLex (compareOn fun key => key.2.1) (compareOn fun key => gestureRank key.2.2))

theorem gestureRank_inj {first second : Gesture} (same : gestureRank first = gestureRank second) :
    first = second := by
  cases first <;> cases second <;> first | rfl | cases same

instance : LawfulEqCmp gestureOrder where
  eq_of_compare {first second} same := by
    obtain ⟨device, rest⟩ := compareLex_eq_eq.mp same
    obtain ⟨button, gesture⟩ := compareLex_eq_eq.mp rest
    have device : compare first.1 second.1 = .eq := device
    have button : compare first.2.1 second.2.1 = .eq := button
    have gesture : compare (gestureRank first.2.2) (gestureRank second.2.2) = .eq := gesture
    exact Prod.ext (LawfulEqCmp.eq_of_compare device)
      (Prod.ext (LawfulEqCmp.eq_of_compare button)
        (gestureRank_inj (LawfulEqCmp.eq_of_compare gesture)))

/-- The gesture of a button that a binding waits for. -/
def buttonKey (binding : ResolvedBinding) : Option (DeviceIdx × String × Gesture) :=
  match binding.trigger with
  | .button device button gesture => some (device, button, gesture)
  | _ => none

/-- The plug whose power a binding watches. -/
def plugKey (binding : ResolvedBinding) : Option DeviceIdx :=
  match binding.trigger with
  | .powerBelow plug _ _ => some plug
  | _ => none

/-- The bindings so far. -/
structure BindingsSoFar where
  names : NameMap String := ∅
  /-- Positions of the bindings of each gesture of a button. -/
  buttonIndex : TreeMap (DeviceIdx × String × Gesture) (List Nat) gestureOrder := ∅
  /-- Positions of the bindings that watch each plug. -/
  powerBelowIndex : TreeMap DeviceIdx (List Nat) compare := ∅
  resolved : List ResolvedBinding := []

namespace BindingsSoFar

/-- Add a binding to the list and to the indexes. -/
def push (state : BindingsSoFar) (names : NameMap String) (binding : ResolvedBinding) :
    BindingsSoFar :=
  let position := state.resolved.length
  { names
    buttonIndex := OrderedMap.pushAt state.buttonIndex (buttonKey binding) position
    powerBelowIndex := OrderedMap.pushAt state.powerBelowIndex (plugKey binding) position
    resolved := state.resolved ++ [binding] }

/-- The bindings that the index has for a gesture of a button. -/
def bindingsForButton (state : BindingsSoFar) (device : DeviceIdx) (button : String)
    (gesture : Gesture) : List ResolvedBinding :=
  ((state.buttonIndex[(device, button, gesture)]?).getD []).filterMap (state.resolved[·]?)

/-- The bindings that the index has for a plug. -/
def bindingsForPowerBelow (state : BindingsSoFar) (plug : DeviceIdx) : List ResolvedBinding :=
  ((state.powerBelowIndex[plug]?).getD []).filterMap (state.resolved[·]?)

end BindingsSoFar

/-- Check and resolve a binding. -/
def addBinding (state : BindingsSoFar) (binding : Binding) : Except BuildFailure BindingsSoFar := do
  let names ← claim state.names binding.name binding.name fun _ =>
    .refused (.duplicateBindingName binding.name)
  let trigger ← config.resolveTrigger binding
  let effect ← config.resolveEffect binding
  pure (state.push names { name := binding.name, trigger, effect })

/-- The button of a software double-tap binding. -/
def softDoubleTapButton (binding : ResolvedBinding) : Option (DeviceIdx × String) :=
  match binding.trigger with
  | .button device button .softDoubleTap => some (device, button)
  | _ => none

/-! ## Rooms -/

/-- A member as an endpoint. -/
def resolveMember (room : Room) (member : String) : Except BuildFailure LightEndpoint := do
  let key ← okOr (parseMemberKey member) (.panicked "validated member")
  require (1 ≤ key.2 ∧ key.2 ≤ 240) (.refused (.malformedMember room.name member))
  let device ← config.knownDevice key.1
  pure { device, endpoint := key.2 }

/-- Resolve the members and the switch steps of a room. -/
def resolveRoom (room : Room) : Except BuildFailure ResolvedRoom := do
  let lightMembers ← room.members.mapM (config.resolveMember room)
  let switchSteps ← (resolveSwitchSteps room.name room.scenes room.switchSteps room.members
    lightMembers).mapError (.refused ∘ .invalidSwitchSteps)
  pure
    { name := room.name
      groupName := room.groupName
      members := room.members
      lightMembers
      parent := room.parent
      scenes := room.scenes
      switchSteps
      offTransitionSeconds := room.offTransitionSeconds
      boundMotion := [] }

/-- The lights of the rooms with switch steps appear under one endpoint only. -/
def validateEndpoints (rooms : List ResolvedRoom) : Except BuildFailure Unit :=
  (rooms.filter fun room => !room.switchSteps.isEmpty).forM fun room =>
    (endpointsObservable room rooms).mapError (.refused ∘ .invalidSwitchSteps)

/-! ## Heating and location -/

/-- The checked heating section. -/
def resolveHeating : Except BuildFailure (Option HeatingConfig) :=
  match config.heating with
  | none => .ok none
  | some heating => ((config.checkHeating heating).mapError (.refused ∘ .heating)).map some

/-- A trigger has a sun-relative time. -/
def Trigger.usesSun : Trigger → Bool
  | .at time => time.usesSun
  | _ => false

/-- A room or a binding has a sun-relative time. -/
def needsLocation : Bool :=
  config.rooms.any (fun room => room.scenes.usesSunExpressions) ||
    config.bindings.any fun binding => binding.trigger.usesSun

/-- Sun-relative times have a location. -/
def checkLocation (needed : Bool) : Except BuildFailure Unit :=
  require (needed = true → config.location.isSome = true)
    (.refused .missingLocationForSunExpressions)

/-! ## Motion rules -/

namespace MotionRule

variable (rule : MotionRule)

/-- The rule is refused. -/
def invalid (reason : String) : BuildFailure := .refused (.invalidMotionRule rule.name reason)

/-- A scene that the validation of the schedule has found. -/
def knownScene (id : Nat) : Except BuildFailure Scene :=
  okOr (rule.scenes.sceneById id) (.panicked "validated scene id")

/-- A scene of a slot turns lights on. -/
def checkScene (id : Nat) : Except BuildFailure Unit := do
  let scene ← rule.knownScene id
  require (scene.state = "ON" ∧ 0 ≤ scene.transition)
    (rule.invalid ("scene " ++ toString id ++
      " must turn lights ON and have a finite nonnegative transition"))

/-- A scene of a slot is a scene of its group. -/
def checkGroupScene (group : String) (room : ResolvedRoom) (id : Nat) :
    Except BuildFailure Unit := do
  let scene ← rule.knownScene id
  require (scene ∈ room.scenes.scenes)
    (rule.invalid ("scene " ++ toString id ++
      " differs from the provisioned scenes of group " ++ group.quote))

/-- Resolve a group as the target of a slot. -/
def resolveGroup (tables : TopologyTables) (slot : Slot) (group : String) :
    Except BuildFailure ResolvedMotionTarget := do
  let idx ← okOr (tables.roomIdx group) (rule.invalid ("unknown group " ++ group.quote))
  let room ← okOr (tables.room idx) (.panicked "index out of bounds")
  slot.sceneIds.forM (rule.checkGroupScene group room)
  pure { group := some idx, lights := room.lightMembers }

/-- Resolve a light as part of the target of a slot. -/
def resolveLight (tables : TopologyTables) (member : String) :
    Except BuildFailure LightEndpoint := do
  let parts ← okOr (Text.splitLast '/' member.toList)
    (rule.invalid ("invalid light endpoint " ++ member.quote))
  let name := String.ofList parts.1
  let device ← okOr (tables.deviceIdx name) (rule.invalid ("unknown light " ++ name.quote))
  let endpoint ← okOr
    ((Provision.parseUnsigned 256 parts.2).filter fun number => 1 ≤ number && number ≤ 240)
    (rule.invalid ("invalid light endpoint " ++ member.quote))
  let light : LightEndpoint := { device, endpoint }
  require (∃ room ∈ tables.rooms, light ∈ room.lightMembers)
    (rule.invalid ("light endpoint " ++ member.quote ++ " is not a configured group member"))
  pure light

/-- Resolve the target of a slot. -/
def resolveTarget (tables : TopologyTables) (slot : Slot) :
    MotionTarget → Except BuildFailure ResolvedMotionTarget
  | .group group => rule.resolveGroup tables slot group
  | .lights members => do
      let lights ← members.mapM (rule.resolveLight tables)
      pure { group := none, lights }

/-- Check and resolve what a rule controls in one slot. -/
def resolveSlot (tables : TopologyTables) (slotName : String) (target : MotionTarget) :
    Except BuildFailure ResolvedMotionTarget := do
  let slot ← okOr rule.scenes.slots[slotName]? .noEntry
  require (slot.sceneIds ≠ []) (rule.invalid ("slot " ++ slotName.quote ++ " has no scenes"))
  slot.sceneIds.forM rule.checkScene
  let resolved ← rule.resolveTarget tables slot target
  require (resolved.lights ≠ [] ∧ resolved.lights.Nodup)
    (rule.invalid ("slot " ++ slotName.quote ++ " must target nonempty, unique light endpoints"))
  pure resolved

/-- Add what a rule controls in one slot. -/
def addTarget (tables : TopologyTables) (targets : NameMap ResolvedMotionTarget)
    (entry : String × MotionTarget) : Except BuildFailure (NameMap ResolvedMotionTarget) := do
  let resolved ← rule.resolveSlot tables entry.1 entry.2
  pure (targets.insert entry.1 resolved)

/-- The endpoints in the order of devices and endpoints. -/
def sortedLights (lights : List LightEndpoint) : List LightEndpoint :=
  lights.eraseDups.insertionSort fun first second =>
    first.device < second.device ∨ first.device = second.device ∧ first.endpoint ≤ second.endpoint

/-- The endpoints by which a device is a member of rooms. -/
def endpointsOf (tables : TopologyTables) (device : DeviceIdx) : List Nat :=
  (((tables.rooms.flatMap (·.lightMembers)).filter fun member =>
    member.device == device).map (·.endpoint)).eraseDups

/-- A light has no other rule and one endpoint. -/
def ownLight (tables : TopologyTables) (owners : TreeMap DeviceIdx String) (light : LightEndpoint) :
    Except BuildFailure (TreeMap DeviceIdx String) := do
  let name := tables.deviceName light.device
  let owners ← claim owners light.device rule.name fun other =>
    rule.invalid ("light " ++ name.quote ++ " is also targeted by motion rule " ++ other.quote)
  require ((endpointsOf tables light.device).length = 1)
    (rule.invalid ("light " ++ name.quote ++ " has multiple endpoints; " ++
      "endpoint-specific telemetry is required for motion control"))
  pure owners

/-- A sensor of the rule is a motion sensor of the catalog. -/
def checkSensor (config : Config) (sensor : String) : Except BuildFailure Unit :=
  require (config.hasKind .motionSensor sensor = true)
    (rule.invalid ("sensor " ++ sensor.quote ++ " is not a motion sensor in the catalog"))

/-- The checks of a rule on its own. -/
def check (config : Config) : Except BuildFailure Unit := do
  require (rule.sensors ≠ [] ∧ rule.sensors.Nodup)
    (rule.invalid "sensors must be nonempty and unique")
  require (0 ≤ rule.offTransitionSeconds)
    (rule.invalid "off transition must be finite and nonnegative")
  validateScenes rule.scenes fun error => rule.invalid error.display
  config.checkLocation rule.scenes.usesSunExpressions
  require (rule.scenes.slots.keys ≠ [] ∧ rule.targetsBySlot.keys = rule.scenes.slots.keys)
    (rule.invalid "targets_by_slot must contain exactly the scene schedule's slots")
  rule.sensors.forM (rule.checkSensor config)

end MotionRule

/-- The motion rules so far. -/
structure RulesSoFar where
  tables : TopologyTables
  names : NameMap String := ∅
  /-- The rule of each light. -/
  owners : TreeMap DeviceIdx String := ∅

end Config

/-- Add a sensor to those of a room. -/
def ResolvedRoom.bindMotion (sensor : String) (room : ResolvedRoom) : ResolvedRoom :=
  if room.boundMotion.contains sensor then room
  else { room with boundMotion := room.boundMotion ++ [sensor] }

namespace TopologyTables

/-- Add a sensor to those of rooms. -/
def bindSensor (related : List RoomIdx) (rooms : List ResolvedRoom) (sensor : String) :
    List ResolvedRoom :=
  related.foldl (fun rooms idx => rooms.modify idx (·.bindMotion sensor)) rooms

/-- Add a rule, and its sensors to those of the related rooms. -/
def addMotionRule (tables : TopologyTables) (rule : ResolvedMotionRule) : TopologyTables :=
  { tables with
    rooms := rule.sensors.foldl (bindSensor (tables.relatedRooms rule)) tables.rooms
    motionRules := tables.motionRules ++ [rule] }

end TopologyTables

namespace Config

variable (config : Config)

/-- Check, resolve and add a motion rule. -/
def addRule (state : RulesSoFar) (rule : MotionRule) : Except BuildFailure RulesSoFar := do
  let unnamed := rule.invalid "name must be nonempty and unique"
  require (rule.name ≠ "") unnamed
  let names ← claim state.names rule.name rule.name fun _ => unnamed
  rule.check config
  let targetsBySlot ← rule.targetsBySlot.toList.foldlM (rule.addTarget state.tables) ∅
  let lights := MotionRule.sortedLights (targetsBySlot.toList.flatMap (·.2.lights))
  let owners ← lights.foldlM (rule.ownLight state.tables) state.owners
  rule.sensors.forM fun sensor =>
    require ((state.tables.deviceIdx sensor).isSome = true) (.panicked "validated sensor")
  let resolved : ResolvedMotionRule :=
    { name := rule.name
      sensors := rule.sensors
      mode := rule.mode
      scenes := rule.scenes
      targetsBySlot
      offTransitionSeconds := rule.offTransitionSeconds
      offCooldownSeconds := rule.offCooldownSeconds
      maxIlluminance := rule.maxIlluminance
      lights }
  pure { tables := state.tables.addMotionRule resolved, names, owners }

/-- The tables before the motion rules are added and the descendants are listed. -/
def tablesOf (rooms : List ResolvedRoom) (bindings : List ResolvedBinding)
    (hwDoubleTapButtons : List (DeviceIdx × String)) (heatingConfig : Option HeatingConfig) :
    TopologyTables where
  rooms
  descendantsByRoom := []
  devices := config.deviceInfos
  switchModels := config.switchModels
  softDoubleTapButtons := bindings.filterMap softDoubleTapButton
  hwDoubleTapButtons
  bindings
  motionRules := []
  heatingConfig

/-- The tables of a topology without the descendants of the rooms. -/
def buildTables (turns : Nat) : Except BuildFailure TopologyTables := do
  config.checkRoomNames turns
  config.rooms.forM checkScenes
  config.checkDefaults
  config.rooms.forM checkTransition
  config.rooms.forM config.checkMembers
  let hwDoubleTapButtons ← config.hwDoubleTapButtons
  let _ ← config.devices.toList.foldlM checkNodeId ∅
  let bindings ← config.bindings.foldlM config.addBinding {}
  let rooms ← config.rooms.mapM config.resolveRoom
  validateEndpoints rooms
  let heatingConfig ← config.resolveHeating
  config.checkLocation config.needsLocation
  let tables := config.tablesOf rooms bindings.resolved hwDoubleTapButtons heatingConfig
  let state ← config.motionRules.foldlM config.addRule { tables }
  pure state.tables

/-- Check a configuration and build the tables of its topology. -/
def build (turns : Nat) : Except BuildFailure TopologyTables := do
  let tables ← config.buildTables turns
  let descendantsByRoom ← BuildFailure.verdict .panicked (tables.indexDescendants turns)
  pure { tables with descendantsByRoom }

end Config

end MqttController
