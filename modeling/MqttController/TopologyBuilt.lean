import MqttController.TopologyRules

/-!
# Built topologies

A topology that is built is valid, and the bindings of the topology are those of the configuration.
-/

namespace MqttController

open Std Checked

namespace Config

variable {config : Config} {turns : Nat} {tables : TopologyTables}

/-- The parts that a topology is built from. -/
structure Parts (config : Config) (turns : Nat) (rooms : List ResolvedRoom)
    (bindings : BindingsSoFar) (buttons : List (DeviceIdx × String))
    (heating : Option HeatingConfig) (state : RulesSoFar) : Prop where
  names : config.checkRoomNames turns = .ok ()
  scenes : ∀ room ∈ config.rooms, room.scenes.validate = .ok ()
  defaults : config.checkDefaults = .ok ()
  listed : config.hwDoubleTapButtons = .ok buttons
  resolved : config.bindings.foldlM config.addBinding {} = .ok bindings
  members : config.rooms.mapM config.resolveRoom = .ok rooms
  heated : config.resolveHeating = .ok heating
  ruled : config.motionRules.foldlM config.addRule
    { tables := config.tablesOf rooms bindings.resolved buttons heating } = .ok state

theorem buildTables_ok (built : config.buildTables turns = .ok tables) :
    ∃ rooms bindings buttons heating state,
      config.Parts turns rooms bindings buttons heating state ∧ tables = state.tables := by
  unfold buildTables at built
  simp only [bind_ok_iff, pure_ok_iff] at built
  obtain ⟨_, names, _, scenes, _, defaults, _, _, _, _, buttons, listed, _, _, bindings, resolved,
    rooms, members, _, _, heating, heated, _, _, state, rules, rfl⟩ := built
  refine ⟨rooms, bindings, buttons, heating, state, ⟨names, fun room member => ?_, defaults, listed,
    resolved, members, heated, rules⟩, rfl⟩
  exact validateScenes_ok_iff.mp (forM_ok_iff.mp scenes room member)

theorem build_ok (built : config.build turns = .ok tables) :
    ∃ first, config.buildTables turns = .ok first ∧
      (first.indexDescendants turns).run = some (.ok tables.descendantsByRoom) ∧
        tables = { first with descendantsByRoom := tables.descendantsByRoom } := by
  unfold build at built
  simp only [bind_ok_iff, pure_ok_iff, verdict_ok_iff] at built
  obtain ⟨first, built, descendants, indexed, rfl⟩ := built
  exact ⟨first, built, indexed, rfl⟩

/-- Only plugs are served by a bridge of their own. -/
theorem kind_of_plugProtocol {device : DeviceInfo} (member : device ∈ config.deviceInfos)
    (served : device.plugProtocol.isSome = true) : device.kind = .plug := by
  obtain ⟨⟨name, entry⟩, _, rfl⟩ := List.mem_map.mp member
  cases entry with
  | plug options variant capabilities protocol nodeId => rfl
  | _ => cases served

theorem softDoubleTapButton_eq_some_iff {binding : ResolvedBinding} {device : DeviceIdx}
    {button : String} : softDoubleTapButton binding = some (device, button) ↔
      binding.trigger = .button device button .softDoubleTap := by
  unfold softDoubleTapButton
  split
  · rename_i trigger
    rw [trigger]
    simp
  · rename_i other
    constructor
    · intro none
      cases none
    · intro trigger
      exact absurd trigger (other device button)

namespace Parts

variable {rooms : List ResolvedRoom} {bindings : BindingsSoFar}
  {buttons : List (DeviceIdx × String)} {heating : Option HeatingConfig} {state : RulesSoFar}
  (parts : config.Parts turns rooms bindings buttons heating state)

include parts

theorem added : RulesAdded (config.tablesOf rooms bindings.resolved buttons heating)
    config.motionRules state :=
  rulesAdded_of_passed (matches_tablesOf parts.members _ _ _) rfl parts.ruled

section Alike

variable (alike : TopologyTables.Alike tables
  (config.tablesOf rooms bindings.resolved buttons heating))

include alike

theorem matches' : config.Matches tables :=
  alike.matches_of_alike (matches_tablesOf parts.members _ _ _)

/-- A room of the tables is what a room of the configuration is resolved to, but for its sensors. -/
theorem room_unbound {room : ResolvedRoom} (member : room ∈ tables.rooms) :
    ∃ configured ∈ config.rooms, ∃ resolved, config.RoomResolved configured resolved ∧
      resolved.unbound = room.unbound := by
  obtain ⟨resolved, listed, same⟩ := alike.mem_of_mem member
  obtain ⟨configured, inside, fits⟩ := room_resolved parts.members listed
  exact ⟨configured, inside, resolved, fits, same⟩

theorem roomNames_nodup : (tables.rooms.map (·.name)).Nodup := by
  rw [(parts.matches' alike).rooms]
  exact (checkRoomNames_ok parts.names).1

theorem groupNames_nodup' : (tables.rooms.map (·.groupName)).Nodup := by
  have same : tables.rooms.map (·.groupName) = rooms.map (·.groupName) :=
    alike.map_rooms fun _ => rfl
  rw [same, groupNames parts.members]
  exact (checkRoomNames_ok parts.names).2.1

theorem roomLinks_eq : tables.roomLinks = config.roomLinks := by
  have same : tables.rooms.map (fun room => (⟨room.name, room.parent⟩ : RoomLink)) =
      rooms.map fun room => ⟨room.name, room.parent⟩ := alike.map_rooms fun _ => rfl
  unfold TopologyTables.roomLinks
  rw [same]
  exact links parts.members

theorem member_lt {room : ResolvedRoom} (member : room ∈ tables.rooms) {light : LightEndpoint}
    (inside : light ∈ room.lightMembers) : light.device < tables.devices.length := by
  obtain ⟨_, _, resolved, fits, unbound⟩ := parts.room_unbound alike member
  rw [← TopologyTables.lightMembers_of_unbound unbound] at inside
  rw [(parts.matches' alike).devices]
  exact fits.device_lt inside

theorem scenes_valid {room : ResolvedRoom} (member : room ∈ tables.rooms) :
    room.scenes.validate = .ok () := by
  obtain ⟨configured, listed, resolved, fits, unbound⟩ := parts.room_unbound alike member
  rw [← TopologyTables.scenes_of_unbound unbound, fits.scenes]
  exact parts.scenes configured listed

theorem switchSteps_fit {room : ResolvedRoom} (member : room ∈ tables.rooms) :
    SwitchStepsFit room.scenes.scenes room.scenes.slots room.lightMembers room.switchSteps := by
  obtain ⟨configured, _, resolved, fits, unbound⟩ := parts.room_unbound alike member
  have steps : resolved.switchSteps = room.switchSteps := congrArg (·.switchSteps) unbound
  rw [← TopologyTables.scenes_of_unbound unbound, fits.scenes, ← steps,
    ← TopologyTables.lightMembers_of_unbound unbound]
  exact switchStepsFit_of_resolve fits.steps

/-- The bindings of the tables are what the bindings of the configuration are resolved to. -/
theorem bindings_fit : List.Forall₂ config.BindingResolved config.bindings tables.bindings := by
  rw [alike.bindings]
  exact bindings_resolved parts.resolved

theorem binding_fits {resolved : ResolvedBinding} (member : resolved ∈ tables.bindings) :
    ∃ binding, config.BindingResolved binding resolved := by
  obtain ⟨binding, _, fits⟩ := exists_of_forall₂ (parts.bindings_fit alike) member
  exact ⟨binding, fits⟩

theorem bindingNames_nodup' : (tables.bindings.map (·.name)).Nodup := by
  rw [map_eq_of_forall₂ (fun _ _ fits => fits.name) (parts.bindings_fit alike)]
  exact bindingNames_nodup parts.resolved

omit parts in
theorem isSoftDoubleTapButton_iff (device : DeviceIdx) (button : String) :
    tables.isSoftDoubleTapButton device button = true ↔
      ∃ binding ∈ tables.bindings, binding.trigger = .button device button .softDoubleTap := by
  have soft : tables.softDoubleTapButtons = bindings.resolved.filterMap softDoubleTapButton :=
    congrArg (·.softDoubleTapButtons) alike.others
  unfold TopologyTables.isSoftDoubleTapButton
  rw [soft, alike.bindings, List.contains_iff_mem, List.mem_filterMap]
  simp only [softDoubleTapButton_eq_some_iff]
  rfl

theorem isHwDoubleTapButton_iff (device : DeviceIdx) (button : String) :
    tables.isHwDoubleTapButton device button = true ↔
      ∃ model, tables.switchModelOf device = some model ∧ button ∈ model.buttons ∧
        model.maps button .press ∧ model.maps button .doubleTap := by
  have same := parts.matches' alike
  have hard : tables.hwDoubleTapButtons = buttons := congrArg (·.hwDoubleTapButtons) alike.others
  unfold TopologyTables.isHwDoubleTapButton TopologyTables.switchModelOf
  rw [hard, same.devices, same.models, List.contains_iff_mem]
  exact mem_hwDoubleTapButtons_iff parts.listed device button

/-- The heating configuration comes from a heating section that fits the catalog. -/
theorem heating_fits {heated : HeatingConfig} (present : tables.heatingConfig = some heated) :
    ∃ heating : Heating, config.HeatingFits heating ∧ heated = heating.toHeatingConfig := by
  have stored : tables.heatingConfig = heating := congrArg (·.heatingConfig) alike.others
  rw [stored] at present
  obtain ⟨section', fits, same⟩ := resolveHeating_ok parts.heated present
  exact ⟨section', fits, same⟩

end Alike

end Parts

/-- A topology that is built has parts that it is like. -/
theorem parts_of_build (built : config.build turns = .ok tables) :
    ∃ rooms bindings buttons heating state,
      config.Parts turns rooms bindings buttons heating state ∧
        tables.Alike (config.tablesOf rooms bindings.resolved buttons heating) ∧
          (state.tables.indexDescendants turns).run = some (.ok tables.descendantsByRoom) ∧
            tables = { state.tables with descendantsByRoom := tables.descendantsByRoom } := by
  obtain ⟨first, builtTables, indexed, split⟩ := build_ok built
  obtain ⟨rooms, bindings, buttons, heating, state, parts, rfl⟩ := buildTables_ok builtTables
  have alike := parts.added.alike.withDescendants tables.descendantsByRoom
  rw [← split] at alike
  exact ⟨rooms, bindings, buttons, heating, state, parts, alike, indexed, split⟩

/-- Every topology that is built is valid. -/
theorem build_valid (enough : config.rooms.length ≤ turns)
    (built : config.build turns = .ok tables) : tables.Valid := by
  obtain ⟨rooms, bindings, buttons, heating, state, parts, alike, indexed, split⟩ :=
    parts_of_build built
  have added := parts.added
  have same := parts.matches' alike
  have rules : tables.motionRules = state.tables.motionRules := congrArg (·.motionRules) split
  have index : tables.indexDescendants turns = state.tables.indexDescendants turns := by
    rw [split]
    rfl
  have many : tables.rooms.length ≤ turns := by
    have length := congrArg List.length same.rooms
    rw [List.length_map, List.length_map] at length
    omega
  exact {
    room_names_nodup := parts.roomNames_nodup alike
    group_names_nodup := parts.groupNames_nodup' alike
    device_names_nodup := by
      rw [same.devices]
      exact deviceNames_nodup
    protocols_plugs := fun device member served => by
      rw [same.devices] at member
      exact kind_of_plugProtocol member served
    members_known := fun room member light inside => parts.member_lt alike member inside
    scenes_valid := fun room member => parts.scenes_valid alike member
    switch_steps_fit := fun room member => parts.switchSteps_fit alike member
    binding_names_nodup := parts.bindingNames_nodup' alike
    power_below_fits := fun resolved member plug watts holdoff watched => by
      obtain ⟨configured, fits⟩ := parts.binding_fits alike member
      exact fits.powerBelow same watched
    effects_known := fun resolved member plug targeted => by
      obtain ⟨configured, fits⟩ := parts.binding_fits alike member
      exact fits.isPlugIdx same targeted
    buttons_known := fun resolved member device button gesture watched => by
      obtain ⟨configured, fits⟩ := parts.binding_fits alike member
      exact fits.button same parts.listed watched
    soft_double_tap_iff := Parts.isSoftDoubleTapButton_iff alike
    hw_double_tap_iff := parts.isHwDoubleTapButton_iff alike
    descendants_irrefl := by
      apply TopologyTables.descendantsOf_irrefl many
      · rw [parts.roomLinks_eq alike]
        exact (checkRoomNames_ok parts.names).2.2.2
      · rw [index]
        exact indexed
    rule_names_nodup := by
      rw [rules, added.names]
      exact ruleNames_nodup parts.ruled
    rules_fit := fun rule member => by
      rw [rules] at member
      exact motionRuleFits_of_alike alike (added.fit rule member)
    rule_lights_disjoint := by
      rw [rules]
      exact added.distinct
    heating_valid := fun heated present => by
      obtain ⟨_, fits, rfl⟩ := parts.heating_fits alike present
      exact fits.valid
    heating_devices := fun heated present zone member => by
      obtain ⟨_, fits, rfl⟩ := parts.heating_fits alike present
      obtain ⟨relay, valves⟩ := fits.devices member
      simp only [same.deviceIdx_eq, Option.isSome_iff_exists]
      exact ⟨relay, valves⟩ }

/-! ## A configuration that is built -/

/-- One scene the whole day. -/
def allDay : SceneSchedule where
  scenes :=
    [{ id := 1
       name := "bright"
       state := "ON"
       brightness := none
       colorTemp := none
       transition := 0 }]
  slots :=
    TreeMap.ofList [("day", { start := .fixed 0, stop := .fixed 1440, sceneIds := [1] })] compare

/-- A hall with a corner that has a motion sensor, a switch, and a plug that turns itself off. -/
def hall : Config where
  devices := TreeMap.ofList
    [("lamp", .light ∅), ("strip", .light ∅), ("button", .switch ∅ "tap"),
      ("sensor", .motionSensor ∅), ("kettle", .plug ∅ "metered" ["power"] .zigbee none)] compare
  switchModels := TreeMap.ofList [("tap", { buttons := ["1"], z2mActionMap := ∅ })] compare
  rooms :=
    [{ name := "hall"
       groupName := "hall-lights"
       id := 1
       members := ["lamp/11", "strip/11"]
       parent := none
       scenes := allDay
       switchSteps := ∅
       offTransitionSeconds := 1 },
     { name := "corner"
       groupName := "corner-lights"
       id := 2
       members := ["strip/11"]
       parent := some "hall"
       scenes := allDay
       switchSteps := ∅
       offTransitionSeconds := 1 }]
  motionRules :=
    [{ name := "corner-motion"
       sensors := ["sensor"]
       mode := .onOff
       scenes := allDay
       targetsBySlot := TreeMap.ofList [("day", .group "corner")] compare
       offTransitionSeconds := 1
       offCooldownSeconds := 30
       maxIlluminance := none }]
  bindings :=
    [{ name := "hall-tap", trigger := .button "button" "1" .press, effect := .sceneCycle "hall" },
     { name := "kettle-off", trigger := .powerBelow "kettle" 5 60, effect := .turnOff "kettle" }]
  defaults := {}
  heating := none
  location := none

theorem hall_built :
    ∃ tables, hall.build 2 = .ok tables ∧ tables.deviceIdx "button" = some 0 := by
  have passes : ((hall.build 2).toOption.any fun tables =>
      tables.deviceIdx "button" == some 0) = true := by decide +kernel
  generalize hall.build 2 = result at passes
  cases result with
  | ok tables => exact ⟨tables, rfl, beq_iff_eq.mp passes⟩
  | error failure => cases passes

theorem build_valid_hall : ∃ tables, hall.build 2 = .ok tables ∧ tables.Valid := by
  obtain ⟨tables, built, _⟩ := hall_built
  exact ⟨tables, built, build_valid le_rfl built⟩

end Config

/-! ## Bindings by name -/

namespace TopologyTables

variable (tables : TopologyTables)

/-- A trigger with names for positions. -/
def triggerByNames : ResolvedTrigger → Config.Trigger
  | .button device button gesture => .button (tables.deviceName device) button gesture
  | .powerBelow plug watts holdoff =>
      .powerBelow (tables.deviceName plug) watts (holdoff / nanosPerSecond)
  | .at time => .at time

/-- An effect with names for positions. -/
def effectByNames : ResolvedEffect → Config.Effect
  | .sceneCycle room => .sceneCycle (tables.roomName room)
  | .groupSceneCycle room => .groupSceneCycle (tables.roomName room)
  | .sceneStepDown room => .sceneStepDown (tables.roomName room)
  | .sceneToggle room => .sceneToggle (tables.roomName room)
  | .sceneToggleCycle room => .sceneToggleCycle (tables.roomName room)
  | .turnOffRoom room => .turnOffRoom (tables.roomName room)
  | .brightnessStep room step transition => .brightnessStep (tables.roomName room) step transition
  | .brightnessMove room rate => .brightnessMove (tables.roomName room) rate
  | .brightnessStop room => .brightnessStop (tables.roomName room)
  | .toggle plug confirmOffSeconds => .toggle (tables.deviceName plug) confirmOffSeconds
  | .turnOn plug => .turnOn (tables.deviceName plug)
  | .turnOff plug => .turnOff (tables.deviceName plug)
  | .turnOffAllZones => .turnOffAllZones

/-- A binding with names for positions. -/
def bindingByNames (binding : ResolvedBinding) : Config.Binding where
  name := binding.name
  trigger := tables.triggerByNames binding.trigger
  effect := tables.effectByNames binding.effect

end TopologyTables

/-- The binding is triggered by a gesture of a button. -/
def Config.Binding.onButton (device button : String) (gesture : Gesture)
    (binding : Config.Binding) : Bool :=
  match binding.trigger with
  | .button device' button' gesture' =>
      device' == device && button' == button && gesture' == gesture
  | _ => false

namespace Config

variable {config : Config} {turns : Nat} {tables : TopologyTables}

theorem triggerByNames_of_resolve (same : config.Matches tables) {binding : Binding}
    {trigger : ResolvedTrigger} (resolved : config.resolveTrigger binding = .ok trigger) :
    tables.triggerByNames trigger = binding.trigger := by
  unfold resolveTrigger at resolved
  split at resolved
  · rename_i device button gesture watched
    simp only [bind_ok_iff, okOr_ok_iff, pure_ok_iff] at resolved
    obtain ⟨_, _, _, _, _, _, idx, found, rfl⟩ := resolved
    rw [watched, TopologyTables.triggerByNames, same.deviceName_of_found found]
  · rename_i device watts seconds watched
    simp only [bind_ok_iff, okOr_ok_iff, pure_ok_iff] at resolved
    obtain ⟨_, _, _, _, _, _, _, _, idx, found, rfl⟩ := resolved
    rw [watched, TopologyTables.triggerByNames, same.deviceName_of_found found, Duration.fromSecs,
      Nat.mul_div_cancel _ (by decide : 0 < nanosPerSecond)]
  · rename_i time watched
    simp only [bind_ok_iff, pure_ok_iff] at resolved
    obtain ⟨_, _, rfl⟩ := resolved
    rw [watched, TopologyTables.triggerByNames]

theorem effectByNames_of_translate (same : config.Matches tables) {effect : Effect}
    {resolved : ResolvedEffect} (translated : config.translateEffect effect = .ok resolved) :
    tables.effectByNames resolved = effect := by
  cases effect with
  | toggle name confirm | turnOn name | turnOff name =>
      simp only [translateEffect, knownDevice, bind_ok_iff, okOr_ok_iff, pure_ok_iff] at translated
      obtain ⟨idx, found, rfl⟩ := translated
      rw [TopologyTables.effectByNames, same.deviceName_of_found found]
  | turnOffAllZones =>
      cases translated
      rfl
  | sceneCycle name | groupSceneCycle name | sceneStepDown name | sceneToggle name
  | sceneToggleCycle name | turnOffRoom name | brightnessStep name step transition
  | brightnessMove name rate | brightnessStop name =>
      simp only [translateEffect, knownRoom, bind_ok_iff, okOr_ok_iff, pure_ok_iff] at translated
      obtain ⟨idx, found, rfl⟩ := translated
      rw [TopologyTables.effectByNames, same.roomName_of_found found]

/-- A resolved binding stands for the configured one. -/
theorem BindingResolved.byNames (same : config.Matches tables) {binding : Binding}
    {resolved : ResolvedBinding} (fits : config.BindingResolved binding resolved) :
    tables.bindingByNames resolved = binding := by
  unfold TopologyTables.bindingByNames
  rw [fits.name, triggerByNames_of_resolve same fits.trigger,
    effectByNames_of_translate same (resolveEffect_ok fits.effect).2.2]

/-- The bindings of a button are the configured ones. -/
theorem onButton_byNames (same : config.Matches tables) {binding : Binding}
    {resolved : ResolvedBinding} (fits : config.BindingResolved binding resolved)
    {device : String} {idx : DeviceIdx} (found : tables.deviceIdx device = some idx)
    (button : String) (gesture : Gesture) :
    binding.onButton device button gesture = true ↔
      resolved.trigger = .button idx button gesture := by
  rw [same.deviceIdx_eq] at found
  have resolution := fits.trigger
  have names := triggerByNames_of_resolve same fits.trigger
  unfold Binding.onButton
  rw [← names]
  cases trigger : resolved.trigger with
  | button other button' gesture' =>
      rw [trigger] at resolution
      obtain ⟨name, _, _, _, _, there⟩ := resolveTrigger_button resolution
      have device_iff : tables.deviceName other = device ↔ other = idx := by
        rw [same.deviceName_of_found there]
        constructor
        · rintro rfl
          exact Option.some.inj (there.symm.trans found)
        · rintro rfl
          rw [← same.deviceName_of_found there, same.deviceName_of_found found]
      simp [TopologyTables.triggerByNames, device_iff, and_assoc]
  | _ => simp [TopologyTables.triggerByNames]

/-- The bindings of a topology are the configured ones, in order; a gesture of a button finds those
that the configuration has for it; and the indexes that were built along find the same ones, for
buttons and for plugs. -/
theorem build_bindings (built : config.build turns = .ok tables) :
    tables.bindings.map tables.bindingByNames = config.bindings ∧
      (∀ device idx button gesture, tables.deviceIdx device = some idx →
        (tables.bindingsForButton idx button gesture).map tables.bindingByNames =
          config.bindings.filter (Binding.onButton device button gesture)) ∧
      ∃ state, config.bindings.foldlM config.addBinding {} = .ok state ∧
        (∀ idx button gesture, state.bindingsForButton idx button gesture =
          tables.bindingsForButton idx button gesture) ∧
        ∀ plug, state.bindingsForPowerBelow plug = tables.bindingsForPowerBelow plug := by
  obtain ⟨_, state, _, _, _, parts, alike, _, _⟩ := parts_of_build built
  have same := parts.matches' alike
  have resolved := parts.bindings_fit alike
  have readBack : tables.bindings.map tables.bindingByNames = config.bindings := by
    rw [map_eq_of_forall₂ (fun _ _ fits => fits.byNames same) resolved, List.map_id']
  refine ⟨readBack, fun device idx button gesture found => ?_, state, parts.resolved,
    bindings_lookup parts.resolved alike.bindings⟩
  rw [← readBack, List.filter_map]
  congr 1
  unfold TopologyTables.bindingsForButton
  apply List.filter_congr
  intro binding member
  obtain ⟨configured, _, fits⟩ := exists_of_forall₂ resolved member
  have found_iff := onButton_byNames same fits found button gesture
  rw [← fits.byNames same] at found_iff
  rw [Bool.eq_iff_iff, Function.comp_apply, found_iff]
  cases binding.trigger with
  | button other button' gesture' => simp [and_assoc]
  | _ => simp

theorem build_bindings_hall : ∃ tables, hall.build 2 = .ok tables ∧
    tables.bindings.map tables.bindingByNames = hall.bindings ∧
      (tables.bindingsForButton 0 "1" .press).map tables.bindingByNames =
        hall.bindings.filter (Binding.onButton "button" "1" .press) := by
  obtain ⟨tables, built, position⟩ := hall_built
  obtain ⟨every, found, _⟩ := build_bindings built
  exact ⟨tables, built, every, found "button" 0 "1" .press position⟩

end Config

end MqttController
