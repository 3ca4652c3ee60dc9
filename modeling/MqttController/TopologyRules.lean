import MqttController.TopologyChecks

/-!
# Motion rules of a topology

Motion rules are added one after the other.  A rule reads the rooms that are there and changes
nothing about them but the sensors that are bound to them.
-/

namespace MqttController

open Std Checked

/-! ## Binding sensors to rooms -/

/-- A room without its sensors. -/
def ResolvedRoom.unbound (room : ResolvedRoom) : ResolvedRoom := { room with boundMotion := [] }

theorem ResolvedRoom.unbound_bindMotion (sensor : String) (room : ResolvedRoom) :
    (room.bindMotion sensor).unbound = room.unbound := by
  unfold bindMotion
  split <;> rfl

namespace TopologyTables

variable {tables : TopologyTables}

theorem unbound_modify (rooms : List ResolvedRoom) (idx : RoomIdx) (sensor : String) :
    (rooms.modify idx (·.bindMotion sensor)).map (·.unbound) = rooms.map (·.unbound) := by
  apply List.ext_getElem?
  intro position
  rw [List.getElem?_map, List.getElem?_map, List.getElem?_modify]
  cases rooms[position]? with
  | none => rfl
  | some room =>
      split
      · exact congrArg some (ResolvedRoom.unbound_bindMotion sensor room)
      · rfl

theorem unbound_bindSensor (related : List RoomIdx) (rooms : List ResolvedRoom) (sensor : String) :
    (bindSensor related rooms sensor).map (·.unbound) = rooms.map (·.unbound) := by
  unfold bindSensor
  induction related generalizing rooms with
  | nil => rfl
  | cons idx rest ih => rw [List.foldl_cons, ih, unbound_modify]

/-- Adding a motion rule leaves the rooms as they are but for their sensors. -/
theorem unbound_addMotionRule (tables : TopologyTables) (rule : ResolvedMotionRule) :
    (tables.addMotionRule rule).rooms.map (·.unbound) = tables.rooms.map (·.unbound) := by
  change (rule.sensors.foldl (bindSensor (tables.relatedRooms rule)) tables.rooms).map (·.unbound) =
    tables.rooms.map (·.unbound)
  generalize tables.rooms = rooms, tables.relatedRooms rule = related
  induction rule.sensors generalizing rooms with
  | nil => rfl
  | cons sensor rest ih => rw [List.foldl_cons, ih, unbound_bindSensor]

/-- Tables that differ in motion rules, in descendants and in the sensors of rooms at most. -/
structure Alike (first second : TopologyTables) : Prop where
  rooms : first.rooms.map (·.unbound) = second.rooms.map (·.unbound)
  others : { first with
    rooms := second.rooms
    motionRules := second.motionRules
    descendantsByRoom := second.descendantsByRoom } = second

namespace Alike

variable {first second : TopologyTables}

theorem refl (tables : TopologyTables) : Alike tables tables := ⟨rfl, rfl⟩

theorem addMotionRule (alike : Alike first second) (rule : ResolvedMotionRule) :
    Alike (first.addMotionRule rule) second :=
  ⟨(unbound_addMotionRule first rule).trans alike.rooms, alike.others⟩

variable (alike : Alike first second)

include alike

theorem symm : Alike second first := by
  refine ⟨alike.rooms.symm, ?_⟩
  rw [← alike.others]

theorem devices : first.devices = second.devices := congrArg (·.devices) alike.others

theorem models : first.switchModels = second.switchModels :=
  congrArg (·.switchModels) alike.others

theorem bindings : first.bindings = second.bindings := congrArg (·.bindings) alike.others

/-- The descendants are not looked at. -/
theorem withDescendants (descendants : List (List RoomIdx)) :
    Alike { first with descendantsByRoom := descendants } second :=
  ⟨alike.rooms, alike.others⟩

/-- The room at a position differs in its sensors at most. -/
theorem room_of_room {idx : RoomIdx} {room : ResolvedRoom} (here : first.room idx = some room) :
    ∃ other, second.room idx = some other ∧ other.unbound = room.unbound := by
  have same : (first.room idx).map (·.unbound) = (second.room idx).map (·.unbound) := by
    unfold TopologyTables.room
    rw [← List.getElem?_map, ← List.getElem?_map, alike.rooms]
  rw [here, Option.map_some, eq_comm, Option.map_eq_some_iff] at same
  exact same

theorem mem_of_mem {room : ResolvedRoom} (member : room ∈ first.rooms) :
    ∃ other ∈ second.rooms, other.unbound = room.unbound := by
  have mapped : room.unbound ∈ second.rooms.map (·.unbound) := by
    rw [← alike.rooms]
    exact List.mem_map_of_mem member
  exact List.mem_map.mp mapped

/-- What does not look at the sensors is the same for the rooms. -/
theorem map_rooms {α : Type} {field : ResolvedRoom → α}
    (blind : ∀ room, field room.unbound = field room) :
    first.rooms.map field = second.rooms.map field := by
  have mapped := congrArg (List.map field) alike.rooms
  simp only [List.map_map, Function.comp_def, blind] at mapped
  exact mapped

theorem matches_of_alike {config : Config} (same : config.Matches second) :
    config.Matches first where
  devices := alike.devices.trans same.devices
  models := alike.models.trans same.models
  rooms := (alike.map_rooms fun _ => rfl).trans same.rooms

end Alike

theorem lightMembers_of_unbound {first second : ResolvedRoom}
    (same : first.unbound = second.unbound) : first.lightMembers = second.lightMembers :=
  congrArg (·.lightMembers) same

theorem scenes_of_unbound {first second : ResolvedRoom} (same : first.unbound = second.unbound) :
    first.scenes = second.scenes :=
  congrArg (·.scenes) same

end TopologyTables

namespace Config

namespace MotionRule

variable {rule : MotionRule} {tables : TopologyTables}

/-! ## Targets of a rule -/

/-- What resolving a target establishes. -/
structure TargetResolved (rule : MotionRule) (tables : TopologyTables) (slot : Slot)
    (target : ResolvedMotionTarget) : Prop where
  members : ∀ light ∈ target.lights, ∃ room ∈ tables.rooms, light ∈ room.lightMembers
  group : ∀ idx, target.group = some idx → ∃ room, tables.room idx = some room ∧
    target.lights = room.lightMembers ∧ ∀ id ∈ slot.sceneIds, ∀ scene,
      rule.scenes.sceneById id = some scene → scene ∈ room.scenes.scenes

theorem resolveGroup_ok {slot : Slot} {group : String} {target : ResolvedMotionTarget}
    (passed : rule.resolveGroup tables slot group = .ok target) :
    TargetResolved rule tables slot target := by
  unfold resolveGroup at passed
  simp only [bind_ok_iff, okOr_ok_iff, pure_ok_iff] at passed
  obtain ⟨idx, _, room, here, _, scenes, rfl⟩ := passed
  constructor
  · intro light member
    exact ⟨room, TopologyTables.mem_rooms_of_room here, member⟩
  · intro other same
    cases same
    refine ⟨room, here, rfl, fun id listed scene found => ?_⟩
    have checked := forM_ok_iff.mp scenes id listed
    unfold checkGroupScene knownScene at checked
    simp only [bind_ok_iff, okOr_ok_iff, require_ok_iff] at checked
    obtain ⟨known, sought, provisioned⟩ := checked
    rw [found] at sought
    cases sought
    exact provisioned

theorem resolveLight_ok {member : String} {light : LightEndpoint}
    (passed : rule.resolveLight tables member = .ok light) :
    ∃ room ∈ tables.rooms, light ∈ room.lightMembers := by
  unfold resolveLight at passed
  simp only [bind_ok_iff, okOr_ok_iff, require_ok_iff, pure_ok_iff] at passed
  obtain ⟨_, _, _, _, _, _, _, listed, rfl⟩ := passed
  exact listed

theorem resolveTarget_ok {slot : Slot} {configured : MotionTarget} {target : ResolvedMotionTarget}
    (passed : rule.resolveTarget tables slot configured = .ok target) :
    TargetResolved rule tables slot target := by
  cases configured with
  | group group => exact resolveGroup_ok passed
  | lights members =>
      unfold resolveTarget at passed
      simp only [bind_ok_iff, pure_ok_iff] at passed
      obtain ⟨lights, each, rfl⟩ := passed
      constructor
      · intro light listed
        obtain ⟨member, _, here⟩ := mem_of_mapM_ok each listed
        exact resolveLight_ok here
      · intro idx same
        cases same

/-- What resolving a slot establishes. -/
structure SlotResolved (rule : MotionRule) (tables : TopologyTables) (name : String)
    (target : ResolvedMotionTarget) : Prop where
  slot : ∃ slot, rule.scenes.slots[name]? = some slot ∧ slot.sceneIds ≠ [] ∧
    TargetResolved rule tables slot target
  nonempty : target.lights ≠ []
  distinct : target.lights.Nodup

theorem resolveSlot_ok {name : String} {configured : MotionTarget} {target : ResolvedMotionTarget}
    (passed : rule.resolveSlot tables name configured = .ok target) :
    SlotResolved rule tables name target := by
  unfold resolveSlot at passed
  simp only [bind_ok_iff, okOr_ok_iff, require_ok_iff, pure_ok_iff] at passed
  obtain ⟨slot, found, _, scenes, _, _, resolved, aimed, _, ⟨nonempty, distinct⟩, rfl⟩ := passed
  exact ⟨⟨slot, found, scenes, resolveTarget_ok aimed⟩, nonempty, distinct⟩

/-- The targets so far are those of the slots so far. -/
structure TargetsResolved (rule : MotionRule) (tables : TopologyTables)
    (past : List (String × MotionTarget)) (targets : NameMap ResolvedMotionTarget) : Prop where
  resolved : ∀ (name : String) (target : ResolvedMotionTarget), targets[name]? = some target →
    SlotResolved rule tables name target
  complete : ∀ name ∈ past.map Prod.fst, targets.contains name = true

theorem targetsResolved {entries : List (String × MotionTarget)}
    {targets : NameMap ResolvedMotionTarget}
    (passed : entries.foldlM (rule.addTarget tables) ∅ = .ok targets) :
    TargetsResolved rule tables entries targets := by
  have none : TargetsResolved rule tables [] ∅ := by
    constructor
    · intro name target found
      simp at found
    · intro name member
      cases member
  refine foldlM_invariant (TargetsResolved rule tables) ?_ none passed
  intro past entry targets after holds here
  unfold addTarget at here
  simp only [bind_ok_iff, pure_ok_iff] at here
  obtain ⟨target, slot, rfl⟩ := here
  constructor
  · intro name other found
    rw [TreeMap.getElem?_insert] at found
    split at found
    · rename_i same
      cases LawfulEqCmp.compare_eq_iff_eq.mp same
      cases found
      exact resolveSlot_ok slot
    · exact holds.resolved name other found
  · intro name member
    rw [TreeMap.contains_insert]
    rw [List.map_append, List.mem_append, List.map_singleton, List.mem_singleton] at member
    rcases member with before | rfl
    · rw [holds.complete name before, Bool.or_true]
    · simp

/-! ## Lights of a rule -/

theorem mem_sortedLights {lights : List LightEndpoint} {light : LightEndpoint} :
    light ∈ sortedLights lights ↔ light ∈ lights := by
  unfold sortedLights
  rw [List.mem_insertionSort, List.mem_eraseDups]

theorem ownLight_ok {owners after : TreeMap DeviceIdx String} {light : LightEndpoint}
    (passed : rule.ownLight tables owners light = .ok after) :
    (∃ clash : String → BuildFailure, claim owners light.device rule.name clash = .ok after) ∧
      (endpointsOf tables light.device).length = 1 := by
  unfold ownLight at passed
  simp only [bind_ok_iff, require_ok_iff, pure_ok_iff] at passed
  obtain ⟨owners, owned, _, single, rfl⟩ := passed
  exact ⟨⟨_, owned⟩, single⟩

/-- A device with one endpoint is a member by that endpoint everywhere. -/
theorem eq_of_endpointsOf {light member : LightEndpoint}
    (single : (endpointsOf tables light.device).length = 1) {room other : ResolvedRoom}
    (here : room ∈ tables.rooms) (listed : light ∈ room.lightMembers) (there : other ∈ tables.rooms)
    (inside : member ∈ other.lightMembers) (same : member.device = light.device) :
    member = light := by
  have observed : ∀ endpoint : LightEndpoint,
      (∃ room ∈ tables.rooms, endpoint ∈ room.lightMembers) →
        endpoint.device = light.device → endpoint.endpoint ∈ endpointsOf tables light.device := by
    rintro endpoint ⟨room, member, listed⟩ device
    unfold endpointsOf
    rw [List.mem_eraseDups]
    refine List.mem_map_of_mem (List.mem_filter.mpr ⟨?_, by simpa using device⟩)
    exact List.mem_flatMap.mpr ⟨room, member, listed⟩
  obtain ⟨endpoint, only⟩ := List.length_eq_one_iff.mp single
  have mine := observed light ⟨room, here, listed⟩ rfl
  have its := observed member ⟨other, there, inside⟩ same
  rw [only, List.mem_singleton] at mine its
  cases member
  cases light
  simp_all

end MotionRule

/-! ## Rules -/

/-- What a motion rule is resolved to. -/
structure RuleResolved (config : Config) (tables : TopologyTables) (rule : MotionRule)
    (resolved : ResolvedMotionRule) : Prop where
  name : resolved.name = rule.name
  sensors : resolved.sensors = rule.sensors
  scenes : resolved.scenes = rule.scenes
  checked : rule.check config = .ok ()
  targets : MotionRule.TargetsResolved rule tables rule.targetsBySlot.toList resolved.targetsBySlot
  lights : resolved.lights =
    MotionRule.sortedLights (resolved.targetsBySlot.toList.flatMap (·.2.lights))

variable {config : Config} {tables : TopologyTables} {rule : MotionRule}

theorem addRule_ok {state after : RulesSoFar} (passed : config.addRule state rule = .ok after) :
    ∃ resolved, config.RuleResolved state.tables rule resolved ∧
      after.tables = state.tables.addMotionRule resolved ∧
      (∃ clash : String → BuildFailure,
        claim state.names rule.name rule.name clash = .ok after.names) ∧
      resolved.lights.foldlM (rule.ownLight state.tables) state.owners = .ok after.owners := by
  unfold addRule at passed
  simp only [bind_ok_iff, pure_ok_iff] at passed
  obtain ⟨_, _, names, named, _, checked, targets, aimed, owners, owned, _, _, rfl⟩ := passed
  exact ⟨_, ⟨rfl, rfl, rfl, checked, MotionRule.targetsResolved aimed, rfl⟩, rfl, ⟨_, named⟩, owned⟩

/-- What the checks of a rule on its own establish. -/
theorem check_ok (passed : rule.check config = .ok ()) :
    (rule.sensors ≠ [] ∧ rule.sensors.Nodup) ∧ rule.scenes.validate = .ok () ∧
      rule.targetsBySlot.keys = rule.scenes.slots.keys ∧
        ∀ sensor ∈ rule.sensors, config.hasKind .motionSensor sensor = true := by
  unfold MotionRule.check at passed
  simp only [bind_ok_iff, require_ok_iff] at passed
  obtain ⟨_, sensors, _, _, _, scenes, _, _, _, ⟨_, keys⟩, known⟩ := passed
  refine ⟨sensors, validateScenes_ok_iff.mp scenes, keys, fun sensor member => ?_⟩
  exact require_ok_iff.mp (forM_ok_iff.mp known sensor member)

theorem targets_contains_iff {resolved : ResolvedMotionRule}
    (fits : config.RuleResolved tables rule resolved) {name : String}
    (slot : resolved.scenes.slots.contains name = true) :
    resolved.targetsBySlot.contains name = true := by
  apply fits.targets.complete
  obtain ⟨_, _, keys, _⟩ := check_ok fits.checked
  rw [TreeMap.map_fst_toList_eq_keys, keys, ← fits.scenes, TreeMap.mem_keys,
    TreeMap.mem_iff_contains]
  exact slot

theorem target_resolved {resolved : ResolvedMotionRule}
    (fits : config.RuleResolved tables rule resolved) {name : String}
    {slot : Slot} (found : resolved.scenes.slots[name]? = some slot) :
    ∃ target, resolved.targetsBySlot[name]? = some target ∧ slot.sceneIds ≠ [] ∧
      MotionRule.TargetResolved rule tables slot target := by
  have present : resolved.targetsBySlot.contains name = true := by
    apply targets_contains_iff fits
    rw [TreeMap.contains_eq_isSome_getElem?, found]
    rfl
  rw [TreeMap.contains_eq_isSome_getElem?] at present
  obtain ⟨target, aimed⟩ := Option.isSome_iff_exists.mp present
  obtain ⟨other, there, scenes, resolved⟩ := (fits.targets.resolved name target aimed).slot
  rw [fits.scenes, there] at found
  cases found
  exact ⟨target, aimed, scenes, resolved⟩

namespace RuleResolved

variable {resolved : ResolvedMotionRule} (holds : config.RuleResolved tables rule resolved)

include holds

/-- The lights of a rule are those of its targets. -/
theorem mem_lights_iff (light : LightEndpoint) : light ∈ resolved.lights ↔
    ∃ (slot : String) (target : ResolvedMotionTarget),
      resolved.targetsBySlot[slot]? = some target ∧ light ∈ target.lights := by
  rw [holds.lights, MotionRule.mem_sortedLights, List.mem_flatMap]
  simp only [Prod.exists, TreeMap.mem_toList_iff_getElem?_eq_some]

theorem exists_room {light : LightEndpoint} (listed : light ∈ resolved.lights) :
    ∃ room ∈ tables.rooms, light ∈ room.lightMembers := by
  obtain ⟨slot, target, found, listed⟩ := (holds.mem_lights_iff light).mp listed
  obtain ⟨_, _, _, aimed⟩ := (holds.targets.resolved slot target found).slot
  exact aimed.members light listed

/-- A group that is a target is a room with the scenes of the slot. -/
theorem group_room {name : String} {target : ResolvedMotionTarget} {group : RoomIdx}
    (found : resolved.targetsBySlot[name]? = some target) (named : target.group = some group) :
    ∃ room slot, tables.room group = some room ∧ target.lights = room.lightMembers ∧
      rule.scenes.slots[name]? = some slot ∧ ∀ id ∈ slot.sceneIds, ∀ scene,
        rule.scenes.sceneById id = some scene → scene ∈ room.scenes.scenes := by
  obtain ⟨slot, there, _, aimed⟩ := (holds.targets.resolved name target found).slot
  obtain ⟨room, here, same, provisioned⟩ := aimed.group group named
  exact ⟨room, slot, here, same, there, provisioned⟩

/-- A rule that has been resolved fits the tables. -/
theorem fits (same : config.Matches tables)
    (single : ∀ light ∈ resolved.lights,
      (MotionRule.endpointsOf tables light.device).length = 1) :
    MotionRuleFits tables resolved := by
  obtain ⟨⟨nonempty, _⟩, scenes, _, sensors⟩ := check_ok holds.checked
  exact {
    sensors_nonempty := by
      rw [holds.sensors]
      exact nonempty
    sensors_known := fun sensor member => by
      rw [holds.sensors] at member
      exact same.isKind_of_hasKind (sensors sensor member)
    scenes_valid := by
      rw [holds.scenes]
      exact scenes
    target_of_slot := fun slot => targets_contains_iff holds
    scene_ids_nonempty := fun name slot found =>
      (target_resolved holds found).elim fun _ aimed => aimed.2.1
    lights_nonempty := fun slot target found => (holds.targets.resolved slot target found).nonempty
    lights_nodup := fun slot target found => (holds.targets.resolved slot target found).distinct
    lights_iff := holds.mem_lights_iff
    lights_members := fun light listed => holds.exists_room listed
    group_lights := fun slot target group found named => by
      obtain ⟨room, _, here, same, _⟩ := holds.group_room found named
      exact ⟨room, here, same⟩
    group_scenes :=
        fun name target group room times found named here slot id listed scene known => by
      obtain ⟨other, times', there, _, slot', provisioned⟩ := holds.group_room found named
      rw [here] at there
      cases there
      rw [holds.scenes] at slot known
      rw [slot] at slot'
      cases slot'
      exact provisioned id listed scene known
    single_endpoint := fun light listed room inside member listed' device => by
      obtain ⟨other, there, mine⟩ := holds.exists_room listed
      exact MotionRule.eq_of_endpointsOf (single light listed) there mine inside listed' device }

end RuleResolved

/-! ## All rules -/

/-- The lights of a rule are its own: each has one endpoint, none had a rule before, and all have
one now. -/
theorem ownLights_ok {lights : List LightEndpoint} {owners after : TreeMap DeviceIdx String}
    (passed : lights.foldlM (rule.ownLight tables) owners = .ok after) :
    (∀ light ∈ lights, (MotionRule.endpointsOf tables light.device).length = 1) ∧
      (lights.map (·.device)).Nodup ∧ (∀ light ∈ lights, owners[light.device]? = none) ∧
        ∀ device, after[device]? = none →
          owners[device]? = none ∧ device ∉ lights.map (·.device) := by
  have taken : ∀ owners light after, rule.ownLight tables owners light = .ok after →
      owners[light.device]? = none ∧
        ∀ other, after[other]? = none → owners[other]? = none ∧ other ≠ light.device := by
    intro owners light after here
    obtain ⟨⟨_, owned⟩, _⟩ := MotionRule.ownLight_ok here
    exact ⟨(claim_ok_iff.mp owned).1, fun other => (unclaimed_iff owned other).mp⟩
  obtain ⟨distinct, free⟩ := nodup_map_of_taken
    (fun (owners : TreeMap DeviceIdx String) device => owners[device]? = none) taken passed
  refine ⟨fun light member => ?_, distinct, free, fun device still => ?_⟩
  · obtain ⟨_, _, here⟩ := exists_of_foldlM_ok passed member
    exact (MotionRule.ownLight_ok here).2
  · exact free_before (fun (owners : TreeMap DeviceIdx String) device => owners[device]? = none)
      (fun owners light after here => (taken owners light after here).2) passed still

/-- A rule fits tables that are alike. -/
theorem motionRuleFits_of_alike {first second : TopologyTables}
    (alike : TopologyTables.Alike first second) {resolved : ResolvedMotionRule}
    (fits : MotionRuleFits second resolved) : MotionRuleFits first resolved := by
  have same : ∀ kind name, first.isKind kind name = second.isKind kind name := by
    intro kind name
    unfold TopologyTables.isKind TopologyTables.deviceIdx
    rw [alike.devices]
  exact {
    sensors_nonempty := fits.sensors_nonempty
    sensors_known := fun sensor member => by
      rw [same]
      exact fits.sensors_known sensor member
    scenes_valid := fits.scenes_valid
    target_of_slot := fits.target_of_slot
    scene_ids_nonempty := fits.scene_ids_nonempty
    lights_nonempty := fits.lights_nonempty
    lights_nodup := fits.lights_nodup
    lights_iff := fits.lights_iff
    lights_members := fun light listed => by
      obtain ⟨room, member, inside⟩ := fits.lights_members light listed
      obtain ⟨other, there, unbound⟩ := alike.symm.mem_of_mem member
      exact ⟨other, there, by rwa [TopologyTables.lightMembers_of_unbound unbound]⟩
    group_lights := fun slot target group found named => by
      obtain ⟨room, here, lights⟩ := fits.group_lights slot target group found named
      obtain ⟨other, there, unbound⟩ := alike.symm.room_of_room here
      exact ⟨other, there, by rw [lights, TopologyTables.lightMembers_of_unbound unbound]⟩
    group_scenes :=
        fun slot target group room times found named here slotted id listed scene known => by
      obtain ⟨other, there, unbound⟩ := alike.room_of_room here
      rw [← TopologyTables.scenes_of_unbound unbound]
      exact fits.group_scenes slot target group other times found named there slotted id listed
        scene known
    single_endpoint := fun light listed room member endpoint inside device => by
      obtain ⟨other, there, unbound⟩ := alike.mem_of_mem member
      rw [← TopologyTables.lightMembers_of_unbound unbound] at inside
      exact fits.single_endpoint light listed other there endpoint inside device }

/-- What the rules so far have established. -/
structure RulesAdded (base : TopologyTables) (past : List MotionRule) (state : RulesSoFar) :
    Prop where
  alike : TopologyTables.Alike state.tables base
  names : state.tables.motionRules.map (·.name) = past.map (·.name)
  fit : ∀ resolved ∈ state.tables.motionRules, MotionRuleFits base resolved
  distinct : ((state.tables.motionRules.flatMap (·.lights)).map (·.device)).Nodup
  owned : ∀ light ∈ state.tables.motionRules.flatMap (·.lights),
    state.owners[light.device]? ≠ none

theorem rulesAdded_step {base : TopologyTables} (same : config.Matches base)
    (past : List MotionRule) (rule : MotionRule) (state after : RulesSoFar)
    (holds : RulesAdded base past state) (passed : config.addRule state rule = .ok after) :
    RulesAdded base (past ++ [rule]) after := by
  obtain ⟨resolved, fits, added, _, owners⟩ := addRule_ok passed
  obtain ⟨single, distinct, free, before⟩ := ownLights_ok owners
  have rules : after.tables.motionRules = state.tables.motionRules ++ [resolved] := by
    rw [added]
    rfl
  have alike := holds.alike.addMotionRule resolved
  constructor
  · rw [added]
    exact alike
  · rw [rules, List.map_append, List.map_append, holds.names, List.map_singleton,
      List.map_singleton, fits.name]
  · intro other member
    rw [rules] at member
    rcases List.mem_append.mp member with member | member
    · exact holds.fit other member
    · cases List.mem_singleton.mp member
      exact motionRuleFits_of_alike holds.alike.symm
        (fits.fits (holds.alike.matches_of_alike same) single)
  · rw [rules, List.flatMap_append, List.flatMap_singleton, List.map_append, List.nodup_append']
    refine ⟨holds.distinct, distinct, fun device old new => ?_⟩
    obtain ⟨light, listed, rfl⟩ := List.mem_map.mp old
    obtain ⟨other, member, device⟩ := List.mem_map.mp new
    have none := free other member
    rw [device] at none
    exact holds.owned light listed none
  · intro light listed still
    obtain ⟨none, fresh⟩ := before light.device still
    rw [rules, List.flatMap_append, List.flatMap_singleton] at listed
    rcases List.mem_append.mp listed with listed | listed
    · exact holds.owned light listed none
    · exact fresh (List.mem_map_of_mem listed)

theorem rulesAdded_of_passed {base : TopologyTables} (same : config.Matches base)
    (none : base.motionRules = []) {state : RulesSoFar}
    (passed : config.motionRules.foldlM config.addRule { tables := base } = .ok state) :
    RulesAdded base config.motionRules state := by
  have start : RulesAdded base [] { tables := base } := by
    refine ⟨TopologyTables.Alike.refl base, ?_, ?_, ?_, ?_⟩
    · rw [none]
      rfl
    · rw [none]
      exact fun resolved member => by cases member
    · rw [none]
      exact List.nodup_nil
    · rw [none]
      exact fun light member => by cases member
  exact foldlM_invariant (RulesAdded base) (rulesAdded_step same) start passed

theorem ruleNames_nodup {state after : RulesSoFar} {rules : List MotionRule}
    (passed : rules.foldlM config.addRule state = .ok after) : (rules.map (·.name)).Nodup := by
  refine (nodup_map_of_taken (fun state name => state.names[name]? = none) ?_ passed).1
  intro state rule after here
  obtain ⟨_, _, _, ⟨_, named⟩, _⟩ := addRule_ok here
  exact ⟨(claim_ok_iff.mp named).1, fun other => (unclaimed_iff named other).mp⟩

end Config

end MqttController
