import MqttController.KnownPlugs
import MqttController.Lib.Keyed
import MqttController.Web.Snapshot

/-!
# Full and single snapshots agree

A dashboard that connects gets the same rooms, plugs and heating zones as one that followed their
changes.  It gets a light only by way of a member that is written with the light's name.
-/

namespace MqttController

open Std

namespace Web

variable (labels : Labels) (env : Env) (runtime : Runtime) (now : Instant)

/-- Whatever a builder returns for a single entity is its only entry in the full snapshot. -/
structure SnapshotsAgree : Prop where
  rooms : ∀ name snapshot, buildRoomSnapshot labels env runtime now name = some snapshot →
    (buildFullSnapshot labels env runtime now).rooms.filter (·.name == name) = [snapshot]
  plugs : ∀ device snapshot, buildPlugSnapshot labels env runtime now device = some snapshot →
    (buildFullSnapshot labels env runtime now).plugs.filter (·.device == device) = [snapshot]
  heatingZones : ∀ name snapshot, buildHeatingZoneSnapshot env runtime now name = some snapshot →
    (buildFullSnapshot labels env runtime now).heatingZones.filter (·.name == name) = [snapshot]
  lights : ∀ device snapshot, buildLightSnapshot env runtime now device = some snapshot →
    (buildFullSnapshot labels env runtime now).lights.filter (·.device == device) = [snapshot]

/-- Every light of the catalog is what comes before the first separator of some member. -/
def LightsListed (tables : TopologyTables) : Prop :=
  ∀ device, tables.isLight device = true →
    ∃ room ∈ tables.rooms, ∃ member ∈ room.members, memberDevice member = device

section Lights

/-- The list of lights after some of the memberships. -/
structure Walked (entries : List (ResolvedRoom × String)) (out : List LightSnapshot) : Prop where
  /-- No light is there twice. -/
  nodup : (out.map (·.device)).Nodup
  /-- Every light is there with the room that is met first. -/
  first : ∀ light ∈ out, env.topology.isLight light.device = true ∧
    ∃ room member, entries.find? (fun entry => memberDevice entry.2 == light.device) =
        some (room, member) ∧
      light = lightSnapshotFrom light.device (some room.name)
        runtime.world.lights[light.device]? now
  /-- Every light of the memberships is there. -/
  all : ∀ entry ∈ entries, env.topology.isLight (memberDevice entry.2) = true →
    ∃ light ∈ out, light.device = memberDevice entry.2

theorem Walked.step {entries : List (ResolvedRoom × String)} {out : List LightSnapshot}
    (walked : Walked env runtime now entries out) (entry : ResolvedRoom × String) :
    Walked env runtime now (entries ++ [entry]) (addLight env runtime now out entry) := by
  have kept : ∀ light ∈ out, env.topology.isLight light.device = true ∧
      ∃ room member, (entries ++ [entry]).find? (fun entry =>
          memberDevice entry.2 == light.device) = some (room, member) ∧
        light =
          lightSnapshotFrom light.device (some room.name)
            runtime.world.lights[light.device]? now := by
    intro light member
    obtain ⟨known, room, key, found, same⟩ := walked.first light member
    refine ⟨known, room, key, ?_, same⟩
    rw [List.find?_append, found]
    rfl
  unfold addLight
  dsimp only
  split
  · rename_i unknown
    refine ⟨walked.nodup, kept, fun other listed light => ?_⟩
    rcases List.mem_append.mp listed with listed | last
    · exact walked.all other listed light
    · rw [List.mem_singleton.mp last] at light
      simp [light] at unknown
  · rename_i known
    have light : env.topology.isLight (memberDevice entry.2) = true := by simpa using known
    split
    · rename_i there
      refine ⟨walked.nodup, kept, fun other listed light => ?_⟩
      rcases List.mem_append.mp listed with listed | last
      · exact walked.all other listed light
      · obtain ⟨present, member, same⟩ := List.any_eq_true.mp there
        rw [List.mem_singleton.mp last]
        exact ⟨present, member, eq_of_beq same⟩
    · rename_i absent
      have fresh : ∀ other ∈ out, other.device ≠ memberDevice entry.2 := by
        intro other member same
        exact absent (List.any_eq_true.mpr ⟨other, member, beq_iff_eq.mpr same⟩)
      refine ⟨?_, fun other listed => ?_, fun other listed light => ?_⟩
      · rw [List.map_append, List.nodup_append]
        refine ⟨walked.nodup, List.nodup_singleton _, fun device member last same => ?_⟩
        obtain ⟨other, inside, rfl⟩ := List.mem_map.mp member
        intro equal
        rw [List.map_singleton, List.mem_singleton] at same
        exact fresh other inside (equal.trans same)
      · rcases List.mem_append.mp listed with listed | last
        · exact kept other listed
        · rw [List.mem_singleton.mp last]
          refine ⟨light, entry.1, entry.2, ?_, rfl⟩
          have before : entries.find? (fun other =>
              memberDevice other.2 == memberDevice entry.2) = none := by
            rw [List.find?_eq_none]
            intro other member same
            obtain ⟨present, inside, named⟩ :=
              walked.all other member (by rw [eq_of_beq same]; exact light)
            exact fresh present inside (named.trans (eq_of_beq same))
          change (entries ++ [entry]).find? (fun other =>
            memberDevice other.2 == memberDevice entry.2) = _
          rw [List.find?_append, before, Option.none_or, List.find?_cons, beq_self_eq_true]
      · rcases List.mem_append.mp listed with listed | last
        · obtain ⟨present, member, named⟩ := walked.all other listed light
          exact ⟨present, List.mem_append_left _ member, named⟩
        · rw [List.mem_singleton.mp last]
          exact ⟨_, List.mem_append_right _ (List.mem_singleton_self _), rfl⟩

theorem walked_buildAllLightSnapshots :
    Walked env runtime now (memberships env.topology.toTopologyTables)
      (buildAllLightSnapshots env runtime now) := by
  have walks : ∀ (later before : List (ResolvedRoom × String)) (out : List LightSnapshot),
      Walked env runtime now before out →
      Walked env runtime now (before ++ later) (later.foldl (addLight env runtime now) out) := by
    intro later
    induction later with
    | nil =>
        intro before out walked
        rw [List.append_nil]
        exact walked
    | cons entry rest ih =>
        intro before out walked
        have stepped := ih (before ++ [entry]) _ (walked.step env runtime now entry)
        rw [List.append_assoc] at stepped
        exact stepped
  refine walks _ [] [] ⟨List.nodup_nil, fun light listed => ?_, fun entry listed => ?_⟩
  · cases listed
  · cases listed

theorem mem_memberships {tables : TopologyTables} {entry : ResolvedRoom × String} :
    entry ∈ memberships tables ↔ entry.1 ∈ tables.rooms ∧ entry.2 ∈ entry.1.members := by
  unfold memberships
  constructor
  · intro listed
    obtain ⟨room, deployed, member⟩ := List.mem_flatMap.mp listed
    obtain ⟨key, inside, rfl⟩ := List.mem_map.mp member
    exact ⟨deployed, inside⟩
  · rintro ⟨deployed, inside⟩
    exact List.mem_flatMap.mpr ⟨entry.1, deployed, List.mem_map.mpr ⟨entry.2, inside, rfl⟩⟩

/-- The lights agree exactly if every light is listed. -/
theorem lights_agree_iff :
    (∀ device snapshot, buildLightSnapshot env runtime now device = some snapshot →
      (buildAllLightSnapshots env runtime now).filter (·.device == device) = [snapshot]) ↔
    LightsListed env.topology.toTopologyTables := by
  have walked := walked_buildAllLightSnapshots env runtime now
  constructor
  · intro agree device light
    have built : buildLightSnapshot env runtime now device = some (lightSnapshotFrom device
        (lightRoomOf env.topology.toTopologyTables device) runtime.world.lights[device]? now) :=
      if_pos light
    have only := agree device _ built
    have listed : lightSnapshotFrom device (lightRoomOf env.topology.toTopologyTables device)
        runtime.world.lights[device]? now ∈ buildAllLightSnapshots env runtime now :=
      (List.mem_filter.mp (by rw [only]; exact List.mem_singleton_self _)).1
    obtain ⟨_, room, member, found, _⟩ := walked.first _ listed
    obtain ⟨deployed, inside⟩ := mem_memberships.mp (List.mem_of_find?_eq_some found)
    have named := List.find?_some found
    exact ⟨room, deployed, member, inside, eq_of_beq named⟩
  · intro listed device snapshot built
    unfold buildLightSnapshot at built
    split at built
    · rename_i light
      cases built
      obtain ⟨room, deployed, member, inside, named⟩ := listed device light
      have met : (room, member) ∈ memberships env.topology.toTopologyTables :=
        mem_memberships.mpr ⟨deployed, inside⟩
      obtain ⟨present, there, same⟩ := walked.all _ met (by rw [named]; exact light)
      have same : present.device = device := same.trans named
      subst same
      obtain ⟨_, first, key, found, content⟩ := walked.first present there
      have own : lightRoomOf env.topology.toTopologyTables present.device = some first.name := by
        unfold lightRoomOf
        rw [found]
        rfl
      rw [own, ← content]
      exact Keyed.filter_eq walked.nodup there
    · cases built

end Lights

/-! ## Rooms, plugs and heating zones -/

theorem rooms_agree {name : String} {snapshot : RoomSnapshot}
    (built : buildRoomSnapshot labels env runtime now name = some snapshot) :
    (buildFullSnapshot labels env runtime now).rooms.filter (·.name == name) = [snapshot] := by
  obtain ⟨room, found, rfl⟩ := Option.map_eq_some_iff.mp built
  obtain ⟨deployed, rfl⟩ := TopologyTables.mem_rooms_of_roomByName found
  have names : ((buildFullSnapshot labels env runtime now).rooms.map (·.name)) =
      env.topology.rooms.map (·.name) := by
    unfold buildFullSnapshot
    rw [List.map_map]
    rfl
  have nodup : ((buildFullSnapshot labels env runtime now).rooms.map (·.name)).Nodup := by
    rw [names]
    exact env.topology.valid.room_names_nodup
  exact Keyed.filter_eq nodup (List.mem_map.mpr ⟨room, deployed, rfl⟩)

theorem device_of_plugSnapshotFrom {plug : Option PlugEntity} {device : String}
    {snapshot : PlugSnapshot}
    (built : plugSnapshotFrom labels env runtime now plug device = some snapshot) :
    snapshot.device = device := by
  obtain ⟨idx, _, rfl⟩ := Option.map_eq_some_iff.mp built
  rfl

/-- The names of the catalog's plugs are different. -/
theorem allPlugNames_nodup (valid : env.topology.toTopologyTables.Valid) :
    (allPlugNames env.topology.toTopologyTables).Nodup :=
  valid.device_names_nodup.sublist (List.filter_sublist.map _)

theorem mem_allPlugNames {tables : TopologyTables} {name : String}
    (plug : tables.isPlug name = true) : name ∈ allPlugNames tables := by
  obtain ⟨idx, found, kind⟩ := TopologyTables.isPlug_iff.mp plug
  unfold TopologyTables.deviceIdx at found
  rw [List.findIdx?_eq_some_iff_getElem] at found
  obtain ⟨bound, named, _⟩ := found
  refine List.mem_map.mpr ⟨tables.devices[idx], List.mem_filter.mpr ⟨List.getElem_mem bound, ?_⟩,
    eq_of_beq named⟩
  unfold TopologyTables.isPlugIdx at kind
  rw [List.getElem?_eq_getElem bound] at kind
  exact kind

theorem plugs_agree (known : runtime.world.PlugsKnown env.topology.toTopologyTables)
    {device : String} {snapshot : PlugSnapshot}
    (built : buildPlugSnapshot labels env runtime now device = some snapshot) :
    (buildFullSnapshot labels env runtime now).plugs.filter (·.device == device) = [snapshot] := by
  obtain ⟨plug, stored, made⟩ := Option.bind_eq_some_iff.mp built
  have catalog : device ∈ allPlugNames env.topology.toTopologyTables :=
    mem_allPlugNames (known device (Option.isSome_of_eq_some stored))
  have listed : snapshot ∈ (buildFullSnapshot labels env runtime now).plugs := by
    refine List.mem_filterMap.mpr ⟨device, catalog, ?_⟩
    rw [stored]
    exact made
  have nodup : ((buildFullSnapshot labels env runtime now).plugs.map (·.device)).Nodup := by
    refine (allPlugNames_nodup env env.topology.valid).sublist ?_
    change List.Sublist (((allPlugNames env.topology.toTopologyTables).filterMap _).map _) _
    generalize allPlugNames env.topology.toTopologyTables = names
    induction names with
    | nil => exact List.Sublist.refl _
    | cons name rest ih =>
        rw [List.filterMap_cons]
        split
        · exact ih.cons name
        · rename_i entry made
          rw [List.map_cons, device_of_plugSnapshotFrom labels env runtime now made]
          exact ih.cons_cons name
  have named := device_of_plugSnapshotFrom labels env runtime now made
  subst named
  exact Keyed.filter_eq nodup listed

theorem heatingZones_agree {name : String} {snapshot : HeatingZoneSnapshot}
    (built : buildHeatingZoneSnapshot env runtime now name = some snapshot) :
    (buildFullSnapshot labels env runtime now).heatingZones.filter (·.name == name) =
      [snapshot] := by
  obtain ⟨config, heating, built⟩ := Option.bind_eq_some_iff.mp built
  obtain ⟨zone, found, rfl⟩ := Option.map_eq_some_iff.mp built
  have named := List.find?_some found
  obtain rfl := eq_of_beq named
  have zones : (buildFullSnapshot labels env runtime now).heatingZones =
      config.zones.map (buildOneHeatingZone env runtime now config) := by
    change buildHeatingZoneSnapshots env runtime now = _
    unfold buildHeatingZoneSnapshots
    rw [heating]
    rfl
  have nodup : ((buildFullSnapshot labels env runtime now).heatingZones.map (·.name)).Nodup := by
    rw [zones, List.map_map]
    exact (env.topology.valid.heating_valid config heating).zone_names_nodup
  rw [zones] at nodup ⊢
  exact Keyed.filter_eq nodup (List.mem_map.mpr ⟨zone, List.mem_of_find?_eq_some found, rfl⟩)

/-- In every state of a run that hears of no plug outside the catalog, the full snapshot agrees with
the single ones exactly if every light of the catalog is listed. -/
theorem snapshotsAgree_iff {history : List Record} {daemon : Daemon} (run : Run history daemon)
    (hears : ∀ record ∈ history, record.operation.hearsPlugs
      daemon.processor.automation.topology.toTopologyTables = true) (labels : Labels)
    (clock : ClockReading) (now : Instant) :
    SnapshotsAgree labels (daemon.processor.env clock) daemon.processor.runtime now ↔
      LightsListed daemon.processor.automation.topology.toTopologyTables := by
  have known : daemon.processor.runtime.world.PlugsKnown
      daemon.processor.automation.topology.toTopologyTables :=
    run.invariant_of_operations WorldState.plugsKnown_kept hears
  constructor
  · intro agree
    exact (lights_agree_iff (daemon.processor.env clock) daemon.processor.runtime now).mp
      agree.lights
  · intro listed
    exact {
      rooms := fun _ _ built => rooms_agree labels _ _ now built
      plugs := fun _ _ built => plugs_agree labels (daemon.processor.env clock) _ now known built
      heatingZones := fun _ _ built => heatingZones_agree labels _ _ now built
      lights := (lights_agree_iff (daemon.processor.env clock) daemon.processor.runtime now).mpr
        listed }

/-- Labels for every name. -/
def plainLabels : Labels :=
  { room := some, displayName := some, deviceRoom := fun _ => none
    excludeFromTotals := fun _ => false, occupancyTimeoutSeconds := fun _ => 60 }

/-- Every light among some tables is a member of some room. -/
def listsLights (tables : TopologyTables) : Bool :=
  tables.devices.all fun device => device.kind != .light ||
    tables.rooms.any fun room => room.members.any fun member => memberDevice member == device.name

theorem listed_of_listsLights {tables : TopologyTables} (lists : listsLights tables = true) :
    LightsListed tables := by
  intro name light
  obtain ⟨idx, found, kind⟩ := (Option.any_eq_true _ _).mp light
  obtain ⟨device, stored, kind⟩ := (Option.any_eq_true _ _).mp kind
  obtain ⟨inside, named, _⟩ := List.findIdx?_eq_some_iff_getElem.mp found
  obtain ⟨_, rfl⟩ := List.getElem?_eq_some_iff.mp stored
  have holds := List.all_eq_true.mp lists _ (List.getElem_mem inside)
  rw [Bool.or_eq_true, bne_iff_ne] at holds
  obtain ⟨room, deployed, member⟩ := List.any_eq_true.mp
    (holds.resolve_left (not_not.mpr (eq_of_beq kind)))
  obtain ⟨member, listed, same⟩ := List.any_eq_true.mp member
  exact ⟨room, deployed, member, listed, (eq_of_beq same).trans (eq_of_beq named)⟩

/-- With the landing, all lights of the house are listed, so that the snapshots agree, also after
its plug has reported. -/
theorem snapshotsAgree_iff_landing : ∃ (history : List Record) (daemon : Daemon),
    Run history daemon ∧ history.length = 2 ∧
      LightsListed daemon.processor.automation.topology.toTopologyTables ∧
        SnapshotsAgree plainLabels (daemon.processor.env (House.clock 2)) daemon.processor.runtime
          (Duration.fromSecs 2) := by
  obtain ⟨daemon, history, run, facts⟩ := House.played_landing []
    [(0, .start), (1, .event (.plugState "plug" true (some 40) (Duration.fromSecs 1)))]
    (fun reached : Daemon × List Record => (reached.2.length,
      (reached.2.all fun record =>
        record.operation.hearsPlugs reached.1.processor.automation.topology.toTopologyTables),
      listsLights reached.1.processor.automation.topology.toTopologyTables))
    (2, true, true) (by decide +kernel)
  obtain ⟨length, hears, lists⟩ : _ ∧ _ ∧ _ := by simpa only [Prod.mk.injEq] using facts
  have listed := listed_of_listsLights lists
  exact ⟨history, daemon, run, length, listed,
    (snapshotsAgree_iff run (fun record member => List.all_eq_true.mp hears record member)
      plainLabels (House.clock 2) (Duration.fromSecs 2)).mpr listed⟩

/-- The house with the study alone, so that no room has the spot. -/
def bareTopology : Topology :=
  { House.landingTables [] with
    rooms := [House.study]
    descendantsByRoom := [[]]
    valid :=
      { (House.landingTopology []).valid with
        room_names_nodup := (by decide : ([House.study].map (·.name)).Nodup)
        group_names_nodup := (by decide : ([House.study].map (·.groupName)).Nodup)
        members_known := (by decide : ∀ room ∈ [House.study], ∀ light ∈ room.lightMembers,
          light.device < House.devices.length)
        scenes_valid := fun room listed => by
          rw [List.mem_singleton.mp listed]
          exact House.scenes_valid
        switch_steps_fit := fun room listed => by
          rw [List.mem_singleton.mp listed]
          exact House.switchSteps_fit fun slot sequence stored => House.getElem?_single stored
        descendants_irrefl := fun idx => by
          match idx with
          | 0 => simp [TopologyTables.descendantsOf]
          | idx + 1 => simp [TopologyTables.descendantsOf]
        rules_fit := fun rule listed => by cases listed
        heating_valid := fun config stored => by cases stored
        heating_devices := fun config stored => by cases stored } }

/-- The bare house, without settings. -/
def bareAutomation : Automation :=
  { House.landingAutomation [] with
    topology := bareTopology
    fit :=
      { rooms := fun name value stored => by
          simp [House.landingAutomation, House.automation] at stored
        steps := fun name steps stored => by
          simp [House.landingAutomation, House.automation] at stored
        rules := fun name slots stored => by
          simp [House.landingAutomation, House.automation] at stored
        times := fun name time stored => by
          simp [House.landingAutomation, House.automation] at stored
        plugs := fun name value stored => by
          simp [House.landingAutomation, House.automation] at stored
        bindings := fun name bindings stored => by
          simp [House.landingAutomation, House.automation] at stored } }

/-- The full snapshot lacks the spot, although a single snapshot of it can be built. -/
theorem snapshotsAgree_fails : ¬ ∀ (history : List Record) (daemon : Daemon),
    Run history daemon → (∀ record ∈ history, record.operation.hearsPlugs
      daemon.processor.automation.topology.toTopologyTables = true) →
    ∀ (labels : Labels) (clock : ClockReading) (now : Instant),
      SnapshotsAgree labels (daemon.processor.env clock) daemon.processor.runtime now := by
  intro claim
  have agree := claim [] (Daemon.launch bareAutomation 0) (.launch _ _) (by simp)
    plainLabels (House.clock 0) 0
  have listed := (lights_agree_iff _ _ _).mp agree.lights
  obtain ⟨room, deployed, member, inside, named⟩ := listed "spot" (by rfl)
  have study : room = House.study := List.mem_singleton.mp deployed
  rw [study] at inside
  rw [List.mem_singleton.mp inside] at named
  exact absurd named (by decide +kernel)

end Web

end MqttController
