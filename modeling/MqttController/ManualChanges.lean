import MqttController.LightChanges

/-!
# Manual commands

What each manual room command does to lights and zones, as one statement: it writes only lights
that its messages reach, with an owner that off-only claims decide, and only the zones of the room
and its descendants, never leaving a switch cycle on a zone it turned off.
-/

namespace MqttController

open KeyedChange WorldState

namespace LightZoneEntity

/-- A switch cycle is active only on a zone that is told to be on. -/
def CyclesOn (zone : LightZoneEntity) : Prop := zone.switchCycle.isSome → zone.targetIsOn

theorem cyclesOn_of_none {zone : LightZoneEntity} (none : zone.switchCycle = none) :
    zone.CyclesOn := by
  intro active
  rw [none] at active
  cases active

theorem cyclesOn_of_on {zone : LightZoneEntity} (on : zone.targetIsOn) : zone.CyclesOn :=
  fun _ => on

/-- A zone that keeps its cycle and what it is told. -/
theorem cyclesOn_of_value {before after : LightZoneEntity} (cycles : before.CyclesOn)
    (cursor : after.switchCycle = before.switchCycle)
    (value : after.target.value = before.target.value) : after.CyclesOn := by
  intro active
  unfold targetIsOn
  rw [value]
  exact cycles (cursor ▸ active)

/-- An active switch cycle is at a selectable step, and the zone was told something. -/
def Points (selectable : SwitchCycle → Prop) (zone : LightZoneEntity) : Prop :=
  ∀ cycle, zone.switchCycle = some cycle → selectable cycle ∧ zone.target.value.isSome

variable {selectable : SwitchCycle → Prop} {before after : LightZoneEntity}

/-- A change that keeps cycles at selectable steps and leaves no command unsent. -/
structure Guards (selectable : SwitchCycle → Prop) (before after : LightZoneEntity) : Prop where
  points : before.Points selectable → after.Points selectable
  sent : before.target.phase ≠ .pending → after.target.phase ≠ .pending

/-- A change that also keeps cycles on zones that are told to be on. -/
structure Keeps (selectable : SwitchCycle → Prop) (before after : LightZoneEntity) : Prop
    extends Guards selectable before after where
  cyclesOn : before.CyclesOn → after.CyclesOn

theorem Guards.refl (zone : LightZoneEntity) : Guards selectable zone zone := ⟨id, id⟩

theorem Guards.trans {middle : LightZoneEntity} (first : Guards selectable before middle)
    (second : Guards selectable middle after) : Guards selectable before after :=
  ⟨second.points ∘ first.points, second.sent ∘ first.sent⟩

/-- The zone forgets its cycle. -/
theorem Guards.of_none (none : after.switchCycle = none)
    (sent : before.target.phase ≠ .pending → after.target.phase ≠ .pending) :
    Guards selectable before after where
  points _ cycle active := by
    rw [none] at active
    cases active
  sent := sent

/-- The zone is told something, and keeps its cycle or selects a step. -/
theorem Guards.of_told (told : after.target.value.isSome)
    (cursor : after.switchCycle = before.switchCycle ∨
      ∃ cycle, selectable cycle ∧ after.switchCycle = some cycle)
    (sent : before.target.phase ≠ .pending → after.target.phase ≠ .pending) :
    Guards selectable before after where
  points valid cycle active := by
    rcases cursor with same | ⟨selected, selects, same⟩
    · exact ⟨(valid cycle (same ▸ active)).1, told⟩
    · rw [same] at active
      cases active
      exact ⟨selects, told⟩
  sent := sent

/-- The zone keeps its cycle and what it is told. -/
theorem Guards.of_value (cursor : after.switchCycle = before.switchCycle)
    (value : after.target.value = before.target.value)
    (sent : before.target.phase ≠ .pending → after.target.phase ≠ .pending) :
    Guards selectable before after where
  points valid cycle active := by
    rw [value]
    exact valid cycle (cursor ▸ active)
  sent := sent

theorem Keeps.refl (zone : LightZoneEntity) : Keeps selectable zone zone := ⟨.refl zone, id⟩

theorem Keeps.trans {middle : LightZoneEntity} (first : Keeps selectable before middle)
    (second : Keeps selectable middle after) : Keeps selectable before after :=
  ⟨first.toGuards.trans second.toGuards, second.cyclesOn ∘ first.cyclesOn⟩

theorem Keeps.of_none (none : after.switchCycle = none)
    (sent : before.target.phase ≠ .pending → after.target.phase ≠ .pending) :
    Keeps selectable before after :=
  ⟨.of_none none sent, fun _ => cyclesOn_of_none none⟩

/-- The zone is told to be on, and keeps its cycle or selects a step. -/
theorem Keeps.of_on (on : after.targetIsOn)
    (cursor : after.switchCycle = before.switchCycle ∨
      ∃ cycle, selectable cycle ∧ after.switchCycle = some cycle)
    (sent : before.target.phase ≠ .pending → after.target.phase ≠ .pending) :
    Keeps selectable before after := by
  refine ⟨.of_told ?_ cursor sent, fun _ => cyclesOn_of_on on⟩
  obtain ⟨value, set, _⟩ := (Option.any_eq_true _ _).mp on
  rw [set]
  rfl

theorem Keeps.of_value (cursor : after.switchCycle = before.switchCycle)
    (value : after.target.value = before.target.value)
    (sent : before.target.phase ≠ .pending → after.target.phase ≠ .pending) :
    Keeps selectable before after :=
  ⟨.of_value cursor value sent, fun cycles => cyclesOn_of_value cycles cursor value⟩

theorem keeps_reassignOwner (zone : LightZoneEntity) (owner : Owner) (ts : Instant) :
    Keeps selectable zone (zone.reassignOwner owner ts) :=
  .of_value rfl (TassTarget.value_reassignOwner _ _ _) (by simp [reassignOwner])

end LightZoneEntity

/-- The cycle is at a step of its room. -/
def Automation.Selects (automation : Automation) (name : String) (cycle : SwitchCycle) : Prop :=
  ∃ room, automation.topology.roomByName name = some room ∧
    ∃ steps, (automation.roomSwitchSteps room)[cycle.slot]? = some steps ∧
      cycle.step < steps.length

/-- A step of a written zone that keeps its cycle in order. -/
def ZoneStep (automation : Automation) (written : String → Prop) (name : String)
    (before after : LightZoneEntity) : Prop :=
  written name ∧ LightZoneEntity.Keeps (automation.Selects name) before after

namespace Env

variable (env : Env)

/-- A light write of a manual command to a light that it reaches. -/
inductive ManualLight (start : WorldState) (hit : DeviceIdx → Prop) (name : String) :
    LightEntity → LightEntity → Prop
  | command {light : LightEntity} (device : DeviceIdx)
      (known : device < env.topology.devices.length)
      (named : env.topology.deviceName device = name) (reached : hit device)
      (value : LightTarget) (default : Owner) (manual : default ≠ .motion) (ts : Instant) :
      ManualLight start hit name light
        (light.command value (env.resolveLightOwner start device default) ts)
  | reassign {light : LightEntity} (device : DeviceIdx)
      (known : device < env.topology.devices.length)
      (named : env.topology.deviceName device = name) (reached : hit device)
      (default : Owner) (manual : default ≠ .motion) (ts : Instant) :
      ManualLight start hit name light
        (light.reassignOwner (env.resolveLightOwner start device default) ts)

/-- A room's zone is written by a command to a room: its own, or that of a descendant. -/
def Writes (name written : String) : Prop :=
  written = name ∨ ∃ idx, env.topology.roomIdx name = some idx ∧
    ∃ child ∈ env.topology.descendantsOf idx, ∃ room, env.topology.room child = some room ∧
      room.name = written

/-- The moves of manual commands: reached lights and written zones. -/
def manualMoves (start : WorldState) (hit : DeviceIdx → Prop) (written : String → Prop) :
    Moves where
  light := env.ManualLight start hit
  zone := ZoneStep env.toAutomation written
  rule _ _ _ := False

/-- What a manual command to a room may do. -/
def Manual (name : String) (world : WorldState) (result : WorldState × List Effect) : Prop :=
  Touches (env.manualMoves world (Addresses env.topology result.2) (env.Writes name)) world
    result.1

variable {env}

theorem lightHasOffOnlyClaim_congr {world other : WorldState}
    (sensors : other.motionSensors = world.motionSensors)
    (rules : ∀ name, other.ruleAt name = world.ruleAt name) (device : DeviceIdx) :
    env.lightHasOffOnlyClaim other device = env.lightHasOffOnlyClaim world device := by
  unfold ruleAt at rules
  simp only [lightHasOffOnlyClaim, motionRuleOccupied, motionSession, sensors, rules]

/-! ## Known lights -/

/-- Members are devices of the catalog. -/
theorem member_known {name : String} {room : ResolvedRoom}
    (found : env.topology.roomByName name = some room) {light : LightEndpoint}
    (member : light ∈ room.lightMembers) : light.device < env.topology.devices.length :=
  env.topology.valid.members_known room (TopologyTables.mem_rooms_of_roomByName found).1 light
    member

/-- The lights of a switch step are members of its room. -/
theorem step_light_member {name slot : String} {room : ResolvedRoom}
    (found : env.topology.roomByName name = some room) {steps : List ResolvedSwitchStep}
    (sequence : (env.roomSwitchSteps room)[slot]? = some steps) {step : ResolvedSwitchStep}
    (listed : step ∈ steps) {light : LightEndpoint} (selected : light ∈ step.lights) :
    light ∈ room.lightMembers :=
  (Automation.roomSwitchSteps_fit found).lights_members slot steps sequence step listed light
    selected

theorem activeSwitchSteps_some {name slot : String} {steps : List ResolvedSwitchStep}
    (active : env.activeSwitchSteps name = some (slot, steps)) :
    ∃ room, env.topology.roomByName name = some room ∧
      (env.roomSwitchSteps room)[slot]? = some steps := by
  unfold activeSwitchSteps at active
  split at active
  · cases active
  · rename_i room found
    split at active
    · cases active
    · split at active
      · cases active
      · rename_i slotName _ _
        obtain ⟨sequence, stored, same⟩ := Option.map_eq_some_iff.mp active
        cases same
        exact ⟨room, found, stored⟩

/-- A position in the active steps is selectable. -/
theorem selects_of_active {name slot : String} {steps : List ResolvedSwitchStep}
    (active : env.activeSwitchSteps name = some (slot, steps)) {index : Nat}
    {step : ResolvedSwitchStep} (here : steps[index]? = some step) :
    env.toAutomation.Selects name ⟨slot, index⟩ := by
  obtain ⟨room, found, stored⟩ := activeSwitchSteps_some active
  exact ⟨room, found, steps, stored, (List.getElem?_eq_some_iff.mp here).1⟩

theorem cycleStep_some {room : ResolvedRoom} {cycle : SwitchCycle} {step : ResolvedSwitchStep}
    (pointed : env.cycleStep room cycle = some step) :
    ∃ steps, (env.roomSwitchSteps room)[cycle.slot]? = some steps ∧ step ∈ steps := by
  obtain ⟨steps, sequence, at'⟩ := Option.bind_eq_some_iff.mp pointed
  exact ⟨steps, sequence, List.mem_of_getElem? at'⟩

/-- The lights a step back turns off are selected by a step. -/
theorem switchStepDownDelta_selected {world : WorldState} {steps : List ResolvedSwitchStep}
    {index : Nat} {removed : List LightEndpoint}
    (delta : env.switchStepDownDelta world steps index = some removed) {light : LightEndpoint}
    (member : light ∈ removed) : ∃ step ∈ steps, light ∈ step.lights := by
  unfold switchStepDownDelta at delta
  split at delta
  · rename_i current previous here _
    dsimp only at delta
    split at delta
    · split at delta
      · cases delta
        exact ⟨current, List.mem_of_getElem? here, (List.mem_filter.mp member).1⟩
      · cases delta
    · cases delta
  · cases delta

/-! ## Group commands -/

section Parts

variable {start world : WorldState} {hit : DeviceIdx → Prop} {written : String → Prop}

/-- The world so far was reached by manual writes. -/
abbrev SoFar (env : Env) (start : WorldState) (hit : DeviceIdx → Prop) (written : String → Prop)
    (world : WorldState) : Prop :=
  Touches (env.manualMoves start hit written) start world

theorem SoFar.resolveLightOwner (soFar : env.SoFar start hit written world) (device : DeviceIdx)
    (default : Owner) :
    env.resolveLightOwner world device default = env.resolveLightOwner start device default := by
  unfold Env.resolveLightOwner
  rw [lightHasOffOnlyClaim_congr soFar.motionSensors (soFar.ruleAt_eq fun _ _ _ => not_false)]

theorem commandLight_soFar (soFar : env.SoFar start hit written world) {endpoint : LightEndpoint}
    (known : endpoint.device < env.topology.devices.length) (reached : hit endpoint.device)
    (value : LightTarget) {default : Owner} (manual : default ≠ .motion) (ts : Instant) :
    env.SoFar start hit written
      (world.modifyLight (env.lightName endpoint) fun light =>
        light.command value (env.resolveLightOwner world endpoint.device default) ts) := by
  refine soFar.modifyLight ?_
  rw [soFar.resolveLightOwner]
  exact ManualLight.command endpoint.device known rfl reached value default manual ts

theorem recordLightCommand_soFar (soFar : env.SoFar start hit written world)
    {endpoint : LightEndpoint} (known : endpoint.device < env.topology.devices.length)
    (reached : hit endpoint.device) (value : LightTarget) (owner : Owner) (ts : Instant) :
    env.SoFar start hit written (env.recordLightCommand value owner ts world endpoint) := by
  refine commandLight_soFar soFar known reached value ?_ ts
  split
  · decide
  · assumption

theorem recordGroupLightCommand_soFar (soFar : env.SoFar start hit written world) {name : String}
    (own : written name)
    (reached : ∀ room, env.topology.roomByName name = some room →
      ∀ light ∈ room.lightMembers, hit light.device)
    (value : LightTarget) (owner : Owner) (ts : Instant) :
    env.SoFar start hit written (env.recordGroupLightCommand name value owner ts world) := by
  unfold recordGroupLightCommand
  split
  · exact soFar
  · rename_i room found
    refine Touches.foldl _ ?_ fun middle light member soFar =>
      recordLightCommand_soFar soFar (member_known found member)
        (reached room found light member) value owner ts
    exact soFar.modifyZone ⟨own, .of_none rfl id⟩

/-- Recording a group command forgets the cycle of its zone. -/
theorem switchCycle_recordGroupLightCommand {name : String} {room : ResolvedRoom}
    (found : env.topology.roomByName name = some room) (value : LightTarget) (owner : Owner)
    (ts : Instant) (world : WorldState) :
    ((env.recordGroupLightCommand name value owner ts world).zoneAt name).switchCycle = none := by
  unfold recordGroupLightCommand
  rw [found]
  have zones : ∀ state light,
      (env.recordLightCommand value owner ts state light).lightZones = state.lightZones :=
    fun _ _ => rfl
  unfold zoneAt
  dsimp only
  rw [Emission.foldl_frame WorldState.lightZones _ zones]
  simp [WorldState.modifyZone]

theorem writeAfterOn_soFar (soFar : env.SoFar start hit written world) {name : String}
    (own : written name)
    (reached : ∀ room, env.topology.roomByName name = some room →
      ∀ light ∈ room.lightMembers, hit light.device)
    (ts : Instant) (cycleIdx sceneId : Nat) (owner : Owner) :
    env.SoFar start hit written (env.writeAfterOn name ts cycleIdx sceneId owner world) := by
  unfold writeAfterOn
  split
  · exact soFar
  · exact (recordGroupLightCommand_soFar soFar own reached _ owner ts).modifyZone
      ⟨own, .of_on rfl (.inl rfl) (by simp [LightZoneEntity.command])⟩

theorem writeAfterOff_soFar (soFar : env.SoFar start hit written world) {name : String}
    (own : written name) {room : ResolvedRoom} (found : env.topology.roomByName name = some room)
    (reached : ∀ light ∈ room.lightMembers, hit light.device) (ts : Instant) (owner : Owner) :
    env.SoFar start hit written (env.writeAfterOff name ts owner world) := by
  have members : ∀ other, env.topology.roomByName name = some other →
      ∀ light ∈ other.lightMembers, hit light.device := by
    intro other same
    rw [found] at same
    cases same
    exact reached
  refine (recordGroupLightCommand_soFar soFar own members .off owner ts).modifyZone
    ⟨own, .of_none (switchCycle_recordGroupLightCommand found _ _ _ _) ?_⟩
  simp [LightZoneEntity.command]

theorem propagateToDescendants_soFar (soFar : env.SoFar start hit written world)
    {ancestor : String} (descendants : ∀ name, env.Writes ancestor name → written name)
    (on : Bool) (ts : Instant) :
    env.SoFar start hit written (env.propagateToDescendants ancestor on ts world) := by
  unfold propagateToDescendants
  split
  · exact soFar
  · rename_i idx position
    refine Touches.foldl _ soFar fun middle child member soFar => ?_
    unfold propagateTo
    split
    · exact soFar
    · rename_i room found
      refine soFar.modifyZone
        ⟨descendants _ (.inr ⟨idx, position, child, member, room, found, rfl⟩), ?_⟩
      unfold inheritState
      split
      · exact .of_none rfl (by simp [LightZoneEntity.command])
      · exact .of_none rfl (by simp [LightZoneEntity.command])

end Parts

/-- A message to a room's group reaches its members. -/
theorem addresses_group {name : String} {idx : RoomIdx} {payload : Payload} {room : ResolvedRoom}
    (position : env.topology.roomIdx name = some idx)
    (found : env.topology.roomByName name = some room) {light : LightEndpoint}
    (member : light ∈ room.lightMembers) :
    Addresses env.topology [.publishGroupSet idx payload] light.device := by
  obtain ⟨other, same, here⟩ := TopologyTables.roomByName_eq_some_iff.mp found
  rw [position] at same
  cases same
  exact ⟨_, List.mem_singleton_self _, room, here, light, member, rfl⟩

theorem writes_self (name : String) : env.Writes name name := .inl rfl

theorem addressed_of_found {name : String} {idx : RoomIdx} {payload : Payload}
    (position : env.topology.roomIdx name = some idx) (room : ResolvedRoom)
    (found : env.topology.roomByName name = some room) (light : LightEndpoint)
    (member : light ∈ room.lightMembers) :
    Addresses env.topology [.publishGroupSet idx payload] light.device :=
  addresses_group position found member

theorem publishOff_manual {name : String} {idx : RoomIdx} {room : ResolvedRoom}
    (position : env.topology.roomIdx name = some idx)
    (found : env.topology.roomByName name = some room) (offTransition : ℚ) (ts : Instant)
    (owner : Owner) (world : WorldState) :
    env.Manual name world (env.publishOff name idx offTransition ts owner world) := by
  refine propagateToDescendants_soFar ?_ (fun _ writes => writes) false ts
  exact writeAfterOff_soFar (Touches.refl world) (writes_self name) found
    (addressed_of_found position room found) ts owner

theorem executeTurnOffRoom_manual (name : String) (ts : Instant) (world : WorldState) :
    env.Manual name world (env.executeTurnOffRoom name ts world) := by
  unfold executeTurnOffRoom
  split
  · rename_i idx room position found
    exact publishOff_manual position found _ ts _ world
  · exact Touches.refl world

theorem recallScene_manual {name : String} {idx : RoomIdx}
    (position : env.topology.roomIdx name = some idx) (ts : Instant) (cycleIdx sceneId : Nat)
    (world : WorldState) :
    env.Manual name world (env.recallScene name idx ts cycleIdx sceneId world) := by
  refine propagateToDescendants_soFar ?_ (fun _ writes => writes) true ts
  exact writeAfterOn_soFar (Touches.refl world) (writes_self name) (addressed_of_found position)
    ts cycleIdx sceneId _

theorem executeGroupSceneCycle_manual (name : String) (ts : Instant) (world : WorldState) :
    env.Manual name world (env.executeGroupSceneCycle name ts world) := by
  unfold executeGroupSceneCycle
  split
  · exact Touches.refl world
  · exact Touches.refl world
  · rename_i idx first rest position _
    refine propagateToDescendants_soFar ?_ (fun _ writes => writes) true ts
    exact (writeAfterOn_soFar (Touches.refl world) (writes_self name)
      (addressed_of_found position) ts _ _ _).modifyZone ⟨writes_self name, .of_none rfl id⟩

theorem takeOverGroupBrightness_soFar {name : String} {world : WorldState}
    {hit : DeviceIdx → Prop}
    (reached : ∀ room, env.topology.roomByName name = some room →
      ∀ light ∈ room.lightMembers, hit light.device) (ts : Instant) :
    env.SoFar world hit (env.Writes name) (env.takeOverGroupBrightness name ts world) := by
  unfold takeOverGroupBrightness
  split
  · exact Touches.refl world
  · rename_i room found
    refine Touches.modifyZone ?_
      ⟨writes_self name, LightZoneEntity.keeps_reassignOwner _ _ ts⟩
    refine Touches.foldl _ (Touches.refl world) fun middle light member soFar => ?_
    have reached := reached room found light member
    refine soFar.modifyLight ?_
    rw [SoFar.resolveLightOwner soFar]
    split
    · exact ManualLight.command light.device (member_known found member) rfl reached _ .user
        (by decide) ts
    · exact ManualLight.reassign light.device (member_known found member) rfl reached .user
        (by decide) ts

/-! ## Switch steps -/

theorem addresses_light {light : LightEndpoint} {lights : List LightEndpoint}
    {message : LightEndpoint → Effect}
    (toLight : ∀ light, ∃ payload, message light = .publishLightSet light payload)
    (member : light ∈ lights) :
    Addresses env.topology (lights.map message) light.device := by
  obtain ⟨payload, same⟩ := toLight light
  exact ⟨_, List.mem_map.mpr ⟨light, member, rfl⟩, by rw [same]; rfl⟩

theorem applySwitchStep_manual {name : String} {room : ResolvedRoom}
    (found : env.topology.roomByName name = some room) {slot : String} (step : ResolvedSwitchStep)
    {index : Nat} (selects : env.toAutomation.Selects name ⟨slot, index⟩) (ts : Instant)
    (world : WorldState) :
    env.Manual name world (env.applySwitchStep name room slot step index ts world) := by
  unfold applySwitchStep
  refine Touches.modifyZone ?_ ⟨writes_self name, .of_on rfl (.inr ⟨_, selects, rfl⟩) ?_⟩
  rotate_left
  · simp [LightZoneEntity.command]
  refine Touches.foldl _ (Touches.refl world) fun middle light member soFar => ?_
  exact commandLight_soFar soFar (member_known found member)
    (addresses_light (fun light => ⟨_, rfl⟩) member) _ (by decide) ts

theorem executeSwitchSteps_manual {name : String} {action : SwitchAction} {ts : Instant}
    {world : WorldState} {result : WorldState × List Effect}
    (handled : env.executeSwitchSteps name action ts world = some result) :
    env.Manual name world result := by
  unfold executeSwitchSteps at handled
  split at handled
  · cases handled
  · rename_i slot steps active
    dsimp only at handled
    split at handled
    · cases handled
      exact executeTurnOffRoom_manual name ts world
    · split at handled
      · rename_i step room here found
        cases handled
        exact applySwitchStep_manual found step (selects_of_active active here) ts world
      · cases handled
        exact Touches.refl world

theorem keeps_stepDownZone {selectable : SwitchCycle → Prop} {slot : String}
    (previous : ResolvedSwitchStep) {candidate : Nat} (selects : selectable ⟨slot, candidate - 1⟩)
    (followsCursor : Bool) (owner : Owner) (ts : Instant) (zone : LightZoneEntity) :
    LightZoneEntity.Keeps selectable zone
      (stepDownZone slot previous candidate followsCursor owner ts zone) := by
  unfold stepDownZone
  split
  · exact .of_on rfl (.inr ⟨_, selects, rfl⟩) (by simp [LightZoneEntity.command])
  · split
    · exact .of_none rfl (by simp [LightZoneEntity.reassignOwner])
    · exact .of_none rfl (by simp)

theorem executeSceneStepDown_manual (name : String) (ts : Instant) (world : WorldState) :
    env.Manual name world (env.executeSceneStepDown name ts world) := by
  unfold executeSceneStepDown
  split
  · exact executeTurnOffRoom_manual name ts world
  · rename_i slot steps active
    obtain ⟨own, found, sequence⟩ := activeSwitchSteps_some active
    dsimp only
    split
    · exact executeTurnOffRoom_manual name ts world
    · split
      · exact executeTurnOffRoom_manual name ts world
      · split
        · rename_i previous removed known here delta
          refine Touches.modifyZone ?_ ⟨writes_self name,
            keeps_stepDownZone previous (selects_of_active active here) _ _ ts _⟩
          refine Touches.foldl _ (Touches.refl world) fun middle light member soFar => ?_
          obtain ⟨step, listed, selected⟩ := switchStepDownDelta_selected delta member
          exact commandLight_soFar soFar
            (member_known found (step_light_member found sequence listed selected))
            (addresses_light (fun light => ⟨_, rfl⟩) member) .off (by decide) ts
        · exact Touches.refl world

theorem executeSwitchBrightness_manual {name : String} {payload : Payload} {ts : Instant}
    {world : WorldState} {result : WorldState × List Effect}
    (handled : env.executeSwitchBrightness name payload ts world = some result) :
    env.Manual name world result := by
  unfold executeSwitchBrightness at handled
  split at handled
  · cases handled
  · split at handled
    · cases handled
      exact Touches.refl world
    · rename_i step pointed
      obtain ⟨room, found, pointed⟩ := Option.bind_eq_some_iff.mp pointed
      obtain ⟨steps, sequence, listed⟩ := cycleStep_some pointed
      cases handled
      refine Touches.modifyZone ?_
        ⟨writes_self name, LightZoneEntity.keeps_reassignOwner _ _ ts⟩
      refine Touches.foldl _ (Touches.refl world) fun middle light member soFar => ?_
      exact commandLight_soFar soFar
        (member_known found (step_light_member found sequence listed member))
        (addresses_light (fun light => ⟨_, rfl⟩) member) _ (by decide) ts

/-! ## Room commands -/

theorem executeSceneCycle_manual (name : String) (ts : Instant) (world : WorldState) :
    env.Manual name world (env.executeSceneCycle name ts world) := by
  unfold executeSceneCycle
  split
  · rename_i result handled
    exact executeSwitchSteps_manual handled
  · exact executeGroupSceneCycle_manual name ts world

theorem executeSceneToggle_manual (name : String) (ts : Instant) (world : WorldState) :
    env.Manual name world (env.executeSceneToggle name ts world) := by
  unfold executeSceneToggle
  split
  · rename_i result handled
    exact executeSwitchSteps_manual handled
  · split
    · rename_i idx room first rest position found _
      split
      · exact recallScene_manual position ts _ _ world
      · exact publishOff_manual position found _ ts _ world
    · exact Touches.refl world

theorem executeSceneToggleCycle_manual (name : String) (ts : Instant) (world : WorldState) :
    env.Manual name world (env.executeSceneToggleCycle name ts world) := by
  unfold executeSceneToggleCycle
  split
  · rename_i result handled
    exact executeSwitchSteps_manual handled
  · split
    · rename_i idx room first rest position found _
      dsimp only
      split
      · exact recallScene_manual position ts _ _ world
      · split
        · exact recallScene_manual position ts _ _ world
        · exact publishOff_manual position found _ ts _ world
    · exact Touches.refl world

theorem executeBrightness_manual (name : String) (payload : Payload) (ts : Instant)
    (world : WorldState) : env.Manual name world (env.executeBrightness name payload ts world) := by
  unfold executeBrightness
  split
  · rename_i result handled
    exact executeSwitchBrightness_manual handled
  · split
    · exact Touches.refl world
    · rename_i idx position
      exact takeOverGroupBrightness_soFar (addressed_of_found position) ts

theorem webRecallScene_manual (name : String) (sceneId : Nat) (ts : Instant)
    (world : WorldState) : env.Manual name world (env.webRecallScene name sceneId ts world) := by
  unfold webRecallScene
  split
  · rename_i idx room position found
    split
    · exact Touches.refl world
    · refine propagateToDescendants_soFar ?_ (fun _ writes => writes) true ts
      refine recordGroupLightCommand_soFar ?_ (writes_self name) (addressed_of_found position)
        _ _ ts
      exact (Touches.refl world).modifyZone
        ⟨writes_self name, .of_on rfl (.inl rfl) (by simp [LightZoneEntity.command])⟩
  · exact Touches.refl world

theorem webSetRoomOff_manual (name : String) (ts : Instant) (world : WorldState) :
    env.Manual name world (env.webSetRoomOff name ts world) := by
  unfold webSetRoomOff
  split
  · rename_i idx room position found
    exact publishOff_manual position found _ ts _ world
  · exact Touches.refl world

end Env

namespace Env

variable {env : Env}

/-- Every binding with a manual room command keeps to its room. -/
theorem executeEffect_manual {effect : ResolvedEffect} {room : RoomIdx}
    (about : effect.room = some room) (ruleName : String) (ts : Instant) (world : WorldState) :
    env.Manual (env.topology.roomName room) world (env.executeEffect ruleName effect ts world) := by
  cases effect with
  | sceneCycle room => cases about; exact executeSceneCycle_manual _ _ _
  | groupSceneCycle room => cases about; exact executeGroupSceneCycle_manual _ _ _
  | sceneStepDown room => cases about; exact executeSceneStepDown_manual _ _ _
  | sceneToggle room => cases about; exact executeSceneToggle_manual _ _ _
  | sceneToggleCycle room => cases about; exact executeSceneToggleCycle_manual _ _ _
  | turnOffRoom room => cases about; exact executeTurnOffRoom_manual _ _ _
  | brightnessStep room step transition => cases about; exact executeBrightness_manual _ _ _ _
  | brightnessMove room rate => cases about; exact executeBrightness_manual _ _ _ _
  | brightnessStop room => cases about; exact executeBrightness_manual _ _ _ _
  | _ => cases about

end Env

end MqttController
