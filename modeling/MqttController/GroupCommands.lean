import MqttController.ReportChanges

/-!
# How commands reach the light model

A message to a group is mirrored into the target of every member and of the room's zone; any other
manual message at least takes the lights it reaches over from motion.
-/

namespace MqttController

open KeyedChange WorldState Emission

namespace Payload

/-- A group message tells the members of a room to be like this: off, or as a scene of the room with
the recalled id says. -/
def commandsLight (room : ResolvedRoom) : Payload → LightTarget → Prop
  | stateOff _ _, target => target = .off
  | sceneRecall id, target => ∃ scene ∈ room.scenes.scenes, scene.id = id ∧
      target = .on scene.brightness scene.colorTemp
  | _, _ => False

/-- A zone target shows what a group message tells the room. -/
def commandsZone : Payload → LightZoneTarget → Prop
  | stateOff _ _, target => target = .off
  | sceneRecall id, .on sceneId _ => sceneId = id
  | _, _ => False

/-- A message that only changes the brightness. -/
def IsBrightness : Payload → Prop
  | brightnessStep _ _ => True
  | brightnessMove _ => True
  | _ => False

theorem commandsLight_sceneRecall {room : ResolvedRoom} {id : Nat} {scene : Scene}
    (found : room.scenes.sceneById id = some scene) :
    (sceneRecall id).commandsLight room (.on scene.brightness scene.colorTemp) :=
  ⟨scene, List.mem_of_find?_eq_some found, by simpa using List.find?_some found, rfl⟩

end Payload

namespace Env

variable {env : Env}

/-- Motion owns a light only where an off-only claim says so. -/
def TakenOver (env : Env) (start : WorldState) (device : DeviceIdx) (light : LightEntity) : Prop :=
  light.target.owner = some .motion → env.lightHasOffOnlyClaim start device

/-- The members of a room and its zone were told what a group message says. -/
structure Mirrors (env : Env) (start : WorldState) (room : ResolvedRoom) (payload : Payload)
    (ts : Instant) (after : WorldState) : Prop where
  lights : ∀ light ∈ room.lightMembers, ∃ value owner,
    payload.commandsLight room value ∧
      (after.lightAt (env.lightName light)).target = .held value .commanded owner ts ∧
      (owner = .motion → env.lightHasOffOnlyClaim start light.device)
  zone : ∃ target, (after.zoneAt room.name).target.value = some target ∧
    payload.commandsZone target

/-- What a manual command published, and what it did to the lights it reaches. -/
inductive Outcome (env : Env) (start : WorldState) (ts : Instant) : WorldState × List Effect → Prop
  /-- One OFF or scene message to a group. -/
  | group {after : WorldState} (idx : RoomIdx) (room : ResolvedRoom) (payload : Payload)
      (found : env.topology.room idx = some room)
      (mirrors : Mirrors env start room payload ts after) :
      Outcome env start ts (after, [.publishGroupSet idx payload])
  /-- One brightness message to a group. -/
  | brightness {after : WorldState} (idx : RoomIdx) (room : ResolvedRoom) (payload : Payload)
      (found : env.topology.room idx = some room)
      (brightness : payload.IsBrightness)
      (taken : ∀ light ∈ room.lightMembers,
        env.TakenOver start light.device (after.lightAt (env.lightName light))) :
      Outcome env start ts (after, [.publishGroupSet idx payload])
  /-- Messages to single lights, or none. -/
  | lights {after : WorldState} (effects : List Effect)
      (single : ∀ effect ∈ effects, ∃ light payload, effect = .publishLightSet light payload ∧
        light.device < env.topology.devices.length ∧
        env.TakenOver start light.device (after.lightAt (env.lightName light))) :
      Outcome env start ts (after, effects)

theorem Outcome.silent {start : WorldState} {ts : Instant} (after : WorldState) :
    Outcome env start ts (after, []) := .lights [] (by simp)

/-! ## Taking over -/

theorem takenOver_command {start : WorldState} {device : DeviceIdx} {default : Owner}
    (manual : default ≠ .motion) (value : LightTarget) (ts : Instant) (light : LightEntity) :
    env.TakenOver start device
      (light.command value (env.resolveLightOwner start device default) ts) := by
  intro owned
  have owner : env.resolveLightOwner start device default = .motion := by
    simpa [LightEntity.command] using owned
  unfold resolveLightOwner at owner
  split at owner
  · assumption
  · exact absurd owner manual

theorem takenOver_reassign {start : WorldState} {device : DeviceIdx} {default : Owner}
    (manual : default ≠ .motion) (ts : Instant) (light : LightEntity) :
    env.TakenOver start device
      (light.reassignOwner (env.resolveLightOwner start device default) ts) := by
  intro owned
  unfold LightEntity.reassignOwner at owned
  rw [TassTarget.owner_reassignOwner] at owned
  obtain ⟨_, _, owner⟩ := Option.map_eq_some_iff.mp owned
  unfold resolveLightOwner at owner
  split at owner
  · assumption
  · exact absurd owner manual

/-- Every manual step of a light takes it over. -/
theorem ManualLight.takenOver {start : WorldState} {hit : DeviceIdx → Prop} {device : DeviceIdx}
    (known : device < env.topology.devices.length) {before after : LightEntity}
    (manual : env.ManualLight start hit (env.topology.deviceName device) before after) :
    env.TakenOver start device after := by
  cases manual with
  | command other otherKnown named reached value default manual ts =>
      rw [← TopologyTables.deviceName_inj env.topology.valid otherKnown known named]
      exact takenOver_command manual value ts before
  | reassign other otherKnown named reached default manual ts =>
      rw [← TopologyTables.deviceName_inj env.topology.valid otherKnown known named]
      exact takenOver_reassign manual ts before

/-! ## Writing every member -/

/-- The world so far was reached by manual writes of any lights and zones. -/
abbrev Free (env : Env) (start world : WorldState) : Prop :=
  env.SoFar start (fun _ => True) (fun _ => True) world

section Members

variable {start world : WorldState}

/-- Write one light with the owner that off-only claims decide. -/
def writeLight (env : Env) (default : Owner)
    (write : LightEndpoint → Owner → LightEntity → LightEntity) (world : WorldState)
    (endpoint : LightEndpoint) : WorldState :=
  world.modifyLight (env.lightName endpoint)
    (write endpoint (env.resolveLightOwner world endpoint.device default))

/-- Lights that are written one after the other are taken over. -/
theorem writeLights_takenOver (write : LightEndpoint → Owner → LightEntity → LightEntity)
    (ts : Instant) {default : Owner} (manual : default ≠ .motion)
    (writes : ∀ endpoint owner light,
      (∃ value, write endpoint owner light = light.command value owner ts) ∨
        write endpoint owner light = light.reassignOwner owner ts)
    {lights : List LightEndpoint}
    (known : ∀ light ∈ lights, light.device < env.topology.devices.length)
    (free : env.Free start world) :
    ∀ light ∈ lights, env.TakenOver start light.device
      ((lights.foldl (env.writeLight default write) world).lightAt (env.lightName light)) := by
  have step : ∀ world, ∀ endpoint ∈ lights, env.Free start world →
      env.ManualLight start (fun _ => True) (env.lightName endpoint)
        (world.lightAt (env.lightName endpoint))
        (write endpoint (env.resolveLightOwner world endpoint.device default)
          (world.lightAt (env.lightName endpoint))) := by
    intro world endpoint member soFar
    rw [soFar.resolveLightOwner]
    rcases writes endpoint (env.resolveLightOwner start endpoint.device default)
      (world.lightAt (env.lightName endpoint)) with ⟨value, same⟩ | same
    · rw [same]
      exact .command endpoint.device (known endpoint member) rfl trivial value default manual ts
    · rw [same]
      exact .reassign endpoint.device (known endpoint member) rfl trivial default manual ts
  refine foldl_establishes (env.Free start) (fun light (world : WorldState) =>
    env.TakenOver start light.device (world.lightAt (env.lightName light))) ?_ ?_ ?_ free
  · exact fun world endpoint member soFar => soFar.modifyLight (step world endpoint member soFar)
  · intro world endpoint member soFar
    unfold writeLight
    rw [lightAt_modifyLight, if_pos rfl]
    exact (step world endpoint member soFar).takenOver (known endpoint member)
  · intro world endpoint member other otherMember soFar taken
    unfold writeLight
    rw [lightAt_modifyLight]
    split
    · rename_i named
      have written := step world endpoint member soFar
      rw [named] at written ⊢
      exact written.takenOver (known other otherMember)
    · exact taken

/-- Recording a group command tells every member. -/
theorem recordGroupLightCommand_mirrored (free : env.Free start world) {name : String}
    {room : ResolvedRoom} (found : env.topology.roomByName name = some room) (value : LightTarget)
    (owner : Owner) (ts : Instant) {light : LightEndpoint} (member : light ∈ room.lightMembers) :
    ∃ given, ((env.recordGroupLightCommand name value owner ts world).lightAt
        (env.lightName light)).target = .held value .commanded given ts ∧
      (given = .motion → env.lightHasOffOnlyClaim start light.device) := by
  have manual : (if owner = .motion then Owner.user else owner) ≠ .motion := by
    split
    · decide
    · assumption
  have forgotten : env.Free start (world.modifyZone name fun zone =>
      { zone with switchCycle := none }) :=
    free.modifyZone ⟨trivial, .of_none rfl id⟩
  have told : ∀ endpoint ∈ room.lightMembers, ∃ given,
      ((room.lightMembers.foldl (env.recordLightCommand value owner ts)
        (world.modifyZone name fun zone => { zone with switchCycle := none })).lightAt
          (env.lightName endpoint)).target = .held value .commanded given ts := by
    refine foldl_establishes (fun _ => True) (fun endpoint (world : WorldState) => ∃ given,
      (world.lightAt (env.lightName endpoint)).target = .held value .commanded given ts)
      (fun _ _ _ _ => trivial) ?_ ?_ trivial
    · intro middle endpoint _ _
      refine ⟨env.resolveLightOwner middle endpoint.device
        (if owner = .motion then .user else owner), ?_⟩
      unfold recordLightCommand
      rw [lightAt_modifyLight, if_pos rfl]
      rfl
    · rintro middle endpoint _ other _ _ ⟨given, held⟩
      unfold recordLightCommand
      rw [lightAt_modifyLight]
      split
      · exact ⟨_, rfl⟩
      · exact ⟨given, held⟩
  have taken := writeLights_takenOver (fun _ owner light => light.command value owner ts) ts manual
    (fun _ _ _ => .inl ⟨value, rfl⟩) (fun endpoint inside => member_known found inside) forgotten
    light member
  unfold recordGroupLightCommand
  rw [found]
  obtain ⟨given, held⟩ := told light member
  refine ⟨given, held, fun motion => taken ?_⟩
  refine (congrArg TassTarget.owner held).trans ?_
  rw [motion]
  rfl

/-- Recording a group command keeps the targets of zones. -/
theorem recordGroupLightCommand_target (name : String) (value : LightTarget) (owner : Owner)
    (ts : Instant) (world : WorldState) (other : String) :
    ((env.recordGroupLightCommand name value owner ts world).zoneAt other).target =
      (world.zoneAt other).target := by
  unfold recordGroupLightCommand
  split
  · rfl
  · rename_i room _
    have zones : (room.lightMembers.foldl (env.recordLightCommand value owner ts)
        (world.modifyZone name fun zone => { zone with switchCycle := none })).lightZones =
        (world.modifyZone name fun zone => { zone with switchCycle := none }).lightZones :=
      foldl_frame WorldState.lightZones (env.recordLightCommand value owner ts)
        (fun _ _ => rfl) _ _
    have same : ((world.modifyZone name fun zone =>
        { zone with switchCycle := none }).zoneAt other).target = (world.zoneAt other).target := by
      rw [zoneAt_modifyZone]
      split
      · rename_i named
        rw [named]
      · rfl
    unfold zoneAt at same ⊢
    rw [zones]
    exact same

end Members

/-! ## Zones of descendants -/

theorem propagateToDescendants_lights (ancestor : String) (on : Bool) (ts : Instant)
    (world : WorldState) :
    (env.propagateToDescendants ancestor on ts world).lights = world.lights := by
  have child : ∀ state idx, (env.propagateTo on ts state idx).lights = state.lights := by
    intro state idx
    unfold propagateTo
    split
    · rfl
    · rfl
  unfold propagateToDescendants
  split
  · rfl
  · exact foldl_frame WorldState.lights (env.propagateTo on ts) child _ _

/-- A room is not among its descendants. -/
theorem propagateToDescendants_zoneAt {idx : RoomIdx} {room : ResolvedRoom}
    (found : env.topology.room idx = some room) (on : Bool) (ts : Instant) (world : WorldState) :
    (env.propagateToDescendants room.name on ts world).zoneAt room.name =
      world.zoneAt room.name := by
  unfold propagateToDescendants
  rw [TopologyTables.roomIdx_of_room env.topology.valid found]
  dsimp only
  have others : ∀ children : List RoomIdx, (∀ child ∈ children, child ≠ idx) →
      ∀ world : WorldState, (children.foldl (env.propagateTo on ts) world).zoneAt room.name =
        world.zoneAt room.name := by
    intro children
    induction children with
    | nil => exact fun _ _ => rfl
    | cons child rest ih =>
        intro apart world
        rw [List.foldl_cons, ih fun other member => apart other (List.mem_cons_of_mem _ member)]
        unfold propagateTo
        split
        · rfl
        · rename_i childRoom here
          rw [zoneAt_modifyZone, if_neg]
          intro same
          exact apart child List.mem_cons_self
            (TopologyTables.eq_of_roomName_eq env.topology.valid here found same)
  refine others _ ?_ world
  rintro child member rfl
  exact env.topology.valid.descendants_irrefl child member

/-! ## Group messages -/

section Groups

variable {name : String} {idx : RoomIdx} {room : ResolvedRoom}

theorem room_of_found (position : env.topology.roomIdx name = some idx)
    (found : env.topology.roomByName name = some room) :
    env.topology.room idx = some room ∧ room.name = name := by
  obtain ⟨other, same, here⟩ := TopologyTables.roomByName_eq_some_iff.mp found
  rw [position] at same
  cases same
  exact ⟨here, (TopologyTables.mem_rooms_of_roomByName found).2⟩

theorem publishOff_outcome (position : env.topology.roomIdx name = some idx)
    (found : env.topology.roomByName name = some room) (offTransition : ℚ) (ts : Instant)
    (owner : Owner) (world : WorldState) :
    Outcome env world ts (env.publishOff name idx offTransition ts owner world) := by
  obtain ⟨here, rfl⟩ := room_of_found position found
  refine .group idx room (.off offTransition) here ⟨fun light member => ?_, .off, ?_, rfl⟩
  · obtain ⟨given, held, claimed⟩ := recordGroupLightCommand_mirrored
      (Touches.refl world) found .off owner ts member
    refine ⟨.off, given, rfl, ?_, claimed⟩
    unfold lightAt
    rw [propagateToDescendants_lights]
    exact held
  · rw [propagateToDescendants_zoneAt here]
    unfold writeAfterOff
    rw [zoneAt_modifyZone, if_pos rfl]
    rfl

theorem executeTurnOffRoom_outcome (name : String) (ts : Instant) (world : WorldState) :
    Outcome env world ts (env.executeTurnOffRoom name ts world) := by
  unfold executeTurnOffRoom
  split
  · rename_i idx room position found
    exact publishOff_outcome position found _ ts _ world
  · exact Outcome.silent world

/-- What turning a group on with one of the room's scenes records. -/
theorem writeAfterOn_mirrors {start world : WorldState} (free : env.Free start world)
    (here : env.topology.room idx = some room) {sceneId : Nat}
    (known : ∃ scene ∈ room.scenes.scenes, scene.id = sceneId) (ts : Instant) (cycleIdx : Nat)
    (owner : Owner) :
    Mirrors env start room (.sceneRecall sceneId) ts
      (env.writeAfterOn room.name ts cycleIdx sceneId owner world) := by
  have found := TopologyTables.roomByName_of_room env.topology.valid here
  obtain ⟨scene, sceneFound⟩ : ∃ scene, room.scenes.sceneById sceneId = some scene := by
    rw [← Option.isSome_iff_exists]
    unfold SceneSchedule.sceneById
    rw [List.find?_isSome]
    obtain ⟨scene, listed, same⟩ := known
    exact ⟨scene, listed, by simpa using same⟩
  unfold writeAfterOn
  rw [found, Option.bind_some, sceneFound]
  refine ⟨fun light member => ?_, .on sceneId cycleIdx, ?_, rfl⟩
  · obtain ⟨given, held, claimed⟩ := recordGroupLightCommand_mirrored free found
      (.on scene.brightness scene.colorTemp) owner ts member
    exact ⟨_, given, Payload.commandsLight_sceneRecall sceneFound, held, claimed⟩
  · dsimp only
    rw [zoneAt_modifyZone, if_pos rfl]
    rfl

/-- Propagation and forgetting the cycle keep what a message was mirrored into. -/
theorem Mirrors.propagate {start world : WorldState} {payload : Payload} {ts : Instant}
    (mirrors : Mirrors env start room payload ts world)
    (here : env.topology.room idx = some room) (on : Bool) :
    Mirrors env start room payload ts (env.propagateToDescendants room.name on ts world) := by
  refine ⟨fun light member => ?_, ?_⟩
  · unfold lightAt
    rw [propagateToDescendants_lights]
    exact mirrors.lights light member
  · rw [propagateToDescendants_zoneAt here]
    exact mirrors.zone

theorem Mirrors.forgetCycle {start world : WorldState} {payload : Payload} {ts : Instant}
    (mirrors : Mirrors env start room payload ts world) :
    Mirrors env start room payload ts
      (world.modifyZone room.name fun zone => { zone with switchCycle := none }) := by
  refine ⟨mirrors.lights, ?_⟩
  rw [zoneAt_modifyZone, if_pos rfl]
  exact mirrors.zone

theorem recallScene_outcome (position : env.topology.roomIdx name = some idx) {sceneId : Nat}
    (listed : sceneId ∈ env.scenesForRoom name) (ts : Instant) (cycleIdx : Nat)
    (world : WorldState) :
    Outcome env world ts (env.recallScene name idx ts cycleIdx sceneId world) := by
  obtain ⟨room, found, known⟩ := scenesForRoom_known listed
  obtain ⟨here, rfl⟩ := room_of_found position found
  exact .group idx room _ here
    ((writeAfterOn_mirrors (Touches.refl world) here known ts cycleIdx _).propagate here true)

theorem getD_mem {α : Type*} (first : α) (rest : List α) (index : Nat) :
    (first :: rest).getD index first ∈ first :: rest := by
  rw [List.getD_eq_getElem?_getD]
  cases stored : (first :: rest)[index]? with
  | none => exact List.mem_cons_self
  | some item => exact List.mem_of_getElem? stored

theorem executeGroupSceneCycle_outcome (name : String) (ts : Instant) (world : WorldState) :
    Outcome env world ts (env.executeGroupSceneCycle name ts world) := by
  unfold executeGroupSceneCycle
  split
  · exact Outcome.silent world
  · exact Outcome.silent world
  · rename_i idx first rest position scenes
    -- Whichever scene comes next, it is one of the room's.
    have recalls : ∀ next : Nat, Outcome env world ts
        (env.propagateToDescendants name true ts
          ((env.writeAfterOn name ts next ((first :: rest).getD next first)
            (env.resolveZoneOwner world name .user) world).modifyZone name fun zone =>
              { zone with switchCycle := none }),
          [.publishGroupSet idx (.sceneRecall ((first :: rest).getD next first))]) := by
      intro next
      have listed : (first :: rest).getD next first ∈ env.scenesForRoom name := by
        rw [scenes]
        exact getD_mem first rest next
      obtain ⟨room, found, known⟩ := scenesForRoom_known listed
      obtain ⟨here, rfl⟩ := room_of_found position found
      have mirrors := writeAfterOn_mirrors (Touches.refl world) here known ts next
        (env.resolveZoneOwner world room.name .user)
      exact .group idx room _ here (mirrors.forgetCycle.propagate here true)
    exact recalls _

theorem webRecallScene_outcome (name : String) (sceneId : Nat) (ts : Instant)
    (world : WorldState) : Outcome env world ts (env.webRecallScene name sceneId ts world) := by
  unfold webRecallScene
  split
  · rename_i idx room position found
    obtain ⟨here, rfl⟩ := room_of_found position found
    split
    · exact Outcome.silent world
    · rename_i scene sceneFound
      dsimp only
      generalize Option.getD _ 0 = cycleIdx
      have targeted : env.Free world (world.modifyZone room.name fun zone =>
          { zone.command (.on sceneId cycleIdx)
            (env.resolveZoneOwner world room.name .webUI) ts with
            lastPressAt := some ts }) :=
        (Touches.refl world).modifyZone
          ⟨trivial, .of_on rfl (.inl rfl) (by simp [LightZoneEntity.command])⟩
      refine .group idx room _ here (Mirrors.propagate ⟨fun light member => ?_, ?_⟩ here true)
      · obtain ⟨given, held, claimed⟩ := recordGroupLightCommand_mirrored targeted found
          (.on scene.brightness scene.colorTemp) .webUI ts member
        exact ⟨_, given, Payload.commandsLight_sceneRecall sceneFound, held, claimed⟩
      · refine ⟨.on sceneId cycleIdx, ?_, rfl⟩
        rw [recordGroupLightCommand_target]
        rw [zoneAt_modifyZone, if_pos rfl]
        rfl
  · exact Outcome.silent world

theorem webSetRoomOff_outcome (name : String) (ts : Instant) (world : WorldState) :
    Outcome env world ts (env.webSetRoomOff name ts world) := by
  unfold webSetRoomOff
  split
  · rename_i idx room position found
    exact publishOff_outcome position found _ ts _ world
  · exact Outcome.silent world

end Groups

/-! ## Brightness and switch steps -/

theorem takeOverGroupBrightness_takenOver {name : String} {room : ResolvedRoom}
    (found : env.topology.roomByName name = some room) (ts : Instant) (world : WorldState)
    {light : LightEndpoint} (member : light ∈ room.lightMembers) :
    env.TakenOver world light.device
      ((env.takeOverGroupBrightness name ts world).lightAt (env.lightName light)) := by
  unfold takeOverGroupBrightness
  rw [found]
  refine writeLights_takenOver (fun _ owner light =>
      if light.isOn then light.command (.on none none) owner ts else light.reassignOwner owner ts)
    ts (by decide : Owner.user ≠ .motion) ?_ (fun endpoint inside => member_known found inside)
    (Touches.refl world) light member
  intro endpoint owner light
  split
  · exact .inl ⟨_, rfl⟩
  · exact .inr rfl

theorem applySwitchStep_outcome {name : String} {room : ResolvedRoom}
    (found : env.topology.roomByName name = some room) (slot : String) (step : ResolvedSwitchStep)
    (index : Nat) (ts : Instant) (world : WorldState) :
    Outcome env world ts (env.applySwitchStep name room slot step index ts world) := by
  refine .lights _ fun effect member => ?_
  obtain ⟨light, inside, rfl⟩ := List.mem_map.mp member
  refine ⟨light, _, rfl, member_known found inside, ?_⟩
  exact writeLights_takenOver (fun endpoint owner light => light.command
      (if endpoint ∈ step.lights then .on step.scene.brightness step.scene.colorTemp else .off)
      owner ts) ts (by decide) (fun _ _ _ => .inl ⟨_, rfl⟩)
    (fun endpoint inside => member_known found inside) (Touches.refl world) light inside

theorem executeSwitchSteps_outcome {name : String} {action : SwitchAction} {ts : Instant}
    {world : WorldState} {result : WorldState × List Effect}
    (handled : env.executeSwitchSteps name action ts world = some result) :
    Outcome env world ts result := by
  unfold executeSwitchSteps at handled
  split at handled
  · cases handled
  · dsimp only at handled
    split at handled
    · cases handled
      exact executeTurnOffRoom_outcome name ts world
    · split at handled
      · rename_i step room _ found
        cases handled
        exact applySwitchStep_outcome found _ _ _ ts world
      · cases handled
        exact Outcome.silent world

theorem executeSceneStepDown_outcome (name : String) (ts : Instant) (world : WorldState) :
    Outcome env world ts (env.executeSceneStepDown name ts world) := by
  unfold executeSceneStepDown
  split
  · exact executeTurnOffRoom_outcome name ts world
  · rename_i slot steps active
    obtain ⟨own, found, sequence⟩ := activeSwitchSteps_some active
    dsimp only
    split
    · exact executeTurnOffRoom_outcome name ts world
    · split
      · exact executeTurnOffRoom_outcome name ts world
      · split
        · rename_i room previous removed _ _ delta
          refine .lights _ fun effect member => ?_
          obtain ⟨light, inside, rfl⟩ := List.mem_map.mp member
          have known : ∀ endpoint ∈ removed, endpoint.device < env.topology.devices.length := by
            intro endpoint turnedOff
            obtain ⟨step, listed, selected⟩ := switchStepDownDelta_selected delta turnedOff
            exact member_known found (step_light_member found sequence listed selected)
          refine ⟨light, _, rfl, known light inside, ?_⟩
          exact writeLights_takenOver (fun _ owner light => light.command .off owner ts) ts
            (by decide) (fun _ _ _ => .inl ⟨_, rfl⟩) known (Touches.refl world) light inside
        · exact Outcome.silent world

theorem executeSwitchBrightness_outcome {name : String} {payload : Payload} {ts : Instant}
    {world : WorldState} {result : WorldState × List Effect}
    (handled : env.executeSwitchBrightness name payload ts world = some result) :
    Outcome env world ts result := by
  unfold executeSwitchBrightness at handled
  split at handled
  · cases handled
  · split at handled
    · cases handled
      exact Outcome.silent world
    · rename_i step pointed
      obtain ⟨room, found, pointed⟩ := Option.bind_eq_some_iff.mp pointed
      obtain ⟨steps, sequence, listed⟩ := cycleStep_some pointed
      cases handled
      refine .lights _ fun effect member => ?_
      obtain ⟨light, inside, rfl⟩ := List.mem_map.mp member
      have known : ∀ endpoint ∈ step.lights, endpoint.device < env.topology.devices.length :=
        fun endpoint selected =>
          member_known found (step_light_member found sequence listed selected)
      refine ⟨light, _, rfl, known light inside, ?_⟩
      exact writeLights_takenOver (fun _ owner light => light.command (.on none none) owner ts) ts
        (by decide) (fun _ _ _ => .inl ⟨_, rfl⟩) known (Touches.refl world) light inside

/-! ## Room commands -/

theorem executeSceneCycle_outcome (name : String) (ts : Instant) (world : WorldState) :
    Outcome env world ts (env.executeSceneCycle name ts world) := by
  unfold executeSceneCycle
  split
  · rename_i result handled
    exact executeSwitchSteps_outcome handled
  · exact executeGroupSceneCycle_outcome name ts world

theorem executeSceneToggle_outcome (name : String) (ts : Instant) (world : WorldState) :
    Outcome env world ts (env.executeSceneToggle name ts world) := by
  unfold executeSceneToggle
  split
  · rename_i result handled
    exact executeSwitchSteps_outcome handled
  · split
    · rename_i idx room first rest position found scenes
      split
      · exact recallScene_outcome position (by rw [scenes]; exact List.mem_cons_self) ts _ world
      · exact publishOff_outcome position found _ ts _ world
    · exact Outcome.silent world

theorem executeSceneToggleCycle_outcome (name : String) (ts : Instant) (world : WorldState) :
    Outcome env world ts (env.executeSceneToggleCycle name ts world) := by
  unfold executeSceneToggleCycle
  split
  · rename_i result handled
    exact executeSwitchSteps_outcome handled
  · split
    · rename_i idx room first rest position found scenes
      dsimp only
      split
      · exact recallScene_outcome position (by rw [scenes]; exact List.mem_cons_self) ts _ world
      · split
        · exact recallScene_outcome position (by rw [scenes]; exact getD_mem first rest _)
            ts _ world
        · exact publishOff_outcome position found _ ts _ world
    · exact Outcome.silent world

theorem executeBrightness_outcome (name : String) {payload : Payload}
    (brightness : payload.IsBrightness) (ts : Instant) (world : WorldState) :
    Outcome env world ts (env.executeBrightness name payload ts world) := by
  unfold executeBrightness
  split
  · rename_i result handled
    exact executeSwitchBrightness_outcome handled
  · split
    · exact Outcome.silent world
    · rename_i idx position
      obtain ⟨room, here, named⟩ := TopologyTables.room_of_roomIdx position
      have found : env.topology.roomByName name = some room :=
        TopologyTables.roomByName_eq_some_iff.mpr ⟨idx, position, here⟩
      exact .brightness idx room payload here brightness fun light member =>
        takeOverGroupBrightness_takenOver found ts world member

/-- Every binding with a manual room command. -/
theorem executeEffect_outcome {effect : ResolvedEffect} {room : RoomIdx}
    (about : effect.room = some room) (ruleName : String) (ts : Instant) (world : WorldState) :
    Outcome env world ts (env.executeEffect ruleName effect ts world) := by
  cases effect with
  | sceneCycle room => exact executeSceneCycle_outcome _ _ _
  | groupSceneCycle room => exact executeGroupSceneCycle_outcome _ _ _
  | sceneStepDown room => exact executeSceneStepDown_outcome _ _ _
  | sceneToggle room => exact executeSceneToggle_outcome _ _ _
  | sceneToggleCycle room => exact executeSceneToggleCycle_outcome _ _ _
  | turnOffRoom room => exact executeTurnOffRoom_outcome _ _ _
  | brightnessStep room step transition =>
      have brightness : (Payload.brightnessStep step transition).IsBrightness := trivial
      exact executeBrightness_outcome _ brightness _ _
  | brightnessMove room rate =>
      have brightness : (Payload.brightnessMove rate).IsBrightness := trivial
      exact executeBrightness_outcome _ brightness _ _
  | brightnessStop room =>
      have brightness : (Payload.brightnessMove 0).IsBrightness := trivial
      exact executeBrightness_outcome _ brightness _ _
  | _ => cases about

end Env

end MqttController
