import MqttController.Frames

/-!
# Writes of lights and zones

Every operation changes lights and zones by a few kinds of writes, all with the operation's own time
stamp.  Only reports write what a light is observed to be, only an opened session takes a zone's
state over beside its switch cycle, and only a light's report follows the members of a room.
-/

namespace MqttController

open Std Relation KeyedChange

/-- What an operation that writes lights and zones is about. -/
inductive Writer
  /-- A command, a release or the passing of time. -/
  | command
  /-- A session that is opened. -/
  | session
  /-- A report of a light. -/
  | light
  /-- The state of a group. -/
  | group
  deriving DecidableEq

namespace Writer

/-- The operation reports what lights are. -/
def reports : Writer → Bool
  | light => true
  | group => true
  | _ => false

end Writer

namespace LightEntity

/-- One write of a light. -/
inductive Write (writer : Writer) (ts : Instant) (light : LightEntity) : LightEntity → Prop
  | command (value : LightTarget) (owner : Owner) :
      Write writer ts light (light.command value owner ts)
  | reassign (owner : Owner) : Write writer ts light (light.reassignOwner owner ts)
  | adopt (value : LightTarget) (owner : Owner) (free : light.target.isActionable = false) :
      Write writer ts light (light.adopt value owner ts)
  | age : Write writer ts light (light.age ts)
  | observe (reported : writer.reports) (actual : LightActual) (owner : Owner) :
      Write writer ts light (light.observe actual owner ts)

variable {writer : Writer} {ts : Instant}

/-- Finitely many writes. -/
abbrev Written (writer : Writer) (ts : Instant) : LightEntity → LightEntity → Prop :=
  ReflTransGen (Write writer ts)

theorem written_releaseMotion (light : LightEntity) :
    Written writer ts light (light.releaseMotion ts) := by
  unfold releaseMotion
  split
  · exact .single (.reassign _)
  · exact .refl

theorem written_claimOffOnly (light : LightEntity) :
    Written writer ts light (light.claimOffOnly ts) := by
  unfold claimOffOnly
  split
  · rename_i taken
    refine .single (.adopt _ _ ?_)
    rw [Bool.or_eq_true, Bool.and_eq_true] at taken
    unfold TassTarget.isActionable
    rcases taken with unset | ⟨stale, _⟩
    · rw [beq_iff_eq.mp unset]
    · rw [beq_iff_eq.mp stale]
  · split
    · exact .single (.reassign _)
    · exact .refl

end LightEntity

namespace LightZoneEntity

/-- The switch cycle is kept or forgotten. -/
def KeepsCycle (before after : LightZoneEntity) : Prop :=
  after.switchCycle = before.switchCycle ∨ after.switchCycle = none

/-- One write of a zone. -/
inductive Write (writer : Writer) (ts : Instant) (zone : LightZoneEntity) :
    LightZoneEntity → Prop
  | command {after : LightZoneEntity} (value : LightZoneTarget) (owner : Owner)
      (told : after.target = .held value .commanded owner ts) : Write writer ts zone after
  | reassign {after : LightZoneEntity} (owner : Owner)
      (told : after.target = zone.target.reassignOwner owner ts) (cycle : zone.KeepsCycle after) :
      Write writer ts zone after
  | adopt {after : LightZoneEntity} (value : LightZoneTarget) (owner : Owner)
      (free : zone.target.isActionable = false)
      (told : after.target = zone.target.adopt value owner ts) (cycle : after.switchCycle = none) :
      Write writer ts zone after
  | keep {after : LightZoneEntity} (told : after.target = zone.target)
      (cycle : zone.KeepsCycle after) : Write writer ts zone after
  | age : Write writer ts zone (zone.age ts)
  | claim (opened : writer = .session) : Write writer ts zone (zone.claimOffOnly ts)
  | follow (reported : writer = .light) (actual : LightZoneActual) (since : Instant)
      (stepConfirmed stepIsOff : Bool) (owner : Owner) :
      Write writer ts zone (zone.followLights actual since ts stepConfirmed stepIsOff owner)
  | observe (reported : writer = .group) (on : Bool) :
      Write writer ts zone (zone.observeGroup on ts)
  | confirm (reported : writer = .group) (on : Bool) :
      Write writer ts zone (zone.confirmGroupOn on ts)
  | turnOff (reported : writer = .group) (owner : Owner) :
      Write writer ts zone (zone.followOff owner ts)

variable {writer : Writer} {ts : Instant}

/-- Finitely many writes. -/
abbrev Written (writer : Writer) (ts : Instant) : LightZoneEntity → LightZoneEntity → Prop :=
  ReflTransGen (Write writer ts)

theorem written_command {zone after : LightZoneEntity} (value : LightZoneTarget) (owner : Owner)
    (told : after.target = .held value .commanded owner ts) : Written writer ts zone after :=
  .single (.command value owner told)

theorem written_reassign (zone : LightZoneEntity) (owner : Owner) :
    Written writer ts zone (zone.reassignOwner owner ts) :=
  .single (.reassign owner rfl (.inl rfl))

theorem written_forget (zone : LightZoneEntity) :
    Written writer ts zone { zone with switchCycle := none } :=
  .single (.keep rfl (.inr rfl))

theorem written_releaseMotion (zone : LightZoneEntity) :
    Written writer ts zone (zone.releaseMotion ts) := by
  unfold releaseMotion
  split
  · exact written_reassign zone _
  · exact .refl

end LightZoneEntity

namespace WorldState

/-- Lights and zones change by finitely many writes. -/
structure Written (writer : Writer) (ts : Instant) (before after : WorldState) : Prop where
  lights : ∀ name, LightEntity.Written writer ts (before.lightAt name) (after.lightAt name)
  zones : ∀ name, LightZoneEntity.Written writer ts (before.zoneAt name) (after.zoneAt name)

namespace Written

variable {writer : Writer} {ts : Instant} {before middle after : WorldState}

theorem refl (world : WorldState) : Written writer ts world world :=
  ⟨fun _ => .refl, fun _ => .refl⟩

theorem trans (first : Written writer ts before middle) (second : Written writer ts middle after) :
    Written writer ts before after :=
  ⟨fun name => (first.lights name).trans (second.lights name),
    fun name => (first.zones name).trans (second.zones name)⟩

/-- A change of other things. -/
theorem of_same (written : Written writer ts before middle) (lights : after.lights = middle.lights)
    (zones : after.lightZones = middle.lightZones) : Written writer ts before after := by
  refine ⟨fun name => ?_, fun name => ?_⟩
  · have same : after.lightAt name = middle.lightAt name := by simp only [lightAt, lights]
    rw [same]
    exact written.lights name
  · have same : after.zoneAt name = middle.zoneAt name := by simp only [zoneAt, zones]
    rw [same]
    exact written.zones name

theorem modifyLight (written : Written writer ts before middle) {name : String}
    {change : LightEntity → LightEntity}
    (taken : LightEntity.Written writer ts (middle.lightAt name) (change (middle.lightAt name))) :
    Written writer ts before (middle.modifyLight name change) := by
  refine written.trans ⟨fun key => ?_, fun _ => .refl⟩
  rw [lightAt_modifyLight]
  split
  · rename_i same
    subst same
    exact taken
  · exact .refl

theorem modifyZone (written : Written writer ts before middle) {name : String}
    {change : LightZoneEntity → LightZoneEntity}
    (taken : LightZoneEntity.Written writer ts (middle.zoneAt name) (change (middle.zoneAt name))) :
    Written writer ts before (middle.modifyZone name change) := by
  refine written.trans ⟨fun _ => .refl, fun key => ?_⟩
  rw [zoneAt_modifyZone]
  split
  · rename_i same
    subst same
    exact taken
  · exact .refl

/-- A fold of changes. -/
theorem foldl {ι : Type*} {change : WorldState → ι → WorldState} (items : List ι)
    (start : Written writer ts before middle)
    (each : ∀ world item, Written writer ts world (change world item)) :
    Written writer ts before (items.foldl change middle) := by
  induction items generalizing middle with
  | nil => exact start
  | cons item rest ih =>
      rw [List.foldl_cons]
      exact ih (start.trans (each middle item))

end Written

end WorldState

namespace Env

variable {env : Env} {writer : Writer} {ts : Instant} {start world : WorldState}

open WorldState

/-! ## Commands -/

theorem recordLightCommand_written (world : WorldState) (endpoint : LightEndpoint)
    (value : LightTarget) (owner : Owner) :
    Written writer ts world (env.recordLightCommand value owner ts world endpoint) :=
  (Written.refl world).modifyLight (.single (.command _ _))

theorem recordGroupLightCommand_written (written : Written writer ts start world) (name : String)
    (value : LightTarget) (owner : Owner) :
    Written writer ts start (env.recordGroupLightCommand name value owner ts world) := by
  unfold recordGroupLightCommand
  split
  · exact written
  · exact Written.foldl _ (written.modifyZone (LightZoneEntity.written_forget _))
      fun world light => recordLightCommand_written world light value owner

theorem writeAfterOn_written (written : Written writer ts start world) (name : String)
    (cycleIdx sceneId : Nat) (owner : Owner) :
    Written writer ts start (env.writeAfterOn name ts cycleIdx sceneId owner world) := by
  unfold writeAfterOn
  split
  · exact written
  · exact (recordGroupLightCommand_written written name _ owner).modifyZone
      (LightZoneEntity.written_command _ _ rfl)

theorem writeAfterOff_written (written : Written writer ts start world) (name : String)
    (owner : Owner) : Written writer ts start (env.writeAfterOff name ts owner world) :=
  (recordGroupLightCommand_written written name .off owner).modifyZone
    (LightZoneEntity.written_command _ _ rfl)

theorem written_inheritState (zone : LightZoneEntity) (on : Bool) (owner : Owner) :
    LightZoneEntity.Written writer ts zone (inheritState on owner ts zone) := by
  unfold inheritState
  split
  · exact LightZoneEntity.written_command _ _ rfl
  · exact LightZoneEntity.written_command _ _ rfl

theorem propagateTo_written (on : Bool) (world : WorldState) (child : RoomIdx) :
    Written writer ts world (env.propagateTo on ts world child) := by
  unfold propagateTo
  split
  · exact Written.refl world
  · exact (Written.refl world).modifyZone (written_inheritState _ on _)

theorem propagateToDescendants_written (written : Written writer ts start world)
    (ancestor : String) (on : Bool) :
    Written writer ts start (env.propagateToDescendants ancestor on ts world) := by
  unfold propagateToDescendants
  split
  · exact written
  · exact Written.foldl _ written (propagateTo_written on)

theorem publishOff_written (name : String) (idx : RoomIdx) (offTransition : ℚ) (owner : Owner)
    (world : WorldState) :
    Written writer ts world (env.publishOff name idx offTransition ts owner world).1 :=
  propagateToDescendants_written (writeAfterOff_written (Written.refl world) name owner) name false

theorem executeTurnOffRoom_written (name : String) (world : WorldState) :
    Written writer ts world (env.executeTurnOffRoom name ts world).1 := by
  unfold executeTurnOffRoom
  split
  · exact publishOff_written _ _ _ _ world
  · exact Written.refl world

theorem recallScene_written (name : String) (idx : RoomIdx) (cycleIdx sceneId : Nat)
    (world : WorldState) :
    Written writer ts world (env.recallScene name idx ts cycleIdx sceneId world).1 :=
  propagateToDescendants_written (writeAfterOn_written (Written.refl world) name _ _ _) name true

theorem executeGroupSceneCycle_written (name : String) (world : WorldState) :
    Written writer ts world (env.executeGroupSceneCycle name ts world).1 := by
  unfold executeGroupSceneCycle
  split
  · exact Written.refl world
  · exact Written.refl world
  · exact propagateToDescendants_written
      ((writeAfterOn_written (Written.refl world) name _ _ _).modifyZone
        (LightZoneEntity.written_forget _)) name true

theorem takeOverLight_written (world : WorldState) (endpoint : LightEndpoint) :
    Written writer ts world (env.takeOverLight ts world endpoint) := by
  refine (Written.refl world).modifyLight ?_
  split
  · exact .single (.command _ _)
  · exact .single (.reassign _)

theorem takeOverGroupBrightness_written (name : String) (world : WorldState) :
    Written writer ts world (env.takeOverGroupBrightness name ts world) := by
  unfold takeOverGroupBrightness
  split
  · exact Written.refl world
  · exact (Written.foldl _ (Written.refl world) takeOverLight_written).modifyZone
      (LightZoneEntity.written_reassign _ _)

/-! ## Switch steps -/

theorem applySwitchStep_written (name : String) (room : ResolvedRoom) (slot : String)
    (step : ResolvedSwitchStep) (index : Nat) (world : WorldState) :
    Written writer ts world (env.applySwitchStep name room slot step index ts world).1 := by
  have members : Written writer ts world
      (room.lightMembers.foldl (env.applyStepTo step ts) world) :=
    Written.foldl _ (Written.refl world) fun world _ =>
      (Written.refl world).modifyLight (.single (.command _ _))
  exact members.modifyZone (LightZoneEntity.written_command _ _ rfl)

theorem executeSwitchSteps_written {name : String} {action : SwitchAction} {world : WorldState}
    {result : WorldState × List Effect}
    (executed : env.executeSwitchSteps name action ts world = some result) :
    Written writer ts world result.1 := by
  unfold executeSwitchSteps at executed
  split at executed
  · cases executed
  · dsimp only at executed
    split at executed
    · cases executed
      exact executeTurnOffRoom_written name world
    · split at executed
      · cases executed
        exact applySwitchStep_written name _ _ _ _ world
      · cases executed
        exact Written.refl world

theorem written_stepDownZone (slot : String) (previous : ResolvedSwitchStep) (candidate : Nat)
    (followsCursor : Bool) (owner : Owner) (zone : LightZoneEntity)
    (free : followsCursor = false → zone.targetIsOn = false → zone.target.isActionable = false) :
    LightZoneEntity.Written writer ts zone
      (stepDownZone slot previous candidate followsCursor owner ts zone) := by
  unfold stepDownZone
  cases followsCursor with
  | true => exact LightZoneEntity.written_command _ _ rfl
  | false =>
      cases on : zone.targetIsOn with
      | true => exact .single (.reassign owner rfl (.inr rfl))
      | false => exact .single (.adopt _ owner (free rfl on) rfl rfl)

theorem zoneAt_removeLights (removed : List LightEndpoint) (world : WorldState) (name : String) :
    (removed.foldl (env.removeLight ts) world).zoneAt name = world.zoneAt name := by
  have zones : ∀ state light, (env.removeLight ts state light).lightZones = state.lightZones :=
    fun _ _ => rfl
  unfold zoneAt
  rw [Emission.foldl_frame WorldState.lightZones _ zones]

theorem executeSceneStepDown_written (name : String) (world : WorldState) :
    Written writer ts world (env.executeSceneStepDown name ts world).1 := by
  unfold executeSceneStepDown
  split
  · exact executeTurnOffRoom_written name world
  · dsimp only
    split
    · exact executeTurnOffRoom_written name world
    · rename_i candidate _
      split
      · exact executeTurnOffRoom_written name world
      · rename_i passive
        split
        · rename_i room previous removed _ _ _
          have members : Written writer ts world (removed.foldl (env.removeLight ts) world) :=
            Written.foldl _ (Written.refl world) fun world _ =>
              (Written.refl world).modifyLight (.single (.command _ _))
          refine members.modifyZone ?_
          refine written_stepDownZone _ _ _ _ _ _ fun follows off => ?_
          rw [zoneAt_removeLights] at off ⊢
          unfold zoneAt at off ⊢
          cases stored : world.lightZones[name]? with
          | none => rfl
          | some zone =>
              rw [stored, Option.getD_some] at off
              rw [Option.getD_some]
              have apart := of_decide_eq_false follows
              simp only [stored, Option.bind_some] at apart
              simpa [stored, off, apart] using passive
        · exact Written.refl world

theorem executeSwitchBrightness_written {name : String} {payload : Payload} {world : WorldState}
    {result : WorldState × List Effect}
    (executed : env.executeSwitchBrightness name payload ts world = some result) :
    Written writer ts world result.1 := by
  unfold executeSwitchBrightness at executed
  split at executed
  · cases executed
  · split at executed
    · cases executed
      exact Written.refl world
    · rename_i step _
      cases executed
      have moved : Written writer ts world (step.lights.foldl (env.moveLight ts) world) :=
        Written.foldl _ (Written.refl world) fun world _ =>
          (Written.refl world).modifyLight (.single (.command _ _))
      exact moved.modifyZone (LightZoneEntity.written_reassign _ _)

/-! ## Buttons, timers and the dashboard -/

theorem executeSceneCycle_written (name : String) (world : WorldState) :
    Written writer ts world (env.executeSceneCycle name ts world).1 := by
  unfold executeSceneCycle
  split
  · rename_i executed
    exact executeSwitchSteps_written executed
  · exact executeGroupSceneCycle_written name world

theorem executeSceneToggle_written (name : String) (world : WorldState) :
    Written writer ts world (env.executeSceneToggle name ts world).1 := by
  unfold executeSceneToggle
  split
  · rename_i executed
    exact executeSwitchSteps_written executed
  · split
    · split
      · exact recallScene_written _ _ _ _ world
      · exact publishOff_written _ _ _ _ world
    · exact Written.refl world

theorem executeSceneToggleCycle_written (name : String) (world : WorldState) :
    Written writer ts world (env.executeSceneToggleCycle name ts world).1 := by
  unfold executeSceneToggleCycle
  split
  · rename_i executed
    exact executeSwitchSteps_written executed
  · split
    · dsimp only
      split
      · exact recallScene_written _ _ _ _ world
      · split
        · exact recallScene_written _ _ _ _ world
        · exact publishOff_written _ _ _ _ world
    · exact Written.refl world

theorem executeBrightness_written (name : String) (payload : Payload) (world : WorldState) :
    Written writer ts world (env.executeBrightness name payload ts world).1 := by
  unfold executeBrightness
  split
  · rename_i executed
    exact executeSwitchBrightness_written executed
  · split
    · exact Written.refl world
    · exact takeOverGroupBrightness_written name world

theorem webRecallScene_written (name : String) (sceneId : Nat) (world : WorldState) :
    Written writer ts world (env.webRecallScene name sceneId ts world).1 := by
  unfold webRecallScene
  split
  · split
    · exact Written.refl world
    · exact propagateToDescendants_written
        (recordGroupLightCommand_written ((Written.refl world).modifyZone
          (LightZoneEntity.written_command _ _ rfl)) name _ _) name true
  · exact Written.refl world

theorem webSetRoomOff_written (name : String) (world : WorldState) :
    Written writer ts world (env.webSetRoomOff name ts world).1 := by
  unfold webSetRoomOff
  split
  · exact publishOff_written _ _ _ _ world
  · exact Written.refl world

theorem turnOffAllZones_written (world : WorldState) :
    Written writer ts world (env.turnOffAllZones ts world).1 := by
  refine ⟨fun name => ?_, fun name => ?_⟩
  · have same : (env.turnOffAllZones ts world).1.lightAt name = world.lightAt name :=
      (turnOffAllZones_touches env ts world).lights.eq_of_no_step fun _ _ => not_false
    rw [same]
  · rw [turnOffAllZones_zoneAt]
    split
    · exact LightZoneEntity.written_command _ _ rfl
    · exact .refl

/-! ## Sessions -/

theorem turnOffMotionLights_written (target : ResolvedMotionTarget) (lights : List LightEndpoint)
    (transition : ℚ) (owner : Owner) (world : WorldState) :
    Written writer ts world
      (env.turnOffMotionLights target lights transition ts owner world).1 := by
  refine ⟨fun name => ?_, fun name => ?_⟩
  · rw [turnOffMotionLights_lightAt]
    split
    · exact .single (.command _ _)
    · exact .refl
  · rw [turnOffMotionLights_zoneAt]
    split
    · exact LightZoneEntity.written_command _ _ rfl
    · exact .refl

theorem releaseMotionSession_written (rule : ResolvedMotionRule) (world : WorldState) :
    Written writer ts world (env.releaseMotionSession rule ts world) := by
  cases live : world.motionSession rule with
  | none =>
      unfold releaseMotionSession
      rw [live]
      exact Written.refl world
  | some session =>
      refine ⟨fun name => ?_, fun name => ?_⟩
      · rw [releaseMotionSession_lightAt rule ts live]
        split
        · exact LightEntity.written_releaseMotion _
        · exact .refl
      · rw [releaseMotionSession_zoneAt rule ts live]
        split
        · exact LightZoneEntity.written_releaseMotion _
        · exact .refl

theorem startMotionSession_written {rule : ResolvedMotionRule}
    (listed : rule ∈ env.topology.motionRules) (illuminance : Option Nat) (world : WorldState) :
    Written .session ts world (env.startMotionSession rule illuminance ts world).1 := by
  rcases startMotionSession_cases listed illuminance ts world with idle | ⟨opens, same⟩
  · refine ⟨fun name => ?_, fun name => ?_⟩
    · rw [idle.lightAt]
    · have same : (env.startMotionSession rule illuminance ts world).1.zoneAt name =
          world.zoneAt name := by
        simp only [zoneAt, idle.lightZones]
      rw [same]
  · rw [same]
    refine ⟨fun name => ?_, fun name => ?_⟩
    · rw [opens.lightAt]
      split
      · unfold claimChange
        split
        · exact LightEntity.written_claimOffOnly _
        · exact .single (.command _ _)
      · exact .refl
    · rw [opens.zoneAt]
      split
      · split
        · exact .single (.claim rfl)
        · exact LightZoneEntity.written_command _ _ rfl
      · exact .refl

theorem finishMotionSession_written (rule : ResolvedMotionRule) (owner : Owner)
    (world : WorldState) :
    Written writer ts world (env.finishMotionSession rule ts owner world).1 := by
  have finish := finishMotionSession_finish env rule ts owner world
  generalize env.finishMotionSession rule ts owner world = result at finish
  cases finish with
  | idle closed => exact Written.refl world
  | off session live targetOff => exact releaseMotionSession_written rule world
  | leave session live targetOn leaves => exact (Written.refl world).of_same rfl rfl
  | turnOff session live targetOn mode owned =>
      have taken : Written writer ts world (world.takeSession rule) :=
        (Written.refl world).of_same rfl rfl
      exact (taken.trans (turnOffMotionLights_written _ _ _ _ _)).of_same rfl rfl

theorem startupTurnOff_written {rule : ResolvedMotionRule}
    (listed : rule ∈ env.topology.motionRules) (world : WorldState) :
    Written .session ts world (env.startupTurnOff rule ts world).1 := by
  have startup := startupTurnOff_startup env rule ts world
  generalize env.startupTurnOff rule ts world = result at startup
  cases startup with
  | idle nothing => exact Written.refl world
  | start mode observed occupied => exact startMotionSession_written listed none world
  | reset mode observed free reset =>
      have turned : Written .session ts world (env.reset rule ts world).1 :=
        turnOffMotionLights_written _ _ _ _ world
      refine turned.trans ⟨fun name => ?_, fun name => ?_⟩
      · rw [reset.lightAt]
      · obtain ⟨last, same⟩ := reset.zoneAt name
        rw [same]
        exact .single (.keep rfl (.inl rfl))

theorem blockMotion_written (room : String) (world : WorldState) :
    Written writer ts world (env.blockMotion room ts world) := by
  cases found : env.topology.roomByName room with
  | none =>
      unfold blockMotion
      rw [found]
      exact Written.refl world
  | some resolved =>
      have blocks := blockMotion_blocks found ts world
      refine ⟨fun name => ?_, fun name => ?_⟩
      · rw [blocks.lightAt]
        split
        · exact LightEntity.written_releaseMotion _
        · exact .refl
      · refine (blocks.zones name).lift' id fun zone released same => ?_
        cases same
        exact LightZoneEntity.written_releaseMotion zone

/-! ## Settings and the passing of time -/

theorem forgetCycle_written (room : String) (world : WorldState) :
    Written writer ts world (world.forgetCycle room) := by
  refine ⟨fun _ => .refl, fun name => ?_⟩
  unfold WorldState.forgetCycle zoneAt
  dsimp only
  rw [OrderedMap.getElem?_adjust]
  split
  · rename_i same
    subst same
    cases world.lightZones[room]? with
    | none => exact .refl
    | some zone => exact LightZoneEntity.written_forget zone
  · exact .refl

theorem ageTargets_written (world : WorldState) :
    Written writer ts world (world.ageTargets ts) := by
  refine ⟨fun name => ?_, fun name => ?_⟩
  · rw [lightAt_ageTargets]
    exact .single .age
  · rw [zoneAt_ageTargets]
    exact .single .age

/-! ## Reports -/

theorem recordLightState_written (reported : writer.reports) (device : String)
    (actual : LightActual) (world : WorldState) :
    Written writer ts world (env.recordLightState device actual ts world) :=
  (Written.refl world).modifyLight (.single (.observe reported actual _))

theorem followMember_written (world : WorldState) (idx : RoomIdx) :
    Written .light ts world (env.followMember ts world idx) := by
  unfold followMember
  split
  · exact Written.refl world
  · dsimp only
    split
    · exact (Written.refl world).modifyZone (.single (.keep rfl (.inl rfl)))
    · exact (Written.refl world).modifyZone (.single (.follow rfl _ _ _ _ _))

theorem handleLightState_written (device : String) (actual : LightActual) (world : WorldState) :
    Written .light ts world (env.handleLightState device actual ts world) := by
  have recorded : Written .light ts world (env.recordLightState device actual ts world) :=
    recordLightState_written rfl device actual world
  unfold handleLightState
  dsimp only
  split
  · exact recorded
  · exact Written.foldl _ recorded followMember_written

theorem coverOff_written (world : WorldState) (other : ResolvedRoom) :
    Written .group ts world (env.coverOff ts world other) := by
  refine (Written.refl world).modifyZone ?_
  have observed : LightZoneEntity.Written .group ts (world.zoneAt other.name)
      { world.zoneAt other.name with
        actual := (world.zoneAt other.name).actual.update .off ts, switchCycle := none } :=
    .single (.keep rfl (.inr rfl))
  dsimp only
  split
  · exact observed.tail (.turnOff rfl _)
  · exact observed

theorem groupTurnedOff_written (room : ResolvedRoom) (world : WorldState) :
    Written .group ts world (env.groupTurnedOff room ts world) := by
  have covered : Written .group ts world ((env.coveredRooms room).foldl (env.coverOff ts) world) :=
    Written.foldl _ (Written.refl world) coverOff_written
  have reported : Written .group ts world
      (room.lightMembers.foldl (env.memberOff ts)
        ((env.coveredRooms room).foldl (env.coverOff ts) world)) :=
    Written.foldl _ covered fun world _ => recordLightState_written rfl _ _ world
  exact reported.modifyZone (.single (.turnOff rfl _))

theorem handleGroupState_written (group : String) (on : Bool) (world : WorldState) :
    Written .group ts world (env.handleGroupState group on ts world) := by
  unfold handleGroupState
  split
  · exact Written.refl world
  · rename_i room _
    have observed : Written .group ts world
        (world.modifyZone room.name fun zone => zone.observeGroup on ts) :=
      (Written.refl world).modifyZone (.single (.observe rfl on))
    have confirmed : Written .group ts world
        ((world.modifyZone room.name fun zone => zone.observeGroup on ts).modifyZone room.name
          fun zone => zone.confirmGroupOn on ts) :=
      observed.modifyZone (.single (.confirm rfl on))
    dsimp only
    split
    · exact observed
    · split
      · exact confirmed
      · exact confirmed.trans (groupTurnedOff_written room _)

end Env

/-! ## Operations -/

namespace Operation

/-- What the writes of an operation are about. -/
def writer : Operation → Writer
  | startSession _ _ _ => .session
  | startupTurnOff _ _ => .session
  | observeLight _ _ _ => .light
  | observeGroup _ _ _ => .group
  | _ => .command

/-- The time stamp that an operation leaves on the lights and zones it writes; the others have the
time of the clock. -/
def stamp (now : Instant) : Operation → Instant
  | execute _ _ ts => ts
  | webRecallScene _ _ ts => ts
  | webSetRoomOff _ ts => ts
  | startSession _ _ ts => ts
  | releaseSession _ ts => ts
  | finishSession _ ts _ => ts
  | startupTurnOff _ ts => ts
  | observeGroup _ _ ts => ts
  | observeLight _ _ ts => ts
  | ageTargets ts => ts
  | blockMotion _ ts => ts
  | _ => now

open WorldState

/-- Every operation writes lights and zones under its stamp. -/
theorem run_written {env : Env} {operation : Operation}
    (admissible : operation.Admissible env.topology) (runtime : Runtime) :
    Written operation.writer (operation.stamp env.clock.now) runtime.world
      (operation.run env runtime).1.world := by
  have spared : ∀ {writer ts}, operation.sparesLighting →
      Written writer ts runtime.world (operation.run env runtime).1.world := fun spares =>
    (Written.refl runtime.world).of_same
      (congrArg Lighting.lights (Operation.run_lighting env spares runtime))
      (congrArg Lighting.lightZones (Operation.run_lighting env spares runtime))
  cases operation with
  | execute ruleName effect ts =>
      cases effect with
      | sceneCycle room => exact Env.executeSceneCycle_written _ runtime.world
      | groupSceneCycle room => exact Env.executeGroupSceneCycle_written _ runtime.world
      | sceneStepDown room => exact Env.executeSceneStepDown_written _ runtime.world
      | sceneToggle room => exact Env.executeSceneToggle_written _ runtime.world
      | sceneToggleCycle room => exact Env.executeSceneToggleCycle_written _ runtime.world
      | turnOffRoom room => exact Env.executeTurnOffRoom_written _ runtime.world
      | brightnessStep room step transition =>
          exact Env.executeBrightness_written _ _ runtime.world
      | brightnessMove room rate => exact Env.executeBrightness_written _ _ runtime.world
      | brightnessStop room => exact Env.executeBrightness_written _ _ runtime.world
      | turnOffAllZones => exact Env.turnOffAllZones_written runtime.world
      | toggle plug seconds => exact spared rfl
      | turnOn plug => exact spared rfl
      | turnOff plug => exact spared rfl
  | webRecallScene room sceneId ts => exact Env.webRecallScene_written room sceneId runtime.world
  | webSetRoomOff room ts => exact Env.webSetRoomOff_written room runtime.world
  | startSession rule illuminance ts =>
      exact Env.startMotionSession_written admissible illuminance runtime.world
  | releaseSession rule ts => exact Env.releaseMotionSession_written rule runtime.world
  | finishSession rule ts owner => exact Env.finishMotionSession_written rule owner runtime.world
  | startupTurnOff rule ts => exact Env.startupTurnOff_written admissible runtime.world
  | observeGroup group on ts => exact Env.handleGroupState_written group on runtime.world
  | observeLight device actual ts => exact Env.handleLightState_written device actual runtime.world
  | blockMotion room ts => exact Env.blockMotion_written room runtime.world
  | forgetCycle room => exact Env.forgetCycle_written room runtime.world
  | ageTargets ts => exact Env.ageTargets_written runtime.world
  | observeSensor sensor occupied illuminance received ts =>
      exact (Written.refl runtime.world).of_same rfl rfl
  | ageActuals ts => exact (Written.refl runtime.world).of_same rfl rfl
  | _ => exact spared rfl

end Operation

end MqttController
