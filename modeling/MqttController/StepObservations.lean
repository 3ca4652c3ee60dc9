import MqttController.Reach

/-!
# Observations of an in-flight step

While a step's command is young, what a light or the room's own group publishes neither changes
what the zone is told nor ends its cycle.  An off transition of a larger group does both.
-/

namespace MqttController

namespace LightZoneEntity

/-- A switch step is in flight: the zone is told to be on by a command that is still young. -/
def StepInFlight (zone : LightZoneEntity) (now : Instant) : Prop :=
  zone.switchCycle.isSome ∧ ∃ sceneId cycleIdx owner since,
    zone.target = .held (.on sceneId cycleIdx) .commanded owner since ∧
      durationSince now since < targetStaleThreshold

/-- The zone is told the same and keeps its cycle. -/
def KeepsStep (before after : LightZoneEntity) : Prop :=
  after.target.value = before.target.value ∧ after.switchCycle = before.switchCycle

theorem KeepsStep.trans {before middle after : LightZoneEntity} (first : KeepsStep before middle)
    (second : KeepsStep middle after) : KeepsStep before after :=
  ⟨second.1.trans first.1, second.2.trans first.2⟩

variable {zone : LightZoneEntity} {now : Instant}

namespace StepInFlight

theorem markStaleIfOld (inFlight : zone.StepInFlight now) :
    zone.target.markStaleIfOld now targetStaleThreshold = zone.target := by
  obtain ⟨_, sceneId, cycleIdx, owner, since, target, young⟩ := inFlight
  rw [target]
  exact if_neg (not_le.mpr young)

theorem isActionable (inFlight : zone.StepInFlight now) : zone.target.isActionable = true := by
  obtain ⟨_, sceneId, cycleIdx, owner, since, target, _⟩ := inFlight
  rw [target]
  rfl

theorem targetIsOn (inFlight : zone.StepInFlight now) : zone.targetIsOn = true := by
  obtain ⟨_, sceneId, cycleIdx, owner, since, target, _⟩ := inFlight
  unfold LightZoneEntity.targetIsOn
  rw [target]
  rfl

theorem observeGroup (inFlight : zone.StepInFlight now) (on : Bool) :
    zone.observeGroup on now =
      { zone with actual := zone.actual.update (if on then .on else .off) now } := by
  unfold LightZoneEntity.observeGroup
  dsimp only
  rw [if_pos inFlight.1, inFlight.markStaleIfOld]

theorem ignoresGroupOff (inFlight : zone.StepInFlight now) :
    (zone.observeGroup false now).ignoresGroupOff false = true := by
  rw [inFlight.observeGroup]
  unfold LightZoneEntity.ignoresGroupOff
  simp only [inFlight.1, inFlight.isActionable, Bool.not_false, Bool.and_true, Bool.true_and]
  exact inFlight.targetIsOn

theorem confirmGroupOn (inFlight : zone.StepInFlight now) :
    (zone.observeGroup true now).confirmGroupOn true now = zone.observeGroup true now := by
  rw [inFlight.observeGroup]
  obtain ⟨cycle, active⟩ := Option.isSome_iff_exists.mp inFlight.1
  unfold LightZoneEntity.confirmGroupOn
  simp [active]

end StepInFlight

/-- A zone after the members' reports, before its target follows them. -/
def aged (zone : LightZoneEntity) (actual : LightZoneActual) (since now : Instant) :
    LightZoneEntity :=
  { zone with
    actual := zone.actual.update actual since
    target := zone.target.markStaleIfOld now targetStaleThreshold
    lastOffAt := if actual = .off ∧ zone.actualIsOn then some now else zone.lastOffAt }

/-- A zone is told what it is observed to be. -/
def shows (told : Option LightZoneTarget) (actual : LightZoneActual) : Bool :=
  match told, actual with
  | some (.on _ _), .on => true
  | some .off, .off => true
  | _, _ => false

/-- A command of the zone was sent and is not confirmed. -/
def awaits (zone : LightZoneEntity) : Bool :=
  zone.target.phase == .commanded || zone.target.phase == .stale

/-- The members' reports are at least as recent as what the zone was told. -/
def reportedSince (zone : LightZoneEntity) (since : Instant) : Bool :=
  zone.target.since.any fun commanded => decide (commanded ≤ since)

/-- The members' reports turn the zone off, confirm what it was told, or do neither. -/
theorem followLights_cases (zone : LightZoneEntity) (actual : LightZoneActual) (since now : Instant)
    (stepConfirmed stepIsOff : Bool) (owner : Owner) :
    let after := zone.followLights actual since now stepConfirmed stepIsOff owner
    let aged := zone.aged actual since now
    (actual = .off ∧ zone.targetIsOn = true ∧ aged.target.isActionable = false ∧
        (zone.reportedSince since = true ∨ stepIsOff = true) ∧
        after = { aged with target := aged.target.adopt .off owner now, switchCycle := none }) ∨
      (shows zone.target.value actual = true ∧
        (if zone.switchCycle.isSome then stepConfirmed else zone.reportedSince since) = true ∧
        aged.awaits = true ∧ after = { aged with target := aged.target.confirm now }) ∨
      after = aged := by
  dsimp only
  have left : (if actual = .off ∧ zone.actualIsOn then
      { zone with
        actual := zone.actual.update actual since
        target := zone.target.markStaleIfOld now targetStaleThreshold
        lastOffAt := some now }
      else
      { zone with
        actual := zone.actual.update actual since
        target := zone.target.markStaleIfOld now targetStaleThreshold }) =
      zone.aged actual since now := by
    unfold aged
    split
    · rfl
    · rfl
  have told : (zone.aged actual since now).target.value = zone.target.value :=
    TassTarget.value_markStaleIfOld _ _ _
  have dated : (zone.target.markStaleIfOld now targetStaleThreshold).since = zone.target.since :=
    TassTarget.since_markStaleIfOld _ _ _
  unfold followLights
  dsimp only
  rw [left, dated]
  by_cases turns : actual = .off ∧ (zone.aged actual since now).targetIsOn ∧
      !(zone.aged actual since now).target.isActionable ∧
        ((zone.target.since.any fun commanded => decide (commanded ≤ since)) ∨ stepIsOff)
  · rw [if_pos turns]
    obtain ⟨off, on, passive, evidence⟩ := turns
    refine .inl ⟨off, ?_, by simpa using passive, evidence, ?_⟩
    · unfold targetIsOn at on ⊢
      rwa [told] at on
    · exact if_neg (by simp [TassTarget.phase_adopt])
  · rw [if_neg turns, Bool.decide_eq_true]
    have confirmed : ∀ settled : LightZoneEntity,
        settled = (if shows (zone.aged actual since now).target.value actual &&
            (if zone.switchCycle.isSome then stepConfirmed else zone.reportedSince since) &&
              (zone.aged actual since now).awaits then
          { zone.aged actual since now with
            target := (zone.aged actual since now).target.confirm now }
          else zone.aged actual since now) →
        (shows zone.target.value actual = true ∧
          (if zone.switchCycle.isSome then stepConfirmed else zone.reportedSince since) = true ∧
          (zone.aged actual since now).awaits = true ∧
          settled = { zone.aged actual since now with
            target := (zone.aged actual since now).target.confirm now }) ∨
          settled = zone.aged actual since now := by
      intro settled same
      rw [told] at same
      by_cases confirms : (shows zone.target.value actual &&
          (if zone.switchCycle.isSome then stepConfirmed else zone.reportedSince since) &&
            (zone.aged actual since now).awaits) = true
      · rw [if_pos confirms] at same
        rw [Bool.and_eq_true, Bool.and_eq_true] at confirms
        exact .inl ⟨confirms.1.1, confirms.1.2, confirms.2, same⟩
      · rw [if_neg confirms] at same
        exact .inr same
    exact .inr (confirmed _ rfl)

/-- Reports keep an in-flight step, and any zone that is on when a member is. -/
theorem followLights_keepsStep {actual : LightZoneActual} (since : Instant)
    (stepConfirmed stepIsOff : Bool) (owner : Owner)
    (kept : zone.StepInFlight now ∨ actual = .on) :
    KeepsStep zone (zone.followLights actual since now stepConfirmed stepIsOff owner) ∧
      ((zone.followLights actual since now stepConfirmed stepIsOff owner).StepInFlight now ∨
        actual = .on) := by
  have agedKept : KeepsStep zone (zone.aged actual since now) :=
    ⟨TassTarget.value_markStaleIfOld _ _ _, rfl⟩
  have agedInFlight (inFlight : zone.StepInFlight now) :
      (zone.aged actual since now).StepInFlight now := by
    obtain ⟨active, sceneId, cycleIdx, owner, since', target, young⟩ := id inFlight
    refine ⟨active, sceneId, cycleIdx, owner, since', ?_, young⟩
    exact inFlight.markStaleIfOld.trans target
  rcases zone.followLights_cases actual since now stepConfirmed stepIsOff owner with
    ⟨off, _, passive, _⟩ | ⟨shown, _, _, same⟩ | same
  · rcases kept with inFlight | on
    · rw [(agedInFlight inFlight).isActionable] at passive
      cases passive
    · rw [off] at on
      cases on
  · have on : actual = .on := by
      rcases kept with inFlight | on
      · obtain ⟨_, sceneId, cycleIdx, owner, since', target, _⟩ := inFlight
        rw [target] at shown
        cases actual with
        | on => rfl
        | off => simp [shows, TassTarget.value] at shown
      · exact on
    rw [same]
    exact ⟨agedKept.trans ⟨TassTarget.value_confirm _ _, rfl⟩, .inr on⟩
  · rw [same]
    exact ⟨agedKept, kept.imp_left agedInFlight⟩

end LightZoneEntity

namespace Env

variable {env : Env} {room : ResolvedRoom} {world : WorldState}

theorem room_unique (listed : room ∈ env.topology.rooms) {other : ResolvedRoom}
    (also : other ∈ env.topology.rooms) (same : other.name = room.name) : other = room :=
  List.inj_on_of_nodup_map env.topology.valid.room_names_nodup also listed same

/-! ## Reports of a light -/

theorem lights_followMember (ts : Instant) (world : WorldState) (idx : RoomIdx) :
    (env.followMember ts world idx).lights = world.lights := by
  unfold followMember
  split
  · rfl
  · dsimp only
    split
    · rfl
    · rfl

theorem observedState_congr {before after : WorldState} (lights : after.lights = before.lights)
    (room : ResolvedRoom) : env.observedState after room = env.observedState before room := by
  unfold observedState memberReading
  rw [lights]

/-- What a report of a member does to the zone of its room, and of no other. -/
theorem zoneAt_followMember (listed : room ∈ env.topology.rooms) (ts : Instant)
    (world : WorldState) (idx : RoomIdx) :
    (env.followMember ts world idx).zoneAt room.name = world.zoneAt room.name ∨
      (env.observedState world room = none ∧
        (env.followMember ts world idx).zoneAt room.name =
          { world.zoneAt room.name with actual := .unknown }) ∨
      ∃ actual since, env.observedState world room = some (actual, since) ∧
        (env.followMember ts world idx).zoneAt room.name =
          (world.zoneAt room.name).followLights actual since ts
            (env.switchStepIsConfirmed world room.name) (env.switchStepIsOff world room.name)
            (env.resolveZoneOwner world room.name .system) := by
  unfold followMember
  split
  · exact .inl rfl
  · rename_i other here
    have also : other ∈ env.topology.rooms := TopologyTables.mem_rooms_of_room here
    by_cases same : other.name = room.name
    · obtain rfl := room_unique listed also same
      dsimp only
      cases observed : env.observedState world other with
      | none =>
          refine .inr (.inl ⟨rfl, ?_⟩)
          dsimp only
          rw [WorldState.zoneAt_modifyZone, if_pos rfl]
      | some reading =>
          refine .inr (.inr ⟨reading.1, reading.2, rfl, ?_⟩)
          dsimp only
          rw [WorldState.zoneAt_modifyZone, if_pos rfl]
    · refine .inl ?_
      dsimp only
      split
      · rw [WorldState.zoneAt_modifyZone, if_neg same]
      · rw [WorldState.zoneAt_modifyZone, if_neg same]

/-- A report of a light keeps the step that is in flight in a room. -/
theorem handleLightState_keepsStep (listed : room ∈ env.topology.rooms) {device : String}
    {actual : LightActual} {ts : Instant}
    (inFlight : (world.zoneAt room.name).StepInFlight ts) :
    LightZoneEntity.KeepsStep (world.zoneAt room.name)
      ((env.handleLightState device actual ts world).zoneAt room.name) := by
  unfold handleLightState
  dsimp only
  split
  · exact ⟨rfl, rfl⟩
  · rename_i idx _
    have kept : LightZoneEntity.KeepsStep (world.zoneAt room.name)
          (((env.topology.lightRooms idx).foldl (env.followMember ts)
            (env.recordLightState device actual ts world)).zoneAt room.name) ∧
        ((((env.topology.lightRooms idx).foldl (env.followMember ts)
            (env.recordLightState device actual ts world)).zoneAt room.name).StepInFlight ts ∨
          ∃ since, env.observedState ((env.topology.lightRooms idx).foldl (env.followMember ts)
            (env.recordLightState device actual ts world)) room = some (.on, since)) := by
      refine List.foldlRecOn (motive := fun after : WorldState =>
        LightZoneEntity.KeepsStep (world.zoneAt room.name) (after.zoneAt room.name) ∧
          ((after.zoneAt room.name).StepInFlight ts ∨
            ∃ since, env.observedState after room = some (.on, since)))
        (env.topology.lightRooms idx) (env.followMember ts) ⟨⟨rfl, rfl⟩, .inl inFlight⟩ ?_
      intro after ⟨keeps, still⟩ member _
      have observed : env.observedState (env.followMember ts after member) room =
          env.observedState after room :=
        observedState_congr (lights_followMember ts after member) room
      rcases zoneAt_followMember listed ts after member with
        same | ⟨_, same⟩ | ⟨shown, since, reading, same⟩
      · rw [same, observed]
        exact ⟨keeps, still⟩
      · rw [same, observed]
        refine ⟨keeps.trans ⟨rfl, rfl⟩, still.imp_left fun inFlight => ?_⟩
        exact ⟨inFlight.1, inFlight.2⟩
      · have visible : (after.zoneAt room.name).StepInFlight ts ∨ shown = .on :=
          still.imp_right fun ⟨_, on⟩ => by
            rw [reading] at on
            cases on
            rfl
        have step := LightZoneEntity.followLights_keepsStep since
          (env.switchStepIsConfirmed after room.name) (env.switchStepIsOff after room.name)
          (env.resolveZoneOwner after room.name .system) visible
        rw [same, observed, reading]
        refine ⟨keeps.trans step.1, step.2.imp_right fun on => ⟨since, by rw [on]⟩⟩
    exact kept.1

/-! ## The state of a group -/

theorem zoneAt_coverOff (env : Env) (ts : Instant) (world : WorldState) (other : ResolvedRoom)
    (name : String) :
    (other.name ≠ name → (env.coverOff ts world other).zoneAt name = world.zoneAt name) ∧
      (other.name = name → ((env.coverOff ts world other).zoneAt name).switchCycle = none) := by
  unfold coverOff
  dsimp only
  rw [WorldState.zoneAt_modifyZone]
  constructor
  · intro different
    rw [if_neg different]
  · intro same
    rw [if_pos same]
    split
    · rfl
    · rfl

theorem zoneAt_covered (env : Env) (ts : Instant) (others : List ResolvedRoom) (world : WorldState)
    (name : String) :
    ((∀ other ∈ others, other.name ≠ name) →
        (others.foldl (env.coverOff ts) world).zoneAt name = world.zoneAt name) ∧
      ((∃ other ∈ others, other.name = name) →
        ((others.foldl (env.coverOff ts) world).zoneAt name).switchCycle = none) := by
  induction others generalizing world with
  | nil => exact ⟨fun _ => rfl, by simp⟩
  | cons first rest ih =>
      rw [List.foldl_cons]
      have next := ih (env.coverOff ts world first)
      have step := zoneAt_coverOff env ts world first name
      constructor
      · intro different
        rw [next.1 fun other member => different other (List.mem_cons_of_mem _ member),
          step.1 (different first List.mem_cons_self)]
      · rintro ⟨other, member, named⟩
        by_cases later : ∃ other ∈ rest, other.name = name
        · exact next.2 later
        · rcases List.mem_cons.mp member with rfl | inRest
          · rw [next.1 fun another inRest same => later ⟨another, inRest, same⟩]
            exact step.2 named
          · exact absurd ⟨other, inRest, named⟩ later

theorem zoneAt_groupTurnedOff {source : ResolvedRoom} {name : String}
    (different : source.name ≠ name) (ts : Instant) (world : WorldState) :
    (env.groupTurnedOff source ts world).zoneAt name =
      ((env.coveredRooms source).foldl (env.coverOff ts) world).zoneAt name := by
  have zones : ∀ state member, (env.memberOff ts state member).lightZones = state.lightZones :=
    fun _ _ => rfl
  unfold groupTurnedOff
  dsimp only
  rw [WorldState.zoneAt_modifyZone, if_neg different]
  unfold WorldState.zoneAt
  rw [Emission.foldl_frame WorldState.lightZones _ zones]

/-- The group of another room turns off the zone of a room it covers. -/
def CoversOff (env : Env) (world : WorldState) (room : ResolvedRoom) (group : String) (on : Bool)
    (ts : Instant) : Prop :=
  on = false ∧ ∃ source, env.topology.roomByGroupName group = some source ∧
    room ∈ env.coveredRooms source ∧ (world.zoneAt source.name).isOn = true ∧
      ((world.zoneAt source.name).observeGroup false ts).ignoresGroupOff false = false

theorem mem_rooms_of_roomByGroupName {group : String} {source : ResolvedRoom}
    (found : env.topology.roomByGroupName group = some source) : source ∈ env.topology.rooms := by
  unfold TopologyTables.roomByGroupName at found
  obtain ⟨idx, _, here⟩ := Option.bind_eq_some_iff.mp found
  exact TopologyTables.mem_rooms_of_room here

/-- The state of the room's own group keeps the step that is in flight. -/
theorem handleGroupState_keepsOwnStep {group : String}
    (found : env.topology.roomByGroupName group = some room) (on : Bool) {ts : Instant}
    (inFlight : (world.zoneAt room.name).StepInFlight ts) :
    LightZoneEntity.KeepsStep (world.zoneAt room.name)
      ((env.handleGroupState group on ts world).zoneAt room.name) := by
  unfold handleGroupState
  rw [found]
  dsimp only
  rw [WorldState.zoneAt_modifyZone, if_pos rfl]
  cases on with
  | false =>
      rw [if_pos inFlight.ignoresGroupOff, WorldState.zoneAt_modifyZone, if_pos rfl,
        inFlight.observeGroup]
      exact ⟨rfl, rfl⟩
  | true =>
      rw [if_neg (by simp [LightZoneEntity.ignoresGroupOff]), if_pos (by simp),
        WorldState.zoneAt_modifyZone, if_pos rfl, WorldState.zoneAt_modifyZone, if_pos rfl,
        inFlight.confirmGroupOn, inFlight.observeGroup]
      exact ⟨rfl, rfl⟩

/-- Turning off the group of another room keeps the step that is in flight in the rooms that it does
not cover. -/
theorem groupTurnedOff_keepsStep_iff (listed : room ∈ env.topology.rooms) {source : ResolvedRoom}
    (apart : source.name ≠ room.name) {ts : Instant} {before : WorldState}
    (inFlight : (before.zoneAt room.name).StepInFlight ts)
    (same : world.zoneAt room.name = before.zoneAt room.name) :
    LightZoneEntity.KeepsStep (before.zoneAt room.name)
        ((env.groupTurnedOff source ts world).zoneAt room.name) ↔
      room ∉ env.coveredRooms source := by
  rw [zoneAt_groupTurnedOff apart]
  have folded := zoneAt_covered env ts (env.coveredRooms source) world room.name
  by_cases covered : room ∈ env.coveredRooms source
  · refine iff_of_false ?_ (not_not.mpr covered)
    rintro ⟨_, cursor⟩
    rw [folded.2 ⟨room, covered, rfl⟩] at cursor
    have active := inFlight.1
    rw [← cursor] at active
    cases active
  · have outside : ∀ other ∈ env.coveredRooms source, other.name ≠ room.name :=
      fun other member named =>
        covered (room_unique listed (List.mem_filter.mp member).1 named ▸ member)
    rw [folded.1 outside, same]
    exact iff_of_true ⟨rfl, rfl⟩ covered

/-- The state of a group keeps the step that is in flight in a room, unless it is an off transition
of the group of another room that covers it. -/
theorem handleGroupState_keepsStep_iff (listed : room ∈ env.topology.rooms) (group : String)
    (on : Bool) {ts : Instant} (inFlight : (world.zoneAt room.name).StepInFlight ts) :
    LightZoneEntity.KeepsStep (world.zoneAt room.name)
        ((env.handleGroupState group on ts world).zoneAt room.name) ↔
      ¬ env.CoversOff world room group on ts := by
  cases found : env.topology.roomByGroupName group with
  | none =>
      unfold handleGroupState CoversOff
      rw [found]
      exact iff_of_true ⟨rfl, rfl⟩ (by simp)
  | some source =>
      by_cases own : source.name = room.name
      · obtain rfl := room_unique listed (mem_rooms_of_roomByGroupName found) own
        refine iff_of_true (handleGroupState_keepsOwnStep found on inFlight) ?_
        rintro ⟨_, other, same, covered, _⟩
        rw [found] at same
        cases same
        simp [coveredRooms] at covered
      · have observed (change : LightZoneEntity → LightZoneEntity) (world : WorldState) :
            (world.modifyZone source.name change).zoneAt room.name = world.zoneAt room.name := by
          rw [WorldState.zoneAt_modifyZone, if_neg own]
        have covers : env.CoversOff world room group on ts ↔ on = false ∧
            room ∈ env.coveredRooms source ∧ (world.zoneAt source.name).isOn = true ∧
              ((world.zoneAt source.name).observeGroup false ts).ignoresGroupOff false = false := by
          unfold CoversOff
          rw [found]
          simp
        rw [covers]
        unfold handleGroupState
        rw [found]
        dsimp only
        rw [WorldState.zoneAt_modifyZone, if_pos rfl]
        cases on with
        | true =>
            rw [if_neg (by simp [LightZoneEntity.ignoresGroupOff]), if_pos (by simp), observed,
              observed]
            exact iff_of_true ⟨rfl, rfl⟩ (by simp)
        | false =>
            by_cases ignored :
                ((world.zoneAt source.name).observeGroup false ts).ignoresGroupOff false = true
            · rw [if_pos ignored, observed]
              exact iff_of_true ⟨rfl, rfl⟩ (by simp [ignored])
            · rw [if_neg ignored]
              by_cases shining : (world.zoneAt source.name).isOn = true
              · rw [if_neg (by simp [shining]),
                  groupTurnedOff_keepsStep_iff listed own inFlight (by rw [observed, observed])]
                simp [shining, ignored]
              · rw [if_pos (by simp [shining]), observed, observed]
                exact iff_of_true ⟨rfl, rfl⟩ (by simp [shining])

end Env

namespace Operation

/-- When an operation takes in what a light or a group published. -/
def observedAt : Operation → Option Instant
  | observeGroup _ _ ts => some ts
  | observeLight _ _ ts => some ts
  | _ => none

end Operation

namespace Operation

/-- The report of a light that an operation takes in. -/
def lightReport : Operation → Option (String × LightActual × Instant)
  | observeLight device actual ts => some (device, actual, ts)
  | _ => none

/-- The state of a group that an operation takes in. -/
def groupReport : Operation → Option (String × Bool × Instant)
  | observeGroup group on ts => some (group, on, ts)
  | _ => none

theorem lightReport_eq_some_iff {operation : Operation} {device : String} {actual : LightActual}
    {ts : Instant} : operation.lightReport = some (device, actual, ts) ↔
      operation = observeLight device actual ts := by
  cases operation <;> simp [lightReport]

theorem groupReport_eq_some_iff {operation : Operation} {group : String} {on : Bool}
    {ts : Instant} : operation.groupReport = some (group, on, ts) ↔
      operation = observeGroup group on ts := by
  cases operation <;> simp [groupReport]

end Operation

namespace Record

/-- A room is told the same and keeps its switch cycle. -/
def KeepsStep (record : Record) (name : String) : Prop :=
  LightZoneEntity.KeepsStep (record.before.world.zoneAt name) (record.after.world.zoneAt name)

/-- An off transition of the group of another room turns off the zone of a room it covers. -/
def CoversOff (record : Record) (room : ResolvedRoom) : Prop :=
  ∃ group on ts, record.operation = .observeGroup group on ts ∧
    record.env.CoversOff record.before.world room group on ts

end Record

/-- Wherever it happens, what lights and groups publish keeps a step that is in flight in a room,
unless it is an off transition of the group of another room that covers it. -/
theorem Record.steps_kept_iff (record : Record) {ts : Instant}
    (observed : record.operation.observedAt = some ts) {room : ResolvedRoom}
    (listed : room ∈ record.env.topology.rooms)
    (inFlight : (record.before.world.zoneAt room.name).StepInFlight ts) :
    record.KeepsStep room.name ↔ ¬ record.CoversOff room := by
  obtain ⟨env, before, operation⟩ := record
  cases operation with
  | observeGroup group on ts' =>
      cases observed
      have kept := Env.handleGroupState_keepsStep_iff listed group on inFlight
      refine kept.trans (not_congr ?_)
      constructor
      · exact fun covers => ⟨group, on, ts, rfl, covers⟩
      · rintro ⟨_, _, _, same, covers⟩
        cases same
        exact covers
  | observeLight device actual ts' =>
      cases observed
      refine iff_of_true (Env.handleLightState_keepsStep listed inFlight) ?_
      rintro ⟨_, _, _, same, _⟩
      cases same
  | _ => cases observed

/-- The state of the study after the first step of its slot was commanded a second ago. -/
def House.studyStepped (world : WorldState) : Bool :=
  decide ((world.zoneAt "study").switchCycle = some ⟨"day", 0⟩ ∧
    (world.zoneAt "study").target = .held (.on 1 0) .commanded .user (Duration.fromSecs 1))

theorem House.studyStepped_inFlight {world : WorldState} (stepped : studyStepped world = true) :
    (world.zoneAt "study").StepInFlight (Duration.fromSecs 2) := by
  obtain ⟨cycle, target⟩ := of_decide_eq_true stepped
  exact ⟨by rw [cycle]; rfl, 1, 0, .user, Duration.fromSecs 1, target, by decide⟩

/-- The lamp reports OFF while a step of the study is in flight: the step is kept. -/
theorem Record.steps_kept_iff_study : ∃ (history : List Record) (daemon : Daemon) (record : Record),
    Run history daemon ∧ record ∈ history ∧
      record.operation = .observeLight "lamp" ⟨false, none, none, none⟩ (Duration.fromSecs 2) ∧
      (record.before.world.zoneAt "study").StepInFlight (Duration.fromSecs 2) ∧
      record.KeepsStep "study" := by
  obtain ⟨daemon, history, run, facts⟩ := House.played_landing
    [House.onPress "on" (.sceneCycle 0)]
    [(0, .start), House.press "on" 1,
      (2, .event (.lightState "lamp" false none none none (Duration.fromSecs 2)))]
    (fun reached : Daemon × List Record => reached.2.any fun record : Record =>
      decide (record.operation.lightReport =
        some ("lamp", ⟨false, none, none, none⟩, Duration.fromSecs 2)) &&
        House.studyStepped record.before.world &&
        record.env.topology.rooms.any fun room : ResolvedRoom => room.name == "study")
    true (by decide +kernel)
  obtain ⟨record, performed, same⟩ := List.any_eq_true.mp facts
  rw [Bool.and_eq_true, Bool.and_eq_true, decide_eq_true_eq,
    Operation.lightReport_eq_some_iff] at same
  obtain ⟨⟨observed, stepped⟩, listed⟩ := same
  obtain ⟨room, listed, named⟩ := List.any_eq_true.mp listed
  have inFlight := House.studyStepped_inFlight stepped
  rw [beq_iff_eq] at named
  rw [← named] at inFlight ⊢
  refine ⟨history, daemon, record, run, performed, observed, inFlight,
    (Record.steps_kept_iff record (by rw [observed]; rfl) listed inFlight).mpr ?_⟩
  rintro ⟨group, on, ts, other, _⟩
  rw [observed] at other
  cases other

/-- The group of the landing goes off while a step of the study is in flight: the cycle is lost. -/
theorem Run.steps_kept_fails : ∃ (history : List Record) (daemon : Daemon) (record : Record),
    Run history daemon ∧ record ∈ history ∧
      record.operation = .observeGroup "landing-group" false (Duration.fromSecs 2) ∧
      (record.before.world.zoneAt "study").StepInFlight (Duration.fromSecs 2) ∧
      ¬ record.KeepsStep "study" := by
  obtain ⟨daemon, history, run, facts⟩ := House.played_landing
    [House.onPress "on" (.sceneCycle 0)]
    [(0, .event (.groupState "landing-group" true (Duration.fromSecs 0))), (0, .start),
      House.press "on" 1, (2, .event (.groupState "landing-group" false (Duration.fromSecs 2)))]
    (fun reached : Daemon × List Record => reached.2.any fun record : Record =>
      decide (record.operation.groupReport = some ("landing-group", false, Duration.fromSecs 2)) &&
        House.studyStepped record.before.world &&
        decide ((record.after.world.zoneAt "study").switchCycle = none))
    true (by decide +kernel)
  obtain ⟨record, performed, same⟩ := List.any_eq_true.mp facts
  rw [Bool.and_eq_true, Bool.and_eq_true, decide_eq_true_eq, decide_eq_true_eq,
    Operation.groupReport_eq_some_iff] at same
  obtain ⟨⟨observed, stepped⟩, lost⟩ := same
  have inFlight := House.studyStepped_inFlight stepped
  refine ⟨history, daemon, record, run, performed, observed, inFlight, ?_⟩
  rintro ⟨_, cursor⟩
  have active := inFlight.1
  rw [← cursor, lost] at active
  cases active

end MqttController
