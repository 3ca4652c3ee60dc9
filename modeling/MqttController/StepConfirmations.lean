import MqttController.Confirmations

/-!
# Switch steps confirmed by evidence

With a switch cycle active only a report of a member confirms a zone, and only when every member
shows what the step asks of it since it was told so.  A member may have been told later than its
time stamp, and an off-only session may take a stale zone over as it is observed without ending its
cycle; where neither happens a step is confirmed only by what was received after its commands.
-/

namespace MqttController

open Emission Relation

/-! ## What a confirmation rests on -/

/-- An off-only session would take the zone over as it is observed, against its command, and leave
its cycle. -/
def LightZoneEntity.AdoptsCycling (zone : LightZoneEntity) : Prop :=
  zone.switchCycle.isSome ∧ zone.target.phase = .stale ∧ zone.targetIsOn ≠ zone.actualIsOn

instance (zone : LightZoneEntity) : Decidable zone.AdoptsCycling :=
  inferInstanceAs (Decidable (_ ∧ _))

/-- The rule of which an operation opens a session, if nothing suppresses it. -/
def Operation.opens (env : Env) (world : WorldState) : Operation → Option ResolvedMotionRule
  | startSession rule illuminance ts =>
      if world.activationSuppressed rule illuminance ts then none else some rule
  | startupTurnOff rule ts =>
      if env.ruleObservedOn rule world && world.motionRuleOccupied rule &&
          !world.activationSuppressed rule none ts then some rule
      else none
  | _ => none

namespace Record

/-- The operation takes in a report of the light. -/
def reportsOf (record : Record) (member : LightEndpoint) : Bool :=
  record.operation.lightReport.any fun report => report.1 == record.env.lightName member

/-- A member shows what it was told and what the step asks of it, by an observation that was
received after its last command was emitted. -/
def ShowsStep (past : List Record) (record : Record) (step : ResolvedSwitchStep)
    (member : LightEndpoint) : Prop :=
  let light := record.after.world.lightAt (record.env.lightName member)
  ∃ expected ∈ light.target.value, expected.isOn = decide (member ∈ step.lights) ∧
    ∃ actual ∈ light.actual.value, expected.isMatchedBy actual = true ∧
      ∃ since ∈ light.actual.since,
        ∀ emitted ∈ lastEmission (WorldState.lightTarget (record.env.lightName member)) past,
          emitted ≤ since

/-- A zone with a switch cycle is confirmed by a report of a member, when every member shows the
step since it was commanded. -/
def StepConfirmedByEvidence (past : List Record) (record : Record) : Prop :=
  ∀ room ∈ record.env.topology.rooms,
    ∀ cycle ∈ (record.after.world.zoneAt room.name).switchCycle, record.Confirms room.name →
      (∃ member ∈ room.lightMembers, record.reportsOf member = true) ∧
        ∃ step, record.env.cycleStep room cycle = some step ∧
          ∀ member ∈ room.lightMembers, record.ShowsStep past step member

/-- No latest observation of a member of a stepped room that waits for confirmation was received
between the time stamp of the member's command and the command. -/
def StepEvidenceApart (past : List Record) (record : Record) : Prop :=
  record.operation.lightReport.isSome → ∀ room ∈ record.env.topology.rooms,
    (record.before.world.zoneAt room.name).switchCycle.isSome →
      (record.before.world.zoneTarget room.name).awaits = true →
        ∀ member ∈ room.lightMembers,
          ∀ emitted ∈ lastEmission (WorldState.lightTarget (record.env.lightName member)) past,
            ∀ observed ∈ record.evidence member, emitted ≤ observed.2 ∨
              (record.reportsOf member = false ∧
                ∀ stamp ∈ (record.before.world.lightTarget (record.env.lightName member)).since,
                  observed.2 < stamp)

instance (past : List Record) (record : Record) : Decidable (StepEvidenceApart past record) :=
  inferInstanceAs (Decidable (_ → _))

/-- No off-only session takes a whole group over as it is observed while its switch cycle is
active. -/
def ClaimsNoStep (record : Record) : Prop :=
  ∀ rule ∈ record.operation.opens record.env record.before.world, rule.mode = .offOnly →
    ∀ active ∈ record.env.activation rule, ∀ group ∈ active.2.2.2.group,
      (∀ light ∈ active.2.2.2.lights,
        record.env.motionAllowedForLight light.device = true) →
      ¬ (record.before.world.zoneAt (record.env.topology.roomName group)).AdoptsCycling

instance (record : Record) : Decidable record.ClaimsNoStep :=
  inferInstanceAs (Decidable (∀ _ ∈ _, _ → _))

end Record

/-! ## Commands and groups -/

namespace LightZoneEntity

variable {writer : Writer} {ts : Instant}

/-- The zone is confirmed only without a switch cycle. -/
def ConfirmedUncycled (zone : LightZoneEntity) : Prop :=
  zone.target.phase = .confirmed → zone.switchCycle = none

theorem ConfirmedUncycled.keepsCycle {zone after : LightZoneEntity} (kept : zone.ConfirmedUncycled)
    (phase : after.target.phase = .confirmed → zone.target.phase = .confirmed)
    (cycle : zone.KeepsCycle after) : after.ConfirmedUncycled := by
  intro confirmed
  rcases cycle with same | gone
  · rw [same]
    exact kept (phase confirmed)
  · exact gone

/-- Commands and group states confirm no zone with a switch cycle. -/
theorem Write.confirmedUncycled {zone after : LightZoneEntity} (write : zone.Write writer ts after)
    (session : writer ≠ .session) (light : writer ≠ .light) (kept : zone.ConfirmedUncycled) :
    after.ConfirmedUncycled := by
  cases write with
  | command value owner told =>
      intro confirmed
      rw [told] at confirmed
      cases confirmed
  | reassign owner told cycle =>
      refine kept.keepsCycle (fun confirmed => ?_) cycle
      rwa [told, TassTarget.phase_reassignOwner] at confirmed
  | adopt value owner free told cycle => exact fun _ => cycle
  | keep told cycle => exact kept.keepsCycle (fun confirmed => by rwa [told] at confirmed) cycle
  | age => exact kept.keepsCycle phase_markStaleIfOld.mp (.inl rfl)
  | claim opened => exact absurd opened session
  | follow reported => exact absurd reported light
  | observe reported on =>
      unfold observeGroup
      dsimp only
      split
      · exact kept.keepsCycle phase_markStaleIfOld.mp (.inl rfl)
      · exact kept
  | confirm reported on =>
      unfold confirmGroupOn
      split
      · rename_i echoed
        simp only [Bool.and_eq_true, Option.isNone_iff_eq_none] at echoed
        exact fun _ => echoed.1.1.2
      · exact kept
  | turnOff reported owner => exact fun _ => rfl

theorem Written.confirmedUncycled {before after : LightZoneEntity}
    (written : before.Written writer ts after) (session : writer ≠ .session)
    (light : writer ≠ .light) (kept : before.ConfirmedUncycled) : after.ConfirmedUncycled := by
  induction written with
  | refl => exact kept
  | tail _ write ih => exact write.confirmedUncycled session light ih

/-- Claiming a zone confirms it with its cycle only by adopting what is observed. -/
theorem ConfirmedUncycled.claimOffOnly {zone : LightZoneEntity} (kept : zone.ConfirmedUncycled)
    (ts : Instant) (told : zone.switchCycle.isSome → zone.target.isUnset = false)
    (apart : ¬ zone.AdoptsCycling) : (zone.claimOffOnly ts).ConfirmedUncycled := by
  unfold LightZoneEntity.claimOffOnly
  dsimp only
  split
  · rename_i adopts
    intro _
    by_contra active
    have cycling : zone.switchCycle.isSome := Option.isSome_iff_ne_none.mpr active
    rw [told cycling, Bool.false_or, Bool.and_eq_true, beq_iff_eq, bne_iff_ne] at adopts
    exact apart ⟨cycling, adopts⟩
  · split
    · refine kept.keepsCycle (fun confirmed => ?_) (.inl rfl)
      rwa [reassignOwner, TassTarget.phase_reassignOwner] at confirmed
    · exact kept

end LightZoneEntity

namespace Env

variable {env : Env} {world : WorldState}

/-! ## Sessions -/

/-- Opening a session confirms no zone with a switch cycle, unless it adopts what is observed. -/
theorem startMotionSession_confirmedUncycled {rule : ResolvedMotionRule}
    (listed : rule ∈ env.topology.motionRules) (illuminance : Option Nat) (ts : Instant)
    {name : String} (kept : (world.zoneAt name).ConfirmedUncycled)
    (told : (world.zoneAt name).switchCycle.isSome → (world.zoneAt name).target.isUnset = false)
    (apart : world.activationSuppressed rule illuminance ts = false → rule.mode = .offOnly →
      ∀ active ∈ env.activation rule, ∀ group ∈ active.2.2.2.group,
        (∀ light ∈ active.2.2.2.lights, env.motionAllowedForLight light.device = true) →
          ¬ (world.zoneAt (env.topology.roomName group)).AdoptsCycling) :
    ((env.startMotionSession rule illuminance ts world).1.zoneAt name).ConfirmedUncycled := by
  cases suppressed : world.activationSuppressed rule illuminance ts with
  | true =>
      unfold startMotionSession
      rw [if_pos suppressed]
      exact kept
  | false =>
      rcases startMotionSession_cases listed illuminance ts world with idle | ⟨opens, same⟩
      · have unchanged := idle.lightZones
        unfold WorldState.zoneAt at kept ⊢
        rwa [unchanged]
      · rw [same, opens.zoneAt]
        split
        · rename_i claimed
          obtain ⟨group, whole, named⟩ := claimed
          obtain ⟨targeted, may⟩ := opens.of_group whole
          split
          · rename_i mode
            refine kept.claimOffOnly ts told ?_
            rw [← named]
            exact apart suppressed mode _ opens.active group targeted fun light inside =>
              (Bool.and_eq_true _ _ ▸ may light inside).1
          · intro confirmed
            cases confirmed
        · exact kept

theorem startupTurnOff_confirmedUncycled {rule : ResolvedMotionRule}
    (listed : rule ∈ env.topology.motionRules) (ts : Instant) {name : String}
    (kept : (world.zoneAt name).ConfirmedUncycled)
    (told : (world.zoneAt name).switchCycle.isSome → (world.zoneAt name).target.isUnset = false)
    (apart : env.ruleObservedOn rule world = true → world.motionRuleOccupied rule = true →
      world.activationSuppressed rule none ts = false → rule.mode = .offOnly →
        ∀ active ∈ env.activation rule, ∀ group ∈ active.2.2.2.group,
          (∀ light ∈ active.2.2.2.lights, env.motionAllowedForLight light.device = true) →
            ¬ (world.zoneAt (env.topology.roomName group)).AdoptsCycling) :
    ((env.startupTurnOff rule ts world).1.zoneAt name).ConfirmedUncycled := by
  have startup := startupTurnOff_startup env rule ts world
  generalize env.startupTurnOff rule ts world = result at startup
  cases startup with
  | idle nothing => exact kept
  | start mode observed occupied =>
      exact startMotionSession_confirmedUncycled listed none ts kept told (apart observed occupied)
  | reset mode observed free resets =>
      obtain ⟨last, same⟩ := resets.zoneAt name
      rw [same]
      unfold reset
      rw [turnOffMotionLights_zoneAt]
      split
      · intro confirmed
        cases confirmed
      · exact kept

/-! ## A report of a light -/

theorem memberConfirms_congr {before after : WorldState} (lights : after.lights = before.lights)
    (step : ResolvedSwitchStep) :
    env.memberConfirms after step = env.memberConfirms before step := by
  funext member
  unfold memberConfirms
  rw [lights]

/-- What a confirmed step of a room rests on. -/
theorem memberConfirms_of_confirmed {room : ResolvedRoom} (listed : room ∈ env.topology.rooms)
    (confirmed : env.switchStepIsConfirmed world room.name = true) {cycle : SwitchCycle}
    (active : (world.zoneAt room.name).switchCycle = some cycle) {step : ResolvedSwitchStep}
    (points : env.cycleStep room cycle = some step) :
    ∀ member ∈ room.lightMembers, env.memberConfirms world step member = true := by
  have stored : (world.lightZones[room.name]?).bind (·.switchCycle) = some cycle := by
    unfold WorldState.zoneAt at active
    cases found : world.lightZones[room.name]? with
    | none =>
        rw [found] at active
        cases active
    | some zone =>
        rw [found] at active
        exact active
  obtain ⟨idx, within, here⟩ := List.getElem_of_mem listed
  have placed : env.topology.room idx = some room := by
    unfold TopologyTables.room
    rw [List.getElem?_eq_getElem within, here]
  have known := TopologyTables.roomByName_of_room env.topology.valid placed
  unfold switchStepIsConfirmed at confirmed
  rw [stored] at confirmed
  dsimp only at confirmed
  rw [known] at confirmed
  dsimp only at confirmed
  rw [points] at confirmed
  exact List.all_eq_true.mp confirmed

/-- Following a room that has no member of the device leaves the others alone. -/
theorem zoneAt_followMember_apart {room : ResolvedRoom} {device : DeviceIdx}
    (listed : room ∈ env.topology.rooms) (ts : Instant) (world : WorldState) {idx : RoomIdx}
    (concerned : idx ∈ env.topology.lightRooms device)
    (apart : ∀ member ∈ room.lightMembers, member.device ≠ device) :
    (env.followMember ts world idx).zoneAt room.name = world.zoneAt room.name := by
  unfold TopologyTables.lightRooms at concerned
  obtain ⟨other, here, has⟩ :=
    (Option.any_eq_true _ _).mp (List.mem_filter.mp concerned).2
  obtain ⟨member, among, same⟩ := List.any_eq_true.mp has
  have different : other.name ≠ room.name := by
    intro named
    obtain rfl := room_unique listed (TopologyTables.mem_rooms_of_room here) named
    exact apart member among (beq_iff_eq.mp same)
  unfold followMember
  rw [here]
  dsimp only
  split
  · rw [WorldState.zoneAt_modifyZone, if_neg different]
  · rw [WorldState.zoneAt_modifyZone, if_neg different]

/-- While the rooms of a light are followed: a zone is not confirmed yet, has no cycle, or was
confirmed by every member of the step of its cycle. -/
def StepFollowed (env : Env) (room : ResolvedRoom) (told : LightZoneEntity) (world : WorldState) :
    Prop :=
  let zone := world.zoneAt room.name
  (zone.target.phase ≠ .confirmed ∧ zone.switchCycle = told.switchCycle ∧
      zone.target.awaits = told.target.awaits) ∨
    zone.switchCycle = none ∨
    (zone.switchCycle = told.switchCycle ∧ told.target.awaits = true ∧
      ∀ cycle ∈ zone.switchCycle, ∀ step, env.cycleStep room cycle = some step →
        ∀ member ∈ room.lightMembers, env.memberConfirms world step member = true)

theorem StepFollowed.followMember {room : ResolvedRoom} {told : LightZoneEntity}
    (listed : room ∈ env.topology.rooms) (followed : env.StepFollowed room told world)
    (ts : Instant) (idx : RoomIdx) :
    env.StepFollowed room told (env.followMember ts world idx) := by
  have lights := @lights_followMember env ts world idx
  unfold StepFollowed at followed ⊢
  dsimp only at followed ⊢
  simp only [memberConfirms_congr lights]
  rcases zoneAt_followMember listed ts world idx with
    same | ⟨_, same⟩ | ⟨actual, since, _, same⟩
  · rw [same]
    exact followed
  · rw [same]
    exact followed
  · rw [same]
    rcases LightZoneEntity.followLights_cases (world.zoneAt room.name) actual since ts
        (env.switchStepIsConfirmed world room.name) (env.switchStepIsOff world room.name)
        (env.resolveZoneOwner world room.name .system) with
      ⟨_, _, _, _, after⟩ | ⟨_, current, awaits, after⟩ | after
    · rw [after]
      exact .inr (.inl rfl)
    · rw [after]
      have confirms : (world.zoneAt room.name).switchCycle.isSome →
          ∀ cycle ∈ (world.zoneAt room.name).switchCycle, ∀ step,
            env.cycleStep room cycle = some step →
              ∀ member ∈ room.lightMembers, env.memberConfirms world step member = true := by
        intro cycling cycle active step points
        rw [if_pos cycling] at current
        exact memberConfirms_of_confirmed listed current active points
      rcases followed with ⟨_, cycle, sameAwaits⟩ | none | ⟨cycle, waited, _⟩
      · cases cycling : (world.zoneAt room.name).switchCycle with
        | none => exact .inr (.inl cycling)
        | some found =>
            refine .inr (.inr ⟨cycle, ?_, confirms (by rw [cycling]; rfl)⟩)
            rw [← sameAwaits, ← LightZoneEntity.awaits_aged _ actual since ts]
            exact awaits
      · exact .inr (.inl none)
      · cases cycling : (world.zoneAt room.name).switchCycle with
        | none => exact .inr (.inl cycling)
        | some found => exact .inr (.inr ⟨cycle, waited, confirms (by rw [cycling]; rfl)⟩)
    · rw [after]
      rcases followed with ⟨open', cycle, sameAwaits⟩ | none | confirmed
      · exact .inl ⟨fun phase => open' (LightZoneEntity.phase_markStaleIfOld.mp phase), cycle,
          (LightZoneEntity.awaits_aged _ actual since ts).trans sameAwaits⟩
      · exact .inr (.inl none)
      · exact .inr (.inr confirmed)

/-- A report that confirms a zone with a switch cycle is of a member, and every member confirms the
step. -/
theorem handleLightState_confirmsStep {room : ResolvedRoom} (listed : room ∈ env.topology.rooms)
    (device : String) (actual : LightActual) (ts : Instant)
    (open' : (world.zoneAt room.name).target.phase ≠ .confirmed)
    (confirmed : ((env.handleLightState device actual ts world).zoneAt room.name).target.phase =
      .confirmed) :
    ∀ cycle ∈ ((env.handleLightState device actual ts world).zoneAt room.name).switchCycle,
      (world.zoneAt room.name).switchCycle = some cycle ∧
        (world.zoneAt room.name).target.awaits = true ∧
        (∃ member ∈ room.lightMembers, env.lightName member = device) ∧
        ∀ step, env.cycleStep room cycle = some step → ∀ member ∈ room.lightMembers,
          env.memberConfirms (env.handleLightState device actual ts world) step member = true := by
  intro cycle active
  unfold handleLightState at confirmed active ⊢
  dsimp only at confirmed active ⊢
  split at confirmed
  · exact absurd confirmed open'
  · rename_i idx position
    rw [position] at active
    dsimp only at active
    have start : env.StepFollowed room (world.zoneAt room.name)
        (env.recordLightState device actual ts world) := .inl ⟨open', rfl, rfl⟩
    have followed : env.StepFollowed room (world.zoneAt room.name)
        ((env.topology.lightRooms idx).foldl (env.followMember ts)
          (env.recordLightState device actual ts world)) :=
      List.foldlRecOn _ _ start fun _ kept idx _ => kept.followMember listed ts idx
    have named : ∃ member ∈ room.lightMembers, member.device = idx := by
      by_contra none
      simp only [not_exists, not_and] at none
      have unchanged : ((env.topology.lightRooms idx).foldl (env.followMember ts)
          (env.recordLightState device actual ts world)).zoneAt room.name =
            world.zoneAt room.name := by
        refine List.foldlRecOn (motive := fun after : WorldState =>
          after.zoneAt room.name = world.zoneAt room.name) _ _ rfl ?_
        intro after same other concerned
        rw [zoneAt_followMember_apart listed ts after concerned none]
        exact same
      rw [unchanged] at confirmed
      exact open' confirmed
    obtain ⟨member, among, same⟩ := named
    rcases followed with ⟨still, _⟩ | none | ⟨cycle', awaits, confirms⟩
    · exact absurd confirmed still
    · rw [none] at active
      cases active
    · refine ⟨cycle' ▸ active, awaits, ⟨member, among, ?_⟩, confirms cycle active⟩
      unfold lightName
      rw [same]
      exact (TopologyTables.deviceName_of_deviceIdx position).1

theorem lightAt_handleLightState_of_ne {device name : String} (other : device ≠ name)
    (actual : LightActual) (ts : Instant) :
    (env.handleLightState device actual ts world).lightAt name = world.lightAt name := by
  have recorded : (env.recordLightState device actual ts world).lightAt name =
      world.lightAt name := by
    unfold recordLightState
    rw [WorldState.lightAt_modifyLight, if_neg other]
  unfold handleLightState
  dsimp only
  split
  · exact recorded
  · rw [← recorded]
    unfold WorldState.lightAt
    rw [lights_foldl_followMember]

/-- What it takes of a member to confirm a step. -/
theorem memberConfirms_iff {step : ResolvedSwitchStep} {member : LightEndpoint} :
    env.memberConfirms world step member = true ↔
      ∃ expected ∈ (world.lightAt (env.lightName member)).target.value,
        expected.isOn = decide (member ∈ step.lights) ∧
          ∃ actual ∈ (world.lightAt (env.lightName member)).actual.value,
            expected.isMatchedBy actual = true ∧
              ∃ since ∈ (world.lightAt (env.lightName member)).actual.since,
                env.memberReading world member = some (actual.on, since) ∧
                  ∃ told ∈ (world.lightAt (env.lightName member)).target.since, told ≤ since := by
  unfold memberConfirms memberReading WorldState.lightAt
  cases world.lights[env.lightName member]? with
  | none =>
      refine iff_of_false Bool.false_ne_true ?_
      rintro ⟨expected, known, _⟩
      cases known
  | some light =>
      dsimp only [Option.getD_some]
      cases light.target with
      | unset =>
          refine iff_of_false Bool.false_ne_true ?_
          rintro ⟨expected, known, _⟩
          cases known
      | held expected phase owner commanded =>
          cases light.actual with
          | unknown => simp [TassTarget.value, TassActual.value]
          | known actual stale since =>
              simp [TassTarget.value, TassTarget.since, TassActual.value, TassActual.since,
                and_assoc]

end Env

/-! ## Runs -/

namespace LightZoneEntity

variable {writer : Writer} {ts : Instant}

/-- A zone with a switch cycle was told something. -/
def CyclesTold (zone : LightZoneEntity) : Prop :=
  zone.switchCycle.isSome → zone.target.isUnset = false

theorem CyclesTold.of_target {zone after : LightZoneEntity} (kept : zone.CyclesTold)
    (value : after.target.value = zone.target.value) (cycle : zone.KeepsCycle after) :
    after.CyclesTold := by
  intro cycling
  rw [TassTarget.isUnset_eq_isNone, value, ← TassTarget.isUnset_eq_isNone]
  rcases cycle with same | gone
  · exact kept (same ▸ cycling)
  · rw [gone] at cycling
    cases cycling

theorem CyclesTold.of_none {zone : LightZoneEntity} (gone : zone.switchCycle = none) :
    zone.CyclesTold := by
  intro cycling
  rw [gone] at cycling
  cases cycling

theorem Write.cyclesTold {zone after : LightZoneEntity} (write : zone.Write writer ts after)
    (kept : zone.CyclesTold) : after.CyclesTold := by
  cases write with
  | command value owner told =>
      intro _
      rw [told]
      rfl
  | reassign owner told cycle =>
      exact kept.of_target (by rw [told, TassTarget.value_reassignOwner]) cycle
  | adopt value owner free told cycle => exact .of_none cycle
  | keep told cycle => exact kept.of_target (by rw [told]) cycle
  | age => exact kept.of_target (TassTarget.value_markStaleIfOld _ _ _) (.inl rfl)
  | claim opened =>
      unfold claimOffOnly
      dsimp only
      split
      · intro _
        rw [TassTarget.isUnset_eq_isNone, TassTarget.value_adopt]
        rfl
      · split
        · exact kept.of_target (TassTarget.value_reassignOwner _ _ _) (.inl rfl)
        · exact kept
  | follow reported actual since stepConfirmed stepIsOff owner =>
      rcases followLights_cases zone actual since ts stepConfirmed stepIsOff owner with
        ⟨_, _, _, _, same⟩ | ⟨_, _, _, same⟩ | same
      · rw [same]
        exact .of_none rfl
      · rw [same]
        refine kept.of_target ?_ (.inl rfl)
        rw [TassTarget.value_confirm]
        exact TassTarget.value_markStaleIfOld _ _ _
      · rw [same]
        exact kept.of_target (TassTarget.value_markStaleIfOld _ _ _) (.inl rfl)
  | observe reported on =>
      unfold observeGroup
      dsimp only
      split
      · exact kept.of_target (TassTarget.value_markStaleIfOld _ _ _) (.inl rfl)
      · exact kept
  | confirm reported on =>
      unfold confirmGroupOn
      split
      · exact kept.of_target (TassTarget.value_confirm _ _) (.inl rfl)
      · exact kept
  | turnOff reported owner => exact .of_none rfl

theorem Written.cyclesTold {before after : LightZoneEntity}
    (written : before.Written writer ts after) (kept : before.CyclesTold) : after.CyclesTold := by
  induction written with
  | refl => exact kept
  | tail _ write ih => exact write.cyclesTold ih

end LightZoneEntity

/-- A zone with a switch cycle was told something, in every reachable state. -/
theorem WorldState.cyclesTold_kept : KeptByOperations fun _ _ runtime =>
    ∀ name, (runtime.world.zoneAt name).CyclesTold where
  launch _ _ := .of_none rfl
  operation _ _ _ runtime admissible _ holds name :=
    ((Operation.run_written admissible runtime).zones name).cyclesTold (holds name)

namespace Record

/-- With a switch cycle active only reports of lights confirm a zone. -/
theorem reports_of_confirms {record : Record}
    (admissible : record.operation.Admissible record.env.topology) {name : String}
    (told : (record.before.world.zoneAt name).CyclesTold) (claims : record.ClaimsNoStep)
    (confirms : record.Confirms name)
    (cycling : (record.after.world.zoneAt name).switchCycle.isSome) :
    record.operation.writer = .light := by
  have kept : (record.before.world.zoneAt name).ConfirmedUncycled := fun confirmed =>
    absurd confirmed confirms.1
  by_contra other
  have uncycled : (record.after.world.zoneAt name).ConfirmedUncycled := by
    obtain ⟨env, before, operation⟩ := record
    unfold ClaimsNoStep at claims
    dsimp only at claims other kept told admissible ⊢
    by_cases session : operation.writer = .session
    · cases operation with
      | startSession rule illuminance ts =>
          refine Env.startMotionSession_confirmedUncycled admissible illuminance ts kept told ?_
          intro free
          refine claims rule ?_
          have opens : Operation.opens env before.world (.startSession rule illuminance ts) =
              some rule := if_neg (by rw [free]; exact Bool.false_ne_true)
          exact opens
      | startupTurnOff rule ts =>
          refine Env.startupTurnOff_confirmedUncycled admissible ts kept told ?_
          intro observed occupied free
          refine claims rule ?_
          have opens : Operation.opens env before.world (.startupTurnOff rule ts) = some rule :=
            if_pos (by rw [observed, occupied, free]; rfl)
          exact opens
      | _ => cases session
    · exact ((Operation.run_written admissible before).zones name).confirmedUncycled session other
        kept
  rw [uncycled confirms.2] at cycling
  cases cycling

end Record

theorem Operation.writer_eq_light_iff {operation : Operation} :
    operation.writer = .light ↔ ∃ device actual ts, operation = .observeLight device actual ts := by
  constructor
  · intro light
    cases operation with
    | observeLight device actual ts => exact ⟨device, actual, ts, rfl⟩
    | _ => cases light
  · rintro ⟨device, actual, ts, rfl⟩
    rfl

/-- In a run in which no observation of a member falls between the time stamp of its command and the
command, and no session takes a stepped zone over against its command, a switch step is confirmed
only by a report of a member, when every member shows the step since it was commanded. -/
theorem Run.steps_confirmed_by_evidence {history : List Record} {daemon : Daemon}
    (run : Run history daemon) (apart : Always Record.StepEvidenceApart history)
    (claims : ∀ record ∈ history, record.ClaimsNoStep) :
    Always Record.StepConfirmedByEvidence history := by
  intro past record later split room listed cycle active confirms
  have member : record ∈ history := by
    rw [split]
    exact List.mem_append_right _ (List.mem_cons_self ..)
  obtain ⟨admissible, _, told⟩ := Run.each_record WorldState.cyclesTold_kept run split
  have cycling : (record.after.world.zoneAt room.name).switchCycle.isSome :=
    Option.isSome_iff_exists.mpr ⟨cycle, active⟩
  obtain ⟨device, actual, ts, reports⟩ := Operation.writer_eq_light_iff.mp
    (Record.reports_of_confirms admissible (told room.name) (claims record member) confirms cycling)
  have after : record.after.world =
      record.env.handleLightState device actual ts record.before.world := by
    unfold Record.after
    rw [reports]
    rfl
  have confirmed := confirms.2
  rw [after] at confirmed active
  obtain ⟨before, awaits, ⟨named, among, same⟩, confirming⟩ :=
    Env.handleLightState_confirmsStep listed device actual ts confirms.1 confirmed cycle active
  have reported : record.operation.lightReport = some (device, actual, ts) :=
    Operation.lightReport_eq_some_iff.mpr reports
  have reportsOf : ∀ member, record.reportsOf member = (device == record.env.lightName member) := by
    intro member
    unfold Record.reportsOf
    rw [reported, Option.any_some]
  refine ⟨⟨named, among, ?_⟩, ?_⟩
  · rw [reportsOf, same]
    exact beq_self_eq_true device
  have found : ∃ step, record.env.cycleStep room cycle = some step := by
    have finds := (run.invariant_of_inputs Automation.cursorsValid_kept).2.2 record member
    have position : ∃ idx, record.env.topology.deviceIdx device = some idx := by
      refine ⟨named.device, ?_⟩
      rw [← same]
      exact TopologyTables.deviceIdx_of_deviceName record.env.topology.valid
        (record.env.topology.valid.members_known room listed named among)
    obtain ⟨idx, position⟩ := position
    have looks : record.operation.LooksUpIn record.env record.before.world record.after.world := by
      rw [reports, after]
      refine ⟨idx, record.env.topology.lightRooms idx, position, List.prefix_rfl, ?_⟩
      unfold Env.handleLightState
      rw [position]
    obtain ⟨other, here, steps, stored, inside, _⟩ :=
      finds record.after.world looks room.name cycle (after ▸ active)
    obtain ⟨also, sameName⟩ := TopologyTables.mem_rooms_of_roomByName here
    obtain rfl := Env.room_unique listed also sameName
    refine ⟨steps[cycle.step], ?_⟩
    unfold Env.cycleStep
    rw [stored, Option.bind_some, List.getElem?_eq_getElem inside]
  obtain ⟨step, points⟩ := found
  refine ⟨step, points, fun member inside => ?_⟩
  obtain ⟨expected, value, on, shown, observed, matched, since, current, reading, told, stamp,
      recent⟩ :=
    Env.memberConfirms_iff.mp (confirming step points member inside)
  rw [← after] at value observed current reading stamp
  refine ⟨expected, value, on, shown, observed, matched, since, current, fun emitted emission => ?_⟩
  have waits := apart past record later split (by rw [reported]; rfl) room listed
    (by rw [before]; rfl) awaits member inside emitted emission (shown.on, since)
    (by rw [Record.evidence_eq reports]; exact reading)
  refine waits.resolve_right fun earlier => ?_
  have other : device ≠ record.env.lightName member := by
    have unreported := earlier.1
    rw [reportsOf] at unreported
    exact ne_of_beq_false unreported
  rw [after, Env.lightAt_handleLightState_of_ne other] at stamp
  exact absurd recent (not_le.mpr (earlier.2 told stamp))

/-- A press selects the first step of the study, and the lamp reports what the step asks of it. -/
theorem Run.steps_confirmed_by_evidence_study : ∃ (history : List Record) (daemon : Daemon),
    Run history daemon ∧
      (∃ record ∈ history, record.Confirms "study" ∧
        (record.after.world.zoneAt "study").switchCycle.isSome) ∧
      Always Record.StepConfirmedByEvidence history := by
  obtain ⟨daemon, history, run, _, facts⟩ := House.played .offOnly
    [House.onPress "on" (.sceneCycle 0)]
    [(0, .start), House.press "on" 1,
      (2, .event (.lightState "lamp" true (some 50) none none (Duration.fromSecs 2)))]
    (fun reached : Daemon × List Record =>
      (reached.2.any fun record => decide (record.Confirms "study" ∧
          (record.after.world.zoneAt "study").switchCycle.isSome),
        decide ((∀ position ∈ List.range reached.2.length, ∀ record ∈ reached.2[position]?,
          Record.StepEvidenceApart (reached.2.take position) record) ∧
            ∀ record ∈ reached.2, record.ClaimsNoStep)))
    (true, true) (by decide +kernel)
  obtain ⟨confirmed, conditions⟩ := Prod.mk.inj facts
  obtain ⟨record, member, confirms⟩ := List.any_eq_true.mp confirmed
  obtain ⟨apart, claims⟩ := of_decide_eq_true conditions
  exact ⟨history, daemon, run, ⟨record, member, of_decide_eq_true confirms⟩,
    Run.steps_confirmed_by_evidence run (always_of_positions apart) claims⟩

/-- A press selects the first step of the study, nothing answers it until it is stale, and motion
takes the study over as it is observed: its zone is confirmed with an active cycle and without a
report. -/
theorem Run.steps_confirmed_by_evidence_fails :
    ¬ ∀ (history : List Record) (daemon : Daemon), Run history daemon →
      Always Record.StepConfirmedByEvidence history := by
  intro claim
  obtain ⟨daemon, history, run, _, facts⟩ := House.played .offOnly
    [House.onPress "on" (.sceneCycle 0)]
    [(0, .start), House.press "on" 1, House.tick 12,
      (13, .event (.occupancy "eye" true none none (Duration.fromSecs 13)))]
    (fun reached : Daemon × List Record => reached.2.getLast?.map fun record : Record =>
      (record.operation.lightReport.isSome,
        record.env.topology.rooms.any fun room : ResolvedRoom => room.name == "study",
        decide ((record.after.world.zoneAt "study").switchCycle.isSome ∧ record.Confirms "study")))
    (some (false, true, true)) (by decide +kernel)
  obtain ⟨record, last, facts⟩ := Option.map_eq_some_iff.mp facts
  simp only [Prod.mk.injEq, decide_eq_true_iff] at facts
  obtain ⟨unreported, known, cycling, confirms⟩ := facts
  obtain ⟨room, listed, named⟩ := List.any_eq_true.mp known
  rw [beq_iff_eq] at named
  rw [← named] at cycling confirms
  obtain ⟨cycle, active⟩ := Option.isSome_iff_exists.mp cycling
  have split : history = history.dropLast ++ record :: [] :=
    (List.dropLast_append_getLast? record last).symm
  obtain ⟨⟨member, _, reports⟩, _⟩ :=
    claim history daemon run _ record [] split room listed cycle active confirms
  unfold Record.reportsOf at reports
  rw [Option.not_isSome_iff_eq_none.mp (Bool.eq_false_iff.mp unreported)] at reports
  cases reports

end MqttController
