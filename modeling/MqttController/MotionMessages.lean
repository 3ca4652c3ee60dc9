import MqttController.GroupMessages
import MqttController.LightWrites

/-!
# Messages of motion

A step of motion control commands the lights that its messages address, counting the members of a
group for a message to the group, and no others.  Nothing that it addresses is in a room in which
motion is disabled, and what it turns on was not on.
-/

namespace MqttController

open WorldState Env

/-- The lights that a message addresses; a message to a group addresses the members of its room. -/
def Effect.endpoints (topology : Topology) : Effect → List LightEndpoint
  | publishGroupSet room _ => ((topology.room room).map (·.lightMembers)).getD []
  | publishLightSet light _ => [light]
  | _ => []

/-- The lights that messages address. -/
def addressedBy (topology : Topology) (effects : List Effect) : List LightEndpoint :=
  effects.flatMap (·.endpoints topology)

/-- The rule of an operation that is a step of motion control. -/
def Operation.motionRule : Operation → Option ResolvedMotionRule
  | startSession rule _ _ => some rule
  | releaseSession rule _ => some rule
  | finishSession rule _ _ => some rule
  | startupTurnOff rule _ => some rule
  | _ => none

/-- The operation opens a session. -/
def Operation.activates : Operation → Bool
  | startSession _ _ _ => true
  | _ => false

namespace Record

/-- The lights that the messages of the operation address. -/
def addressed (record : Record) : List LightEndpoint :=
  addressedBy record.env.topology record.effects

/-- The operation commanded the light. -/
def Tells (record : Record) (name : String) : Prop :=
  ∃ value owner, (record.after.world.lightAt name).target =
    .held value .commanded owner (record.operation.stamp record.env.clock.now)

/-- The operation left the target of a light, up to its owner. -/
def Leaves (record : Record) (name : String) : Prop :=
  (record.after.world.lightAt name).target.value = (record.before.world.lightAt name).target.value ∧
    (record.after.world.lightAt name).target.phase = (record.before.world.lightAt name).target.phase

instance (record : Record) (name : String) : Decidable (record.Leaves name) :=
  inferInstanceAs (Decidable (_ ∧ _))

/-- The operation sent nothing at all, and took over for an off-only rule what a light is observed
to be. -/
def Adopts (record : Record) (name : String) : Prop :=
  record.operation.motionRule.any (·.mode == .offOnly) ∧ record.effects = [] ∧
    (record.after.world.lightAt name).target =
      .held (if (record.before.world.lightAt name).actualIsOn then .on none none else .off)
        .confirmed .motion (record.operation.stamp record.env.clock.now)

/-- What the messages of a step of motion control address. -/
structure AddressesFree (record : Record) : Prop where
  /-- What a session turns on was not on. -/
  off_before : record.operation.activates → ∀ light ∈ record.addressed,
    (record.before.world.lightAt (record.env.lightName light)).isOn = false
  /-- No light is in a room in which motion is disabled. -/
  enabled : ∀ light ∈ record.addressed, ∀ room ∈ record.env.topology.rooms,
    (∃ member ∈ room.lightMembers, member.device = light.device) →
      record.env.motionEnabled room.name = true

/-- The lights addressed are those whose target the operation sets. -/
structure AddressesSet (record : Record) : Prop extends record.AddressesFree where
  set : ∀ light ∈ record.addressed, record.Tells (record.env.lightName light)
  left : ∀ name, (∀ light ∈ record.addressed, record.env.lightName light ≠ name) →
    record.Leaves name

/-- The lights addressed are those that the operation commands; an operation that addresses none may
take over what lights are observed to be. -/
structure AddressesCommanded (record : Record) : Prop extends record.AddressesFree where
  commanded : ∀ light ∈ record.addressed, record.Tells (record.env.lightName light)
  left : ∀ name, (∀ light ∈ record.addressed, record.env.lightName light ≠ name) →
    record.Leaves name ∨ record.Adopts name

end Record

theorem mem_addressedBy_group {topology : Topology} {room : RoomIdx} {resolved : ResolvedRoom}
    (here : topology.room room = some resolved) (payload : Payload) (light : LightEndpoint) :
    light ∈ addressedBy topology [.publishGroupSet room payload] ↔
      light ∈ resolved.lightMembers := by
  unfold addressedBy Effect.endpoints
  rw [List.flatMap_singleton]
  dsimp only
  rw [here]
  rfl

theorem addressedBy_lights (topology : Topology) (payload : Payload) (lights : List LightEndpoint) :
    addressedBy topology (lights.map fun light => .publishLightSet light payload) = lights := by
  induction lights with
  | nil => rfl
  | cons light rest ih =>
      unfold addressedBy at ih ⊢
      rw [List.map_cons, List.flatMap_cons, ih]
      rfl

namespace LightEntity

/-- Giving a light up leaves its target up to the owner. -/
theorem releaseMotion_leaves (light : LightEntity) (ts : Instant) :
    (light.releaseMotion ts).target.value = light.target.value ∧
      (light.releaseMotion ts).target.phase = light.target.phase := by
  unfold releaseMotion
  split
  · exact ⟨TassTarget.value_reassignOwner _ _ ts, TassTarget.phase_reassignOwner _ _ ts⟩
  · exact ⟨rfl, rfl⟩

/-- Claiming a light without a command leaves its target up to the owner, or takes over what is
observed. -/
theorem claimOffOnly_leaves (light : LightEntity) (ts : Instant) :
    ((light.claimOffOnly ts).target.value = light.target.value ∧
        (light.claimOffOnly ts).target.phase = light.target.phase) ∨
      (light.claimOffOnly ts).target =
        .held (if light.actualIsOn then .on none none else .off) .confirmed .motion ts := by
  unfold claimOffOnly
  split
  · exact .inr rfl
  · split
    · exact .inl ⟨TassTarget.value_reassignOwner _ _ ts, TassTarget.phase_reassignOwner _ _ ts⟩
    · exact .inl ⟨rfl, rfl⟩

end LightEntity

namespace Env

variable {env : Env} {rule : ResolvedMotionRule} {ts : Instant}

theorem enabled_of_allowed {light : LightEndpoint}
    (allowed : env.motionAllowedForLight light.device = true) {room : ResolvedRoom}
    (listed : room ∈ env.topology.rooms)
    (inside : ∃ member ∈ room.lightMembers, member.device = light.device) :
    env.motionEnabled room.name = true := by
  obtain ⟨member, among, same⟩ := inside
  have either := List.all_eq_true.mp allowed room listed
  have present : (room.lightMembers.any fun other => other.device == light.device) = true :=
    List.any_eq_true.mpr ⟨member, among, beq_iff_eq.mpr same⟩
  rw [present, Bool.not_true, Bool.or_false] at either
  exact either

/-! ## What the messages of a step address -/

/-- A session that turns lights on addresses the lights it may claim. -/
theorem Opens.mem_addressed {world : WorldState} (opens : Opens env rule ts world)
    (listed : rule ∈ env.topology.motionRules) (mode : rule.mode ≠ .offOnly)
    (light : LightEndpoint) :
    light ∈ addressedBy env.topology opens.result.2 ↔
      light ∈ opens.target.lights ∧ env.mayClaim rule world light = true := by
  have found := (activation_some opens.active).1
  rw [opens.effects, if_neg mode]
  cases taken : opens.group with
  | some group =>
      obtain ⟨targeted, all⟩ := opens.of_group taken
      obtain ⟨room, here⟩ := group_known listed found targeted
      dsimp only
      rw [mem_addressedBy_group here, ← group_members listed found targeted here]
      exact ⟨fun inside => ⟨inside, all light inside⟩, And.left⟩
  | none =>
      dsimp only
      rw [addressedBy_lights, List.mem_filter, decide_eq_true_iff]
      refine and_congr_right fun inside => ?_
      rw [opens.mem_claimed]
      constructor
      · rintro ⟨other, also, may, same⟩
        rwa [light_eq_of_device listed listed (target_light_controlled listed found also)
          (target_light_controlled listed found inside) same] at may
      · exact fun may => ⟨light, inside, may, rfl⟩

/-- Turning lights of a target off addresses these lights. -/
theorem mem_addressed_turnOffMotionLights {target : ResolvedMotionTarget}
    {lights : List LightEndpoint} {transition : ℚ} {owner : Owner} {world : WorldState}
    (members : ∀ group, wholeGroup target lights = some group →
      ∃ room, env.topology.room group = some room ∧
        ∀ light, light ∈ room.lightMembers ↔ light ∈ lights) (light : LightEndpoint) :
    light ∈ addressedBy env.topology
        (env.turnOffMotionLights target lights transition ts owner world).2 ↔ light ∈ lights := by
  rw [turnOffMotionLights_effects]
  cases whole : wholeGroup target lights with
  | some group =>
      obtain ⟨room, here, same⟩ := members group whole
      dsimp only
      rw [mem_addressedBy_group here]
      exact same light
  | none =>
      dsimp only
      rw [addressedBy_lights]

/-! ## Steps of motion control -/

/-- An operation that sends nothing and leaves every light addresses what it commands. -/
theorem addressesCommanded_of_silent {record : Record} (silent : record.effects = [])
    (left : ∀ name, record.Leaves name ∨ record.Adopts name) : record.AddressesCommanded := by
  have nothing : record.addressed = [] := by
    unfold Record.addressed
    rw [silent]
    rfl
  refine ⟨⟨fun _ light addressed => ?_, fun light addressed => ?_⟩, fun light addressed => ?_,
    fun name _ => left name⟩
  all_goals
    rw [nothing] at addressed
    cases addressed

theorem startSession_addresses (listed : rule ∈ env.topology.motionRules) (illuminance : Option Nat)
    (ts : Instant) (runtime : Runtime) :
    Record.AddressesCommanded
      { env, before := runtime, operation := .startSession rule illuminance ts } := by
  rcases startMotionSession_cases listed illuminance ts runtime.world with idle | ⟨opens, same⟩
  · refine addressesCommanded_of_silent idle.effects fun name => .inl ?_
    have kept :
        (Record.mk env runtime (.startSession rule illuminance ts)).after.world.lightAt name =
          runtime.world.lightAt name := idle.lightAt name
    unfold Record.Leaves
    rw [kept]
    exact ⟨rfl, rfl⟩
  · have published : (Record.mk env runtime (.startSession rule illuminance ts)).effects =
        opens.result.2 := congrArg Prod.snd same
    have after : ∀ name,
        (Record.mk env runtime (.startSession rule illuminance ts)).after.world.lightAt name =
          opens.result.1.lightAt name := fun name =>
      congrArg (fun result : WorldState × List Effect => result.1.lightAt name) same
    by_cases mode : rule.mode = .offOnly
    · -- Lights are claimed without a message.
      have silent := opens.effects
      rw [if_pos mode] at silent
      refine addressesCommanded_of_silent (published.trans silent) fun name => ?_
      unfold Record.Leaves Record.Adopts
      rw [after, opens.lightAt]
      split
      · rw [claimChange, if_pos mode]
        refine (LightEntity.claimOffOnly_leaves _ ts).imp_right fun adopted =>
          ⟨?_, published.trans silent, adopted⟩
        change (some rule).any _ = true
        rw [Option.any_some, mode]
        rfl
      · exact .inl ⟨rfl, rfl⟩
    · have addressed : ∀ light, light ∈ (Record.mk env runtime
          (.startSession rule illuminance ts)).addressed ↔
            light ∈ opens.target.lights ∧ env.mayClaim rule runtime.world light = true := by
        intro light
        unfold Record.addressed
        rw [published]
        exact opens.mem_addressed listed mode light
      have may : ∀ light, env.mayClaim rule runtime.world light = true →
          env.motionAllowedForLight light.device = true ∧
            (runtime.world.lightAt (env.lightName light)).isOn = false := by
        intro light claims
        unfold mayClaim at claims
        rw [Bool.and_eq_true, Bool.or_eq_true, beq_iff_eq, Bool.not_eq_true'] at claims
        exact ⟨claims.1, claims.2.resolve_left mode⟩
      refine ⟨⟨fun _ light inside => ?_, fun light inside room known within => ?_⟩,
        fun light inside => ?_, fun name outside => ?_⟩
      · exact (may light ((addressed light).mp inside).2).2
      · exact enabled_of_allowed (may light ((addressed light).mp inside).2).1 known within
      · obtain ⟨own, claims⟩ := (addressed light).mp inside
        refine ⟨.on opens.scene.brightness opens.scene.colorTemp, rule.mode.activationOwner, ?_⟩
        dsimp only
        rw [after, opens.lightAt, if_pos ⟨light, own, rfl, claims⟩, claimChange, if_neg mode]
        rfl
      · refine .inl ?_
        unfold Record.Leaves
        rw [after, opens.lightAt, if_neg]
        · exact ⟨rfl, rfl⟩
        · rintro ⟨light, own, named, claims⟩
          exact outside light ((addressed light).mpr ⟨own, claims⟩) named

/-- Turning off lights of a target that motion may turn off. -/
theorem turnOffMotionLights_addresses {record : Record} {target : ResolvedMotionTarget}
    {lights : List LightEndpoint} {transition : ℚ} {owner : Owner} {world : WorldState}
    (ts : Instant) (closes : record.operation.activates = false)
    (stamped : record.operation.stamp record.env.clock.now = ts)
    (published : record.effects =
      (record.env.turnOffMotionLights target lights transition ts owner world).2)
    (before : ∀ name, world.lightAt name = record.before.world.lightAt name)
    (after : ∀ name, record.after.world.lightAt name =
      (record.env.turnOffMotionLights target lights transition ts owner world).1.lightAt name)
    (members : ∀ group, wholeGroup target lights = some group →
      ∃ room, record.env.topology.room group = some room ∧
        ∀ light, light ∈ room.lightMembers ↔ light ∈ lights)
    (allowed : ∀ light ∈ lights, record.env.motionAllowedForLight light.device = true) :
    record.AddressesCommanded := by
  have addressed : ∀ light, light ∈ record.addressed ↔ light ∈ lights := by
    intro light
    unfold Record.addressed
    rw [published]
    exact mem_addressed_turnOffMotionLights members light
  refine ⟨⟨fun activates => ?_, fun light inside room known within => ?_⟩, fun light inside => ?_,
    fun name outside => .inl ?_⟩
  · rw [closes] at activates
    cases activates
  · exact enabled_of_allowed (allowed light ((addressed light).mp inside)) known within
  · refine ⟨.off, owner, ?_⟩
    rw [after, turnOffMotionLights_lightAt,
      if_pos ⟨light, (addressed light).mp inside, rfl⟩, stamped]
    rfl
  · unfold Record.Leaves
    rw [after, turnOffMotionLights_lightAt, if_neg, before]
    · exact ⟨rfl, rfl⟩
    · rintro ⟨light, own, named⟩
      exact outside light ((addressed light).mpr own) named

theorem releaseMotionSession_leaves (rule : ResolvedMotionRule) (ts : Instant) (world : WorldState)
    (name : String) :
    ((env.releaseMotionSession rule ts world).lightAt name).target.value =
        (world.lightAt name).target.value ∧
      ((env.releaseMotionSession rule ts world).lightAt name).target.phase =
        (world.lightAt name).target.phase := by
  cases live : world.motionSession rule with
  | none =>
      unfold releaseMotionSession
      rw [live]
      exact ⟨rfl, rfl⟩
  | some session =>
      rw [releaseMotionSession_lightAt rule ts live]
      split
      · exact LightEntity.releaseMotion_leaves _ ts
      · exact ⟨rfl, rfl⟩

theorem finishSession_addresses (listed : rule ∈ env.topology.motionRules) (ts : Instant)
    (owner : Owner) {runtime : Runtime} (fit : runtime.world.SessionsFit env.topology) :
    Record.AddressesCommanded
      { env, before := runtime, operation := .finishSession rule ts owner } := by
  have finish := finishMotionSession_finish env rule ts owner runtime.world
  generalize same : env.finishMotionSession rule ts owner runtime.world = result at finish
  have published : (Record.mk env runtime (.finishSession rule ts owner)).effects = result.2 :=
    congrArg Prod.snd same
  have reached : (Record.mk env runtime (.finishSession rule ts owner)).after.world = result.1 :=
    congrArg Prod.fst same
  cases finish with
  | idle closed =>
      refine addressesCommanded_of_silent published fun name => .inl ?_
      unfold Record.Leaves
      rw [reached]
      exact ⟨rfl, rfl⟩
  | off session live targetOff =>
      refine addressesCommanded_of_silent published fun name => .inl ?_
      unfold Record.Leaves
      rw [reached]
      exact releaseMotionSession_leaves rule ts runtime.world name
  | leave session live targetOn leaves =>
      refine addressesCommanded_of_silent published fun name => .inl ?_
      unfold Record.Leaves
      rw [reached]
      exact ⟨rfl, rfl⟩
  | turnOff session live targetOn mode owned =>
      obtain ⟨slot, found⟩ := (fit rule listed session live).target
      refine turnOffMotionLights_addresses ts rfl rfl published (fun _ => rfl)
        (fun name => ?_) ?_ ?_
      · rw [reached]
        rfl
      · intro group whole
        obtain ⟨targeted, all⟩ := wholeGroup_filter whole
        obtain ⟨room, here⟩ := group_known listed found targeted
        refine ⟨room, here, fun light => ?_⟩
        rw [← group_members listed found targeted here]
        exact ⟨all light, fun inside => (List.mem_filter.mp inside).1⟩
      · intro light inside
        have eligible := (List.mem_filter.mp inside).2
        rw [Bool.and_eq_true, Bool.and_eq_true] at eligible
        exact eligible.1.2

theorem startupTurnOff_addresses (listed : rule ∈ env.topology.motionRules) (ts : Instant)
    (runtime : Runtime) :
    Record.AddressesCommanded { env, before := runtime, operation := .startupTurnOff rule ts } := by
  have startup := startupTurnOff_startup env rule ts runtime.world
  generalize same : env.startupTurnOff rule ts runtime.world = result at startup
  have published : (Record.mk env runtime (.startupTurnOff rule ts)).effects = result.2 :=
    congrArg Prod.snd same
  have reached : (Record.mk env runtime (.startupTurnOff rule ts)).after.world = result.1 :=
    congrArg Prod.fst same
  cases startup with
  | idle nothing =>
      refine addressesCommanded_of_silent published fun name => .inl ?_
      unfold Record.Leaves
      rw [reached]
      exact ⟨rfl, rfl⟩
  | start mode observed occupied =>
      -- An off-only session publishes nothing.
      have opened := startSession_addresses listed none ts runtime
      have silent : (env.startMotionSession rule none ts runtime.world).2 = [] := by
        rcases startMotionSession_cases listed none ts runtime.world with idle | ⟨opens, opened⟩
        · exact idle.effects
        · rw [opened, opens.effects, if_pos mode]
      refine addressesCommanded_of_silent (published.trans silent) fun name => ?_
      have nothing : (Record.mk env runtime (.startSession rule none ts)).addressed = [] := by
        have sent : (Record.mk env runtime (.startSession rule none ts)).effects = [] := silent
        unfold Record.addressed
        rw [sent]
        rfl
      have left := opened.left name (by simp [nothing])
      unfold Record.Leaves Record.Adopts at left ⊢
      rw [reached]
      exact left.imp_right fun adopted => ⟨adopted.1, published.trans silent, adopted.2.2⟩
  | reset mode observed free resets =>
      refine turnOffMotionLights_addresses ts rfl rfl (published.trans resets.effects)
        (fun _ => rfl) (fun name => ?_) ?_ ?_
      · rw [reached]
        exact resets.lightAt name
      · intro group whole
        obtain ⟨targeted, all⟩ := wholeGroup_filter whole
        obtain ⟨room, here, members⟩ := wholeRuleGroup_members listed targeted
        refine ⟨room, here, fun light => ?_⟩
        rw [members]
        exact ⟨all light, fun inside => (List.mem_filter.mp inside).1⟩
      · exact fun light inside => (List.mem_filter.mp inside).2

end Env

/-! ## Runs -/

/-- In every run the messages of a step of motion control address exactly the lights that the step
commands, none of them in a room in which motion is disabled, and a session turns on only what was
not on. -/
theorem Run.motion_addresses {history : List Record} {daemon : Daemon} (run : Run history daemon) :
    ∀ record ∈ history, record.operation.motionRule.isSome → record.AddressesCommanded := by
  intro record performed motion
  obtain ⟨past, later, split⟩ := List.append_of_mem performed
  obtain ⟨admissible, _, fit⟩ := Run.each_record WorldState.sessionsFit_kept run split
  obtain ⟨env, before, operation⟩ := record
  cases operation with
  | startSession rule illuminance ts =>
      exact Env.startSession_addresses admissible illuminance ts before
  | releaseSession rule ts =>
      refine Env.addressesCommanded_of_silent rfl fun name => .inl ?_
      exact Env.releaseMotionSession_leaves rule ts before.world name
  | finishSession rule ts owner => exact Env.finishSession_addresses admissible ts owner fit
  | startupTurnOff rule ts => exact Env.startupTurnOff_addresses admissible ts before
  | _ => cases motion

/-- Motion at the door recalls the first scene of the hall, which addresses the spot. -/
theorem Run.motion_addresses_hall :
    ∃ (history : List Record) (daemon : Daemon), Run history daemon ∧
    (∃ record ∈ history, record.operation.activates = true ∧ record.addressed = [House.spot]) ∧
      ∀ record ∈ history, record.operation.motionRule.isSome → record.AddressesCommanded := by
  obtain ⟨daemon, history, run, _, facts⟩ := House.played .offOnly []
    [(0, .start), (1, .event (.occupancy "door" true none none (Duration.fromSecs 1)))]
    (fun reached : Daemon × List Record => reached.2.any fun record : Record =>
      record.operation.activates && decide (record.addressed = [House.spot]))
    true (by decide +kernel)
  obtain ⟨record, performed, opened⟩ := List.any_eq_true.mp facts
  rw [Bool.and_eq_true, decide_eq_true_eq] at opened
  exact ⟨history, daemon, run, ⟨record, performed, opened⟩, Run.motion_addresses run⟩

/-- Motion in the study takes over that the lamp is off, and sends nothing. -/
theorem Run.motion_addresses_fails :
    ¬ ∀ (history : List Record) (daemon : Daemon), Run history daemon →
    ∀ record ∈ history, record.operation.motionRule.isSome → record.AddressesSet := by
  intro claim
  obtain ⟨daemon, history, run, _, facts⟩ := House.played .offOnly []
    [(0, .start), (1, .event (.occupancy "eye" true none none (Duration.fromSecs 1)))]
    (fun reached : Daemon × List Record => reached.2.any fun record : Record =>
      record.operation.motionRule.isSome && decide (record.addressed = []) &&
        decide (¬ record.Leaves "lamp"))
    true (by decide +kernel)
  obtain ⟨record, performed, opened⟩ := List.any_eq_true.mp facts
  rw [Bool.and_eq_true, Bool.and_eq_true, decide_eq_true_eq, decide_eq_true_eq] at opened
  obtain ⟨⟨motion, silent⟩, adopted⟩ := opened
  exact adopted ((claim history daemon run record performed motion).left "lamp" (by simp [silent]))

end MqttController
