import MqttController.Sessions

/-!
# Group messages reach the light model

After an operation that sent OFF or a scene to a group, the members and the zone have the target
that the message commands.  Turning off all zones leaves members alone, and a motion rule may recall
a scene that its group does not have.
-/

namespace MqttController

open WorldState Env

namespace Payload

/-- OFF or a scene recall. -/
def CommandsGroup : Payload → Prop
  | stateOff _ _ => True
  | sceneRecall _ => True
  | _ => False

theorem not_commandsGroup_of_brightness {payload : Payload} (brightness : payload.IsBrightness) :
    ¬ payload.CommandsGroup := by
  cases payload <;> first | exact not_false | cases brightness

end Payload

namespace Effect

/-- OFF or a scene recall sent to a group that the light is a member of. -/
def CommandsMember (topology : Topology) (device : DeviceIdx) : Effect → Prop
  | publishGroupSet room payload =>
      payload.CommandsGroup ∧ (publishGroupSet room payload).reaches topology device
  | _ => False

end Effect

/-- When the operation has finished, every member of a group it addressed has the target that the
last message to a group of the member commands, and the zone of the group has it too. -/
def Record.MirrorsGroups (record : Record) : Prop :=
  ∀ earlier idx payload later room,
    record.effects = earlier ++ .publishGroupSet idx payload :: later → payload.CommandsGroup →
      record.env.topology.room idx = some room →
      (∀ light ∈ room.lightMembers,
        (∀ effect ∈ later, ¬ effect.CommandsMember record.env.topology light.device) →
          ∃ value, (record.after.world.lightAt (record.env.lightName light)).target.value =
            some value ∧ payload.commandsLight room value) ∧
      ∃ target, (record.after.world.zoneAt room.name).target.value = some target ∧
        payload.commandsZone target

namespace Env

variable {env : Env}

/-- A session that turns lights on would take over a group with a scene that the group does not
have. -/
def RecallsForeignScene (env : Env) (rule : ResolvedMotionRule) (illuminance : Option Nat)
    (ts : Instant) (world : WorldState) : Prop :=
  rule.mode ≠ .offOnly ∧ world.activationSuppressed rule illuminance ts = false ∧
    ∃ slot sceneId scene target group room,
      env.activation rule = some (slot, sceneId, scene, target) ∧
        env.groupAlreadyOn rule target world = false ∧ target.group = some group ∧
          env.topology.room group = some room ∧
            (∀ light ∈ target.lights, env.mayClaim rule world light) ∧
              ¬ (Payload.sceneRecall sceneId).commandsLight room
                (.on scene.brightness scene.colorTemp)

end Env

/-- The operation mirrors its group messages, judged by the state before: it does not turn off all
zones while a member of a room that is on is not told to be off, and does not recall a foreign
scene. -/
def Operation.ReachesModel (env : Env) (world : WorldState) : Operation → Prop
  | execute _ .turnOffAllZones _ => ∀ idx room, env.topology.room idx = some room →
      (world.zoneAt room.name).isOn → ∀ light ∈ room.lightMembers,
        (world.lightAt (env.lightName light)).target.value = some .off
  | startSession rule illuminance ts => ¬ env.RecallsForeignScene rule illuminance ts world
  | _ => True

namespace Record

variable {record : Record}

/-- Without OFF or scene messages to groups there is nothing to mirror. -/
theorem mirrorsGroups_of_none (none : ∀ idx payload,
    Effect.publishGroupSet idx payload ∈ record.effects → ¬ payload.CommandsGroup) :
    record.MirrorsGroups := by
  intro earlier idx payload later room split commands
  refine absurd commands (none idx payload ?_)
  rw [split]
  simp

theorem mirrorsGroups_of_nil (silent : record.effects = []) : record.MirrorsGroups :=
  mirrorsGroups_of_none (by simp [silent])

/-- Messages to single lights are not to groups. -/
theorem mirrorsGroups_of_lights
    (single : ∀ effect ∈ record.effects, ∃ light payload, effect = .publishLightSet light payload) :
    record.MirrorsGroups := by
  refine mirrorsGroups_of_none fun idx payload member => ?_
  obtain ⟨light, other, same⟩ := single _ member
  cases same

/-- The mirror of the only message. -/
theorem mirrorsGroups_of_single {idx : RoomIdx} {payload : Payload} {room : ResolvedRoom}
    (only : record.effects = [.publishGroupSet idx payload])
    (here : record.env.topology.room idx = some room)
    (lights : ∀ light ∈ room.lightMembers, ∃ value,
      (record.after.world.lightAt (record.env.lightName light)).target.value = some value ∧
        payload.commandsLight room value)
    (zone : ∃ target, (record.after.world.zoneAt room.name).target.value = some target ∧
      payload.commandsZone target) : record.MirrorsGroups := by
  intro earlier other payload' later room' split _ there
  rw [only] at split
  obtain ⟨rfl, same⟩ : earlier = [] ∧ _ := by
    cases earlier with
    | nil => exact ⟨rfl, split⟩
    | cons first rest => simp at split
  cases same
  rw [here] at there
  cases there
  exact ⟨fun light member _ => lights light member, zone⟩

end Record

namespace Env

variable {env : Env} {runtime : Runtime}

/-! ## Manual commands -/

theorem Outcome.mirrorsGroups {ts : Instant} {operation : Operation}
    (outcome : Outcome env runtime.world ts
      ((operation.run env runtime).1.world, (operation.run env runtime).2)) :
    Record.MirrorsGroups { env, before := runtime, operation } := by
  generalize published : (operation.run env runtime).2 = effects at outcome
  generalize reached : (operation.run env runtime).1.world = after at outcome
  cases outcome with
  | group idx room payload here mirrors =>
      refine Record.mirrorsGroups_of_single published here (fun light member => ?_) ?_
      · obtain ⟨value, owner, commands, held, _⟩ := mirrors.lights light member
        refine ⟨value, ?_, commands⟩
        change ((operation.run env runtime).1.world.lightAt _).target.value = _
        rw [reached, held]
        rfl
      · change ∃ target, ((operation.run env runtime).1.world.zoneAt _).target.value = _ ∧ _
        rw [reached]
        exact mirrors.zone
  | brightness idx room payload here brightness taken =>
      refine Record.mirrorsGroups_of_none fun idx' payload' member => ?_
      change _ ∈ (operation.run env runtime).2 at member
      rw [published, List.mem_singleton] at member
      cases member
      exact Payload.not_commandsGroup_of_brightness brightness
  | lights effects single =>
      refine Record.mirrorsGroups_of_lights fun effect member => ?_
      change _ ∈ (operation.run env runtime).2 at member
      rw [published] at member
      obtain ⟨light, payload, same, _⟩ := single effect member
      exact ⟨light, payload, same⟩

/-! ## Motion -/

/-- Lights of a group target are the members of the group. -/
theorem group_members {rule : ResolvedMotionRule} (listed : rule ∈ env.topology.motionRules)
    {slot : String} {target : ResolvedMotionTarget}
    (found : rule.targetsBySlot[slot]? = some target)
    {group : RoomIdx} (targeted : target.group = some group) {room : ResolvedRoom}
    (here : env.topology.room group = some room) : target.lights = room.lightMembers := by
  obtain ⟨other, there, lights⟩ :=
    (env.topology.valid.rules_fit rule listed).group_lights slot target group found targeted
  rw [here] at there
  cases there
  exact lights

theorem group_known {rule : ResolvedMotionRule} (listed : rule ∈ env.topology.motionRules)
    {slot : String} {target : ResolvedMotionTarget}
    (found : rule.targetsBySlot[slot]? = some target)
    {group : RoomIdx} (targeted : target.group = some group) :
    ∃ room, env.topology.room group = some room :=
  ((env.topology.valid.rules_fit rule listed).group_lights slot target group found targeted).imp
    fun _ => And.left

/-- Turning off lights of a target mirrors the message to its group. -/
theorem turnOffMotionLights_mirrors {target : ResolvedMotionTarget} {lights : List LightEndpoint}
    {transition : ℚ} {ts : Instant} {owner : Owner} {world : WorldState} {record : Record}
    (published : record.effects = (record.env.turnOffMotionLights target lights transition ts owner
      world).2)
    (lightAt : ∀ name, record.after.world.lightAt name =
      (record.env.turnOffMotionLights target lights transition ts owner world).1.lightAt name)
    (zoneAt : ∀ name, (record.after.world.zoneAt name).target =
      ((record.env.turnOffMotionLights target lights transition ts owner world).1.zoneAt
        name).target)
    (members : ∀ group room, wholeGroup target lights = some group →
      record.env.topology.room group = some room → ∀ light ∈ room.lightMembers, light ∈ lights)
    (known : ∀ group, wholeGroup target lights = some group →
      ∃ room, record.env.topology.room group = some room) : record.MirrorsGroups := by
  rw [turnOffMotionLights_effects] at published
  cases whole : wholeGroup target lights with
  | none =>
      refine Record.mirrorsGroups_of_lights fun effect member => ?_
      rw [published, whole] at member
      obtain ⟨light, _, rfl⟩ := List.mem_map.mp member
      exact ⟨light, _, rfl⟩
  | some group =>
      rw [whole] at published
      obtain ⟨room, here⟩ := known group whole
      refine Record.mirrorsGroups_of_single published here (fun light member => ?_) ?_
      · refine ⟨.off, ?_, rfl⟩
        rw [lightAt, turnOffMotionLights_lightAt,
          if_pos ⟨light, members group room whole here light member, rfl⟩]
        rfl
      · refine ⟨.off, ?_, rfl⟩
        rw [zoneAt, turnOffMotionLights_zoneAt,
          if_pos ⟨group, whole, TopologyTables.roomName_of_room here⟩]
        rfl

/-- A session that opens with a message to a group mirrors it exactly when the scene is one of the
group. -/
theorem opens_mirrors_iff {rule : ResolvedMotionRule} (listed : rule ∈ env.topology.motionRules)
    {illuminance : Option Nat} {ts : Instant} (opens : Opens env rule ts runtime.world)
    (same : env.startMotionSession rule illuminance ts runtime.world = opens.result)
    (mode : rule.mode ≠ .offOnly) {group : RoomIdx} (taken : opens.group = some group)
    {room : ResolvedRoom} (here : env.topology.room group = some room) :
    Record.MirrorsGroups
      { env, before := runtime, operation := .startSession rule illuminance ts } ↔
      (Payload.sceneRecall opens.sceneId).commandsLight room
        (.on opens.scene.brightness opens.scene.colorTemp) := by
  have after : ∀ name, (Record.mk env runtime
      (.startSession rule illuminance ts)).after.world.lightAt name =
        opens.result.1.lightAt name := fun name =>
    congrArg (fun result : WorldState × List Effect => result.1.lightAt name) same
  have zones : ∀ name, (Record.mk env runtime
      (.startSession rule illuminance ts)).after.world.zoneAt name =
        opens.result.1.zoneAt name := fun name =>
    congrArg (fun result : WorldState × List Effect => result.1.zoneAt name) same
  have published : (Record.mk env runtime (.startSession rule illuminance ts)).effects =
      opens.result.2 := congrArg Prod.snd same
  rw [opens.effects, if_neg mode, taken] at published
  obtain ⟨targeted, all⟩ := opens.of_group taken
  have found := (activation_some opens.active).1
  have members := group_members listed found targeted here
  have told : ∀ light ∈ room.lightMembers,
      (opens.result.1.lightAt (env.lightName light)).target.value =
        some (.on opens.scene.brightness opens.scene.colorTemp) := by
    intro light member
    rw [← members] at member
    rw [opens.lightAt, if_pos ⟨light, member, rfl, all light member⟩, claimChange, if_neg mode]
    rfl
  constructor
  · intro mirrors
    obtain ⟨light, inside⟩ := List.exists_mem_of_ne_nil _
      ((env.topology.valid.rules_fit rule listed).lights_nonempty _ _ found)
    rw [members] at inside
    obtain ⟨value, held, commands⟩ :=
      (mirrors [] group _ [] room published trivial here).1 light inside (by simp)
    rw [after] at held
    dsimp only at held
    rw [told light inside] at held
    cases held
    exact commands
  · intro commands
    refine Record.mirrorsGroups_of_single published here (fun light member => ?_) ?_
    · refine ⟨_, ?_, commands⟩
      rw [after]
      exact told light member
    · refine ⟨.on opens.sceneId 0, ?_, rfl⟩
      rw [zones, opens.zoneAt,
        if_pos ⟨group, taken, TopologyTables.roomName_of_room here⟩, if_neg mode]
      rfl

theorem startSession_mirrors_iff {rule : ResolvedMotionRule}
    (listed : rule ∈ env.topology.motionRules) (illuminance : Option Nat) (ts : Instant)
    (runtime : Runtime) :
    Record.MirrorsGroups
      { env, before := runtime, operation := .startSession rule illuminance ts } ↔
      ¬ env.RecallsForeignScene rule illuminance ts runtime.world := by
  rcases startMotionSession_starts listed illuminance ts runtime.world with
    ⟨idle, apart⟩ | ⟨starts, opens, same⟩
  · refine iff_of_true (Record.mirrorsGroups_of_nil idle.effects) ?_
    rintro ⟨_, free, slot, sceneId, scene, target, group, room, active, already, _, _, all, _⟩
    obtain ⟨light, inside⟩ := List.exists_mem_of_ne_nil _
      ((env.topology.valid.rules_fit rule listed).lights_nonempty _ _ (activation_some active).1)
    exact apart ⟨free, slot, sceneId, scene, target, active, already, light, inside,
      all light inside⟩
  · have published : (Record.mk env runtime (.startSession rule illuminance ts)).effects =
        opens.result.2 := congrArg Prod.snd same
    rw [opens.effects] at published
    by_cases mode : rule.mode = .offOnly
    · rw [if_pos mode] at published
      exact iff_of_true (Record.mirrorsGroups_of_nil published) fun recalls => recalls.1 mode
    · rw [if_neg mode] at published
      cases taken : opens.group with
      | none =>
          rw [taken] at published
          refine iff_of_true (Record.mirrorsGroups_of_lights fun effect member => ?_) ?_
          · rw [published] at member
            obtain ⟨light, _, rfl⟩ := List.mem_map.mp member
            exact ⟨light, _, rfl⟩
          · rintro ⟨_, _, slot, sceneId, scene, target, group, room, active, _, targeted, _, all, _⟩
            have found := opens.active
            rw [active] at found
            cases found
            rw [opens.group_of_all listed all, targeted] at taken
            cases taken
      | some group =>
          obtain ⟨targeted, all⟩ := opens.of_group taken
          obtain ⟨room, here⟩ := group_known listed (activation_some opens.active).1 targeted
          rw [opens_mirrors_iff listed opens same mode taken here]
          constructor
          · rintro commands ⟨_, _, slot, sceneId, scene, target, group', room', active, _,
              targeted', here', _, foreign⟩
            have same' := opens.active
            rw [active] at same'
            cases same'
            rw [targeted] at targeted'
            cases targeted'
            rw [here] at here'
            cases here'
            exact foreign commands
          · intro own
            by_contra foreign
            obtain ⟨free, _, _, _, _, active, already, _⟩ := starts
            have same' := opens.active
            rw [active] at same'
            cases same'
            exact own ⟨mode, free, _, _, _, _, group, room, opens.active, already, targeted, here,
              all, foreign⟩

theorem finishSession_mirrors {rule : ResolvedMotionRule}
    (listed : rule ∈ env.topology.motionRules) (ts : Instant) (owner : Owner)
    (fit : runtime.world.SessionsFit env.topology) :
    Record.MirrorsGroups { env, before := runtime, operation := .finishSession rule ts owner } := by
  have finish := finishMotionSession_finish env rule ts owner runtime.world
  generalize same : env.finishMotionSession rule ts owner runtime.world = result at finish
  have published : (Record.mk env runtime (.finishSession rule ts owner)).effects = result.2 :=
    congrArg Prod.snd same
  have reached : (Record.mk env runtime (.finishSession rule ts owner)).after.world = result.1 :=
    congrArg Prod.fst same
  cases finish with
  | idle closed => exact Record.mirrorsGroups_of_nil published
  | off session live targetOff => exact Record.mirrorsGroups_of_nil published
  | leave session live targetOn leaves => exact Record.mirrorsGroups_of_nil published
  | turnOff session live targetOn mode owned =>
      obtain ⟨slot, found⟩ := (fit rule listed session live).target
      refine turnOffMotionLights_mirrors published (fun name => ?_) (fun name => ?_) ?_ ?_
      · rw [reached]
        rfl
      · rw [reached]
        rfl
      · intro group room whole here light member
        obtain ⟨targeted, all⟩ := wholeGroup_filter whole
        rw [← group_members listed found targeted here] at member
        exact all light member
      · intro group whole
        exact group_known listed found (wholeGroup_filter whole).1

/-- The group startup turns off has exactly the lights of the rule. -/
theorem wholeRuleGroup_members {rule : ResolvedMotionRule}
    (listed : rule ∈ env.topology.motionRules)
    {group : RoomIdx} (whole : wholeRuleGroup rule = some group) :
    ∃ room, env.topology.room group = some room ∧
      ∀ light, light ∈ room.lightMembers ↔ light ∈ rule.lights := by
  unfold wholeRuleGroup at whole
  obtain ⟨entry, found, targeted⟩ := Option.bind_eq_some_iff.mp whole
  have stored := Std.TreeMap.mem_toList_iff_getElem?_eq_some.mp (List.mem_of_find?_eq_some found)
  have same := List.find?_some found
  rw [Bool.and_eq_true, decide_eq_true_eq] at same
  obtain ⟨room, here, lights⟩ := (env.topology.valid.rules_fit rule listed).group_lights _ _ group
    stored targeted
  refine ⟨room, here, fun light => ?_⟩
  rw [← lights, ← List.mem_toFinset, same.2, List.mem_toFinset]

theorem startupTurnOff_mirrors {rule : ResolvedMotionRule}
    (listed : rule ∈ env.topology.motionRules) (ts : Instant) (runtime : Runtime) :
    Record.MirrorsGroups { env, before := runtime, operation := .startupTurnOff rule ts } := by
  have startup := startupTurnOff_startup env rule ts runtime.world
  generalize same : env.startupTurnOff rule ts runtime.world = result at startup
  have published : (Record.mk env runtime (.startupTurnOff rule ts)).effects = result.2 :=
    congrArg Prod.snd same
  have reached : (Record.mk env runtime (.startupTurnOff rule ts)).after.world = result.1 :=
    congrArg Prod.fst same
  cases startup with
  | idle nothing => exact Record.mirrorsGroups_of_nil published
  | start mode observed occupied =>
      -- An off-only session publishes nothing.
      refine Record.mirrorsGroups_of_nil (published.trans ?_)
      rcases startMotionSession_cases listed none ts runtime.world with idle | ⟨opens, opened⟩
      · exact idle.effects
      · rw [opened, opens.effects, if_pos mode]
  | reset mode observed free resets =>
      refine turnOffMotionLights_mirrors (published.trans resets.effects) (fun name => ?_)
        (fun name => ?_) ?_ ?_
      · rw [reached]
        exact resets.lightAt name
      · obtain ⟨last, zone⟩ := resets.zoneAt name
        rw [reached, zone]
        rfl
      · intro group room whole here light member
        obtain ⟨targeted, all⟩ := wholeGroup_filter whole
        obtain ⟨own, there, members⟩ := wholeRuleGroup_members listed targeted
        change env.topology.room group = some room at here
        rw [here] at there
        cases there
        exact all light ((members light).mp member)
      · intro group whole
        obtain ⟨room, here, _⟩ := wholeRuleGroup_members listed (wholeGroup_filter whole).1
        exact ⟨room, here⟩

/-! ## All zones -/

theorem allZones_mirrors_iff (ruleName : String) (ts : Instant) (runtime : Runtime) :
    Record.MirrorsGroups
      { env, before := runtime, operation := .execute ruleName .turnOffAllZones ts } ↔
      ∀ idx room, env.topology.room idx = some room → (runtime.world.zoneAt room.name).isOn →
        ∀ light ∈ room.lightMembers,
          (runtime.world.lightAt (env.lightName light)).target.value = some .off := by
  have lights : ∀ name, (env.turnOffAllZones ts runtime.world).1.lightAt name =
      runtime.world.lightAt name := fun name =>
    (turnOffAllZones_touches env ts runtime.world).lights.eq_of_no_step fun _ _ => not_false
  constructor
  · intro mirrors idx room here on light member
    have sent : Effect.publishGroupSet idx (.off room.offTransitionSeconds) ∈
        (env.turnOffAllZones ts runtime.world).2 :=
      mem_turnOffAllZones_effects.mpr ⟨idx, room, here, on, rfl⟩
    -- The last message that reaches the light decides, and it is to some room with the light.
    have reached : ∃ effect ∈ (env.turnOffAllZones ts runtime.world).2,
        Effect.CommandsMember env.topology light.device effect :=
      ⟨_, sent, trivial, room, here, light, member, rfl⟩
    obtain ⟨earlier, last, later, split, reaches, none⟩ := Emission.exists_last reached
    have inside : last ∈ (env.turnOffAllZones ts runtime.world).2 := by
      rw [split]
      simp
    obtain ⟨idx', room', there, _, rfl⟩ := mem_turnOffAllZones_effects.mp inside
    obtain ⟨_, own, same, light', member', device⟩ := reaches
    rw [there] at same
    cases same
    obtain ⟨value, held, commands⟩ :=
      (mirrors earlier idx' _ later room' split trivial there).1 light' member' (by rwa [device])
    change ((env.turnOffAllZones ts runtime.world).1.lightAt (env.lightName light')).target.value =
      some value at held
    have named : env.lightName light' = env.lightName light :=
      congrArg env.topology.deviceName device
    rw [lights, named] at held
    rw [held, show value = .off from commands]
  · intro off earlier idx payload later room split commands here
    have sent : Effect.publishGroupSet idx payload ∈ (env.turnOffAllZones ts runtime.world).2 := by
      change (env.turnOffAllZones ts runtime.world).2 = _ at split
      rw [split]
      simp
    obtain ⟨idx', room', there, on, same⟩ := mem_turnOffAllZones_effects.mp sent
    cases same
    change env.topology.room idx = some room at here
    rw [here] at there
    cases there
    refine ⟨fun light member _ => ⟨.off, ?_, rfl⟩, .off, ?_, rfl⟩
    · change ((env.turnOffAllZones ts runtime.world).1.lightAt _).target.value = _
      rw [lights]
      exact off idx room here on light member
    · change ((env.turnOffAllZones ts runtime.world).1.zoneAt _).target.value = _
      rw [turnOffAllZones_zoneAt, if_pos ⟨by
        rw [TopologyTables.roomByName_of_room env.topology.valid here]
        rfl, on⟩]
      rfl

/-- An operation mirrors its group messages exactly when it reaches the model. -/
theorem run_mirrors_iff {operation : Operation} (admissible : operation.Admissible env.topology)
    (fit : runtime.world.SessionsFit env.topology) :
    Record.MirrorsGroups { env, before := runtime, operation } ↔
      operation.ReachesModel env runtime.world := by
  have spared : operation.sparesLighting →
      Record.MirrorsGroups { env, before := runtime, operation } := fun spares =>
    Record.mirrorsGroups_of_none fun idx payload member =>
      absurd ((Operation.run_spares env spares runtime).2 _ member) not_false
  have manual : ∀ {name : String}, operation.manualRoom env = some name →
      Record.MirrorsGroups { env, before := runtime, operation } := fun about =>
    (Operation.run_outcome about runtime).elim fun _ outcome => outcome.mirrorsGroups
  cases operation with
  | execute ruleName effect ts =>
      cases about : effect.room with
      | some room =>
          have mirrors := manual (Option.map_eq_some_iff.mpr ⟨room, about, rfl⟩)
          cases effect <;> first | exact iff_of_true mirrors trivial | cases about
      | none =>
          cases effect with
          | turnOffAllZones => exact allZones_mirrors_iff ruleName ts runtime
          | toggle plug seconds => exact iff_of_true (spared rfl) trivial
          | turnOn plug => exact iff_of_true (spared rfl) trivial
          | turnOff plug => exact iff_of_true (spared rfl) trivial
          | _ => cases about
  | webRecallScene room sceneId ts => exact iff_of_true (manual rfl) trivial
  | webSetRoomOff room ts => exact iff_of_true (manual rfl) trivial
  | startSession rule illuminance ts =>
      exact startSession_mirrors_iff admissible illuminance ts runtime
  | finishSession rule ts owner =>
      exact iff_of_true (finishSession_mirrors admissible ts owner fit) trivial
  | startupTurnOff rule ts =>
      exact iff_of_true (startupTurnOff_mirrors admissible ts runtime) trivial
  | releaseSession rule ts => exact iff_of_true (Record.mirrorsGroups_of_nil rfl) trivial
  | observeSensor sensor occupied illuminance received ts =>
      exact iff_of_true (Record.mirrorsGroups_of_nil rfl) trivial
  | observeGroup group on ts => exact iff_of_true (Record.mirrorsGroups_of_nil rfl) trivial
  | observeLight device actual ts => exact iff_of_true (Record.mirrorsGroups_of_nil rfl) trivial
  | ageTargets ts => exact iff_of_true (Record.mirrorsGroups_of_nil rfl) trivial
  | ageActuals ts => exact iff_of_true (Record.mirrorsGroups_of_nil rfl) trivial
  | blockMotion room ts => exact iff_of_true (Record.mirrorsGroups_of_nil rfl) trivial
  | forgetCycle room => exact iff_of_true (Record.mirrorsGroups_of_nil rfl) trivial
  | _ => exact iff_of_true (spared rfl) trivial

end Env

/-! ## Runs -/

theorem WorldState.groupsMirrored_kept : KeptByOperations fun topology history runtime =>
    runtime.world.SessionsFit topology ∧ ∀ record ∈ history,
      (record.MirrorsGroups ↔ record.operation.ReachesModel record.env record.before.world) where
  launch topology := ⟨sessionsFit_kept.launch topology, by simp⟩
  operation env operation past runtime admissible follows kept := by
    refine ⟨sessionsFit_kept.operation env operation past runtime admissible follows kept.1, ?_⟩
    intro record member
    rcases List.mem_append.mp member with earlier | last
    · exact kept.2 record earlier
    · rw [List.mem_singleton] at last
      subst last
      exact Env.run_mirrors_iff admissible kept.1

/-- In every run an operation that has finished mirrors its group messages in the light model
exactly when it neither turns all zones off over lights that are not told to be off nor recalls a
foreign scene. -/
theorem Run.groups_mirrored_iff {history : List Record} {daemon : Daemon} (run : Run history daemon)
    {record : Record} (performed : record ∈ history) :
    record.MirrorsGroups ↔ record.operation.ReachesModel record.env record.before.world :=
  (run.invariant_of_operations WorldState.groupsMirrored_kept).2 record performed

/-- A press of a scene-cycle button in the hall sends one group message, which the model mirrors. -/
theorem Run.groups_mirrored_iff_hall :
    ∃ (history : List Record) (daemon : Daemon) (record : Record),
    Run history daemon ∧ record ∈ history ∧ record.effects = [.publishGroupSet 1 (.sceneRecall 1)] ∧
      record.MirrorsGroups := by
  obtain ⟨daemon, history, run, _, facts⟩ := House.played .offOnly
    [House.onPress "on" (.sceneCycle 1)] [(0, .start), House.press "on" 1]
    (fun reached : Daemon × List Record => reached.2.any fun record : Record =>
      decide (record.effects = [.publishGroupSet 1 (.sceneRecall 1)]) &&
        decide (record.operation.executed = some (.sceneCycle 1)))
    true (by decide +kernel)
  obtain ⟨⟨env, before, operation⟩, performed, same⟩ := List.any_eq_true.mp facts
  rw [Bool.and_eq_true, decide_eq_true_eq, decide_eq_true_eq] at same
  refine ⟨history, daemon, _, run, performed, same.1,
    (Run.groups_mirrored_iff run performed).mpr ?_⟩
  obtain ⟨_, pressed⟩ := same
  obtain ⟨_, _, rfl⟩ := Operation.executed_eq_some_iff.mp pressed
  exact trivial

/-- Turning all zones off after a scene-cycle press leaves the spot of the hall told to be on. -/
theorem Run.groups_mirrored_iff_fails :
    ∃ (history : List Record) (daemon : Daemon) (record : Record),
    Run history daemon ∧ record ∈ history ∧ ¬ record.MirrorsGroups := by
  obtain ⟨daemon, history, run, _, facts⟩ := House.played .offOnly
    [House.onPress "on" (.sceneCycle 1), House.onPress "off" .turnOffAllZones]
    [(0, .start), House.press "on" 1, House.press "off" 2]
    (fun reached : Daemon × List Record => reached.2.any fun record : Record =>
      decide (record.operation.executed = some .turnOffAllZones) &&
        (record.env.topology.room 1).any fun room : ResolvedRoom =>
          (record.before.world.zoneAt room.name).isOn && decide (House.spot ∈ room.lightMembers) &&
            decide ((record.before.world.lightAt (record.env.lightName House.spot)).target.value =
              some (.on (some 50) none)))
    true (by decide +kernel)
  obtain ⟨⟨env, before, operation⟩, performed, same⟩ := List.any_eq_true.mp facts
  rw [Bool.and_eq_true, decide_eq_true_eq, Option.any_eq_true] at same
  obtain ⟨pressed, room, here, told⟩ := same
  rw [Bool.and_eq_true, Bool.and_eq_true, decide_eq_true_eq, decide_eq_true_eq] at told
  dsimp only at pressed here told
  refine ⟨history, daemon, _, run, performed, fun mirrors => ?_⟩
  obtain ⟨_, _, rfl⟩ := Operation.executed_eq_some_iff.mp pressed
  have off := (Env.allZones_mirrors_iff _ _ before).mp mirrors 1 room here told.1.1 House.spot
    told.1.2
  rw [told.2] at off
  cases off

end MqttController
