import MqttController.GroupCommands

/-!
# What motion does to lights, zones and sessions

Opening a session claims exactly the lights that may be claimed, judged by the state before; closing
one commands exactly the lights that motion still owns.
-/

namespace MqttController

open KeyedChange WorldState

namespace Env

variable {env : Env}

/-! ## Lights of one target have different names -/

/-- Controlled lights are devices of the catalog. -/
theorem light_known {rule : ResolvedMotionRule} (member : rule ∈ env.topology.motionRules)
    {light : LightEndpoint} (controlled : light ∈ rule.lights) :
    light.device < env.topology.devices.length := by
  obtain ⟨room, listed, inside⟩ :=
    (env.topology.valid.rules_fit rule member).lights_members light controlled
  exact env.topology.valid.members_known room listed light inside

/-- No two controlled lights are one device. -/
theorem light_eq_of_device {rule other : ResolvedMotionRule}
    (member : rule ∈ env.topology.motionRules) (otherMember : other ∈ env.topology.motionRules)
    {light same : LightEndpoint} (controlled : light ∈ rule.lights) (also : same ∈ other.lights)
    (device : light.device = same.device) : light = same :=
  List.inj_on_of_nodup_map env.topology.valid.rule_lights_disjoint
    (List.mem_flatMap.mpr ⟨rule, member, controlled⟩)
    (List.mem_flatMap.mpr ⟨other, otherMember, also⟩) device

theorem light_eq_of_name {rule other : ResolvedMotionRule}
    (member : rule ∈ env.topology.motionRules) (otherMember : other ∈ env.topology.motionRules)
    {light same : LightEndpoint} (controlled : light ∈ rule.lights) (also : same ∈ other.lights)
    (named : env.lightName light = env.lightName same) : light = same :=
  light_eq_of_device member otherMember controlled also
    (TopologyTables.deviceName_inj env.topology.valid (light_known member controlled)
      (light_known otherMember also) named)

theorem target_light_controlled {rule : ResolvedMotionRule}
    (member : rule ∈ env.topology.motionRules) {slot : String} {target : ResolvedMotionTarget}
    (found : rule.targetsBySlot[slot]? = some target) {light : LightEndpoint}
    (inside : light ∈ target.lights) : light ∈ rule.lights :=
  ((env.topology.valid.rules_fit rule member).lights_iff light).mpr ⟨slot, target, found, inside⟩

/-- The lights of a target have pairwise different names. -/
theorem target_names_nodup {rule : ResolvedMotionRule}
    (member : rule ∈ env.topology.motionRules) {slot : String} {target : ResolvedMotionTarget}
    (found : rule.targetsBySlot[slot]? = some target) :
    (target.lights.map env.lightName).Nodup := by
  refine List.Nodup.map_on ?_ ((env.topology.valid.rules_fit rule member).lights_nodup _ _ found)
  intro light inside same also named
  exact light_eq_of_name member member (target_light_controlled member found inside)
    (target_light_controlled member found also) named

/-! ## Claiming -/

/-- A session of the rule may claim the light. -/
def mayClaim (env : Env) (rule : ResolvedMotionRule) (world : WorldState)
    (light : LightEndpoint) : Bool :=
  env.motionAllowedForLight light.device &&
    (rule.mode == .offOnly || !(world.lightAt (env.lightName light)).isOn)

/-- What claiming does to a light. -/
def claimChange (rule : ResolvedMotionRule) (scene : Scene) (ts : Instant)
    (light : LightEntity) : LightEntity :=
  if rule.mode = .offOnly then light.claimOffOnly ts
  else light.command (.on scene.brightness scene.colorTemp) rule.mode.activationOwner ts

variable (rule : ResolvedMotionRule) (scene : Scene) (ts : Instant)

theorem claimLight_fst_lightAt (state : WorldState × Finset DeviceIdx) (light : LightEndpoint)
    (name : String) :
    (env.claimLight rule scene ts state light).1.lightAt name =
      if env.lightName light = name ∧ env.mayClaim rule state.1 light then
        claimChange rule scene ts (state.1.lightAt name)
      else state.1.lightAt name := by
  obtain ⟨world, claimed⟩ := state
  unfold claimLight mayClaim claimChange
  dsimp only
  by_cases allowed : env.motionAllowedForLight light.device
  · by_cases mode : rule.mode = .offOnly
    · simp only [allowed, mode, Bool.not_true, Bool.false_eq_true, if_false, if_true,
        beq_self_eq_true, Bool.true_or, Bool.and_self, and_true, lightAt_modifyLight]
      split
      · rename_i same
        rw [same]
      · rfl
    · by_cases on : (world.lightAt (env.lightName light)).isOn
      · simp only [allowed, mode, on, Bool.not_true, Bool.false_eq_true, if_false, if_true,
          lightAt_modifyLight, beq_iff_eq, Bool.or_false, Bool.true_and, and_false]
        split
        · rename_i same
          rw [same, id]
        · rfl
      · simp only [allowed, mode, on, Bool.not_true, Bool.not_false, Bool.false_eq_true, if_false,
          lightAt_modifyLight, Bool.or_true, Bool.true_and, and_true]
        split
        · rename_i same
          rw [same]
        · rfl
  · simp [allowed]

theorem claimLight_snd (state : WorldState × Finset DeviceIdx) (light : LightEndpoint) :
    (env.claimLight rule scene ts state light).2 =
      if env.mayClaim rule state.1 light then insert light.device state.2 else state.2 := by
  obtain ⟨world, claimed⟩ := state
  unfold claimLight mayClaim
  dsimp only
  by_cases allowed : env.motionAllowedForLight light.device
  · by_cases mode : rule.mode = .offOnly
    · simp [allowed, mode]
    · by_cases on : (world.lightAt (env.lightName light)).isOn <;> simp [allowed, mode, on]
  · simp [allowed]

theorem claimLight_others (state : WorldState × Finset DeviceIdx) (light : LightEndpoint) :
    Frame state.1 (env.claimLight rule scene ts state light).1 ∧
      (env.claimLight rule scene ts state light).1.lightZones = state.1.lightZones ∧
      (env.claimLight rule scene ts state light).1.motionRules = state.1.motionRules := by
  obtain ⟨world, claimed⟩ := state
  unfold claimLight
  dsimp only
  split
  · exact ⟨Frame.refl world, rfl, rfl⟩
  · split
    · exact ⟨⟨rfl, rfl, rfl, rfl, rfl, rfl⟩, rfl, rfl⟩
    · split
      · exact ⟨⟨rfl, rfl, rfl, rfl, rfl, rfl⟩, rfl, rfl⟩
      · exact ⟨⟨rfl, rfl, rfl, rfl, rfl, rfl⟩, rfl, rfl⟩

/-- The lights claimed from a list are those that may be claimed before. -/
theorem claimLights_snd (lights : List LightEndpoint) (names : (lights.map env.lightName).Nodup)
    (state : WorldState × Finset DeviceIdx) (device : DeviceIdx) :
    device ∈ (lights.foldl (env.claimLight rule scene ts) state).2 ↔
      device ∈ state.2 ∨
        ∃ light ∈ lights, env.mayClaim rule state.1 light ∧ light.device = device := by
  induction lights generalizing state with
  | nil => simp
  | cons light rest ih =>
      rw [List.map_cons, List.nodup_cons] at names
      rw [List.foldl_cons, ih names.2, claimLight_snd]
      have later : ∀ other ∈ rest,
          env.mayClaim rule (env.claimLight rule scene ts state light).1 other =
            env.mayClaim rule state.1 other := by
        intro other member
        have different : env.lightName light ≠ env.lightName other := fun same =>
          names.1 (List.mem_map.mpr ⟨other, member, same.symm⟩)
        unfold mayClaim
        rw [claimLight_fst_lightAt, if_neg (fun taken => different taken.1)]
      have rewritten :
          (∃ other ∈ rest, env.mayClaim rule (env.claimLight rule scene ts state light).1 other ∧
            other.device = device) ↔
          ∃ other ∈ rest, env.mayClaim rule state.1 other ∧ other.device = device := by
        refine exists_congr fun other => and_congr_right fun member => ?_
        rw [later other member]
      rw [rewritten]
      by_cases claims : env.mayClaim rule state.1 light
      · rw [if_pos claims]
        simp only [Finset.mem_insert, List.mem_cons, exists_eq_or_imp, claims, true_and]
        grind
      · rw [if_neg claims]
        simp only [List.mem_cons, exists_eq_or_imp, claims, false_and, false_or,
          Bool.false_eq_true]

/-- Claiming a list changes exactly the lights that may be claimed before. -/
theorem claimLights_fst_lightAt (lights : List LightEndpoint)
    (names : (lights.map env.lightName).Nodup) (state : WorldState × Finset DeviceIdx)
    (name : String) :
    (lights.foldl (env.claimLight rule scene ts) state).1.lightAt name =
      if ∃ light ∈ lights, env.lightName light = name ∧ env.mayClaim rule state.1 light then
        claimChange rule scene ts (state.1.lightAt name)
      else state.1.lightAt name := by
  induction lights generalizing state with
  | nil => simp
  | cons light rest ih =>
      rw [List.map_cons, List.nodup_cons] at names
      rw [List.foldl_cons, ih names.2, claimLight_fst_lightAt]
      by_cases named : env.lightName light = name
      · -- No later light has this name, so only the first decides.
        have absent : ¬ ∃ other ∈ rest, env.lightName other = name ∧
            env.mayClaim rule (env.claimLight rule scene ts state light).1 other := by
          rintro ⟨other, member, same, _⟩
          exact names.1 (List.mem_map.mpr ⟨other, member, same.trans named.symm⟩)
        have absentBefore : ¬ ∃ other ∈ rest, env.lightName other = name ∧
            env.mayClaim rule state.1 other := by
          rintro ⟨other, member, same, _⟩
          exact names.1 (List.mem_map.mpr ⟨other, member, same.trans named.symm⟩)
        rw [if_neg absent]
        simp only [List.mem_cons, exists_eq_or_imp, named, true_and, absentBefore, or_false]
      · have later : ∀ other ∈ rest, env.lightName other = name →
            env.mayClaim rule (env.claimLight rule scene ts state light).1 other =
              env.mayClaim rule state.1 other := by
          intro other _ same
          unfold mayClaim
          rw [claimLight_fst_lightAt, if_neg fun taken => named (taken.1.trans same)]
        have rewritten :
            (∃ other ∈ rest, env.lightName other = name ∧
              env.mayClaim rule (env.claimLight rule scene ts state light).1 other) ↔
            ∃ other ∈ rest, env.lightName other = name ∧ env.mayClaim rule state.1 other := by
          refine exists_congr fun other => and_congr_right fun member =>
            and_congr_right fun same => ?_
          rw [later other member same]
        simp only [rewritten, List.mem_cons, exists_eq_or_imp, named, false_and, false_or, if_false]

theorem claimLights_others (lights : List LightEndpoint) (state : WorldState × Finset DeviceIdx) :
    Frame state.1 (lights.foldl (env.claimLight rule scene ts) state).1 ∧
      (lights.foldl (env.claimLight rule scene ts) state).1.lightZones = state.1.lightZones ∧
      (lights.foldl (env.claimLight rule scene ts) state).1.motionRules = state.1.motionRules := by
  induction lights generalizing state with
  | nil => exact ⟨Frame.refl _, rfl, rfl⟩
  | cons light rest ih =>
      obtain ⟨frame, zones, rules⟩ := ih (env.claimLight rule scene ts state light)
      obtain ⟨first, firstZones, firstRules⟩ := claimLight_others rule scene ts state light
      exact ⟨first.trans frame, zones.trans firstZones, rules.trans firstRules⟩

/-! ## Opening a session -/

variable {rule scene ts}

theorem activation_some {slot : String} {sceneId : Nat} {target : ResolvedMotionTarget}
    (active : env.activation rule = some (slot, sceneId, scene, target)) :
    rule.targetsBySlot[slot]? = some target ∧ rule.scenes.sceneById sceneId = some scene ∧
      ∃ times, env.activeSlot (env.motionSlots rule) = some (slot, times) ∧
        times.sceneIds.head? = some sceneId := by
  unfold activation at active
  split at active
  · cases active
  · rename_i slotName times current
    split at active
    · rename_i id found head targeted
      obtain ⟨known, scened, same⟩ := Option.map_eq_some_iff.mp active
      cases same
      exact ⟨targeted, scened, times, current, head⟩
    · cases active

/-- A session was opened: what was claimed, and the world in which it was stored. -/
structure Opens (env : Env) (rule : ResolvedMotionRule) (ts : Instant) (world : WorldState) where
  slot : String
  sceneId : Nat
  scene : Scene
  target : ResolvedMotionTarget
  claimed : Finset DeviceIdx
  claimedWorld : WorldState
  active : env.activation rule = some (slot, sceneId, scene, target)
  someClaimed : claimed ≠ ∅
  mem_claimed : ∀ device, device ∈ claimed ↔
    ∃ light ∈ target.lights, env.mayClaim rule world light ∧ light.device = device
  lightAt_claimed : ∀ name, claimedWorld.lightAt name =
    if ∃ light ∈ target.lights, env.lightName light = name ∧ env.mayClaim rule world light then
      claimChange rule scene ts (world.lightAt name)
    else world.lightAt name
  frame : Frame world claimedWorld
  lightZones : claimedWorld.lightZones = world.lightZones
  motionRules : claimedWorld.motionRules = world.motionRules

/-- The world with the session, and what was published. -/
def Opens.result {world : WorldState} (opens : Opens env rule ts world) :
    WorldState × List Effect :=
  env.openSession rule opens.slot opens.sceneId opens.scene opens.target opens.claimed ts
    opens.claimedWorld

/-- Nothing was claimed, and nothing changed. -/
structure Idle (world : WorldState) (result : WorldState × List Effect) : Prop where
  effects : result.2 = []
  lightAt : ∀ name, result.1.lightAt name = world.lightAt name
  frame : Frame world result.1
  lightZones : result.1.lightZones = world.lightZones
  motionRules : result.1.motionRules = world.motionRules

theorem Idle.refl (world : WorldState) : Idle world (world, []) :=
  ⟨rfl, fun _ => rfl, Frame.refl world, rfl, rfl⟩

/-- A session of the rule is opened: nothing suppresses it, its group is not on as a whole, and some
light may be claimed. -/
def Starts (env : Env) (rule : ResolvedMotionRule) (illuminance : Option Nat) (ts : Instant)
    (world : WorldState) : Prop :=
  world.activationSuppressed rule illuminance ts = false ∧ ∃ slot sceneId scene target,
    env.activation rule = some (slot, sceneId, scene, target) ∧
      env.groupAlreadyOn rule target world = false ∧
        ∃ light ∈ target.lights, env.mayClaim rule world light

/-- Starting a session of a rule opens one or changes nothing. -/
theorem startMotionSession_starts (member : rule ∈ env.topology.motionRules)
    (illuminance : Option Nat) (ts : Instant) (world : WorldState) :
    (Idle world (env.startMotionSession rule illuminance ts world) ∧
        ¬ env.Starts rule illuminance ts world) ∨
      (env.Starts rule illuminance ts world ∧ ∃ opens : Opens env rule ts world,
        env.startMotionSession rule illuminance ts world = opens.result) := by
  unfold startMotionSession
  split
  · rename_i suppressed
    exact .inl ⟨Idle.refl world, fun starts => by simp [starts.1] at suppressed⟩
  · rename_i free
    split
    · rename_i inactive
      refine .inl ⟨Idle.refl world, ?_⟩
      rintro ⟨_, slot, sceneId, scene, target, active, _⟩
      rw [inactive] at active
      cases active
    · rename_i slot sceneId scene target active
      -- What the definition finds active is what `Starts` speaks about.
      have found : env.Starts rule illuminance ts world →
          env.groupAlreadyOn rule target world = false ∧
            ∃ light ∈ target.lights, env.mayClaim rule world light := by
        rintro ⟨_, _, _, _, _, same, apart, claims⟩
        rw [active] at same
        cases same
        exact ⟨apart, claims⟩
      have names := target_names_nodup member (activation_some active).1
      unfold claimTarget
      split
      · rename_i already
        exact .inl ⟨Idle.refl world, fun starts => by simp [(found starts).1] at already⟩
      · rename_i apart
        split
        rename_i claimedWorld claimed folded
        obtain ⟨frame, zones, rules⟩ := claimLights_others rule scene ts target.lights (world, ∅)
        have lights := claimLights_fst_lightAt rule scene ts target.lights names (world, ∅)
        have claims := claimLights_snd rule scene ts target.lights names (world, ∅)
        rw [folded] at frame zones rules lights claims
        simp only [Finset.notMem_empty, false_or] at claims
        split
        · rename_i none
          have unclaimed : ¬ ∃ light ∈ target.lights, env.mayClaim rule world light := by
            rintro ⟨light, inside, may⟩
            have inClaimed := (claims light.device).mpr ⟨light, inside, may, rfl⟩
            rw [none] at inClaimed
            exact absurd inClaimed (Finset.notMem_empty _)
          refine .inl ⟨⟨rfl, fun name => ?_, frame, zones, rules⟩,
            fun starts => unclaimed (found starts).2⟩
          rw [lights name, if_neg]
          rintro ⟨light, inside, _, may⟩
          exact unclaimed ⟨light, inside, may⟩
        · rename_i someClaimed
          obtain ⟨device, inClaimed⟩ := Finset.nonempty_iff_ne_empty.mpr someClaimed
          obtain ⟨light, inside, may, _⟩ := (claims device).mp inClaimed
          refine .inr ⟨⟨by simpa using free, slot, sceneId, scene, target, active,
            by simpa using apart, light, inside, may⟩, ?_⟩
          exact ⟨⟨slot, sceneId, scene, target, claimed, claimedWorld, active, someClaimed,
            claims, lights, frame, zones, rules⟩, rfl⟩

theorem startMotionSession_cases (member : rule ∈ env.topology.motionRules)
    (illuminance : Option Nat) (ts : Instant) (world : WorldState) :
    Idle world (env.startMotionSession rule illuminance ts world) ∨
      ∃ opens : Opens env rule ts world,
        env.startMotionSession rule illuminance ts world = opens.result :=
  (startMotionSession_starts member illuminance ts world).imp And.left And.right

/-! ## Changing several lights -/

/-- Changing lights one after the other, by a change that doing twice does not add to. -/
theorem lightAt_foldl_modifyLight (env : Env) (lights : List LightEndpoint)
    (change : LightEntity → LightEntity) (idem : ∀ light, change (change light) = change light)
    (world : WorldState) (name : String) :
    (lights.foldl (fun world light => world.modifyLight (env.lightName light) change)
        world).lightAt name =
      if ∃ light ∈ lights, env.lightName light = name then change (world.lightAt name)
      else world.lightAt name := by
  induction lights generalizing world with
  | nil => simp
  | cons light rest ih =>
      rw [List.foldl_cons, ih, lightAt_modifyLight]
      by_cases named : env.lightName light = name
      · subst named
        simp only [if_true, idem, ite_self, List.mem_cons, exists_eq_or_imp, true_or]
      · simp only [named, if_false, List.mem_cons, exists_eq_or_imp, false_or]

theorem others_foldl_modifyLight (env : Env) (lights : List LightEndpoint)
    (change : LightEntity → LightEntity) (world : WorldState) :
    let after := lights.foldl (fun world light => world.modifyLight (env.lightName light) change)
      world
    Frame world after ∧ after.lightZones = world.lightZones ∧
      after.motionRules = world.motionRules := by
  dsimp only
  induction lights generalizing world with
  | nil => exact ⟨Frame.refl world, rfl, rfl⟩
  | cons light rest ih =>
      obtain ⟨frame, zones, rules⟩ := ih (world.modifyLight (env.lightName light) change)
      have first : Frame world (world.modifyLight (env.lightName light) change) :=
        ⟨rfl, rfl, rfl, rfl, rfl, rfl⟩
      exact ⟨first.trans frame, zones, rules⟩

theorem command_idem (value : LightTarget) (owner : Owner) (ts : Instant) (light : LightEntity) :
    (light.command value owner ts).command value owner ts = light.command value owner ts := rfl

theorem releaseMotion_idem (ts : Instant) (light : LightEntity) :
    (light.releaseMotion ts).releaseMotion ts = light.releaseMotion ts := by
  unfold LightEntity.releaseMotion
  by_cases owned : light.target.owner = some .motion
  · have released : (light.target.reassignOwner .system ts).owner = some .system := by
      rw [TassTarget.owner_reassignOwner, owned]
      rfl
    simp [owned, LightEntity.reassignOwner, released]
  · simp [owned]

/-! ## The world after a session was opened -/

namespace Opens

variable {world : WorldState}

/-- The group of the target, when all its lights were claimed. -/
def group (opens : Opens env rule ts world) : Option RoomIdx :=
  if opens.claimed.card = opens.target.lights.length then opens.target.group else none

/-- A session takes a group over only when every light of its target may be claimed. -/
theorem of_group (opens : Opens env rule ts world) {group : RoomIdx}
    (whole : opens.group = some group) :
    opens.target.group = some group ∧
      ∀ light ∈ opens.target.lights, env.mayClaim rule world light := by
  unfold Opens.group at whole
  split at whole
  · rename_i all
    refine ⟨whole, ?_⟩
    have inside : opens.claimed ⊆ ((opens.target.lights.filter (env.mayClaim rule world)).map
        (·.device)).toFinset := by
      intro device member
      obtain ⟨light, listed, may, same⟩ := (opens.mem_claimed device).mp member
      rw [List.mem_toFinset, List.mem_map]
      exact ⟨light, List.mem_filter.mpr ⟨listed, may⟩, same⟩
    have claimedLe : opens.claimed.card ≤
        (opens.target.lights.filter (env.mayClaim rule world)).length := by
      have bound := (Finset.card_le_card inside).trans (List.toFinset_card_le _)
      rwa [List.length_map] at bound
    have filterLe := List.length_filter_le (env.mayClaim rule world) opens.target.lights
    exact List.length_filter_eq_length_iff.mp (by omega)
  · cases whole

/-- A session takes its target's group over when every light of the target may be claimed. -/
theorem group_of_all (opens : Opens env rule ts world) (member : rule ∈ env.topology.motionRules)
    (all : ∀ light ∈ opens.target.lights, env.mayClaim rule world light) :
    opens.group = opens.target.group := by
  have found := (activation_some opens.active).1
  have devices : (opens.target.lights.map (·.device)).Nodup := by
    refine List.Nodup.map_on ?_ ((env.topology.valid.rules_fit rule member).lights_nodup _ _ found)
    intro light inside same also device
    exact light_eq_of_device member member (target_light_controlled member found inside)
      (target_light_controlled member found also) device
  have same : opens.claimed = (opens.target.lights.map (·.device)).toFinset := by
    ext device
    rw [opens.mem_claimed, List.mem_toFinset, List.mem_map]
    exact ⟨fun ⟨light, inside, _, device⟩ => ⟨light, inside, device⟩,
      fun ⟨light, inside, device⟩ => ⟨light, inside, all light inside, device⟩⟩
  unfold Opens.group
  rw [if_pos]
  rw [same, List.toFinset_card_of_nodup devices, List.length_map]

theorem lights (opens : Opens env rule ts world) :
    opens.result.1.lights = opens.claimedWorld.lights := by
  unfold result openSession
  dsimp only
  split_ifs <;> split <;> rfl

theorem lightAt (opens : Opens env rule ts world) (name : String) :
    opens.result.1.lightAt name =
      if ∃ light ∈ opens.target.lights,
          env.lightName light = name ∧ env.mayClaim rule world light then
        claimChange rule opens.scene ts (world.lightAt name)
      else world.lightAt name := by
  rw [← opens.lightAt_claimed]
  simp only [WorldState.lightAt, opens.lights]

theorem frame' (opens : Opens env rule ts world) : Frame world opens.result.1 := by
  refine opens.frame.trans ?_
  unfold result openSession
  dsimp only
  split_ifs <;> split <;> exact ⟨rfl, rfl, rfl, rfl, rfl, rfl⟩

theorem ruleAt (opens : Opens env rule ts world) (name : String) :
    opens.result.1.ruleAt name =
      if rule.name = name then
        some { world.motionRuleAt rule.name with
          session := some ⟨opens.slot, opens.target, opens.claimed⟩ }
      else world.ruleAt name := by
  have stored : opens.result.1.motionRules =
      OrderedMap.upsert world.motionRules rule.name default fun state =>
        { state with session := some ⟨opens.slot, opens.target, opens.claimed⟩ } := by
    unfold result openSession
    dsimp only
    split_ifs <;> split <;> simp only [WorldState.modifyMotionRule, WorldState.modifyZone,
      opens.motionRules]
  unfold WorldState.ruleAt
  rw [stored, OrderedMap.getElem?_upsert]
  rfl

/-- The zones other than that of a claimed group are unchanged. -/
theorem zoneAt (opens : Opens env rule ts world) (name : String) :
    opens.result.1.zoneAt name =
      if ∃ group, opens.group = some group ∧ env.topology.roomName group = name then
        if rule.mode = .offOnly then (world.zoneAt name).claimOffOnly ts
        else (world.zoneAt name).command (.on opens.sceneId 0) rule.mode.activationOwner ts
      else world.zoneAt name := by
  have before : ∀ key, opens.claimedWorld.zoneAt key = world.zoneAt key := by
    intro key
    simp only [WorldState.zoneAt, opens.lightZones]
  have unchanged : ∀ key, (opens.claimedWorld.modifyMotionRule rule.name fun state =>
      { state with session := some ⟨opens.slot, opens.target, opens.claimed⟩ }).zoneAt key =
      world.zoneAt key := before
  unfold result openSession group
  dsimp only
  split
  · rename_i mode
    split
    · rename_i group whole
      rw [zoneAt_modifyZone, unchanged, unchanged]
      simp only [whole, Option.some.injEq, exists_eq_left']
      split
      · rename_i same
        rw [same]
      · rfl
    · rename_i whole
      rw [unchanged]
      simp [whole]
  · rename_i mode
    split
    · rename_i group whole
      rw [zoneAt_modifyZone, unchanged, unchanged]
      simp only [whole, Option.some.injEq, exists_eq_left']
      split
      · rename_i same
        rw [same]
      · rfl
    · rename_i whole
      rw [unchanged]
      simp [whole]

/-- What opening a session publishes: nothing for an off-only rule, else the group or the claimed
lights. -/
theorem effects (opens : Opens env rule ts world) :
    opens.result.2 =
      if rule.mode = .offOnly then []
      else
        match opens.group with
        | some group => [.publishGroupSet group (.sceneRecall opens.sceneId)]
        | none =>
            (opens.target.lights.filter fun light => decide (light.device ∈ opens.claimed)).map
              fun light => .publishLightSet light (.ofScene opens.scene) := by
  unfold result openSession group
  dsimp only
  split
  · split <;> rfl
  · split <;> simp_all

theorem motionSession (opens : Opens env rule ts world) :
    opens.result.1.motionSession rule = some ⟨opens.slot, opens.target, opens.claimed⟩ := by
  have stored := opens.ruleAt rule.name
  rw [if_pos rfl] at stored
  unfold WorldState.ruleAt at stored
  unfold WorldState.motionSession
  rw [stored]
  rfl

end Opens

/-! ## Closing a session -/

theorem takeSession_ruleAt (world : WorldState) (rule : ResolvedMotionRule) (name : String) :
    (world.takeSession rule).ruleAt name =
      if rule.name = name then
        (world.ruleAt name).map fun state => { state with session := none }
      else world.ruleAt name := by
  unfold ruleAt takeSession
  rw [OrderedMap.getElem?_adjust]
  split
  · rename_i same
    rw [same]
  · rfl

theorem takeSession_motionSession (world : WorldState) (rule : ResolvedMotionRule) :
    (world.takeSession rule).motionSession rule = none := by
  have taken := takeSession_ruleAt world rule rule.name
  rw [if_pos rfl] at taken
  unfold ruleAt at taken
  unfold motionSession
  rw [taken]
  cases world.motionRules[rule.name]? <;> rfl

/-- The group of a target that is turned off with its lights. -/
def wholeGroup (target : ResolvedMotionTarget) (lights : List LightEndpoint) : Option RoomIdx :=
  if lights.length = target.lights.length then target.group else none

/-- Selected lights of a target are its whole group only when all are selected. -/
theorem wholeGroup_filter {target : ResolvedMotionTarget} {selects : LightEndpoint → Bool}
    {group : RoomIdx} (whole : wholeGroup target (target.lights.filter selects) = some group) :
    target.group = some group ∧ ∀ light ∈ target.lights, light ∈ target.lights.filter selects := by
  unfold wholeGroup at whole
  split at whole
  · rename_i all
    refine ⟨whole, fun light inside => List.mem_filter.mpr ⟨inside, ?_⟩⟩
    exact List.length_filter_eq_length_iff.mp all light inside
  · cases whole

section TurnOff

variable (target : ResolvedMotionTarget) (lights : List LightEndpoint) (transition : ℚ)
  (ts : Instant) (owner : Owner) (world : WorldState)

variable (env) in
theorem turnOffMotionLights_lightAt (name : String) :
    (env.turnOffMotionLights target lights transition ts owner world).1.lightAt name =
      if ∃ light ∈ lights, env.lightName light = name then
        (world.lightAt name).command .off owner ts
      else world.lightAt name := by
  have commanded :=
    lightAt_foldl_modifyLight env lights (fun light => light.command .off owner ts)
      (command_idem .off owner ts) world name
  refine Eq.trans ?_ commanded
  unfold turnOffMotionLights
  dsimp only
  split <;> rfl

variable (env) in
theorem turnOffMotionLights_others :
    Frame world (env.turnOffMotionLights target lights transition ts owner world).1 ∧
      (env.turnOffMotionLights target lights transition ts owner world).1.motionRules =
        world.motionRules := by
  obtain ⟨frame, _, rules⟩ := others_foldl_modifyLight env lights
    (fun light => light.command .off owner ts) world
  unfold turnOffMotionLights
  dsimp only
  split <;> exact ⟨frame.trans ⟨rfl, rfl, rfl, rfl, rfl, rfl⟩, rules⟩

variable (env) in
theorem turnOffMotionLights_zoneAt (name : String) :
    (env.turnOffMotionLights target lights transition ts owner world).1.zoneAt name =
      if ∃ group, wholeGroup target lights = some group ∧ env.topology.roomName group = name then
        { (world.zoneAt name).command .off owner ts with
          lastOffAt := some ts, lastMotionOffAt := some ts }
      else world.zoneAt name := by
  obtain ⟨_, zones, _⟩ := others_foldl_modifyLight env lights
    (fun light => light.command .off owner ts) world
  have unchanged : ∀ key, (lights.foldl (fun world light =>
      world.modifyLight (env.lightName light) fun light => light.command .off owner ts)
      world).zoneAt key = world.zoneAt key := by
    intro key
    unfold zoneAt
    rw [zones]
  unfold turnOffMotionLights wholeGroup
  dsimp only
  by_cases whole : lights.length = target.lights.length
  · simp only [whole, if_true]
    split
    · rename_i group targeted
      simp only [targeted, Option.some.injEq, exists_eq_left']
      rw [zoneAt_modifyZone, unchanged, unchanged]
      split
      · rename_i same
        rw [same]
      · rfl
    · rename_i targeted
      simp [targeted, unchanged]
  · simp [whole, unchanged]

variable (env) in
theorem turnOffMotionLights_effects :
    (env.turnOffMotionLights target lights transition ts owner world).2 =
      match wholeGroup target lights with
      | some group => [.publishGroupSet group (.off transition)]
      | none => lights.map fun light => .publishLightSet light (.off transition) := by
  unfold turnOffMotionLights wholeGroup
  dsimp only
  split <;> simp_all

end TurnOff

section Release

variable (rule : ResolvedMotionRule) (ts : Instant) {world : WorldState} {session : MotionSession}

theorem releaseMotionSession_lightAt (live : world.motionSession rule = some session)
    (name : String) :
    (env.releaseMotionSession rule ts world).lightAt name =
      if ∃ light ∈ session.target.lights, env.lightName light = name then
        (world.lightAt name).releaseMotion ts
      else world.lightAt name := by
  have released := lightAt_foldl_modifyLight env session.target.lights
    (fun light => light.releaseMotion ts) (releaseMotion_idem ts) (world.takeSession rule) name
  refine Eq.trans ?_ released
  unfold releaseMotionSession
  rw [live]
  dsimp only
  split <;> rfl

theorem releaseMotionSession_others (live : world.motionSession rule = some session) :
    Frame world (env.releaseMotionSession rule ts world) ∧
      (env.releaseMotionSession rule ts world).motionRules =
        (world.takeSession rule).motionRules := by
  obtain ⟨frame, _, rules⟩ := others_foldl_modifyLight env session.target.lights
    (fun light => light.releaseMotion ts) (world.takeSession rule)
  have first : Frame world (world.takeSession rule) := ⟨rfl, rfl, rfl, rfl, rfl, rfl⟩
  unfold releaseMotionSession
  rw [live]
  dsimp only
  split
  · exact ⟨first.trans frame, rules⟩
  · exact ⟨first.trans (frame.trans ⟨rfl, rfl, rfl, rfl, rfl, rfl⟩), rules⟩

theorem releaseMotionSession_zoneAt (live : world.motionSession rule = some session)
    (name : String) :
    (env.releaseMotionSession rule ts world).zoneAt name =
      if ∃ group, session.target.group = some group ∧ env.topology.roomName group = name then
        (world.zoneAt name).releaseMotion ts
      else world.zoneAt name := by
  obtain ⟨_, zones, _⟩ := others_foldl_modifyLight env session.target.lights
    (fun light => light.releaseMotion ts) (world.takeSession rule)
  have unchanged : ∀ key, (session.target.lights.foldl (fun world light =>
      world.modifyLight (env.lightName light) fun light => light.releaseMotion ts)
      (world.takeSession rule)).zoneAt key = world.zoneAt key := by
    intro key
    unfold zoneAt
    rw [zones]
    rfl
  unfold releaseMotionSession
  rw [live]
  dsimp only
  split
  · rename_i targeted
    simp [targeted, unchanged]
  · rename_i group targeted
    simp only [targeted, Option.some.injEq, exists_eq_left']
    rw [zoneAt_modifyZone, unchanged, unchanged]
    split
    · rename_i same
      rw [same]
    · rfl

theorem releaseMotionSession_frame (world : WorldState) :
    Frame world (env.releaseMotionSession rule ts world) := by
  cases closed : world.motionSession rule with
  | none =>
      unfold releaseMotionSession
      rw [closed]
      exact Frame.refl world
  | some session => exact (releaseMotionSession_others rule ts closed).1

end Release

/-- How closing a session of a rule goes. -/
inductive Finish (env : Env) (rule : ResolvedMotionRule) (ts : Instant) (owner : Owner)
    (world : WorldState) : WorldState × List Effect → Prop
  /-- There is no session. -/
  | idle (closed : world.motionSession rule = none) : Finish env rule ts owner world (world, [])
  /-- The lights are off already. -/
  | off (session : MotionSession) (live : world.motionSession rule = some session)
      (targetOff : env.motionTargetIsOff world session.target) :
      Finish env rule ts owner world (env.releaseMotionSession rule ts world, [])
  /-- The rule may not turn lights off, or none is left to turn off. -/
  | leave (session : MotionSession) (live : world.motionSession rule = some session)
      (targetOn : env.motionTargetIsOff world session.target = false)
      (leaves : rule.mode = .onOnly ∨ env.eligibleLights session world = []) :
      Finish env rule ts owner world (world.takeSession rule, [])
  /-- The lights motion still owns are turned off. -/
  | turnOff (session : MotionSession) (live : world.motionSession rule = some session)
      (targetOn : env.motionTargetIsOff world session.target = false)
      (mode : rule.mode ≠ .onOnly) (owned : env.eligibleLights session world ≠ []) :
      Finish env rule ts owner world
        ((env.turnOffMotionLights session.target (env.eligibleLights session world)
            rule.offTransitionSeconds ts owner (world.takeSession rule)).1.modifyMotionRule
            rule.name fun state => { state with lastMotionOffAt := some ts },
          (env.turnOffMotionLights session.target (env.eligibleLights session world)
            rule.offTransitionSeconds ts owner (world.takeSession rule)).2)

theorem finishMotionSession_finish (env : Env) (rule : ResolvedMotionRule) (ts : Instant)
    (owner : Owner) (world : WorldState) :
    Finish env rule ts owner world (env.finishMotionSession rule ts owner world) := by
  unfold finishMotionSession
  split
  · rename_i closed
    exact .idle closed
  · rename_i session live
    split
    · rename_i off
      exact .off session live off
    · rename_i on
      have targetOn : env.motionTargetIsOff world session.target = false := by simpa using on
      have same : env.eligibleLights session (world.takeSession rule) =
          env.eligibleLights session world := rfl
      dsimp only
      split
      · rename_i mode
        exact .leave session live targetOn (.inl mode)
      · rename_i mode
        rw [same]
        split
        · rename_i none
          exact .leave session live targetOn (.inr none)
        · rename_i first rest eligible
          rw [← eligible]
          exact .turnOff session live targetOn mode (by rw [eligible]; simp)

/-- Closing leaves no session, and leaves other rules alone. -/
theorem Finish.closes {env : Env} {rule : ResolvedMotionRule} {ts : Instant} {owner : Owner}
    {world : WorldState} {result : WorldState × List Effect}
    (finish : Finish env rule ts owner world result) :
    result.1.motionSession rule = none ∧
      (∀ name, rule.name ≠ name → result.1.ruleAt name = world.ruleAt name) ∧
      Frame world result.1 := by
  have others : ∀ after : WorldState, after.motionRules = (world.takeSession rule).motionRules →
      after.motionSession rule = none ∧
        ∀ name, rule.name ≠ name → after.ruleAt name = world.ruleAt name := by
    intro after same
    refine ⟨?_, ?_⟩
    · have taken := takeSession_motionSession world rule
      unfold motionSession at taken ⊢
      rwa [same]
    · intro name different
      have taken := takeSession_ruleAt world rule name
      rw [if_neg different] at taken
      unfold ruleAt at taken ⊢
      rwa [same]
  cases finish with
  | idle closed => exact ⟨closed, fun _ _ => rfl, Frame.refl world⟩
  | off session live targetOff =>
      obtain ⟨frame, rules⟩ := releaseMotionSession_others rule ts live
      exact ⟨(others _ rules).1, (others _ rules).2, frame⟩
  | leave session live targetOn leaves =>
      exact ⟨(others _ rfl).1, (others _ rfl).2, ⟨rfl, rfl, rfl, rfl, rfl, rfl⟩⟩
  | turnOff session live targetOn mode owned =>
      obtain ⟨frame, rules⟩ := turnOffMotionLights_others env session.target
        (env.eligibleLights session world) rule.offTransitionSeconds ts owner
        (world.takeSession rule)
      have first : Frame world (world.takeSession rule) := ⟨rfl, rfl, rfl, rfl, rfl, rfl⟩
      obtain ⟨closed, same⟩ := others _ rules
      refine ⟨?_, ?_, first.trans (frame.trans ⟨rfl, rfl, rfl, rfl, rfl, rfl⟩)⟩
      · unfold motionSession at closed ⊢
        dsimp only [modifyMotionRule]
        rw [OrderedMap.getElem?_upsert_self]
        dsimp only [Option.bind_some]
        revert closed
        cases (env.turnOffMotionLights session.target (env.eligibleLights session world)
          rule.offTransitionSeconds ts owner
            (world.takeSession rule)).1.motionRules[rule.name]? with
        | none => exact fun _ => rfl
        | some state => exact fun closed => closed
      · intro name different
        rw [← same name different]
        unfold ruleAt modifyMotionRule
        exact OrderedMap.getElem?_upsert_of_ne _ _ _ different

end Env

end MqttController
