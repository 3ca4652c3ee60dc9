import Mathlib.Data.List.Pairwise
import MqttController.Sessions

/-!
# Off-only claims

Lights under an off-only claim stay with motion whatever happens while the session lives, so that
its end turns them off.
-/

namespace MqttController

open KeyedChange

namespace WorldState

/-- Every light that an off-only session claims has a target of motion. -/
def ClaimsOwned (topology : Topology) (world : WorldState) : Prop :=
  ∀ rule ∈ topology.motionRules, rule.mode = .offOnly → ∀ session,
    world.motionSession rule = some session → ∀ device ∈ session.claimed,
      (world.lightAt (topology.deviceName device)).target.owner = some .motion

end WorldState

namespace LightEntity

theorem owner_observe {light : LightEntity} (actual : LightActual) (ts : Instant)
    (owned : light.target.owner = some .motion) :
    (light.observe actual .motion ts).target.owner = some .motion := by
  have confirmed : ∀ followed : TassTarget LightTarget, followed.owner = some .motion →
      ∀ confirms : Prop, ∀ _ : Decidable confirms,
        (if confirms then followed.confirm ts else followed).owner = some .motion := by
    intro followed same confirms _
    split
    · rw [TassTarget.owner_confirm, same]
    · exact same
  unfold observe
  dsimp only
  refine confirmed _ ?_ _ _
  split
  · rfl
  · rw [TassTarget.owner_markStaleIfOld, owned]

theorem owner_age (light : LightEntity) (now : Instant) :
    (light.age now).target.owner = light.target.owner :=
  TassTarget.owner_markStaleIfOld _ _ _

theorem owner_claimOffOnly (light : LightEntity) (ts : Instant) :
    (light.claimOffOnly ts).target.owner = some .motion := by
  unfold claimOffOnly
  split
  · rfl
  · rename_i kept
    split
    · have set : light.target ≠ .unset := by
        intro unset
        rw [unset] at kept
        exact kept rfl
      unfold reassignOwner
      rw [TassTarget.owner_reassignOwner]
      cases target : light.target with
      | unset => exact absurd target set
      | held value phase owner since => rfl
    · rename_i owned
      simpa using owned

end LightEntity

namespace Env

variable {env : Env}

/-! ## Claimed lights -/

/-- A light is controlled by one rule only. -/
theorem rule_eq_of_light {rule other : ResolvedMotionRule}
    (listed : rule ∈ env.topology.motionRules) (also : other ∈ env.topology.motionRules)
    {light : LightEndpoint} (inside : light ∈ rule.lights) (shared : light ∈ other.lights) :
    rule = other := by
  by_contra different
  have disjoint := (List.nodup_flatMap.mp (List.Nodup.of_map _
    env.topology.valid.rule_lights_disjoint)).2
  have symmetric : Std.Symm (Function.onFun List.Disjoint ResolvedMotionRule.lights) :=
    ⟨fun _ _ apart => apart.symm⟩
  exact disjoint.forall listed also different inside shared

section Claimed

variable {rule : ResolvedMotionRule} {session : MotionSession} {device : DeviceIdx}

/-- A claimed device is that of a light the rule controls. -/
theorem claimed_light (listed : rule ∈ env.topology.motionRules) (fits : session.Fits rule)
    (claimed : device ∈ session.claimed) :
    ∃ light ∈ session.target.lights, light ∈ rule.lights ∧ light.device = device := by
  obtain ⟨light, inside, same⟩ := fits.inside device claimed
  obtain ⟨slot, targeted⟩ := fits.target
  exact ⟨light, inside, target_light_controlled listed targeted inside, same⟩

theorem claimed_known (listed : rule ∈ env.topology.motionRules) (fits : session.Fits rule)
    (claimed : device ∈ session.claimed) : device < env.topology.devices.length := by
  obtain ⟨light, _, controlled, same⟩ := claimed_light listed fits claimed
  rw [← same]
  exact light_known listed controlled

/-- Lights of other rules have other names. -/
theorem claimed_name_ne (listed : rule ∈ env.topology.motionRules) (fits : session.Fits rule)
    (claimed : device ∈ session.claimed) {other : ResolvedMotionRule}
    (also : other ∈ env.topology.motionRules) (different : other.name ≠ rule.name)
    {light : LightEndpoint} (inside : light ∈ other.lights) :
    env.lightName light ≠ env.topology.deviceName device := by
  intro same
  obtain ⟨own, _, controlled, rfl⟩ := claimed_light listed fits claimed
  have equal := light_eq_of_name also listed inside controlled same
  rw [equal] at inside
  exact different
    (congrArg ResolvedMotionRule.name (rule_eq_of_light also listed inside controlled))

/-- An occupied off-only rule claims the lights of its session. -/
theorem hasOffOnlyClaim {world : WorldState} (listed : rule ∈ env.topology.motionRules)
    (mode : rule.mode = .offOnly) (occupied : world.motionRuleOccupied rule)
    (live : world.motionSession rule = some session) (claimed : device ∈ session.claimed) :
    env.lightHasOffOnlyClaim world device = true := by
  unfold lightHasOffOnlyClaim
  refine List.any_eq_true.mpr ⟨rule, listed, ?_⟩
  rw [mode, occupied, live]
  simpa using claimed

end Claimed

/-- A manual command leaves a claimed light with motion. -/
theorem ManualLight.owned {start : WorldState} {hit : DeviceIdx → Prop} {device : DeviceIdx}
    (known : device < env.topology.devices.length)
    (claim : env.lightHasOffOnlyClaim start device = true) {before after : LightEntity}
    (manual : env.ManualLight start hit (env.topology.deviceName device) before after)
    (owned : before.target.owner = some .motion) : after.target.owner = some .motion := by
  have resolved : ∀ {other}, other < env.topology.devices.length →
      env.topology.deviceName other = env.topology.deviceName device →
      ∀ default, env.resolveLightOwner start other default = .motion := by
    intro other otherKnown same default
    rw [TopologyTables.deviceName_inj env.topology.valid otherKnown known same]
    unfold resolveLightOwner
    rw [if_pos claim]
  cases manual with
  | command other otherKnown named reached value default manual ts =>
      rw [resolved otherKnown named default]
      rfl
  | reassign other otherKnown named reached default manual ts =>
      rw [resolved otherKnown named default]
      unfold LightEntity.reassignOwner
      rw [TassTarget.owner_reassignOwner, owned]
      rfl

/-- A report leaves a claimed light with motion. -/
theorem ReportLight.owned {start : WorldState} {device : DeviceIdx}
    (known : device < env.topology.devices.length)
    (claim : env.lightHasOffOnlyClaim start device = true) {before after : LightEntity}
    (report : env.ReportLight start (env.topology.deviceName device) before after)
    (owned : before.target.owner = some .motion) : after.target.owner = some .motion := by
  obtain ⟨actual, ts, rfl⟩ := report
  have owner : env.reportOwner start (env.topology.deviceName device) = .motion := by
    unfold reportOwner
    rw [TopologyTables.deviceIdx_of_deviceName env.topology.valid known, Option.any_some, claim]
    rfl
  rw [owner]
  exact LightEntity.owner_observe actual ts owned

/-! ## Operations -/

/-- Closing a session only changes lights of its target. -/
theorem Finish.lightAt_eq {rule : ResolvedMotionRule} {ts : Instant} {owner : Owner}
    {world : WorldState} {result : WorldState × List Effect}
    (finish : Finish env rule ts owner world result) {name : String}
    (outside : ∀ session, world.motionSession rule = some session →
      ∀ light ∈ session.target.lights, env.lightName light ≠ name) :
    result.1.lightAt name = world.lightAt name := by
  cases finish with
  | idle closed => rfl
  | off session live targetOff =>
      rw [releaseMotionSession_lightAt rule ts live, if_neg]
      rintro ⟨light, inside, named⟩
      exact outside session live light inside named
  | leave session live targetOn leaves => rfl
  | turnOff session live targetOn mode owned =>
      have changed := turnOffMotionLights_lightAt env session.target
        (env.eligibleLights session world) rule.offTransitionSeconds ts owner
        (world.takeSession rule) name
      rw [if_neg] at changed
      · exact changed
      · rintro ⟨light, inside, named⟩
        exact outside session live light (List.mem_filter.mp inside).1 named

/-- Opening a session gives its off-only claims to motion and leaves other rules' lights alone. -/
theorem startMotionSession_owned {rule : ResolvedMotionRule}
    (listed : rule ∈ env.topology.motionRules) (illuminance : Option Nat) (ts : Instant)
    {world : WorldState} (fit : world.SessionsFit env.topology)
    (owned : world.ClaimsOwned env.topology) :
    (env.startMotionSession rule illuminance ts world).1.ClaimsOwned env.topology := by
  intro other also mode session live device claimed
  rcases startMotionSession_cases listed illuminance ts world with idle | ⟨opens, same⟩
  · rw [idle.lightAt]
    unfold WorldState.motionSession at live
    rw [idle.motionRules] at live
    exact owned other also mode session live device claimed
  · rw [same] at live ⊢
    rw [opens.lightAt]
    by_cases named : rule.name = other.name
    · have equal := rule_eq_of_name listed also named
      subst equal
      rw [opens.motionSession] at live
      cases live
      obtain ⟨light, inside, may, rfl⟩ := (opens.mem_claimed device).mp claimed
      rw [if_pos ⟨light, inside, rfl, may⟩]
      unfold claimChange
      rw [if_pos mode]
      exact LightEntity.owner_claimOffOnly _ ts
    · have unchanged := opens.ruleAt other.name
      rw [if_neg named] at unchanged
      rw [WorldState.motionSession_congr unchanged] at live
      rw [if_neg]
      · exact owned other also mode session live device claimed
      · rintro ⟨light, inside, sameName, _⟩
        refine claimed_name_ne also (fit other also session live) claimed listed named ?_ sameName
        exact target_light_controlled listed (activation_some opens.active).1 inside

/-- Operations that change no session and follow no sensors leave claimed lights with motion. -/
theorem run_owned_of_held {operation : Operation} (changes : operation.changesSessions = false)
    {runtime : Runtime} (held : runtime.world.SessionsHeld env.topology)
    (fit : runtime.world.SessionsFit env.topology)
    (owned : runtime.world.ClaimsOwned env.topology) :
    (operation.run env runtime).1.world.ClaimsOwned env.topology := by
  intro rule listed mode session live device claimed
  rw [WorldState.motionSession_congr (Operation.run_ruleAt changes runtime rule.name)] at live
  have own := owned rule listed mode session live device claimed
  have known := claimed_known listed (fit rule listed session live) claimed
  have claim := hasOffOnlyClaim listed mode (held rule listed (by rw [live]; rfl)) live claimed
  have spared : operation.sparesLighting →
      ((operation.run env runtime).1.world.lightAt (env.topology.deviceName device)).target.owner =
        some .motion := by
    intro spares
    have same := congrArg Lighting.lights (Operation.run_lighting env spares runtime)
    have lights : (operation.run env runtime).1.world.lights = runtime.world.lights := same
    unfold WorldState.lightAt
    rw [lights]
    exact own
  have manual : ∀ {name : String} {result : WorldState × List Effect},
      env.Manual name runtime.world result →
        (result.1.lightAt (env.topology.deviceName device)).target.owner = some .motion :=
    fun touches => touches.lights.preserves (fun light => light.target.owner = some .motion)
      (fun _ _ step => ManualLight.owned known claim step) own
  have reported : ∀ {after : WorldState}, env.Reported runtime.world after →
      (after.lightAt (env.topology.deviceName device)).target.owner = some .motion :=
    fun touches => touches.lights.preserves (fun light => light.target.owner = some .motion)
      (fun _ _ step => ReportLight.owned known claim step) own
  cases operation with
  | execute ruleName effect ts =>
      cases about : effect.room with
      | some room => exact manual (executeEffect_manual about ruleName ts _)
      | none =>
          cases effect with
          | turnOffAllZones =>
              have same : (env.turnOffAllZones ts runtime.world).1.lightAt
                  (env.topology.deviceName device) =
                    runtime.world.lightAt (env.topology.deviceName device) :=
                (turnOffAllZones_touches env ts _).lights.eq_of_no_step fun _ _ => not_false
              rw [← same] at own
              exact own
          | toggle plug seconds => exact spared rfl
          | turnOn plug => exact spared rfl
          | turnOff plug => exact spared rfl
          | _ => cases about
  | webRecallScene room sceneId ts => exact manual (webRecallScene_manual room sceneId ts _)
  | webSetRoomOff room ts => exact manual (webSetRoomOff_manual room ts _)
  | observeGroup group on ts => exact reported (handleGroupState_reported group on ts _)
  | observeLight name actual ts => exact reported (handleLightState_reported name actual ts _)
  | observeSensor sensor occupied illuminance received ts => exact own
  | ageTargets ts =>
      have aged := runtime.world.lightAt_ageTargets ts (env.topology.deviceName device)
      have owner := (runtime.world.lightAt (env.topology.deviceName device)).owner_age ts
      rw [← aged] at owner
      exact owner.trans own
  | ageActuals ts => exact own
  | forgetCycle room => exact own
  | startSession rule illuminance ts => cases changes
  | releaseSession rule ts => cases changes
  | finishSession rule ts owner => cases changes
  | startupTurnOff rule ts => cases changes
  | blockMotion room ts => cases changes
  | _ => exact spared rfl

/-- A session that is closed only takes its own lights along. -/
theorem owned_of_closed {rule : ResolvedMotionRule} (listed : rule ∈ env.topology.motionRules)
    {world after : WorldState} (fit : world.SessionsFit env.topology)
    (owned : world.ClaimsOwned env.topology)
    (sessions : ∀ other session, after.motionSession other = some session →
      rule.name ≠ other.name ∧ world.motionSession other = some session)
    (lights : ∀ name, (∀ light ∈ rule.lights, env.lightName light ≠ name) →
      after.lightAt name = world.lightAt name) :
    after.ClaimsOwned env.topology := by
  intro other also mode session live device claimed
  obtain ⟨different, before⟩ := sessions other session live
  rw [lights]
  · exact owned other also mode session before device claimed
  · exact fun light inside =>
      claimed_name_ne also (fit other also session before) claimed listed different inside

theorem run_owned_of_following {operation : Operation}
    (admissible : operation.Admissible env.topology) (follower : operation.followsSensors)
    {runtime : Runtime} (fit : runtime.world.SessionsFit env.topology)
    (owned : runtime.world.ClaimsOwned env.topology) :
    (operation.run env runtime).1.world.ClaimsOwned env.topology := by
  -- The lights of a rule's session are lights of the rule.
  have inRule : ∀ {rule : ResolvedMotionRule}, rule ∈ env.topology.motionRules → ∀ {session},
      runtime.world.motionSession rule = some session → ∀ light ∈ session.target.lights,
        light ∈ rule.lights := by
    intro rule listed session live light inside
    obtain ⟨slot, targeted⟩ := (fit rule listed session live).target
    exact target_light_controlled listed targeted inside
  cases operation with
  | observeSensor sensor occupied illuminance received ts => exact owned
  | ageActuals ts => exact owned
  | startSession rule illuminance ts =>
      exact startMotionSession_owned admissible illuminance ts fit owned
  | releaseSession rule ts =>
      refine owned_of_closed admissible fit owned
        (fun other session live => releaseMotionSession_sessions rule ts runtime.world live) ?_
      intro name outside
      cases live : runtime.world.motionSession rule with
      | none =>
          have same : env.releaseMotionSession rule ts runtime.world = runtime.world := by
            unfold releaseMotionSession
            rw [live]
          exact congrArg (fun world : WorldState => world.lightAt name) same
      | some session =>
          refine (releaseMotionSession_lightAt rule ts live name).trans (if_neg ?_)
          rintro ⟨light, inside, named⟩
          exact outside light (inRule admissible live light inside) named
  | finishSession rule ts owner =>
      have finish := finishMotionSession_finish env rule ts owner runtime.world
      refine owned_of_closed admissible fit owned
        (fun other session live => finish.sessions live) ?_
      intro name outside
      exact finish.lightAt_eq fun session live light inside =>
        outside light (inRule admissible live light inside)
  | _ => cases follower

/-- Startup only turns off lights of rules without a live off-only session. -/
theorem startupTurnOff_owned {rule : ResolvedMotionRule}
    (listed : rule ∈ env.topology.motionRules) (ts : Instant) {world : WorldState}
    (held : world.SessionsHeld env.topology) (fit : world.SessionsFit env.topology)
    (owned : world.ClaimsOwned env.topology) :
    (env.startupTurnOff rule ts world).1.ClaimsOwned env.topology := by
  have startup := startupTurnOff_startup env rule ts world
  generalize env.startupTurnOff rule ts world = result at startup
  cases startup with
  | idle nothing => exact owned
  | start mode observed occupied => exact startMotionSession_owned listed none ts fit owned
  | reset mode observed free resets =>
      intro other also offOnly session live device claimed
      unfold WorldState.motionSession at live
      rw [resets.motionRules] at live
      have different : rule.name ≠ other.name := by
        intro named
        have equal := rule_eq_of_name listed also named
        subst equal
        exact free ⟨offOnly, held rule listed (Option.isSome_iff_exists.mpr ⟨session, live⟩)⟩
      have lights := turnOffMotionLights_lightAt env (resetTarget rule)
        (env.resetLights rule) rule.offTransitionSeconds ts .system world
        (env.topology.deviceName device)
      rw [resets.lightAt, reset, lights, if_neg]
      · exact owned other also offOnly session live device claimed
      · rintro ⟨light, inside, named⟩
        exact claimed_name_ne also (fit other also session live) claimed listed different
          (List.mem_filter.mp inside).1 named

/-- Blocking a room gives up its lights, and takes them out of every claim. -/
theorem blockMotion_owned (name : String) (ts : Instant) {world : WorldState}
    (fit : world.SessionsFit env.topology) (owned : world.ClaimsOwned env.topology) :
    (env.blockMotion name ts world).ClaimsOwned env.topology := by
  intro other also mode session live device claimed
  cases found : env.topology.roomByName name with
  | none =>
      unfold blockMotion at live ⊢
      rw [found] at live ⊢
      exact owned other also mode session live device claimed
  | some room =>
      obtain ⟨before, was, target, fewer, _⟩ := blockMotion_sessions name ts world live
      have blocks := blockMotion_blocks found ts world
      have fits := fit other also before was
      rw [blocks.lightAt, if_neg]
      · exact owned other also mode before was device (fewer claimed)
      · rintro ⟨light, member, named⟩
        have same := TopologyTables.deviceName_inj env.topology.valid (member_known found member)
          (claimed_known also fits (fewer claimed)) named
        exact blockMotion_unclaimed found ts world live claimed member same

end Env

/-! ## The end of a session -/

namespace Effect

/-- The message says OFF. -/
def isOff : Effect → Prop
  | publishGroupSet _ (.stateOff _ _) => True
  | publishLightSet _ (.stateOff _ _) => True
  | _ => False

/-- The message says OFF to a light, or to a group it is a member of. -/
def turnsOff (topology : Topology) (device : DeviceIdx) (effect : Effect) : Prop :=
  effect.isOff ∧ effect.reaches topology device

end Effect

namespace Env

variable {env : Env}

/-- A group that is addressed for lights of a target has them as members. -/
theorem wholeGroup_members {rule : ResolvedMotionRule} (listed : rule ∈ env.topology.motionRules)
    {slot : String} {target : ResolvedMotionTarget}
    (targeted : rule.targetsBySlot[slot]? = some target) {lights : List LightEndpoint}
    {group : RoomIdx} (whole : wholeGroup target lights = some group) :
    ∃ room, env.topology.room group = some room ∧ target.lights = room.lightMembers := by
  unfold wholeGroup at whole
  split at whole
  · exact (env.topology.valid.rules_fit rule listed).group_lights slot target group targeted whole
  · cases whole

/-- Turning off lights of a target sends OFF to each of them. -/
theorem turnOffMotionLights_turnsOff {rule : ResolvedMotionRule}
    (listed : rule ∈ env.topology.motionRules) {slot : String} {target : ResolvedMotionTarget}
    (targeted : rule.targetsBySlot[slot]? = some target) {lights : List LightEndpoint}
    (inside : ∀ light ∈ lights, light ∈ target.lights) (transition : ℚ) (ts : Instant)
    (owner : Owner) (world : WorldState) {light : LightEndpoint} (member : light ∈ lights) :
    ∃ effect ∈ (env.turnOffMotionLights target lights transition ts owner world).2,
      effect.turnsOff env.topology light.device := by
  rw [turnOffMotionLights_effects]
  split
  · rename_i group whole
    obtain ⟨room, here, same⟩ := wholeGroup_members listed targeted whole
    refine ⟨_, List.mem_singleton_self _, trivial, room, here, light, ?_, rfl⟩
    rw [← same]
    exact inside light member
  · exact ⟨_, List.mem_map.mpr ⟨light, member, rfl⟩, trivial, rfl⟩

end Env

namespace Record

/-- The operation tells every light that the session claims to be off, unless the light is already
told to be off or a disabled zone contains it. -/
def LeavesOff (session : MotionSession) (owner : Owner) (ts : Instant) (record : Record) : Prop :=
  ∀ device ∈ session.claimed, record.env.motionAllowedForLight device →
    let name := record.env.topology.deviceName device
    (record.before.world.lightAt name).target.value = some .off ∨
      (record.after.world.lightAt name).target = .held .off .commanded owner ts ∧
        ∃ effect ∈ record.effects, effect.turnsOff record.env.topology device

/-- Closing an off-only session leaves its lights off. -/
def ClosesOffOnly (record : Record) : Prop :=
  ∀ rule ts owner session, record.operation = .finishSession rule ts owner →
    rule.mode = .offOnly → record.before.world.motionSession rule = some session →
    record.LeavesOff session owner ts

/-- The operation closes the session and leaves its lights off. -/
def EndsOff (rule : ResolvedMotionRule) (session : MotionSession) (record : Record) : Prop :=
  ∃ ts owner, record.operation = .finishSession rule ts owner ∧
    record.before.world.motionSession rule = some session ∧ record.LeavesOff session owner ts

end Record

namespace Env

variable {env : Env}

/-- A light that motion owns is stored. -/
theorem stored_of_owned {light : LightEndpoint} {world : WorldState}
    (own : (world.lightAt (env.lightName light)).target.owner = some .motion) :
    ∃ entity, world.lights[env.lightName light]? = some entity ∧
      world.lightAt (env.lightName light) = entity ∧ entity.target.owner = some .motion := by
  cases here : world.lights[env.lightName light]? with
  | none =>
      simp only [WorldState.lightAt, here, Option.getD_none] at own
      cases own
  | some entity =>
      have same : world.lightAt (env.lightName light) = entity := by
        rw [WorldState.lightAt, here, Option.getD_some]
      exact ⟨entity, rfl, same, same ▸ own⟩

/-- A claimed light of the session that motion owns and may control is turned off with it. -/
theorem mem_eligibleLights {light : LightEndpoint} {session : MotionSession} {world : WorldState}
    {entity : LightEntity} (inside : light ∈ session.target.lights)
    (claimed : light.device ∈ session.claimed)
    (allowed : env.motionAllowedForLight light.device = true)
    (here : world.lights[env.lightName light]? = some entity)
    (motion : entity.target.owner = some .motion) :
    light ∈ env.eligibleLights session world := by
  refine List.mem_filter.mpr ⟨inside, ?_⟩
  rw [here, allowed]
  simp [claimed, motion]

theorem closesOffOnly {operation : Operation} (admissible : operation.Admissible env.topology)
    {runtime : Runtime} (fit : runtime.world.SessionsFit env.topology)
    (owned : runtime.world.ClaimsOwned env.topology) :
    Record.ClosesOffOnly { env, before := runtime, operation } := by
  intro rule ts owner session isFinish mode live device claimed allowed
  dsimp only at isFinish live allowed ⊢
  subst isFinish
  have fits := fit rule admissible session live
  have own := owned rule admissible mode session live device claimed
  obtain ⟨light, inside, _, rfl⟩ := claimed_light admissible fits claimed
  obtain ⟨slot, targeted⟩ := fits.target
  obtain ⟨entity, here, shown, motion⟩ := stored_of_owned own
  have eligible := mem_eligibleLights inside claimed allowed here motion
  have finish := finishMotionSession_finish env rule ts owner runtime.world
  unfold Record.after Record.effects
  change _ ∨ ((env.finishMotionSession rule ts owner runtime.world).1.lightAt _).target = _ ∧
    ∃ effect ∈ (env.finishMotionSession rule ts owner runtime.world).2, _
  generalize env.finishMotionSession rule ts owner runtime.world = result at finish
  cases finish with
  | idle closed =>
      rw [live] at closed
      cases closed
  | off other same targetOff =>
      rw [live] at same
      cases same
      refine .inl ?_
      have dark := List.all_eq_true.mp targetOff light inside
      rw [here, Option.any_some, Bool.and_eq_true, Bool.not_eq_true'] at dark
      change (runtime.world.lightAt (env.lightName light)).target.value = some .off
      rw [shown]
      unfold LightEntity.targetIsOn at dark
      cases target : entity.target with
      | unset =>
          rw [target] at motion
          cases motion
      | held value phase owner since =>
          rw [target] at dark
          cases value with
          | off => rfl
          | on brightness colorTemp => cases dark.1
  | leave other same targetOn leaves =>
      rw [live] at same
      cases same
      rcases leaves with onOnly | none
      · rw [mode] at onOnly
        cases onOnly
      · rw [none] at eligible
        cases eligible
  | turnOff other same targetOn notOnOnly ownedLights =>
      rw [live] at same
      cases same
      refine .inr ⟨?_, ?_⟩
      · have lights := turnOffMotionLights_lightAt env session.target
          (env.eligibleLights session runtime.world) rule.offTransitionSeconds ts owner
          (runtime.world.takeSession rule) (env.lightName light)
        rw [if_pos ⟨light, eligible, rfl⟩] at lights
        exact congrArg LightEntity.target lights
      · exact turnOffMotionLights_turnsOff admissible targeted
          (fun other member => (List.mem_filter.mp member).1) rule.offTransitionSeconds ts owner
          (runtime.world.takeSession rule) eligible

end Env

/-! ## Runs -/

/-- Off-only claims are owned, and every closed off-only session has turned off its lights. -/
def OffOnlyKept (topology : Topology) (history : List Record) (runtime : Runtime) : Prop :=
  runtime.world.ClaimsOwned topology ∧ ∀ record ∈ history, record.ClosesOffOnly

theorem offOnly_kept : KeptByHandlers fun topology history runtime =>
    runtime.world.SessionsHeld topology ∧ runtime.world.SessionsFit topology ∧
      OffOnlyKept topology history runtime := by
  have records : ∀ {env : Env} {operation : Operation} {past : List Record} {runtime : Runtime},
      operation.Admissible env.topology → runtime.world.SessionsFit env.topology →
      OffOnlyKept env.topology past runtime →
        ∀ record ∈ past ++ [{ env, before := runtime, operation }], record.ClosesOffOnly := by
    intro env operation past runtime admissible fit kept record member
    rcases List.mem_append.mp member with member | member
    · exact kept.2 record member
    · rw [List.mem_singleton] at member
      subst member
      exact Env.closesOffOnly admissible fit kept.1
  refine KeptBySessions.handlers ?_ ?_ ?_
  · intro topology
    refine ⟨fun rule _ _ session live => ?_, by simp⟩
    cases live
  · intro env operation past runtime plain _ held fit kept
    refine ⟨?_, records plain.1 fit kept⟩
    cases changes : operation.changesSessions with
    | false => exact Env.run_owned_of_held changes held fit kept.1
    | true =>
        cases operation with
        | startupTurnOff rule ts => exact Env.startupTurnOff_owned plain.1 ts held fit kept.1
        | blockMotion room ts => exact Env.blockMotion_owned room ts fit kept.1
        | startSession rule illuminance ts => cases plain.2
        | releaseSession rule ts => cases plain.2
        | finishSession rule ts owner => cases plain.2
        | _ => cases changes
  · intro env operation past runtime admissible follower _ fit kept
    exact ⟨Env.run_owned_of_following admissible follower fit kept.1,
      records admissible fit kept⟩

/-- An off-only claim survives manual control: whatever happened since, every light claimed by a
live off-only session is owned by motion; every off-only session that was closed turned off its
claimed lights, but for those already told to be off and those of disabled zones; and an event, such
as vacancy or a tick that finds a sensor stale, ends an off-only session only by closing it so. -/
theorem Run.off_only_claims_survive {history : List Record} {daemon : Daemon}
    (run : Run history daemon) :
    (∀ rule ∈ daemon.processor.automation.topology.motionRules, rule.mode = .offOnly →
      ∀ session, daemon.processor.runtime.world.motionSession rule = some session →
        ∀ device ∈ session.claimed,
          (daemon.processor.runtime.world.lightAt
            (daemon.processor.automation.topology.deviceName device)).target.owner =
              some .motion) ∧
      (∀ record ∈ history, record.ClosesOffOnly) ∧
      ∀ (clock : ClockReading) (event : Event) (after : Daemon) (records : List Record),
        daemon.next clock (.event event) = some (after, records) →
          ∀ rule ∈ daemon.processor.automation.topology.motionRules, rule.mode = .offOnly →
            ∀ session, daemon.processor.runtime.world.motionSession rule = some session →
              after.processor.runtime.world.motionSession rule ≠ some session →
                ∃ record ∈ records, record.EndsOff rule session := by
  obtain ⟨_, held, _, owned, closed⟩ := run.invariant offOnly_kept
  refine ⟨owned, closed, ?_⟩
  intro clock event after records taken rule listed mode session live gone
  obtain ⟨reached, performed⟩ := Daemon.next_event taken
  have lasts : LastsOrFinished rule session records after.processor.runtime := by
    rw [reached, performed]
    exact Env.handleEvent_lasts listed event held live
  rcases lasts with lasts | ⟨record, member, ⟨ts, owner, finishes⟩, before⟩
  · exact absurd lasts gone
  · have later := ((run.step taken).invariant offOnly_kept).2.2.2.2
    have closes := later record (List.mem_append_right _ member)
    exact ⟨record, member, ts, owner, finishes, before,
      closes rule ts owner session finishes mode before⟩

/-- Somebody enters the study, turns its lights on by hand and leaves: motion keeps the lamp while
they are there, and turns it off when they are gone. -/
theorem Run.off_only_claims_survive_study : ∃ (history : List Record) (daemon after : Daemon)
    (records : List Record), Run history daemon ∧
      (∃ record ∈ history, record.operation.executed = some (.sceneCycle 0)) ∧
      (daemon.processor.runtime.world.lightAt "lamp").target.owner = some .motion ∧
      daemon.next (House.clock 3)
        (.event (.occupancy "eye" false none none (Duration.fromSecs 3))) = some (after, records) ∧
      ∃ record ∈ records, ∃ effect ∈ record.effects,
        effect.turnsOff record.env.topology House.lamp.device := by
  obtain ⟨daemon, history, run, topology, facts⟩ := House.played .offOnly
    [House.onPress "on" (.sceneCycle 0)]
    [(0, .start), (1, .event (.occupancy "eye" true none none (Duration.fromSecs 1))),
      House.press "on" 2]
    (fun reached : Daemon × List Record =>
      (reached.1.processor.runtime.world.motionSession (House.studyMotion .offOnly),
        reached.2.any fun record => decide (record.operation.executed = some (.sceneCycle 0)),
        (reached.1.next (House.clock 3)
          (.event (.occupancy "eye" false none none (Duration.fromSecs 3)))).map fun result =>
            (result.1.processor.runtime.world.motionSession (House.studyMotion .offOnly),
              result.2.all fun record => record.env.motionAllowedForLight House.lamp.device &&
                decide ((record.before.world.lightAt (record.env.lightName House.lamp)).target.value
                  ≠ some .off))))
    (some ⟨"day", ⟨some 0, [House.lamp]⟩, {0}⟩, true, some (none, true)) (by decide +kernel)
  obtain ⟨live, manual, vacated⟩ : _ ∧ _ ∧ _ := by
    simpa only [Prod.mk.injEq] using facts
  obtain ⟨⟨after, records⟩, taken, ended⟩ := Option.map_eq_some_iff.mp vacated
  obtain ⟨gone, lit⟩ := Prod.mk.inj ended
  have listed : House.studyMotion .offOnly ∈
      daemon.processor.automation.topology.motionRules := by
    rw [topology]
    exact List.mem_cons_self
  obtain ⟨owned, _, ends⟩ := Run.off_only_claims_survive run
  have own := owned _ listed rfl _ live House.lamp.device (by decide)
  rw [topology] at own
  obtain ⟨record, member, ts, owner, _, _, leaves⟩ :=
    ends _ _ after records taken _ listed rfl _ live (by simp [gone])
  have here := List.all_eq_true.mp lit record member
  rw [Bool.and_eq_true, decide_eq_true_eq] at here
  refine ⟨history, daemon, after, records, run, ?_, own, taken, record, member, ?_⟩
  · obtain ⟨pressed, inside, executes⟩ := List.any_eq_true.mp manual
    exact ⟨pressed, inside, of_decide_eq_true executes⟩
  · rcases leaves House.lamp.device (by decide) here.1 with already | told
    · exact absurd already here.2
    · exact told.2

end MqttController
