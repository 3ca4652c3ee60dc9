import MqttController.MotionChanges

/-!
# What startup and settings do to motion

Startup turns off what a rule left on; blocking a room releases its lights and takes them out of
every session.
-/

namespace MqttController

open KeyedChange WorldState

namespace Env

variable {env : Env}

/-! ## Startup -/

/-- What startup turns off: the lights of a rule, with the group of a slot that has them all. -/
def resetTarget (rule : ResolvedMotionRule) : ResolvedMotionTarget :=
  { group := wholeRuleGroup rule, lights := rule.lights }

/-- The lights of a rule that startup may turn off. -/
def resetLights (env : Env) (rule : ResolvedMotionRule) : List LightEndpoint :=
  rule.lights.filter fun light => env.motionAllowedForLight light.device

/-- Turning off what a rule controls, without arming its cooldown. -/
def reset (env : Env) (rule : ResolvedMotionRule) (ts : Instant) (world : WorldState) :
    WorldState × List Effect :=
  env.turnOffMotionLights (resetTarget rule) (env.resetLights rule) rule.offTransitionSeconds ts
    .system world

/-- Startup turned off what the rule controls. -/
structure Resets (env : Env) (rule : ResolvedMotionRule) (ts : Instant) (world : WorldState)
    (result : WorldState × List Effect) : Prop where
  effects : result.2 = (env.reset rule ts world).2
  lightAt : ∀ name, result.1.lightAt name = (env.reset rule ts world).1.lightAt name
  zoneAt : ∀ name, ∃ last,
    result.1.zoneAt name = { (env.reset rule ts world).1.zoneAt name with lastMotionOffAt := last }
  frame : Frame world result.1
  motionRules : result.1.motionRules = world.motionRules

/-- How startup goes for one rule. -/
inductive Startup (env : Env) (rule : ResolvedMotionRule) (ts : Instant) (world : WorldState) :
    WorldState × List Effect → Prop
  /-- The rule only turns lights on, or nothing it controls is on. -/
  | idle (nothing : rule.mode = .onOnly ∨ env.ruleObservedOn rule world = false) :
      Startup env rule ts world (world, [])
  /-- An occupied off-only rule opens its session. -/
  | start (mode : rule.mode = .offOnly) (observed : env.ruleObservedOn rule world)
      (occupied : world.motionRuleOccupied rule) :
      Startup env rule ts world (env.startMotionSession rule none ts world)
  /-- What the rule controls is turned off. -/
  | reset (mode : rule.mode ≠ .onOnly) (observed : env.ruleObservedOn rule world)
      (free : ¬(rule.mode = .offOnly ∧ world.motionRuleOccupied rule))
      {result : WorldState × List Effect} (resets : Resets env rule ts world result) :
      Startup env rule ts world result

theorem startupTurnOff_startup (env : Env) (rule : ResolvedMotionRule) (ts : Instant)
    (world : WorldState) : Startup env rule ts world (env.startupTurnOff rule ts world) := by
  unfold startupTurnOff
  split
  · rename_i mode
    exact .idle (.inl mode)
  · rename_i mode
    split
    · rename_i dark
      exact .idle (.inr (by simpa using dark))
    · rename_i lit
      have observed : env.ruleObservedOn rule world := by simpa using lit
      split
      · rename_i occupied
        exact .start occupied.1 observed occupied.2
      · rename_i free
        refine .reset mode observed free ?_
        obtain ⟨frame, rules⟩ := turnOffMotionLights_others env (resetTarget rule)
          (env.resetLights rule) rule.offTransitionSeconds ts .system world
        dsimp only
        split
        · refine ⟨rfl, fun _ => rfl, fun name => ⟨_, rfl⟩, frame, rules⟩
        · rename_i group _
          refine ⟨rfl, fun _ => rfl, fun name => ?_,
            frame.trans ⟨rfl, rfl, rfl, rfl, rfl, rfl⟩, rules⟩
          rw [zoneAt_modifyZone]
          split
          · rename_i same
            rw [← same]
            exact ⟨none, rfl⟩
          · exact ⟨_, rfl⟩

/-! ## Blocking -/

section Blocking

variable (env) (ts : Instant)

theorem lightAt_releaseMember (world : WorldState) (light : LightEndpoint) (name : String) :
    (env.releaseMember ts world light).lightAt name =
      if env.lightName light = name then (world.lightAt name).releaseMotion ts
      else world.lightAt name := by
  unfold releaseMember WorldState.lightAt
  dsimp only
  rw [OrderedMap.getElem?_adjust]
  split
  · rename_i same
    subst same
    cases world.lights[env.lightName light]? <;> rfl
  · rfl

theorem zoneAt_adjust (world : WorldState) (name other : String) :
    ({ world with lightZones := OrderedMap.adjust world.lightZones name (·.releaseMotion ts) } :
        WorldState).zoneAt other =
      if name = other then (world.zoneAt name).releaseMotion ts else world.zoneAt other := by
  unfold WorldState.zoneAt
  dsimp only
  rw [OrderedMap.getElem?_adjust]
  split
  · cases world.lightZones[name]? <;> rfl
  · rfl

/-- Releasing members one after the other. -/
theorem releaseMembers_lightAt (members : List LightEndpoint) (world : WorldState)
    (name : String) :
    (members.foldl (env.releaseMember ts) world).lightAt name =
      if ∃ light ∈ members, env.lightName light = name then (world.lightAt name).releaseMotion ts
      else world.lightAt name := by
  induction members generalizing world with
  | nil => simp
  | cons light rest ih =>
      rw [List.foldl_cons, ih, lightAt_releaseMember]
      by_cases named : env.lightName light = name
      · simp only [named, if_true, releaseMotion_idem, ite_self, List.mem_cons, exists_eq_or_imp,
          true_or]
      · simp only [named, if_false, List.mem_cons, exists_eq_or_imp, false_or]

/-- Everything but the lights. -/
theorem releaseMembers_others (members : List LightEndpoint) (world : WorldState) :
    (members.foldl (env.releaseMember ts) world).lightZones = world.lightZones ∧
      (members.foldl (env.releaseMember ts) world).motionRules = world.motionRules ∧
      Frame world (members.foldl (env.releaseMember ts) world) := by
  induction members generalizing world with
  | nil => exact ⟨rfl, rfl, Frame.refl world⟩
  | cons light rest ih =>
      obtain ⟨zones, rules, frame⟩ := ih (env.releaseMember ts world light)
      have first : Frame world (env.releaseMember ts world light) := ⟨rfl, rfl, rfl, rfl, rfl, rfl⟩
      exact ⟨zones, rules, first.trans frame⟩

/-- Zones only give up their owner. -/
abbrev ReleasesZones (before after : WorldState) : Prop :=
  Steps (fun _ zone released => released = zone.releaseMotion ts) before.zoneAt after.zoneAt

theorem releaseBlockedGroup_releases (blocked : DeviceIdx → Bool) (world : WorldState)
    (session : MotionSession) :
    ReleasesZones ts world (env.releaseBlockedGroup blocked ts world session) ∧
      (env.releaseBlockedGroup blocked ts world session).lights = world.lights ∧
      (env.releaseBlockedGroup blocked ts world session).motionRules = world.motionRules ∧
      Frame world (env.releaseBlockedGroup blocked ts world session) := by
  unfold releaseBlockedGroup
  split
  · exact ⟨Steps.refl _ _, rfl, rfl, Frame.refl world⟩
  · split
    · exact ⟨Steps.update rfl fun key => zoneAt_adjust ts world _ key, rfl, rfl,
        ⟨rfl, rfl, rfl, rfl, rfl, rfl⟩⟩
    · exact ⟨Steps.refl _ _, rfl, rfl, Frame.refl world⟩

theorem releaseBlockedGroups_releases (blocked : DeviceIdx → Bool)
    (sessions : List MotionSession) (world : WorldState) :
    ReleasesZones ts world (sessions.foldl (env.releaseBlockedGroup blocked ts) world) ∧
      (sessions.foldl (env.releaseBlockedGroup blocked ts) world).lights = world.lights ∧
      (sessions.foldl (env.releaseBlockedGroup blocked ts) world).motionRules =
        world.motionRules ∧
      Frame world (sessions.foldl (env.releaseBlockedGroup blocked ts) world) := by
  induction sessions generalizing world with
  | nil => exact ⟨Steps.refl _ _, rfl, rfl, Frame.refl world⟩
  | cons session rest ih =>
      obtain ⟨zones, lights, rules, frame⟩ := releaseBlockedGroup_releases env ts blocked
        world session
      obtain ⟨zones', lights', rules', frame'⟩ :=
        ih (env.releaseBlockedGroup blocked ts world session)
      exact ⟨zones.trans zones', lights'.trans lights, rules'.trans rules, frame.trans frame'⟩

end Blocking

/-- Giving up a room releases its members and the groups of sessions that lose lights, and takes
the members out of every session. -/
structure Blocks (env : Env) (room : ResolvedRoom) (ts : Instant) (world after : WorldState) :
    Prop where
  lightAt : ∀ name, after.lightAt name =
    if ∃ light ∈ room.lightMembers, env.lightName light = name then
      (world.lightAt name).releaseMotion ts
    else world.lightAt name
  zones : ReleasesZones ts world after
  ruleAt : ∀ name, after.ruleAt name = (world.ruleAt name).map
    (·.block fun device => room.lightMembers.any fun light => light.device == device)
  frame : Frame world after

theorem blockMotion_blocks {name : String} {room : ResolvedRoom}
    (found : env.topology.roomByName name = some room) (ts : Instant) (world : WorldState) :
    Blocks env room ts world (env.blockMotion name ts world) := by
  obtain ⟨zones, rules, frame⟩ := releaseMembers_others env ts room.lightMembers world
  have lights := releaseMembers_lightAt env ts room.lightMembers world
  unfold blockMotion
  rw [found]
  dsimp only
  generalize room.lightMembers.foldl (env.releaseMember ts) world = released at *
  obtain ⟨zones', lights', rules', frame'⟩ := releaseBlockedGroups_releases env ts
    (fun device => room.lightMembers.any fun light => light.device == device)
    (OrderedMap.pickValues released.motionRules (·.session)) released
  generalize List.foldl _ released _ = regrouped at *
  refine ⟨fun key => ?_, ?_, fun key => ?_,
    frame.trans (frame'.trans ⟨rfl, rfl, rfl, rfl, rfl, rfl⟩)⟩
  · rw [← lights key]
    unfold WorldState.lightAt
    rw [lights']
  · refine Steps.trans (Steps.of_eq ?_) zones'
    funext key
    unfold WorldState.zoneAt
    rw [zones]
  · unfold WorldState.ruleAt
    dsimp only
    rw [OrderedMap.getElem?_mapValues, rules', rules]

theorem blockMotion_frame (name : String) (ts : Instant) (world : WorldState) :
    Frame world (env.blockMotion name ts world) := by
  cases found : env.topology.roomByName name with
  | none =>
      unfold blockMotion
      rw [found]
      exact Frame.refl world
  | some room => exact (blockMotion_blocks found ts world).frame

end Env

end MqttController
