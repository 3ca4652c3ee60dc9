import MqttController.OffOnlyClaims

/-!
# Manual takeover

A light that a manual command reached, and that no off-only claim holds, is not turned off by the
end of a motion session until an activation claims it.
-/

namespace MqttController

open KeyedChange Emission

/-- An activation after which the rule's session claims the light. -/
def Record.Claims (record : Record) (device : DeviceIdx) : Prop :=
  ∃ rule ∈ record.env.topology.motionRules,
    ((∃ illuminance ts, record.operation = .startSession rule illuminance ts) ∨
      ∃ ts, record.operation = .startupTurnOff rule ts) ∧
    ∃ session, record.after.world.motionSession rule = some session ∧ device ∈ session.claimed

/-- A manual room command with a message to the light, which no off-only claim holds. -/
def Record.TakesOver (record : Record) (device : DeviceIdx) : Prop :=
  (record.operation.manualRoom record.env).isSome ∧
    Addresses record.env.topology record.effects device ∧
    record.env.lightHasOffOnlyClaim record.before.world device = false

instance (record : Record) (device : DeviceIdx) : Decidable (record.TakesOver device) :=
  inferInstanceAs (Decidable (_ ∧ _ ∧ _))

/-- The light was taken over and not claimed since. -/
def TakenIn (history : List Record) (device : DeviceIdx) : Prop :=
  ∃ past manual later, history = past ++ manual :: later ∧ manual.TakesOver device ∧
    ∀ record ∈ later, ¬ record.Claims device

theorem takenIn_concat {history : List Record} {last : Record} {device : DeviceIdx}
    (taken : TakenIn (history ++ [last]) device) :
    last.TakesOver device ∨ TakenIn history device ∧ ¬ last.Claims device :=
  since_concat taken

/-- The light is nobody's claim, and motion does not own it. -/
structure Unclaimed (topology : Topology) (world : WorldState) (device : DeviceIdx) : Prop where
  known : device < topology.devices.length
  owner : (world.lightAt (topology.deviceName device)).target.owner ≠ some .motion
  sessions : ∀ rule ∈ topology.motionRules, rule.mode = .offOnly → ∀ session,
    world.motionSession rule = some session → device ∉ session.claimed

/-- The operation leaves the light alone and publishes nothing that reaches it. -/
def Record.Spares (record : Record) (device : DeviceIdx) : Prop :=
  (∀ effect ∈ record.effects, ¬ effect.reaches record.env.topology device) ∧
    record.after.world.lightAt (record.env.topology.deviceName device) =
      record.before.world.lightAt (record.env.topology.deviceName device)

namespace LightEntity

theorem owner_observe_ne {light : LightEntity} (actual : LightActual) (ts : Instant)
    (unowned : light.target.owner ≠ some .motion) :
    (light.observe actual .system ts).target.owner ≠ some .motion := by
  have confirmed : ∀ followed : TassTarget LightTarget, followed.owner ≠ some .motion →
      ∀ confirms : Prop, ∀ _ : Decidable confirms,
        (if confirms then followed.confirm ts else followed).owner ≠ some .motion := by
    intro followed same confirms _
    split
    · rwa [TassTarget.owner_confirm]
    · exact same
  unfold observe
  dsimp only
  refine confirmed _ ?_ _ _
  split
  · simp
  · rwa [TassTarget.owner_markStaleIfOld]

theorem releaseMotion_of_ne {light : LightEntity} (ts : Instant)
    (unowned : light.target.owner ≠ some .motion) : light.releaseMotion ts = light := by
  unfold releaseMotion
  rw [if_neg]
  simpa using unowned

end LightEntity

namespace Unclaimed

variable {env : Env} {world : WorldState} {device : DeviceIdx}

/-- No off-only claim holds the light. -/
theorem free (unclaimed : Unclaimed env.topology world device) :
    env.lightHasOffOnlyClaim world device = false := by
  unfold Env.lightHasOffOnlyClaim
  rw [List.any_eq_false]
  intro rule listed
  cases live : world.motionSession rule with
  | none => simp
  | some session =>
      simp only [Option.any_some, Bool.and_eq_true, beq_iff_eq, decide_eq_true_eq, not_and]
      intro claims
      exact unclaimed.sessions rule listed claims.1 session live

/-- Off-only sessions that were there before claim what they claimed. -/
theorem of_sessions (unclaimed : Unclaimed env.topology world device) {after : WorldState}
    (owner : (after.lightAt (env.topology.deviceName device)).target.owner ≠ some .motion)
    (sessions : ∀ rule ∈ env.topology.motionRules, ∀ session,
      after.motionSession rule = some session → device ∈ session.claimed →
        ∃ before, world.motionSession rule = some before ∧ device ∈ before.claimed) :
    Unclaimed env.topology after device := by
  refine ⟨unclaimed.known, owner, fun rule listed mode session live claimed => ?_⟩
  obtain ⟨before, was, also⟩ := sessions rule listed session live claimed
  exact unclaimed.sessions rule listed mode before was also

/-- A light of which motion owns the stored target is not this one. -/
theorem name_ne (unclaimed : Unclaimed env.topology world device) {light : LightEndpoint}
    {session : MotionSession} (eligible : light ∈ env.eligibleLights session world) :
    env.lightName light ≠ env.topology.deviceName device := by
  intro named
  have owned := (List.mem_filter.mp eligible).2
  rw [Bool.and_eq_true] at owned
  obtain ⟨entity, stored, motion⟩ := (Option.any_eq_true _ _).mp owned.2
  refine unclaimed.owner ?_
  rw [← named]
  unfold WorldState.lightAt
  rw [stored]
  simpa using motion

end Unclaimed

namespace Env

variable {env : Env} {device : DeviceIdx}

theorem ManualLight.unowned {start : WorldState} {hit : DeviceIdx → Prop}
    (known : device < env.topology.devices.length)
    (free : env.lightHasOffOnlyClaim start device = false) {before after : LightEntity}
    (manual : env.ManualLight start hit (env.topology.deviceName device) before after) :
    after.target.owner ≠ some .motion := by
  intro owned
  have claim := manual.takenOver known owned
  rw [free] at claim
  cases claim

theorem ReportLight.unowned {start : WorldState} (known : device < env.topology.devices.length)
    (free : env.lightHasOffOnlyClaim start device = false) {before after : LightEntity}
    (report : env.ReportLight start (env.topology.deviceName device) before after)
    (unowned : before.target.owner ≠ some .motion) : after.target.owner ≠ some .motion := by
  obtain ⟨actual, ts, rfl⟩ := report
  have owner : env.reportOwner start (env.topology.deviceName device) = .system := by
    unfold reportOwner
    rw [TopologyTables.deviceIdx_of_deviceName env.topology.valid known, Option.any_some, free]
    rfl
  rw [owner]
  exact LightEntity.owner_observe_ne actual ts unowned

/-- A manual command takes over every light that it reaches. -/
theorem Outcome.takenOver {start : WorldState} {ts : Instant} {result : WorldState × List Effect}
    (outcome : Outcome env start ts result) (addressed : Addresses env.topology result.2 device) :
    device < env.topology.devices.length ∧
      env.TakenOver start device (result.1.lightAt (env.topology.deviceName device)) := by
  obtain ⟨effect, published, reaches⟩ := addressed
  cases outcome with
  | group idx room payload found mirrors =>
      rw [List.mem_singleton] at published
      subst published
      obtain ⟨other, here, light, member, rfl⟩ := reaches
      rw [found] at here
      cases here
      obtain ⟨value, owner, _, held, claimed⟩ := mirrors.lights light member
      refine ⟨env.topology.valid.members_known room (TopologyTables.mem_rooms_of_room found) light
        member, fun motion => claimed ?_⟩
      change (WorldState.lightAt _ (env.lightName light)).target.owner = some .motion at motion
      rw [held] at motion
      exact Option.some.inj motion
  | brightness idx room payload found brightness taken =>
      rw [List.mem_singleton] at published
      subst published
      obtain ⟨other, here, light, member, rfl⟩ := reaches
      rw [found] at here
      cases here
      exact ⟨env.topology.valid.members_known room (TopologyTables.mem_rooms_of_room found) light
        member, taken light member⟩
  | lights effects single =>
      obtain ⟨light, payload, rfl, known, taken⟩ := single effect published
      cases reaches
      exact ⟨known, taken⟩

/-! ## Operations -/

/-- A manual command gives up the lights it reaches. -/
theorem unclaimed_of_takesOver {operation : Operation} {runtime : Runtime}
    (held : runtime.world.SessionsHeld env.topology)
    (takes : Record.TakesOver { env, before := runtime, operation } device) :
    Unclaimed env.topology (operation.run env runtime).1.world device := by
  obtain ⟨manual, addressed, free⟩ := takes
  dsimp only [Record.effects] at manual addressed free
  obtain ⟨name, manual⟩ := Option.isSome_iff_exists.mp manual
  obtain ⟨ts, outcome⟩ := Operation.run_outcome manual runtime
  have changes : operation.changesSessions = false := by
    cases operation <;> first | rfl | cases manual
  -- The command reaches the light, so it wrote it with an owner other than motion.
  have written := outcome.takenOver addressed
  refine ⟨written.1, fun owned => ?_, fun rule listed mode session live claimed => ?_⟩
  · have claim := written.2 owned
    rw [free] at claim
    cases claim
  · rw [WorldState.motionSession_congr (Operation.run_ruleAt changes runtime rule.name)] at live
    have claim := hasOffOnlyClaim listed mode (held rule listed (by rw [live]; rfl)) live claimed
    rw [free] at claim
    cases claim

/-- Starting a session leaves a light alone that it does not claim. -/
theorem startMotionSession_lightAt {rule : ResolvedMotionRule}
    (listed : rule ∈ env.topology.motionRules) (illuminance : Option Nat) (ts : Instant)
    {world : WorldState} (known : device < env.topology.devices.length)
    (unclaimed : ∀ session,
      (env.startMotionSession rule illuminance ts world).1.motionSession rule = some session →
        device ∉ session.claimed) :
    (env.startMotionSession rule illuminance ts world).1.lightAt (env.topology.deviceName device) =
      world.lightAt (env.topology.deviceName device) := by
  rcases startMotionSession_cases listed illuminance ts world with idle | ⟨opens, same⟩
  · exact idle.lightAt _
  · rw [same] at unclaimed ⊢
    rw [opens.lightAt, if_neg]
    rintro ⟨light, inside, named, may⟩
    refine unclaimed _ opens.motionSession ((opens.mem_claimed device).mpr ⟨light, inside, may, ?_⟩)
    exact TopologyTables.deviceName_inj env.topology.valid
      (light_known listed (target_light_controlled listed (activation_some opens.active).1 inside))
      known named

/-- Closing a session leaves a light alone that motion does not own. -/
theorem Finish.lightAt_unclaimed {rule : ResolvedMotionRule} {ts : Instant} {owner : Owner}
    {world : WorldState} {result : WorldState × List Effect}
    (finish : Finish env rule ts owner world result)
    (unclaimed : Unclaimed env.topology world device) :
    result.1.lightAt (env.topology.deviceName device) =
      world.lightAt (env.topology.deviceName device) := by
  cases finish with
  | idle closed => rfl
  | off session live targetOff =>
      rw [releaseMotionSession_lightAt rule ts live]
      split
      · exact LightEntity.releaseMotion_of_ne ts unclaimed.owner
      · rfl
  | leave session live targetOn leaves => rfl
  | turnOff session live targetOn mode owned =>
      have lights := turnOffMotionLights_lightAt env session.target
        (env.eligibleLights session world) rule.offTransitionSeconds ts owner
        (world.takeSession rule) (env.topology.deviceName device)
      rw [if_neg] at lights
      · exact lights
      · rintro ⟨light, eligible, named⟩
        exact unclaimed.name_ne eligible named

/-- Closing a session publishes nothing that reaches a light that motion does not own. -/
theorem Finish.not_reaches {rule : ResolvedMotionRule} (listed : rule ∈ env.topology.motionRules)
    {ts : Instant} {owner : Owner} {world : WorldState} {result : WorldState × List Effect}
    (finish : Finish env rule ts owner world result) (fit : world.SessionsFit env.topology)
    (unclaimed : Unclaimed env.topology world device) :
    ∀ effect ∈ result.2, ¬ effect.reaches env.topology device := by
  intro effect published reaches
  cases finish with
  | idle closed => cases published
  | off session live targetOff => cases published
  | leave session live targetOn leaves => cases published
  | turnOff session live targetOn mode owned =>
      obtain ⟨slot, targeted⟩ := (fit rule listed session live).target
      dsimp only at published
      rw [turnOffMotionLights_effects] at published
      split at published
      · -- The group is addressed when all its members are eligible.
        rename_i group whole
        rw [List.mem_singleton] at published
        subst published
        obtain ⟨room, here, members⟩ := wholeGroup_members listed targeted whole
        obtain ⟨other, also, light, member, named⟩ := reaches
        rw [here] at also
        cases also
        have all : env.eligibleLights session world = session.target.lights := by
          unfold wholeGroup at whole
          split at whole
          · rename_i counted
            exact List.filter_eq_self.mpr (List.length_filter_eq_length_iff.mp counted)
          · cases whole
        rw [← members, ← all] at member
        exact unclaimed.name_ne member (congrArg env.topology.deviceName named)
      · obtain ⟨light, eligible, rfl⟩ := List.mem_map.mp published
        exact unclaimed.name_ne eligible (congrArg env.topology.deviceName reaches)

/-- Operations without sessions leave an unclaimed light unclaimed. -/
theorem unclaimed_of_unchanged {operation : Operation}
    (changes : operation.changesSessions = false) {runtime : Runtime}
    (unclaimed : Unclaimed env.topology runtime.world device) :
    Unclaimed env.topology (operation.run env runtime).1.world device := by
  refine unclaimed.of_sessions ?_ fun rule _ session live claimed =>
    ⟨session, by rwa [WorldState.motionSession_congr
      (Operation.run_ruleAt changes runtime rule.name)] at live, claimed⟩
  have spared : operation.sparesLighting →
      ((operation.run env runtime).1.world.lightAt (env.topology.deviceName device)).target.owner ≠
        some .motion := by
    intro spares
    have same := congrArg Lighting.lights (Operation.run_lighting env spares runtime)
    have lights : (operation.run env runtime).1.world.lights = runtime.world.lights := same
    unfold WorldState.lightAt
    rw [lights]
    exact unclaimed.owner
  have manual : ∀ {name : String} {result : WorldState × List Effect},
      env.Manual name runtime.world result →
        (result.1.lightAt (env.topology.deviceName device)).target.owner ≠ some .motion :=
    fun touches => touches.lights.preserves (fun light => light.target.owner ≠ some .motion)
      (fun _ _ step _ => ManualLight.unowned unclaimed.known unclaimed.free step) unclaimed.owner
  have reported : ∀ {after : WorldState}, env.Reported runtime.world after →
      (after.lightAt (env.topology.deviceName device)).target.owner ≠ some .motion :=
    fun touches => touches.lights.preserves (fun light => light.target.owner ≠ some .motion)
      (fun _ _ step => ReportLight.unowned unclaimed.known unclaimed.free step) unclaimed.owner
  cases operation with
  | execute ruleName effect ts =>
      cases about : effect.room with
      | some room => exact manual (executeEffect_manual about ruleName ts _)
      | none =>
          cases effect with
          | turnOffAllZones =>
              have same : (env.turnOffAllZones ts runtime.world).1.lightAt
                  (env.topology.deviceName device) =
                    runtime.world.lightAt (env.topology.deviceName device) :=
                (turnOffAllZones_touches env ts _).lights.eq_of_no_step fun _ _ => not_false
              have owner := unclaimed.owner
              rw [← same] at owner
              exact owner
          | toggle plug seconds => exact spared rfl
          | turnOn plug => exact spared rfl
          | turnOff plug => exact spared rfl
          | _ => cases about
  | webRecallScene room sceneId ts => exact manual (webRecallScene_manual room sceneId ts _)
  | webSetRoomOff room ts => exact manual (webSetRoomOff_manual room ts _)
  | observeGroup group on ts => exact reported (handleGroupState_reported group on ts _)
  | observeLight name actual ts => exact reported (handleLightState_reported name actual ts _)
  | observeSensor sensor occupied illuminance received ts => exact unclaimed.owner
  | ageTargets ts =>
      have aged := runtime.world.lightAt_ageTargets ts (env.topology.deviceName device)
      have owner := (runtime.world.lightAt (env.topology.deviceName device)).owner_age ts
      rw [← aged] at owner
      exact fun motion => unclaimed.owner (owner.symm.trans motion)
  | ageActuals ts => exact unclaimed.owner
  | forgetCycle room => exact unclaimed.owner
  | startSession rule illuminance ts => cases changes
  | releaseSession rule ts => cases changes
  | finishSession rule ts owner => cases changes
  | startupTurnOff rule ts => cases changes
  | blockMotion room ts => cases changes
  | _ => exact spared rfl

/-- Startup leaves an unclaimed light unclaimed unless its session claims it. -/
theorem startupTurnOff_unclaimed {rule : ResolvedMotionRule}
    (listed : rule ∈ env.topology.motionRules) (ts : Instant) {world : WorldState}
    (unclaimed : Unclaimed env.topology world device)
    (unchosen : ∀ session,
      (env.startupTurnOff rule ts world).1.motionSession rule = some session →
        device ∉ session.claimed) :
    ((env.startupTurnOff rule ts world).1.lightAt
      (env.topology.deviceName device)).target.owner ≠ some .motion := by
  have startup := startupTurnOff_startup env rule ts world
  generalize env.startupTurnOff rule ts world = result at startup unchosen
  cases startup with
  | idle nothing => exact unclaimed.owner
  | start mode observed occupied =>
      rw [startMotionSession_lightAt listed none ts unclaimed.known unchosen]
      exact unclaimed.owner
  | reset mode observed free resets =>
      have lights := turnOffMotionLights_lightAt env (resetTarget rule) (env.resetLights rule)
        rule.offTransitionSeconds ts .system world (env.topology.deviceName device)
      rw [resets.lightAt, reset, lights]
      split
      · simp [LightEntity.command]
      · exact unclaimed.owner

/-- Releasing a session claims nothing. -/
theorem releaseMotionSession_keeps_unclaimed (rule : ResolvedMotionRule) (ts : Instant)
    {world : WorldState} (unclaimed : Unclaimed env.topology world device) :
    Unclaimed env.topology (env.releaseMotionSession rule ts world) device := by
  refine unclaimed.of_sessions (fun motion => unclaimed.owner ?_)
    fun other also session live claimed =>
      ⟨session, (releaseMotionSession_sessions rule ts world live).2, claimed⟩
  cases live : world.motionSession rule with
  | none =>
      unfold releaseMotionSession at motion
      rw [live] at motion
      exact motion
  | some session =>
      rw [releaseMotionSession_lightAt rule ts live,
        LightEntity.releaseMotion_of_ne ts unclaimed.owner, ite_self] at motion
      exact motion

/-- Blocking a room claims nothing. -/
theorem blockMotion_keeps_unclaimed (room : String) (ts : Instant) {world : WorldState}
    (unclaimed : Unclaimed env.topology world device) :
    Unclaimed env.topology (env.blockMotion room ts world) device := by
  refine unclaimed.of_sessions (fun motion => unclaimed.owner ?_)
    fun other also session live claimed => ?_
  · cases found : env.topology.roomByName room with
    | none =>
        unfold blockMotion at motion
        rw [found] at motion
        exact motion
    | some resolved =>
        rw [(blockMotion_blocks found ts world).lightAt,
          LightEntity.releaseMotion_of_ne ts unclaimed.owner, ite_self] at motion
        exact motion
  · obtain ⟨before, was, _, fewer, _⟩ := blockMotion_sessions room ts world live
    exact ⟨before, was, fewer claimed⟩

/-- Only an activation makes an unclaimed light a claim. -/
theorem unclaimed_kept {operation : Operation} (admissible : operation.Admissible env.topology)
    {runtime : Runtime} (unclaimed : Unclaimed env.topology runtime.world device)
    (unchosen : ¬ Record.Claims { env, before := runtime, operation } device) :
    Unclaimed env.topology (operation.run env runtime).1.world device := by
  cases changes : operation.changesSessions with
  | false => exact unclaimed_of_unchanged changes unclaimed
  | true =>
      cases operation with
      | startSession rule illuminance ts =>
          have own : ∀ session,
              (env.startMotionSession rule illuminance ts runtime.world).1.motionSession rule =
                some session → device ∉ session.claimed := fun session live claimed =>
            unchosen ⟨rule, admissible, .inl ⟨illuminance, ts, rfl⟩, session, live, claimed⟩
          have light := startMotionSession_lightAt admissible illuminance ts unclaimed.known own
          refine unclaimed.of_sessions (fun motion => unclaimed.owner ?_)
            fun other also session live claimed => ?_
          · exact (congrArg (fun light : LightEntity => light.target.owner) light).symm.trans motion
          · rcases startMotionSession_sessions admissible illuminance ts runtime.world also
                live with
              ⟨rfl, _⟩ | before
            · exact absurd claimed (own session live)
            · exact ⟨session, before, claimed⟩
      | releaseSession rule ts => exact releaseMotionSession_keeps_unclaimed rule ts unclaimed
      | finishSession rule ts owner =>
          have finish := finishMotionSession_finish env rule ts owner runtime.world
          have light := finish.lightAt_unclaimed unclaimed
          refine unclaimed.of_sessions (fun motion => unclaimed.owner ?_)
            fun other also session live claimed => ⟨session, (finish.sessions live).2, claimed⟩
          exact (congrArg (fun light : LightEntity => light.target.owner) light).symm.trans motion
      | startupTurnOff rule ts =>
          have own : ∀ session,
              (env.startupTurnOff rule ts runtime.world).1.motionSession rule = some session →
                device ∉ session.claimed := fun session live claimed =>
            unchosen ⟨rule, admissible, .inr ⟨ts, rfl⟩, session, live, claimed⟩
          refine unclaimed.of_sessions (startupTurnOff_unclaimed admissible ts unclaimed own)
            fun other also session live claimed => ?_
          rcases startupTurnOff_sessions admissible ts runtime.world also live with
            ⟨rfl, _⟩ | before
          · exact absurd claimed (own session live)
          · exact ⟨session, before, claimed⟩
      | blockMotion room ts => exact blockMotion_keeps_unclaimed room ts unclaimed
      | _ => cases changes

/-- Closing a session spares an unclaimed light. -/
theorem spares_of_finish {rule : ResolvedMotionRule} (listed : rule ∈ env.topology.motionRules)
    (ts : Instant) (owner : Owner) {runtime : Runtime}
    (fit : runtime.world.SessionsFit env.topology)
    (unclaimed : Unclaimed env.topology runtime.world device) :
    Record.Spares { env, before := runtime, operation := .finishSession rule ts owner } device := by
  have finish := finishMotionSession_finish env rule ts owner runtime.world
  exact ⟨finish.not_reaches listed fit unclaimed, finish.lightAt_unclaimed unclaimed⟩

end Env

/-! ## Runs -/

/-- The end of a session spares the lights that were taken over before and not claimed since. -/
def Record.EndSpares (past : List Record) (record : Record) : Prop :=
  ∀ rule ts owner, record.operation = .finishSession rule ts owner → ∀ device,
    TakenIn past device → record.Spares device

/-- Lights that were taken over and not claimed since are unclaimed, and no end of a session has
commanded one. -/
def Yielded (topology : Topology) (history : List Record) (runtime : Runtime) : Prop :=
  (∀ device, TakenIn history device → Unclaimed topology runtime.world device) ∧
    Always Record.EndSpares history

theorem yielded_kept : KeptByHandlers fun topology history runtime =>
    runtime.world.SessionsHeld topology ∧ runtime.world.SessionsFit topology ∧
      Yielded topology history runtime := by
  have records : ∀ {env : Env} {operation : Operation} {past : List Record} {runtime : Runtime},
      operation.Admissible env.topology → runtime.world.SessionsFit env.topology →
      Yielded env.topology past runtime →
        Always Record.EndSpares (past ++ [{ env, before := runtime, operation }]) := by
    intro env operation past runtime admissible fit yielded
    refine (always_concat_iff past _).mpr ⟨yielded.2, ?_⟩
    intro rule ts owner isFinish device taken
    dsimp only at isFinish
    subst isFinish
    exact Env.spares_of_finish admissible ts owner fit (yielded.1 device taken)
  refine KeptBySessions.handlers ?_ ?_ ?_
  · intro topology
    refine ⟨fun device taken => ?_, always_nil⟩
    obtain ⟨past, manual, later, split, _⟩ := taken
    simp at split
  · intro env operation past runtime plain _ held fit yielded
    refine ⟨fun device taken => ?_, records plain.1 fit yielded⟩
    rcases takenIn_concat taken with takes | ⟨before, unchosen⟩
    · exact Env.unclaimed_of_takesOver held takes
    · exact Env.unclaimed_kept plain.1 (yielded.1 device before) unchosen
  · intro env operation past runtime admissible follower _ fit yielded
    refine ⟨fun device taken => ?_, records admissible fit yielded⟩
    rcases takenIn_concat taken with ⟨manual, _⟩ | ⟨before, unchosen⟩
    · -- Operations that follow sensors are not manual commands.
      dsimp only at manual
      rw [Operation.manualRoom_of_follows follower] at manual
      cases manual
    · exact Env.unclaimed_kept admissible (yielded.1 device before) unchosen

/-- Manual takeover: a light that a manual room command reached, and that no off-only claim held,
is not commanded by the end of any session after it, unless an activation claimed it in between. -/
theorem Run.manual_takeover {history past between later : List Record} {manual finish : Record}
    {daemon : Daemon} (run : Run history daemon)
    (split : history = past ++ manual :: between ++ finish :: later) {device : DeviceIdx}
    (takes : manual.TakesOver device) (unclaimed : ∀ record ∈ between, ¬ record.Claims device)
    {rule : ResolvedMotionRule} {ts : Instant} {owner : Owner}
    (ends : finish.operation = .finishSession rule ts owner) : finish.Spares device :=
  (run.invariant yielded_kept).2.2.2.2 (past ++ manual :: between) finish later split rule ts owner
    ends device ⟨past, manual, between, rfl, takes, unclaimed⟩

/-- The operation closes a session. -/
def Operation.endsSession : Operation → Bool
  | finishSession _ _ _ => true
  | _ => false

/-- Somebody enters the hall, which turns the spot on, recalls a scene there and leaves: the end of
the session leaves the spot, which it claims, alone. -/
theorem Run.manual_takeover_hall : ∃ (history : List Record) (daemon : Daemon) (finish : Record),
    Run history daemon ∧ finish ∈ history ∧
      (finish.before.world.motionSession House.hallMotion).map (·.claimed) = some {1} ∧
        finish.Spares House.spot.device := by
  obtain ⟨daemon, history, run, _, facts⟩ := House.played .offOnly []
    [(0, .start), (1, .event (.occupancy "door" true none none (Duration.fromSecs 1))),
      (2, .command (.ok ()) (.recallScene "hall" 2)),
      (3, .event (.occupancy "door" false none none (Duration.fromSecs 3)))]
    (fun reached : Daemon × List Record => (reached.2.length,
      (reached.2[5]?).map fun manual : Record => decide (manual.TakesOver House.spot.device),
      (reached.2[6]?).map fun observed : Record => observed.operation.changesSessions,
      (reached.2[7]?).map fun finish : Record => finish.operation.endsSession && decide
        ((finish.before.world.motionSession House.hallMotion).map (·.claimed) = some {1})))
    (8, some true, some false, some true) (by decide +kernel)
  obtain ⟨length, fifth, sixth, seventh⟩ : _ ∧ _ ∧ _ ∧ _ := by
    simpa only [Prod.mk.injEq] using facts
  obtain ⟨manual, fifth, takes⟩ := Option.map_eq_some_iff.mp fifth
  obtain ⟨observed, sixth, unchanged⟩ := Option.map_eq_some_iff.mp sixth
  obtain ⟨finish, seventh, ended⟩ := Option.map_eq_some_iff.mp seventh
  rw [decide_eq_true_eq] at takes
  rw [Bool.and_eq_true, decide_eq_true_eq] at ended
  obtain ⟨isFinish, claimed⟩ := ended
  have item : ∀ {index : Nat} {record : Record}, history[index]? = some record →
      history.drop index = record :: history.drop (index + 1) := by
    intro index record found
    obtain ⟨inside, rfl⟩ := List.getElem?_eq_some_iff.mp found
    exact List.drop_eq_getElem_cons inside
  have split : history = history.take 5 ++ manual :: [observed] ++ finish :: [] := by
    have last : history.drop 8 = [] := List.drop_eq_nil_of_le length.le
    rw [List.append_assoc, List.cons_append, List.singleton_append, ← last, ← item seventh,
      ← item sixth, ← item fifth, List.take_append_drop]
  have unclaimed : ∀ record ∈ [observed], ¬ record.Claims House.spot.device := by
    rintro record member ⟨_, _, starts, _⟩
    rw [List.mem_singleton] at member
    subst member
    rcases starts with ⟨_, _, same⟩ | ⟨_, same⟩
    · rw [same] at unchanged
      cases unchanged
    · rw [same] at unchanged
      cases unchanged
  cases ends : finish.operation with
  | finishSession rule ts owner =>
      exact ⟨history, daemon, finish, run, List.mem_of_getElem? seventh, claimed,
        Run.manual_takeover run split takes unclaimed ends⟩
  | _ => simp [ends, Operation.endsSession] at isFinish

end MqttController
