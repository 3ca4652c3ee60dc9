import MqttController.Frames

/-!
# Switch cycles

A press resumes a switch cycle where its zone left it, so whatever turns a zone off has to forget
its cycle.  Manual commands, reports, propagation and settings do; turning off all zones and motion
leave the cycle of a zone they turn off.
-/

namespace MqttController

open KeyedChange WorldState Env

namespace LightZoneEntity

theorem cyclesOn_forget (zone : LightZoneEntity) :
    ({ zone with switchCycle := none } : LightZoneEntity).CyclesOn := cyclesOn_of_none rfl

theorem cyclesOn_releaseMotion {zone : LightZoneEntity} (ts : Instant) (cycles : zone.CyclesOn) :
    (zone.releaseMotion ts).CyclesOn := by
  unfold releaseMotion
  split
  · exact cyclesOn_of_value cycles rfl (TassTarget.value_reassignOwner _ _ ts)
  · exact cycles

/-- An off-only session would take Off over for the zone and leave its cycle. -/
def AdoptsOffCycling (zone : LightZoneEntity) : Prop :=
  zone.switchCycle.isSome ∧ zone.target.phase = .stale ∧ zone.actualIsOn = false

theorem cyclesOn_claimOffOnly {zone : LightZoneEntity} (ts : Instant) (cycles : zone.CyclesOn)
    (resets : ¬ zone.AdoptsOffCycling) : (zone.claimOffOnly ts).CyclesOn := by
  unfold claimOffOnly
  dsimp only
  split
  · rename_i adopts
    intro active
    have on : zone.targetIsOn := cycles active
    have known : zone.target.isUnset = false := by
      unfold targetIsOn at on
      obtain ⟨value, set, _⟩ := (Option.any_eq_true _ _).mp on
      rw [TassTarget.isUnset_eq_isNone, set]
      rfl
    rw [known, Bool.false_or, Bool.and_eq_true, beq_iff_eq] at adopts
    cases observed : zone.actualIsOn with
    | true => rw [if_pos rfl]; rfl
    | false => exact absurd ⟨active, adopts.1, observed⟩ resets
  · split
    · exact cyclesOn_of_value cycles rfl (TassTarget.value_reassignOwner _ _ ts)
    · exact cycles

end LightZoneEntity

/-- Every zone with an active switch cycle is told to be on. -/
def WorldState.CyclesOn (world : WorldState) : Prop := ∀ name, (world.zoneAt name).CyclesOn

namespace Env

variable {env : Env}

/-! ## Steps that leave a cycle -/

/-- An off-only session of the rule would take Off over for its group and leave the group's
cycle. -/
def ClaimsOffCycling (env : Env) (rule : ResolvedMotionRule) (world : WorldState) : Prop :=
  rule.mode = .offOnly ∧ ∃ slot sceneId scene target group,
    env.activation rule = some (slot, sceneId, scene, target) ∧ target.group = some group ∧
      (∀ light ∈ target.lights, env.motionAllowedForLight light.device) ∧
        (world.zoneAt (env.topology.roomName group)).AdoptsOffCycling

end Env

/-- The steps that turn a zone off, or take Off over for it, and leave its switch cycle, judged by
the state before. -/
inductive Operation.LeavesCycle (env : Env) (world : WorldState) : Operation → Prop
  /-- All zones are turned off, and a room that is on has a cycle. -/
  | allZones (ruleName : String) (ts : Instant) {name : String}
      (known : (env.topology.roomByName name).isSome) (on : (world.zoneAt name).isOn)
      (cycling : (world.zoneAt name).switchCycle.isSome) :
      LeavesCycle env world (.execute ruleName .turnOffAllZones ts)
  /-- A session ends, and the group it turns off as a whole has a cycle. -/
  | vacancy (rule : ResolvedMotionRule) (ts : Instant) (owner : Owner) {session : MotionSession}
      {group : RoomIdx} (live : world.motionSession rule = some session)
      (targetOn : env.motionTargetIsOff world session.target = false)
      (mode : rule.mode ≠ .onOnly)
      (whole : wholeGroup session.target (env.eligibleLights session world) = some group)
      (cycling : (world.zoneAt (env.topology.roomName group)).switchCycle.isSome) :
      LeavesCycle env world (.finishSession rule ts owner)
  /-- Startup turns off as a whole a group that has a cycle. -/
  | startup (rule : ResolvedMotionRule) (ts : Instant) {group : RoomIdx}
      (mode : rule.mode ≠ .onOnly) (observed : env.ruleObservedOn rule world)
      (free : ¬(rule.mode = .offOnly ∧ world.motionRuleOccupied rule))
      (whole : wholeGroup (resetTarget rule) (env.resetLights rule) = some group)
      (cycling : (world.zoneAt (env.topology.roomName group)).switchCycle.isSome) :
      LeavesCycle env world (.startupTurnOff rule ts)
  /-- An off-only session takes Off over for a group that has a cycle. -/
  | adoption (rule : ResolvedMotionRule) (illuminance : Option Nat) (ts : Instant)
      (free : world.activationSuppressed rule illuminance ts = false)
      (claims : env.ClaimsOffCycling rule world) :
      LeavesCycle env world (.startSession rule illuminance ts)
  /-- An off-only session at startup takes Off over for a group that has a cycle. -/
  | adoptionAtStartup (rule : ResolvedMotionRule) (ts : Instant)
      (observed : env.ruleObservedOn rule world) (occupied : world.motionRuleOccupied rule)
      (free : world.activationSuppressed rule none ts = false)
      (claims : env.ClaimsOffCycling rule world) :
      LeavesCycle env world (.startupTurnOff rule ts)

/-- The step of a record leaves a cycle on a zone that it turns off. -/
def Record.LeavesCycle (record : Record) : Prop :=
  record.operation.LeavesCycle record.env record.before.world

namespace Env

variable {env : Env} {world : WorldState}

/-! ## What each step keeps -/

theorem startMotionSession_cyclesOn {rule : ResolvedMotionRule}
    (listed : rule ∈ env.topology.motionRules) (illuminance : Option Nat) (ts : Instant)
    (cycles : world.CyclesOn)
    (resets : world.activationSuppressed rule illuminance ts = false →
      ¬ env.ClaimsOffCycling rule world) :
    (env.startMotionSession rule illuminance ts world).1.CyclesOn := by
  cases suppressed : world.activationSuppressed rule illuminance ts with
  | true =>
      unfold startMotionSession
      rw [if_pos suppressed]
      exact cycles
  | false =>
      intro name
      rcases startMotionSession_cases listed illuminance ts world with idle | ⟨opens, same⟩
      · unfold zoneAt
        rw [idle.lightZones]
        exact cycles name
      · rw [same, opens.zoneAt]
        split
        · rename_i claimed
          obtain ⟨group, whole, named⟩ := claimed
          obtain ⟨targeted, may⟩ := opens.of_group whole
          split
          · rename_i mode
            refine LightZoneEntity.cyclesOn_claimOffOnly ts (cycles name) fun adopts => ?_
            refine resets suppressed ⟨mode, opens.slot, opens.sceneId, opens.scene, opens.target,
              group, opens.active, targeted, fun light inside => ?_, by rwa [named]⟩
            exact (Bool.and_eq_true _ _ ▸ may light inside).1
          · exact LightZoneEntity.cyclesOn_of_on rfl
        · exact cycles name

theorem turnOffMotionLights_cyclesOn {target : ResolvedMotionTarget} {lights : List LightEndpoint}
    (transition : ℚ) (ts : Instant) (owner : Owner) (cycles : world.CyclesOn)
    (resets : ∀ group, wholeGroup target lights = some group →
      ¬ (world.zoneAt (env.topology.roomName group)).switchCycle.isSome) :
    (env.turnOffMotionLights target lights transition ts owner world).1.CyclesOn := by
  intro name
  rw [turnOffMotionLights_zoneAt]
  split
  · rename_i whole
    obtain ⟨group, whole, rfl⟩ := whole
    exact fun active => absurd active (resets group whole)
  · exact cycles name

theorem Finish.cyclesOn {rule : ResolvedMotionRule} {ts : Instant} {owner : Owner}
    {result : WorldState × List Effect} (finish : Finish env rule ts owner world result)
    (cycles : world.CyclesOn)
    (resets : ¬ (Operation.finishSession rule ts owner).LeavesCycle env world) :
    result.1.CyclesOn := by
  cases finish with
  | idle closed => exact cycles
  | off session live targetOff =>
      intro name
      rw [releaseMotionSession_zoneAt rule ts live]
      split
      · exact LightZoneEntity.cyclesOn_releaseMotion ts (cycles name)
      · exact cycles name
  | leave session live targetOn leaves => exact cycles
  | turnOff session live targetOn mode owned =>
      have taken : (world.takeSession rule).CyclesOn := cycles
      exact turnOffMotionLights_cyclesOn rule.offTransitionSeconds ts owner taken
        fun group whole cycling =>
          resets (.vacancy rule ts owner live targetOn mode whole cycling)

theorem startupTurnOff_cyclesOn {rule : ResolvedMotionRule}
    (listed : rule ∈ env.topology.motionRules) (ts : Instant) (cycles : world.CyclesOn)
    (resets : ¬ (Operation.startupTurnOff rule ts).LeavesCycle env world) :
    (env.startupTurnOff rule ts world).1.CyclesOn := by
  have startup := startupTurnOff_startup env rule ts world
  generalize env.startupTurnOff rule ts world = result at startup
  cases startup with
  | idle nothing => exact cycles
  | start mode observed occupied =>
      exact startMotionSession_cyclesOn listed none ts cycles fun free claims =>
        resets (.adoptionAtStartup rule ts observed occupied free claims)
  | reset mode observed free reset =>
      intro name
      obtain ⟨last, same⟩ := reset.zoneAt name
      rw [same]
      exact turnOffMotionLights_cyclesOn rule.offTransitionSeconds ts .system cycles
        (fun group whole cycling => resets (.startup rule ts mode observed free whole cycling)) name

theorem releaseMotionSession_cyclesOn (rule : ResolvedMotionRule) (ts : Instant)
    (cycles : world.CyclesOn) : (env.releaseMotionSession rule ts world).CyclesOn := by
  intro name
  cases live : world.motionSession rule with
  | none =>
      unfold releaseMotionSession
      rw [live]
      exact cycles name
  | some session =>
      rw [releaseMotionSession_zoneAt rule ts live]
      split
      · exact LightZoneEntity.cyclesOn_releaseMotion ts (cycles name)
      · exact cycles name

theorem blockMotion_cyclesOn (room : String) (ts : Instant) (cycles : world.CyclesOn) :
    (env.blockMotion room ts world).CyclesOn := by
  intro name
  cases found : env.topology.roomByName room with
  | none =>
      unfold blockMotion
      rw [found]
      exact cycles name
  | some resolved =>
      refine (blockMotion_blocks found ts world).zones.preserves LightZoneEntity.CyclesOn ?_
        (cycles name)
      rintro before _ rfl before
      exact LightZoneEntity.cyclesOn_releaseMotion ts before

theorem turnOffAllZones_cyclesOn (ruleName : String) (ts : Instant) (cycles : world.CyclesOn)
    (resets : ¬ (Operation.execute ruleName .turnOffAllZones ts).LeavesCycle env world) :
    (env.turnOffAllZones ts world).1.CyclesOn := by
  intro name
  rw [turnOffAllZones_zoneAt]
  split
  · rename_i turned
    exact fun active => absurd (.allZones ruleName ts turned.1 turned.2 active) resets
  · exact cycles name

/-- Every other step keeps cycles on zones that are told to be on. -/
theorem run_cyclesOn {operation : Operation} (admissible : operation.Admissible env.topology)
    {runtime : Runtime} (cycles : runtime.world.CyclesOn)
    (resets : ¬ operation.LeavesCycle env runtime.world) :
    (operation.run env runtime).1.world.CyclesOn := by
  have spared : operation.sparesLighting → (operation.run env runtime).1.world.CyclesOn := by
    intro spares name
    have same := congrArg Lighting.lightZones (Operation.run_lighting env spares runtime)
    change (operation.run env runtime).1.world.lightZones = runtime.world.lightZones at same
    unfold zoneAt
    rw [same]
    exact cycles name
  have manual : ∀ {name : String}, operation.manualRoom env = some name →
      (operation.run env runtime).1.world.CyclesOn := fun about name =>
    (Operation.run_manual about runtime).zones.preserves LightZoneEntity.CyclesOn
      (fun _ _ taken => taken.2.cyclesOn) (cycles name)
  cases operation with
  | execute ruleName effect ts =>
      cases about : effect.room with
      | some room => exact manual (Option.map_eq_some_iff.mpr ⟨room, about, rfl⟩)
      | none =>
          cases effect with
          | turnOffAllZones => exact turnOffAllZones_cyclesOn ruleName ts cycles resets
          | toggle plug seconds => exact spared rfl
          | turnOn plug => exact spared rfl
          | turnOff plug => exact spared rfl
          | _ => cases about
  | webRecallScene room sceneId ts => exact manual rfl
  | webSetRoomOff room ts => exact manual rfl
  | startSession rule illuminance ts =>
      exact startMotionSession_cyclesOn admissible illuminance ts cycles fun free claims =>
        resets (.adoption rule illuminance ts free claims)
  | releaseSession rule ts => exact releaseMotionSession_cyclesOn rule ts cycles
  | finishSession rule ts owner =>
      exact (finishMotionSession_finish env rule ts owner runtime.world).cyclesOn cycles resets
  | startupTurnOff rule ts => exact startupTurnOff_cyclesOn admissible ts cycles resets
  | observeGroup group on ts =>
      exact fun name => (handleGroupState_reported group on ts runtime.world).zones.preserves
        LightZoneEntity.CyclesOn (fun _ _ taken => taken.2.cyclesOn) (cycles name)
  | observeLight device actual ts =>
      exact fun name => (handleLightState_reported device actual ts runtime.world).zones.preserves
        LightZoneEntity.CyclesOn (fun _ _ taken => taken.2.cyclesOn) (cycles name)
  | blockMotion room ts => exact blockMotion_cyclesOn room ts cycles
  | forgetCycle room =>
      intro name
      change (runtime.world.forgetCycle room |>.zoneAt name).CyclesOn
      unfold WorldState.forgetCycle WorldState.zoneAt
      dsimp only
      rw [OrderedMap.getElem?_adjust]
      split
      · cases runtime.world.lightZones[room]? with
        | none => exact LightZoneEntity.cyclesOn_of_none rfl
        | some zone => exact LightZoneEntity.cyclesOn_forget zone
      · exact cycles name
  | ageTargets ts =>
      intro name
      change ((runtime.world.ageTargets ts).zoneAt name).CyclesOn
      rw [zoneAt_ageTargets]
      exact LightZoneEntity.cyclesOn_of_value (cycles name) rfl
        (TassTarget.value_markStaleIfOld _ _ _)
  | observeSensor sensor occupied illuminance received ts => exact cycles
  | ageActuals ts => exact cycles
  | _ => exact spared rfl

end Env

/-! ## Runs -/

theorem WorldState.cyclesOn_kept : KeptByOperations fun _ history runtime =>
    (∀ record ∈ history, ¬ record.LeavesCycle) → runtime.world.CyclesOn where
  launch _ _ _ := LightZoneEntity.cyclesOn_of_none rfl
  operation env operation past runtime admissible _ kept resets := by
    refine Env.run_cyclesOn admissible (kept fun record member => ?_) ?_
    · exact resets record (List.mem_append_left _ member)
    · exact resets { env, before := runtime, operation } (by simp)

/-- A zone has an active switch cycle only while it is told to be on, in every state reached by
steps that leave no cycle behind. -/
theorem Run.cycles_on {history : List Record} {daemon : Daemon} (run : Run history daemon)
    (resets : ∀ record ∈ history, ¬ record.LeavesCycle) (name : String) :
    (daemon.processor.runtime.world.zoneAt name).switchCycle.isSome →
      (daemon.processor.runtime.world.zoneAt name).targetIsOn :=
  run.invariant_of_operations WorldState.cyclesOn_kept resets name

/-- One press of a scene-cycle button in the study selects the first switch step, and the study is
told to be on. -/
theorem Run.cycles_on_study : ∃ (history : List Record) (daemon : Daemon), Run history daemon ∧
    (daemon.processor.runtime.world.zoneAt "study").switchCycle = some ⟨"day", 0⟩ ∧
      (daemon.processor.runtime.world.zoneAt "study").targetIsOn := by
  obtain ⟨daemon, history, run, _, facts⟩ := House.played .offOnly
    [House.onPress "on" (.sceneCycle 0)] [(0, .start), House.press "on" 1]
    (fun reached => ((reached.1.processor.runtime.world.zoneAt "study").switchCycle,
      reached.2.all fun record => match record.operation with
        | .startupTurnOff rule _ => !record.env.ruleObservedOn rule record.before.world
        | .execute _ (.sceneCycle _) _ => true
        | .armKillSwitches _ => true
        | _ => false))
    (some ⟨"day", 0⟩, true) (by decide +kernel)
  obtain ⟨cycle, resets⟩ := Prod.mk.inj facts
  refine ⟨history, daemon, run, cycle, Run.cycles_on run ?_ "study" (by rw [cycle]; rfl)⟩
  rintro ⟨env, before, operation⟩ member leaves
  have plain := List.all_eq_true.mp resets _ member
  unfold Record.LeavesCycle at leaves
  cases leaves with
  | startup rule ts mode observed => simp [observed] at plain
  | adoptionAtStartup rule ts observed => simp [observed] at plain
  | _ => simp at plain

/-- A press that turns all zones off after a scene-cycle press leaves the study's cycle. -/
theorem Run.cycles_on_fails : ∃ (history : List Record) (daemon : Daemon), Run history daemon ∧
    (daemon.processor.runtime.world.zoneAt "study").switchCycle.isSome ∧
      ¬ (daemon.processor.runtime.world.zoneAt "study").targetIsOn := by
  obtain ⟨daemon, history, run, _, facts⟩ := House.played .offOnly
    [House.onPress "on" (.sceneCycle 0), House.onPress "off" .turnOffAllZones]
    [(0, .start), House.press "on" 1, House.press "off" 2]
    (fun reached => ((reached.1.processor.runtime.world.zoneAt "study").switchCycle.isSome,
      (reached.1.processor.runtime.world.zoneAt "study").targetIsOn))
    (true, false) (by decide +kernel)
  obtain ⟨cycling, off⟩ := Prod.mk.inj facts
  exact ⟨history, daemon, run, cycling, by rw [off]; simp⟩

end MqttController
