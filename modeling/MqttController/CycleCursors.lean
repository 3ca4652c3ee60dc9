import MqttController.SwitchCycles

/-!
# Switch cycles point at existing steps

The switch steps of a room may be replaced while its cycle is active.  The replacement forgets the
cycle, and everything else that sets one sets it to a step in force, so that looking the step of a
cycle up never fails.
-/

namespace MqttController

open KeyedChange WorldState Env

namespace LightZoneEntity

variable {selectable : SwitchCycle → Prop}

theorem guards_releaseMotion (zone : LightZoneEntity) (ts : Instant) :
    Guards selectable zone (zone.releaseMotion ts) := by
  unfold releaseMotion
  split
  · exact (keeps_reassignOwner zone _ ts).toGuards
  · exact .refl zone

theorem guards_claimOffOnly (zone : LightZoneEntity) (ts : Instant) :
    Guards selectable zone (zone.claimOffOnly ts) := by
  unfold claimOffOnly
  dsimp only
  split
  · exact .of_told rfl (.inl rfl) (by simp)
  · split
    · exact (keeps_reassignOwner zone _ ts).toGuards
    · exact .refl zone

/-- A zone is commanded and its cycle is left as it is. -/
theorem guards_of_command {zone after : LightZoneEntity}
    (cursor : after.switchCycle = zone.switchCycle)
    {value : LightZoneTarget} {owner : Owner} {ts : Instant}
    (told : after.target = zone.target.setAndCommand value owner ts) :
    Guards selectable zone after :=
  .of_told (by simp [told]) (.inl cursor) (by simp [told])

end LightZoneEntity

/-- Looking the step of a switch cycle up, and the time at which it was commanded, succeeds. -/
def Automation.CursorsValid (automation : Automation) (world : WorldState) : Prop :=
  ∀ name cycle, (world.zoneAt name).switchCycle = some cycle →
    ∃ room, automation.topology.roomByName name = some room ∧
      ∃ steps, (automation.roomSwitchSteps room)[cycle.slot]? = some steps ∧
        cycle.step < steps.length ∧ ∃ since, (world.zoneAt name).target.since = some since

theorem Automation.cursorsValid_iff {automation : Automation} {world : WorldState} :
    automation.CursorsValid world ↔
      ∀ name, (world.zoneAt name).Points (automation.Selects name) := by
  refine forall_congr' fun name => forall_congr' fun cycle => imp_congr_right fun _ => ?_
  rw [← TassTarget.since_isSome, Option.isSome_iff_exists]
  constructor
  · rintro ⟨room, found, steps, stored, inside, told⟩
    exact ⟨⟨room, found, steps, stored, inside⟩, told⟩
  · rintro ⟨⟨room, found, steps, stored, inside⟩, told⟩
    exact ⟨room, found, steps, stored, inside, told⟩

namespace Env

variable {env : Env} {world : WorldState}

/-! ## What each operation keeps -/

theorem startMotionSession_guards {rule : ResolvedMotionRule}
    (listed : rule ∈ env.topology.motionRules) (illuminance : Option Nat) (ts : Instant)
    (name : String) : LightZoneEntity.Guards (env.toAutomation.Selects name) (world.zoneAt name)
      ((env.startMotionSession rule illuminance ts world).1.zoneAt name) := by
  rcases startMotionSession_cases listed illuminance ts world with idle | ⟨opens, same⟩
  · have unchanged := idle.lightZones
    unfold zoneAt
    rw [unchanged]
    exact .refl _
  · rw [same, opens.zoneAt]
    split
    · split
      · exact LightZoneEntity.guards_claimOffOnly _ ts
      · exact LightZoneEntity.guards_of_command rfl rfl
    · exact .refl _

theorem turnOffMotionLights_guards (target : ResolvedMotionTarget) (lights : List LightEndpoint)
    (transition : ℚ) (ts : Instant) (owner : Owner) (name : String) :
    LightZoneEntity.Guards (env.toAutomation.Selects name) (world.zoneAt name)
      ((env.turnOffMotionLights target lights transition ts owner world).1.zoneAt name) := by
  rw [turnOffMotionLights_zoneAt]
  split
  · exact LightZoneEntity.guards_of_command rfl rfl
  · exact .refl _

theorem releaseMotionSession_guards (rule : ResolvedMotionRule) (ts : Instant) (name : String) :
    LightZoneEntity.Guards (env.toAutomation.Selects name) (world.zoneAt name)
      ((env.releaseMotionSession rule ts world).zoneAt name) := by
  cases live : world.motionSession rule with
  | none =>
      unfold releaseMotionSession
      rw [live]
      exact .refl _
  | some session =>
      rw [releaseMotionSession_zoneAt rule ts live]
      split
      · exact LightZoneEntity.guards_releaseMotion _ ts
      · exact .refl _

theorem Finish.guards {rule : ResolvedMotionRule} {ts : Instant} {owner : Owner}
    {result : WorldState × List Effect} (finish : Finish env rule ts owner world result)
    (name : String) : LightZoneEntity.Guards (env.toAutomation.Selects name) (world.zoneAt name)
      (result.1.zoneAt name) := by
  cases finish with
  | idle closed => exact .refl _
  | off session live targetOff => exact releaseMotionSession_guards rule ts name
  | leave session live targetOn leaves => exact .refl _
  | turnOff session live targetOn mode owned =>
      have off : LightZoneEntity.Guards (env.toAutomation.Selects name)
          ((world.takeSession rule).zoneAt name) _ :=
        turnOffMotionLights_guards session.target (env.eligibleLights session world)
          rule.offTransitionSeconds ts owner name
      exact off

theorem startupTurnOff_guards {rule : ResolvedMotionRule}
    (listed : rule ∈ env.topology.motionRules) (ts : Instant) (name : String) :
    LightZoneEntity.Guards (env.toAutomation.Selects name) (world.zoneAt name)
      ((env.startupTurnOff rule ts world).1.zoneAt name) := by
  have startup := startupTurnOff_startup env rule ts world
  generalize env.startupTurnOff rule ts world = result at startup
  cases startup with
  | idle nothing => exact .refl _
  | start mode observed occupied => exact startMotionSession_guards listed none ts name
  | reset mode observed free reset =>
      obtain ⟨last, same⟩ := reset.zoneAt name
      rw [same]
      exact (turnOffMotionLights_guards _ _ _ ts _ name).trans (.of_value rfl rfl id)

theorem blockMotion_guards (room : String) (ts : Instant) (name : String) :
    LightZoneEntity.Guards (env.toAutomation.Selects name) (world.zoneAt name)
      ((env.blockMotion room ts world).zoneAt name) := by
  cases found : env.topology.roomByName room with
  | none =>
      unfold blockMotion
      rw [found]
      exact .refl _
  | some resolved =>
      refine (blockMotion_blocks found ts world).zones.preserves _ ?_ (.refl _)
      rintro before _ rfl before
      exact before.trans (LightZoneEntity.guards_releaseMotion _ ts)

theorem turnOffAllZones_guards (ts : Instant) (name : String) :
    LightZoneEntity.Guards (env.toAutomation.Selects name) (world.zoneAt name)
      ((env.turnOffAllZones ts world).1.zoneAt name) := by
  rw [turnOffAllZones_zoneAt]
  split
  · exact LightZoneEntity.guards_of_command rfl rfl
  · exact .refl _

/-- Every operation keeps switch cycles at selectable steps and leaves no zone command unsent. -/
theorem run_guards {operation : Operation} (admissible : operation.Admissible env.topology)
    (runtime : Runtime) (name : String) :
    LightZoneEntity.Guards (env.toAutomation.Selects name) (runtime.world.zoneAt name)
      ((operation.run env runtime).1.world.zoneAt name) := by
  have spared : operation.sparesLighting →
      LightZoneEntity.Guards (env.toAutomation.Selects name) (runtime.world.zoneAt name)
        ((operation.run env runtime).1.world.zoneAt name) := by
    intro spares
    have same := congrArg Lighting.lightZones (Operation.run_lighting env spares runtime)
    change (operation.run env runtime).1.world.lightZones = runtime.world.lightZones at same
    unfold zoneAt
    rw [same]
    exact .refl _
  have stepped : ∀ {written : String → Prop} {after : WorldState},
      Steps (ZoneStep env.toAutomation written) runtime.world.zoneAt after.zoneAt →
        LightZoneEntity.Guards (env.toAutomation.Selects name) (runtime.world.zoneAt name)
          (after.zoneAt name) := fun steps =>
    steps.preserves _ (fun _ _ taken before => before.trans taken.2.toGuards) (.refl _)
  cases operation with
  | execute ruleName effect ts =>
      cases about : effect.room with
      | some room =>
          have manual : (Operation.execute ruleName effect ts).manualRoom env =
              some (env.topology.roomName room) := Option.map_eq_some_iff.mpr ⟨room, about, rfl⟩
          exact stepped (Operation.run_manual manual runtime).zones
      | none =>
          cases effect with
          | turnOffAllZones => exact turnOffAllZones_guards ts name
          | toggle plug seconds => exact spared rfl
          | turnOn plug => exact spared rfl
          | turnOff plug => exact spared rfl
          | _ => cases about
  | webRecallScene room sceneId ts => exact stepped (webRecallScene_manual room sceneId ts _).zones
  | webSetRoomOff room ts => exact stepped (webSetRoomOff_manual room ts _).zones
  | startSession rule illuminance ts =>
      exact startMotionSession_guards admissible illuminance ts name
  | releaseSession rule ts => exact releaseMotionSession_guards rule ts name
  | finishSession rule ts owner =>
      exact (finishMotionSession_finish env rule ts owner runtime.world).guards name
  | startupTurnOff rule ts => exact startupTurnOff_guards admissible ts name
  | observeGroup group on ts => exact stepped (handleGroupState_reported group on ts _).zones
  | observeLight device actual ts =>
      exact stepped (handleLightState_reported device actual ts _).zones
  | blockMotion room ts => exact blockMotion_guards room ts name
  | forgetCycle room =>
      change LightZoneEntity.Guards _ _ ((runtime.world.forgetCycle room).zoneAt name)
      unfold WorldState.forgetCycle WorldState.zoneAt
      dsimp only
      rw [OrderedMap.getElem?_adjust]
      split
      · rename_i same
        subst same
        cases runtime.world.lightZones[room]? with
        | none => exact .refl _
        | some zone => exact .of_none rfl id
      · exact .refl _
  | ageTargets ts =>
      change LightZoneEntity.Guards _ _ ((runtime.world.ageTargets ts).zoneAt name)
      rw [zoneAt_ageTargets]
      exact (LightZoneEntity.keeps_age _ ts).toGuards
  | observeSensor sensor occupied illuminance received ts => exact .refl _
  | ageActuals ts => exact .refl _
  | _ => exact spared rfl

end Env

/-! ## Replaced schedules -/

/-- A command keeps the switch steps of every room, except for one room whose cycle it forgets. -/
theorem Automation.plan_switchSteps {automation after : Automation} {clock : ClockReading}
    {command : ControlCommand} {operations : List Operation}
    (planned : automation.plan clock command = .ok (after, operations)) :
    after.resolvedSwitchSteps = automation.resolvedSwitchSteps ∨
      ∃ room, operations = [.forgetCycle room] ∧ ∀ name, name ≠ room →
        after.resolvedSwitchSteps[name]? = automation.resolvedSwitchSteps[name]? := by
  cases Automation.plan_accepts planned with
  | boost boost boosts => cases boost <;> exact .inl rfl
  | @roomReset room =>
      refine .inr ⟨room, rfl, fun name other => ?_⟩
      change (automation.resolvedSwitchSteps.erase room)[name]? = _
      rw [Std.TreeMap.getElem?_erase,
        if_neg fun same => other (Std.LawfulEqCmp.eq_of_compare same).symm]
  | @room room value steps accepted =>
      refine .inr ⟨room, rfl, fun name other => ?_⟩
      change (automation.resolvedSwitchSteps.insert room steps)[name]? = _
      rw [Std.TreeMap.getElem?_insert,
        if_neg fun same => other (Std.LawfulEqCmp.eq_of_compare same).symm]
  | _ => exact .inl rfl

/-- Cycles stay selectable when the switch steps of a room stay the same. -/
theorem Automation.selects_congr {automation after : Automation} {name : String}
    (topology : after.topology = automation.topology)
    (steps : after.resolvedSwitchSteps[name]? = automation.resolvedSwitchSteps[name]?)
    {cycle : SwitchCycle} (selects : automation.Selects name cycle) : after.Selects name cycle := by
  obtain ⟨room, found, sequence, stored, inside⟩ := selects
  have named := (TopologyTables.mem_rooms_of_roomByName found).2
  refine ⟨room, by rwa [topology], sequence, ?_, inside⟩
  rw [← stored]
  unfold Automation.roomSwitchSteps
  rw [named, steps]

theorem WorldState.zoneAt_forgetCycle (world : WorldState) (room name : String) :
    (world.forgetCycle room).zoneAt name =
      if room = name then { world.zoneAt name with switchCycle := none }
      else world.zoneAt name := by
  unfold WorldState.forgetCycle WorldState.zoneAt
  dsimp only
  rw [OrderedMap.getElem?_adjust]
  split
  · rename_i same
    subst same
    cases world.lightZones[room]? <;> rfl
  · rfl

/-! ## Runs -/

/-- The worlds in which an operation looks the step of a switch cycle up: a light report once for
each room of the light, a brightness command before it does anything. -/
def Operation.LooksUpIn (env : Env) (before : WorldState) : Operation → WorldState → Prop
  | observeLight device actual ts, world => ∃ idx rooms, env.topology.deviceIdx device = some idx ∧
      rooms <+: env.topology.lightRooms idx ∧
        world = rooms.foldl (env.followMember ts) (env.recordLightState device actual ts before)
  | execute _ _ _, world => world = before
  | _, _ => False

/-- Whenever the operation looked the step of a switch cycle up, it found it. -/
def Record.FindsSteps (record : Record) : Prop :=
  ∀ world, record.operation.LooksUpIn record.env record.before.world world →
    record.env.toAutomation.CursorsValid world

namespace Env

variable {env : Env}

/-- From cursors that are valid an operation finds every step it looks up. -/
theorem findsSteps_of_valid (operation : Operation) {runtime : Runtime}
    (valid : env.toAutomation.CursorsValid runtime.world) :
    Record.FindsSteps { env, before := runtime, operation } := by
  intro world looks
  cases operation with
  | observeLight device actual ts =>
      obtain ⟨idx, rooms, _, _, rfl⟩ := looks
      have reported : env.Reported runtime.world
          (rooms.foldl (env.followMember ts)
            (env.recordLightState device actual ts runtime.world)) :=
        Touches.foldl _ (recordLightState_reported (Touches.refl _) device actual ts)
          fun _ idx _ reported => followMember_reported reported ts idx
      refine Automation.cursorsValid_iff.mpr fun name => ?_
      exact reported.zones.preserves _ (fun _ _ taken => taken.2.points)
        (Automation.cursorsValid_iff.mp valid name)
  | execute ruleName effect ts =>
      cases looks
      exact valid
  | _ => exact looks.elim

theorem run_cursorsValid {operation : Operation} (admissible : operation.Admissible env.topology)
    {runtime : Runtime} (valid : env.toAutomation.CursorsValid runtime.world) :
    env.toAutomation.CursorsValid (operation.run env runtime).1.world :=
  Automation.cursorsValid_iff.mpr fun name =>
    (run_guards admissible runtime name).points (Automation.cursorsValid_iff.mp valid name)

end Env

theorem Automation.cursorsValid_kept : KeptByInputs fun automation history runtime =>
    automation.CursorsValid runtime.world ∧ ∀ record ∈ history, record.FindsSteps := by
  have performs : ∀ (env : Env) (operation : Operation), operation.Admissible env.topology →
      Emission.Keeps (fun history (runtime : Runtime) =>
        env.toAutomation.CursorsValid runtime.world ∧ ∀ record ∈ history, record.FindsSteps)
        (env.perform operation) := by
    rintro env operation admissible past runtime ⟨valid, finds⟩
    refine ⟨Env.run_cursorsValid admissible valid, fun record member => ?_⟩
    rcases List.mem_append.mp member with earlier | last
    · exact finds record earlier
    · rw [List.mem_singleton.mp last]
      exact Env.findsSteps_of_valid operation valid
  have launch : ∀ automation : Automation, automation.CursorsValid {} := by
    intro automation name cycle active
    cases active
  refine KeptByInputs.of_operations (fun automation => ⟨launch automation, by simp⟩)
    (fun env operation past runtime admissible _ =>
      performs env operation admissible past runtime) ?_
  rintro automation env command operations past runtime planned _ ⟨valid, finds⟩
  obtain ⟨topology, apart⟩ := Automation.plan_ok planned
  rcases Automation.plan_switchSteps planned with same | ⟨room, rfl, same⟩
  · have kept : env.toAutomation.CursorsValid runtime.world :=
      Automation.cursorsValid_iff.mpr fun name cycle active =>
        (Automation.cursorsValid_iff.mp valid name cycle active).imp_left
          (Automation.selects_congr topology (by rw [same]))
    exact Emission.Keeps.forEach operations (fun operation member =>
      performs env operation (by rw [topology]; exact (apart operation member).1.1)) past runtime
      ⟨kept, finds⟩
  · -- The room whose steps were replaced forgets its cycle; it is not looked up before.
    have after : (env.performAll [.forgetCycle room] runtime).1.world =
        runtime.world.forgetCycle room := rfl
    refine ⟨Automation.cursorsValid_iff.mpr fun name cycle active => ?_, fun record member => ?_⟩
    · rw [after, WorldState.zoneAt_forgetCycle] at active ⊢
      split at active
      · cases active
      · rename_i other
        rw [if_neg other]
        exact (Automation.cursorsValid_iff.mp valid name cycle active).imp_left
          (Automation.selects_congr topology (same name fun named => other named.symm))
    · rcases List.mem_append.mp member with earlier | last
      · exact finds record earlier
      · obtain rfl : record = { env, before := runtime, operation := .forgetCycle room } := by
          simpa [Env.performAll, Env.perform] using last
        exact fun _ looks => looks.elim

/-- A switch cycle points at an existing step of its room, and the target of its zone has a
timestamp, in every state that a run reaches and whenever an operation of the run looked a step
up. -/
theorem Run.cursors_valid {history : List Record} {daemon : Daemon} (run : Run history daemon) :
    daemon.processor.automation.CursorsValid daemon.processor.runtime.world ∧
      ∀ record ∈ history, record.FindsSteps :=
  (run.invariant_of_inputs Automation.cursorsValid_kept).2

/-- One press of a scene-cycle button in the study selects the first of its two steps. -/
theorem Run.cursors_valid_study : ∃ (history : List Record) (daemon : Daemon), Run history daemon ∧
    (daemon.processor.runtime.world.zoneAt "study").switchCycle = some ⟨"day", 0⟩ ∧
      daemon.processor.automation.CursorsValid daemon.processor.runtime.world := by
  obtain ⟨daemon, history, run, _, facts⟩ := House.played .offOnly
    [House.onPress "on" (.sceneCycle 0)] [(0, .start), House.press "on" 1]
    (fun reached : Daemon × List Record =>
      (reached.1.processor.runtime.world.zoneAt "study").switchCycle)
    (some ⟨"day", 0⟩) (by decide +kernel)
  exact ⟨history, daemon, run, facts, (Run.cursors_valid run).1⟩

end MqttController
