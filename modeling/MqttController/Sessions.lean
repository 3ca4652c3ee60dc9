import MqttController.Frames

/-!
# Motion sessions

A session claims some of its target's lights, and an occupied sensor of its rule holds it.  While a
report or an ageing is handled a session may be held by no sensor, until the handler has closed it.
-/

namespace MqttController

open Emission

/-- The session's target is one of the rule's, and its claims are some of the target's lights. -/
structure MotionSession.Fits (rule : ResolvedMotionRule) (session : MotionSession) : Prop where
  target : ∃ slot : String, rule.targetsBySlot[slot]? = some session.target
  claimed : session.claimed.Nonempty
  inside : ∀ device ∈ session.claimed, ∃ light ∈ session.target.lights, light.device = device

namespace WorldState

/-- Every session fits its rule. -/
def SessionsFit (topology : Topology) (world : WorldState) : Prop :=
  ∀ rule ∈ topology.motionRules, ∀ session, world.motionSession rule = some session →
    session.Fits rule

/-- Every session is held by an occupied sensor, but for the rules still to be looked at. -/
def HeldExcept (topology : Topology) (remaining : List ResolvedMotionRule) (world : WorldState) :
    Prop :=
  ∀ rule ∈ topology.motionRules, (world.motionSession rule).isSome →
    world.motionRuleOccupied rule ∨ rule ∈ remaining

/-- Every session is held by an occupied sensor. -/
def SessionsHeld (topology : Topology) (world : WorldState) : Prop :=
  ∀ rule ∈ topology.motionRules, (world.motionSession rule).isSome →
    world.motionRuleOccupied rule

theorem motionSession_congr {before after : WorldState} {rule : ResolvedMotionRule}
    (same : after.ruleAt rule.name = before.ruleAt rule.name) :
    after.motionSession rule = before.motionSession rule := by
  unfold ruleAt at same
  unfold motionSession
  rw [same]

theorem motionRuleOccupied_congr {before after : WorldState}
    (same : after.motionSensors = before.motionSensors) (rule : ResolvedMotionRule) :
    after.motionRuleOccupied rule = before.motionRuleOccupied rule := by
  unfold motionRuleOccupied
  rw [same]

theorem heldExcept_nil {topology : Topology} {world : WorldState} :
    world.HeldExcept topology [] ↔ world.SessionsHeld topology := by
  simp [HeldExcept, SessionsHeld]

end WorldState

namespace Env

variable {env : Env}

/-- Rules of one name are one rule. -/
theorem rule_eq_of_name {rule other : ResolvedMotionRule} (listed : rule ∈ env.topology.motionRules)
    (also : other ∈ env.topology.motionRules) (same : rule.name = other.name) : rule = other :=
  List.inj_on_of_nodup_map env.topology.valid.rule_names_nodup listed also same

/-- Opening a session opens one that fits, and leaves the sessions of other rules alone. -/
theorem Opens.sessions {rule : ResolvedMotionRule} {ts : Instant} {world : WorldState}
    (opens : Opens env rule ts world) (listed : rule ∈ env.topology.motionRules)
    {other : ResolvedMotionRule} (also : other ∈ env.topology.motionRules)
    {session : MotionSession} (live : opens.result.1.motionSession other = some session) :
    other = rule ∧ session.Fits rule ∨ world.motionSession other = some session := by
  by_cases same : rule.name = other.name
  · have equal := rule_eq_of_name listed also same
    subst equal
    rw [opens.motionSession] at live
    cases live
    refine .inl ⟨rfl, ⟨opens.slot, (activation_some opens.active).1⟩,
      Finset.nonempty_iff_ne_empty.mpr opens.someClaimed, ?_⟩
    intro device member
    obtain ⟨light, inside, _, named⟩ := (opens.mem_claimed device).mp member
    exact ⟨light, inside, named⟩
  · refine .inr ?_
    have unchanged := opens.ruleAt other.name
    rw [if_neg same] at unchanged
    rwa [WorldState.motionSession_congr unchanged] at live

/-- Starting a session of a rule, likewise. -/
theorem startMotionSession_sessions {rule : ResolvedMotionRule}
    (listed : rule ∈ env.topology.motionRules) (illuminance : Option Nat) (ts : Instant)
    (world : WorldState) {other : ResolvedMotionRule}
    (also : other ∈ env.topology.motionRules) {session : MotionSession}
    (live : (env.startMotionSession rule illuminance ts world).1.motionSession other =
      some session) :
    other = rule ∧ session.Fits rule ∨ world.motionSession other = some session := by
  rcases startMotionSession_cases listed illuminance ts world with idle | ⟨opens, same⟩
  · refine .inr ?_
    unfold WorldState.motionSession at live ⊢
    rwa [idle.motionRules] at live
  · rw [same] at live
    exact opens.sessions listed also live

/-- Releasing the session of a rule closes it and leaves the others alone. -/
theorem releaseMotionSession_sessions (rule : ResolvedMotionRule) (ts : Instant)
    (world : WorldState) {other : ResolvedMotionRule} {session : MotionSession}
    (live : (env.releaseMotionSession rule ts world).motionSession other = some session) :
    rule.name ≠ other.name ∧ world.motionSession other = some session := by
  have closed : (env.releaseMotionSession rule ts world).motionRules =
      (world.takeSession rule).motionRules ∨
        world.motionSession rule = none ∧ env.releaseMotionSession rule ts world = world := by
    cases before : world.motionSession rule with
    | none =>
        refine .inr ⟨rfl, ?_⟩
        unfold releaseMotionSession
        rw [before]
    | some session => exact .inl (releaseMotionSession_others rule ts before).2
  rcases closed with taken | ⟨none, same⟩
  · have atOther := takeSession_ruleAt world rule other.name
    unfold WorldState.ruleAt at atOther
    unfold WorldState.motionSession at live ⊢
    rw [taken, atOther] at live
    split at live
    · cases stored : world.motionRules[other.name]? <;> rw [stored] at live <;> cases live
    · rename_i different
      exact ⟨different, live⟩
  · rw [same] at live
    refine ⟨fun named => ?_, live⟩
    unfold WorldState.motionSession at none live
    rw [named, live] at none
    cases none

/-- Closing the session of a rule, likewise. -/
theorem Finish.sessions {rule : ResolvedMotionRule} {ts : Instant} {owner : Owner}
    {world : WorldState} {result : WorldState × List Effect}
    (finish : Finish env rule ts owner world result) {other : ResolvedMotionRule}
    {session : MotionSession} (live : result.1.motionSession other = some session) :
    rule.name ≠ other.name ∧ world.motionSession other = some session := by
  obtain ⟨closed, others, _⟩ := finish.closes
  by_cases named : rule.name = other.name
  · unfold WorldState.motionSession at closed live
    rw [named, live] at closed
    cases closed
  · rw [WorldState.motionSession_congr (others other.name named)] at live
    exact ⟨named, live⟩

/-- Startup only opens a session of an occupied rule. -/
theorem startupTurnOff_sessions {rule : ResolvedMotionRule}
    (listed : rule ∈ env.topology.motionRules) (ts : Instant) (world : WorldState)
    {other : ResolvedMotionRule} (also : other ∈ env.topology.motionRules)
    {session : MotionSession}
    (live : (env.startupTurnOff rule ts world).1.motionSession other = some session) :
    other = rule ∧ world.motionRuleOccupied rule ∧ session.Fits rule ∨
      world.motionSession other = some session := by
  have startup := startupTurnOff_startup env rule ts world
  generalize env.startupTurnOff rule ts world = result at startup live
  cases startup with
  | idle nothing => exact .inr live
  | start mode observed occupied =>
      rcases startMotionSession_sessions listed none ts world also live with ⟨same, fits⟩ | before
      · exact .inl ⟨same, occupied, fits⟩
      · exact .inr before
  | reset mode observed free resets =>
      refine .inr ?_
      unfold WorldState.motionSession at live ⊢
      rwa [resets.motionRules] at live

/-- Blocking a room only shrinks sessions. -/
theorem blockMotion_sessions (name : String) (ts : Instant) (world : WorldState)
    {other : ResolvedMotionRule} {session : MotionSession}
    (live : (env.blockMotion name ts world).motionSession other = some session) :
    ∃ before, world.motionSession other = some before ∧ session.target = before.target ∧
      session.claimed ⊆ before.claimed ∧ (session = before ∨ session.claimed ≠ ∅) := by
  cases found : env.topology.roomByName name with
  | none =>
      unfold blockMotion at live
      rw [found] at live
      exact ⟨session, live, rfl, subset_rfl, .inl rfl⟩
  | some room =>
      have blocked := (blockMotion_blocks found ts world).ruleAt other.name
      unfold WorldState.ruleAt at blocked
      unfold WorldState.motionSession at live ⊢
      rw [blocked] at live
      cases stored : world.motionRules[other.name]? with
      | none =>
          rw [stored] at live
          cases live
      | some state =>
          rw [stored] at live
          obtain ⟨shrunk, nonempty⟩ := Option.filter_eq_some_iff.mp live
          obtain ⟨before, was, rfl⟩ := Option.map_eq_some_iff.mp shrunk
          exact ⟨before, was, rfl, Finset.filter_subset _ _, .inr (by simpa using nonempty)⟩

/-- Blocking a room takes its lights out of every session. -/
theorem blockMotion_unclaimed {name : String} {room : ResolvedRoom}
    (found : env.topology.roomByName name = some room) (ts : Instant) (world : WorldState)
    {rule : ResolvedMotionRule} {session : MotionSession}
    (live : (env.blockMotion name ts world).motionSession rule = some session)
    {device : DeviceIdx} (claimed : device ∈ session.claimed) {light : LightEndpoint}
    (member : light ∈ room.lightMembers) : light.device ≠ device := by
  have blocked := (blockMotion_blocks found ts world).ruleAt rule.name
  unfold WorldState.ruleAt at blocked
  unfold WorldState.motionSession at live
  rw [blocked] at live
  cases stored : world.motionRules[rule.name]? with
  | none =>
      rw [stored] at live
      cases live
  | some state =>
      rw [stored] at live
      obtain ⟨before, _, rfl⟩ := Option.map_eq_some_iff.mp (Option.filter_eq_some_iff.mp live).1
      have kept := (Finset.mem_filter.mp claimed).2
      intro same
      rw [Bool.not_eq_true', List.any_eq_false] at kept
      exact kept light member (by simpa using same)

/-! ## Sessions fit -/

theorem run_sessionsFit {operation : Operation} (admissible : operation.Admissible env.topology)
    {runtime : Runtime} (fit : runtime.world.SessionsFit env.topology) :
    (operation.run env runtime).1.world.SessionsFit env.topology := by
  intro other also session live
  cases changes : operation.changesSessions with
  | false =>
      rw [WorldState.motionSession_congr (Operation.run_ruleAt changes runtime other.name)] at live
      exact fit other also session live
  | true =>
      cases operation with
      | startSession rule illuminance ts =>
          rcases startMotionSession_sessions admissible illuminance ts runtime.world also live with
            ⟨rfl, fits⟩ | before
          · exact fits
          · exact fit other also session before
      | releaseSession rule ts =>
          exact fit other also session
            (releaseMotionSession_sessions rule ts runtime.world live).2
      | finishSession rule ts owner =>
          exact fit other also session
            ((finishMotionSession_finish env rule ts owner runtime.world).sessions live).2
      | startupTurnOff rule ts =>
          rcases startupTurnOff_sessions admissible ts runtime.world also live with
            ⟨rfl, _, fits⟩ | before
          · exact fits
          · exact fit other also session before
      | blockMotion room ts =>
          obtain ⟨before, was, target, fewer, kept⟩ :=
            blockMotion_sessions room ts runtime.world live
          have fits := fit other also before was
          rcases kept with rfl | nonempty
          · exact fits
          · refine ⟨by rw [target]; exact fits.target,
              Finset.nonempty_iff_ne_empty.mpr nonempty, ?_⟩
            intro device member
            rw [target]
            exact fits.inside device (fewer member)
      | _ => cases changes

/-! ## Sessions are held -/

theorem run_sessionsHeld {operation : Operation} (plain : operation.Plain env.topology)
    {runtime : Runtime} (held : runtime.world.SessionsHeld env.topology) :
    (operation.run env runtime).1.world.SessionsHeld env.topology := by
  obtain ⟨admissible, unfollowed⟩ := plain
  intro other also live
  have sensors : (operation.run env runtime).1.world.motionSensors =
      runtime.world.motionSensors := by
    exact Operation.run_motionSensors admissible (Operation.changesSensors_eq_false unfollowed)
      runtime
  rw [WorldState.motionRuleOccupied_congr sensors]
  cases changes : operation.changesSessions with
  | false =>
      rw [WorldState.motionSession_congr (Operation.run_ruleAt changes runtime other.name)] at live
      exact held other also live
  | true =>
      obtain ⟨session, live⟩ := Option.isSome_iff_exists.mp live
      cases operation with
      | startupTurnOff rule ts =>
          rcases startupTurnOff_sessions admissible ts runtime.world also live with
            ⟨rfl, occupied, _⟩ | before
          · exact occupied
          · exact held other also (by rw [before]; rfl)
      | blockMotion room ts =>
          obtain ⟨before, was, _⟩ := blockMotion_sessions room ts runtime.world live
          exact held other also (by rw [was]; rfl)
      | startSession rule illuminance ts => cases unfollowed
      | releaseSession rule ts => cases unfollowed
      | finishSession rule ts owner => cases unfollowed
      | _ => cases changes

/-- Closing the sessions of rules that lost their sensors. -/
theorem ruleVacated_held (owner : Owner) (ts : Instant) {rules : List ResolvedMotionRule}
    {runtime : Runtime} (held : runtime.world.HeldExcept env.topology rules) :
    (forEach (env.ruleVacated owner ts) rules runtime).1.world.SessionsHeld env.topology := by
  induction rules generalizing runtime with
  | nil => exact WorldState.heldExcept_nil.mp held
  | cons rule rest ih =>
      rw [forEach_cons, andThen_fst]
      refine ih ?_
      intro other also live
      unfold ruleVacated at live ⊢
      split at live
      · rename_i occupied
        rw [if_pos occupied]
        rcases held other also live with still | member
        · exact .inl still
        · rcases List.mem_cons.mp member with rfl | member
          · exact .inl occupied
          · exact .inr member
      · rename_i vacant
        rw [if_neg vacant]
        have finish := finishMotionSession_finish env rule ts owner runtime.world
        obtain ⟨session, live⟩ := Option.isSome_iff_exists.mp live
        obtain ⟨different, before⟩ := finish.sessions live
        have frame : WorldState.Frame runtime.world
            (env.finishMotionSession rule ts owner runtime.world).1 := finish.closes.2.2
        rcases held other also (by rw [before]; rfl) with still | member
        · refine .inl ?_
          have same := WorldState.motionRuleOccupied_congr frame.motionSensors other
          exact same.trans still
        · rcases List.mem_cons.mp member with rfl | member
          · exact absurd rfl different
          · exact .inr member

/-- Opening sessions of occupied rules. -/
theorem ruleOccupied_held (illuminance : Option Nat) (ts : Instant)
    {entries : List (ResolvedMotionRule × Bool)} {runtime : Runtime}
    (listed : ∀ entry ∈ entries, entry.1 ∈ env.topology.motionRules)
    (occupied : ∀ entry ∈ entries, runtime.world.motionRuleOccupied entry.1)
    (held : runtime.world.SessionsHeld env.topology) :
    (forEach (env.ruleOccupied illuminance ts) entries runtime).1.world.SessionsHeld
      env.topology := by
  induction entries generalizing runtime with
  | nil => exact held
  | cons entry rest ih =>
      obtain ⟨rule, wasActive⟩ := entry
      have ruleListed := listed _ List.mem_cons_self
      have ruleHeld := occupied _ List.mem_cons_self
      -- Starting a session of the occupied rule keeps sensors and held sessions.
      have starts : ∀ world : WorldState, world.motionSensors = runtime.world.motionSensors →
          world.SessionsHeld env.topology →
          (env.startMotionSession rule illuminance ts world).1.motionSensors =
              runtime.world.motionSensors ∧
            (env.startMotionSession rule illuminance ts world).1.SessionsHeld env.topology := by
        intro world sensors worldHeld
        have frame : (env.startMotionSession rule illuminance ts world).1.motionSensors =
            world.motionSensors := by
          rcases startMotionSession_cases ruleListed illuminance ts world with idle | ⟨opens, same⟩
          · exact idle.frame.motionSensors
          · rw [same]
            exact opens.frame'.motionSensors
        refine ⟨frame.trans sensors, fun other also live => ?_⟩
        rw [WorldState.motionRuleOccupied_congr frame]
        obtain ⟨session, live⟩ := Option.isSome_iff_exists.mp live
        rcases startMotionSession_sessions ruleListed illuminance ts world also live with
          ⟨rfl, _⟩ | before
        · rw [WorldState.motionRuleOccupied_congr sensors]
          exact ruleHeld
        · exact worldHeld other also (by rw [before]; rfl)
      have step :
          (env.ruleOccupied illuminance ts (rule, wasActive) runtime).1.world.motionSensors =
            runtime.world.motionSensors ∧
          (env.ruleOccupied illuminance ts (rule, wasActive) runtime).1.world.SessionsHeld
            env.topology := by
        unfold ruleOccupied
        dsimp only
        split
        · exact starts runtime.world rfl held
        · split
          · refine starts (env.releaseMotionSession rule ts runtime.world)
              (releaseMotionSession_frame rule ts runtime.world).motionSensors ?_
            intro other also live
            obtain ⟨session, live⟩ := Option.isSome_iff_exists.mp live
            rw [WorldState.motionRuleOccupied_congr
              (releaseMotionSession_frame rule ts runtime.world).motionSensors]
            exact held other also
              (by rw [(releaseMotionSession_sessions rule ts runtime.world live).2]; rfl)
          · exact ⟨rfl, held⟩
      rw [forEach_cons, andThen_fst]
      refine ih (fun other member => listed other (List.mem_cons_of_mem _ member))
        (fun other member => ?_) step.2
      rw [WorldState.motionRuleOccupied_congr step.1]
      exact occupied other (List.mem_cons_of_mem _ member)

end Env

/-! ## Sensors -/

namespace MotionSensorEntity

/-- Only a sensor that goes stale stops being occupied by ageing. -/
theorem isOccupied_age {sensor : MotionSensorEntity} {now : Instant}
    (fresh : sensor.goesStale now = false) : (sensor.age now).isOccupied = sensor.isOccupied := by
  unfold goesStale TassActual.isOld at fresh
  unfold isOccupied age TassActual.markStaleIfOld
  split at fresh
  · rename_i value since same
    rw [decide_eq_false_iff_not] at fresh
    simp only [same, if_neg fresh]
  · rfl

/-- A sensor whose last report says clear is not occupied. -/
theorem not_isOccupied_of_clear {sensor : MotionSensorEntity}
    (clear : sensor.actual.value.any fun actual => !actual.occupied) :
    sensor.isOccupied = false := by
  obtain ⟨actual, last, free⟩ := (Option.any_eq_true _ _).mp clear
  have free : actual.occupied = false := by simpa using free
  unfold isOccupied
  rw [last, Option.any_some, free, Bool.and_false]

end MotionSensorEntity

namespace WorldState

variable {world : WorldState} {rule : ResolvedMotionRule} {sensor : String}

/-- The world after a sensor report. -/
def observeSensor (world : WorldState) (sensor : String) (occupied : Bool)
    (illuminance received : Option Nat) (ts : Instant) : WorldState :=
  world.modifyMotionSensor sensor (·.observe occupied illuminance received ts)

theorem isOccupied_observeSensor (occupied : Bool) (illuminance received : Option Nat)
    (ts : Instant) (other : String) :
    ((world.observeSensor sensor occupied illuminance received ts).motionSensors[other]?).any
        (·.isOccupied) =
      if sensor = other then occupied else (world.motionSensors[other]?).any (·.isOccupied) := by
  unfold observeSensor modifyMotionSensor
  rw [OrderedMap.getElem?_upsert]
  split
  · rfl
  · rfl

/-- A report that repeats whether the sensor is occupied changes no rule. -/
theorem motionRuleOccupied_observe_same {occupied : Bool} (illuminance received : Option Nat)
    (ts : Instant) (same : (world.motionSensors[sensor]?).any (·.isOccupied) = occupied) :
    (world.observeSensor sensor occupied illuminance received ts).motionRuleOccupied rule =
      world.motionRuleOccupied rule := by
  unfold motionRuleOccupied
  congr 1
  funext other
  rw [isOccupied_observeSensor]
  split
  · rename_i named
    rw [← named, same]
  · rfl

/-- An occupied report holds every rule that was held, and every rule that lists the sensor. -/
theorem motionRuleOccupied_observe_true (illuminance received : Option Nat) (ts : Instant)
    (held : world.motionRuleOccupied rule ∨ sensor ∈ rule.sensors) :
    (world.observeSensor sensor true illuminance received ts).motionRuleOccupied rule := by
  unfold motionRuleOccupied at held ⊢
  rw [List.any_eq_true] at held ⊢
  rcases held with ⟨other, listed, occupied⟩ | listed
  · refine ⟨other, listed, ?_⟩
    rw [isOccupied_observeSensor]
    split
    · rfl
    · exact occupied
  · refine ⟨sensor, listed, ?_⟩
    rw [isOccupied_observeSensor, if_pos rfl]

/-- A report changes only the rules that list the sensor. -/
theorem motionRuleOccupied_observe_unlisted (occupied : Bool) (illuminance received : Option Nat)
    (ts : Instant) (unlisted : sensor ∉ rule.sensors) :
    (world.observeSensor sensor occupied illuminance received ts).motionRuleOccupied rule =
      world.motionRuleOccupied rule := by
  unfold motionRuleOccupied
  rw [Bool.eq_iff_iff, List.any_eq_true, List.any_eq_true]
  refine exists_congr fun other => and_congr_right fun listed => ?_
  rw [isOccupied_observeSensor, if_neg]
  rintro rfl
  exact unlisted listed

/-- Ageing changes only the rules that lose a sensor. -/
theorem motionRuleOccupied_ageActuals {now : Instant} (keeps : world.losesSensor rule now = false) :
    (world.ageActuals now).motionRuleOccupied rule = world.motionRuleOccupied rule := by
  unfold losesSensor at keeps
  unfold motionRuleOccupied ageActuals
  dsimp only
  rw [Bool.eq_iff_iff, List.any_eq_true, List.any_eq_true]
  refine exists_congr fun other => and_congr_right fun listed => ?_
  rw [OrderedMap.getElem?_mapValues]
  have fresh := List.any_eq_false.mp keeps other listed
  cases stored : world.motionSensors[other]? with
  | none => rfl
  | some entity =>
      rw [stored] at fresh
      rw [Option.map_some, Option.any_some, Option.any_some,
        MotionSensorEntity.isOccupied_age (by simpa using fresh)]

end WorldState

namespace Env

variable {env : Env}

theorem mem_motionRulesForSensor {sensor : String} {rule : ResolvedMotionRule} :
    rule ∈ env.topology.motionRulesForSensor sensor ↔
      rule ∈ env.topology.motionRules ∧ sensor ∈ rule.sensors := by
  unfold TopologyTables.motionRulesForSensor
  rw [List.mem_filter, List.contains_iff_mem]

/-- The handler of sensor reports closes every session that it leaves without a sensor. -/
theorem handleOccupancy_held (sensor : String) (occupied : Bool)
    (illuminance received : Option Nat) (ts : Instant) {runtime : Runtime}
    (held : runtime.world.SessionsHeld env.topology) :
    (env.handleOccupancy sensor occupied illuminance received ts runtime).1.world.SessionsHeld
      env.topology := by
  unfold handleOccupancy
  dsimp only
  rw [andThen_fst]
  set observed := (env.perform (.observeSensor sensor occupied illuminance received ts)
    runtime).1 with observedEq
  have world : observed.world =
      runtime.world.observeSensor sensor occupied illuminance received ts := rfl
  have sessions : ∀ rule, observed.world.motionSession rule = runtime.world.motionSession rule :=
    fun _ => rfl
  split_ifs with unchanged became
  · -- The report repeats what the sensor said.
    have same : (runtime.world.motionSensors[sensor]?).any (·.isOccupied) = occupied := by
      cases occupied with
      | true => simpa using unchanged
      | false =>
          obtain ⟨entity, stored, clear⟩ := (Option.any_eq_true _ _).mp (by simpa using unchanged)
          rw [stored, Option.any_some, MotionSensorEntity.not_isOccupied_of_clear clear]
    intro rule listed live
    have unmoved : observed.world.motionRuleOccupied rule =
        runtime.world.motionRuleOccupied rule := by
      rw [world]
      exact WorldState.motionRuleOccupied_observe_same illuminance received ts same
    exact unmoved.trans (held rule listed (by rw [← sessions]; exact live))
  · subst became
    refine ruleOccupied_held illuminance ts ?_ ?_ ?_
    · intro entry member
      obtain ⟨rule, listed, rfl⟩ := List.mem_map.mp member
      exact (mem_motionRulesForSensor.mp listed).1
    · intro entry member
      obtain ⟨rule, listed, rfl⟩ := List.mem_map.mp member
      exact WorldState.motionRuleOccupied_observe_true illuminance received ts
        (.inr (mem_motionRulesForSensor.mp listed).2)
    · intro rule listed live
      exact WorldState.motionRuleOccupied_observe_true illuminance received ts
        (.inl (held rule listed (by rw [← sessions]; exact live)))
  · refine ruleVacated_held .motion ts fun rule listed live => ?_
    by_cases lists : sensor ∈ rule.sensors
    · exact .inr (mem_motionRulesForSensor.mpr ⟨listed, lists⟩)
    · refine .inl ?_
      have unmoved : observed.world.motionRuleOccupied rule =
          runtime.world.motionRuleOccupied rule := by
        rw [world]
        exact WorldState.motionRuleOccupied_observe_unlisted occupied illuminance received ts lists
      exact unmoved.trans (held rule listed (by rw [← sessions]; exact live))

/-- Ageing readings closes every session that it leaves without a sensor. -/
theorem evaluateActualStaleness_held (ts : Instant) {runtime : Runtime}
    (held : runtime.world.SessionsHeld env.topology) :
    (env.evaluateActualStaleness ts runtime).1.world.SessionsHeld env.topology := by
  unfold evaluateActualStaleness
  dsimp only
  rw [andThen_fst]
  refine ruleVacated_held .system ts fun rule listed live => ?_
  cases loses : runtime.world.losesSensor rule ts with
  | true => exact .inr (List.mem_filter.mpr ⟨listed, loses⟩)
  | false =>
      refine .inl ?_
      have unmoved := WorldState.motionRuleOccupied_ageActuals loses
      exact unmoved.trans (held rule listed live)

end Env

/-! ## The end of a session -/

/-- The record closed a session. -/
def Record.Finishes (rule : ResolvedMotionRule) (session : MotionSession) (record : Record) :
    Prop :=
  (∃ ts owner, record.operation = .finishSession rule ts owner) ∧
    record.before.world.motionSession rule = some session

/-- The session goes on, or a record closed it. -/
def LastsOrFinished (rule : ResolvedMotionRule) (session : MotionSession) (past : List Record)
    (runtime : Runtime) : Prop :=
  runtime.world.motionSession rule = some session ∨ ∃ record ∈ past, record.Finishes rule session

theorem LastsOrFinished.of_finished {rule : ResolvedMotionRule} {session : MotionSession}
    {past : List Record} (finished : ∃ record ∈ past, record.Finishes rule session)
    (records : List Record) (runtime : Runtime) :
    LastsOrFinished rule session (past ++ records) runtime := by
  obtain ⟨record, member, finishes⟩ := finished
  exact .inr ⟨record, List.mem_append_left _ member, finishes⟩

namespace Env

variable {env : Env} {rule : ResolvedMotionRule} {session : MotionSession}

theorem perform_lasts {operation : Operation}
    (same : ∀ runtime, (operation.run env runtime).1.world.motionSession rule =
      runtime.world.motionSession rule) :
    Keeps (LastsOrFinished rule session) (env.perform operation) := by
  rintro past runtime (live | finished)
  · exact .inl ((same runtime).trans live)
  · exact .of_finished finished _ _

theorem apart_lasts {operation : Operation} (apart : operation.changesSessions = false) :
    Keeps (LastsOrFinished rule session) (env.perform operation) :=
  perform_lasts fun runtime =>
    WorldState.motionSession_congr (Operation.run_ruleAt apart runtime rule.name)

/-- Closing the session of a rule leaves that of another rule alone. -/
theorem finishSession_lasts {other : ResolvedMotionRule} (listed : rule ∈ env.topology.motionRules)
    (also : other ∈ env.topology.motionRules) (ts : Instant) (owner : Owner) :
    Keeps (LastsOrFinished rule session) (env.perform (.finishSession other ts owner)) := by
  by_cases named : other.name = rule.name
  · have same := rule_eq_of_name also listed named
    subst same
    rintro past runtime (live | finished)
    · exact .inr ⟨_, List.mem_append_right _ (List.mem_singleton_self _), ⟨ts, owner, rfl⟩, live⟩
    · exact .of_finished finished _ _
  · refine perform_lasts fun runtime => WorldState.motionSession_congr ?_
    exact (finishMotionSession_finish env other ts owner runtime.world).closes.2.1 rule.name named

theorem ruleVacated_lasts {other : ResolvedMotionRule} (listed : rule ∈ env.topology.motionRules)
    (also : other ∈ env.topology.motionRules) (owner : Owner) (ts : Instant) :
    Keeps (LastsOrFinished rule session) (env.ruleVacated owner ts other) := by
  unfold ruleVacated
  intro past runtime lasts
  dsimp only
  split
  · exact Keeps.skip past runtime lasts
  · exact finishSession_lasts listed also ts owner past runtime lasts

/-- Opening the session of a rule leaves that of another rule alone. -/
theorem startMotionSession_ruleAt {other : ResolvedMotionRule}
    (also : other ∈ env.topology.motionRules) (different : other.name ≠ rule.name)
    (illuminance : Option Nat) (ts : Instant) (world : WorldState) :
    (env.startMotionSession other illuminance ts world).1.ruleAt rule.name =
      world.ruleAt rule.name := by
  rcases startMotionSession_cases also illuminance ts world with idle | ⟨opens, same⟩
  · unfold WorldState.ruleAt
    rw [idle.motionRules]
  · rw [same, opens.ruleAt, if_neg different]

theorem releaseMotionSession_ruleAt {other : ResolvedMotionRule}
    (different : other.name ≠ rule.name) (ts : Instant) (world : WorldState) :
    (env.releaseMotionSession other ts world).ruleAt rule.name = world.ruleAt rule.name := by
  cases before : world.motionSession other with
  | none =>
      unfold releaseMotionSession
      rw [before]
  | some session =>
      have taken : (env.releaseMotionSession other ts world).motionRules =
          (world.takeSession other).motionRules := (releaseMotionSession_others other ts before).2
      unfold WorldState.ruleAt
      rw [taken]
      exact (takeSession_ruleAt world other rule.name).trans (if_neg different)

/-- A rule that was active keeps its session when a sensor becomes occupied. -/
theorem ruleOccupied_lasts {other : ResolvedMotionRule} {wasActive : Bool}
    (listed : rule ∈ env.topology.motionRules) (also : other ∈ env.topology.motionRules)
    (active : other = rule → wasActive = true) (illuminance : Option Nat) (ts : Instant) :
    Keeps (LastsOrFinished rule session) (env.ruleOccupied illuminance ts (other, wasActive)) := by
  unfold ruleOccupied
  intro past runtime lasts
  rcases lasts with live | finished
  · by_cases named : other.name = rule.name
    · have same := rule_eq_of_name also listed named
      subst same
      dsimp only
      rw [live, active rfl]
      exact Keeps.skip past runtime (.inl live)
    · have starts : Keeps (LastsOrFinished rule session)
          (env.perform (.startSession other illuminance ts)) :=
        perform_lasts fun runtime => WorldState.motionSession_congr
          (startMotionSession_ruleAt also named illuminance ts runtime.world)
      have releases : Keeps (LastsOrFinished rule session)
          (env.perform (.releaseSession other ts)) :=
        perform_lasts fun runtime => WorldState.motionSession_congr
          (releaseMotionSession_ruleAt named ts runtime.world)
      dsimp only
      split
      · exact starts past runtime (.inl live)
      · split
        · refine Keeps.forEach _ (fun operation member => ?_) past runtime (.inl live)
          rcases List.mem_pair.mp member with rfl | rfl
          · exact releases
          · exact starts
        · exact Keeps.skip past runtime (.inl live)
  · exact .of_finished finished _ _

/-- A held session lasts through a report of a sensor, or is closed by it. -/
theorem handleOccupancy_lasts (listed : rule ∈ env.topology.motionRules) (sensor : String)
    (occupied : Bool) (illuminance received : Option Nat) (ts : Instant) {past : List Record}
    {runtime : Runtime} (held : runtime.world.SessionsHeld env.topology)
    (lasts : LastsOrFinished rule session past runtime) :
    LastsOrFinished rule session
      (past ++ (env.handleOccupancy sensor occupied illuminance received ts runtime).2)
      (env.handleOccupancy sensor occupied illuminance received ts runtime).1 := by
  rcases lasts with live | finished
  · unfold handleOccupancy
    refine Keeps.andThen (apart_lasts rfl) ?_ past runtime (.inl live)
    split_ifs
    · exact Keeps.skip
    · refine Keeps.forEach _ fun entry member => ?_
      obtain ⟨other, inside, rfl⟩ := List.mem_map.mp member
      refine ruleOccupied_lasts listed (mem_motionRulesForSensor.mp inside).1 ?_ illuminance ts
      rintro rfl
      exact held other listed (by rw [live]; rfl)
    · exact Keeps.forEach _ fun other inside =>
        ruleVacated_lasts listed (mem_motionRulesForSensor.mp inside).1 .motion ts
  · exact .of_finished finished _ _

theorem evaluateActualStaleness_lasts (listed : rule ∈ env.topology.motionRules) (ts : Instant) :
    Keeps (LastsOrFinished rule session) (env.evaluateActualStaleness ts) := by
  unfold evaluateActualStaleness
  intro past runtime lasts
  refine Keeps.andThen (apart_lasts rfl) ?_ past runtime lasts
  exact Keeps.forEach _ fun other member =>
    ruleVacated_lasts listed (List.mem_filter.mp member).1 .system ts

/-- No event ends a session but by closing it. -/
theorem handleEvent_lasts (listed : rule ∈ env.topology.motionRules) (event : Event)
    {runtime : Runtime} (held : runtime.world.SessionsHeld env.topology)
    (live : runtime.world.motionSession rule = some session) :
    LastsOrFinished rule session (env.handleEvent event runtime).2
      (env.handleEvent event runtime).1 := by
  have plain : ∀ operation : Operation,
      operation.Plain env.topology ∧ operation.changesSessions = false →
        Keeps (fun past (reached : Runtime) => reached.world.SessionsHeld env.topology ∧
          LastsOrFinished rule session past reached) (env.perform operation) :=
    fun operation kind past reached holds =>
      ⟨run_sessionsHeld kind.1 holds.1, apart_lasts kind.2 past reached holds.2⟩
  have keeps : Keeps (fun past (reached : Runtime) => reached.world.SessionsHeld env.topology ∧
      LastsOrFinished rule session past reached) (env.handleEvent event) := by
    refine handleEvent_keeps_reports
      (fun operation handled => plain operation ⟨handled.1, handled.2.2.1⟩) event
      (fun _ _ _ _ _ => plain _ ⟨⟨trivial, rfl⟩, rfl⟩) ?_ ?_
      fun _ _ => handleHeatingTick_keeps plain fun _ heating =>
        ⟨⟨⟨heating, rfl⟩, rfl⟩, ⟨⟨heating, rfl⟩, rfl⟩, ⟨⟨heating, rfl⟩, rfl⟩⟩
    · exact fun sensor occupied illuminance received ts _ past reached holds =>
        ⟨handleOccupancy_held sensor occupied illuminance received ts holds.1,
          handleOccupancy_lasts listed sensor occupied illuminance received ts holds.1 holds.2⟩
    · exact fun ts _ past reached holds => ⟨evaluateActualStaleness_held ts holds.1,
        evaluateActualStaleness_lasts listed ts past reached holds.2⟩
  exact (keeps [] runtime ⟨held, .inl live⟩).2

end Env

/-! ## Readings -/

namespace Operation

/-- The operation takes in a report of the sensor. -/
def reads (sensor : String) : Operation → Bool
  | observeSensor other _ _ _ _ => other == sensor
  | _ => false

/-- The operation finds a reading of a time too old. -/
def outdates (since : Instant) : Operation → Bool
  | ageActuals now => decide (motionSensorStaleThreshold ≤ durationSince now since)
  | _ => false

theorem reads_of_blind {operation : Operation} (other : operation.changesSensors = false)
    (sensor : String) (since : Instant) :
    operation.reads sensor = false ∧ operation.outdates since = false := by
  cases operation with
  | observeSensor sensor occupied illuminance received ts => cases other
  | ageActuals now => cases other
  | _ => exact ⟨rfl, rfl⟩

end Operation

/-- What an event does to what sensors report. -/
def Event.senses : Event → Option Operation
  | occupancy sensor occupied illuminance received ts =>
      some (.observeSensor sensor occupied illuminance received ts)
  | tick ts => some (.ageActuals ts)
  | _ => none

/-- Each report of a sensor is taken in when it arrives, readings age when the clock ticks, and no
other event touches them. -/
theorem Env.handleEvent_senses {env : Env} (event : Event) (runtime : Runtime)
    {operation : Operation} (changes : operation.changesSensors = true) :
    (∃ record ∈ (env.handleEvent event runtime).2, record.operation = operation) ↔
      event.senses = some operation := by
  constructor
  · rintro ⟨record, member, rfl⟩
    have performed : ∀ operation : Operation, (operation.changesSensors = true →
        event.senses = some operation) → Keeps (fun past (_ : Runtime) => ∀ record ∈ past,
          record.operation.changesSensors = true → event.senses = some record.operation)
            (env.perform operation) := by
      intro operation allowed past reached holds record member
      rcases List.mem_append.mp member with earlier | last
      · exact holds record earlier
      · rw [List.mem_singleton.mp last]
        exact allowed
    have blind : ∀ operation : Operation, operation.changesSensors = false →
        Keeps (fun past (_ : Runtime) => ∀ record ∈ past,
          record.operation.changesSensors = true → event.senses = some record.operation)
            (env.perform operation) :=
      fun operation none => performed operation fun changes => by cases none.symm.trans changes
    have keeps : Keeps (fun past (_ : Runtime) => ∀ record ∈ past,
        record.operation.changesSensors = true → event.senses = some record.operation)
          (env.handleEvent event) := by
      refine handleEvent_keeps_reports (fun operation handled =>
        blind operation (Operation.changesSensors_eq_false handled.1.2)) event
          (fun _ _ _ _ _ => blind _ rfl) ?_ ?_
          fun ts _ => handleHeatingTick_keeps blind fun config _ => ⟨rfl, rfl, rfl⟩
      · rintro sensor occupied illuminance received ts rfl
        exact handleOccupancy_keeps_reading (fun operation _ _ none => blind operation none)
          sensor occupied illuminance received ts (performed _ fun _ => rfl)
      · rintro ts rfl
        exact evaluateActualStaleness_keeps_ageing (fun operation _ _ none => blind operation none)
          ts (performed _ fun _ => rfl)
    exact keeps [] runtime (by simp) record member changes
  · intro senses
    cases event with
    | occupancy sensor occupied illuminance received ts =>
        cases senses
        exact ⟨_, List.mem_append_left _ (List.mem_singleton_self _), rfl⟩
    | tick ts =>
        cases senses
        have aged : ∀ reached : Runtime, ∃ record ∈ (env.evaluateActualStaleness ts reached).2,
            record.operation = .ageActuals ts :=
          fun _ => ⟨_, List.mem_append_left _ (List.mem_singleton_self _), rfl⟩
        unfold handleEvent handleTick
        simp only [andThen_snd]
        obtain ⟨record, member, same⟩ := aged _
        refine ⟨record, ?_, same⟩
        exact List.mem_append_right _ (List.mem_append_right _ (List.mem_append_right _
          (List.mem_append_left _ member)))
    | _ => cases senses

/-- The last report of a sensor says whether it is occupied and came at a time, and it is stale when
a tick since then has found it too old. -/
def LastReading (history : List Record) (sensor : String) (occupied stale : Bool)
    (since : Instant) : Prop :=
  ∃ past record later, history = past ++ record :: later ∧
    (∃ illuminance received,
      record.operation = .observeSensor sensor occupied illuminance received since) ∧
    (∀ other ∈ later, other.operation.reads sensor = false) ∧
    stale = later.any (·.operation.outdates since)

theorem LastReading.concat {history : List Record} {sensor : String} {occupied stale : Bool}
    {since : Instant} (last : LastReading history sensor occupied stale since) {record : Record}
    (other : record.operation.reads sensor = false) :
    LastReading (history ++ [record]) sensor occupied
      (stale || record.operation.outdates since) since := by
  obtain ⟨past, reported, later, split, reading, silent, aged⟩ := last
  refine ⟨past, reported, later ++ [record], ?_, reading, ?_, ?_⟩
  · rw [split, List.append_assoc, List.cons_append]
  · intro entry member
    rcases List.mem_append.mp member with member | member
    · exact silent entry member
    · rw [List.mem_singleton.mp member, other]
  · rw [aged, List.any_append, List.any_cons, List.any_nil, Bool.or_false]

/-- Every stored reading is the last one that its sensor reported. -/
def WorldState.ReadingsReported (history : List Record) (world : WorldState) : Prop :=
  ∀ (sensor : String) (entity : MotionSensorEntity) (reading : MotionActual) (stale : Bool)
    (since : Instant), world.motionSensors[sensor]? = some entity →
      entity.actual = .known reading stale since →
        LastReading history sensor reading.occupied stale since

/-- A reading only becomes stale, once it is too old. -/
theorem MotionSensorEntity.known_of_age {entity : MotionSensorEntity} {now since : Instant}
    {reading : MotionActual} {stale : Bool}
    (known : (entity.age now).actual = .known reading stale since) :
    ∃ before, entity.actual = .known reading before since ∧
      stale = (before || decide (motionSensorStaleThreshold ≤ durationSince now since)) := by
  unfold age at known
  cases actual : entity.actual with
  | unknown =>
      rw [actual] at known
      cases known
  | known value before time =>
      rw [actual] at known
      cases before with
      | true =>
          cases known
          exact ⟨true, rfl, rfl⟩
      | false =>
          change (if durationSince now time ≥ motionSensorStaleThreshold then
            TassActual.known value true time else .known value false time) = _ at known
          split_ifs at known with old
          · cases known
            exact ⟨false, rfl, by simpa using old⟩
          · cases known
            exact ⟨false, rfl, by simpa using old⟩

theorem WorldState.readingsReported_kept :
    KeptByOperations fun _ history runtime => runtime.world.ReadingsReported history where
  launch topology sensor entity reading stale since stored := by
    simp at stored
  operation env operation past runtime admissible follows reported := by
    intro sensor entity reading stale since stored known
    cases changes : operation.changesSensors with
    | false =>
        rw [Operation.run_motionSensors admissible changes] at stored
        obtain ⟨silent, young⟩ := Operation.reads_of_blind changes sensor since
        rw [← Bool.or_false stale, ← young]
        exact (reported sensor entity reading stale since stored known).concat silent
    | true =>
        cases operation with
        | observeSensor other occupied illuminance received ts =>
            change (runtime.world.modifyMotionSensor other _).motionSensors[sensor]? = _ at stored
            unfold modifyMotionSensor at stored
            rw [OrderedMap.getElem?_upsert] at stored
            split at stored
            · rename_i same
              subst same
              cases stored
              cases known
              exact ⟨past, _, [], rfl, ⟨illuminance, received, rfl⟩, by simp, rfl⟩
            · rename_i different
              have silent : (Operation.observeSensor other occupied illuminance received ts).reads
                  sensor = false := beq_eq_false_iff_ne.mpr different
              rw [← Bool.or_false stale]
              exact (reported sensor entity reading stale since stored known).concat silent
        | ageActuals now =>
            change (OrderedMap.mapValues runtime.world.motionSensors _)[sensor]? = _ at stored
            rw [OrderedMap.getElem?_mapValues] at stored
            obtain ⟨older, before, rfl⟩ := Option.map_eq_some_iff.mp stored
            obtain ⟨fresh, was, rfl⟩ := MotionSensorEntity.known_of_age known
            exact (reported sensor older reading fresh since before was).concat rfl
        | _ => cases changes

/-! ## Runs -/

theorem WorldState.sessionsFit_kept :
    KeptByOperations fun topology _ runtime => runtime.world.SessionsFit topology where
  launch topology := by
    intro rule _ session live
    cases live
  operation env operation past runtime admissible _ fit := Env.run_sessionsFit admissible fit

theorem WorldState.sessionsHeld_kept :
    KeptInState fun topology runtime => runtime.world.SessionsHeld topology where
  launch topology := by
    intro rule _ live
    cases live
  plain env operation runtime plain held := Env.run_sessionsHeld plain held
  occupancy env sensor occupied illuminance received ts runtime held :=
    Env.handleOccupancy_held sensor occupied illuminance received ts held
  staleness env ts runtime held := Env.evaluateActualStaleness_held ts held

/-- An invariant that every operation keeps where sessions fit, and that plain operations keep
where sessions are also held, holds along with both. -/
theorem KeptBySessions.handlers {inv : Topology → List Record → Runtime → Prop}
    (launch : ∀ topology, inv topology [] {})
    (plain : ∀ (env : Env) (operation : Operation) (past : List Record) (runtime : Runtime),
      operation.Plain env.topology → env.Follows past →
        runtime.world.SessionsHeld env.topology → runtime.world.SessionsFit env.topology →
        inv env.topology past runtime →
          inv env.topology (past ++ [{ env, before := runtime, operation }])
            (operation.run env runtime).1)
    (sensing : ∀ (env : Env) (operation : Operation) (past : List Record) (runtime : Runtime),
      operation.Admissible env.topology → operation.followsSensors → env.Follows past →
        runtime.world.SessionsFit env.topology → inv env.topology past runtime →
          inv env.topology (past ++ [{ env, before := runtime, operation }])
            (operation.run env runtime).1) :
    KeptByHandlers fun topology past runtime => runtime.world.SessionsHeld topology ∧
      runtime.world.SessionsFit topology ∧ inv topology past runtime := by
  refine WorldState.sessionsHeld_kept.guards ?_ ?_ ?_
  · exact fun topology => ⟨WorldState.sessionsFit_kept.launch topology, launch topology⟩
  · rintro env operation past runtime plainOp follows held ⟨fit, holds⟩
    exact ⟨Env.run_sessionsFit plainOp.1 fit,
      plain env operation past runtime plainOp follows held fit holds⟩
  · rintro env operation past runtime admissible follower follows ⟨fit, holds⟩
    exact ⟨Env.run_sessionsFit admissible fit,
      sensing env operation past runtime admissible follower follows fit holds⟩

/-- No session is stranded: after every input of every run a sensor of its rule that is fresh and
reports occupied holds it, that is, one whose last report said so and was not found too old by a
tick since, and it claims some of its target's lights. -/
theorem Run.session_held {history : List Record} {daemon : Daemon} (run : Run history daemon)
    {rule : ResolvedMotionRule} (listed : rule ∈ daemon.processor.automation.topology.motionRules)
    {session : MotionSession}
    (live : daemon.processor.runtime.world.motionSession rule = some session) :
    (∃ sensor ∈ rule.sensors, ∃ entity,
      daemon.processor.runtime.world.motionSensors[sensor]? = some entity ∧
        entity.actual.freshness = .fresh ∧
        (∃ reading, entity.actual.value = some reading ∧ reading.occupied = true) ∧
        ∃ since, entity.actual.since = some since ∧ LastReading history sensor true false since) ∧
      session.claimed.Nonempty ∧
      ∀ device ∈ session.claimed, ∃ light ∈ session.target.lights, light.device = device := by
  have fits := run.invariant_of_operations WorldState.sessionsFit_kept rule listed session live
  have held := (run.invariant WorldState.sessionsHeld_kept.handlers).2 rule listed
    (by rw [live]; rfl)
  refine ⟨?_, fits.claimed, fits.inside⟩
  obtain ⟨sensor, lists, occupied⟩ := List.any_eq_true.mp held
  obtain ⟨entity, stored, occupied⟩ := (Option.any_eq_true _ _).mp occupied
  unfold MotionSensorEntity.isOccupied at occupied
  rw [Bool.and_eq_true, beq_iff_eq, Option.any_eq_true] at occupied
  obtain ⟨fresh, reading, value, present⟩ := occupied
  refine ⟨sensor, lists, entity, stored, fresh, ⟨reading, value, present⟩, ?_⟩
  have reported := run.invariant_of_operations WorldState.readingsReported_kept sensor entity
  cases actual : entity.actual with
  | unknown =>
      rw [actual] at value
      cases value
  | known other stale since =>
      rw [actual] at value fresh
      cases value
      cases stale with
      | true => cases fresh
      | false =>
          have last := reported reading false since stored actual
          rw [present] at last
          exact ⟨since, rfl, last⟩

/-- Somebody enters the study: its session claims the lamp. -/
theorem Run.session_held_study : ∃ (history : List Record) (daemon : Daemon)
    (session : MotionSession), Run history daemon ∧
      daemon.processor.runtime.world.motionSession (House.studyMotion .offOnly) = some session ∧
        session.claimed.Nonempty := by
  obtain ⟨daemon, history, run, topology, live⟩ := House.played .offOnly []
    [(0, .start), (1, .event (.occupancy "eye" true none none (Duration.fromSecs 1)))]
    (fun reached => reached.1.processor.runtime.world.motionSession (House.studyMotion .offOnly))
    (some ⟨"day", ⟨some 0, [House.lamp]⟩, {0}⟩) (by decide +kernel)
  exact ⟨history, daemon, _, run, live,
    (Run.session_held run (by rw [topology]; exact List.mem_cons_self) live).2.1⟩

end MqttController
