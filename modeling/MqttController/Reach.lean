import MqttController.Daemon

/-!
# Invariants of runs

What every operation keeps is kept by every event, by startup and by every command, and so holds in
every state that can be reached.  Sensor reports and their ageing may break an invariant until the
sessions they end are closed; such an invariant is shown for the two handlers as a whole.
-/

namespace MqttController

open Emission

namespace Operation

/-- The operation is admissible and does not follow motion sensors. -/
def Plain (topology : Topology) (operation : Operation) : Prop :=
  operation.Admissible topology ∧ operation.followsSensors = false

/-- The operation is one that handlers perform, the two that follow sensors, plug reports and
heating ticks apart. -/
def Handled (topology : Topology) (operation : Operation) : Prop :=
  operation.Plain topology ∧ operation.reportsPlug = false ∧ operation.changesSessions = false ∧
    operation.controlsRelays = false

/-- The operation is plain and does not change what is known of button presses. -/
def Apart (topology : Topology) (operation : Operation) : Prop :=
  operation.Plain topology ∧ operation.changesPresses = false

end Operation

namespace Env

variable {env : Env} {inv : List Record → Runtime → Prop}

/-! ## Handlers that leave motion sensors alone -/

theorem bindingOperations_plain (device : DeviceIdx) (button : String) (gesture : Gesture)
    (ts : Instant) {operation : Operation}
    (member : operation ∈ env.bindingOperations device button gesture ts) :
    operation.Plain env.topology := by
  obtain ⟨binding, listed, rfl⟩ := List.mem_map.mp member
  exact ⟨Or.inl ⟨binding, (List.mem_filter.mp listed).1, rfl⟩, rfl⟩

theorem performAll_keeps {kind : Operation → Prop}
    (keep : ∀ operation : Operation, kind operation → Keeps inv (env.perform operation))
    {operations : List Operation} (each : ∀ operation ∈ operations, kind operation) :
    Keeps inv (env.performAll operations) :=
  Keeps.forEach operations fun operation member => keep operation (each operation member)

section Kinds

variable {kind : Operation → Prop}
  (keep : ∀ operation : Operation, kind operation → Keeps inv (env.perform operation))

include keep

theorem handleHeatingTick_keeps
    (heats : ∀ config, env.topology.heatingConfig = some config →
      kind (.beginHeatingTick config) ∧ kind (.controlValves config) ∧
        kind (.controlRelays config)) : Keeps inv env.handleHeatingTick := by
  unfold handleHeatingTick
  split
  · exact Keeps.skip
  · rename_i config heating
    obtain ⟨begins, valves, relays⟩ := heats config heating
    refine performAll_keeps keep fun operation member => ?_
    simp only [List.mem_cons, List.not_mem_nil, or_false] at member
    rcases member with rfl | rfl | rfl
    · exact begins
    · exact valves
    · exact relays

theorem handleHeatingReport_keeps {operation : HeatingConfig → Operation}
    (each : ∀ config, env.topology.heatingConfig = some config → kind (operation config)) :
    Keeps inv (env.handleHeatingReport operation) := by
  unfold handleHeatingReport
  split
  · exact Keeps.skip
  · rename_i config heating
    exact keep _ (each config heating)

theorem startup_keeps (ts : Instant)
    (turnsOff : ∀ rule ∈ env.topology.motionRules, kind (.startupTurnOff rule ts))
    (arms : kind (.armKillSwitches ts)) : Keeps inv (env.startup ts) := by
  unfold startup
  refine performAll_keeps keep fun operation member => ?_
  rcases List.mem_append.mp member with member | member
  · obtain ⟨rule, listed, rfl⟩ := List.mem_map.mp member
    exact turnsOff rule listed
  · rw [List.mem_singleton.mp member]
    exact arms

end Kinds

section Buttons

variable {kind : Operation → Prop}
  (keep : ∀ operation : Operation, kind operation → Keeps inv (env.perform operation))
  (pressing : ∀ operation : Operation, operation.changesPresses = true → kind operation)
  (bound : ∀ device button gesture ts, ∀ operation ∈ env.bindingOperations device button gesture ts,
    kind operation)

include keep pressing bound

theorem handleDoubleTap_keeps (key : String × String) (device : DeviceIdx) (ts : Instant) :
    Keeps inv (env.handleDoubleTap key device ts) := by
  unfold handleDoubleTap
  intro past runtime holds
  have dropped : ∀ operation ∈ (if (runtime.world.pendingPresses[key]?).isSome then
      [Operation.dropPress key] else []), kind operation := by
    intro operation member
    split at member
    · rw [List.mem_singleton] at member
      subst member
      exact pressing _ rfl
    · cases member
  dsimp only
  split
  · exact performAll_keeps keep dropped past runtime holds
  · refine performAll_keeps keep (fun operation member => ?_) past runtime holds
    rcases List.mem_append.mp member with member | member
    · exact dropped operation member
    · rcases List.mem_cons.mp member with rfl | member
      · exact pressing _ rfl
      · exact bound _ _ _ _ _ member

theorem flushStalePress_keeps (key : String × String) (device : DeviceIdx) :
    Keeps inv (env.flushStalePress key device) := by
  unfold flushStalePress
  intro past runtime holds
  dsimp only
  split
  · exact Keeps.skip past runtime holds
  · refine performAll_keeps keep (fun operation member => ?_) past runtime holds
    rcases List.mem_cons.mp member with rfl | member
    · exact pressing _ rfl
    · split at member
      · cases member
      · exact bound _ _ _ _ _ member

theorem deferPress_keeps (key : String × String) (device : DeviceIdx) (ts : Instant) :
    Keeps inv (env.deferPress key device ts) := by
  unfold deferPress
  intro past runtime holds
  refine performAll_keeps keep (fun operation member => ?_) past runtime holds
  rcases List.mem_append.mp member with member | member
  · split at member
    · exact bound _ _ _ _ _ member
    · cases member
  · rw [List.mem_singleton] at member
    subst member
    exact pressing _ rfl

theorem handleHwDoubleTapDeferredPress_keeps (key : String × String) (device : DeviceIdx)
    (ts : Instant) : Keeps inv (env.handleHwDoubleTapDeferredPress key device ts) := by
  unfold handleHwDoubleTapDeferredPress
  intro past runtime holds
  dsimp only
  split
  · exact Keeps.skip past runtime holds
  · exact (flushStalePress_keeps keep pressing bound key device).andThen
      (deferPress_keeps keep pressing bound key device ts) past runtime holds

theorem handleSoftDoubleTapPress_keeps (key : String × String) (device : DeviceIdx)
    (ts : Instant) : Keeps inv (env.handleSoftDoubleTapPress key device ts) := by
  unfold handleSoftDoubleTapPress
  intro past runtime holds
  have fresh : kind (Operation.deferPress key (env.deferredPress key ts false)) := pressing _ rfl
  dsimp only
  split
  · exact keep _ fresh past runtime holds
  · split
    · refine performAll_keeps keep (fun operation member => ?_) past runtime holds
      rcases List.mem_cons.mp member with rfl | member
      · exact pressing _ rfl
      · exact bound _ _ _ _ _ member
    · refine performAll_keeps keep (fun operation member => ?_) past runtime holds
      rcases List.mem_append.mp member with member | member
      · rcases List.mem_cons.mp member with rfl | member
        · exact pressing _ rfl
        · exact bound _ _ _ _ _ member
      · rw [List.mem_singleton] at member
        subst member
        exact fresh

theorem handleButtonPress_keeps (device button : String) (gesture : Gesture) (ts : Instant) :
    Keeps inv (env.handleButtonPress device button gesture ts) := by
  have bindings : ∀ idx gesture,
      Keeps inv (env.performAll (env.bindingOperations idx button gesture ts)) := fun _ _ =>
    performAll_keeps keep fun _ member => bound _ _ _ _ _ member
  unfold handleButtonPress
  split
  · exact Keeps.skip
  · rename_i idx _
    cases gesture with
    | doubleTap => exact handleDoubleTap_keeps keep pressing bound _ idx ts
    | press =>
        dsimp only
        split_ifs
        · exact handleHwDoubleTapDeferredPress_keeps keep pressing bound _ idx ts
        · exact handleSoftDoubleTapPress_keeps keep pressing bound _ idx ts
        · exact bindings idx .press
    | softDoubleTap => exact Keeps.skip
    | hold => exact bindings idx .hold
    | holdRelease => exact bindings idx .holdRelease

theorem flushPendingPresses_keeps (ts : Instant) : Keeps inv (env.flushPendingPresses ts) := by
  unfold flushPendingPresses
  intro past runtime holds
  refine performAll_keeps keep (fun operation member => ?_) past runtime holds
  obtain ⟨entry, _, member⟩ := List.mem_flatMap.mp member
  unfold flushPress at member
  rcases List.mem_cons.mp member with rfl | member
  · exact pressing _ rfl
  · split at member
    · cases member
    · split at member
      · cases member
      · exact bound _ _ _ _ _ member

end Buttons

theorem handled_of_changesPresses {topology : Topology} (operation : Operation)
    (changes : operation.changesPresses = true) : operation.Handled topology := by
  cases operation with
  | deferPress key press => exact ⟨⟨trivial, rfl⟩, rfl, rfl, rfl⟩
  | dropPress key => exact ⟨⟨trivial, rfl⟩, rfl, rfl, rfl⟩
  | noteDoubleTap key ts => exact ⟨⟨trivial, rfl⟩, rfl, rfl, rfl⟩
  | _ => cases changes

theorem bindingOperations_handled (device : DeviceIdx) (button : String) (gesture : Gesture)
    (ts : Instant) (operation : Operation)
    (member : operation ∈ env.bindingOperations device button gesture ts) :
    operation.Handled env.topology := by
  have plain := bindingOperations_plain device button gesture ts member
  obtain ⟨binding, _, rfl⟩ := List.mem_map.mp member
  exact ⟨plain, rfl, rfl, rfl⟩

section Operations

variable (keep : ∀ operation : Operation, operation.Handled env.topology →
  Keeps inv (env.perform operation))

include keep

theorem evaluateAtTriggers_keeps (ts : Instant) : Keeps inv (env.evaluateAtTriggers ts) := by
  refine Keeps.forEach _ fun binding effective => ?_
  unfold evaluateAtTrigger
  intro past runtime holds
  split
  · exact Keeps.skip past runtime holds
  · dsimp only
    split_ifs
    · exact Keeps.skip past runtime holds
    · refine performAll_keeps keep (fun operation member => ?_) past runtime holds
      rcases List.mem_pair.mp member with rfl | rfl
      · exact ⟨⟨trivial, rfl⟩, rfl, rfl, rfl⟩
      · exact ⟨⟨Automation.effectiveBindings_provided effective, rfl⟩, rfl, rfl, rfl⟩
    · exact keep (.clearTimedAction binding.name) ⟨⟨trivial, rfl⟩, rfl, rfl, rfl⟩ past runtime holds

theorem handleTick_keeps (ts : Instant)
    (staleness : Keeps inv (env.evaluateActualStaleness ts))
    (heating : Keeps inv env.handleHeatingTick) : Keeps inv (env.handleTick ts) := by
  unfold handleTick
  refine (flushPendingPresses_keeps keep handled_of_changesPresses
    bindingOperations_handled ts).andThen ?_
  refine (evaluateAtTriggers_keeps keep ts).andThen ?_
  refine Keeps.andThen (performAll_keeps keep fun operation member => ?_) ?_
  · rcases List.mem_pair.mp member with rfl | rfl
    · exact ⟨⟨trivial, rfl⟩, rfl, rfl, rfl⟩
    · exact ⟨⟨trivial, rfl⟩, rfl, rfl, rfl⟩
  · exact staleness.andThen heating

/-- Every event keeps what the operations of handlers, the two handlers that follow sensors and the
heating tick keep; only the event of a plug report performs one, and only its own event calls each
of the handlers. -/
theorem handleEvent_keeps_reports (event : Event)
    (reports : ∀ device on power ts, event.reportsPlug device →
      Keeps inv (env.perform (.observePlug device on power ts)))
    (occupancy : ∀ sensor occupied illuminance received ts,
      event = .occupancy sensor occupied illuminance received ts →
        Keeps inv (env.handleOccupancy sensor occupied illuminance received ts))
    (staleness : ∀ ts, event = .tick ts → Keeps inv (env.evaluateActualStaleness ts))
    (heating : ∀ ts, event = .tick ts → Keeps inv env.handleHeatingTick) :
    Keeps inv (env.handleEvent event) := by
  cases event with
  | buttonPress device button gesture ts =>
      exact handleButtonPress_keeps keep handled_of_changesPresses bindingOperations_handled _ _ _ _
  | occupancy sensor occupied illuminance received ts => exact occupancy _ _ _ _ _ rfl
  | groupState group on ts => exact keep _ ⟨⟨trivial, rfl⟩, rfl, rfl, rfl⟩
  | lightState device on brightness colorTemp colorXy ts =>
      exact keep _ ⟨⟨trivial, rfl⟩, rfl, rfl, rfl⟩
  | plugState device on power ts => exact reports _ _ _ _ rfl
  | plugPowerUpdate device watts ts => exact reports _ _ _ _ rfl
  | powerMeterState device power energy ts => exact keep _ ⟨⟨trivial, rfl⟩, rfl, rfl, rfl⟩
  | trvState device temperature demand running setpoint operating system battery ts =>
      exact handleHeatingReport_keeps keep fun config heating => ⟨⟨heating, rfl⟩, rfl, rfl, rfl⟩
  | wallThermostatState device relayOn temperature operating ts =>
      exact handleHeatingReport_keeps keep fun config heating => ⟨⟨heating, rfl⟩, rfl, rfl, rfl⟩
  | tick ts => exact handleTick_keeps keep ts (staleness ts rfl) (heating ts rfl)

end Operations

/-- Every event keeps what plain operations and the two handlers that follow sensors keep. -/
theorem handleEvent_keeps
    (plain : ∀ operation : Operation, operation.Plain env.topology →
      Keeps inv (env.perform operation))
    (occupancy : ∀ sensor occupied illuminance received ts,
      Keeps inv (env.handleOccupancy sensor occupied illuminance received ts))
    (staleness : ∀ ts, Keeps inv (env.evaluateActualStaleness ts)) (event : Event) :
    Keeps inv (env.handleEvent event) :=
  handleEvent_keeps_reports (fun operation handled => plain operation handled.1) event
    (fun _ _ _ _ _ => plain _ ⟨trivial, rfl⟩)
    (fun sensor occupied illuminance received ts _ =>
      occupancy sensor occupied illuminance received ts)
    (fun ts _ => staleness ts) fun _ _ => handleHeatingTick_keeps plain fun _ heating =>
      ⟨⟨heating, rfl⟩, ⟨heating, rfl⟩, ⟨heating, rfl⟩⟩

/-! ## Handlers that follow motion sensors -/

section Sensors

variable (sessions : ∀ operation : Operation, operation.Admissible env.topology →
  operation.followsSensors → operation.changesSensors = false → Keeps inv (env.perform operation))

include sessions

theorem ruleOccupied_keeps (illuminance : Option Nat) (ts : Instant) {rule : ResolvedMotionRule}
    (listed : rule ∈ env.topology.motionRules) (wasActive : Bool) :
    Keeps inv (env.ruleOccupied illuminance ts (rule, wasActive)) := by
  unfold ruleOccupied
  intro past runtime holds
  dsimp only
  split
  · exact sessions (.startSession rule illuminance ts) listed rfl rfl past runtime holds
  · split
    · refine Keeps.forEach _ (fun operation member => ?_) past runtime holds
      rcases List.mem_pair.mp member with rfl | rfl
      · exact sessions _ listed rfl rfl
      · exact sessions _ listed rfl rfl
    · exact Keeps.skip past runtime holds

theorem ruleVacated_keeps (owner : Owner) (ts : Instant) {rule : ResolvedMotionRule}
    (listed : rule ∈ env.topology.motionRules) : Keeps inv (env.ruleVacated owner ts rule) := by
  unfold ruleVacated
  intro past runtime holds
  dsimp only
  split
  · exact Keeps.skip past runtime holds
  · exact sessions (.finishSession rule ts owner) listed rfl rfl past runtime holds

theorem handleOccupancy_keeps_reading (sensor : String) (occupied : Bool)
    (illuminance received : Option Nat) (ts : Instant)
    (reading : Keeps inv (env.perform (.observeSensor sensor occupied illuminance received ts))) :
    Keeps inv (env.handleOccupancy sensor occupied illuminance received ts) := by
  unfold handleOccupancy
  intro past runtime holds
  refine Keeps.andThen reading ?_ past runtime holds
  split_ifs
  · exact Keeps.skip
  · refine Keeps.forEach _ fun entry member => ?_
    obtain ⟨rule, listed, rfl⟩ := List.mem_map.mp member
    exact ruleOccupied_keeps sessions _ _ (List.mem_filter.mp listed).1 _
  · exact Keeps.forEach _ fun rule member =>
      ruleVacated_keeps sessions _ _ (List.mem_filter.mp member).1

theorem evaluateActualStaleness_keeps_ageing (ts : Instant)
    (ageing : Keeps inv (env.perform (.ageActuals ts))) :
    Keeps inv (env.evaluateActualStaleness ts) := by
  unfold evaluateActualStaleness
  intro past runtime holds
  refine Keeps.andThen ageing ?_ past runtime holds
  exact Keeps.forEach _ fun rule member =>
    ruleVacated_keeps sessions _ _ (List.mem_filter.mp member).1

end Sensors

section Following

variable (operations : ∀ operation : Operation, operation.Admissible env.topology →
  operation.followsSensors → Keeps inv (env.perform operation))

include operations

theorem handleOccupancy_keeps (sensor : String) (occupied : Bool)
    (illuminance received : Option Nat) (ts : Instant) :
    Keeps inv (env.handleOccupancy sensor occupied illuminance received ts) :=
  handleOccupancy_keeps_reading
    (fun operation listed follows _ => operations operation listed follows)
    sensor occupied illuminance received ts (operations _ trivial rfl)

theorem evaluateActualStaleness_keeps (ts : Instant) :
    Keeps inv (env.evaluateActualStaleness ts) :=
  evaluateActualStaleness_keeps_ageing
    (fun operation listed follows _ => operations operation listed follows) ts
    (operations _ trivial rfl)

end Following

end Env

/-! ## Commands -/

/-- The command sets, changes or cancels the boost of a valve. -/
def ControlCommand.boosts (command : ControlCommand) (device : String) : Prop :=
  match command with
  | startValveBoost other _ _ => other = device
  | setValveBoostTarget other _ => other = device
  | cancelValveBoost other => other = device
  | _ => False

namespace Automation

theorem checked_map_ok {α β : Type} {check : Except String α} {build : α → β} {result : β}
    (planned : (checked check).map build = .ok result) : ∃ value, result = build value := by
  cases check with
  | error error => cases planned
  | ok value =>
      cases planned
      exact ⟨value, rfl⟩

/-- What an accepted command leads to: the automation it puts in force and the operations it
performs there. -/
inductive Accepts (automation : Automation) (clock : ClockReading) :
    ControlCommand → Automation → List Operation → Prop
  /-- A command that only acts. -/
  | act {command : ControlCommand} {operation : Operation} (acts : command.saves = none)
      (apart : operation.Apart automation.topology)
      (unbound : operation.executed = none ∧ operation.noted = none ∧
        operation.controlsRelays = false) :
      Accepts automation clock command automation [operation]
  | motion (room : String) (enabled : Bool) :
      Accepts automation clock (.setMotionEnabled room enabled)
        (automation.setMotionEnabled room enabled)
        (if enabled then [] else [.blockMotion room clock.now])
  | heatDemand (device : String) (enabled : Bool) :
      Accepts automation clock (.setHeatDemandEnabled device enabled)
        (automation.setHeatDemandEnabled device enabled) []
  | boost {command : ControlCommand} {device : String} (boost : Option ValveBoost)
      (boosts : command.boosts device) :
      Accepts automation clock command (automation.applyValveBoost clock device boost) []
  | valve (device : String) (value : Option TemperatureSchedule) :
      Accepts automation clock (.changeValveSchedule device value)
        (automation.applyValveSchedule device value) []
  | roomReset (room : String) :
      Accepts automation clock (.changeRoomSchedule room none) (automation.eraseRoomOverride room)
        [.forgetCycle room]
  | room {room : String} {value : RoomScheduleOverride} {steps : NameMap (List ResolvedSwitchStep)}
      (accepted : validateRoomOverride automation.topology.toTopologyTables automation.location
        room value = .ok steps) :
      Accepts automation clock (.changeRoomSchedule room (some value))
        (automation.insertRoomOverride accepted) [.forgetCycle room]
  | ruleReset (rule : String) :
      Accepts automation clock (.changeMotionSchedule rule none)
        (automation.eraseMotionOverride rule) []
  | rule {rule : String} {slots : NameMap Slot}
      (accepted : validateMotionOverride automation.topology.toTopologyTables automation.location
        rule slots = .ok ()) :
      Accepts automation clock (.changeMotionSchedule rule (some slots))
        (automation.insertMotionOverride accepted) []
  | timeReset (binding : String) :
      Accepts automation clock (.changeTimedActionTime binding none)
        (automation.eraseTimedAction binding) []
  | time {binding : String} {time : TimeExpr}
      (timed : validateTimedAction automation.topology.toTopologyTables binding = .ok ())
      (accepted : validateTimedActionTime automation.location time = .ok ()) :
      Accepts automation clock (.changeTimedActionTime binding (some time))
        (automation.insertTimedAction timed accepted) []
  | plugReset (device : String) :
      Accepts automation clock (.changePlugSchedule device none)
        (automation.erasePlugOverride device) [.replacePlugBindings device clock.now]
  | plug {device : String} {value : PlugScheduleOverride} {bindings : List ResolvedBinding}
      (accepted : validatePlugOverride automation.topology.toTopologyTables automation.location
        device value = .ok bindings) :
      Accepts automation clock (.changePlugSchedule device (some value))
        (automation.insertPlugOverride accepted) [.replacePlugBindings device clock.now]

variable {automation after : Automation} {clock : ClockReading} {operations : List Operation}

theorem planBoost_accepts {command : ControlCommand} {device : String}
    {boost : Except String (Option ValveBoost)} (boosts : command.boosts device)
    (planned : automation.planBoost clock device boost = .ok (after, operations)) :
    automation.Accepts clock command after operations := by
  unfold planBoost refuse at planned
  split at planned
  · cases planned
  · obtain ⟨value, same⟩ := checked_map_ok planned
    cases same
    exact .boost value boosts

theorem planValveSchedule_accepts {device : String} {value : Option TemperatureSchedule}
    (planned : automation.planValveSchedule device value = .ok (after, operations)) :
    automation.Accepts clock (.changeValveSchedule device value) after operations := by
  simp only [planValveSchedule, refuse] at planned
  split at planned
  · cases planned
  · cases planned
    exact .valve device none
  · rename_i schedule _
    cases valid : schedule.validate device with
    | error error =>
        rw [valid] at planned
        cases planned
    | ok _ =>
        rw [valid] at planned
        cases planned
        exact .valve device (some schedule)

theorem planRoomSchedule_accepts {room : String} {value : Option RoomScheduleOverride}
    (planned : automation.planRoomSchedule room value = .ok (after, operations)) :
    automation.Accepts clock (.changeRoomSchedule room value) after operations := by
  simp only [planRoomSchedule, refuse] at planned
  split at planned
  · cases planned
  · cases planned
    exact .roomReset room
  · split at planned
    · cases planned
    · cases planned
      exact .room _

theorem planMotionSchedule_accepts {rule : String} {value : Option (NameMap Slot)}
    (planned : automation.planMotionSchedule rule value = .ok (after, operations)) :
    automation.Accepts clock (.changeMotionSchedule rule value) after operations := by
  simp only [planMotionSchedule, refuse] at planned
  split at planned
  · cases planned
  · cases planned
    exact .ruleReset rule
  · split at planned
    · cases planned
    · cases planned
      exact .rule _

theorem planTimedAction_accepts {binding : String} {value : Option TimeExpr}
    (planned : automation.planTimedAction binding value = .ok (after, operations)) :
    automation.Accepts clock (.changeTimedActionTime binding value) after operations := by
  simp only [planTimedAction, refuse] at planned
  split at planned
  · cases planned
  · split at planned
    · cases planned
      exact .timeReset binding
    · split at planned
      · cases planned
      · cases planned
        exact .time _ _

theorem planPlugSchedule_accepts {device : String} {value : Option PlugScheduleOverride}
    (planned : automation.planPlugSchedule device value clock.now = .ok (after, operations)) :
    automation.Accepts clock (.changePlugSchedule device value) after operations := by
  simp only [planPlugSchedule, refuse] at planned
  split at planned
  · obtain ⟨_, same⟩ := checked_map_ok planned
    cases same
    exact .plugReset device
  · split at planned
    · cases planned
    · cases planned
      exact .plug _

theorem plan_accepts {command : ControlCommand}
    (planned : automation.plan clock command = .ok (after, operations)) :
    automation.Accepts clock command after operations := by
  cases command with
  | recallScene room sceneId =>
      simp only [plan, planRecallScene, refuse] at planned
      split at planned
      · cases planned
      · split at planned
        · cases planned
        · cases planned
          exact .act rfl ⟨⟨trivial, rfl⟩, rfl⟩ ⟨rfl, rfl, rfl⟩
  | setRoomOff room =>
      simp only [plan, planRoomOff, refuse] at planned
      split at planned
      · cases planned
      · cases planned
        exact .act rfl ⟨⟨trivial, rfl⟩, rfl⟩ ⟨rfl, rfl, rfl⟩
  | setPlugPower device on =>
      simp only [plan, planPlugPower, refuse] at planned
      split at planned
      · cases planned
      · split at planned
        · cases planned
          exact .act rfl ⟨⟨trivial, rfl⟩, rfl⟩ ⟨rfl, rfl, rfl⟩
        · cases planned
  | setMotionEnabled room enabled =>
      obtain ⟨_, same⟩ := checked_map_ok planned
      cases same
      exact .motion room enabled
  | setHeatDemandEnabled device enabled =>
      obtain ⟨_, same⟩ := checked_map_ok planned
      cases same
      exact .heatDemand device enabled
  | startValveBoost device minutes temperature => exact planBoost_accepts rfl planned
  | setValveBoostTarget device temperature => exact planBoost_accepts rfl planned
  | cancelValveBoost device => exact planBoost_accepts rfl planned
  | changeValveSchedule device value => exact planValveSchedule_accepts planned
  | changeRoomSchedule room value => exact planRoomSchedule_accepts planned
  | changeMotionSchedule rule value => exact planMotionSchedule_accepts planned
  | changeTimedActionTime binding value => exact planTimedAction_accepts planned
  | changePlugSchedule device value => exact planPlugSchedule_accepts planned

/-- A command keeps the topology and performs operations that are not about button presses. -/
theorem plan_ok {command : ControlCommand}
    (planned : automation.plan clock command = .ok (after, operations)) :
    after.topology = automation.topology ∧
      ∀ operation ∈ operations, operation.Apart automation.topology := by
  have single : ∀ operation : Operation, operation.Apart automation.topology →
      ∀ other ∈ [operation], other.Apart automation.topology := by
    intro operation apart other member
    rwa [List.mem_singleton.mp member]
  cases plan_accepts planned with
  | act acts apart => exact ⟨rfl, single _ apart⟩
  | motion room enabled =>
      refine ⟨rfl, ?_⟩
      split
      · simp
      · exact single _ ⟨⟨trivial, rfl⟩, rfl⟩
  | boost boost boosts =>
      refine ⟨?_, by simp⟩
      cases boost <;> rfl
  | roomReset room => exact ⟨rfl, single _ ⟨⟨trivial, rfl⟩, rfl⟩⟩
  | room accepted => exact ⟨rfl, single _ ⟨⟨trivial, rfl⟩, rfl⟩⟩
  | plugReset device => exact ⟨rfl, single _ ⟨⟨trivial, rfl⟩, rfl⟩⟩
  | plug accepted => exact ⟨rfl, single _ ⟨⟨trivial, rfl⟩, rfl⟩⟩
  | _ => exact ⟨rfl, by simp⟩

/-- A command neither executes a binding nor notes a timed one, and leaves the relays alone. -/
theorem plan_unbound {command : ControlCommand}
    (planned : automation.plan clock command = .ok (after, operations)) :
    ∀ operation ∈ operations, operation.executed = none ∧ operation.noted = none ∧
      operation.controlsRelays = false := by
  cases plan_accepts planned with
  | act acts apart unbound => simpa using unbound
  | motion room enabled =>
      split
      · simp
      · simp [Operation.executed, Operation.noted, Operation.controlsRelays]
  | _ => simp [Operation.executed, Operation.noted, Operation.controlsRelays]

end Automation

/-! ## Runs -/

/-- The clock is not behind any operation of the history. -/
def Env.Follows (env : Env) (past : List Record) : Prop :=
  ∀ record ∈ past, record.env.clock.now ≤ env.clock.now

namespace Env

variable {env : Env}

theorem follows_concat {past : List Record} (follows : env.Follows past) (runtime : Runtime)
    (operation : Operation) : env.Follows (past ++ [{ env, before := runtime, operation }]) := by
  intro record member
  rcases List.mem_append.mp member with member | member
  · exact follows record member
  · rw [List.mem_singleton] at member
    rw [member]

/-- Operations are performed at the time of the clock. -/
theorem follows_performAll {past : List Record} (follows : env.Follows past)
    (operations : List Operation) (runtime : Runtime) :
    env.Follows (past ++ (env.performAll operations runtime).2) := by
  have keeps : Keeps (fun past (_ : Runtime) => env.Follows past) (env.performAll operations) :=
    Keeps.forEach operations fun operation _ past runtime follows =>
      follows_concat follows runtime operation
  exact keeps past runtime follows

end Env

/-- An invariant of a topology, the history and the runtime that handlers and commands keep. -/
structure KeptByHandlers (inv : Topology → List Record → Runtime → Prop) : Prop where
  launch : ∀ topology, inv topology [] {}
  event : ∀ (env : Env) (event : Event),
    Keeps (fun past runtime => env.Follows past ∧ inv env.topology past runtime)
      (env.handleEvent event)
  operations : ∀ (env : Env) (operations : List Operation),
    (∀ operation ∈ operations, operation.Plain env.topology) →
      Keeps (fun past runtime => env.Follows past ∧ inv env.topology past runtime)
        (env.performAll operations)

/-- An invariant of the automation in force, the history and the runtime that events, startup and
commands keep.  A command puts its automation in force before it performs its operations. -/
structure KeptByInputs (inv : Automation → List Record → Runtime → Prop) : Prop where
  launch : ∀ automation, inv automation [] {}
  event : ∀ (env : Env) (event : Event),
    Keeps (fun past runtime => env.Follows past ∧ inv env.toAutomation past runtime)
      (env.handleEvent event)
  startup : ∀ env : Env,
    Keeps (fun past runtime => env.Follows past ∧ inv env.toAutomation past runtime)
      (env.startup env.clock.now)
  command : ∀ (automation : Automation) (env : Env) (command : ControlCommand)
    (operations : List Operation) (past : List Record) (runtime : Runtime),
    automation.plan env.clock command = .ok (env.toAutomation, operations) → env.Follows past →
      inv automation past runtime →
        inv env.toAutomation (past ++ (env.performAll operations runtime).2)
          (env.performAll operations runtime).1

theorem KeptByHandlers.inputs {inv : Topology → List Record → Runtime → Prop}
    (kept : KeptByHandlers inv) : KeptByInputs fun automation => inv automation.topology where
  launch automation := kept.launch automation.topology
  event := kept.event
  startup env := by
    refine kept.operations env _ fun operation member => ?_
    rcases List.mem_append.mp member with member | member
    · obtain ⟨rule, listed, rfl⟩ := List.mem_map.mp member
      exact ⟨listed, rfl⟩
    · rw [List.mem_singleton.mp member]
      exact ⟨trivial, rfl⟩
  command automation env command operations past runtime planned follows holds := by
    obtain ⟨same, apart⟩ := Automation.plan_ok planned
    exact (kept.operations env operations
      (fun operation member => by rw [same]; exact (apart operation member).1) past runtime
      ⟨follows, by rw [same]; exact holds⟩).2

/-- An invariant that every operation keeps under the automation in force, and that commands keep
although they change the automation. -/
theorem KeptByInputs.of_operations {inv : Automation → List Record → Runtime → Prop}
    (launch : ∀ automation, inv automation [] {})
    (operation : ∀ (env : Env) (operation : Operation) (past : List Record) (runtime : Runtime),
      operation.Admissible env.topology → env.Follows past → inv env.toAutomation past runtime →
        inv env.toAutomation (past ++ [{ env, before := runtime, operation }])
          (operation.run env runtime).1)
    (command : ∀ (automation : Automation) (env : Env) (command : ControlCommand)
      (operations : List Operation) (past : List Record) (runtime : Runtime),
      automation.plan env.clock command = .ok (env.toAutomation, operations) → env.Follows past →
        inv automation past runtime →
          inv env.toAutomation (past ++ (env.performAll operations runtime).2)
            (env.performAll operations runtime).1) : KeptByInputs inv := by
  have performs : ∀ (env : Env) (each : Operation), each.Admissible env.topology →
      Keeps (fun past runtime => env.Follows past ∧ inv env.toAutomation past runtime)
        (env.perform each) := by
    rintro env each admissible past runtime ⟨follows, holds⟩
    exact ⟨Env.follows_concat follows runtime each,
      operation env each past runtime admissible follows holds⟩
  refine ⟨launch, fun env event => ?_, fun env => ?_, command⟩
  · exact Env.handleEvent_keeps (fun each plain => performs env each plain.1)
      (Env.handleOccupancy_keeps fun each admissible _ => performs env each admissible)
      (Env.evaluateActualStaleness_keeps fun each admissible _ => performs env each admissible)
      event
  · exact Env.startup_keeps (performs env) env.clock.now (fun rule listed => listed) trivial

/-- An invariant that every operation keeps. -/
structure KeptByOperations (inv : Topology → List Record → Runtime → Prop) : Prop where
  launch : ∀ topology, inv topology [] {}
  operation : ∀ (env : Env) (operation : Operation) (past : List Record) (runtime : Runtime),
    operation.Admissible env.topology → env.Follows past → inv env.topology past runtime →
      inv env.topology (past ++ [{ env, before := runtime, operation }])
        (operation.run env runtime).1

namespace KeptByOperations

variable {inv : Topology → List Record → Runtime → Prop}

theorem perform (kept : KeptByOperations inv) (env : Env) (operation : Operation)
    (admissible : operation.Admissible env.topology) :
    Keeps (fun past runtime => env.Follows past ∧ inv env.topology past runtime)
      (env.perform operation) := by
  rintro past runtime ⟨follows, holds⟩
  exact ⟨Env.follows_concat follows runtime operation,
    kept.operation env operation past runtime admissible follows holds⟩

theorem handlers (kept : KeptByOperations inv) : KeptByHandlers inv where
  launch := kept.launch
  event env event :=
    Env.handleEvent_keeps (fun operation plain => kept.perform env operation plain.1)
      (Env.handleOccupancy_keeps fun operation admissible _ =>
        kept.perform env operation admissible)
      (Env.evaluateActualStaleness_keeps fun operation admissible _ =>
        kept.perform env operation admissible) event
  operations env operations plain :=
    Keeps.forEach operations fun operation member =>
      kept.perform env operation (plain operation member).1

/-- Every record of the history was made where the invariant held. -/
theorem always (kept : KeptByOperations inv) : KeptByOperations fun topology past runtime =>
    inv topology past runtime ∧ Always (fun past record =>
      record.operation.Admissible record.env.topology ∧ record.env.Follows past ∧
        inv record.env.topology past record.before) past where
  launch topology := ⟨kept.launch topology, always_nil⟩
  operation env operation past runtime admissible follows holds :=
    ⟨kept.operation env operation past runtime admissible follows holds.1,
      (always_concat_iff past _).mpr ⟨holds.2, admissible, follows, holds.1⟩⟩

end KeptByOperations

/-- A property of the state that plain operations and the two handlers that follow sensors keep. -/
structure KeptInState (good : Topology → Runtime → Prop) : Prop where
  launch : ∀ topology, good topology {}
  plain : ∀ (env : Env) (operation : Operation) (runtime : Runtime),
    operation.Plain env.topology → good env.topology runtime →
      good env.topology (operation.run env runtime).1
  occupancy : ∀ (env : Env) (sensor : String) (occupied : Bool)
    (illuminance received : Option Nat) (ts : Instant) (runtime : Runtime),
    good env.topology runtime →
      good env.topology (env.handleOccupancy sensor occupied illuminance received ts runtime).1
  staleness : ∀ (env : Env) (ts : Instant) (runtime : Runtime), good env.topology runtime →
    good env.topology (env.evaluateActualStaleness ts runtime).1

/-- An invariant that plain operations keep where a property of the state holds, and that
operations that follow sensors always keep, holds along with that property. -/
theorem KeptInState.guards {guard : Topology → Runtime → Prop}
    {inv : Topology → List Record → Runtime → Prop} (guarded : KeptInState guard)
    (launch : ∀ topology, inv topology [] {})
    (plain : ∀ (env : Env) (operation : Operation) (past : List Record) (runtime : Runtime),
      operation.Plain env.topology → env.Follows past → guard env.topology runtime →
        inv env.topology past runtime →
          inv env.topology (past ++ [{ env, before := runtime, operation }])
            (operation.run env runtime).1)
    (sensing : ∀ (env : Env) (operation : Operation) (past : List Record) (runtime : Runtime),
      operation.Admissible env.topology → operation.followsSensors → env.Follows past →
        inv env.topology past runtime →
          inv env.topology (past ++ [{ env, before := runtime, operation }])
            (operation.run env runtime).1) :
    KeptByHandlers fun topology past runtime =>
      guard topology runtime ∧ inv topology past runtime := by
  have performs : ∀ (env : Env) (operation : Operation), operation.Plain env.topology →
      Keeps (fun past runtime => env.Follows past ∧ guard env.topology runtime ∧
        inv env.topology past runtime) (env.perform operation) := by
    rintro env operation admissible past runtime ⟨follows, held, holds⟩
    exact ⟨Env.follows_concat follows runtime operation,
      guarded.plain env operation runtime admissible held,
      plain env operation past runtime admissible follows held holds⟩
  have senses : ∀ (env : Env) (operation : Operation), operation.Admissible env.topology →
      operation.followsSensors → Keeps (fun past runtime => env.Follows past ∧
        inv env.topology past runtime) (env.perform operation) := by
    rintro env operation admissible follower past runtime ⟨follows, holds⟩
    exact ⟨Env.follows_concat follows runtime operation,
      sensing env operation past runtime admissible follower follows holds⟩
  refine ⟨fun topology => ⟨guarded.launch topology, launch topology⟩, fun env event => ?_,
    fun env operations each => Env.performAll_keeps (performs env) each⟩
  refine Env.handleEvent_keeps (performs env) ?_ ?_ event
  · rintro sensor occupied illuminance received ts past runtime ⟨follows, held, holds⟩
    obtain ⟨follows', holds'⟩ := Env.handleOccupancy_keeps (senses env) sensor occupied
      illuminance received ts past runtime ⟨follows, holds⟩
    exact ⟨follows', guarded.occupancy env sensor occupied illuminance received ts runtime held,
      holds'⟩
  · rintro ts past runtime ⟨follows, held, holds⟩
    obtain ⟨follows', holds'⟩ := Env.evaluateActualStaleness_keeps (senses env) ts past runtime
      ⟨follows, holds⟩
    exact ⟨follows', guarded.staleness env ts runtime held, holds'⟩

theorem KeptInState.handlers {good : Topology → Runtime → Prop} (kept : KeptInState good) :
    KeptByHandlers fun topology _ runtime => good topology runtime := by
  have both : KeptByHandlers fun topology _ runtime => good topology runtime ∧ True :=
    kept.guards (fun _ => trivial) (fun _ _ _ _ _ _ _ _ => trivial)
      fun _ _ _ _ _ _ _ _ => trivial
  simpa only [and_true] using both

namespace Daemon

/-- No input changes the topology. -/
theorem next_topology {daemon after : Daemon} {clock : ClockReading} {input : Input}
    {records : List Record} (taken : daemon.next clock input = some (after, records)) :
    after.processor.automation.topology = daemon.processor.automation.topology := by
  unfold next at taken
  split at taken
  · cases taken
  · split at taken
    · split at taken
      · cases taken
        rfl
      · cases taken
    · cases taken
      rfl
    · cases taken
      rfl
    · split at taken
      · rename_i result accepted
        cases taken
        unfold EventProcessor.control at accepted
        split at accepted
        · cases accepted
        · cases accepted
        · rename_i planned _
          cases accepted
          exact (Automation.plan_ok planned).1
      · cases taken
        rfl
    · cases taken

/-- An event does what its handler does. -/
theorem next_event {daemon after : Daemon} {clock : ClockReading} {event : Event}
    {records : List Record} (taken : daemon.next clock (.event event) = some (after, records)) :
    after.processor.runtime =
        ((daemon.processor.env clock).handleEvent event daemon.processor.runtime).1 ∧
      records = ((daemon.processor.env clock).handleEvent event daemon.processor.runtime).2 := by
  unfold next at taken
  split at taken
  · cases taken
  · split at taken
    · rename_i same
      cases same
      split at taken
      · cases taken
        exact ⟨rfl, rfl⟩
      · cases taken
    · rename_i same
      cases same
    · rename_i same
      cases same
      cases taken
      exact ⟨rfl, rfl⟩
    · rename_i same
      cases same
    · cases taken

theorem play_topology {inputs : List (ClockReading × Input)} {daemon after : Daemon}
    {records : List Record} (played : daemon.play inputs = some (after, records)) :
    after.processor.automation.topology = daemon.processor.automation.topology := by
  induction inputs generalizing records daemon with
  | nil =>
      cases played
      rfl
  | cons entry rest ih =>
      obtain ⟨clock, input⟩ := entry
      rw [play] at played
      split at played
      · cases played
      · rename_i middle first taken
        obtain ⟨⟨final, more⟩, continued, same⟩ := Option.map_eq_some_iff.mp played
        cases same
        exact (ih continued).trans (next_topology taken)

/-- Handlers perform their operations in their environment. -/
theorem handleEvent_env (env : Env) (event : Event) (runtime : Runtime) :
    ∀ record ∈ (env.handleEvent event runtime).2, record.env = env := by
  have each : ∀ operation, Keeps (fun (past : List Record) (_ : Runtime) =>
      ∀ record ∈ past, record.env = env) (env.perform operation) := by
    intro operation past runtime same record member
    rcases List.mem_append.mp member with earlier | last
    · exact same record earlier
    · rw [List.mem_singleton.mp last]
  have keeps := Env.handleEvent_keeps (fun operation _ => each operation)
    (Env.handleOccupancy_keeps fun operation _ _ => each operation)
    (Env.evaluateActualStaleness_keeps fun operation _ _ => each operation) event
  simpa using keeps [] runtime (by simp)

/-- Handlers perform their operations under the automation of their environment. -/
theorem handleEvent_automation (env : Env) (event : Event) (runtime : Runtime) :
    ∀ record ∈ (env.handleEvent event runtime).2, record.env.toAutomation = env.toAutomation :=
  fun record member => by rw [handleEvent_env env event runtime record member]

theorem startup_automation (env : Env) (ts : Instant) (runtime : Runtime) :
    ∀ record ∈ (env.startup ts runtime).2, record.env.toAutomation = env.toAutomation := by
  have each : ∀ operation, Keeps (fun (past : List Record) (_ : Runtime) =>
      ∀ record ∈ past, record.env.toAutomation = env.toAutomation) (env.perform operation) := by
    intro operation past runtime same record member
    rcases List.mem_append.mp member with earlier | last
    · exact same record earlier
    · rw [List.mem_singleton.mp last]
  have keeps := Env.startup_keeps (fun operation (_ : True) => each operation) ts
    (fun _ _ => trivial) trivial
  simpa using keeps [] runtime (by simp)

/-- Inputs that are not commands leave the automation alone. -/
theorem play_automation {inputs : List (ClockReading × Input)} {daemon after : Daemon}
    {records : List Record}
    (events : ∀ entry ∈ inputs, ∀ saved command, entry.2 ≠ .command saved command)
    (played : daemon.play inputs = some (after, records)) :
    ∀ record ∈ records, record.env.toAutomation = daemon.processor.automation := by
  induction inputs generalizing records daemon with
  | nil =>
      cases played
      simp
  | cons entry rest ih =>
      obtain ⟨clock, input⟩ := entry
      rw [play] at played
      split at played
      · cases played
      · rename_i middle first taken
        obtain ⟨⟨final, more⟩, continued, same⟩ := Option.map_eq_some_iff.mp played
        cases same
        have step : middle.processor.automation = daemon.processor.automation ∧
            ∀ record ∈ first, record.env.toAutomation = daemon.processor.automation := by
          unfold next at taken
          split at taken
          · cases taken
          · split at taken
            · split at taken
              · cases taken
                exact ⟨rfl, handleEvent_automation _ _ _⟩
              · cases taken
            · cases taken
              exact ⟨rfl, startup_automation _ _ _⟩
            · cases taken
              exact ⟨rfl, handleEvent_automation _ _ _⟩
            · exact absurd rfl (events _ List.mem_cons_self _ _)
            · cases taken
        intro record member
        rcases List.mem_append.mp member with early | late
        · exact step.2 record early
        · rw [← step.1]
          exact ih (fun entry inside => events entry (List.mem_cons_of_mem _ inside)) continued
            record late

end Daemon

/-- What a run in the house reached: its history, its topology, and what can be read off both. -/
theorem House.played (mode : MotionMode) (bindings : List ResolvedBinding)
    (inputs : List (Nat × Input)) {α : Type} (facts : Daemon × List Record → α) (value : α)
    (evaluated : (play mode bindings inputs).map facts = some value) :
    ∃ daemon history, Run history daemon ∧
      daemon.processor.automation.topology = topology mode bindings ∧
        facts (daemon, history) = value := by
  obtain ⟨⟨daemon, history⟩, played, same⟩ := Option.map_eq_some_iff.mp evaluated
  exact ⟨daemon, history, run_of_play played, Daemon.play_topology played, same⟩

/-- A run in the house without commands performs every operation under the same automation. -/
theorem House.played_fixed (mode : MotionMode) (bindings : List ResolvedBinding)
    (inputs : List (Nat × Input))
    (events : ∀ entry ∈ inputs, ∀ saved command, entry.2 ≠ .command saved command)
    {α : Type} (facts : Daemon × List Record → α) (value : α)
    (evaluated : (play mode bindings inputs).map facts = some value) :
    ∃ daemon history, Run history daemon ∧
      (∀ record ∈ history, record.env.toAutomation = automation mode bindings) ∧
        facts (daemon, history) = value := by
  obtain ⟨⟨daemon, history⟩, played, same⟩ := Option.map_eq_some_iff.mp evaluated
  refine ⟨daemon, history, run_of_play played, Daemon.play_automation ?_ played, same⟩
  intro entry member
  obtain ⟨given, inside, rfl⟩ := List.mem_map.mp member
  exact events given inside

/-- A run without commands in the house with paired valves. -/
theorem House.played_paired (inputs : List (Nat × Input))
    (events : ∀ entry ∈ inputs, ∀ saved command, entry.2 ≠ .command saved command)
    {α : Type} (facts : Daemon × List Record → α) (value : α)
    (evaluated : (playPaired inputs).map facts = some value) :
    ∃ daemon history, Run history daemon ∧
      (∀ record ∈ history, record.env.toAutomation = pairedAutomation) ∧
        facts (daemon, history) = value := by
  obtain ⟨⟨daemon, history⟩, played, same⟩ := Option.map_eq_some_iff.mp evaluated
  have run := (Run.launch pairedAutomation 0).play played
  rw [List.nil_append] at run
  refine ⟨daemon, history, run, Daemon.play_automation ?_ played, same⟩
  intro entry member
  obtain ⟨given, inside, rfl⟩ := List.mem_map.mp member
  exact events given inside

/-- A run in the house with the landing. -/
theorem House.played_landing (bindings : List ResolvedBinding) (inputs : List (Nat × Input))
    {α : Type} (facts : Daemon × List Record → α) (value : α)
    (evaluated : (playLanding bindings inputs).map facts = some value) :
    ∃ daemon history, Run history daemon ∧ facts (daemon, history) = value := by
  obtain ⟨⟨daemon, history⟩, played, same⟩ := Option.map_eq_some_iff.mp evaluated
  have run := (Run.launch (landingAutomation bindings) 0).play played
  rw [List.nil_append] at run
  exact ⟨daemon, history, run, same⟩

namespace Run

theorem step_keeps {inv : Automation → List Record → Runtime → Prop} (kept : KeptByInputs inv)
    {history records : List Record} {daemon after : Daemon} {clock : ClockReading} {input : Input}
    (behind : ∀ record ∈ history, record.env.clock.now ≤ daemon.now)
    (holds : inv daemon.processor.automation history daemon.processor.runtime)
    (taken : daemon.next clock input = some (after, records)) :
    (∀ record ∈ history ++ records, record.env.clock.now ≤ after.now) ∧
      inv after.processor.automation (history ++ records) after.processor.runtime := by
  unfold Daemon.next at taken
  split at taken
  · cases taken
  · rename_i later
    have follows : (daemon.processor.env clock).Follows history := fun record member =>
      (behind record member).trans (not_lt.mp later)
    split at taken
    · split at taken
      · cases taken
        exact kept.event _ _ history _ ⟨follows, holds⟩
      · cases taken
    · cases taken
      exact kept.startup (daemon.processor.env clock) history _ ⟨follows, holds⟩
    · cases taken
      exact kept.event _ _ history _ ⟨follows, holds⟩
    · split at taken
      · rename_i result accepted
        cases taken
        unfold EventProcessor.control at accepted
        split at accepted
        · cases accepted
        · cases accepted
        · rename_i automation operations planned _
          cases accepted
          have ahead : ({ automation with clock } : Env).Follows history := follows
          exact ⟨Env.follows_performAll ahead operations daemon.processor.runtime,
            kept.command daemon.processor.automation { automation with clock } _ operations history
              daemon.processor.runtime planned ahead holds⟩
      · cases taken
        rw [List.append_nil]
        exact ⟨follows, holds⟩
    · cases taken

/-- What events, startup and commands keep holds in every state that a run reaches, and no operation
is ahead of the clock. -/
theorem invariant_of_inputs {inv : Automation → List Record → Runtime → Prop}
    (kept : KeptByInputs inv) {history : List Record} {daemon : Daemon}
    (run : Run history daemon) :
    (∀ record ∈ history, record.env.clock.now ≤ daemon.now) ∧
      inv daemon.processor.automation history daemon.processor.runtime := by
  induction run with
  | launch automation now => exact ⟨by simp, kept.launch automation⟩
  | step _ taken ih => exact step_keeps kept ih.1 ih.2 taken

variable {inv : Topology → List Record → Runtime → Prop}

/-- What handlers and commands keep holds in every state that a run reaches, and no operation is
ahead of the clock. -/
theorem invariant (kept : KeptByHandlers inv) {history : List Record} {daemon : Daemon}
    (run : Run history daemon) :
    (∀ record ∈ history, record.env.clock.now ≤ daemon.now) ∧
      inv daemon.processor.automation.topology history daemon.processor.runtime :=
  run.invariant_of_inputs kept.inputs

/-- What every operation keeps holds wherever an operation was performed. -/
theorem each_record (kept : KeptByOperations inv) {history : List Record} {daemon : Daemon}
    (run : Run history daemon) {past later : List Record} {record : Record}
    (split : history = past ++ record :: later) :
    record.operation.Admissible record.env.topology ∧ record.env.Follows past ∧
      inv record.env.topology past record.before :=
  (run.invariant kept.always.handlers).2.2 past record later split

/-- What every operation keeps holds in every state that a run reaches. -/
theorem invariant_of_operations (kept : KeptByOperations inv) {history : List Record}
    {daemon : Daemon} (run : Run history daemon) :
    inv daemon.processor.automation.topology history daemon.processor.runtime :=
  (run.invariant kept.handlers).2

end Run

end MqttController
