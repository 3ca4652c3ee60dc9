import MqttController.Operation

/-!
# Event handling

The handler of each event, as the operations it performs.
-/

namespace MqttController

open Std

namespace Env

variable (env : Env)

/-- Perform operations in order. -/
def performAll (operations : List Operation) : Emission.Step Runtime Record :=
  Emission.forEach env.perform operations

/-! ## Buttons -/

/-- The effects of the bindings of a button and gesture. -/
def bindingOperations (device : DeviceIdx) (button : String) (gesture : Gesture) (ts : Instant) :
    List Operation :=
  (env.topology.bindingsForButton device button gesture).map fun binding =>
    .execute binding.name binding.effect ts

/-- The time a press is deferred. -/
def deferralWindow : Duration := Duration.fromSecsF64 env.defaults.softDoubleTapWindowSeconds

/-- A press that was deferred. -/
def deferredPress (key : String × String) (ts : Instant) (alreadyFired : Bool) : PendingPress :=
  { device := key.1, button := key.2, ts, deadline := ts + env.deferralWindow, alreadyFired }

/-- The room whose turning on a press effect asks for. -/
def turnsOnRoom : ResolvedEffect → Option RoomIdx
  | .sceneToggle room => some room
  | .sceneCycle room => some room
  | .groupSceneCycle room => some room
  | .sceneToggleCycle room => some room
  | _ => none

/-- Every press binding targets a room that is known to be off, so a press and a double tap would
do the same. -/
def canEarlyFirePress (device : DeviceIdx) (button : String) (world : WorldState) : Bool :=
  let bindings := env.topology.bindingsForButton device button .press
  !bindings.isEmpty && bindings.all fun binding =>
    (turnsOnRoom binding.effect).any fun room =>
      (world.lightZones[env.topology.roomName room]?).any fun zone =>
        !zone.isOn && zone.actual.isKnown

/-- A hardware double tap replaces the press it was deferred for; nothing happens when that press
has fired early. -/
def handleDoubleTap (key : String × String) (device : DeviceIdx) (ts : Instant) :
    Emission.Step Runtime Record := fun runtime =>
  let pending := runtime.world.pendingPresses[key]?
  let dropped := if pending.isSome then [.dropPress key] else []
  if pending.any (·.alreadyFired) then env.performAll dropped runtime
  else
    env.performAll
      (dropped ++ .noteDoubleTap key ts :: env.bindingOperations device key.2 .doubleTap ts) runtime

/-- Dispatch a press that is still deferred, before a new one is. -/
def flushStalePress (key : String × String) (device : DeviceIdx) :
    Emission.Step Runtime Record := fun runtime =>
  match runtime.world.pendingPresses[key]? with
  | none => (runtime, [])
  | some stale =>
      env.performAll
        (.dropPress key ::
          if stale.alreadyFired then []
          else env.bindingOperations device stale.button .press stale.ts) runtime

/-- Dispatch a press early or defer it. -/
def deferPress (key : String × String) (device : DeviceIdx) (ts : Instant) :
    Emission.Step Runtime Record := fun runtime =>
  let earlyFire := env.canEarlyFirePress device key.2 runtime.world
  env.performAll
    ((if earlyFire then env.bindingOperations device key.2 .press ts else []) ++
      [.deferPress key (env.deferredPress key ts earlyFire)]) runtime

/-- A press of a button whose hardware reports double taps. -/
def handleHwDoubleTapDeferredPress (key : String × String) (device : DeviceIdx) (ts : Instant) :
    Emission.Step Runtime Record := fun runtime =>
  let suppressed := (runtime.world.lastDoubleTap[key]?).any fun last =>
    decide (durationSince ts last <
      Duration.fromSecsF64 env.defaults.doubleTapSuppressionSeconds)
  if suppressed then (runtime, [])
  else
    Emission.andThen (env.flushStalePress key device) (env.deferPress key device ts) runtime

/-- A press of a button with software double taps. -/
def handleSoftDoubleTapPress (key : String × String) (device : DeviceIdx) (ts : Instant) :
    Emission.Step Runtime Record := fun runtime =>
  let fresh := Operation.deferPress key (env.deferredPress key ts false)
  match runtime.world.pendingPresses[key]? with
  | none => env.perform fresh runtime
  | some pending =>
      if durationSince ts pending.ts ≤ env.deferralWindow then
        env.performAll (.dropPress key :: env.bindingOperations device key.2 .softDoubleTap ts)
          runtime
      else
        env.performAll
          (.dropPress key :: env.bindingOperations device pending.button .press pending.ts ++
            [fresh]) runtime

/-- Handle a button press. -/
def handleButtonPress (device button : String) (gesture : Gesture) (ts : Instant) :
    Emission.Step Runtime Record :=
  match env.topology.deviceIdx device with
  | none => Emission.silent id
  | some idx =>
      match gesture with
      | .doubleTap => env.handleDoubleTap (device, button) idx ts
      | .press =>
          if env.topology.isHwDoubleTapButton idx button then
            env.handleHwDoubleTapDeferredPress (device, button) idx ts
          else if env.topology.isSoftDoubleTapButton idx button then
            env.handleSoftDoubleTapPress (device, button) idx ts
          else env.performAll (env.bindingOperations idx button .press ts)
      | .softDoubleTap => Emission.silent id
      | .hold => env.performAll (env.bindingOperations idx button .hold ts)
      | .holdRelease => env.performAll (env.bindingOperations idx button .holdRelease ts)

/-- Dispatch one deferred press whose deadline has passed. -/
def flushPress (entry : (String × String) × PendingPress) : List Operation :=
  let pending := entry.2
  .dropPress entry.1 ::
    if pending.alreadyFired then []
    else
      match env.topology.deviceIdx pending.device with
      | none => []
      | some idx => env.bindingOperations idx pending.button .press pending.ts

/-- Dispatch the deferred presses whose deadline has passed. -/
def flushPendingPresses (ts : Instant) : Emission.Step Runtime Record := fun runtime =>
  let expired := runtime.world.pendingPresses.toList.filter fun entry =>
    decide (entry.2.deadline ≤ ts)
  env.performAll (expired.flatMap env.flushPress) runtime

/-! ## Timed triggers -/

/-- Fire one timed binding when its minute has come, once. -/
def evaluateAtTrigger (ts : Instant) (binding : ResolvedBinding) :
    Emission.Step Runtime Record := fun runtime =>
  match env.timedActionTime binding with
  | none => (runtime, [])
  | some time =>
      let minutes := time.resolve env.sunTimes
      -- The source narrows both parts to a byte.
      let due := (minutes / 60 % 256, minutes % 60 % 256)
      if env.clock.localHour = due.1 ∧ env.clock.localMinute = due.2 then
        if runtime.world.atLastFired[binding.name]? = some due then (runtime, [])
        else
          env.performAll
            [.noteTimedAction binding.name due, .execute binding.name binding.effect ts] runtime
      else env.perform (.clearTimedAction binding.name) runtime

/-- Fire the timed bindings whose minute has come. -/
def evaluateAtTriggers (ts : Instant) : Emission.Step Runtime Record :=
  Emission.forEach (env.evaluateAtTrigger ts) env.effectiveBindings

/-! ## Motion -/

/-- A rule's sensor became occupied: open a session unless one is open. -/
def ruleOccupied (illuminance : Option Nat) (ts : Instant) (entry : ResolvedMotionRule × Bool) :
    Emission.Step Runtime Record := fun runtime =>
  let (rule, wasActive) := entry
  match runtime.world.motionSession rule with
  | none => env.perform (.startSession rule illuminance ts) runtime
  | some session =>
      if !wasActive && env.motionTargetIsOff runtime.world session.target then
        env.performAll [.releaseSession rule ts, .startSession rule illuminance ts] runtime
      else (runtime, [])

/-- A rule may have lost its last occupied sensor: close its session. -/
def ruleVacated (owner : Owner) (ts : Instant) (rule : ResolvedMotionRule) :
    Emission.Step Runtime Record := fun runtime =>
  if runtime.world.motionRuleOccupied rule then (runtime, [])
  else env.perform (.finishSession rule ts owner) runtime

/-- Handle a report of a motion sensor. -/
def handleOccupancy (sensor : String) (occupied : Bool)
    (illuminance receivedAtEpochMs : Option Nat) (ts : Instant) : Emission.Step Runtime Record :=
  fun runtime =>
    let previous := runtime.world.motionSensors[sensor]?
    let wasOccupied := previous.any (·.isOccupied)
    let wasClear :=
      previous.any fun entity => entity.actual.value.any fun actual => !actual.occupied
    let rules := env.topology.motionRulesForSensor sensor
    let wereActive := rules.map fun rule => (rule, runtime.world.motionRuleOccupied rule)
    Emission.andThen (env.perform (.observeSensor sensor occupied illuminance receivedAtEpochMs ts))
      (if (occupied && wasOccupied) || (!occupied && wasClear) then Emission.silent id
      else if occupied then Emission.forEach (env.ruleOccupied illuminance ts) wereActive
      else Emission.forEach (env.ruleVacated .motion ts) rules) runtime

/-- Stop trusting old readings, and close the sessions that lose their last sensor. -/
def evaluateActualStaleness (ts : Instant) : Emission.Step Runtime Record := fun runtime =>
  let rules := env.topology.motionRules.filter fun rule => runtime.world.losesSensor rule ts
  Emission.andThen (env.perform (.ageActuals ts))
    (Emission.forEach (env.ruleVacated .system ts) rules) runtime

/-! ## Events -/

/-- Heating on a tick. -/
def handleHeatingTick : Emission.Step Runtime Record :=
  match env.topology.heatingConfig with
  | none => Emission.silent id
  | some config =>
      env.performAll [.beginHeatingTick config, .controlValves config, .controlRelays config]

/-- Handle a tick. -/
def handleTick (ts : Instant) : Emission.Step Runtime Record :=
  Emission.andThen (env.flushPendingPresses ts)
    (Emission.andThen (env.evaluateAtTriggers ts)
      (Emission.andThen (env.performAll [.fireKillSwitches ts, .ageTargets ts])
        (Emission.andThen (env.evaluateActualStaleness ts) env.handleHeatingTick)))

/-- Handle a report of the heating system. -/
def handleHeatingReport (operation : HeatingConfig → Operation) : Emission.Step Runtime Record :=
  match env.topology.heatingConfig with
  | none => Emission.silent id
  | some config => env.perform (operation config)

/-- Handle one event. -/
def handleEvent : Event → Emission.Step Runtime Record
  | .buttonPress device button gesture ts => env.handleButtonPress device button gesture ts
  | .occupancy sensor occupied illuminance receivedAtEpochMs ts =>
      env.handleOccupancy sensor occupied illuminance receivedAtEpochMs ts
  | .groupState group on ts => env.perform (.observeGroup group on ts)
  | .lightState device on brightness colorTemp colorXy ts =>
      env.perform (.observeLight device { on, brightness, colorTemp, colorXy } ts)
  | .plugState device on power ts => env.perform (.observePlug device (some on) power ts)
  | .plugPowerUpdate device watts ts => env.perform (.observePlug device none (some watts) ts)
  | .powerMeterState device powerWatts energyKwh ts =>
      env.perform (.observeMeter device powerWatts energyKwh ts)
  | .trvState device localTemperature piHeatingDemand runningState occupiedHeatingSetpoint
      operatingMode systemMode battery _ =>
      env.handleHeatingReport fun config =>
        .observeTrv config device
          { localTemperature, piHeatingDemand, runningState, occupiedHeatingSetpoint,
            operatingMode, systemMode, battery }
  | .wallThermostatState device relayOn localTemperature operatingMode _ =>
      env.handleHeatingReport fun config =>
        .observeThermostat config device relayOn localTemperature operatingMode
  | .tick ts => env.handleTick ts

/-- Startup: turn off what motion rules left on and arm the kill switches. -/
def startup (ts : Instant) : Emission.Step Runtime Record :=
  env.performAll
    (env.topology.motionRules.map (fun rule => Operation.startupTurnOff rule ts) ++
      [.armKillSwitches ts])

end Env

end MqttController
