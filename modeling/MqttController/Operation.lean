import MqttController.Actions
import MqttController.Heating.Relays
import MqttController.LightReports
import MqttController.Motion
import MqttController.Staleness

/-!
# Operations

Every change of the runtime state is one of the operations below.  An event is handled by
performing operations one after the other, and each one leaves a record.
-/

namespace MqttController

open Std

namespace MotionSession

/-- Give up the blocked lights. -/
def block (session : MotionSession) (blocked : DeviceIdx → Bool) : MotionSession :=
  { session with claimed := session.claimed.filter fun device => !blocked device }

end MotionSession

namespace MotionRuleState

/-- Give up the blocked lights; a session without claims ends. -/
def block (state : MotionRuleState) (blocked : DeviceIdx → Bool) : MotionRuleState :=
  { state with
    session := (state.session.map (·.block blocked)).filter fun session =>
      decide (session.claimed ≠ ∅) }

end MotionRuleState

namespace WorldState

variable (world : WorldState)

/-- Remember a hardware double tap. -/
def noteDoubleTap (key : String × String) (ts : Instant) : WorldState :=
  { world with lastDoubleTap := world.lastDoubleTap.insert key ts }

/-- Remember the time at which a timed binding fired. -/
def noteTimedAction (binding : String) (time : Nat × Nat) : WorldState :=
  { world with atLastFired := world.atLastFired.insert binding time }

/-- Let a timed binding fire again. -/
def clearTimedAction (binding : String) : WorldState :=
  { world with atLastFired := world.atLastFired.erase binding }

/-- A room starts a new switch cycle. -/
def forgetCycle (name : String) : WorldState :=
  { world with
    lightZones := OrderedMap.adjust world.lightZones name fun zone =>
      { zone with switchCycle := none } }

end WorldState

namespace Env

variable (env : Env)

/-- Release the group of a session that loses lights. -/
def releaseBlockedGroup (blocked : DeviceIdx → Bool) (ts : Instant) (world : WorldState)
    (session : MotionSession) : WorldState :=
  match session.target.group with
  | none => world
  | some group =>
      if session.target.lights.any fun light => blocked light.device then
        { world with
          lightZones := OrderedMap.adjust world.lightZones (env.topology.roomName group)
            (·.releaseMotion ts) }
      else world

/-- Release one light. -/
def releaseMember (ts : Instant) (world : WorldState) (light : LightEndpoint) : WorldState :=
  { world with
    lights := OrderedMap.adjust world.lights (env.lightName light) (·.releaseMotion ts) }

/-- Motion gives up the lights of a room. -/
def blockMotion (name : String) (ts : Instant) (world : WorldState) : WorldState :=
  match env.topology.roomByName name with
  | none => world
  | some room =>
      let blocked device := room.lightMembers.any fun light => light.device == device
      let released := room.lightMembers.foldl (env.releaseMember ts) world
      let regrouped := (OrderedMap.pickValues released.motionRules (·.session)).foldl
        (env.releaseBlockedGroup blocked ts) released
      { regrouped with
        motionRules := OrderedMap.mapValues regrouped.motionRules (·.block blocked) }

end Env

/-- One change of the runtime state. -/
inductive Operation
  /-- Remember a deferred press. -/
  | deferPress (key : String × String) (press : PendingPress)
  /-- Forget a deferred press. -/
  | dropPress (key : String × String)
  /-- Remember a hardware double tap. -/
  | noteDoubleTap (key : String × String) (ts : Instant)
  /-- Remember the time at which a timed binding fired. -/
  | noteTimedAction (binding : String) (time : Nat × Nat)
  /-- Let a timed binding fire again. -/
  | clearTimedAction (binding : String)
  /-- Execute the effect of a binding. -/
  | execute (ruleName : String) (effect : ResolvedEffect) (ts : Instant)
  /-- Dashboard: recall a scene. -/
  | webRecallScene (room : String) (sceneId : Nat) (ts : Instant)
  /-- Dashboard: turn a room off. -/
  | webSetRoomOff (room : String) (ts : Instant)
  /-- Dashboard: switch a plug. -/
  | webSetPlugPower (device : String) (on : Bool) (ts : Instant)
  /-- Take in a motion sensor report. -/
  | observeSensor (sensor : String) (occupied : Bool) (illuminance receivedAtEpochMs : Option Nat)
      (ts : Instant)
  /-- Open a session. -/
  | startSession (rule : ResolvedMotionRule) (illuminance : Option Nat) (ts : Instant)
  /-- End a session without a command. -/
  | releaseSession (rule : ResolvedMotionRule) (ts : Instant)
  /-- Close a session. -/
  | finishSession (rule : ResolvedMotionRule) (ts : Instant) (owner : Owner)
  /-- Turn off at startup what a rule controls. -/
  | startupTurnOff (rule : ResolvedMotionRule) (ts : Instant)
  /-- Take in a group's state. -/
  | observeGroup (group : String) (on : Bool) (ts : Instant)
  /-- Take in a light report. -/
  | observeLight (device : String) (actual : LightActual) (ts : Instant)
  /-- Take in a plug report. -/
  | observePlug (device : String) (on : Option Bool) (power : Option ℚ) (ts : Instant)
  /-- Take in a power meter report. -/
  | observeMeter (device : String) (power energy : Option ℚ) (ts : Instant)
  /-- Take in a valve report. -/
  | observeTrv (config : HeatingConfig) (device : String) (report : TrvReport)
  /-- Take in a wall-thermostat report. -/
  | observeThermostat (config : HeatingConfig) (device : String) (relayOn : Option Bool)
      (temperature : Option ℚ) (operatingMode : Option String)
  /-- Fire the kill switches that are due. -/
  | fireKillSwitches (ts : Instant)
  /-- Arm the kill switches of the plugs that are on. -/
  | armKillSwitches (ts : Instant)
  /-- Give up commands that were not confirmed in time. -/
  | ageTargets (ts : Instant)
  /-- Stop trusting old readings. -/
  | ageActuals (ts : Instant)
  /-- Start a heating tick: thermostat keepalive and expired inhibitions. -/
  | beginHeatingTick (config : HeatingConfig)
  /-- Control the valves. -/
  | controlValves (config : HeatingConfig)
  /-- Control the relays. -/
  | controlRelays (config : HeatingConfig)
  /-- Settings: motion gives up a room. -/
  | blockMotion (room : String) (ts : Instant)
  /-- Settings: a room starts a new switch cycle. -/
  | forgetCycle (room : String)
  /-- Settings: a plug's bindings were replaced. -/
  | replacePlugBindings (device : String) (ts : Instant)

namespace Env

variable (env : Env)

/-- The kill switches of a plug restart from its current reading. -/
def replacePlugBindings (device : String) (ts : Instant) (world : WorldState) : WorldState :=
  match world.plugs[device]? with
  | none => world
  | some plug =>
      let cleared := world.modifyPlug device fun plug => { plug with killSwitchRules := ∅ }
      if plug.isOn then env.armKillSwitchRules device plug.power.value ts cleared else cleared

/-- Start a heating tick. -/
def beginHeatingTick (config : HeatingConfig) : Emission.Step Runtime Effect :=
  Emission.andThen
    (Emission.andThen
      (Emission.silent fun runtime => { runtime with heatingTickGen := runtime.heatingTickGen + 1 })
      (env.requestStates config))
    (Emission.andThen (Emission.silent (env.expireInhibitions config))
      (Emission.andThen (Emission.forEach env.probeThermostat config.zones)
        (env.refreshThermostats config)))

/-- Control the valves. -/
def controlValves (config : HeatingConfig) : Emission.Step Runtime Effect :=
  Emission.andThen (env.enforcePressureGroups config)
    (Emission.andThen (env.evaluateSchedules config)
      (Emission.andThen (env.reconcileSetpoints config) (env.detectOpenWindows config)))

/-- Control the relays: decide about every zone, then repeat what is not confirmed. -/
def controlRelays (config : HeatingConfig) : Emission.Step Runtime Effect :=
  Emission.andThen (env.evaluateRelays config) (env.reconcileRelays config)

end Env

namespace Runtime

/-- Lift a change of the world that emits effects. -/
def onWorld (change : WorldState → WorldState × List Effect) : Emission.Step Runtime Effect :=
  fun runtime => ({ runtime with world := (change runtime.world).1 }, (change runtime.world).2)

/-- Lift a silent change of the world. -/
def onWorldSilently (change : WorldState → WorldState) : Emission.Step Runtime Effect :=
  Emission.silent fun runtime => { runtime with world := change runtime.world }

end Runtime

namespace Operation

/-- The binding effect that an operation executes. -/
def executed : Operation → Option ResolvedEffect
  | execute _ effect _ => some effect
  | _ => none

/-- The state after an operation and what it publishes. -/
def run (env : Env) : Operation → Emission.Step Runtime Effect
  | deferPress key press => Runtime.onWorldSilently fun world => world.setPending key press
  | dropPress key => Runtime.onWorldSilently fun world => world.dropPending key
  | noteDoubleTap key ts => Runtime.onWorldSilently fun world => world.noteDoubleTap key ts
  | noteTimedAction binding time =>
      Runtime.onWorldSilently fun world => world.noteTimedAction binding time
  | clearTimedAction binding => Runtime.onWorldSilently fun world => world.clearTimedAction binding
  | execute ruleName effect ts => Runtime.onWorld (env.executeEffect ruleName effect ts)
  | webRecallScene room sceneId ts => Runtime.onWorld (env.webRecallScene room sceneId ts)
  | webSetRoomOff room ts => Runtime.onWorld (env.webSetRoomOff room ts)
  | webSetPlugPower device on ts => Runtime.onWorld (env.webSetPlugPower device on ts)
  | observeSensor sensor occupied illuminance receivedAtEpochMs ts =>
      Runtime.onWorldSilently fun world =>
        world.modifyMotionSensor sensor (·.observe occupied illuminance receivedAtEpochMs ts)
  | startSession rule illuminance ts => Runtime.onWorld (env.startMotionSession rule illuminance ts)
  | releaseSession rule ts => Runtime.onWorldSilently (env.releaseMotionSession rule ts)
  | finishSession rule ts owner => Runtime.onWorld (env.finishMotionSession rule ts owner)
  | startupTurnOff rule ts => Runtime.onWorld (env.startupTurnOff rule ts)
  | observeGroup group on ts => Runtime.onWorldSilently (env.handleGroupState group on ts)
  | observeLight device actual ts => Runtime.onWorldSilently (env.handleLightState device actual ts)
  | observePlug device on power ts => Runtime.onWorld (env.handlePlugState device on power ts)
  | observeMeter device power energy ts =>
      Runtime.onWorldSilently fun world => world.observeMeter device power energy ts
  | observeTrv config device report => fun runtime =>
      let observed := env.handleTrvState config device report runtime
      (observed, env.checkTrvMode device observed.world)
  | observeThermostat config device relayOn temperature operatingMode => fun runtime =>
      let observed :=
        env.handleWallThermostatState config device relayOn temperature operatingMode runtime
      (observed, env.checkWtMode config device observed.world)
  | fireKillSwitches ts => Runtime.onWorld (env.evaluateKillSwitchTicks ts)
  | armKillSwitches ts => Runtime.onWorldSilently (env.armKillSwitchesForActivePlugs ts)
  | ageTargets ts => Runtime.onWorldSilently fun world => world.ageTargets ts
  | ageActuals ts => Runtime.onWorldSilently fun world => world.ageActuals ts
  | beginHeatingTick config => env.beginHeatingTick config
  | controlValves config => env.controlValves config
  | controlRelays config => env.controlRelays config
  | blockMotion room ts => Runtime.onWorldSilently (env.blockMotion room ts)
  | forgetCycle room => Runtime.onWorldSilently fun world => world.forgetCycle room
  | replacePlugBindings device ts => Runtime.onWorldSilently (env.replacePlugBindings device ts)

theorem executed_eq_some_iff {operation : Operation} {effect : ResolvedEffect} :
    operation.executed = some effect ↔ ∃ ruleName ts, operation = execute ruleName effect ts := by
  cases operation <;> simp [executed, and_comm]

end Operation

/-- One operation that was performed: what it read and the state it started from. -/
structure Record where
  env : Env
  before : Runtime
  operation : Operation

namespace Record

/-- The state the operation left. -/
def after (record : Record) : Runtime := (record.operation.run record.env record.before).1

/-- What the operation published. -/
def effects (record : Record) : List Effect :=
  (record.operation.run record.env record.before).2

end Record

/-- Perform an operation and leave a record of it. -/
def Env.perform (env : Env) (operation : Operation) : Emission.Step Runtime Record := fun runtime =>
  ((operation.run env runtime).1, [{ env, before := runtime, operation }])

end MqttController
