import MqttController.Automation

/-!
# Valve and wall-thermostat reports

A valve report updates the valve; a report of a wall thermostat's relay also tracks when the heat
pump started and stopped, which is when the first relay turned on and the last one off.
-/

namespace MqttController

open Std

/-- Lowest setpoint, of an inhibited valve. -/
def minSetpoint : ℚ := 5

/-- Highest setpoint, of a valve forced open. -/
def maxSetpoint : ℚ := 30

/-- Time a relay may take to follow an ON command before an OFF echo is believed. -/
def relayActuationGrace : Duration := Duration.fromSecs 15

/-! ## Valves -/

namespace TrvTarget

/-- The setpoint that shows a target. -/
def setpointValue : TrvTarget → ℚ
  | setpoint temperature => temperature
  | inhibited _ => minSetpoint
  | forcedOpen _ => maxSetpoint

/-- The target is a plain setpoint. -/
def isSetpoint : TrvTarget → Bool
  | setpoint _ => true
  | _ => false

end TrvTarget

/-- What a valve report contains; absent fields keep their last value. -/
structure TrvReport where
  localTemperature : Option ℚ
  piHeatingDemand : Option Nat
  runningState : Option String
  occupiedHeatingSetpoint : Option ℚ
  operatingMode : Option String
  systemMode : Option String
  battery : Option Nat
  deriving DecidableEq

namespace TrvActual

/-- Running state after a report, and whether it was ever reported.  A report of the demand alone
replaces a running state that was trusted. -/
def runningAfter (previous : TrvActual) (report : TrvReport) : HeatingRunningState × Bool :=
  match report.runningState with
  | some text =>
      match HeatingRunningState.parse text with
      | some state => (state, true)
      | none => (previous.runningState, previous.runningStateSeen)
  | none =>
      match previous.runningStateSeen, report.piHeatingDemand with
      | true, some demand => (if 0 < demand then .heat else .idle, true)
      | seen, _ => (previous.runningState, seen)

/-- The reading after a report. -/
def merge (previous : TrvActual) (report : TrvReport) : TrvActual :=
  { localTemperature := report.localTemperature.or previous.localTemperature
    piHeatingDemand := report.piHeatingDemand.or previous.piHeatingDemand
    runningState := (previous.runningAfter report).1
    runningStateSeen := (previous.runningAfter report).2
    setpoint := report.occupiedHeatingSetpoint.or previous.setpoint
    operatingMode := report.operatingMode.or previous.operatingMode
    systemMode := report.systemMode.or previous.systemMode
    battery := report.battery.or previous.battery }

end TrvActual

namespace OpenWindowState

/-- Follow a temperature sample while a detection cycle is active. -/
def sample (state : OpenWindowState) (temperature : ℚ) : OpenWindowState :=
  if state.baselineEstablishedAt.isSome then
    { state with
      tempAtRelayOn := state.tempAtRelayOn.or (some temperature)
      tempHighWater := some (state.tempHighWater.elim temperature (max temperature)) }
  else state

end OpenWindowState

namespace TrvEntity

/-- Record a temperature sample. -/
def sampleTemperature (trv : TrvEntity) (temperature : Option ℚ) (now : Instant) : TrvEntity :=
  match temperature with
  | none => trv
  | some temperature =>
      { trv with lastTempAt := some now, openWindow := trv.openWindow.sample temperature }

/-- Confirm the target by a reported setpoint, or command it again when the valve moved away. -/
def followSetpoint (trv : TrvEntity) (reported : Option ℚ) (now : Instant) (tickGen : Nat) :
    TrvEntity :=
  match reported, trv.target.value with
  | some reported, some target =>
      if |target.setpointValue - reported| < 1 / 10 then
        if trv.target.phase = .commanded ∨ trv.target.phase = .stale then
          { trv with
            target := trv.target.confirm now
            lastForceReason := if target.isSetpoint then none else trv.lastForceReason }
        else trv
      else if trv.target.phase = .confirmed then
        { trv with
          target := trv.target.setAndCommand target (trv.target.owner.getD .schedule) now
          setpointDirtyGen := tickGen }
      else trv
  | _, _ => trv

/-- Take in a report. -/
def observe (trv : TrvEntity) (report : TrvReport) (now : Instant) (tickGen : Nat) : TrvEntity :=
  let updated := { trv with
    lastSeen := some now
    actual := trv.actual.update ((trv.actual.value.getD {}).merge report) now }
  (updated.sampleTemperature report.localTemperature now).followSetpoint
    report.occupiedHeatingSetpoint now tickGen

/-- A recent temperature, to start a detection cycle with. -/
def freshBaseline (trv : TrvEntity) (now : Instant) : Option ℚ :=
  if trv.hasFreshTemp now then trv.actual.value.bind (·.localTemperature) else none

/-- Start a detection cycle. -/
def startDetection (trv : TrvEntity) (now : Instant) : TrvEntity :=
  { trv with openWindow := trv.openWindow.startDetection now (trv.freshBaseline now) }

/-- Give up a force; the schedule overwrites the placeholder on the next tick. -/
def releaseForce (trv : TrvEntity) (now : Instant) : TrvEntity :=
  { trv with target := trv.target.setAndCommand (.setpoint 0) .schedule now }

/-- The relay turned off: detection ends and a min-cycle force is released. -/
def relayTurnedOff (trv : TrvEntity) (now : Instant) : TrvEntity :=
  let reset := { trv with openWindow := {} }
  if reset.isForcedOpenFor .minCycle then reset.releaseForce now else reset

end TrvEntity

/-! ## Relays -/

namespace Runtime

/-- Change one heating zone. -/
def modifyHeatingZone (runtime : Runtime) (name : String)
    (change : HeatingZoneEntity → HeatingZoneEntity) : Runtime :=
  { runtime with world := runtime.world.modifyHeatingZone name change }

/-- Change one valve. -/
def modifyTrv (runtime : Runtime) (name : String) (change : TrvEntity → TrvEntity) : Runtime :=
  { runtime with world := runtime.world.modifyTrv name change }

/-- Change the valves of a zone. -/
def modifyTrvs (runtime : Runtime) (trvs : List ZoneTrv) (change : TrvEntity → TrvEntity) :
    Runtime :=
  trvs.foldl (fun runtime trv => runtime.modifyTrv trv.device change) runtime

/-- Number of zones whose relay is observed on. -/
def activeRelayCount (runtime : Runtime) : Nat :=
  OrderedMap.countValues runtime.world.heatingZones (·.isRelayOn)

/-- Some relay is observed on. -/
def isPumpRunning (runtime : Runtime) : Bool :=
  OrderedMap.anyValue runtime.world.heatingZones (·.isRelayOn)

end Runtime

namespace HeatingZoneEntity

/-- Record the first or a changed observation of the relay. -/
def observeRelay (zone : HeatingZoneEntity) (on : Bool) (temperature : Option ℚ)
    (now : Instant) : HeatingZoneEntity :=
  { zone with actual := zone.actual.update { relayOn := on, temperature } now }

/-- The relay is known from now on. -/
def contact (zone : HeatingZoneEntity) (on : Bool) (temperature : Option ℚ) (now : Instant) :
    HeatingZoneEntity :=
  if zone.relayStateKnown then zone
  else { zone.observeRelay on temperature now with relayStateKnown := true }

/-- Confirm a command in flight for a relay state. -/
def confirmRelay (zone : HeatingZoneEntity) (value : HeatingZoneTarget) (now : Instant) :
    HeatingZoneEntity :=
  if zone.target.value = some value ∧ zone.target.isActionable then
    { zone with target := zone.target.confirm now }
  else zone

/-- An OFF echo after the grace period: the ON command failed. -/
def acceptOff (zone : HeatingZoneEntity) (temperature : Option ℚ) (now : Instant) :
    HeatingZoneEntity :=
  { zone.observeRelay false temperature now with
    target := (zone.target.setAndCommand .off .schedule now).confirm now
    relayOnSince := none }

/-- The confirmed target contradicts the relay. -/
def isMismatched (zone : HeatingZoneEntity) : Bool :=
  match zone.target.value with
  | some .off => zone.isRelayOn
  | some .heating => !zone.isRelayOn
  | none => false

/-- Command a confirmed target again that the relay contradicts. -/
def redirty (zone : HeatingZoneEntity) (now : Instant) : HeatingZoneEntity :=
  match zone.target.value, zone.target.owner with
  | some value, some owner =>
      if zone.target.phase = .confirmed ∧ zone.isMismatched then
        { zone with target := zone.target.setAndCommand value owner now }
      else zone
  | _, _ => zone

/-- The ON command is recent enough for the relay not to have followed yet. -/
def withinGrace (zone : HeatingZoneEntity) (now : Instant) : Bool :=
  zone.target.since.any fun since => decide (durationSince now since < relayActuationGrace)

end HeatingZoneEntity

namespace Runtime

variable (runtime : Runtime)

/-- A report that repeats the known relay state. -/
def relayRepeated (name : String) (on firstContact pumpRunning : Bool) (relaysOnBefore : Nat)
    (temperature : Option ℚ) (now : Instant) : Runtime :=
  let seeded :=
    if firstContact && !on && !pumpRunning then
      { runtime with pumpOffSince := runtime.pumpOffSince.or (some now) }
    else runtime
  let zone := seeded.world.heatingZoneAt name
  if !on && zone.target.phase == .commanded then
    match zone.target.value with
    | some .heating =>
        if zone.withinGrace now then seeded
        else
          let accepted := seeded.modifyHeatingZone name fun zone => zone.acceptOff temperature now
          if relaysOnBefore = 0 then
            { accepted with pumpOffSince := some now, pumpOnSince := none }
          else accepted
    | some .off =>
        { seeded.modifyHeatingZone name fun zone =>
            { zone with target := zone.target.confirm now } with
          pumpOffSince := some now }
    | none => seeded
  else seeded

/-- A report that the relay turned on. -/
def relayTurnedOn (zone : HeatingZone) (relaysOnBefore : Nat) (temperature : Option ℚ)
    (now : Instant) : Runtime :=
  let observed := runtime.modifyHeatingZone zone.name fun entity =>
    { entity.observeRelay true temperature now with relayOnSince := some now }
  let detecting :=
    if observed.startupComplete then observed.modifyTrvs zone.trvs (·.startDetection now)
    else observed
  let confirmed := detecting.modifyHeatingZone zone.name (·.confirmRelay .heating now)
  if relaysOnBefore = 0 then { confirmed with pumpOnSince := some now, pumpOffSince := none }
  else confirmed

/-- A report that the relay turned off. -/
def relayTurnedOff (zone : HeatingZone) (relaysOnBefore : Nat) (temperature : Option ℚ)
    (now : Instant) : Runtime :=
  let observed := runtime.modifyHeatingZone zone.name fun entity =>
    { entity.observeRelay false temperature now with relayOnSince := none }
  let released := observed.modifyTrvs zone.trvs (·.relayTurnedOff now)
  let confirmed := released.modifyHeatingZone zone.name (·.confirmRelay .off now)
  if relaysOnBefore = 1 then { confirmed with pumpOffSince := some now, pumpOnSince := none }
  else confirmed

/-- Take in the relay state a wall thermostat reported. -/
def observeRelay (zone : HeatingZone) (on : Bool) (temperature : Option ℚ) (now : Instant) :
    Runtime :=
  let relaysOnBefore := runtime.activeRelayCount
  let pumpRunning := runtime.isPumpRunning
  let before := runtime.world.heatingZoneAt zone.name
  let contacted := runtime.modifyHeatingZone zone.name (·.contact on temperature now)
  if before.isRelayOn = on then
    contacted.relayRepeated zone.name on (!before.relayStateKnown) pumpRunning relaysOnBefore
      temperature now
  else
    let changed :=
      if on then contacted.relayTurnedOn zone relaysOnBefore temperature now
      else contacted.relayTurnedOff zone relaysOnBefore temperature now
    changed.modifyHeatingZone zone.name (·.redirty now)

end Runtime

/-! ## Handlers -/

namespace Env

variable (env : Env)

/-- Reassert the mode a device must stay in. -/
def reassertMode (device : DeviceIdx) (current : Option String) (expected : String)
    (payload : String → Payload) : List Effect :=
  match current with
  | none => []
  | some mode => if mode = expected then [] else [.publishDeviceSet device (payload expected)]

/-- Keep a valve under the controller: Sonoff valves in system mode, others in manual mode. -/
def checkTrvMode (device : String) (world : WorldState) : List Effect :=
  match env.topology.deviceIdx device with
  | none => []
  | some idx =>
      let actual := (world.trvs[device]?).bind (·.actual.value)
      if (env.topology.trvVariant device).getD "bosch-bth-ra" = "sonoff-trvzb" then
        reassertMode idx (actual.bind (·.systemMode)) "heat" .systemMode
      else reassertMode idx (actual.bind (·.operatingMode)) "manual" .operatingMode

/-- Keep a wall thermostat in manual mode. -/
def checkWtMode (config : HeatingConfig) (device : String) (world : WorldState) : List Effect :=
  match env.topology.deviceIdx device with
  | none => []
  | some idx =>
      let mode := (config.zoneOfRelay device).bind fun zone =>
        (world.heatingZones[zone.name]?).bind (·.wtOperatingMode)
      reassertMode idx mode "manual" .operatingMode

/-- Handle a valve report. -/
def handleTrvState (config : HeatingConfig) (device : String) (report : TrvReport)
    (runtime : Runtime) : Runtime :=
  if config.hasTrv device then
    runtime.modifyTrv device fun trv => trv.observe report env.clock.now runtime.heatingTickGen
  else runtime

/-- Handle a wall-thermostat report. -/
def handleWallThermostatState (config : HeatingConfig) (device : String) (relayOn : Option Bool)
    (temperature : Option ℚ) (operatingMode : Option String) (runtime : Runtime) : Runtime :=
  match config.zoneOfRelay device with
  | none => runtime
  | some zone =>
      let seen := runtime.modifyHeatingZone zone.name fun entity =>
        { entity with
          wtLastSeen := some env.clock.now
          wtOperatingMode := operatingMode.or entity.wtOperatingMode }
      match relayOn with
      | none => seen
      | some on => seen.observeRelay zone on temperature env.clock.now

end Env

end MqttController
