import MqttController.Heating.Telemetry

/-!
# Valve control on a heating tick

Thermostat keepalive, inhibition, pressure groups, schedules and open-window detection.  None of
these touches a relay.
-/

namespace MqttController

open Std

/-- Interval of asking every thermostat for its state. -/
def wtRefreshInterval : Duration := Duration.fromSecs (5 * 60)

/-- Gap between asking a silent thermostat for its state. -/
def wtStaleProbeInterval : Duration := Duration.fromSecs 60

/-- Extra time for missing temperature samples. -/
def openWindowGrace : Duration := Duration.fromSecs (5 * 60)

namespace OpenWindowProtection

/-- Detection window. -/
def detection (protection : OpenWindowProtection) : Duration :=
  Duration.fromSecs (protection.detectionMinutes * 60)

/-- Length of an inhibition. -/
def inhibition (protection : OpenWindowProtection) : Duration :=
  Duration.fromSecs (protection.inhibitMinutes * 60)

end OpenWindowProtection

namespace TrvEntity

/-- An inhibition has ended. -/
def inhibitionExpired (trv : TrvEntity) (now : Instant) : Bool :=
  match trv.target.value with
  | some (.inhibited stop) => decide (stop ≤ now)
  | _ => false

/-- End an inhibition; a running relay starts a new detection cycle. -/
def expireInhibition (trv : TrvEntity) (relayOn : Bool) (now : Instant) : TrvEntity :=
  let released := { trv with
    target := (trv.target.setAndCommand (.setpoint 0) .schedule now).confirm now }
  if relayOn then released.startDetection now else { released with openWindow := {} }

/-- Demand that no rule caused, for a pressure group. -/
def hasOrganicDemand (trv : TrvEntity) (now : Instant) (minDemand minDemandFallback : Nat) :
    Bool :=
  !trv.isForcedOpen && !trv.isInhibited now && !trv.needsSetpointRetry &&
    trv.hasRawDemand minDemand minDemandFallback

/-- Force the valve open. -/
def forceOpen (trv : TrvEntity) (reason : ForceOpenReason) (now : Instant) (tickGen : Nat) :
    TrvEntity :=
  { trv with
    target := trv.target.setAndCommand (.forcedOpen reason) .rule now
    lastForceReason := some reason
    setpointDirtyGen := tickGen }

/-- Inhibit the valve. -/
def inhibit (trv : TrvEntity) (stop now : Instant) (tickGen : Nat) : TrvEntity :=
  { trv with
    target := trv.target.setAndCommand (.inhibited stop) .rule now
    setpointDirtyGen := tickGen }

/-- Command a setpoint. -/
def commandSetpoint (trv : TrvEntity) (temperature : ℚ) (owner : Owner) (now : Instant)
    (tickGen : Nat) : TrvEntity :=
  { trv with
    target := trv.target.setAndCommand (.setpoint temperature) owner now
    setpointDirtyGen := tickGen }

/-- The open-window check was made. -/
def checked (trv : TrvEntity) : TrvEntity :=
  { trv with openWindow := { trv.openWindow with checked := true } }

end TrvEntity

namespace Env

variable (env : Env)

/-- Messages to a device of the catalog. -/
def sendTo (device : String) (payload : Payload) : List Effect :=
  (env.topology.deviceIdx device).toList.map fun idx => .publishDeviceSet idx payload

/-- Ask a device of the catalog for its state. -/
def askFor (device : String) : List Effect :=
  (env.topology.deviceIdx device).toList.map .publishDeviceGet

/-! ## Thermostats -/

/-- The first tick asks every thermostat for its state. -/
def requestStates (config : HeatingConfig) : Emission.Step Runtime Effect := fun runtime =>
  if runtime.startupComplete then (runtime, [])
  else
    ({ runtime with startupComplete := true },
      config.zones.flatMap fun zone => env.askFor zone.relay)

/-- Ask a silent thermostat for its state, once per interval. -/
def probeThermostat (zone : HeatingZone) : Emission.Step Runtime Effect := fun runtime =>
  let now := env.clock.now
  let entity := runtime.world.heatingZoneAt zone.name
  let due := entity.wtLastStaleProbe.all fun last =>
    decide (durationSince now last ≥ wtStaleProbeInterval)
  if entity.isWtStale now && due then
    (runtime.modifyHeatingZone zone.name fun entity => { entity with wtLastStaleProbe := some now },
      env.askFor zone.relay)
  else (runtime.modifyHeatingZone zone.name id, [])

/-- Ask every thermostat for its state, once per interval. -/
def refreshThermostats (config : HeatingConfig) : Emission.Step Runtime Effect := fun runtime =>
  let now := env.clock.now
  if runtime.lastWtRefresh.all fun last => decide (durationSince now last ≥ wtRefreshInterval) then
    ({ runtime with lastWtRefresh := some now },
      config.zones.flatMap fun zone => env.askFor zone.relay)
  else (runtime, [])

/-! ## Inhibitions -/

/-- End the inhibition of one valve when it is due. -/
def expireInhibitionOf (zone : HeatingZone) (runtime : Runtime) (trv : ZoneTrv) : Runtime :=
  let now := env.clock.now
  let relayOn := (runtime.world.heatingZones[zone.name]?).any (·.isRelayOn)
  runtime.modifyTrv trv.device fun entity =>
    if entity.inhibitionExpired now then entity.expireInhibition relayOn now else entity

/-- End the inhibitions that are due. -/
def expireInhibitions (config : HeatingConfig) (runtime : Runtime) : Runtime :=
  config.zones.foldl (fun runtime zone => zone.trvs.foldl (env.expireInhibitionOf zone) runtime)
    runtime

/-! ## Pressure groups -/

/-- The relay of the group's zone is known to be off and not told to turn on. -/
def groupRelayOff (config : HeatingConfig) (group : PressureGroup) (world : WorldState) : Bool :=
  match group.trvs.head? with
  | none => false
  | some device =>
      (config.zones.find? fun zone => zone.trvs.any fun trv => trv.device == device).any
        fun zone => (world.heatingZones[zone.name]?).any fun entity =>
          !entity.isRelayOn && entity.relayStateKnown && entity.target.value != some .heating

/-- A valve of the group asks for heat and the pump can supply it. -/
def groupActive (config : HeatingConfig) (group : PressureGroup) (world : WorldState) : Bool :=
  let (minDemand, fallback) := env.minDemand
  let anyOrganicDemand := group.trvs.any fun device =>
    env.effectiveHeatDemandEnabled device &&
      (world.trvs[device]?).any fun trv => trv.hasOrganicDemand env.clock.now minDemand fallback
  anyOrganicDemand && !groupRelayOff config group world

/-- Force one valve of an active group open, or release it from an inactive one. -/
def enforceOn (active : Bool) (device : String) : Emission.Step Runtime Effect := fun runtime =>
  let now := env.clock.now
  let (minDemand, fallback) := env.minDemand
  match runtime.world.trvs[device]? with
  | none => (runtime, [])
  | some trv =>
      if active then
        if !trv.isInhibited now && !trv.isForcedOpen && !trv.hasRawDemand minDemand fallback then
          (runtime.modifyTrv device (·.forceOpen .pressureGroup now runtime.heatingTickGen),
            env.sendTo device (.trvSetpoint maxSetpoint))
        else (runtime, [])
      else if trv.isForcedOpenFor .pressureGroup && !trv.isInhibited now then
        (runtime.modifyTrv device (·.releaseForce now), [])
      else (runtime, [])

/-- Keep the valves of every group balanced. -/
def enforcePressureGroups (config : HeatingConfig) : Emission.Step Runtime Effect :=
  Emission.forEach (fun group runtime =>
    Emission.forEach (env.enforceOn (env.groupActive config group runtime.world)) group.trvs
      runtime) config.pressureGroups

/-! ## Schedules -/

/-- Push the scheduled or boosted setpoint onto one valve. -/
def evaluateSchedule (config : HeatingConfig) (trv : ZoneTrv) : Emission.Step Runtime Effect :=
  fun runtime =>
    let now := env.clock.now
    let scheduled := (env.valveSchedule config trv).bind fun schedule =>
      schedule.targetTemperature env.clock.localWeekday env.clock.localHour env.clock.localMinute
    match scheduled with
    | none => (runtime, [])
    | some scheduled =>
        let (temperature, owner) := match env.activeBoost trv.device with
          | some boost => (boost.temperature, Owner.webUI)
          | none => (scheduled, Owner.schedule)
        let entity := runtime.world.trvAt trv.device
        let settled := entity.targetSetpoint == some temperature &&
          entity.target.owner == some owner && entity.target.phase == .confirmed
        if entity.isForcedOpen || entity.isInhibited now || settled then
          (runtime.modifyTrv trv.device id, [])
        else
          (runtime.modifyTrv trv.device
            (·.commandSetpoint temperature owner now runtime.heatingTickGen),
            env.sendTo trv.device (.trvSetpoint temperature))

/-- Push the setpoint of the hour onto every valve. -/
def evaluateSchedules (config : HeatingConfig) : Emission.Step Runtime Effect :=
  Emission.forEach (env.evaluateSchedule config) (config.zones.flatMap (·.trvs))

/-- Send again the setpoint of one valve that has not confirmed it. -/
def reconcileSetpoint (runtime : Runtime) (trv : ZoneTrv) : List Effect :=
  match runtime.world.trvs[trv.device]? with
  | none => []
  | some entity =>
      if !entity.needsSetpointRetry || entity.setpointDirtyGen == runtime.heatingTickGen then []
      else
        match entity.target.value with
        | none => []
        | some target => env.sendTo trv.device (.trvSetpoint target.setpointValue)

/-- Send again the setpoints that are not confirmed. -/
def reconcileSetpoints (config : HeatingConfig) : Emission.Step Runtime Effect := fun runtime =>
  (runtime, (config.zones.flatMap (·.trvs)).flatMap (env.reconcileSetpoint runtime))

/-! ## Open windows -/

/-- The temperature did not rise during the detection window. -/
def stayedCold (trv : TrvEntity) (temperatureAtOn : ℚ) : Bool :=
  decide (trv.openWindow.tempHighWater.getD temperatureAtOn ≤ temperatureAtOn + 1 / 10)

/-- The missing samples of a valve are overdue. -/
def samplesOverdue (config : HeatingConfig) (relayOnSince baselineAt : Instant) : Bool :=
  let detection := config.openWindow.detection
  decide (max (relayOnSince + detection + openWindowGrace)
    (baselineAt + detection / 2 + openWindowGrace) ≤ env.clock.now)

/-- Check one valve of a zone whose relay has been on for the detection window. -/
def detectOpenWindow (config : HeatingConfig) (relayOnSince : Instant) (trv : ZoneTrv) :
    Emission.Step Runtime Effect := fun runtime =>
  let now := env.clock.now
  let detection := config.openWindow.detection
  match runtime.world.trvs[trv.device]? with
  | none => (runtime, [])
  | some entity =>
      if entity.openWindow.checked || entity.isInhibited now || entity.isForcedOpen then
        (runtime, [])
      else if !entity.hasEffectiveDemand now config.heatPump.minDemandPercent
          config.heatPump.minDemandPercentFallback then
        (runtime.modifyTrv trv.device (·.checked), [])
      else
        match entity.openWindow.tempAtRelayOn, entity.openWindow.baselineEstablishedAt with
        | none, _ =>
            if durationSince now relayOnSince ≥ detection + openWindowGrace then
              (runtime.modifyTrv trv.device (·.checked), [])
            else (runtime, [])
        | some _, none => (runtime, [])
        | some temperatureAtOn, some baselineAt =>
            let sampled := entity.lastTempAt.any fun last => decide (baselineAt < last)
            if !sampled || durationSince now baselineAt < detection / 2 then
              if env.samplesOverdue config relayOnSince baselineAt then
                (runtime.modifyTrv trv.device (·.checked), [])
              else (runtime, [])
            else if stayedCold entity temperatureAtOn then
              (runtime.modifyTrv trv.device fun entity =>
                entity.checked.inhibit (now + config.openWindow.inhibition) now
                  runtime.heatingTickGen,
                env.sendTo trv.device (.trvSetpoint minSetpoint))
            else (runtime.modifyTrv trv.device (·.checked), [])

/-- Check the valves of one zone. -/
def detectOpenWindowsIn (config : HeatingConfig) (zone : HeatingZone) :
    Emission.Step Runtime Effect := fun runtime =>
  match runtime.world.heatingZones[zone.name]? with
  | none => (runtime, [])
  | some entity =>
      match entity.relayOnSince with
      | none => (runtime, [])
      | some relayOnSince =>
          if entity.isRelayOn &&
              decide (config.openWindow.detection ≤ durationSince env.clock.now relayOnSince) then
            Emission.forEach (env.detectOpenWindow config relayOnSince) zone.trvs runtime
          else (runtime, [])

/-- Inhibit the valves whose room does not warm up. -/
def detectOpenWindows (config : HeatingConfig) : Emission.Step Runtime Effect :=
  Emission.forEach (env.detectOpenWindowsIn config) config.zones

end Env

end MqttController
