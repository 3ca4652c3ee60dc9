import MqttController.Heating.Valves

/-!
# Relay control

The evaluation decides which relays to switch and whether the heat pump's minimum cycle and pause
allow it; the reconciliation repeats commands that no report has confirmed.
-/

namespace MqttController

open Std

namespace HeatingZoneTarget

/-- The message that switches a relay to a target. -/
def payload : HeatingZoneTarget → Payload
  | heating => .deviceOn
  | off => .deviceOff

end HeatingZoneTarget

namespace HeatingZoneEntity

/-- The zone is told to heat. -/
def wantsHeat (zone : HeatingZoneEntity) : Bool := zone.target.value == some .heating

/-- The zone is told to be off. -/
def wantsOff (zone : HeatingZoneEntity) : Bool := zone.target.value == some .off

/-- Command the relay. -/
def commandRelay (zone : HeatingZoneEntity) (value : HeatingZoneTarget) (now : Instant)
    (tickGen : Nat) : HeatingZoneEntity :=
  { zone with
    target := zone.target.setAndCommand value .schedule now
    desiredRelayGen := tickGen }

/-- Take over a target that the observed state already meets. -/
def seed (zone : HeatingZoneEntity) (value : HeatingZoneTarget) (now : Instant) (tickGen : Nat) :
    HeatingZoneEntity :=
  { zone with
    target := (zone.target.setAndCommand value .schedule now).confirm now
    desiredRelayGen := tickGen }

/-- The relay command is not confirmed, so the next tick repeats it. -/
def needsRelayRetry (zone : HeatingZoneEntity) : Bool :=
  match zone.target.value with
  | none => false
  | some desired =>
      let desiredOn := desired == .heating
      if desiredOn != zone.isRelayOn then
        zone.target.phase == .commanded || zone.target.phase == .stale
      else !desiredOn && zone.target.phase == .commanded

end HeatingZoneEntity

/-! ## The pump -/

namespace Runtime

variable (runtime : Runtime)

/-- Earliest of the observed pump start and the times of the ON targets. -/
def effectivePumpOnSince : Option Instant :=
  let pending := OrderedMap.pickValues runtime.world.heatingZones fun zone =>
    if zone.wantsHeat then zone.target.since else none
  match runtime.pumpOnSince, pending.min? with
  | some observed, some earliest => some (min observed earliest)
  | observed, earliest => observed.or earliest

/-- Latest of the observed pump stop and the times of the OFF commands in flight. -/
def effectivePumpOffSince : Option Instant :=
  let pending := OrderedMap.pickValues runtime.world.heatingZones fun zone =>
    if zone.wantsOff && zone.target.phase == .commanded then zone.target.since else none
  match runtime.pumpOffSince, pending.max? with
  | some observed, some latest => some (max observed latest)
  | observed, latest => observed.or latest

/-- The pump has run for its minimum cycle, as far as it is known. -/
def cycleElapsed (config : HeatingConfig) (now : Instant) : Bool :=
  runtime.effectivePumpOnSince.all fun since => decide (config.minCycle ≤ durationSince now since)

/-- The pump has paused for its minimum, as far as it is known. -/
def pauseElapsed (config : HeatingConfig) (now : Instant) : Bool :=
  runtime.effectivePumpOffSince.all fun since => decide (config.minPause ≤ durationSince now since)

end Runtime

/-! ## Evaluation -/

/-- What the evaluation knows of a zone. -/
structure ZoneDecision where
  zone : HeatingZone
  relayIdx : DeviceIdx
  hasDemand : Bool
  relayOn : Bool
  target : Option HeatingZoneTarget
  deriving DecidableEq

namespace ZoneDecision

/-- The zone's relay should turn off. -/
def wantsStop (decision : ZoneDecision) : Bool :=
  !decision.hasDemand && decision.target != some .off && decision.relayOn

/-- Look at the target again. -/
def refresh (world : WorldState) (decision : ZoneDecision) : ZoneDecision :=
  { decision with
    target := (world.heatingZones[decision.zone.name]?).bind fun entity => entity.target.value }

/-- A valve of the zone satisfies a property. -/
def anyTrv (decision : ZoneDecision) (world : WorldState) (holds : TrvEntity → Bool) : Bool :=
  decision.zone.trvs.any fun trv => (world.trvs[trv.device]?).any holds

end ZoneDecision

namespace Env

variable (env : Env)

/-- A valve of the zone has demand that is enabled. -/
def zoneHasDemand (zone : HeatingZone) (world : WorldState) : Bool :=
  let (minDemand, fallback) := env.minDemand
  zone.trvs.any fun trv =>
    env.effectiveHeatDemandEnabled trv.device &&
      (world.trvs[trv.device]?).any fun entity =>
        entity.hasEffectiveDemand env.clock.now minDemand fallback

/-- The decision about one zone; none before its relay is known. -/
def zoneDecision (world : WorldState) (zone : HeatingZone) : Option ZoneDecision :=
  match world.heatingZones[zone.name]? with
  | none => none
  | some entity =>
      if !entity.relayStateKnown then none
      else
        (env.topology.deviceIdx zone.relay).map fun relayIdx =>
          { zone, relayIdx
            hasDemand := env.zoneHasDemand zone world
            relayOn := entity.isRelayOn
            target := entity.target.value }

/-- Give a zone without a target the one its observed state meets. -/
def seedTarget (runtime : Runtime) (decision : ZoneDecision) : Runtime :=
  if decision.target.isSome then runtime
  else
    runtime.modifyHeatingZone decision.zone.name
      (·.seed (if decision.hasDemand || decision.relayOn then .heating else .off) env.clock.now
        runtime.heatingTickGen)

/-- Command the relay of a zone. -/
def commandRelay (decision : ZoneDecision) (value : HeatingZoneTarget) :
    Emission.Step Runtime Effect := fun runtime =>
  (runtime.modifyHeatingZone decision.zone.name
    (·.commandRelay value env.clock.now runtime.heatingTickGen),
    [.publishDeviceSet decision.relayIdx value.payload])

/-- Turn on the relay of a zone with demand, when the pump runs or has paused. -/
def requestOn (config : HeatingConfig) (decision : ZoneDecision) : Emission.Step Runtime Effect :=
  fun runtime =>
    if decision.hasDemand && decision.target != some .heating &&
        (runtime.isPumpRunning || runtime.pauseElapsed config env.clock.now) then
      env.commandRelay decision .heating runtime
    else (runtime, [])

/-- Take back an ON command whose demand is gone. -/
def cancelOn (config : HeatingConfig) (decision : ZoneDecision) : Emission.Step Runtime Effect :=
  fun runtime =>
    if !decision.hasDemand && !decision.relayOn && decision.target == some .heating &&
        runtime.cycleElapsed config env.clock.now then
      env.commandRelay decision .off runtime
    else (runtime, [])

/-- Force one valve open to keep flow while the pump must run on. -/
def holdOpen (trv : ZoneTrv) : Emission.Step Runtime Effect := fun runtime =>
  let now := env.clock.now
  match runtime.world.trvs[trv.device]? with
  | none => (runtime, [])
  | some entity =>
      if entity.isForcedOpen || entity.isInhibited now then (runtime, [])
      else
        (runtime.modifyTrv trv.device (·.forceOpen .minCycle now runtime.heatingTickGen),
          env.sendTo trv.device (.trvSetpoint maxSetpoint))

/-- A zone whose relay is off waits for its ON command to arrive. -/
def hasPendingOn (decisions : List ZoneDecision) (world : WorldState) : Bool :=
  decisions.any fun decision =>
    !decision.relayOn && (world.heatingZones[decision.zone.name]?).any fun entity =>
      entity.wantsHeat && entity.target.phase == .commanded

/-- Relays that stay on when the given number of further ones is turned off. -/
def survivors (runtime : Runtime) (stopping : Nat) : Nat :=
  let pendingOff := OrderedMap.countValues runtime.world.heatingZones fun zone =>
    zone.isRelayOn && zone.wantsOff
  runtime.activeRelayCount - pendingOff - stopping

/-- No flow path stays open through the zones: no valve is forced open and none can be. -/
def noFlowPath (stopping : List ZoneDecision) (world : WorldState) : Bool :=
  let forceable := stopping.any fun decision => decision.anyTrv world fun entity =>
    !entity.isForcedOpen && !entity.isInhibited env.clock.now
  let open' := stopping.any fun decision => decision.anyTrv world (·.isForcedOpen)
  !forceable && !open'

/-- Turn off the relays whose demand is gone, when the pump runs on, may stop or must stop. -/
def stopRelays (config : HeatingConfig) (decisions : List ZoneDecision) :
    Emission.Step Runtime Effect := fun runtime =>
  let stopping := decisions.filter (·.wantsStop)
  if stopping = [] then (runtime, [])
  else if 0 < survivors runtime stopping.length then
    Emission.forEach (fun decision => env.commandRelay decision .off) stopping runtime
  else if hasPendingOn decisions runtime.world then (runtime, [])
  else if runtime.cycleElapsed config env.clock.now || env.noFlowPath stopping runtime.world then
    Emission.forEach (fun decision => env.commandRelay decision .off) stopping runtime
  else Emission.forEach env.holdOpen (stopping.flatMap (·.zone.trvs)) runtime

/-- Decide about every zone. -/
def evaluateRelays (config : HeatingConfig) : Emission.Step Runtime Effect := fun runtime =>
  let decisions := config.zones.filterMap (env.zoneDecision runtime.world)
  let seeded := decisions.foldl env.seedTarget runtime
  let refreshed := decisions.map (·.refresh seeded.world)
  Emission.andThen (Emission.forEach (env.requestOn config) refreshed)
    (Emission.andThen (Emission.forEach (env.cancelOn config) refreshed)
      (env.stopRelays config refreshed)) seeded

/-! ## Reconciliation -/

/-- Repeat the command of one zone that is not confirmed, unless this tick sent it. -/
def reconcileRelay (runtime : Runtime) (zone : HeatingZone) : List Effect :=
  match runtime.world.heatingZones[zone.name]? with
  | none => []
  | some entity =>
      match entity.target.value with
      | none => []
      | some desired =>
          if entity.desiredRelayGen == runtime.heatingTickGen || !entity.needsRelayRetry then []
          else env.sendTo zone.relay desired.payload

/-- Repeat the commands that are not confirmed. -/
def reconcileRelays (config : HeatingConfig) : Emission.Step Runtime Effect := fun runtime =>
  (runtime, config.zones.flatMap (env.reconcileRelay runtime))

end Env

end MqttController
