import Mathlib.Data.Finset.Basic
import Mathlib.Data.Finset.Filter
import MqttController.Domain
import MqttController.Tass

/-!
# Entities and the world state

Every entity holds a target and an actual half.  The world state is the collection of all entities
by name with the state of deferred presses and timed triggers.
-/

namespace MqttController

open Std

/-! ## Lights -/

/-- What a light is told to be. -/
inductive LightTarget
  | off
  | on (brightness colorTemp : Option Nat)
  deriving DecidableEq, Repr

/-- What a light reports. -/
structure LightActual where
  on : Bool
  brightness : Option Nat
  colorTemp : Option Nat
  colorXy : Option (ℚ × ℚ)
  deriving DecidableEq

namespace LightTarget

/-- The target is an On target. -/
def isOn : LightTarget → Bool
  | off => false
  | on _ _ => true

/-- A report shows what the target asks for. -/
def isMatchedBy (target : LightTarget) (actual : LightActual) : Bool :=
  match target with
  | off => !actual.on
  | on brightness colorTemp =>
      actual.on && brightness.all (fun value => actual.brightness == some value) &&
        colorTemp.all (fun value => actual.colorTemp == some value)

end LightTarget

/-- A light. -/
structure LightEntity where
  target : TassTarget LightTarget := .unset
  actual : TassActual LightActual := .unknown
  deriving DecidableEq

namespace LightEntity

instance : Inhabited LightEntity := ⟨{}⟩

/-- The target value is On. -/
def targetIsOn (light : LightEntity) : Bool := light.target.value.any LightTarget.isOn

/-- The last report says on. -/
def actualIsOn (light : LightEntity) : Bool := light.actual.value.any (·.on)

/-- On by its last report or by its target. -/
def isOn (light : LightEntity) : Bool := light.actualIsOn || light.targetIsOn

/-- Set the target and mark it commanded. -/
def command (light : LightEntity) (value : LightTarget) (owner : Owner) (ts : Instant) :
    LightEntity :=
  { light with target := light.target.setAndCommand value owner ts }

/-- Change only the owner of the target. -/
def reassignOwner (light : LightEntity) (owner : Owner) (ts : Instant) : LightEntity :=
  { light with target := light.target.reassignOwner owner ts }

/-- Take over a target value without a command. -/
def adopt (light : LightEntity) (value : LightTarget) (owner : Owner) (ts : Instant) :
    LightEntity :=
  { light with target := light.target.adopt value owner ts }

end LightEntity

/-! ## Light zones -/

/-- What a zone is told to be. -/
inductive LightZoneTarget
  | off
  | on (sceneId cycleIdx : Nat)
  deriving DecidableEq, Repr

/-- What a zone is observed to be. -/
inductive LightZoneActual
  | on
  | off
  deriving DecidableEq, Repr

/-- The position in a switch-step sequence. -/
structure SwitchCycle where
  slot : String
  step : Nat
  deriving DecidableEq, Repr

/-- A controllable light zone, one per room. -/
structure LightZoneEntity where
  target : TassTarget LightZoneTarget := .unset
  actual : TassActual LightZoneActual := .unknown
  switchCycle : Option SwitchCycle := none
  /-- Most recent press. -/
  lastPressAt : Option Instant := none
  /-- Most recent OFF from any cause. -/
  lastOffAt : Option Instant := none
  /-- Most recent OFF by motion. -/
  lastMotionOffAt : Option Instant := none
  deriving DecidableEq

namespace LightZoneEntity

instance : Inhabited LightZoneEntity := ⟨{}⟩

/-- The target value is On. -/
def targetIsOn (zone : LightZoneEntity) : Bool :=
  zone.target.value.any fun
    | .on _ _ => true
    | .off => false

/-- The last observation is On. -/
def actualIsOn (zone : LightZoneEntity) : Bool := zone.actual.value == some .on

/-- On by its target or by its last observation. -/
def isOn (zone : LightZoneEntity) : Bool := zone.targetIsOn || zone.actualIsOn

/-- Scene cycle position of the target, zero when off. -/
def cycleIdx (zone : LightZoneEntity) : Nat :=
  match zone.target.value with
  | some (.on _ cycleIdx) => cycleIdx
  | _ => 0

/-- Motion owns the target. -/
def isMotionOwned (zone : LightZoneEntity) : Bool := zone.target.owner == some .motion

/-- Set the target and mark it commanded. -/
def command (zone : LightZoneEntity) (value : LightZoneTarget) (owner : Owner) (ts : Instant) :
    LightZoneEntity :=
  { zone with target := zone.target.setAndCommand value owner ts }

/-- Change only the owner of the target. -/
def reassignOwner (zone : LightZoneEntity) (owner : Owner) (ts : Instant) : LightZoneEntity :=
  { zone with target := zone.target.reassignOwner owner ts }

end LightZoneEntity

/-! ## Motion -/

/-- What a motion sensor reports. -/
structure MotionActual where
  occupied : Bool
  illuminance : Option Nat
  deriving DecidableEq, Repr

/-- The last live report of a sensor. -/
structure MotionEvent where
  occupied : Bool
  timestampEpochMs : Nat
  deriving DecidableEq, Repr

/-- A motion sensor. -/
structure MotionSensorEntity where
  actual : TassActual MotionActual := .unknown
  lastEvent : Option MotionEvent := none
  deriving DecidableEq

namespace MotionSensorEntity

instance : Inhabited MotionSensorEntity := ⟨{}⟩

/-- The sensor reports occupied and the report is fresh. -/
def isOccupied (sensor : MotionSensorEntity) : Bool :=
  sensor.actual.freshness == .fresh && sensor.actual.value.any (·.occupied)

end MotionSensorEntity

/-- A live occupancy session of a rule. -/
structure MotionSession where
  slot : String
  target : ResolvedMotionTarget
  /-- The devices the session claims. -/
  claimed : Finset DeviceIdx
  deriving DecidableEq

/-- Runtime state of a motion rule. -/
structure MotionRuleState where
  session : Option MotionSession := none
  lastMotionOffAt : Option Instant := none
  deriving DecidableEq

instance : Inhabited MotionRuleState := ⟨{}⟩

/-! ## Plugs and power meters -/

/-- What a plug is told to be. -/
inductive PlugTarget
  | on
  | off
  deriving DecidableEq, Repr

/-- What a plug reports. -/
structure PlugActual where
  on : Bool
  deriving DecidableEq, Repr

/-- State of one kill-switch rule. -/
inductive KillSwitchRuleState
  | inactive
  | armed
  | idle (since : Instant)
  | suppressed
  deriving DecidableEq, Repr

/-- A smart plug. -/
structure PlugEntity where
  target : TassTarget PlugTarget := .unset
  actual : TassActual PlugActual := .unknown
  power : TassActual ℚ := .unknown
  /-- Kill-switch state by rule name. -/
  killSwitchRules : NameMap KillSwitchRuleState := ∅

namespace PlugEntity

instance : Inhabited PlugEntity := ⟨{}⟩

/-- Record an observation of the relay and the power. -/
def observe (plug : PlugEntity) (on : Option Bool) (power : Option ℚ) (ts : Instant) :
    PlugEntity :=
  let plug := match on with
    | some on => { plug with actual := plug.actual.update ⟨on⟩ ts }
    | none => plug
  match power with
  | some watts => { plug with power := plug.power.update (max watts 0) ts }
  | none => plug

/-- On by its target or by its last report. -/
def isOn (plug : PlugEntity) : Bool :=
  plug.target.value == some .on || plug.actual.value.any (·.on)

/-- Forget kill-switch progress on an off transition, keeping suppression. -/
def onOffClearKillSwitches (plug : PlugEntity) : PlugEntity :=
  { plug with
    killSwitchRules := OrderedMap.mapValues plug.killSwitchRules fun
      | .suppressed => .suppressed
      | _ => .inactive }

/-- Suppress every rule after one fired. -/
def suppressAllKillSwitches (plug : PlugEntity) : PlugEntity :=
  { plug with killSwitchRules := OrderedMap.mapValues plug.killSwitchRules fun _ => .suppressed }

end PlugEntity

/-- A power meter. -/
structure PowerMeterEntity where
  power : TassActual ℚ := .unknown
  energy : TassActual ℚ := .unknown
  deriving DecidableEq

instance : Inhabited PowerMeterEntity := ⟨{}⟩

/-! ## Heating zones -/

/-- What a zone's relay is told to be. -/
inductive HeatingZoneTarget
  | heating
  | off
  deriving DecidableEq, Repr

/-- What the wall thermostat reports. -/
structure HeatingZoneActual where
  relayOn : Bool
  temperature : Option ℚ
  deriving DecidableEq

/-- A heating zone. -/
structure HeatingZoneEntity where
  target : TassTarget HeatingZoneTarget := .unset
  actual : TassActual HeatingZoneActual := .unknown
  /-- When the relay was observed to turn on. -/
  relayOnSince : Option Instant := none
  /-- Operating mode the thermostat last reported. -/
  wtOperatingMode : Option String := none
  /-- When the thermostat last reported. -/
  wtLastSeen : Option Instant := none
  /-- When it was last asked for its state because it was silent. -/
  wtLastStaleProbe : Option Instant := none
  /-- The thermostat reported its relay at least once. -/
  relayStateKnown : Bool := false
  /-- Tick generation of the last relay command. -/
  desiredRelayGen : Nat := 0
  deriving DecidableEq

namespace HeatingZoneEntity

instance : Inhabited HeatingZoneEntity := ⟨{}⟩

/-- Silence after which a thermostat is stale. -/
def wtStaleThreshold : Duration := Duration.fromSecs (10 * 60)

/-- The relay is observed on. -/
def isRelayOn (zone : HeatingZoneEntity) : Bool := zone.actual.value.any (·.relayOn)

/-- The thermostat has been silent for the threshold. -/
def isWtStale (zone : HeatingZoneEntity) (now : Instant) : Bool :=
  zone.wtLastSeen.any fun seen => decide (durationSince now seen ≥ wtStaleThreshold)

end HeatingZoneEntity

/-! ## Valves -/

/-- Running state of a valve's controller. -/
inductive HeatingRunningState
  | idle
  | heat
  deriving DecidableEq, Repr

/-- Parse a reported running state. -/
def HeatingRunningState.parse (text : String) : Option HeatingRunningState :=
  if text = "idle" then some .idle else if text = "heat" then some .heat else none

/-- Why a valve is forced open. -/
inductive ForceOpenReason
  | pressureGroup
  | minCycle
  deriving DecidableEq, Repr

/-- What a valve is told to do. -/
inductive TrvTarget
  | setpoint (temperature : ℚ)
  | inhibited (stop : Instant)
  | forcedOpen (reason : ForceOpenReason)
  deriving DecidableEq

/-- What a valve reports. -/
structure TrvActual where
  localTemperature : Option ℚ := none
  piHeatingDemand : Option Nat := none
  runningState : HeatingRunningState := .idle
  runningStateSeen : Bool := false
  setpoint : Option ℚ := none
  operatingMode : Option String := none
  systemMode : Option String := none
  battery : Option Nat := none
  deriving DecidableEq

instance : Inhabited TrvActual := ⟨{}⟩

/-- State of open-window detection. -/
structure OpenWindowState where
  /-- Baseline temperature of the cycle. -/
  tempAtRelayOn : Option ℚ := none
  /-- Highest temperature of the cycle. -/
  tempHighWater : Option ℚ := none
  /-- The check was made in this cycle. -/
  checked : Bool := false
  /-- When the cycle started. -/
  baselineEstablishedAt : Option Instant := none
  deriving DecidableEq

namespace OpenWindowState

/-- Start a cycle with a baseline. -/
def startDetection (_state : OpenWindowState) (now : Instant) (baseline : Option ℚ) :
    OpenWindowState :=
  { tempAtRelayOn := baseline, tempHighWater := baseline, checked := false,
    baselineEstablishedAt := some now }

end OpenWindowState

/-- A thermostatic radiator valve. -/
structure TrvEntity where
  target : TassTarget TrvTarget := .unset
  actual : TassActual TrvActual := .unknown
  openWindow : OpenWindowState := {}
  /-- When the valve last reported. -/
  lastSeen : Option Instant := none
  /-- When it last reported a temperature. -/
  lastTempAt : Option Instant := none
  /-- Tick generation of the last setpoint command. -/
  setpointDirtyGen : Nat := 0
  /-- Which force was last applied. -/
  lastForceReason : Option ForceOpenReason := none
  deriving DecidableEq

namespace TrvEntity

instance : Inhabited TrvEntity := ⟨{}⟩

/-- Silence after which a valve is stale. -/
def staleThreshold : Duration := Duration.fromSecs (30 * 60)

/-- The valve has been silent for the threshold. -/
def isStale (trv : TrvEntity) (now : Instant) : Bool :=
  trv.lastSeen.any fun seen => decide (durationSince now seen ≥ staleThreshold)

/-- The last temperature is recent enough for a baseline. -/
def hasFreshTemp (trv : TrvEntity) (now : Instant) : Bool :=
  trv.lastTempAt.any fun seen => decide (durationSince now seen < staleThreshold)

/-- Inhibited by open-window protection. -/
def isInhibited (trv : TrvEntity) (now : Instant) : Bool :=
  match trv.target.value with
  | some (.inhibited stop) => decide (now < stop)
  | _ => false

/-- Forced open by a rule. -/
def isForcedOpen (trv : TrvEntity) : Bool :=
  match trv.target.value with
  | some (.forcedOpen _) => true
  | _ => false

/-- Forced open for a given reason. -/
def isForcedOpenFor (trv : TrvEntity) (reason : ForceOpenReason) : Bool :=
  trv.target.value == some (.forcedOpen reason)

/-- The setpoint was commanded and not confirmed. -/
def needsSetpointRetry (trv : TrvEntity) : Bool := trv.target.phase == .commanded

/-- The temperature of a plain setpoint target. -/
def targetSetpoint (trv : TrvEntity) : Option ℚ :=
  match trv.target.value with
  | some (.setpoint temperature) => some temperature
  | _ => none

/-- The valve's controller asks for heat. -/
def hasRawDemand (trv : TrvEntity) (minDemand minDemandFallback : Nat) : Bool :=
  match trv.actual.value with
  | none => false
  | some actual =>
      if actual.runningStateSeen then
        if actual.runningState = .heat then
          match actual.piHeatingDemand with
          | some demand => decide (minDemand ≤ demand)
          | none => true
        else false
      else decide (minDemandFallback ≤ actual.piHeatingDemand.getD 0)

/-- Demand that is neither caused by a rule nor suppressed. -/
def hasEffectiveDemand (trv : TrvEntity) (now : Instant) (minDemand minDemandFallback : Nat) :
    Bool :=
  !trv.isInhibited now && !trv.isForcedOpen && !trv.needsSetpointRetry && !trv.isStale now &&
    trv.hasRawDemand minDemand minDemandFallback

end TrvEntity

/-! ## The world -/

/-- A deferred button press. -/
structure PendingPress where
  device : String
  button : String
  ts : Instant
  deadline : Instant
  /-- The press was already dispatched when it was deferred. -/
  alreadyFired : Bool
  deriving DecidableEq, Repr

/-- Order of pairs of names, first component first. -/
abbrev pairOrder : String × String → String × String → Ordering :=
  compareLex (compareOn Prod.fst) (compareOn Prod.snd)

instance : LawfulEqCmp pairOrder where
  eq_of_compare same := by
    obtain ⟨first, second⟩ := compareLex_eq_eq.mp same
    exact Prod.ext (LawfulEqCmp.eq_of_compare first) (LawfulEqCmp.eq_of_compare second)

/-- The state of all entities and of event processing. -/
structure WorldState where
  lightZones : NameMap LightZoneEntity := ∅
  lights : NameMap LightEntity := ∅
  plugs : NameMap PlugEntity := ∅
  powerMeters : NameMap PowerMeterEntity := ∅
  motionSensors : NameMap MotionSensorEntity := ∅
  motionRules : NameMap MotionRuleState := ∅
  heatingZones : NameMap HeatingZoneEntity := ∅
  trvs : NameMap TrvEntity := ∅
  /-- Deferred presses by device and button. -/
  pendingPresses : TreeMap (String × String) PendingPress pairOrder := ∅
  /-- Last hardware double tap by device and button. -/
  lastDoubleTap : TreeMap (String × String) Instant pairOrder := ∅
  /-- Last hour and minute each timed trigger fired. -/
  atLastFired : NameMap (Nat × Nat) := ∅
  /-- Armed off confirmations by binding. -/
  confirmOffPending : NameMap Instant := ∅

end MqttController
