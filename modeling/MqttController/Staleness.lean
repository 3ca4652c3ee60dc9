import MqttController.Lights

/-!
# Staleness

Every tick gives up commands that were not confirmed in time and stops trusting readings that are
too old.  Lights and zones are not aged: their state is only published on changes.
-/

namespace MqttController

open Std

/-- Age at which a relay command without confirmation becomes stale. -/
def heatingTargetStaleThreshold : Duration := Duration.fromSecs 60

/-- Silence after which a motion sensor no longer counts as occupied. -/
def motionSensorStaleThreshold : Duration := Duration.fromSecs 300

/-- Silence after which a plug's readings are stale. -/
def plugActualStaleThreshold : Duration := Duration.fromSecs 600

/-- Silence after which a power meter's readings are stale. -/
def powerMeterStaleThreshold : Duration := Duration.fromSecs (65 * 60)

namespace LightZoneEntity

/-- Give up an old command. -/
def age (zone : LightZoneEntity) (now : Instant) : LightZoneEntity :=
  { zone with target := zone.target.markStaleIfOld now targetStaleThreshold }

end LightZoneEntity

namespace LightEntity

/-- Give up an old command. -/
def age (light : LightEntity) (now : Instant) : LightEntity :=
  { light with target := light.target.markStaleIfOld now targetStaleThreshold }

end LightEntity

namespace HeatingZoneEntity

/-- Give up an old command. -/
def age (zone : HeatingZoneEntity) (now : Instant) : HeatingZoneEntity :=
  { zone with target := zone.target.markStaleIfOld now heatingTargetStaleThreshold }

end HeatingZoneEntity

namespace PlugEntity

/-- Give up an old command. -/
def age (plug : PlugEntity) (now : Instant) : PlugEntity :=
  { plug with target := plug.target.markStaleIfOld now targetStaleThreshold }

/-- Stop trusting old readings. -/
def ageActuals (plug : PlugEntity) (now : Instant) : PlugEntity :=
  { plug with
    actual := plug.actual.markStaleIfOld now plugActualStaleThreshold
    power := plug.power.markStaleIfOld now plugActualStaleThreshold }

end PlugEntity

namespace PowerMeterEntity

/-- Take in a report. -/
def observe (meter : PowerMeterEntity) (power energy : Option ℚ) (ts : Instant) :
    PowerMeterEntity :=
  { power := power.elim meter.power fun watts => meter.power.update watts ts
    energy := energy.elim meter.energy fun kwh => meter.energy.update kwh ts }

/-- Stop trusting old readings. -/
def age (meter : PowerMeterEntity) (now : Instant) : PowerMeterEntity :=
  { power := meter.power.markStaleIfOld now powerMeterStaleThreshold
    energy := meter.energy.markStaleIfOld now powerMeterStaleThreshold }

end PowerMeterEntity

namespace MotionSensorEntity

/-- The reading has just become too old. -/
def goesStale (sensor : MotionSensorEntity) (now : Instant) : Bool :=
  sensor.actual.isOld now motionSensorStaleThreshold

/-- Stop trusting an old reading. -/
def age (sensor : MotionSensorEntity) (now : Instant) : MotionSensorEntity :=
  { sensor with actual := sensor.actual.markStaleIfOld now motionSensorStaleThreshold }

/-- Take in a report; only live reports are remembered as events. -/
def observe (sensor : MotionSensorEntity) (occupied : Bool) (illuminance : Option Nat)
    (receivedAtEpochMs : Option Nat) (ts : Instant) : MotionSensorEntity :=
  { actual := sensor.actual.update { occupied, illuminance } ts
    lastEvent := match receivedAtEpochMs with
      | some timestampEpochMs => some { occupied, timestampEpochMs }
      | none => sensor.lastEvent }

end MotionSensorEntity

namespace WorldState

variable (world : WorldState)

/-- Give up commands that were not confirmed in time. -/
def ageTargets (now : Instant) : WorldState :=
  { world with
    lightZones := OrderedMap.mapValues world.lightZones (·.age now)
    lights := OrderedMap.mapValues world.lights (·.age now)
    plugs := OrderedMap.mapValues world.plugs (·.age now)
    heatingZones := OrderedMap.mapValues world.heatingZones (·.age now) }

/-- Stop trusting readings that are too old. -/
def ageActuals (now : Instant) : WorldState :=
  { world with
    powerMeters := OrderedMap.mapValues world.powerMeters (·.age now)
    motionSensors := OrderedMap.mapValues world.motionSensors (·.age now)
    plugs := OrderedMap.mapValues world.plugs (·.ageActuals now) }

/-- A sensor of the rule has just become stale. -/
def losesSensor (rule : ResolvedMotionRule) (now : Instant) : Bool :=
  rule.sensors.any fun sensor => (world.motionSensors[sensor]?).any (·.goesStale now)

/-- Take in a power meter report. -/
def observeMeter (device : String) (power energy : Option ℚ) (ts : Instant) : WorldState :=
  { world with
    powerMeters := OrderedMap.upsert world.powerMeters device default (·.observe power energy ts) }

end WorldState

end MqttController
