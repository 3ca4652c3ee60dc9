import Mathlib.Data.List.Sort
import MqttController.Config.Scenes

/-!
# Heating configuration

Zones with a relay and valves, weekly temperature schedules, pressure groups, and the protection
timers of the shared heat pump.
-/

namespace MqttController

open Std

/-- A range of one day with its target temperature; the end is exclusive. -/
structure DayTimeRange where
  startHour : Nat
  startMinute : Nat
  /-- 24 means the end of the day. -/
  endHour : Nat
  endMinute : Nat
  /-- Degrees Celsius. -/
  temperature : ℚ
  deriving DecidableEq

namespace DayTimeRange

/-- Start as minutes from midnight. -/
def startMinutes (range : DayTimeRange) : Nat := range.startHour * 60 + range.startMinute

/-- Exclusive end as minutes from midnight. -/
def endMinutes (range : DayTimeRange) : Nat := range.endHour * 60 + range.endMinute

/-- The local time falls within the range. -/
def contains (range : DayTimeRange) (hour minute : Nat) : Bool :=
  let now := hour * 60 + minute
  decide (range.startMinutes ≤ now) && decide (now < range.endMinutes)

/-- Every field is in its allowed range. -/
structure FieldsInRange (range : DayTimeRange) : Prop where
  startHour : range.startHour ≤ 23
  endHour : range.endHour ≤ 24
  startMinute : range.startMinute ≤ 59
  endMinute : range.endMinute ≤ if range.endHour = 24 then 0 else 59
  temperature : 5 ≤ range.temperature ∧ range.temperature ≤ 30

/-- A minute of the day lies in the range. -/
def covers (range : DayTimeRange) (minute : Nat) : Bool :=
  range.contains (minute / 60) (minute % 60)

end DayTimeRange

/-- A weekly temperature schedule. -/
structure TemperatureSchedule where
  /-- The ranges of each weekday. -/
  days : TreeMap Weekday (List DayTimeRange)

/-- A valve of a zone and the schedule it follows. -/
structure ZoneTrv where
  /-- Device name of the valve. -/
  device : String
  /-- Name of its schedule. -/
  schedule : String
  deriving DecidableEq, Repr

/-- A heating zone: one relay and its valves. -/
structure HeatingZone where
  /-- Zone name, the key of its runtime state. -/
  name : String
  /-- Wall thermostat acting as the relay. -/
  relay : String
  /-- The zone's valves. -/
  trvs : List ZoneTrv
  deriving DecidableEq, Repr

/-- Valves that must open together. -/
structure PressureGroup where
  /-- Group name. -/
  name : String
  /-- Valve names, all of one zone. -/
  trvs : List String
  deriving DecidableEq, Repr

/-- Short-cycling protection of the heat pump all relays share. -/
structure HeatPumpProtection where
  /-- Enforced from the first relay ON until the last relay may turn off. -/
  minCycleSeconds : Nat
  /-- Enforced from the last relay OFF until any relay may turn on. -/
  minPauseSeconds : Nat
  /-- Demand threshold when the running state is reported. -/
  minDemandPercent : Nat
  /-- Demand threshold when it never was. -/
  minDemandPercentFallback : Nat
  deriving DecidableEq, Repr

/-- Open-window protection. -/
structure OpenWindowProtection where
  /-- Minutes after relay ON until the temperature must have risen. -/
  detectionMinutes : Nat
  /-- Minutes a valve stays inhibited. -/
  inhibitMinutes : Nat
  deriving DecidableEq, Repr

/-- The heating section of the configuration. -/
structure HeatingConfig where
  zones : List HeatingZone
  schedules : NameMap TemperatureSchedule
  pressureGroups : List PressureGroup
  heatPump : HeatPumpProtection
  openWindow : OpenWindowProtection

/-- Why a temperature schedule is rejected. -/
inductive HeatingConfigError
  | missingWeekday (schedule : String) (day : Weekday)
  | startHourOutOfRange (schedule : String) (day : Weekday) (idx hour : Nat)
  | endHourOutOfRange (schedule : String) (day : Weekday) (idx hour : Nat)
  | minuteOutOfRange (schedule : String) (day : Weekday) (idx minute : Nat)
  | endMinuteWith24 (schedule : String) (day : Weekday) (idx minute : Nat)
  | midnightCrossing (schedule : String) (day : Weekday) (idx startH startM endH endM : Nat)
  | temperatureOutOfRange (schedule : String) (day : Weekday) (idx : Nat) (temp : ℚ)
  | overlappingRanges (schedule : String) (day : Weekday) (idxA idxB minute : Nat)
  | gapInCoverage (schedule : String) (day : Weekday) (minute : Nat)
  deriving DecidableEq

namespace TemperatureSchedule

/-- The temperature scheduled for a local time, if a range covers it. -/
def targetTemperature (schedule : TemperatureSchedule) (day : Weekday) (hour minute : Nat) :
    Option ℚ :=
  match schedule.days[day]? with
  | none => none
  | some ranges => (ranges.find? fun range => range.contains hour minute).map (·.temperature)

/-- What is wrong with one range on its own. -/
def rangeError (name : String) (day : Weekday) (idx : Nat) (range : DayTimeRange) :
    Option HeatingConfigError :=
  if 23 < range.startHour then some (.startHourOutOfRange name day idx range.startHour)
  else if 24 < range.endHour then some (.endHourOutOfRange name day idx range.endHour)
  else if 59 < range.startMinute then some (.minuteOutOfRange name day idx range.startMinute)
  else if range.endHour < 24 ∧ 59 < range.endMinute then
    some (.minuteOutOfRange name day idx range.endMinute)
  else if range.endHour = 24 ∧ range.endMinute ≠ 0 then
    some (.endMinuteWith24 name day idx range.endMinute)
  else if range.endMinutes ≤ range.startMinutes then
    some (.midnightCrossing name day idx range.startHour range.startMinute range.endHour
      range.endMinute)
  else if ¬ (5 ≤ range.temperature ∧ range.temperature ≤ 30) then
    some (.temperatureOutOfRange name day idx range.temperature)
  else none

/-- The ranges as start, end and position, ordered by start. -/
def intervals (ranges : List DayTimeRange) : List (Nat × Nat × Nat) :=
  (ranges.zipIdx.map fun entry => (entry.1.startMinutes, entry.1.endMinutes, entry.2)).insertionSort
    fun first second => first.1 ≤ second.1

/-- Walk the intervals, each starting where the previous one ended. -/
def sweep (name : String) (day : Weekday) (sorted : List (Nat × Nat × Nat)) :
    List (Nat × Nat × Nat) → Nat → Except HeatingConfigError Unit
  | [], coveredUntil =>
      if coveredUntil ≠ 1440 then .error (.gapInCoverage name day coveredUntil) else .ok ()
  | (start, stop, idx) :: rest, coveredUntil =>
      if start < coveredUntil then
        let previous := (sorted.find? fun other =>
          decide (other.2.2 ≠ idx) && decide (other.1 < stop) && decide (start < other.2.1)).map
            fun other => other.2.2
        .error (.overlappingRanges name day (previous.getD 0) idx start)
      else if coveredUntil < start then .error (.gapInCoverage name day coveredUntil)
      else sweep name day sorted rest stop

/-- The ranges of one day tile it without gap or overlap. -/
def validateDayCoverage (name : String) (day : Weekday) (ranges : List DayTimeRange) :
    Except HeatingConfigError Unit :=
  match intervals ranges with
  | [] => .error (.gapInCoverage name day 0)
  | first :: rest =>
      if first.1 ≠ 0 then .error (.gapInCoverage name day 0)
      else sweep name day (first :: rest) (first :: rest) 0

/-- The check of one weekday. -/
def validateDay (schedule : TemperatureSchedule) (name : String) (day : Weekday) :
    Except HeatingConfigError Unit :=
  match schedule.days[day]? with
  | none => .error (.missingWeekday name day)
  | some ranges =>
      match ranges.zipIdx.findSome? fun entry => rangeError name day entry.2 entry.1 with
      | some error => .error error
      | none => validateDayCoverage name day ranges

/-- Every weekday is present and its ranges tile it. -/
def validate (schedule : TemperatureSchedule) (name : String) : Except HeatingConfigError Unit :=
  Weekday.all.forM fun day => schedule.validateDay name day

/-- Every minute of the day lies in exactly one of the ranges. -/
def Tiles (ranges : List DayTimeRange) : Prop :=
  ∀ minute < 1440, ranges.countP (fun range => range.covers minute) = 1

/-- What the validator accepts of one day. -/
def DayAccepted (ranges : List DayTimeRange) : Prop :=
  (∀ range ∈ ranges, range.FieldsInRange ∧ range.startMinutes < range.endMinutes) ∧ Tiles ranges

/-- Every weekday is there, and its ranges are accepted. -/
def TilesWeek (schedule : TemperatureSchedule) : Prop :=
  ∀ day : Weekday, ∃ ranges : List DayTimeRange, schedule.days[day]? = some ranges ∧
    DayAccepted ranges

end TemperatureSchedule

namespace HeatingConfig

/-- Some zone has the device as a valve. -/
def hasTrv (config : HeatingConfig) (device : String) : Bool :=
  config.zones.any fun zone => zone.trvs.any fun trv => trv.device == device

/-- The zone whose relay is the device. -/
def zoneOfRelay (config : HeatingConfig) (device : String) : Option HeatingZone :=
  config.zones.find? fun zone => zone.relay == device

/-- Minimum run time of the pump. -/
def minCycle (config : HeatingConfig) : Duration :=
  Duration.fromSecs config.heatPump.minCycleSeconds

/-- Minimum pause of the pump. -/
def minPause (config : HeatingConfig) : Duration :=
  Duration.fromSecs config.heatPump.minPauseSeconds

/-- What validation establishes about a heating configuration on its own. -/
structure Valid (config : HeatingConfig) : Prop where
  /-- Zone names are unique. -/
  zone_names_nodup : (config.zones.map (·.name)).Nodup
  /-- No relay serves two zones. -/
  relays_nodup : (config.zones.map (·.relay)).Nodup
  /-- No valve appears twice, within a zone or across zones. -/
  trvs_nodup : (config.zones.flatMap fun zone => zone.trvs.map (·.device)).Nodup
  /-- Every zone has a valve. -/
  trvs_nonempty : ∀ zone ∈ config.zones, zone.trvs ≠ []
  /-- Every valve's schedule exists. -/
  schedules_exist : ∀ zone ∈ config.zones, ∀ trv ∈ zone.trvs,
    config.schedules.contains trv.schedule = true
  /-- Every pressure group has at least two valves. -/
  groups_large : ∀ group ∈ config.pressureGroups, 2 ≤ group.trvs.length
  /-- The valves of a pressure group are valves of one zone. -/
  groups_in_zone : ∀ group ∈ config.pressureGroups, ∃ zone ∈ config.zones,
    ∀ device ∈ group.trvs, device ∈ zone.trvs.map (·.device)
  /-- No valve appears twice, within a pressure group or across groups. -/
  group_trvs_nodup : (config.pressureGroups.flatMap (·.trvs)).Nodup
  /-- Every schedule tiles the week. -/
  schedules_valid : ∀ entry ∈ config.schedules.toList, entry.2.TilesWeek
  /-- The cycle timer protects. -/
  min_cycle_pos : 0 < config.heatPump.minCycleSeconds
  /-- The pause timer protects. -/
  min_pause_pos : 0 < config.heatPump.minPauseSeconds
  /-- The detection window is not empty. -/
  detection_pos : 0 < config.openWindow.detectionMinutes
  /-- The inhibition is not empty. -/
  inhibit_pos : 0 < config.openWindow.inhibitMinutes

end HeatingConfig

end MqttController
