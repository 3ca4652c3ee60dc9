import Mathlib.Data.Rat.Defs

/-!
# Messages between the dashboard and the controller

The messages as the dashboard parses them, with the fields it reads when it confirms commands and
answers requests, and those that carry the state of an entity.
-/

namespace MqttController.Frontend

/-- Phase and owner of a target. -/
structure TargetMeta where
  phase : String
  owner : String
  deriving DecidableEq, Repr

/-- Freshness of an observation. -/
structure ActualMeta where
  freshness : String
  deriving DecidableEq, Repr

/-! ## Schedules -/

structure SlotPlan where
  name : String
  fromTime : String
  toTime : String
  sceneIds : List Nat
  deriving DecidableEq, Repr

structure SchedulePlan where
  slots : List SlotPlan
  overridden : Bool
  deriving DecidableEq, Repr

structure SwitchStep where
  sceneId : Nat
  lights : List String
  deriving DecidableEq, Repr

/-- The switch steps of slots, in the order of the record's keys. -/
abbrev SwitchSteps := List (String × List SwitchStep)

structure TimedAction where
  binding : String
  time : String
  overridden : Bool
  deriving DecidableEq, Repr

inductive PlugAction
  | on
  | off
  | toggle
  deriving DecidableEq, Repr

structure PlugTimedAction where
  time : String
  action : PlugAction
  deriving DecidableEq, Repr

structure KillSwitchPlan where
  thresholdWatts : ℚ
  holdoffSecs : Int
  deriving DecidableEq

structure PlugSchedule where
  timedActions : List PlugTimedAction
  killSwitch : Option KillSwitchPlan
  overridden : Bool
  deriving DecidableEq

inductive Weekday
  | monday
  | tuesday
  | wednesday
  | thursday
  | friday
  | saturday
  | sunday
  deriving DecidableEq, Repr

structure ScheduleRange where
  start : String
  finish : String
  temperature : ℚ
  deriving DecidableEq

/-- The ranges of some days, in the order of the record's keys. -/
structure ValveSchedule where
  days : List (Weekday × List ScheduleRange)
  deriving DecidableEq

/-! ## Entities -/

/-- What a room is meant to show. -/
inductive RoomTarget
  | off
  | on (sceneId : Int)
  deriving DecidableEq, Repr

structure MotionRule where
  name : String
  schedule : SchedulePlan
  deriving DecidableEq, Repr

structure Room where
  name : String
  target : Option TargetMeta
  actual : Option ActualMeta
  targetValue : Option RoomTarget
  /-- The group is reported on. -/
  actualValue : Option Bool
  motionEnabled : Bool
  motionRules : List MotionRule
  schedule : SchedulePlan
  switchSteps : SwitchSteps
  timedActions : List TimedAction
  deriving DecidableEq, Repr

structure PlugReading where
  on : Bool
  power : Option ℚ
  deriving DecidableEq

structure Plug where
  device : String
  target : Option TargetMeta
  actual : Option ActualMeta
  /-- The plug is meant to be on. -/
  targetValue : Option Bool
  actualValue : Option PlugReading
  schedule : PlugSchedule
  deriving DecidableEq

/-- What a light is meant to show. -/
inductive LightTarget
  | off
  | on (brightness colorTemp : Option ℚ)
  deriving DecidableEq

structure LightReading where
  on : Bool
  brightness : Option ℚ
  colorTemp : Option ℚ
  deriving DecidableEq

structure Light where
  device : String
  target : Option TargetMeta
  actual : Option ActualMeta
  targetValue : Option LightTarget
  actualValue : Option LightReading
  deriving DecidableEq

structure Boost where
  temperature : ℚ
  deriving DecidableEq

structure Valve where
  device : String
  heatDemandEnabled : Bool
  boost : Option Boost
  scheduleOverride : Bool
  schedulePlan : Option ValveSchedule
  deriving DecidableEq

structure HeatingZone where
  name : String
  target : Option TargetMeta
  actual : Option ActualMeta
  /-- The zone is meant to heat. -/
  targetValue : Option Bool
  /-- The relay is reported on. -/
  actualValue : Option Bool
  trvs : List Valve
  deriving DecidableEq

/-! ## Messages -/

/-- What the dashboard asks the controller to do. -/
inductive ControlCommand
  | recallScene (room : String) (sceneId : Int)
  | setRoomOff (room : String)
  | setMotionEnabled (room : String) (enabled : Bool)
  | setHeatDemandEnabled (device : String) (enabled : Bool)
  | startValveBoost (device : String) (durationMinutes : Int) (temperature : ℚ)
  | setValveBoostTarget (device : String) (temperature : ℚ)
  | cancelValveBoost (device : String)
  | setValveSchedule (device : String) (schedule : ValveSchedule)
  | resetValveSchedule (device : String)
  | setRoomSchedule (room : String) (slots : List SlotPlan) (switchSteps : SwitchSteps)
  | resetRoomSchedule (room : String)
  | setMotionSchedule (rule : String) (slots : List SlotPlan)
  | resetMotionSchedule (rule : String)
  | setTimedActionTime (binding time : String)
  | resetTimedActionTime (binding : String)
  | setPlugSchedule (device : String) (timedActions : List PlugTimedAction)
      (killSwitch : Option KillSwitchPlan)
  | resetPlugSchedule (device : String)
  | setPlugPower (device : String) (on : Bool)
  deriving DecidableEq

structure Snapshot where
  rooms : List Room
  plugs : List Plug
  heatingZones : List HeatingZone
  lights : List Light
  deriving DecidableEq

inductive EntityUpdate
  | room (data : Room)
  | plug (data : Plug)
  | light (data : Light)
  | heatingZone (data : HeatingZone)
  deriving DecidableEq

/-- The answer to a request for the history of a device; the recorded points are left out. -/
structure DeviceHistory where
  requestId : Nat
  device : String
  error : Option String
  deriving DecidableEq, Repr

structure RelayReading where
  zone : String
  device : String
  on : Option Bool
  freshness : String
  deriving DecidableEq, Repr

/-- A sample of the heating; the meter of the heat pump is left out. -/
structure HeatingEnergyPoint where
  timestampEpochMs : Int
  relays : List RelayReading
  deriving DecidableEq, Repr

structure HeatingEnergyHistory where
  requestId : Nat
  fromEpochMs : Int
  toEpochMs : Int
  points : List HeatingEnergyPoint
  error : Option String
  deriving DecidableEq, Repr

/-- What the controller sends, but for the answers to heartbeats. -/
inductive ServerMessage
  | stateSnapshot (snapshot : Snapshot)
  | entity (update : EntityUpdate)
  | commandResult (requestId : Nat) (error : Option String)
  | valveHistory (history : DeviceHistory)
  | plugPowerHistory (history : DeviceHistory)
  | heatingEnergyHistory (history : HeatingEnergyHistory)
  | eventLog
  | entityLog
  | topology
  deriving DecidableEq

/-- What the dashboard sends, but for heartbeats. -/
inductive Request
  | getState
  | command (requestId : Nat) (command : ControlCommand)
  | getValveHistory (requestId : Nat) (device : String)
  | getPlugPowerHistory (requestId : Nat) (device : String)
  | getHeatingEnergyHistory (requestId : Nat)
  deriving DecidableEq

end MqttController.Frontend
