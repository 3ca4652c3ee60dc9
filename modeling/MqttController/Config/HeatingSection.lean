import MqttController.Config.Deployment
import MqttController.Lib.Validation

/-!
# Checking the heating section

The heating section is checked against the device catalog: relays and valves are of the right kind
and set up to be controlled, and belong to one zone and one pressure group each.
-/

namespace MqttController

open Std Checked

/-- Why the heating section is refused. -/
inductive HeatingSectionError
  | invalidEnergyMeter (device : String)
  /-- A schedule is refused. -/
  | schedule (error : HeatingConfigError)
  | zeroProtectionTimer (field : String) (value : Nat)
  | zeroOpenWindowTimer (field : String) (value : Nat)
  | invalidDemandThreshold (field : String) (value : Nat)
  | duplicateZoneName (zone : String)
  | zoneEmpty (zone : String)
  | relayNotWallThermostat (zone relay : String)
  | relayMissingManualControl (zone relay : String)
  | deviceMissingRequiredMode (zone device deviceKind required : String)
  | duplicateRelay (zone relay otherZone : String)
  | trvNotInCatalog (zone trv : String)
  | unknownSchedule (zone trv schedule : String)
  | trvInMultipleZones (trv zoneA zoneB : String)
  | pressureGroupTooSmall (group : String)
  | pressureGroupTrvNotInZone (group trv : String)
  | pressureGroupMultipleZones (group zoneA zoneB : String)
  | trvInMultiplePressureGroups (trv groupA groupB : String)
  | invalidDeviceOption (device key : String) (value : JsonValue) (reason : String)

/-! ## Options of the devices -/

namespace DeviceOptions

/-- The value is one of a list of texts. -/
def checkChoice (device key : String) (value : JsonValue) (valid : List String) :
    Except HeatingSectionError Unit :=
  require ((value.asStr.any valid.contains) = true)
    (.invalidDeviceOption device key value ("must be one of " ++ toString (valid.map String.quote)))

/-- The value is an integer of a range. -/
def checkU64Range (device key : String) (value : JsonValue) (least most : Nat) (unit : String) :
    Except HeatingSectionError Unit :=
  require ((value.asU64.any fun number => decide (least ≤ number) && decide (number ≤ most)) = true)
    (.invalidDeviceOption device key value
      ("must be " ++ toString least ++ "..=" ++ toString most ++ unit))

/-- The value is a number of a range. -/
def checkF64Range (device key : String) (value : JsonValue) (least most : ℚ) :
    Except HeatingSectionError Unit :=
  require ((value.asF64.any fun number => decide (least ≤ number) && decide (number ≤ most)) = true)
    (.invalidDeviceOption device key value
      ("must be " ++ Text.decimal least ++ "..=" ++ Text.decimal most))

/-- The value is a brightness of the display. -/
def checkBrightness (device key : String) (value : JsonValue) : Except HeatingSectionError Unit :=
  require ((value.asU64.any fun number => decide (number ≤ 100) && decide (number % 10 = 0)) = true)
    (.invalidDeviceOption device key value "must be 0, 10, 20, ..., 100")

/-- The value is a boolean. -/
def checkBoolean (device key : String) (value : JsonValue) : Except HeatingSectionError Unit :=
  require (value.asBool.isSome = true)
    (.invalidDeviceOption device key value "must be a boolean")

/-- An option of a valve, of either variant, is one that its device takes. -/
def validateTrvOption (device : String) : String × JsonValue → Except HeatingSectionError Unit
  | (key, value) =>
    match key with
    | "operating_mode" => checkChoice device key value ["schedule", "manual", "pause"]
    | "display_brightness" => checkBrightness device key value
    | "display_switch_on_duration" => checkU64Range device key value 5 30 " (seconds)"
    | "display_orientation" =>
        checkChoice device key value ["standard_arrangement", "rotated_by_180_degrees"]
    | "displayed_temperature" =>
        checkChoice device key value ["set_temperature", "measured_temperature"]
    | "local_temperature_calibration" => checkF64Range device key value (-5) 5
    | "child_lock" => checkChoice device key value ["LOCK", "UNLOCK"]
    | "system_mode" => checkChoice device key value ["off", "auto", "heat"]
    | "open_window" => checkChoice device key value ["ON", "OFF"]
    | "frost_protection_temperature" => checkF64Range device key value 4 35
    | "temperature_accuracy" => checkF64Range device key value (-1) (-1 / 5)
    | "valve_opening_degree" => checkU64Range device key value 0 100 " (%)"
    | "valve_closing_degree" => checkU64Range device key value 0 100 " (%)"
    | "temperature_sensor_select" =>
        checkChoice device key value ["internal", "external", "external_2", "external_3"]
    | "smart_temperature_control" => checkBoolean device key value
    | _ => .ok ()

/-- The options of a valve are ones that it takes. -/
def validateTrvOptions (device : String) (options : DeviceOptions) :
    Except HeatingSectionError Unit :=
  options.toList.forM (validateTrvOption device)

/-- An option of a wall thermostat is one that it takes. -/
def validateWallThermostatOption (device : String) :
    String × JsonValue → Except HeatingSectionError Unit
  | (key, value) =>
    match key with
    | "heater_type" => checkChoice device key value
        ["underfloor_heating", "central_heating", "radiator", "manual_control"]
    | "operating_mode" => checkChoice device key value ["schedule", "manual", "pause"]
    | "display_brightness" => checkBrightness device key value
    | "display_switch_on_duration" => checkU64Range device key value 5 30 " (seconds)"
    | "valve_type" => checkChoice device key value ["normally_closed", "normally_open"]
    | "activity_led" => checkChoice device key value ["off", "auto", "on"]
    | "local_temperature_calibration" => checkF64Range device key value (-5) 5
    | "child_lock" => checkChoice device key value ["LOCK", "UNLOCK"]
    | "occupied_heating_setpoint" => checkF64Range device key value 5 30
    | _ => .ok ()

/-- The options of a wall thermostat are ones that it takes. -/
def validateWallThermostatOptions (device : String) (options : DeviceOptions) :
    Except HeatingSectionError Unit :=
  options.toList.forM (validateWallThermostatOption device)

/-- An option is set to a text. -/
def isSetTo (options : DeviceOptions) (key text : String) : Bool :=
  (options[key]?).any fun value => value.asStr == some text

end DeviceOptions

/-! ## Schedules and timers -/

/-- The schedules and timers of the section. -/
def HeatingConfig.validateSchedules (heating : HeatingConfig) :
    Except HeatingSectionError Unit := do
  heating.schedules.toList.forM fun entry =>
    (entry.2.validate entry.1).mapError HeatingSectionError.schedule
  require (heating.heatPump.minCycleSeconds ≠ 0) (.zeroProtectionTimer "min_cycle_seconds" 0)
  require (heating.heatPump.minPauseSeconds ≠ 0) (.zeroProtectionTimer "min_pause_seconds" 0)
  require (heating.heatPump.minDemandPercent ≤ 100)
    (.invalidDemandThreshold "min_demand_percent" heating.heatPump.minDemandPercent)
  require (heating.heatPump.minDemandPercentFallback ≤ 100)
    (.invalidDemandThreshold "min_demand_percent_fallback"
      heating.heatPump.minDemandPercentFallback)
  require (heating.openWindow.detectionMinutes ≠ 0) (.zeroOpenWindowTimer "detection_minutes" 0)
  require (heating.openWindow.inhibitMinutes ≠ 0) (.zeroOpenWindowTimer "inhibit_minutes" 0)

namespace Config

variable (config : Config)

/-- The catalog has a device of a kind. -/
def hasKind (kind : DeviceKind) (device : String) : Bool :=
  (config.devices[device]?).any fun entry => entry.kind == kind

/-! ## Zones -/

/-- What the zones so far have claimed. -/
structure ZoneClaims where
  zoneNames : NameMap String := ∅
  /-- The zone of each relay. -/
  relayToZone : NameMap String := ∅
  /-- The zone of each valve. -/
  trvToZone : NameMap String := ∅

/-- The relay of a zone is a wall thermostat that obeys. -/
def checkRelay (zone : HeatingZone) : Except HeatingSectionError Unit := do
  require (config.hasKind .wallThermostat zone.relay = true)
    (.relayNotWallThermostat zone.name zone.relay)
  match config.devices[zone.relay]? with
  | none => pure ()
  | some entry =>
      require (entry.options.isSetTo "heater_type" "manual_control" = true)
        (.relayMissingManualControl zone.name zone.relay)
      require (entry.options.isSetTo "operating_mode" "manual" = true)
        (.deviceMissingRequiredMode zone.name zone.relay "relay"
          "options.operating_mode = \"manual\"")
      DeviceOptions.validateWallThermostatOptions zone.relay entry.options

/-- The mode that a valve of a variant must be set to. -/
def requiredMode (variant : String) : String × String :=
  if variant = "sonoff-trvzb" then ("system_mode", "heat") else ("operating_mode", "manual")

/-- A valve of a zone is a valve that obeys. -/
def checkTrvDevice (zone : HeatingZone) (device : String) : Except HeatingSectionError Unit := do
  require (config.hasKind .trv device = true) (.trvNotInCatalog zone.name device)
  match config.devices[device]? with
  | none => pure ()
  | some entry =>
      let mode := requiredMode (entry.trvVariant.getD "bosch-bth-ra")
      require (entry.options.isSetTo mode.1 mode.2 = true)
        (.deviceMissingRequiredMode zone.name device "TRV"
          ("options." ++ mode.1 ++ " = " ++ mode.2.quote))
      DeviceOptions.validateTrvOptions device entry.options

/-- A valve of a zone obeys, follows a known schedule and belongs to no other zone. -/
def checkTrv (heating : HeatingConfig) (zone : HeatingZone) (trvToZone : NameMap String)
    (trv : ZoneTrv) : Except HeatingSectionError (NameMap String) := do
  config.checkTrvDevice zone trv.device
  require (heating.schedules.contains trv.schedule = true)
    (.unknownSchedule zone.name trv.device trv.schedule)
  claim trvToZone trv.device zone.name fun other =>
    .trvInMultipleZones trv.device other zone.name

/-- A zone is new, and its relay and valves are fit and belong to no other zone. -/
def checkZone (heating : HeatingConfig) (claims : ZoneClaims) (zone : HeatingZone) :
    Except HeatingSectionError ZoneClaims := do
  let zoneNames ← claim claims.zoneNames zone.name zone.name fun _ => .duplicateZoneName zone.name
  require (zone.trvs ≠ []) (.zoneEmpty zone.name)
  config.checkRelay zone
  let relayToZone ← claim claims.relayToZone zone.relay zone.name fun other =>
    .duplicateRelay zone.name zone.relay other
  let trvToZone ← zone.trvs.foldlM (config.checkTrv heating zone) claims.trvToZone
  pure { zoneNames, relayToZone, trvToZone }

/-! ## Pressure groups -/

/-- A valve of a pressure group is in the zone of the others and in no other group. -/
def checkGroupTrv (trvToZone : NameMap String) (group : PressureGroup)
    (state : Option String × NameMap String) (trv : String) :
    Except HeatingSectionError (Option String × NameMap String) := do
  let zoneName ← okOr trvToZone[trv]? (.pressureGroupTrvNotInZone group.name trv)
  let groupZone := state.1.getD zoneName
  require (groupZone = zoneName) (.pressureGroupMultipleZones group.name groupZone zoneName)
  let trvToGroup ← claim state.2 trv group.name fun other =>
    .trvInMultiplePressureGroups trv other group.name
  pure (some groupZone, trvToGroup)

/-- A pressure group has valves of one zone, which are in no other group. -/
def checkPressureGroup (trvToZone trvToGroup : NameMap String) (group : PressureGroup) :
    Except HeatingSectionError (NameMap String) := do
  require (2 ≤ group.trvs.length) (.pressureGroupTooSmall group.name)
  let state ← group.trvs.foldlM (checkGroupTrv trvToZone group) (none, trvToGroup)
  pure state.2

/-- The meter of the heat pump is a power meter. -/
def checkEnergyMeter (heating : Heating) : Except HeatingSectionError Unit :=
  match heating.energyMeter with
  | none => .ok ()
  | some meter => require (config.hasKind .powerMeter meter = true) (.invalidEnergyMeter meter)

/-- Check the heating section. -/
def checkHeating (heating : Heating) : Except HeatingSectionError HeatingConfig := do
  config.checkEnergyMeter heating
  heating.toHeatingConfig.validateSchedules
  let claims ← heating.zones.foldlM (config.checkZone heating.toHeatingConfig) {}
  let _ ← heating.pressureGroups.foldlM (checkPressureGroup claims.trvToZone) ∅
  pure heating.toHeatingConfig

end Config

end MqttController
