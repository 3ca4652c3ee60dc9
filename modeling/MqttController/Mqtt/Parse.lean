import MqttController.Domain
import MqttController.Lib.Json

/-!
# Publishes as events

What a publish of the broker says about the house.  The decoder of JSON texts is a parameter:
`fromSlice` is the value of a payload, if it is JSON.
-/

namespace MqttController

/-- A publish as it comes from the broker. -/
structure Publish where
  topic : String
  payload : ByteArray
  /-- The broker may have delivered it before. -/
  dup : Bool
  /-- The broker kept it from before the subscription. -/
  retain : Bool

namespace Mqtt

open Text

/-- Meter property of the power of a Z-Wave plug. -/
def powerW : Nat := 66049

/-- What an `ON` or `OFF` field says. -/
def saysOn (state : String) : Bool := eqIgnoreAsciiCase state "ON"

/-- A meter reading that is not negative. -/
def reading (value : JsonValue) (field : String) : Option ℚ :=
  ((value.get field).bind JsonValue.asF64).filter (0 ≤ ·)

/-- A percentage, at most 100. -/
def percentage (value : JsonValue) (field : String) : Option Nat :=
  ((value.get field).bind JsonValue.asU64).map (min · 100)

/-- A color as coordinates. -/
def colorXy (value : JsonValue) : Option (ℚ × ℚ) :=
  (value.get "color").bind fun color =>
    ((color.get "x").bind JsonValue.asF64).bind fun x =>
      ((color.get "y").bind JsonValue.asF64).map fun y => (x, y)

/-- The state of a group. -/
def groupState (name : String) (now : Instant) (value : JsonValue) : Option Event :=
  ((value.get "state").bind JsonValue.asStr).map fun state => .groupState name (saysOn state) now

/-- The state of a plug, with its power when it is metered. -/
def plugState (name : String) (now : Instant) (value : JsonValue) : Option Event :=
  ((value.get "state").bind JsonValue.asStr).map fun state =>
    .plugState name (saysOn state) ((value.get "power").bind JsonValue.asF64) now

/-- The readings of a power meter, if there are any. -/
def powerMeterState (name : String) (now : Instant) (value : JsonValue) : Option Event :=
  if (reading value "power").isNone && (reading value "energy").isNone then none
  else some (.powerMeterState name (reading value "power") (reading value "energy") now)

/-- The state of a valve. -/
def trvState (name : String) (now : Instant) (value : JsonValue) : Option Event :=
  some (.trvState name ((value.get "local_temperature").bind JsonValue.asF64)
    (percentage value "pi_heating_demand") ((value.get "running_state").bind JsonValue.asStr)
    ((value.get "occupied_heating_setpoint").bind JsonValue.asF64)
    ((value.get "operating_mode").bind JsonValue.asStr)
    ((value.get "system_mode").bind JsonValue.asStr) (percentage value "battery") now)

/-- The state of a wall thermostat. -/
def wallThermostatState (name : String) (now : Instant) (value : JsonValue) : Option Event :=
  some (.wallThermostatState name (((value.get "state").bind JsonValue.asStr).map saysOn)
    ((value.get "local_temperature").bind JsonValue.asF64)
    ((value.get "operating_mode").bind JsonValue.asStr) now)

/-- What a motion sensor sees. -/
def occupancy (name : String) (receivedAtEpochMs : Option Nat) (now : Instant)
    (value : JsonValue) : Option Event :=
  ((value.get "occupancy").bind JsonValue.asBool).map fun occupied =>
    .occupancy name occupied
      (((value.get "illuminance").bind JsonValue.asU64).map (· % 2 ^ 32)) receivedAtEpochMs now

/-- The state of a bulb. -/
def lightState (name : String) (now : Instant) (value : JsonValue) : Option Event :=
  ((value.get "state").bind JsonValue.asStr).map fun state =>
    .lightState name (saysOn state)
      (((value.get "brightness").bind JsonValue.asU64).map (min · 255))
      (((value.get "color_temp").bind JsonValue.asU64).map (min · 65535)) (colorXy value) now

/-- Topics of zigbee2mqtt that are not states of a device or group. -/
def isFiltered (rest : String) : Bool :=
  decide ("bridge/".toList <+: rest.toList) ||
    ["/availability", "/set", "/get"].any fun back => decide (back.toList <:+ rest.toList)

variable (tables : TopologyTables) (fromSlice : ByteArray → Option JsonValue)

/-- A publish of a Z-Wave plug: its switch or its power. -/
def parseZwaveEvent (topic : String) (payload : ByteArray) (now : Instant) : Option Event :=
  (withoutPrefix "zwave/" topic).bind fun rest =>
    match withoutSuffix "/switch_binary/endpoint_0/currentValue" rest with
    | some name =>
        if tables.isZwavePlug name then
          ((fromSlice payload).bind fun value => (value.get "value").bind JsonValue.asBool).map
            fun on => .plugState name on none now
        else none
    | none =>
        match withoutSuffix ("/meter/endpoint_0/value/" ++ toString powerW) rest with
        | some name =>
            if tables.isZwavePlug name then
              -- a plug may report large negative powers
              ((fromSlice payload).bind fun value => (value.get "value").bind JsonValue.asF64).map
                fun watts => .plugPowerUpdate name (max watts 0) now
            else none
        | none => none

/-- A press of a button. -/
def parseAction (name : String) (payload : ByteArray) (now : Instant) : Option Event :=
  (String.fromUTF8? payload).bind fun text =>
    (tables.resolveButtonEvent name (trimMatches '"' text)).map fun pressed =>
      .buttonPress name pressed.2.1 pressed.2.2 now

/-- A publish of a device or group that zigbee2mqtt serves. -/
def parseState (publish : Publish) (clock : ClockReading) (name : String) : Option Event :=
  if (tables.roomByGroupName name).isSome then
    (fromSlice publish.payload).bind (groupState name clock.now)
  else if tables.isPlug name then
    (fromSlice publish.payload).bind (plugState name clock.now)
  else if tables.isKind .powerMeter name then
    (fromSlice publish.payload).bind (powerMeterState name clock.now)
  else if tables.isTrv name then
    (fromSlice publish.payload).bind (trvState name clock.now)
  else if tables.isWallThermostat name then
    (fromSlice publish.payload).bind (wallThermostatState name clock.now)
  else if tables.roomsForMotion name ≠ [] then
    (fromSlice publish.payload).bind
      (occupancy name (if publish.retain then none else some clock.epochMillis) clock.now)
  else if tables.isLight name then
    (fromSlice publish.payload).bind (lightState name clock.now)
  else none

/-- The event of a publish.  A redelivery is dropped. -/
def parseEvent (publish : Publish) (clock : ClockReading) : Option Event :=
  if publish.dup then none
  else
    match parseZwaveEvent tables fromSlice publish.topic publish.payload clock.now with
    | some event => some event
    | none =>
        (withoutPrefix "zigbee2mqtt/" publish.topic).bind fun rest =>
          match withoutSuffix "/action" rest with
          | some name => parseAction tables name publish.payload clock.now
          | none =>
              if isFiltered rest then none
              else parseState tables fromSlice publish clock rest

/-- The topic of the state of a device or group. -/
def stateTopic (friendlyName : String) : String := "zigbee2mqtt/" ++ friendlyName

/-- No part of the namespace claims the name: it is neither a bridge topic, nor a command, an
availability or an action of another device. -/
def IsStateName (name : String) : Prop :=
  isFiltered name = false ∧ ¬ "/action".toList <:+ name.toList

variable {tables fromSlice}

/-- A publish on the topic of a state is read by what the topology knows under the name. -/
theorem parseEvent_state {publish : Publish} {clock : ClockReading} {name : String}
    (fresh : publish.dup = false) (topic : publish.topic = stateTopic name)
    (unfiltered : IsStateName name) :
    parseEvent tables fromSlice publish clock = parseState tables fromSlice publish clock name := by
  have elsewhere : withoutPrefix "zwave/" (stateTopic name) = none := by
    simp [withoutPrefix, stateTopic, stripPrefix, List.cons_prefix_cons]
  have zwave :
      parseZwaveEvent tables fromSlice (stateTopic name) publish.payload clock.now = none := by
    rw [parseZwaveEvent, elsewhere, Option.bind_none]
  rw [parseEvent, fresh, topic, zwave, stateTopic, withoutPrefix_append, Option.bind_some]
  simp only [Bool.false_eq_true, if_false, withoutSuffix_eq_none unfiltered.2, unfiltered.1]

/-- A sensor that drives a room is a motion sensor of the catalog. -/
theorem isKind_of_roomsForMotion (valid : tables.Valid) {name : String}
    (drives : tables.roomsForMotion name ≠ []) : tables.isKind .motionSensor name = true := by
  have rules : tables.motionRulesForSensor name ≠ [] := by
    intro none
    simp [TopologyTables.roomsForMotion, none] at drives
  obtain ⟨rule, listed⟩ := List.exists_mem_of_ne_nil _ rules
  obtain ⟨deployed, senses⟩ := List.mem_filter.mp listed
  exact (valid.rules_fit rule deployed).sensors_known name (List.contains_iff_mem.mp senses)

/-- A device is of one kind. -/
theorem isKind_unique {first second : DeviceKind} {name : String}
    (here : tables.isKind first name = true) (there : tables.isKind second name = true) :
    first = second := by
  simp only [TopologyTables.isKind, Option.any_eq_true_iff_get, beq_iff_eq] at here there
  obtain ⟨idx, found, device, stored, kind⟩ := by simpa using here
  simp_all

/-- A plug served over Z-Wave is a plug. -/
theorem isPlug_of_isZwavePlug (valid : tables.Valid) {name : String}
    (zwave : tables.isZwavePlug name = true) : tables.isPlug name = true := by
  obtain ⟨idx, found, served⟩ := (Option.any_eq_true _ _).mp zwave
  obtain ⟨device, stored, protocol⟩ := (Option.any_eq_true _ _).mp served
  have plug : device.kind = .plug := by
    refine valid.protocols_plugs device (List.mem_of_getElem? stored) ?_
    rw [eq_of_beq protocol]
    rfl
  refine (Option.any_eq_true _ _).mpr
    ⟨idx, found, (Option.any_eq_true _ _).mpr ⟨device, stored, ?_⟩⟩
  rw [plug]
  rfl

/-- What a publish says of a plug, it says of one of the catalog. -/
theorem isPlug_of_parseEvent (valid : tables.Valid) {publish : Publish} {clock : ClockReading}
    {event : Event} (parsed : parseEvent tables fromSlice publish clock = some event)
    {device : String} (reports : event.reportsPlug device) : tables.isPlug device = true := by
  have zwave : ∀ event, parseZwaveEvent tables fromSlice publish.topic publish.payload clock.now =
      some event → event.reportsPlug device → tables.isPlug device = true := by
    intro event parsed reports
    obtain ⟨rest, -, parsed⟩ := Option.bind_eq_some_iff.mp parsed
    split at parsed
    · split at parsed
      · rename_i served
        obtain ⟨on, -, rfl⟩ := Option.map_eq_some_iff.mp parsed
        exact reports ▸ isPlug_of_isZwavePlug valid served
      · cases parsed
    · split at parsed
      · split at parsed
        · rename_i served
          obtain ⟨watts, -, rfl⟩ := Option.map_eq_some_iff.mp parsed
          exact reports ▸ isPlug_of_isZwavePlug valid served
        · cases parsed
      · cases parsed
  unfold parseEvent at parsed
  split at parsed
  · cases parsed
  split at parsed
  · rename_i event' served
    cases parsed
    exact zwave event served reports
  obtain ⟨rest, -, parsed⟩ := Option.bind_eq_some_iff.mp parsed
  split at parsed
  · obtain ⟨text, -, parsed⟩ := Option.bind_eq_some_iff.mp parsed
    obtain ⟨pressed, -, rfl⟩ := Option.map_eq_some_iff.mp parsed
    exact reports.elim
  split at parsed
  · cases parsed
  unfold parseState at parsed
  split at parsed
  · obtain ⟨value, -, parsed⟩ := Option.bind_eq_some_iff.mp parsed
    obtain ⟨state, -, rfl⟩ := Option.map_eq_some_iff.mp parsed
    exact reports.elim
  split at parsed
  · rename_i plug
    obtain ⟨value, -, parsed⟩ := Option.bind_eq_some_iff.mp parsed
    obtain ⟨state, -, rfl⟩ := Option.map_eq_some_iff.mp parsed
    exact reports ▸ plug
  split at parsed
  · obtain ⟨value, -, parsed⟩ := Option.bind_eq_some_iff.mp parsed
    unfold powerMeterState at parsed
    split at parsed
    · cases parsed
    · cases parsed
      exact reports.elim
  split at parsed
  · obtain ⟨value, -, parsed⟩ := Option.bind_eq_some_iff.mp parsed
    cases parsed
    exact reports.elim
  split at parsed
  · obtain ⟨value, -, parsed⟩ := Option.bind_eq_some_iff.mp parsed
    cases parsed
    exact reports.elim
  split at parsed
  · obtain ⟨value, -, parsed⟩ := Option.bind_eq_some_iff.mp parsed
    obtain ⟨occupied, -, rfl⟩ := Option.map_eq_some_iff.mp parsed
    exact reports.elim
  split at parsed
  · obtain ⟨value, -, parsed⟩ := Option.bind_eq_some_iff.mp parsed
    obtain ⟨state, -, rfl⟩ := Option.map_eq_some_iff.mp parsed
    exact reports.elim
  · cases parsed

end Mqtt

end MqttController
