import MqttController.Daemon
import MqttController.Mqtt.Parse

/-!
# Seeding from the state dump

At startup the daemon takes in what zigbee2mqtt has cached of its devices and groups.  An entry of
the dump reaches the processor as the event that a publish of the same payload would be.
-/

namespace MqttController

namespace Mqtt

/-- How many entries of each kind were seeded. -/
structure SeedSummary where
  powerMeters : Nat := 0
  groups : Nat := 0
  lights : Nat := 0
  plugs : Nat := 0
  trvs : Nat := 0
  wallThermostats : Nat := 0
  motionSensors : Nat := 0
  ignored : Nat := 0
  deriving DecidableEq

/-- What an `ON` or `OFF` entry says. -/
def readOnOff (payload : JsonValue) : Option Bool :=
  ((payload.get "state").bind JsonValue.asStr).map fun state => Text.eqIgnoreAsciiCase state "ON"

/-- The entry of a group. -/
def groupEvent (group : String) (payload : JsonValue) (now : Instant) : Option Event :=
  (readOnOff payload).map fun on => .groupState group on now

/-- The entry of a plug. -/
def plugEvent (device : String) (payload : JsonValue) (now : Instant) : Option Event :=
  (readOnOff payload).map fun on =>
    .plugState device on ((payload.get "power").bind JsonValue.asF64) now

/-- The entry of a power meter. -/
def powerMeterEvent (device : String) (payload : JsonValue) (now : Instant) : Option Event :=
  let reading := fun field => ((payload.get field).bind JsonValue.asF64).filter (0 ≤ ·)
  if (reading "power").isSome || (reading "energy").isSome then
    some (.powerMeterState device (reading "power") (reading "energy") now)
  else none

/-- The entry of a light. -/
def lightEvent (device : String) (payload : JsonValue) (now : Instant) : Option Event :=
  (readOnOff payload).map fun on =>
    .lightState device on
      (((payload.get "brightness").bind JsonValue.asU64).map (min · 255))
      (((payload.get "color_temp").bind JsonValue.asU64).map (min · 65535))
      ((payload.get "color").bind fun color =>
        ((color.get "x").bind JsonValue.asF64).bind fun x =>
          ((color.get "y").bind JsonValue.asF64).map fun y => (x, y)) now

/-- The entry of a valve, if it says anything. -/
def trvEvent (device : String) (payload : JsonValue) (now : Instant) : Option Event :=
  let localTemperature := (payload.get "local_temperature").bind JsonValue.asF64
  let piHeatingDemand :=
    ((payload.get "pi_heating_demand").bind JsonValue.asU64).map (min · 100)
  let runningState := (payload.get "running_state").bind JsonValue.asStr
  let occupiedHeatingSetpoint := (payload.get "occupied_heating_setpoint").bind JsonValue.asF64
  let operatingMode := (payload.get "operating_mode").bind JsonValue.asStr
  let systemMode := (payload.get "system_mode").bind JsonValue.asStr
  let battery := ((payload.get "battery").bind JsonValue.asU64).map (min · 100)
  if localTemperature.isSome || piHeatingDemand.isSome || runningState.isSome ||
      occupiedHeatingSetpoint.isSome || operatingMode.isSome || systemMode.isSome ||
      battery.isSome then
    some (.trvState device localTemperature piHeatingDemand runningState occupiedHeatingSetpoint
      operatingMode systemMode battery now)
  else none

/-- The entry of a wall thermostat, if it says anything. -/
def wallThermostatEvent (device : String) (payload : JsonValue) (now : Instant) : Option Event :=
  let relayOn := ((payload.get "state").bind JsonValue.asStr).map fun state =>
    Text.eqIgnoreAsciiCase state "ON"
  let localTemperature := (payload.get "local_temperature").bind JsonValue.asF64
  let operatingMode := (payload.get "operating_mode").bind JsonValue.asStr
  if relayOn.isNone && localTemperature.isNone && operatingMode.isNone then none
  else some (.wallThermostatState device relayOn localTemperature operatingMode now)

/-- The entry of a motion sensor. -/
def occupancyEvent (sensor : String) (payload : JsonValue) (now : Instant) : Option Event :=
  ((payload.get "occupancy").bind JsonValue.asBool).map fun occupied =>
    .occupancy sensor occupied
      (((payload.get "illuminance").bind JsonValue.asU64).map (· % 2 ^ 32)) none now

/-- What seeding has reached. -/
structure Seeding where
  processor : EventProcessor
  /-- The events handed to the processor so far. -/
  events : List Event := []
  /-- Records of everything the processor did. -/
  records : List Record := []
  summary : SeedSummary := {}

namespace Seeding

/-- Hand the event of an entry to the processor and count it. -/
def deliver (seeding : Seeding) (clock : ClockReading) (event : Option Event)
    (count : SeedSummary → SeedSummary) : Seeding :=
  match event with
  | some event =>
      let result := seeding.processor.handleEvent clock event
      { processor := result.1, events := seeding.events ++ [event]
        records := seeding.records ++ result.2, summary := count seeding.summary }
  | none => seeding

/-- Seed one entry of the dump. -/
def step (tables : TopologyTables) (clock : ClockReading) (seeding : Seeding)
    (entry : String × JsonValue) : Seeding :=
  let name := entry.1
  let payload := entry.2
  let now := clock.now
  if (tables.roomByGroupName name).isSome then
    seeding.deliver clock (groupEvent name payload now) fun s => { s with groups := s.groups + 1 }
  else if tables.isPlug name && !tables.isZwavePlug name then
    seeding.deliver clock (plugEvent name payload now) fun s => { s with plugs := s.plugs + 1 }
  else if tables.isKind .powerMeter name then
    seeding.deliver clock (powerMeterEvent name payload now)
      fun s => { s with powerMeters := s.powerMeters + 1 }
  else if tables.isTrv name then
    seeding.deliver clock (trvEvent name payload now) fun s => { s with trvs := s.trvs + 1 }
  else if tables.isWallThermostat name then
    seeding.deliver clock (wallThermostatEvent name payload now)
      fun s => { s with wallThermostats := s.wallThermostats + 1 }
  else if tables.isLight name then
    seeding.deliver clock (lightEvent name payload now) fun s => { s with lights := s.lights + 1 }
  else if tables.roomsForMotion name ≠ [] then
    seeding.deliver clock (occupancyEvent name payload now)
      fun s => { s with motionSensors := s.motionSensors + 1 }
  else { seeding with summary := { seeding.summary with ignored := seeding.summary.ignored + 1 } }

end Seeding

/-- Seed the states of a dump, in the order in which its map yields them. -/
def seedZ2mState (tables : TopologyTables) (clock : ClockReading) (processor : EventProcessor)
    (states : List (String × JsonValue)) : Seeding :=
  states.foldl (Seeding.step tables clock) { processor }

/-- What seeding takes of an event: a report of a valve or wall thermostat that says nothing is
dropped, and an occupancy has no receipt time. -/
def seeded : Event → Option Event
  | .occupancy sensor occupied illuminance _ ts =>
      some (.occupancy sensor occupied illuminance none ts)
  | .trvState _ none none none none none none none _ => none
  | .wallThermostatState _ none none none _ => none
  | event => some event

/-- From one seeding to the next, the processor was handed an event or nothing. -/
structure Hands (clock : ClockReading) (before after : Seeding) (event : Option Event) : Prop where
  /-- The event, and no other. -/
  events : after.events = before.events ++ event.toList
  /-- The processor handled it. -/
  processor : after.processor = (event.elim (before.processor, [])
    (before.processor.handleEvent clock)).1
  /-- What it did is recorded. -/
  records : after.records = before.records ++ (event.elim (before.processor, [])
    (before.processor.handleEvent clock)).2

theorem Hands.of_deliver {clock : ClockReading} {seeding : Seeding} {event parsed : Option Event}
    {count : SeedSummary → SeedSummary} (same : parsed = event) :
    Hands clock seeding (seeding.deliver clock event count) parsed := by
  subst same
  cases parsed with
  | some event => exact ⟨rfl, rfl, rfl⟩
  | none => exact ⟨(List.append_nil _).symm, rfl, (List.append_nil _).symm⟩

section

variable (name : String) (now : Instant) (payload : JsonValue)

theorem groupState_seeded :
    (groupState name now payload).bind seeded = groupEvent name payload now := by
  unfold groupState groupEvent readOnOff saysOn
  cases (payload.get "state").bind JsonValue.asStr with
  | none => rfl
  | some state => rfl

theorem plugState_seeded :
    (plugState name now payload).bind seeded = plugEvent name payload now := by
  unfold plugState plugEvent readOnOff saysOn
  cases (payload.get "state").bind JsonValue.asStr with
  | none => rfl
  | some state => rfl

theorem powerMeterState_seeded :
    (powerMeterState name now payload).bind seeded = powerMeterEvent name payload now := by
  unfold powerMeterState powerMeterEvent
  change _ = if (reading payload "power").isSome || (reading payload "energy").isSome then
    some (Event.powerMeterState name (reading payload "power") (reading payload "energy") now)
      else none
  cases reading payload "power" with
  | some watts => rfl
  | none =>
      cases reading payload "energy" with
      | some energy => rfl
      | none => rfl

theorem lightState_seeded :
    (lightState name now payload).bind seeded = lightEvent name payload now := by
  unfold lightState lightEvent readOnOff saysOn
  cases (payload.get "state").bind JsonValue.asStr with
  | none => rfl
  | some state => rfl

theorem occupancy_seeded (receivedAtEpochMs : Option Nat) :
    (occupancy name receivedAtEpochMs now payload).bind seeded =
      occupancyEvent name payload now := by
  unfold occupancy occupancyEvent
  cases (payload.get "occupancy").bind JsonValue.asBool with
  | none => rfl
  | some occupied => rfl

/-- A valve's entry is dropped exactly when none of its fields is recognised. -/
theorem trvState_seeded :
    (trvState name now payload).bind seeded = trvEvent name payload now := by
  unfold trvState trvEvent percentage
  rw [Option.bind_some]
  generalize (payload.get "local_temperature").bind JsonValue.asF64 = localTemperature
  generalize ((payload.get "pi_heating_demand").bind JsonValue.asU64).map (min · 100) = demand
  generalize (payload.get "running_state").bind JsonValue.asStr = runningState
  generalize (payload.get "occupied_heating_setpoint").bind JsonValue.asF64 = setpoint
  generalize (payload.get "operating_mode").bind JsonValue.asStr = operatingMode
  generalize (payload.get "system_mode").bind JsonValue.asStr = systemMode
  generalize ((payload.get "battery").bind JsonValue.asU64).map (min · 100) = battery
  rcases localTemperature with _ | _
  · rcases demand with _ | _
    · rcases runningState with _ | _
      · rcases setpoint with _ | _
        · rcases operatingMode with _ | _
          · rcases systemMode with _ | _
            · rcases battery with _ | _ <;> rfl
            · rfl
          · rfl
        · rfl
      · rfl
    · rfl
  · rfl

/-- So is the entry of a wall thermostat. -/
theorem wallThermostatState_seeded :
    (wallThermostatState name now payload).bind seeded =
      wallThermostatEvent name payload now := by
  unfold wallThermostatState wallThermostatEvent saysOn
  rw [Option.bind_some]
  generalize ((payload.get "state").bind JsonValue.asStr).map
    (fun state => Text.eqIgnoreAsciiCase state "ON") = relayOn
  generalize (payload.get "local_temperature").bind JsonValue.asF64 = localTemperature
  generalize (payload.get "operating_mode").bind JsonValue.asStr = operatingMode
  rcases relayOn with _ | _
  · rcases localTemperature with _ | _
    · rcases operatingMode with _ | _ <;> rfl
    · rfl
  · rfl

end

variable {topology : Topology} {fromSlice : ByteArray → Option JsonValue}

/-- A light drives no room as a motion sensor, so it does not matter which is looked up first. -/
theorem roomsForMotion_of_isLight {name : String} (light : topology.isLight name = true) :
    topology.roomsForMotion name = [] := by
  by_contra drives
  cases isKind_unique light (isKind_of_roomsForMotion topology.valid drives)

/-- Seeding an entry hands the processor the event that a fresh publish of the same payload would
be. -/
theorem step_parsed {publish : Publish} {clock : ClockReading} {name : String}
    {payload : JsonValue} (fresh : publish.dup = false) (topic : publish.topic = stateTopic name)
    (decoded : fromSlice publish.payload = some payload) (unfiltered : IsStateName name)
    (zigbee : topology.isZwavePlug name = false) (seeding : Seeding) :
    Hands clock seeding (seeding.step topology.toTopologyTables clock (name, payload))
      ((parseEvent topology.toTopologyTables fromSlice publish clock).bind seeded) := by
  rw [parseEvent_state fresh topic unfiltered]
  unfold parseState Seeding.step
  simp only [decoded, Option.bind_some, zigbee, Bool.not_false, Bool.and_true]
  by_cases group : (topology.roomByGroupName name).isSome = true
  · simp only [if_pos group]
    exact Hands.of_deliver (groupState_seeded ..)
  simp only [if_neg group]
  by_cases plug : topology.isPlug name = true
  · simp only [if_pos plug]
    exact Hands.of_deliver (plugState_seeded ..)
  simp only [if_neg plug]
  by_cases meter : topology.isKind .powerMeter name = true
  · simp only [if_pos meter]
    exact Hands.of_deliver (powerMeterState_seeded ..)
  simp only [if_neg meter]
  by_cases trv : topology.isTrv name = true
  · simp only [if_pos trv]
    exact Hands.of_deliver (trvState_seeded ..)
  simp only [if_neg trv]
  by_cases thermostat : topology.isWallThermostat name = true
  · simp only [if_pos thermostat]
    exact Hands.of_deliver (wallThermostatState_seeded ..)
  simp only [if_neg thermostat]
  by_cases light : topology.isLight name = true
  · simp only [if_pos light, roomsForMotion_of_isLight light, ne_eq, not_true_eq_false, if_false]
    exact Hands.of_deliver (lightState_seeded ..)
  simp only [if_neg light]
  by_cases motion : topology.roomsForMotion name ≠ []
  · simp only [if_pos motion]
    exact Hands.of_deliver (occupancy_seeded ..)
  simp only [if_neg motion]
  exact ⟨(List.append_nil _).symm, rfl, (List.append_nil _).symm⟩

/-- The entry of a light that is on, at half its brightness. -/
theorem step_parsed_lamp :
    let lamp := JsonValue.object [("state", .string "on"), ("brightness", .number (.posInt 127))]
    let payload := "\x7b\"state\":\"on\",\"brightness\":127\x7d".toUTF8
    let publish : Publish :=
      { topic := "zigbee2mqtt/lamp", payload, dup := false, retain := false }
    let fromSlice := fun bytes => if bytes.data = payload.data then some lamp else none
    let processor : EventProcessor :=
      { automation := House.landingAutomation [], runtime := {} }
    let tables := (House.landingTopology []).toTopologyTables
    Hands (House.clock 0) { processor }
        (Seeding.step tables (House.clock 0) { processor } ("lamp", lamp))
        ((parseEvent tables fromSlice publish (House.clock 0)).bind seeded) ∧
      (Seeding.step tables (House.clock 0) { processor } ("lamp", lamp)).events =
        [.lightState "lamp" true (some 127) none none 0] := by
  intro lamp payload publish fromSlice processor tables
  have hands :=
    @step_parsed (House.landingTopology []) fromSlice publish (House.clock 0) "lamp" lamp
      rfl rfl (if_pos rfl) ⟨by decide +kernel, by decide +kernel⟩ (by rfl) { processor }
  exact ⟨hands, by decide +kernel⟩

/-! ## Seeding as a part of a run -/

theorem Hands.run {clock : ClockReading} {before after : Seeding} {event : Option Event}
    (hands : Hands clock before after event) (reports : ∀ handed ∈ event, handed.isReport = true)
    {history : List Record} {now : Instant} (forward : now ≤ clock.now)
    (run : Run (history ++ before.records)
      { processor := before.processor, stage := .seeding, now }) :
    ∃ later ≤ clock.now, Run (history ++ after.records)
      { processor := after.processor, stage := .seeding, now := later } := by
  cases event with
  | none =>
      have processor : after.processor = before.processor := hands.processor
      have records : after.records = before.records ++ [] := hands.records
      rw [processor, records, List.append_nil]
      exact ⟨now, forward, run⟩
  | some event =>
      have processor : after.processor = (before.processor.handleEvent clock event).1 :=
        hands.processor
      have records :
          after.records = before.records ++ (before.processor.handleEvent clock event).2 :=
        hands.records
      have report : event.isReport = true := reports event rfl
      refine ⟨clock.now, le_refl _, ?_⟩
      rw [processor, records, ← List.append_assoc]
      have taken : Daemon.next { processor := before.processor, stage := .seeding, now } clock
          (.event event) = some ({ processor := (before.processor.handleEvent clock event).1
                                   stage := .seeding, now := clock.now },
            (before.processor.handleEvent clock event).2) := by
        simp only [Daemon.next, if_neg (not_lt.mpr forward), report, if_true, Daemon.proceed]
      exact run.step taken

/-- The event may come before startup, and what it says of a plug it says of one of the catalog. -/
def Deliverable (tables : TopologyTables) (event : Event) : Prop :=
  event.isReport = true ∧ ∀ device, event.reportsPlug device → tables.isPlug device = true

/-- Every entry hands over a report or nothing. -/
theorem step_reports (tables : TopologyTables) (clock : ClockReading) (seeding : Seeding)
    (entry : String × JsonValue) :
    ∃ event : Option Event, Hands clock seeding (seeding.step tables clock entry) event ∧
      ∀ handed ∈ event, Deliverable tables handed := by
  have delivered : ∀ (event : Option Event) (count : SeedSummary → SeedSummary),
      (∀ handed ∈ event, Deliverable tables handed) →
      ∃ handed : Option Event, Hands clock seeding (seeding.deliver clock event count) handed ∧
        ∀ report ∈ handed, Deliverable tables report :=
    fun event count reports => ⟨event, Hands.of_deliver rfl, reports⟩
  unfold Seeding.step
  dsimp only
  split
  · refine delivered _ _ fun handed made => ?_
    obtain ⟨on, -, rfl⟩ := Option.map_eq_some_iff.mp made
    exact ⟨rfl, fun device named => named.elim⟩
  split
  · rename_i plug
    refine delivered _ _ fun handed made => ?_
    obtain ⟨on, -, rfl⟩ := Option.map_eq_some_iff.mp made
    exact ⟨rfl, fun device named => named ▸ (Bool.and_eq_true_iff.mp plug).1⟩
  split
  · refine delivered _ _ fun handed made => ?_
    simp only [powerMeterEvent, Option.mem_def] at made
    split at made
    · cases made
      exact ⟨rfl, fun device named => named.elim⟩
    · cases made
  split
  · refine delivered _ _ fun handed made => ?_
    simp only [trvEvent, Option.mem_def] at made
    split at made
    · cases made
      exact ⟨rfl, fun device named => named.elim⟩
    · cases made
  split
  · refine delivered _ _ fun handed made => ?_
    simp only [wallThermostatEvent, Option.mem_def] at made
    split at made
    · cases made
    · cases made
      exact ⟨rfl, fun device named => named.elim⟩
  split
  · refine delivered _ _ fun handed made => ?_
    obtain ⟨on, -, rfl⟩ := Option.map_eq_some_iff.mp made
    exact ⟨rfl, fun device named => named.elim⟩
  split
  · refine delivered _ _ fun handed made => ?_
    obtain ⟨on, -, rfl⟩ := Option.map_eq_some_iff.mp made
    exact ⟨rfl, fun device named => named.elim⟩
  · exact ⟨none, ⟨(List.append_nil _).symm, rfl, (List.append_nil _).symm⟩, fun _ none => by
      cases none⟩

/-- Seeding continues the run of a daemon that has not started. -/
theorem run_seedZ2mState (tables : TopologyTables) {clock : ClockReading} {history : List Record}
    {processor : EventProcessor} {now : Instant} (forward : now ≤ clock.now)
    (run : Run history { processor, stage := .seeding, now }) (states : List (String × JsonValue)) :
    ∃ later ≤ clock.now,
      Run (history ++ (seedZ2mState tables clock processor states).records)
        { processor := (seedZ2mState tables clock processor states).processor, stage := .seeding
          now := later } := by
  have folded : ∀ (states : List (String × JsonValue)) (seeding : Seeding) (now : Instant),
      now ≤ clock.now →
      Run (history ++ seeding.records) { processor := seeding.processor, stage := .seeding, now } →
      ∃ later ≤ clock.now,
        Run (history ++ (states.foldl (Seeding.step tables clock) seeding).records)
          { processor := (states.foldl (Seeding.step tables clock) seeding).processor
            stage := .seeding, now := later } := by
    intro states
    induction states with
    | nil => exact fun seeding now forward run => ⟨now, forward, run⟩
    | cons entry rest ih =>
        intro seeding now forward run
        obtain ⟨event, hands, reports⟩ := step_reports tables clock seeding entry
        obtain ⟨later, bound, next⟩ :=
          hands.run (fun handed made => (reports handed made).1) forward run
        exact ih _ later bound next
  exact folded states { processor } now forward (by simpa using run)

end Mqtt

end MqttController
