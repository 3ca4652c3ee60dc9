import MqttController.Boosts
import MqttController.Lib.Text

/-!
# The settings database

Every setting is a row of the settings database, written before the change takes effect.  A process
that starts reads the rows back and applies those that fit the deployed topology.
-/

namespace MqttController

open Std

/-! ## Rows -/

namespace Weekday

/-- The name of a weekday. -/
def display : Weekday → String
  | monday => "monday"
  | tuesday => "tuesday"
  | wednesday => "wednesday"
  | thursday => "thursday"
  | friday => "friday"
  | saturday => "saturday"
  | sunday => "sunday"

end Weekday

namespace HeatingConfigError

/-- Two digits of a number below 100. -/
private def padded (number : Nat) : String :=
  if number < 10 then "0" ++ toString number else toString number

/-- What every schedule error begins with. -/
private def subject (schedule : String) (day : Weekday) : String :=
  "schedule " ++ schedule.quote ++ ", " ++ day.display ++ ": "

/-- The text of a schedule error. -/
def display : HeatingConfigError → String
  | missingWeekday schedule day =>
      "schedule " ++ schedule.quote ++ ": missing weekday " ++ day.display
  | startHourOutOfRange schedule day idx hour =>
      subject schedule day ++ "range " ++ toString idx ++ " has start_hour " ++ toString hour ++
        " out of range (0..=23)"
  | endHourOutOfRange schedule day idx hour =>
      subject schedule day ++ "range " ++ toString idx ++ " has end_hour " ++ toString hour ++
        " out of range (0..=24)"
  | minuteOutOfRange schedule day idx minute =>
      subject schedule day ++ "range " ++ toString idx ++ " has minute " ++ toString minute ++
        " out of range (0..=59)"
  | endMinuteWith24 schedule day idx minute =>
      subject schedule day ++ "range " ++ toString idx ++ " has end_minute " ++ toString minute ++
        " != 0 when end_hour is 24"
  | midnightCrossing schedule day idx startH startM endH endM =>
      subject schedule day ++ "range " ++ toString idx ++ " crosses midnight (start " ++
        toString startH ++ ":" ++ padded startM ++ " >= end " ++ toString endH ++ ":" ++
        padded endM ++ ")"
  | temperatureOutOfRange schedule day idx temp =>
      subject schedule day ++ "temperature " ++ Text.decimal temp ++
        " out of range 5.0..=30.0 in range " ++ toString idx
  | overlappingRanges schedule day idxA idxB minute =>
      subject schedule day ++ "ranges " ++ toString idxA ++ " and " ++ toString idxB ++
        " overlap at minute " ++ toString minute
  | gapInCoverage schedule day minute =>
      subject schedule day ++ "minute " ++ toString minute ++ " is not covered by any range"

end HeatingConfigError

/-- The rows of the settings database, by their keys. -/
structure SettingsStore where
  /-- Whether motion may use a room. -/
  motionSettings : NameMap Bool := ∅
  /-- Whether a valve may demand heat. -/
  heatDemandSettings : NameMap Bool := ∅
  valveBoosts : NameMap ValveBoost := ∅
  valveScheduleOverrides : NameMap TemperatureSchedule := ∅
  roomScheduleOverrides : NameMap RoomScheduleOverride := ∅
  motionScheduleOverrides : NameMap (NameMap Slot) := ∅
  timedActionOverrides : NameMap TimeExpr := ∅
  plugScheduleOverrides : NameMap PlugScheduleOverride := ∅

/-- A change of the database; without a value a row is deleted. -/
inductive SettingsChange
  | motionEnabled (room : String) (enabled : Bool)
  | heatDemandEnabled (device : String) (enabled : Bool)
  | valveBoost (device : String) (boost : Option ValveBoost)
  | valveSchedule (device : String) (schedule : Option TemperatureSchedule)
  | roomSchedule (room : String) (value : Option RoomScheduleOverride)
  | motionSchedule (rule : String) (slots : Option (NameMap Slot))
  | timedActionTime (binding : String) (time : Option TimeExpr)
  | plugSchedule (device : String) (value : Option PlugScheduleOverride)

namespace SettingsStore

/-- Insert, replace or delete a row. -/
def setRow {α : Type} (rows : NameMap α) (key : String) : Option α → NameMap α
  | some value => rows.insert key value
  | none => rows.erase key

/-- Check a boost before it is stored; its end is a signed integer there. -/
def checkBoost (boost : ValveBoost) : Except String Unit :=
  match validateBoostTemperature boost.temperature with
  | .error error => .error error
  | .ok () =>
      if boost.endsAtEpochMs < 2 ^ 63 then .ok ()
      else .error "out of range integral type conversion attempted"

/-- Check the schedule of a valve. -/
def checkSchedule (device : String) (schedule : TemperatureSchedule) : Except String Unit :=
  (schedule.validate device).mapError (·.display)

/-- Check the kill switch of a plug. -/
def checkPlug (value : PlugScheduleOverride) : Except String Unit :=
  match value.killSwitch with
  | none => .ok ()
  | some killSwitch => killSwitch.validate

/-- Check a value that is to be stored. -/
def checkRow {α : Type} (check : α → Except String Unit) : Option α → Except String Unit
  | none => .ok ()
  | some value => check value

/-- Write a change. -/
def write (store : SettingsStore) : SettingsChange → Except String SettingsStore
  | .motionEnabled room enabled =>
      .ok { store with motionSettings := store.motionSettings.insert room enabled }
  | .heatDemandEnabled device enabled =>
      .ok { store with heatDemandSettings := store.heatDemandSettings.insert device enabled }
  | .valveBoost device boost =>
      (checkRow checkBoost boost).map fun _ =>
        { store with valveBoosts := setRow store.valveBoosts device boost }
  | .valveSchedule device schedule =>
      (checkRow (checkSchedule device) schedule).map fun _ =>
        { store with
          valveScheduleOverrides := setRow store.valveScheduleOverrides device schedule }
  | .roomSchedule room value =>
      .ok { store with roomScheduleOverrides := setRow store.roomScheduleOverrides room value }
  | .motionSchedule rule slots =>
      .ok { store with
        motionScheduleOverrides := setRow store.motionScheduleOverrides rule slots }
  | .timedActionTime binding time =>
      .ok { store with timedActionOverrides := setRow store.timedActionOverrides binding time }
  | .plugSchedule device value =>
      (checkRow checkPlug value).map fun _ =>
        { store with plugScheduleOverrides := setRow store.plugScheduleOverrides device value }

/-- The keys of the rows that are switched off. -/
def switchedOff (rows : NameMap Bool) : Finset String :=
  ((rows.toList.filter fun row => !row.2).map Prod.fst).toFinset

/-- Every row passes a check of its key and value. -/
def checkRows {α : Type} (check : String → α → Except String Unit) (rows : NameMap α) :
    Except String Unit :=
  rows.toList.forM fun row => check row.1 row.2

/-- What the rows say. -/
def settings (store : SettingsStore) : ControlSettings :=
  { disabledZones := switchedOff store.motionSettings
    disabledHeatDemand := switchedOff store.heatDemandSettings
    boosts := store.valveBoosts
    scheduleOverrides := store.valveScheduleOverrides
    roomScheduleOverrides := store.roomScheduleOverrides
    motionScheduleOverrides := store.motionScheduleOverrides
    timedActionOverrides := store.timedActionOverrides
    plugScheduleOverrides := store.plugScheduleOverrides }

/-- Read the settings; a row that fails its check fails the whole. -/
def load (store : SettingsStore) : Except String ControlSettings :=
  match checkRows (fun _ boost => validateBoostTemperature boost.temperature) store.valveBoosts,
    checkRows checkSchedule store.valveScheduleOverrides,
    checkRows (fun _ value => checkPlug value) store.plugScheduleOverrides with
  | .error error, _, _ => .error error
  | .ok (), .error error, _ => .error error
  | .ok (), .ok (), .error error => .error error
  | .ok (), .ok (), .ok () => .ok store.settings

end SettingsStore

/-! ## Starting from the database -/

namespace ControlSettings

section Restore

variable (tables : TopologyTables) (location : Option Location) (settings : ControlSettings)

/-- The settings that fit the topology; the others stay in the database. -/
def applicable : ControlSettings :=
  { settings with
    roomScheduleOverrides := settings.roomScheduleOverrides.filter fun name value =>
      (validateRoomOverride tables location name value).isOk
    motionScheduleOverrides := settings.motionScheduleOverrides.filter fun name slots =>
      (validateMotionOverride tables location name slots).isOk
    timedActionOverrides := settings.timedActionOverrides.filter fun name time =>
      (validateTimedAction tables name).isOk && (validateTimedActionTime location time).isOk
    plugScheduleOverrides := settings.plugScheduleOverrides.filter fun name value =>
      (validatePlugOverride tables location name value).isOk }

/-- The switch steps of the room overrides that fit. -/
def resolvedSwitchSteps : NameMap (NameMap (List ResolvedSwitchStep)) :=
  settings.roomScheduleOverrides.filterMap fun name value =>
    (validateRoomOverride tables location name value).toOption

/-- The bindings of the plug overrides that fit. -/
def resolvedPlugBindings : NameMap (List ResolvedBinding) :=
  settings.plugScheduleOverrides.filterMap fun name value =>
    (validatePlugOverride tables location name value).toOption

end Restore

end ControlSettings

theorem isOk_iff {ε α : Type} {result : Except ε α} :
    result.isOk = true ↔ ∃ value, result = .ok value := by
  cases result with
  | error error => simp [Except.isOk, Except.toBool]
  | ok value => simp [Except.isOk, Except.toBool]

theorem toOption_eq_some_iff {ε α : Type} {result : Except ε α} {value : α} :
    result.toOption = some value ↔ result = .ok value := by
  cases result with
  | error error => simp [Except.toOption]
  | ok value => simp [Except.toOption]

namespace ControlSettings

variable {tables : TopologyTables} {location : Option Location} {settings : ControlSettings}

/-- What is restored has passed validation. -/
theorem applicable_fit :
    OverridesFit tables location (settings.applicable tables location)
      (settings.resolvedSwitchSteps tables location)
      (settings.resolvedPlugBindings tables location) where
  rooms name value stored := by
    rw [applicable, TreeMap.getElem?_filter', Option.filter_eq_some_iff] at stored
    obtain ⟨stored, accepted⟩ := stored
    obtain ⟨steps, accepted⟩ := isOk_iff.mp accepted
    refine ⟨steps, ?_, accepted⟩
    rw [resolvedSwitchSteps, TreeMap.getElem?_filterMap', stored, Option.bind_some, accepted]
    rfl
  steps name steps kept := by
    rw [resolvedSwitchSteps, TreeMap.getElem?_filterMap'] at kept
    obtain ⟨value, stored, accepted⟩ := Option.bind_eq_some_iff.mp kept
    refine ⟨value, ?_⟩
    rw [applicable, TreeMap.getElem?_filter', Option.filter_eq_some_iff]
    exact ⟨stored, isOk_iff.mpr ⟨steps, toOption_eq_some_iff.mp accepted⟩⟩
  rules name slots stored := by
    rw [applicable, TreeMap.getElem?_filter', Option.filter_eq_some_iff] at stored
    obtain ⟨⟨⟩, accepted⟩ := isOk_iff.mp stored.2
    exact accepted
  times name time stored := by
    rw [applicable, TreeMap.getElem?_filter', Option.filter_eq_some_iff, Bool.and_eq_true] at stored
    obtain ⟨⟨⟩, timed⟩ := isOk_iff.mp stored.2.1
    obtain ⟨⟨⟩, accepted⟩ := isOk_iff.mp stored.2.2
    exact ⟨timed, accepted⟩
  plugs name value stored := by
    rw [applicable, TreeMap.getElem?_filter', Option.filter_eq_some_iff] at stored
    obtain ⟨stored, accepted⟩ := stored
    obtain ⟨bindings, accepted⟩ := isOk_iff.mp accepted
    refine ⟨bindings, ?_, accepted⟩
    rw [resolvedPlugBindings, TreeMap.getElem?_filterMap', stored, Option.bind_some, accepted]
    rfl
  bindings name bindings kept := by
    rw [resolvedPlugBindings, TreeMap.getElem?_filterMap'] at kept
    obtain ⟨value, stored, accepted⟩ := Option.bind_eq_some_iff.mp kept
    refine ⟨value, ?_⟩
    rw [applicable, TreeMap.getElem?_filter', Option.filter_eq_some_iff]
    exact ⟨stored, isOk_iff.mpr ⟨bindings, toOption_eq_some_iff.mp accepted⟩⟩

end ControlSettings

/-- What a deployment fixes. -/
structure Deployed where
  topology : Topology
  defaults : Defaults
  location : Option Location

namespace Deployed

/-- The automation of a process that has read its settings. -/
def restore (deployed : Deployed) (clock : ClockReading) (settings : ControlSettings) :
    Automation :=
  let tables := deployed.topology.toTopologyTables
  { topology := deployed.topology
    defaults := deployed.defaults
    location := deployed.location
    settings := settings.applicable tables deployed.location
    resolvedSwitchSteps := settings.resolvedSwitchSteps tables deployed.location
    resolvedPlugBindings := settings.resolvedPlugBindings tables deployed.location
    boostDeadlines := Automation.restoreBoostDeadlines clock settings.boosts
    fit := ControlSettings.applicable_fit }

end Deployed

/-! ## The daemon and its database -/

namespace Automation

variable (automation : Automation)

/-- What a settings command stores once it is accepted. -/
def stored (clock : ClockReading) : ControlCommand → Option SettingsChange
  | .recallScene _ _ => none
  | .setRoomOff _ => none
  | .setPlugPower _ _ => none
  | .setMotionEnabled room enabled => some (.motionEnabled room enabled)
  | .setHeatDemandEnabled device enabled => some (.heatDemandEnabled device enabled)
  | .startValveBoost device durationMinutes temperature =>
      (({ automation with clock } : Env).newBoost device durationMinutes
        temperature).toOption.map fun boost => .valveBoost device (some boost)
  | .setValveBoostTarget device temperature =>
      (({ automation with clock } : Env).retargetedBoost device temperature).toOption.map
        fun boost => .valveBoost device (some boost)
  | .cancelValveBoost device => some (.valveBoost device none)
  | .changeValveSchedule device value => some (.valveSchedule device value)
  | .changeRoomSchedule room value => some (.roomSchedule room value)
  | .changeMotionSchedule rule value => some (.motionSchedule rule value)
  | .changeTimedActionTime binding value => some (.timedActionTime binding value)
  | .changePlugSchedule device value => some (.plugSchedule device value)

end Automation

/-- The daemon and its database. -/
structure Process where
  daemon : Daemon
  store : SettingsStore

namespace Process

variable (process : Process)

/-- The database after a command was accepted, if it could be written; `database` says what the
database would answer. -/
def written (clock : ClockReading) (database : Except String Unit) (command : ControlCommand) :
    Except String SettingsStore :=
  match process.daemon.processor.automation.stored clock command, database with
  | none, _ => .ok process.store
  | some _, .error error => .error error
  | some change, .ok () => process.store.write change

/-- The database after a command: a command that is refused or cannot be written changes nothing. -/
def storeAfter (clock : ClockReading) (database : Except String Unit) (command : ControlCommand) :
    SettingsStore :=
  match process.daemon.processor.automation.plan clock command,
    process.written clock database command with
  | .ok _, .ok store => store
  | _, _ => process.store

/-- What the daemon does with an input.  A settings command is checked, written and then applied;
its first argument says what the database would answer. -/
def next (clock : ClockReading) : Input → Option (Process × List Record)
  | .command database command =>
      (process.daemon.next clock
        (.command ((process.written clock database command).map fun _ => ()) command)).map
          fun result =>
            ({ daemon := result.1, store := process.storeAfter clock database command }, result.2)
  | input =>
      (process.daemon.next clock input).map fun result =>
        ({ process with daemon := result.1 }, result.2)

/-- The process after several inputs, with the records of all of them. -/
def play : List (ClockReading × Input) → Process → Option (Process × List Record)
  | [], process => some (process, [])
  | (clock, input) :: rest, process =>
      match process.next clock input with
      | none => none
      | some (after, records) =>
          (play rest after).map fun result => (result.1, records ++ result.2)

variable {process} {after : Process} {records : List Record} {clock : ClockReading}

/-- The daemon took some input. -/
theorem next_daemon {input : Input} (taken : process.next clock input = some (after, records)) :
    ∃ given, process.daemon.next clock given = some (after.daemon, records) := by
  cases input with
  | command database command =>
      obtain ⟨⟨daemon, emitted⟩, moved, same⟩ := Option.map_eq_some_iff.mp taken
      cases same
      exact ⟨_, moved⟩
  | event event =>
      obtain ⟨⟨daemon, emitted⟩, moved, same⟩ := Option.map_eq_some_iff.mp taken
      cases same
      exact ⟨_, moved⟩
  | start =>
      obtain ⟨⟨daemon, emitted⟩, moved, same⟩ := Option.map_eq_some_iff.mp taken
      cases same
      exact ⟨_, moved⟩

end Process

/-- The clock reads an hour and a minute of the day. -/
def ClockReading.Timely (clock : ClockReading) : Prop :=
  clock.localHour < 24 ∧ clock.localMinute < 60

/-- What a deployment can go through, from any database that can be read: inputs, and restarts that
read the database again.  The records are those since the last start. -/
inductive Serves (deployed : Deployed) : List Record → Process → Prop
  | boot {store : SettingsStore} {settings : ControlSettings} (clock : ClockReading)
      (loaded : store.load = .ok settings) :
      Serves deployed [] ⟨Daemon.launch (deployed.restore clock settings) clock.now, store⟩
  | input {history records : List Record} {process after : Process} {clock : ClockReading}
      {input : Input} (serves : Serves deployed history process) (timely : clock.Timely)
      (taken : process.next clock input = some (after, records)) :
      Serves deployed (history ++ records) after
  | restart {history : List Record} {process : Process} {settings : ControlSettings}
      (clock : ClockReading) (serves : Serves deployed history process)
      (loaded : process.store.load = .ok settings) :
      Serves deployed [] ⟨Daemon.launch (deployed.restore clock settings) clock.now, process.store⟩

namespace Serves

variable {deployed : Deployed} {history : List Record} {process : Process}

/-- What the daemon has done since the last start is a run. -/
theorem run (serves : Serves deployed history process) : Run history process.daemon := by
  induction serves with
  | boot clock loaded => exact .launch _ _
  | restart clock serves loaded => exact .launch _ _
  | input serves timely taken ih =>
      obtain ⟨given, moved⟩ := Process.next_daemon taken
      exact ih.step moved

/-- Playing inputs goes on. -/
theorem play {inputs : List (ClockReading × Input)} {records : List Record} {after : Process}
    (serves : Serves deployed history process) (timely : ∀ entry ∈ inputs, entry.1.Timely)
    (played : process.play inputs = some (after, records)) :
    Serves deployed (history ++ records) after := by
  induction inputs generalizing history records process with
  | nil =>
      cases played
      simpa using serves
  | cons entry rest ih =>
      obtain ⟨clock, input⟩ := entry
      rw [Process.play] at played
      split at played
      · cases played
      · rename_i middle first taken
        obtain ⟨⟨final, more⟩, continued, same⟩ := Option.map_eq_some_iff.mp played
        cases same
        rw [← List.append_assoc]
        exact ih (serves.input (timely _ List.mem_cons_self) taken)
          (fun entry member => timely entry (List.mem_cons_of_mem _ member)) continued

end Serves

namespace House

/-- The deployed house. -/
def deployed (mode : MotionMode) (bindings : List ResolvedBinding) : Deployed :=
  { topology := (automation mode bindings).topology
    defaults := (automation mode bindings).defaults
    location := (automation mode bindings).location }

/-- Play inputs from the launch of the house with an empty database. -/
def serve (mode : MotionMode) (bindings : List ResolvedBinding) (inputs : List (Nat × Input)) :
    Option (Process × List Record) :=
  let settings := ({} : SettingsStore).settings
  Process.play (inputs.map fun entry => (clock entry.1, entry.2))
    ⟨Daemon.launch ((deployed mode bindings).restore (clock 0) settings) (clock 0).now, {}⟩

/-- What the house with its database reached, and what can be read off it. -/
theorem served (mode : MotionMode) (bindings : List ResolvedBinding) (inputs : List (Nat × Input))
    {α : Type} (facts : Process × List Record → α) (value : α)
    (evaluated : (serve mode bindings inputs).map facts = some value) :
    ∃ process history, Serves (deployed mode bindings) history process ∧
      facts (process, history) = value := by
  obtain ⟨⟨process, history⟩, played, same⟩ := Option.map_eq_some_iff.mp evaluated
  refine ⟨process, history, ?_, same⟩
  have readable : ({} : SettingsStore).load = .ok ({} : SettingsStore).settings := rfl
  have booted := @Serves.boot (deployed mode bindings) _ _ (clock 0) readable
  refine booted.play ?_ played
  intro entry member
  obtain ⟨given, _, rfl⟩ := List.mem_map.mp member
  exact ⟨(by decide : 12 < 24), (by decide : 0 < 60)⟩

end House

end MqttController
