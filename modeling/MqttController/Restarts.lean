import MqttController.SettingsStore

/-!
# Restarts

Whatever a deployment has gone through, its database can be read, and a process that starts from it
puts in force what the running one has in force.
-/

namespace MqttController

open Std Emission

/-! ## Rows that can be read -/

namespace SettingsStore

theorem checkRows_ok_iff {α : Type} {check : String → α → Except String Unit} {rows : NameMap α} :
    checkRows check rows = .ok () ↔
      ∀ (key : String) (value : α), rows[key]? = some value → check key value = .ok () := by
  rw [checkRows, Checked.forM_ok_iff]
  constructor
  · intro passed key value stored
    exact passed (key, value) (TreeMap.mem_toList_iff_getElem?_eq_some.mpr stored)
  · rintro passed ⟨key, value⟩ member
    exact passed key value (TreeMap.mem_toList_iff_getElem?_eq_some.mp member)

/-- Every row passes the check that reading it makes. -/
structure Readable (store : SettingsStore) : Prop where
  boosts : ∀ (device : String) (boost : ValveBoost), store.valveBoosts[device]? = some boost →
    validateBoostTemperature boost.temperature = .ok ()
  schedules : ∀ (device : String) (schedule : TemperatureSchedule),
    store.valveScheduleOverrides[device]? = some schedule → checkSchedule device schedule = .ok ()
  plugs : ∀ (device : String) (value : PlugScheduleOverride),
    store.plugScheduleOverrides[device]? = some value → checkPlug value = .ok ()

theorem load_eq_ok_iff {store : SettingsStore} {settings : ControlSettings} :
    store.load = .ok settings ↔ store.Readable ∧ settings = store.settings := by
  constructor
  · intro loaded
    unfold load at loaded
    split at loaded
    · cases loaded
    · cases loaded
    · cases loaded
    · rename_i boosts schedules plugs
      cases loaded
      exact ⟨⟨checkRows_ok_iff.mp boosts, checkRows_ok_iff.mp schedules, checkRows_ok_iff.mp plugs⟩,
        rfl⟩
  · rintro ⟨readable, rfl⟩
    unfold load
    rw [checkRows_ok_iff.mpr readable.boosts, checkRows_ok_iff.mpr readable.schedules,
      checkRows_ok_iff.mpr readable.plugs]

theorem getElem?_setRow {α : Type} (rows : NameMap α) (key : String) (value : Option α)
    (other : String) :
    (setRow rows key value)[other]? = if key = other then value else rows[other]? := by
  cases value with
  | none => simp only [setRow, TreeMap.getElem?_erase, LawfulEqCmp.compare_eq_iff_eq]
  | some value => simp only [setRow, TreeMap.getElem?_insert, LawfulEqCmp.compare_eq_iff_eq]

theorem filter_setRow {α : Type} (keep : String → α → Bool) (rows : NameMap α) (key : String)
    (value : Option α) (other : String) :
    ((setRow rows key value).filter keep)[other]? =
      if key = other then value.filter (keep other) else (rows.filter keep)[other]? := by
  simp only [TreeMap.getElem?_filter', getElem?_setRow]
  split
  · rfl
  · rfl

theorem filterMap_setRow {α β : Type} (resolve : String → α → Option β) (rows : NameMap α)
    (key : String) (value : Option α) (other : String) :
    ((setRow rows key value).filterMap resolve)[other]? =
      if key = other then value.bind (resolve other) else (rows.filterMap resolve)[other]? := by
  simp only [TreeMap.getElem?_filterMap', getElem?_setRow]
  split
  · rfl
  · rfl

/-- A row that was set to a value that passed a check leaves rows that pass it. -/
theorem checked_of_setRow {α : Type} (check : String → α → Except String Unit) {rows : NameMap α}
    {key : String} {value : Option α} (given : checkRow (check key) value = .ok ())
    (passed : ∀ (key : String) (value : α), rows[key]? = some value → check key value = .ok ())
    (other : String) (kept : α) (stored : (setRow rows key value)[other]? = some kept) :
    check other kept = .ok () := by
  rw [getElem?_setRow] at stored
  split at stored
  · rename_i same
    cases same
    rw [stored] at given
    exact given
  · exact passed other kept stored

theorem temperature_of_checkBoost {boost : Option ValveBoost}
    (checked : checkRow checkBoost boost = .ok ()) :
    checkRow (fun boost : ValveBoost => validateBoostTemperature boost.temperature) boost =
      .ok () := by
  cases boost with
  | none => rfl
  | some boost =>
      simp only [checkRow, checkBoost] at checked ⊢
      split at checked
      · cases checked
      · assumption

/-- What is written can be read back. -/
theorem Readable.write {store after : SettingsStore} {change : SettingsChange}
    (readable : store.Readable) (written : store.write change = .ok after) : after.Readable := by
  cases change with
  | valveBoost device boost =>
      obtain ⟨⟨⟩, checked, rfl⟩ := Checked.ok_of_map written
      refine ⟨?_, readable.schedules, readable.plugs⟩
      exact checked_of_setRow
        (fun _ (boost : ValveBoost) => validateBoostTemperature boost.temperature)
        (temperature_of_checkBoost checked) readable.boosts
  | valveSchedule device schedule =>
      obtain ⟨⟨⟩, checked, rfl⟩ := Checked.ok_of_map written
      exact ⟨readable.boosts, checked_of_setRow checkSchedule checked readable.schedules,
        readable.plugs⟩
  | plugSchedule device value =>
      obtain ⟨⟨⟩, checked, rfl⟩ := Checked.ok_of_map written
      refine ⟨readable.boosts, readable.schedules, ?_⟩
      exact checked_of_setRow (fun _ value => checkPlug value) checked readable.plugs
  | _ =>
      cases written
      exact ⟨readable.boosts, readable.schedules, readable.plugs⟩

theorem mem_switchedOff {rows : NameMap Bool} {key : String} :
    key ∈ switchedOff rows ↔ rows[key]? = some false := by
  unfold switchedOff
  rw [List.mem_toFinset, List.mem_map]
  constructor
  · rintro ⟨⟨other, enabled⟩, member, rfl⟩
    obtain ⟨listed, off⟩ := List.mem_filter.mp member
    rw [← TreeMap.mem_toList_iff_getElem?_eq_some]
    cases enabled with
    | false => exact listed
    | true => cases off
  · intro stored
    exact ⟨(key, false), List.mem_filter.mpr
      ⟨TreeMap.mem_toList_iff_getElem?_eq_some.mpr stored, rfl⟩, rfl⟩

/-- A switch that is written joins or leaves those that are off. -/
theorem switchedOff_insert (rows : NameMap Bool) (key : String) (enabled : Bool) :
    switchedOff (rows.insert key enabled) =
      if enabled then (switchedOff rows).erase key else insert key (switchedOff rows) := by
  ext other
  have here :
      (rows.insert key enabled)[other]? = if key = other then some enabled else rows[other]? :=
    getElem?_setRow rows key (some enabled) other
  rw [mem_switchedOff, here]
  cases enabled with
  | true =>
      rw [if_pos rfl, Finset.mem_erase, mem_switchedOff]
      split
      · rename_i same
        simp [same]
      · rename_i different
        simp [Ne.symm different]
  | false =>
      rw [if_neg Bool.false_ne_true, Finset.mem_insert, mem_switchedOff]
      split
      · rename_i same
        simp [same]
      · rename_i different
        simp [Ne.symm different]

end SettingsStore

/-! ## What is in force -/

/-- Two automations have the same deployment and settings in force; the deadlines of boosts depend
on the process. -/
structure Automation.Agrees (first second : Automation) : Prop where
  topology : first.topology = second.topology
  defaults : first.defaults = second.defaults
  location : first.location = second.location
  zones : first.settings.disabledZones = second.settings.disabledZones
  heatDemand : first.settings.disabledHeatDemand = second.settings.disabledHeatDemand
  boosts : ∀ device : String,
    first.settings.boosts[device]? = second.settings.boosts[device]?
  schedules : ∀ device : String,
    first.settings.scheduleOverrides[device]? = second.settings.scheduleOverrides[device]?
  rooms : ∀ room : String,
    first.settings.roomScheduleOverrides[room]? = second.settings.roomScheduleOverrides[room]?
  switchSteps : ∀ room : String,
    first.resolvedSwitchSteps[room]? = second.resolvedSwitchSteps[room]?
  rules : ∀ rule : String,
    first.settings.motionScheduleOverrides[rule]? = second.settings.motionScheduleOverrides[rule]?
  times : ∀ binding : String,
    first.settings.timedActionOverrides[binding]? = second.settings.timedActionOverrides[binding]?
  plugs : ∀ device : String,
    first.settings.plugScheduleOverrides[device]? = second.settings.plugScheduleOverrides[device]?
  plugBindings : ∀ device : String,
    first.resolvedPlugBindings[device]? = second.resolvedPlugBindings[device]?

namespace Automation

variable {first second : Automation}

/-- The same bindings are in force, in the same order. -/
theorem Agrees.effectiveBindings (agrees : first.Agrees second) :
    first.effectiveBindings = second.effectiveBindings := by
  have superseded : first.bindingSuperseded = second.bindingSuperseded := by
    funext binding
    unfold bindingSuperseded plugScheduleOverridden
    simp only [TreeMap.contains_eq_isSome_getElem?, agrees.topology, agrees.plugs]
  have resolved : first.resolvedPlugBindings.toList = second.resolvedPlugBindings.toList :=
    (TreeMap.Equiv.of_forall_constGet?_eq agrees.plugBindings).toList_eq
  unfold Automation.effectiveBindings
  rw [agrees.topology, superseded, resolved]

/-- The clock decides about the deadlines of boosts only. -/
theorem agrees_restore (deployed : Deployed) (clock reading : ClockReading)
    (settings : ControlSettings) :
    (deployed.restore clock settings).Agrees (deployed.restore reading settings) :=
  ⟨rfl, rfl, rfl, rfl, rfl, fun _ => rfl, fun _ => rfl, fun _ => rfl, fun _ => rfl, fun _ => rfl,
    fun _ => rfl, fun _ => rfl, fun _ => rfl⟩

section Changes

variable {deployed : Deployed} {clock reading : ClockReading} {store : SettingsStore}
  {automation : Automation}

theorem Agrees.setMotionEnabled
    (agrees : (deployed.restore clock store.settings).Agrees automation) (room : String)
    (enabled : Bool) :
    (deployed.restore clock { store with
      motionSettings := store.motionSettings.insert room enabled }.settings).Agrees
        (automation.setMotionEnabled room enabled) :=
  { agrees with
    zones := by
      have same : SettingsStore.switchedOff store.motionSettings =
        automation.settings.disabledZones := agrees.zones
      exact (SettingsStore.switchedOff_insert _ room enabled).trans (by rw [same]; rfl) }

theorem Agrees.setHeatDemandEnabled
    (agrees : (deployed.restore clock store.settings).Agrees automation) (device : String)
    (enabled : Bool) :
    (deployed.restore clock { store with
      heatDemandSettings := store.heatDemandSettings.insert device enabled }.settings).Agrees
        (automation.setHeatDemandEnabled device enabled) :=
  { agrees with
    heatDemand := by
      have same : SettingsStore.switchedOff store.heatDemandSettings =
        automation.settings.disabledHeatDemand := agrees.heatDemand
      exact (SettingsStore.switchedOff_insert _ device enabled).trans (by rw [same]; rfl) }

theorem Agrees.applyValveBoost
    (agrees : (deployed.restore clock store.settings).Agrees automation) (device : String)
    (boost : Option ValveBoost) :
    (deployed.restore clock { store with
      valveBoosts := SettingsStore.setRow store.valveBoosts device boost }.settings).Agrees
        (automation.applyValveBoost reading device boost) := by
  have boosts : ∀ other : String, (SettingsStore.setRow store.valveBoosts device boost)[other]? =
      (automation.applyValveBoost reading device boost).settings.boosts[other]? := by
    intro other
    have same : store.valveBoosts[other]? = automation.settings.boosts[other]? :=
      agrees.boosts other
    rw [SettingsStore.getElem?_setRow, same]
    cases boost with
    | none => rw [cancelled_boosts]
    | some boost => rw [applyValveBoost_boosts]
  cases boost with
  | none => exact { agrees with boosts }
  | some boost => exact { agrees with boosts }

theorem Agrees.applyValveSchedule
    (agrees : (deployed.restore clock store.settings).Agrees automation) (device : String)
    (schedule : Option TemperatureSchedule) :
    (deployed.restore clock { store with
      valveScheduleOverrides :=
        SettingsStore.setRow store.valveScheduleOverrides device schedule }.settings).Agrees
        (automation.applyValveSchedule device schedule) :=
  { agrees with
    schedules := by
      intro other
      have same : store.valveScheduleOverrides[other]? =
        automation.settings.scheduleOverrides[other]? := agrees.schedules other
      have moved :
          (automation.applyValveSchedule device schedule).settings.scheduleOverrides[other]? =
          if device = other then schedule else automation.settings.scheduleOverrides[other]? := by
        rw [← SettingsStore.getElem?_setRow]
        cases schedule with
        | none => rfl
        | some schedule => rfl
      rw [moved, ← same]
      exact SettingsStore.getElem?_setRow _ _ _ _ }

theorem Agrees.insertRoomOverride
    (agrees : (deployed.restore clock store.settings).Agrees automation) {room : String}
    {value : RoomScheduleOverride} {steps : NameMap (List ResolvedSwitchStep)}
    (accepted : validateRoomOverride automation.topology.toTopologyTables automation.location
      room value = .ok steps) :
    (deployed.restore clock { store with
      roomScheduleOverrides :=
        SettingsStore.setRow store.roomScheduleOverrides room (some value) }.settings).Agrees
        (automation.insertRoomOverride accepted) := by
  have topology : deployed.topology = automation.topology := agrees.topology
  have location : deployed.location = automation.location := agrees.location
  have known :
      validateRoomOverride deployed.topology.toTopologyTables deployed.location room value =
        .ok steps := by rw [topology, location, accepted]
  refine { agrees with
    rooms := fun other => (SettingsStore.filter_setRow _ _ _ _ _).trans ?_
    switchSteps := fun other => (SettingsStore.filterMap_setRow _ _ _ _ _).trans ?_ }
  · refine .trans ?_ (SettingsStore.getElem?_setRow _ room (some value) other).symm
    split
    · rename_i same
      subst same
      exact Option.filter_eq_some_iff.mpr ⟨rfl, isOk_iff.mpr ⟨steps, known⟩⟩
    · exact agrees.rooms other
  · refine .trans ?_ (SettingsStore.getElem?_setRow _ room (some steps) other).symm
    split
    · rename_i same
      subst same
      exact toOption_eq_some_iff.mpr known
    · exact agrees.switchSteps other

theorem Agrees.eraseRoomOverride
    (agrees : (deployed.restore clock store.settings).Agrees automation) (room : String) :
    (deployed.restore clock { store with
      roomScheduleOverrides :=
        SettingsStore.setRow store.roomScheduleOverrides room none }.settings).Agrees
        (automation.eraseRoomOverride room) := by
  refine { agrees with
    rooms := fun other => (SettingsStore.filter_setRow _ _ _ _ _).trans ?_
    switchSteps := fun other => (SettingsStore.filterMap_setRow _ _ _ _ _).trans ?_ }
  · refine .trans ?_ (SettingsStore.getElem?_setRow _ room none other).symm
    exact if_congr Iff.rfl rfl (agrees.rooms other)
  · refine .trans ?_ (SettingsStore.getElem?_setRow _ room none other).symm
    exact if_congr Iff.rfl rfl (agrees.switchSteps other)

theorem Agrees.insertMotionOverride
    (agrees : (deployed.restore clock store.settings).Agrees automation) {rule : String}
    {slots : NameMap Slot}
    (accepted : validateMotionOverride automation.topology.toTopologyTables automation.location
      rule slots = .ok ()) :
    (deployed.restore clock { store with
      motionScheduleOverrides :=
        SettingsStore.setRow store.motionScheduleOverrides rule (some slots) }.settings).Agrees
        (automation.insertMotionOverride accepted) := by
  have topology : deployed.topology = automation.topology := agrees.topology
  have location : deployed.location = automation.location := agrees.location
  have known : validateMotionOverride deployed.topology.toTopologyTables deployed.location rule
      slots = .ok () := by rw [topology, location, accepted]
  refine { agrees with
    rules := fun other => (SettingsStore.filter_setRow _ _ _ _ _).trans ?_ }
  refine .trans ?_ (SettingsStore.getElem?_setRow _ rule (some slots) other).symm
  split
  · rename_i same
    subst same
    exact Option.filter_eq_some_iff.mpr ⟨rfl, isOk_iff.mpr ⟨(), known⟩⟩
  · exact agrees.rules other

theorem Agrees.eraseMotionOverride
    (agrees : (deployed.restore clock store.settings).Agrees automation) (rule : String) :
    (deployed.restore clock { store with
      motionScheduleOverrides :=
        SettingsStore.setRow store.motionScheduleOverrides rule none }.settings).Agrees
        (automation.eraseMotionOverride rule) := by
  refine { agrees with
    rules := fun other => (SettingsStore.filter_setRow _ _ _ _ _).trans ?_ }
  refine .trans ?_ (SettingsStore.getElem?_setRow _ rule none other).symm
  exact if_congr Iff.rfl rfl (agrees.rules other)

theorem Agrees.insertTimedAction
    (agrees : (deployed.restore clock store.settings).Agrees automation) {binding : String}
    {time : TimeExpr}
    (timed : validateTimedAction automation.topology.toTopologyTables binding = .ok ())
    (accepted : validateTimedActionTime automation.location time = .ok ()) :
    (deployed.restore clock { store with
      timedActionOverrides :=
        SettingsStore.setRow store.timedActionOverrides binding (some time) }.settings).Agrees
        (automation.insertTimedAction timed accepted) := by
  have topology : deployed.topology = automation.topology := agrees.topology
  have location : deployed.location = automation.location := agrees.location
  have known : validateTimedAction deployed.topology.toTopologyTables binding = .ok () := by
    rw [topology, timed]
  have fits : validateTimedActionTime deployed.location time = .ok () := by rw [location, accepted]
  refine { agrees with
    times := fun other => (SettingsStore.filter_setRow _ _ _ _ _).trans ?_ }
  refine .trans ?_ (SettingsStore.getElem?_setRow _ binding (some time) other).symm
  split
  · rename_i same
    subst same
    refine Option.filter_eq_some_iff.mpr ⟨rfl, ?_⟩
    rw [known, fits]
    rfl
  · exact agrees.times other

theorem Agrees.eraseTimedAction
    (agrees : (deployed.restore clock store.settings).Agrees automation) (binding : String) :
    (deployed.restore clock { store with
      timedActionOverrides :=
        SettingsStore.setRow store.timedActionOverrides binding none }.settings).Agrees
        (automation.eraseTimedAction binding) := by
  refine { agrees with
    times := fun other => (SettingsStore.filter_setRow _ _ _ _ _).trans ?_ }
  refine .trans ?_ (SettingsStore.getElem?_setRow _ binding none other).symm
  exact if_congr Iff.rfl rfl (agrees.times other)

theorem Agrees.insertPlugOverride
    (agrees : (deployed.restore clock store.settings).Agrees automation) {device : String}
    {value : PlugScheduleOverride} {bindings : List ResolvedBinding}
    (accepted : validatePlugOverride automation.topology.toTopologyTables automation.location
      device value = .ok bindings) :
    (deployed.restore clock { store with
      plugScheduleOverrides :=
        SettingsStore.setRow store.plugScheduleOverrides device (some value) }.settings).Agrees
        (automation.insertPlugOverride accepted) := by
  have topology : deployed.topology = automation.topology := agrees.topology
  have location : deployed.location = automation.location := agrees.location
  have known : validatePlugOverride deployed.topology.toTopologyTables deployed.location device
      value = .ok bindings := by rw [topology, location, accepted]
  refine { agrees with
    plugs := fun other => (SettingsStore.filter_setRow _ _ _ _ _).trans ?_
    plugBindings := fun other => (SettingsStore.filterMap_setRow _ _ _ _ _).trans ?_ }
  · refine .trans ?_ (SettingsStore.getElem?_setRow _ device (some value) other).symm
    split
    · rename_i same
      subst same
      exact Option.filter_eq_some_iff.mpr ⟨rfl, isOk_iff.mpr ⟨bindings, known⟩⟩
    · exact agrees.plugs other
  · refine .trans ?_ (SettingsStore.getElem?_setRow _ device (some bindings) other).symm
    split
    · rename_i same
      subst same
      exact toOption_eq_some_iff.mpr known
    · exact agrees.plugBindings other

theorem Agrees.erasePlugOverride
    (agrees : (deployed.restore clock store.settings).Agrees automation) (device : String) :
    (deployed.restore clock { store with
      plugScheduleOverrides :=
        SettingsStore.setRow store.plugScheduleOverrides device none }.settings).Agrees
        (automation.erasePlugOverride device) := by
  refine { agrees with
    plugs := fun other => (SettingsStore.filter_setRow _ _ _ _ _).trans ?_
    plugBindings := fun other => (SettingsStore.filterMap_setRow _ _ _ _ _).trans ?_ }
  · refine .trans ?_ (SettingsStore.getElem?_setRow _ device none other).symm
    exact if_congr Iff.rfl rfl (agrees.plugs other)
  · refine .trans ?_ (SettingsStore.getElem?_setRow _ device none other).symm
    exact if_congr Iff.rfl rfl (agrees.plugBindings other)

theorem planBoost_ok {after : Automation} {device : String}
    {boost : Except String (Option ValveBoost)} {operations : List Operation}
    (planned : automation.planBoost clock device boost = .ok (after, operations)) :
    ∃ value, boost = .ok value ∧ after = automation.applyValveBoost clock device value := by
  simp only [planBoost, refuse] at planned
  split at planned
  · cases planned
  · obtain ⟨value, changed, same⟩ := Checked.ok_of_map planned
    cases boost with
    | error error => cases changed
    | ok boost =>
        cases changed
        cases same
        exact ⟨value, rfl, rfl⟩

/-- A command that saves nothing stores nothing. -/
theorem stored_of_saves {command : ControlCommand} (saves : command.saves = none) :
    automation.stored clock command = none := by
  cases command with
  | recallScene room sceneId => rfl
  | setRoomOff room => rfl
  | setPlugPower device on => rfl
  | _ => cases saves

/-- A planned command puts in force what is restored from the rows it writes. -/
theorem Agrees.plan {command : ControlCommand} {after : Automation} {operations : List Operation}
    {next : SettingsStore} (agrees : (deployed.restore clock store.settings).Agrees automation)
    (planned : automation.plan reading command = .ok (after, operations))
    (written : (automation.stored reading command).elim (.ok store) store.write = .ok next) :
    (deployed.restore clock next.settings).Agrees after := by
  cases Automation.plan_accepts planned with
  | act acts apart =>
      rw [stored_of_saves acts] at written
      cases written
      exact agrees
  | motion room enabled =>
      cases written
      exact agrees.setMotionEnabled room enabled
  | heatDemand device enabled =>
      cases written
      exact agrees.setHeatDemandEnabled device enabled
  | boost boost boosts =>
      cases command with
      | startValveBoost device durationMinutes temperature =>
          obtain ⟨value, changed, same⟩ := planBoost_ok planned
          rw [same]
          obtain ⟨started, accepted, rfl⟩ := Checked.ok_of_map changed
          simp only [stored, accepted] at written
          obtain ⟨⟨⟩, checked, rfl⟩ := Checked.ok_of_map written
          exact agrees.applyValveBoost device (some started)
      | setValveBoostTarget device temperature =>
          obtain ⟨value, changed, same⟩ := planBoost_ok planned
          rw [same]
          obtain ⟨edited, accepted, rfl⟩ := Checked.ok_of_map changed
          simp only [stored, accepted] at written
          obtain ⟨⟨⟩, checked, rfl⟩ := Checked.ok_of_map written
          exact agrees.applyValveBoost device (some edited)
      | cancelValveBoost device =>
          obtain ⟨value, changed, same⟩ := planBoost_ok planned
          rw [same]
          cases changed
          cases written
          exact agrees.applyValveBoost device none
      | _ => exact boosts.elim
  | valve device value =>
      obtain ⟨⟨⟩, checked, rfl⟩ := Checked.ok_of_map written
      exact agrees.applyValveSchedule device value
  | roomReset room =>
      cases written
      exact agrees.eraseRoomOverride room
  | room accepted =>
      cases written
      exact agrees.insertRoomOverride accepted
  | ruleReset rule =>
      cases written
      exact agrees.eraseMotionOverride rule
  | rule accepted =>
      cases written
      exact agrees.insertMotionOverride accepted
  | timeReset binding =>
      cases written
      exact agrees.eraseTimedAction binding
  | time timed accepted =>
      cases written
      exact agrees.insertTimedAction timed accepted
  | plugReset device =>
      cases written
      exact agrees.erasePlugOverride device
  | plug accepted =>
      obtain ⟨⟨⟩, checked, rfl⟩ := Checked.ok_of_map written
      exact agrees.insertPlugOverride accepted

end Changes

end Automation

/-! ## What a deployment can go through -/

namespace Daemon

variable {daemon after : Daemon} {clock : ClockReading} {records : List Record}

/-- Only commands change what is in force. -/
theorem next_automation {input : Input} (apart : ∀ saved command, input ≠ .command saved command)
    (taken : daemon.next clock input = some (after, records)) :
    after.processor.automation = daemon.processor.automation := by
  unfold next at taken
  split at taken
  · cases taken
  · split at taken
    · split at taken
      · cases taken
        rfl
      · cases taken
    · cases taken
      rfl
    · cases taken
      rfl
    · exact absurd rfl (apart _ _)
    · cases taken

/-- A command is refused or not saved, or it is accepted and put in force. -/
theorem next_command {saved : Except String Unit} {command : ControlCommand}
    (taken : daemon.next clock (.command saved command) = some (after, records)) :
    (after.processor = daemon.processor ∧
      ((∃ error, daemon.processor.automation.plan clock command = .error error) ∨
        ∃ error, saved = .error error)) ∨
    ∃ operations, daemon.processor.automation.plan clock command =
        .ok (after.processor.automation, operations) ∧
      (command.saves = none ∨ ∃ passed, saved = .ok passed) := by
  cases running : daemon.stage with
  | seeding =>
      simp only [next, running] at taken
      split at taken
      · cases taken
      · cases taken
  | running =>
      simp only [next, running] at taken
      split at taken
      · cases taken
      · unfold EventProcessor.control at taken
        cases planned : daemon.processor.automation.plan clock command with
        | error error =>
            rw [planned] at taken
            cases taken
            exact .inl ⟨rfl, .inl ⟨error, rfl⟩⟩
        | ok accepted =>
            obtain ⟨automation, operations⟩ := accepted
            rw [planned] at taken
            cases saves : command.saves with
            | none =>
                rw [saves] at taken
                cases taken
                exact .inr ⟨operations, rfl, .inl rfl⟩
            | some setting =>
                rw [saves] at taken
                cases saved with
                | error error =>
                    cases taken
                    exact .inl ⟨rfl, .inr ⟨error, rfl⟩⟩
                | ok passed =>
                    cases taken
                    exact .inr ⟨operations, rfl, .inr ⟨passed, rfl⟩⟩

/-- An input performs all its operations in one environment: what is in force after it, at its
reading of the clock. -/
theorem next_env {input : Input} (taken : daemon.next clock input = some (after, records)) :
    ∀ record ∈ records, record.env = { after.processor.automation with clock } := by
  have each (env : Env) : ∀ operation, Keeps (fun (past : List Record) (_ : Runtime) =>
      ∀ record ∈ past, record.env = env) (env.perform operation) := by
    intro operation past runtime same record member
    rcases List.mem_append.mp member with earlier | last
    · exact same record earlier
    · rw [List.mem_singleton.mp last]
  have starts (env : Env) (ts : Instant) (runtime : Runtime) :
      ∀ record ∈ (env.startup ts runtime).2, record.env = env := by
    have keeps := Env.startup_keeps (fun operation (_ : True) => each env operation) ts
      (fun _ _ => trivial) trivial
    simpa using keeps [] runtime (by simp)
  have performs (env : Env) (operations : List Operation) (runtime : Runtime) :
      ∀ record ∈ (env.performAll operations runtime).2, record.env = env := by
    have keeps : Keeps (fun (past : List Record) (_ : Runtime) => ∀ record ∈ past, record.env = env)
        (env.performAll operations) :=
      Keeps.forEach operations fun operation _ => each env operation
    simpa using keeps [] runtime (by simp)
  unfold next at taken
  split at taken
  · cases taken
  · split at taken
    · split at taken
      · cases taken
        exact handleEvent_env _ _ _
      · cases taken
    · cases taken
      exact starts _ _ _
    · cases taken
      exact handleEvent_env _ _ _
    · split at taken
      · rename_i result accepted
        cases taken
        unfold EventProcessor.control at accepted
        split at accepted
        · cases accepted
        · cases accepted
        · cases accepted
          exact performs _ _ _
      · cases taken
        simp
    · cases taken

end Daemon

namespace Process

/-- The database can be read, and a process that starts from it puts in force what is in force. -/
structure Recoverable (deployed : Deployed) (process : Process) : Prop where
  readable : process.store.Readable
  agrees : ∀ clock : ClockReading, (deployed.restore clock process.store.settings).Agrees
    process.daemon.processor.automation

variable {deployed : Deployed} {process after : Process} {clock : ClockReading} {input : Input}
  {records : List Record}

/-- Where a command is accepted and can be written, the database is the one that was written. -/
theorem written_of_planned {database : Except String Unit} {command : ControlCommand}
    {planned : Automation × List Operation} {next : SettingsStore}
    (accepted : process.daemon.processor.automation.plan clock command = .ok planned)
    (written : process.written clock database command = .ok next) :
    process.storeAfter clock database command = next := by
  simp only [storeAfter, accepted, written]

/-- What can be written is the change that the command stores. -/
theorem write_of_written {database : Except String Unit} {command : ControlCommand}
    {next : SettingsStore} (written : process.written clock database command = .ok next) :
    (process.daemon.processor.automation.stored clock command).elim (.ok process.store)
      process.store.write = .ok next := by
  unfold Process.written at written
  split at written
  · rename_i stored
    rw [stored]
    exact written
  · cases written
  · rename_i change stored
    rw [stored]
    exact written

theorem Recoverable.written (recoverable : Recoverable deployed process)
    {database : Except String Unit} {command : ControlCommand} {next : SettingsStore}
    (written : process.written clock database command = .ok next) : next.Readable := by
  have written := write_of_written written
  cases stored : process.daemon.processor.automation.stored clock command with
  | none =>
      rw [stored] at written
      cases written
      exact recoverable.readable
  | some change =>
      rw [stored] at written
      exact recoverable.readable.write written

/-- A command keeps the database and what is in force together: both change or neither does. -/
theorem Recoverable.command (recoverable : Recoverable deployed process)
    {database : Except String Unit} {command : ControlCommand}
    (taken : process.next clock (.command database command) = some (after, records)) :
    Recoverable deployed after := by
  obtain ⟨⟨daemon, emitted⟩, moved, same⟩ := Option.map_eq_some_iff.mp taken
  cases same
  rcases Daemon.next_command moved with ⟨unchanged, refused⟩ | ⟨operations, planned, saved⟩
  · have kept : process.storeAfter clock database command = process.store := by
      rcases refused with ⟨error, planned⟩ | ⟨error, unsaved⟩
      · simp only [storeAfter, planned]
      · cases written : process.written clock database command with
        | ok next =>
            rw [written] at unsaved
            cases unsaved
        | error error =>
            unfold storeAfter
            rw [written]
            cases process.daemon.processor.automation.plan clock command with
            | error refusal => rfl
            | ok planned => rfl
    exact ⟨by rw [kept]; exact recoverable.readable, by
      rw [kept, unchanged]; exact recoverable.agrees⟩
  · have written : ∃ next, process.written clock database command = .ok next := by
      rcases saved with saves | ⟨passed, saved⟩
      · have stored : process.daemon.processor.automation.stored clock command = none :=
          Automation.stored_of_saves saves
        exact ⟨process.store, by simp only [Process.written, stored]⟩
      · obtain ⟨next, written, _⟩ := Checked.ok_of_map saved
        exact ⟨next, written⟩
    obtain ⟨next, written⟩ := written
    have kept := written_of_planned planned written
    exact ⟨by rw [kept]; exact recoverable.written written, by
      rw [kept]
      exact fun reading => (recoverable.agrees reading).plan planned (write_of_written written)⟩

/-- Every input keeps the database and what is in force together. -/
theorem Recoverable.next (recoverable : Recoverable deployed process)
    (taken : process.next clock input = some (after, records)) : Recoverable deployed after := by
  cases input with
  | command database command => exact recoverable.command taken
  | event event =>
      obtain ⟨⟨daemon, emitted⟩, moved, same⟩ := Option.map_eq_some_iff.mp taken
      cases same
      refine ⟨recoverable.readable, ?_⟩
      rw [Daemon.next_automation (fun _ _ => Input.noConfusion) moved]
      exact recoverable.agrees
  | start =>
      obtain ⟨⟨daemon, emitted⟩, moved, same⟩ := Option.map_eq_some_iff.mp taken
      cases same
      refine ⟨recoverable.readable, ?_⟩
      rw [Daemon.next_automation (fun _ _ => Input.noConfusion) moved]
      exact recoverable.agrees

end Process

namespace Serves

variable {deployed : Deployed} {history : List Record} {process : Process}

theorem recoverable (serves : Serves deployed history process) :
    process.Recoverable deployed := by
  induction serves with
  | boot clock loaded =>
      obtain ⟨readable, rfl⟩ := SettingsStore.load_eq_ok_iff.mp loaded
      exact ⟨readable, fun reading => Automation.agrees_restore _ _ _ _⟩
  | input serves timely taken ih => exact ih.next taken
  | restart clock serves loaded ih =>
      obtain ⟨readable, rfl⟩ := SettingsStore.load_eq_ok_iff.mp loaded
      exact ⟨readable, fun reading => Automation.agrees_restore _ _ _ _⟩

/-- What holds of every automation that agrees with a database that can be read holds of the
automation and the clock of every operation. -/
theorem each_env {holds : Automation → Prop} (serves : Serves deployed history process)
    (sound : ∀ (process : Process), process.Recoverable deployed →
      holds process.daemon.processor.automation) :
    ∀ record ∈ history, holds record.env.toAutomation ∧ record.env.clock.Timely := by
  induction serves with
  | boot clock loaded => simp
  | restart clock serves loaded => simp
  | @input history records process after clock input serves timely taken ih =>
      intro record member
      rcases List.mem_append.mp member with earlier | last
      · exact ih record earlier
      · obtain ⟨given, moved⟩ := Process.next_daemon taken
        rw [Daemon.next_env moved record last]
        exact ⟨sound after (serves.input timely taken).recoverable, timely⟩

/-- Whatever happened, a restart finds a database that it can read, and it puts the settings in
force that were in force before; the bindings are the same in the same order. -/
theorem restart_restores (serves : Serves deployed history process) :
    ∃ settings, process.store.load = .ok settings ∧ ∀ clock : ClockReading,
      (deployed.restore clock settings).Agrees process.daemon.processor.automation ∧
        (deployed.restore clock settings).effectiveBindings =
          process.daemon.processor.automation.effectiveBindings := by
  obtain ⟨readable, agrees⟩ := serves.recoverable
  refine ⟨process.store.settings, SettingsStore.load_eq_ok_iff.mpr ⟨readable, rfl⟩, ?_⟩
  intro clock
  exact ⟨agrees clock, (agrees clock).effectiveBindings⟩

end Serves

/-- Motion in the hall stays off after a restart. -/
theorem Serves.restart_restores_hall : ∃ (history : List Record) (process : Process),
    Serves (House.deployed .onOff []) history process ∧
      process.store.motionSettings["hall"]? = some false ∧
      ∃ settings, process.store.load = .ok settings ∧ ∀ clock : ClockReading,
        ((House.deployed .onOff []).restore clock settings).Agrees
            process.daemon.processor.automation ∧
          ((House.deployed .onOff []).restore clock settings).effectiveBindings =
            process.daemon.processor.automation.effectiveBindings := by
  obtain ⟨process, history, serves, stored⟩ := House.served .onOff []
    [(0, .start), (1, .command (.ok ()) (.setMotionEnabled "hall" false))]
    (fun reached : Process × List Record => reached.1.store.motionSettings["hall"]?) (some false)
    (by decide +kernel)
  exact ⟨history, process, serves, stored, serves.restart_restores⟩

end MqttController
