import MqttController.Handlers

/-!
# Dashboard commands

A command that changes settings is checked against the topology, saved, and then applied; the
automation keeps its replacements valid throughout.  Other commands only act on the runtime.
-/

namespace MqttController

open Std

/-- Minutes a boost may last. -/
def boostDurationsMinutes : List Nat := [30, 60, 90, 120, 180, 240, 360]

/-- What a dashboard command asks for. -/
inductive ControlCommand
  | recallScene (room : String) (sceneId : Nat)
  | setRoomOff (room : String)
  | setPlugPower (device : String) (on : Bool)
  | setMotionEnabled (room : String) (enabled : Bool)
  | setHeatDemandEnabled (device : String) (enabled : Bool)
  | startValveBoost (device : String) (durationMinutes : Nat) (temperature : ℚ)
  | setValveBoostTarget (device : String) (temperature : ℚ)
  | cancelValveBoost (device : String)
  /-- Without a value the deployed one applies again; so below. -/
  | changeValveSchedule (device : String) (value : Option TemperatureSchedule)
  | changeRoomSchedule (room : String) (value : Option RoomScheduleOverride)
  | changeMotionSchedule (rule : String) (value : Option (NameMap Slot))
  | changeTimedActionTime (binding : String) (value : Option TimeExpr)
  | changePlugSchedule (device : String) (value : Option PlugScheduleOverride)

/-! ## Replacements stay valid -/

namespace OverridesFit

variable {tables : TopologyTables} {location : Option Location} {settings : ControlSettings}
  {switchSteps : NameMap (NameMap (List ResolvedSwitchStep))}
  {plugBindings : NameMap (List ResolvedBinding)}

theorem insertRoom (fit : OverridesFit tables location settings switchSteps plugBindings)
    {name : String} {value : RoomScheduleOverride} {steps : NameMap (List ResolvedSwitchStep)}
    (accepted : validateRoomOverride tables location name value = .ok steps) :
    OverridesFit tables location
      { settings with
        roomScheduleOverrides := settings.roomScheduleOverrides.insert name value }
      (switchSteps.insert name steps) plugBindings := by
  refine ⟨?_, ?_, fit.rules, fit.times, fit.plugs, fit.bindings⟩
  · intro other stored found
    rw [TreeMap.getElem?_insert] at found ⊢
    split at found
    · rename_i same
      cases LawfulEqCmp.compare_eq_iff_eq.mp same
      cases found
      exact ⟨steps, by simp, accepted⟩
    · rename_i different
      rw [if_neg different]
      exact fit.rooms _ _ found
  · intro other stored found
    rw [TreeMap.getElem?_insert] at found ⊢
    split at found
    · rename_i same
      exact ⟨value, by simp [same]⟩
    · rename_i different
      rw [if_neg different]
      exact fit.steps _ _ found

theorem eraseRoom (fit : OverridesFit tables location settings switchSteps plugBindings)
    (name : String) :
    OverridesFit tables location
      { settings with roomScheduleOverrides := settings.roomScheduleOverrides.erase name }
      (switchSteps.erase name) plugBindings := by
  refine ⟨?_, ?_, fit.rules, fit.times, fit.plugs, fit.bindings⟩
  · intro other stored found
    rw [TreeMap.getElem?_erase] at found ⊢
    split at found
    · cases found
    · rename_i different
      rw [if_neg different]
      exact fit.rooms _ _ found
  · intro other stored found
    rw [TreeMap.getElem?_erase] at found ⊢
    split at found
    · cases found
    · rename_i different
      rw [if_neg different]
      exact fit.steps _ _ found

theorem insertRule (fit : OverridesFit tables location settings switchSteps plugBindings)
    {name : String} {slots : NameMap Slot}
    (accepted : validateMotionOverride tables location name slots = .ok ()) :
    OverridesFit tables location
      { settings with
        motionScheduleOverrides := settings.motionScheduleOverrides.insert name slots }
      switchSteps plugBindings := by
  refine ⟨fit.rooms, fit.steps, ?_, fit.times, fit.plugs, fit.bindings⟩
  intro other stored found
  rw [TreeMap.getElem?_insert] at found
  split at found
  · rename_i same
    cases LawfulEqCmp.compare_eq_iff_eq.mp same
    cases found
    exact accepted
  · exact fit.rules _ _ found

theorem eraseRule (fit : OverridesFit tables location settings switchSteps plugBindings)
    (name : String) :
    OverridesFit tables location
      { settings with motionScheduleOverrides := settings.motionScheduleOverrides.erase name }
      switchSteps plugBindings := by
  refine ⟨fit.rooms, fit.steps, ?_, fit.times, fit.plugs, fit.bindings⟩
  intro other stored found
  rw [TreeMap.getElem?_erase] at found
  split at found
  · cases found
  · exact fit.rules _ _ found

theorem insertTime (fit : OverridesFit tables location settings switchSteps plugBindings)
    {name : String} {time : TimeExpr} (timed : validateTimedAction tables name = .ok ())
    (accepted : validateTimedActionTime location time = .ok ()) :
    OverridesFit tables location
      { settings with timedActionOverrides := settings.timedActionOverrides.insert name time }
      switchSteps plugBindings := by
  refine ⟨fit.rooms, fit.steps, fit.rules, ?_, fit.plugs, fit.bindings⟩
  intro other stored found
  rw [TreeMap.getElem?_insert] at found
  split at found
  · rename_i same
    cases LawfulEqCmp.compare_eq_iff_eq.mp same
    cases found
    exact ⟨timed, accepted⟩
  · exact fit.times _ _ found

theorem eraseTime (fit : OverridesFit tables location settings switchSteps plugBindings)
    (name : String) :
    OverridesFit tables location
      { settings with timedActionOverrides := settings.timedActionOverrides.erase name }
      switchSteps plugBindings := by
  refine ⟨fit.rooms, fit.steps, fit.rules, ?_, fit.plugs, fit.bindings⟩
  intro other stored found
  rw [TreeMap.getElem?_erase] at found
  split at found
  · cases found
  · exact fit.times _ _ found

theorem insertPlug (fit : OverridesFit tables location settings switchSteps plugBindings)
    {name : String} {value : PlugScheduleOverride} {bindings : List ResolvedBinding}
    (accepted : validatePlugOverride tables location name value = .ok bindings) :
    OverridesFit tables location
      { settings with
        plugScheduleOverrides := settings.plugScheduleOverrides.insert name value }
      switchSteps (plugBindings.insert name bindings) := by
  refine ⟨fit.rooms, fit.steps, fit.rules, fit.times, ?_, ?_⟩
  · intro other stored found
    rw [TreeMap.getElem?_insert] at found ⊢
    split at found
    · rename_i same
      cases LawfulEqCmp.compare_eq_iff_eq.mp same
      cases found
      exact ⟨bindings, by simp, accepted⟩
    · rename_i different
      rw [if_neg different]
      exact fit.plugs _ _ found
  · intro other stored found
    rw [TreeMap.getElem?_insert] at found ⊢
    split at found
    · rename_i same
      exact ⟨value, by simp [same]⟩
    · rename_i different
      rw [if_neg different]
      exact fit.bindings _ _ found

theorem erasePlug (fit : OverridesFit tables location settings switchSteps plugBindings)
    (name : String) :
    OverridesFit tables location
      { settings with plugScheduleOverrides := settings.plugScheduleOverrides.erase name }
      switchSteps (plugBindings.erase name) := by
  refine ⟨fit.rooms, fit.steps, fit.rules, fit.times, ?_, ?_⟩
  · intro other stored found
    rw [TreeMap.getElem?_erase] at found ⊢
    split at found
    · cases found
    · rename_i different
      rw [if_neg different]
      exact fit.plugs _ _ found
  · intro other stored found
    rw [TreeMap.getElem?_erase] at found ⊢
    split at found
    · cases found
    · rename_i different
      rw [if_neg different]
      exact fit.bindings _ _ found

end OverridesFit

/-! ## Changes of the automation -/

namespace Automation

variable (automation : Automation)

/-- Replace settings that are not schedules. -/
def withSwitches (disabledZones disabledHeatDemand : Finset String) (boosts : NameMap ValveBoost)
    (scheduleOverrides : NameMap TemperatureSchedule) (boostDeadlines : NameMap Instant) :
    Automation :=
  { automation with
    settings := { automation.settings with
      disabledZones, disabledHeatDemand, boosts, scheduleOverrides }
    boostDeadlines
    fit := ⟨automation.fit.rooms, automation.fit.steps, automation.fit.rules,
      automation.fit.times, automation.fit.plugs, automation.fit.bindings⟩ }

/-- Let motion use a room or not. -/
def setMotionEnabled (room : String) (enabled : Bool) : Automation :=
  let zones := automation.settings.disabledZones
  automation.withSwitches (if enabled then zones.erase room else insert room zones)
    automation.settings.disabledHeatDemand automation.settings.boosts
    automation.settings.scheduleOverrides automation.boostDeadlines

/-- Let a valve demand heat or not. -/
def setHeatDemandEnabled (device : String) (enabled : Bool) : Automation :=
  let devices := automation.settings.disabledHeatDemand
  automation.withSwitches automation.settings.disabledZones
    (if enabled then devices.erase device else insert device devices) automation.settings.boosts
    automation.settings.scheduleOverrides automation.boostDeadlines

/-- Set or cancel a boost; a boost with the same end keeps its deadline. -/
def applyValveBoost (clock : ClockReading) (device : String) (boost : Option ValveBoost) :
    Automation :=
  let boosts := automation.settings.boosts
  let deadlines := automation.boostDeadlines
  match boost with
  | none =>
      automation.withSwitches automation.settings.disabledZones
        automation.settings.disabledHeatDemand (boosts.erase device)
        automation.settings.scheduleOverrides (deadlines.erase device)
  | some boost =>
      let kept := (boosts[device]?).map (·.endsAtEpochMs) = some boost.endsAtEpochMs
      let deadline :=
        clock.now + Duration.fromMillis (boost.endsAtEpochMs - clock.epochMillis)
      automation.withSwitches automation.settings.disabledZones
        automation.settings.disabledHeatDemand (boosts.insert device boost)
        automation.settings.scheduleOverrides
        (if kept then deadlines else deadlines.insert device deadline)

/-- Replace or restore the schedule of a valve. -/
def applyValveSchedule (device : String) (schedule : Option TemperatureSchedule) : Automation :=
  let schedules := automation.settings.scheduleOverrides
  automation.withSwitches automation.settings.disabledZones
    automation.settings.disabledHeatDemand automation.settings.boosts
    (match schedule with
    | some schedule => schedules.insert device schedule
    | none => schedules.erase device) automation.boostDeadlines

/-- Replace the schedule and switch steps of a room by accepted ones. -/
def insertRoomOverride {name : String} {value : RoomScheduleOverride}
    {steps : NameMap (List ResolvedSwitchStep)}
    (accepted : validateRoomOverride automation.topology.toTopologyTables automation.location name
      value = .ok steps) : Automation :=
  { automation with
    settings := { automation.settings with
      roomScheduleOverrides := automation.settings.roomScheduleOverrides.insert name value }
    resolvedSwitchSteps := automation.resolvedSwitchSteps.insert name steps
    fit := automation.fit.insertRoom accepted }

/-- Restore the deployed schedule of a room. -/
def eraseRoomOverride (name : String) : Automation :=
  { automation with
    settings := { automation.settings with
      roomScheduleOverrides := automation.settings.roomScheduleOverrides.erase name }
    resolvedSwitchSteps := automation.resolvedSwitchSteps.erase name
    fit := automation.fit.eraseRoom name }

/-- Replace the slots of a motion rule by accepted ones. -/
def insertMotionOverride {name : String} {slots : NameMap Slot}
    (accepted : validateMotionOverride automation.topology.toTopologyTables automation.location
      name slots = .ok ()) : Automation :=
  { automation with
    settings := { automation.settings with
      motionScheduleOverrides := automation.settings.motionScheduleOverrides.insert name slots }
    fit := automation.fit.insertRule accepted }

/-- Restore the deployed slots of a motion rule. -/
def eraseMotionOverride (name : String) : Automation :=
  { automation with
    settings := { automation.settings with
      motionScheduleOverrides := automation.settings.motionScheduleOverrides.erase name }
    fit := automation.fit.eraseRule name }

/-- Replace the time of a timed binding by an accepted one. -/
def insertTimedAction {name : String} {time : TimeExpr}
    (timed : validateTimedAction automation.topology.toTopologyTables name = .ok ())
    (accepted : validateTimedActionTime automation.location time = .ok ()) : Automation :=
  { automation with
    settings := { automation.settings with
      timedActionOverrides := automation.settings.timedActionOverrides.insert name time }
    fit := automation.fit.insertTime timed accepted }

/-- Restore the deployed time of a timed binding. -/
def eraseTimedAction (name : String) : Automation :=
  { automation with
    settings := { automation.settings with
      timedActionOverrides := automation.settings.timedActionOverrides.erase name }
    fit := automation.fit.eraseTime name }

/-- Replace the bindings of a plug by accepted ones. -/
def insertPlugOverride {name : String} {value : PlugScheduleOverride}
    {bindings : List ResolvedBinding}
    (accepted : validatePlugOverride automation.topology.toTopologyTables automation.location name
      value = .ok bindings) : Automation :=
  { automation with
    settings := { automation.settings with
      plugScheduleOverrides := automation.settings.plugScheduleOverrides.insert name value }
    resolvedPlugBindings := automation.resolvedPlugBindings.insert name bindings
    fit := automation.fit.insertPlug accepted }

/-- Restore the deployed bindings of a plug. -/
def erasePlugOverride (name : String) : Automation :=
  { automation with
    settings := { automation.settings with
      plugScheduleOverrides := automation.settings.plugScheduleOverrides.erase name }
    resolvedPlugBindings := automation.resolvedPlugBindings.erase name
    fit := automation.fit.erasePlug name }

/-! ## Checks -/

/-- The device is a valve. -/
def validateHeatDemandDevice (device : String) : Except String Unit :=
  if automation.isHeatDemandDevice device then .ok ()
  else .error ("Unknown heating valve: " ++ device)

/-- The room exists and some motion sensor can use it. -/
def validateMotionZone (room : String) : Except String Unit :=
  match automation.topology.roomByName room with
  | none => .error ("Unknown light group: " ++ room)
  | some zone =>
      if zone.boundMotion = [] then .error ("Light group has no motion sensors: " ++ room)
      else .ok ()

end Automation

/-! ## Plans

A command is planned first: the automation it leads to and the operations it performs there.
-/

/-- Why a command is refused. -/
inductive ControlError
  | message (text : String)
  | schedule (error : HeatingConfigError)
  deriving DecidableEq

/-- The automation a command leads to and the operations it performs there. -/
abbrev Planned := Except ControlError (Automation × List Operation)

/-- Refuse with a message. -/
def refuse {α : Type} (text : String) : Except ControlError α := .error (.message text)

/-- Pass a check on. -/
def checked {α : Type} (check : Except String α) : Except ControlError α :=
  check.mapError .message

/-- A boost temperature is a half degree between the extremes. -/
def validateBoostTemperature (temperature : ℚ) : Except String Unit :=
  if minSetpoint ≤ temperature ∧ temperature ≤ maxSetpoint ∧ (temperature * 2).den = 1 then .ok ()
  else .error "Boost target must be 5–30°C in 0.5°C steps"

namespace Env

variable (env : Env)

/-- The boost that starting one leads to. -/
def newBoost (device : String) (durationMinutes : Nat) (temperature : ℚ) :
    Except String ValveBoost :=
  match validateBoostTemperature temperature with
  | .error error => .error error
  | .ok () =>
      if durationMinutes ∉ boostDurationsMinutes then
        .error "Boost duration must be 30, 60, 90, 120, 180, 240 or 360 minutes"
      else if (env.activeBoost device).isSome then
        .error "Boost is already active; edit its target or cancel it first"
      else
        let endsAtEpochMs := env.clock.epochMillis + durationMinutes * 60000
        if endsAtEpochMs < 2 ^ 63 then .ok { temperature, endsAtEpochMs }
        else .error "Boost deadline is outside the supported timestamp range"

/-- The boost that a new temperature of an active one leads to. -/
def retargetedBoost (device : String) (temperature : ℚ) : Except String ValveBoost :=
  match validateBoostTemperature temperature with
  | .error error => .error error
  | .ok () =>
      match env.activeBoost device with
      | none => .error "Boost is no longer active"
      | some current => .ok { current with temperature }

end Env

namespace Automation

variable (automation : Automation)

/-- Recall a scene of a room. -/
def planRecallScene (room : String) (sceneId : Nat) (ts : Instant) : Planned :=
  match automation.topology.roomByName room with
  | none => refuse ("Unknown light group: " ++ room)
  | some resolved =>
      match resolved.scenes.sceneById sceneId with
      | none => refuse ("Unknown scene " ++ toString sceneId ++ " for " ++ room)
      | some _ => .ok (automation, [.webRecallScene room sceneId ts])

/-- Turn a room off. -/
def planRoomOff (room : String) (ts : Instant) : Planned :=
  match automation.topology.roomIdx room with
  | none => refuse ("Unknown light group: " ++ room)
  | some _ => .ok (automation, [.webSetRoomOff room ts])

/-- Switch a plug. -/
def planPlugPower (device : String) (on : Bool) (ts : Instant) : Planned :=
  match automation.topology.deviceIdx device with
  | none => refuse ("Unknown plug: " ++ device)
  | some idx =>
      if automation.topology.isPlugIdx idx then .ok (automation, [.webSetPlugPower device on ts])
      else refuse ("Device is not a plug: " ++ device)

/-- Let motion use a room or not. -/
def planMotionEnabled (room : String) (enabled : Bool) (ts : Instant) : Planned :=
  (checked (automation.validateMotionZone room)).map fun _ =>
    (automation.setMotionEnabled room enabled, if enabled then [] else [.blockMotion room ts])

/-- Let a valve demand heat or not. -/
def planHeatDemandEnabled (device : String) (enabled : Bool) : Planned :=
  (checked (automation.validateHeatDemandDevice device)).map fun _ =>
    (automation.setHeatDemandEnabled device enabled, [])

/-- Change the boost of a valve. -/
def planBoost (clock : ClockReading) (device : String)
    (boost : Except String (Option ValveBoost)) : Planned :=
  match automation.validateHeatDemandDevice device with
  | .error error => refuse error
  | .ok () =>
      (checked boost).map fun boost => (automation.applyValveBoost clock device boost, [])

/-- Change the schedule of a valve. -/
def planValveSchedule (device : String) (value : Option TemperatureSchedule) : Planned :=
  match automation.validateHeatDemandDevice device, value with
  | .error error, _ => refuse error
  | .ok (), none => .ok (automation.applyValveSchedule device none, [])
  | .ok (), some schedule =>
      ((schedule.validate device).mapError .schedule).map fun _ =>
        (automation.applyValveSchedule device (some schedule), [])

/-- Change the schedule of a room, which forgets its switch cycle. -/
def planRoomSchedule (room : String) (value : Option RoomScheduleOverride) : Planned :=
  match automation.topology.roomByName room, value with
  | none, _ => refuse ("Unknown light group: " ++ room)
  | some _, none => .ok (automation.eraseRoomOverride room, [.forgetCycle room])
  | some _, some value =>
      match accepted : validateRoomOverride automation.topology.toTopologyTables
          automation.location room value with
      | .error error => refuse error
      | .ok _ => .ok (automation.insertRoomOverride accepted, [.forgetCycle room])

/-- Change the slots of a motion rule. -/
def planMotionSchedule (rule : String) (value : Option (NameMap Slot)) : Planned :=
  match motionRuleByName automation.topology.toTopologyTables rule, value with
  | none, _ => refuse ("Unknown motion rule: " ++ rule)
  | some _, none => .ok (automation.eraseMotionOverride rule, [])
  | some _, some slots =>
      match accepted : validateMotionOverride automation.topology.toTopologyTables
          automation.location rule slots with
      | .error error => refuse error
      | .ok () => .ok (automation.insertMotionOverride accepted, [])

/-- Change the time of a timed binding. -/
def planTimedAction (binding : String) (value : Option TimeExpr) : Planned :=
  match timed : validateTimedAction automation.topology.toTopologyTables binding with
  | .error error => refuse error
  | .ok () =>
      match value with
      | none => .ok (automation.eraseTimedAction binding, [])
      | some time =>
          match accepted : validateTimedActionTime automation.location time with
          | .error error => refuse error
          | .ok () => .ok (automation.insertTimedAction timed accepted, [])

/-- Change the bindings of a plug, which restarts its kill switches. -/
def planPlugSchedule (device : String) (value : Option PlugScheduleOverride) (ts : Instant) :
    Planned :=
  match value with
  | none =>
      (checked (validatePlug automation.topology.toTopologyTables device)).map fun _ =>
        (automation.erasePlugOverride device, [.replacePlugBindings device ts])
  | some value =>
      match accepted : validatePlugOverride automation.topology.toTopologyTables
          automation.location device value with
      | .error error => refuse error
      | .ok _ => .ok (automation.insertPlugOverride accepted, [.replacePlugBindings device ts])

/-- Plan a command. -/
def plan (clock : ClockReading) (command : ControlCommand) : Planned :=
  let env : Env := { automation with clock }
  match command with
  | .recallScene room sceneId => automation.planRecallScene room sceneId clock.now
  | .setRoomOff room => automation.planRoomOff room clock.now
  | .setPlugPower device on => automation.planPlugPower device on clock.now
  | .setMotionEnabled room enabled => automation.planMotionEnabled room enabled clock.now
  | .setHeatDemandEnabled device enabled => automation.planHeatDemandEnabled device enabled
  | .startValveBoost device durationMinutes temperature =>
      automation.planBoost clock device
        ((env.newBoost device durationMinutes temperature).map some)
  | .setValveBoostTarget device temperature =>
      automation.planBoost clock device ((env.retargetedBoost device temperature).map some)
  | .cancelValveBoost device => automation.planBoost clock device (.ok none)
  | .changeValveSchedule device value => automation.planValveSchedule device value
  | .changeRoomSchedule room value => automation.planRoomSchedule room value
  | .changeMotionSchedule rule value => automation.planMotionSchedule rule value
  | .changeTimedActionTime binding value => automation.planTimedAction binding value
  | .changePlugSchedule device value => automation.planPlugSchedule device value clock.now

end Automation

namespace ControlCommand

/-- What a settings command saves; the other commands save nothing. -/
def saves : ControlCommand → Option String
  | recallScene _ _ => none
  | setRoomOff _ => none
  | setPlugPower _ _ => none
  | setMotionEnabled room _ => some ("motion setting for " ++ room)
  | setHeatDemandEnabled device _ => some ("heat demand setting for " ++ device)
  | startValveBoost device _ _ => some ("boost for " ++ device)
  | setValveBoostTarget device _ => some ("boost for " ++ device)
  | cancelValveBoost device => some ("boost for " ++ device)
  | changeValveSchedule device _ => some ("schedule for " ++ device)
  | changeRoomSchedule room _ => some ("schedule for " ++ room)
  | changeMotionSchedule rule _ => some ("schedule for " ++ rule)
  | changeTimedActionTime binding _ => some ("time for " ++ binding)
  | changePlugSchedule device _ => some ("schedule for " ++ device)

end ControlCommand

namespace EventProcessor

/-- Perform operations in the automation in force. -/
def perform (processor : EventProcessor) (clock : ClockReading)
    (step : Env → Emission.Step Runtime Record) : EventProcessor × List Record :=
  match step (processor.env clock) processor.runtime with
  | (runtime, records) => ({ processor with runtime }, records)

/-- Handle an event. -/
def handleEvent (processor : EventProcessor) (clock : ClockReading) (event : Event) :
    EventProcessor × List Record :=
  processor.perform clock fun env => env.handleEvent event

/-- Handle a command; `saved` says what saving the settings would return.  A command that is
refused or not saved changes nothing. -/
def control (processor : EventProcessor) (clock : ClockReading) (saved : Except String Unit)
    (command : ControlCommand) : Except ControlError (EventProcessor × List Record) :=
  match processor.automation.plan clock command, command.saves, saved with
  | .error error, _, _ => .error error
  | .ok _, some setting, .error error => refuse ("Could not save " ++ setting ++ ": " ++ error)
  | .ok (automation, operations), _, _ =>
      .ok ({ processor with automation }.perform clock fun env => env.performAll operations)

end EventProcessor

end MqttController
