import Mathlib.Data.Finset.Insert
import MqttController.Lib.Checked
import MqttController.Topology

/-!
# Control settings and their validation

What the dashboard can change: which zones motion may use, which valves may demand heat, boosts,
and replacements of deployed schedules, timed actions and plug bindings.  Every replacement is
checked against the deployed topology before it is applied or kept.
-/

namespace MqttController

open Std

/-- Temporary setpoint of a valve. -/
structure ValveBoost where
  temperature : ℚ
  endsAtEpochMs : Nat
  deriving DecidableEq

/-- Replacement of a room's slots and switch steps. -/
structure RoomScheduleOverride where
  slots : NameMap Slot
  switchSteps : NameMap (List SwitchStep)

/-- Replacement kill switch of a plug. -/
structure KillSwitchOverride where
  thresholdWatts : ℚ
  holdoffSecs : Nat
  deriving DecidableEq

/-- What a timed plug action does. -/
inductive PlugAction
  | on
  | off
  | toggle
  deriving DecidableEq, Repr

/-- One daily plug action. -/
structure PlugTimedAction where
  time : TimeExpr
  action : PlugAction
  deriving DecidableEq

/-- Replacement of a plug's daily actions and kill switch. -/
structure PlugScheduleOverride where
  timedActions : List PlugTimedAction
  killSwitch : Option KillSwitchOverride
  deriving DecidableEq

/-- User intent, kept across restarts. -/
structure ControlSettings where
  disabledZones : Finset String := ∅
  disabledHeatDemand : Finset String := ∅
  boosts : NameMap ValveBoost := ∅
  scheduleOverrides : NameMap TemperatureSchedule := ∅
  roomScheduleOverrides : NameMap RoomScheduleOverride := ∅
  motionScheduleOverrides : NameMap (NameMap Slot) := ∅
  timedActionOverrides : NameMap TimeExpr := ∅
  plugScheduleOverrides : NameMap PlugScheduleOverride := ∅

/-! ## Checks -/

/-- The text of a schedule error. -/
def SceneScheduleError.display : SceneScheduleError → String
  | .fromOutOfRange name expr => "slot " ++ name.quote ++ " `from` time is out of range: " ++ expr
  | .toOutOfRange name expr => "slot " ++ name.quote ++ " `to` time is out of range: " ++ expr
  | .unknownSceneId name id =>
      "slot " ++ name.quote ++ " references scene id " ++ toString id ++
        " which is not in the room's `scenes` list"
  | .incompleteCoverage count uncovered =>
      "the " ++ toString count ++
        " slot(s) defined do not exactly cover 24 hours; coverage map has " ++
        toString uncovered ++ " uncovered minutes"
  | .overlappingSlots minute slots =>
      "minute " ++ toString minute ++ " is covered by multiple slots: " ++
        toString (slots.map String.quote)
  | .slotSetChanged expected actual =>
      "slots " ++ toString (actual.map String.quote) ++ " must match the configured slots " ++
        toString (expected.map String.quote)

/-- The text of a switch-step error. -/
def invalidSwitchSteps (room reason : String) : String :=
  "switch steps for room " ++ room.quote ++ ": " ++ reason

/-- Resolve one switch step against the scenes and members of its room. -/
def resolveSwitchStep (room : String) (scenes : SceneSchedule) (memberKeys : List String)
    (members : List LightEndpoint) (step : SwitchStep) : Except String ResolvedSwitchStep :=
  match scenes.sceneById step.sceneId with
  | none => .error (invalidSwitchSteps room ("unknown scene " ++ toString step.sceneId))
  | some scene =>
      if scene.state ≠ "ON" ∨ scene.transition < 0 then
        .error (invalidSwitchSteps room ("scene " ++ toString scene.id ++
          " must turn lights on with a finite nonnegative transition"))
      else if step.lights = [] then
        .error (invalidSwitchSteps room "step has an empty light selection")
      else if ¬ step.lights.Nodup then
        .error (invalidSwitchSteps room "step has duplicate lights")
      else
        match step.lights.mapM fun light =>
            match (memberKeys.idxOf? light).bind fun index => members[index]? with
            | none =>
                Except.error (invalidSwitchSteps room (light.quote ++ " is not a room member"))
            | some member => .ok member with
        | .error error => .error error
        | .ok lights => .ok { scene, lights }

/-- Resolve the steps of one slot. -/
def resolveSwitchSlot (room : String) (scenes : SceneSchedule) (memberKeys : List String)
    (members : List LightEndpoint) (slot : String) (steps : List SwitchStep) :
    Except String (List ResolvedSwitchStep) :=
  if scenes.slots.contains slot = false then
    .error (invalidSwitchSteps room ("unknown slot " ++ slot.quote))
  else if steps = [] then
    .error (invalidSwitchSteps room ("slot " ++ slot.quote ++ " has an empty step sequence"))
  else steps.mapM (resolveSwitchStep room scenes memberKeys members)

/-- Resolve the steps of every slot, in slot order. -/
def resolveSwitchSlots (room : String) (scenes : SceneSchedule) (memberKeys : List String)
    (members : List LightEndpoint) :
    List (String × List SwitchStep) → Except String (NameMap (List ResolvedSwitchStep))
  | [] => .ok ∅
  | (slot, steps) :: rest =>
      match resolveSwitchSlot room scenes memberKeys members slot steps with
      | .error error => .error error
      | .ok sequence =>
          match resolveSwitchSlots room scenes memberKeys members rest with
          | .error error => .error error
          | .ok resolved => .ok (resolved.insert slot sequence)

/-- Resolve per-slot switch steps against a schedule and the room's members. -/
def resolveSwitchSteps (room : String) (scenes : SceneSchedule)
    (switchSteps : NameMap (List SwitchStep)) (memberKeys : List String)
    (members : List LightEndpoint) : Except String (NameMap (List ResolvedSwitchStep)) :=
  if switchSteps.toList ≠ [] ∧ ¬ (members.map (·.device)).Nodup then
    .error (invalidSwitchSteps room ("requires one endpoint per light; " ++
      "duplicate device members cannot be observed independently"))
  else resolveSwitchSlots room scenes memberKeys members switchSteps.toList

/-- A stepped room's lights appear under one endpoint only. -/
def endpointsObservable (room : ResolvedRoom) (rooms : List ResolvedRoom) : Except String Unit :=
  if room.lightMembers.any fun member => (rooms.flatMap (·.lightMembers)).any fun other =>
      other.device == member.device && other.endpoint != member.endpoint then
    .error (invalidSwitchSteps room.name ("requires one configured endpoint per light; " ++
      "endpoint-specific telemetry is unavailable"))
  else .ok ()

section Validation

variable (tables : TopologyTables) (location : Option Location)

/-- Text of the error about sun-relative times without a location. -/
def needsLocation : String := "Sunrise/sunset times require a configured location"

/-- Replacement slots of a room or rule fit its scenes. -/
def validateSlots (deployed : SceneSchedule) (slots : NameMap Slot) : Except String Unit :=
  if slots.isEmpty then .error "The schedule needs at least one slot"
  else
    match slots.keys.find? fun name => name.all Char.isWhitespace with
    | some name => .error ("Slot name " ++ name.quote ++ " must not be blank")
    | none =>
        match ({ deployed with slots := slots } : SceneSchedule).validate with
        | .error error => .error error.display
        | .ok () =>
            if location.isNone && OrderedMap.anyValue slots Slot.usesSun then .error needsLocation
            else .ok ()

/-- Check a room override and resolve its switch steps. -/
def validateRoomOverride (name : String) (value : RoomScheduleOverride) :
    Except String (NameMap (List ResolvedSwitchStep)) :=
  match tables.roomByName name with
  | none => .error ("Unknown light group: " ++ name)
  | some room =>
      match validateSlots location room.scenes value.slots with
      | .error error => .error error
      | .ok () =>
          match resolveSwitchSteps name { room.scenes with slots := value.slots }
              value.switchSteps room.members room.lightMembers with
          | .error error => .error error
          | .ok steps =>
              if steps.isEmpty then .ok steps
              else
                match endpointsObservable room tables.rooms with
                | .error error => .error error
                | .ok () => .ok steps

/-- The motion rule with a name. -/
def motionRuleByName (name : String) : Option ResolvedMotionRule :=
  tables.motionRules.find? fun rule => rule.name == name

/-- Check replacement slots of a motion rule. -/
def validateMotionOverride (name : String) (slots : NameMap Slot) : Except String Unit :=
  match motionRuleByName tables name with
  | none => .error ("Unknown motion rule: " ++ name)
  | some rule =>
      match rule.scenes.validateReplacementSlots slots with
      | .error error => .error error.display
      | .ok () =>
          if location.isNone && OrderedMap.anyValue slots Slot.usesSun then .error needsLocation
          else
            match slots.toList.find? fun entry => entry.2.sceneIds.isEmpty with
            | some entry => .error ("slot " ++ entry.1.quote ++ " has no scenes")
            | none => .ok ()

/-- Only timed bindings that target rooms take a time override. -/
def validateTimedAction (name : String) : Except String Unit :=
  match tables.bindings.find? fun binding => binding.name == name with
  | none => .error ("Unknown binding: " ++ name)
  | some binding =>
      match binding.trigger with
      | .at _ =>
          if binding.effect.targetPlug.isNone then .ok ()
          else .error ("Binding times a plug; edit the plug schedule instead: " ++ name)
      | _ => .error ("Binding is not a timed action: " ++ name)

/-- Check the time of a timed action. -/
def validateTimedActionTime (time : TimeExpr) : Except String Unit :=
  if !time.isValidTriggerTime then .error ("Timed actions cannot run at " ++ time.display)
  else if time.usesSun && location.isNone then .error needsLocation
  else .ok ()

/-- Check a kill switch. -/
def KillSwitchOverride.validate (killSwitch : KillSwitchOverride) : Except String Unit :=
  if killSwitch.thresholdWatts ≤ 0 then
    .error "Kill-switch threshold must be a positive number of watts"
  else if killSwitch.holdoffSecs = 0 then
    .error "Kill-switch holdoff must be at least one second"
  else .ok ()

/-- The plug with a name. -/
def validatePlug (device : String) : Except String DeviceIdx :=
  match (tables.deviceIdx device).filter tables.isPlugIdx with
  | some plug => .ok plug
  | none => .error ("Unknown plug: " ++ device)

/-- The binding of one timed plug action. -/
def timedPlugBinding (device : String) (plug : DeviceIdx) (index : Nat)
    (action : PlugTimedAction) : ResolvedBinding :=
  { name := "plug-schedule:" ++ device ++ ":" ++ toString (index + 1)
    trigger := .at action.time
    effect := match action.action with
      | .on => .turnOn plug
      | .off => .turnOff plug
      | .toggle => .toggle plug none }

/-- Check a plug override and resolve it into bindings. -/
def validatePlugOverride (device : String) (value : PlugScheduleOverride) :
    Except String (List ResolvedBinding) :=
  match validatePlug tables device with
  | .error error => .error error
  | .ok plug =>
      match value.timedActions.zipIdx.mapM fun entry =>
          match validateTimedActionTime location entry.1.time with
          | .error error => Except.error error
          | .ok () => .ok (timedPlugBinding device plug entry.2 entry.1) with
      | .error error => .error error
      | .ok timed =>
          match value.killSwitch with
          | none => .ok timed
          | some killSwitch =>
              match killSwitch.validate with
              | .error error => .error error
              | .ok () =>
                  if !tables.powerMetered plug then
                    .error (device ++ " does not report power, so it cannot have a kill switch")
                  else
                    .ok (timed ++
                      [{ name := "plug-schedule:" ++ device ++ ":kill-switch"
                         trigger := .powerBelow plug killSwitch.thresholdWatts
                           (Duration.fromSecs killSwitch.holdoffSecs)
                         effect := .turnOff plug }])

end Validation

/-! ## What an accepted replacement satisfies -/

private theorem mem_members_of_lookup {memberKeys : List String} {members : List LightEndpoint}
    {light : String} {member : LightEndpoint}
    (found : ((memberKeys.idxOf? light).bind fun index => members[index]?) = some member) :
    member ∈ members := by
  obtain ⟨index, _, here⟩ := Option.bind_eq_some_iff.mp found
  exact List.mem_of_getElem? here

theorem resolveSwitchStep_ok {room : String} {scenes : SceneSchedule} {memberKeys : List String}
    {members : List LightEndpoint} {step : SwitchStep} {resolved : ResolvedSwitchStep}
    (accepted : resolveSwitchStep room scenes memberKeys members step = .ok resolved) :
    resolved.scene ∈ scenes.scenes ∧ (∀ light ∈ resolved.lights, light ∈ members) ∧
      resolved.lights ≠ [] := by
  unfold resolveSwitchStep at accepted
  split at accepted
  · cases accepted
  · rename_i scene found
    split_ifs at accepted with off empty duplicate
    split at accepted
    · cases accepted
    · rename_i lights passed
      cases accepted
      refine ⟨List.mem_of_find?_eq_some found, ?_, ?_⟩
      · intro light member
        obtain ⟨name, _, checked⟩ := Checked.mem_of_mapM_ok passed member
        split at checked
        · cases checked
        · rename_i endpoint located
          cases checked
          exact mem_members_of_lookup located
      · intro none
        have sameLength := Checked.length_of_mapM_ok passed
        have none : lights = [] := none
        rw [none, List.length_nil] at sameLength
        exact empty (List.length_eq_zero_iff.mp sameLength.symm)

theorem resolveSwitchSlot_ok {room : String} {scenes : SceneSchedule} {memberKeys : List String}
    {members : List LightEndpoint} {slot : String} {steps : List SwitchStep}
    {sequence : List ResolvedSwitchStep}
    (accepted : resolveSwitchSlot room scenes memberKeys members slot steps = .ok sequence) :
    scenes.slots.contains slot = true ∧ sequence ≠ [] ∧ ∀ step ∈ sequence,
      step.scene ∈ scenes.scenes ∧ (∀ light ∈ step.lights, light ∈ members) ∧
        step.lights ≠ [] := by
  unfold resolveSwitchSlot at accepted
  split_ifs at accepted with unknown empty
  refine ⟨by simpa using unknown, ?_, ?_⟩
  · intro none
    have sameLength := Checked.length_of_mapM_ok accepted
    rw [none, List.length_nil] at sameLength
    exact empty (List.length_eq_zero_iff.mp sameLength.symm)
  · intro step member
    obtain ⟨raw, _, checked⟩ := Checked.mem_of_mapM_ok accepted member
    exact resolveSwitchStep_ok checked

theorem resolveSwitchSlots_ok {room : String} {scenes : SceneSchedule} {memberKeys : List String}
    {members : List LightEndpoint} {rows : List (String × List SwitchStep)}
    {resolved : NameMap (List ResolvedSwitchStep)}
    (accepted : resolveSwitchSlots room scenes memberKeys members rows = .ok resolved)
    {slot : String} {sequence : List ResolvedSwitchStep} (found : resolved[slot]? = some sequence) :
    ∃ steps, resolveSwitchSlot room scenes memberKeys members slot steps = .ok sequence := by
  induction rows generalizing resolved with
  | nil =>
      rw [resolveSwitchSlots] at accepted
      cases accepted
      rw [TreeMap.getElem?_emptyc] at found
      cases found
  | cons row rest ih =>
      obtain ⟨name, steps⟩ := row
      rw [resolveSwitchSlots] at accepted
      split at accepted
      · cases accepted
      · rename_i first firstOk
        split at accepted
        · cases accepted
        · rename_i others othersOk
          cases accepted
          rw [TreeMap.getElem?_insert] at found
          split at found
          · rename_i same
            cases LawfulEqCmp.compare_eq_iff_eq.mp same
            cases found
            exact ⟨steps, firstOk⟩
          · exact ih othersOk found

/-- Resolved switch steps fit what they were resolved against. -/
theorem switchStepsFit_of_resolve {room : String} {scenes : SceneSchedule}
    {switchSteps : NameMap (List SwitchStep)} {memberKeys : List String}
    {members : List LightEndpoint} {resolved : NameMap (List ResolvedSwitchStep)}
    (accepted : resolveSwitchSteps room scenes switchSteps memberKeys members = .ok resolved) :
    SwitchStepsFit scenes.scenes scenes.slots members resolved := by
  unfold resolveSwitchSteps at accepted
  split_ifs at accepted
  have each := fun {slot : String} {sequence : List ResolvedSwitchStep}
      (found : resolved[slot]? = some sequence) =>
    resolveSwitchSlot_ok (resolveSwitchSlots_ok accepted found).choose_spec
  refine ⟨?_, ?_, ?_, ?_, ?_⟩
  · intro slot present
    rw [TreeMap.contains_eq_isSome_getElem?] at present
    obtain ⟨sequence, found⟩ := Option.isSome_iff_exists.mp present
    exact (each found).1
  · intro slot sequence found
    exact (each found).2.1
  · intro slot sequence found step member
    exact ((each found).2.2 step member).1
  · intro slot sequence found step member
    exact ((each found).2.2 step member).2.1
  · intro slot sequence found step member
    exact ((each found).2.2 step member).2.2

theorem validateSlots_ok {location : Option Location} {deployed : SceneSchedule}
    {slots : NameMap Slot} (accepted : validateSlots location deployed slots = .ok ()) :
    ({ deployed with slots := slots } : SceneSchedule).validate = .ok () := by
  unfold validateSlots at accepted
  split at accepted
  · cases accepted
  · split at accepted
    · cases accepted
    · split at accepted
      · cases accepted
      · assumption

/-- An accepted room override names scenes of its room, and its steps fit the room. -/
theorem validateRoomOverride_ok {tables : TopologyTables} {location : Option Location}
    {name : String} {value : RoomScheduleOverride} {steps : NameMap (List ResolvedSwitchStep)}
    (accepted : validateRoomOverride tables location name value = .ok steps) :
    ∃ room, tables.roomByName name = some room ∧
      ({ room.scenes with slots := value.slots } : SceneSchedule).validate = .ok () ∧
      SwitchStepsFit room.scenes.scenes value.slots room.lightMembers steps := by
  unfold validateRoomOverride at accepted
  split at accepted
  · cases accepted
  · rename_i room found
    split at accepted
    · cases accepted
    · rename_i slotsOk
      split at accepted
      · cases accepted
      · rename_i resolved stepsOk
        have fits := switchStepsFit_of_resolve stepsOk
        refine ⟨room, found, validateSlots_ok slotsOk, ?_⟩
        split_ifs at accepted
        · cases accepted
          exact fits
        · split at accepted
          · cases accepted
          · cases accepted
            exact fits

/-- An accepted plug override consists of timed bindings and at most one kill switch, which switch
its own plug. -/
theorem validatePlugOverride_ok {tables : TopologyTables} {location : Option Location}
    {device : String} {value : PlugScheduleOverride} {bindings : List ResolvedBinding}
    (accepted : validatePlugOverride tables location device value = .ok bindings) :
    ∃ plug timed, tables.deviceIdx device = some plug ∧ tables.isPlugIdx plug = true ∧
      (∀ binding ∈ timed, (∃ time, binding.trigger = .at time) ∧ binding.effect.Switches plug) ∧
        (bindings = timed ∨ ∃ name watts holdoff,
          bindings = timed ++ [⟨name, .powerBelow plug watts holdoff, .turnOff plug⟩]) := by
  unfold validatePlugOverride at accepted
  split at accepted
  · cases accepted
  · rename_i plug checked
    have known : tables.deviceIdx device = some plug ∧ tables.isPlugIdx plug = true := by
      unfold validatePlug at checked
      split at checked
      · rename_i found
        cases checked
        exact Option.filter_eq_some_iff.mp found
      · cases checked
    split at accepted
    · cases accepted
    · rename_i timed passed
      have times : ∀ binding ∈ timed, (∃ time, binding.trigger = .at time) ∧
          binding.effect.Switches plug := by
        intro binding member
        obtain ⟨entry, _, checked⟩ := Checked.mem_of_mapM_ok passed member
        split at checked
        · cases checked
        · cases checked
          refine ⟨⟨entry.1.time, rfl⟩, ?_⟩
          unfold timedPlugBinding
          cases entry.1.action with
          | on => exact .inl rfl
          | off => exact .inr (.inl rfl)
          | toggle => exact .inr (.inr rfl)
      split at accepted
      · cases accepted
        exact ⟨plug, bindings, known.1, known.2, times, .inl rfl⟩
      · split at accepted
        · cases accepted
        · split_ifs at accepted
          cases accepted
          exact ⟨plug, timed, known.1, known.2, times, .inr ⟨_, _, _, rfl⟩⟩

end MqttController
