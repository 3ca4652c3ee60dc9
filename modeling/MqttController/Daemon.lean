import MqttController.Config.Coverage
import MqttController.Control

/-!
# Runs of the daemon

The daemon starts from an empty runtime, is seeded with reports, turns off what motion left on, and
then takes events and commands in any order.  A run is described by the records of all operations
performed so far and the daemon it led to; the clock never goes back.
-/

namespace MqttController

open Std

/-- Whether the daemon still takes the state of the bridges in. -/
inductive Stage
  | seeding
  | running
  deriving DecidableEq, Repr

/-- What the daemon does next. -/
inductive Input
  /-- Handle an event. -/
  | event (event : Event)
  /-- Finish seeding. -/
  | start
  /-- Handle a command; `saved` says what saving the settings would return. -/
  | command (saved : Except String Unit) (command : ControlCommand)

/-- The daemon between two inputs. -/
structure Daemon where
  processor : EventProcessor
  stage : Stage
  /-- The last clock reading. -/
  now : Instant

namespace Event

/-- The event reports a state, so that seeding may deliver it. -/
def isReport : Event → Bool
  | buttonPress _ _ _ _ => false
  | tick _ => false
  | _ => true

end Event

namespace Daemon

/-- A daemon that has restored its settings and seen nothing. -/
def launch (automation : Automation) (now : Instant) : Daemon :=
  { processor := { automation, runtime := {} }, stage := .seeding, now }

/-- The daemon after a result of the processor. -/
def proceed (clock : ClockReading) (stage : Stage) (result : EventProcessor × List Record) :
    Daemon × List Record :=
  ({ processor := result.1, stage, now := clock.now }, result.2)

/-- What the daemon does with an input, unless the input cannot come now. -/
def next (daemon : Daemon) (clock : ClockReading) (input : Input) :
    Option (Daemon × List Record) :=
  if clock.now < daemon.now then none
  else
    match daemon.stage, input with
    | .seeding, .event event =>
        if event.isReport then
          some (proceed clock .seeding (daemon.processor.handleEvent clock event))
        else none
    | .seeding, .start =>
        some (proceed clock .running
          (daemon.processor.perform clock fun env => env.startup clock.now))
    | .running, .event event =>
        some (proceed clock .running (daemon.processor.handleEvent clock event))
    | .running, .command saved command =>
        match daemon.processor.control clock saved command with
        | .ok result => some (proceed clock .running result)
        | .error _ => some (proceed clock .running (daemon.processor, []))
    | _, _ => none

/-- The daemon after several inputs, with the records of all of them. -/
def play : List (ClockReading × Input) → Daemon → Option (Daemon × List Record)
  | [], daemon => some (daemon, [])
  | (clock, input) :: rest, daemon =>
      match daemon.next clock input with
      | none => none
      | some (after, records) =>
          (play rest after).map fun result => (result.1, records ++ result.2)

end Daemon

/-- The histories and daemons that can be reached. -/
inductive Run : List Record → Daemon → Prop
  | launch (automation : Automation) (now : Instant) : Run [] (Daemon.launch automation now)
  | step {history records : List Record} {daemon after : Daemon} {clock : ClockReading}
      {input : Input} (run : Run history daemon)
      (taken : daemon.next clock input = some (after, records)) : Run (history ++ records) after

namespace Run

/-- Playing inputs continues a run. -/
theorem play {inputs : List (ClockReading × Input)} {history records : List Record}
    {daemon after : Daemon} (run : Run history daemon)
    (played : daemon.play inputs = some (after, records)) : Run (history ++ records) after := by
  induction inputs generalizing history records daemon with
  | nil =>
      cases played
      simpa using run
  | cons entry rest ih =>
      obtain ⟨clock, input⟩ := entry
      rw [Daemon.play] at played
      split at played
      · cases played
      · rename_i middle first taken
        obtain ⟨⟨final, more⟩, continued, same⟩ := Option.map_eq_some_iff.mp played
        cases same
        rw [← List.append_assoc]
        exact ih (run.step taken) continued

end Run

/-! ## Admissible operations -/

namespace Operation

/-- The operation is about the rules and the heating configuration of the topology, or executes an
effect that it provides. -/
def Admissible (topology : Topology) : Operation → Prop
  | startSession rule _ _ => rule ∈ topology.motionRules
  | releaseSession rule _ => rule ∈ topology.motionRules
  | finishSession rule _ _ => rule ∈ topology.motionRules
  | startupTurnOff rule _ => rule ∈ topology.motionRules
  | observeTrv config _ _ => topology.heatingConfig = some config
  | observeThermostat config _ _ _ _ => topology.heatingConfig = some config
  | beginHeatingTick config => topology.heatingConfig = some config
  | controlValves config => topology.heatingConfig = some config
  | controlRelays config => topology.heatingConfig = some config
  | execute _ effect _ => topology.Provides effect
  | _ => True

/-- The operation follows motion sensors: it changes what they report, or a session for it. -/
def followsSensors : Operation → Bool
  | observeSensor _ _ _ _ _ => true
  | ageActuals _ => true
  | startSession _ _ _ => true
  | releaseSession _ _ => true
  | finishSession _ _ _ => true
  | _ => false

/-- The operation changes what motion sensors report. -/
def changesSensors : Operation → Bool
  | observeSensor _ _ _ _ _ => true
  | ageActuals _ => true
  | _ => false

theorem changesSensors_eq_false {operation : Operation}
    (unfollowed : operation.followsSensors = false) : operation.changesSensors = false := by
  cases operation with
  | observeSensor sensor occupied illuminance received ts => cases unfollowed
  | ageActuals ts => cases unfollowed
  | _ => rfl

/-- The operation starts a heating tick. -/
def beginsTick : Operation → Bool
  | beginHeatingTick _ => true
  | _ => false

/-- The operation controls the relays. -/
def controlsRelays : Operation → Bool
  | controlRelays _ => true
  | _ => false

theorem controlsRelays_eq_false {operation : Operation}
    (follows : operation.followsSensors = true) : operation.controlsRelays = false := by
  cases operation with
  | controlRelays config => cases follows
  | _ => rfl

/-- The operation may open, shrink or close sessions. -/
def changesSessions : Operation → Bool
  | startSession _ _ _ => true
  | releaseSession _ _ => true
  | finishSession _ _ _ => true
  | startupTurnOff _ _ => true
  | blockMotion _ _ => true
  | _ => false

/-- The operation takes in a plug report. -/
def reportsPlug : Operation → Bool
  | observePlug _ _ _ _ => true
  | _ => false

/-- The timed binding that the operation notes to have fired. -/
def noted : Operation → Option String
  | noteTimedAction binding _ => some binding
  | _ => none

/-- The operation defers or drops a press or remembers a double tap. -/
def changesPresses : Operation → Bool
  | deferPress _ _ => true
  | dropPress _ => true
  | noteDoubleTap _ _ => true
  | _ => false

end Operation

/-! ## A small house -/

namespace House

/-- The lamp of the study. -/
def lamp : LightEndpoint := ⟨0, 11⟩

/-- The spot of the hall. -/
def spot : LightEndpoint := ⟨1, 11⟩

/-- The first scene of both rooms. -/
def dim : Scene :=
  { id := 1, name := "dim", state := "ON", brightness := some 50, colorTemp := none,
    transition := 1 }

/-- The second scene of both rooms. -/
def bright : Scene :=
  { id := 2, name := "bright", state := "ON", brightness := some 200, colorTemp := none
    transition := 1 }

/-- One slot for the whole day. -/
def scenes : SceneSchedule :=
  { scenes := [dim, bright]
    slots := TreeMap.empty.insert "day"
      { start := .fixed 0, stop := .fixed 1440, sceneIds := [1, 2] } }

/-- A room with switch steps. -/
def study : ResolvedRoom :=
  { name := "study", groupName := "study-group", members := ["lamp/11"], lightMembers := [lamp]
    scenes, switchSteps := TreeMap.empty.insert "day" [⟨dim, [lamp]⟩, ⟨bright, [lamp]⟩]
    offTransitionSeconds := 1, boundMotion := ["eye"] }

/-- A room without switch steps. -/
def hall : ResolvedRoom :=
  { name := "hall", groupName := "hall-group", members := ["spot/11"], lightMembers := [spot]
    scenes, switchSteps := TreeMap.empty
    offTransitionSeconds := 1, boundMotion := ["door"] }

/-- A motion rule for the group of one light. -/
def rule (name sensor : String) (mode : MotionMode) (group : RoomIdx) (light : LightEndpoint) :
    ResolvedMotionRule :=
  { name, sensors := [sensor], mode, scenes
    targetsBySlot := TreeMap.empty.insert "day" { group := some group, lights := [light] }
    offTransitionSeconds := 1, offCooldownSeconds := 0, maxIlluminance := none, lights := [light] }

/-- Motion turns the study off. -/
def studyMotion (mode : MotionMode) : ResolvedMotionRule := rule "study-motion" "eye" mode 0 lamp

/-- Motion turns the hall on and off. -/
def hallMotion : ResolvedMotionRule := rule "hall-motion" "door" .onOff 1 spot

/-- The whole week at one temperature. -/
def week : TemperatureSchedule :=
  { days := Weekday.all.foldl (fun days day => days.insert day
      [{ startHour := 0, startMinute := 0, endHour := 24, endMinute := 0, temperature := 21 }])
      TreeMap.empty }

/-- Two zones of one valve each. -/
def heating : HeatingConfig :=
  { zones := [⟨"upstairs", "relay-up", [⟨"valve-up", "week"⟩]⟩,
      ⟨"downstairs", "relay-down", [⟨"valve-down", "week"⟩]⟩]
    schedules := TreeMap.empty.insert "week" week
    pressureGroups := []
    heatPump := { minCycleSeconds := 600, minPauseSeconds := 300, minDemandPercent := 5
                  minDemandPercentFallback := 80 }
    openWindow := { detectionMinutes := 20, inhibitMinutes := 30 } }

/-- A device that is not metered. -/
def device (name : String) (kind : DeviceKind) : DeviceInfo :=
  { name, kind, plugProtocol := if kind = .plug then some .zigbee else none, powerMetered := false
    switchModel := none, trvVariant := none }

/-- A wall switch; the hardware of one of its buttons reports double taps. -/
def wall : SwitchModel :=
  { buttons := ["on", "off", "soft", "hard"]
    z2mActionMap :=
      ((((TreeMap.empty.insert "on" ⟨"on", .press⟩).insert "off" ⟨"off", .press⟩).insert
        "soft" ⟨"soft", .press⟩).insert "hard" ⟨"hard", .press⟩).insert
        "double" ⟨"hard", .doubleTap⟩ }

/-- The devices of the house. -/
def devices : List DeviceInfo :=
  [device "lamp" .light, device "spot" .light, device "eye" .motionSensor,
    device "door" .motionSensor, { device "switch" .switch with switchModel := some "wall" },
    { device "plug" .plug with powerMetered := true }, device "relay-up" .wallThermostat,
    device "relay-down" .wallThermostat, device "valve-up" .trv, device "valve-down" .trv]

/-- A binding that building the house accepts: it switches no plug but the one there is, a button is
one of the switch, and a kill switch is on the plug. -/
def accepts (binding : ResolvedBinding) : Bool :=
  (binding.effect.targetPlug).all (· == 5) &&
    match binding.trigger with
    | .button device button _ => device == 4 && wall.buttons.contains button
    | .powerBelow plug _ _ => plug == 5
    | _ => true

/-- The bindings of the house: the given ones if they have different names and are all accepted. -/
def checkedBindings (bindings : List ResolvedBinding) : List ResolvedBinding :=
  if (bindings.map (·.name)).Nodup ∧ bindings.all accepts then bindings else []

/-- The tables of the house. -/
def tables (mode : MotionMode) (bindings : List ResolvedBinding) : TopologyTables :=
  { rooms := [study, hall]
    descendantsByRoom := [[], []]
    devices
    switchModels := TreeMap.empty.insert "wall" wall
    softDoubleTapButtons := (checkedBindings bindings).filterMap fun binding =>
      match binding.trigger with
      | .button device button .softDoubleTap => some (device, button)
      | _ => none
    hwDoubleTapButtons := [(4, "hard")]
    bindings := checkedBindings bindings
    motionRules := [studyMotion mode, hallMotion]
    heatingConfig := some heating }

theorem getElem?_single {α : Type} {key other : String} {value found : α}
    (stored : (TreeMap.empty.insert key value : NameMap α)[other]? = some found) :
    other = key ∧ found = value := by
  rw [TreeMap.getElem?_insert] at stored
  split at stored
  · rename_i same
    cases stored
    exact ⟨(LawfulEqCmp.eq_of_compare same).symm, rfl⟩
  · simp at stored

theorem scenes_valid : scenes.validate = .ok () := by decide +kernel

theorem schedules_tile : ∀ entry ∈ heating.schedules.toList, entry.2.TilesWeek := by
  have checked : ∀ entry ∈ heating.schedules.toList, entry.2.validate entry.1 = .ok () := by
    decide +kernel
  exact fun entry listed => (entry.2.validate_eq_ok_iff entry.1).mp (checked entry listed)

theorem heating_valid : heating.Valid where
  zone_names_nodup := by decide
  relays_nodup := by decide
  trvs_nodup := by decide
  trvs_nonempty := by decide
  schedules_exist := by decide +kernel
  groups_large := by simp [heating]
  groups_in_zone := by simp [heating]
  group_trvs_nodup := by simp [heating]
  schedules_valid := schedules_tile
  min_cycle_pos := by decide
  min_pause_pos := by decide
  detection_pos := by decide
  inhibit_pos := by decide

/-- Switch steps of the one slot that select the one member. -/
theorem switchSteps_fit {steps : NameMap (List ResolvedSwitchStep)} {light : LightEndpoint}
    (known : ∀ slot sequence, steps[slot]? = some sequence →
      slot = "day" ∧ sequence = [⟨dim, [light]⟩, ⟨bright, [light]⟩]) :
    SwitchStepsFit scenes.scenes scenes.slots [light] steps where
  slot_exists slot stored := by
    rw [TreeMap.contains_eq_isSome_getElem?] at stored
    obtain ⟨sequence, stored⟩ := Option.isSome_iff_exists.mp stored
    rw [(known slot sequence stored).1]
    decide +kernel
  steps_nonempty slot sequence stored := by
    rw [(known slot sequence stored).2]
    simp
  scene_known slot sequence stored step listed := by
    rw [(known slot sequence stored).2] at listed
    rcases List.mem_pair.mp listed with rfl | rfl
    · simp [scenes]
    · simp [scenes]
  lights_members slot sequence stored step listed light' selected := by
    rw [(known slot sequence stored).2] at listed
    rcases List.mem_pair.mp listed with rfl | rfl
    · exact selected
    · exact selected
  lights_nonempty slot sequence stored step listed := by
    rw [(known slot sequence stored).2] at listed
    rcases List.mem_pair.mp listed with rfl | rfl
    · simp
    · simp

theorem rule_fits {mode : MotionMode} {bindings : List ResolvedBinding} {name sensor : String}
    {mode' : MotionMode} {group : RoomIdx} {room : ResolvedRoom} {light : LightEndpoint}
    (sensed : (tables mode bindings).isKind .motionSensor sensor = true)
    (here : (tables mode bindings).room group = some room) (members : room.lightMembers = [light])
    (provisioned : room.scenes = scenes)
    (single : ∀ other ∈ [study, hall], ∀ member ∈ other.lightMembers,
      member.device = light.device → member = light) :
    MotionRuleFits (tables mode bindings) (rule name sensor mode' group light) where
  sensors_nonempty := by simp [rule]
  sensors_known other listed := by
    rw [List.mem_singleton.mp listed]
    exact sensed
  scenes_valid := scenes_valid
  target_of_slot slot stored := by
    rw [TreeMap.contains_eq_isSome_getElem?] at stored
    obtain ⟨times, stored⟩ := Option.isSome_iff_exists.mp stored
    rw [(getElem?_single stored).1]
    simp [rule]
  scene_ids_nonempty slot times stored := by
    rw [(getElem?_single stored).2]
    simp
  lights_nonempty slot target stored := by
    rw [(getElem?_single stored).2]
    simp
  lights_nodup slot target stored := by
    rw [(getElem?_single stored).2]
    simp
  lights_iff other := by
    constructor
    · intro listed
      exact ⟨"day", _, TreeMap.getElem?_insert_self, listed⟩
    · rintro ⟨slot, target, stored, listed⟩
      rwa [(getElem?_single stored).2] at listed
  lights_members other listed := by
    refine ⟨room, TopologyTables.mem_rooms_of_room here, ?_⟩
    rwa [members]
  group_lights slot target other stored targeted := by
    rw [(getElem?_single stored).2] at targeted ⊢
    cases targeted
    exact ⟨room, here, members.symm⟩
  group_scenes slot target other room' times stored targeted there _ id _ scene found := by
    rw [(getElem?_single stored).2] at targeted
    cases targeted
    rw [here] at there
    cases there
    rw [provisioned]
    exact List.mem_of_find?_eq_some found
  single_endpoint other listed room listedRoom member inside device := by
    have same : other = light := by simpa [rule] using listed
    subst same
    exact single room listedRoom member inside device

theorem checkedBindings_nodup (bindings : List ResolvedBinding) :
    ((checkedBindings bindings).map (·.name)).Nodup := by
  unfold checkedBindings
  split
  · rename_i fits
    exact fits.1
  · exact List.nodup_nil

theorem checkedBindings_accepts {bindings : List ResolvedBinding} {binding : ResolvedBinding}
    (listed : binding ∈ checkedBindings bindings) : accepts binding = true := by
  unfold checkedBindings at listed
  split at listed
  · rename_i fits
    exact List.all_eq_true.mp fits.2 binding listed
  · cases listed

/-- Only the wall switch has a model. -/
theorem eq_wall {mode : MotionMode} {bindings : List ResolvedBinding} {device : DeviceIdx}
    {model : SwitchModel} (switch : (tables mode bindings).switchModelOf device = some model) :
    device = 4 ∧ model = wall := by
  unfold TopologyTables.switchModelOf at switch
  obtain ⟨name, named, stored⟩ := Option.bind_eq_some_iff.mp switch
  obtain ⟨info, here, named⟩ := Option.bind_eq_some_iff.mp named
  refine ⟨?_, (getElem?_single stored).2⟩
  have only : ∀ idx < devices.length, ((devices[idx]?).bind (·.switchModel)).isSome → idx = 4 := by
    decide
  have bound : device < devices.length := (List.getElem?_eq_some_iff.mp here).1
  refine only device bound ?_
  have here : devices[device]? = some info := here
  rw [here, Option.bind_some, named]
  rfl

theorem tables_valid (mode : MotionMode) (bindings : List ResolvedBinding) :
    (tables mode bindings).Valid where
  room_names_nodup := (by decide : ([study, hall].map (·.name)).Nodup)
  group_names_nodup := (by decide : ([study, hall].map (·.groupName)).Nodup)
  device_names_nodup := (by decide : (devices.map (·.name)).Nodup)
  protocols_plugs := (by decide : ∀ device ∈ devices, device.plugProtocol.isSome = true →
    device.kind = .plug)
  members_known := (by decide : ∀ room ∈ [study, hall], ∀ light ∈ room.lightMembers,
    light.device < devices.length)
  scenes_valid room listed := by
    rcases List.mem_pair.mp listed with rfl | rfl
    · exact scenes_valid
    · exact scenes_valid
  switch_steps_fit room listed := by
    rcases List.mem_pair.mp listed with rfl | rfl
    · exact switchSteps_fit fun slot sequence stored => getElem?_single stored
    · exact switchSteps_fit fun slot sequence stored => by simp [hall] at stored
  binding_names_nodup := checkedBindings_nodup bindings
  power_below_fits binding listed plug watts holdoff triggered := by
    have accepted := checkedBindings_accepts listed
    unfold accepts at accepted
    rw [triggered, Bool.and_eq_true, beq_iff_eq] at accepted
    obtain ⟨targets, rfl⟩ := accepted
    refine ⟨(by decide : 5 < devices.length), rfl, rfl, fun target targeted => ?_⟩
    rw [targeted] at targets
    simpa using targets
  effects_known binding listed plug targeted := by
    have accepted := checkedBindings_accepts listed
    unfold accepts at accepted
    rw [targeted, Bool.and_eq_true, Option.all_some, beq_iff_eq] at accepted
    rw [accepted.1]
    rfl
  buttons_known binding listed device button gesture triggered := by
    have accepted := checkedBindings_accepts listed
    unfold accepts at accepted
    rw [triggered, Bool.and_eq_true, Bool.and_eq_true, beq_iff_eq] at accepted
    obtain ⟨_, rfl, known⟩ := accepted
    exact ⟨wall, rfl, List.contains_iff_mem.mp known⟩
  soft_double_tap_iff device button := by
    rw [TopologyTables.isSoftDoubleTapButton, List.contains_iff_mem]
    simp only [tables, List.mem_filterMap]
    refine exists_congr fun binding => and_congr_right fun _ => ?_
    split
    · rename_i triggered
      simp [triggered]
    · rename_i other
      simp only [reduceCtorEq, false_iff]
      exact other device button
  hw_double_tap_iff device button := by
    rw [TopologyTables.isHwDoubleTapButton, List.contains_iff_mem]
    constructor
    · intro listed
      cases List.mem_singleton.mp listed
      exact ⟨wall, rfl, by decide +kernel⟩
    · rintro ⟨model, switch, known, press, double⟩
      obtain ⟨rfl, rfl⟩ := eq_wall switch
      have hard : ∀ button ∈ wall.buttons, wall.maps button .doubleTap → button = "hard" := by
        decide +kernel
      rw [hard button known double]
      exact List.mem_singleton_self _
  descendants_irrefl idx := by
    match idx with
    | 0 => simp [TopologyTables.descendantsOf, tables]
    | 1 => simp [TopologyTables.descendantsOf, tables]
    | idx + 2 => simp [TopologyTables.descendantsOf, tables]
  rule_names_nodup := (by decide : ["study-motion", "hall-motion"].Nodup)
  rules_fit rule listed := by
    rcases List.mem_pair.mp listed with rfl | rfl
    · exact rule_fits (by rfl) rfl rfl rfl (by decide)
    · exact rule_fits (by rfl) rfl rfl rfl (by decide)
  rule_lights_disjoint := (by decide : [lamp.device, spot.device].Nodup)
  heating_valid config stored := by
    cases stored
    exact heating_valid
  heating_devices config stored := by
    cases stored
    exact (by decide : ∀ zone ∈ heating.zones,
      (devices.findIdx? fun device => device.name == zone.relay).isSome ∧
        ∀ trv ∈ zone.trvs, (devices.findIdx? fun device => device.name == trv.device).isSome)

/-- The topology of the house. -/
def topology (mode : MotionMode) (bindings : List ResolvedBinding) : Topology :=
  { tables mode bindings with valid := tables_valid mode bindings }

/-- The house without settings. -/
def automation (mode : MotionMode) (bindings : List ResolvedBinding) : Automation :=
  { topology := topology mode bindings, defaults := {}, location := none, settings := {}
    resolvedSwitchSteps := ∅, resolvedPlugBindings := ∅, boostDeadlines := ∅
    fit :=
      { rooms := fun name value stored => by simp at stored
        steps := fun name value stored => by simp at stored
        rules := fun name value stored => by simp at stored
        times := fun name value stored => by simp at stored
        plugs := fun name value stored => by simp at stored
        bindings := fun name value stored => by simp at stored } }

/-- One zone whose two valves must open together. -/
def pairedHeating : HeatingConfig :=
  { heating with
    zones := [⟨"upstairs", "relay-up", [⟨"valve-up", "week"⟩, ⟨"valve-down", "week"⟩]⟩]
    pressureGroups := [⟨"pair", ["valve-up", "valve-down"]⟩] }

theorem pairedHeating_valid : pairedHeating.Valid where
  zone_names_nodup := by decide
  relays_nodup := by decide
  trvs_nodup := by decide
  trvs_nonempty := by decide
  schedules_exist := by decide +kernel
  groups_large := by decide
  groups_in_zone := by decide
  group_trvs_nodup := by decide
  schedules_valid := schedules_tile
  min_cycle_pos := by decide
  min_pause_pos := by decide
  detection_pos := by decide
  inhibit_pos := by decide

/-- The topology of the house with paired valves. -/
def pairedTopology : Topology :=
  { tables .offOnly [] with
    heatingConfig := some pairedHeating
    valid :=
      { tables_valid .offOnly [] with
        rules_fit := fun rule listed => { (tables_valid .offOnly []).rules_fit rule listed with }
        heating_valid := fun config stored => by
          cases stored
          exact pairedHeating_valid
        heating_devices := fun config stored => by
          cases stored
          exact (by decide : ∀ zone ∈ pairedHeating.zones,
            (devices.findIdx? fun device => device.name == zone.relay).isSome ∧
              ∀ trv ∈ zone.trvs,
                (devices.findIdx? fun device => device.name == trv.device).isSome) } }

/-- The house with paired valves, without settings. -/
def pairedAutomation : Automation :=
  { automation .offOnly [] with
    topology := pairedTopology
    fit :=
      { rooms := fun name value stored => by simp [automation] at stored
        steps := fun name value stored => by simp [automation] at stored
        rules := fun name value stored => by simp [automation] at stored
        times := fun name value stored => by simp [automation] at stored
        plugs := fun name value stored => by simp [automation] at stored
        bindings := fun name value stored => by simp [automation] at stored } }

/-- Switch steps of which one adds a light to the step before. -/
def landingSteps : List ResolvedSwitchStep :=
  [⟨dim, [lamp]⟩, ⟨dim, [lamp, spot]⟩, ⟨bright, [lamp]⟩]

/-- A room around the study. -/
def landing : ResolvedRoom :=
  { name := "landing", groupName := "landing-group", members := ["lamp/11", "spot/11"]
    lightMembers := [lamp, spot], scenes
    switchSteps := TreeMap.empty.insert "day" landingSteps
    offTransitionSeconds := 1, boundMotion := [] }

/-- The tables of the house with the landing, without motion and heating. -/
def landingTables (bindings : List ResolvedBinding) : TopologyTables :=
  { tables .offOnly bindings with
    rooms := [study, landing], motionRules := [], heatingConfig := none }

theorem landing_switchSteps_fit :
    SwitchStepsFit scenes.scenes scenes.slots [lamp, spot] landing.switchSteps where
  slot_exists slot stored := by
    rw [TreeMap.contains_eq_isSome_getElem?] at stored
    obtain ⟨sequence, stored⟩ := Option.isSome_iff_exists.mp stored
    rw [(getElem?_single stored).1]
    decide +kernel
  steps_nonempty slot sequence stored := by
    rw [(getElem?_single stored).2]
    simp [landingSteps]
  scene_known slot sequence stored step listed := by
    rw [(getElem?_single stored).2] at listed
    simp only [landingSteps, List.mem_cons, List.not_mem_nil, or_false] at listed
    rcases listed with rfl | rfl | rfl
    · simp [scenes]
    · simp [scenes]
    · simp [scenes]
  lights_members slot sequence stored step listed light selected := by
    rw [(getElem?_single stored).2] at listed
    simp only [landingSteps, List.mem_cons, List.not_mem_nil, or_false] at listed
    rcases listed with rfl | rfl | rfl
    · exact List.mem_cons.mpr (.inl (List.mem_singleton.mp selected))
    · exact selected
    · exact List.mem_cons.mpr (.inl (List.mem_singleton.mp selected))
  lights_nonempty slot sequence stored step listed := by
    rw [(getElem?_single stored).2] at listed
    simp only [landingSteps, List.mem_cons, List.not_mem_nil, or_false] at listed
    rcases listed with rfl | rfl | rfl
    · simp
    · simp
    · simp

/-- The topology of the house with the landing. -/
def landingTopology (bindings : List ResolvedBinding) : Topology :=
  { landingTables bindings with
    valid :=
      { tables_valid .offOnly bindings with
        room_names_nodup := (by decide : ([study, landing].map (·.name)).Nodup)
        group_names_nodup := (by decide : ([study, landing].map (·.groupName)).Nodup)
        members_known := (by decide : ∀ room ∈ [study, landing], ∀ light ∈ room.lightMembers,
          light.device < devices.length)
        scenes_valid := fun room listed => by
          rcases List.mem_pair.mp listed with rfl | rfl
          · exact scenes_valid
          · exact scenes_valid
        switch_steps_fit := fun room listed => by
          rcases List.mem_pair.mp listed with rfl | rfl
          · exact switchSteps_fit fun slot sequence stored => getElem?_single stored
          · exact landing_switchSteps_fit
        rule_names_nodup := List.nodup_nil
        rules_fit := fun rule listed => by cases listed
        rule_lights_disjoint := List.nodup_nil
        heating_valid := fun config stored => by cases stored
        heating_devices := fun config stored => by cases stored } }

/-- The house with the landing, without settings. -/
def landingAutomation (bindings : List ResolvedBinding) : Automation :=
  { automation .offOnly bindings with
    topology := landingTopology bindings
    fit :=
      { rooms := fun name value stored => by simp [automation] at stored
        steps := fun name value stored => by simp [automation] at stored
        rules := fun name value stored => by simp [automation] at stored
        times := fun name value stored => by simp [automation] at stored
        plugs := fun name value stored => by simp [automation] at stored
        bindings := fun name value stored => by simp [automation] at stored } }

/-- Noon on a Monday, some seconds after the launch. -/
def clock (seconds : Nat) : ClockReading :=
  { now := Duration.fromSecs seconds, localHour := 12, localMinute := 0, localWeekday := .monday
    epochMillis := seconds * 1000
    sunTimes := fun _ => { sunriseMinuteOfDay := 360, sunsetMinuteOfDay := 1080 } }

/-- A binding of a press of the wall switch. -/
def onPress (button : String) (effect : ResolvedEffect) : ResolvedBinding :=
  { name := button, trigger := .button 4 button .press, effect }

/-- A binding of a double tap of the wall switch. -/
def onDoubleTap (button : String) (gesture : Gesture) (effect : ResolvedEffect) : ResolvedBinding :=
  { name := button ++ "-double", trigger := .button 4 button gesture, effect }

/-- A kill switch of the plug of the house. -/
def killSwitch : ResolvedBinding :=
  { name := "idle", trigger := .powerBelow 5 10 (Duration.fromSecs 60), effect := .turnOff 5 }

/-- A press of the wall switch. -/
def press (button : String) (seconds : Nat) : Nat × Input :=
  (seconds, .event (.buttonPress "switch" button .press (Duration.fromSecs seconds)))

/-- Play inputs, each at a second of the clock, from the launch of the house. -/
def play (mode : MotionMode) (bindings : List ResolvedBinding) (inputs : List (Nat × Input)) :
    Option (Daemon × List Record) :=
  (Daemon.launch (automation mode bindings) 0).play
    (inputs.map fun entry => (clock entry.1, entry.2))

/-- A valve reports its demand and its setpoint. -/
def valve (device : String) (demand : Option Nat) (setpoint : Option ℚ) (seconds : Nat) :
    Nat × Input :=
  (seconds, .event (.trvState device none demand none setpoint none none none
    (Duration.fromSecs seconds)))

/-- The clock of the house ticks. -/
def tick (seconds : Nat) : Nat × Input := (seconds, .event (.tick (Duration.fromSecs seconds)))

/-- Play inputs from the launch of the house with paired valves. -/
def playPaired (inputs : List (Nat × Input)) : Option (Daemon × List Record) :=
  (Daemon.launch pairedAutomation 0).play (inputs.map fun entry => (clock entry.1, entry.2))

/-- Play inputs from the launch of the house with the landing. -/
def playLanding (bindings : List ResolvedBinding) (inputs : List (Nat × Input)) :
    Option (Daemon × List Record) :=
  (Daemon.launch (landingAutomation bindings) 0).play
    (inputs.map fun entry => (clock entry.1, entry.2))

theorem run_of_play {mode : MotionMode} {bindings : List ResolvedBinding}
    {inputs : List (Nat × Input)} {daemon : Daemon} {history : List Record}
    (played : play mode bindings inputs = some (daemon, history)) : Run history daemon := by
  have run := (Run.launch (automation mode bindings) 0).play played
  simpa using run

end House

end MqttController
