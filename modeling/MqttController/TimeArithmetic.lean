import MqttController.OpenWindows
import MqttController.TopologyBuilt

/-!
# Time arithmetic

Handling an event turns configured numbers of seconds into lengths of time and adds lengths of time
to instants.  Each of these operations panics where its result cannot be represented.
-/

namespace MqttController

open Std Checked Emission

/-- The end of what an instant can hold: its seconds are a signed 64-bit number. -/
def instantLimit : Instant := 2 ^ 63 * nanosPerSecond

/-- A length of time can hold the number of seconds: its seconds are an unsigned 64-bit number. -/
def RepresentableSeconds (seconds : ℚ) : Prop := 0 ≤ seconds ∧ seconds < 2 ^ 64

/-- An operation on time that panics where its result cannot be represented. -/
inductive TimeOp
  /-- A number of seconds becomes a length of time. -/
  | fromSecsF64 (seconds : ℚ)
  /-- A length of time is added to an instant. -/
  | add (instant : Instant) (length : Duration)

/-- The operation does not panic. -/
def TimeOp.Succeeds : TimeOp → Prop
  | fromSecsF64 seconds => RepresentableSeconds seconds
  | add instant length => instant + length < instantLimit

namespace Env

variable (env : Env)

/-! ## Buttons -/

/-- A press is deferred. -/
def deferralArithmetic (ts : Instant) : List TimeOp :=
  [.fromSecsF64 env.defaults.softDoubleTapWindowSeconds, .add ts env.deferralWindow]

/-- A press of a button whose hardware reports double taps. -/
def hwPressArithmetic (key : String × String) (ts : Instant) (world : WorldState) : List TimeOp :=
  match world.lastDoubleTap[key]? with
  | none => env.deferralArithmetic ts
  | some last =>
      .fromSecsF64 env.defaults.doubleTapSuppressionSeconds ::
        if durationSince ts last <
            Duration.fromSecsF64 env.defaults.doubleTapSuppressionSeconds then []
        else env.deferralArithmetic ts

/-- A press of a button with software double taps. -/
def softPressArithmetic (key : String × String) (ts : Instant) (world : WorldState) : List TimeOp :=
  match world.pendingPresses[key]? with
  | none => env.deferralArithmetic ts
  | some pending =>
      .fromSecsF64 env.defaults.softDoubleTapWindowSeconds ::
        if durationSince ts pending.ts ≤ env.deferralWindow then [] else env.deferralArithmetic ts

/-- What an event computes besides the operations that it performs. -/
def pressArithmetic (world : WorldState) : Event → List TimeOp
  | .buttonPress device button .press ts =>
      match env.topology.deviceIdx device with
      | none => []
      | some idx =>
          if env.topology.isHwDoubleTapButton idx button then
            env.hwPressArithmetic (device, button) ts world
          else if env.topology.isSoftDoubleTapButton idx button then
            env.softPressArithmetic (device, button) ts world
          else []
  | _ => []

/-! ## Effects -/

/-- A press that turns an off room on and cycles or turns off a room that is on. -/
def toggleCycleArithmetic (name : String) (world : WorldState) : List TimeOp :=
  let window := [TimeOp.fromSecsF64 env.defaults.cycleWindowSeconds]
  match env.activeSwitchSteps name with
  | some _ =>
      if (world.zoneAt name).isOnForSteps && (world.zoneAt name).lastPressAt.isSome then window
      else []
  | none =>
      match env.topology.roomIdx name, env.scenesForRoom name with
      | some _, _ :: _ => window
      | _, _ => []

/-- The effect of a binding. -/
def effectArithmetic (world : WorldState) : ResolvedEffect → List TimeOp
  | .sceneToggleCycle room => env.toggleCycleArithmetic (env.topology.roomName room) world
  | .toggle plug (some seconds) =>
      if (world.plugs[env.topology.deviceName plug]?).any (·.isOn) then [.fromSecsF64 seconds]
      else []
  | _ => []

/-! ## Open windows -/

/-- Checking one valve of a zone whose relay has been on for the detection window. -/
def windowArithmetic (config : HeatingConfig) (relayOnSince : Instant) (entity : TrvEntity) :
    List TimeOp :=
  let now := env.clock.now
  let detection := config.openWindow.detection
  if entity.openWindow.checked || entity.isInhibited now || entity.isForcedOpen then []
  else if !entity.hasEffectiveDemand now config.heatPump.minDemandPercent
      config.heatPump.minDemandPercentFallback then []
  else
    match entity.openWindow.tempAtRelayOn, entity.openWindow.baselineEstablishedAt with
    | some temperatureAtOn, some baselineAt =>
        let sampled := entity.lastTempAt.any fun last => decide (baselineAt < last)
        if !sampled || durationSince now baselineAt < detection / 2 then
          [.add relayOnSince detection, .add (relayOnSince + detection) openWindowGrace,
            .add baselineAt (detection / 2), .add (baselineAt + detection / 2) openWindowGrace]
        else if stayedCold entity temperatureAtOn then [.add now config.openWindow.inhibition]
        else []
    | _, _ => []

/-- Checking the valves of one zone. -/
def zoneWindowArithmetic (config : HeatingConfig) (zone : HeatingZone) :
    Emission.Step Runtime TimeOp := fun runtime =>
  match runtime.world.heatingZones[zone.name]? with
  | none => (runtime, [])
  | some entity =>
      match entity.relayOnSince with
      | none => (runtime, [])
      | some relayOnSince =>
          if entity.isRelayOn &&
              decide (config.openWindow.detection ≤ durationSince env.clock.now relayOnSince) then
            Emission.forEach (fun trv runtime =>
              ((env.detectOpenWindow config relayOnSince trv runtime).1,
                (runtime.world.trvs[trv.device]?).elim []
                  (env.windowArithmetic config relayOnSince))) zone.trvs runtime
          else (runtime, [])

/-- Controlling the valves; they are checked for open windows last. -/
def valveArithmetic (config : HeatingConfig) (runtime : Runtime) : List TimeOp :=
  (Emission.forEach (env.zoneWindowArithmetic config) config.zones
    (env.evaluateSchedules config (env.enforcePressureGroups config runtime).1).1).2

end Env

/-- The time arithmetic of an operation. -/
def Record.arithmetic (record : Record) : List TimeOp :=
  match record.operation with
  | .execute _ effect _ => record.env.effectArithmetic record.before.world effect
  | .controlValves config => record.env.valveArithmetic config record.before
  | _ => []

/-- The time arithmetic of an event. -/
def Env.eventArithmetic (env : Env) (event : Event) (runtime : Runtime) : List TimeOp :=
  env.pressArithmetic runtime.world event ++
    (env.handleEvent event runtime).2.flatMap (·.arithmetic)

/-! ## What can be represented -/

namespace Automation

variable (automation : Automation)

/-- Presses of the button are deferred. -/
def Defers (device : DeviceIdx) (button : String) : Prop :=
  automation.topology.isHwDoubleTapButton device button = true ∨
    automation.topology.isSoftDoubleTapButton device button = true

/-- Building the topology refuses these windows when they are negative. -/
structure Accepted : Prop where
  cycle : 0 ≤ automation.defaults.cycleWindowSeconds
  suppression : 0 ≤ automation.defaults.doubleTapSuppressionSeconds
  confirm_off : ∀ binding ∈ automation.topology.bindings, ∀ plug seconds,
    binding.effect = .toggle plug (some seconds) → 0 ≤ seconds

end Automation

/-- The windows of an automation on a topology that was built are accepted. -/
theorem Config.build_accepted {config : Config} {turns : Nat} {tables : TopologyTables}
    (built : config.build turns = .ok tables) {automation : Automation}
    (same : automation.topology.toTopologyTables = tables)
    (defaults : automation.defaults = config.defaults) : automation.Accepted := by
  obtain ⟨_, _, _, _, _, parts, alike, _, _⟩ := parts_of_build built
  have checked := parts.defaults
  unfold checkDefaults at checked
  rw [then_ok_iff, require_ok_iff, require_ok_iff, ← defaults] at checked
  refine ⟨checked.1, checked.2, fun binding listed plug seconds toggles => ?_⟩
  rw [same] at listed
  obtain ⟨configured, fits⟩ := parts.binding_fits alike listed
  obtain ⟨_, confirmed, translated⟩ := resolveEffect_ok fits.effect
  have named := effectByNames_of_translate (parts.matches' alike) translated
  unfold checkConfirmOff at confirmed
  rw [← named, toggles] at confirmed
  exact require_ok_iff.mp confirmed

namespace Automation

variable (automation : Automation)

/-- The windows that are used can be represented; for the window of deferred presses this includes
that it is not negative. -/
structure WindowsFit : Prop where
  deferral : ∀ device button, automation.Defers device button →
    RepresentableSeconds automation.defaults.softDoubleTapWindowSeconds
  suppression : ∀ device button, automation.topology.isHwDoubleTapButton device button = true →
    automation.defaults.doubleTapSuppressionSeconds < 2 ^ 64
  cycle : ∀ binding ∈ automation.topology.bindings, ∀ room,
    binding.effect = .sceneToggleCycle room → automation.defaults.cycleWindowSeconds < 2 ^ 64
  confirm_off : ∀ binding ∈ automation.topology.bindings, ∀ plug seconds,
    binding.effect = .toggle plug (some seconds) → seconds < 2 ^ 64

end Automation

namespace Env

/-- The lengths of the heating configuration can be added to what the clock says. -/
structure ClockFits (env : Env) : Prop where
  detection : ∀ config, env.topology.heatingConfig = some config →
    env.clock.now + config.openWindow.detection + openWindowGrace < instantLimit
  inhibition : ∀ config, env.topology.heatingConfig = some config →
    env.clock.now + config.openWindow.inhibition < instantLimit

/-- The window of deferred presses can be added to the time of a press that is deferred. -/
def PressFits (env : Env) (event : Event) : Prop :=
  ∀ device button ts idx, event = .buttonPress device button .press ts →
    env.topology.deviceIdx device = some idx → env.Defers idx button →
      ts + env.deferralWindow < instantLimit

variable {env : Env}

/-! ## Presses and effects -/

theorem deferralArithmetic_succeeds {ts : Instant}
    (window : RepresentableSeconds env.defaults.softDoubleTapWindowSeconds)
    (deadline : ts + env.deferralWindow < instantLimit) :
    ∀ op ∈ env.deferralArithmetic ts, op.Succeeds := by
  intro op member
  rcases List.mem_pair.mp member with rfl | rfl
  · exact window
  · exact deadline

theorem pressArithmetic_succeeds (accepted : env.Accepted) (fits : env.WindowsFit) {event : Event}
    (press : env.PressFits event) (world : WorldState) :
    ∀ op ∈ env.pressArithmetic world event, op.Succeeds := by
  cases event with
  | buttonPress device button gesture ts =>
      cases gesture with
      | press =>
          intro op member
          change op ∈ (match env.topology.deviceIdx device with
            | none => []
            | some idx =>
                if env.topology.isHwDoubleTapButton idx button then
                  env.hwPressArithmetic (device, button) ts world
                else if env.topology.isSoftDoubleTapButton idx button then
                  env.softPressArithmetic (device, button) ts world
                else [] : List TimeOp) at member
          split at member
          · cases member
          · rename_i idx known
            have defers (defers : env.Defers idx button) :
                ∀ op ∈ env.deferralArithmetic ts, op.Succeeds :=
              deferralArithmetic_succeeds (fits.deferral idx button defers)
                (press device button ts idx rfl known defers)
            split_ifs at member with hardware software
            · have suppression : RepresentableSeconds env.defaults.doubleTapSuppressionSeconds :=
                ⟨accepted.suppression, fits.suppression idx button hardware⟩
              unfold hwPressArithmetic at member
              split at member
              · exact defers (.inl hardware) op member
              · rcases List.mem_cons.mp member with rfl | member
                · exact suppression
                · split_ifs at member
                  · cases member
                  · exact defers (.inl hardware) op member
            · have window := fits.deferral idx button (.inr software)
              unfold softPressArithmetic at member
              split at member
              · exact defers (.inr software) op member
              · rcases List.mem_cons.mp member with rfl | member
                · exact window
                · split_ifs at member
                  · cases member
                  · exact defers (.inr software) op member
            · cases member
      | _ =>
          intro op member
          cases member
  | _ =>
      intro op member
      cases member

/-- Every press of a button with software double taps alone converts the window of deferred
presses. -/
theorem pressArithmetic_converts {device button : String} {idx : DeviceIdx}
    (known : env.topology.deviceIdx device = some idx)
    (hardware : env.topology.isHwDoubleTapButton idx button = false)
    (software : env.topology.isSoftDoubleTapButton idx button = true) (ts : Instant)
    (world : WorldState) : TimeOp.fromSecsF64 env.defaults.softDoubleTapWindowSeconds ∈
      env.pressArithmetic world (.buttonPress device button .press ts) := by
  have converts : TimeOp.fromSecsF64 env.defaults.softDoubleTapWindowSeconds ∈
      env.softPressArithmetic (device, button) ts world := by
    unfold softPressArithmetic
    split
    · exact List.mem_cons_self
    · exact List.mem_cons_self
  simp only [pressArithmetic, known, hardware, software, Bool.false_eq_true, if_false, if_true]
  exact converts

theorem effectArithmetic_succeeds (accepted : env.Accepted) (fits : env.WindowsFit)
    {effect : ResolvedEffect} (provided : env.topology.Provides effect) (world : WorldState) :
    ∀ op ∈ env.effectArithmetic world effect, op.Succeeds := by
  intro op member
  cases effect with
  | sceneToggleCycle room =>
      obtain ⟨binding, listed, same⟩ := provided.deployed (by simp [ResolvedEffect.Switches])
      have window : RepresentableSeconds env.defaults.cycleWindowSeconds :=
        ⟨accepted.cycle, fits.cycle binding listed room same⟩
      have converted : ∀ op ∈ [TimeOp.fromSecsF64 env.defaults.cycleWindowSeconds],
          op.Succeeds := by
        intro op member
        rw [List.mem_singleton.mp member]
        exact window
      change op ∈ env.toggleCycleArithmetic (env.topology.roomName room) world at member
      unfold toggleCycleArithmetic at member
      dsimp only at member
      split at member
      · split_ifs at member
        · exact converted op member
        · cases member
      · split at member
        · exact converted op member
        · cases member
  | toggle plug confirmOff =>
      cases confirmOff with
      | none => cases member
      | some seconds =>
          obtain ⟨binding, listed, same⟩ := provided.deployed (by simp [ResolvedEffect.Switches])
          change op ∈ (if (world.plugs[env.topology.deviceName plug]?).any (·.isOn) then
            [TimeOp.fromSecsF64 seconds] else [] : List TimeOp) at member
          split_ifs at member
          · rw [List.mem_singleton.mp member]
            exact ⟨accepted.confirm_off binding listed plug seconds same,
              fits.confirm_off binding listed plug seconds same⟩
          · cases member
  | _ => cases member

/-! ## Open windows -/

/-- The lengths of detection can be added to an instant. -/
def DetectionFits (config : HeatingConfig) (instant : Instant) : Prop :=
  instant + config.openWindow.detection + openWindowGrace < instantLimit

theorem windowArithmetic_succeeds {config : HeatingConfig} {relayOnSince : Instant}
    {entity : TrvEntity} (relay : DetectionFits config relayOnSince)
    (baseline : ∀ start, entity.openWindow.baselineEstablishedAt = some start →
      DetectionFits config start)
    (inhibition : env.clock.now + config.openWindow.inhibition < instantLimit) :
    ∀ op ∈ env.windowArithmetic config relayOnSince entity, op.Succeeds := by
  intro op member
  unfold windowArithmetic at member
  dsimp only at member
  split at member
  · cases member
  · split at member
    · cases member
    · split at member
      · rename_i start _ started
        have based : start + config.openWindow.detection + openWindowGrace < instantLimit :=
          baseline start started
        have relayed :
            relayOnSince + config.openWindow.detection + openWindowGrace < instantLimit := relay
        have half : config.openWindow.detection / 2 ≤ config.openWindow.detection :=
          Nat.div_le_self _ 2
        split at member
        · simp only [List.mem_cons, List.not_mem_nil, or_false] at member
          rcases member with rfl | rfl | rfl | rfl
          · exact (Nat.le_add_right _ _).trans_lt relayed
          · exact relayed
          · exact ((Nat.add_le_add_left half _).trans (Nat.le_add_right _ _)).trans_lt based
          · exact (Nat.add_le_add_right (Nat.add_le_add_left half _) _).trans_lt based
        · split at member
          · rw [List.mem_singleton.mp member]
            exact inhibition
          · cases member
      · cases member

/-- Detection leaves the times alone that it reads. -/
theorem detects_baseline {config : HeatingConfig} {zones : NameMap HeatingZoneEntity}
    {device : String} {trv after : TrvEntity}
    (detects : TrvEntity.Detects env config zones device trv after) :
    after.openWindow.baselineEstablishedAt = trv.openWindow.baselineEstablishedAt := by
  cases detects with
  | judged _ => rfl
  | inhibited => rfl

/-- What the arithmetic of detection reads: the times of the relays, and those of the valves. -/
structure StampsFit (config : HeatingConfig) (zones : NameMap HeatingZoneEntity)
    (runtime : Runtime) : Prop where
  known : runtime.world.heatingZones = zones
  baseline : ∀ zone ∈ config.zones, ∀ device ∈ zone.trvs.map (·.device), ∀ start,
    (runtime.world.trvAt device).openWindow.baselineEstablishedAt = some start →
      DetectionFits config start

theorem StampsFit.valves {config : HeatingConfig} {zones : NameMap HeatingZoneEntity}
    {before after : Runtime} (stamps : StampsFit config zones before)
    (known : after.world.heatingZones = zones)
    (same : ∀ device, (after.world.trvAt device).openWindow.baselineEstablishedAt =
      (before.world.trvAt device).openWindow.baselineEstablishedAt) :
    StampsFit config zones after :=
  ⟨known, fun zone listed device member start started =>
    stamps.baseline zone listed device member start ((same device).symm.trans started)⟩

theorem zoneWindowArithmetic_succeeds {config : HeatingConfig} {zone : HeatingZone}
    {zones : NameMap HeatingZoneEntity} (listed : zone ∈ config.zones)
    (relays : ∀ entity since, zones[zone.name]? = some entity → entity.isRelayOn = true →
      entity.relayOnSince = some since → DetectionFits config since)
    (inhibition : env.clock.now + config.openWindow.inhibition < instantLimit) (runtime : Runtime)
    (stamps : StampsFit config zones runtime) :
    StampsFit config zones (env.zoneWindowArithmetic config zone runtime).1 ∧
      ∀ op ∈ (env.zoneWindowArithmetic config zone runtime).2, op.Succeeds := by
  unfold zoneWindowArithmetic
  rw [stamps.known]
  split
  · exact ⟨stamps, by simp⟩
  · rename_i entity stored
    split
    · exact ⟨stamps, by simp⟩
    · rename_i since turnedOn
      split
      · rename_i ripe
        rw [Bool.and_eq_true, decide_eq_true_eq] at ripe
        have relay := relays entity since stored ripe.1 turnedOn
        refine forEach_emits (fun trv member state held => ⟨?_, ?_⟩) runtime stamps
        · have detects : Detecting env config zones state
              (env.detectOpenWindow config since trv state).1 :=
            detectOpenWindow_detects listed member stored ripe.1 turnedOn ripe.2 state
          obtain ⟨known, steps⟩ := detects held.known
          refine held.valves known fun device => ?_
          exact steps.preserves
            (fun valve => valve.openWindow.baselineEstablishedAt =
              (state.world.trvAt device).openWindow.baselineEstablishedAt)
            (fun first second detects same => (detects_baseline detects).trans same) rfl
        · cases here : state.world.trvs[trv.device]? with
          | none => simp
          | some valve =>
              refine windowArithmetic_succeeds relay (fun start started => ?_) inhibition
              refine held.baseline zone listed trv.device
                (List.mem_map.mpr ⟨trv, member, rfl⟩) start ?_
              rw [trvAt_of_stored here]
              exact started
      · exact ⟨stamps, by simp⟩

theorem valveArithmetic_succeeds {config : HeatingConfig} {runtime : Runtime}
    (relays : ∀ name since, runtime.relayOn name = true → runtime.relayOnSince name = some since →
      DetectionFits config since)
    (baselines : ∀ zone ∈ config.zones, ∀ device ∈ zone.trvs.map (·.device), ∀ start,
      (runtime.world.trvAt device).openWindow.baselineEstablishedAt = some start →
        DetectionFits config start)
    (inhibition : env.clock.now + config.openWindow.inhibition < instantLimit) :
    ∀ op ∈ env.valveArithmetic config runtime, op.Succeeds := by
  have told : Runtime.ValvesBy (TrvEntity.Told env.clock.now) runtime
      (env.evaluateSchedules config (env.enforcePressureGroups config runtime).1).1 :=
    (enforcePressureGroups_valves (TrvEntity.told_forceOpen _) (TrvEntity.told_releaseForce _)
      config runtime).trans
      (evaluateSchedules_valves (TrvEntity.told_commandSetpoint _) config _)
  have start : StampsFit config runtime.world.heatingZones runtime := ⟨rfl, baselines⟩
  have scheduled : StampsFit config runtime.world.heatingZones
      (env.evaluateSchedules config (env.enforcePressureGroups config runtime).1).1 := by
    refine start.valves ?_ fun device => ?_
    · rw [evaluateSchedules_zones, enforcePressureGroups_zones]
    · exact told.preserves
        (fun valve => valve.openWindow.baselineEstablishedAt =
          (runtime.world.trvAt device).openWindow.baselineEstablishedAt)
        (fun first second tells same =>
          (congrArg (·.state.baselineEstablishedAt) tells.1).trans same) rfl
  refine (forEach_emits (fun zone listed state held => ?_) _ scheduled).2
  refine zoneWindowArithmetic_succeeds listed (fun entity since stored on turnedOn => ?_) inhibition
    state held
  refine relays zone.name since ?_ ?_
  · exact (runtime.relayOn_eq_true_iff zone.name).mpr ⟨entity, stored, on⟩
  · unfold Runtime.relayOnSince WorldState.heatingZoneAt
    rw [stored]
    exact turnedOn

end Env

/-! ## Runs -/

/-- Controlling the valves reads times at which the clock was read before. -/
theorem Record.arithmetic_succeeds {history past later : List Record} {daemon : Daemon}
    {record : Record} (run : Run history daemon) (split : history = past ++ record :: later)
    (accepted : record.env.Accepted) (fits : record.env.WindowsFit)
    (clocks : ∀ earlier ∈ past, earlier.env.ClockFits) (now : record.env.ClockFits) :
    ∀ op ∈ record.arithmetic, op.Succeeds := by
  obtain ⟨admissible, _, ⟨relays, _⟩, topologies, windows⟩ :=
    run.each_record detection_follows split
  unfold Record.arithmetic
  cases operation : record.operation with
  | execute ruleName effect ts =>
      rw [operation] at admissible
      exact Env.effectArithmetic_succeeds accepted fits admissible record.before.world
  | controlValves config =>
      rw [operation] at admissible
      have heating : record.env.topology.heatingConfig = some config := admissible
      have read (earlier : Record) (member : earlier ∈ past) :
          Env.DetectionFits config earlier.env.clock.now := by
        refine (clocks earlier member).detection config ?_
        rw [topologies earlier member]
        exact heating
      refine Env.valveArithmetic_succeeds (fun name since on turnedOn => ?_)
        (fun zone listed device member start started => ?_) (now.inhibition config heating)
      · obtain ⟨early, first, rest, parts, ⟨_, time⟩, _⟩ := relays name since on turnedOn
        rw [← time]
        exact read first (by simp [parts])
      · obtain ⟨early, first, rest, parts, time, _⟩ :=
          (windows config heating zone listed device member).cycle start started
        rw [← time]
        exact read first (by simp [parts])
  | _ => simp

/-- With an accepted configuration no event of any run panics on time arithmetic, as long as the
window of deferred presses is not negative where a button defers its presses, and no window or clock
reading is too large to be represented. -/
theorem Run.time_arithmetic_succeeds {history records : List Record} {daemon after : Daemon}
    {clock : ClockReading} {event : Event} (run : Run history daemon)
    (accepted : daemon.processor.automation.Accepted)
    (fits : daemon.processor.automation.WindowsFit)
    (clocks : ∀ record ∈ history, record.env.ClockFits)
    (taken : daemon.next clock (.event event) = some (after, records))
    (now : (daemon.processor.env clock).ClockFits)
    (press : (daemon.processor.env clock).PressFits event) :
    ∀ op ∈ (daemon.processor.env clock).eventArithmetic event daemon.processor.runtime,
      op.Succeeds := by
  intro op member
  rcases List.mem_append.mp member with pressed | performed
  · exact Env.pressArithmetic_succeeds accepted fits press _ op pressed
  · rw [← (Daemon.next_event taken).2] at performed
    obtain ⟨record, listed, inside⟩ := List.mem_flatMap.mp performed
    have same : ∀ other ∈ records, other.env = daemon.processor.env clock := by
      rw [(Daemon.next_event taken).2]
      exact Daemon.handleEvent_env _ event _
    obtain ⟨front, back, parts⟩ := List.append_of_mem listed
    have split : history ++ records = (history ++ front) ++ record :: back := by
      rw [parts, List.append_assoc]
    refine Record.arithmetic_succeeds (run.step taken) split ?_ ?_ (fun earlier member => ?_) ?_ op
      inside
    · rw [same record listed]
      exact accepted
    · rw [same record listed]
      exact fits
    · rcases List.mem_append.mp member with past | here
      · exact clocks earlier past
      · rw [same earlier (by simp [parts, here])]
        exact now
    · rw [same record listed]
      exact now

namespace House

/-- A button with a press and a software double tap. -/
def softBindings : List ResolvedBinding :=
  [onPress "soft" (.toggle 5 none), onDoubleTap "soft" .softDoubleTap (.turnOff 5)]

/-- The house with the landing, with a window of deferred presses. -/
def softAutomation (window : ℚ) : Automation :=
  { landingAutomation softBindings with defaults := { softDoubleTapWindowSeconds := window } }

theorem mem_of_checked {bindings : List ResolvedBinding} {binding : ResolvedBinding}
    (listed : binding ∈ checkedBindings bindings) : binding ∈ bindings := by
  unfold checkedBindings at listed
  split at listed
  · exact listed
  · cases listed

theorem softAutomation_accepted (window : ℚ) : (softAutomation window).Accepted where
  cycle := by norm_num [softAutomation]
  suppression := by norm_num [softAutomation]
  confirm_off binding listed plug seconds effect := by
    have member : binding ∈ softBindings := mem_of_checked listed
    rcases List.mem_pair.mp member with rfl | rfl
    · cases effect
    · cases effect

/-- The house after it has started. -/
def softDaemon (window : ℚ) : Daemon × List Record :=
  Daemon.proceed (clock 0) .running
    ((Daemon.launch (softAutomation window) 0).processor.perform (clock 0) fun env => env.startup 0)

theorem softDaemon_run (window : ℚ) : Run (softDaemon window).2 (softDaemon window).1 := by
  have started : (Daemon.launch (softAutomation window) 0).next (clock 0) .start =
      some (softDaemon window) := rfl
  exact (Run.launch (softAutomation window) 0).step started

/-- A press of the button. -/
def softPress : Event := .buttonPress "switch" "soft" .press (Duration.fromSecs 1)

/-- The time arithmetic of the press, a second after the start. -/
def softArithmetic (window : ℚ) : List TimeOp :=
  ((softDaemon window).1.processor.env (clock 1)).eventArithmetic softPress
    (softDaemon window).1.processor.runtime

end House

theorem Run.time_arithmetic_succeeds_press :
    .fromSecsF64 (4 / 5) ∈ House.softArithmetic (4 / 5) ∧
      ∀ op ∈ House.softArithmetic (4 / 5), op.Succeeds := by
  have fits : (House.softAutomation (4 / 5)).WindowsFit :=
    { deferral := fun _ _ _ => by
        constructor
        · norm_num [House.softAutomation]
        · norm_num [House.softAutomation]
      suppression := fun _ _ _ => by norm_num [House.softAutomation]
      cycle := fun _ _ _ _ => by norm_num [House.softAutomation]
      confirm_off := fun binding listed plug seconds effect => by
        have member : binding ∈ House.softBindings := House.mem_of_checked listed
        rcases List.mem_pair.mp member with rfl | rfl
        · cases effect
        · cases effect }
  have clocks : ∀ env : Env, env.topology = House.landingTopology House.softBindings →
      env.ClockFits := by
    intro env same
    constructor
    · intro config heating
      rw [same] at heating
      cases heating
    · intro config heating
      rw [same] at heating
      cases heating
  have early : ∀ record ∈ (House.softDaemon (4 / 5)).2, record.env.ClockFits := by
    intro record member
    have same := Daemon.startup_automation
      ((Daemon.launch (House.softAutomation (4 / 5)) 0).processor.env (House.clock 0)) 0 {} record
      member
    exact clocks record.env (congrArg (·.topology) same)
  have press : ((House.softDaemon (4 / 5)).1.processor.env (House.clock 1)).PressFits
      House.softPress := by
    intro device button ts idx same _ _
    cases same
    change Duration.fromSecs 1 + Duration.fromSecsF64 (4 / 5) < instantLimit
    decide +kernel
  have converts := @Env.pressArithmetic_converts
    ((House.softDaemon (4 / 5)).1.processor.env (House.clock 1)) "switch" "soft" 4 rfl rfl
    (by decide +kernel) (Duration.fromSecs 1) (House.softDaemon (4 / 5)).1.processor.runtime.world
  exact ⟨List.mem_append_left _ converts, Run.time_arithmetic_succeeds (House.softDaemon_run _)
    (House.softAutomation_accepted _) fits early rfl (clocks _ rfl) press⟩

/-- One press of the button panics when the window is negative. -/
theorem Run.time_arithmetic_fails : ¬ ∀ (history records : List Record) (daemon after : Daemon)
    (clock : ClockReading) (event : Event), Run history daemon →
      daemon.processor.automation.Accepted →
        daemon.next clock (.event event) = some (after, records) →
          ∀ op ∈ (daemon.processor.env clock).eventArithmetic event daemon.processor.runtime,
            op.Succeeds := by
  intro claim
  have converts := @Env.pressArithmetic_converts
    ((House.softDaemon (-1)).1.processor.env (House.clock 1)) "switch" "soft" 4 rfl rfl
    (by decide +kernel) (Duration.fromSecs 1) (House.softDaemon (-1)).1.processor.runtime.world
  have succeeds : (TimeOp.fromSecsF64 (-1)).Succeeds :=
    claim _ _ _ _ (House.clock 1) House.softPress (House.softDaemon_run (-1))
      (House.softAutomation_accepted (-1)) rfl _ (List.mem_append_left _ converts)
  have impossible : (0 : ℚ) ≤ -1 := succeeds.1
  norm_num at impossible

end MqttController
