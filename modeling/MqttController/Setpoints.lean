import MqttController.Config.Coverage
import MqttController.GroupMessages
import MqttController.OpenWindows
import MqttController.Restarts

/-!
# Setpoints that are published

Only the control of valves and relays tells a valve a setpoint: what its schedule or boost asks for,
the highest to hold it open, or the lowest to shut it.
-/

namespace MqttController

open Std Emission

namespace Effect

/-- The valve that a message tells a setpoint, and that setpoint. -/
def setpoint : Effect → Option (DeviceIdx × ℚ)
  | publishDeviceSet device (.trvSetpoint temperature) => some (device, temperature)
  | _ => none

/-- What the message tells a valve is good. -/
def Tells (good : DeviceIdx → ℚ → Prop) (effect : Effect) : Prop :=
  ∀ device temperature, effect.setpoint = some (device, temperature) → good device temperature

variable {good : DeviceIdx → ℚ → Prop}

theorem tells_of_none {effect : Effect} (silent : effect.setpoint = none) : effect.Tells good := by
  intro device temperature told
  rw [silent] at told
  cases told

theorem setpoint_of_apart {effect : Effect} (apart : ¬ effect.toDevice) :
    effect.setpoint = none := by
  cases effect with
  | publishDeviceSet device payload => exact absurd trivial apart
  | _ => rfl

end Effect

/-- The step tells no valve a setpoint. -/
abbrev TellsNothing {σ : Type} (step : Step σ Effect) : Prop :=
  Leaves (fun _ : σ => ()) (fun effect : Effect => effect.setpoint = none) step

namespace Env

variable {env : Env} {good : DeviceIdx → ℚ → Prop}

theorem sendTo_silent {device : String} {payload : Payload}
    (other : ∀ temperature, payload ≠ .trvSetpoint temperature) :
    ∀ effect ∈ env.sendTo device payload, effect.setpoint = none := by
  intro effect sent
  obtain ⟨idx, _, rfl⟩ := List.mem_map.mp sent
  cases payload with
  | trvSetpoint temperature => exact absurd rfl (other temperature)
  | _ => rfl

theorem sendTo_tells {device : String} {temperature : ℚ}
    (told : ∀ idx, env.topology.deviceIdx device = some idx → good idx temperature) :
    ∀ effect ∈ env.sendTo device (.trvSetpoint temperature), effect.Tells good := by
  intro effect sent idx other same
  obtain ⟨known, listed, rfl⟩ := List.mem_map.mp sent
  cases same
  exact told idx (Option.mem_toList.mp listed)

/-! ## Lighting -/

theorem Outcome.apart {start : WorldState} {ts : Instant} {result : WorldState × List Effect}
    (outcome : Outcome env start ts result) : ∀ effect ∈ result.2, ¬ effect.toDevice := by
  cases outcome with
  | group idx room payload found mirrors => simp [Effect.toDevice]
  | brightness idx room payload found brightness taken => simp [Effect.toDevice]
  | lights effects single =>
      intro effect sent
      obtain ⟨light, payload, rfl, _⟩ := single effect sent
      exact not_false

theorem turnOffMotionLights_apart (target : ResolvedMotionTarget) (lights : List LightEndpoint)
    (transition : ℚ) (ts : Instant) (owner : Owner) (world : WorldState) :
    ∀ effect ∈ (env.turnOffMotionLights target lights transition ts owner world).2,
      ¬ effect.toDevice := by
  rw [turnOffMotionLights_effects]
  split
  · simp [Effect.toDevice]
  · intro effect sent
    obtain ⟨light, _, rfl⟩ := List.mem_map.mp sent
    exact not_false

theorem startMotionSession_apart {rule : ResolvedMotionRule}
    (listed : rule ∈ env.topology.motionRules) (illuminance : Option Nat) (ts : Instant)
    (world : WorldState) :
    ∀ effect ∈ (env.startMotionSession rule illuminance ts world).2, ¬ effect.toDevice := by
  rcases startMotionSession_cases listed illuminance ts world with idle | ⟨opens, same⟩
  · simp [idle.effects]
  · rw [same, opens.effects]
    split
    · simp
    · split
      · simp [Effect.toDevice]
      · intro effect sent
        obtain ⟨light, _, rfl⟩ := List.mem_map.mp sent
        exact not_false

/-! ## Plugs and reports -/

theorem applyKillSwitchFired_silent (device : String) (fired : List String) (ts : Instant)
    (world : WorldState) :
    ∀ effect ∈ (env.applyKillSwitchFired device fired ts world).2, effect.setpoint = none := by
  unfold applyKillSwitchFired
  split
  · simp
  · intro effect sent
    obtain ⟨_, _, rfl⟩ := List.mem_map.mp sent
    rfl

theorem handlePlugState_silent (device : String) (on : Option Bool) (power : Option ℚ)
    (ts : Instant) (world : WorldState) :
    ∀ effect ∈ (env.handlePlugState device on power ts world).2, effect.setpoint = none := by
  unfold handlePlugState
  dsimp only
  split
  · simp
  · split
    · simp
    · split
      · simp
      · unfold evaluateKillSwitch
        split
        · simp
        · split
          exact applyKillSwitchFired_silent _ _ _ _

theorem evaluateKillSwitchTicks_silent (ts : Instant) (world : WorldState) :
    ∀ effect ∈ (env.evaluateKillSwitchTicks ts world).2, effect.setpoint = none :=
  have fires : ∀ due : String × String,
      TellsNothing (env.applyKillSwitchFired due.1 [due.2] ts) :=
    fun due world => ⟨rfl, applyKillSwitchFired_silent due.1 [due.2] ts world⟩
  (Leaves.forEach fires _ world).2

theorem webSetPlugPower_silent (device : String) (on : Bool) (ts : Instant) (world : WorldState) :
    ∀ effect ∈ (env.webSetPlugPower device on ts world).2, effect.setpoint = none := by
  unfold webSetPlugPower
  split
  · simp
  · split
    · simp
    · split
      · simp [Effect.setpoint, Payload.deviceOn]
      · simp [Effect.setpoint, Payload.deviceOff]

variable (env) in
theorem switchPlug_silent (plug : DeviceIdx) (on : Bool) (ts : Instant) (world : WorldState) :
    ∀ effect ∈ (env.switchPlug plug on ts world).2, effect.setpoint = none := by
  unfold switchPlug
  split
  · simp [Effect.setpoint, Payload.deviceOn]
  · simp [Effect.setpoint, Payload.deviceOff]

theorem togglePlug_silent (ruleName : String) (plug : DeviceIdx) (confirmOffSeconds : Option ℚ)
    (ts : Instant) (world : WorldState) :
    ∀ effect ∈ (env.togglePlug ruleName plug confirmOffSeconds ts world).2,
      effect.setpoint = none := by
  unfold togglePlug
  dsimp only
  split
  · split
    · exact env.switchPlug_silent _ _ _ _
    · simp
  · exact env.switchPlug_silent _ _ _ _

theorem reassertMode_silent (device : DeviceIdx) (current : Option String) (expected : String)
    {payload : String → Payload} (mode : payload = .operatingMode ∨ payload = .systemMode) :
    ∀ effect ∈ reassertMode device current expected payload, effect.setpoint = none := by
  unfold reassertMode
  split
  · simp
  · split
    · simp
    · rcases mode with rfl | rfl
      · simp [Effect.setpoint]
      · simp [Effect.setpoint]

theorem checkTrvMode_silent (device : String) (world : WorldState) :
    ∀ effect ∈ env.checkTrvMode device world, effect.setpoint = none := by
  unfold checkTrvMode
  split
  · simp
  · dsimp only
    split
    · exact reassertMode_silent _ _ _ (.inr rfl)
    · exact reassertMode_silent _ _ _ (.inl rfl)

theorem checkWtMode_silent (config : HeatingConfig) (device : String) (world : WorldState) :
    ∀ effect ∈ env.checkWtMode config device world, effect.setpoint = none := by
  unfold checkWtMode
  split
  · simp
  · exact reassertMode_silent _ _ _ (.inl rfl)

variable (env) in
theorem askFor_silent (zones : List HeatingZone) :
    ∀ effect ∈ zones.flatMap fun zone => env.askFor zone.relay, effect.setpoint = none := by
  intro effect sent
  obtain ⟨zone, _, sent⟩ := List.mem_flatMap.mp sent
  obtain ⟨idx, _, rfl⟩ := List.mem_map.mp sent
  rfl

/-- The start of a heating tick asks thermostats for their state, and tells no valve anything. -/
theorem beginHeatingTick_silent (config : HeatingConfig) :
    TellsNothing (env.beginHeatingTick config) := by
  have counts : TellsNothing (silent fun runtime : Runtime =>
      { runtime with heatingTickGen := runtime.heatingTickGen + 1 }) := Leaves.silent fun _ => rfl
  have requests : TellsNothing (env.requestStates config) := by
    intro runtime
    unfold requestStates
    split
    · exact ⟨rfl, by simp⟩
    · exact ⟨rfl, env.askFor_silent _⟩
  have expires : TellsNothing (silent (env.expireInhibitions config)) := Leaves.silent fun _ => rfl
  have probes : ∀ zone, TellsNothing (env.probeThermostat zone) := by
    intro zone runtime
    unfold probeThermostat
    dsimp only
    split
    · exact ⟨rfl, by simpa using env.askFor_silent [zone]⟩
    · exact ⟨rfl, by simp⟩
  have refreshes : TellsNothing (env.refreshThermostats config) := by
    intro runtime
    unfold refreshThermostats
    dsimp only
    split
    · exact ⟨rfl, env.askFor_silent _⟩
    · exact ⟨rfl, by simp⟩
  exact (counts.andThen requests).andThen
    (expires.andThen ((Leaves.forEach probes config.zones).andThen refreshes))

end Env

namespace Operation

variable {env : Env}

/-- Lighting operations send to lights and groups only. -/
theorem run_apart {operation : Operation} (admissible : operation.Admissible env.topology)
    (lighting : operation.isLighting) (runtime : Runtime) :
    ∀ effect ∈ (operation.run env runtime).2, ¬ effect.toDevice := by
  have manual : ∀ {name : String}, operation.manualRoom env = some name →
      ∀ effect ∈ (operation.run env runtime).2, ¬ effect.toDevice := by
    intro name about
    obtain ⟨ts, outcome⟩ := run_outcome about runtime
    exact outcome.apart
  cases operation with
  | execute ruleName effect ts =>
      cases about : effect.room with
      | some room => exact manual (by rw [manualRoom, about]; rfl)
      | none =>
          cases effect with
          | turnOffAllZones =>
              intro effect sent
              obtain ⟨idx, room, _, _, rfl⟩ := Env.mem_turnOffAllZones_effects.mp sent
              exact not_false
          | toggle plug seconds => cases lighting
          | turnOn plug => cases lighting
          | turnOff plug => cases lighting
          | _ => cases about
  | webRecallScene room sceneId ts => exact manual rfl
  | webSetRoomOff room ts => exact manual rfl
  | startSession rule illuminance ts =>
      exact Env.startMotionSession_apart admissible illuminance ts runtime.world
  | finishSession rule ts owner =>
      have finish := Env.finishMotionSession_finish env rule ts owner runtime.world
      change ∀ effect ∈ (env.finishMotionSession rule ts owner runtime.world).2, ¬ effect.toDevice
      generalize env.finishMotionSession rule ts owner runtime.world = result at finish ⊢
      cases finish with
      | turnOff session live targetOn mode owned =>
          exact Env.turnOffMotionLights_apart _ _ _ _ _ _
      | _ => simp
  | startupTurnOff rule ts =>
      have startup := Env.startupTurnOff_startup env rule ts runtime.world
      change ∀ effect ∈ (env.startupTurnOff rule ts runtime.world).2, ¬ effect.toDevice
      generalize env.startupTurnOff rule ts runtime.world = result at startup ⊢
      cases startup with
      | idle nothing => simp
      | start mode observed occupied =>
          exact Env.startMotionSession_apart admissible none ts runtime.world
      | reset mode observed free resets =>
          rw [resets.effects]
          exact Env.turnOffMotionLights_apart _ _ _ _ _ _
  | releaseSession rule ts => simp [run, Runtime.onWorldSilently]
  | observeGroup group on ts => simp [run, Runtime.onWorldSilently]
  | observeLight device actual ts => simp [run, Runtime.onWorldSilently]
  | blockMotion room ts => simp [run, Runtime.onWorldSilently]
  | forgetCycle room => simp [run, Runtime.onWorldSilently]
  | _ => cases lighting

/-- The operation controls the valves or the relays. -/
def isHeatControl : Operation → Bool
  | controlValves _ => true
  | controlRelays _ => true
  | _ => false

/-- Only the control of valves and relays tells a valve a setpoint. -/
theorem run_silent {operation : Operation} (admissible : operation.Admissible env.topology)
    (other : operation.isHeatControl = false) (runtime : Runtime) :
    ∀ effect ∈ (operation.run env runtime).2, effect.setpoint = none := by
  have lighting : operation.isLighting →
      ∀ effect ∈ (operation.run env runtime).2, effect.setpoint = none :=
    fun lighting effect sent =>
      Effect.setpoint_of_apart (run_apart admissible lighting runtime effect sent)
  cases operation with
  | execute ruleName effect ts =>
      cases effect with
      | toggle plug seconds => exact Env.togglePlug_silent ruleName plug seconds ts runtime.world
      | turnOn plug => exact env.switchPlug_silent plug true ts runtime.world
      | turnOff plug => exact env.switchPlug_silent plug false ts runtime.world
      | _ => exact lighting rfl
  | webSetPlugPower device on ts => exact Env.webSetPlugPower_silent device on ts runtime.world
  | observePlug device on power ts => exact Env.handlePlugState_silent device on power ts _
  | observeTrv config device report => exact Env.checkTrvMode_silent _ _
  | observeThermostat config device relayOn temperature mode => exact Env.checkWtMode_silent _ _ _
  | fireKillSwitches ts => exact Env.evaluateKillSwitchTicks_silent ts runtime.world
  | beginHeatingTick config => exact (Env.beginHeatingTick_silent config runtime).2
  | controlValves config => cases other
  | controlRelays config => cases other
  | webRecallScene room sceneId ts => exact lighting rfl
  | webSetRoomOff room ts => exact lighting rfl
  | startSession rule illuminance ts => exact lighting rfl
  | finishSession rule ts owner => exact lighting rfl
  | startupTurnOff rule ts => exact lighting rfl
  | _ => simp [run, Runtime.onWorldSilently]

end Operation

/-! ## What control does to one valve -/

/-- What control does to a valve, and what it tells it; `fits` holds of what the hour asks for. -/
inductive TrvEntity.Controls (env : Env) (fits : ℚ → Prop) :
    TrvEntity → TrvEntity → Option ℚ → Prop
  | kept (trv : TrvEntity) : Controls env fits trv trv none
  | forced {trv : TrvEntity} (closed : trv.isForcedOpen = false)
      (free : trv.isInhibited env.clock.now = false) (reason : ForceOpenReason) (tickGen : Nat) :
      Controls env fits trv (trv.forceOpen reason env.clock.now tickGen) (some maxSetpoint)
  | released {trv : TrvEntity} (free : trv.isInhibited env.clock.now = false) :
      Controls env fits trv (trv.releaseForce env.clock.now) none
  | commanded {trv : TrvEntity} (closed : trv.isForcedOpen = false)
      (free : trv.isInhibited env.clock.now = false) {temperature : ℚ} (asked : fits temperature)
      (owner : Owner) (tickGen : Nat) :
      Controls env fits trv (trv.commandSetpoint temperature owner env.clock.now tickGen)
        (some temperature)
  | checked (trv : TrvEntity) : Controls env fits trv trv.checked none
  | inhibited {trv : TrvEntity} (closed : trv.isForcedOpen = false)
      (free : trv.isInhibited env.clock.now = false) (stop : Instant) (tickGen : Nat) :
      Controls env fits trv (trv.checked.inhibit stop env.clock.now tickGen) (some minSetpoint)

namespace Env

variable {env : Env} {config : HeatingConfig} {fits : ℚ → Prop} {runtime : Runtime}
  {device : String} {result : Runtime × List Effect}

/-- A step controls one valve: it changes no other and tells no other anything. -/
def ControlsValve (env : Env) (fits : ℚ → Prop) (device : String) (runtime : Runtime)
    (result : Runtime × List Effect) : Prop :=
  ∃ after told, TrvEntity.Controls env fits (runtime.world.trvAt device) after told ∧
    (∀ other, result.1.world.trvAt other =
      if device = other then after else runtime.world.trvAt other) ∧
    ∀ effect ∈ result.2, ∃ temperature, told = some temperature ∧
      effect ∈ env.sendTo device (.trvSetpoint temperature)

namespace ControlsValve

theorem skip : env.ControlsValve fits device runtime (runtime, []) := by
  refine ⟨_, none, .kept _, fun other => ?_, by simp⟩
  split
  · rename_i same
    rw [same]
  · rfl

theorem silent {change : TrvEntity → TrvEntity}
    (controls : TrvEntity.Controls env fits (runtime.world.trvAt device)
      (change (runtime.world.trvAt device)) none) :
    env.ControlsValve fits device runtime (runtime.modifyTrv device change, []) :=
  ⟨_, none, controls, fun other => runtime.world.trvAt_modifyTrv device other change, by simp⟩

theorem tell {change : TrvEntity → TrvEntity} {temperature : ℚ}
    (controls : TrvEntity.Controls env fits (runtime.world.trvAt device)
      (change (runtime.world.trvAt device)) (some temperature)) :
    env.ControlsValve fits device runtime
      (runtime.modifyTrv device change, env.sendTo device (.trvSetpoint temperature)) :=
  ⟨_, _, controls, fun other => runtime.world.trvAt_modifyTrv device other change,
    fun _ sent => ⟨temperature, rfl, sent⟩⟩

end ControlsValve

theorem enforceOn_controls (active : Bool) (device : String) (runtime : Runtime) :
    env.ControlsValve fits device runtime (env.enforceOn active device runtime) := by
  unfold enforceOn
  dsimp only
  split
  · exact .skip
  · rename_i trv stored
    rw [← trvAt_of_stored stored]
    split
    · split
      · rename_i asks
        simp only [Bool.and_eq_true, Bool.not_eq_true'] at asks
        exact .tell (.forced asks.1.2 asks.1.1 _ _)
      · exact .skip
    · split
      · rename_i ends
        simp only [Bool.and_eq_true, Bool.not_eq_true'] at ends
        exact .silent (.released ends.2)
      · exact .skip

/-- What the hour asks of a valve: the temperature of its boost or else of its schedule. -/
def asked (env : Env) (config : HeatingConfig) (trv : ZoneTrv) : Option (ℚ × Owner) :=
  ((env.valveSchedule config trv).bind fun schedule =>
    schedule.targetTemperature env.clock.localWeekday env.clock.localHour
      env.clock.localMinute).map fun scheduled =>
    match env.activeBoost trv.device with
    | some boost => (boost.temperature, .webUI)
    | none => (scheduled, .schedule)

/-- The hour asks nothing, it finds a hold or a setpoint that is confirmed, or it tells the valve
what it asks. -/
theorem evaluateSchedule_cases (env : Env) (config : HeatingConfig) (trv : ZoneTrv)
    (runtime : Runtime) :
    (env.asked config trv = none ∧ env.evaluateSchedule config trv runtime = (runtime, [])) ∨
    ∃ temperature owner, env.asked config trv = some (temperature, owner) ∧
      ((((runtime.world.trvAt trv.device).isForcedOpen = true ∨
          (runtime.world.trvAt trv.device).isInhibited env.clock.now = true ∨
          (runtime.world.trvAt trv.device).target.value = some (.setpoint temperature)) ∧
        env.evaluateSchedule config trv runtime = (runtime.modifyTrv trv.device id, [])) ∨
      ((runtime.world.trvAt trv.device).isForcedOpen = false ∧
        (runtime.world.trvAt trv.device).isInhibited env.clock.now = false ∧
        env.evaluateSchedule config trv runtime =
          (runtime.modifyTrv trv.device fun trv =>
              trv.commandSetpoint temperature owner env.clock.now runtime.heatingTickGen,
            env.sendTo trv.device (.trvSetpoint temperature)))) := by
  have decides : ∀ (temperature : ℚ) (owner : Owner),
      let entity := runtime.world.trvAt trv.device
      let settled := entity.targetSetpoint == some temperature &&
        entity.target.owner == some owner && entity.target.phase == .confirmed
      ((entity.isForcedOpen = true ∨ entity.isInhibited env.clock.now = true ∨
          entity.target.value = some (.setpoint temperature)) ∧
        (entity.isForcedOpen || entity.isInhibited env.clock.now || settled) = true) ∨
      (entity.isForcedOpen = false ∧ entity.isInhibited env.clock.now = false ∧
        (entity.isForcedOpen || entity.isInhibited env.clock.now || settled) = false) := by
    intro temperature owner entity settled
    cases forced : entity.isForcedOpen with
    | true => exact .inl ⟨.inl rfl, rfl⟩
    | false =>
        cases inhibited : entity.isInhibited env.clock.now with
        | true => exact .inl ⟨.inr (.inl rfl), rfl⟩
        | false =>
            cases kept : settled with
            | false => exact .inr ⟨rfl, rfl, rfl⟩
            | true =>
                refine .inl ⟨.inr (.inr ?_), rfl⟩
                have told : entity.targetSetpoint = some temperature := by
                  simp only [settled, Bool.and_eq_true, beq_iff_eq] at kept
                  exact kept.1.1
                unfold TrvEntity.targetSetpoint at told
                split at told
                · rename_i other value
                  cases told
                  exact value
                · cases told
  unfold asked evaluateSchedule
  cases (env.valveSchedule config trv).bind fun schedule =>
      schedule.targetTemperature env.clock.localWeekday env.clock.localHour
        env.clock.localMinute with
  | none => exact .inl ⟨rfl, rfl⟩
  | some scheduled =>
      right
      cases active : env.activeBoost trv.device with
      | none =>
          refine ⟨scheduled, .schedule, rfl, ?_⟩
          rcases decides scheduled .schedule with ⟨stays, same⟩ | ⟨closed, free, moves⟩
          · exact .inl ⟨stays, if_pos same⟩
          · exact .inr ⟨closed, free, if_neg (by rw [moves]; exact Bool.false_ne_true)⟩
      | some boost =>
          refine ⟨boost.temperature, .webUI, rfl, ?_⟩
          rcases decides boost.temperature .webUI with ⟨stays, same⟩ | ⟨closed, free, moves⟩
          · exact .inl ⟨stays, if_pos same⟩
          · exact .inr ⟨closed, free, if_neg (by rw [moves]; exact Bool.false_ne_true)⟩

theorem evaluateSchedule_controls {trv : ZoneTrv}
    (fit : ∀ temperature owner, env.asked config trv = some (temperature, owner) →
      fits temperature) (runtime : Runtime) :
    env.ControlsValve fits trv.device runtime (env.evaluateSchedule config trv runtime) := by
  rcases env.evaluateSchedule_cases config trv runtime with
    ⟨_, same⟩ | ⟨temperature, owner, asks, ⟨_, same⟩ | ⟨closed, free, same⟩⟩
  · rw [same]
    exact .skip
  · rw [same]
    exact .silent (.kept _)
  · rw [same]
    exact .tell (.commanded closed free (fit temperature owner asks) _ _)

theorem detectOpenWindow_controls (config : HeatingConfig) (relayOnSince : Instant) (trv : ZoneTrv)
    (runtime : Runtime) :
    env.ControlsValve fits trv.device runtime
      (env.detectOpenWindow config relayOnSince trv runtime) := by
  unfold detectOpenWindow
  dsimp only
  split
  · exact .skip
  · rename_i entity stored
    rw [← trvAt_of_stored stored]
    split
    · exact .skip
    · rename_i open'
      simp only [Bool.or_eq_true, not_or, Bool.not_eq_true] at open'
      split
      · exact .silent (.checked _)
      · split
        · split
          · exact .silent (.checked _)
          · exact .skip
        · exact .skip
        · split_ifs
          · exact .silent (.checked _)
          · exact .skip
          · exact .tell (.inhibited open'.2 open'.1.2 _ _)
          · exact .silent (.checked _)

theorem holdOpen_controls (trv : ZoneTrv) (runtime : Runtime) :
    env.ControlsValve fits trv.device runtime (env.holdOpen trv runtime) := by
  unfold holdOpen
  dsimp only
  split
  · exact .skip
  · rename_i entity stored
    rw [← trvAt_of_stored stored]
    split
    · exact .skip
    · rename_i apart
      simp only [Bool.or_eq_true, not_or, Bool.not_eq_true] at apart
      exact .tell (.forced apart.1 apart.2 _ _)

theorem reconcileRelay_silent (runtime : Runtime) (zone : HeatingZone) :
    ∀ effect ∈ env.reconcileRelay runtime zone, effect.setpoint = none := by
  unfold reconcileRelay
  split
  · simp
  · split
    · simp
    · rename_i desired _
      split
      · simp
      · refine sendTo_silent fun temperature => ?_
        cases desired with
        | heating => exact Payload.noConfusion
        | off => exact Payload.noConfusion

/-! ## What control does to relays -/

section Relays

variable {holds : Runtime → Prop} {kind : Effect → Prop}
  (apart : ∀ before after : Runtime, after.world.trvs = before.world.trvs → holds before →
    holds after) (quiet : ∀ effect : Effect, effect.setpoint = none → kind effect)

include apart quiet

theorem commandRelay_rule (decision : ZoneDecision) (value : HeatingZoneTarget)
    (runtime : Runtime) (held : holds runtime) :
    holds (env.commandRelay decision value runtime).1 ∧
      ∀ effect ∈ (env.commandRelay decision value runtime).2, kind effect := by
  refine ⟨apart runtime _ rfl held, fun effect sent => quiet effect ?_⟩
  rw [List.mem_singleton.mp sent]
  cases value with
  | heating => rfl
  | off => rfl

theorem requestOn_rule (config : HeatingConfig) (decision : ZoneDecision) (runtime : Runtime)
    (held : holds runtime) :
    holds (env.requestOn config decision runtime).1 ∧
      ∀ effect ∈ (env.requestOn config decision runtime).2, kind effect := by
  unfold requestOn
  split
  · exact commandRelay_rule apart quiet _ _ runtime held
  · exact ⟨held, by simp⟩

theorem cancelOn_rule (config : HeatingConfig) (decision : ZoneDecision) (runtime : Runtime)
    (held : holds runtime) :
    holds (env.cancelOn config decision runtime).1 ∧
      ∀ effect ∈ (env.cancelOn config decision runtime).2, kind effect := by
  unfold cancelOn
  split
  · exact commandRelay_rule apart quiet _ _ runtime held
  · exact ⟨held, by simp⟩

end Relays

/-! ## What control does to all valves -/

section Rules

variable {holds : Runtime → Prop} {kind : Effect → Prop}
  (each : ∀ device runtime result, holds runtime → env.ControlsValve fits device runtime result →
    holds result.1 ∧ ∀ effect ∈ result.2, kind effect)

include each

theorem enforcePressureGroups_rule (config : HeatingConfig) (runtime : Runtime)
    (start : holds runtime) :
    holds (env.enforcePressureGroups config runtime).1 ∧
      ∀ effect ∈ (env.enforcePressureGroups config runtime).2, kind effect :=
  forEach_emits (fun _ _ runtime held =>
    forEach_emits (fun device _ runtime held =>
      each device runtime _ held (enforceOn_controls _ device runtime)) runtime held) runtime start

theorem evaluateSchedules_rule
    (fit : ∀ trv ∈ config.zones.flatMap (·.trvs), ∀ temperature owner,
      env.asked config trv = some (temperature, owner) → fits temperature) (runtime : Runtime)
    (start : holds runtime) :
    holds (env.evaluateSchedules config runtime).1 ∧
      ∀ effect ∈ (env.evaluateSchedules config runtime).2, kind effect :=
  forEach_emits (fun trv member runtime held =>
    each trv.device runtime _ held (evaluateSchedule_controls (fit trv member) runtime))
    runtime start

theorem detectOpenWindows_rule (config : HeatingConfig) (runtime : Runtime)
    (start : holds runtime) :
    holds (env.detectOpenWindows config runtime).1 ∧
      ∀ effect ∈ (env.detectOpenWindows config runtime).2, kind effect := by
  refine forEach_emits (fun zone _ runtime held => ?_) runtime start
  unfold detectOpenWindowsIn
  split
  · exact ⟨held, by simp⟩
  · split
    · exact ⟨held, by simp⟩
    · split
      · exact forEach_emits (fun trv _ runtime held =>
          each trv.device runtime _ held (detectOpenWindow_controls config _ trv runtime)) runtime
          held
      · exact ⟨held, by simp⟩

theorem stopRelays_rule
    (apart : ∀ before after : Runtime, after.world.trvs = before.world.trvs → holds before →
      holds after) (quiet : ∀ effect : Effect, effect.setpoint = none → kind effect)
    (config : HeatingConfig) (decisions : List ZoneDecision) (runtime : Runtime)
    (held : holds runtime) :
    holds (env.stopRelays config decisions runtime).1 ∧
      ∀ effect ∈ (env.stopRelays config decisions runtime).2, kind effect := by
  have offs : ∀ stopping : List ZoneDecision,
      holds (forEach (fun decision => env.commandRelay decision .off) stopping runtime).1 ∧
        ∀ effect ∈ (forEach (fun decision => env.commandRelay decision .off) stopping runtime).2,
          kind effect := fun stopping =>
    forEach_emits (fun decision _ => commandRelay_rule apart quiet decision .off) runtime held
  unfold stopRelays
  dsimp only
  split_ifs
  · exact ⟨held, by simp⟩
  · exact offs _
  · exact ⟨held, by simp⟩
  · exact offs _
  · exact forEach_emits (fun trv _ runtime held =>
      each trv.device runtime _ held (holdOpen_controls trv runtime)) runtime held

theorem evaluateRelays_rule
    (apart : ∀ before after : Runtime, after.world.trvs = before.world.trvs → holds before →
      holds after) (quiet : ∀ effect : Effect, effect.setpoint = none → kind effect)
    (config : HeatingConfig) (runtime : Runtime) (start : holds runtime) :
    holds (env.evaluateRelays config runtime).1 ∧
      ∀ effect ∈ (env.evaluateRelays config runtime).2, kind effect := by
  have seeded : holds
      ((config.zones.filterMap (env.zoneDecision runtime.world)).foldl env.seedTarget runtime) := by
    refine apart runtime _ (foldl_frame (fun runtime : Runtime => runtime.world.trvs) env.seedTarget
      (fun runtime decision => ?_) _ _) start
    unfold seedTarget
    split
    · rfl
    · rfl
  unfold evaluateRelays
  dsimp only
  generalize (config.zones.filterMap (env.zoneDecision runtime.world)).foldl env.seedTarget
    runtime = ready at seeded ⊢
  generalize (config.zones.filterMap (env.zoneDecision runtime.world)).map
    (·.refresh ready.world) = refreshed
  obtain ⟨requested, first⟩ := forEach_emits (fun decision (_ : decision ∈ refreshed) =>
    requestOn_rule apart quiet config decision) ready seeded
  obtain ⟨cancelled, second⟩ := forEach_emits (fun decision (_ : decision ∈ refreshed) =>
    cancelOn_rule apart quiet config decision) _ requested
  obtain ⟨stopped, third⟩ := stopRelays_rule each apart quiet config refreshed _ cancelled
  refine ⟨stopped, fun effect member => ?_⟩
  rcases List.mem_append.mp member with early | late
  · exact first effect early
  · rcases List.mem_append.mp late with middle | last
    · exact second effect middle
    · exact third effect last

theorem controlRelays_rule
    (apart : ∀ before after : Runtime, after.world.trvs = before.world.trvs → holds before →
      holds after) (quiet : ∀ effect : Effect, effect.setpoint = none → kind effect)
    (config : HeatingConfig) (runtime : Runtime) (start : holds runtime) :
    holds (env.controlRelays config runtime).1 ∧
      ∀ effect ∈ (env.controlRelays config runtime).2, kind effect := by
  have evaluated := evaluateRelays_rule each apart quiet config runtime start
  refine ⟨evaluated.1, fun effect member => ?_⟩
  rcases List.mem_append.mp member with early | repeated
  · exact evaluated.2 effect early
  · obtain ⟨zone, _, repeated⟩ := List.mem_flatMap.mp repeated
    exact quiet effect (reconcileRelay_silent _ zone effect repeated)

end Rules

end Env

/-! ## The range of setpoints -/

/-- A temperature that valves may be told. -/
def SetpointInRange (temperature : ℚ) : Prop := 5 ≤ temperature ∧ temperature ≤ 30

/-- What a message tells a valve is in range. -/
abbrev Effect.TellsInRange (effect : Effect) : Prop :=
  effect.Tells fun _ temperature => SetpointInRange temperature

/-- What a valve is told to be at is in range. -/
def Runtime.ToldInRange (runtime : Runtime) (device : String) : Prop :=
  ∀ target, (runtime.world.trvAt device).target.value = some target →
    SetpointInRange target.setpointValue

/-- The stored boosts and schedules of valves passed their checks. -/
structure Automation.HeatChecked (automation : Automation) : Prop where
  boosts : ∀ (device : String) (boost : ValveBoost),
    automation.settings.boosts[device]? = some boost → SetpointInRange boost.temperature
  schedules : ∀ (device : String) (schedule : TemperatureSchedule),
    automation.settings.scheduleOverrides[device]? = some schedule →
      schedule.validate device = .ok ()

theorem inRange_of_validated {temperature : ℚ}
    (checked : validateBoostTemperature temperature = .ok ()) : SetpointInRange temperature := by
  unfold validateBoostTemperature at checked
  split at checked
  · rename_i fits
    exact ⟨fits.1, fits.2.1⟩
  · cases checked

/-- What is restored from the database has passed its checks. -/
theorem Process.Recoverable.heatChecked {deployed : Deployed} {process : Process}
    (recoverable : process.Recoverable deployed) :
    process.daemon.processor.automation.HeatChecked := by
  obtain ⟨readable, agrees⟩ := recoverable
  -- Boosts and schedules are restored alike at every reading of the clock.
  have agrees := agrees ⟨0, 0, 0, .monday, 0, fun _ => ⟨0, 0⟩⟩
  constructor
  · intro device boost stored
    rw [← agrees.boosts] at stored
    exact inRange_of_validated (readable.boosts device boost stored)
  · intro device schedule stored
    rw [← agrees.schedules] at stored
    have passed := readable.schedules device schedule stored
    unfold SettingsStore.checkSchedule at passed
    cases valid : schedule.validate device with
    | ok passed => rfl
    | error error =>
        rw [valid] at passed
        cases passed

theorem maxSetpoint_inRange : SetpointInRange maxSetpoint := ⟨by norm_num [maxSetpoint], le_rfl⟩

theorem minSetpoint_inRange : SetpointInRange minSetpoint := ⟨le_rfl, by norm_num [minSetpoint]⟩

theorem inRange_of_forced {trv : TrvEntity} (forced : trv.isForcedOpen = true) {target : TrvTarget}
    (told : trv.target.value = some target) : SetpointInRange target.setpointValue := by
  unfold TrvEntity.isForcedOpen at forced
  rw [told] at forced
  cases target with
  | forcedOpen reason => exact maxSetpoint_inRange
  | _ => cases forced

theorem inRange_of_inhibited {trv : TrvEntity} {now : Instant}
    (inhibited : trv.isInhibited now = true) {target : TrvTarget}
    (told : trv.target.value = some target) : SetpointInRange target.setpointValue := by
  unfold TrvEntity.isInhibited at inhibited
  rw [told] at inhibited
  cases target with
  | inhibited stop => exact minSetpoint_inRange
  | _ => cases inhibited

namespace Env

variable {env : Env} {config : HeatingConfig}

theorem ControlsValve.tellsInRange {device : String} {runtime : Runtime}
    {result : Runtime × List Effect}
    (controls : env.ControlsValve SetpointInRange device runtime result) :
    ∀ effect ∈ result.2, effect.TellsInRange := by
  obtain ⟨after, told, controls, _, tells⟩ := controls
  intro effect sent
  obtain ⟨temperature, rfl, sent⟩ := tells effect sent
  refine sendTo_tells (fun _ _ => ?_) effect sent
  cases controls with
  | forced closed free reason tickGen => exact maxSetpoint_inRange
  | commanded closed free asked owner tickGen => exact asked
  | inhibited closed free stop tickGen => exact minSetpoint_inRange

section Hour

variable (checked : env.HeatChecked) (timely : env.clock.Timely)
  (heating : env.topology.heatingConfig = some config)

include checked timely heating

/-- The hour asks something in range of every valve. -/
theorem asked_inRange {trv : ZoneTrv} (member : trv ∈ config.zones.flatMap (·.trvs)) :
    ∃ temperature owner, env.asked config trv = some (temperature, owner) ∧
      SetpointInRange temperature := by
  have valid := env.topology.valid.heating_valid config heating
  obtain ⟨zone, listed, member⟩ := List.mem_flatMap.mp member
  have known : ∃ schedule, env.valveSchedule config trv = some schedule ∧
      schedule.TilesWeek := by
    unfold Automation.valveSchedule
    split
    · rename_i schedule stored
      exact ⟨schedule, rfl, (schedule.validate_eq_ok_iff _).mp (checked.schedules _ _ stored)⟩
    · have present := valid.schedules_exist zone listed trv member
      rw [TreeMap.contains_eq_isSome_getElem?] at present
      obtain ⟨schedule, stored⟩ := Option.isSome_iff_exists.mp present
      exact ⟨schedule, stored, valid.schedules_valid (trv.schedule, schedule)
        (TreeMap.mem_toList_iff_getElem?_eq_some.mpr stored)⟩
  obtain ⟨schedule, effective, tiles⟩ := known
  obtain ⟨ranges, stored, tiled⟩ := tiles env.clock.localWeekday
  obtain ⟨range, _, found, low, high⟩ :=
    schedule.targetTemperature_of_accepted stored tiled timely.1 timely.2
  unfold asked
  rw [effective, Option.bind_some, found, Option.map_some]
  split
  · rename_i boost active
    exact ⟨_, _, rfl, checked.boosts _ _ (Automation.activeBoost_eq_some_iff.mp active).1⟩
  · exact ⟨_, _, rfl, low, high⟩

theorem asked_fits : ∀ trv ∈ config.zones.flatMap (·.trvs), ∀ temperature owner,
    env.asked config trv = some (temperature, owner) → SetpointInRange temperature := by
  intro trv member temperature owner asks
  obtain ⟨other, _, same, fits⟩ := asked_inRange checked timely heating member
  rw [asks] at same
  cases same
  exact fits

/-- The hour leaves a valve with a target in range, and the others as they were. -/
theorem evaluateSchedule_told {trv : ZoneTrv} (member : trv ∈ config.zones.flatMap (·.trvs))
    (runtime : Runtime) :
    (env.evaluateSchedule config trv runtime).1.ToldInRange trv.device ∧
      ∀ device, trv.device ≠ device →
        (env.evaluateSchedule config trv runtime).1.world.trvAt device =
          runtime.world.trvAt device := by
  obtain ⟨temperature, owner, asks, fits⟩ := asked_inRange checked timely heating member
  rcases env.evaluateSchedule_cases config trv runtime with
    ⟨none, _⟩ | ⟨other, by', same, ⟨stays, result⟩ | ⟨_, _, result⟩⟩
  · rw [asks] at none
    cases none
  · rw [asks] at same
    cases same
    rw [result]
    refine ⟨fun target told => ?_, fun device different => ?_⟩
    · rw [Runtime.modifyTrv, WorldState.trvAt_modifyTrv, if_pos rfl, id] at told
      rcases stays with forced | inhibited | value
      · exact inRange_of_forced forced told
      · exact inRange_of_inhibited inhibited told
      · rw [value] at told
        cases told
        exact fits
    · rw [Runtime.modifyTrv, WorldState.trvAt_modifyTrv, if_neg different]
  · rw [asks] at same
    cases same
    rw [result]
    refine ⟨fun target told => ?_, fun device different => ?_⟩
    · rw [Runtime.modifyTrv, WorldState.trvAt_modifyTrv, if_pos rfl] at told
      cases told
      exact fits
    · rw [Runtime.modifyTrv, WorldState.trvAt_modifyTrv, if_neg different]

/-- After the schedules were evaluated every valve holds a target in range. -/
theorem evaluateSchedules_told (runtime : Runtime) :
    ∀ trv ∈ config.zones.flatMap (·.trvs),
      (env.evaluateSchedules config runtime).1.ToldInRange trv.device := by
  rw [evaluateSchedules, forEach_fst]
  refine foldl_establishes (fun _ => True)
    (fun (trv : ZoneTrv) (runtime : Runtime) => runtime.ToldInRange trv.device) (fun _ _ _ => id)
    (fun runtime trv member _ => (evaluateSchedule_told checked timely heating member runtime).1)
    ?_ trivial
  intro runtime trv member other _ _ told
  obtain ⟨here, others⟩ := evaluateSchedule_told checked timely heating member runtime
  by_cases same : trv.device = other.device
  · rw [← same]
    exact here
  · intro target value
    rw [others _ same] at value
    exact told target value

/-- A retry repeats what the valve was told. -/
theorem reconcileSetpoints_tells (runtime : Runtime) :
    ∀ effect ∈ (env.reconcileSetpoints config (env.evaluateSchedules config runtime).1).2,
      effect.TellsInRange := by
  intro effect sent
  obtain ⟨trv, member, sent⟩ := List.mem_flatMap.mp sent
  have told := evaluateSchedules_told checked timely heating runtime trv member
  unfold reconcileSetpoint at sent
  split at sent
  · cases sent
  · rename_i entity stored
    split at sent
    · cases sent
    · split at sent
      · cases sent
      · rename_i target value
        have known :
            ((env.evaluateSchedules config runtime).1.world.trvAt trv.device).target.value =
            some target := by rw [trvAt_of_stored stored, value]
        exact sendTo_tells (fun _ _ => told target known) effect sent

/-- The control of valves tells them temperatures in range. -/
theorem controlValves_tells (runtime : Runtime) :
    ∀ effect ∈ (env.controlValves config runtime).2, effect.TellsInRange := by
  have each : ∀ (device : String) (runtime : Runtime) (result : Runtime × List Effect), True →
      env.ControlsValve SetpointInRange device runtime result →
        True ∧ ∀ effect ∈ result.2, effect.TellsInRange :=
    fun _ _ _ _ controls => ⟨trivial, controls.tellsInRange⟩
  intro effect sent
  rcases List.mem_append.mp sent with enforced | sent
  · exact (enforcePressureGroups_rule each config runtime trivial).2 effect enforced
  rcases List.mem_append.mp sent with scheduled | sent
  · exact (evaluateSchedules_rule each (asked_fits checked timely heating) _ trivial).2 effect
      scheduled
  rcases List.mem_append.mp sent with repeated | detected
  · exact reconcileSetpoints_tells checked timely heating _ effect repeated
  · exact (detectOpenWindows_rule each config _ trivial).2 effect detected

end Hour

/-- The control of relays tells valves temperatures in range. -/
theorem controlRelays_tells (config : HeatingConfig) (runtime : Runtime) :
    ∀ effect ∈ (env.controlRelays config runtime).2, effect.TellsInRange := by
  have each : ∀ (device : String) (runtime : Runtime) (result : Runtime × List Effect), True →
      env.ControlsValve SetpointInRange device runtime result →
        True ∧ ∀ effect ∈ result.2, effect.TellsInRange :=
    fun _ _ _ _ controls => ⟨trivial, controls.tellsInRange⟩
  exact (controlRelays_rule each (fun _ _ _ _ => trivial) (fun _ => Effect.tells_of_none) config
    runtime trivial).2

end Env

/-- Every operation under checked settings tells valves temperatures in range. -/
theorem Operation.run_tells {env : Env} {operation : Operation} (checked : env.HeatChecked)
    (timely : env.clock.Timely) (admissible : operation.Admissible env.topology)
    (runtime : Runtime) : ∀ effect ∈ (operation.run env runtime).2, effect.TellsInRange := by
  cases control : operation.isHeatControl with
  | false =>
      exact fun effect sent =>
        Effect.tells_of_none (run_silent admissible control runtime effect sent)
  | true =>
      cases operation with
      | controlValves config => exact Env.controlValves_tells checked timely admissible runtime
      | controlRelays config => exact Env.controlRelays_tells config runtime
      | _ => cases control

/-- Whatever a deployment goes through, every setpoint that is published lies between 5 and 30
degrees: the placeholder of a valve that is released never goes out. -/
theorem Serves.setpoints_inRange {deployed : Deployed} {history : List Record} {process : Process}
    (serves : Serves deployed history process) :
    ∀ record ∈ history, ∀ (device : DeviceIdx) (temperature : ℚ),
      Effect.publishDeviceSet device (.trvSetpoint temperature) ∈ record.effects →
        5 ≤ temperature ∧ temperature ≤ 30 := by
  intro record member device temperature sent
  obtain ⟨past, later, split⟩ := List.append_of_mem member
  have trivially : KeptByOperations fun _ _ _ => True :=
    ⟨fun _ => trivial, fun _ _ _ _ _ _ _ => trivial⟩
  obtain ⟨admissible, _, _⟩ := serves.run.each_record trivially split
  obtain ⟨checked, timely⟩ :=
    serves.each_env (fun _ recoverable => recoverable.heatChecked) record member
  exact Operation.run_tells checked timely admissible record.before _ sent device temperature rfl

/-- The house controls its valves: the one upstairs is told the temperature of its schedule. -/
theorem Serves.setpoints_inRange_week : ∃ (history : List Record) (process : Process),
    Serves (House.deployed .onOff []) history process ∧
      (∃ record ∈ history, Effect.publishDeviceSet 8 (.trvSetpoint 21) ∈ record.effects) ∧
      ∀ record ∈ history, ∀ (device : DeviceIdx) (temperature : ℚ),
        Effect.publishDeviceSet device (.trvSetpoint temperature) ∈ record.effects →
          5 ≤ temperature ∧ temperature ≤ 30 := by
  obtain ⟨process, history, serves, told⟩ := House.served .onOff [] [(0, .start), House.tick 10]
    (fun reached : Process × List Record => reached.2.any fun record =>
      decide (Effect.publishDeviceSet 8 (.trvSetpoint 21) ∈ record.effects)) true
    (by decide +kernel)
  obtain ⟨record, member, told⟩ := List.any_eq_true.mp told
  exact ⟨history, process, serves, ⟨record, member, of_decide_eq_true told⟩,
    serves.setpoints_inRange⟩

end MqttController
