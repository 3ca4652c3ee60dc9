import MqttController.Lib.KeyedChange
import MqttController.Frames
import MqttController.PressureGroups

/-!
# Valves along a run

Every operation takes each valve through steps of a few kinds.  A released valve stays without
counted demand until a report confirms the setpoint it was told.
-/

namespace MqttController

open Std Emission KeyedChange

namespace TrvEntity

/-- One change of a valve other than by its own reports. -/
inductive Step (env : Env) : TrvEntity → TrvEntity → Prop
  /-- An inhibition ends. -/
  | expired {trv : TrvEntity} (relayOn : Bool) (due : trv.inhibitionExpired env.clock.now = true) :
      Step env trv (trv.expireInhibition relayOn env.clock.now)
  /-- A rule holds the valve open. -/
  | forced (trv : TrvEntity) (reason : ForceOpenReason) (tickGen : Nat) :
      Step env trv (trv.forceOpen reason env.clock.now tickGen)
  /-- A rule releases the valve. -/
  | released (trv : TrvEntity) : Step env trv (trv.releaseForce env.clock.now)
  /-- The valve is told a setpoint. -/
  | commanded (trv : TrvEntity) (temperature : ℚ) (owner : Owner) (tickGen : Nat) :
      Step env trv (trv.commandSetpoint temperature owner env.clock.now tickGen)
  /-- The open-window check was made. -/
  | checked (trv : TrvEntity) : Step env trv trv.checked
  /-- Open-window protection shuts a valve that asks for heat. -/
  | inhibited {trv : TrvEntity} {minDemand minDemandFallback : Nat} (stop : Instant) (tickGen : Nat)
      (demand : trv.hasEffectiveDemand env.clock.now minDemand minDemandFallback = true) :
      Step env trv (trv.checked.inhibit stop env.clock.now tickGen)
  /-- A detection cycle starts. -/
  | detecting (trv : TrvEntity) : Step env trv (trv.startDetection env.clock.now)
  /-- The relay of the zone turned off. -/
  | relayOff (trv : TrvEntity) : Step env trv (trv.relayTurnedOff env.clock.now)

end TrvEntity

/-- Every valve takes finitely many steps of a relation from one runtime to the other. -/
def Runtime.ValvesBy (step : TrvEntity → TrvEntity → Prop) (before after : Runtime) : Prop :=
  Steps (fun _ => step) before.world.trvAt after.world.trvAt

namespace Runtime.ValvesBy

variable {valveStep : TrvEntity → TrvEntity → Prop}

theorem refl (runtime : Runtime) : ValvesBy valveStep runtime runtime := Steps.refl _ _

theorem trans {first second third : Runtime} (before : ValvesBy valveStep first second)
    (after : ValvesBy valveStep second third) : ValvesBy valveStep first third :=
  Steps.trans before after

theorem of_trvs {before after : Runtime} (same : after.world.trvs = before.world.trvs) :
    ValvesBy valveStep before after :=
  Steps.of_eq (by funext device; simp only [WorldState.trvAt, same])

theorem forEach {α ε : Type*} {step : α → Step Runtime ε} {items : List α}
    (each : ∀ item ∈ items, ∀ runtime, ValvesBy valveStep runtime (step item runtime).1)
    (runtime : Runtime) : ValvesBy valveStep runtime (forEach step items runtime).1 :=
  forEach_related refl (fun _ _ _ => trans) each runtime

theorem foldl {α : Type*} {change : Runtime → α → Runtime} {items : List α}
    (each : ∀ item ∈ items, ∀ runtime, ValvesBy valveStep runtime (change runtime item))
    (runtime : Runtime) : ValvesBy valveStep runtime (items.foldl change runtime) :=
  foldl_related refl (fun _ _ _ => trans) each runtime

theorem modifyTrv {runtime : Runtime} {device : String} {change : TrvEntity → TrvEntity}
    (taken : valveStep (runtime.world.trvAt device) (change (runtime.world.trvAt device))) :
    ValvesBy valveStep runtime (runtime.modifyTrv device change) :=
  Steps.update taken fun other => runtime.world.trvAt_modifyTrv device other change

theorem modifyTrv_id (runtime : Runtime) (device : String) :
    ValvesBy valveStep runtime (runtime.modifyTrv device id) := by
  refine Steps.of_eq (funext fun other => ?_)
  rw [Runtime.modifyTrv, WorldState.trvAt_modifyTrv]
  split
  · rename_i same
    rw [id, same]
  · rfl

theorem modifyTrvs {change : TrvEntity → TrvEntity}
    (taken : ∀ trv, valveStep trv (change trv)) (trvs : List ZoneTrv) (runtime : Runtime) :
    ValvesBy valveStep runtime (runtime.modifyTrvs trvs change) :=
  foldl (fun _ _ _ => modifyTrv (taken _)) runtime

end Runtime.ValvesBy

namespace Env

variable {env : Env}

theorem trvAt_of_stored {runtime : Runtime} {device : String} {trv : TrvEntity}
    (stored : runtime.world.trvs[device]? = some trv) : runtime.world.trvAt device = trv := by
  rw [WorldState.trvAt, stored, Option.getD_some]

/-! ## Heating ticks -/

variable (env) in
theorem requestStates_world (config : HeatingConfig) (runtime : Runtime) :
    (env.requestStates config runtime).1.world = runtime.world := by
  unfold requestStates
  split
  · rfl
  · rfl

variable (env) in
theorem probeThermostat_trvs (zone : HeatingZone) (runtime : Runtime) :
    (env.probeThermostat zone runtime).1.world.trvs = runtime.world.trvs := by
  unfold probeThermostat
  dsimp only
  split
  · rfl
  · rfl

variable (env) in
theorem refreshThermostats_world (config : HeatingConfig) (runtime : Runtime) :
    (env.refreshThermostats config runtime).1.world = runtime.world := by
  unfold refreshThermostats
  dsimp only
  split
  · rfl
  · rfl

variable (env) in
/-- A heating tick starts by ending the inhibitions that are due. -/
theorem beginHeatingTick_expires (config : HeatingConfig) (runtime : Runtime) :
    ∃ ready : Runtime, ready.world = runtime.world ∧
      (env.beginHeatingTick config runtime).1.world.trvs =
        (env.expireInhibitions config ready).world.trvs := by
  refine ⟨(env.requestStates config { runtime with
    heatingTickGen := runtime.heatingTickGen + 1 }).1, env.requestStates_world config _, ?_⟩
  have probes : Leaves (fun runtime : Runtime => runtime.world.trvs) (fun _ => True)
      (forEach env.probeThermostat config.zones) :=
    Leaves.forEach (fun zone runtime => ⟨env.probeThermostat_trvs zone runtime, by simp⟩) _
  change (env.refreshThermostats config _).1.world.trvs = _
  rw [refreshThermostats_world]
  exact (probes _).1

section Kinds

variable {valveStep : TrvEntity → TrvEntity → Prop}

theorem beginHeatingTick_valves
    (expired : ∀ {trv : TrvEntity} (relayOn : Bool), trv.inhibitionExpired env.clock.now = true →
      valveStep trv (trv.expireInhibition relayOn env.clock.now))
    (config : HeatingConfig) (runtime : Runtime) :
    Runtime.ValvesBy valveStep runtime (env.beginHeatingTick config runtime).1 := by
  have expires : ∀ runtime,
      Runtime.ValvesBy valveStep runtime (env.expireInhibitions config runtime) := by
    intro runtime
    refine .foldl (fun zone _ runtime => .foldl (fun trv _ runtime => ?_) runtime) runtime
    unfold expireInhibitionOf
    dsimp only
    by_cases due : (runtime.world.trvAt trv.device).inhibitionExpired env.clock.now = true
    · refine .modifyTrv ?_
      rw [if_pos due]
      exact expired _ due
    · refine Steps.of_eq (funext fun other => ?_)
      rw [Runtime.modifyTrv, WorldState.trvAt_modifyTrv, if_neg due]
      split
      · rename_i same
        rw [same]
      · rfl
  obtain ⟨ready, same, ends⟩ := env.beginHeatingTick_expires config runtime
  have begun : Runtime.ValvesBy valveStep runtime ready := .of_trvs (by rw [same])
  exact (begun.trans (expires ready)).trans (.of_trvs ends)

theorem enforcePressureGroups_valves
    (forced : ∀ trv reason tickGen, valveStep trv (trv.forceOpen reason env.clock.now tickGen))
    (released : ∀ trv, valveStep trv (trv.releaseForce env.clock.now)) (config : HeatingConfig)
    (runtime : Runtime) :
    Runtime.ValvesBy valveStep runtime (env.enforcePressureGroups config runtime).1 := by
  refine .forEach (fun group _ runtime => .forEach (fun device _ runtime => ?_) runtime) runtime
  unfold enforceOn
  dsimp only
  split
  · exact .refl _
  · split_ifs
    · exact .modifyTrv (forced _ _ _)
    · exact .refl _
    · exact .modifyTrv (released _)
    · exact .refl _

theorem evaluateSchedules_valves
    (commanded : ∀ trv temperature owner tickGen,
      valveStep trv (trv.commandSetpoint temperature owner env.clock.now tickGen))
    (config : HeatingConfig) (runtime : Runtime) :
    Runtime.ValvesBy valveStep runtime (env.evaluateSchedules config runtime).1 := by
  refine .forEach (fun trv _ runtime => ?_) runtime
  unfold evaluateSchedule
  dsimp only
  split
  · exact .refl _
  · split
    · split_ifs
      · exact .modifyTrv_id _ _
      · exact .modifyTrv (commanded _ _ _ _)
    · split_ifs
      · exact .modifyTrv_id _ _
      · exact .modifyTrv (commanded _ _ _ _)

theorem controlRelays_valves
    (forced : ∀ trv reason tickGen, valveStep trv (trv.forceOpen reason env.clock.now tickGen))
    (config : HeatingConfig) (runtime : Runtime) :
    Runtime.ValvesBy valveStep runtime (env.controlRelays config runtime).1 := by
  have seeds : ∀ (decision : ZoneDecision) (runtime : Runtime),
      Runtime.ValvesBy valveStep runtime (env.seedTarget runtime decision) := by
    intro decision runtime
    refine .of_trvs ?_
    unfold seedTarget
    split
    · rfl
    · rfl
  have requests : ∀ (decision : ZoneDecision) (runtime : Runtime),
      Runtime.ValvesBy valveStep runtime (env.requestOn config decision runtime).1 := by
    intro decision runtime
    refine .of_trvs ?_
    unfold requestOn
    split
    · rfl
    · rfl
  have cancels : ∀ (decision : ZoneDecision) (runtime : Runtime),
      Runtime.ValvesBy valveStep runtime (env.cancelOn config decision runtime).1 := by
    intro decision runtime
    refine .of_trvs ?_
    unfold cancelOn
    split
    · rfl
    · rfl
  have commands : ∀ (stopping : List ZoneDecision) (runtime : Runtime),
      Runtime.ValvesBy valveStep runtime
        (forEach (fun decision => env.commandRelay decision .off) stopping runtime).1 :=
    fun stopping runtime => .forEach (fun _ _ _ => .of_trvs rfl) runtime
  have holds : ∀ (trv : ZoneTrv) (runtime : Runtime),
      Runtime.ValvesBy valveStep runtime (env.holdOpen trv runtime).1 := by
    intro trv runtime
    unfold holdOpen
    dsimp only
    split
    · exact .refl _
    · split
      · exact .refl _
      · exact .modifyTrv (forced _ _ _)
  have stops : ∀ (decisions : List ZoneDecision) (runtime : Runtime),
      Runtime.ValvesBy valveStep runtime (env.stopRelays config decisions runtime).1 := by
    intro decisions runtime
    unfold stopRelays
    dsimp only
    split_ifs
    · exact .refl _
    · exact commands _ runtime
    · exact .refl _
    · exact commands _ runtime
    · exact .forEach (fun trv _ => holds trv) runtime
  exact (Runtime.ValvesBy.foldl (fun decision _ => seeds decision) runtime).trans
    ((Runtime.ValvesBy.forEach (fun decision _ => requests decision) _).trans
      ((Runtime.ValvesBy.forEach (fun decision _ => cancels decision) _).trans (stops _ _)))

/-! ## Reports -/

theorem relayRepeated_valves (name : String) (on firstContact pumpRunning : Bool)
    (relaysOnBefore : Nat) (temperature : Option ℚ) (now : Instant) (runtime : Runtime) :
    Runtime.ValvesBy valveStep runtime
      (runtime.relayRepeated name on firstContact pumpRunning relaysOnBefore temperature now) := by
  refine .of_trvs ?_
  unfold Runtime.relayRepeated
  dsimp only
  split_ifs <;> (try split) <;> rfl

theorem relayTurnedOn_valves
    (detecting : ∀ trv, valveStep trv (trv.startDetection env.clock.now)) (zone : HeatingZone)
    (relaysOnBefore : Nat) (temperature : Option ℚ) (runtime : Runtime) :
    Runtime.ValvesBy valveStep runtime
      (runtime.relayTurnedOn zone relaysOnBefore temperature env.clock.now) := by
  have observed : Runtime.ValvesBy valveStep runtime
      (runtime.modifyHeatingZone zone.name fun entity =>
        { entity.observeRelay true temperature env.clock.now with
          relayOnSince := some env.clock.now }) := .of_trvs rfl
  have followed := observed.trans
    (Runtime.ValvesBy.modifyTrvs detecting zone.trvs _)
  unfold Runtime.relayTurnedOn
  dsimp only
  split_ifs
  · exact followed.trans (.of_trvs rfl)
  · exact .of_trvs rfl
  · exact followed.trans (.of_trvs rfl)
  · exact .of_trvs rfl

theorem relayTurnedOff_valves
    (relayOff : ∀ trv, valveStep trv (trv.relayTurnedOff env.clock.now)) (zone : HeatingZone)
    (relaysOnBefore : Nat) (temperature : Option ℚ) (runtime : Runtime) :
    Runtime.ValvesBy valveStep runtime
      (runtime.relayTurnedOff zone relaysOnBefore temperature env.clock.now) := by
  have observed : Runtime.ValvesBy valveStep runtime
      (runtime.modifyHeatingZone zone.name fun entity =>
        { entity.observeRelay false temperature env.clock.now with relayOnSince := none }) :=
    .of_trvs rfl
  have released := observed.trans
    (Runtime.ValvesBy.modifyTrvs relayOff zone.trvs _)
  unfold Runtime.relayTurnedOff
  dsimp only
  split
  · exact released.trans (.of_trvs rfl)
  · exact released.trans (.of_trvs rfl)

theorem observeRelay_valves
    (detecting : ∀ trv, valveStep trv (trv.startDetection env.clock.now))
    (relayOff : ∀ trv, valveStep trv (trv.relayTurnedOff env.clock.now)) (zone : HeatingZone)
    (on : Bool) (temperature : Option ℚ) (runtime : Runtime) :
    Runtime.ValvesBy valveStep runtime
      (runtime.observeRelay zone on temperature env.clock.now) := by
  have contacted : Runtime.ValvesBy valveStep runtime
      (runtime.modifyHeatingZone zone.name (·.contact on temperature env.clock.now)) :=
    .of_trvs rfl
  unfold Runtime.observeRelay
  dsimp only
  split
  · exact contacted.trans (relayRepeated_valves _ _ _ _ _ _ _ _)
  · split
    · exact (contacted.trans (relayTurnedOn_valves detecting zone _ temperature _)).trans
        (.of_trvs rfl)
    · exact (contacted.trans (relayTurnedOff_valves relayOff zone _ temperature _)).trans
        (.of_trvs rfl)

theorem handleWallThermostatState_valves
    (detecting : ∀ trv, valveStep trv (trv.startDetection env.clock.now))
    (relayOff : ∀ trv, valveStep trv (trv.relayTurnedOff env.clock.now)) (config : HeatingConfig)
    (device : String) (relayOn : Option Bool) (temperature : Option ℚ)
    (operatingMode : Option String) (runtime : Runtime) :
    Runtime.ValvesBy valveStep runtime
      (env.handleWallThermostatState config device relayOn temperature operatingMode runtime) := by
  unfold handleWallThermostatState
  split
  · exact .refl _
  · rename_i zone _
    have seen : Runtime.ValvesBy valveStep runtime
        (runtime.modifyHeatingZone zone.name fun entity =>
        { entity with
          wtLastSeen := some env.clock.now
          wtOperatingMode := operatingMode.or entity.wtOperatingMode }) := .of_trvs rfl
    cases relayOn with
    | none => exact seen
    | some on => exact seen.trans (observeRelay_valves detecting relayOff zone on temperature _)

end Kinds

/-! ## Open windows -/

theorem detectOpenWindow_valves (config : HeatingConfig) (relayOnSince : Instant) (trv : ZoneTrv)
    (runtime : Runtime) :
    Runtime.ValvesBy (TrvEntity.Step env) runtime
      (env.detectOpenWindow config relayOnSince trv runtime).1 := by
  unfold detectOpenWindow
  dsimp only
  split
  · exact .refl _
  · rename_i entity stored
    rw [← trvAt_of_stored stored]
    split
    · exact .refl _
    · split
      · exact .modifyTrv (.checked _)
      · rename_i asks
        have demand : (runtime.world.trvAt trv.device).hasEffectiveDemand env.clock.now
            config.heatPump.minDemandPercent config.heatPump.minDemandPercentFallback = true := by
          simpa using asks
        split
        · split
          · exact .modifyTrv (.checked _)
          · exact .refl _
        · exact .refl _
        · split_ifs
          · exact .modifyTrv (.checked _)
          · exact .refl _
          · exact .modifyTrv (.inhibited _ _ demand)
          · exact .modifyTrv (.checked _)

theorem detectOpenWindows_valves (config : HeatingConfig) (runtime : Runtime) :
    Runtime.ValvesBy (TrvEntity.Step env) runtime (env.detectOpenWindows config runtime).1 := by
  refine .forEach (fun zone _ runtime => ?_) runtime
  unfold detectOpenWindowsIn
  split
  · exact .refl _
  · split
    · exact .refl _
    · split
      · exact .forEach (fun trv _ => detectOpenWindow_valves config _ trv) runtime
      · exact .refl _

theorem controlValves_valves (config : HeatingConfig) (runtime : Runtime) :
    Runtime.ValvesBy (TrvEntity.Step env) runtime (env.controlValves config runtime).1 :=
  ((enforcePressureGroups_valves .forced .released config runtime).trans
    (evaluateSchedules_valves .commanded config _)).trans (detectOpenWindows_valves config _)

end Env

namespace Operation

/-- The report of a valve that an operation takes in. -/
def trvReport (device : String) : Operation → Option TrvReport
  | observeTrv _ other report => if other = device then some report else none
  | _ => none

/-- An operation that neither takes in a report of a valve nor controls the valves takes the valve
through steps of the other kinds. -/
theorem run_trvAt_by {env : Env} {valveStep : TrvEntity → TrvEntity → Prop}
    (expired : ∀ {trv : TrvEntity} (relayOn : Bool), trv.inhibitionExpired env.clock.now = true →
      valveStep trv (trv.expireInhibition relayOn env.clock.now))
    (forced : ∀ trv reason tickGen, valveStep trv (trv.forceOpen reason env.clock.now tickGen))
    (detecting : ∀ trv, valveStep trv (trv.startDetection env.clock.now))
    (relayOff : ∀ trv, valveStep trv (trv.relayTurnedOff env.clock.now)) {operation : Operation}
    (admissible : operation.Admissible env.topology) {device : String}
    (unreported : operation.trvReport device = none)
    (apart : ∀ config, operation ≠ .controlValves config) (runtime : Runtime) :
    Relation.ReflTransGen valveStep (runtime.world.trvAt device)
      ((operation.run env runtime).1.world.trvAt device) := by
  cases heating : operation.isHeating with
  | false =>
      have same := congrArg Heating.trvs (run_heating admissible heating runtime)
      exact (Runtime.ValvesBy.of_trvs same : Runtime.ValvesBy valveStep runtime _) device
  | true =>
      cases operation with
      | observeTrv config other report =>
          have different : other ≠ device := by
            rintro rfl
            simp [trvReport] at unreported
          change Relation.ReflTransGen _ _
            ((env.handleTrvState config other report runtime).world.trvAt device)
          unfold Env.handleTrvState
          split
          · rw [Runtime.modifyTrv, WorldState.trvAt_modifyTrv, if_neg different]
          · exact .refl
      | observeThermostat config other relayOn temperature mode =>
          exact Env.handleWallThermostatState_valves detecting relayOff config other relayOn
            temperature mode runtime device
      | ageTargets ts => exact .refl
      | beginHeatingTick config => exact Env.beginHeatingTick_valves expired config runtime device
      | controlValves config => exact absurd rfl (apart config)
      | controlRelays config => exact Env.controlRelays_valves forced config runtime device
      | _ => cases heating

/-- An operation that takes in no report of a valve takes the valve through steps. -/
theorem run_trvAt {env : Env} {operation : Operation}
    (admissible : operation.Admissible env.topology) {device : String}
    (unreported : operation.trvReport device = none) (runtime : Runtime) :
    Relation.ReflTransGen (TrvEntity.Step env) (runtime.world.trvAt device)
      ((operation.run env runtime).1.world.trvAt device) := by
  by_cases other : ∀ config, operation ≠ .controlValves config
  · exact run_trvAt_by .expired .forced .detecting .relayOff admissible unreported other runtime
  · simp only [ne_eq, not_forall, not_not] at other
    obtain ⟨config, rfl⟩ := other
    exact Env.controlValves_valves config runtime device

end Operation

/-! ## Released valves -/

namespace TrvEntity

/-- The valve's demand is not counted: a rule holds it open, or it has not confirmed its
setpoint. -/
def Blocked (trv : TrvEntity) : Prop :=
  trv.isForcedOpen = true ∨
    trv.needsSetpointRetry = true ∧ ∃ temperature, trv.target.value = some (.setpoint temperature)

variable {env : Env} {trv after : TrvEntity}

theorem Blocked.not_effective (blocked : trv.Blocked) (now : Instant)
    (minDemand minDemandFallback : Nat) :
    trv.hasEffectiveDemand now minDemand minDemandFallback = false := by
  rcases blocked with forced | ⟨unconfirmed, _⟩
  · simp [hasEffectiveDemand, forced]
  · simp [hasEffectiveDemand, unconfirmed]

theorem Blocked.not_organic (blocked : trv.Blocked) (now : Instant)
    (minDemand minDemandFallback : Nat) :
    trv.hasOrganicDemand now minDemand minDemandFallback = false := by
  rcases blocked with forced | ⟨unconfirmed, _⟩
  · simp [hasOrganicDemand, forced]
  · simp [hasOrganicDemand, unconfirmed]

theorem Blocked.of_target (blocked : trv.Blocked) (same : after.target = trv.target) :
    after.Blocked := by
  unfold Blocked isForcedOpen needsSetpointRetry
  rw [same]
  exact blocked

theorem blocked_releaseForce (trv : TrvEntity) (now : Instant) : (trv.releaseForce now).Blocked :=
  .inr ⟨rfl, 0, rfl⟩

/-- No step lifts a block. -/
theorem Blocked.step (blocked : trv.Blocked) (taken : TrvEntity.Step env trv after) :
    after.Blocked := by
  cases taken with
  | expired relayOn due =>
      unfold inhibitionExpired at due
      rcases blocked with forced | ⟨_, temperature, target⟩
      · unfold isForcedOpen at forced
        split at due
        · rename_i stop target
          rw [target] at forced
          cases forced
        · cases due
      · rw [target] at due
        cases due
  | forced => exact .inl rfl
  | released => exact blocked_releaseForce _ _
  | commanded temperature owner tickGen => exact .inr ⟨rfl, temperature, rfl⟩
  | checked => exact blocked.of_target rfl
  | inhibited stop tickGen demand =>
      rw [blocked.not_effective] at demand
      cases demand
  | detecting => exact blocked.of_target rfl
  | relayOff =>
      unfold relayTurnedOff
      dsimp only
      split
      · exact blocked_releaseForce _ _
      · exact blocked.of_target rfl

theorem Blocked.steps (blocked : trv.Blocked)
    (taken : Relation.ReflTransGen (TrvEntity.Step env) trv after) : after.Blocked := by
  induction taken with
  | refl => exact blocked
  | tail _ last ih => exact ih.step last

/-- The report shows the setpoint the valve was told. -/
def Confirms (trv : TrvEntity) (report : TrvReport) : Prop :=
  ∃ reported temperature, report.occupiedHeatingSetpoint = some reported ∧
    trv.target.value = some (.setpoint temperature) ∧ |temperature - reported| < 1 / 10

theorem target_sampleTemperature (trv : TrvEntity) (temperature : Option ℚ) (now : Instant) :
    (trv.sampleTemperature temperature now).target = trv.target := by
  unfold sampleTemperature
  split
  · rfl
  · rfl

/-- Following a setpoint keeps what the valve was told. -/
theorem value_followSetpoint (trv : TrvEntity) (reported : Option ℚ) (now : Instant)
    (tickGen : Nat) :
    (trv.followSetpoint reported now tickGen).target.value = trv.target.value := by
  unfold followSetpoint
  split
  · rename_i reported target _ told
    split_ifs
    · simp
    · simp
    · rfl
    · simp [told]
    · rfl
  · rfl

/-- A command that the reported setpoint does not show stays without confirmation. -/
theorem needsSetpointRetry_followSetpoint {trv : TrvEntity} {report : TrvReport}
    (unconfirmed : ¬ trv.Confirms report) {temperature : ℚ}
    (told : trv.target.value = some (.setpoint temperature))
    (commanded : trv.needsSetpointRetry = true) (now : Instant) (tickGen : Nat) :
    (trv.followSetpoint report.occupiedHeatingSetpoint now tickGen).needsSetpointRetry = true := by
  unfold followSetpoint
  split
  · rename_i reported target seen same
    rw [told] at same
    cases same
    have apart : ¬ |(TrvTarget.setpoint temperature).setpointValue - reported| < 1 / 10 :=
      fun close => unconfirmed ⟨reported, temperature, seen, told, close⟩
    rw [if_neg apart]
    split
    · rfl
    · exact commanded
  · exact commanded

/-- A report keeps what the valve was told. -/
theorem value_observe (trv : TrvEntity) (report : TrvReport) (now : Instant) (tickGen : Nat) :
    (trv.observe report now tickGen).target.value = trv.target.value := by
  rw [TrvEntity.observe, value_followSetpoint, target_sampleTemperature]

/-- Only a report of the setpoint lifts a block. -/
theorem Blocked.observe (blocked : trv.Blocked) {report : TrvReport}
    (unconfirmed : ¬ trv.Confirms report) (now : Instant) (tickGen : Nat) :
    (trv.observe report now tickGen).Blocked := by
  have value := trv.value_observe report now tickGen
  rcases blocked with forced | ⟨commanded, temperature, told⟩
  · left
    unfold isForcedOpen at forced ⊢
    rwa [value]
  · refine .inr ⟨?_, temperature, by rw [value, told]⟩
    rw [TrvEntity.observe]
    apply needsSetpointRetry_followSetpoint
    · rwa [Confirms, target_sampleTemperature]
    · rw [target_sampleTemperature, told]
    · rwa [needsSetpointRetry, target_sampleTemperature]

end TrvEntity

namespace Operation

/-- What a report makes of its valve. -/
theorem run_trvAt_reported (env : Env) {operation : Operation} {device : String}
    {report : TrvReport} (reported : operation.trvReport device = some report) (runtime : Runtime) :
    (operation.run env runtime).1.world.trvAt device =
        (runtime.world.trvAt device).observe report env.clock.now runtime.heatingTickGen ∨
      (operation.run env runtime).1.world.trvAt device = runtime.world.trvAt device := by
  cases operation with
  | observeTrv config other taken =>
      rw [trvReport] at reported
      split at reported
      · rename_i same
        subst same
        cases reported
        change (env.handleTrvState config other report runtime).world.trvAt other = _ ∨
          (env.handleTrvState config other report runtime).world.trvAt other = _
        unfold Env.handleTrvState
        split
        · left
          rw [Runtime.modifyTrv, WorldState.trvAt_modifyTrv, if_pos rfl]
        · exact .inr rfl
      · cases reported
  | _ => cases reported

end Operation

namespace Record

/-- A valve that was held open no longer is. -/
def Releases (record : Record) (device : String) : Prop :=
  (record.before.world.trvAt device).isForcedOpen = true ∧
    (record.after.world.trvAt device).isForcedOpen = false

/-- A report shows the setpoint that a valve was told. -/
def ConfirmsSetpoint (record : Record) (device : String) : Prop :=
  ∃ report, record.operation.trvReport device = some report ∧
    (record.before.world.trvAt device).Confirms report

/-- The demand of a valve counts: the relay of a zone is decided by it, or a pressure group when its
turn comes. -/
def CountsDemand (record : Record) (device : String) : Prop :=
  let now := record.env.clock.now
  let (minDemand, fallback) := record.env.minDemand
  match record.operation with
  | .controlRelays _ => record.env.effectiveHeatDemandEnabled device = true ∧
      ∃ trv, record.before.world.trvs[device]? = some trv ∧
        trv.hasEffectiveDemand now minDemand fallback = true
  | .controlValves config => record.env.effectiveHeatDemandEnabled device = true ∧
      ∃ front group back, config.pressureGroups = front ++ group :: back ∧ device ∈ group.trvs ∧
        ∃ trv, (record.env.enforcePressureGroups { config with pressureGroups := front }
            record.before).1.world.trvs[device]? = some trv ∧
          trv.hasOrganicDemand now minDemand fallback = true
  | _ => False

end Record

variable {env : Env} {operation : Operation} {device : String}

/-- An operation that does not confirm the setpoint keeps a valve blocked. -/
theorem Operation.run_blocked (admissible : operation.Admissible env.topology) {runtime : Runtime}
    (blocked : (runtime.world.trvAt device).Blocked)
    (unconfirmed : ¬ Record.ConfirmsSetpoint { env, before := runtime, operation } device) :
    ((operation.run env runtime).1.world.trvAt device).Blocked := by
  cases reported : operation.trvReport device with
  | none => exact blocked.steps (run_trvAt admissible reported runtime)
  | some report =>
      have apart : ¬ (runtime.world.trvAt device).Confirms report :=
        fun confirms => unconfirmed ⟨report, reported, confirms⟩
      rcases run_trvAt_reported env reported runtime with taken | same
      · rw [taken]
        exact blocked.observe apart _ _
      · rwa [same]

/-- A valve that is released is blocked. -/
theorem Record.Releases.blocked {record : Record} (releases : record.Releases device)
    (admissible : record.operation.Admissible record.env.topology) :
    (record.after.world.trvAt device).Blocked := by
  obtain ⟨forced, released⟩ := releases
  refine Operation.run_blocked admissible (.inl forced) ?_
  rintro ⟨report, _, _, temperature, _, told, _⟩
  have told : (record.before.world.trvAt device).target.value = some (.setpoint temperature) := told
  rw [TrvEntity.isForcedOpen, told] at forced
  cases forced

/-- The valve was released, and no report has shown its setpoint since. -/
def Unconfirmed (history : List Record) (device : String) : Prop :=
  Since (fun record => record.Releases device)
    (fun record => record.ConfirmsSetpoint device) history

/-- A released valve is blocked until a report shows its setpoint. -/
theorem unconfirmed_kept : KeptByOperations fun _ history runtime =>
    ∀ device, Unconfirmed history device → (runtime.world.trvAt device).Blocked where
  launch _ device since := by
    obtain ⟨past, first, later, split, _⟩ := since
    simp at split
  operation env operation past runtime admissible _ holds device since := by
    rcases since_concat since with releases | ⟨before, unconfirmed⟩
    · exact releases.blocked admissible
    · exact Operation.run_blocked admissible (holds device before) unconfirmed

/-- After a valve that was held open is released, its demand counts neither for the relay of its
zone nor for its pressure group until a report shows the setpoint it was told. -/
theorem Run.released_demand_ignored {history past later : List Record} {daemon : Daemon}
    {record : Record} (run : Run history daemon) (split : history = past ++ record :: later)
    {device : String} (unconfirmed : Unconfirmed past device) : ¬ record.CountsDemand device := by
  obtain ⟨admissible, _, holds⟩ := run.each_record unconfirmed_kept split
  have blocked := holds device unconfirmed
  unfold Record.CountsDemand
  dsimp only
  split
  · rintro ⟨_, trv, stored, demand⟩
    rw [Env.trvAt_of_stored stored] at blocked
    rw [blocked.not_effective] at demand
    cases demand
  · rename_i config _
    rintro ⟨_, front, group, back, groups, member, trv, stored, demand⟩
    -- The groups before this one leave the valve alone, and could not lift the block anyway.
    have taken : Relation.ReflTransGen (TrvEntity.Step record.env) _ _ :=
      Env.enforcePressureGroups_valves .forced .released
        { config with pressureGroups := front } record.before device
    have stays := blocked.steps taken
    rw [Env.trvAt_of_stored stored] at stays
    rw [stays.not_organic] at demand
    cases demand
  · exact not_false

namespace House

/-- A valve is released between two positions of a history, and reports nothing in between. -/
def releasedBefore (history : List Record) (release : Nat) (quiet : Record → Bool) : Bool :=
  (history[release]?).any (fun record : Record =>
    (record.before.world.trvAt "valve-down").isForcedOpen &&
      !(record.after.world.trvAt "valve-down").isForcedOpen) &&
    (history.drop (release + 1)).all quiet

theorem since_releasedBefore {history : List Record} {release : Nat} {quiet : Record → Bool}
    {stop : Record → Prop} (apart : ∀ record, quiet record = true → ¬ stop record)
    (released : releasedBefore history release quiet = true) :
    Since (fun record => record.Releases "valve-down") stop history := by
  rw [releasedBefore, Bool.and_eq_true] at released
  obtain ⟨releases, silent⟩ := released
  obtain ⟨record, found, releases⟩ := (Option.any_eq_true _ _).mp releases
  rw [Bool.and_eq_true, Bool.not_eq_true'] at releases
  exact ⟨_, record, _, split_at found, releases, fun other member =>
    apart other (List.all_eq_true.mp silent other member)⟩

/-- The record controls the valves. -/
def controlsValves (record : Record) : Bool :=
  match record.operation with
  | .controlValves _ => true
  | _ => false

theorem exists_of_controlsValves {record : Record} (controls : controlsValves record = true) :
    ∃ config, record.operation = .controlValves config := by
  unfold controlsValves at controls
  cases operation : record.operation with
  | controlValves config => exact ⟨config, rfl⟩
  | _ =>
      rw [operation] at controls
      cases controls

/-- The record is the control of the paired valves, and one of them has demand of its own then. -/
def judgesDemand (record : Record) : Bool :=
  match record.operation with
  | .controlValves config =>
      decide (config.pressureGroups = [⟨"pair", ["valve-up", "valve-down"]⟩]) &&
        record.env.effectiveHeatDemandEnabled "valve-down" &&
          (record.before.world.trvs["valve-down"]?).any fun trv =>
            trv.hasOrganicDemand record.env.clock.now record.env.minDemand.1
              record.env.minDemand.2
  | _ => false

theorem countsDemand_of_judges {record : Record} (judges : judgesDemand record = true) :
    record.CountsDemand "valve-down" := by
  unfold judgesDemand at judges
  unfold Record.CountsDemand
  dsimp only
  cases operation : record.operation with
  | controlValves config =>
      simp only [operation, Bool.and_eq_true, decide_eq_true_eq] at judges
      obtain ⟨⟨groups, enabled⟩, demand⟩ := judges
      obtain ⟨trv, stored, demand⟩ := (Option.any_eq_true _ _).mp demand
      exact ⟨enabled, [], _, [], groups, by simp, trv, stored, demand⟩
  | _ => simp [operation] at judges

/-- One valve asks for heat, so that the other one is held open; it reports demand while it is open,
and is released on the second tick. -/
def forcedDemand : List (Nat × Input) :=
  [valve "valve-up" (some 90) none 0, valve "valve-down" (some 0) none 0, (1, .start), tick 10,
    valve "valve-down" (some 90) none 15, tick 20]

end House

/-- The demand of a valve that was just released is not counted when the valves are controlled on
the next tick. -/
theorem Run.released_demand_ignored_paired : ∃ (history past later : List Record)
    (daemon : Daemon) (record : Record), Run history daemon ∧ history = past ++ record :: later ∧
      (∃ config, record.operation = .controlValves config) ∧ Unconfirmed past "valve-down" ∧
        ¬ record.CountsDemand "valve-down" := by
  obtain ⟨daemon, history, run, _, facts⟩ := House.played_paired
    (House.forcedDemand ++ [House.tick 30])
    (by simp [House.forcedDemand, House.valve, House.tick])
    (fun reached : Daemon × List Record => (reached.2[22]?).any House.controlsValves &&
      House.releasedBefore (reached.2.take 22) 16 fun record : Record =>
        (record.operation.trvReport "valve-down").isNone)
    true (by decide +kernel)
  rw [Bool.and_eq_true] at facts
  obtain ⟨record, found, controls⟩ := (Option.any_eq_true _ _).mp facts.1
  have unconfirmed : Unconfirmed (history.take 22) "valve-down" :=
    House.since_releasedBefore (fun record silent => by
      rintro ⟨report, reported, _⟩
      rw [reported] at silent
      cases silent) facts.2
  exact ⟨history, _, _, daemon, record, run, split_at found,
    House.exists_of_controlsValves controls, unconfirmed,
    Run.released_demand_ignored run (split_at found) unconfirmed⟩

/-- After a report of the setpoint alone, the demand that the valve reported while it was held open
counts again. -/
theorem Run.released_demand_ignored_fails : ∃ (history past later : List Record)
    (daemon : Daemon) (record : Record), Run history daemon ∧ history = past ++ record :: later ∧
      Since (fun record => record.Releases "valve-down") (fun record => ∃ report,
        record.operation.trvReport "valve-down" = some report ∧
          (report.piHeatingDemand.isSome = true ∨ report.runningState.isSome = true)) past ∧
      record.CountsDemand "valve-down" := by
  obtain ⟨daemon, history, run, same, facts⟩ := House.played_paired
    (House.forcedDemand ++ [House.valve "valve-down" none (some 21) 25, House.tick 30])
    (by simp [House.forcedDemand, House.valve, House.tick])
    (fun reached : Daemon × List Record => (reached.2[23]?).any House.judgesDemand &&
      House.releasedBefore (reached.2.take 23) 16 fun record : Record =>
        (record.operation.trvReport "valve-down").all fun report : TrvReport =>
          report.piHeatingDemand.isNone && report.runningState.isNone)
    true (by decide +kernel)
  rw [Bool.and_eq_true] at facts
  obtain ⟨judged, released⟩ := facts
  obtain ⟨record, found, judges⟩ := (Option.any_eq_true _ _).mp judged
  refine ⟨history, _, _, daemon, record, run, split_at found,
    House.since_releasedBefore (fun record silent => ?_) released,
    House.countsDemand_of_judges judges⟩
  rintro ⟨report, reported, carries⟩
  rw [reported, Option.all_some, Bool.and_eq_true, Option.isNone_iff_eq_none,
    Option.isNone_iff_eq_none] at silent
  simp [silent.1, silent.2] at carries

end MqttController
