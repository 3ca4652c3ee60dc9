import MqttController.Setpoints

/-!
# Valves that are held shut

While open-window protection holds a valve shut, nothing changes its target, it is told the lowest
setpoint only, and neither its zone nor its pressure group counts its demand.
-/

namespace MqttController

open Std Emission KeyedChange

namespace TrvEntity

/-- Open-window protection holds the valve shut until an instant. -/
def HeldShut (trv : TrvEntity) (stop : Instant) : Prop := trv.target.value = some (.inhibited stop)

variable {env : Env} {trv after : TrvEntity} {stop now : Instant}

theorem HeldShut.of_value (held : trv.HeldShut stop)
    (same : after.target.value = trv.target.value) : after.HeldShut stop := by
  rw [HeldShut, same]
  exact held

theorem HeldShut.isInhibited (held : trv.HeldShut stop) (early : now < stop) :
    trv.isInhibited now = true := by
  have value : trv.target.value = some (.inhibited stop) := held
  rw [TrvEntity.isInhibited, value]
  exact decide_eq_true early

theorem HeldShut.not_due (held : trv.HeldShut stop) (early : now < stop) :
    trv.inhibitionExpired now = false := by
  have value : trv.target.value = some (.inhibited stop) := held
  rw [inhibitionExpired, value]
  exact decide_eq_false early.not_ge

theorem HeldShut.not_effective (held : trv.HeldShut stop) (early : now < stop)
    (minDemand fallback : Nat) : trv.hasEffectiveDemand now minDemand fallback = false := by
  simp [hasEffectiveDemand, held.isInhibited early]

theorem HeldShut.not_organic (held : trv.HeldShut stop) (early : now < stop)
    (minDemand fallback : Nat) : trv.hasOrganicDemand now minDemand fallback = false := by
  simp [hasOrganicDemand, held.isInhibited early]

/-- A relay that turns off releases valves that are held open, not those that are held shut. -/
theorem HeldShut.relayTurnedOff (held : trv.HeldShut stop) (now : Instant) :
    (trv.relayTurnedOff now).HeldShut stop := by
  have value : trv.target.value = some (.inhibited stop) := held
  unfold TrvEntity.relayTurnedOff
  dsimp only
  split
  · rename_i forced
    rw [isForcedOpenFor, beq_iff_eq] at forced
    rw [value] at forced
    cases forced
  · exact held

/-- Control leaves a valve that is held shut alone and tells it nothing. -/
theorem HeldShut.controls {fits : ℚ → Prop} {told : Option ℚ} (held : trv.HeldShut stop)
    (early : env.clock.now < stop) (controls : TrvEntity.Controls env fits trv after told) :
    after.HeldShut stop ∧ told = none := by
  have inhibited := held.isInhibited early
  cases controls with
  | kept => exact ⟨held, rfl⟩
  | checked => exact ⟨held, rfl⟩
  | forced closed free reason tickGen =>
      rw [inhibited] at free
      cases free
  | released free =>
      rw [inhibited] at free
      cases free
  | commanded closed free asked owner tickGen =>
      rw [inhibited] at free
      cases free
  | inhibited closed free stop tickGen =>
      rw [inhibited] at free
      cases free

/-- What keeps a valve shut in every step keeps it shut. -/
theorem HeldShut.steps (held : trv.HeldShut stop) (taken : Relation.ReflTransGen
      (fun trv after : TrvEntity => trv.HeldShut stop → after.HeldShut stop) trv after) :
    after.HeldShut stop := by
  induction taken with
  | refl => exact held
  | tail _ last ih => exact last ih

end TrvEntity

/-- A message tells one valve the lowest setpoint only. -/
abbrev Effect.TellsShut (tables : TopologyTables) (device : String) (effect : Effect) : Prop :=
  effect.Tells fun idx temperature => tables.deviceIdx device = some idx → temperature = 5

namespace Env

variable {env : Env} {device : String} {stop : Instant} {runtime : Runtime}

theorem sendTo_tellsShut {other : String} {temperature : ℚ}
    (shuts : other = device → temperature = 5) :
    ∀ effect ∈ env.sendTo other (.trvSetpoint temperature),
      effect.TellsShut env.topology.toTopologyTables device := by
  refine sendTo_tells fun idx known found => shuts ?_
  rw [← (TopologyTables.deviceName_of_deviceIdx known).1,
    (TopologyTables.deviceName_of_deviceIdx found).1]

/-- The control of one valve keeps shut what is held shut, and does not tell it otherwise. -/
theorem ControlsValve.heldShut (early : env.clock.now < stop) (other : String) (runtime : Runtime)
    (result : Runtime × List Effect) (held : (runtime.world.trvAt device).HeldShut stop)
    (controls : env.ControlsValve (fun _ => True) other runtime result) :
    (result.1.world.trvAt device).HeldShut stop ∧
      ∀ effect ∈ result.2, effect.TellsShut env.topology.toTopologyTables device := by
  obtain ⟨after, told, controls, values, tells⟩ := controls
  by_cases same : other = device
  · subst same
    obtain ⟨kept, silent⟩ := held.controls early controls
    refine ⟨?_, fun effect sent => ?_⟩
    · rw [values, if_pos rfl]
      exact kept
    · obtain ⟨temperature, spoken, _⟩ := tells effect sent
      rw [silent] at spoken
      cases spoken
  · refine ⟨?_, fun effect sent => ?_⟩
    · rw [values, if_neg same]
      exact held
    · obtain ⟨temperature, _, sent⟩ := tells effect sent
      exact sendTo_tellsShut (fun here => absurd here same) effect sent

variable (env) in
/-- A retry repeats the lowest setpoint to a valve that is held shut. -/
theorem reconcileSetpoints_tellsShut (held : (runtime.world.trvAt device).HeldShut stop)
    (config : HeatingConfig) :
    ∀ effect ∈ (env.reconcileSetpoints config runtime).2,
      effect.TellsShut env.topology.toTopologyTables device := by
  intro effect sent
  obtain ⟨trv, _, sent⟩ := List.mem_flatMap.mp sent
  unfold reconcileSetpoint at sent
  split at sent
  · cases sent
  · rename_i entity stored
    split at sent
    · cases sent
    · split at sent
      · cases sent
      · rename_i target value
        refine sendTo_tellsShut (fun same => ?_) effect sent
        rw [same] at stored
        rw [trvAt_of_stored stored] at held
        have shut : entity.target.value = some (.inhibited stop) := held
        rw [value] at shut
        cases shut
        rfl

theorem enforcePressureGroups_heldShut (early : env.clock.now < stop)
    (held : (runtime.world.trvAt device).HeldShut stop) (config : HeatingConfig) :
    ((env.enforcePressureGroups config runtime).1.world.trvAt device).HeldShut stop ∧
      ∀ effect ∈ (env.enforcePressureGroups config runtime).2,
        effect.TellsShut env.topology.toTopologyTables device :=
  enforcePressureGroups_rule (ControlsValve.heldShut early) config runtime held

theorem controlValves_heldShut (early : env.clock.now < stop)
    (held : (runtime.world.trvAt device).HeldShut stop) (config : HeatingConfig) :
    ((env.controlValves config runtime).1.world.trvAt device).HeldShut stop ∧
      ∀ effect ∈ (env.controlValves config runtime).2,
        effect.TellsShut env.topology.toTopologyTables device := by
  obtain ⟨enforced, first⟩ := enforcePressureGroups_heldShut early held config
  obtain ⟨scheduled, second⟩ := evaluateSchedules_rule (ControlsValve.heldShut early)
    (fun trv (_ : trv ∈ config.zones.flatMap (·.trvs)) _ _ _ => trivial) _ enforced
  have repeated := env.reconcileSetpoints_tellsShut scheduled config
  obtain ⟨detected, last⟩ :=
    detectOpenWindows_rule (ControlsValve.heldShut early) config _ scheduled
  refine ⟨detected, fun effect sent => ?_⟩
  rcases List.mem_append.mp sent with early | sent
  · exact first effect early
  rcases List.mem_append.mp sent with middle | sent
  · exact second effect middle
  rcases List.mem_append.mp sent with again | late
  · exact repeated effect again
  · exact last effect late

theorem controlRelays_heldShut (early : env.clock.now < stop)
    (held : (runtime.world.trvAt device).HeldShut stop) (config : HeatingConfig) :
    ((env.controlRelays config runtime).1.world.trvAt device).HeldShut stop ∧
      ∀ effect ∈ (env.controlRelays config runtime).2,
        effect.TellsShut env.topology.toTopologyTables device := by
  refine controlRelays_rule (ControlsValve.heldShut early)
    (fun before after same held => ?_) (fun _ => Effect.tells_of_none) config runtime held
  rw [WorldState.trvAt, same]
  exact held

end Env

/-- No operation takes a valve out of a hold that is not due, or tells it another setpoint. -/
theorem Operation.run_heldShut {env : Env} {operation : Operation}
    (admissible : operation.Admissible env.topology) {runtime : Runtime} {device : String}
    {stop : Instant} (early : env.clock.now < stop)
    (held : (runtime.world.trvAt device).HeldShut stop) :
    ((operation.run env runtime).1.world.trvAt device).HeldShut stop ∧
      ∀ effect ∈ (operation.run env runtime).2,
        effect.TellsShut env.topology.toTopologyTables device := by
  cases control : operation.isHeatControl with
  | true =>
      cases operation with
      | controlValves config => exact Env.controlValves_heldShut early held config
      | controlRelays config => exact Env.controlRelays_heldShut early held config
      | _ => cases control
  | false =>
      refine ⟨?_, fun effect sent =>
        Effect.tells_of_none (run_silent admissible control runtime effect sent)⟩
      cases heating : operation.isHeating with
      | false =>
          have same := congrArg Heating.trvs (run_heating admissible heating runtime)
          have same : (operation.run env runtime).1.world.trvs = runtime.world.trvs := same
          rw [WorldState.trvAt, same]
          exact held
      | true =>
          cases operation with
          | observeTrv config other report =>
              cases reported : (observeTrv config other report).trvReport device with
              | none =>
                  have different : other ≠ device := by
                    rintro rfl
                    simp [trvReport] at reported
                  change ((env.handleTrvState config other report runtime).world.trvAt
                    device).HeldShut stop
                  unfold Env.handleTrvState
                  split
                  · rw [Runtime.modifyTrv, WorldState.trvAt_modifyTrv, if_neg different]
                    exact held
                  · exact held
              | some taken =>
                  rcases run_trvAt_reported env reported runtime with observed | same
                  · rw [observed]
                    exact held.of_value (TrvEntity.value_observe _ _ _ _)
                  · rw [same]
                    exact held
          | observeThermostat config other relayOn temperature mode =>
              have taken : Runtime.ValvesBy
                  (fun trv after : TrvEntity => trv.HeldShut stop → after.HeldShut stop) runtime
                  (env.handleWallThermostatState config other relayOn temperature mode runtime) :=
                Env.handleWallThermostatState_valves (fun _ held => held)
                  (fun _ held => held.relayTurnedOff _) config other relayOn temperature mode
                  runtime
              exact held.steps (taken device)
          | beginHeatingTick config =>
              have taken : Runtime.ValvesBy
                  (fun trv after : TrvEntity => trv.HeldShut stop → after.HeldShut stop) runtime
                  (env.beginHeatingTick config runtime).1 :=
                Env.beginHeatingTick_valves (fun _ due held => by
                  rw [held.not_due early] at due
                  cases due) config runtime
              exact held.steps (taken device)
          | ageTargets ts => exact held
          | controlValves config => cases control
          | controlRelays config => cases control
          | _ => cases heating

/-- A valve was held shut, and the hold has not become due since. -/
def HoldLasts (history : List Record) (device : String) (stop : Instant) : Prop :=
  Since (fun record => (record.after.world.trvAt device).HeldShut stop)
    (fun record => stop ≤ record.env.clock.now) history

/-- A hold that is not due is in force. -/
theorem holdLasts_kept : KeptByOperations fun _ history runtime => ∀ device stop,
    HoldLasts history device stop → (runtime.world.trvAt device).HeldShut stop where
  launch _ device stop lasts := by
    obtain ⟨past, first, later, split, _⟩ := lasts
    simp at split
  operation env operation past runtime admissible _ holds device stop lasts := by
    rcases since_concat lasts with begins | ⟨before, early⟩
    · exact begins
    · exact (Operation.run_heldShut admissible (Nat.lt_of_not_le early)
        (holds device stop before)).1

/-- A valve that is held shut is counted neither for its zone nor for its pressure group. -/
theorem Record.not_countsDemand {record : Record} {device : String} {stop : Instant}
    (held : (record.before.world.trvAt device).HeldShut stop)
    (early : record.env.clock.now < stop) : ¬ record.CountsDemand device := by
  unfold Record.CountsDemand
  dsimp only
  split
  · rintro ⟨_, trv, stored, demand⟩
    rw [Env.trvAt_of_stored stored] at held
    rw [held.not_effective early] at demand
    cases demand
  · rename_i config _
    rintro ⟨_, front, group, back, groups, member, trv, stored, demand⟩
    -- The groups before this one leave the valve alone.
    obtain ⟨stays, _⟩ := Env.enforcePressureGroups_heldShut early held
      { config with pressureGroups := front }
    rw [Env.trvAt_of_stored stored] at stays
    rw [stays.not_organic early] at demand
    cases demand
  · exact not_false

/-- From the moment open-window protection shuts a valve until the hold is due, no event and no
command changes what the valve is told to be, every setpoint sent to it is the lowest one, and its
demand counts neither for its zone nor for its pressure group. -/
theorem Run.window_hold {history past later : List Record} {daemon : Daemon}
    {holding record : Record} (run : Run history daemon)
    (split : history = past ++ record :: later) {device : String} {stop : Instant}
    (earlier : holding ∈ past) (held : (holding.after.world.trvAt device).HeldShut stop)
    (early : record.env.clock.now < stop) :
    (record.before.world.trvAt device).HeldShut stop ∧
      (record.after.world.trvAt device).HeldShut stop ∧
        (∀ idx temperature, record.env.topology.deviceIdx device = some idx →
          Effect.publishDeviceSet idx (.trvSetpoint temperature) ∈ record.effects →
            temperature = 5) ∧
          ¬ record.CountsDemand device := by
  obtain ⟨admissible, follows, holds⟩ := run.each_record holdLasts_kept split
  have lasts : HoldLasts past device stop := by
    obtain ⟨front, back, parts⟩ := List.append_of_mem earlier
    refine ⟨front, holding, back, parts, held, fun other member due => ?_⟩
    have before := follows other (by rw [parts]; simp [member])
    exact early.not_ge (due.trans before)
  have stays := holds device stop lasts
  obtain ⟨kept, tells⟩ := Operation.run_heldShut admissible early stays
  exact ⟨stays, kept, fun idx temperature known sent => tells _ sent idx temperature rfl known,
    Record.not_countsDemand stays early⟩

/-- The valve upstairs asks for heat and shows its old setpoint after it was shut. -/
theorem Run.window_hold_paired : ∃ (history past later : List Record) (daemon : Daemon)
    (record : Record) (stop : Instant), Run history daemon ∧ history = past ++ record :: later ∧
      Effect.publishDeviceSet 8 (.trvSetpoint 5) ∈ record.effects ∧
        (record.after.world.trvAt "valve-up").HeldShut stop ∧
          ¬ record.CountsDemand "valve-up" := by
  obtain ⟨daemon, history, run, _, facts⟩ := House.played_paired
    (House.coldRoom (House.coldRoom.coldValve 2) ++
      [House.valve "valve-up" (some 90) (some 21) 1600, House.tick 1700])
    (by simp [House.coldRoom, House.coldRoom.coldValve, House.relay, House.valve, House.tick])
    (fun reached : Daemon × List Record =>
      ((reached.2[24]?).any fun record : Record =>
        decide ((record.after.world.trvAt "valve-up").target.value =
          some (.inhibited 3311000000000))) &&
      (reached.2[31]?).any fun record : Record =>
        decide (record.env.clock.now < 3311000000000) &&
          decide (Effect.publishDeviceSet 8 (.trvSetpoint 5) ∈ record.effects))
    true (by decide +kernel)
  rw [Bool.and_eq_true] at facts
  obtain ⟨holding, shut, held⟩ := (Option.any_eq_true _ _).mp facts.1
  obtain ⟨record, found, told⟩ := (Option.any_eq_true _ _).mp facts.2
  rw [Bool.and_eq_true] at told
  have held : (holding.after.world.trvAt "valve-up").target.value =
      some (.inhibited 3311000000000) := of_decide_eq_true held
  have earlier : holding ∈ history.take 31 := by
    rw [← List.getElem?_take_of_lt (by decide : 24 < 31)] at shut
    exact List.mem_of_getElem? shut
  obtain ⟨_, stays, _, ignored⟩ := Run.window_hold run (split_at found) earlier
    held (of_decide_eq_true told.1)
  exact ⟨history, _, _, daemon, record, _, run, split_at found, of_decide_eq_true told.2, stays,
    ignored⟩

end MqttController
