import MqttController.FlowPaths

/-!
# Short cycling of the heat pump

A pump that stands is told to run only after its minimum pause, and the last relays are told off
only after its minimum cycle, apart from commands that are repeated.
-/

namespace OrderedMap

open Std

variable {κ α : Type*} {order : κ → κ → Ordering}

/-- The values that satisfy a property divide into those that satisfy another one and the rest. -/
theorem countValues_and_add_not (entries : TreeMap κ α order) (first second : α → Bool) :
    countValues entries (fun value => first value && second value) +
      countValues entries (fun value => first value && !second value) =
        countValues entries first := by
  unfold countValues
  induction entries.toList with
  | nil => rfl
  | cons entry rest ih =>
      rw [List.countP_cons, List.countP_cons, List.countP_cons, ← ih]
      dsimp only
      have splits : (if (first entry.2 && second entry.2) = true then 1 else 0) +
          (if (first entry.2 && !second entry.2) = true then 1 else 0) =
            if first entry.2 = true then 1 else 0 := by
        cases first entry.2
        · rfl
        · cases second entry.2
          · rfl
          · rfl
      omega

end OrderedMap

namespace Emission

variable {σ ε α : Type*}

/-- What an iteration emits is of a kind when what its steps emit is. -/
theorem forEach_sends {kind : ε → Prop} {step : α → Step σ ε} {items : List α}
    (each : ∀ item ∈ items, ∀ state, ∀ output ∈ (step item state).2, kind output) (state : σ) :
    ∀ output ∈ (forEach step items state).2, kind output :=
  (forEach_emits (fun item member state (_ : True) => ⟨trivial, each item member state⟩) state
    trivial).2

end Emission

namespace MqttController

open Std Emission

/-- The pump stopped: the last relay that was observed on was reported off. -/
structure Record.StopsPump (record : Record) : Prop where
  runs : record.before.isPumpRunning = true
  stands : record.after.isPumpRunning = false

namespace Runtime

variable {runtime : Runtime}

/-! ## The time of the last stop -/

/-- While the pump stands after a step, it stands since now or since it did before. -/
def StandsSince (now : Instant) (before after : Runtime) : Prop :=
  after.isPumpRunning = false → after.pumpOffSince = some now ∨
    before.isPumpRunning = false ∧ after.pumpOffSince = before.pumpOffSince

theorem pumpOff_relayRepeated (runtime : Runtime) (name : String) (on firstContact running : Bool)
    (relaysOnBefore : Nat) (temperature : Option ℚ) (now : Instant) :
    (runtime.relayRepeated name on firstContact running relaysOnBefore temperature
        now).pumpOffSince = some now ∨
      (runtime.relayRepeated name on firstContact running relaysOnBefore temperature
        now).pumpOffSince = runtime.pumpOffSince := by
  unfold relayRepeated
  dsimp only
  generalize seed : (if (firstContact && !on && !running) = true then
    { runtime with pumpOffSince := runtime.pumpOffSince.or (some now) } else runtime) = seeded
  have waits : seeded.pumpOffSince = some now ∨ seeded.pumpOffSince = runtime.pumpOffSince := by
    rw [← seed]
    split
    · cases stopped : runtime.pumpOffSince with
      | none => exact .inl rfl
      | some since => exact .inr rfl
    · exact .inr rfl
  split
  · split
    · split
      · exact waits
      · split
        · exact .inl rfl
        · exact waits
    · exact .inl rfl
    · exact waits
  · exact waits

/-- The pump runs on for another relay. -/
theorem Observes.running_of_several {name : String} {on : Bool} {before after : Runtime}
    (observes : Observes name on before after) (was : before.relayOn name = true)
    (several : before.activeRelayCount ≠ 1) : after.isPumpRunning = true := by
  by_contra stands
  apply several
  apply (before.activeRelayCount_eq_one_iff was).mpr
  intro other different
  by_contra shines
  apply stands
  apply after.isPumpRunning_iff.mpr
  refine ⟨other, (observes other).trans ?_⟩
  rw [if_neg (Ne.symm different)]
  simpa using shines

theorem StandsSince.of_kept {now : Instant} {before middle after : Runtime}
    (kept : RelaysKept before middle) (stands : StandsSince now middle after) :
    StandsSince now before after := by
  intro idle
  rw [← kept.isPumpRunning, ← kept.pumpOff]
  exact stands idle

theorem StandsSince.trans_kept {now : Instant} {before middle after : Runtime}
    (stands : StandsSince now before middle) (kept : RelaysKept middle after) :
    StandsSince now before after := by
  intro idle
  rw [kept.pumpOff]
  exact stands (kept.isPumpRunning.symm.trans idle)

theorem RelaysKept.standsSince {before after : Runtime} (kept : RelaysKept before after)
    (now : Instant) : StandsSince now before after :=
  fun idle => .inr ⟨kept.isPumpRunning.symm.trans idle, kept.pumpOff⟩

/-- A report that the last relay turned off is the time of the stop. -/
theorem relayTurnedOff_stands {before : Runtime} (runtime : Runtime) (zone : HeatingZone)
    (was : before.relayOn zone.name = true)
    (others : ∀ other, other ≠ zone.name → runtime.relayOn other = before.relayOn other)
    (pumpOn : runtime.pumpOnSince = before.pumpOnSince)
    (pumpOff : runtime.pumpOffSince = before.pumpOffSince) (temperature : Option ℚ)
    (now : Instant) :
    StandsSince now before
      (runtime.relayTurnedOff zone before.activeRelayCount temperature now) := by
  have observes := (relayTurnedOff_pump zone not_false was others pumpOn pumpOff temperature now).1
  intro idle
  by_cases single : before.activeRelayCount = 1
  · left
    unfold relayTurnedOff
    dsimp only
    rw [if_pos single]
  · rw [observes.running_of_several was single] at idle
    cases idle

/-- Taking in the relay state of a report. -/
theorem observeRelay_stands (zone : HeatingZone) (on : Bool) (temperature : Option ℚ)
    (now : Instant) (runtime : Runtime) :
    StandsSince now runtime (runtime.observeRelay zone on temperature now) := by
  have observes := (observeRelay_pump zone on temperature now runtime).1
  cases on with
  | true =>
      intro idle
      rw [observes.running] at idle
      cases idle
  | false =>
      unfold observeRelay
      dsimp only
      split
      · rename_i off
        have same : ∀ other,
            (runtime.observeRelay zone false temperature now).relayOn other =
              runtime.relayOn other := by
          intro other
          rw [observes other]
          split
          · rename_i here
            rw [← here]
            exact off.symm
          · rfl
        have running := isPumpRunning_congr same
        unfold observeRelay at running
        dsimp only at running
        rw [if_pos off] at running
        intro idle
        rcases pumpOff_relayRepeated (runtime.modifyHeatingZone zone.name
          (·.contact false temperature now)) zone.name false
          (!(runtime.world.heatingZoneAt zone.name).relayStateKnown) runtime.isPumpRunning
          runtime.activeRelayCount temperature now with fresh | kept
        · exact .inl fresh
        · exact .inr ⟨running.symm.trans idle, kept⟩
      · rename_i changed
        have was : runtime.relayOn zone.name = true := by
          unfold relayOn
          simpa using changed
        rw [if_neg Bool.false_ne_true]
        refine (relayTurnedOff_stands
          (runtime.modifyHeatingZone zone.name (·.contact false temperature now)) zone was
          (fun other different => ?_) rfl rfl temperature now).trans_kept
          (.modifyHeatingZone fun entity => relay_redirty entity now)
        rw [relayOn_modifyHeatingZone, if_neg (Ne.symm different)]

end Runtime

/-- What one operation does to the time since which the pump stands. -/
theorem Operation.run_stands {env : Env} {operation : Operation}
    (admissible : operation.Admissible env.topology) (runtime : Runtime) :
    Runtime.StandsSince env.clock.now runtime (operation.run env runtime).1 := by
  cases report : operation.relayReport with
  | none => exact (run_relays admissible report runtime).standsSince _
  | some found =>
      cases operation with
      | observeThermostat config device relayOn temperature mode =>
          cases relayOn with
          | none => cases report
          | some on =>
              obtain ⟨zone, here, _⟩ := Option.map_eq_some_iff.mp report
              change Runtime.StandsSince env.clock.now runtime
                (env.handleWallThermostatState config device (some on) temperature mode runtime)
              unfold Env.handleWallThermostatState
              rw [here]
              dsimp only
              have seen : Runtime.RelaysKept runtime (runtime.modifyHeatingZone zone.name
                  fun entity => { entity with
                    wtLastSeen := some env.clock.now
                    wtOperatingMode := mode.or entity.wtOperatingMode }) :=
                .modifyHeatingZone fun _ => rfl
              exact .of_kept seen (Runtime.observeRelay_stands zone on temperature env.clock.now _)
      | _ => cases report

/-- While the pump stands, every stop of it is at most as late as the time it stands since. -/
def Runtime.StopsCounted (history : List Record) (runtime : Runtime) : Prop :=
  runtime.isPumpRunning = false → ∀ stop ∈ history, stop.StopsPump →
    ∃ since, runtime.pumpOffSince = some since ∧ stop.env.clock.now ≤ since

theorem Runtime.stopsCounted_kept : KeptByOperations fun _ history runtime =>
    Runtime.StopsCounted history runtime where
  launch topology := by simp [Runtime.StopsCounted]
  operation env operation past runtime admissible follows counted := by
    intro idle stop member stops
    have stands := Operation.run_stands admissible runtime idle
    rcases List.mem_append.mp member with early | last
    · rcases stands with fresh | ⟨stood, kept⟩
      · exact ⟨_, fresh, follows stop early⟩
      · obtain ⟨since, stopped, bound⟩ := counted stood stop early stops
        exact ⟨since, kept.trans stopped, bound⟩
    · obtain rfl := List.mem_singleton.mp last
      rcases stands with fresh | ⟨stood, _⟩
      · exact ⟨_, fresh, le_rfl⟩
      · have ran : runtime.isPumpRunning = true := stops.runs
        rw [stood] at ran
        cases ran

/-! ## The minimum cycle -/

namespace Runtime

theorem le_durationSince_min {span now first second : Nat}
    (elapsed : span ≤ durationSince now (min first second)) :
    span ≤ durationSince now first ∨ span ≤ durationSince now second := by
  unfold durationSince at *
  omega

theorem le_durationSince_of_le {span now first second : Nat} (earlier : first ≤ second)
    (elapsed : span ≤ durationSince now second) : span ≤ durationSince now first := by
  unfold durationSince at *
  omega

theorem le_durationSince_of_self {span now first : Nat} (elapsed : span ≤ durationSince now now) :
    span ≤ durationSince now first := by
  unfold durationSince at *
  omega

/-- The minimum cycle has passed since the pump was observed to start, or since a zone was told to
heat. -/
def CycleOver (runtime : Runtime) (config : HeatingConfig) (now : Instant) : Prop :=
  (∀ since, runtime.pumpOnSince = some since → config.minCycle ≤ durationSince now since) ∨
    ∃ name since, (runtime.world.heatingZoneAt name).wantsHeat = true ∧
      (runtime.world.heatingZoneAt name).target.since = some since ∧
        config.minCycle ≤ durationSince now since

theorem over_of_match_min {observed earliest : Option Instant} {span : Duration} {now : Instant}
    (elapsed : (match observed, earliest with
      | some observed, some earliest => some (min observed earliest)
      | observed, earliest => observed.or earliest).all
        (fun since => decide (span ≤ durationSince now since)) = true) :
    (∀ since, observed = some since → span ≤ durationSince now since) ∨
      ∃ since, earliest = some since ∧ span ≤ durationSince now since := by
  cases observed with
  | none => exact .inl fun since started => by cases started
  | some start =>
      cases earliest with
      | none =>
          left
          intro since started
          cases started
          simpa using elapsed
      | some since =>
          rw [Option.all_some, decide_eq_true_iff] at elapsed
          rcases le_durationSince_min elapsed with enough | enough
          · left
            intro other started
            cases started
            exact enough
          · exact .inr ⟨since, rfl, enough⟩

theorem cycleOver_of_elapsed {runtime : Runtime} {config : HeatingConfig} {now : Instant}
    (elapsed : runtime.cycleElapsed config now = true) : runtime.CycleOver config now := by
  rcases over_of_match_min elapsed with observed | ⟨since, earliest, enough⟩
  · exact .inl observed
  · obtain ⟨name, zone, stored, picked⟩ :=
      (OrderedMap.mem_pickValues _ _ _).mp (List.min?_eq_some_iff.mp earliest).1
    split at picked
    · rename_i heats
      refine .inr ⟨name, since, ?_, ?_, enough⟩
      · rw [WorldState.heatingZoneAt, stored]
        exact heats
      · rw [WorldState.heatingZoneAt, stored]
        exact picked
    · cases picked

/-- The relays are left alone, and what is told to heat now was so since before. -/
structure HeatsSince (now : Instant) (before after : Runtime) : Prop where
  relays : RelaysKept before after
  heats : ∀ name since, (after.world.heatingZoneAt name).wantsHeat = true →
    (after.world.heatingZoneAt name).target.since = some since → since = now ∨
      (before.world.heatingZoneAt name).wantsHeat = true ∧
        (before.world.heatingZoneAt name).target.since = some since

namespace HeatsSince

variable {now : Instant}

theorem refl (runtime : Runtime) : HeatsSince now runtime runtime :=
  ⟨.refl _, fun _ _ heats told => .inr ⟨heats, told⟩⟩

theorem trans {first second third : Runtime} (early : HeatsSince now first second)
    (late : HeatsSince now second third) : HeatsSince now first third := by
  refine ⟨early.relays.trans late.relays, fun name since heats told => ?_⟩
  rcases late.heats name since heats told with fresh | ⟨heats, told⟩
  · exact .inl fresh
  · exact early.heats name since heats told

theorem modifyHeatingZone {runtime : Runtime} {name : String}
    {change : HeatingZoneEntity → HeatingZoneEntity}
    (relays : ∀ zone, (change zone).relay = zone.relay)
    (told : ∀ zone, (change zone).target.since = some now) :
    HeatsSince now runtime (runtime.modifyHeatingZone name change) := by
  refine ⟨.modifyHeatingZone relays, fun other since heats kept => ?_⟩
  rw [Runtime.modifyHeatingZone, WorldState.heatingZoneAt_modifyHeatingZone] at heats kept
  split at kept
  · rw [told] at kept
    exact .inl (Option.some.inj kept).symm
  · rename_i different
    rw [if_neg different] at heats
    exact .inr ⟨heats, kept⟩

theorem foldl {α : Type*} {change : Runtime → α → Runtime} {items : List α}
    (each : ∀ item ∈ items, ∀ runtime, HeatsSince now runtime (change runtime item))
    (runtime : Runtime) : HeatsSince now runtime (items.foldl change runtime) :=
  foldl_related refl (fun _ _ _ => trans) each runtime

/-- What is told to heat now does not make the cycle longer. -/
theorem cycleOver {config : HeatingConfig} {before after : Runtime}
    (since : HeatsSince now before after) (ended : after.CycleOver config now) :
    before.CycleOver config now := by
  rcases ended with observed | ⟨name, time, heats, told, enough⟩
  · left
    intro start started
    exact observed start (since.relays.pumpOn.trans started)
  · rcases since.heats name time heats told with rfl | ⟨heats, told⟩
    · -- The minimum cycle is no time at all.
      left
      intro start _
      exact le_durationSince_of_self enough
    · exact .inr ⟨name, time, heats, told, enough⟩

end HeatsSince

end Runtime

namespace Env

variable {env : Env} {config : HeatingConfig} {runtime : Runtime}

theorem seeded_heatsSince (config : HeatingConfig) (runtime : Runtime) :
    Runtime.HeatsSince env.clock.now runtime (env.seeded config runtime) := by
  apply Runtime.HeatsSince.foldl
  intro decision _ runtime
  unfold seedTarget
  split
  · exact .refl _
  · exact .modifyHeatingZone (fun _ => rfl) (fun _ => rfl)

theorem requestOn_heatsSince (config : HeatingConfig) (decision : ZoneDecision)
    (runtime : Runtime) :
    Runtime.HeatsSince env.clock.now runtime (env.requestOn config decision runtime).1 := by
  rcases env.requestOn_cases config decision runtime with ⟨same, _⟩ | ⟨same, _⟩
  · rw [same]
    exact .refl _
  · rw [same]
    exact .modifyHeatingZone (fun _ => rfl) (fun _ => rfl)

theorem cancelOn_heatsSince (config : HeatingConfig) (decision : ZoneDecision)
    (runtime : Runtime) :
    Runtime.HeatsSince env.clock.now runtime (env.cancelOn config decision runtime).1 := by
  rcases env.cancelOn_cases config decision runtime with same | ⟨same, _⟩
  · rw [same]
    exact .refl _
  · rw [same]
    exact .modifyHeatingZone (fun _ => rfl) (fun _ => rfl)

theorem requested_heatsSince (config : HeatingConfig) (runtime : Runtime) :
    Runtime.HeatsSince env.clock.now runtime (env.requested config runtime) :=
  forEach_related Runtime.HeatsSince.refl (fun _ _ _ => Runtime.HeatsSince.trans)
    (fun decision _ runtime => requestOn_heatsSince config decision runtime)
    (env.seeded config runtime) |> (seeded_heatsSince config runtime).trans

theorem cancelled_heatsSince (config : HeatingConfig) (runtime : Runtime) :
    Runtime.HeatsSince env.clock.now runtime (env.cancelled config runtime) :=
  forEach_related Runtime.HeatsSince.refl (fun _ _ _ => Runtime.HeatsSince.trans)
    (fun decision _ runtime => cancelOn_heatsSince config decision runtime)
    (env.requested config runtime) |> (requested_heatsSince config runtime).trans

/-! ## Relays that stay on -/

/-- When more relays are on and not told off than there are zones to stop, one of them stays on and
is not told off. -/
theorem exists_survivor {start : Runtime} {stopping : List ZoneDecision}
    (alive : 0 < survivors start stopping.length) :
    ∃ name, start.relayOn name = true ∧ (start.world.heatingZoneAt name).wantsOff = false ∧
      name ∉ stopping.map (·.zone.name) := by
  by_contra none
  push Not at none
  have split := OrderedMap.countValues_and_add_not start.world.heatingZones
    HeatingZoneEntity.isRelayOn HeatingZoneEntity.wantsOff
  have covered : OrderedMap.countValues start.world.heatingZones (fun zone =>
      zone.isRelayOn && !zone.wantsOff) ≤ (stopping.map (·.zone.name)).length := by
    apply OrderedMap.countValues_le
    intro name zone stored kept
    rw [Bool.and_eq_true, Bool.not_eq_true'] at kept
    apply none name
    · exact (start.relayOn_eq_true_iff name).mpr ⟨zone, stored, kept.1⟩
    · rw [WorldState.heatingZoneAt, stored]
      exact kept.2
  rw [List.length_map] at covered
  unfold survivors Runtime.activeRelayCount at alive
  dsimp only at alive
  change OrderedMap.countValues start.world.heatingZones (fun zone =>
      zone.isRelayOn && zone.wantsOff) + OrderedMap.countValues start.world.heatingZones
        (fun zone => zone.isRelayOn && !zone.wantsOff) =
          OrderedMap.countValues start.world.heatingZones fun zone => zone.isRelayOn at split
  omega

theorem survivor_stays {start : Runtime} {stopping : List ZoneDecision} {name : String}
    (apart : name ∉ stopping.map (·.zone.name)) :
    (Emission.forEach (fun decision => env.commandRelay decision .off) stopping
      start).1.world.heatingZoneAt name = start.world.heatingZoneAt name := by
  refine forEach_keeps (fun runtime : Runtime => runtime.world.heatingZoneAt name)
    (fun decision member state => ?_) start
  rw [heatingZoneAt_commandRelay, if_neg]
  intro same
  exact apart (List.mem_map.mpr ⟨decision, member, same⟩)

/-! ## What the messages to the relays say -/

theorem on_ne_off {first second : DeviceIdx} :
    Effect.publishDeviceSet first .deviceOn ≠ .publishDeviceSet second .deviceOff :=
  fun same => Payload.deviceOn_ne_deviceOff (Effect.publishDeviceSet.inj same).2

theorem holdOpen_sends (trv : ZoneTrv) (runtime : Runtime) :
    ∀ effect ∈ (env.holdOpen trv runtime).2, ∃ idx,
      effect = .publishDeviceSet idx (.trvSetpoint maxSetpoint) := by
  intro effect sent
  unfold holdOpen at sent
  dsimp only at sent
  split at sent
  · cases sent
  · split at sent
    · cases sent
    · obtain ⟨idx, _, rfl⟩ := List.mem_map.mp sent
      exact ⟨idx, rfl⟩

theorem stopAll_sends (stopping : List ZoneDecision) (runtime : Runtime) :
    ∀ effect ∈
      (Emission.forEach (fun decision => env.commandRelay decision .off) stopping runtime).2,
      ∃ decision ∈ stopping, effect = .publishDeviceSet decision.relayIdx .deviceOff := by
  apply forEach_sends
  intro decision member state effect sent
  exact ⟨decision, member, List.mem_singleton.mp sent⟩

theorem requests_send (decisions : List ZoneDecision) (runtime : Runtime) :
    ∀ effect ∈ (Emission.forEach (env.requestOn config) decisions runtime).2,
      ∃ idx, effect = .publishDeviceSet idx .deviceOn := by
  apply forEach_sends
  intro decision _ state effect sent
  rcases env.requestOn_cases config decision state with ⟨same, _⟩ | ⟨same, _⟩
  · rw [same] at sent
    cases sent
  · rw [same] at sent
    exact ⟨_, List.mem_singleton.mp sent⟩

theorem cancels_send (decisions : List ZoneDecision) (runtime : Runtime) :
    ∀ effect ∈ (Emission.forEach (env.cancelOn config) decisions runtime).2,
      ∃ idx, effect = .publishDeviceSet idx .deviceOff := by
  apply forEach_sends
  intro decision _ state effect sent
  rcases env.cancelOn_cases config decision state with same | ⟨same, _⟩
  · rw [same] at sent
    cases sent
  · rw [same] at sent
    exact ⟨_, List.mem_singleton.mp sent⟩

theorem openings_send (trvs : List ZoneTrv) (runtime : Runtime) :
    ∀ effect ∈ (Emission.forEach env.holdOpen trvs runtime).2,
      ∃ idx, effect = .publishDeviceSet idx (.trvSetpoint maxSetpoint) := by
  apply forEach_sends
  intro trv _ state
  exact holdOpen_sends trv state

/-- A relay is told on by the evaluation when the pump runs, or stands for its minimum pause. -/
theorem evaluated_on {relayIdx : DeviceIdx}
    (sent : Effect.publishDeviceSet relayIdx .deviceOn ∈ (env.evaluateRelays config runtime).2) :
    runtime.isPumpRunning = true ∨ ∀ since, runtime.pumpOffSince = some since →
      config.minPause ≤ durationSince env.clock.now since := by
  rw [evaluateRelays_eq, andThen_snd, andThen_snd, List.mem_append, List.mem_append] at sent
  rcases sent with requested | cancelled | stopped
  · refine (@forEach_emits _ _ _ (fun state => Runtime.RelaysKept runtime state) (fun _ => _)
      (env.requestOn config) _ (fun decision _ state kept => ?_) _
      (seeded_quiets config runtime).relays).2 _ requested
    refine ⟨kept.trans (requestOn_quiets config decision state).relays, fun effect sent => ?_⟩
    rcases env.requestOn_cases config decision state with ⟨same, _⟩ | ⟨_, _, _, ready⟩
    · rw [same] at sent
      cases sent
    · rcases ready with runs | paused
      · exact .inl (kept.isPumpRunning.symm.trans runs)
      · right
        intro since stopped
        exact (Runtime.pauseElapsed_eq_true_iff.mp paused).1 since (kept.pumpOff.trans stopped)
  · obtain ⟨idx, same⟩ := cancels_send _ _ _ cancelled
    exact absurd same on_ne_off
  · have stops := env.stopRelays_stops config (env.decisions config runtime)
      (env.cancelled config runtime)
    change _ ∈ (env.stopRelays config (env.decisions config runtime)
      (env.cancelled config runtime)).2 at stopped
    generalize env.stopRelays config (env.decisions config runtime)
      (env.cancelled config runtime) = result at stops stopped
    cases stops with
    | idle none => cases stopped
    | waits pending => cases stopped
    | off may =>
        obtain ⟨_, _, same⟩ := stopAll_sends _ _ _ stopped
        exact absurd same on_ne_off
    | holds path =>
        obtain ⟨_, same⟩ := openings_send _ _ _ stopped
        cases same

/-- Every existing valve of a zone is held shut by an open window, and none is forced open. -/
def HeldShut (env : Env) (zone : HeatingZone) (world : WorldState) : Prop :=
  ∀ trv ∈ zone.trvs, ∀ entity, world.trvs[trv.device]? = some entity →
    entity.isForcedOpen = false ∧ entity.isInhibited env.clock.now = true

theorem heldShut_of_noFlowPath {stopping : List ZoneDecision} {world : WorldState}
    (shut : env.noFlowPath stopping world = true) {decision : ZoneDecision}
    (member : decision ∈ stopping) : env.HeldShut decision.zone world := by
  intro trv inside entity stored
  have none (holds : TrvEntity → Bool)
      (found : (stopping.any fun decision => decision.anyTrv world holds) = false) :
        holds entity = false := by
    have here := List.any_eq_false.mp found decision member
    rw [Bool.not_eq_true] at here
    have there := List.any_eq_false.mp here trv inside
    rw [stored, Option.any_some] at there
    simpa using there
  unfold noFlowPath at shut
  dsimp only at shut
  rw [Bool.and_eq_true, Bool.not_eq_true', Bool.not_eq_true'] at shut
  have forceable := none _ shut.1
  have closed := none _ shut.2
  rw [closed] at forceable
  exact ⟨closed, by simpa using forceable⟩

/-- Why a relay may be told off: the minimum cycle is over, no flow path is left, or another relay
stays on. -/
inductive MayStop (env : Env) (config : HeatingConfig) (runtime : Runtime) (zone : HeatingZone) :
    Prop
  | ended (ended : runtime.CycleOver config env.clock.now)
  | shut (shut : env.HeldShut zone runtime.world)
  | survives {name : String} (on : runtime.relayOn name = true)
      (kept : ((env.evaluateRelays config runtime).1.world.heatingZoneAt name).wantsOff = false)

/-- An unanswered request is cancelled once the minimum cycle is over. -/
theorem cancels_off {effect : Effect} (sent : effect ∈ (Emission.forEach (env.cancelOn config)
    (env.decisions config runtime) (env.requested config runtime)).2) :
    ∃ decision ∈ env.decisions config runtime,
      effect = .publishDeviceSet decision.relayIdx .deviceOff ∧
        env.MayStop config runtime decision.zone := by
  refine (@forEach_emits _ _ _ (fun state => Runtime.HeatsSince env.clock.now runtime state)
    (fun effect => ∃ decision ∈ env.decisions config runtime,
      effect = .publishDeviceSet decision.relayIdx .deviceOff ∧
        env.MayStop config runtime decision.zone)
    (env.cancelOn config) _ (fun decision member state since => ?_) _
    (requested_heatsSince config runtime)).2 _ sent
  refine ⟨since.trans (cancelOn_heatsSince config decision state), fun effect sent => ?_⟩
  rcases env.cancelOn_cases config decision state with same | ⟨same, _, _, _, elapsed⟩
  · rw [same] at sent
    cases sent
  · rw [same] at sent
    exact ⟨decision, member, List.mem_singleton.mp sent,
      .ended (since.cycleOver (Runtime.cycleOver_of_elapsed elapsed))⟩

/-- The zones without demand are told off where they may stop. -/
theorem stops_off {relayIdx : DeviceIdx} (sent : Effect.publishDeviceSet relayIdx .deviceOff ∈
    (env.stopRelays config (env.decisions config runtime) (env.cancelled config runtime)).2) :
    ∃ decision ∈ env.decisions config runtime, decision.relayIdx = relayIdx ∧
      env.MayStop config runtime decision.zone := by
  have stopped : (env.evaluateRelays config runtime).1 =
      (env.stopRelays config (env.decisions config runtime) (env.cancelled config runtime)).1 := rfl
  have since := @cancelled_heatsSince env config runtime
  have cases' := env.stopRelays_stops config (env.decisions config runtime)
    (env.cancelled config runtime)
  generalize env.stopRelays config (env.decisions config runtime)
    (env.cancelled config runtime) = result at stopped sent cases'
  cases cases' with
  | idle none => cases sent
  | waits pending => cases sent
  | holds path =>
      obtain ⟨_, same⟩ := openings_send _ _ _ sent
      cases same
  | off may =>
      obtain ⟨decision, member, same⟩ := stopAll_sends _ _ _ sent
      refine ⟨decision, (List.mem_filter.mp member).1,
        (Effect.publishDeviceSet.inj same).1.symm, ?_⟩
      rcases may with alive | elapsed | shut
      · obtain ⟨name, on, kept, apart⟩ := exists_survivor alive
        refine .survives ((since.relays.relayOn name).symm.trans on) ?_
        rw [stopped, survivor_stays apart]
        exact kept
      · exact .ended (since.cycleOver (Runtime.cycleOver_of_elapsed elapsed))
      · have held := heldShut_of_noFlowPath shut member
        unfold HeldShut at held
        rw [env.cancelled_trvs config runtime] at held
        exact .shut held

/-- A relay is told off by the evaluation only where it may stop. -/
theorem evaluated_off (valid : config.Valid) {relayIdx : DeviceIdx}
    (sent : Effect.publishDeviceSet relayIdx .deviceOff ∈ (env.evaluateRelays config runtime).2) :
    ∃ zone ∈ config.zones, env.topology.deviceIdx zone.relay = some relayIdx ∧
      env.MayStop config runtime zone := by
  have told : ∃ decision ∈ env.decisions config runtime, decision.relayIdx = relayIdx ∧
      env.MayStop config runtime decision.zone := by
    rw [evaluateRelays_eq, andThen_snd, andThen_snd, List.mem_append, List.mem_append] at sent
    rcases sent with requests | cancels | stops
    · obtain ⟨idx, same⟩ := requests_send _ _ _ requests
      exact absurd same.symm on_ne_off
    · obtain ⟨decision, member, same, may⟩ := cancels_off cancels
      exact ⟨decision, member, (Effect.publishDeviceSet.inj same).1.symm, may⟩
    · exact stops_off stops
  obtain ⟨decision, member, rfl, may⟩ := told
  have decided := (mem_decisions_iff valid).mp member
  exact ⟨decision.zone, decided.listed, decided.relay, may⟩

/-- The reconciliation repeats what a zone was told before the tick. -/
theorem reconciled_repeats (valid : config.Valid) {relayIdx : DeviceIdx} {payload : Payload}
    (sent : Effect.publishDeviceSet relayIdx payload ∈
      (env.reconcileRelays config (env.evaluateRelays config runtime).1).2) :
    ∃ zone ∈ config.zones, env.topology.deviceIdx zone.relay = some relayIdx ∧
      ∃ value, (runtime.world.heatingZoneAt zone.name).target.value = some value ∧
        payload = value.payload := by
  obtain ⟨zone, listed, sent⟩ := List.mem_flatMap.mp sent
  unfold reconcileRelay at sent
  have here : ∀ entity, (env.evaluateRelays config runtime).1.world.heatingZones[zone.name]? =
      some entity → (env.evaluateRelays config runtime).1.world.heatingZoneAt zone.name =
        entity := by
    intro entity stored
    rw [WorldState.heatingZoneAt, stored]
    rfl
  have counted := evaluateRelays_generation env config runtime
  have cases' := @evaluated_cases env config valid runtime zone.name
  split at sent
  · cases sent
  · rename_i entity stored
    rw [here entity stored] at cases'
    split at sent
    · cases sent
    · rename_i desired told
      split at sent
      · cases sent
      · rename_i retries
        rw [Bool.or_eq_true, not_or, beq_iff_eq, counted] at retries
        obtain ⟨idx, known, same⟩ := List.mem_map.mp sent
        cases same
        refine ⟨zone, listed, Option.mem_toList.mp known, desired, ?_, rfl⟩
        rcases cases' with same | ⟨decision, decided, named, kept | ⟨_, _, fresh⟩⟩
        · rw [← same]
          exact told
        · rw [← named] at kept ⊢
          rw [heatingZoneAt_seeded valid decided.listed decided.known decided.relay] at kept
          split at kept
          · rw [← kept]
            exact told
          · rw [kept] at retries
            exact absurd rfl retries.1
        · rw [fresh] at retries
          exact absurd rfl retries.1

end Env

/-- An ON command that a heating tick publishes while the pump stands repeats an earlier command, or
comes at least the minimum pause after every stop of the pump. -/
theorem Run.pause_kept {history past later : List Record} {daemon : Daemon} {record : Record}
    (run : Run history daemon) (split : history = past ++ record :: later)
    {config : HeatingConfig} (controls : record.operation = .controlRelays config)
    (stands : record.before.isPumpRunning = false) {relayIdx : DeviceIdx}
    (sent : Effect.publishDeviceSet relayIdx .deviceOn ∈ record.effects) :
    (∃ zone ∈ config.zones, record.env.topology.deviceIdx zone.relay = some relayIdx ∧
      (record.before.world.heatingZoneAt zone.name).target.value = some .heating) ∨
    ∀ stop ∈ past, stop.StopsPump →
      config.minPause ≤ durationSince record.env.clock.now stop.env.clock.now := by
  obtain ⟨admissible, _, counted⟩ := run.each_record Runtime.stopsCounted_kept split
  have heating : record.env.topology.heatingConfig = some config := by
    rw [controls] at admissible
    exact admissible
  have valid := record.env.topology.valid.heating_valid config heating
  have effects : record.effects = (record.env.evaluateRelays config record.before).2 ++
      (record.env.reconcileRelays config
        (record.env.evaluateRelays config record.before).1).2 := by
    unfold Record.effects
    rw [controls]
    rfl
  rw [effects, List.mem_append] at sent
  rcases sent with requested | repeated
  · right
    intro stop member stops
    obtain ⟨since, stopped, bound⟩ := counted stands stop member stops
    rcases Env.evaluated_on requested with runs | paused
    · rw [stands] at runs
      cases runs
    · exact Runtime.le_durationSince_of_le bound (paused since stopped)
  · left
    obtain ⟨zone, listed, found, value, told, same⟩ := Env.reconciled_repeats valid repeated
    refine ⟨zone, listed, found, ?_⟩
    cases value with
    | heating => exact told
    | off => exact absurd same Payload.deviceOn_ne_deviceOff

/-- Both valves upstairs ask for heat, then for none, then for heat again. -/
def House.heatedTwice : List (Nat × Input) :=
  [relay "relay-up" false 0, (0, .start), tick 1,
    valve "valve-up" (some 80) (some 21) 2, valve "valve-down" (some 80) (some 21) 2, tick 310,
    relay "relay-up" true 311,
    valve "valve-up" (some 0) (some 21) 400, valve "valve-down" (some 0) (some 21) 400, tick 1000,
    relay "relay-up" false 1001,
    valve "valve-up" (some 80) (some 21) 1002, valve "valve-down" (some 80) (some 21) 1002,
    tick 1302]

/-- The relay upstairs is told on again after the pause. -/
theorem Run.pause_kept_upstairs : ∃ (history past later : List Record) (daemon : Daemon)
    (record stop : Record) (config : HeatingConfig), Run history daemon ∧
      history = past ++ record :: later ∧ record.operation = .controlRelays config ∧
        Effect.publishDeviceSet 6 .deviceOn ∈ record.effects ∧ stop ∈ past ∧ stop.StopsPump ∧
          config.minPause ≤ durationSince record.env.clock.now stop.env.clock.now := by
  obtain ⟨daemon, history, run, _, facts⟩ := House.played_paired House.heatedTwice
    (by simp [House.heatedTwice, House.relay, House.valve, House.tick])
    (fun reached : Daemon × List Record =>
      (reached.2[35]?).any (fun record : Record =>
        House.controlsUp record && !record.before.isPumpRunning &&
          decide (Effect.publishDeviceSet 6 .deviceOn ∈ record.effects) &&
            decide ((record.before.world.heatingZoneAt "upstairs").target.value = some .off)) &&
        ((reached.2.take 35)[27]?).any fun stop : Record =>
          stop.before.isPumpRunning && !stop.after.isPumpRunning)
    true (by decide +kernel)
  rw [Bool.and_eq_true] at facts
  obtain ⟨record, found, facts'⟩ := (Option.any_eq_true _ _).mp facts.1
  obtain ⟨stop, earlier, stops⟩ := (Option.any_eq_true _ _).mp facts.2
  simp only [Bool.and_eq_true, Bool.not_eq_true', decide_eq_true_eq] at facts' stops
  obtain ⟨⟨⟨controls, stands⟩, sent⟩, told⟩ := facts'
  obtain ⟨config, controls, zones⟩ := House.controls_of_controlsUp controls
  have member := List.mem_of_getElem? earlier
  refine ⟨history, _, _, daemon, record, stop, config, run, split_at found, controls, sent, member,
    ⟨stops.1, stops.2⟩, ?_⟩
  rcases Run.pause_kept run (split_at found) controls stands sent with
    ⟨zone, listed, _, heating⟩ | paused
  · rw [zones, List.mem_singleton] at listed
    rw [listed] at heating
    exact absurd (told.symm.trans heating) (by decide)
  · exact paused stop member ⟨stops.1, stops.2⟩

/-- An OFF command that leaves no relay on without being told off repeats an earlier command, or
comes at least the minimum cycle after the pump started or a zone was told to heat, or goes to a
zone whose valves are all held shut. -/
theorem Run.cycle_kept {history past later : List Record} {daemon : Daemon} {record : Record}
    (run : Run history daemon) (split : history = past ++ record :: later)
    {config : HeatingConfig} (controls : record.operation = .controlRelays config)
    (runs : record.before.isPumpRunning = true) {relayIdx : DeviceIdx}
    (sent : Effect.publishDeviceSet relayIdx .deviceOff ∈ record.effects)
    (stops : ∀ name, record.after.relayOn name = true →
      (record.after.world.heatingZoneAt name).wantsOff = true) :
    ∃ zone ∈ config.zones, record.env.topology.deviceIdx zone.relay = some relayIdx ∧
      ((record.before.world.heatingZoneAt zone.name).target.value = some .off ∨
        (∃ start, lastPicked Record.pumpStart past = some start ∧
          config.minCycle ≤ durationSince record.env.clock.now start) ∨
        (∃ name since, (record.before.world.heatingZoneAt name).wantsHeat = true ∧
          (record.before.world.heatingZoneAt name).target.since = some since ∧
            config.minCycle ≤ durationSince record.env.clock.now since) ∨
        record.env.HeldShut zone record.before.world) := by
  obtain ⟨admissible, _, follows, _⟩ := run.each_record Runtime.pump_kept split
  have heating : record.env.topology.heatingConfig = some config := by
    rw [controls] at admissible
    exact admissible
  have valid := record.env.topology.valid.heating_valid config heating
  have effects : record.effects = (record.env.evaluateRelays config record.before).2 ++
      (record.env.reconcileRelays config
        (record.env.evaluateRelays config record.before).1).2 := by
    unfold Record.effects
    rw [controls]
    rfl
  have after : record.after = (record.env.evaluateRelays config record.before).1 := by
    unfold Record.after
    rw [controls]
    rfl
  obtain ⟨start, picked, started⟩ := follows.started runs
  rw [effects, List.mem_append] at sent
  rcases sent with told | repeated
  · obtain ⟨zone, listed, found, may⟩ := Env.evaluated_off valid told
    refine ⟨zone, listed, found, .inr ?_⟩
    cases may with
    | ended ended =>
        rcases ended with observed | ⟨name, since, heats, told, enough⟩
        · exact .inl ⟨start, picked, observed start started⟩
        · exact .inr (.inl ⟨name, since, heats, told, enough⟩)
    | shut shut => exact .inr (.inr shut)
    | survives on kept =>
        rename_i name
        have relays : Runtime.RelaysKept record.before record.after := by
          rw [after]
          exact Env.controlRelays_relays config record.before
        have off := stops name ((relays.relayOn name).trans on)
        rw [after, kept] at off
        cases off
  · obtain ⟨zone, listed, found, value, told, same⟩ := Env.reconciled_repeats valid repeated
    refine ⟨zone, listed, found, .inl ?_⟩
    cases value with
    | heating => exact absurd same.symm Payload.deviceOn_ne_deviceOff
    | off => exact told

/-- The relay upstairs is told off after the minimum cycle. -/
theorem Run.cycle_kept_upstairs : ∃ (history past later : List Record) (daemon : Daemon)
    (record : Record) (config : HeatingConfig), Run history daemon ∧
      history = past ++ record :: later ∧ record.operation = .controlRelays config ∧
        Effect.publishDeviceSet 6 .deviceOff ∈ record.effects ∧
          ((∃ start, lastPicked Record.pumpStart past = some start ∧
              config.minCycle ≤ durationSince record.env.clock.now start) ∨
            (∃ name since, (record.before.world.heatingZoneAt name).wantsHeat = true ∧
              (record.before.world.heatingZoneAt name).target.since = some since ∧
                config.minCycle ≤ durationSince record.env.clock.now since) ∨
            record.env.HeldShut House.upstairs record.before.world) := by
  obtain ⟨daemon, history, run, _, facts⟩ := House.played_paired House.heatedTwice
    (by simp [House.heatedTwice, House.relay, House.valve, House.tick])
    (fun reached : Daemon × List Record => (reached.2[26]?).any fun record : Record =>
      House.controlsUp record && record.before.isPumpRunning &&
        decide (Effect.publishDeviceSet 6 .deviceOff ∈ record.effects) &&
          decide ((record.before.world.heatingZoneAt "upstairs").target.value = some .heating) &&
            !OrderedMap.anyValue record.after.world.heatingZones fun zone =>
              zone.isRelayOn && !zone.wantsOff)
    true (by decide +kernel)
  obtain ⟨record, found, facts⟩ := (Option.any_eq_true _ _).mp facts
  simp only [Bool.and_eq_true, Bool.not_eq_true', decide_eq_true_eq] at facts
  obtain ⟨⟨⟨⟨controls, runs⟩, sent⟩, told⟩, stops⟩ := facts
  obtain ⟨config, controls, zones⟩ := House.controls_of_controlsUp controls
  have off : ∀ name, record.after.relayOn name = true →
      (record.after.world.heatingZoneAt name).wantsOff = true := by
    intro name on
    obtain ⟨zone, stored, lit⟩ := (record.after.relayOn_eq_true_iff name).mp on
    by_contra kept
    rw [← Bool.not_eq_true, OrderedMap.anyValue_eq_true_iff] at stops
    rw [WorldState.heatingZoneAt, stored, Option.getD_some, Bool.not_eq_true] at kept
    exact stops ⟨name, zone, stored, by rw [lit, kept]; rfl⟩
  obtain ⟨zone, listed, _, why⟩ := Run.cycle_kept run (split_at found) controls runs sent off
  rw [zones, List.mem_singleton] at listed
  subst listed
  refine ⟨history, _, _, daemon, record, config, run, split_at found, controls, sent, ?_⟩
  rcases why with repeated | why
  · exact absurd (told.symm.trans repeated) (by decide)
  · exact why

end MqttController
