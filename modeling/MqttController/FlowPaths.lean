import MqttController.HeatDemand

/-!
# Flow paths of the running pump

When a zone runs on without demand to complete the pump's minimum cycle, its valves are held open,
unless another zone is about to turn on.
-/

namespace MqttController

open Std Emission

/-- The relay of a zone is off, and its ON command awaits the report. -/
def WorldState.AwaitsOn (world : WorldState) (zone : HeatingZone) : Prop :=
  (world.heatingZoneAt zone.name).isRelayOn = false ∧
    (world.heatingZoneAt zone.name).onPending = true

/-- A valve of a zone is forced open. -/
def WorldState.HasOpenValve (world : WorldState) (zone : HeatingZone) : Prop :=
  ∃ trv ∈ zone.trvs, ∃ entity, world.trvs[trv.device]? = some entity ∧ entity.isForcedOpen = true

namespace Env

variable {env : Env} {config : HeatingConfig}

/-! ## Valves that are held open -/

section Hold

variable (env) (trvs : List ZoneTrv) (runtime : Runtime) (device : String)

theorem holdOpen_valve (trv : ZoneTrv) :
    (env.holdOpen trv runtime).1.world.trvs[device]? = runtime.world.trvs[device]? ∨
      trv.device = device ∧
        ∃ entity, (env.holdOpen trv runtime).1.world.trvs[device]? = some entity ∧
          entity.isForcedOpen = true := by
  unfold holdOpen
  dsimp only
  split
  · exact .inl rfl
  · rename_i entity stored
    split
    · exact .inl rfl
    · by_cases same : trv.device = device
      · subst same
        refine .inr ⟨rfl, _, OrderedMap.getElem?_upsert_self _ _ _ _, rfl⟩
      · exact .inl (OrderedMap.getElem?_upsert_of_ne _ _ _ same)

/-- Valves that are held open are forced open, and other valves are left alone. -/
theorem holdOpens_valve :
    (Emission.forEach env.holdOpen trvs runtime).1.world.trvs[device]? =
        runtime.world.trvs[device]? ∨
      device ∈ trvs.map (·.device) ∧
        ∃ entity, (Emission.forEach env.holdOpen trvs runtime).1.world.trvs[device]? = some entity ∧
          entity.isForcedOpen = true := by
  induction trvs generalizing runtime with
  | nil => exact .inl rfl
  | cons trv rest ih =>
      rw [forEach_cons, andThen_fst, List.map_cons, List.mem_cons]
      rcases ih (env.holdOpen trv runtime).1 with same | ⟨member, forced⟩
      · rw [same]
        rcases env.holdOpen_valve runtime device trv with same' | ⟨here, forced⟩
        · exact .inl same'
        · exact .inr ⟨.inl here.symm, forced⟩
      · exact .inr ⟨.inr member, forced⟩

/-- A valve that is held open and not held shut is forced open. -/
theorem holdOpens_forced : ∀ trv ∈ trvs, ∀ entity,
    (Emission.forEach env.holdOpen trvs runtime).1.world.trvs[trv.device]? = some entity →
      entity.isInhibited env.clock.now = false → entity.isForcedOpen = true := by
  rw [forEach_fst]
  refine foldl_establishes (fun _ => True) (fun (trv : ZoneTrv) (runtime : Runtime) =>
    ∀ entity, runtime.world.trvs[trv.device]? = some entity →
      entity.isInhibited env.clock.now = false → entity.isForcedOpen = true)
    (fun _ _ _ => id) (fun runtime trv _ _ => ?_) (fun runtime trv _ other _ _ held => ?_) trivial
  · intro entity stored free
    unfold holdOpen at stored
    dsimp only at stored
    split at stored
    · rename_i absent
      rw [absent] at stored
      cases stored
    · rename_i found here
      split at stored
      · rename_i apart
        rw [here] at stored
        cases stored
        rw [Bool.or_eq_true_iff, free] at apart
        simpa using apart
      · have same := stored.symm.trans (OrderedMap.getElem?_upsert_self _ _ _ _)
        cases same
        rfl
  · intro entity stored free
    rcases env.holdOpen_valve runtime other.device trv with same | ⟨_, forced, found, open'⟩
    · rw [same] at stored
      exact held entity stored free
    · rw [found] at stored
      cases stored
      exact open'

end Hold

/-! ## Demand -/

theorem zoneHasDemand_eq_true_iff {zone : HeatingZone} {world : WorldState} :
    env.zoneHasDemand zone world = true ↔ ∃ trv ∈ zone.trvs,
      env.effectiveHeatDemandEnabled trv.device = true ∧
        ∃ entity, world.trvs[trv.device]? = some entity ∧
          entity.hasEffectiveDemand env.clock.now env.minDemand.1 env.minDemand.2 = true := by
  unfold zoneHasDemand
  simp only [List.any_eq_true, Bool.and_eq_true, Option.any_eq_true]

theorem cancelled_trvs (config : HeatingConfig) (runtime : Runtime) :
    (env.cancelled config runtime).world.trvs = runtime.world.trvs := by
  have seeds : (env.seeded config runtime).world.trvs = runtime.world.trvs :=
    foldl_frame (fun runtime : Runtime => runtime.world.trvs) env.seedTarget
        (fun runtime decision => by
      unfold seedTarget
      split
      · rfl
      · rfl) _ runtime
  have requests : (env.requested config runtime).world.trvs = _ :=
    forEach_keeps (fun runtime : Runtime => runtime.world.trvs) (fun decision _ runtime => by
      rcases env.requestOn_cases config decision runtime with ⟨same, _⟩ | ⟨same, _⟩
      · rw [same]
      · rw [same]
        rfl) (env.seeded config runtime)
  have cancels : (env.cancelled config runtime).world.trvs = _ :=
    forEach_keeps (fun runtime : Runtime => runtime.world.trvs) (fun decision _ runtime => by
      rcases env.cancelOn_cases config decision runtime with same | ⟨same, _⟩
      · rw [same]
      · rw [same]
        rfl) (env.requested config runtime)
  exact cancels.trans (requests.trans seeds)

/-- The evaluation leaves a valve alone, or forces a valve of a zone that is to stop open. -/
theorem evaluated_valve (config : HeatingConfig) (runtime : Runtime) (device : String) :
    (env.evaluateRelays config runtime).1.world.trvs[device]? = runtime.world.trvs[device]? ∨
      (∃ decision ∈ env.decisions config runtime, decision.wantsStop = true ∧
        device ∈ decision.zone.trvs.map (·.device)) ∧
        ∃ entity, (env.evaluateRelays config runtime).1.world.trvs[device]? = some entity ∧
          entity.isForcedOpen = true := by
  rw [← env.cancelled_trvs config runtime]
  change (env.stopRelays config (env.decisions config runtime)
    (env.cancelled config runtime)).1.world.trvs[device]? = _ ∨ _ ∧ ∃ entity,
      (env.stopRelays config (env.decisions config runtime)
        (env.cancelled config runtime)).1.world.trvs[device]? = some entity ∧ _
  have stops := env.stopRelays_stops config (env.decisions config runtime)
    (env.cancelled config runtime)
  generalize env.stopRelays config (env.decisions config runtime) (env.cancelled config runtime) =
    result at stops ⊢
  cases stops with
  | idle none => exact .inl rfl
  | waits pending => exact .inl rfl
  | off may =>
      refine .inl (congrArg (fun trvs : NameMap TrvEntity => trvs[device]?) ?_)
      exact forEach_keeps (fun runtime : Runtime => runtime.world.trvs) (fun _ _ _ => rfl)
        (env.cancelled config runtime)
  | holds path =>
      rcases env.holdOpens_valve _ (env.cancelled config runtime) device with
        same | ⟨member, forced⟩
      · exact .inl same
      · refine .inr ⟨?_, forced⟩
        obtain ⟨trv, inside, rfl⟩ := List.mem_map.mp member
        obtain ⟨decision, stopping, inside⟩ := List.mem_flatMap.mp inside
        obtain ⟨listed, wants⟩ := List.mem_filter.mp stopping
        exact ⟨decision, listed, wants, List.mem_map.mpr ⟨trv, inside, rfl⟩⟩

/-- A valve that is forced open has no demand of its own. -/
theorem not_effective_of_forced {entity : TrvEntity} (forced : entity.isForcedOpen = true)
    (now : Instant) (minDemand fallback : Nat) :
    entity.hasEffectiveDemand now minDemand fallback = false := by
  simp [TrvEntity.hasEffectiveDemand, forced]

/-- The evaluation does not change which zones have demand. -/
theorem zoneHasDemand_evaluated (valid : config.Valid) {runtime : Runtime} {zone : HeatingZone}
    (listed : zone ∈ config.zones) :
    env.zoneHasDemand zone (env.evaluateRelays config runtime).1.world =
      env.zoneHasDemand zone runtime.world := by
  rw [Bool.eq_iff_iff, zoneHasDemand_eq_true_iff, zoneHasDemand_eq_true_iff]
  constructor
  · rintro ⟨trv, member, enabled, entity, stored, demand⟩
    rcases env.evaluated_valve config runtime trv.device with same | ⟨_, forced, found, open'⟩
    · exact ⟨trv, member, enabled, entity, same.symm.trans stored, demand⟩
    · rw [found] at stored
      cases stored
      rw [not_effective_of_forced open'] at demand
      cases demand
  · rintro ⟨trv, member, enabled, entity, stored, demand⟩
    rcases env.evaluated_valve config runtime trv.device with same |
      ⟨⟨decision, decided, wants, here⟩, _⟩
    · exact ⟨trv, member, enabled, entity, same.trans stored, demand⟩
    · -- The zone that is to stop is this one, and it has demand.
      have decided := (mem_decisions_iff valid).mp decided
      have home := HeatingConfig.zone_of_trv_unique valid decided.listed listed here
        (List.mem_map.mpr ⟨trv, member, rfl⟩)
      have asks : decision.hasDemand = true := by
        rw [decided.demand, home]
        exact zoneHasDemand_eq_true_iff.mpr ⟨trv, member, enabled, entity, stored, demand⟩
      rw [ZoneDecision.wantsStop, asks] at wants
      cases wants

/-! ## Zones that run on -/

/-- The zone runs on without demand: its relay is on, and it is not told off. -/
structure RunsOn (env : Env) (zone : HeatingZone) (world : WorldState) : Prop where
  idle : env.zoneHasDemand zone world = false
  on : (world.heatingZoneAt zone.name).isRelayOn = true
  kept : (world.heatingZoneAt zone.name).target.value ≠ some .off

/-- A flow path is a valve that is open or can be opened. -/
theorem exists_path {stopping : List ZoneDecision} {world : WorldState}
    (path : env.noFlowPath stopping world = false) :
    ∃ decision ∈ stopping, ∃ trv ∈ decision.zone.trvs, ∃ entity,
      world.trvs[trv.device]? = some entity ∧
        (entity.isForcedOpen = true ∨ entity.isInhibited env.clock.now = false) := by
  have unpack (holds : TrvEntity → Bool) (found : (stopping.any fun decision =>
      decision.anyTrv world holds) = true) : ∃ decision ∈ stopping, ∃ trv ∈ decision.zone.trvs,
        ∃ entity, world.trvs[trv.device]? = some entity ∧ holds entity = true := by
    obtain ⟨decision, member, found⟩ := List.any_eq_true.mp found
    obtain ⟨trv, inside, found⟩ := List.any_eq_true.mp found
    obtain ⟨entity, stored, good⟩ := (Option.any_eq_true _ _).mp found
    exact ⟨decision, member, trv, inside, entity, stored, good⟩
  unfold noFlowPath at path
  dsimp only at path
  rw [Bool.and_eq_false_iff, Bool.not_eq_false', Bool.not_eq_false'] at path
  rcases path with forceable | open'
  · obtain ⟨decision, member, trv, inside, entity, stored, good⟩ := unpack _ forceable
    rw [Bool.and_eq_true, Bool.not_eq_true', Bool.not_eq_true'] at good
    exact ⟨decision, member, trv, inside, entity, stored, .inr good.2⟩
  · obtain ⟨decision, member, trv, inside, entity, stored, good⟩ := unpack _ open'
    exact ⟨decision, member, trv, inside, entity, stored, .inl good⟩

section Zone

variable {runtime : Runtime} {zone : HeatingZone} (valid : config.Valid)
  (heating : env.topology.heatingConfig = some config) (listed : zone ∈ config.zones)

include valid

/-- A zone that is to stop and is not told off runs on. -/
theorem runsOn_of_wantsStop {decision : ZoneDecision}
    (decided : env.Decided config runtime decision) (wants : decision.wantsStop = true)
    (same : (env.evaluateRelays config runtime).1.world.heatingZoneAt decision.zone.name =
      (env.cancelled config runtime).world.heatingZoneAt decision.zone.name) :
    env.RunsOn decision.zone (env.evaluateRelays config runtime).1.world := by
  simp only [ZoneDecision.wantsStop, Bool.and_eq_true, Bool.not_eq_true', bne_iff_ne, ne_eq]
    at wants
  obtain ⟨⟨idle, kept⟩, on⟩ := wants
  have relays : Runtime.RelaysKept runtime (env.evaluateRelays config runtime).1 :=
    controlRelays_relays config runtime
  refine ⟨?_, ?_, ?_⟩
  · rw [zoneHasDemand_evaluated valid decided.listed, ← decided.demand, idle]
  · have lit := (relays.relayOn decision.zone.name).trans (decided.relayOn.symm.trans on)
    exact lit
  · rw [same]
    rcases cancelled_cases valid decided with same' | ⟨_, off, _⟩
    · rcases requested_cases valid decided with ⟨same'', _⟩ | ⟨asks, _⟩
      · rw [same', same'', ← decided.target_seeded valid]
        exact kept
      · rw [idle] at asks
        cases asks
    · rw [on] at off
      cases off

include heating listed

/-- The decision about a zone that runs on is to stop. -/
theorem RunsOn.wantsStop (orderly : (runtime.world.heatingZoneAt zone.name).Orderly)
    (runsOn : env.RunsOn zone (env.evaluateRelays config runtime).1.world) :
    ∃ decision, env.Decided config runtime decision ∧ decision.zone = zone ∧
      decision.wantsStop = true ∧
        (env.evaluateRelays config runtime).1.world.heatingZoneAt zone.name =
          (env.cancelled config runtime).world.heatingZoneAt zone.name := by
  obtain ⟨idle, on, kept⟩ := runsOn
  have relays : Runtime.RelaysKept runtime (env.evaluateRelays config runtime).1 :=
    controlRelays_relays config runtime
  have lit : runtime.relayOn zone.name = true := (relays.relayOn zone.name).symm.trans on
  obtain ⟨relayIdx, found⟩ := Option.isSome_iff_exists.mp
    (env.topology.valid.heating_devices config heating zone listed).1
  obtain ⟨decision, decided, rfl, rfl⟩ := env.exists_decided listed (orderly.on lit) found
  have quiet : decision.hasDemand = false := by
    rw [decided.demand, ← zoneHasDemand_evaluated valid decided.listed]
    exact idle
  rcases stopped_cases valid decided with same | ⟨_, told⟩
  · refine ⟨decision, decided, rfl, ?_, same⟩
    simp only [ZoneDecision.wantsStop, Bool.and_eq_true, Bool.not_eq_true', bne_iff_ne]
    refine ⟨⟨quiet, fun off => kept ?_⟩, decided.relayOn.trans lit⟩
    rw [same]
    rcases cancelled_cases valid decided with same' | ⟨_, _, _, told⟩
    · rcases requested_cases valid decided with ⟨same'', _⟩ | ⟨asks, _⟩
      · rw [same', same'', ← decided.target_seeded valid]
        exact off
      · rw [quiet] at asks
        cases asks
    · rw [told]
      rfl
  · rw [told] at kept
    exact absurd rfl kept

/-- A zone runs on either while another zone is about to turn on, or with its valves held open. -/
theorem RunsOn.flow (orderly : (runtime.world.heatingZoneAt zone.name).Orderly)
    (runsOn : env.RunsOn zone (env.evaluateRelays config runtime).1.world) :
    (∃ other ∈ config.zones, (env.evaluateRelays config runtime).1.world.AwaitsOn other) ∨
      (∃ other ∈ config.zones, env.RunsOn other (env.evaluateRelays config runtime).1.world ∧
        (env.evaluateRelays config runtime).1.world.HasOpenValve other) ∧
        ∀ trv ∈ zone.trvs, ∀ entity,
          (env.evaluateRelays config runtime).1.world.trvs[trv.device]? = some entity →
            entity.isInhibited env.clock.now = false → entity.isForcedOpen = true := by
  obtain ⟨decision, decided, rfl, wants, same⟩ := runsOn.wantsStop valid heating listed orderly
  have member := (mem_decisions_iff valid).mpr decided
  have relays : Runtime.RelaysKept runtime (env.evaluateRelays config runtime).1 :=
    controlRelays_relays config runtime
  have stopping : ∀ other ∈ env.decisions config runtime, other.wantsStop = true →
      (env.evaluateRelays config runtime).1.world.heatingZones =
          (env.cancelled config runtime).world.heatingZones →
        env.RunsOn other.zone (env.evaluateRelays config runtime).1.world := by
    intro other inside wants zones
    refine runsOn_of_wantsStop valid ((mem_decisions_iff valid).mp inside) wants ?_
    unfold WorldState.heatingZoneAt
    rw [zones]
  have stops := env.stopRelays_stops config (env.decisions config runtime)
    (env.cancelled config runtime)
  have result : (env.evaluateRelays config runtime).1 =
    (env.stopRelays config (env.decisions config runtime) (env.cancelled config runtime)).1 := rfl
  generalize env.stopRelays config (env.decisions config runtime) (env.cancelled config runtime) =
    left at stops result
  cases stops with
  | idle none =>
      rw [none decision member] at wants
      cases wants
  | off may =>
      have kept := runsOn.kept
      rw [result, heatingZoneAt_stopAll valid decided, if_pos wants] at kept
      exact absurd rfl kept
  | waits pending =>
      obtain ⟨other, inside, awaits⟩ := List.any_eq_true.mp pending
      rw [Bool.and_eq_true, Bool.not_eq_true'] at awaits
      obtain ⟨entity, stored, pending⟩ := (Option.any_eq_true _ _).mp awaits.2
      have about := (mem_decisions_iff valid).mp inside
      refine .inl ⟨other.zone, about.listed, ?_, ?_⟩
      · exact (relays.relayOn other.zone.name).trans (about.relayOn.symm.trans awaits.1)
      · rw [result, WorldState.heatingZoneAt, stored]
        exact pending
  | holds path =>
      have zones : (env.evaluateRelays config runtime).1.world.heatingZones =
          (env.cancelled config runtime).world.heatingZones := by
        rw [result]
        exact holdOpens_zones _ _
      have forced := env.holdOpens_forced (((env.decisions config runtime).filter
        (·.wantsStop)).flatMap (·.zone.trvs)) (env.cancelled config runtime)
      have listedIn : ∀ other ∈ env.decisions config runtime, other.wantsStop = true →
          ∀ trv ∈ other.zone.trvs, trv ∈ ((env.decisions config runtime).filter
            (·.wantsStop)).flatMap (·.zone.trvs) :=
        fun other inside wants trv here =>
          List.mem_flatMap.mpr ⟨other, List.mem_filter.mpr ⟨inside, wants⟩, here⟩
      refine .inr ⟨?_, fun trv here => ?_⟩
      · -- Some valve is forced open, or can be and was.
        obtain ⟨other, stop, trv, here, entity, stored, fit⟩ := exists_path path
        obtain ⟨inside, wants⟩ := List.mem_filter.mp stop
        refine ⟨other.zone, ((mem_decisions_iff valid).mp inside).listed,
          stopping other inside wants zones, trv, here, ?_⟩
        rw [result]
        rcases env.holdOpens_valve _ (env.cancelled config runtime) trv.device with
          unchanged | ⟨_, open'⟩
        · have kept := unchanged.trans stored
          refine ⟨entity, kept, ?_⟩
          rcases fit with open' | free
          · exact open'
          · exact forced trv (listedIn other inside wants trv here) entity kept free
        · exact open'
      · rw [result]
        exact forced trv (listedIn decision member wants trv here)

end Zone

end Env

/-- After a heating tick, a zone that runs on without demand keeps the water flowing: another relay
is about to turn on, or a valve of the zones that run on is forced open, and with it every valve of
theirs that is not held shut. -/
theorem Run.flow_path {history past later : List Record} {daemon : Daemon} {record : Record}
    (run : Run history daemon) (split : history = past ++ record :: later)
    {config : HeatingConfig} (controls : record.operation = .controlRelays config)
    {zone : HeatingZone} (listed : zone ∈ config.zones)
    (runsOn : record.env.RunsOn zone record.after.world) :
    (∃ other ∈ config.zones, record.after.world.AwaitsOn other) ∨
      (∃ other ∈ config.zones, record.env.RunsOn other record.after.world ∧
        record.after.world.HasOpenValve other) ∧
        ∀ trv ∈ zone.trvs, ∀ entity, record.after.world.trvs[trv.device]? = some entity →
          entity.isInhibited record.env.clock.now = false → entity.isForcedOpen = true := by
  obtain ⟨admissible, _, serving⟩ := run.each_record serving_kept split
  have heating : record.env.topology.heatingConfig = some config := by
    rw [controls] at admissible
    exact admissible
  have valid := record.env.topology.valid.heating_valid config heating
  have after : record.after = (record.env.evaluateRelays config record.before).1 := by
    unfold Record.after
    rw [controls]
    rfl
  rw [after] at runsOn ⊢
  exact runsOn.flow valid heating listed (serving.orderly zone.name)

/-- The relays are controlled of the zone upstairs only. -/
def House.controlsUp (record : Record) : Bool :=
  match record.operation with
  | .controlRelays config => decide (config.zones = [House.upstairs])
  | _ => false

theorem House.controls_of_controlsUp {record : Record} (controls : controlsUp record = true) :
    ∃ config, record.operation = .controlRelays config ∧ config.zones = [House.upstairs] := by
  unfold controlsUp at controls
  split at controls
  · rename_i config operation
    exact ⟨config, operation, of_decide_eq_true controls⟩
  · cases controls

/-- Upstairs the demand goes away before the minimum cycle is over. -/
theorem Run.flow_path_upstairs : ∃ (history past later : List Record) (daemon : Daemon)
    (record : Record), Run history daemon ∧ history = past ++ record :: later ∧
      record.env.RunsOn House.upstairs record.after.world ∧
        record.after.world.HasOpenValve House.upstairs := by
  obtain ⟨daemon, history, run, _, facts⟩ := House.played_paired
    [House.relay "relay-up" false 0, (0, .start), House.tick 1,
      House.valve "valve-up" (some 80) (some 21) 2, House.valve "valve-down" (some 80) (some 21) 2,
      House.tick 310, House.relay "relay-up" true 311,
      House.valve "valve-up" (some 0) (some 21) 400,
      House.valve "valve-down" (some 0) (some 21) 400, House.tick 410]
    (by simp [House.relay, House.valve, House.tick])
    (fun reached : Daemon × List Record => (reached.2[26]?).any fun record : Record =>
      House.controlsUp record && !record.env.zoneHasDemand House.upstairs record.after.world &&
          (record.after.world.heatingZoneAt "upstairs").isRelayOn &&
            decide ((record.after.world.heatingZoneAt "upstairs").target.value ≠ some .off))
    true (by decide +kernel)
  obtain ⟨record, found, facts⟩ := (Option.any_eq_true _ _).mp facts
  simp only [Bool.and_eq_true, Bool.not_eq_true', decide_eq_true_eq] at facts
  obtain ⟨⟨⟨single, idle⟩, on⟩, kept⟩ := facts
  have runsOn : record.env.RunsOn House.upstairs record.after.world := ⟨idle, on, kept⟩
  refine ⟨history, _, _, daemon, record, run, split_at found, runsOn, ?_⟩
  obtain ⟨config, controls, zones⟩ := House.controls_of_controlsUp single
  have listed : House.upstairs ∈ config.zones := by
    rw [zones]
    exact List.mem_singleton_self _
  have only : ∀ other ∈ config.zones, other = House.upstairs := by
    intro other member
    rw [zones] at member
    exact List.mem_singleton.mp member
  rcases Run.flow_path run (split_at found) controls listed runsOn with
    ⟨other, member, off, _⟩ | ⟨⟨other, member, _, open'⟩, _⟩
  · rw [only other member] at off
    have lit := runsOn.on
    rw [off] at lit
    cases lit
  · rw [only other member] at open'
    exact open'

end MqttController
