import MqttController.PumpTimes

/-!
# Decisions about relays

The evaluation makes one decision for every zone whose relay is known, and each decision changes
only the target of its own zone.
-/

namespace Emission

variable {σ τ α ε κ β : Type*}

/-- A part of the state that no change of a fold touches is untouched by the fold. -/
theorem foldl_keeps (part : σ → τ) {change : σ → α → σ} {items : List α}
    (each : ∀ item ∈ items, ∀ state, part (change state item) = part state) (state : σ) :
    part (items.foldl change state) = part state := by
  induction items generalizing state with
  | nil => rfl
  | cons item rest ih =>
      rw [List.foldl_cons, ih (fun other member => each other (List.mem_cons_of_mem _ member)),
        each item List.mem_cons_self]

/-- A part of the state that no step of an iteration touches is untouched by the iteration. -/
theorem forEach_keeps (part : σ → τ) {step : α → Step σ ε} {items : List α}
    (each : ∀ item ∈ items, ∀ state, part (step item state).1 = part state) (state : σ) :
    part (forEach step items state).1 = part state := by
  rw [forEach_fst]
  exact foldl_keeps part each state

/-- A fold over items with distinct keys, each changing the view at its own key only, does at the
key of an item what the change for this item does. -/
theorem foldl_at_item (view : σ → κ → β) (change : σ → α → σ) (key : α → κ) {items : List α}
    (apart : ∀ item ∈ items, ∀ state other, key item ≠ other →
      view (change state item) other = view state other)
    (distinct : (items.map key).Nodup) {item : α} (member : item ∈ items) (state : σ) :
    ∃ front back, items = front ++ item :: back ∧
      view (front.foldl change state) (key item) = view state (key item) ∧
      view (items.foldl change state) (key item) =
        view (change (front.foldl change state) item) (key item) := by
  obtain ⟨front, back, rfl⟩ := List.append_of_mem member
  have stays (others : List α) (foreign : ∀ other ∈ others, other ∈ front ++ item :: back ∧
      key other ≠ key item) (state : σ) :
        view (others.foldl change state) (key item) = view state (key item) :=
    foldl_keeps (fun state => view state (key item)) (fun other member state =>
      apart other (foreign other member).1 state _ (foreign other member).2) state
  rw [List.map_append, List.map_cons] at distinct
  obtain ⟨_, after, before⟩ := List.nodup_append.mp distinct
  obtain ⟨notAfter, _⟩ := List.nodup_cons.mp after
  refine ⟨front, back, rfl, stays front (fun other inside => ⟨by simp [inside], fun same => ?_⟩)
    state, ?_⟩
  · exact before (key other) (List.mem_map.mpr ⟨other, inside, rfl⟩) (key item)
      List.mem_cons_self same
  · rw [List.foldl_append, List.foldl_cons]
    refine stays back (fun other inside => ⟨by simp [inside], fun same => notAfter ?_⟩) _
    rw [← same]
    exact List.mem_map.mpr ⟨other, inside, rfl⟩

/-- An iteration over items with distinct keys, each changing the view at its own key only, does at
the key of an item what the step of this item does. -/
theorem forEach_at_item (view : σ → κ → β) (step : α → Step σ ε) (key : α → κ) {items : List α}
    (apart : ∀ item ∈ items, ∀ state other, key item ≠ other →
      view (step item state).1 other = view state other)
    (distinct : (items.map key).Nodup) {item : α} (member : item ∈ items) (state : σ) :
    ∃ front back, items = front ++ item :: back ∧
      view (forEach step front state).1 (key item) = view state (key item) ∧
      view (forEach step items state).1 (key item) =
        view (step item (forEach step front state).1).1 (key item) ∧
      ∀ output ∈ (step item (forEach step front state).1).2,
        output ∈ (forEach step items state).2 := by
  obtain ⟨front, back, split, before, after⟩ :=
    foldl_at_item view (fun state item => (step item state).1) key apart distinct member state
  rw [← forEach_fst, ← forEach_fst] at after
  rw [← forEach_fst] at before
  refine ⟨front, back, split, before, after, fun output sent => ?_⟩
  rw [split, forEach_append, andThen_snd, forEach_cons, andThen_snd]
  exact List.mem_append.mpr (.inr (List.mem_append.mpr (.inl sent)))

end Emission

namespace MqttController

open Std Emission

namespace Env

variable {env : Env} {config : HeatingConfig} {runtime : Runtime} {zone : HeatingZone}
  {decision : ZoneDecision}

/-! ## What the evaluation goes by -/

/-- The decision about a zone reads what is known of its relay. -/
theorem zoneDecision_eq_some_iff {world : WorldState} :
    env.zoneDecision world zone = some decision ↔
      (world.heatingZoneAt zone.name).relayStateKnown = true ∧
        env.topology.deviceIdx zone.relay = some decision.relayIdx ∧ decision.zone = zone ∧
          decision.hasDemand = env.zoneHasDemand zone world ∧
            decision.relayOn = (world.heatingZoneAt zone.name).isRelayOn ∧
              decision.target = (world.heatingZoneAt zone.name).target.value := by
  unfold zoneDecision WorldState.heatingZoneAt
  cases world.heatingZones[zone.name]? with
  | none => simp [default]
  | some entity =>
      cases known : entity.relayStateKnown with
      | false => simp [known]
      | true =>
          obtain ⟨home, relayIdx, hasDemand, relayOn, target⟩ := decision
          cases found : env.topology.deviceIdx zone.relay with
          | none => simp
          | some idx => simp [known, eq_comm, and_left_comm]

/-- The state after every zone without a target was given one. -/
def seeded (env : Env) (config : HeatingConfig) (runtime : Runtime) : Runtime :=
  (config.zones.filterMap (env.zoneDecision runtime.world)).foldl env.seedTarget runtime

/-- The decisions that the evaluation goes by. -/
def decisions (env : Env) (config : HeatingConfig) (runtime : Runtime) : List ZoneDecision :=
  (config.zones.filterMap (env.zoneDecision runtime.world)).map
    (·.refresh (env.seeded config runtime).world)

theorem evaluateRelays_eq (config : HeatingConfig) (runtime : Runtime) :
    env.evaluateRelays config runtime =
      Emission.andThen (Emission.forEach (env.requestOn config) (env.decisions config runtime))
        (Emission.andThen (Emission.forEach (env.cancelOn config) (env.decisions config runtime))
          (env.stopRelays config (env.decisions config runtime))) (env.seeded config runtime) := rfl

/-- The target that a zone without one is given. -/
def seedValue (env : Env) (zone : HeatingZone) (world : WorldState) : HeatingZoneTarget :=
  if env.zoneHasDemand zone world || (world.heatingZoneAt zone.name).isRelayOn then .heating
  else .off

/-- The zones of the decisions are distinct. -/
theorem decided_names_nodup (valid : config.Valid) (world : WorldState) :
    ((config.zones.filterMap (env.zoneDecision world)).map (·.zone.name)).Nodup := by
  have names : ∀ zones : List HeatingZone,
      ((zones.filterMap (env.zoneDecision world)).map (·.zone.name)).Sublist
        (zones.map (·.name)) := by
    intro zones
    induction zones with
    | nil => exact .slnil
    | cons zone rest ih =>
        rw [List.filterMap_cons]
        cases decided : env.zoneDecision world zone with
        | none => exact ih.cons _
        | some decision =>
            rw [List.map_cons, List.map_cons,
              (zoneDecision_eq_some_iff.mp decided).2.2.1]
            exact ih.cons_cons _
  exact (names config.zones).nodup valid.zone_names_nodup

/-- A zone without a target is given one; other zones are left alone. -/
theorem heatingZoneAt_seeded (valid : config.Valid) (listed : zone ∈ config.zones)
    (known : (runtime.world.heatingZoneAt zone.name).relayStateKnown = true)
    {relayIdx : DeviceIdx} (found : env.topology.deviceIdx zone.relay = some relayIdx) :
    (env.seeded config runtime).world.heatingZoneAt zone.name =
      if (runtime.world.heatingZoneAt zone.name).target.value.isSome then
        runtime.world.heatingZoneAt zone.name
      else (runtime.world.heatingZoneAt zone.name).seed (env.seedValue zone runtime.world)
        env.clock.now runtime.heatingTickGen := by
  have generation : ∀ (decisions : List ZoneDecision) (runtime : Runtime),
      (decisions.foldl env.seedTarget runtime).heatingTickGen = runtime.heatingTickGen :=
    foldl_frame (fun runtime : Runtime => runtime.heatingTickGen) env.seedTarget
      (fun runtime decision => by
        unfold seedTarget
        split
        · rfl
        · rfl)
  obtain ⟨decision, decided, about⟩ : ∃ decision,
      env.zoneDecision runtime.world zone = some decision ∧ decision.zone = zone ∧
        decision.hasDemand = env.zoneHasDemand zone runtime.world ∧
          decision.relayOn = (runtime.world.heatingZoneAt zone.name).isRelayOn ∧
            decision.target = (runtime.world.heatingZoneAt zone.name).target.value :=
    ⟨⟨zone, relayIdx, _, _, _⟩, zoneDecision_eq_some_iff.mpr ⟨known, found, rfl, rfl, rfl, rfl⟩,
      rfl, rfl, rfl, rfl⟩
  obtain ⟨rfl, demand, on, target⟩ := about
  have member : decision ∈ config.zones.filterMap (env.zoneDecision runtime.world) :=
    List.mem_filterMap.mpr ⟨_, listed, decided⟩
  obtain ⟨front, back, _, same, here⟩ := foldl_at_item
    (fun (runtime : Runtime) name => runtime.world.heatingZoneAt name) env.seedTarget
    (fun decision => decision.zone.name)
    (fun decision _ runtime other different => by
      unfold seedTarget
      split
      · rfl
      · rw [Runtime.modifyHeatingZone, WorldState.heatingZoneAt_modifyHeatingZone,
          if_neg different])
    (env.decided_names_nodup valid runtime.world) member runtime
  rw [seeded, here]
  unfold seedTarget
  rw [target]
  split
  · exact same
  · rw [Runtime.modifyHeatingZone, WorldState.heatingZoneAt_modifyHeatingZone, if_pos rfl]
    have time := generation front runtime
    unfold seedTarget at time same
    rw [time, same, demand, on]
    rfl

/-- What a decision of the evaluation says about its zone. -/
structure Decided (env : Env) (config : HeatingConfig) (runtime : Runtime)
    (decision : ZoneDecision) : Prop where
  listed : decision.zone ∈ config.zones
  known : (runtime.world.heatingZoneAt decision.zone.name).relayStateKnown = true
  relay : env.topology.deviceIdx decision.zone.relay = some decision.relayIdx
  demand : decision.hasDemand = env.zoneHasDemand decision.zone runtime.world
  relayOn : decision.relayOn = runtime.relayOn decision.zone.name
  target : decision.target =
    some ((runtime.world.heatingZoneAt decision.zone.name).target.value.getD
      (env.seedValue decision.zone runtime.world))

theorem target_heatingZoneAt (world : WorldState) (name : String) :
    ((world.heatingZones[name]?).bind fun entity => entity.target.value) =
      (world.heatingZoneAt name).target.value := by
  unfold WorldState.heatingZoneAt
  cases world.heatingZones[name]? with
  | none => rfl
  | some entity => rfl

/-- A zone that is decided about has a target then. -/
theorem value_seeded (valid : config.Valid) (listed : zone ∈ config.zones)
    (known : (runtime.world.heatingZoneAt zone.name).relayStateKnown = true)
    {relayIdx : DeviceIdx} (found : env.topology.deviceIdx zone.relay = some relayIdx) :
    ((env.seeded config runtime).world.heatingZoneAt zone.name).target.value =
      some ((runtime.world.heatingZoneAt zone.name).target.value.getD
        (env.seedValue zone runtime.world)) := by
  rw [heatingZoneAt_seeded valid listed known found]
  cases told : (runtime.world.heatingZoneAt zone.name).target with
  | unset => rfl
  | held value phase owner since =>
      change (runtime.world.heatingZoneAt zone.name).target.value = _
      rw [told]
      rfl

theorem Decided.target_seeded (valid : config.Valid)
    (decided : env.Decided config runtime decision) : decision.target =
      ((env.seeded config runtime).world.heatingZoneAt decision.zone.name).target.value :=
  decided.target.trans (value_seeded valid decided.listed decided.known decided.relay).symm

theorem mem_decisions_iff (valid : config.Valid) :
    decision ∈ env.decisions config runtime ↔ env.Decided config runtime decision := by
  unfold decisions
  rw [List.mem_map]
  constructor
  · rintro ⟨first, member, rfl⟩
    obtain ⟨zone, listed, decided⟩ := List.mem_filterMap.mp member
    obtain ⟨known, relay, rfl, demand, on, _⟩ := zoneDecision_eq_some_iff.mp decided
    refine ⟨listed, known, relay, demand, on, ?_⟩
    exact (target_heatingZoneAt _ _).trans (value_seeded valid listed known relay)
  · rintro ⟨listed, known, relay, demand, on, target⟩
    refine ⟨{ decision with
        target := (runtime.world.heatingZoneAt decision.zone.name).target.value },
      List.mem_filterMap.mpr ⟨decision.zone, listed, zoneDecision_eq_some_iff.mpr
        ⟨known, relay, rfl, demand, on, rfl⟩⟩, ?_⟩
    have same := (target_heatingZoneAt (env.seeded config runtime).world decision.zone.name).trans
      (value_seeded valid listed known relay)
    unfold ZoneDecision.refresh
    dsimp only
    rw [same, ← target]

/-- Every zone whose relay is known is decided about. -/
theorem exists_decided (listed : zone ∈ config.zones)
    (known : (runtime.world.heatingZoneAt zone.name).relayStateKnown = true)
    {relayIdx : DeviceIdx} (found : env.topology.deviceIdx zone.relay = some relayIdx) :
    ∃ decision, env.Decided config runtime decision ∧ decision.zone = zone ∧
      decision.relayIdx = relayIdx :=
  ⟨{ zone, relayIdx
     hasDemand := env.zoneHasDemand zone runtime.world
     relayOn := runtime.relayOn zone.name
     target := some ((runtime.world.heatingZoneAt zone.name).target.value.getD
       (env.seedValue zone runtime.world)) },
    ⟨listed, known, found, rfl, rfl, rfl⟩, rfl, rfl⟩

theorem decisions_names_nodup (valid : config.Valid) (runtime : Runtime) :
    ((env.decisions config runtime).map (·.zone.name)).Nodup := by
  have same : (env.decisions config runtime).map (·.zone.name) =
      (config.zones.filterMap (env.zoneDecision runtime.world)).map (·.zone.name) := by
    rw [decisions, List.map_map]
    rfl
  rw [same]
  exact decided_names_nodup valid runtime.world

/-- A zone that is decided about has one decision. -/
theorem Decided.unique (valid : config.Valid) {other : ZoneDecision}
    (first : env.Decided config runtime decision) (second : env.Decided config runtime other)
    (same : decision.zone.name = other.zone.name) : decision = other := by
  have zones : decision.zone = other.zone :=
    List.inj_on_of_nodup_map valid.zone_names_nodup first.listed second.listed same
  obtain ⟨_, _, relay, demand, on, target⟩ := first
  obtain ⟨_, _, relay', demand', on', target'⟩ := second
  obtain ⟨zone, relayIdx, hasDemand, relayOn, value⟩ := decision
  obtain ⟨zone', relayIdx', hasDemand', relayOn', value'⟩ := other
  dsimp only at *
  subst zones
  rw [relay] at relay'
  cases relay'
  rw [demand, demand', on, on', target, target']

end Env

/-! ## The pause of the pump -/

namespace HeatingZoneEntity

/-- An OFF command of the zone awaits its report. -/
def offPending (zone : HeatingZoneEntity) : Bool := zone.wantsOff && zone.target.phase == .commanded

/-- A zone waits for its relay to follow an ON command. -/
def onPending (zone : HeatingZoneEntity) : Bool := zone.wantsHeat && zone.target.phase == .commanded

end HeatingZoneEntity

namespace Runtime

theorem le_durationSince_max {span now first second : Nat} :
    span ≤ durationSince now (max first second) ↔
      span ≤ durationSince now first ∧ span ≤ durationSince now second := by
  unfold durationSince
  omega

theorem le_durationSince_max? {span now : Nat} {times : List Nat} :
    (∀ latest, times.max? = some latest → span ≤ durationSince now latest) ↔
      ∀ time ∈ times, span ≤ durationSince now time := by
  constructor
  · intro holds time member
    obtain ⟨latest, last⟩ : ∃ latest, times.max? = some latest := by
      cases found : times.max? with
      | none =>
          rw [List.max?_eq_none_iff.mp found] at member
          cases member
      | some latest => exact ⟨latest, rfl⟩
    have bound := (List.max?_eq_some_iff.mp last).2 time member
    have enough := holds latest last
    unfold durationSince at enough ⊢
    omega
  · intro holds latest last
    exact holds latest (List.max?_eq_some_iff.mp last).1

theorem le_pendingOff_iff (runtime : Runtime) {span : Duration} {now : Instant} :
    (∀ latest, (OrderedMap.pickValues runtime.world.heatingZones fun zone =>
      if zone.offPending then zone.target.since else none).max? = some latest →
        span ≤ durationSince now latest) ↔
      ∀ name since, (runtime.world.heatingZoneAt name).offPending = true →
        (runtime.world.heatingZoneAt name).target.since = some since →
          span ≤ durationSince now since := by
  rw [le_durationSince_max?]
  constructor
  · intro holds name since awaits told
    refine holds since ((OrderedMap.mem_pickValues _ _ _).mpr ?_)
    unfold WorldState.heatingZoneAt at awaits told
    cases stored : runtime.world.heatingZones[name]? with
    | none =>
        rw [stored] at awaits
        cases awaits
    | some zone =>
        rw [stored] at awaits told
        exact ⟨name, zone, stored, (if_pos awaits).trans told⟩
  · intro holds since member
    obtain ⟨name, zone, stored, picked⟩ := (OrderedMap.mem_pickValues _ _ _).mp member
    split at picked
    · rename_i awaits
      refine holds name since ?_ ?_
      · rw [WorldState.heatingZoneAt, stored]
        exact awaits
      · rw [WorldState.heatingZoneAt, stored]
        exact picked
    · cases picked

theorem effectivePumpOffSince_eq (runtime : Runtime) : runtime.effectivePumpOffSince =
    match runtime.pumpOffSince, (OrderedMap.pickValues runtime.world.heatingZones fun zone =>
      if zone.offPending then zone.target.since else none).max? with
    | some observed, some latest => some (max observed latest)
    | observed, latest => observed.or latest := rfl

theorem all_match_max {observed latest : Option Instant} {span : Duration} {now : Instant} :
    (match observed, latest with
      | some observed, some latest => some (max observed latest)
      | observed, latest => observed.or latest).all
        (fun since => decide (span ≤ durationSince now since)) = true ↔
      (∀ since, observed = some since → span ≤ durationSince now since) ∧
        ∀ since, latest = some since → span ≤ durationSince now since := by
  cases observed with
  | none => cases latest <;> simp
  | some observed =>
      cases latest with
      | none => simp
      | some latest => simp [le_durationSince_max]

/-- The pump has paused when it has since it was observed to stop and since every OFF command that
awaits its report. -/
theorem pauseElapsed_eq_true_iff {runtime : Runtime} {config : HeatingConfig} {now : Instant} :
    runtime.pauseElapsed config now = true ↔
      (∀ since, runtime.pumpOffSince = some since → config.minPause ≤ durationSince now since) ∧
        ∀ name since, (runtime.world.heatingZoneAt name).offPending = true →
          (runtime.world.heatingZoneAt name).target.since = some since →
            config.minPause ≤ durationSince now since := by
  rw [pauseElapsed, effectivePumpOffSince_eq]
  exact all_match_max.trans (and_congr_right' runtime.le_pendingOff_iff)

/-- The relays are left alone and no OFF command is added. -/
structure Quiets (before after : Runtime) : Prop where
  relays : RelaysKept before after
  generation : after.heatingTickGen = before.heatingTickGen
  offs : ∀ name, (after.world.heatingZoneAt name).offPending = true →
    after.world.heatingZoneAt name = before.world.heatingZoneAt name

namespace Quiets

theorem refl (runtime : Runtime) : Quiets runtime runtime := ⟨.refl _, rfl, fun _ _ => rfl⟩

theorem trans {first second third : Runtime} (early : Quiets first second)
    (late : Quiets second third) : Quiets first third := by
  refine ⟨early.relays.trans late.relays, late.generation.trans early.generation,
    fun name awaits => ?_⟩
  have same := late.offs name awaits
  rw [same] at awaits ⊢
  exact early.offs name awaits

theorem modifyHeatingZone {runtime : Runtime} {name : String}
    {change : HeatingZoneEntity → HeatingZoneEntity}
    (relays : ∀ zone, (change zone).relay = zone.relay)
    (quiet : ∀ zone, (change zone).offPending = false) :
    Quiets runtime (runtime.modifyHeatingZone name change) := by
  refine ⟨.modifyHeatingZone relays, rfl, fun other awaits => ?_⟩
  rw [Runtime.modifyHeatingZone, WorldState.heatingZoneAt_modifyHeatingZone] at awaits ⊢
  split at awaits
  · rw [quiet] at awaits
    cases awaits
  · rename_i different
    rw [if_neg different]

theorem foldl {α : Type*} {change : Runtime → α → Runtime} {items : List α}
    (each : ∀ item ∈ items, ∀ runtime, Quiets runtime (change runtime item)) (runtime : Runtime) :
    Quiets runtime (items.foldl change runtime) :=
  foldl_related refl (fun _ _ _ => trans) each runtime

theorem forEach {α ε : Type*} {step : α → Step Runtime ε} {items : List α}
    (each : ∀ item ∈ items, ∀ runtime, Quiets runtime (step item runtime).1) (runtime : Runtime) :
    Quiets runtime (Emission.forEach step items runtime).1 :=
  forEach_related refl (fun _ _ _ => trans) each runtime

/-- Without more OFF commands the pump has paused as well. -/
theorem pauseElapsed {before after : Runtime} {config : HeatingConfig} {now : Instant}
    (quiets : Quiets before after) (elapsed : before.pauseElapsed config now = true) :
    after.pauseElapsed config now = true := by
  obtain ⟨observed, pending⟩ := pauseElapsed_eq_true_iff.mp elapsed
  refine pauseElapsed_eq_true_iff.mpr ⟨fun since stopped => ?_, fun name since awaits told => ?_⟩
  · exact observed since (quiets.relays.pumpOff.symm.trans stopped)
  · have same := quiets.offs name awaits
    rw [same] at awaits told
    exact pending name since awaits told

end Quiets

end Runtime

/-! ## The steps of the evaluation -/

namespace Env

variable {env : Env} {config : HeatingConfig} {runtime : Runtime} {decision : ZoneDecision}

theorem heatingZoneAt_commandRelay (decision : ZoneDecision) (value : HeatingZoneTarget)
    (runtime : Runtime) (other : String) :
    (env.commandRelay decision value runtime).1.world.heatingZoneAt other =
      if decision.zone.name = other then
        (runtime.world.heatingZoneAt decision.zone.name).commandRelay value env.clock.now
          runtime.heatingTickGen
      else runtime.world.heatingZoneAt other :=
  runtime.world.heatingZoneAt_modifyHeatingZone _ _ _

theorem requestOn_cases (config : HeatingConfig) (decision : ZoneDecision) (runtime : Runtime) :
    (env.requestOn config decision runtime = (runtime, []) ∧
      (decision.hasDemand = true → decision.target ≠ some .heating →
        runtime.isPumpRunning = false ∧ runtime.pauseElapsed config env.clock.now = false)) ∨
    (env.requestOn config decision runtime = env.commandRelay decision .heating runtime ∧
      decision.hasDemand = true ∧ decision.target ≠ some .heating ∧
        (runtime.isPumpRunning = true ∨ runtime.pauseElapsed config env.clock.now = true)) := by
  unfold requestOn
  split
  · rename_i asks
    simp only [Bool.and_eq_true, Bool.or_eq_true, bne_iff_ne] at asks
    exact .inr ⟨rfl, asks.1.1, asks.1.2, asks.2⟩
  · rename_i quiet
    refine .inl ⟨rfl, fun demand differs => ?_⟩
    rw [demand, bne_iff_ne.mpr differs, Bool.true_and, Bool.true_and, Bool.not_eq_true,
      Bool.or_eq_false_iff] at quiet
    exact quiet

theorem cancelOn_cases (config : HeatingConfig) (decision : ZoneDecision) (runtime : Runtime) :
    env.cancelOn config decision runtime = (runtime, []) ∨
    (env.cancelOn config decision runtime = env.commandRelay decision .off runtime ∧
      decision.hasDemand = false ∧ decision.relayOn = false ∧
        decision.target = some .heating ∧ runtime.cycleElapsed config env.clock.now = true) := by
  unfold cancelOn
  split
  · rename_i asks
    simp only [Bool.and_eq_true, Bool.not_eq_true', beq_iff_eq] at asks
    exact .inr ⟨rfl, asks.1.1.1, asks.1.1.2, asks.1.2, asks.2⟩
  · exact .inl rfl

theorem requestOn_apart (config : HeatingConfig) (decision : ZoneDecision) (runtime : Runtime)
    {other : String} (different : decision.zone.name ≠ other) :
    (env.requestOn config decision runtime).1.world.heatingZoneAt other =
      runtime.world.heatingZoneAt other := by
  rcases env.requestOn_cases config decision runtime with ⟨same, _⟩ | ⟨same, _⟩
  · rw [same]
  · rw [same, heatingZoneAt_commandRelay, if_neg different]

theorem cancelOn_apart (config : HeatingConfig) (decision : ZoneDecision) (runtime : Runtime)
    {other : String} (different : decision.zone.name ≠ other) :
    (env.cancelOn config decision runtime).1.world.heatingZoneAt other =
      runtime.world.heatingZoneAt other := by
  rcases env.cancelOn_cases config decision runtime with same | ⟨same, _⟩
  · rw [same]
  · rw [same, heatingZoneAt_commandRelay, if_neg different]

theorem requestOn_quiets (config : HeatingConfig) (decision : ZoneDecision) (runtime : Runtime) :
    Runtime.Quiets runtime (env.requestOn config decision runtime).1 := by
  rcases env.requestOn_cases config decision runtime with ⟨same, _⟩ | ⟨same, _⟩
  · rw [same]
    exact .refl _
  · rw [same]
    exact .modifyHeatingZone (fun _ => rfl) (fun _ => rfl)

theorem seeded_quiets (config : HeatingConfig) (runtime : Runtime) :
    Runtime.Quiets runtime (env.seeded config runtime) := by
  refine .foldl (fun decision _ runtime => ?_) runtime
  unfold seedTarget
  split
  · exact .refl _
  · refine .modifyHeatingZone (fun _ => rfl) (fun zone => ?_)
    exact Bool.and_eq_false_iff.mpr (.inr rfl)

/-- The state after heat was requested. -/
def requested (env : Env) (config : HeatingConfig) (runtime : Runtime) : Runtime :=
  (Emission.forEach (env.requestOn config) (env.decisions config runtime)
    (env.seeded config runtime)).1

/-- The state after requests were taken back. -/
def cancelled (env : Env) (config : HeatingConfig) (runtime : Runtime) : Runtime :=
  (Emission.forEach (env.cancelOn config) (env.decisions config runtime)
    (env.requested config runtime)).1

theorem requested_quiets (config : HeatingConfig) (runtime : Runtime) :
    Runtime.Quiets runtime (env.requested config runtime) :=
  (seeded_quiets config runtime).trans
    (.forEach (fun decision _ => requestOn_quiets config decision) _)

theorem forEach_generation {α ε : Type*} {step : α → Step Runtime ε}
    (keeps : ∀ item runtime, (step item runtime).1.heatingTickGen = runtime.heatingTickGen)
    (items : List α) (runtime : Runtime) :
    (Emission.forEach step items runtime).1.heatingTickGen = runtime.heatingTickGen := by
  rw [forEach_fst]
  exact foldl_frame (fun runtime : Runtime => runtime.heatingTickGen)
    (fun runtime item => (step item runtime).1) (fun runtime item => keeps item runtime) items
    runtime

theorem cancelOn_generation (config : HeatingConfig) (decision : ZoneDecision)
    (runtime : Runtime) :
    (env.cancelOn config decision runtime).1.heatingTickGen = runtime.heatingTickGen := by
  rcases env.cancelOn_cases config decision runtime with same | ⟨same, _⟩
  · rw [same]
  · rw [same]
    rfl

theorem cancelled_generation (config : HeatingConfig) (runtime : Runtime) :
    (env.cancelled config runtime).heatingTickGen = runtime.heatingTickGen :=
  (forEach_generation (fun decision => cancelOn_generation config decision) _ _).trans
    (requested_quiets config runtime).generation

/-- What the last step of the evaluation does with the zones whose demand is gone. -/
inductive Stops (env : Env) (config : HeatingConfig) (decisions : List ZoneDecision)
    (runtime : Runtime) : Runtime × List Effect → Prop
  /-- No zone is to stop. -/
  | idle (none : ∀ decision ∈ decisions, decision.wantsStop = false) :
      Stops env config decisions runtime (runtime, [])
  /-- The zones are told off. -/
  | off (may : 0 < survivors runtime (decisions.filter (·.wantsStop)).length ∨
        runtime.cycleElapsed config env.clock.now = true ∨
          env.noFlowPath (decisions.filter (·.wantsStop)) runtime.world = true) :
      Stops env config decisions runtime (Emission.forEach
        (fun decision => env.commandRelay decision .off) (decisions.filter (·.wantsStop)) runtime)
  /-- Another zone is about to turn on. -/
  | waits (pending : hasPendingOn decisions runtime.world = true) :
      Stops env config decisions runtime (runtime, [])
  /-- The zones run on, with their valves held open. -/
  | holds (path : env.noFlowPath (decisions.filter (·.wantsStop)) runtime.world = false) :
      Stops env config decisions runtime (Emission.forEach env.holdOpen
        ((decisions.filter (·.wantsStop)).flatMap (·.zone.trvs)) runtime)

theorem stopRelays_stops (config : HeatingConfig) (decisions : List ZoneDecision)
    (runtime : Runtime) :
    env.Stops config decisions runtime (env.stopRelays config decisions runtime) := by
  unfold stopRelays
  dsimp only
  split_ifs with none alive pending must
  · refine .idle fun decision member => ?_
    have apart := List.filter_eq_nil_iff.mp none decision member
    simpa using apart
  · exact .off (.inl alive)
  · exact .waits pending
  · exact .off (.inr (Bool.or_eq_true_iff.mp must))
  · rw [Bool.or_eq_true_iff, not_or, Bool.not_eq_true, Bool.not_eq_true] at must
    exact .holds must.2

theorem holdOpen_zones (trv : ZoneTrv) (runtime : Runtime) :
    (env.holdOpen trv runtime).1.world.heatingZones = runtime.world.heatingZones := by
  unfold holdOpen
  dsimp only
  split
  · rfl
  · split
    · rfl
    · rfl

theorem holdOpens_zones (trvs : List ZoneTrv) (runtime : Runtime) :
    (Emission.forEach env.holdOpen trvs runtime).1.world.heatingZones =
      runtime.world.heatingZones := by
  rw [forEach_fst]
  exact foldl_frame (fun runtime : Runtime => runtime.world.heatingZones)
    (fun runtime trv => (env.holdOpen trv runtime).1)
    (fun runtime trv => holdOpen_zones trv runtime) trvs runtime

section Zone

variable (valid : config.Valid) (decided : env.Decided config runtime decision)

include valid decided

/-- A zone is told on when it has demand and the pump runs or has paused. -/
theorem requested_cases :
    ((env.requested config runtime).world.heatingZoneAt decision.zone.name =
        (env.seeded config runtime).world.heatingZoneAt decision.zone.name ∧
      (decision.hasDemand = true → decision.target ≠ some .heating →
        runtime.isPumpRunning = false ∧ runtime.pauseElapsed config env.clock.now = false)) ∨
    (decision.hasDemand = true ∧ decision.target ≠ some .heating ∧
      (env.requested config runtime).world.heatingZoneAt decision.zone.name =
        ((env.seeded config runtime).world.heatingZoneAt decision.zone.name).commandRelay .heating
          env.clock.now runtime.heatingTickGen ∧
      Effect.publishDeviceSet decision.relayIdx .deviceOn ∈
        (env.evaluateRelays config runtime).2) := by
  obtain ⟨front, back, split, before, after, sent⟩ := forEach_at_item
    (fun (runtime : Runtime) name => runtime.world.heatingZoneAt name) (env.requestOn config)
    (fun decision => decision.zone.name)
    (fun decision _ runtime _ different => requestOn_apart config decision runtime different)
    (decisions_names_nodup valid runtime) ((mem_decisions_iff valid).mpr decided)
    (env.seeded config runtime)
  have quiets : Runtime.Quiets runtime
      (Emission.forEach (env.requestOn config) front (env.seeded config runtime)).1 :=
    (seeded_quiets config runtime).trans
      (.forEach (fun decision _ => requestOn_quiets config decision) _)
  change (env.requested config runtime).world.heatingZoneAt _ = _ at after
  generalize (Emission.forEach (env.requestOn config) front (env.seeded config runtime)).1 =
    middle at before after sent quiets
  rw [after]
  rcases env.requestOn_cases config decision middle with ⟨same, quiet⟩ |
    ⟨same, demand, differs, _⟩
  · rw [same]
    refine .inl ⟨before, fun demand differs => ?_⟩
    obtain ⟨stands, early⟩ := quiet demand differs
    refine ⟨quiets.relays.isPumpRunning.symm.trans stands, ?_⟩
    cases elapsed : runtime.pauseElapsed config env.clock.now with
    | false => rfl
    | true =>
        rw [quiets.pauseElapsed elapsed] at early
        cases early
  · rw [same] at sent ⊢
    refine .inr ⟨demand, differs, ?_, ?_⟩
    · rw [heatingZoneAt_commandRelay, if_pos rfl, before, quiets.generation]
    · rw [evaluateRelays_eq, andThen_snd]
      exact List.mem_append.mpr (.inl (sent _ List.mem_cons_self))

/-- A command that is taken back is one for a zone without demand whose relay is off. -/
theorem cancelled_cases :
    (env.cancelled config runtime).world.heatingZoneAt decision.zone.name =
        (env.requested config runtime).world.heatingZoneAt decision.zone.name ∨
      decision.hasDemand = false ∧ decision.relayOn = false ∧ decision.target = some .heating ∧
        (env.cancelled config runtime).world.heatingZoneAt decision.zone.name =
          ((env.requested config runtime).world.heatingZoneAt decision.zone.name).commandRelay .off
            env.clock.now runtime.heatingTickGen := by
  obtain ⟨front, back, split, before, after, _⟩ := forEach_at_item
    (fun (runtime : Runtime) name => runtime.world.heatingZoneAt name) (env.cancelOn config)
    (fun decision => decision.zone.name)
    (fun decision _ runtime _ different => cancelOn_apart config decision runtime different)
    (decisions_names_nodup valid runtime) ((mem_decisions_iff valid).mpr decided)
    (env.requested config runtime)
  change (env.cancelled config runtime).world.heatingZoneAt _ = _ at after
  rw [after]
  rcases env.cancelOn_cases config decision
      (Emission.forEach (env.cancelOn config) front (env.requested config runtime)).1 with
    same | ⟨same, demand, off, target, _⟩
  · rw [same]
    exact .inl before
  · rw [same]
    refine .inr ⟨demand, off, target, ?_⟩
    rw [heatingZoneAt_commandRelay, if_pos rfl, before,
      forEach_generation fun decision => cancelOn_generation config decision,
      (requested_quiets config runtime).generation]

/-- Telling off the zones that are to stop tells each of them off and no other zone anything. -/
theorem heatingZoneAt_stopAll {start : Runtime} :
    (Emission.forEach (fun decision => env.commandRelay decision .off)
        ((env.decisions config runtime).filter (·.wantsStop)) start).1.world.heatingZoneAt
          decision.zone.name =
      if decision.wantsStop then
        (start.world.heatingZoneAt decision.zone.name).commandRelay .off env.clock.now
          start.heatingTickGen
      else start.world.heatingZoneAt decision.zone.name := by
  have apart : ∀ other ∈ (env.decisions config runtime).filter (·.wantsStop),
      ∀ (runtime : Runtime) name, other.zone.name ≠ name →
        (env.commandRelay other .off runtime).1.world.heatingZoneAt name =
          runtime.world.heatingZoneAt name := by
    intro other _ runtime name different
    rw [heatingZoneAt_commandRelay, if_neg different]
  split
  · rename_i wants
    have member := List.mem_filter.mpr ⟨(mem_decisions_iff valid).mpr decided, wants⟩
    obtain ⟨front, back, split, before, after, _⟩ := forEach_at_item
      (fun (runtime : Runtime) name => runtime.world.heatingZoneAt name)
      (fun decision => env.commandRelay decision .off) (fun decision => decision.zone.name)
      apart ((decisions_names_nodup valid runtime).sublist (List.filter_sublist.map _)) member start
    rw [after, heatingZoneAt_commandRelay, if_pos rfl, before, forEach_generation fun _ _ => rfl]
  · rename_i stays
    refine forEach_keeps (fun runtime : Runtime =>
      runtime.world.heatingZoneAt decision.zone.name) (fun other member state =>
        apart other member state _ fun named => ?_) start
    obtain ⟨inside, stopping⟩ := List.mem_filter.mp member
    rw [Decided.unique valid ((mem_decisions_iff valid).mp inside) decided named] at stopping
    exact stays stopping

/-- The last step tells off the zones that are to stop, all of them or none. -/
theorem stopped_cases :
    (env.evaluateRelays config runtime).1.world.heatingZoneAt decision.zone.name =
        (env.cancelled config runtime).world.heatingZoneAt decision.zone.name ∨
      decision.wantsStop = true ∧
        (env.evaluateRelays config runtime).1.world.heatingZoneAt decision.zone.name =
          ((env.cancelled config runtime).world.heatingZoneAt decision.zone.name).commandRelay .off
            env.clock.now runtime.heatingTickGen := by
  change (env.stopRelays config (env.decisions config runtime)
    (env.cancelled config runtime)).1.world.heatingZoneAt _ = _ ∨ _ ∧
      (env.stopRelays config (env.decisions config runtime)
        (env.cancelled config runtime)).1.world.heatingZoneAt _ = _
  have stops := env.stopRelays_stops config (env.decisions config runtime)
    (env.cancelled config runtime)
  generalize env.stopRelays config (env.decisions config runtime) (env.cancelled config runtime) =
    result at stops ⊢
  cases stops with
  | idle none => exact .inl rfl
  | waits pending => exact .inl rfl
  | holds path =>
      left
      unfold WorldState.heatingZoneAt
      rw [holdOpens_zones]
  | off may =>
      rw [heatingZoneAt_stopAll valid decided, cancelled_generation]
      split
      · rename_i wants
        exact .inr ⟨wants, rfl⟩
      · exact .inl rfl

end Zone

/-- The evaluation leaves the zones alone that it makes no decision about. -/
theorem evaluateRelays_apart {name : String}
    (apart : ∀ decision ∈ env.decisions config runtime, decision.zone.name ≠ name) :
    (env.evaluateRelays config runtime).1.world.heatingZoneAt name =
      runtime.world.heatingZoneAt name := by
  have seeds : (env.seeded config runtime).world.heatingZoneAt name =
      runtime.world.heatingZoneAt name := by
    refine foldl_keeps (fun runtime : Runtime => runtime.world.heatingZoneAt name)
      (fun decision member state => ?_) runtime
    have different : decision.zone.name ≠ name :=
      apart (decision.refresh (env.seeded config runtime).world)
        (List.mem_map.mpr ⟨decision, member, rfl⟩)
    unfold seedTarget
    split
    · rfl
    · rw [Runtime.modifyHeatingZone, WorldState.heatingZoneAt_modifyHeatingZone, if_neg different]
  have requests : (env.requested config runtime).world.heatingZoneAt name = _ :=
    forEach_keeps (fun runtime : Runtime => runtime.world.heatingZoneAt name)
      (fun decision member state => requestOn_apart config decision state (apart decision member))
      (env.seeded config runtime)
  have cancels : (env.cancelled config runtime).world.heatingZoneAt name = _ :=
    forEach_keeps (fun runtime : Runtime => runtime.world.heatingZoneAt name)
      (fun decision member state => cancelOn_apart config decision state (apart decision member))
      (env.requested config runtime)
  refine Eq.trans ?_ ((cancels.trans requests).trans seeds)
  change (env.stopRelays config (env.decisions config runtime)
    (env.cancelled config runtime)).1.world.heatingZoneAt _ = _
  have stops := env.stopRelays_stops config (env.decisions config runtime)
    (env.cancelled config runtime)
  generalize env.stopRelays config (env.decisions config runtime) (env.cancelled config runtime) =
    result at stops ⊢
  cases stops with
  | idle none => rfl
  | waits pending => rfl
  | holds path =>
      unfold WorldState.heatingZoneAt
      rw [holdOpens_zones]
  | off may =>
      refine forEach_keeps (fun runtime : Runtime => runtime.world.heatingZoneAt name)
        (fun decision member state => ?_) (env.cancelled config runtime)
      rw [heatingZoneAt_commandRelay, if_neg (apart decision (List.mem_filter.mp member).1)]

end Env

end MqttController
