import MqttController.Frames

/-!
# The pump's start and stop

Only thermostat reports change what is observed of the relays and the times of the pump.  The start
of the pump is the report that turned the first relay on.
-/

namespace MqttController

open Std Emission

namespace HeatingZoneEntity

/-- What was observed of the relay. -/
def relay (zone : HeatingZoneEntity) : TassActual HeatingZoneActual × Option Instant × Bool :=
  (zone.actual, zone.relayOnSince, zone.relayStateKnown)

theorem isRelayOn_of_relay {zone other : HeatingZoneEntity} (same : zone.relay = other.relay) :
    zone.isRelayOn = other.isRelayOn := by
  have actual : zone.actual = other.actual := congrArg Prod.fst same
  unfold isRelayOn
  rw [actual]

end HeatingZoneEntity

namespace Runtime

/-- What was observed of the relays and the times of the pump are left alone. -/
structure RelaysKept (before after : Runtime) : Prop where
  relays : ∀ name, (after.world.heatingZoneAt name).relay = (before.world.heatingZoneAt name).relay
  pumpOn : after.pumpOnSince = before.pumpOnSince
  pumpOff : after.pumpOffSince = before.pumpOffSince

namespace RelaysKept

theorem refl (runtime : Runtime) : RelaysKept runtime runtime := ⟨fun _ => rfl, rfl, rfl⟩

theorem trans {first second third : Runtime} (early : RelaysKept first second)
    (late : RelaysKept second third) : RelaysKept first third :=
  ⟨fun name => (late.relays name).trans (early.relays name), late.pumpOn.trans early.pumpOn,
    late.pumpOff.trans early.pumpOff⟩

theorem of_zones {before after : Runtime}
    (zones : after.world.heatingZones = before.world.heatingZones)
    (pumpOn : after.pumpOnSince = before.pumpOnSince)
    (pumpOff : after.pumpOffSince = before.pumpOffSince) : RelaysKept before after := by
  refine ⟨fun name => ?_, pumpOn, pumpOff⟩
  unfold WorldState.heatingZoneAt
  rw [zones]

theorem modifyHeatingZone {runtime : Runtime} {name : String}
    {change : HeatingZoneEntity → HeatingZoneEntity}
    (keeps : ∀ zone, (change zone).relay = zone.relay) :
    RelaysKept runtime (runtime.modifyHeatingZone name change) := by
  refine ⟨fun other => ?_, rfl, rfl⟩
  unfold Runtime.modifyHeatingZone
  dsimp only
  rw [WorldState.heatingZoneAt_modifyHeatingZone]
  split
  · rename_i same
    rw [keeps, same]
  · rfl

theorem forEach {α ε : Type*} {step : α → Step Runtime ε} {items : List α}
    (each : ∀ item ∈ items, ∀ runtime, RelaysKept runtime (step item runtime).1)
    (runtime : Runtime) : RelaysKept runtime (Emission.forEach step items runtime).1 :=
  forEach_related refl (fun _ _ _ => trans) each runtime

theorem foldl {α : Type*} {change : Runtime → α → Runtime} {items : List α}
    (each : ∀ item ∈ items, ∀ runtime, RelaysKept runtime (change runtime item))
    (runtime : Runtime) : RelaysKept runtime (items.foldl change runtime) :=
  foldl_related refl (fun _ _ _ => trans) each runtime

theorem modifyTrv (runtime : Runtime) (device : String) (change : TrvEntity → TrvEntity) :
    RelaysKept runtime (runtime.modifyTrv device change) := of_zones rfl rfl rfl

theorem modifyTrvs (runtime : Runtime) (trvs : List ZoneTrv) (change : TrvEntity → TrvEntity) :
    RelaysKept runtime (runtime.modifyTrvs trvs change) :=
  foldl (fun _ _ _ => modifyTrv _ _ _) runtime

end RelaysKept

end Runtime

namespace Env

variable {env : Env}

/-! ## Heating ticks -/

theorem beginHeatingTick_relays (config : HeatingConfig) (runtime : Runtime) :
    Runtime.RelaysKept runtime (env.beginHeatingTick config runtime).1 := by
  have requests : ∀ runtime, Runtime.RelaysKept runtime (env.requestStates config runtime).1 := by
    intro runtime
    unfold requestStates
    split
    · exact .refl _
    · exact .of_zones rfl rfl rfl
  have expires : ∀ runtime, Runtime.RelaysKept runtime (env.expireInhibitions config runtime) :=
    fun runtime => .foldl (fun zone _ runtime => .foldl (fun trv _ runtime =>
      .modifyTrv _ _ _) runtime) runtime
  have probes : ∀ zone runtime,
      Runtime.RelaysKept runtime (env.probeThermostat zone runtime).1 := by
    intro zone runtime
    unfold probeThermostat
    dsimp only
    split
    · exact .modifyHeatingZone fun _ => rfl
    · exact .modifyHeatingZone fun _ => rfl
  have refreshes : ∀ runtime,
      Runtime.RelaysKept runtime (env.refreshThermostats config runtime).1 := by
    intro runtime
    unfold refreshThermostats
    dsimp only
    split
    · exact .of_zones rfl rfl rfl
    · exact .refl _
  have counted : Runtime.RelaysKept runtime
      { runtime with heatingTickGen := runtime.heatingTickGen + 1 } := .of_zones rfl rfl rfl
  exact ((counted.trans (requests _)).trans (expires _)).trans
    ((Runtime.RelaysKept.forEach (fun zone _ => probes zone) _).trans (refreshes _))

theorem controlValves_relays (config : HeatingConfig) (runtime : Runtime) :
    Runtime.RelaysKept runtime (env.controlValves config runtime).1 := by
  have enforces : ∀ runtime,
      Runtime.RelaysKept runtime (env.enforcePressureGroups config runtime).1 := by
    refine .forEach fun group _ runtime => .forEach (fun device _ runtime => ?_) runtime
    unfold enforceOn
    dsimp only
    split
    · exact .refl _
    · split_ifs
      · exact .of_zones rfl rfl rfl
      · exact .refl _
      · exact .of_zones rfl rfl rfl
      · exact .refl _
  have schedules : ∀ runtime,
      Runtime.RelaysKept runtime (env.evaluateSchedules config runtime).1 := by
    refine .forEach fun trv _ runtime => ?_
    unfold evaluateSchedule
    dsimp only
    split
    · exact .refl _
    · split
      · split_ifs <;> exact .of_zones rfl rfl rfl
      · split_ifs <;> exact .of_zones rfl rfl rfl
  have checks : ∀ (since : Instant) (trv : ZoneTrv) (runtime : Runtime),
      Runtime.RelaysKept runtime (env.detectOpenWindow config since trv runtime).1 := by
    intro since trv runtime
    unfold detectOpenWindow
    dsimp only
    split
    · exact .refl _
    · split
      · exact .refl _
      · split
        · exact .of_zones rfl rfl rfl
        · split
          · split
            · exact .of_zones rfl rfl rfl
            · exact .refl _
          · exact .refl _
          · split_ifs
            · exact .of_zones rfl rfl rfl
            · exact .refl _
            · exact .of_zones rfl rfl rfl
            · exact .of_zones rfl rfl rfl
  have detects : ∀ runtime,
      Runtime.RelaysKept runtime (env.detectOpenWindows config runtime).1 := by
    refine .forEach fun zone _ runtime => ?_
    unfold detectOpenWindowsIn
    split
    · exact .refl _
    · split
      · exact .refl _
      · split
        · exact .forEach (fun trv _ => checks _ trv) runtime
        · exact .refl _
  exact (enforces runtime).trans ((schedules _).trans (detects _))

theorem controlRelays_relays (config : HeatingConfig) (runtime : Runtime) :
    Runtime.RelaysKept runtime (env.controlRelays config runtime).1 := by
  have seeds : ∀ (decision : ZoneDecision) (runtime : Runtime),
      Runtime.RelaysKept runtime (env.seedTarget runtime decision) := by
    intro decision runtime
    unfold seedTarget
    split
    · exact .refl _
    · exact .modifyHeatingZone fun _ => rfl
  have commands : ∀ (decision : ZoneDecision) (value : HeatingZoneTarget) (runtime : Runtime),
      Runtime.RelaysKept runtime (env.commandRelay decision value runtime).1 :=
    fun decision value runtime => .modifyHeatingZone fun _ => rfl
  have requests : ∀ (decision : ZoneDecision) (runtime : Runtime),
      Runtime.RelaysKept runtime (env.requestOn config decision runtime).1 := by
    intro decision runtime
    unfold requestOn
    split
    · exact commands _ _ _
    · exact .refl _
  have cancels : ∀ (decision : ZoneDecision) (runtime : Runtime),
      Runtime.RelaysKept runtime (env.cancelOn config decision runtime).1 := by
    intro decision runtime
    unfold cancelOn
    split
    · exact commands _ _ _
    · exact .refl _
  have holds : ∀ (trv : ZoneTrv) (runtime : Runtime),
      Runtime.RelaysKept runtime (env.holdOpen trv runtime).1 := by
    intro trv runtime
    unfold holdOpen
    dsimp only
    split
    · exact .refl _
    · split
      · exact .refl _
      · exact .of_zones rfl rfl rfl
  have stops : ∀ (decisions : List ZoneDecision) (runtime : Runtime),
      Runtime.RelaysKept runtime (env.stopRelays config decisions runtime).1 := by
    intro decisions runtime
    unfold stopRelays
    dsimp only
    split_ifs
    · exact .refl _
    · exact .forEach (fun decision _ => commands decision .off) runtime
    · exact .refl _
    · exact .forEach (fun decision _ => commands decision .off) runtime
    · exact .forEach (fun trv _ => holds trv) runtime
  exact (Runtime.RelaysKept.foldl (fun decision _ => seeds decision) runtime).trans
    ((Runtime.RelaysKept.forEach (fun decision _ => requests decision) _).trans
      ((Runtime.RelaysKept.forEach (fun decision _ => cancels decision) _).trans (stops _ _)))

/-! ## Reports of a relay -/

end Env

namespace Runtime

variable (runtime : Runtime)

/-- The relay of a zone is observed on. -/
def relayOn (name : String) : Bool := (runtime.world.heatingZoneAt name).isRelayOn

theorem relayOn_eq_true_iff (name : String) : runtime.relayOn name = true ↔
    ∃ zone, runtime.world.heatingZones[name]? = some zone ∧ zone.isRelayOn = true := by
  unfold relayOn WorldState.heatingZoneAt
  cases runtime.world.heatingZones[name]? with
  | none => simp [HeatingZoneEntity.isRelayOn, default, TassActual.value]
  | some zone => simp

theorem isPumpRunning_iff : runtime.isPumpRunning = true ↔ ∃ name, runtime.relayOn name = true := by
  unfold isPumpRunning
  rw [OrderedMap.anyValue_eq_true_iff]
  exact exists_congr fun name => (runtime.relayOn_eq_true_iff name).symm

theorem activeRelayCount_eq_zero_iff : runtime.activeRelayCount = 0 ↔
    runtime.isPumpRunning = false := by
  unfold activeRelayCount isPumpRunning
  rw [OrderedMap.anyValue_eq_countValues_pos, decide_eq_false_iff_not]
  omega

theorem activeRelayCount_eq_one_iff {name : String} (on : runtime.relayOn name = true) :
    runtime.activeRelayCount = 1 ↔ ∀ other, other ≠ name → runtime.relayOn other = false := by
  obtain ⟨zone, stored, here⟩ := (runtime.relayOn_eq_true_iff name).mp on
  have replaced := OrderedMap.countValues_insert runtime.world.heatingZones name {}
    HeatingZoneEntity.isRelayOn
  have off : HeatingZoneEntity.isRelayOn {} = false := rfl
  rw [stored, Option.any_some, here, off] at replaced
  have rest := OrderedMap.countValues_eq_zero_iff (runtime.world.heatingZones.insert name {})
    HeatingZoneEntity.isRelayOn
  have count : runtime.activeRelayCount = 1 ↔ OrderedMap.countValues
      (runtime.world.heatingZones.insert name {}) HeatingZoneEntity.isRelayOn = 0 := by
    rw [if_pos rfl, if_neg Bool.false_ne_true] at replaced
    change OrderedMap.countValues runtime.world.heatingZones HeatingZoneEntity.isRelayOn = 1 ↔ _
    omega
  rw [count, rest]
  constructor
  · intro none other different
    rw [← Bool.not_eq_true, runtime.relayOn_eq_true_iff]
    rintro ⟨entity, found, shining⟩
    refine none other entity ?_ shining
    rw [TreeMap.getElem?_insert, if_neg]
    · exact found
    · rw [LawfulEqCmp.compare_eq_iff_eq]
      exact different.symm
  · intro none other entity found shining
    rw [TreeMap.getElem?_insert] at found
    split at found
    · cases found
      cases shining
    · rename_i different
      rw [LawfulEqCmp.compare_eq_iff_eq] at different
      have lit := (runtime.relayOn_eq_true_iff other).mpr ⟨entity, found, shining⟩
      rw [none other fun same => different same.symm] at lit
      cases lit

/-! ## Reports of a relay -/

variable {runtime}

theorem relayOn_modifyHeatingZone (name other : String)
    (change : HeatingZoneEntity → HeatingZoneEntity) :
    (runtime.modifyHeatingZone name change).relayOn other =
      if name = other then (change (runtime.world.heatingZoneAt name)).isRelayOn
      else runtime.relayOn other := by
  unfold relayOn modifyHeatingZone
  dsimp only
  rw [WorldState.heatingZoneAt_modifyHeatingZone]
  split
  · rfl
  · rfl

theorem RelaysKept.relayOn {before after : Runtime} (kept : RelaysKept before after)
    (name : String) : after.relayOn name = before.relayOn name :=
  HeatingZoneEntity.isRelayOn_of_relay (kept.relays name)

theorem RelaysKept.isPumpRunning {before after : Runtime} (kept : RelaysKept before after) :
    after.isPumpRunning = before.isPumpRunning := by
  rw [Bool.eq_iff_iff, isPumpRunning_iff, isPumpRunning_iff]
  exact exists_congr fun name => by rw [kept.relayOn]

/-- The relay of one zone is observed, those of the others are left alone. -/
def Observes (name : String) (on : Bool) (before after : Runtime) : Prop :=
  ∀ other, after.relayOn other = if name = other then on else before.relayOn other

theorem Observes.trans_kept {name : String} {on : Bool} {before middle after : Runtime}
    (observes : Observes name on before middle) (kept : RelaysKept middle after) :
    Observes name on before after := fun other => (kept.relayOn other).trans (observes other)

/-- The OFF command of a zone awaits its report although its relay is observed off, while the pump
runs for other zones. -/
structure AwaitsOff (runtime : Runtime) (name : String) : Prop where
  off : runtime.relayOn name = false
  target : (runtime.world.heatingZoneAt name).target.value = some .off
  commanded : (runtime.world.heatingZoneAt name).target.phase = .commanded
  running : runtime.isPumpRunning = true

/-- What a report of a relay does to the times of the pump. -/
inductive PumpStep (now : Instant) (echo : Prop) (before after : Runtime) : Prop
  | starts (idle : before.isPumpRunning = false) (runs : after.isPumpRunning = true)
      (on : after.pumpOnSince = some now) (off : after.pumpOffSince = none)
  | stops (silent : ¬ echo) (runs : before.isPumpRunning = true)
      (idle : after.isPumpRunning = false) (on : after.pumpOnSince = none)
  | stays (same : after.isPumpRunning = before.isPumpRunning)
      (on : after.pumpOnSince = before.pumpOnSince ∨
        before.isPumpRunning = false ∧ after.pumpOnSince = none)
      (off : ¬ echo → after.pumpOffSince = before.pumpOffSince ∨ before.isPumpRunning = false)
      (echoed : echo → after.pumpOffSince = some now)

theorem isPumpRunning_congr {before after : Runtime}
    (same : ∀ name, after.relayOn name = before.relayOn name) :
    after.isPumpRunning = before.isPumpRunning := by
  rw [Bool.eq_iff_iff, isPumpRunning_iff, isPumpRunning_iff]
  exact exists_congr fun name => by rw [same]

theorem contact_kept {name : String} {on : Bool} (temperature : Option ℚ) (now : Instant)
    (was : runtime.relayOn name = on) (other : String) :
    (runtime.modifyHeatingZone name (·.contact on temperature now)).relayOn other =
      runtime.relayOn other := by
  rw [relayOn_modifyHeatingZone]
  split
  · rename_i same
    subst same
    unfold HeatingZoneEntity.contact
    split
    · rfl
    · exact was.symm
  · rfl

/-- A change of one zone that leaves its relay leaves the relays. -/
theorem relayOn_unchanged {before middle : Runtime}
    (same : ∀ other, middle.relayOn other = before.relayOn other) {name : String}
    {change : HeatingZoneEntity → HeatingZoneEntity}
    (kept : (change (middle.world.heatingZoneAt name)).isRelayOn = before.relayOn name)
    (other : String) : (middle.modifyHeatingZone name change).relayOn other =
      before.relayOn other := by
  rw [relayOn_modifyHeatingZone]
  split
  · rename_i here
    rw [← here]
    exact kept
  · exact same other

/-- The first contact may set the time that the pump has been off since, when it does not run. -/
theorem pump_seeded (runtime : Runtime) (first : Bool) (now : Instant) {seeded : Runtime}
    (seed : (if (first && !runtime.isPumpRunning) = true then
      { runtime with pumpOffSince := runtime.pumpOffSince.or (some now) } else runtime) = seeded) :
    seeded.world = runtime.world ∧ seeded.pumpOnSince = runtime.pumpOnSince ∧
      (seeded.pumpOffSince = runtime.pumpOffSince ∨ runtime.isPumpRunning = false) := by
  split at seed
  · rename_i seeds
    rw [Bool.and_eq_true, Bool.not_eq_true'] at seeds
    rw [← seed]
    exact ⟨rfl, rfl, .inr seeds.2⟩
  · rw [← seed]
    exact ⟨rfl, rfl, .inl rfl⟩

/-- A report that repeats what is known. -/
theorem relayRepeated_pump {name : String} {on : Bool} (was : runtime.relayOn name = on)
    (firstContact : Bool) {relaysOnBefore : Nat}
    (count : relaysOnBefore = 0 ↔ runtime.isPumpRunning = false) (temperature : Option ℚ)
    (now : Instant) :
    let after := runtime.relayRepeated name on firstContact runtime.isPumpRunning relaysOnBefore
      temperature now
    (∀ other, after.relayOn other = runtime.relayOn other) ∧
      PumpStep now (on = false ∧ runtime.AwaitsOff name) runtime after := by
  dsimp only
  unfold relayRepeated
  dsimp only
  generalize seed : (if (firstContact && !on && !runtime.isPumpRunning) = true then
    { runtime with pumpOffSince := runtime.pumpOffSince.or (some now) } else runtime) = seeded
  obtain ⟨world, pumpOn, pumpOff⟩ := runtime.pump_seeded (firstContact && !on) now seed
  have relays : ∀ other, seeded.relayOn other = runtime.relayOn other := by
    intro other
    unfold relayOn
    rw [world]
  have waits (silent : ¬ (on = false ∧ runtime.AwaitsOff name)) :
      (∀ other, seeded.relayOn other = runtime.relayOn other) ∧
        PumpStep now (on = false ∧ runtime.AwaitsOff name) runtime seeded :=
    ⟨relays, .stays (isPumpRunning_congr relays) (.inl pumpOn) (fun _ => pumpOff)
      fun echo => absurd echo silent⟩
  rw [world]
  split
  · rename_i awaited
    rw [Bool.and_eq_true, Bool.not_eq_true', beq_iff_eq] at awaited
    obtain ⟨off, commanded⟩ := awaited
    split
    · rename_i heats
      have silent : ¬ (on = false ∧ runtime.AwaitsOff name) := by
        rintro ⟨_, awaits⟩
        rw [awaits.target] at heats
        cases heats
      split
      · exact waits silent
      · have accepted := @relayOn_unchanged runtime seeded relays name
          (fun zone => zone.acceptOff temperature now) (by rw [was, off]; rfl)
        split
        · rename_i none
          have idle := count.mp none
          exact ⟨accepted, .stays (isPumpRunning_congr accepted) (.inr ⟨idle, rfl⟩)
            (fun _ => .inr idle) fun echo => absurd echo silent⟩
        · exact ⟨accepted, .stays (isPumpRunning_congr accepted) (.inl pumpOn)
            (fun _ => pumpOff) fun echo => absurd echo silent⟩
    · rename_i offTarget
      have confirmed := @relayOn_unchanged runtime seeded relays name
        (fun zone => { zone with target := zone.target.confirm now }) (relays name)
      refine ⟨confirmed, .stays (isPumpRunning_congr confirmed) (.inl pumpOn) (fun silent => ?_)
        fun _ => rfl⟩
      right
      by_contra running
      exact silent ⟨off, was.trans off, offTarget, commanded, by simpa using running⟩
    · rename_i unset
      refine waits fun echo => ?_
      rw [echo.2.target] at unset
      cases unset
  · rename_i settled
    refine waits fun echo => settled ?_
    rw [echo.1, echo.2.commanded]
    rfl

theorem relay_confirmRelay (zone : HeatingZoneEntity) (value : HeatingZoneTarget) (now : Instant) :
    (zone.confirmRelay value now).relay = zone.relay := by
  unfold HeatingZoneEntity.confirmRelay
  split
  · rfl
  · rfl

theorem confirmRelay_kept (runtime : Runtime) (name : String) (value : HeatingZoneTarget)
    (now : Instant) :
    RelaysKept runtime (runtime.modifyHeatingZone name (·.confirmRelay value now)) :=
  .modifyHeatingZone fun entity => relay_confirmRelay entity value now

theorem relay_redirty (zone : HeatingZoneEntity) (now : Instant) :
    (zone.redirty now).relay = zone.relay := by
  unfold HeatingZoneEntity.redirty
  split
  · split
    · rfl
    · rfl
  · rfl

/-- The relay that was written is observed as it was written. -/
theorem observes_modify {before middle : Runtime} {name : String} {on : Bool}
    (others : ∀ other, other ≠ name → middle.relayOn other = before.relayOn other)
    {change : HeatingZoneEntity → HeatingZoneEntity}
    (writes : ∀ zone, (change zone).isRelayOn = on) :
    Observes name on before (middle.modifyHeatingZone name change) := by
  intro other
  rw [relayOn_modifyHeatingZone]
  split
  · exact writes _
  · rename_i different
    exact others other (Ne.symm different)

theorem Observes.running {before after : Runtime} {name : String}
    (observes : Observes name true before after) : after.isPumpRunning = true :=
  after.isPumpRunning_iff.mpr ⟨name, by rw [observes name, if_pos rfl]⟩

/-- A report that a relay turned on. -/
theorem relayTurnedOn_pump {before : Runtime} (zone : HeatingZone) {echo : Prop} (silent : ¬ echo)
    (others : ∀ other, other ≠ zone.name → runtime.relayOn other = before.relayOn other)
    (pumpOn : runtime.pumpOnSince = before.pumpOnSince)
    (pumpOff : runtime.pumpOffSince = before.pumpOffSince) (temperature : Option ℚ)
    (now : Instant) :
    Observes zone.name true before
        (runtime.relayTurnedOn zone before.activeRelayCount temperature now) ∧
      PumpStep now echo before
        (runtime.relayTurnedOn zone before.activeRelayCount temperature now) := by
  unfold relayTurnedOn
  dsimp only
  have observed : Observes zone.name true before (runtime.modifyHeatingZone zone.name fun entity =>
      { entity.observeRelay true temperature now with relayOnSince := some now }) :=
    observes_modify others fun _ => rfl
  have detects (observed : Runtime) : RelaysKept observed
      (if observed.startupComplete then observed.modifyTrvs zone.trvs (·.startDetection now)
        else observed) := by
    split
    · exact .modifyTrvs _ _ _
    · exact .refl _
  have confirmed := (detects (runtime.modifyHeatingZone zone.name fun entity =>
      { entity.observeRelay true temperature now with relayOnSince := some now })).trans
    (confirmRelay_kept _ zone.name .heating now)
  have shown := observed.trans_kept confirmed
  split
  · rename_i none
    have idle := before.activeRelayCount_eq_zero_iff.mp none
    exact ⟨shown, .starts idle (Observes.running shown) rfl rfl⟩
  · rename_i some
    have running : before.isPumpRunning = true := by
      by_contra idle
      exact some (before.activeRelayCount_eq_zero_iff.mpr (by simpa using idle))
    refine ⟨shown, .stays (shown.running.trans running.symm) (.inl ?_) (fun _ => .inl ?_)
      fun echo => absurd echo silent⟩
    · exact confirmed.pumpOn.trans pumpOn
    · exact confirmed.pumpOff.trans pumpOff

/-- A report that a relay turned off. -/
theorem relayTurnedOff_pump {before : Runtime} (zone : HeatingZone) {echo : Prop} (silent : ¬ echo)
    (was : before.relayOn zone.name = true)
    (others : ∀ other, other ≠ zone.name → runtime.relayOn other = before.relayOn other)
    (pumpOn : runtime.pumpOnSince = before.pumpOnSince)
    (pumpOff : runtime.pumpOffSince = before.pumpOffSince) (temperature : Option ℚ)
    (now : Instant) :
    Observes zone.name false before
        (runtime.relayTurnedOff zone before.activeRelayCount temperature now) ∧
      PumpStep now echo before
        (runtime.relayTurnedOff zone before.activeRelayCount temperature now) := by
  have running : before.isPumpRunning = true := before.isPumpRunning_iff.mpr ⟨_, was⟩
  unfold relayTurnedOff
  dsimp only
  have observed : Observes zone.name false before (runtime.modifyHeatingZone zone.name fun entity =>
      { entity.observeRelay false temperature now with relayOnSince := none }) :=
    observes_modify others fun _ => rfl
  have kept := (RelaysKept.modifyTrvs (runtime.modifyHeatingZone zone.name fun entity =>
      { entity.observeRelay false temperature now with relayOnSince := none }) zone.trvs
      (·.relayTurnedOff now)).trans
    (confirmRelay_kept _ zone.name .off now)
  have shown := observed.trans_kept kept
  split
  · rename_i single
    have alone := (before.activeRelayCount_eq_one_iff was).mp single
    refine ⟨shown, .stops silent running ?_ rfl⟩
    rw [← Bool.not_eq_true, isPumpRunning_iff]
    rintro ⟨other, on⟩
    have off := shown other
    split at off
    · exact absurd (on.symm.trans off) (by simp)
    · rename_i different
      rw [alone other (Ne.symm different)] at off
      exact absurd (on.symm.trans off) (by simp)
  · rename_i several
    have still : ∃ other, other ≠ zone.name ∧ before.relayOn other = true := by
      by_contra none
      push Not at none
      exact several ((before.activeRelayCount_eq_one_iff was).mpr
        fun other different => by simpa using none other different)
    obtain ⟨other, different, on⟩ := still
    refine ⟨shown, .stays (Eq.trans ?_ running.symm) (.inl ?_) (fun _ => .inl ?_)
      fun echo => absurd echo silent⟩
    · refine (isPumpRunning_iff _).mpr ⟨other, (shown other).trans ?_⟩
      rw [if_neg (Ne.symm different)]
      exact on
    · exact kept.pumpOn.trans pumpOn
    · exact kept.pumpOff.trans pumpOff

theorem PumpStep.trans_kept {now : Instant} {echo : Prop} {before middle after : Runtime}
    (step : PumpStep now echo before middle) (kept : RelaysKept middle after) :
    PumpStep now echo before after := by
  have running := kept.isPumpRunning
  cases step with
  | starts idle runs on off =>
      exact .starts idle (running.trans runs) (kept.pumpOn.trans on) (kept.pumpOff.trans off)
  | stops silent runs idle on =>
      exact .stops silent runs (running.trans idle) (kept.pumpOn.trans on)
  | stays same on off echoed =>
      refine .stays (running.trans same) ?_ ?_ ?_
      · rw [kept.pumpOn]
        exact on
      · rw [kept.pumpOff]
        exact off
      · rw [kept.pumpOff]
        exact echoed

theorem PumpStep.of_kept {now : Instant} {echo : Prop} {before middle after : Runtime}
    (kept : RelaysKept before middle) (step : PumpStep now echo middle after) :
    PumpStep now echo before after := by
  have running := kept.isPumpRunning
  cases step with
  | starts idle runs on off => exact .starts (running.symm.trans idle) runs on off
  | stops silent runs idle on => exact .stops silent (running.symm.trans runs) idle on
  | stays same on off echoed =>
      rw [running, kept.pumpOn] at on
      rw [running, kept.pumpOff] at off
      exact .stays (same.trans running) on off echoed

/-- A first report of what is taken for granted leaves the relay awaiting the same. -/
theorem contact_awaitsOff {name : String} {on : Bool} (temperature : Option ℚ) (now : Instant)
    (was : runtime.relayOn name = on) :
    (runtime.modifyHeatingZone name (·.contact on temperature now)).AwaitsOff name ↔
      runtime.AwaitsOff name := by
  have kept := contact_kept temperature now was
  have running := isPumpRunning_congr kept
  have target : ((runtime.modifyHeatingZone name
      (·.contact on temperature now)).world.heatingZoneAt name).target =
        (runtime.world.heatingZoneAt name).target := by
    unfold modifyHeatingZone
    dsimp only
    rw [WorldState.heatingZoneAt_modifyHeatingZone, if_pos rfl]
    unfold HeatingZoneEntity.contact
    split
    · rfl
    · rfl
  constructor
  · rintro ⟨off, value, commanded, runs⟩
    exact ⟨(kept name).symm.trans off, target ▸ value, target ▸ commanded, running ▸ runs⟩
  · rintro ⟨off, value, commanded, runs⟩
    exact ⟨(kept name).trans off, target ▸ value, target ▸ commanded, running ▸ runs⟩

/-- Taking in the relay state of a report. -/
theorem observeRelay_pump (zone : HeatingZone) (on : Bool) (temperature : Option ℚ) (now : Instant)
    (runtime : Runtime) :
    Observes zone.name on runtime (runtime.observeRelay zone on temperature now) ∧
      PumpStep now (on = false ∧ runtime.AwaitsOff zone.name) runtime
        (runtime.observeRelay zone on temperature now) := by
  have others : ∀ other, other ≠ zone.name → (runtime.modifyHeatingZone zone.name
      (·.contact on temperature now)).relayOn other = runtime.relayOn other := by
    intro other different
    rw [relayOn_modifyHeatingZone, if_neg (Ne.symm different)]
  unfold observeRelay
  dsimp only
  split
  · rename_i was
    have kept := contact_kept temperature now was
    have running := isPumpRunning_congr kept
    have count : runtime.activeRelayCount = 0 ↔ (runtime.modifyHeatingZone zone.name
        (·.contact on temperature now)).isPumpRunning = false := by
      rw [running]
      exact runtime.activeRelayCount_eq_zero_iff
    obtain ⟨same, step⟩ := relayRepeated_pump ((kept zone.name).trans was)
      (!(runtime.world.heatingZoneAt zone.name).relayStateKnown) count temperature now
    rw [running] at same step
    refine ⟨fun other => ?_, ?_⟩
    · rw [same, kept]
      split
      · rename_i here
        rw [← here]
        exact was
      · rfl
    · rw [contact_awaitsOff temperature now was] at step
      cases step with
      | starts idle runs on off => exact .starts (running ▸ idle) runs on off
      | stops silent runs idle on => exact .stops silent (running ▸ runs) idle on
      | stays same on off echoed =>
          rw [running] at same on off
          exact .stays same on off echoed
  · rename_i changed
    have redirtied (middle : Runtime) :
        RelaysKept middle (middle.modifyHeatingZone zone.name (·.redirty now)) :=
      .modifyHeatingZone fun entity => relay_redirty entity now
    cases on with
    | true =>
        have silent : ¬ (true = false ∧ runtime.AwaitsOff zone.name) := by simp
        obtain ⟨shown, step⟩ := relayTurnedOn_pump zone silent others rfl rfl temperature now
        rw [if_pos rfl]
        exact ⟨shown.trans_kept (redirtied _), step.trans_kept (redirtied _)⟩
    | false =>
        have was : runtime.relayOn zone.name = true := by
          unfold relayOn
          simpa using changed
        have silent : ¬ (false = false ∧ runtime.AwaitsOff zone.name) :=
          fun echo => absurd echo.2.off (by simp [was])
        obtain ⟨shown, step⟩ := relayTurnedOff_pump zone silent was others rfl rfl temperature now
        rw [if_neg (by simp)]
        exact ⟨shown.trans_kept (redirtied _), step.trans_kept (redirtied _)⟩

end Runtime

namespace Operation

variable {env : Env}

/-- The zone and relay state that a thermostat report is about. -/
def relayReport : Operation → Option (HeatingZone × Bool)
  | observeThermostat config device (some on) _ _ =>
      (config.zoneOfRelay device).map fun zone => (zone, on)
  | _ => none

/-- Other operations leave the relays and the pump alone. -/
theorem run_relays {operation : Operation} (admissible : operation.Admissible env.topology)
    (silent : operation.relayReport = none) (runtime : Runtime) :
    Runtime.RelaysKept runtime (operation.run env runtime).1 := by
  cases operation with
  | observeTrv config device report =>
      change Runtime.RelaysKept runtime (env.handleTrvState config device report runtime)
      unfold Env.handleTrvState
      split
      · exact .modifyTrv _ _ _
      · exact .refl _
  | observeThermostat config device relayOn temperature mode =>
      change Runtime.RelaysKept runtime
        (env.handleWallThermostatState config device relayOn temperature mode runtime)
      unfold Env.handleWallThermostatState
      split
      · exact .refl _
      · rename_i zone found
        cases relayOn with
        | none => exact .modifyHeatingZone fun _ => rfl
        | some on => simp [relayReport, found] at silent
  | ageTargets ts =>
      refine ⟨fun name => ?_, rfl, rfl⟩
      change (((runtime.world.ageTargets ts).heatingZones[name]?).getD default).relay = _
      unfold WorldState.ageTargets WorldState.heatingZoneAt
      rw [OrderedMap.getElem?_mapValues]
      cases runtime.world.heatingZones[name]? with
      | none => rfl
      | some zone => rfl
  | beginHeatingTick config => exact Env.beginHeatingTick_relays config runtime
  | controlValves config => exact Env.controlValves_relays config runtime
  | controlRelays config => exact Env.controlRelays_relays config runtime
  | _ =>
      have same := run_heating admissible rfl runtime
      exact .of_zones (congrArg Heating.zones same) (congrArg Heating.pumpOnSince same)
        (congrArg Heating.pumpOffSince same)

/-- A report of a relay changes what is observed of this relay. -/
theorem run_pump (env : Env) {operation : Operation} {zone : HeatingZone} {on : Bool}
    (report : operation.relayReport = some (zone, on)) (runtime : Runtime) :
    Runtime.Observes zone.name on runtime (operation.run env runtime).1 ∧
      Runtime.PumpStep env.clock.now (on = false ∧ runtime.AwaitsOff zone.name) runtime
        (operation.run env runtime).1 := by
  cases operation with
  | observeThermostat config device relayOn temperature mode =>
      cases relayOn with
      | none => cases report
      | some reported =>
          obtain ⟨found, here, same⟩ := Option.map_eq_some_iff.mp report
          cases same
          change Runtime.Observes zone.name on runtime
              (env.handleWallThermostatState config device (some on) temperature mode runtime) ∧
            Runtime.PumpStep env.clock.now (on = false ∧ runtime.AwaitsOff zone.name) runtime
              (env.handleWallThermostatState config device (some on) temperature mode runtime)
          unfold Env.handleWallThermostatState
          rw [here]
          dsimp only
          have seen : Runtime.RelaysKept runtime (runtime.modifyHeatingZone zone.name fun entity =>
              { entity with
                wtLastSeen := some env.clock.now
                wtOperatingMode := mode.or entity.wtOperatingMode }) :=
            .modifyHeatingZone fun _ => rfl
          have target : ((runtime.modifyHeatingZone zone.name fun entity =>
              { entity with
                wtLastSeen := some env.clock.now
                wtOperatingMode := mode.or entity.wtOperatingMode }).world.heatingZoneAt
                  zone.name).target = (runtime.world.heatingZoneAt zone.name).target := by
            unfold Runtime.modifyHeatingZone
            dsimp only
            rw [WorldState.heatingZoneAt_modifyHeatingZone, if_pos rfl]
          obtain ⟨shown, step⟩ := Runtime.observeRelay_pump zone on temperature env.clock.now
            (runtime.modifyHeatingZone zone.name fun entity =>
              { entity with
                wtLastSeen := some env.clock.now
                wtOperatingMode := mode.or entity.wtOperatingMode })
          refine ⟨fun other => (shown other).trans (by rw [seen.relayOn]), ?_⟩
          have awaits : (on = false ∧ (runtime.modifyHeatingZone zone.name fun entity =>
              { entity with
                wtLastSeen := some env.clock.now
                wtOperatingMode := mode.or entity.wtOperatingMode }).AwaitsOff zone.name) ↔
                (on = false ∧ runtime.AwaitsOff zone.name) := by
            refine and_congr_right fun _ => ?_
            constructor
            · rintro ⟨off, value, commanded, runs⟩
              exact ⟨(seen.relayOn _).symm.trans off, target ▸ value, target ▸ commanded,
                seen.isPumpRunning ▸ runs⟩
            · rintro ⟨off, value, commanded, runs⟩
              exact ⟨(seen.relayOn _).trans off, target.symm ▸ value, target.symm ▸ commanded,
                seen.isPumpRunning.symm ▸ runs⟩
          rw [awaits] at step
          exact step.of_kept seen
  | _ => cases report

end Operation

namespace Record

/-- The time of a report that raised the number of relays that are observed on from zero. -/
def pumpStart (record : Record) : Option Instant :=
  if record.operation.relayReport.isSome ∧ record.before.activeRelayCount = 0 ∧
      1 ≤ record.after.activeRelayCount then some record.env.clock.now
  else none

/-- A report repeats OFF for a zone whose OFF command awaits its report, while the pump runs. -/
def EchoesOff (record : Record) : Prop :=
  ∃ zone, record.operation.relayReport = some (zone, false) ∧ record.before.AwaitsOff zone.name

end Record

/-- The pump has a start exactly while a relay is observed on, the report that turned the first one
on, and never a stop besides. -/
structure PumpKept (history : List Record) (runtime : Runtime) : Prop where
  running : runtime.pumpOnSince.isSome ↔ 1 ≤ runtime.activeRelayCount
  started : runtime.pumpOnSince.isSome → runtime.pumpOnSince = lastPicked Record.pumpStart history
  exclusive : ¬ (runtime.pumpOnSince.isSome ∧ runtime.pumpOffSince.isSome)

namespace Runtime

variable {history : List Record} {runtime : Runtime} {record : Record}

/-- The start of the pump follows the relays. -/
structure FollowsRelays (history : List Record) (runtime : Runtime) : Prop where
  started : runtime.isPumpRunning = true → ∃ start,
    lastPicked Record.pumpStart history = some start ∧ runtime.pumpOnSince = some start
  stopped : runtime.isPumpRunning = false → runtime.pumpOnSince = none

theorem one_le_activeRelayCount_iff (runtime : Runtime) :
    1 ≤ runtime.activeRelayCount ↔ runtime.isPumpRunning = true := by
  rw [← Bool.not_eq_false, ← activeRelayCount_eq_zero_iff]
  omega

theorem pumpStart_eq (record : Record) : record.pumpStart =
    if record.operation.relayReport.isSome ∧ record.before.isPumpRunning = false ∧
      record.after.isPumpRunning = true then some record.env.clock.now else none := by
  unfold Record.pumpStart
  simp only [activeRelayCount_eq_zero_iff, one_le_activeRelayCount_iff]

/-- What one operation does to the relays and the pump. -/
theorem pump_cases (admissible : record.operation.Admissible record.env.topology) :
    (record.pumpStart = none ∧ ¬ record.EchoesOff ∧ RelaysKept record.before record.after) ∨
      (record.operation.relayReport.isSome ∧
        PumpStep record.env.clock.now record.EchoesOff record.before record.after) := by
  cases report : record.operation.relayReport with
  | none =>
      refine .inl ⟨?_, ?_, Operation.run_relays admissible report record.before⟩
      · rw [pumpStart_eq, report]
        exact if_neg (by simp)
      · rintro ⟨zone, other, _⟩
        rw [report] at other
        cases other
  | some found =>
      obtain ⟨zone, on⟩ := found
      have step := (Operation.run_pump record.env report record.before).2
      have echo : record.EchoesOff ↔ on = false ∧ record.before.AwaitsOff zone.name := by
        unfold Record.EchoesOff
        rw [report]
        constructor
        · rintro ⟨other, same, awaits⟩
          cases same
          exact ⟨rfl, awaits⟩
        · rintro ⟨rfl, awaits⟩
          exact ⟨zone, rfl, awaits⟩
      refine .inr ⟨rfl, ?_⟩
      rw [echo]
      exact step

theorem FollowsRelays.step (follows : FollowsRelays history record.before)
    (admissible : record.operation.Admissible record.env.topology) :
    FollowsRelays (history ++ [record]) record.after := by
  rcases pump_cases admissible with ⟨none, _, kept⟩ | ⟨report, step⟩
  · refine ⟨fun runs => ?_, fun idle => ?_⟩
    · rw [lastPicked_concat, none, Option.none_or, kept.pumpOn]
      exact follows.started (kept.isPumpRunning ▸ runs)
    · rw [kept.pumpOn]
      exact follows.stopped (kept.isPumpRunning ▸ idle)
  · cases step with
    | starts idle runs on off =>
        refine ⟨fun _ => ⟨record.env.clock.now, ?_, on⟩, fun idle => ?_⟩
        · rw [lastPicked_concat, pumpStart_eq, if_pos ⟨report, idle, runs⟩]
          rfl
        · rw [runs] at idle
          cases idle
    | stops silent runs idle on =>
        refine ⟨fun runs => ?_, fun _ => on⟩
        rw [idle] at runs
        cases runs
    | stays same on off echoed =>
        have none : record.pumpStart = none := by
          rw [pumpStart_eq, if_neg]
          rintro ⟨_, idle, runs⟩
          rw [same, idle] at runs
          cases runs
        refine ⟨fun runs => ?_, fun idle => ?_⟩
        · obtain ⟨start, picked, before⟩ := follows.started (same ▸ runs)
          refine ⟨start, by rw [lastPicked_concat, none, Option.none_or, picked], ?_⟩
          rcases on with on | ⟨idle, _⟩
          · rw [on, before]
          · rw [same, idle] at runs
            cases runs
        · rcases on with on | ⟨_, on⟩
          · rw [on]
            exact follows.stopped (same ▸ idle)
          · exact on

/-- A report that echoes OFF sets a stop of the pump besides its start. -/
theorem both_of_echo (follows : FollowsRelays history record.before)
    (admissible : record.operation.Admissible record.env.topology) (echo : record.EchoesOff) :
    record.after.pumpOnSince.isSome ∧ record.after.pumpOffSince.isSome := by
  obtain ⟨zone, report, awaits⟩ := id echo
  have running := awaits.running
  obtain ⟨start, _, before⟩ := follows.started running
  rcases pump_cases admissible with ⟨_, silent, _⟩ | ⟨_, step⟩
  · exact absurd echo silent
  · cases step with
    | starts idle runs on off =>
        rw [running] at idle
        cases idle
    | stops silent runs idle on => exact absurd echo silent
    | stays same on off echoed =>
        have kept : record.after.pumpOnSince = record.before.pumpOnSince :=
          on.resolve_right fun idle => by simp [running] at idle
        rw [kept, before, echoed echo]
        exact ⟨rfl, rfl⟩

/-- The pump is never known both to run and to stand, unless a report echoes OFF. -/
theorem exclusive_step (follows : FollowsRelays history record.before)
    (admissible : record.operation.Admissible record.env.topology) (silent : ¬ record.EchoesOff)
    (exclusive : ¬ (record.before.pumpOnSince.isSome ∧ record.before.pumpOffSince.isSome)) :
    ¬ (record.after.pumpOnSince.isSome ∧ record.after.pumpOffSince.isSome) := by
  rcases pump_cases admissible with ⟨_, _, kept⟩ | ⟨_, step⟩
  · rw [kept.pumpOn, kept.pumpOff]
    exact exclusive
  · cases step with
    | starts idle runs on off => simp [off]
    | stops _ runs idle on => simp [on]
    | stays same on off echoed =>
        by_cases running : record.before.isPumpRunning = true
        · have kept : record.after.pumpOnSince = record.before.pumpOnSince :=
            on.resolve_right fun idle => by simp [running] at idle
          have stayed : record.after.pumpOffSince = record.before.pumpOffSince :=
            (off silent).resolve_right fun idle => by simp [running] at idle
          rw [kept, stayed]
          exact exclusive
        · have none : record.after.pumpOnSince = none := by
            rcases on with on | ⟨_, on⟩
            · rw [on]
              exact follows.stopped (by simpa using running)
            · exact on
          simp [none]

end Runtime

/-- The start of the pump follows the relays along every run, and while no report echoes OFF the
pump has no stop besides. -/
theorem Runtime.pump_kept : KeptByOperations fun _ history runtime =>
    Runtime.FollowsRelays history runtime ∧
      ((∀ record ∈ history, ¬ record.EchoesOff) →
        ¬ (runtime.pumpOnSince.isSome ∧ runtime.pumpOffSince.isSome)) where
  launch topology := by
    refine ⟨⟨fun runs => ?_, fun _ => rfl⟩, fun _ => by simp⟩
    obtain ⟨name, on⟩ := (Runtime.isPumpRunning_iff _).mp runs
    cases on
  operation env operation past runtime admissible _ holds := by
    have follows : Runtime.FollowsRelays (past ++ [{ env, before := runtime, operation }])
        (Record.after { env, before := runtime, operation }) := holds.1.step admissible
    refine ⟨follows, fun silent => ?_⟩
    have before := holds.2 fun record member => silent record (List.mem_append_left _ member)
    exact Runtime.exclusive_step holds.1 admissible
      (silent { env, before := runtime, operation } (by simp)) before

theorem PumpKept.of_follows {history : List Record} {runtime : Runtime}
    (follows : Runtime.FollowsRelays history runtime)
    (exclusive : ¬ (runtime.pumpOnSince.isSome ∧ runtime.pumpOffSince.isSome)) :
    PumpKept history runtime where
  running := by
    rw [Runtime.one_le_activeRelayCount_iff]
    constructor
    · intro some
      by_contra idle
      rw [follows.stopped (by simpa using idle)] at some
      cases some
    · intro runs
      obtain ⟨start, _, same⟩ := follows.started runs
      rw [same]
      rfl
  started some := by
    by_cases runs : runtime.isPumpRunning = true
    · obtain ⟨start, picked, same⟩ := follows.started runs
      rw [same, picked]
    · rw [follows.stopped (by simpa using runs)] at some
      cases some
  exclusive := exclusive

/-- In a run the times of the pump follow the relays in every state exactly when no report repeats
OFF for a zone whose OFF command awaits its report while the pump runs for other zones. -/
theorem Run.pump_kept_iff {history : List Record} {daemon : Daemon} (run : Run history daemon) :
    ((∀ past record later, history = past ++ record :: later →
        PumpKept (past ++ [record]) record.after) ∧
      PumpKept history daemon.processor.runtime) ↔
        ∀ record ∈ history, ¬ record.EchoesOff := by
  constructor
  · rintro ⟨kept, _⟩ record member
    obtain ⟨past, later, split⟩ := List.append_of_mem member
    obtain ⟨admissible, _, follows, _⟩ := run.each_record Runtime.pump_kept split
    exact fun echo => (kept past record later split).exclusive
      (Runtime.both_of_echo follows admissible echo)
  · intro silent
    refine ⟨fun past record later split => ?_, ?_⟩
    · obtain ⟨admissible, _, follows, exclusive⟩ := run.each_record Runtime.pump_kept split
      have quiet : ∀ other ∈ past ++ [record], ¬ other.EchoesOff := by
        intro other member
        refine silent other ?_
        rw [split]
        rcases List.mem_append.mp member with early | last
        · exact List.mem_append_left _ early
        · rw [List.mem_singleton.mp last]
          exact List.mem_append_right _ List.mem_cons_self
      have before := exclusive fun other member => quiet other (List.mem_append_left _ member)
      exact .of_follows (follows.step admissible)
        (Runtime.exclusive_step follows admissible (quiet record (by simp)) before)
    · obtain ⟨follows, exclusive⟩ := run.invariant_of_operations Runtime.pump_kept
      exact .of_follows follows (exclusive silent)

/-- A thermostat of the house reports its relay. -/
def House.relay (device : String) (on : Bool) (seconds : Nat) : Nat × Input :=
  (seconds, .event (.wallThermostatState device (some on) none none (Duration.fromSecs seconds)))

/-- Both zones ask for heat; upstairs the relay turns on, and downstairs the demand goes away. -/
def House.halfHeated : List (Nat × Input) :=
  [relay "relay-up" false 0, relay "relay-down" false 0, (0, .start), tick 1,
    valve "valve-up" (some 80) (some 21) 2, valve "valve-down" (some 80) (some 21) 2, tick 310,
    relay "relay-up" true 311, valve "valve-down" (some 0) (some 21) 312, tick 1000]

theorem Record.not_echoesOff {record : Record}
    (idle : (record.operation.relayReport.all fun report : HeatingZone × Bool =>
      report.2 || !record.before.isPumpRunning) = true) : ¬ record.EchoesOff := by
  rintro ⟨zone, report, awaits⟩
  rw [report, Option.all_some, Bool.false_or, awaits.running] at idle
  cases idle

/-- The relay upstairs started the pump. -/
theorem Run.pump_kept_iff_upstairs : ∃ (history : List Record) (daemon : Daemon),
    Run history daemon ∧ daemon.processor.runtime.pumpOnSince = some (Duration.fromSecs 311) ∧
      PumpKept history daemon.processor.runtime := by
  obtain ⟨daemon, history, run, _, facts⟩ := House.played .offOnly [] House.halfHeated
    (fun reached : Daemon × List Record =>
      (reached.1.processor.runtime.pumpOnSince, reached.2.all fun record : Record =>
        record.operation.relayReport.all fun report : HeatingZone × Bool =>
          report.2 || !record.before.isPumpRunning))
    (some (Duration.fromSecs 311), true) (by decide +kernel)
  rw [Prod.mk.injEq] at facts
  refine ⟨history, daemon, run, facts.1, ((Run.pump_kept_iff run).mpr fun record member => ?_).2⟩
  exact Record.not_echoesOff (List.all_eq_true.mp facts.2 record member)

/-- Downstairs the relay confirms that it is off: the pump has a start and a stop. -/
theorem Run.pump_kept_fails : ∃ (history : List Record) (daemon : Daemon),
    Run history daemon ∧ daemon.processor.runtime.activeRelayCount = 1 ∧
      ¬ PumpKept history daemon.processor.runtime := by
  obtain ⟨daemon, history, run, _, facts⟩ := House.played .offOnly []
    (House.halfHeated ++ [House.relay "relay-down" false 1001])
    (fun reached : Daemon × List Record =>
      let runtime := reached.1.processor.runtime
      (runtime.activeRelayCount, runtime.pumpOnSince, runtime.pumpOffSince))
    (1, some (Duration.fromSecs 311), some (Duration.fromSecs 1001)) (by decide +kernel)
  simp only [Prod.mk.injEq] at facts
  obtain ⟨count, on, off⟩ := facts
  refine ⟨history, daemon, run, count, fun kept => kept.exclusive ?_⟩
  rw [on, off]
  exact ⟨rfl, rfl⟩

end MqttController
