import MqttController.OpenWindows
import MqttController.RelayDecisions

/-!
# Heat demand that is served

A zone that is told to heat while its relay is off is told again on every tick, unless it was given
that target without a command.
-/

namespace MqttController

open Std Emission

namespace HeatingZoneEntity

/-- What the evaluation has told the zone, and when. -/
def command (zone : HeatingZoneEntity) : TassTarget HeatingZoneTarget × Nat :=
  (zone.target, zone.desiredRelayGen)

/-- What a report that repeats the known state of its relay makes of a zone. -/
def repeated (zone : HeatingZoneEntity) (on : Bool) (temperature : Option ℚ) (now : Instant) :
    HeatingZoneEntity :=
  if !on && zone.target.phase == .commanded then
    match zone.target.value with
    | some .heating => if zone.withinGrace now then zone else zone.acceptOff temperature now
    | some .off => { zone with target := zone.target.confirm now }
    | none => zone
  else zone

/-- What a report that its relay turned on makes of a zone. -/
def turnedOn (zone : HeatingZoneEntity) (temperature : Option ℚ) (now : Instant) :
    HeatingZoneEntity :=
  { zone.observeRelay true temperature now with relayOnSince := some now }.confirmRelay .heating now

/-- What a report that its relay turned off makes of a zone. -/
def turnedOff (zone : HeatingZoneEntity) (temperature : Option ℚ) (now : Instant) :
    HeatingZoneEntity :=
  { zone.observeRelay false temperature now with relayOnSince := none }.confirmRelay .off now

/-- What a report of its relay makes of a zone. -/
def reported (zone : HeatingZoneEntity) (on : Bool) (temperature : Option ℚ) (now : Instant) :
    HeatingZoneEntity :=
  let contacted := zone.contact on temperature now
  if zone.isRelayOn = on then contacted.repeated on temperature now
  else if on then (contacted.turnedOn temperature now).redirty now
  else (contacted.turnedOff temperature now).redirty now

/-- What an operation other than the control of relays does to a zone. -/
inductive Step (env : Env) : HeatingZoneEntity → HeatingZoneEntity → Prop
  /-- The command and the observed relay stay. -/
  | kept {before after : HeatingZoneEntity} (command : after.command = before.command)
      (relay : after.relay = before.relay) : Step env before after
  /-- A command becomes too old. -/
  | aged (zone : HeatingZoneEntity) (ts : Instant) : Step env zone (zone.age ts)
  /-- The thermostat reports its relay. -/
  | reported {before seen : HeatingZoneEntity} (command : seen.command = before.command)
      (relay : seen.relay = before.relay) (on : Bool) (temperature : Option ℚ) :
      Step env before (seen.reported on temperature env.clock.now)

end HeatingZoneEntity

namespace Runtime

theorem heatingZoneAt_modifyTrvs (runtime : Runtime) (trvs : List ZoneTrv)
    (change : TrvEntity → TrvEntity) (name : String) :
    (runtime.modifyTrvs trvs change).world.heatingZoneAt name =
      runtime.world.heatingZoneAt name := by
  unfold modifyTrvs
  apply foldl_keeps (fun runtime : Runtime => runtime.world.heatingZoneAt name)
  intro trv _ runtime
  rfl

theorem heatingZoneAt_modifyHeatingZone (runtime : Runtime) (name other : String)
    (change : HeatingZoneEntity → HeatingZoneEntity) :
    (runtime.modifyHeatingZone name change).world.heatingZoneAt other =
      if name = other then change (runtime.world.heatingZoneAt name)
      else runtime.world.heatingZoneAt other :=
  runtime.world.heatingZoneAt_modifyHeatingZone name other change

variable (zone : HeatingZone) (count : Nat) (temperature : Option ℚ) (now : Instant)
  (runtime : Runtime) (name : String)

theorem heatingZoneAt_relayRepeated (on firstContact pumpRunning : Bool) :
    (runtime.relayRepeated zone.name on firstContact pumpRunning count temperature
        now).world.heatingZoneAt name =
      if zone.name = name then (runtime.world.heatingZoneAt zone.name).repeated on temperature now
      else runtime.world.heatingZoneAt name := by
  unfold relayRepeated HeatingZoneEntity.repeated
  extract_lets seeded entity
  have same : seeded.world = runtime.world := by
    unfold seeded
    split
    · rfl
    · rfl
  have kept : seeded.world.heatingZoneAt name =
      if zone.name = name then runtime.world.heatingZoneAt zone.name
      else runtime.world.heatingZoneAt name := by
    rw [same]
    split
    · rename_i named
      rw [named]
    · rfl
  have changed (change : HeatingZoneEntity → HeatingZoneEntity) :
      (seeded.modifyHeatingZone zone.name change).world.heatingZoneAt name =
        if zone.name = name then change (runtime.world.heatingZoneAt zone.name)
        else runtime.world.heatingZoneAt name := by
    rw [heatingZoneAt_modifyHeatingZone, same]
  have here : entity = runtime.world.heatingZoneAt zone.name :=
    congrArg (fun world : WorldState => world.heatingZoneAt zone.name) same
  rw [here]
  split
  · cases (runtime.world.heatingZoneAt zone.name).target.value with
    | none => exact kept
    | some value =>
        cases value with
        | heating =>
            dsimp only
            split
            · exact kept
            · split
              · exact changed _
              · exact changed _
        | off => exact changed _
  · exact kept

theorem heatingZoneAt_relayTurnedOn :
    (runtime.relayTurnedOn zone count temperature now).world.heatingZoneAt name =
      if zone.name = name then (runtime.world.heatingZoneAt zone.name).turnedOn temperature now
      else runtime.world.heatingZoneAt name := by
  unfold relayTurnedOn
  extract_lets observed detecting confirmed
  have same (other : String) :
      detecting.world.heatingZoneAt other = observed.world.heatingZoneAt other := by
    unfold detecting
    split
    · exact heatingZoneAt_modifyTrvs _ _ _ other
    · rfl
  have done : confirmed.world.heatingZoneAt name =
      if zone.name = name then (runtime.world.heatingZoneAt zone.name).turnedOn temperature now
      else runtime.world.heatingZoneAt name := by
    unfold confirmed
    rw [heatingZoneAt_modifyHeatingZone, same, same]
    unfold observed
    rw [heatingZoneAt_modifyHeatingZone, heatingZoneAt_modifyHeatingZone, if_pos rfl]
    split
    · rfl
    · rfl
  split
  · exact done
  · exact done

theorem heatingZoneAt_relayTurnedOff :
    (runtime.relayTurnedOff zone count temperature now).world.heatingZoneAt name =
      if zone.name = name then (runtime.world.heatingZoneAt zone.name).turnedOff temperature now
      else runtime.world.heatingZoneAt name := by
  unfold relayTurnedOff
  extract_lets observed released confirmed
  have done : confirmed.world.heatingZoneAt name =
      if zone.name = name then (runtime.world.heatingZoneAt zone.name).turnedOff temperature now
      else runtime.world.heatingZoneAt name := by
    unfold confirmed released
    rw [heatingZoneAt_modifyHeatingZone, heatingZoneAt_modifyTrvs, heatingZoneAt_modifyTrvs]
    unfold observed
    rw [heatingZoneAt_modifyHeatingZone, heatingZoneAt_modifyHeatingZone, if_pos rfl]
    split
    · rfl
    · rfl
  split
  · exact done
  · exact done

/-- A report of a relay changes the zone of the relay only. -/
theorem heatingZoneAt_observeRelay (on : Bool) :
    (runtime.observeRelay zone on temperature now).world.heatingZoneAt name =
      if zone.name = name then
        (runtime.world.heatingZoneAt zone.name).reported on temperature now
      else runtime.world.heatingZoneAt name := by
  unfold observeRelay HeatingZoneEntity.reported
  dsimp only
  split
  · rw [heatingZoneAt_relayRepeated, heatingZoneAt_modifyHeatingZone,
      heatingZoneAt_modifyHeatingZone, if_pos rfl]
    split
    · rfl
    · rfl
  · cases on with
    | true =>
        rw [heatingZoneAt_modifyHeatingZone, if_pos rfl, heatingZoneAt_relayTurnedOn,
          heatingZoneAt_relayTurnedOn, heatingZoneAt_modifyHeatingZone,
          heatingZoneAt_modifyHeatingZone, if_pos rfl, if_pos rfl]
        split
        · rfl
        · rfl
    | false =>
        rw [heatingZoneAt_modifyHeatingZone, if_neg Bool.false_ne_true,
          heatingZoneAt_relayTurnedOff, heatingZoneAt_relayTurnedOff,
          heatingZoneAt_modifyHeatingZone, heatingZoneAt_modifyHeatingZone, if_pos rfl, if_pos rfl]
        split
        · rfl
        · rfl

end Runtime

/-! ## What operations do to a zone -/

/-- What the evaluation has told every zone. -/
def Runtime.commands (runtime : Runtime) (name : String) : TassTarget HeatingZoneTarget × Nat :=
  (runtime.world.heatingZoneAt name).command

/-- The zones and the number of the tick. -/
abbrev Runtime.ticking (runtime : Runtime) : NameMap HeatingZoneEntity × Nat :=
  (runtime.world.heatingZones, runtime.heatingTickGen)

namespace Env

variable (env : Env)

theorem detectOpenWindow_ticking (config : HeatingConfig) (relayOnSince : Instant)
    (trv : ZoneTrv) :
    Leaves Runtime.ticking (fun _ => True) (env.detectOpenWindow config relayOnSince trv) := by
  intro runtime
  refine ⟨?_, by simp⟩
  unfold detectOpenWindow
  dsimp only
  split
  · rfl
  · split
    · rfl
    · split
      · rfl
      · split
        · split
          · rfl
          · rfl
        · rfl
        · split_ifs
          · rfl
          · rfl
          · rfl
          · rfl

theorem detectOpenWindowsIn_ticking (config : HeatingConfig) (zone : HeatingZone) :
    Leaves Runtime.ticking (fun _ => True) (env.detectOpenWindowsIn config zone) := by
  intro runtime
  unfold detectOpenWindowsIn
  split
  · exact ⟨rfl, by simp⟩
  · split
    · exact ⟨rfl, by simp⟩
    · split
      · exact Leaves.forEach (fun trv => env.detectOpenWindow_ticking config _ trv)
          zone.trvs runtime
      · exact ⟨rfl, by simp⟩

theorem evaluateSchedule_ticking (config : HeatingConfig) (trv : ZoneTrv) :
    Leaves Runtime.ticking (fun _ => True) (env.evaluateSchedule config trv) := by
  intro runtime
  refine ⟨?_, by simp⟩
  unfold evaluateSchedule
  dsimp only
  split
  · rfl
  · split
    · split_ifs
      · rfl
      · rfl
    · split_ifs
      · rfl
      · rfl

theorem enforceOn_ticking (active : Bool) (device : String) :
    Leaves Runtime.ticking (fun _ => True) (env.enforceOn active device) := by
  intro runtime
  refine ⟨?_, by simp⟩
  unfold enforceOn
  dsimp only
  split
  · rfl
  · split_ifs
    · rfl
    · rfl
    · rfl
    · rfl

/-- The control of valves leaves the zones and the number of the tick alone. -/
theorem controlValves_ticking (config : HeatingConfig) :
    Leaves Runtime.ticking (fun _ => True) (env.controlValves config) := by
  have enforces : Leaves Runtime.ticking (fun _ => True) (env.enforcePressureGroups config) :=
    Leaves.forEach (fun group runtime =>
      Leaves.forEach (env.enforceOn_ticking (env.groupActive config group runtime.world)) group.trvs
        runtime) _
  have repeats : Leaves Runtime.ticking (fun _ => True) (env.reconcileSetpoints config) :=
    fun runtime => ⟨rfl, by simp⟩
  exact enforces.andThen ((Leaves.forEach (env.evaluateSchedule_ticking config) _).andThen
    (repeats.andThen (Leaves.forEach (env.detectOpenWindowsIn_ticking config) config.zones)))

/-- A heating tick starts the next number and leaves alone what the zones are told. -/
theorem beginHeatingTick_commands (config : HeatingConfig) (runtime : Runtime) :
    (env.beginHeatingTick config runtime).1.commands = runtime.commands ∧
      (env.beginHeatingTick config runtime).1.heatingTickGen = runtime.heatingTickGen + 1 := by
  let told (runtime : Runtime) := (runtime.commands, runtime.heatingTickGen)
  have requests : Leaves told (fun _ => True) (env.requestStates config) := by
    intro runtime
    refine ⟨?_, by simp⟩
    unfold requestStates
    split
    · rfl
    · rfl
  have expires : Leaves told (fun _ : Effect => True)
      (silent (env.expireInhibitions config)) := by
    refine Leaves.silent fun runtime => foldl_keeps told (fun zone _ runtime => ?_) runtime
    apply foldl_keeps told
    intro trv _ runtime
    rfl
  have probes : ∀ zone, Leaves told (fun _ => True) (env.probeThermostat zone) := by
    intro zone runtime
    refine ⟨?_, by simp⟩
    have same (change : HeatingZoneEntity → HeatingZoneEntity)
        (keeps : ∀ zone, (change zone).command = zone.command) :
        told (runtime.modifyHeatingZone zone.name change) = told runtime := by
      refine Prod.ext (funext fun name => ?_) rfl
      change ((runtime.modifyHeatingZone zone.name change).world.heatingZoneAt name).command = _
      rw [Runtime.heatingZoneAt_modifyHeatingZone]
      split
      · rename_i named
        rw [keeps, named]
        rfl
      · rfl
    unfold probeThermostat
    dsimp only
    split
    · exact same _ fun _ => rfl
    · exact same _ fun _ => rfl
  have refreshes : Leaves told (fun _ => True) (env.refreshThermostats config) := by
    intro runtime
    refine ⟨?_, by simp⟩
    unfold refreshThermostats
    dsimp only
    split
    · rfl
    · rfl
  have rest := requests.andThen
    (expires.andThen ((Leaves.forEach probes config.zones).andThen refreshes))
  have same := (rest { runtime with heatingTickGen := runtime.heatingTickGen + 1 }).1
  exact ⟨congrArg Prod.fst same, congrArg Prod.snd same⟩

end Env

/-- What other operations do to each zone. -/
theorem Operation.run_zone {env : Env} {operation : Operation}
    (admissible : operation.Admissible env.topology) (other : operation.controlsRelays = false)
    (runtime : Runtime) (name : String) :
    HeatingZoneEntity.Step env (runtime.world.heatingZoneAt name)
      ((operation.run env runtime).1.world.heatingZoneAt name) := by
  have relays := fun silent => (run_relays admissible silent runtime).relays name
  cases operation with
  | observeThermostat config device relayOn temperature mode =>
      change HeatingZoneEntity.Step env _ ((env.handleWallThermostatState config device relayOn
        temperature mode runtime).world.heatingZoneAt name)
      unfold Env.handleWallThermostatState
      split
      · exact .kept rfl rfl
      · rename_i zone found
        cases relayOn with
        | none =>
            dsimp only
            rw [Runtime.heatingZoneAt_modifyHeatingZone]
            split
            · rename_i named
              rw [← named]
              exact .kept rfl rfl
            · exact .kept rfl rfl
        | some on =>
            dsimp only
            rw [Runtime.heatingZoneAt_observeRelay, Runtime.heatingZoneAt_modifyHeatingZone,
              Runtime.heatingZoneAt_modifyHeatingZone, if_pos rfl]
            split
            · rename_i named
              rw [← named]
              refine .reported ?_ ?_ on temperature
              · rfl
              · rfl
            · exact .kept rfl rfl
  | ageTargets ts =>
      change HeatingZoneEntity.Step env _
        (((runtime.world.ageTargets ts).heatingZones[name]?).getD default)
      unfold WorldState.ageTargets WorldState.heatingZoneAt
      rw [OrderedMap.getElem?_mapValues]
      cases runtime.world.heatingZones[name]? with
      | none => exact .kept rfl rfl
      | some zone => exact .aged zone ts
  | beginHeatingTick config =>
      exact .kept (congrFun (env.beginHeatingTick_commands config runtime).1 name) (relays rfl)
  | controlValves config =>
      have same : (env.controlValves config runtime).1.world.heatingZones =
          runtime.world.heatingZones :=
        congrArg Prod.fst (env.controlValves_ticking config runtime).1
      refine .kept ?_ (relays rfl)
      change (((env.controlValves config runtime).1.world.heatingZones[name]?).getD
        default).command = _
      rw [same]
      rfl
  | controlRelays config => cases other
  | observeTrv config device report =>
      change HeatingZoneEntity.Step env _
        ((env.handleTrvState config device report runtime).world.heatingZoneAt name)
      unfold Env.handleTrvState
      split
      · exact .kept rfl rfl
      · exact .kept rfl rfl
  | _ =>
      have same := congrArg Heating.zones (run_heating admissible rfl runtime)
      have same : (run env _ runtime).1.world.heatingZones = runtime.world.heatingZones := same
      unfold WorldState.heatingZoneAt
      rw [same]
      exact .kept rfl rfl

/-! ## The number of the tick -/

namespace Runtime

theorem heatingTickGen_modifyTrvs (runtime : Runtime) (trvs : List ZoneTrv)
    (change : TrvEntity → TrvEntity) :
    (runtime.modifyTrvs trvs change).heatingTickGen = runtime.heatingTickGen := by
  unfold modifyTrvs
  apply foldl_keeps (fun runtime : Runtime => runtime.heatingTickGen)
  intro trv _ runtime
  rfl

theorem heatingTickGen_observeRelay (runtime : Runtime) (zone : HeatingZone) (on : Bool)
    (temperature : Option ℚ) (now : Instant) :
    (runtime.observeRelay zone on temperature now).heatingTickGen = runtime.heatingTickGen := by
  have repeated (name : String) (first running : Bool) (count : Nat) (runtime : Runtime) :
      (runtime.relayRepeated name on first running count temperature now).heatingTickGen =
        runtime.heatingTickGen := by
    unfold relayRepeated
    dsimp only
    split_ifs <;> (try split) <;> rfl
  have turnedOn (count : Nat) (runtime : Runtime) :
      (runtime.relayTurnedOn zone count temperature now).heatingTickGen =
        runtime.heatingTickGen := by
    unfold relayTurnedOn
    extract_lets observed detecting confirmed
    have same : detecting.heatingTickGen = runtime.heatingTickGen := by
      unfold detecting
      split
      · exact heatingTickGen_modifyTrvs _ _ _
      · rfl
    split
    · exact same
    · exact same
  have turnedOff (count : Nat) (runtime : Runtime) :
      (runtime.relayTurnedOff zone count temperature now).heatingTickGen =
        runtime.heatingTickGen := by
    unfold relayTurnedOff
    extract_lets observed released confirmed
    have same : released.heatingTickGen = runtime.heatingTickGen :=
      heatingTickGen_modifyTrvs _ _ _
    split
    · exact same
    · exact same
  unfold observeRelay
  dsimp only
  split
  · exact repeated _ _ _ _ _
  · cases on with
    | true => exact turnedOn _ _
    | false => exact turnedOff _ _

end Runtime

namespace Env

variable (env : Env)

theorem evaluateRelays_generation (config : HeatingConfig) (runtime : Runtime) :
    (env.evaluateRelays config runtime).1.heatingTickGen = runtime.heatingTickGen := by
  refine Eq.trans ?_ (env.cancelled_generation config runtime)
  change (env.stopRelays config (env.decisions config runtime)
    (env.cancelled config runtime)).1.heatingTickGen = _
  have stops := env.stopRelays_stops config (env.decisions config runtime)
    (env.cancelled config runtime)
  generalize env.stopRelays config (env.decisions config runtime) (env.cancelled config runtime) =
    result at stops ⊢
  cases stops with
  | idle none => rfl
  | waits pending => rfl
  | off may => exact forEach_generation (fun _ _ => rfl) _ _
  | holds path =>
      refine forEach_generation (fun trv runtime => ?_) _ _
      unfold holdOpen
      dsimp only
      split
      · rfl
      · split
        · rfl
        · rfl

end Env

namespace Operation

/-- Only the start of a heating tick changes the number of the tick. -/
theorem run_generation {env : Env} {operation : Operation}
    (admissible : operation.Admissible env.topology) (runtime : Runtime) :
    (operation.run env runtime).1.heatingTickGen =
      if operation.beginsTick then runtime.heatingTickGen + 1 else runtime.heatingTickGen := by
  cases operation with
  | observeTrv config device report =>
      change (env.handleTrvState config device report runtime).heatingTickGen = _
      unfold Env.handleTrvState
      split
      · rfl
      · rfl
  | observeThermostat config device relayOn temperature mode =>
      change (env.handleWallThermostatState config device relayOn temperature mode
        runtime).heatingTickGen = _
      unfold Env.handleWallThermostatState
      split
      · rfl
      · cases relayOn with
        | none => rfl
        | some on => exact Runtime.heatingTickGen_observeRelay _ _ _ _ _
  | ageTargets ts => rfl
  | beginHeatingTick config => exact (env.beginHeatingTick_commands config runtime).2
  | controlValves config => exact congrArg Prod.snd (env.controlValves_ticking config runtime).1
  | controlRelays config => exact env.evaluateRelays_generation config runtime
  | _ => exact congrArg Heating.tickGen (run_heating admissible rfl runtime)

end Operation

/-! ## Zones that are told in an orderly way -/

namespace HeatingZoneEntity

/-- A zone is told something only once its relay is known, and nothing it is told waits unsent. -/
structure Orderly (zone : HeatingZoneEntity) : Prop where
  on : zone.isRelayOn = true → zone.relayStateKnown = true
  told : zone.target.value ≠ none → zone.relayStateKnown = true
  sent : zone.target.phase ≠ .pending

/-- The zone is told to heat as though its relay were on. -/
structure Unmet (zone : HeatingZoneEntity) : Prop where
  heating : zone.target.value = some .heating
  confirmed : zone.target.phase = .confirmed
  off : zone.isRelayOn = false

variable {env : Env} {zone after : HeatingZoneEntity}

theorem target_of_command (same : after.command = zone.command) : after.target = zone.target :=
  congrArg Prod.fst same

theorem known_of_relay (same : after.relay = zone.relay) :
    after.relayStateKnown = zone.relayStateKnown :=
  congrArg (fun relay => relay.2.2) same

theorem Orderly.kept (orderly : zone.Orderly) (command : after.command = zone.command)
    (relay : after.relay = zone.relay) : after.Orderly := by
  refine ⟨?_, ?_, ?_⟩
  · rw [isRelayOn_of_relay relay, known_of_relay relay]
    exact orderly.on
  · rw [target_of_command command, known_of_relay relay]
    exact orderly.told
  · rw [target_of_command command]
    exact orderly.sent

theorem Unmet.kept (unmet : after.Unmet) (command : after.command = zone.command)
    (relay : after.relay = zone.relay) : zone.Unmet := by
  obtain ⟨heating, confirmed, off⟩ := unmet
  rw [target_of_command command] at heating confirmed
  rw [isRelayOn_of_relay relay] at off
  exact ⟨heating, confirmed, off⟩

/-! ### A command that becomes too old -/

theorem value_markStaleIfOld {α : Type} (target : TassTarget α) (now : Instant)
    (threshold : Duration) : (target.markStaleIfOld now threshold).value = target.value := by
  unfold TassTarget.markStaleIfOld
  split
  · split
    · rfl
    · rfl
  · rfl

theorem Orderly.aged (orderly : zone.Orderly) (ts : Instant) : (zone.age ts).Orderly := by
  refine ⟨orderly.on, ?_, ?_⟩
  · rw [age, value_markStaleIfOld]
    exact orderly.told
  · have sent := orderly.sent
    unfold age TassTarget.markStaleIfOld
    dsimp only
    split
    · split
      · exact TargetPhase.noConfusion
      · exact TargetPhase.noConfusion
    · exact sent

theorem Unmet.of_aged {ts : Instant} (unmet : (zone.age ts).Unmet) : zone.Unmet := by
  obtain ⟨heating, confirmed, off⟩ := unmet
  rw [age, value_markStaleIfOld] at heating
  refine ⟨heating, ?_, off⟩
  unfold age TassTarget.markStaleIfOld at confirmed
  dsimp only at confirmed
  split at confirmed
  · split at confirmed
    · cases confirmed
    · cases confirmed
  · exact confirmed

/-! ### A report of the relay -/

variable (on : Bool) (temperature : Option ℚ) (now : Instant)

theorem contact_of_known (known : zone.relayStateKnown = true) :
    zone.contact on temperature now = zone := if_pos known

variable (zone)

theorem known_contact : (zone.contact on temperature now).relayStateKnown = true := by
  unfold contact
  split
  · assumption
  · rfl

theorem command_contact : (zone.contact on temperature now).command = zone.command := by
  unfold contact
  split
  · rfl
  · rfl

/-- What no report of a relay changes. -/
def lasting (zone : HeatingZoneEntity) : Bool × Nat := (zone.relayStateKnown, zone.desiredRelayGen)

theorem lasting_confirmRelay (value : HeatingZoneTarget) :
    (zone.confirmRelay value now).lasting = zone.lasting := by
  unfold confirmRelay
  split
  · rfl
  · rfl

theorem lasting_redirty : (zone.redirty now).lasting = zone.lasting := by
  unfold redirty
  split
  · split
    · rfl
    · rfl
  · rfl

theorem lasting_repeated : (zone.repeated on temperature now).lasting = zone.lasting := by
  unfold repeated
  split
  · split
    · split
      · rfl
      · rfl
    · rfl
    · rfl
  · rfl

theorem lasting_reported : (zone.reported on temperature now).lasting =
    (zone.contact on temperature now).lasting := by
  unfold reported
  dsimp only
  split
  · exact lasting_repeated _ _ _ _
  · split
    · rw [lasting_redirty, turnedOn, lasting_confirmRelay]
      rfl
    · rw [lasting_redirty, turnedOff, lasting_confirmRelay]
      rfl

theorem known_reported : (zone.reported on temperature now).relayStateKnown = true :=
  (congrArg Prod.fst (lasting_reported zone on temperature now)).trans
    (known_contact zone on temperature now)

theorem desiredRelayGen_reported :
    (zone.reported on temperature now).desiredRelayGen = zone.desiredRelayGen :=
  (congrArg Prod.snd (lasting_reported zone on temperature now)).trans
    (congrArg Prod.snd (command_contact zone on temperature now))

variable {zone}

theorem sent_confirm {α : Type} {target : TassTarget α} (sent : target.phase ≠ .pending) :
    (target.confirm now).phase ≠ .pending := by
  unfold TassTarget.confirm
  split
  · exact TargetPhase.noConfusion
  · exact TargetPhase.noConfusion
  · exact TargetPhase.noConfusion
  · exact sent

theorem sent_confirmRelay {value : HeatingZoneTarget} (sent : zone.target.phase ≠ .pending) :
    (zone.confirmRelay value now).target.phase ≠ .pending := by
  unfold confirmRelay
  split
  · exact sent_confirm now sent
  · exact sent

theorem sent_redirty (sent : zone.target.phase ≠ .pending) :
    (zone.redirty now).target.phase ≠ .pending := by
  unfold redirty
  split
  · split
    · exact TargetPhase.noConfusion
    · exact sent
  · exact sent

theorem sent_repeated (sent : zone.target.phase ≠ .pending) :
    (zone.repeated on temperature now).target.phase ≠ .pending := by
  unfold repeated
  split
  · split
    · split
      · exact sent
      · exact TargetPhase.noConfusion
    · exact sent_confirm now sent
    · exact sent
  · exact sent

theorem Orderly.reported (orderly : zone.Orderly) : (zone.reported on temperature now).Orderly := by
  refine ⟨fun _ => known_reported zone on temperature now,
    fun _ => known_reported zone on temperature now, ?_⟩
  have sent : (zone.contact on temperature now).target.phase ≠ .pending := by
    rw [target_of_command (command_contact zone on temperature now)]
    exact orderly.sent
  unfold HeatingZoneEntity.reported
  dsimp only
  split
  · exact sent_repeated on temperature now sent
  · split
    · exact sent_redirty now (sent_confirmRelay now sent)
    · exact sent_redirty now (sent_confirmRelay now sent)

/-- A zone that is told to heat is told again when its relay turns off. -/
theorem not_unmet_redirty : ¬ (zone.redirty now).Unmet := by
  intro unmet
  cases told : zone.target with
  | unset =>
      have same : zone.redirty now = zone := by
        unfold redirty
        rw [told]
        rfl
      rw [same] at unmet
      have heating := unmet.heating
      rw [told] at heating
      cases heating
  | held value phase owner since =>
      have same : zone.redirty now =
          if zone.target.phase = .confirmed ∧ zone.isMismatched then
            { zone with target := zone.target.setAndCommand value owner now }
          else zone := by
        unfold redirty
        rw [told]
        rfl
      rw [same] at unmet
      split at unmet
      · cases unmet.confirmed
      · rename_i met
        refine met ⟨unmet.confirmed, ?_⟩
        unfold isMismatched
        rw [unmet.heating, unmet.off]
        rfl

theorem not_unmet_repeated_off (commanded : zone.target.phase = .commanded) :
    ¬ (zone.repeated false temperature now).Unmet := by
  intro unmet
  unfold repeated at unmet
  rw [Bool.not_false, Bool.true_and, if_pos (beq_iff_eq.mpr commanded)] at unmet
  split at unmet
  · split at unmet
    · rw [unmet.confirmed] at commanded
      cases commanded
    · cases unmet.heating
  · rename_i told
    have heating := unmet.heating
    have value : (zone.target.confirm now).value = zone.target.value := by
      cases zone.target with
      | unset => rfl
      | held value phase owner since => cases phase <;> rfl
    rw [value, told] at heating
    cases heating
  · rw [unmet.confirmed] at commanded
    cases commanded

/-- A report leaves no zone unmet that was not before. -/
theorem Unmet.of_reported (orderly : zone.Orderly)
    (unmet : (zone.reported on temperature now).Unmet) : zone.Unmet := by
  unfold HeatingZoneEntity.reported at unmet
  dsimp only at unmet
  split at unmet
  · rename_i same
    have told := command_contact zone on temperature now
    by_cases commanded : on = false ∧ (zone.contact on temperature now).target.phase = .commanded
    · obtain ⟨rfl, commanded⟩ := commanded
      exact absurd unmet (not_unmet_repeated_off temperature now commanded)
    · have kept : (zone.contact on temperature now).repeated on temperature now =
          zone.contact on temperature now := by
        refine if_neg fun asks => commanded ?_
        rw [Bool.and_eq_true, Bool.not_eq_true', beq_iff_eq] at asks
        exact asks
      rw [kept] at unmet
      -- A relay that was unknown has a zone without a target.
      have known : zone.relayStateKnown = true := by
        refine orderly.told ?_
        rw [← target_of_command told, unmet.heating]
        exact Option.some_ne_none _
      rwa [contact_of_known on temperature now known] at unmet
  · split at unmet
    · exact absurd unmet (not_unmet_redirty now)
    · exact absurd unmet (not_unmet_redirty now)

/-- No other operation makes a zone unmet. -/
theorem Step.unmet (step : Step env zone after) (orderly : zone.Orderly) (unmet : after.Unmet) :
    zone.Unmet := by
  cases step with
  | kept command relay => exact unmet.kept command relay
  | aged ts => exact unmet.of_aged
  | @reported seen command relay on temperature =>
      exact (unmet.of_reported on temperature _ (orderly.kept command relay)).kept command relay

theorem Step.orderly (step : Step env zone after) (orderly : zone.Orderly) : after.Orderly := by
  cases step with
  | kept command relay => exact orderly.kept command relay
  | aged ts => exact orderly.aged ts
  | @reported seen command relay on temperature =>
      exact (orderly.kept command relay).reported on temperature _

theorem Step.generation (step : Step env zone after) :
    after.desiredRelayGen = zone.desiredRelayGen := by
  cases step with
  | kept command relay => exact congrArg Prod.snd command
  | aged ts => rfl
  | @reported seen command relay on temperature =>
      rw [desiredRelayGen_reported]
      exact congrArg Prod.snd command

end HeatingZoneEntity

/-! ## The control of relays -/

namespace Env

variable {env : Env} {config : HeatingConfig} {runtime : Runtime}

/-- The evaluation leaves a zone alone, or decides about it: then the zone keeps the target it has
or was given, or it is told something now. -/
theorem evaluated_cases (valid : config.Valid) (runtime : Runtime) (name : String) :
    (env.evaluateRelays config runtime).1.world.heatingZoneAt name =
        runtime.world.heatingZoneAt name ∨
      ∃ decision, env.Decided config runtime decision ∧ decision.zone.name = name ∧
        ((env.evaluateRelays config runtime).1.world.heatingZoneAt name =
            (env.seeded config runtime).world.heatingZoneAt name ∨
          ∃ entity value, (env.evaluateRelays config runtime).1.world.heatingZoneAt name =
            HeatingZoneEntity.commandRelay entity value env.clock.now runtime.heatingTickGen) := by
  by_cases some : ∃ decision ∈ env.decisions config runtime, decision.zone.name = name
  · obtain ⟨decision, member, rfl⟩ := some
    have decided := (mem_decisions_iff valid).mp member
    refine .inr ⟨decision, decided, rfl, ?_⟩
    rcases stopped_cases valid decided with same | ⟨_, told⟩
    · rcases cancelled_cases valid decided with same' | ⟨_, _, _, told⟩
      · rcases requested_cases valid decided with ⟨same'', _⟩ | ⟨_, _, told, _⟩
        · exact .inl (same.trans (same'.trans same''))
        · exact .inr ⟨_, _, same.trans (same'.trans told)⟩
      · exact .inr ⟨_, _, same.trans told⟩
    · exact .inr ⟨_, _, told⟩
  · exact .inl (evaluateRelays_apart fun decision member named => some ⟨decision, member, named⟩)

/-- The control of relays keeps zones orderly. -/
theorem controlRelays_orderly (valid : config.Valid) {name : String}
    (orderly : (runtime.world.heatingZoneAt name).Orderly) :
    ((env.controlRelays config runtime).1.world.heatingZoneAt name).Orderly := by
  have kept : Runtime.RelaysKept runtime (env.controlRelays config runtime).1 :=
    controlRelays_relays config runtime
  have relay := kept.relays name
  change ((env.evaluateRelays config runtime).1.world.heatingZoneAt name).relay = _ at relay
  change ((env.evaluateRelays config runtime).1.world.heatingZoneAt name).Orderly
  rcases evaluated_cases valid runtime name with same | ⟨decision, decided, rfl, kept⟩
  · rw [same]
    exact orderly
  · have known := (HeatingZoneEntity.known_of_relay relay).trans decided.known
    refine ⟨fun _ => known, fun _ => known, ?_⟩
    rcases kept with same | ⟨entity, value, told⟩
    · rw [same, heatingZoneAt_seeded valid decided.listed decided.known decided.relay]
      split
      · exact orderly.sent
      · exact TargetPhase.noConfusion
    · rw [told]
      exact TargetPhase.noConfusion

/-- What the control of relays tells a zone has the number of the tick. -/
theorem controlRelays_generations (valid : config.Valid) {name : String}
    (sent : (runtime.world.heatingZoneAt name).desiredRelayGen ≤ runtime.heatingTickGen) :
    ((env.controlRelays config runtime).1.world.heatingZoneAt name).desiredRelayGen ≤
      runtime.heatingTickGen := by
  change ((env.evaluateRelays config runtime).1.world.heatingZoneAt name).desiredRelayGen ≤ _
  rcases evaluated_cases valid runtime name with same | ⟨decision, decided, rfl, kept⟩
  · rw [same]
    exact sent
  · rcases kept with same | ⟨entity, value, told⟩
    · rw [same, heatingZoneAt_seeded valid decided.listed decided.known decided.relay]
      split
      · exact sent
      · exact le_rfl
    · rw [told]
      exact le_rfl

end Env

namespace Record

/-- A zone that has demand while its relay is off is given the target to heat, without a command. -/
structure SeedsUnmet (record : Record) (zone : HeatingZone) : Prop where
  controls : record.operation.controlsRelays = true
  untold : (record.before.world.heatingZoneAt zone.name).target.value = none
  off : record.before.relayOn zone.name = false
  demand : record.env.zoneHasDemand zone record.before.world = true

/-- Only the control of relays leaves a zone unmet that was not before, by giving it its first
target. -/
theorem unmet_cases {record : Record} {config : HeatingConfig} {zone : HeatingZone}
    (admissible : record.operation.Admissible record.env.topology)
    (heating : record.env.topology.heatingConfig = some config) (listed : zone ∈ config.zones)
    (orderly : (record.before.world.heatingZoneAt zone.name).Orderly)
    (unmet : (record.after.world.heatingZoneAt zone.name).Unmet) :
    (record.before.world.heatingZoneAt zone.name).Unmet ∨ record.SeedsUnmet zone := by
  have valid := record.env.topology.valid.heating_valid config heating
  cases controls : record.operation.controlsRelays with
  | false =>
      exact .inl ((Operation.run_zone admissible controls record.before zone.name).unmet orderly
        unmet)
  | true =>
      obtain ⟨env, before, operation⟩ := record
      cases operation with
      | controlRelays other =>
          have known : env.topology.heatingConfig = some other := admissible
          have heating : env.topology.heatingConfig = some config := heating
          rw [heating] at known
          cases known
          change ((env.evaluateRelays config before).1.world.heatingZoneAt zone.name).Unmet at unmet
          rcases Env.evaluated_cases valid before zone.name with same |
            ⟨decision, decided, named, kept⟩
          · rw [same] at unmet
            exact .inl unmet
          · have home : decision.zone = zone :=
              List.inj_on_of_nodup_map valid.zone_names_nodup decided.listed listed named
            subst home
            rcases kept with same | ⟨entity, value, told⟩
            · rw [same, Env.heatingZoneAt_seeded valid listed decided.known decided.relay] at unmet
              split at unmet
              · exact .inl unmet
              · rename_i untold
                have untold : (before.world.heatingZoneAt decision.zone.name).target.value = none :=
                  Option.not_isSome_iff_eq_none.mp untold
                have off : before.relayOn decision.zone.name = false := unmet.off
                refine .inr ⟨rfl, untold, off, ?_⟩
                have heating := unmet.heating
                have value : env.seedValue decision.zone before.world = .heating :=
                  Option.some.inj heating
                unfold Env.seedValue at value
                split at value
                · rename_i asks
                  rcases Bool.or_eq_true_iff.mp asks with demand | on
                  · exact demand
                  · have on : before.relayOn decision.zone.name = true := on
                    rw [off] at on
                    cases on
                · cases value
            · rw [told] at unmet
              cases unmet.confirmed
      | _ => cases controls

end Record

/-! ## Demand along a run -/

/-- A heating tick is under way: its relays have not been controlled yet. -/
def TickUnderWay (history : List Record) : Prop :=
  Since (fun record => record.operation.beginsTick = true)
    (fun record => record.operation.controlsRelays = true) history

/-- The relays are controlled in heating ticks only. -/
def TicksBegin : List Record → Prop :=
  Always fun past record => record.operation.controlsRelays = true → TickUnderWay past

namespace Env

variable {env : Env}

theorem perform_begins {operation : Operation} (other : operation.controlsRelays = false) :
    Keeps (fun past (_ : Runtime) => env.Follows past ∧ TicksBegin past)
      (env.perform operation) := by
  rintro past runtime ⟨follows, begins⟩
  refine ⟨follows_concat follows runtime operation, (always_concat_iff past _).mpr ⟨begins, ?_⟩⟩
  exact fun controls => by cases other.symm.trans controls

/-- A heating tick controls the relays after it began. -/
theorem handleHeatingTick_begins :
    Keeps (fun past (_ : Runtime) => env.Follows past ∧ TicksBegin past) env.handleHeatingTick := by
  unfold handleHeatingTick
  split
  · exact Keeps.skip
  · rename_i config _
    rintro past runtime ⟨follows, begins⟩
    refine ⟨follows_performAll follows _ runtime, ?_⟩
    let valves := (env.beginHeatingTick config runtime).1
    let relays := (env.controlValves config valves).1
    change TicksBegin (past ++ ([⟨env, runtime, .beginHeatingTick config⟩] ++
      ([⟨env, valves, .controlValves config⟩] ++ ([⟨env, relays, .controlRelays config⟩] ++ []))))
    rw [List.append_nil, ← List.append_assoc, ← List.append_assoc]
    refine (always_concat_iff _ _).mpr ⟨(always_concat_iff _ _).mpr
      ⟨(always_concat_iff _ _).mpr ⟨begins, ?_⟩, ?_⟩, fun _ => ?_⟩
    · exact fun controls => by cases controls
    · exact fun controls => by cases controls
    · have began : TickUnderWay (past ++ [⟨env, runtime, .beginHeatingTick config⟩]) :=
        since_last past rfl
      exact began.concat Bool.false_ne_true

end Env

theorem ticksBegin_kept : KeptByInputs fun _ history _ => TicksBegin history where
  launch _ := always_nil
  event env event := by
    refine Env.handleEvent_keeps_reports
      (fun operation handled => Env.perform_begins handled.2.2.2) event
      (fun _ _ _ _ _ => Env.perform_begins rfl) ?_ ?_ fun _ _ => Env.handleHeatingTick_begins
    · exact fun sensor occupied illuminance received ts _ =>
        Env.handleOccupancy_keeps (fun operation _ follows =>
          Env.perform_begins (Operation.controlsRelays_eq_false follows)) _ _ _ _ _
    · exact fun ts _ => Env.evaluateActualStaleness_keeps (fun operation _ follows =>
        Env.perform_begins (Operation.controlsRelays_eq_false follows)) ts
  startup env := by
    have each : ∀ operation : Operation, operation.controlsRelays = false →
        Keeps (fun past (_ : Runtime) => env.Follows past ∧ TicksBegin past)
          (env.perform operation) := fun _ => Env.perform_begins
    refine Env.performAll_keeps each fun operation member => ?_
    rcases List.mem_append.mp member with member | member
    · obtain ⟨rule, _, rfl⟩ := List.mem_map.mp member
      rfl
    · rw [List.mem_singleton.mp member]
      rfl
  command automation env command operations past runtime planned follows begins :=
    (Env.performAll_keeps (fun operation => Env.perform_begins)
      (fun operation member => (Automation.plan_unbound planned operation member).2.2) past runtime
        ⟨follows, begins⟩).2

/-- What holds of the zones along a run. -/
structure Runtime.Serving (topology : Topology) (history : List Record) (runtime : Runtime) :
    Prop where
  orderly : ∀ name, (runtime.world.heatingZoneAt name).Orderly
  told : ∀ name, (runtime.world.heatingZoneAt name).desiredRelayGen ≤ runtime.heatingTickGen
  untold : TickUnderWay history → ∀ name,
    (runtime.world.heatingZoneAt name).desiredRelayGen < runtime.heatingTickGen
  met : ∀ config, topology.heatingConfig = some config → ∀ zone ∈ config.zones,
    (runtime.world.heatingZoneAt zone.name).Unmet → ∃ record ∈ history, record.SeedsUnmet zone

/-- The number of the tick that told a zone something, after one operation. -/
theorem Record.generation_le {record : Record}
    (admissible : record.operation.Admissible record.env.topology) {name : String}
    (told : (record.before.world.heatingZoneAt name).desiredRelayGen ≤
      record.before.heatingTickGen) :
    (record.after.world.heatingZoneAt name).desiredRelayGen ≤ record.before.heatingTickGen := by
  cases controls : record.operation.controlsRelays with
  | false =>
      have same := (Operation.run_zone admissible controls record.before name).generation
      exact same.le.trans told
  | true =>
      obtain ⟨env, before, operation⟩ := record
      cases operation with
      | controlRelays config =>
          exact Env.controlRelays_generations
            (env.topology.valid.heating_valid config admissible) told
      | _ => cases controls

/-- Zones are told what to do in an orderly way, and none stays unmet unless it was given its first
target so. -/
theorem serving_kept : KeptByOperations Runtime.Serving where
  launch topology := by
    have blank : ∀ name, ({} : Runtime).world.heatingZoneAt name = {} := fun _ => rfl
    refine ⟨fun name => ⟨?_, ?_, ?_⟩, fun name => le_rfl, fun under => ?_, ?_⟩
    · intro on
      cases on
    · intro told
      exact absurd rfl told
    · exact TargetPhase.noConfusion
    · obtain ⟨past, first, later, split, _⟩ := under
      simp at split
    · intro config _ zone _ unmet
      cases unmet.heating
  operation env operation past runtime admissible _ holds := by
    obtain ⟨orderly, told, untold, met⟩ := holds
    have generation := Operation.run_generation admissible runtime
    have sent (name : String) : ((operation.run env runtime).1.world.heatingZoneAt
        name).desiredRelayGen ≤ runtime.heatingTickGen :=
      @Record.generation_le ⟨env, runtime, operation⟩ admissible name (told name)
    refine ⟨fun name => ?_, fun name => ?_, fun under name => ?_, ?_⟩
    · cases controls : operation.controlsRelays with
      | false => exact (Operation.run_zone admissible controls runtime name).orderly (orderly name)
      | true =>
          cases operation with
          | controlRelays config =>
              exact Env.controlRelays_orderly (env.topology.valid.heating_valid config admissible)
                (orderly name)
          | _ => cases controls
    · rw [generation]
      split
      · exact (sent name).trans (Nat.le_succ _)
      · exact sent name
    · rw [generation]
      rcases since_concat under with begins | ⟨before, goesOn⟩
      · rw [if_pos begins]
        exact Nat.lt_succ_of_le (sent name)
      · have same : ((operation.run env runtime).1.world.heatingZoneAt name).desiredRelayGen =
            (runtime.world.heatingZoneAt name).desiredRelayGen :=
          (Operation.run_zone admissible (Bool.eq_false_iff.mpr goesOn) runtime name).generation
        rw [same]
        split
        · exact (untold before name).trans (Nat.lt_succ_self _)
        · exact untold before name
    · intro config heating zone listed unmet
      rcases @Record.unmet_cases ⟨env, runtime, operation⟩ config zone admissible heating listed
          (orderly zone.name) unmet with before | seeds
      · obtain ⟨record, member, seeds⟩ := met config heating zone listed before
        exact ⟨record, List.mem_append_left _ member, seeds⟩
      · exact ⟨_, List.mem_append_right _ (List.mem_singleton_self _), seeds⟩

namespace Env

variable {env : Env} {config : HeatingConfig} {runtime : Runtime}

/-- A zone that waits for its relay to turn on is told so again, unless this tick told it
already. -/
theorem reconcileRelays_repeats {zone : HeatingZone} (listed : zone ∈ config.zones)
    {relayIdx : DeviceIdx} (found : env.topology.deviceIdx zone.relay = some relayIdx)
    (heating : (runtime.world.heatingZoneAt zone.name).target.value = some .heating)
    (retries : (runtime.world.heatingZoneAt zone.name).needsRelayRetry = true)
    (earlier : (runtime.world.heatingZoneAt zone.name).desiredRelayGen < runtime.heatingTickGen) :
    Effect.publishDeviceSet relayIdx .deviceOn ∈ (env.reconcileRelays config runtime).2 := by
  refine List.mem_flatMap.mpr ⟨zone, listed, ?_⟩
  unfold reconcileRelay
  unfold WorldState.heatingZoneAt at heating retries earlier
  cases stored : runtime.world.heatingZones[zone.name]? with
  | none =>
      rw [stored] at heating
      cases heating
  | some entity =>
      rw [stored, Option.getD_some] at heating retries earlier
      dsimp only
      rw [heating]
      dsimp only
      have sends : ¬ (entity.desiredRelayGen == runtime.heatingTickGen ||
          !entity.needsRelayRetry) = true := by
        rw [retries, Bool.not_true, Bool.or_false, beq_iff_eq]
        exact earlier.ne
      rw [if_neg sends, sendTo, found]
      exact List.mem_singleton_self _

end Env

/-- A zone that is told to heat while its relay is off is told so again, or is unmet. -/
theorem HeatingZoneEntity.Orderly.retries {zone : HeatingZoneEntity} (orderly : zone.Orderly)
    (heating : zone.target.value = some .heating) (off : zone.isRelayOn = false)
    (met : ¬ zone.Unmet) : zone.needsRelayRetry = true := by
  have sent := orderly.sent
  have unconfirmed : zone.target.phase ≠ .confirmed := fun confirmed =>
    met ⟨heating, confirmed, off⟩
  unfold needsRelayRetry
  rw [heating, off]
  cases told : zone.target with
  | unset =>
      rw [told] at heating
      cases heating
  | held value phase owner since =>
      rw [told] at sent unconfirmed
      cases phase with
      | pending => exact absurd rfl sent
      | confirmed => exact absurd rfl unconfirmed
      | commanded => rfl
      | stale => rfl

/-- Whenever a heating tick controls the relays, a zone with demand whose relay is known to be off
is told to turn it on, as soon as the pump runs or has paused; except where the zone was given its
first target while it had demand and its relay was off. -/
theorem Run.demand_served {history past later : List Record} {daemon : Daemon} {record : Record}
    (run : Run history daemon) (split : history = past ++ record :: later)
    {config : HeatingConfig} {zone : HeatingZone}
    (controls : record.operation = .controlRelays config) (listed : zone ∈ config.zones)
    (demand : record.env.zoneHasDemand zone record.before.world = true)
    (known : (record.before.world.heatingZoneAt zone.name).relayStateKnown = true)
    (off : record.before.relayOn zone.name = false)
    (ready : record.before.isPumpRunning = true ∨
      record.before.pauseElapsed config record.env.clock.now = true)
    (met : ∀ other ∈ past ++ [record], ¬ other.SeedsUnmet zone) :
    ∃ relayIdx, record.env.topology.deviceIdx zone.relay = some relayIdx ∧
      Effect.publishDeviceSet relayIdx .deviceOn ∈ record.effects := by
  obtain ⟨admissible, _, serving⟩ := run.each_record serving_kept split
  have underWay : TickUnderWay past :=
    (run.invariant_of_inputs ticksBegin_kept).2 past record later split (by rw [controls]; rfl)
  have heating : record.env.topology.heatingConfig = some config := by
    rw [controls] at admissible
    exact admissible
  have valid := record.env.topology.valid.heating_valid config heating
  obtain ⟨relayIdx, found⟩ := Option.isSome_iff_exists.mp
    (record.env.topology.valid.heating_devices config heating zone listed).1
  refine ⟨relayIdx, found, ?_⟩
  have effects : record.effects = (record.env.evaluateRelays config record.before).2 ++
      (record.env.reconcileRelays config
        (record.env.evaluateRelays config record.before).1).2 := by
    unfold Record.effects
    rw [controls]
    rfl
  rw [effects]
  obtain ⟨decision, decided, rfl, rfl⟩ := record.env.exists_decided listed known found
  have asks : decision.hasDemand = true := decided.demand.trans demand
  rcases Env.requested_cases valid decided with ⟨kept, quiet⟩ | ⟨_, _, _, sent⟩
  · -- The zone is told to heat already.
    have told : decision.target = some .heating := by
      by_contra differs
      obtain ⟨stands, early⟩ := quiet asks differs
      rcases ready with runs | paused
      · rw [stands] at runs
        cases runs
      · rw [early] at paused
        cases paused
    have before : (record.env.evaluateRelays config record.before).1.world.heatingZoneAt
        decision.zone.name = record.before.world.heatingZoneAt decision.zone.name ∧
          (record.before.world.heatingZoneAt decision.zone.name).target.value = some .heating := by
      have stays : (record.env.evaluateRelays config record.before).1.world.heatingZoneAt
          decision.zone.name = (record.env.seeded config record.before).world.heatingZoneAt
            decision.zone.name := by
        rcases Env.stopped_cases valid decided with same | ⟨stops, _⟩
        · rcases Env.cancelled_cases valid decided with same' | ⟨cancels, _⟩
          · exact same.trans (same'.trans kept)
          · rw [asks] at cancels
            cases cancels
        · unfold ZoneDecision.wantsStop at stops
          rw [asks] at stops
          cases stops
      rw [stays, Env.heatingZoneAt_seeded valid listed known found]
      cases value : (record.before.world.heatingZoneAt decision.zone.name).target.value with
      | none =>
          refine absurd ⟨?_, value, off, demand⟩
            (met record (List.mem_append_right _ (List.mem_singleton_self _)))
          rw [controls]
          rfl
      | some target =>
          rw [decided.target, value] at told
          exact ⟨rfl, told⟩
    obtain ⟨stays, value⟩ := before
    refine List.mem_append_right _ (Env.reconcileRelays_repeats listed found ?_ ?_ ?_)
    · rw [stays]
      exact value
    · rw [stays]
      refine (serving.orderly _).retries value off fun unmet => ?_
      obtain ⟨other, member, seeds⟩ := serving.met config heating _ listed unmet
      exact met other (List.mem_append_left _ member) seeds
    · rw [stays, Env.evaluateRelays_generation]
      exact serving.untold underWay _
  · exact List.mem_append_left _ sent

namespace House

/-- The zone upstairs, with both valves. -/
def upstairs : HeatingZone :=
  ⟨"upstairs", "relay-up", [⟨"valve-up", "week"⟩, ⟨"valve-down", "week"⟩]⟩

/-- A tick that controls the relays after a pause, while the zone upstairs has demand and its relay
is known to be off. -/
def asksUp (record : Record) : Bool :=
  match record.operation with
  | .controlRelays config =>
      decide (upstairs ∈ config.zones) && record.env.zoneHasDemand upstairs record.before.world &&
        (record.before.world.heatingZoneAt "upstairs").relayStateKnown &&
          !record.before.relayOn "upstairs" &&
            record.before.pauseElapsed config record.env.clock.now
  | _ => false

theorem asks_of_asksUp {record : Record} (asks : asksUp record = true) :
    ∃ config, record.operation = .controlRelays config ∧ upstairs ∈ config.zones ∧
      record.env.zoneHasDemand upstairs record.before.world = true ∧
        (record.before.world.heatingZoneAt "upstairs").relayStateKnown = true ∧
          record.before.relayOn "upstairs" = false ∧
            record.before.pauseElapsed config record.env.clock.now = true := by
  unfold asksUp at asks
  split at asks
  · rename_i config controls
    simp only [Bool.and_eq_true, Bool.not_eq_true', decide_eq_true_eq] at asks
    exact ⟨config, controls, asks.1.1.1.1, asks.1.1.1.2, asks.1.1.2, asks.1.2, asks.2⟩
  · cases asks

/-- The zone upstairs gets its first target while it has demand and its relay is off. -/
def seedsUp (record : Record) : Bool :=
  record.operation.controlsRelays &&
    decide ((record.before.world.heatingZoneAt "upstairs").target.value = none) &&
      !record.before.relayOn "upstairs" && record.env.zoneHasDemand upstairs record.before.world

theorem not_seedsUnmet {record : Record} (other : seedsUp record = false) :
    ¬ record.SeedsUnmet upstairs := by
  rintro ⟨controls, untold, off, demand⟩
  have seeds : seedsUp record = true := by
    simp only [seedsUp, Bool.and_eq_true, Bool.not_eq_true', decide_eq_true_eq]
    exact ⟨⟨⟨controls, untold⟩, off⟩, demand⟩
  rw [seeds] at other
  cases other

end House

/-- A relay that does not follow is told on again. -/
theorem Run.demand_served_again : ∃ (history past later : List Record) (daemon : Daemon)
    (record : Record) (relayIdx : DeviceIdx), Run history daemon ∧
      history = past ++ record :: later ∧
        (record.before.world.heatingZoneAt "upstairs").target.value = some .heating ∧
          Effect.publishDeviceSet relayIdx .deviceOn ∈ record.effects := by
  obtain ⟨daemon, history, run, _, facts⟩ := House.played_paired
    [House.relay "relay-up" false 0, (0, .start), House.tick 1,
      House.valve "valve-up" (some 80) (some 21) 2, House.valve "valve-down" (some 80) (some 21) 2,
      House.tick 310, House.tick 320]
    (by simp [House.relay, House.valve, House.tick])
    (fun reached : Daemon × List Record =>
      (reached.2[23]?).any (fun record : Record => House.asksUp record &&
        decide ((record.before.world.heatingZoneAt "upstairs").target.value = some .heating)) &&
          (reached.2.take 24).all fun record : Record => !House.seedsUp record)
    true (by decide +kernel)
  rw [Bool.and_eq_true] at facts
  obtain ⟨asked, met⟩ := facts
  obtain ⟨record, found, asks⟩ := (Option.any_eq_true _ _).mp asked
  rw [Bool.and_eq_true] at asks
  obtain ⟨config, controls, listed, demand, known, off, paused⟩ := House.asks_of_asksUp asks.1
  have taken : history.take (23 + 1) = history.take 23 ++ [record] := by
    rw [List.take_add_one (l := history) (i := 23), found, Option.toList_some]
  obtain ⟨relayIdx, _, sent⟩ := Run.demand_served run (split_at found) controls listed demand
    known off (.inr paused) (fun other member => House.not_seedsUnmet (by
      rw [← taken] at member
      simpa using List.all_eq_true.mp met other member))
  exact ⟨history, _, _, daemon, record, relayIdx, run, split_at found, of_decide_eq_true asks.2,
    sent⟩

/-- A relay that is first reported off while the valves ask for heat is not told on, although the
pump has paused. -/
theorem Run.demand_served_fails : ∃ (history past later : List Record) (daemon : Daemon)
    (record : Record), Run history daemon ∧ history = past ++ record :: later ∧
      House.asksUp record = true ∧
        ∀ relayIdx, Effect.publishDeviceSet relayIdx .deviceOn ∉ record.effects := by
  obtain ⟨daemon, history, run, _, facts⟩ := House.played_paired
    [(0, .start), House.tick 1, House.valve "valve-up" (some 80) (some 21) 2,
      House.valve "valve-down" (some 80) (some 21) 2, House.relay "relay-up" false 3,
      House.tick 310, House.tick 400]
    (by simp [House.relay, House.valve, House.tick])
    (fun reached : Daemon × List Record =>
      (reached.2[23]?).any fun record : Record => House.asksUp record && record.effects.isEmpty)
    true (by decide +kernel)
  obtain ⟨record, found, asks⟩ := (Option.any_eq_true _ _).mp facts
  rw [Bool.and_eq_true, List.isEmpty_iff] at asks
  refine ⟨history, _, _, daemon, record, run, split_at found, asks.1, fun relayIdx sent => ?_⟩
  rw [asks.2] at sent
  cases sent

end MqttController
