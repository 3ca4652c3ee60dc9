import MqttController.MotionResets

/-!
# What operations leave alone

Lighting and heating share the world but not its parts: an operation of one side leaves the other
side alone.
-/

namespace MqttController

open Std Emission

/-- What the lighting side of the world consists of. -/
structure Lighting where
  lights : NameMap LightEntity
  lightZones : NameMap LightZoneEntity
  motionSensors : NameMap MotionSensorEntity
  motionRules : NameMap MotionRuleState

/-- What the heating side of the runtime consists of. -/
structure Heating where
  zones : NameMap HeatingZoneEntity
  trvs : NameMap TrvEntity
  pumpOnSince : Option Instant
  pumpOffSince : Option Instant
  tickGen : Nat

namespace WorldState

/-- The lighting side of a world. -/
def lighting (world : WorldState) : Lighting :=
  ⟨world.lights, world.lightZones, world.motionSensors, world.motionRules⟩

/-- The heating entities of a world. -/
def radiators (world : WorldState) : NameMap HeatingZoneEntity × NameMap TrvEntity :=
  (world.heatingZones, world.trvs)

end WorldState

namespace Runtime

/-- The lighting side of a runtime. -/
def lighting (runtime : Runtime) : Lighting := runtime.world.lighting

/-- The heating side of a runtime. -/
def heating (runtime : Runtime) : Heating :=
  ⟨runtime.world.heatingZones, runtime.world.trvs, runtime.pumpOnSince, runtime.pumpOffSince,
    runtime.heatingTickGen⟩

end Runtime

/-- Everything but plugs and their power. -/
structure WorldState.Sides where
  lighting : Lighting
  radiators : NameMap HeatingZoneEntity × NameMap TrvEntity
  presses : TreeMap (String × String) PendingPress pairOrder ×
    TreeMap (String × String) Instant pairOrder
  atLastFired : NameMap (Nat × Nat)

/-- The parts of a world that plugs do not take part in. -/
def WorldState.sides (world : WorldState) : WorldState.Sides :=
  ⟨world.lighting, world.radiators, world.presses, world.atLastFired⟩

/-- Everything but heating. -/
structure Runtime.Unheated where
  lighting : Lighting
  plugs : NameMap PlugEntity
  presses : TreeMap (String × String) PendingPress pairOrder ×
    TreeMap (String × String) Instant pairOrder
  atLastFired : NameMap (Nat × Nat)

/-- The parts of a runtime that heating does not take part in. -/
def Runtime.unheated (runtime : Runtime) : Runtime.Unheated :=
  ⟨runtime.lighting, runtime.world.plugs, runtime.world.presses, runtime.world.atLastFired⟩

namespace Effect

/-- The message is to a device as such, neither to a light nor to a group. -/
def toDevice : Effect → Prop
  | publishDeviceSet _ _ => True
  | publishDeviceGet _ => True
  | _ => False

end Effect

namespace Env

variable {env : Env}

/-! ## Messages to devices -/

theorem toDevice_set (device : DeviceIdx) (payload : Payload) :
    ∀ effect ∈ [Effect.publishDeviceSet device payload], effect.toDevice := by
  simp [Effect.toDevice]

theorem sendTo_toDevice (device : String) (payload : Payload) :
    ∀ effect ∈ env.sendTo device payload, effect.toDevice := by
  intro effect sent
  obtain ⟨_, _, rfl⟩ := List.mem_map.mp sent
  trivial

theorem askFor_toDevice (devices : List HeatingZone) :
    ∀ effect ∈ devices.flatMap fun zone => env.askFor zone.relay, effect.toDevice := by
  intro effect sent
  obtain ⟨_, _, sent⟩ := List.mem_flatMap.mp sent
  obtain ⟨_, _, rfl⟩ := List.mem_map.mp sent
  trivial

/-! ## Plugs leave both sides alone -/

theorem applyKillSwitchFired_leaves (device : String) (fired : List String) (ts : Instant) :
    Leaves WorldState.sides Effect.toDevice (env.applyKillSwitchFired device fired ts) := by
  intro world
  unfold applyKillSwitchFired
  split
  · exact ⟨rfl, by simp⟩
  · refine ⟨foldl_frame WorldState.sides (WorldState.killPlug ts) (fun _ _ => rfl) _ _, ?_⟩
    intro effect sent
    obtain ⟨_, _, rfl⟩ := List.mem_map.mp sent
    trivial

theorem evaluateKillSwitch_leaves (device : String) (power : ℚ) (ts : Instant) :
    Leaves WorldState.sides Effect.toDevice (env.evaluateKillSwitch device power ts) := by
  intro world
  unfold evaluateKillSwitch
  split
  · exact ⟨rfl, by simp⟩
  · split
    exact applyKillSwitchFired_leaves device _ ts _

theorem armKillSwitchRules_sides (device : String) (power : Option ℚ) (ts : Instant)
    (world : WorldState) :
    (env.armKillSwitchRules device power ts world).sides = world.sides := by
  unfold armKillSwitchRules
  split
  · rfl
  · rfl

theorem handlePlugState_leaves (device : String) (on : Option Bool) (power : Option ℚ)
    (ts : Instant) :
    Leaves WorldState.sides Effect.toDevice (env.handlePlugState device on power ts) := by
  intro world
  unfold handlePlugState
  dsimp only
  split
  · exact ⟨rfl, by simp⟩
  · split
    · exact ⟨rfl, by simp⟩
    · -- Arming and confirming only touch plugs.
      have confirmed : ∀ armed : WorldState, armed.sides = world.sides →
          (if on.isSome then armed.modifyPlug device fun plug => plug.maybeConfirm ts
            else armed).sides = world.sides := by
        intro armed same
        split
        · exact same
        · exact same
      split
      · refine ⟨confirmed _ ?_, by simp⟩
        split
        · exact armKillSwitchRules_sides _ _ _ _
        · rfl
      · rename_i watts _
        refine ((evaluateKillSwitch_leaves device watts ts) _).imp_left fun same =>
          same.trans (confirmed _ ?_)
        split
        · exact armKillSwitchRules_sides _ _ _ _
        · rfl

theorem evaluateKillSwitchTicks_leaves (ts : Instant) :
    Leaves WorldState.sides Effect.toDevice (env.evaluateKillSwitchTicks ts) := by
  intro world
  have fires : ∀ due : String × String,
      Leaves WorldState.sides Effect.toDevice (env.applyKillSwitchFired due.1 [due.2] ts) :=
    fun due => applyKillSwitchFired_leaves due.1 [due.2] ts
  exact Leaves.forEach fires _ world

theorem armKillSwitchesForActivePlugs_sides (ts : Instant) (world : WorldState) :
    (env.armKillSwitchesForActivePlugs ts world).sides = world.sides :=
  foldl_frame WorldState.sides
    (fun world (entry : String × PlugEntity) =>
      env.armKillSwitchRules entry.1 entry.2.power.value ts world)
    (fun _ _ => armKillSwitchRules_sides _ _ _ _) _ _

theorem webSetPlugPower_leaves (device : String) (on : Bool) (ts : Instant) :
    Leaves WorldState.sides Effect.toDevice (env.webSetPlugPower device on ts) := by
  intro world
  unfold webSetPlugPower
  split
  · exact ⟨rfl, by simp⟩
  · split
    · exact ⟨rfl, by simp⟩
    · exact ⟨rfl, toDevice_set _ _⟩

theorem replacePlugBindings_sides (device : String) (ts : Instant) (world : WorldState) :
    (env.replacePlugBindings device ts world).sides = world.sides := by
  unfold replacePlugBindings
  split
  · rfl
  · dsimp only
    split
    · rw [armKillSwitchRules_sides]
      rfl
    · rfl

theorem togglePlug_leaves (ruleName : String) (plug : DeviceIdx) (confirmOffSeconds : Option ℚ)
    (ts : Instant) :
    Leaves WorldState.sides Effect.toDevice
      (env.togglePlug ruleName plug confirmOffSeconds ts) := by
  intro world
  unfold togglePlug
  dsimp only
  split
  · split
    · exact ⟨rfl, toDevice_set _ _⟩
    · exact ⟨rfl, by simp⟩
  · exact ⟨rfl, toDevice_set _ _⟩

/-! ## Heating leaves the rest alone -/

theorem modifyTrvs_unheated (runtime : Runtime) (trvs : List ZoneTrv)
    (change : TrvEntity → TrvEntity) :
    (runtime.modifyTrvs trvs change).unheated = runtime.unheated :=
  foldl_frame Runtime.unheated (fun runtime (trv : ZoneTrv) => runtime.modifyTrv trv.device change)
    (fun _ _ => rfl) _ _

theorem reassertMode_toDevice (device : DeviceIdx) (current : Option String) (expected : String)
    (payload : String → Payload) :
    ∀ effect ∈ reassertMode device current expected payload, effect.toDevice := by
  unfold reassertMode
  split
  · simp
  · split
    · simp
    · exact toDevice_set _ _

theorem checkTrvMode_toDevice (device : String) (world : WorldState) :
    ∀ effect ∈ env.checkTrvMode device world, effect.toDevice := by
  unfold checkTrvMode
  split
  · simp
  · dsimp only
    split
    · exact reassertMode_toDevice _ _ _ _
    · exact reassertMode_toDevice _ _ _ _

theorem checkWtMode_toDevice (config : HeatingConfig) (device : String) (world : WorldState) :
    ∀ effect ∈ env.checkWtMode config device world, effect.toDevice := by
  unfold checkWtMode
  split
  · simp
  · exact reassertMode_toDevice _ _ _ _

theorem handleTrvState_unheated (config : HeatingConfig) (device : String) (report : TrvReport)
    (runtime : Runtime) :
    (env.handleTrvState config device report runtime).unheated = runtime.unheated := by
  unfold handleTrvState
  split
  · rfl
  · rfl

theorem relayRepeated_unheated (name : String) (on firstContact pumpRunning : Bool)
    (relaysOnBefore : Nat) (temperature : Option ℚ) (now : Instant) (runtime : Runtime) :
    (runtime.relayRepeated name on firstContact pumpRunning relaysOnBefore temperature
      now).unheated = runtime.unheated := by
  unfold Runtime.relayRepeated
  dsimp only
  split_ifs <;> (try split) <;> rfl

theorem relayTurnedOn_unheated (zone : HeatingZone) (relaysOnBefore : Nat)
    (temperature : Option ℚ) (now : Instant) (runtime : Runtime) :
    (runtime.relayTurnedOn zone relaysOnBefore temperature now).unheated = runtime.unheated := by
  unfold Runtime.relayTurnedOn
  dsimp only
  split_ifs
  · exact modifyTrvs_unheated _ zone.trvs _
  · rfl
  · exact modifyTrvs_unheated _ zone.trvs _
  · rfl

theorem relayTurnedOff_unheated (zone : HeatingZone) (relaysOnBefore : Nat)
    (temperature : Option ℚ) (now : Instant) (runtime : Runtime) :
    (runtime.relayTurnedOff zone relaysOnBefore temperature now).unheated = runtime.unheated := by
  unfold Runtime.relayTurnedOff
  dsimp only
  split
  · exact modifyTrvs_unheated _ zone.trvs _
  · exact modifyTrvs_unheated _ zone.trvs _

theorem handleWallThermostatState_unheated (config : HeatingConfig) (device : String)
    (relayOn : Option Bool) (temperature : Option ℚ) (operatingMode : Option String)
    (runtime : Runtime) :
    (env.handleWallThermostatState config device relayOn temperature operatingMode
      runtime).unheated = runtime.unheated := by
  unfold handleWallThermostatState
  split
  · rfl
  · dsimp only
    split
    · rfl
    · unfold Runtime.observeRelay
      dsimp only
      split
      · exact relayRepeated_unheated _ _ _ _ _ _ _ _
      · split
        · exact relayTurnedOn_unheated _ _ _ _ _
        · exact relayTurnedOff_unheated _ _ _ _ _

theorem beginHeatingTick_leaves (config : HeatingConfig) :
    Leaves Runtime.unheated Effect.toDevice (env.beginHeatingTick config) := by
  have requests : Leaves Runtime.unheated Effect.toDevice (env.requestStates config) := by
    intro runtime
    unfold requestStates
    split
    · exact ⟨rfl, by simp⟩
    · exact ⟨rfl, askFor_toDevice _⟩
  have probes : ∀ zone, Leaves Runtime.unheated Effect.toDevice (env.probeThermostat zone) := by
    intro zone runtime
    have asked : ∀ effect ∈ env.askFor zone.relay, effect.toDevice := by
      simpa using askFor_toDevice [zone]
    unfold probeThermostat
    dsimp only
    split
    · exact ⟨rfl, asked⟩
    · exact ⟨rfl, by simp⟩
  have refreshes : Leaves Runtime.unheated Effect.toDevice (env.refreshThermostats config) := by
    intro runtime
    unfold refreshThermostats
    dsimp only
    split
    · exact ⟨rfl, askFor_toDevice _⟩
    · exact ⟨rfl, by simp⟩
  have expires : Leaves Runtime.unheated Effect.toDevice
      (silent (env.expireInhibitions config) : Step Runtime Effect) := Leaves.silent fun runtime =>
    foldl_frame Runtime.unheated
      (fun runtime (zone : HeatingZone) => zone.trvs.foldl (env.expireInhibitionOf zone) runtime)
      (fun state zone => foldl_frame Runtime.unheated (env.expireInhibitionOf zone)
        (fun _ _ => rfl) zone.trvs state) config.zones runtime
  have counts : Leaves Runtime.unheated Effect.toDevice (silent fun runtime =>
      { runtime with heatingTickGen := runtime.heatingTickGen + 1 } : Step Runtime Effect) :=
    Leaves.silent fun _ => rfl
  exact (counts.andThen requests).andThen
    (expires.andThen ((Leaves.forEach probes config.zones).andThen refreshes))

theorem enforcePressureGroups_leaves (config : HeatingConfig) :
    Leaves Runtime.unheated Effect.toDevice (env.enforcePressureGroups config) := by
  refine Leaves.forEach (fun group runtime => ?_) config.pressureGroups
  refine Leaves.forEach (fun device runtime => ?_) group.trvs runtime
  unfold enforceOn
  dsimp only
  split
  · exact ⟨rfl, by simp⟩
  · split_ifs
    · exact ⟨rfl, sendTo_toDevice _ _⟩
    · exact ⟨rfl, by simp⟩
    · exact ⟨rfl, by simp⟩
    · exact ⟨rfl, by simp⟩

theorem evaluateSchedules_leaves (config : HeatingConfig) :
    Leaves Runtime.unheated Effect.toDevice (env.evaluateSchedules config) := by
  refine Leaves.forEach (fun trv runtime => ?_) _
  unfold evaluateSchedule
  dsimp only
  split
  · exact ⟨rfl, by simp⟩
  · split
    · split_ifs
      · exact ⟨rfl, by simp⟩
      · exact ⟨rfl, sendTo_toDevice _ _⟩
    · split_ifs
      · exact ⟨rfl, by simp⟩
      · exact ⟨rfl, sendTo_toDevice _ _⟩

theorem detectOpenWindow_leaves (config : HeatingConfig) (relayOnSince : Instant)
    (trv : ZoneTrv) :
    Leaves Runtime.unheated Effect.toDevice (env.detectOpenWindow config relayOnSince trv) := by
  intro runtime
  unfold detectOpenWindow
  dsimp only
  split
  · exact ⟨rfl, by simp⟩
  · split
    · exact ⟨rfl, by simp⟩
    · split
      · exact ⟨rfl, by simp⟩
      · split
        · split
          · exact ⟨rfl, by simp⟩
          · exact ⟨rfl, by simp⟩
        · exact ⟨rfl, by simp⟩
        · split_ifs
          · exact ⟨rfl, by simp⟩
          · exact ⟨rfl, by simp⟩
          · exact ⟨rfl, sendTo_toDevice _ _⟩
          · exact ⟨rfl, by simp⟩

theorem detectOpenWindows_leaves (config : HeatingConfig) :
    Leaves Runtime.unheated Effect.toDevice (env.detectOpenWindows config) := by
  refine Leaves.forEach (fun zone runtime => ?_) _
  unfold detectOpenWindowsIn
  split
  · exact ⟨rfl, by simp⟩
  · split
    · exact ⟨rfl, by simp⟩
    · split
      · exact Leaves.forEach (detectOpenWindow_leaves config _) zone.trvs runtime
      · exact ⟨rfl, by simp⟩

theorem reconcileSetpoints_leaves (config : HeatingConfig) :
    Leaves Runtime.unheated Effect.toDevice (env.reconcileSetpoints config) := by
  refine Leaves.emit fun runtime effect sent => ?_
  obtain ⟨trv, _, sent⟩ := List.mem_flatMap.mp sent
  unfold reconcileSetpoint at sent
  split at sent
  · cases sent
  · split at sent
    · cases sent
    · split at sent
      · cases sent
      · exact sendTo_toDevice _ _ effect sent

theorem controlValves_leaves (config : HeatingConfig) :
    Leaves Runtime.unheated Effect.toDevice (env.controlValves config) :=
  (enforcePressureGroups_leaves config).andThen
    ((evaluateSchedules_leaves config).andThen
      ((reconcileSetpoints_leaves config).andThen (detectOpenWindows_leaves config)))

theorem stopRelays_leaves (config : HeatingConfig) (decisions : List ZoneDecision) :
    Leaves Runtime.unheated Effect.toDevice (env.stopRelays config decisions) := by
  intro runtime
  have commands : ∀ stopping : List ZoneDecision,
      Leaves Runtime.unheated Effect.toDevice
        (forEach (fun decision => env.commandRelay decision .off) stopping) :=
    fun stopping => Leaves.forEach (fun _ _ => ⟨rfl, toDevice_set _ _⟩) stopping
  have holds : ∀ trv, Leaves Runtime.unheated Effect.toDevice (env.holdOpen trv) := by
    intro trv runtime
    unfold holdOpen
    dsimp only
    split
    · exact ⟨rfl, by simp⟩
    · split
      · exact ⟨rfl, by simp⟩
      · exact ⟨rfl, sendTo_toDevice _ _⟩
  unfold stopRelays
  dsimp only
  split_ifs
  · exact ⟨rfl, by simp⟩
  · exact commands _ runtime
  · exact ⟨rfl, by simp⟩
  · exact commands _ runtime
  · exact Leaves.forEach holds _ runtime

theorem reconcileRelays_leaves (config : HeatingConfig) :
    Leaves Runtime.unheated Effect.toDevice (env.reconcileRelays config) := by
  refine Leaves.emit fun runtime effect sent => ?_
  obtain ⟨zone, _, sent⟩ := List.mem_flatMap.mp sent
  unfold reconcileRelay at sent
  split at sent
  · cases sent
  · split at sent
    · cases sent
    · split at sent
      · cases sent
      · exact sendTo_toDevice _ _ effect sent

theorem controlRelays_leaves (config : HeatingConfig) :
    Leaves Runtime.unheated Effect.toDevice (env.controlRelays config) := by
  have seeds : ∀ (runtime : Runtime) (decision : ZoneDecision),
      (env.seedTarget runtime decision).unheated = runtime.unheated := by
    intro runtime decision
    unfold seedTarget
    split
    · rfl
    · rfl
  have requests : ∀ decision,
      Leaves Runtime.unheated Effect.toDevice (env.requestOn config decision) := by
    intro decision runtime
    unfold requestOn
    split
    · exact ⟨rfl, toDevice_set _ _⟩
    · exact ⟨rfl, by simp⟩
  have cancels : ∀ decision,
      Leaves Runtime.unheated Effect.toDevice (env.cancelOn config decision) := by
    intro decision runtime
    unfold cancelOn
    split
    · exact ⟨rfl, toDevice_set _ _⟩
    · exact ⟨rfl, by simp⟩
  refine Leaves.andThen (fun runtime => ?_) (reconcileRelays_leaves config)
  obtain ⟨same, sent⟩ := ((Leaves.forEach requests _).andThen
    ((Leaves.forEach cancels _).andThen (stopRelays_leaves config _)))
    ((config.zones.filterMap (env.zoneDecision runtime.world)).foldl env.seedTarget runtime)
  exact ⟨same.trans (foldl_frame Runtime.unheated env.seedTarget seeds _ _), sent⟩

/-! ## Turning off all zones -/

/-- A zone that is told to turn off on behalf of all zones. -/
def zoneTurnedOff (owner : Owner) (ts : Instant) (zone : LightZoneEntity) : LightZoneEntity :=
  { zone.command .off owner ts with lastPressAt := none, lastOffAt := some ts }

/-- The moves of turning off all zones. -/
def allZonesMoves (ts : Instant) : WorldState.Moves where
  light _ _ _ := False
  zone _ before after := before.isOn ∧ ∃ owner, after = zoneTurnedOff owner ts before
  rule _ _ _ := False

/-- Turning off all zones changes zones that are on, and nothing else. -/
theorem turnOffAllZones_touches (env : Env) (ts : Instant) (world : WorldState) :
    WorldState.Touches (allZonesMoves ts) world (env.turnOffAllZones ts world).1 := by
  have zones : ∀ (entries : List (RoomIdx × ResolvedRoom × Owner)) (start : WorldState),
      WorldState.Touches (allZonesMoves ts) start
        (forEach (WorldState.turnOffZone ts) entries start).1 := by
    intro entries
    induction entries with
    | nil => exact WorldState.Touches.refl
    | cons entry rest ih =>
        intro start
        rw [forEach_cons, andThen_fst]
        refine WorldState.Touches.trans ?_ (ih _)
        obtain ⟨idx, room, owner⟩ := entry
        unfold WorldState.turnOffZone
        dsimp only
        split
        · rename_i on
          exact (WorldState.Touches.refl start).modifyZone ⟨on, owner, rfl⟩
        · exact (WorldState.Touches.refl start).modifyZone_id room.name
  exact zones (env.zoneOwners world) world

theorem turnOffZone_zoneAt (ts : Instant) (entry : RoomIdx × ResolvedRoom × Owner)
    (world : WorldState) (name : String) :
    (WorldState.turnOffZone ts entry world).1.zoneAt name =
      if entry.2.1.name = name ∧ (world.zoneAt name).isOn then
        zoneTurnedOff entry.2.2 ts (world.zoneAt name)
      else world.zoneAt name := by
  obtain ⟨idx, room, owner⟩ := entry
  unfold WorldState.turnOffZone
  dsimp only
  by_cases on : (world.zoneAt room.name).isOn
  · rw [if_pos on]
    dsimp only
    rw [WorldState.zoneAt_modifyZone]
    by_cases named : room.name = name
    · subst named
      rw [if_pos rfl, if_pos ⟨rfl, on⟩, zoneTurnedOff]
    · rw [if_neg named, if_neg fun taken => named taken.1]
  · rw [if_neg on]
    dsimp only
    rw [WorldState.zoneAt_modifyZone]
    by_cases named : room.name = name
    · subst named
      rw [if_pos rfl, if_neg fun taken => on taken.2, id]
    · rw [if_neg named, if_neg fun taken => named taken.1]

/-- Zones with different names are turned off independently of each other. -/
theorem turnOffZones_run (ts : Instant) {entries : List (RoomIdx × ResolvedRoom × Owner)}
    (names : (entries.map (·.2.1.name)).Nodup) (world : WorldState) :
    (∀ name, (forEach (WorldState.turnOffZone ts) entries world).1.zoneAt name =
      match entries.find? fun entry => entry.2.1.name == name with
      | some entry =>
          if (world.zoneAt name).isOn then zoneTurnedOff entry.2.2 ts (world.zoneAt name)
          else world.zoneAt name
      | none => world.zoneAt name) ∧
    (forEach (WorldState.turnOffZone ts) entries world).2 =
      (entries.filter fun entry => (world.zoneAt entry.2.1.name).isOn).map fun entry =>
        .publishGroupSet entry.1 (.off entry.2.1.offTransitionSeconds) := by
  induction entries generalizing world with
  | nil => exact ⟨fun _ => rfl, rfl⟩
  | cons entry rest ih =>
      rw [List.map_cons, List.nodup_cons] at names
      obtain ⟨zones, effects⟩ := ih names.2 (WorldState.turnOffZone ts entry world).1
      -- The first entry leaves the zones of the others alone.
      have others : ∀ other ∈ rest,
          (WorldState.turnOffZone ts entry world).1.zoneAt other.2.1.name =
            world.zoneAt other.2.1.name := by
        intro other member
        rw [turnOffZone_zoneAt, if_neg]
        rintro ⟨same, _⟩
        exact names.1 (List.mem_map.mpr ⟨other, member, same.symm⟩)
      refine ⟨fun name => ?_, ?_⟩
      · rw [forEach_cons, andThen_fst, zones, turnOffZone_zoneAt]
        by_cases named : entry.2.1.name = name
        · have absent : rest.find? (fun other => other.2.1.name == name) = none := by
            rw [List.find?_eq_none]
            intro other member same
            exact names.1 (List.mem_map.mpr ⟨other, member, by rw [named, eq_of_beq same]⟩)
          simp [absent, named]
        · simp [named]
      · rw [forEach_cons, andThen_snd, effects]
        have same : (rest.filter fun other =>
            ((WorldState.turnOffZone ts entry world).1.zoneAt other.2.1.name).isOn) =
            rest.filter fun other => (world.zoneAt other.2.1.name).isOn :=
          List.filter_congr fun other member => by rw [others other member]
        rw [same, List.filter_cons]
        obtain ⟨idx, room, owner⟩ := entry
        unfold WorldState.turnOffZone
        dsimp only
        split <;> simp_all

theorem zoneOwners_names_nodup (env : Env) (world : WorldState) :
    ((env.zoneOwners world).map (·.2.1.name)).Nodup := by
  have same : (env.zoneOwners world).map (·.2.1.name) = env.topology.rooms.map (·.name) := by
    unfold zoneOwners
    rw [List.map_map]
    change (env.topology.rooms.zipIdx.map fun entry => entry.1.name) = _
    rw [← List.zipIdx_map_fst 0 env.topology.rooms, List.map_map]
    simp only [List.zipIdx_map_fst]
    rfl
  rw [same]
  exact env.topology.valid.room_names_nodup

theorem mem_zoneOwners {world : WorldState} {entry : RoomIdx × ResolvedRoom × Owner} :
    entry ∈ env.zoneOwners world ↔ env.topology.room entry.1 = some entry.2.1 ∧
      entry.2.2 = env.resolveZoneOwner world entry.2.1.name .schedule := by
  obtain ⟨idx, room, owner⟩ := entry
  unfold zoneOwners
  simp only [List.mem_map, Prod.exists, Prod.mk.injEq]
  constructor
  · rintro ⟨other, position, member, rfl, rfl, rfl⟩
    exact ⟨List.mk_mem_zipIdx_iff_getElem?.mp member, rfl⟩
  · rintro ⟨found, rfl⟩
    exact ⟨room, idx, List.mk_mem_zipIdx_iff_getElem?.mpr found, rfl, rfl, rfl⟩

/-- Turning off all zones tells the zone of every room that is on to turn off. -/
theorem turnOffAllZones_zoneAt (env : Env) (ts : Instant) (world : WorldState) (name : String) :
    (env.turnOffAllZones ts world).1.zoneAt name =
      if (env.topology.roomByName name).isSome ∧ (world.zoneAt name).isOn then
        zoneTurnedOff (env.resolveZoneOwner world name .schedule) ts (world.zoneAt name)
      else world.zoneAt name := by
  obtain ⟨zones, _⟩ := turnOffZones_run ts (zoneOwners_names_nodup env world) world
  refine (zones name).trans ?_
  split
  · rename_i entry found
    obtain ⟨here, owner⟩ := mem_zoneOwners.mp (List.mem_of_find?_eq_some found)
    have named : entry.2.1.name = name := by simpa using List.find?_some found
    have known : env.topology.roomByName name = some entry.2.1 := by
      rw [← named]
      exact TopologyTables.roomByName_of_room env.topology.valid here
    simp [known, owner, named]
  · rename_i absent
    have unknown : env.topology.roomByName name = none := by
      rw [Option.eq_none_iff_forall_not_mem]
      intro room found
      obtain ⟨idx, _, here⟩ := TopologyTables.roomByName_eq_some_iff.mp found
      rw [List.find?_eq_none] at absent
      refine absent (idx, room, env.resolveZoneOwner world room.name .schedule)
        (mem_zoneOwners.mpr ⟨here, rfl⟩) ?_
      simp [(TopologyTables.mem_rooms_of_roomByName found).2]
    simp [unknown]

/-- Turning off all zones publishes OFF to the group of every room whose zone is on. -/
theorem mem_turnOffAllZones_effects {ts : Instant} {world : WorldState} {effect : Effect} :
    effect ∈ (env.turnOffAllZones ts world).2 ↔ ∃ idx room, env.topology.room idx = some room ∧
      (world.zoneAt room.name).isOn ∧
        effect = .publishGroupSet idx (.off room.offTransitionSeconds) := by
  obtain ⟨_, effects⟩ := turnOffZones_run ts (zoneOwners_names_nodup env world) world
  unfold turnOffAllZones
  rw [effects]
  simp only [List.mem_map, List.mem_filter]
  constructor
  · rintro ⟨entry, ⟨member, on⟩, rfl⟩
    exact ⟨entry.1, entry.2.1, (mem_zoneOwners.mp member).1, on, rfl⟩
  · rintro ⟨idx, room, here, on, rfl⟩
    exact ⟨(idx, room, env.resolveZoneOwner world room.name .schedule),
      ⟨mem_zoneOwners.mpr ⟨here, rfl⟩, on⟩, rfl⟩

end Env

/-! ## Operations -/

namespace Operation

variable {env : Env}

/-- The name of the room that a manual room command is about: of a binding or the dashboard. -/
def manualRoom (env : Env) : Operation → Option String
  | execute _ effect _ => effect.room.map env.topology.roomName
  | webRecallScene room _ _ => some room
  | webSetRoomOff room _ => some room
  | _ => none

theorem manualRoom_of_follows {operation : Operation} (follower : operation.followsSensors) :
    operation.manualRoom env = none := by
  cases operation <;> first | rfl | cases follower

/-- Every manual room command keeps to its room. -/
theorem run_manual {operation : Operation} {name : String}
    (manual : operation.manualRoom env = some name) (runtime : Runtime) :
    env.Manual name runtime.world
      ((operation.run env runtime).1.world, (operation.run env runtime).2) := by
  cases operation with
  | execute ruleName effect ts =>
      obtain ⟨room, about, same⟩ := Option.map_eq_some_iff.mp manual
      rw [← same]
      exact Env.executeEffect_manual about ruleName ts runtime.world
  | webRecallScene room sceneId ts =>
      cases manual
      exact Env.webRecallScene_manual _ _ _ _
  | webSetRoomOff room ts =>
      cases manual
      exact Env.webSetRoomOff_manual _ _ _
  | _ => cases manual

/-- Every manual room command mirrors its group message, or at least takes its lights over. -/
theorem run_outcome {operation : Operation} {name : String}
    (manual : operation.manualRoom env = some name) (runtime : Runtime) :
    ∃ ts, Env.Outcome env runtime.world ts
      ((operation.run env runtime).1.world, (operation.run env runtime).2) := by
  cases operation with
  | execute ruleName effect ts =>
      obtain ⟨room, about, _⟩ := Option.map_eq_some_iff.mp manual
      exact ⟨ts, Env.executeEffect_outcome about ruleName ts runtime.world⟩
  | webRecallScene room sceneId ts => exact ⟨ts, Env.webRecallScene_outcome room sceneId ts _⟩
  | webSetRoomOff room ts => exact ⟨ts, Env.webSetRoomOff_outcome room ts _⟩
  | _ => cases manual

/-- The operation is about plugs, power meters, valves, relays or deferred work. -/
def sparesLighting : Operation → Bool
  | execute _ effect _ => effect.targetPlug.isSome
  | webRecallScene _ _ _ => false
  | webSetRoomOff _ _ => false
  | observeSensor _ _ _ _ _ => false
  | startSession _ _ _ => false
  | releaseSession _ _ => false
  | finishSession _ _ _ => false
  | startupTurnOff _ _ => false
  | observeGroup _ _ _ => false
  | observeLight _ _ _ => false
  | ageTargets _ => false
  | ageActuals _ => false
  | blockMotion _ _ => false
  | forgetCycle _ => false
  | _ => true

/-- A valve report leaves the rest of the runtime alone. -/
theorem observeTrv_leaves (env : Env) (config : HeatingConfig) (device : String)
    (report : TrvReport) :
    Leaves Runtime.unheated Effect.toDevice ((observeTrv config device report).run env) :=
  fun runtime => ⟨Env.handleTrvState_unheated config device report runtime,
    Env.checkTrvMode_toDevice _ _⟩

/-- A thermostat report leaves the rest of the runtime alone. -/
theorem observeThermostat_leaves (env : Env) (config : HeatingConfig) (device : String)
    (relayOn : Option Bool) (temperature : Option ℚ) (operatingMode : Option String) :
    Leaves Runtime.unheated Effect.toDevice
      ((observeThermostat config device relayOn temperature operatingMode).run env) :=
  fun runtime => ⟨Env.handleWallThermostatState_unheated config device relayOn temperature
    operatingMode runtime, Env.checkWtMode_toDevice _ _ _⟩

/-- Operations of other parts leave lighting alone and send nothing to lights or groups. -/
theorem run_spares (env : Env) {operation : Operation} (spares : operation.sparesLighting) :
    Leaves Runtime.lighting Effect.toDevice (operation.run env) := by
  intro runtime
  have onWorld : ∀ {change : WorldState → WorldState × List Effect},
      Leaves WorldState.sides Effect.toDevice change →
        Leaves Runtime.lighting Effect.toDevice (Runtime.onWorld change) :=
    fun leaves runtime => ⟨congrArg WorldState.Sides.lighting (leaves runtime.world).1,
      (leaves runtime.world).2⟩
  have silently : ∀ {change : WorldState → WorldState},
      (∀ world, (change world).lighting = world.lighting) →
        Leaves Runtime.lighting Effect.toDevice (Runtime.onWorldSilently change) :=
    fun same => Leaves.silent fun runtime => same runtime.world
  have heats : ∀ {step : Step Runtime Effect}, Leaves Runtime.unheated Effect.toDevice step →
      Leaves Runtime.lighting Effect.toDevice step :=
    fun leaves runtime =>
      ⟨congrArg Runtime.Unheated.lighting (leaves runtime).1, (leaves runtime).2⟩
  cases operation with
  | execute ruleName effect ts =>
      cases effect with
      | toggle plug seconds =>
          exact onWorld (Env.togglePlug_leaves ruleName plug seconds ts) runtime
      | turnOn plug => exact ⟨rfl, Env.toDevice_set _ _⟩
      | turnOff plug => exact ⟨rfl, Env.toDevice_set _ _⟩
      | _ => cases spares
  | webSetPlugPower device on ts => exact onWorld (Env.webSetPlugPower_leaves device on ts) runtime
  | observePlug device on power ts =>
      exact onWorld (Env.handlePlugState_leaves device on power ts) runtime
  | observeTrv config device report =>
      exact heats (observeTrv_leaves env config device report) runtime
  | observeThermostat config device relayOn temperature operatingMode =>
      exact heats (observeThermostat_leaves env config device relayOn temperature operatingMode)
        runtime
  | fireKillSwitches ts => exact onWorld (Env.evaluateKillSwitchTicks_leaves ts) runtime
  | armKillSwitches ts =>
      exact silently (fun world => congrArg WorldState.Sides.lighting
        (Env.armKillSwitchesForActivePlugs_sides ts world)) runtime
  | beginHeatingTick config => exact heats (Env.beginHeatingTick_leaves config) runtime
  | controlValves config => exact heats (Env.controlValves_leaves config) runtime
  | controlRelays config => exact heats (Env.controlRelays_leaves config) runtime
  | replacePlugBindings device ts =>
      exact silently (fun world => congrArg WorldState.Sides.lighting
        (Env.replacePlugBindings_sides device ts world)) runtime
  | deferPress key press => exact silently (fun _ => rfl) runtime
  | dropPress key => exact silently (fun _ => rfl) runtime
  | noteDoubleTap key ts => exact silently (fun _ => rfl) runtime
  | noteTimedAction binding time => exact silently (fun _ => rfl) runtime
  | clearTimedAction binding => exact silently (fun _ => rfl) runtime
  | observeMeter device power energy ts => exact silently (fun _ => rfl) runtime
  | _ => cases spares

theorem run_lighting (env : Env) {operation : Operation} (spares : operation.sparesLighting)
    (runtime : Runtime) : (operation.run env runtime).1.lighting = runtime.lighting :=
  (run_spares env spares runtime).1

/-- The operation is about lights, zones and sessions. -/
def isLighting : Operation → Bool
  | execute _ effect _ => effect.targetPlug.isNone
  | webRecallScene _ _ _ => true
  | webSetRoomOff _ _ => true
  | startSession _ _ _ => true
  | releaseSession _ _ => true
  | finishSession _ _ _ => true
  | startupTurnOff _ _ => true
  | observeGroup _ _ _ => true
  | observeLight _ _ _ => true
  | blockMotion _ _ => true
  | forgetCycle _ => true
  | _ => false

/-- A lighting operation leaves sensors, heating, plugs and presses alone. -/
theorem run_frame {operation : Operation} (admissible : operation.Admissible env.topology)
    (lighting : operation.isLighting) (runtime : Runtime) :
    WorldState.Frame runtime.world (operation.run env runtime).1.world := by
  have starts : ∀ rule ∈ env.topology.motionRules, ∀ illuminance ts,
      WorldState.Frame runtime.world
        (env.startMotionSession rule illuminance ts runtime.world).1 := by
    intro rule listed illuminance ts
    rcases Env.startMotionSession_cases listed illuminance ts runtime.world with
      idle | ⟨opens, same⟩
    · exact idle.frame
    · rw [same]
      exact opens.frame'
  cases operation with
  | execute ruleName effect ts =>
      cases about : effect.room with
      | some room => exact (Env.executeEffect_manual about ruleName ts _).toFrame
      | none =>
          cases effect with
          | turnOffAllZones => exact (Env.turnOffAllZones_touches env ts _).toFrame
          | toggle plug seconds => cases lighting
          | turnOn plug => cases lighting
          | turnOff plug => cases lighting
          | _ => cases about
  | webRecallScene room sceneId ts => exact (Env.webRecallScene_manual _ _ _ _).toFrame
  | webSetRoomOff room ts => exact (Env.webSetRoomOff_manual _ _ _).toFrame
  | startSession rule illuminance ts => exact starts rule admissible illuminance ts
  | releaseSession rule ts => exact Env.releaseMotionSession_frame rule ts runtime.world
  | finishSession rule ts owner =>
      exact (Env.finishMotionSession_finish env rule ts owner _).closes.2.2
  | startupTurnOff rule ts =>
      have startup := Env.startupTurnOff_startup env rule ts runtime.world
      have goal : ∀ result, Env.Startup env rule ts runtime.world result →
          WorldState.Frame runtime.world result.1 := by
        rintro result (_ | _ | ⟨_, _, _, resets⟩)
        · exact WorldState.Frame.refl _
        · exact starts rule admissible none ts
        · exact resets.frame
      exact goal _ startup
  | observeGroup group on ts => exact (Env.handleGroupState_reported group on ts _).toFrame
  | observeLight device actual ts =>
      exact (Env.handleLightState_reported device actual ts _).toFrame
  | blockMotion room ts => exact Env.blockMotion_frame room ts runtime.world
  | forgetCycle room => exact ⟨rfl, rfl, rfl, rfl, rfl, rfl⟩
  | _ => cases lighting

/-- A lighting operation only changes the world. -/
theorem run_world {operation : Operation} (lighting : operation.isLighting) (runtime : Runtime) :
    (operation.run env runtime).1 =
      { runtime with world := (operation.run env runtime).1.world } := by
  cases operation with
  | execute ruleName effect ts => rfl
  | webRecallScene room sceneId ts => rfl
  | webSetRoomOff room ts => rfl
  | startSession rule illuminance ts => rfl
  | releaseSession rule ts => rfl
  | finishSession rule ts owner => rfl
  | startupTurnOff rule ts => rfl
  | observeGroup group on ts => rfl
  | observeLight device actual ts => rfl
  | blockMotion room ts => rfl
  | forgetCycle room => rfl
  | _ => cases lighting

/-- The operation is about valves, relays or the age of their commands. -/
def isHeating : Operation → Bool
  | observeTrv _ _ _ => true
  | observeThermostat _ _ _ _ _ => true
  | ageTargets _ => true
  | beginHeatingTick _ => true
  | controlValves _ => true
  | controlRelays _ => true
  | _ => false

/-- Other operations leave heating alone. -/
theorem run_heating {operation : Operation} (admissible : operation.Admissible env.topology)
    (other : operation.isHeating = false) (runtime : Runtime) :
    (operation.run env runtime).1.heating = runtime.heating := by
  have framed : operation.isLighting → (operation.run env runtime).1.heating = runtime.heating := by
    intro lighting
    have frame := run_frame admissible lighting runtime
    rw [run_world lighting runtime]
    unfold Runtime.heating
    rw [frame.heatingZones, frame.trvs]
  have sides : ∀ {after : WorldState}, after.sides = runtime.world.sides →
      ({ runtime with world := after } : Runtime).heating = runtime.heating := by
    intro after same
    have radiators : after.radiators = runtime.world.radiators :=
      congrArg WorldState.Sides.radiators same
    obtain ⟨zones, trvs⟩ := Prod.mk.inj radiators
    unfold Runtime.heating
    dsimp only
    rw [zones, trvs]
  cases operation with
  | execute ruleName effect ts =>
      cases effect with
      | toggle plug seconds => exact sides (Env.togglePlug_leaves ruleName plug seconds ts _).1
      | turnOn plug => rfl
      | turnOff plug => rfl
      | _ => exact framed rfl
  | webSetPlugPower device on ts => exact sides (Env.webSetPlugPower_leaves device on ts _).1
  | observePlug device on power ts =>
      exact sides (Env.handlePlugState_leaves device on power ts _).1
  | fireKillSwitches ts => exact sides (Env.evaluateKillSwitchTicks_leaves ts _).1
  | armKillSwitches ts => exact sides (Env.armKillSwitchesForActivePlugs_sides ts _)
  | replacePlugBindings device ts => exact sides (Env.replacePlugBindings_sides device ts _)
  | deferPress key press => rfl
  | dropPress key => rfl
  | noteDoubleTap key ts => rfl
  | noteTimedAction binding time => rfl
  | clearTimedAction binding => rfl
  | observeSensor sensor occupied illuminance received ts => rfl
  | observeMeter device power energy ts => rfl
  | ageActuals ts => rfl
  | observeTrv config device report => cases other
  | observeThermostat config device relayOn temperature mode => cases other
  | ageTargets ts => cases other
  | beginHeatingTick config => cases other
  | controlValves config => cases other
  | controlRelays config => cases other
  | _ => exact framed rfl

/-- The operation switches, reports or ages plugs, or moves their kill switches. -/
def changesPlugs : Operation → Bool
  | execute _ effect _ => effect.targetPlug.isSome
  | webSetPlugPower _ _ _ => true
  | observePlug _ _ _ _ => true
  | fireKillSwitches _ => true
  | armKillSwitches _ => true
  | ageTargets _ => true
  | ageActuals _ => true
  | replacePlugBindings _ _ => true
  | _ => false

/-- Other operations leave every plug alone. -/
theorem run_plugs {operation : Operation} (admissible : operation.Admissible env.topology)
    (other : operation.changesPlugs = false) (runtime : Runtime) :
    (operation.run env runtime).1.world.plugs = runtime.world.plugs := by
  have framed : operation.isLighting →
      (operation.run env runtime).1.world.plugs = runtime.world.plugs :=
    fun lighting => (run_frame admissible lighting runtime).plugs
  have heated : Leaves Runtime.unheated Effect.toDevice (operation.run env) →
      (operation.run env runtime).1.world.plugs = runtime.world.plugs :=
    fun leaves => congrArg Runtime.Unheated.plugs (leaves runtime).1
  cases operation with
  | execute ruleName effect ts =>
      cases effect with
      | toggle plug seconds => cases other
      | turnOn plug => cases other
      | turnOff plug => cases other
      | _ => exact framed rfl
  | webSetPlugPower device on ts => cases other
  | observePlug device on power ts => cases other
  | fireKillSwitches ts => cases other
  | armKillSwitches ts => cases other
  | ageTargets ts => cases other
  | ageActuals ts => cases other
  | replacePlugBindings device ts => cases other
  | observeTrv config device report => exact heated (observeTrv_leaves env config device report)
  | observeThermostat config device relayOn temperature operatingMode =>
      exact heated (observeThermostat_leaves env config device relayOn temperature operatingMode)
  | beginHeatingTick config => exact heated (Env.beginHeatingTick_leaves config)
  | controlValves config => exact heated (Env.controlValves_leaves config)
  | controlRelays config => exact heated (Env.controlRelays_leaves config)
  | deferPress key press => rfl
  | dropPress key => rfl
  | noteDoubleTap key ts => rfl
  | noteTimedAction binding time => rfl
  | clearTimedAction binding => rfl
  | observeSensor sensor occupied illuminance received ts => rfl
  | observeMeter device power energy ts => rfl
  | _ => exact framed rfl

/-- The operation notes or forgets when a timed action was executed. -/
def timesActions : Operation → Bool
  | noteTimedAction _ _ => true
  | clearTimedAction _ => true
  | _ => false

/-- Other operations leave what is known of button presses and of timed actions alone. -/
theorem run_memory {operation : Operation} (admissible : operation.Admissible env.topology)
    (calm : operation.changesPresses = false) (untimed : operation.timesActions = false)
    (runtime : Runtime) :
    (operation.run env runtime).1.world.presses = runtime.world.presses ∧
      (operation.run env runtime).1.world.atLastFired = runtime.world.atLastFired := by
  have framed : operation.isLighting →
      (operation.run env runtime).1.world.presses = runtime.world.presses ∧
        (operation.run env runtime).1.world.atLastFired = runtime.world.atLastFired :=
    fun lighting => ⟨(run_frame admissible lighting runtime).presses,
      (run_frame admissible lighting runtime).atLastFired⟩
  have heated : Leaves Runtime.unheated Effect.toDevice (operation.run env) →
      (operation.run env runtime).1.world.presses = runtime.world.presses ∧
        (operation.run env runtime).1.world.atLastFired = runtime.world.atLastFired :=
    fun leaves => ⟨congrArg Runtime.Unheated.presses (leaves runtime).1,
      congrArg Runtime.Unheated.atLastFired (leaves runtime).1⟩
  have sides : ∀ {after : WorldState}, after.sides = runtime.world.sides →
      after.presses = runtime.world.presses ∧ after.atLastFired = runtime.world.atLastFired :=
    fun same => ⟨congrArg WorldState.Sides.presses same,
      congrArg WorldState.Sides.atLastFired same⟩
  cases operation with
  | execute ruleName effect ts =>
      cases effect with
      | toggle plug seconds => exact sides (Env.togglePlug_leaves ruleName plug seconds ts _).1
      | turnOn plug => exact ⟨rfl, rfl⟩
      | turnOff plug => exact ⟨rfl, rfl⟩
      | _ => exact framed rfl
  | webSetPlugPower device on ts => exact sides (Env.webSetPlugPower_leaves device on ts _).1
  | observePlug device on power ts =>
      exact sides (Env.handlePlugState_leaves device on power ts _).1
  | fireKillSwitches ts => exact sides (Env.evaluateKillSwitchTicks_leaves ts _).1
  | armKillSwitches ts => exact sides (Env.armKillSwitchesForActivePlugs_sides ts _)
  | replacePlugBindings device ts => exact sides (Env.replacePlugBindings_sides device ts _)
  | observeTrv config device report => exact heated (observeTrv_leaves env config device report)
  | observeThermostat config device relayOn temperature operatingMode =>
      exact heated (observeThermostat_leaves env config device relayOn temperature operatingMode)
  | beginHeatingTick config => exact heated (Env.beginHeatingTick_leaves config)
  | controlValves config => exact heated (Env.controlValves_leaves config)
  | controlRelays config => exact heated (Env.controlRelays_leaves config)
  | deferPress key press => cases calm
  | dropPress key => cases calm
  | noteDoubleTap key ts => cases calm
  | noteTimedAction binding time => cases untimed
  | clearTimedAction binding => cases untimed
  | observeSensor sensor occupied illuminance received ts => exact ⟨rfl, rfl⟩
  | observeMeter device power energy ts => exact ⟨rfl, rfl⟩
  | ageTargets ts => exact ⟨rfl, rfl⟩
  | ageActuals ts => exact ⟨rfl, rfl⟩
  | _ => exact framed rfl

/-- Other operations leave the deferred presses and the double taps alone. -/
theorem run_presses {operation : Operation} (admissible : operation.Admissible env.topology)
    (other : operation.changesPresses = false) (runtime : Runtime) :
    (operation.run env runtime).1.world.presses = runtime.world.presses := by
  cases timed : operation.timesActions with
  | false => exact (run_memory admissible other timed runtime).1
  | true =>
      cases operation with
      | noteTimedAction binding time => rfl
      | clearTimedAction binding => rfl
      | _ => cases timed

/-- Other operations leave what is known of timed actions alone. -/
theorem run_atLastFired {operation : Operation} (admissible : operation.Admissible env.topology)
    (other : operation.timesActions = false) (runtime : Runtime) :
    (operation.run env runtime).1.world.atLastFired = runtime.world.atLastFired := by
  cases presses : operation.changesPresses with
  | false => exact (run_memory admissible presses other runtime).2
  | true =>
      cases operation with
      | deferPress key press => rfl
      | dropPress key => rfl
      | noteDoubleTap key ts => rfl
      | _ => cases presses

/-- Other operations leave every session alone. -/
theorem run_ruleAt {operation : Operation} (other : operation.changesSessions = false)
    (runtime : Runtime) (name : String) :
    (operation.run env runtime).1.world.ruleAt name = runtime.world.ruleAt name := by
  have spared : operation.sparesLighting →
      (operation.run env runtime).1.world.ruleAt name = runtime.world.ruleAt name := by
    intro spares
    have same := congrArg Lighting.motionRules (run_lighting env spares runtime)
    exact congrArg (fun rules : NameMap MotionRuleState => rules[name]?) same
  cases operation with
  | execute ruleName effect ts =>
      cases about : effect.room with
      | some room =>
          exact (Env.executeEffect_manual about ruleName ts _).ruleAt_eq (fun _ _ _ => not_false) _
      | none =>
          cases effect with
          | turnOffAllZones =>
              exact (Env.turnOffAllZones_touches env ts _).ruleAt_eq (fun _ _ _ => not_false) _
          | toggle plug seconds => exact spared rfl
          | turnOn plug => exact spared rfl
          | turnOff plug => exact spared rfl
          | _ => cases about
  | webRecallScene room sceneId ts =>
      exact (Env.webRecallScene_manual _ _ _ _).ruleAt_eq (fun _ _ _ => not_false) _
  | webSetRoomOff room ts =>
      exact (Env.webSetRoomOff_manual _ _ _).ruleAt_eq (fun _ _ _ => not_false) _
  | observeGroup group on ts =>
      exact (Env.handleGroupState_reported group on ts _).ruleAt_eq (fun _ _ _ => not_false) _
  | observeLight device actual ts =>
      exact (Env.handleLightState_reported device actual ts _).ruleAt_eq (fun _ _ _ => not_false) _
  | observeSensor sensor occupied illuminance received ts => rfl
  | ageTargets ts => rfl
  | ageActuals ts => rfl
  | forgetCycle room => rfl
  | startSession rule illuminance ts => cases other
  | releaseSession rule ts => cases other
  | finishSession rule ts owner => cases other
  | startupTurnOff rule ts => cases other
  | blockMotion room ts => cases other
  | _ => exact spared rfl

/-- Other operations leave every motion sensor alone. -/
theorem run_motionSensors {operation : Operation}
    (admissible : operation.Admissible env.topology) (other : operation.changesSensors = false)
    (runtime : Runtime) :
    (operation.run env runtime).1.world.motionSensors = runtime.world.motionSensors := by
  have spared : operation.sparesLighting →
      (operation.run env runtime).1.world.motionSensors = runtime.world.motionSensors :=
    fun spares => congrArg Lighting.motionSensors (run_lighting env spares runtime)
  have framed : operation.isLighting →
      (operation.run env runtime).1.world.motionSensors = runtime.world.motionSensors :=
    fun lighting => (run_frame admissible lighting runtime).motionSensors
  cases operation with
  | execute ruleName effect ts =>
      cases effect with
      | toggle plug seconds => exact spared rfl
      | turnOn plug => exact spared rfl
      | turnOff plug => exact spared rfl
      | _ => exact framed rfl
  | webRecallScene room sceneId ts => exact framed rfl
  | webSetRoomOff room ts => exact framed rfl
  | startSession rule illuminance ts => exact framed rfl
  | releaseSession rule ts => exact framed rfl
  | finishSession rule ts owner => exact framed rfl
  | startupTurnOff rule ts => exact framed rfl
  | observeGroup group on ts => exact framed rfl
  | observeLight device actual ts => exact framed rfl
  | blockMotion room ts => exact framed rfl
  | forgetCycle room => exact framed rfl
  | ageTargets ts => rfl
  | observeSensor sensor occupied illuminance received ts => cases other
  | ageActuals ts => cases other
  | _ => exact spared rfl

end Operation

end MqttController
