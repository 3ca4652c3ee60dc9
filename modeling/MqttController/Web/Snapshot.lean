import MqttController.Control

/-!
# Snapshots for the dashboard

What the dashboard is sent of rooms, plugs, lights and heating zones: all of them when it connects,
and single ones when they change.  Phases, owners, gestures and effects are sent as texts, which
are left to the dashboard here; the texts of the configuration that nothing else reads come from
`Labels`.
-/

namespace MqttController

open Std

/-- Whole seconds of a duration. -/
def Duration.asSecs (duration : Duration) : Nat := duration / nanosPerSecond

/-- Whole milliseconds of a duration. -/
def Duration.asMillis (duration : Duration) : Nat := duration / 1000000

/-- What is left of a duration, unless more than that has passed. -/
def Duration.checkedSub (duration passed : Duration) : Option Duration :=
  if passed ≤ duration then some (duration - passed) else none

namespace Web

/-- Descriptive fields of the configuration, by the name of what they describe. -/
structure Labels where
  /-- Display location of a room. -/
  room : String → Option String
  /-- Display name of a plug. -/
  displayName : String → Option String
  /-- Display location of a plug. -/
  deviceRoom : String → Option String
  /-- A plug does not count towards totals. -/
  excludeFromTotals : String → Bool
  /-- Occupancy timeout of a sensor. -/
  occupancyTimeoutSeconds : String → Nat

/-! ## Shared parts -/

/-- Lifecycle of a target. -/
structure TassTargetInfo where
  phase : TargetPhase
  owner : Option Owner
  sinceAgoMs : Option Nat

/-- Freshness of a reading. -/
structure TassActualInfo where
  freshness : ActualFreshness
  sinceAgoMs : Option Nat

/-- Milliseconds since an instant. -/
def agoMs (now earlier : Instant) : Nat := (durationSince now earlier).asMillis

/-- The lifecycle of a target as it is sent. -/
def tassTargetInfo {α : Type} (target : TassTarget α) (now : Instant) : TassTargetInfo :=
  { phase := target.phase, owner := target.owner, sinceAgoMs := target.since.map (agoMs now) }

/-- The freshness of a reading as it is sent. -/
def tassActualInfo {α : Type} (actual : TassActual α) (now : Instant) : TassActualInfo :=
  { freshness := actual.freshness, sinceAgoMs := actual.since.map (agoMs now) }

/-- A schedule to edit. -/
structure SceneSchedulePlan where
  slots : NameMap Slot
  availableScenes : List (Nat × String)
  overridden : Bool

/-- The schedule in force with the deployed scenes. -/
def schedulePlan (slots : NameMap Slot) (deployed : SceneSchedule) (overridden : Bool) :
    SceneSchedulePlan :=
  { slots, availableScenes := deployed.scenes.map fun scene => (scene.id, scene.name), overridden }

/-- A timed binding with its time in force. -/
structure TimedActionInfo where
  binding : String
  time : TimeExpr
  action : ResolvedEffect
  overridden : Bool

/-- Buttons of a switch, each with what its gestures do. -/
abbrev SwitchInfos := NameMap (NameMap (List (Gesture × ResolvedEffect)))

/-- The device of a member: what comes before its first separator. -/
def memberDevice (member : String) : String :=
  String.ofList (member.toList.takeWhile (· != '/'))

/-- Configuration form of a member. -/
def memberKey (tables : TopologyTables) (light : LightEndpoint) : String :=
  tables.deviceName light.device ++ "/" ++ toString light.endpoint

/-- Button bindings that satisfy a condition, by switch and button. -/
def collectSwitches (tables : TopologyTables) (applies : ResolvedBinding → Bool) : SwitchInfos :=
  tables.bindings.foldl (fun grouped binding =>
    if applies binding then
      match binding.trigger with
      | .button device button gesture =>
          OrderedMap.upsert grouped (tables.deviceName device) ∅ fun buttons =>
            OrderedMap.upsert buttons button [] (· ++ [(gesture, binding.effect)])
      | _ => grouped
    else grouped) ∅

/-! ## Lights -/

/-- A light as it is sent. -/
structure LightSnapshot where
  device : String
  room : Option String
  target : Option TassTargetInfo
  targetValue : Option LightTarget
  actual : Option TassActualInfo
  actualValue : Option LightActual

/-- A light, from what is known of it. -/
def lightSnapshotFrom (device : String) (room : Option String) (entity : Option LightEntity)
    (now : Instant) : LightSnapshot :=
  { device, room
    target := entity.map fun light => tassTargetInfo light.target now
    targetValue := entity.bind fun light => light.target.value
    actual := entity.map fun light => tassActualInfo light.actual now
    actualValue := entity.bind fun light => light.actual.value }

/-- Rooms with their members, in the order in which two nested loops meet them. -/
def memberships (tables : TopologyTables) : List (ResolvedRoom × String) :=
  tables.rooms.flatMap fun room => room.members.map fun member => (room, member)

/-- The first room with a light among its members. -/
def lightRoomOf (tables : TopologyTables) (device : String) : Option String :=
  ((memberships tables).find? fun entry => memberDevice entry.2 == device).map (·.1.name)

section Builders

variable (labels : Labels) (env : Env) (runtime : Runtime) (now : Instant)

/-- A single light of the catalog, also one that has not reported. -/
def buildLightSnapshot (device : String) : Option LightSnapshot :=
  if env.topology.isLight device then
    some (lightSnapshotFrom device (lightRoomOf env.topology.toTopologyTables device)
      runtime.world.lights[device]? now)
  else none

/-- Add the light of a member unless it is there. -/
def addLight (out : List LightSnapshot) (entry : ResolvedRoom × String) : List LightSnapshot :=
  let device := memberDevice entry.2
  if !env.topology.isLight device then out
  else if out.any fun light => light.device == device then out
  else out ++ [lightSnapshotFrom device (some entry.1.name) runtime.world.lights[device]? now]

/-- All lights, by way of the members of all rooms. -/
def buildAllLightSnapshots : List LightSnapshot :=
  (memberships env.topology.toTopologyTables).foldl (addLight env runtime now) []

/-! ## Rooms -/

/-- A motion sensor as it is sent. -/
structure MotionSensorInfo where
  device : String
  lastEvent : Option MotionEvent
  occupied : Option Bool
  illuminance : Option Nat
  freshness : Option ActualFreshness
  sinceAgoMs : Option Nat
  occupancyTimeoutSecs : Nat

/-- The sensors of a rule. -/
def buildRoomMotionSensors (sensors : List String) : List MotionSensorInfo :=
  sensors.map fun sensor =>
    let entity := runtime.world.motionSensors[sensor]?
    let actual := entity.bind fun entity => entity.actual.value
    { device := sensor
      lastEvent := entity.bind (·.lastEvent)
      occupied := actual.map (·.occupied)
      illuminance := actual.bind (·.illuminance)
      freshness := entity.map fun entity => entity.actual.freshness
      sinceAgoMs := (entity.bind fun entity => entity.actual.since).map (agoMs now)
      occupancyTimeoutSecs := labels.occupancyTimeoutSeconds sensor }

/-- A motion rule as it is sent with a room. -/
structure MotionRuleInfo where
  name : String
  mode : MotionMode
  maxIlluminance : Option Nat
  sensors : List MotionSensorInfo
  activeSlot : Option String
  targets : List String
  sessionTargets : List String
  offCooldownSecs : Nat
  cooldownRemainingSecs : Option Nat
  schedule : SceneSchedulePlan

/-- Lights of a session that motion still owns. -/
def ownedLights (session : MotionSession) : List LightEndpoint :=
  session.target.lights.filter fun light =>
    decide (light.device ∈ session.claimed) &&
      (runtime.world.lights[env.topology.deviceName light.device]?).any fun entity =>
        entity.target.owner == some .motion

/-- A motion rule, from its state. -/
def motionRuleInfo (rule : ResolvedMotionRule) : MotionRuleInfo :=
  let tables := env.topology.toTopologyTables
  let state := runtime.world.motionRules[rule.name]?
  let slots := env.motionSlots rule
  let activeSlot := (env.activeSlot slots).map Prod.fst
  { name := rule.name, mode := rule.mode, maxIlluminance := rule.maxIlluminance
    sensors := buildRoomMotionSensors labels runtime now rule.sensors
    activeSlot
    targets := (activeSlot.bind fun slot => rule.targetsBySlot[slot]?).elim [] fun target =>
      target.lights.map (memberKey tables)
    sessionTargets := (state.bind (·.session)).elim [] fun session =>
      (ownedLights env runtime session).map (memberKey tables)
    offCooldownSecs := rule.offCooldownSeconds
    cooldownRemainingSecs := (((state.bind (·.lastMotionOffAt)).bind fun last =>
      (Duration.fromSecs rule.offCooldownSeconds).checkedSub (durationSince now last)).map
        Duration.asSecs).filter (0 < ·)
    schedule := schedulePlan slots rule.scenes
      (env.settings.motionScheduleOverrides.contains rule.name) }

/-- The lights of a room, each once. -/
def buildRoomLights (room : ResolvedRoom) : List String :=
  room.members.foldl (fun out member =>
    let device := memberDevice member
    if out.contains device then out
    else if env.topology.isLight device then out ++ [device]
    else out) []

/-- Timed bindings whose effect satisfies a condition. -/
def buildTimedActions (applies : ResolvedEffect → Bool) : List TimedActionInfo :=
  (env.effectiveBindings.filter fun binding => applies binding.effect).filterMap fun binding =>
    (env.timedActionTime binding).map fun time =>
      { binding := binding.name, time, action := binding.effect
        overridden := env.settings.timedActionOverrides.contains binding.name }

/-- A room as it is sent. -/
structure RoomSnapshot where
  name : String
  groupName : String
  room : Option String
  physicallyOn : Bool
  motionEnabled : Bool
  motionOwned : Bool
  cycleIdx : Nat
  lastPressAgoMs : Option Nat
  lastOffAgoMs : Option Nat
  motionActiveSensors : List String
  activeSlot : Option String
  sceneIds : List Nat
  target : Option TassTargetInfo
  targetValue : Option LightZoneTarget
  actual : Option TassActualInfo
  actualValue : Option LightZoneActual
  switches : SwitchInfos
  motionRules : List MotionRuleInfo
  lights : List String
  schedule : SceneSchedulePlan
  members : List String
  switchSteps : List (String × List (Nat × List String))
  timedActions : List TimedActionInfo

/-- Sensors of a room that are occupied now. -/
def activeMotionSensorsForRoom (name : String) : List String :=
  (env.topology.roomByName name).elim [] fun room =>
    room.boundMotion.filter fun sensor =>
      (runtime.world.motionSensors[sensor]?).any (·.isOccupied)

/-- A room, from the state of its zone and its occupied sensors. -/
def roomSnapshotFrom (room : ResolvedRoom) (zone : Option LightZoneEntity)
    (activeSensors : List String) : RoomSnapshot :=
  let tables := env.topology.toTopologyTables
  let slots := env.roomSlots room
  let active := env.activeSlot slots
  let motionRules := (env.topology.motionRules.filter fun rule =>
    (tables.relatedRooms rule).any fun idx => tables.roomName idx == room.name).map
      (motionRuleInfo labels env runtime now)
  { name := room.name, groupName := room.groupName, room := labels.room room.name
    physicallyOn := zone.any (·.isOn)
    motionEnabled := env.motionEnabled room.name
    motionOwned := motionRules.any fun rule => rule.sessionTargets.any room.members.contains
    cycleIdx := zone.elim 0 (·.cycleIdx)
    lastPressAgoMs := (zone.bind (·.lastPressAt)).map (agoMs now)
    lastOffAgoMs := (zone.bind (·.lastOffAt)).map (agoMs now)
    motionActiveSensors := activeSensors
    activeSlot := active.map Prod.fst
    sceneIds := active.elim [] (·.2.sceneIds)
    target := zone.map fun zone => tassTargetInfo zone.target now
    targetValue := zone.bind fun zone => zone.target.value
    actual := zone.map fun zone => tassActualInfo zone.actual now
    actualValue := zone.bind fun zone => zone.actual.value
    switches := collectSwitches tables fun binding =>
      binding.effect.room == tables.roomIdx room.name
    motionRules
    lights := buildRoomLights env room
    schedule := schedulePlan slots room.scenes
      (env.settings.roomScheduleOverrides.contains room.name)
    members := room.members
    switchSteps := (env.roomSwitchSteps room).toList.map fun entry =>
      (entry.1, entry.2.map fun step => (step.scene.id, step.lights.map (memberKey tables)))
    timedActions := buildTimedActions env fun effect =>
      match effect with
      | .turnOffAllZones => true
      | effect => effect.room.any fun idx => tables.roomName idx == room.name }

/-- A single room. -/
def buildRoomSnapshot (name : String) : Option RoomSnapshot :=
  (env.topology.roomByName name).map fun room =>
    roomSnapshotFrom labels env runtime now room runtime.world.lightZones[name]?
      (activeMotionSensorsForRoom env runtime name)

/-! ## Plugs -/

/-- A kill switch as it is sent. -/
structure KillSwitchRuleInfo where
  ruleName : String
  state : KillSwitchRuleState
  thresholdWatts : ℚ
  holdoffSecs : Nat
  idleSinceAgoMs : Option Nat
  overridden : Bool

/-- Daily actions and kill switch of a plug to edit. -/
structure PlugSchedulePlan where
  timedActions : List (TimeExpr × ResolvedEffect)
  killSwitch : Option (ℚ × Nat)
  overridden : Bool
  powerMetered : Bool

/-- A plug as it is sent. -/
structure PlugSnapshot where
  excludeFromTotals : Bool
  device : String
  displayName : Option String
  room : Option String
  on : Bool
  idleSinceAgoMs : Option Nat
  killSwitchHoldoffSecs : Option Nat
  powerWatts : Option ℚ
  powerActual : Option TassActualInfo
  target : Option TassTargetInfo
  targetValue : Option PlugTarget
  actual : Option TassActualInfo
  actualValue : Option (Bool × Option ℚ)
  killSwitchRules : List KillSwitchRuleInfo
  linkedSwitches : SwitchInfos
  schedule : PlugSchedulePlan

/-- Threshold and holdoff of a power-below binding. -/
def killSwitchParams (binding : ResolvedBinding) : Option (ℚ × Duration) :=
  match binding.trigger with
  | .powerBelow _ watts holdoff => some (watts, holdoff)
  | _ => none

/-- When the idle kill switches of a plug became idle, each with its holdoff. -/
def idleKillSwitches (device : String) (idx : DeviceIdx) : List (Instant × Option Duration) :=
  (runtime.world.plugs[device]?).elim [] fun (plug : PlugEntity) =>
    (env.powerBelowBindings idx).filterMap fun (binding : ResolvedBinding) =>
      match (plug.killSwitchRules[binding.name]? : Option KillSwitchRuleState) with
      | some (.idle since) => some (since, (killSwitchParams binding).map Prod.snd)
      | _ => none

/-- The kill switches of a plug; none before it has reported. -/
def buildKillSwitchRules (plug : Option PlugEntity) (device : String) (idx : DeviceIdx) :
    List KillSwitchRuleInfo :=
  plug.elim [] fun plug =>
    (env.powerBelowBindings idx).filterMap fun (binding : ResolvedBinding) =>
      (killSwitchParams binding).map fun params =>
        let state : KillSwitchRuleState := (plug.killSwitchRules[binding.name]?).getD .inactive
        { ruleName := binding.name, state, thresholdWatts := params.1
          holdoffSecs := params.2.asSecs
          idleSinceAgoMs := match state with
            | .idle since => some (agoMs now since)
            | _ => none
          overridden := env.plugScheduleOverridden device }

/-- The daily actions and the kill switch in force. -/
def buildPlugSchedule (idx : DeviceIdx) : PlugSchedulePlan :=
  { timedActions :=
      (env.effectiveBindings.filter fun binding => binding.effect.targetPlug == some idx).filterMap
        fun binding => (env.timedActionTime binding).map fun time => (time, binding.effect)
    killSwitch := ((env.powerBelowBindings idx).head?.bind killSwitchParams).map fun params =>
      (params.1, params.2.asSecs)
    overridden := env.plugScheduleOverridden (env.topology.deviceName idx)
    powerMetered := env.topology.powerMetered idx }

/-- A plug, from what is known of it.  There is none outside the catalog, where the source
panics. -/
def plugSnapshotFrom (plug : Option PlugEntity) (device : String) : Option PlugSnapshot :=
  (env.topology.deviceIdx device).map fun idx =>
    { excludeFromTotals := labels.excludeFromTotals device
      device, displayName := labels.displayName device, room := labels.deviceRoom device
      on := plug.any (·.isOn)
      idleSinceAgoMs :=
        ((idleKillSwitches env runtime device idx).map Prod.fst).min?.map (agoMs now)
      killSwitchHoldoffSecs :=
        ((idleKillSwitches env runtime device idx).filterMap fun entry =>
          entry.2.map Duration.asSecs).max?
      powerWatts := plug.bind fun plug => plug.power.value
      powerActual := plug.map fun plug => tassActualInfo plug.power now
      target := plug.map fun plug => tassTargetInfo plug.target now
      targetValue := plug.bind fun plug => plug.target.value
      actual := plug.map fun plug => tassActualInfo plug.actual now
      actualValue := (plug.bind fun plug => plug.actual.value).map fun actual =>
        (actual.on, plug.bind fun plug => plug.power.value)
      killSwitchRules := buildKillSwitchRules env now plug device idx
      linkedSwitches := collectSwitches env.topology.toTopologyTables fun binding =>
        binding.effect.targetPlug == if env.topology.isPlugIdx idx then some idx else none
      schedule := buildPlugSchedule env idx }

/-- A single plug that has been seen. -/
def buildPlugSnapshot (device : String) : Option PlugSnapshot :=
  (runtime.world.plugs[device]?).bind fun plug =>
    plugSnapshotFrom labels env runtime now (some plug) device

/-! ## Heating zones -/

/-- A boost as it is sent. -/
structure ValveBoostSnapshot where
  temperature : ℚ
  endsAtEpochMs : Nat
  remainingMs : Nat

/-- A valve as it is sent. -/
structure TrvSnapshot where
  boost : Option ValveBoostSnapshot
  device : String
  heatDemandEnabled : Bool
  localTemperature : Option ℚ
  piHeatingDemand : Option Nat
  /-- Absent while unknown. -/
  runningState : Option HeatingRunningState
  setpoint : Option ℚ
  battery : Option Nat
  inhibited : Bool
  forced : Bool
  schedule : String
  /-- The ranges of the day by start. -/
  scheduleSummary : List DayTimeRange
  scheduleOverride : Bool
  schedulePlan : Option TemperatureSchedule
  target : Option TassTargetInfo
  targetValue : Option TrvTarget
  actual : Option TassActualInfo

/-- A heating zone as it is sent. -/
structure HeatingZoneSnapshot where
  name : String
  relayDevice : String
  relayOn : Bool
  relayStateKnown : Bool
  relayTemperature : Option ℚ
  trvs : List TrvSnapshot
  minCycleRemainingSecs : Nat
  minPauseRemainingSecs : Nat
  relayStale : Bool
  target : Option TassTargetInfo
  targetValue : Option HeatingZoneTarget
  actual : Option TassActualInfo
  actualValue : Option HeatingZoneActual

/-- What is left of a boost by either clock. -/
def boostRemainingMs (device : String) : Option Nat :=
  (env.activeBoost device).map fun boost =>
    min (durationSince ((env.boostDeadlines[device]?).getD 0) env.clock.now).asMillis
      (boost.endsAtEpochMs - env.clock.epochMillis)

/-- The ranges of a day by start. -/
def scheduleSummary (schedule : TemperatureSchedule) (day : Weekday) : List DayTimeRange :=
  ((schedule.days[day]?).getD []).insertionSort fun first second =>
    first.startMinutes ≤ second.startMinutes

/-- A valve of a zone. -/
def trvSnapshot (config : HeatingConfig) (zoneTrv : ZoneTrv) : TrvSnapshot :=
  let trv := runtime.world.trvs[zoneTrv.device]?
  let actual := trv.bind fun trv => trv.actual.value
  { boost := (env.activeBoost zoneTrv.device).map fun boost =>
      { temperature := boost.temperature, endsAtEpochMs := boost.endsAtEpochMs
        remainingMs := (boostRemainingMs env zoneTrv.device).getD 0 }
    device := zoneTrv.device
    heatDemandEnabled := decide (zoneTrv.device ∉ env.settings.disabledHeatDemand)
    localTemperature := actual.bind (·.localTemperature)
    piHeatingDemand := actual.bind (·.piHeatingDemand)
    runningState := actual.bind fun actual =>
      if actual.runningStateSeen then some actual.runningState else none
    setpoint := actual.bind (·.setpoint)
    battery := actual.bind (·.battery)
    inhibited := trv.any fun trv => trv.isInhibited now
    forced := trv.any fun trv => trv.isForcedOpen
    schedule := zoneTrv.schedule
    scheduleSummary := (env.valveSchedule config zoneTrv).elim [] fun schedule =>
      scheduleSummary schedule env.clock.localWeekday
    scheduleOverride := env.settings.scheduleOverrides.contains zoneTrv.device
    schedulePlan := env.valveSchedule config zoneTrv
    target := trv.map fun trv => tassTargetInfo trv.target now
    targetValue := trv.bind fun trv => trv.target.value
    actual := trv.map fun trv => tassActualInfo trv.actual now }

/-- What is left of a protection time that began at an instant. -/
def remainingSecs (protection : Duration) (since : Option Instant) : Nat :=
  ((since.bind fun since => protection.checkedSub (durationSince now since)).map
    Duration.asSecs).getD 0

/-- A heating zone of the configuration. -/
def buildOneHeatingZone (config : HeatingConfig) (zone : HeatingZone) : HeatingZoneSnapshot :=
  let entity := runtime.world.heatingZones[zone.name]?
  let actual := entity.bind fun entity => entity.actual.value
  { name := zone.name, relayDevice := zone.relay
    relayOn := entity.any fun entity => entity.isRelayOn
    relayStateKnown := entity.any (·.relayStateKnown)
    relayTemperature := actual.bind (·.temperature)
    trvs := zone.trvs.map (trvSnapshot env runtime now config)
    minCycleRemainingSecs := remainingSecs now (Duration.fromSecs config.heatPump.minCycleSeconds)
      runtime.effectivePumpOnSince
    minPauseRemainingSecs := remainingSecs now (Duration.fromSecs config.heatPump.minPauseSeconds)
      runtime.effectivePumpOffSince
    relayStale := entity.any fun entity => entity.isWtStale now
    target := entity.map fun entity => tassTargetInfo entity.target now
    targetValue := entity.bind fun entity => entity.target.value
    actual := entity.map fun entity => tassActualInfo entity.actual now
    actualValue := actual }

/-- All heating zones. -/
def buildHeatingZoneSnapshots : List HeatingZoneSnapshot :=
  env.topology.heatingConfig.elim [] fun config =>
    config.zones.map (buildOneHeatingZone env runtime now config)

/-- A single heating zone. -/
def buildHeatingZoneSnapshot (name : String) : Option HeatingZoneSnapshot :=
  env.topology.heatingConfig.bind fun config =>
    (config.zones.find? fun zone => zone.name == name).map
      (buildOneHeatingZone env runtime now config)

/-! ## Everything -/

/-- All that a dashboard is sent when it connects. -/
structure FullStateSnapshot where
  rooms : List RoomSnapshot
  plugs : List PlugSnapshot
  heatingZones : List HeatingZoneSnapshot
  lights : List LightSnapshot
  timestampEpochMs : Nat

/-- The plugs of the catalog. -/
def allPlugNames (tables : TopologyTables) : List String :=
  (tables.devices.filter fun device => device.kind == .plug).map (·.name)

/-- Everything at one instant. -/
def buildFullSnapshot : FullStateSnapshot :=
  { rooms := env.topology.rooms.map fun room =>
      roomSnapshotFrom labels env runtime now room runtime.world.lightZones[room.name]?
        (activeMotionSensorsForRoom env runtime room.name)
    plugs := (allPlugNames env.topology.toTopologyTables).filterMap fun name =>
      plugSnapshotFrom labels env runtime now runtime.world.plugs[name]? name
    heatingZones := buildHeatingZoneSnapshots env runtime now
    lights := buildAllLightSnapshots env runtime now
    timestampEpochMs := env.clock.epochMillis }

end Builders

end Web

end MqttController
