import MqttController.StepObservations

/-!
# What the lights' reports say about a room

After reports of single lights, in any order, the actual state of a room's zone is the aggregate of
its members' latest reports: one light that is on proves the zone on, off takes every member, and
the age is that of the evidence.
-/

namespace MqttController

open Std

/-- The actual state that an observation of a zone leaves. -/
def TassActual.ofObserved : Option (LightZoneActual × Instant) → TassActual LightZoneActual
  | none => .unknown
  | some (actual, since) => .known actual false since

/-- What a zone's actual state has to be, by the last report of each member and its time. -/
structure Aggregates (reading : LightEndpoint → Option (Bool × Instant))
    (members : List LightEndpoint) (actual : TassActual LightZoneActual) : Prop where
  on_iff : actual.value = some .on ↔
    ∃ member ∈ members, ∃ since, reading member = some (true, since)
  off_iff : actual.value = some .off ↔
    ∀ member ∈ members, ∃ since, reading member = some (false, since)
  /-- On is as old as the newest report of a light that is on. -/
  on_since : actual.value = some .on → ∃ since, actual = .known .on false since ∧
    IsGreatest { time | ∃ member ∈ members, reading member = some (true, time) } since
  /-- Off is as old as the oldest report. -/
  off_since : actual.value = some .off → ∃ since, actual = .known .off false since ∧
    IsLeast { time | ∃ member ∈ members, reading member = some (false, time) } since
  unknown : actual.value = none → actual = .unknown

namespace Aggregates

variable {reading : LightEndpoint → Option (Bool × Instant)} {members : List LightEndpoint}
  {since : Instant}

/-- A light that is on proves the zone on. -/
theorem of_newest
    (newest : IsGreatest { time | ∃ member ∈ members, reading member = some (true, time) } since) :
    Aggregates reading members (.ofObserved (some (.on, since))) where
  on_iff := by
    obtain ⟨member, listed, lit⟩ := newest.1
    exact iff_of_true rfl ⟨member, listed, since, lit⟩
  off_iff := by
    obtain ⟨member, listed, lit⟩ := newest.1
    refine iff_of_false (fun off => by cases off) fun dark => ?_
    obtain ⟨time, off⟩ := dark member listed
    rw [lit] at off
    cases off
  on_since _ := ⟨since, rfl, newest⟩
  off_since off := by cases off
  unknown nothing := by cases nothing

/-- Lights that are all off prove the zone off. -/
theorem of_oldest
    (off : ∀ member ∈ members, ∃ since, reading member = some (false, since))
    (oldest : IsLeast { time | ∃ member ∈ members, reading member = some (false, time) } since) :
    Aggregates reading members (.ofObserved (some (.off, since))) where
  on_iff := by
    refine iff_of_false (fun on => by cases on) ?_
    rintro ⟨member, listed, time, lit⟩
    obtain ⟨other, dark⟩ := off member listed
    rw [lit] at dark
    cases dark
  off_iff := iff_of_true rfl off
  on_since on := by cases on
  off_since _ := ⟨since, rfl, oldest⟩
  unknown nothing := by cases nothing

/-- Nothing is proved where no light is known to be on and not all are known to be off. -/
theorem of_unknown
    (dark : ¬ ∃ member ∈ members, ∃ since, reading member = some (true, since))
    (unproved : ¬ ∀ member ∈ members, ∃ since, reading member = some (false, since)) :
    Aggregates reading members (.ofObserved none) where
  on_iff := iff_of_false (fun on => by cases on) dark
  off_iff := iff_of_false (fun off => by cases off) unproved
  on_since on := by cases on
  off_since off := by cases off
  unknown _ := rfl

end Aggregates

/-- What is known of a light: its last report and its time. -/
def lightReading (world : WorldState) (name : String) : Option (Bool × Instant) :=
  (world.lights[name]?).bind fun light =>
    match light.actual with
    | .unknown => none
    | .known value _ since => some (value.on, since)

/-- The times of the reports of one state, among what is known of the members. -/
theorem mem_reported {reading : LightEndpoint → Option (Bool × Instant)}
    {members : List LightEndpoint} {reported : Bool} {kept : Bool × Instant → Option Instant}
    {time : Instant}
    (kept_iff : ∀ state since, kept (state, since) = some time ↔ state = reported ∧ since = time) :
    time ∈ (members.filterMap reading).filterMap kept ↔
      ∃ member ∈ members, reading member = some (reported, time) := by
  simp only [List.mem_filterMap]
  constructor
  · rintro ⟨⟨state, since⟩, ⟨member, listed, known⟩, here⟩
    obtain ⟨rfl, rfl⟩ := (kept_iff state since).mp here
    exact ⟨member, listed, known⟩
  · rintro ⟨member, listed, known⟩
    exact ⟨_, ⟨member, listed, known⟩, (kept_iff reported time).mpr ⟨rfl, rfl⟩⟩

namespace Env

variable {env : Env} {room : ResolvedRoom} {world : WorldState}

/-- The newest report ON decides, else the oldest one OFF when every member is known. -/
theorem observedState_eq : env.observedState world room =
    (((room.lightMembers.filterMap (env.memberReading world)).filterMap fun reading =>
        if reading.1 then some reading.2 else none).max?).elim
      (if room.lightMembers.all fun member => (env.memberReading world member).isSome then
        (((room.lightMembers.filterMap (env.memberReading world)).filterMap fun reading =>
          if reading.1 then none else some reading.2).min?).map fun since => (.off, since)
      else none) fun since => some (.on, since) := by
  unfold Env.observedState
  dsimp only
  split
  · rename_i newest
    rw [newest, Option.elim_some]
  · rename_i newest
    rw [newest, Option.elim_none]

/-- The observation of a room aggregates what is known of its members. -/
theorem observedState_aggregates (peopled : room.lightMembers ≠ []) :
    Aggregates (env.memberReading world) room.lightMembers
      (.ofObserved (env.observedState world room)) := by
  let readings := room.lightMembers.filterMap (env.memberReading world)
  let on := readings.filterMap fun reading => if reading.1 then some reading.2 else none
  let off := readings.filterMap fun reading => if reading.1 then none else some reading.2
  have mem_on : ∀ time, time ∈ on ↔
      ∃ member ∈ room.lightMembers, env.memberReading world member = some (true, time) :=
    fun time => mem_reported fun state => by cases state <;> simp
  have mem_off : ∀ time, time ∈ off ↔
      ∃ member ∈ room.lightMembers, env.memberReading world member = some (false, time) :=
    fun time => mem_reported fun state => by cases state <;> simp
  have observed : env.observedState world room = on.max?.elim
      (if room.lightMembers.all fun member => (env.memberReading world member).isSome then
        off.min?.map fun since => (.off, since) else none) fun since => some (.on, since) :=
    observedState_eq
  rw [observed]
  cases newest : on.max? with
  | some since =>
      have greatest := List.max?_eq_some_iff.mp newest
      exact .of_newest ⟨(mem_on since).mp greatest.1,
        fun time shown => greatest.2 time ((mem_on time).mpr shown)⟩
  | none =>
      rw [Option.elim_none]
      have dark : ¬ ∃ member ∈ room.lightMembers, ∃ since,
          env.memberReading world member = some (true, since) := by
        rintro ⟨member, listed, since, reading⟩
        have kept := (mem_on since).mpr ⟨member, listed, reading⟩
        rw [List.max?_eq_none_iff.mp newest] at kept
        cases kept
      by_cases known : (room.lightMembers.all fun member =>
          (env.memberReading world member).isSome) = true
      · have off_of : ∀ member ∈ room.lightMembers, ∃ since,
            env.memberReading world member = some (false, since) := by
          intro member listed
          obtain ⟨⟨state, since⟩, reading⟩ :=
            Option.isSome_iff_exists.mp (List.all_eq_true.mp known member listed)
          cases state with
          | true => exact absurd ⟨member, listed, since, reading⟩ dark
          | false => exact ⟨since, reading⟩
        rw [if_pos known]
        cases oldest : off.min? with
        | some since =>
            have least := List.min?_eq_some_iff.mp oldest
            exact .of_oldest off_of ⟨(mem_off since).mp least.1,
              fun time shown => least.2 time ((mem_off time).mpr shown)⟩
        | none =>
            obtain ⟨first, listed⟩ := List.exists_mem_of_ne_nil _ peopled
            obtain ⟨since, reading⟩ := off_of first listed
            have kept := (mem_off since).mpr ⟨first, listed, reading⟩
            rw [List.min?_eq_none_iff.mp oldest] at kept
            cases kept
      · rw [if_neg known]
        refine .of_unknown dark fun off_of => known (List.all_eq_true.mpr fun member listed => ?_)
        obtain ⟨since, reading⟩ := off_of member listed
        rw [reading]
        rfl

/-! ## One report -/

/-- The zone of a room shows what is known of the room's members. -/
def Shows (env : Env) (room : ResolvedRoom) (world : WorldState) : Prop :=
  (world.zoneAt room.name).actual = .ofObserved (env.observedState world room)

theorem shows_congr {other : Env} (same : env.topology = other.topology) :
    env.Shows room world ↔ other.Shows room world := by
  unfold Shows observedState memberReading lightName
  rw [same]

theorem actual_followLights (zone : LightZoneEntity) (actual : LightZoneActual)
    (since ts : Instant) (stepConfirmed stepIsOff : Bool) (owner : Owner) :
    (zone.followLights actual since ts stepConfirmed stepIsOff owner).actual =
      .known actual false since := by
  rcases LightZoneEntity.followLights_cases zone actual since ts stepConfirmed stepIsOff owner with
    ⟨_, _, _, _, same⟩ | ⟨_, _, _, same⟩ | same
  · rw [same]
    rfl
  · rw [same]
    rfl
  · rw [same]
    rfl

/-- Following a report of a member shows the members' reports in the zone of its room. -/
theorem shows_followMember (ts : Instant) (world : WorldState) {idx : RoomIdx}
    (here : env.topology.room idx = some room) :
    env.Shows room (env.followMember ts world idx) := by
  unfold Shows
  rw [observedState_congr (lights_followMember ts world idx)]
  unfold followMember
  rw [here]
  dsimp only
  cases observed : env.observedState world room with
  | none =>
      dsimp only
      rw [WorldState.zoneAt_modifyZone, if_pos rfl]
      rfl
  | some reading =>
      dsimp only
      rw [WorldState.zoneAt_modifyZone, if_pos rfl, actual_followLights]
      rfl

/-- Following any room keeps what the zone of a room shows. -/
theorem Shows.followMember (listed : room ∈ env.topology.rooms) (shows : env.Shows room world)
    (ts : Instant) (idx : RoomIdx) : env.Shows room (env.followMember ts world idx) := by
  unfold Shows
  rw [observedState_congr (lights_followMember ts world idx)]
  rcases zoneAt_followMember listed ts world idx with
    same | ⟨nothing, same⟩ | ⟨actual, since, observed, same⟩
  · rw [same]
    exact shows
  · rw [same, nothing]
    rfl
  · rw [same, observed, actual_followLights]
    rfl

theorem lights_foldl_followMember (ts : Instant) (rooms : List RoomIdx) (world : WorldState) :
    (rooms.foldl (env.followMember ts) world).lights = world.lights := by
  induction rooms generalizing world with
  | nil => rfl
  | cons idx rest ih => rw [List.foldl_cons, ih, lights_followMember]

theorem Shows.foldl (listed : room ∈ env.topology.rooms) (ts : Instant) (rooms : List RoomIdx)
    (shows : env.Shows room world) : env.Shows room (rooms.foldl (env.followMember ts) world) := by
  induction rooms generalizing world with
  | nil => exact shows
  | cons idx rest ih => exact ih (shows.followMember listed ts idx)

theorem memberReading_eq (world : WorldState) (member : LightEndpoint) :
    env.memberReading world member = lightReading world (env.lightName member) := by
  unfold memberReading lightReading
  cases world.lights[env.lightName member]? with
  | none => rfl
  | some light => rfl

theorem lightReading_recordLightState (device : String) (actual : LightActual) (ts : Instant)
    (world : WorldState) (name : String) :
    lightReading (env.recordLightState device actual ts world) name =
      if device = name then some (actual.on, ts) else lightReading world name := by
  unfold lightReading recordLightState WorldState.modifyLight
  dsimp only
  rw [OrderedMap.getElem?_upsert]
  split
  · rfl
  · rfl

theorem lightReading_handleLightState (device : String) (actual : LightActual) (ts : Instant)
    (world : WorldState) (name : String) :
    lightReading (env.handleLightState device actual ts world) name =
      if device = name then some (actual.on, ts) else lightReading world name := by
  rw [← lightReading_recordLightState device actual ts world name]
  unfold handleLightState
  dsimp only
  split
  · rfl
  · unfold lightReading
    rw [lights_foldl_followMember]

/-- The observation of a room depends on what is known of its members only. -/
theorem observedState_of_readings {before after : WorldState}
    (readings : ∀ member ∈ room.lightMembers,
      env.memberReading after member = env.memberReading before member) :
    env.observedState after room = env.observedState before room := by
  have known : (room.lightMembers.all fun member => (env.memberReading after member).isSome) =
      room.lightMembers.all fun member => (env.memberReading before member).isSome := by
    rw [Bool.eq_iff_iff, List.all_eq_true, List.all_eq_true]
    refine forall₂_congr fun member among => ?_
    rw [readings member among]
  unfold observedState
  rw [List.filterMap_congr readings, known]

/-- A report of a member shows the members' reports in the zone of a room; a report of another
light leaves what the zone shows. -/
theorem shows_handleLightState (listed : room ∈ env.topology.rooms) {device : String}
    {actual : LightActual} {ts : Instant}
    (shown : (∃ member ∈ room.lightMembers, env.lightName member = device) ∨
      env.Shows room world) :
    env.Shows room (env.handleLightState device actual ts world) := by
  by_cases concerned : ∃ member ∈ room.lightMembers, env.lightName member = device
  · obtain ⟨member, among, named⟩ := concerned
    have bound := env.topology.valid.members_known room listed member among
    have position : env.topology.deviceIdx device = some member.device := by
      rw [← named]
      exact TopologyTables.deviceIdx_of_deviceName env.topology.valid bound
    obtain ⟨idx, within, here⟩ := List.getElem_of_mem listed
    have found : env.topology.room idx = some room := by
      unfold TopologyTables.room
      rw [List.getElem?_eq_getElem within, here]
    have concerned : idx ∈ env.topology.lightRooms member.device := by
      unfold TopologyTables.lightRooms
      rw [List.mem_filter, List.mem_range, found]
      refine ⟨within, ?_⟩
      simp only [Option.any_some, List.any_eq_true, beq_iff_eq]
      exact ⟨member, among, rfl⟩
    unfold handleLightState
    rw [position]
    dsimp only
    obtain ⟨first, later, split⟩ := List.append_of_mem concerned
    rw [split, List.foldl_append, List.foldl_cons]
    exact Shows.foldl listed ts later (shows_followMember ts _ found)
  · have before := shown.resolve_left concerned
    have kept : env.Shows room (env.recordLightState device actual ts world) := by
      have same : env.observedState (env.recordLightState device actual ts world) room =
          env.observedState world room := by
        have readings : ∀ member ∈ room.lightMembers,
            env.memberReading (env.recordLightState device actual ts world) member =
              env.memberReading world member := by
          intro member among
          rw [memberReading_eq, memberReading_eq, lightReading_recordLightState, if_neg]
          intro named
          exact concerned ⟨member, among, named.symm⟩
        exact observedState_of_readings readings
      unfold Shows
      rw [same]
      exact before
    unfold handleLightState
    dsimp only
    split
    · exact kept
    · exact kept.foldl listed ts _

end Env

/-! ## Histories of reports -/

/-- A report of one light, and the environment in which it is handled. -/
structure LightReport where
  env : Env
  device : String
  actual : LightActual
  ts : Instant

/-- Handle reports one after the other. -/
def takeReports (reports : List LightReport) (world : WorldState) : WorldState :=
  reports.foldl (fun world report =>
    report.env.handleLightState report.device report.actual report.ts world) world

/-- The last report of a light and its time, if it is not known before. -/
def latestReport (world : WorldState) (reports : List LightReport) (name : String) :
    Option (Bool × Instant) :=
  match reports.reverse.find? fun report => decide (report.device = name) with
  | some report => some (report.actual.on, report.ts)
  | none => lightReading world name

theorem latestReport_concat (world : WorldState) (reports : List LightReport)
    (report : LightReport) (name : String) :
    latestReport world (reports ++ [report]) name =
      if report.device = name then some (report.actual.on, report.ts)
      else latestReport world reports name := by
  unfold latestReport
  rw [List.reverse_append, List.reverse_singleton, List.singleton_append, List.find?_cons]
  by_cases named : report.device = name
  · simp [named]
  · simp [named]

theorem takeReports_concat (world : WorldState) (reports : List LightReport)
    (report : LightReport) : takeReports (reports ++ [report]) world =
      report.env.handleLightState report.device report.actual report.ts
        (takeReports reports world) := by
  unfold takeReports
  rw [List.foldl_append, List.foldl_cons, List.foldl_nil]

/-- After reports, what is known of a light is its last report. -/
theorem lightReading_takeReports (world : WorldState) (reports : List LightReport) (name : String) :
    lightReading (takeReports reports world) name = latestReport world reports name := by
  induction reports using List.reverseRecOn with
  | nil => rfl
  | append_singleton reports report ih =>
      rw [takeReports_concat, latestReport_concat, Env.lightReading_handleLightState, ih]

/-- After any reports of single lights, in any order and over any world, the zone of every room of
which a member has reported shows the aggregate of its members' last known reports. -/
theorem takeReports_aggregates (topology : Topology) (world : WorldState)
    (reports : List LightReport) (deployed : ∀ report ∈ reports, report.env.topology = topology)
    (room : ResolvedRoom) (listed : room ∈ topology.rooms)
    (reported : ∃ report ∈ reports, ∃ member ∈ room.lightMembers,
      topology.deviceName member.device = report.device) :
    Aggregates (fun member => latestReport world reports (topology.deviceName member.device))
      room.lightMembers ((takeReports reports world).zoneAt room.name).actual := by
  have shows : ∀ env : Env, env.topology = topology →
      env.Shows room (takeReports reports world) := by
    induction reports using List.reverseRecOn with
    | nil =>
        obtain ⟨report, taken, _⟩ := reported
        cases taken
    | append_singleton reports report ih =>
        intro env same
        have last := deployed report (by simp)
        have shown : report.env.Shows room (takeReports (reports ++ [report]) world) := by
          rw [takeReports_concat]
          refine Env.shows_handleLightState (by rw [last]; exact listed) ?_
          by_cases concerned : ∃ member ∈ room.lightMembers,
              report.env.lightName member = report.device
          · exact .inl concerned
          · refine .inr (ih (fun other taken => deployed other (by simp [taken])) ?_ _ last)
            obtain ⟨other, taken, member, among, named⟩ := reported
            rcases List.mem_append.mp taken with earlier | here
            · exact ⟨other, earlier, member, among, named⟩
            · rw [List.mem_singleton.mp here] at named
              refine absurd ⟨member, among, ?_⟩ concerned
              unfold Env.lightName
              rw [last]
              exact named
        rwa [Env.shows_congr (last.trans same.symm)] at shown
  obtain ⟨report, taken, member, among, _⟩ := reported
  have shown := shows report.env (deployed report taken)
  have known : report.env.memberReading (takeReports reports world) =
      fun member => latestReport world reports (topology.deviceName member.device) := by
    funext member
    rw [Env.memberReading_eq, lightReading_takeReports, Env.lightName, deployed report taken]
  rw [shown, ← known]
  exact Env.observedState_aggregates (List.ne_nil_of_mem among)

namespace House

/-- A report in the house with the landing. -/
def report (device : String) (on : Bool) (seconds : Nat) : LightReport :=
  { env := { landingAutomation [] with clock := clock seconds }
    device
    actual := { on, brightness := none, colorTemp := none, colorXy := none }
    ts := Duration.fromSecs seconds }

/-- The lamp reports off, and the spot reports on and then off. -/
def reports : List LightReport :=
  [report "lamp" false 1, report "spot" true 2, report "spot" false 3]

end House

/-- The landing is off when both its lights are, as of the older report. -/
theorem takeReports_aggregates_landing :
    ((takeReports House.reports {}).zoneAt "landing").actual =
        .known .off false (Duration.fromSecs 1) ∧
      Aggregates (fun member => latestReport {} House.reports
          ((House.landingTopology []).deviceName member.device))
        House.landing.lightMembers ((takeReports House.reports {}).zoneAt "landing").actual := by
  have deployed : ∀ report ∈ House.reports, report.env.topology = House.landingTopology [] := by
    intro report taken
    simp only [House.reports, List.mem_cons, List.not_mem_nil, or_false] at taken
    rcases taken with rfl | rfl | rfl
    · rfl
    · rfl
    · rfl
  have listed : House.landing ∈ (House.landingTopology []).rooms :=
    List.mem_cons_of_mem _ List.mem_cons_self
  exact ⟨by decide +kernel, takeReports_aggregates (House.landingTopology []) {} House.reports
    deployed House.landing listed
    ⟨House.report "lamp" false 1, by simp [House.reports], House.lamp, by decide, rfl⟩⟩

end MqttController
