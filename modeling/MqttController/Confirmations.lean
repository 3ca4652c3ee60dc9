import MqttController.CycleCursors
import MqttController.LightWrites
import MqttController.ZoneObservations

/-!
# Confirmed by evidence

A report of a member confirms the zone of a room by observations that are at least as recent as the
time stamp of the zone's command.  A command may be emitted later than its time stamp, and then an
observation in between counts as evidence although it was made before the command.  Where no
observation is that close to a command, zones and switch steps are confirmed only by what was
received after their commands were emitted.
-/

namespace MqttController

open Emission Relation

namespace TassTarget

variable {α : Type} [DecidableEq α]

/-- A command is in flight that was not in flight before. -/
def Commands (before after : TassTarget α) : Prop :=
  after.phase = .commanded ∧
    ¬ (before.phase = .commanded ∧ before.value = after.value ∧ before.since = after.since)

instance (before after : TassTarget α) : Decidable (before.Commands after) :=
  inferInstanceAs (Decidable (_ ∧ _))

/-- The target waits for an observation to confirm it. -/
def awaits (target : TassTarget α) : Bool := target.phase == .commanded || target.phase == .stale

end TassTarget

/-- When the operation of a record commanded a target. -/
def Record.emission {α : Type} [DecidableEq α] (part : WorldState → TassTarget α)
    (record : Record) : Option Instant :=
  if (part record.before.world).Commands (part record.after.world) then
    some record.env.clock.now
  else none

/-- When the last command of a target was emitted. -/
def lastEmission {α : Type} [DecidableEq α] (part : WorldState → TassTarget α)
    (history : List Record) : Option Instant :=
  lastPicked (Record.emission part) history

/-- What a room is told. -/
def WorldState.zoneTarget (name : String) (world : WorldState) : TassTarget LightZoneTarget :=
  (world.zoneAt name).target

/-- What a light is told. -/
def WorldState.lightTarget (name : String) (world : WorldState) : TassTarget LightTarget :=
  (world.lightAt name).target

namespace Record

/-- The latest observation of a member and its time, counting the report that the operation takes
in. -/
def evidence (record : Record) (member : LightEndpoint) : Option (Bool × Instant) :=
  match record.operation.lightReport with
  | some (device, actual, ts) =>
      if device = record.env.lightName member then some (actual.on, ts)
      else record.env.memberReading record.before.world member
  | none => record.env.memberReading record.before.world member

/-- The zone becomes confirmed. -/
def Confirms (record : Record) (name : String) : Prop :=
  (record.before.world.zoneAt name).target.phase ≠ .confirmed ∧
    (record.after.world.zoneAt name).target.phase = .confirmed

instance (record : Record) (name : String) : Decidable (record.Confirms name) :=
  inferInstanceAs (Decidable (_ ∧ _))

/-- A report of a light that confirms the zone of a room without a switch cycle: for On some member
was observed on, and for Off every member was observed off, when the command had been emitted. -/
def ConfirmedByEvidence (past : List Record) (record : Record) : Prop :=
  record.operation.lightReport.isSome → ∀ room ∈ record.env.topology.rooms,
    (record.before.world.zoneAt room.name).switchCycle = none → record.Confirms room.name →
      ∃ emitted ∈ lastEmission (WorldState.zoneTarget room.name) past,
        if (record.after.world.zoneAt room.name).targetIsOn then
          ∃ member ∈ room.lightMembers, ∃ since,
            record.env.memberReading record.after.world member = some (true, since) ∧
              emitted ≤ since
        else
          ∀ member ∈ room.lightMembers, ∃ since,
            record.env.memberReading record.after.world member = some (false, since) ∧
              emitted ≤ since

/-- No latest observation of a member of a room that waits for confirmation was received between the
time stamp of its command and the command. -/
def EvidenceApart (past : List Record) (record : Record) : Prop :=
  record.operation.lightReport.isSome → ∀ room ∈ record.env.topology.rooms,
    (record.before.world.zoneAt room.name).switchCycle = none →
      (record.before.world.zoneTarget room.name).awaits = true →
        ∀ stamp ∈ (record.before.world.zoneTarget room.name).since,
          ∀ emitted ∈ lastEmission (WorldState.zoneTarget room.name) past,
            ∀ member ∈ room.lightMembers, ∀ observed ∈ record.evidence member,
              observed.2 < stamp ∨ emitted ≤ observed.2

instance (past : List Record) (record : Record) : Decidable (EvidenceApart past record) :=
  inferInstanceAs (Decidable (_ → _))

end Record

/-! ## What was observed -/

namespace Env

variable {env : Env} {room : ResolvedRoom} {world : WorldState}

theorem memberReading_handleLightState (device : String) (actual : LightActual) (ts : Instant)
    (world : WorldState) (member : LightEndpoint) :
    env.memberReading (env.handleLightState device actual ts world) member =
      if device = env.lightName member then some (actual.on, ts)
      else env.memberReading world member := by
  rw [memberReading_eq, memberReading_eq, lightReading_handleLightState]

theorem members_of_observed {observed : LightZoneActual × Instant}
    (reading : env.observedState world room = some observed) : room.lightMembers ≠ [] := by
  intro empty
  rw [observedState_eq, empty] at reading
  cases reading

/-- A room is on as of the report of a member that is on. -/
theorem observed_on {since : Instant} (reading : env.observedState world room = some (.on, since)) :
    ∃ member ∈ room.lightMembers, env.memberReading world member = some (true, since) := by
  have aggregates := @observedState_aggregates env room world (members_of_observed reading)
  rw [reading] at aggregates
  obtain ⟨time, same, newest, _⟩ := aggregates.on_since rfl
  cases same
  exact newest

/-- A room is off when every member is, as of the oldest report. -/
theorem observed_off {since : Instant}
    (reading : env.observedState world room = some (.off, since)) :
    ∀ member ∈ room.lightMembers, ∃ time, env.memberReading world member = some (false, time) ∧
      since ≤ time := by
  have aggregates := @observedState_aggregates env room world (members_of_observed reading)
  rw [reading] at aggregates
  intro member listed
  obtain ⟨time, dark⟩ := aggregates.off_iff.mp rfl member listed
  obtain ⟨oldest, same, _, least⟩ := aggregates.off_since rfl
  cases same
  exact ⟨time, dark, least ⟨member, listed, dark⟩⟩

end Env

/-! ## A report of a light -/

namespace LightZoneEntity

theorem awaits_aged (zone : LightZoneEntity) (actual : LightZoneActual) (since now : Instant) :
    (zone.aged actual since now).awaits = zone.target.awaits := by
  unfold aged awaits TassTarget.awaits
  cases zone.target with
  | unset => rfl
  | held value phase owner stamp =>
      cases phase with
      | commanded =>
          unfold TassTarget.markStaleIfOld
          dsimp only
          split
          · rfl
          · rfl
      | _ => rfl

theorem phase_markStaleIfOld {target : TassTarget LightZoneTarget} {now : Instant}
    {threshold : Duration} :
    (target.markStaleIfOld now threshold).phase = .confirmed ↔ target.phase = .confirmed := by
  unfold TassTarget.markStaleIfOld
  split
  · split
    · simp [TassTarget.phase, HeldPhase.toPhase]
    · rfl
  · rfl

/-- A zone that is on and no longer told so by a young command awaits confirmation or has it. -/
theorem awaits_of_on {zone : LightZoneEntity} {actual : LightZoneActual} {since now : Instant}
    (on : zone.targetIsOn = true)
    (passive : (zone.aged actual since now).target.isActionable = false)
    (open' : zone.target.phase ≠ .confirmed) : zone.target.awaits = true := by
  unfold targetIsOn at on
  unfold aged at passive
  unfold TassTarget.awaits
  cases told : zone.target with
  | unset =>
      rw [told] at on
      cases on
  | held value phase owner stamp =>
      rw [told] at passive open'
      cases phase with
      | pending => cases passive
      | commanded => rfl
      | stale => rfl
      | confirmed => exact absurd rfl open'

theorem targetIsOn_of_shows {zone : LightZoneEntity} {actual : LightZoneActual}
    (shown : shows zone.target.value actual = true) :
    zone.targetIsOn = (actual == .on) := by
  unfold targetIsOn
  cases told : zone.target.value with
  | none =>
      rw [told] at shown
      cases shown
  | some value =>
      rw [told] at shown
      cases value with
      | on scene position =>
          cases actual with
          | on => rfl
          | off => cases shown
      | off =>
          cases actual with
          | on => cases shown
          | off => rfl

/-- The zone is as it was told, or it shows what the members were observed to be since then. -/
def Follows (told : TassTarget LightZoneTarget) (observed : Option (LightZoneActual × Instant))
    (zone : LightZoneEntity) : Prop :=
  zone.switchCycle = none ∧
    ((zone.target.phase ≠ .confirmed ∧ zone.target.value = told.value ∧
        zone.target.since = told.since ∧ zone.target.awaits = told.awaits) ∨
      ∃ actual since stamp, observed = some (actual, since) ∧
        shows zone.target.value actual = true ∧ told.awaits = true ∧ told.since = some stamp ∧
          stamp ≤ since)

theorem Follows.followLights {told : TassTarget LightZoneTarget} {zone : LightZoneEntity}
    {actual : LightZoneActual} {since now : Instant}
    (follows : zone.Follows told (some (actual, since))) (stepConfirmed : Bool) (owner : Owner) :
    (zone.followLights actual since now stepConfirmed false owner).Follows told
      (some (actual, since)) := by
  obtain ⟨cycle, state⟩ := follows
  have dated : zone.reportedSince since = true → zone.target.since = told.since →
      ∃ stamp, told.since = some stamp ∧ stamp ≤ since := by
    intro recent same
    unfold reportedSince at recent
    obtain ⟨stamp, found, before⟩ := (Option.any_eq_true _ _).mp recent
    exact ⟨stamp, same ▸ found, of_decide_eq_true before⟩
  rcases followLights_cases zone actual since now stepConfirmed false owner with
    ⟨off, on, passive, evidence, after⟩ | ⟨shown, current, awaits, after⟩ | after
  · rw [after]
    refine ⟨rfl, .inr ?_⟩
    have recent : zone.reportedSince since = true := evidence.resolve_right (by simp)
    rcases state with ⟨open', _, sameSince, sameAwaits⟩ | ⟨_, _, stamp, same, shown, rest⟩
    · obtain ⟨stamp, found, before⟩ := dated recent sameSince
      refine ⟨actual, since, stamp, rfl, ?_, ?_, found, before⟩
      · rw [off]
        rfl
      · rw [← sameAwaits]
        exact awaits_of_on on passive open'
    · -- the zone already shows what is observed
      cases same
      rw [off] at shown
      rw [targetIsOn_of_shows shown] at on
      cases on
  · rw [after]
    refine ⟨cycle, .inr ?_⟩
    rw [cycle] at current
    have recent : zone.reportedSince since = true := current
    have value : ((zone.aged actual since now).target.confirm now).value = zone.target.value := by
      rw [TassTarget.value_confirm]
      exact TassTarget.value_markStaleIfOld _ _ _
    rcases state with ⟨_, _, sameSince, sameAwaits⟩ | ⟨_, _, stamp, same, _, rest⟩
    · obtain ⟨stamp, found, before⟩ := dated recent sameSince
      refine ⟨actual, since, stamp, rfl, ?_, ?_, found, before⟩
      · rw [value]
        exact shown
      · rw [← sameAwaits, ← awaits_aged zone actual since now]
        exact awaits
    · cases same
      refine ⟨actual, since, stamp, rfl, ?_, rest⟩
      rw [value]
      exact shown
  · rw [after]
    refine ⟨cycle, ?_⟩
    have value : (zone.aged actual since now).target.value = zone.target.value :=
      TassTarget.value_markStaleIfOld _ _ _
    rcases state with
      ⟨open', sameValue, sameSince, sameAwaits⟩ | ⟨seen, time, stamp, same, shown, rest⟩
    · refine .inl ⟨fun confirmed => open' (phase_markStaleIfOld.mp confirmed), ?_, ?_, ?_⟩
      · rw [value, sameValue]
      · rw [← sameSince]
        exact TassTarget.since_markStaleIfOld _ _ _
      · rw [← sameAwaits, ← awaits_aged zone actual since now]
        rfl
    · refine .inr ⟨seen, time, stamp, same, ?_, rest⟩
      rw [value]
      exact shown

end LightZoneEntity

namespace Env

variable {env : Env} {room : ResolvedRoom}

/-- Without a switch cycle no step is off. -/
theorem switchStepIsOff_of_none {world : WorldState} {name : String}
    (cycle : (world.zoneAt name).switchCycle = none) : env.switchStepIsOff world name = false := by
  unfold WorldState.zoneAt at cycle
  unfold switchStepIsOff
  cases stored : world.lightZones[name]? with
  | none => rfl
  | some zone =>
      rw [stored] at cycle
      change zone.switchCycle = none at cycle
      dsimp only
      rw [cycle]

/-- After a report of a light a zone without a switch cycle is as it was told, or shows what the
members were observed to be since then. -/
theorem handleLightState_follows (listed : room ∈ env.topology.rooms) (device : String)
    (actual : LightActual) (ts : Instant) (world : WorldState)
    (cycle : (world.zoneAt room.name).switchCycle = none)
    (open' : (world.zoneAt room.name).target.phase ≠ .confirmed) :
    ((env.handleLightState device actual ts world).zoneAt room.name).Follows
      (world.zoneAt room.name).target
        (env.observedState (env.handleLightState device actual ts world) room) := by
  unfold handleLightState
  dsimp only
  split
  · exact ⟨cycle, .inl ⟨open', rfl, rfl, rfl⟩⟩
  · rename_i idx _
    generalize env.topology.lightRooms idx = rooms
    have start : ((env.recordLightState device actual ts world).zoneAt room.name).Follows
        (world.zoneAt room.name).target
          (env.observedState (env.recordLightState device actual ts world) room) :=
      ⟨cycle, .inl ⟨open', rfl, rfl, rfl⟩⟩
    refine List.foldlRecOn (motive := fun after : WorldState =>
      (after.zoneAt room.name).Follows (world.zoneAt room.name).target
        (env.observedState after room)) rooms (env.followMember ts) start ?_
    intro after follows member _
    rw [observedState_congr (lights_followMember ts after member) room]
    rcases zoneAt_followMember listed ts after member with
      same | ⟨_, same⟩ | ⟨shown, since, reading, same⟩
    · rw [same]
      exact follows
    · rw [same]
      exact follows
    · rw [same, reading, switchStepIsOff_of_none follows.1]
      rw [reading] at follows
      exact follows.followLights _ _

end Env

/-! ## Who waits was commanded -/

namespace TassTarget

variable {α : Type} {told target : TassTarget α} {ts : Instant}

/-- Within an operation with a time stamp: a target that is stale awaited before, and one in flight
is as young as the operation or was in flight before. -/
structure Traces (told : TassTarget α) (ts : Instant) (target : TassTarget α) : Prop where
  commanded : target.phase = .commanded → told.awaits = true ∨ target.since = some ts
  stale : target.phase = .stale → told.awaits = true

theorem traces_self (told : TassTarget α) : told.Traces ts told where
  commanded := fun phase => by
    unfold awaits
    rw [phase]
    exact .inl rfl
  stale := fun phase => by
    unfold awaits
    rw [phase]
    rfl

theorem Traces.of_confirmed {after : TassTarget α} (phase : after.phase = .confirmed) :
    told.Traces ts after where
  commanded := fun other => by
    rw [phase] at other
    cases other
  stale := fun other => by
    rw [phase] at other
    cases other

theorem Traces.reassignOwner (traces : told.Traces ts target) (owner : Owner) :
    told.Traces ts (target.reassignOwner owner ts) := by
  refine ⟨fun phase => ?_, fun phase => traces.stale (by rwa [phase_reassignOwner] at phase)⟩
  rw [phase_reassignOwner] at phase
  refine (traces.commanded phase).imp_right fun since => ?_
  cases target with
  | unset => cases phase
  | held value held owner stamp =>
      cases held with
      | commanded => exact since
      | _ => cases phase

theorem Traces.confirm (traces : told.Traces ts target) : told.Traces ts (target.confirm ts) := by
  cases target with
  | unset => exact traces
  | held value held owner stamp =>
      cases held with
      | pending => exact traces
      | _ => exact .of_confirmed rfl

theorem Traces.age {threshold : Duration} (some : 0 < threshold) (traces : told.Traces ts target) :
    told.Traces ts (target.markStaleIfOld ts threshold) := by
  cases target with
  | unset => exact traces
  | held value held owner stamp =>
      cases held with
      | commanded =>
          unfold markStaleIfOld
          dsimp only
          split
          · rename_i old
            refine ⟨fun phase => (by cases phase), fun _ => ?_⟩
            refine (traces.commanded rfl).resolve_right fun young => ?_
            cases young
            have zero : durationSince ts ts = 0 := Nat.sub_self ts
            rw [zero] at old
            exact absurd some (not_lt.mpr old)
          · exact traces
      | _ => exact traces

end TassTarget

namespace LightZoneEntity

variable {writer : Writer} {ts : Instant} {told : TassTarget LightZoneTarget}

theorem young : 0 < targetStaleThreshold := by decide

theorem Write.traces {zone after : LightZoneEntity} (write : zone.Write writer ts after)
    (traces : told.Traces ts zone.target) : told.Traces ts after.target := by
  cases write with
  | command value owner same =>
      rw [same]
      exact ⟨fun _ => .inr rfl, fun phase => by cases phase⟩
  | reassign owner same _ =>
      rw [same]
      exact traces.reassignOwner owner
  | adopt value owner _ same _ =>
      rw [same]
      exact .of_confirmed rfl
  | keep same _ =>
      rw [same]
      exact traces
  | age => exact traces.age young
  | claim _ =>
      unfold claimOffOnly
      dsimp only
      split
      · exact .of_confirmed rfl
      · split
        · exact traces.reassignOwner _
        · exact traces
  | follow _ actual since stepConfirmed stepIsOff owner =>
      have aged : told.Traces ts (zone.aged actual since ts).target := traces.age young
      rcases followLights_cases zone actual since ts stepConfirmed stepIsOff owner with
        ⟨_, _, _, _, same⟩ | ⟨_, _, _, same⟩ | same
      · rw [same]
        exact .of_confirmed rfl
      · rw [same]
        exact aged.confirm
      · rw [same]
        exact aged
  | observe _ on =>
      unfold observeGroup
      dsimp only
      split
      · exact traces.age young
      · exact traces
  | confirm _ on =>
      unfold confirmGroupOn
      split
      · exact traces.confirm
      · exact traces
  | turnOff _ owner => exact .of_confirmed rfl

theorem Written.traces {before after : LightZoneEntity} (written : before.Written writer ts after) :
    before.target.Traces ts after.target := by
  induction written with
  | refl => exact TassTarget.traces_self _
  | tail _ write ih => exact write.traces ih

end LightZoneEntity

/-- A room that waits for confirmation was commanded. -/
theorem commanded_of_awaits : KeptByOperations fun _ past runtime => ∀ name,
    (runtime.world.zoneTarget name).awaits = true →
      (lastEmission (WorldState.zoneTarget name) past).isSome where
  launch := by
    intro topology name awaits
    cases awaits
  operation := by
    intro env operation past runtime admissible _ holds name awaits
    unfold lastEmission
    rw [lastPicked_concat]
    by_cases commands : (runtime.world.zoneTarget name).Commands
        ((operation.run env runtime).1.world.zoneTarget name)
    · have picked : Record.emission (WorldState.zoneTarget name)
          { env, before := runtime, operation } = some env.clock.now := if_pos commands
      rw [picked]
      rfl
    · have before : (runtime.world.zoneTarget name).awaits = true := by
        have traces := ((Operation.run_written admissible runtime).zones name).traces
        unfold TassTarget.awaits at awaits
        rw [Bool.or_eq_true, beq_iff_eq, beq_iff_eq] at awaits
        rcases awaits with phase | phase
        · have still := not_not.mp fun fresh => commands ⟨phase, fresh⟩
          unfold TassTarget.awaits
          rw [still.1]
          rfl
        · exact traces.stale phase
      have earlier := holds name before
      obtain ⟨moment, found⟩ := Option.isSome_iff_exists.mp earlier
      unfold lastEmission at found
      rw [found]
      cases Record.emission (WorldState.zoneTarget name) { env, before := runtime, operation } with
      | none => rfl
      | some moment => rfl

/-! ## Runs -/

theorem Record.evidence_eq {record : Record} {device : String} {actual : LightActual} {ts : Instant}
    (reports : record.operation = .observeLight device actual ts) (member : LightEndpoint) :
    record.evidence member = record.env.memberReading record.after.world member := by
  obtain ⟨env, before, operation⟩ := record
  cases reports
  exact (Env.memberReading_handleLightState device actual ts before.world member).symm

/-- In a run in which no observation falls between the time stamp of a command and the command,
every report that confirms a zone without a switch cycle does so by what was received after the
command. -/
theorem Run.confirmed_by_evidence {history : List Record} {daemon : Daemon}
    (run : Run history daemon) (apart : Always Record.EvidenceApart history) :
    Always Record.ConfirmedByEvidence history := by
  intro past record later split reported room listed cycle confirms
  obtain ⟨⟨device, actual, ts⟩, taken⟩ := Option.isSome_iff_exists.mp reported
  have reports := Operation.lightReport_eq_some_iff.mp taken
  have follows : (record.after.world.zoneAt room.name).Follows
      (record.before.world.zoneAt room.name).target
        (record.env.observedState record.after.world room) := by
    have after : record.after.world =
        record.env.handleLightState device actual ts record.before.world := by
      unfold Record.after
      rw [reports]
      rfl
    rw [after]
    exact Env.handleLightState_follows listed device actual ts _ cycle confirms.1
  rcases follows.2 with ⟨open', _⟩ | ⟨seen, since, stamp, observed, shown, awaits, told, recent⟩
  · exact absurd confirms.2 open'
  have commanded := (Run.each_record commanded_of_awaits run split).2.2 room.name awaits
  obtain ⟨emitted, emission⟩ := Option.isSome_iff_exists.mp commanded
  have fair : ∀ member ∈ room.lightMembers, ∀ on time,
      record.env.memberReading record.after.world member = some (on, time) → stamp ≤ time →
        emitted ≤ time := by
    intro member among on time reading old
    rw [← Record.evidence_eq reports] at reading
    exact (apart past record later split reported room listed cycle awaits stamp told emitted
      emission member among (on, time) reading).resolve_left (not_lt.mpr old)
  refine ⟨emitted, emission, ?_⟩
  cases seen with
  | on =>
      have on : (record.after.world.zoneAt room.name).targetIsOn = true :=
        LightZoneEntity.targetIsOn_of_shows shown
      rw [if_pos on]
      obtain ⟨member, among, reading⟩ := Env.observed_on observed
      exact ⟨member, among, since, reading, fair member among true since reading recent⟩
  | off =>
      have off : (record.after.world.zoneAt room.name).targetIsOn = false :=
        LightZoneEntity.targetIsOn_of_shows shown
      rw [off, if_neg Bool.false_ne_true]
      intro member among
      obtain ⟨time, reading, later⟩ := Env.observed_off observed member among
      exact ⟨time, reading, fair member among false time reading (recent.trans later)⟩

/-! ## Counterexamples and witnesses -/

namespace House

/-- A press of one button turns the landing off at once, one of the other may be a double tap. -/
def offBindings : List ResolvedBinding :=
  [onPress "off" (.turnOffRoom 1), onPress "soft" (.turnOffRoom 1),
    onDoubleTap "soft" .softDoubleTap (.turnOff 5)]

/-- The lamp or the spot reports on or off. -/
def shows (device : String) (on : Bool) (seconds : Nat) : Nat × Input :=
  (seconds, .event (.lightState device on none none none (Duration.fromSecs seconds)))

end House

/-- After a press the lamp and the spot report off, and the landing is confirmed off. -/
theorem Run.confirmed_by_evidence_landing : ∃ (history : List Record) (daemon : Daemon),
    Run history daemon ∧ (∃ record ∈ history, record.Confirms "landing") ∧
      Always Record.ConfirmedByEvidence history := by
  obtain ⟨daemon, history, run, facts⟩ := House.played_landing House.offBindings
    [(0, .start), House.press "off" 1, House.shows "lamp" false 2, House.shows "spot" false 3]
    (fun reached : Daemon × List Record =>
      (reached.2.any fun record => decide (record.Confirms "landing"),
      decide (∀ position ∈ List.range reached.2.length, ∀ record ∈ reached.2[position]?,
        Record.EvidenceApart (reached.2.take position) record)))
    (true, true) (by decide +kernel)
  obtain ⟨confirmed, apart⟩ := Prod.mk.inj facts
  obtain ⟨record, member, confirms⟩ := List.any_eq_true.mp confirmed
  exact ⟨history, daemon, run, ⟨record, member, of_decide_eq_true confirms⟩,
    Run.confirmed_by_evidence run (always_of_positions (of_decide_eq_true apart))⟩

/-- The lamp reports off while a press waits for a second one, and the spot after the room was
turned off: the room is confirmed off by what the lamp was before. -/
theorem Run.confirmed_by_evidence_fails :
    ¬ ∀ (history : List Record) (daemon : Daemon), Run history daemon →
      Always Record.ConfirmedByEvidence history := by
  intro claim
  obtain ⟨daemon, history, run, facts⟩ := House.played_landing House.offBindings
    [(0, .start), House.press "soft" 1, House.shows "lamp" false 1, House.tick 2,
      House.shows "spot" false 3]
    (fun reached : Daemon × List Record => reached.2.getLast?.map fun record : Record =>
      (record.operation.lightReport.isSome,
        record.env.topology.rooms.any fun room : ResolvedRoom =>
          room.name == "landing" && decide (House.lamp ∈ room.lightMembers),
        decide ((record.before.world.zoneAt "landing").switchCycle = none ∧
          record.Confirms "landing" ∧
          lastEmission (WorldState.zoneTarget "landing") reached.2.dropLast =
            some (Duration.fromSecs 2) ∧
          (record.after.world.zoneAt "landing").targetIsOn = false ∧
          record.env.memberReading record.after.world House.lamp =
            some (false, Duration.fromSecs 1))))
    (some (true, true, true)) (by decide +kernel)
  obtain ⟨record, last, facts⟩ := Option.map_eq_some_iff.mp facts
  simp only [Prod.mk.injEq, decide_eq_true_iff] at facts
  obtain ⟨reported, listed, cycle, confirms, emission, off, reading⟩ := facts
  obtain ⟨room, listed, named⟩ := List.any_eq_true.mp listed
  rw [Bool.and_eq_true, beq_iff_eq, decide_eq_true_iff] at named
  obtain ⟨named, among⟩ := named
  rw [← named] at cycle confirms emission off
  have split : history = history.dropLast ++ record :: [] :=
    (List.dropLast_append_getLast? record last).symm
  obtain ⟨emitted, found, evidence⟩ := claim history daemon run _ record [] split reported room
    listed cycle confirms
  cases emission.symm.trans found
  rw [off, if_neg Bool.false_ne_true] at evidence
  obtain ⟨since, known, recent⟩ := evidence House.lamp among
  cases reading.symm.trans known
  revert recent
  decide

end MqttController
