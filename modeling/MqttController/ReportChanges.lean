import MqttController.ManualChanges

/-!
# What reports do to lights and zones

A report changes the lights it is about by what `LightEntity.observe` does, with the owner that
off-only claims decide, and never leaves a switch cycle on a zone that it turned off.
-/

namespace MqttController

open KeyedChange WorldState

namespace LightZoneEntity

variable {selectable : SwitchCycle → Prop} (zone : LightZoneEntity)

theorem keeps_age (now : Instant) : Keeps selectable zone (zone.age now) :=
  .of_value rfl (TassTarget.value_markStaleIfOld _ _ _) (TassTarget.sent_markStaleIfOld _ _ _)

theorem keeps_observeGroup (on : Bool) (ts : Instant) :
    Keeps selectable zone (zone.observeGroup on ts) := by
  unfold observeGroup
  dsimp only
  split
  · exact .of_value rfl (TassTarget.value_markStaleIfOld _ _ _)
      (TassTarget.sent_markStaleIfOld _ _ _)
  · exact .of_value rfl rfl id

theorem keeps_confirmGroupOn (on : Bool) (ts : Instant) :
    Keeps selectable zone (zone.confirmGroupOn on ts) := by
  unfold confirmGroupOn
  split
  · exact .of_value rfl (TassTarget.value_confirm _ _) (TassTarget.sent_confirm _ _)
  · exact .refl zone

theorem keeps_followOff (owner : Owner) (ts : Instant) :
    Keeps selectable zone (zone.followOff owner ts) :=
  .of_none rfl fun _ => (by decide : TargetPhase.confirmed ≠ .pending)

theorem keeps_followLights (actual : LightZoneActual) (since ts : Instant)
    (stepConfirmed stepIsOff : Bool) (owner : Owner) :
    Keeps selectable zone (zone.followLights actual since ts stepConfirmed stepIsOff owner) := by
  have confirmed : ∀ followed : LightZoneEntity, Keeps selectable zone followed →
      ∀ confirms : Prop, ∀ _ : Decidable confirms,
        Keeps selectable zone
          (if confirms then { followed with target := followed.target.confirm ts }
          else followed) := by
    intro followed keeps confirms _
    split
    · exact keeps.trans
        (.of_value rfl (TassTarget.value_confirm _ _) (TassTarget.sent_confirm _ _))
    · exact keeps
  unfold followLights
  dsimp only
  refine confirmed _ ?_ _ _
  split
  · split
    · exact .of_none rfl (by simp)
    · exact .of_value rfl (TassTarget.value_markStaleIfOld _ _ _)
        (TassTarget.sent_markStaleIfOld _ _ _)
  · split
    · exact .of_none rfl (by simp)
    · exact .of_value rfl (TassTarget.value_markStaleIfOld _ _ _)
        (TassTarget.sent_markStaleIfOld _ _ _)

end LightZoneEntity

namespace Env

variable (env : Env)

/-- A light takes in a report. -/
def ReportLight (start : WorldState) (name : String) (before after : LightEntity) : Prop :=
  ∃ actual ts, after = before.observe actual (env.reportOwner start name) ts

/-- The moves of reports. -/
def reportMoves (start : WorldState) : Moves where
  light := env.ReportLight start
  zone := ZoneStep env.toAutomation fun _ => True
  rule _ _ _ := False

/-- The world so far was reached by reports. -/
abbrev Reported (start world : WorldState) : Prop := Touches (env.reportMoves start) start world

variable {env} {start world : WorldState}

theorem Reported.reportOwner (reported : env.Reported start world) (name : String) :
    env.reportOwner world name = env.reportOwner start name := by
  have claims : env.lightHasOffOnlyClaim world = env.lightHasOffOnlyClaim start := by
    funext device
    exact lightHasOffOnlyClaim_congr reported.motionSensors
      (reported.ruleAt_eq fun _ _ _ => not_false) device
  unfold Env.reportOwner
  rw [claims]

theorem recordLightState_reported (reported : env.Reported start world) (device : String)
    (actual : LightActual) (ts : Instant) :
    env.Reported start (env.recordLightState device actual ts world) := by
  refine reported.modifyLight ⟨actual, ts, ?_⟩
  rw [reported.reportOwner]

theorem followMember_reported (reported : env.Reported start world) (ts : Instant)
    (idx : RoomIdx) : env.Reported start (env.followMember ts world idx) := by
  unfold followMember
  split
  · exact reported
  · dsimp only
    split
    · exact reported.modifyZone ⟨trivial, .of_value rfl rfl id⟩
    · exact reported.modifyZone
        ⟨trivial, LightZoneEntity.keeps_followLights _ _ _ _ _ _ _⟩

/-- A report of one light. -/
theorem handleLightState_reported (device : String) (actual : LightActual) (ts : Instant)
    (world : WorldState) : env.Reported world (env.handleLightState device actual ts world) := by
  have recorded : env.Reported world (env.recordLightState device actual ts world) :=
    recordLightState_reported (Touches.refl world) device actual ts
  unfold handleLightState
  dsimp only
  split
  · exact recorded
  · exact Touches.foldl _ recorded fun _ idx _ reported => followMember_reported reported ts idx

theorem coverOff_reported (reported : env.Reported start world) (ts : Instant)
    (other : ResolvedRoom) : env.Reported start (env.coverOff ts world other) := by
  refine reported.modifyZone ⟨trivial, ?_⟩
  dsimp only
  have observed : LightZoneEntity.Keeps (env.toAutomation.Selects other.name)
      (world.zoneAt other.name) { world.zoneAt other.name with
        actual := (world.zoneAt other.name).actual.update .off ts, switchCycle := none } :=
    .of_none rfl id
  split
  · exact observed.trans (LightZoneEntity.keeps_followOff _ _ ts)
  · exact observed

theorem groupTurnedOff_reported (reported : env.Reported start world) (room : ResolvedRoom)
    (ts : Instant) : env.Reported start (env.groupTurnedOff room ts world) := by
  refine Touches.modifyZone ?_ ⟨trivial, LightZoneEntity.keeps_followOff _ _ ts⟩
  refine Touches.foldl _ ?_ fun _ member _ reported => recordLightState_reported reported _ _ ts
  exact Touches.foldl _ reported fun _ other _ reported => coverOff_reported reported ts other

/-- A report of a group. -/
theorem handleGroupState_reported (group : String) (on : Bool) (ts : Instant)
    (world : WorldState) : env.Reported world (env.handleGroupState group on ts world) := by
  unfold handleGroupState
  split
  · exact Touches.refl world
  · rename_i room _
    dsimp only
    have observed : env.Reported world (world.modifyZone room.name fun zone =>
        zone.observeGroup on ts) :=
      (Touches.refl world).modifyZone ⟨trivial, LightZoneEntity.keeps_observeGroup _ on ts⟩
    have confirmed : env.Reported world ((world.modifyZone room.name fun zone =>
        zone.observeGroup on ts).modifyZone room.name fun zone => zone.confirmGroupOn on ts) :=
      observed.modifyZone ⟨trivial, LightZoneEntity.keeps_confirmGroupOn _ on ts⟩
    split
    · exact observed
    · split
      · exact confirmed
      · exact groupTurnedOff_reported confirmed room ts

end Env

/-! ## Ageing -/

namespace WorldState

theorem lightAt_ageTargets (world : WorldState) (now : Instant) (name : String) :
    (world.ageTargets now).lightAt name = (world.lightAt name).age now := by
  unfold lightAt ageTargets
  rw [OrderedMap.getElem?_mapValues]
  cases world.lights[name]? <;> rfl

theorem zoneAt_ageTargets (world : WorldState) (now : Instant) (name : String) :
    (world.ageTargets now).zoneAt name = (world.zoneAt name).age now := by
  unfold zoneAt ageTargets
  rw [OrderedMap.getElem?_mapValues]
  cases world.lightZones[name]? <;> rfl

end WorldState

end MqttController
