import MqttController.Lib.KeyedChange
import MqttController.Reach

/-!
# What commands do to lights and zones

A command only touches lights and zones.  Every light write of a manual command addresses a light
that a message of the command reaches, and gives it an owner that respects off-only claims.
-/

namespace MqttController

open Std Relation KeyedChange

namespace WorldState

/-- The stored state of a motion rule. -/
def ruleAt (world : WorldState) (name : String) : Option MotionRuleState := world.motionRules[name]?

/-- The state of button presses. -/
def presses (world : WorldState) :
    TreeMap (String × String) PendingPress pairOrder ×
      TreeMap (String × String) Instant pairOrder :=
  (world.pendingPresses, world.lastDoubleTap)

/-- Sensors, heating, plugs, presses and timed actions are left alone. -/
structure Frame (before after : WorldState) : Prop where
  motionSensors : after.motionSensors = before.motionSensors
  heatingZones : after.heatingZones = before.heatingZones
  trvs : after.trvs = before.trvs
  plugs : after.plugs = before.plugs
  presses : after.presses = before.presses
  atLastFired : after.atLastFired = before.atLastFired

namespace Frame

theorem refl (world : WorldState) : Frame world world := ⟨rfl, rfl, rfl, rfl, rfl, rfl⟩

theorem trans {before middle after : WorldState} (first : Frame before middle)
    (second : Frame middle after) : Frame before after :=
  ⟨second.motionSensors.trans first.motionSensors, second.heatingZones.trans first.heatingZones,
    second.trvs.trans first.trvs, second.plugs.trans first.plugs,
    second.presses.trans first.presses, second.atLastFired.trans first.atLastFired⟩

end Frame

/-- What a change may do to lights, zones and motion rules, by name. -/
structure Moves where
  light : String → LightEntity → LightEntity → Prop
  zone : String → LightZoneEntity → LightZoneEntity → Prop
  rule : String → Option MotionRuleState → Option MotionRuleState → Prop

/-- Lights, zones and motion rules change by moves, and nothing else of the frame does. -/
structure Touches (moves : Moves) (before after : WorldState) : Prop
    extends Frame before after where
  lights : Steps moves.light before.lightAt after.lightAt
  zones : Steps moves.zone before.zoneAt after.zoneAt
  rules : Steps moves.rule before.ruleAt after.ruleAt

namespace Touches

variable {moves : Moves} {before middle after : WorldState}

theorem refl (world : WorldState) : Touches moves world world :=
  { Frame.refl world with
    lights := Steps.refl _ _
    zones := Steps.refl _ _
    rules := Steps.refl _ _ }

theorem trans (first : Touches moves before middle) (second : Touches moves middle after) :
    Touches moves before after :=
  { first.toFrame.trans second.toFrame with
    lights := first.lights.trans second.lights
    zones := first.zones.trans second.zones
    rules := first.rules.trans second.rules }

theorem modifyLight (touches : Touches moves before middle) {name : String}
    {change : LightEntity → LightEntity}
    (taken : moves.light name (middle.lightAt name) (change (middle.lightAt name))) :
    Touches moves before (middle.modifyLight name change) :=
  touches.trans
    { Frame.refl middle with
      lights := Steps.update taken fun key => middle.lightAt_modifyLight name key change
      zones := Steps.of_eq rfl
      rules := Steps.of_eq rfl }

theorem modifyZone (touches : Touches moves before middle) {name : String}
    {change : LightZoneEntity → LightZoneEntity}
    (taken : moves.zone name (middle.zoneAt name) (change (middle.zoneAt name))) :
    Touches moves before (middle.modifyZone name change) :=
  touches.trans
    { Frame.refl middle with
      lights := Steps.of_eq rfl
      zones := Steps.update taken fun key => middle.zoneAt_modifyZone name key change
      rules := Steps.of_eq rfl }

theorem modifyZone_id (touches : Touches moves before middle) (name : String) :
    Touches moves before (middle.modifyZone name id) := by
  refine touches.trans
    { Frame.refl middle with
      lights := Steps.of_eq rfl, zones := Steps.of_eq ?_, rules := Steps.of_eq rfl }
  funext key
  rw [zoneAt_modifyZone]
  split
  · rename_i same
    rw [same, id]
  · rfl

/-- A fold of changes, each made in a world that the earlier ones led to. -/
theorem foldl {ι : Type*} {change : WorldState → ι → WorldState} (items : List ι)
    (start : Touches moves before middle)
    (each : ∀ world, ∀ item ∈ items, Touches moves before world →
      Touches moves before (change world item)) :
    Touches moves before (items.foldl change middle) := by
  induction items generalizing middle with
  | nil => exact start
  | cons item rest ih =>
      rw [List.foldl_cons]
      exact ih (each middle item List.mem_cons_self start)
        fun world other member => each world other (List.mem_cons_of_mem _ member)

/-- Motion rules that may not move are unchanged. -/
theorem ruleAt_eq (touches : Touches moves before after)
    (none : ∀ name first second, ¬ moves.rule name first second) (name : String) :
    after.ruleAt name = before.ruleAt name :=
  touches.rules.eq_of_no_step (none name)

end Touches

end WorldState

namespace Effect

/-- The message reaches a light: it is sent to the light or to a group it is a member of. -/
def reaches (topology : Topology) (device : DeviceIdx) : Effect → Prop
  | publishGroupSet room _ => ∃ resolved, topology.room room = some resolved ∧
      ∃ member ∈ resolved.lightMembers, member.device = device
  | publishLightSet light _ => light.device = device
  | _ => False

instance (topology : Topology) (device : DeviceIdx) (effect : Effect) :
    Decidable (effect.reaches topology device) :=
  match effect with
  | publishGroupSet room _ =>
      decidable_of_iff ((topology.room room).any fun resolved =>
        resolved.lightMembers.any fun member => member.device == device) (by
          simp [reaches, Option.any_eq_true])
  | publishLightSet light _ => inferInstanceAs (Decidable (light.device = device))
  | publishDeviceSet _ _ => inferInstanceAs (Decidable False)
  | publishDeviceGet _ => inferInstanceAs (Decidable False)

end Effect

/-- Some message reaches a light. -/
def Addresses (topology : Topology) (effects : List Effect) (device : DeviceIdx) : Prop :=
  ∃ effect ∈ effects, effect.reaches topology device

instance (topology : Topology) (effects : List Effect) (device : DeviceIdx) :
    Decidable (Addresses topology effects device) :=
  inferInstanceAs (Decidable (∃ effect ∈ effects, effect.reaches topology device))

end MqttController
