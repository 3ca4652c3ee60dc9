import MqttController.Lib.Emission
import MqttController.Entities

/-!
# Access to the world state

Each entity map is read at a name, with the default entity standing for an absent one, and written
by changing one entity.  Every write leaves the other maps alone.
-/

namespace MqttController

open Std

namespace WorldState

variable (world : WorldState)

/-- The light zone with a name, the default one when it is absent. -/
def zoneAt (name : String) : LightZoneEntity := world.lightZones[name]?.getD default

/-- Change the light zone with a name, creating it when it is absent. -/
def modifyZone (name : String) (change : LightZoneEntity → LightZoneEntity) : WorldState :=
  { world with lightZones := OrderedMap.upsert world.lightZones name default change }

/-- The light with a name, the default one when it is absent. -/
def lightAt (name : String) : LightEntity := world.lights[name]?.getD default

/-- Change the light with a name, creating it when it is absent. -/
def modifyLight (name : String) (change : LightEntity → LightEntity) : WorldState :=
  { world with lights := OrderedMap.upsert world.lights name default change }

/-- The plug with a name, the default one when it is absent. -/
def plugAt (name : String) : PlugEntity := world.plugs[name]?.getD default

/-- Change the plug with a name, creating it when it is absent. -/
def modifyPlug (name : String) (change : PlugEntity → PlugEntity) : WorldState :=
  { world with plugs := OrderedMap.upsert world.plugs name default change }

/-- Change the motion sensor with a name, creating it when it is absent. -/
def modifyMotionSensor (name : String) (change : MotionSensorEntity → MotionSensorEntity) :
    WorldState :=
  { world with motionSensors := OrderedMap.upsert world.motionSensors name default change }

/-- The motion rule with a name, the default one when it is absent. -/
def motionRuleAt (name : String) : MotionRuleState := world.motionRules[name]?.getD default

/-- Change the motion rule with a name, creating it when it is absent. -/
def modifyMotionRule (name : String) (change : MotionRuleState → MotionRuleState) : WorldState :=
  { world with motionRules := OrderedMap.upsert world.motionRules name default change }

/-- The heating zone with a name, the default one when it is absent. -/
def heatingZoneAt (name : String) : HeatingZoneEntity := world.heatingZones[name]?.getD default

/-- Change the heating zone with a name, creating it when it is absent. -/
def modifyHeatingZone (name : String) (change : HeatingZoneEntity → HeatingZoneEntity) :
    WorldState :=
  { world with heatingZones := OrderedMap.upsert world.heatingZones name default change }

/-- The valve with a name, the default one when it is absent. -/
def trvAt (name : String) : TrvEntity := world.trvs[name]?.getD default

/-- Change the valve with a name, creating it when it is absent. -/
def modifyTrv (name : String) (change : TrvEntity → TrvEntity) : WorldState :=
  { world with trvs := OrderedMap.upsert world.trvs name default change }

/-- A deferred press keyed by device and button. -/
def setPending (key : String × String) (press : PendingPress) : WorldState :=
  { world with pendingPresses := world.pendingPresses.insert key press }

/-- Drop a deferred press. -/
def dropPending (key : String × String) : WorldState :=
  { world with pendingPresses := world.pendingPresses.erase key }

/-! ## Reading back a write -/

theorem zoneAt_modifyZone (name other : String) (change : LightZoneEntity → LightZoneEntity) :
    (world.modifyZone name change).zoneAt other =
      if name = other then change (world.zoneAt name) else world.zoneAt other := by
  unfold zoneAt modifyZone
  rw [OrderedMap.getElem?_upsert]
  split <;> rfl

theorem lightAt_modifyLight (name other : String) (change : LightEntity → LightEntity) :
    (world.modifyLight name change).lightAt other =
      if name = other then change (world.lightAt name) else world.lightAt other := by
  unfold lightAt modifyLight
  rw [OrderedMap.getElem?_upsert]
  split <;> rfl

theorem plugAt_modifyPlug (name other : String) (change : PlugEntity → PlugEntity) :
    (world.modifyPlug name change).plugAt other =
      if name = other then change (world.plugAt name) else world.plugAt other := by
  unfold plugAt modifyPlug
  rw [OrderedMap.getElem?_upsert]
  split <;> rfl

theorem heatingZoneAt_modifyHeatingZone (name other : String)
    (change : HeatingZoneEntity → HeatingZoneEntity) :
    (world.modifyHeatingZone name change).heatingZoneAt other =
      if name = other then change (world.heatingZoneAt name) else world.heatingZoneAt other := by
  unfold heatingZoneAt modifyHeatingZone
  rw [OrderedMap.getElem?_upsert]
  split <;> rfl

theorem trvAt_modifyTrv (name other : String) (change : TrvEntity → TrvEntity) :
    (world.modifyTrv name change).trvAt other =
      if name = other then change (world.trvAt name) else world.trvAt other := by
  unfold trvAt modifyTrv
  rw [OrderedMap.getElem?_upsert]
  split <;> rfl

end WorldState

end MqttController
