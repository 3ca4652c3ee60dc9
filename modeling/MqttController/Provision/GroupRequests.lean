import MqttController.Lib.Checked
import MqttController.Lib.Keyed
import MqttController.Provision.Groups

/-!
# Requests about groups

What zigbee2mqtt does on a request, what a stage of the reconciliation asks it for, and which member
a key names.
-/

namespace MqttController.Provision

open Std

/-! ## Requests in a row -/

namespace Bridge

variable {bridge after : Bridge}

/-- The state after requests, unless one of them is refused. -/
def handleAll (bridge : Bridge) (requests : List GroupRequest) : Option Bridge :=
  requests.foldlM handle bridge

theorem handleAll_cons {request : GroupRequest} {rest : List GroupRequest} :
    bridge.handleAll (request :: rest) =
      (bridge.handle request).bind fun next => next.handleAll rest := by
  unfold handleAll
  rw [List.foldlM_cons]
  rfl

theorem handleAll_append {first second : List GroupRequest} :
    bridge.handleAll (first ++ second) =
      (bridge.handleAll first).bind fun next => next.handleAll second := by
  unfold handleAll
  rw [List.foldlM_append]
  rfl

/-- The devices are the same. -/
def SameDevices (bridge after : Bridge) : Prop :=
  after.devices = bridge.devices ∧ after.endpoints = bridge.endpoints

theorem SameDevices.trans {between : Bridge} (first : bridge.SameDevices between)
    (second : between.SameDevices after) : bridge.SameDevices after :=
  ⟨second.1.trans first.1, second.2.trans first.2⟩

theorem SameDevices.resolveMember (same : bridge.SameDevices after) (device : String)
    (endpoint : Nat) :
    after.resolveMember device endpoint = bridge.resolveMember device endpoint := by
  unfold Bridge.resolveMember resolve
  rw [same.1, same.2]

end Bridge

/-- The request is not about the group with a name. -/
def GroupRequest.Spares (name : String) : GroupRequest → Prop
  | .rename current _ => current ≠ name
  | .remove group => group ≠ name
  | .add _ _ => True
  | .addMember group _ _ => group ≠ name
  | .removeMember group _ _ => group ≠ name

namespace Bridge

variable {bridge after : Bridge} {group : ExistingGroup}

end Bridge

/-! ## Runs as lists of requests -/

/-- The requests were made, and zigbee2mqtt took them. -/
structure Accepted (progress : Progress) (requests : List GroupRequest) (next : Progress) :
    Prop where
  reached : progress.bridge.handleAll requests = some next.bridge
  made : next.requests = progress.requests ++ requests

theorem Accepted.refl (progress : Progress) : Accepted progress [] progress :=
  ⟨rfl, (List.append_nil _).symm⟩

theorem Accepted.trans {progress between next : Progress} {first second : List GroupRequest}
    (here : Accepted progress first between) (there : Accepted between second next) :
    Accepted progress (first ++ second) next where
  reached := by rw [Bridge.handleAll_append, here.reached, Option.bind_some, there.reached]
  made := by rw [there.made, here.made, List.append_assoc]

/-- A stage makes the requests if the input is valid, and fails otherwise or when one of them is
refused. -/
structure Performs (stage : Progress → Except GroupError Progress) (valid : Prop)
    (requests : List GroupRequest) : Prop where
  sound : ∀ progress next, stage progress = .ok next → valid ∧ Accepted progress requests next
  complete : ∀ progress bridge, valid → progress.bridge.handleAll requests = some bridge →
    ∃ next, stage progress = .ok next

namespace Performs

theorem pure : Performs (fun progress => .ok progress) True [] where
  sound := by
    intro progress next ran
    cases ran
    exact ⟨trivial, .refl _⟩
  complete := fun progress _ _ _ => ⟨progress, rfl⟩

theorem skip (count : Nat) : Performs (fun progress => .ok (progress.skip count)) True [] where
  sound := by
    intro progress next ran
    cases ran
    exact ⟨trivial, rfl, (List.append_nil _).symm⟩
  complete := fun progress _ _ _ => ⟨_, rfl⟩

theorem andThen {first second : Progress → Except GroupError Progress} {valid valid' : Prop}
    {early late : List GroupRequest} (here : Performs first valid early)
    (there : Performs second valid' late) :
    Performs (fun progress => first progress >>= second) (valid ∧ valid') (early ++ late) where
  sound := by
    intro progress next ran
    obtain ⟨between, soon, later⟩ := Checked.ok_of_bind ran
    obtain ⟨valid, made⟩ := here.sound progress between soon
    obtain ⟨valid', made'⟩ := there.sound between next later
    exact ⟨⟨valid, valid'⟩, made.trans made'⟩
  complete := by
    intro progress bridge valid handled
    rw [Bridge.handleAll_append] at handled
    obtain ⟨middle, soon, later⟩ := Option.bind_eq_some_iff.mp handled
    obtain ⟨between, step⟩ := here.complete progress middle valid.1 soon
    have made := (here.sound progress between step).2.reached
    rw [soon, Option.some.injEq] at made
    rw [made] at later
    obtain ⟨next, ran⟩ := there.complete between bridge valid.2 later
    exact ⟨next, by rw [step]; exact ran⟩

theorem foldlM {α : Type} {stage : Progress → α → Except GroupError Progress} {valid : α → Prop}
    {requests : α → List GroupRequest}
    (performs : ∀ item, Performs (fun progress => stage progress item) (valid item) (requests item))
    (items : List α) :
    Performs (fun progress => items.foldlM stage progress) (∀ item ∈ items, valid item)
      (items.flatMap requests) := by
  induction items with
  | nil =>
      constructor
      · intro progress next ran
        cases ran
        exact ⟨by simp, .refl _⟩
      · exact fun progress _ _ _ => ⟨progress, rfl⟩
  | cons item rest ih =>
      have whole := (performs item).andThen ih
      constructor
      · intro progress next ran
        rw [List.foldlM_cons] at ran
        obtain ⟨valid, made⟩ := whole.sound progress next ran
        exact ⟨List.forall_mem_cons.mpr valid, made⟩
      · intro progress bridge valid handled
        obtain ⟨next, ran⟩ := whole.complete progress bridge (List.forall_mem_cons.mp valid) handled
        exact ⟨next, by rw [List.foldlM_cons]; exact ran⟩

theorem issue (request : GroupRequest) :
    Performs (fun progress => progress.issue request) True [request] where
  sound := by
    intro progress next ran
    unfold Progress.issue at ran
    cases handled : progress.bridge.handle request with
    | none =>
        rw [handled] at ran
        cases ran
    | some bridge =>
        rw [handled] at ran
        cases ran
        exact ⟨trivial, by rw [Bridge.handleAll_cons, handled]; rfl, rfl⟩
  complete := by
    intro progress bridge _ handled
    rw [Bridge.handleAll_cons] at handled
    obtain ⟨next, taken, _⟩ := Option.bind_eq_some_iff.mp handled
    unfold Progress.issue
    rw [taken]
    exact ⟨_, rfl⟩

theorem send (requests : List GroupRequest) :
    Performs (Progress.send false requests) True requests := by
  have whole := Performs.foldlM issue requests
  rw [List.flatMap_singleton'] at whole
  constructor
  · intro progress next ran
    exact ⟨trivial, (whole.sound progress next ran).2⟩
  · intro progress bridge _ handled
    exact whole.complete progress bridge (fun _ _ => trivial) handled

end Performs

/-! ## Members by the names of their devices -/

namespace Bridge

/-- The member that a key names. -/
def keyMember (bridge : Bridge) (key : String) : Option ExistingMember :=
  (parseMemberKey key).bind fun parts => bridge.resolveMember parts.1 parts.2

/-- The member that a room lists. -/
def memberOf (nameByAddress : TreeMap String String) (bridge : Bridge) (listed : String) :
    Option ExistingMember :=
  bridge.keyMember (normalizeMemberKey nameByAddress listed)

variable {bridge after : Bridge} {nameByAddress : TreeMap String String}

theorem SameDevices.keyMember (same : bridge.SameDevices after) (key : String) :
    after.keyMember key = bridge.keyMember key := by
  unfold Bridge.keyMember
  congr 1
  funext parts
  exact same.resolveMember parts.1 parts.2

end Bridge

end MqttController.Provision
