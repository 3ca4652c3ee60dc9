import MqttController.Lib.Text
import MqttController.Provision.Names

/-!
# Reconciling groups

The provisioner brings the groups of zigbee2mqtt in line with the rooms of the configuration: it
renames groups whose id is configured, optionally removes groups whose name is not, creates groups
whose name is missing, and adds and optionally removes members.
-/

namespace MqttController.Provision

open Std

/-! ## The groups of zigbee2mqtt -/

/-- A member of a group. -/
structure ExistingMember where
  ieeeAddress : String
  endpoint : Nat
  deriving DecidableEq, Repr

/-- A group of zigbee2mqtt. -/
structure ExistingGroup where
  id : Nat
  friendlyName : String
  members : List ExistingMember
  deriving DecidableEq, Repr

/-- The devices and groups of zigbee2mqtt.  It refuses to give out a name or an id twice. -/
structure Bridge where
  devices : List ExistingDevice
  /-- The endpoints of a device. -/
  endpoints : String → List Nat
  groups : List ExistingGroup
  addresses_nodup : (devices.map (·.ieeeAddress)).Nodup
  names_nodup : (devices.map (·.friendlyName)).Nodup
  /-- An address is no other device's name. -/
  addresses_kept : ∀ device ∈ devices, ∀ other ∈ devices,
    device.friendlyName = other.ieeeAddress → device = other
  /-- An endpoint is a byte. -/
  endpoints_small : ∀ address, ∀ endpoint ∈ endpoints address, endpoint < 256
  ids_nodup : (groups.map (·.id)).Nodup
  group_names_nodup : (groups.map (·.friendlyName)).Nodup
  /-- Members are endpoints of devices. -/
  members_known : ∀ group ∈ groups, ∀ member ∈ group.members,
    member.ieeeAddress ∈ devices.map (·.ieeeAddress) ∧
      member.endpoint ∈ endpoints member.ieeeAddress

/-- A request about groups. -/
inductive GroupRequest
  | rename (current new : String)
  | remove (group : String)
  | add (group : String) (id : Nat)
  | addMember (group device : String) (endpoint : Nat)
  | removeMember (group device : String) (endpoint : Nat)
  deriving DecidableEq, Repr

namespace Bridge

variable (bridge : Bridge)

/-- The address of the device with an address or a name. -/
def resolve (device : String) : Option String :=
  ((bridge.devices.find? fun known => known.ieeeAddress == device).or
    (bridge.devices.find? fun known => known.friendlyName == device)).map (·.ieeeAddress)

/-- The endpoint of the device with an address or a name. -/
def resolveMember (device : String) (endpoint : Nat) : Option ExistingMember :=
  (bridge.resolve device).bind fun address =>
    if endpoint ∈ bridge.endpoints address then some ⟨address, endpoint⟩ else none

/-- A group has the name. -/
def hasGroup (name : String) : Bool := bridge.groups.any fun group => group.friendlyName == name

/-- A group or a device has the name. -/
def nameTaken (name : String) : Bool :=
  bridge.hasGroup name || bridge.devices.any fun device => device.friendlyName == name

end Bridge

/-- Change the members of the group with a name. -/
def ExistingGroup.withMembers (name : String) (change : List ExistingMember → List ExistingMember)
    (group : ExistingGroup) : ExistingGroup :=
  if group.friendlyName = name then { group with members := change group.members } else group

/-- Give the group with a name another one. -/
def ExistingGroup.retitle (current new : String) (group : ExistingGroup) : ExistingGroup :=
  if group.friendlyName = current then { group with friendlyName := new } else group

/-- A change of members leaves the rest of every group alone. -/
theorem map_withMembers {β : Type} {pick : ExistingGroup → β}
    (frame : ∀ group members, pick { group with members := members } = pick group) (name : String)
    (change : List ExistingMember → List ExistingMember) (groups : List ExistingGroup) :
    (groups.map (ExistingGroup.withMembers name change)).map pick = groups.map pick := by
  rw [List.map_map]
  refine List.map_congr_left fun group _ => ?_
  unfold Function.comp ExistingGroup.withMembers
  split
  · exact frame group _
  · rfl

namespace Bridge

variable (bridge : Bridge)

variable {bridge} in
theorem nameTaken_of_mem {name : String} (listed : name ∈ bridge.groups.map (·.friendlyName)) :
    bridge.nameTaken name = true := by
  obtain ⟨group, inside, rfl⟩ := List.mem_map.mp listed
  unfold nameTaken hasGroup
  rw [Bool.or_eq_true, List.any_eq_true]
  exact .inl ⟨group, inside, by simp⟩

theorem map_retitle_nodup {current new : String} (fresh : bridge.nameTaken new = false) :
    ((bridge.groups.map (ExistingGroup.retitle current new)).map (·.friendlyName)).Nodup := by
  have unused : ∀ group ∈ bridge.groups, group.friendlyName ≠ new := by
    rintro group listed rfl
    rw [nameTaken_of_mem (List.mem_map_of_mem listed)] at fresh
    cases fresh
  rw [List.map_map]
  refine List.Nodup.map_on ?_ (List.Nodup.of_map _ bridge.group_names_nodup)
  intro first here second there same
  unfold Function.comp ExistingGroup.retitle at same
  have told : first.friendlyName = second.friendlyName := by
    split at same
    · rename_i renamed
      split at same
      · rename_i renamed'
        exact renamed.trans renamed'.symm
      · exact absurd same.symm (unused second there)
    · split at same
      · exact absurd same (unused first here)
      · exact same
  exact List.inj_on_of_nodup_map bridge.group_names_nodup here there told

/-- Rename a group. -/
def renameGroup (current new : String) (fresh : bridge.nameTaken new = false) : Bridge :=
  { bridge with
    groups := bridge.groups.map (ExistingGroup.retitle current new)
    ids_nodup := by
      have same : (bridge.groups.map (ExistingGroup.retitle current new)).map (·.id) =
          bridge.groups.map (·.id) := by
        rw [List.map_map]
        refine List.map_congr_left fun group _ => ?_
        unfold Function.comp ExistingGroup.retitle
        split
        · rfl
        · rfl
      rw [same]
      exact bridge.ids_nodup
    group_names_nodup := bridge.map_retitle_nodup fresh
    members_known := fun group listed => by
      obtain ⟨before, old, rfl⟩ := List.mem_map.mp listed
      have known := bridge.members_known before old
      unfold ExistingGroup.retitle
      split
      · exact known
      · exact known }

/-- Remove a group. -/
def removeGroup (name : String) : Bridge :=
  { bridge with
    groups := bridge.groups.filter fun group => group.friendlyName != name
    ids_nodup := bridge.ids_nodup.sublist (List.filter_sublist.map _)
    group_names_nodup := bridge.group_names_nodup.sublist (List.filter_sublist.map _)
    members_known := fun group listed =>
      bridge.members_known group (List.mem_of_mem_filter listed) }

/-- Create a group. -/
def addGroup (name : String) (id : Nat) (fresh : bridge.nameTaken name = false)
    (free : id ∉ bridge.groups.map (·.id)) : Bridge :=
  { bridge with
    groups := bridge.groups ++ [⟨id, name, []⟩]
    ids_nodup := by
      rw [List.map_append, List.nodup_append]
      refine ⟨bridge.ids_nodup, List.nodup_singleton _, fun other listed same last => ?_⟩
      rw [List.map_singleton, List.mem_singleton] at last
      rw [last]
      rintro rfl
      exact free listed
    group_names_nodup := by
      rw [List.map_append, List.nodup_append]
      refine ⟨bridge.group_names_nodup, List.nodup_singleton _, fun other listed same last => ?_⟩
      rw [List.map_singleton, List.mem_singleton] at last
      rw [last]
      intro named
      rw [named] at listed
      rw [nameTaken_of_mem listed] at fresh
      cases fresh
    members_known := fun group listed => by
      rcases List.mem_append.mp listed with old | new
      · exact bridge.members_known group old
      · rw [List.mem_singleton.mp new]
        simp }

/-- Change the members of a group to known ones. -/
def changeMembers (name : String) (change : List ExistingMember → List ExistingMember)
    (known : ∀ group ∈ bridge.groups, ∀ member ∈ change group.members,
      member.ieeeAddress ∈ bridge.devices.map (·.ieeeAddress) ∧
        member.endpoint ∈ bridge.endpoints member.ieeeAddress) : Bridge :=
  { bridge with
    groups := bridge.groups.map (ExistingGroup.withMembers name change)
    ids_nodup := by
      rw [map_withMembers fun _ _ => rfl]
      exact bridge.ids_nodup
    group_names_nodup := by
      rw [map_withMembers fun _ _ => rfl]
      exact bridge.group_names_nodup
    members_known := fun group listed => by
      obtain ⟨before, old, rfl⟩ := List.mem_map.mp listed
      unfold ExistingGroup.withMembers
      split
      · exact known before old
      · exact bridge.members_known before old }

/-- Put a member into a list of members. -/
def insertMember (member : ExistingMember) (members : List ExistingMember) : List ExistingMember :=
  if member ∈ members then members else members ++ [member]

/-- Take a member out of a list of members. -/
def eraseMember (member : ExistingMember) (members : List ExistingMember) : List ExistingMember :=
  members.filter fun other => other != member

variable {bridge}

theorem mem_of_resolve {device address : String} (found : bridge.resolve device = some address) :
    address ∈ bridge.devices.map (·.ieeeAddress) := by
  obtain ⟨known, here, rfl⟩ := Option.map_eq_some_iff.mp found
  refine List.mem_map_of_mem ?_
  rcases Option.or_eq_some_iff.mp here with first | ⟨_, second⟩
  · exact List.mem_of_find?_eq_some first
  · exact List.mem_of_find?_eq_some second

theorem known_of_resolveMember {device : String} {endpoint : Nat} {member : ExistingMember}
    (found : bridge.resolveMember device endpoint = some member) :
    bridge.resolve device = some member.ieeeAddress ∧ member.endpoint = endpoint ∧
      member.endpoint ∈ bridge.endpoints member.ieeeAddress := by
  obtain ⟨address, here, taken⟩ := Option.bind_eq_some_iff.mp found
  split at taken
  · rename_i known
    cases taken
    exact ⟨here, rfl, known⟩
  · cases taken

/-- Put a member into a group. -/
def addMember (bridge : Bridge) (group device : String) (endpoint : Nat) (member : ExistingMember)
    (found : bridge.resolveMember device endpoint = some member) : Bridge :=
  bridge.changeMembers group (insertMember member) (by
    intro other listed inside included
    unfold insertMember at included
    split at included
    · exact bridge.members_known other listed inside included
    · rcases List.mem_append.mp included with old | new
      · exact bridge.members_known other listed inside old
      · rw [List.mem_singleton.mp new]
        obtain ⟨here, _, known⟩ := known_of_resolveMember found
        exact ⟨mem_of_resolve here, known⟩)

/-- Take a member out of a group. -/
def removeMember (bridge : Bridge) (group : String) (member : ExistingMember) : Bridge :=
  bridge.changeMembers group (eraseMember member) fun other listed inside included =>
    bridge.members_known other listed inside (List.mem_of_mem_filter included)

/-- The state after a request, unless it is refused. -/
def handle (bridge : Bridge) : GroupRequest → Option Bridge
  | .rename current new =>
      if fresh : bridge.nameTaken new = false then
        if bridge.hasGroup current then some (bridge.renameGroup current new fresh) else none
      else none
  | .remove group => if bridge.hasGroup group then some (bridge.removeGroup group) else none
  | .add group id =>
      if fresh : bridge.nameTaken group = false then
        if free : id ∉ bridge.groups.map (·.id) then some (bridge.addGroup group id fresh free)
        else none
      else none
  | .addMember group device endpoint =>
      if bridge.hasGroup group then
        match found : bridge.resolveMember device endpoint with
        | some member => some (bridge.addMember group device endpoint member found)
        | none => none
      else none
  | .removeMember group device endpoint =>
      if bridge.hasGroup group then
        (bridge.resolveMember device endpoint).map fun member => bridge.removeMember group member
      else none

end Bridge

/-! ## Keys of members -/

/-- The key of a member. -/
def ExistingMember.asKey (member : ExistingMember) : String :=
  member.ieeeAddress ++ "/" ++ toString member.endpoint

/-- Put the name of a device in place of its address. -/
def normalizeMemberKey (nameByAddress : TreeMap String String) (member : String) : String :=
  match Text.splitLast '/' member.toList with
  | none => member
  | some (device, endpoint) =>
      if "0x".toList <+: device then
        match nameByAddress[String.ofList device]? with
        | some name => name ++ "/" ++ String.ofList endpoint
        | none => member
      else member

/-- A number below a limit: digits with an optional plus sign. -/
def parseUnsigned (limit : Nat) (text : List Char) : Option Nat :=
  let digits := (Text.stripPrefix ['+'] text).getD text
  let number := Nat.ofDigitChars 10 digits 0
  if digits ≠ [] ∧ digits.all Char.isDigit = true ∧ number < limit then some number else none

/-- The device and the endpoint of a key. -/
def parseMemberKey (member : String) : Option (String × Nat) :=
  (Text.splitLast '/' member.toList).bind fun parts =>
    (parseUnsigned (2 ^ 32) parts.2).map fun endpoint => (String.ofList parts.1, endpoint)

/-! ## The reconciliation -/

/-- What the reconciliation reads of a room. -/
structure Room where
  name : String
  groupName : String
  id : Nat
  /-- Members as configured, `name/endpoint`. -/
  members : List String
  deriving DecidableEq, Repr

/-- Why a reconciliation stops. -/
inductive GroupError
  /-- The name that a group is to get is used by another one. -/
  | nameInUse (id : Nat) (current new : String) (owner : Nat)
  /-- A member has no endpoint. -/
  | malformedMember (member room : String)
  /-- A request was refused. -/
  | refused (request : GroupRequest)
  deriving DecidableEq, Repr

/-- The order in which the set of members of a room is iterated, which may be any. -/
structure HashOrder where
  arrange : String → List String → List String
  perm : ∀ room keys, (arrange room keys).Perm keys

/-- What is to be done. -/
structure GroupOptions where
  dryRun : Bool
  prune : Bool
  deriving DecidableEq, Repr

/-- The state of a reconciliation: the groups of zigbee2mqtt, the requests so far and the
counters. -/
structure Progress where
  bridge : Bridge
  requests : List GroupRequest
  summary : ReconcileSummary

namespace Progress

/-- Make a request. -/
def issue (progress : Progress) (request : GroupRequest) : Except GroupError Progress :=
  match progress.bridge.handle request with
  | none => .error (.refused request)
  | some bridge =>
      .ok
        { bridge
          requests := progress.requests ++ [request]
          summary := { progress.summary with touched := progress.summary.touched + 1 } }

/-- Make requests in order, but none in a dry run. -/
def send (dryRun : Bool) (requests : List GroupRequest) (progress : Progress) :
    Except GroupError Progress :=
  if dryRun then .ok progress else requests.foldlM issue progress

/-- Count what is left as it is. -/
def skip (count : Nat) (progress : Progress) : Progress :=
  { progress with summary := { progress.summary with skipped := progress.summary.skipped + count } }

end Progress

/-- The last group listed with an id. -/
def byId (existing : List ExistingGroup) (id : Nat) : Option ExistingGroup :=
  existing.reverse.find? fun group => group.id == id

/-- The last group listed with a name. -/
def byName (existing : List ExistingGroup) (name : String) : Option ExistingGroup :=
  existing.reverse.find? fun group => group.friendlyName == name

/-- The rename that the group with the id of a room needs. -/
def planRename (existing : List ExistingGroup) (room : Room) :
    Except GroupError (Option (String × String)) :=
  match byId existing room.id with
  | none => .ok none
  | some found =>
      if found.friendlyName = room.groupName then .ok none
      else
        match byName existing room.groupName with
        | none => .ok (some (found.friendlyName, room.groupName))
        | some owner =>
            if owner.id ≠ room.id then
              .error (.nameInUse room.id found.friendlyName room.groupName owner.id)
            else .ok (some (found.friendlyName, room.groupName))

/-- The groups as they would be named after a plan. -/
def patchNames (plan : List (String × String)) (existing : List ExistingGroup) :
    List ExistingGroup :=
  existing.map fun group =>
    match plan.reverse.find? fun entry => entry.1 == group.friendlyName with
    | some entry => { group with friendlyName := entry.2 }
    | none => group

/-- Add a member that a group lacks. -/
def addMissing (dryRun : Bool) (room : Room) (progress : Progress) (member : String) :
    Except GroupError Progress :=
  match parseMemberKey member with
  | none => .error (.malformedMember member room.name)
  | some (device, endpoint) =>
      progress.send dryRun [.addMember room.groupName device endpoint]

/-- Remove a member that is not configured. -/
def removeExtra (dryRun : Bool) (room : Room) (progress : Progress) (member : String) :
    Except GroupError Progress :=
  match parseMemberKey member with
  | none => .ok progress
  | some (device, endpoint) =>
      progress.send dryRun [.removeMember room.groupName device endpoint]

/-- The configured members of a room that are not among the current ones of its group. -/
def missingMembers (nameByAddress : TreeMap String String) (room : Room)
    (group : ExistingGroup) : List String :=
  (room.members.map (normalizeMemberKey nameByAddress)).dedup.filter fun member =>
    member ∉ group.members.map fun current => normalizeMemberKey nameByAddress current.asKey

/-- The current members of the group of a room that are not configured. -/
def extraMembers (nameByAddress : TreeMap String String) (room : Room)
    (group : ExistingGroup) : List String :=
  (group.members.map fun current => normalizeMemberKey nameByAddress current.asKey).dedup.filter
    fun member => member ∉ room.members.map (normalizeMemberKey nameByAddress)

/-- Bring the members of one group in line. -/
def syncMembers (nameByAddress : TreeMap String String) (options : GroupOptions)
    (order : HashOrder) (existing : List ExistingGroup) (progress : Progress) (room : Room) :
    Except GroupError Progress :=
  if room.members = [] ∧ options.prune = false then .ok progress
  else
    match byName existing room.groupName with
    | none => .ok progress
    | some group =>
        let missing := order.arrange room.name (missingMembers nameByAddress room group)
        let extra := order.arrange room.name (extraMembers nameByAddress room group)
        match missing.foldlM (addMissing options.dryRun room) progress with
        | .error error => .error error
        | .ok progress =>
            if options.prune then extra.foldlM (removeExtra options.dryRun room) progress
            else .ok (progress.skip extra.length)

/-- Rename the groups whose id is configured under another name, and fetch the groups anew. -/
def renameGroups (rooms : List Room) (options : GroupOptions) (existing : List ExistingGroup)
    (progress : Progress) : Except GroupError (List ExistingGroup × Progress) :=
  match rooms.mapM (planRename existing) with
  | .error error => .error error
  | .ok found =>
      let plan := found.filterMap id
      match progress.send options.dryRun (plan.map fun entry => .rename entry.1 entry.2) with
      | .error error => .error error
      | .ok progress =>
          if plan = [] then .ok (existing, progress)
          else if options.dryRun then .ok (patchNames plan existing, progress)
          else .ok (progress.bridge.groups, progress)

/-- Remove the groups whose name is not configured. -/
def pruneGroups (rooms : List Room) (options : GroupOptions) (existing : List ExistingGroup)
    (progress : Progress) : Except GroupError (List ExistingGroup × Progress) :=
  if options.prune then
    let stale := existing.filter fun group => group.friendlyName ∉ rooms.map (·.groupName)
    match progress.send options.dryRun (stale.map fun group => .remove group.friendlyName) with
    | .error error => .error error
    | .ok progress =>
        if progress.requests ≠ [] ∧ options.dryRun = false then
          .ok (progress.bridge.groups, progress)
        else .ok (existing, progress)
  else .ok (existing, progress)

/-- Create the groups whose name is missing. -/
def createGroups (rooms : List Room) (options : GroupOptions) (existing : List ExistingGroup)
    (progress : Progress) : Except GroupError (List ExistingGroup × Progress) :=
  let absent := rooms.filter fun room => (byName existing room.groupName).isNone
  let present := rooms.length - absent.length
  match (progress.skip present).send options.dryRun
      (absent.map fun room => .add room.groupName room.id) with
  | .error error => .error error
  | .ok progress =>
      if progress.requests ≠ [] ∧ options.dryRun = false then
        .ok (progress.bridge.groups, progress)
      else .ok (existing, progress)

/-- Bring the groups in line with the rooms. -/
def reconcileGroups (nameByAddress : TreeMap String String) (rooms : List Room)
    (options : GroupOptions) (order : HashOrder) (existing : List ExistingGroup) (bridge : Bridge) :
    Except GroupError Progress := do
  let (existing, progress) ← renameGroups rooms options existing
    { bridge, requests := [], summary := { touched := 0, skipped := 0 } }
  let (existing, progress) ← pruneGroups rooms options existing progress
  let (existing, progress) ← createGroups rooms options existing progress
  rooms.foldlM (syncMembers nameByAddress options order existing) progress

end MqttController.Provision
