import MqttController.Lib.Keyed
import MqttController.Lib.OrderedMap

/-!
# Renaming devices

The provisioner renames the devices of zigbee2mqtt that have another name than the configuration
gives their address.  A device whose name another one is to get is renamed to a temporary name
first.
-/

namespace MqttController.Provision

open Std

/-- A device of zigbee2mqtt. -/
structure ExistingDevice where
  ieeeAddress : String
  friendlyName : String
  deriving DecidableEq, Repr

/-- The devices of zigbee2mqtt, which knows no Z-Wave devices. -/
structure Network where
  devices : List ExistingDevice
  addresses_nodup : (devices.map (·.ieeeAddress)).Nodup
  zigbee : ∀ device ∈ devices, ¬ "zwave:".toList <+: device.ieeeAddress.toList

/-- A request to give the device with an address a name. -/
structure Rename where
  ieee : String
  name : String
  deriving DecidableEq, Repr

/-- A device to be renamed. -/
structure PlannedRename where
  ieee : String
  current : String
  desired : String
  deriving DecidableEq, Repr

/-- What a phase did. -/
structure ReconcileSummary where
  touched : Nat
  skipped : Nat
  deriving DecidableEq, Repr

namespace Network

/-- A request takes effect. -/
def rename (network : Network) (request : Rename) : Network where
  devices := network.devices.map fun device =>
    if device.ieeeAddress = request.ieee then { device with friendlyName := request.name }
    else device
  addresses_nodup := by
    have same : (network.devices.map fun device =>
        if device.ieeeAddress = request.ieee then { device with friendlyName := request.name }
        else device).map (·.ieeeAddress) = network.devices.map (·.ieeeAddress) := by
      rw [List.map_map]
      refine List.map_congr_left fun device _ => ?_
      rw [Function.comp_apply]
      split
      · rfl
      · rfl
    rw [same]
    exact network.addresses_nodup
  zigbee device member := by
    obtain ⟨before, listed, rfl⟩ := List.mem_map.mp member
    have known := network.zigbee before listed
    split
    · exact known
    · exact known

/-- Requests take effect in order. -/
def renameAll (network : Network) (requests : List Rename) : Network :=
  requests.foldl rename network

/-- The names in use. -/
def names (network : Network) : List String := network.devices.map (·.friendlyName)

end Network

/-! ## The plan -/

/-- The last device listed with an address. -/
def byAddress (existing : List ExistingDevice) (ieee : String) : Option ExistingDevice :=
  existing.reverse.find? fun device => device.ieeeAddress == ieee

/-- A Z-Wave device is not managed by zigbee2mqtt. -/
def isZwave (ieee : String) : Bool := decide ("zwave:".toList <+: ieee.toList)

/-- What an entry of the configuration asks for, unless the device is absent or has its name. -/
def planEntry (existing : List ExistingDevice) (entry : String × String) :
    Option PlannedRename :=
  if isZwave entry.1 then none
  else
    match byAddress existing entry.1 with
    | none => none
    | some found =>
        if found.friendlyName = entry.2 then none
        else some { ieee := entry.1, current := found.friendlyName, desired := entry.2 }

/-- The entry names a device that has its name already. -/
def alreadyNamed (existing : List ExistingDevice) (entry : String × String) : Bool :=
  !isZwave entry.1 && (byAddress existing entry.1).any fun found => found.friendlyName == entry.2

/-- The devices to be renamed, by address. -/
def renamePlan (nameByAddress : TreeMap String String) (existing : List ExistingDevice) :
    List PlannedRename :=
  nameByAddress.toList.filterMap (planEntry existing)

/-! ## Temporary names -/

/-- The temporary name of a device. -/
def temporaryName (ieee : String) : String := "__tmp_swap_" ++ ieee

/-- The device to be renamed that has a name now. -/
def holder (plan : List PlannedRename) (name : String) : Option String :=
  (plan.reverse.find? fun entry => entry.current == name).map (·.ieee)

/-- Rename the holder of a desired name to its temporary name, once. -/
def freeName (plan : List PlannedRename) (renamed : List Rename) (entry : PlannedRename) :
    List Rename :=
  match holder plan entry.desired with
  | none => renamed
  | some holder =>
      if holder ≠ entry.ieee ∧ holder ∉ renamed.map (·.ieee) then
        renamed ++ [{ ieee := holder, name := temporaryName holder }]
      else renamed

/-- The renames to temporary names. -/
def temporaryRenames (plan : List PlannedRename) : List Rename := plan.foldl (freeName plan) []

/-- The renames to desired names. -/
def finalRenames (plan : List PlannedRename) : List Rename :=
  plan.map fun entry => { ieee := entry.ieee, name := entry.desired }

/-- Rename the devices that have another name than the one desired: the requests and the summary. -/
def reconcileNames (nameByAddress : TreeMap String String) (existing : List ExistingDevice)
    (dryRun : Bool) : List Rename × ReconcileSummary :=
  let plan := renamePlan nameByAddress existing
  let requests := if dryRun then [] else temporaryRenames plan ++ finalRenames plan
  (requests,
    { touched := requests.length
      skipped := (nameByAddress.toList.filter (alreadyNamed existing)).length })

/-! ## Names after requests -/

/-- The name of the device with an address after requests. -/
def nameAfter (requests : List Rename) (ieee name : String) : String :=
  requests.foldl (fun name request => if request.ieee = ieee then request.name else name) name

theorem nameAfter_append (early late : List Rename) (ieee name : String) :
    nameAfter (early ++ late) ieee name = nameAfter late ieee (nameAfter early ieee name) :=
  List.foldl_append

/-- Requests about other devices. -/
theorem nameAfter_of_not_mem {requests : List Rename} {ieee : String}
    (absent : ieee ∉ requests.map (·.ieee)) (name : String) :
    nameAfter requests ieee name = name := by
  induction requests generalizing name with
  | nil => rfl
  | cons request rest ih =>
      rw [List.map_cons, List.mem_cons, not_or] at absent
      unfold nameAfter
      rw [List.foldl_cons, if_neg (Ne.symm absent.1)]
      exact ih absent.2 name

/-- One request about the device. -/
theorem nameAfter_of_mem {requests : List Rename} (nodup : (requests.map (·.ieee)).Nodup)
    {request : Rename} (member : request ∈ requests) (name : String) :
    nameAfter requests request.ieee name = request.name := by
  obtain ⟨early, late, rfl⟩ := List.append_of_mem member
  rw [List.map_append, List.map_cons, List.nodup_append] at nodup
  have absent := (List.nodup_cons.mp nodup.2.1).1
  rw [nameAfter_append]
  unfold nameAfter
  rw [List.foldl_cons, if_pos rfl]
  exact nameAfter_of_not_mem absent request.name

namespace Network

theorem devices_renameAll (network : Network) (requests : List Rename) :
    (network.renameAll requests).devices = network.devices.map fun device =>
      { device with
        friendlyName := nameAfter requests device.ieeeAddress device.friendlyName } := by
  induction requests generalizing network with
  | nil => simp [renameAll, nameAfter]
  | cons request rest ih =>
      have next := ih (network.rename request)
      unfold renameAll at next ⊢
      rw [List.foldl_cons, next]
      unfold rename
      rw [List.map_map]
      refine List.map_congr_left fun device _ => ?_
      rw [Function.comp_apply]
      unfold nameAfter
      rw [List.foldl_cons]
      by_cases same : device.ieeeAddress = request.ieee
      · rw [if_pos same, if_pos same.symm]
      · rw [if_neg same, if_neg (Ne.symm same)]

theorem mem_names_renameAll {network : Network} {requests : List Rename} {name : String} :
    name ∈ (network.renameAll requests).names ↔ ∃ device ∈ network.devices,
      nameAfter requests device.ieeeAddress device.friendlyName = name := by
  unfold names
  rw [devices_renameAll, List.map_map]
  exact List.mem_map

end Network

/-! ## The temporary renames -/

section Plan

variable {plan : List PlannedRename}

theorem temporaryName_injective : Function.Injective temporaryName := by
  intro first second same
  have chars := congrArg String.toList same
  unfold temporaryName at chars
  rw [String.toList_append, String.toList_append, List.append_cancel_left_eq] at chars
  exact String.toList_injective chars

theorem holder_eq_some {name holding : String} (held : holder plan name = some holding) :
    ∃ entry ∈ plan, entry.ieee = holding ∧ entry.current = name := by
  obtain ⟨entry, found, rfl⟩ := Option.map_eq_some_iff.mp held
  refine ⟨entry, List.mem_reverse.mp (List.mem_of_find?_eq_some found), rfl, ?_⟩
  simpa using List.find?_some found

theorem holder_of_mem (currents : (plan.map (·.current)).Nodup) {entry : PlannedRename}
    (member : entry ∈ plan) : holder plan entry.current = some entry.ieee := by
  have found : (plan.reverse.find? fun other => other.current == entry.current).isSome :=
    List.find?_isSome.mpr ⟨entry, List.mem_reverse.mpr member, by simp⟩
  obtain ⟨other, found⟩ := Option.isSome_iff_exists.mp found
  have same : other.current = entry.current := by simpa using List.find?_some found
  have here : other = entry :=
    List.inj_on_of_nodup_map currents (List.mem_reverse.mp (List.mem_of_find?_eq_some found)) member
      same
  unfold holder
  rw [found, here]
  rfl

/-- What the temporary renames are made of, at every point of the loop. -/
structure Frees (plan : List PlannedRename) (renamed : List Rename) : Prop where
  nodup : (renamed.map (·.ieee)).Nodup
  temporary : ∀ request ∈ renamed, request.name = temporaryName request.ieee
  planned : ∀ request ∈ renamed, request.ieee ∈ plan.map (·.ieee)

theorem Frees.freeName {renamed : List Rename} (frees : Frees plan renamed)
    (entry : PlannedRename) : Frees plan (freeName plan renamed entry) := by
  unfold Provision.freeName
  split
  · exact frees
  · rename_i holding held
    split
    · rename_i fresh
      obtain ⟨other, listed, same, _⟩ := holder_eq_some held
      refine ⟨?_, fun request member => ?_, fun request member => ?_⟩
      · rw [List.map_append, List.nodup_append]
        refine ⟨frees.nodup, List.nodup_singleton _, fun ieee early other last => ?_⟩
        rw [List.map_singleton, List.mem_singleton] at last
        rw [last]
        rintro rfl
        exact fresh.2 early
      · rcases List.mem_append.mp member with early | last
        · exact frees.temporary request early
        · rw [List.mem_singleton.mp last]
      · rcases List.mem_append.mp member with early | last
        · exact frees.planned request early
        · rw [List.mem_singleton.mp last]
          exact List.mem_map.mpr ⟨other, listed, same⟩
    · exact frees

theorem frees_foldl (entries : List PlannedRename) {renamed : List Rename}
    (frees : Frees plan renamed) : Frees plan (entries.foldl (freeName plan) renamed) := by
  induction entries generalizing renamed with
  | nil => exact frees
  | cons entry rest ih =>
      rw [List.foldl_cons]
      exact ih (frees.freeName entry)

theorem frees_temporaryRenames (plan : List PlannedRename) : Frees plan (temporaryRenames plan) :=
  frees_foldl plan ⟨List.nodup_nil, by simp, by simp⟩

theorem freeName_subset (renamed : List Rename) (entry : PlannedRename) :
    renamed ⊆ freeName plan renamed entry := by
  unfold freeName
  split
  · exact List.Subset.refl _
  · split
    · exact List.subset_append_left _ _
    · exact List.Subset.refl _

theorem foldl_freeName_subset (entries : List PlannedRename) (renamed : List Rename) :
    renamed ⊆ entries.foldl (freeName plan) renamed := by
  induction entries generalizing renamed with
  | nil => exact List.Subset.refl _
  | cons entry rest ih =>
      rw [List.foldl_cons]
      exact List.Subset.trans (freeName_subset renamed entry) (ih _)

/-- The holder of a desired name gets its temporary name. -/
theorem held_renamed {entry : PlannedRename} (member : entry ∈ plan) {holding : String}
    (held : holder plan entry.desired = some holding) (other : holding ≠ entry.ieee) :
    holding ∈ (temporaryRenames plan).map (·.ieee) := by
  obtain ⟨early, late, split⟩ := List.append_of_mem member
  have here : ∀ renamed, holding ∈ (freeName plan renamed entry).map (·.ieee) := by
    intro renamed
    unfold freeName
    rw [held]
    dsimp only
    split
    · simp
    · rename_i known
      by_contra absent
      exact known ⟨other, absent⟩
  have result : temporaryRenames plan =
      late.foldl (freeName plan) (freeName plan (early.foldl (freeName plan) []) entry) := by
    have folded : ∀ entries, entries = early ++ entry :: late →
        entries.foldl (freeName plan) [] =
          late.foldl (freeName plan) (freeName plan (early.foldl (freeName plan) []) entry) := by
      rintro entries rfl
      rw [List.foldl_append, List.foldl_cons]
    exact folded plan split
  rw [result]
  exact List.map_subset _ (foldl_freeName_subset late _) (here _)

end Plan

/-! ## Renaming ends in the desired names -/

/-- What a configuration may ask of a network: distinct names, none of them held by a device that is
not to be renamed, and unused temporary names. -/
structure Renamable (nameByAddress : TreeMap String String) (network : Network) : Prop where
  current_nodup : network.names.Nodup
  desired_nodup : (nameByAddress.toList.map Prod.snd).Nodup
  unheld : ∀ entry ∈ renamePlan nameByAddress network.devices, ∀ device ∈ network.devices,
    device.friendlyName = entry.desired →
      device.ieeeAddress ∈ (renamePlan nameByAddress network.devices).map (·.ieee)
  temporary_unused : ∀ device ∈ network.devices,
    temporaryName device.ieeeAddress ∉ network.names ∧
      temporaryName device.ieeeAddress ∉ nameByAddress.toList.map Prod.snd

theorem byAddress_of_mem (network : Network) {device : ExistingDevice}
    (member : device ∈ network.devices) :
    byAddress network.devices device.ieeeAddress = some device :=
  Keyed.find?_reverse_eq network.addresses_nodup member

/-- A planned rename is of a device that has another name. -/
theorem mem_renamePlan {nameByAddress : TreeMap String String} {network : Network}
    {planned : PlannedRename} :
    planned ∈ renamePlan nameByAddress network.devices ↔
      (planned.ieee, planned.desired) ∈ nameByAddress.toList ∧ planned.current ≠ planned.desired ∧
        ⟨planned.ieee, planned.current⟩ ∈ network.devices := by
  unfold renamePlan planEntry
  rw [List.mem_filterMap]
  constructor
  · rintro ⟨entry, listed, asked⟩
    split at asked
    · cases asked
    · split at asked
      · cases asked
      · rename_i found here
        split at asked
        · cases asked
        · rename_i renamed
          cases asked
          have member := List.mem_reverse.mp (List.mem_of_find?_eq_some here)
          have same : found.ieeeAddress = entry.1 := by simpa using List.find?_some here
          refine ⟨listed, renamed, ?_⟩
          rw [← same]
          exact member
  · rintro ⟨listed, renamed, member⟩
    refine ⟨_, listed, ?_⟩
    have present := byAddress_of_mem network member
    rw [if_neg (by simpa [isZwave] using network.zigbee _ member)]
    dsimp only at present ⊢
    rw [present]
    dsimp only
    rw [if_neg renamed]

section Runs

variable {nameByAddress : TreeMap String String} {network : Network}

/-- Planned renames of one device are one. -/
theorem planned_eq {first second : PlannedRename}
    (member : first ∈ renamePlan nameByAddress network.devices)
    (also : second ∈ renamePlan nameByAddress network.devices) (same : first.ieee = second.ieee) :
    first = second := by
  obtain ⟨listed, _, known⟩ := mem_renamePlan.mp member
  obtain ⟨listed', _, known'⟩ := mem_renamePlan.mp also
  have desired := List.inj_on_of_nodup_map (OrderedMap.nodup_keys nameByAddress) listed listed' same
  have current := List.inj_on_of_nodup_map network.addresses_nodup known known' same
  cases first
  cases second
  simp_all

theorem plan_nodup (nameByAddress : TreeMap String String) (network : Network) :
    (renamePlan nameByAddress network.devices).Nodup := by
  refine List.Nodup.filterMap (fun first second planned made also => ?_)
    (List.Nodup.of_map _ (OrderedMap.nodup_keys nameByAddress))
  have entry : ∀ {entry}, planned ∈ planEntry network.devices entry →
      entry = (planned.ieee, planned.desired) := by
    intro entry made
    unfold planEntry at made
    split at made
    · cases made
    · split at made
      · cases made
      · split at made
        · cases made
        · cases made
          rfl
  rw [entry made, entry also]

theorem plan_ieee_nodup (nameByAddress : TreeMap String String) (network : Network) :
    ((renamePlan nameByAddress network.devices).map (·.ieee)).Nodup :=
  (plan_nodup nameByAddress network).map_on fun _ first _ second same =>
    planned_eq first second same

namespace Renamable

theorem plan_current_nodup (renamable : Renamable nameByAddress network) :
    ((renamePlan nameByAddress network.devices).map (·.current)).Nodup := by
  refine (plan_nodup nameByAddress network).map_on fun first member second also same => ?_
  have device := List.inj_on_of_nodup_map renamable.current_nodup (mem_renamePlan.mp member).2.2
    (mem_renamePlan.mp also).2.2 same
  exact planned_eq member also (congrArg ExistingDevice.ieeeAddress device)

theorem planned_eq_of_desired (renamable : Renamable nameByAddress network)
    {first second : PlannedRename} (member : first ∈ renamePlan nameByAddress network.devices)
    (also : second ∈ renamePlan nameByAddress network.devices)
    (same : first.desired = second.desired) : first = second := by
  have entry := List.inj_on_of_nodup_map renamable.desired_nodup (mem_renamePlan.mp member).1
    (mem_renamePlan.mp also).1 same
  exact planned_eq member also (Prod.mk.inj entry).1

/-- A temporary name is free when it is given. -/
theorem temporary_free (renamable : Renamable nameByAddress network) {early late : List Rename}
    {request : Rename}
    (split : temporaryRenames (renamePlan nameByAddress network.devices) =
      early ++ request :: late) : request.name ∉ (network.renameAll early).names := by
  have frees := frees_temporaryRenames (renamePlan nameByAddress network.devices)
  rw [split] at frees
  have listed : request ∈ early ++ request :: late := by simp
  obtain ⟨planned, inPlan, same⟩ := List.mem_map.mp (frees.planned request listed)
  have known := (mem_renamePlan.mp inPlan).2.2
  rw [same] at known
  rw [frees.temporary request listed]
  intro taken
  obtain ⟨device, member, named⟩ := Network.mem_names_renameAll.mp taken
  by_cases renamed : device.ieeeAddress ∈ early.map (·.ieee)
  · obtain ⟨other, before, address⟩ := List.mem_map.mp renamed
    have distinct := frees.nodup
    rw [List.map_append, List.map_cons, List.nodup_append] at distinct
    rw [← address, nameAfter_of_mem distinct.1 before,
      frees.temporary other (List.mem_append_left _ before)] at named
    have equal := temporaryName_injective named
    exact distinct.2.2 other.ieee (List.mem_map_of_mem before) request.ieee List.mem_cons_self equal
  · rw [nameAfter_of_not_mem renamed] at named
    refine (renamable.temporary_unused _ known).1 ?_
    rw [← named]
    exact List.mem_map_of_mem member

/-- A desired name is free when it is given. -/
theorem desired_free (renamable : Renamable nameByAddress network)
    {early late : List PlannedRename} {planned : PlannedRename}
    (split : renamePlan nameByAddress network.devices = early ++ planned :: late) :
    planned.desired ∉ (network.renameAll
      (temporaryRenames (renamePlan nameByAddress network.devices) ++
        finalRenames early)).names := by
  have frees := frees_temporaryRenames (renamePlan nameByAddress network.devices)
  have ieees := plan_ieee_nodup nameByAddress network
  have inPlan : planned ∈ renamePlan nameByAddress network.devices := by
    rw [split]
    simp
  have before : ∀ other ∈ early, other ∈ renamePlan nameByAddress network.devices := by
    intro other member
    rw [split]
    exact List.mem_append_left _ member
  have finals : ((finalRenames early).map (·.ieee)).Nodup := by
    rw [split, List.map_append, List.nodup_append] at ieees
    unfold finalRenames
    rw [List.map_map]
    exact ieees.1
  intro taken
  obtain ⟨device, member, named⟩ := Network.mem_names_renameAll.mp taken
  rw [nameAfter_append] at named
  by_cases done : device.ieeeAddress ∈ (finalRenames early).map (·.ieee)
  · -- A device renamed before got its own desired name.
    obtain ⟨request, listed, address⟩ := List.mem_map.mp done
    rw [← address, nameAfter_of_mem finals listed] at named
    obtain ⟨other, earlier, rfl⟩ := List.mem_map.mp listed
    have same := renamable.planned_eq_of_desired (before other earlier) inPlan named
    rw [split, List.map_append, List.map_cons, List.nodup_append] at ieees
    exact ieees.2.2 other.ieee (List.mem_map_of_mem earlier) planned.ieee List.mem_cons_self
      (congrArg PlannedRename.ieee same)
  · rw [nameAfter_of_not_mem done] at named
    by_cases freed : device.ieeeAddress ∈
        (temporaryRenames (renamePlan nameByAddress network.devices)).map (·.ieee)
    · -- A temporary name is nobody's desired name.
      obtain ⟨request, listed, address⟩ := List.mem_map.mp freed
      rw [← address, nameAfter_of_mem frees.nodup listed, frees.temporary request listed,
        address] at named
      refine (renamable.temporary_unused device member).2 ?_
      rw [named]
      exact List.mem_map_of_mem (mem_renamePlan.mp inPlan).1
    · -- Another device with its first name is planned, and was freed.
      rw [nameAfter_of_not_mem freed] at named
      obtain ⟨holding, listed, address⟩ :=
        List.mem_map.mp (renamable.unheld planned inPlan device member named)
      have known := (mem_renamePlan.mp listed).2.2
      have same := List.inj_on_of_nodup_map network.addresses_nodup known member address
      have current : holding.current = planned.desired := by
        rw [← named, ← same]
      have held := holder_of_mem renamable.plan_current_nodup listed
      rw [current] at held
      refine freed ?_
      rw [← address]
      refine held_renamed inPlan held fun equal => ?_
      have one := planned_eq listed inPlan equal
      rw [one] at current
      exact (mem_renamePlan.mp inPlan).2.1 current

/-- A present device ends with its desired name. -/
theorem desired_name {device : ExistingDevice} (member : device ∈ network.devices)
    {desired : String} (wanted : (device.ieeeAddress, desired) ∈ nameByAddress.toList) :
    nameAfter (temporaryRenames (renamePlan nameByAddress network.devices) ++
      finalRenames (renamePlan nameByAddress network.devices)) device.ieeeAddress
        device.friendlyName = desired := by
  have finals : ((finalRenames (renamePlan nameByAddress network.devices)).map (·.ieee)).Nodup := by
    unfold finalRenames
    rw [List.map_map]
    exact plan_ieee_nodup nameByAddress network
  rw [nameAfter_append]
  by_cases named : device.friendlyName = desired
  · have absent : device.ieeeAddress ∉ (renamePlan nameByAddress network.devices).map (·.ieee) := by
      intro planned
      obtain ⟨other, listed, address⟩ := List.mem_map.mp planned
      obtain ⟨entry, renamed, known⟩ := mem_renamePlan.mp listed
      have same := List.inj_on_of_nodup_map network.addresses_nodup known member address
      have value := List.inj_on_of_nodup_map (OrderedMap.nodup_keys nameByAddress) entry wanted
        address
      refine renamed ?_
      rw [(Prod.mk.inj value).2, ← named, ← same]
    have unfreed : device.ieeeAddress ∉
        (temporaryRenames (renamePlan nameByAddress network.devices)).map (·.ieee) := by
      intro freed
      obtain ⟨request, listed, address⟩ := List.mem_map.mp freed
      rw [← address] at absent
      exact absent ((frees_temporaryRenames _).planned request listed)
    rw [nameAfter_of_not_mem unfreed, nameAfter_of_not_mem, named]
    unfold finalRenames
    rw [List.map_map]
    exact absent
  · have planned : (⟨device.ieeeAddress, device.friendlyName, desired⟩ : PlannedRename) ∈
        renamePlan nameByAddress network.devices := mem_renamePlan.mpr ⟨wanted, named, member⟩
    exact nameAfter_of_mem finals (List.mem_map_of_mem planned) _

end Renamable

/-- Every rename is to a name that is free then, and a run that is not dry leaves every present
device under its desired name. -/
theorem reconcileNames_sound (renamable : Renamable nameByAddress network) (dryRun : Bool) :
    (∀ early request late,
      (reconcileNames nameByAddress network.devices dryRun).1 = early ++ request :: late →
        request.name ∉ (network.renameAll early).names) ∧
      (dryRun = false → ∀ ieee desired, nameByAddress[ieee]? = some desired →
        ∀ device ∈ (network.renameAll
          (reconcileNames nameByAddress network.devices dryRun).1).devices,
          device.ieeeAddress = ieee → device.friendlyName = desired) := by
  unfold reconcileNames
  dsimp only
  cases dryRun with
  | true =>
      refine ⟨fun early request late split => ?_, fun real => by cases real⟩
      simp at split
  | false =>
      rw [if_neg (by simp)]
      refine ⟨fun early request late split => ?_,
        fun _ ieee desired wanted device member same => ?_⟩
      · have final : ∀ front, finalRenames (renamePlan nameByAddress network.devices) =
            front ++ request :: late → early =
              temporaryRenames (renamePlan nameByAddress network.devices) ++ front →
            request.name ∉ (network.renameAll early).names := by
          rintro front parts rfl
          obtain ⟨done, rest, planned, rfl, second⟩ := List.map_eq_append_iff.mp parts
          obtain ⟨next, left, rfl, rfl, _⟩ := List.map_eq_cons_iff.mp second
          exact renamable.desired_free planned
        rcases List.append_eq_append_iff.mp split with ⟨front, start, parts⟩ | ⟨rest, start, parts⟩
        · exact final front parts start
        · cases rest with
          | nil => exact final [] parts.symm (by rw [start, List.append_nil, List.append_nil])
          | cons head tail =>
              cases parts
              exact renamable.temporary_free start
      · rw [Network.devices_renameAll] at member
        obtain ⟨before, listed, rfl⟩ := List.mem_map.mp member
        subst same
        refine Renamable.desired_name listed ?_
        exact TreeMap.mem_toList_iff_getElem?_eq_some.mpr wanted

end Runs

/-- Three devices. -/
def ring : Network where
  devices := [⟨"0x1", "hall"⟩, ⟨"0x2", "study"⟩, ⟨"0x3", "attic"⟩]
  addresses_nodup := by decide
  zigbee := by decide

/-- Every device is to get the name of the next. -/
def ringNames : TreeMap String String :=
  ((TreeMap.empty.insert "0x1" "study").insert "0x2" "attic").insert "0x3" "hall"

/-- The names of three devices move around. -/
theorem reconcileNames_sound_ring :
    (ring.renameAll (reconcileNames ringNames ring.devices false).1).names =
      ["study", "attic", "hall"] ∧
    ∀ early request late,
      (reconcileNames ringNames ring.devices false).1 = early ++ request :: late →
        request.name ∉ (ring.renameAll early).names := by
  have renamable : Renamable ringNames ring :=
    { current_nodup := by decide
      desired_nodup := by decide +kernel
      unheld := by decide +kernel
      temporary_unused := by decide +kernel }
  exact ⟨by decide +kernel, (reconcileNames_sound renamable false).1⟩

end MqttController.Provision
