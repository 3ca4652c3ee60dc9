import MqttController.Config.HeatingAcceptance
import MqttController.TopologyBuild

/-!
# What building a topology establishes

The tables that are built keep the names, members, effects and targets of the configuration, and
every position in them is that of what the configuration names.
-/

namespace MqttController

open Std Checked

namespace Config

variable {config : Config}

/-! ## Names and parents -/

theorem verdict_ok_iff {ε α : Type} {failure : ε → BuildFailure} {result : ExceptT ε Option α}
    {value : α} :
    BuildFailure.verdict failure result = .ok value ↔ result.run = some (.ok value) := by
  unfold BuildFailure.verdict
  cases result.run with
  | none => simp
  | some verdict =>
      cases verdict with
      | error error => simp
      | ok found => simp

theorem validateScenes_ok_iff {schedule : SceneSchedule}
    {failure : SceneScheduleError → BuildFailure} :
    validateScenes schedule failure = .ok () ↔ schedule.validate = .ok () := by
  unfold validateScenes
  rw [then_ok_iff, require_ok_iff, mapError_ok_iff]
  exact and_iff_right schedule.validatePanics_eq_false

theorem checkGroup_ok {owners after : GroupOwners} {room : Room}
    (passed : checkGroup owners room = .ok after) :
    claim owners.ids room.id room.name (fun first =>
        BuildFailure.refused (.duplicateGroupId room.id first room.name)) = .ok after.ids ∧
      claim owners.names room.groupName room.name (fun first =>
        BuildFailure.refused (.duplicateGroupName room.groupName first room.name)) =
          .ok after.names := by
  unfold checkGroup at passed
  simp only [bind_ok_iff, pure_ok_iff] at passed
  obtain ⟨ids, numbered, names, named, rfl⟩ := passed
  exact ⟨numbered, named⟩

theorem groupNames_nodup {owners after : GroupOwners} {rooms : List Room}
    (passed : rooms.foldlM checkGroup owners = .ok after) : (rooms.map (·.groupName)).Nodup := by
  refine (nodup_map_of_taken (fun owners name => owners.names[name]? = none) ?_ passed).1
  intro state room next here
  obtain ⟨_, named⟩ := checkGroup_ok here
  exact ⟨(claim_ok_iff.mp named).1, fun other => (unclaimed_iff named other).mp⟩

theorem checkRoomNames_ok {turns : Nat} (passed : config.checkRoomNames turns = .ok ()) :
    (config.rooms.map (·.name)).Nodup ∧ (config.rooms.map (·.groupName)).Nodup ∧
      (∀ room ∈ config.rooms, config.devices[room.groupName]? = none) ∧
      RoomLink.validateParents turns config.roomLinks = some (.ok ()) := by
  unfold checkRoomNames at passed
  simp only [bind_ok_iff, mapError_ok_iff, verdict_ok_iff] at passed
  obtain ⟨byName, registered, owners, grouped, _, fresh, _, parents, chains⟩ := passed
  refine ⟨?_, groupNames_nodup grouped, fun room member => ?_, ?_⟩
  · have distinct := (RoomLink.roomsByName_ok registered).distinct
    unfold roomLinks at distinct
    rw [List.map_map] at distinct
    exact distinct
  · have alone := forM_ok_iff.mp fresh room member
    unfold checkGroupName at alone
    split at alone
    · assumption
    · cases alone
  · unfold RoomLink.validateParents
    rw [registered]
    dsimp only
    rw [parents]
    exact chains

/-! ## Devices -/

theorem deviceNames : config.deviceInfos.map (·.name) = config.devices.keys := by
  unfold deviceInfos
  rw [List.map_map, ← TreeMap.map_fst_toList_eq_keys]
  rfl

theorem deviceNames_nodup : (config.deviceInfos.map (·.name)).Nodup := by
  rw [deviceNames, ← TreeMap.map_fst_toList_eq_keys]
  exact OrderedMap.nodup_keys config.devices

/-- A device that is found by its name is the one of the catalog. -/
theorem deviceInfo_of_deviceByName {name : String} {idx : DeviceIdx}
    (found : config.deviceByName name = some idx) :
    ∃ entry, config.devices[name]? = some entry ∧
      config.deviceInfos[idx]? = some (entry.info name) := by
  unfold deviceByName at found
  rw [List.findIdx?_eq_some_iff_getElem] at found
  obtain ⟨bound, named, _⟩ := found
  obtain ⟨entry, stored, same⟩ := List.mem_map.mp (List.getElem_mem bound)
  have called : entry.1 = name := by
    rw [← same] at named
    simpa [DeviceCatalogEntry.info] using named
  refine ⟨entry.2, ?_, ?_⟩
  · rw [← called]
    exact TreeMap.mem_toList_iff_getElem?_eq_some.mp stored
  · rw [List.getElem?_eq_getElem bound, ← same, called]

theorem deviceByName_isSome {name : String} {entry : DeviceCatalogEntry}
    (stored : config.devices[name]? = some entry) : ∃ idx, config.deviceByName name = some idx := by
  apply Option.isSome_iff_exists.mp
  unfold deviceByName
  rw [List.findIdx?_isSome, List.any_eq_true]
  exact ⟨entry.info name, List.mem_map.mpr
    ⟨(name, entry), TreeMap.mem_toList_iff_getElem?_eq_some.mpr stored, rfl⟩, by
      simp [DeviceCatalogEntry.info]⟩

theorem deviceByName_of_info {idx : DeviceIdx} {info : DeviceInfo}
    (here : config.deviceInfos[idx]? = some info) : config.deviceByName info.name = some idx := by
  cases found : config.deviceByName info.name with
  | none =>
      unfold deviceByName at found
      rw [List.findIdx?_eq_none_iff] at found
      simpa using found info (List.mem_of_getElem? here)
  | some other =>
      obtain ⟨entry, _, there⟩ := deviceInfo_of_deviceByName found
      have bound : idx < (config.deviceInfos.map (·.name)).length := by
        rw [List.length_map]
        exact (List.getElem?_eq_some_iff.mp here).1
      rw [(List.getElem?_inj bound deviceNames_nodup).mp]
      rw [List.getElem?_map, List.getElem?_map, here, there]
      rfl

theorem entry_of_info {idx : DeviceIdx} {info : DeviceInfo}
    (here : config.deviceInfos[idx]? = some info) :
    ∃ entry, config.devices[info.name]? = some entry ∧ info = entry.info info.name := by
  obtain ⟨entry, stored, there⟩ := deviceInfo_of_deviceByName (deviceByName_of_info here)
  exact ⟨entry, stored, Option.some.inj (here.symm.trans there)⟩

/-- The model of every switch is known, and the buttons that it has are listed. -/
theorem hwDoubleTapButtonsOf_ok {name : String} {options : DeviceOptions} {model : String}
    {buttons : List (DeviceIdx × String)}
    (passed : config.hwDoubleTapButtonsOf (name, .switch options model) = .ok buttons) :
    ∃ switchModel device, config.switchModels[model]? = some switchModel ∧
      config.deviceByName name = some device ∧ ∀ idx button, (idx, button) ∈ buttons ↔
        idx = device ∧ button ∈ switchModel.buttons ∧ switchModel.maps button .press = true ∧
          switchModel.maps button .doubleTap = true := by
  unfold hwDoubleTapButtonsOf at passed
  simp only [bind_ok_iff, okOr_ok_iff, pure_ok_iff] at passed
  obtain ⟨switchModel, known, device, found, rfl⟩ := passed
  refine ⟨switchModel, device, known, found, fun idx button => ?_⟩
  simp only [List.mem_map, List.mem_filter, Bool.and_eq_true, Prod.mk.injEq]
  constructor
  · rintro ⟨_, listed, rfl, rfl⟩
    exact ⟨rfl, listed⟩
  · rintro ⟨rfl, listed⟩
    exact ⟨button, listed, rfl, rfl⟩

theorem switchModel_known {buttons : List (DeviceIdx × String)}
    (passed : config.hwDoubleTapButtons = .ok buttons) {name model : String}
    {options : DeviceOptions} (stored : config.devices[name]? = some (.switch options model)) :
    ∃ switchModel, config.switchModels[model]? = some switchModel := by
  unfold hwDoubleTapButtons at passed
  simp only [bind_ok_iff, pure_ok_iff] at passed
  obtain ⟨lists, each, _⟩ := passed
  obtain ⟨_, _, here⟩ := exists_of_mapM_ok each (TreeMap.mem_toList_iff_getElem?_eq_some.mpr stored)
  obtain ⟨switchModel, _, known, _⟩ := hwDoubleTapButtonsOf_ok here
  exact ⟨switchModel, known⟩

/-- The listed buttons are those whose switch reports both presses and double taps. -/
theorem mem_hwDoubleTapButtons_iff {buttons : List (DeviceIdx × String)}
    (passed : config.hwDoubleTapButtons = .ok buttons) (idx : DeviceIdx) (button : String) :
    (idx, button) ∈ buttons ↔ ∃ model,
      ((config.deviceInfos[idx]?).bind (·.switchModel)).bind (fun name =>
        config.switchModels[name]?) = some model ∧ button ∈ model.buttons ∧
          model.maps button .press = true ∧ model.maps button .doubleTap = true := by
  unfold hwDoubleTapButtons at passed
  simp only [bind_ok_iff, pure_ok_iff] at passed
  obtain ⟨lists, each, rfl⟩ := passed
  rw [List.mem_flatten]
  constructor
  · rintro ⟨list, member, listed⟩
    obtain ⟨⟨name, entry⟩, stored, here⟩ := mem_of_mapM_ok each member
    have stored := TreeMap.mem_toList_iff_getElem?_eq_some.mp stored
    cases entry with
    | switch options model =>
        obtain ⟨switchModel, device, known, found, mem_iff⟩ := hwDoubleTapButtonsOf_ok here
        obtain ⟨rfl, listed⟩ := (mem_iff idx button).mp listed
        obtain ⟨entry, same, info⟩ := deviceInfo_of_deviceByName found
        rw [stored] at same
        cases same
        refine ⟨switchModel, ?_, listed⟩
        rw [info]
        exact known
    | _ =>
        cases here
        cases listed
  · rintro ⟨model, known, listed⟩
    obtain ⟨name, found, stored⟩ := Option.bind_eq_some_iff.mp known
    obtain ⟨info, here, modelled⟩ := Option.bind_eq_some_iff.mp found
    obtain ⟨entry, device, same⟩ := entry_of_info here
    have member := TreeMap.mem_toList_iff_getElem?_eq_some.mpr device
    obtain ⟨list, inside, here'⟩ := exists_of_mapM_ok each member
    rw [same] at modelled
    cases entry with
    | switch options called =>
        cases modelled
        obtain ⟨switchModel, other, known', found', mem_iff⟩ := hwDoubleTapButtonsOf_ok here'
        rw [stored] at known'
        cases known'
        rw [deviceByName_of_info here] at found'
        cases found'
        exact ⟨list, inside, (mem_iff idx button).mpr ⟨rfl, listed⟩⟩
    | _ => cases modelled

/-! ## Tables with the names of the configuration -/

/-- The tables have the devices, the switch models and the names of the rooms. -/
structure Matches (config : Config) (tables : TopologyTables) : Prop where
  devices : tables.devices = config.deviceInfos
  models : tables.switchModels = config.switchModels
  rooms : tables.rooms.map (·.name) = config.rooms.map (·.name)

namespace Matches

variable {tables : TopologyTables} (same : config.Matches tables)

include same

theorem deviceIdx_eq (name : String) : tables.deviceIdx name = config.deviceByName name := by
  unfold TopologyTables.deviceIdx deviceByName
  rw [same.devices]

theorem roomIdx_eq (name : String) : tables.roomIdx name = config.roomByName name := by
  have mapped : (tables.rooms.map (·.name)).findIdx? (· == name) =
      (config.rooms.map (·.name)).findIdx? (· == name) := by rw [same.rooms]
  rw [List.findIdx?_map, List.findIdx?_map] at mapped
  exact mapped

theorem deviceName_of_found {name : String} {idx : DeviceIdx}
    (found : config.deviceByName name = some idx) : tables.deviceName idx = name := by
  rw [← same.deviceIdx_eq] at found
  exact (TopologyTables.deviceName_of_deviceIdx found).1

theorem roomName_of_found {name : String} {idx : RoomIdx}
    (found : config.roomByName name = some idx) : tables.roomName idx = name := by
  rw [← same.roomIdx_eq] at found
  exact TopologyTables.roomName_of_roomIdx found

theorem info_of_found {name : String} {idx : DeviceIdx} {entry : DeviceCatalogEntry}
    (stored : config.devices[name]? = some entry) (found : config.deviceByName name = some idx) :
    tables.devices[idx]? = some (entry.info name) := by
  obtain ⟨other, there, info⟩ := deviceInfo_of_deviceByName found
  rw [stored] at there
  cases there
  rw [same.devices]
  exact info

theorem isKind_of_hasKind {kind : DeviceKind} {name : String}
    (known : config.hasKind kind name = true) : tables.isKind kind name = true := by
  obtain ⟨entry, stored, rfl⟩ := hasKind_iff.mp known
  obtain ⟨idx, found⟩ := deviceByName_isSome stored
  unfold TopologyTables.isKind
  rw [same.deviceIdx_eq, found, Option.any_some, same.info_of_found stored found, Option.any_some]
  exact beq_self_eq_true entry.kind

end Matches

/-! ## Bindings -/

/-- What a binding is resolved to. -/
structure BindingResolved (config : Config) (binding : Binding) (resolved : ResolvedBinding) :
    Prop where
  name : resolved.name = binding.name
  trigger : config.resolveTrigger binding = .ok resolved.trigger
  effect : config.resolveEffect binding = .ok resolved.effect

theorem addBinding_ok {state after : BindingsSoFar} {binding : Binding}
    (passed : config.addBinding state binding = .ok after) :
    claim state.names binding.name binding.name (fun _ =>
        BuildFailure.refused (.duplicateBindingName binding.name)) = .ok after.names ∧
      ∃ resolved, config.BindingResolved binding resolved ∧
        after = state.push after.names resolved := by
  unfold addBinding at passed
  simp only [bind_ok_iff, pure_ok_iff] at passed
  obtain ⟨names, named, trigger, watched, effect, wanted, rfl⟩ := passed
  exact ⟨named, { name := binding.name, trigger, effect }, ⟨rfl, watched, wanted⟩, rfl⟩

theorem bindingNames_nodup {start state : BindingsSoFar} {bindings : List Binding}
    (passed : bindings.foldlM config.addBinding start = .ok state) :
    (bindings.map (·.name)).Nodup := by
  refine (nodup_map_of_taken (fun state name => state.names[name]? = none) ?_ passed).1
  intro state binding after here
  obtain ⟨named, _⟩ := addBinding_ok here
  exact ⟨(claim_ok_iff.mp named).1, fun other => (unclaimed_iff named other).mp⟩

/-- Every binding is resolved, in order. -/
theorem bindings_resolved {state : BindingsSoFar}
    (passed : config.bindings.foldlM config.addBinding {} = .ok state) :
    List.Forall₂ config.BindingResolved config.bindings state.resolved := by
  have every := foldlM_invariant
    (fun past (state : BindingsSoFar) => List.Forall₂ config.BindingResolved past state.resolved)
    (fun past binding state after holds here => by
      obtain ⟨_, resolved, fits, added⟩ := addBinding_ok here
      rw [added]
      exact List.rel_append holds (.cons fits .nil))
    (.nil : List.Forall₂ config.BindingResolved [] ({} : BindingsSoFar).resolved) passed
  exact every

/-- The indexes have the positions of the bindings. -/
theorem bindings_indexed {state : BindingsSoFar}
    (passed : config.bindings.foldlM config.addBinding {} = .ok state) :
    OrderedMap.Indexes buttonKey state.buttonIndex state.resolved ∧
      OrderedMap.Indexes plugKey state.powerBelowIndex state.resolved := by
  refine @foldlM_invariant _ _ _ config.addBinding
    (fun _ state => OrderedMap.Indexes buttonKey state.buttonIndex state.resolved ∧
      OrderedMap.Indexes plugKey state.powerBelowIndex state.resolved)
    ?_ config.bindings [] {} state
    ⟨OrderedMap.indexes_empty, OrderedMap.indexes_empty⟩ passed
  intro past binding state after holds here
  obtain ⟨_, resolved, _, added⟩ := addBinding_ok here
  rw [added]
  exact ⟨holds.1.push resolved, holds.2.push resolved⟩

/-- Looking up in the indexes is going through all bindings. -/
theorem bindings_lookup {state : BindingsSoFar}
    (passed : config.bindings.foldlM config.addBinding {} = .ok state) {tables : TopologyTables}
    (same : tables.bindings = state.resolved) :
    (∀ device button gesture, state.bindingsForButton device button gesture =
      tables.bindingsForButton device button gesture) ∧
        ∀ plug, state.bindingsForPowerBelow plug = tables.bindingsForPowerBelow plug := by
  obtain ⟨buttons, plugs⟩ := bindings_indexed passed
  constructor
  · intro device button gesture
    unfold BindingsSoFar.bindingsForButton TopologyTables.bindingsForButton
    rw [buttons.filterMap_eq, same]
    apply List.filter_congr
    intro binding _
    unfold buttonKey
    cases binding.trigger with
    | button other name kind =>
        rw [Bool.eq_iff_iff]
        simp [and_assoc]
    | _ => rfl
  · intro plug
    unfold BindingsSoFar.bindingsForPowerBelow TopologyTables.bindingsForPowerBelow
    rw [plugs.filterMap_eq, same]
    apply List.filter_congr
    intro binding _
    unfold plugKey
    cases binding.trigger with
    | powerBelow other watts holdoff => simp
    | _ => rfl

theorem resolveEffect_ok {binding : Binding} {effect : ResolvedEffect}
    (passed : config.resolveEffect binding = .ok effect) :
    config.checkEffectTarget binding = .ok () ∧ checkConfirmOff binding = .ok () ∧
      config.translateEffect binding.effect = .ok effect := by
  unfold resolveEffect at passed
  simp only [bind_ok_iff] at passed
  obtain ⟨_, _, _, target, _, confirmed, translated⟩ := passed
  exact ⟨target, confirmed, translated⟩

/-- An effect on a device has the position of the device. -/
theorem targetPlug_of_translate {effect : Effect} {resolved : ResolvedEffect}
    (translated : config.translateEffect effect = .ok resolved) :
    resolved.targetPlug = effect.target.bind config.deviceByName := by
  cases effect with
  | toggle target confirm | turnOn target | turnOff target =>
      simp only [translateEffect, knownDevice, bind_ok_iff, okOr_ok_iff, pure_ok_iff] at translated
      obtain ⟨idx, found, rfl⟩ := translated
      exact found.symm
  | turnOffAllZones =>
      cases translated
      rfl
  | _ =>
      simp only [translateEffect, knownRoom, bind_ok_iff, okOr_ok_iff, pure_ok_iff] at translated
      obtain ⟨idx, _, rfl⟩ := translated
      rfl

theorem target_kind {binding : Binding} (passed : config.checkEffectTarget binding = .ok ())
    {target : String} (named : binding.effect.target = some target) :
    config.hasKind .plug target = true := by
  unfold checkEffectTarget at passed
  rw [named] at passed
  simp only [bind_ok_iff, okOr_ok_iff, require_ok_iff] at passed
  exact hasKind_iff.mpr passed

/-- An effect switches plugs only. -/
theorem BindingResolved.isPlugIdx {tables : TopologyTables} (same : config.Matches tables)
    {binding : Binding} {resolved : ResolvedBinding}
    (fits : config.BindingResolved binding resolved) {plug : DeviceIdx}
    (targeted : resolved.effect.targetPlug = some plug) : tables.isPlugIdx plug = true := by
  obtain ⟨target, _, translated⟩ := resolveEffect_ok fits.effect
  rw [targetPlug_of_translate translated] at targeted
  obtain ⟨name, named, found⟩ := Option.bind_eq_some_iff.mp targeted
  obtain ⟨entry, stored, kind⟩ := hasKind_iff.mp (target_kind target named)
  unfold TopologyTables.isPlugIdx
  rw [same.info_of_found stored found, Option.any_some]
  exact beq_iff_eq.mpr kind

/-- What checking a kill switch establishes. -/
theorem resolveTrigger_powerBelow {binding : Binding} {plug : DeviceIdx} {watts : ℚ}
    {holdoff : Duration}
    (passed : config.resolveTrigger binding = .ok (.powerBelow plug watts holdoff)) :
    ∃ device entry, config.devices[device]? = some entry ∧ entry.kind = .plug ∧
      entry.hasCapability "power" = true ∧ checkSameTarget binding device = .ok () ∧
        config.deviceByName device = some plug := by
  unfold resolveTrigger triggerEntry at passed
  split at passed
  · simp only [bind_ok_iff, pure_ok_iff] at passed
    obtain ⟨_, _, _, _, _, _, _, _, resolved⟩ := passed
    cases resolved
  · rename_i device power seconds _
    simp only [bind_ok_iff, okOr_ok_iff, require_ok_iff, pure_ok_iff] at passed
    obtain ⟨entry, stored, _, kind, _, metered, _, target, idx, found, resolved⟩ := passed
    cases resolved
    exact ⟨device, entry, stored, kind, metered, target, found⟩
  · simp only [bind_ok_iff, pure_ok_iff] at passed
    obtain ⟨_, _, resolved⟩ := passed
    cases resolved

/-- What checking a button establishes. -/
theorem resolveTrigger_button {binding : Binding} {idx : DeviceIdx} {button : String}
    {gesture : Gesture}
    (passed : config.resolveTrigger binding = .ok (.button idx button gesture)) :
    ∃ device entry, config.devices[device]? = some entry ∧ entry.kind = .switch ∧
      config.checkButton binding device button entry = .ok () ∧
        config.deviceByName device = some idx := by
  unfold resolveTrigger triggerEntry at passed
  split at passed
  · rename_i device _ _ _
    simp only [bind_ok_iff, okOr_ok_iff, require_ok_iff, pure_ok_iff] at passed
    obtain ⟨entry, stored, _, kind, _, known, other, found, resolved⟩ := passed
    cases resolved
    exact ⟨device, entry, stored, kind, known, found⟩
  · simp only [bind_ok_iff, pure_ok_iff] at passed
    obtain ⟨_, _, _, _, _, _, _, _, _, _, resolved⟩ := passed
    cases resolved
  · simp only [bind_ok_iff, pure_ok_iff] at passed
    obtain ⟨_, _, resolved⟩ := passed
    cases resolved

/-- A kill switch watches a metered plug and switches no other. -/
theorem BindingResolved.powerBelow {tables : TopologyTables} (same : config.Matches tables)
    {binding : Binding} {resolved : ResolvedBinding}
    (fits : config.BindingResolved binding resolved) {plug : DeviceIdx} {watts : ℚ}
    {holdoff : Duration} (watched : resolved.trigger = .powerBelow plug watts holdoff) :
    plug < tables.devices.length ∧ tables.isPlugIdx plug = true ∧
      tables.powerMetered plug = true ∧
        ∀ target, resolved.effect.targetPlug = some target → target = plug := by
  have passed := fits.trigger
  rw [watched] at passed
  obtain ⟨device, entry, stored, kind, metered, sameTarget, found⟩ :=
    resolveTrigger_powerBelow passed
  have info := same.info_of_found stored found
  refine ⟨(List.getElem?_eq_some_iff.mp info).1, ?_, ?_, fun target targeted => ?_⟩
  · unfold TopologyTables.isPlugIdx
    rw [info, Option.any_some]
    exact beq_iff_eq.mpr kind
  · unfold TopologyTables.powerMetered
    rw [info, Option.any_some]
    exact metered
  · rw [targetPlug_of_translate (resolveEffect_ok fits.effect).2.2] at targeted
    obtain ⟨name, named, there⟩ := Option.bind_eq_some_iff.mp targeted
    unfold checkSameTarget at sameTarget
    rw [named] at sameTarget
    rw [require_ok_iff.mp sameTarget, found] at there
    exact (Option.some.inj there).symm

/-- A button that triggers a binding is a button of its switch. -/
theorem BindingResolved.button {tables : TopologyTables} (same : config.Matches tables)
    {buttons : List (DeviceIdx × String)} (models : config.hwDoubleTapButtons = .ok buttons)
    {binding : Binding} {resolved : ResolvedBinding}
    (fits : config.BindingResolved binding resolved) {idx : DeviceIdx} {button : String}
    {gesture : Gesture} (watched : resolved.trigger = .button idx button gesture) :
    ∃ model, tables.switchModelOf idx = some model ∧ button ∈ model.buttons := by
  have passed := fits.trigger
  rw [watched] at passed
  obtain ⟨device, entry, stored, kind, known, found⟩ := resolveTrigger_button passed
  cases entry with
  | switch options name =>
      obtain ⟨model, modelled⟩ := switchModel_known models stored
      unfold checkButton at known
      rw [DeviceCatalogEntry.switchModel] at known
      simp only [modelled, require_ok_iff] at known
      refine ⟨model, ?_, known⟩
      unfold TopologyTables.switchModelOf
      rw [same.info_of_found stored found, same.models]
      exact modelled
  | _ => cases kind

/-! ## Rooms -/

/-- What a room is resolved to. -/
structure RoomResolved (config : Config) (room : Room) (resolved : ResolvedRoom) : Prop where
  name : resolved.name = room.name
  groupName : resolved.groupName = room.groupName
  parent : resolved.parent = room.parent
  scenes : resolved.scenes = room.scenes
  members : room.members.mapM (config.resolveMember room) = .ok resolved.lightMembers
  steps : resolveSwitchSteps room.name room.scenes room.switchSteps room.members
    resolved.lightMembers = .ok resolved.switchSteps

theorem resolveRoom_ok {room : Room} {resolved : ResolvedRoom}
    (passed : config.resolveRoom room = .ok resolved) : config.RoomResolved room resolved := by
  unfold resolveRoom at passed
  simp only [bind_ok_iff, pure_ok_iff, mapError_ok_iff] at passed
  obtain ⟨lights, members, steps, stepped, rfl⟩ := passed
  exact ⟨rfl, rfl, rfl, rfl, members, stepped⟩

theorem resolveMember_ok {room : Room} {member : String} {light : LightEndpoint}
    (passed : config.resolveMember room member = .ok light) :
    ∃ name, config.deviceByName name = some light.device ∧
      parseMemberKey member = some (name, light.endpoint) ∧ 1 ≤ light.endpoint ∧
        light.endpoint ≤ 240 := by
  unfold resolveMember knownDevice at passed
  simp only [bind_ok_iff, okOr_ok_iff, require_ok_iff, pure_ok_iff] at passed
  obtain ⟨key, parsed, _, ⟨least, most⟩, device, found, rfl⟩ := passed
  exact ⟨key.1, found, parsed, least, most⟩

/-- The members of a resolved room are devices of the catalog. -/
theorem RoomResolved.device_lt {room : Room} {resolved : ResolvedRoom}
    (fits : config.RoomResolved room resolved) {light : LightEndpoint}
    (member : light ∈ resolved.lightMembers) : light.device < config.deviceInfos.length := by
  obtain ⟨key, _, here⟩ := mem_of_mapM_ok fits.members member
  obtain ⟨name, found, _⟩ := resolveMember_ok here
  obtain ⟨_, _, info⟩ := deviceInfo_of_deviceByName found
  exact (List.getElem?_eq_some_iff.mp info).1

section Rooms

variable {rooms : List ResolvedRoom} (passed : config.rooms.mapM config.resolveRoom = .ok rooms)

include passed

theorem rooms_resolved : List.Forall₂ config.RoomResolved config.rooms rooms :=
  (mapM_ok_iff.mp passed).imp fun _ _ => resolveRoom_ok

theorem room_resolved {resolved : ResolvedRoom} (member : resolved ∈ rooms) :
    ∃ room ∈ config.rooms, config.RoomResolved room resolved := by
  obtain ⟨room, listed, here⟩ := mem_of_mapM_ok passed member
  exact ⟨room, listed, resolveRoom_ok here⟩

theorem roomNames : rooms.map (·.name) = config.rooms.map (·.name) :=
  map_eq_of_forall₂ (fun _ _ fits => fits.name) (rooms_resolved passed)

theorem groupNames : rooms.map (·.groupName) = config.rooms.map (·.groupName) :=
  map_eq_of_forall₂ (fun _ _ fits => fits.groupName) (rooms_resolved passed)

theorem links : rooms.map (fun room => (⟨room.name, room.parent⟩ : RoomLink)) = config.roomLinks :=
  map_eq_of_forall₂ (fun _ _ fits => by rw [fits.name, fits.parent]) (rooms_resolved passed)

/-- The tables match the configuration. -/
theorem matches_tablesOf (bindings : List ResolvedBinding) (buttons : List (DeviceIdx × String))
    (heating : Option HeatingConfig) :
    config.Matches (config.tablesOf rooms bindings buttons heating) :=
  ⟨rfl, rfl, roomNames passed⟩

end Rooms

/-! ## Heating -/

theorem resolveHeating_ok {heatingConfig : Option HeatingConfig}
    (passed : config.resolveHeating = .ok heatingConfig) {heating : HeatingConfig}
    (present : heatingConfig = some heating) :
    ∃ section', config.HeatingFits section' ∧ heating = section'.toHeatingConfig := by
  unfold resolveHeating at passed
  split at passed
  · cases passed
    cases present
  · simp only [map_ok_iff, mapError_ok_iff] at passed
    obtain ⟨checked, accepted, same⟩ := passed
    rw [present] at same
    cases same
    obtain ⟨fits, same⟩ := checkHeating_ok_iff.mp accepted
    exact ⟨_, fits, same⟩

/-- Relays and valves are devices of the catalog. -/
theorem HeatingFits.devices {heating : Heating} (fits : config.HeatingFits heating)
    {zone : HeatingZone} (member : zone ∈ heating.zones) :
    (∃ idx, config.deviceByName zone.relay = some idx) ∧
      ∀ trv ∈ zone.trvs, ∃ idx, config.deviceByName trv.device = some idx := by
  constructor
  · obtain ⟨_, relay⟩ := fits.relays zone member
    exact deviceByName_isSome relay.stored
  · intro trv listed
    obtain ⟨_, _, valve⟩ := fits.trvs zone member trv listed
    exact deviceByName_isSome valve.stored

end Config

end MqttController
