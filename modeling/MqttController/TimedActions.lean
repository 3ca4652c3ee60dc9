import MqttController.ButtonSteps
import MqttController.KillSwitches
import MqttController.Lib.Text
import MqttController.Triggers

/-!
# Timed actions

The bindings in force are the deployed ones that no plug override replaces and those that the plug
overrides define.  A timed one executes once for each stretch of ticks in its minute.
-/

namespace MqttController

open Std Emission

/-! ## Names of the bindings in force -/

/-- The name of a binding that a plug override defines. -/
def planName (device suffix : String) : String := "plug-schedule:" ++ device ++ ":" ++ suffix

/-- The name is one that plug overrides give. -/
def Reserved (name : String) : Prop := "plug-schedule:".toList <+: name.toList

theorem reserved_planName (device suffix : String) : Reserved (planName device suffix) := by
  unfold Reserved planName
  simp only [String.toList_append, List.append_assoc]
  exact List.prefix_append _ _

theorem planName_inj {device device' suffix suffix' : String} (absent : ':' ∉ suffix.toList)
    (absent' : ':' ∉ suffix'.toList) (same : planName device suffix = planName device' suffix') :
    device = device' ∧ suffix = suffix' := by
  have letters := congrArg String.toList same
  unfold planName at letters
  simp only [String.toList_append, List.append_assoc] at letters
  have parts := List.append_cancel_left letters
  obtain ⟨front, back⟩ := Text.append_cons_inj_of_last absent absent' parts
  exact ⟨String.toList_inj.mp front, String.toList_inj.mp back⟩

/-- What the names of a plug override's bindings end in. -/
def planSuffixes (actions : Nat) (killSwitch : Bool) : List String :=
  (List.range actions).map (fun index => toString (index + 1)) ++
    if killSwitch then ["kill-switch"] else []

theorem absent_planSuffixes {actions : Nat} {killSwitch : Bool} {suffix : String}
    (listed : suffix ∈ planSuffixes actions killSwitch) : ':' ∉ suffix.toList := by
  unfold planSuffixes at listed
  rcases List.mem_append.mp listed with counted | last
  · obtain ⟨index, _, rfl⟩ := List.mem_map.mp counted
    rw [Nat.toString_eq_ofList_toDigits, String.toList_ofList]
    intro separator
    have digit := Nat.isDigit_of_mem_toDigits (by decide) (by decide) separator
    revert digit
    decide
  · split at last
    · rw [List.mem_singleton.mp last]
      decide
    · cases last

theorem nodup_planSuffixes (actions : Nat) (killSwitch : Bool) :
    (planSuffixes actions killSwitch).Nodup := by
  unfold planSuffixes
  have counted : ((List.range actions).map fun index => toString (index + 1)).Nodup := by
    refine List.nodup_range.map ?_
    intro first second same
    have numbers := Text.toString_inj same
    omega
  rw [List.nodup_append]
  refine ⟨counted, ?_, ?_⟩
  · split
    · exact List.nodup_singleton _
    · exact List.nodup_nil
  · intro suffix listed other last same
    split at last
    · rw [List.mem_singleton.mp last] at same
      obtain ⟨index, _, rfl⟩ := List.mem_map.mp listed
      rw [Nat.toString_eq_ofList_toDigits] at same
      have letters := congrArg String.toList same
      rw [String.toList_ofList] at letters
      have first : 'k' ∈ Nat.toDigits 10 (index + 1) := by
        rw [letters]
        decide
      have digit := Nat.isDigit_of_mem_toDigits (by decide) (by decide) first
      revert digit
      decide
    · cases last

theorem names_of_timedPlugBindings {location : Option Location} {device : String}
    {plug : DeviceIdx} {actions : List PlugTimedAction} {start : Nat}
    {bindings : List ResolvedBinding}
    (passed : ((actions.zipIdx start).mapM fun entry =>
        match validateTimedActionTime location entry.1.time with
        | .error error => Except.error error
        | .ok () => .ok (timedPlugBinding device plug entry.2 entry.1)) = .ok bindings) :
    bindings.map (·.name) = (List.range' start actions.length).map fun index =>
      planName device (toString (index + 1)) := by
  induction actions generalizing start bindings with
  | nil =>
      cases passed
      rfl
  | cons action rest ih =>
      rw [List.zipIdx_cons] at passed
      obtain ⟨binding, more, here, later, rfl⟩ := Checked.mapM_cons_ok passed
      have named : binding.name = planName device (toString (start + 1)) := by
        split at here
        · cases here
        · cases here
          rfl
      rw [List.map_cons, ih later, named, List.length_cons, List.range'_succ, List.map_cons]

/-- The bindings of an accepted plug override have names of their own. -/
theorem names_of_validatePlugOverride {tables : TopologyTables} {location : Option Location}
    {device : String} {value : PlugScheduleOverride} {bindings : List ResolvedBinding}
    (accepted : validatePlugOverride tables location device value = .ok bindings) :
    ∃ actions killSwitch,
      bindings.map (·.name) = (planSuffixes actions killSwitch).map (planName device) := by
  unfold validatePlugOverride at accepted
  split at accepted
  · cases accepted
  · split at accepted
    · cases accepted
    · rename_i timed passed
      have names := names_of_timedPlugBindings passed
      rw [← List.range_eq_range'] at names
      split at accepted
      · cases accepted
        refine ⟨value.timedActions.length, false, ?_⟩
        rw [names]
        simp [planSuffixes]
      · split at accepted
        · cases accepted
        · split_ifs at accepted
          cases accepted
          refine ⟨value.timedActions.length, true, ?_⟩
          rw [List.map_append, names]
          have last :
              "plug-schedule:" ++ device ++ ":kill-switch" = planName device "kill-switch" :=
            String.toList_inj.mp (by simp [planName])
          simp [planSuffixes, last]

namespace ResolvedBinding

/-- The binding watches the power of a plug. -/
def isPowerBelow (binding : ResolvedBinding) : Bool :=
  match binding.trigger with
  | .powerBelow _ _ _ => true
  | _ => false

/-- The binding watches the power of a certain plug. -/
def watches (binding : ResolvedBinding) (plug : DeviceIdx) : Bool :=
  match binding.trigger with
  | .powerBelow watched _ _ => watched == plug
  | _ => false

end ResolvedBinding

namespace Automation

variable {automation : Automation}

theorem names_of_resolvedPlugBindings {device : String} {bindings : List ResolvedBinding}
    (stored : automation.resolvedPlugBindings[device]? = some bindings) :
    ∃ actions killSwitch,
      bindings.map (·.name) = (planSuffixes actions killSwitch).map (planName device) := by
  obtain ⟨value, overridden⟩ := automation.fit.bindings device bindings stored
  obtain ⟨same, resolved, accepted⟩ := automation.fit.plugs device value overridden
  rw [stored] at resolved
  cases resolved
  exact names_of_validatePlugOverride accepted

/-- No deployed binding has a name that plug overrides give. -/
def Unreserved (automation : Automation) : Prop :=
  ∀ binding ∈ automation.topology.bindings, ¬ Reserved binding.name

/-- The names of the bindings that plug overrides define are reserved and all different. -/
theorem overriding_names (automation : Automation) :
    ((automation.resolvedPlugBindings.toList.flatMap Prod.snd).map (·.name)).Nodup ∧
      ∀ binding ∈ automation.resolvedPlugBindings.toList.flatMap Prod.snd,
        Reserved binding.name := by
  have names : ∀ entry ∈ automation.resolvedPlugBindings.toList, ∃ actions killSwitch,
      entry.2.map (·.name) = (planSuffixes actions killSwitch).map (planName entry.1) := by
    intro entry member
    exact names_of_resolvedPlugBindings (TreeMap.mem_toList_iff_getElem?_eq_some.mp member)
  constructor
  · rw [List.map_flatMap, List.nodup_flatMap]
    constructor
    · intro entry member
      obtain ⟨actions, killSwitch, same⟩ := names entry member
      rw [same]
      refine (nodup_planSuffixes actions killSwitch).map_on ?_
      intro first listed second listed' equal
      exact (planName_inj (absent_planSuffixes listed) (absent_planSuffixes listed') equal).2
    · have keys := List.pairwise_map.mp (OrderedMap.nodup_keys automation.resolvedPlugBindings)
      refine keys.imp_of_mem ?_
      intro first second stored stored' different name listed listed'
      obtain ⟨actions, killSwitch, same⟩ := names first stored
      obtain ⟨actions', killSwitch', same'⟩ := names second stored'
      dsimp only at listed listed'
      rw [same] at listed
      rw [same'] at listed'
      obtain ⟨suffix, known, rfl⟩ := List.mem_map.mp listed
      obtain ⟨suffix', known', equal⟩ := List.mem_map.mp listed'
      exact different (planName_inj (absent_planSuffixes known') (absent_planSuffixes known)
        equal).1.symm
  · intro binding member
    obtain ⟨entry, stored, inside⟩ := List.mem_flatMap.mp member
    obtain ⟨actions, killSwitch, same⟩ := names entry stored
    have named : binding.name ∈ entry.2.map (·.name) := List.mem_map.mpr ⟨binding, inside, rfl⟩
    rw [same] at named
    obtain ⟨suffix, _, equal⟩ := List.mem_map.mp named
    rw [← equal]
    exact reserved_planName entry.1 suffix

/-- The bindings in force have different names. -/
theorem effectiveBindings_names (unreserved : automation.Unreserved) :
    (automation.effectiveBindings.map (·.name)).Nodup := by
  obtain ⟨own, reserved⟩ := overriding_names automation
  unfold effectiveBindings
  rw [List.map_append, List.nodup_append]
  refine ⟨automation.topology.valid.binding_names_nodup.sublist (List.filter_sublist.map _),
    own, ?_⟩
  intro name deployed other overriding same
  obtain ⟨binding, kept, rfl⟩ := List.mem_map.mp deployed
  obtain ⟨binding', member, rfl⟩ := List.mem_map.mp overriding
  refine unreserved binding (List.mem_filter.mp kept).1 ?_
  rw [same]
  exact reserved binding' member

/-- A deployed binding in force has its name alone among all bindings. -/
theorem eq_of_effective_name (unreserved : automation.Unreserved)
    {binding deployed : ResolvedBinding} (effective : binding ∈ automation.effectiveBindings)
    (listed : deployed ∈ automation.topology.bindings) (same : binding.name = deployed.name) :
    binding = deployed := by
  unfold effectiveBindings at effective
  rcases List.mem_append.mp effective with kept | overriding
  · exact List.inj_on_of_nodup_map automation.topology.valid.binding_names_nodup
      (List.mem_filter.mp kept).1 listed same
  · have reserved := (overriding_names automation).2 binding overriding
    rw [same] at reserved
    exact absurd reserved (unreserved deployed listed)

/-- A binding that a plug override replaces has no namesake in force. -/
theorem superseded_name (unreserved : automation.Unreserved) {deployed : ResolvedBinding}
    (listed : deployed ∈ automation.topology.bindings)
    (superseded : automation.bindingSuperseded deployed = true) :
    ∀ binding ∈ automation.effectiveBindings, binding.name ≠ deployed.name := by
  intro binding effective same
  obtain rfl := eq_of_effective_name unreserved effective listed same
  unfold effectiveBindings at effective
  rcases List.mem_append.mp effective with kept | overriding
  · have kept := (List.mem_filter.mp kept).2
    rw [superseded] at kept
    cases kept
  · exact unreserved binding listed ((overriding_names automation).2 binding overriding)

/-! ## Two ways to the kill switches of a plug -/

/-- A plug override only defines kill switches of its own plug. -/
theorem resolvedPlugBindings_watch {device : String} {bindings : List ResolvedBinding}
    (stored : automation.resolvedPlugBindings[device]? = some bindings) :
    ∃ plug, automation.topology.deviceIdx device = some plug ∧
      ∀ binding ∈ bindings, binding.isPowerBelow = binding.watches plug ∧
        ∀ other, binding.watches other = true → other = plug := by
  obtain ⟨value, overridden⟩ := automation.fit.bindings device bindings stored
  obtain ⟨same, resolved, accepted⟩ := automation.fit.plugs device value overridden
  rw [stored] at resolved
  cases resolved
  obtain ⟨plug, timed, known, _, times, shape⟩ := validatePlugOverride_ok accepted
  refine ⟨plug, known, fun binding member => ?_⟩
  have aside : ∀ binding ∈ timed, binding.isPowerBelow = binding.watches plug ∧
      ∀ other, binding.watches other = true → other = plug := by
    intro binding member
    obtain ⟨⟨time, triggered⟩, _⟩ := times binding member
    unfold ResolvedBinding.isPowerBelow ResolvedBinding.watches
    rw [triggered]
    exact ⟨rfl, fun other watched => by cases watched⟩
  rcases shape with rfl | ⟨name, watts, holdoff, rfl⟩
  · exact aside binding member
  · rcases List.mem_append.mp member with member | last
    · exact aside binding member
    · rw [List.mem_singleton.mp last]
      exact ⟨(beq_self_eq_true plug).symm, fun other watched => (eq_of_beq watched).symm⟩

theorem overridden_iff (device : String) :
    automation.plugScheduleOverridden device = true ↔
      (automation.resolvedPlugBindings[device]?).isSome := by
  unfold plugScheduleOverridden
  rw [TreeMap.contains_eq_isSome_getElem?]
  constructor
  · intro present
    obtain ⟨value, overridden⟩ := Option.isSome_iff_exists.mp present
    obtain ⟨bindings, stored, _⟩ := automation.fit.plugs device value overridden
    rw [stored]
    rfl
  · intro present
    obtain ⟨bindings, stored⟩ := Option.isSome_iff_exists.mp present
    obtain ⟨value, overridden⟩ := automation.fit.bindings device bindings stored
    rw [overridden]
    rfl

/-- A kill switch is replaced when its plug has an override. -/
theorem superseded_of_watches {binding : ResolvedBinding} {plug : DeviceIdx}
    (watched : binding.watches plug = true) :
    automation.bindingSuperseded binding =
      automation.plugScheduleOverridden (automation.topology.deviceName plug) := by
  unfold ResolvedBinding.watches at watched
  split at watched
  · rename_i other watts holdoff triggered
    obtain rfl := eq_of_beq watched
    unfold bindingSuperseded
    rw [triggered]
    rfl
  · cases watched

theorem flatMap_eq_of_unique {α β : Type} {pick : α → List β} {front back : List α} {item : α}
    (others : ∀ other ∈ front ++ back, pick other = []) :
    (front ++ item :: back).flatMap pick = pick item := by
  have before : front.flatMap pick = [] :=
    List.flatMap_eq_nil_iff.mpr fun other member => others other (List.mem_append_left _ member)
  have after : back.flatMap pick = [] :=
    List.flatMap_eq_nil_iff.mpr fun other member => others other (List.mem_append_right _ member)
  rw [List.flatMap_append, List.flatMap_cons, before, after, List.nil_append, List.append_nil]

/-- The kill switches looked up for a plug are the kill switches in force that watch it. -/
theorem powerBelowBindings_eq {plug : DeviceIdx}
    (known : plug < automation.topology.devices.length) :
    automation.powerBelowBindings plug =
      automation.effectiveBindings.filter fun binding => binding.watches plug := by
  have position := TopologyTables.deviceIdx_of_deviceName automation.topology.valid known
  have elsewhere : ∀ entry ∈ automation.resolvedPlugBindings.toList,
      entry.1 ≠ automation.topology.deviceName plug →
        entry.2.filter (fun binding => binding.watches plug) = [] := by
    intro entry member different
    have stored := TreeMap.mem_toList_iff_getElem?_eq_some.mp member
    obtain ⟨other, found, watch⟩ := resolvedPlugBindings_watch stored
    rw [List.filter_eq_nil_iff]
    intro binding inside watched
    obtain rfl := (watch binding inside).2 plug watched
    exact different (TopologyTables.deviceName_of_deviceIdx found).1.symm
  unfold powerBelowBindings effectiveBindings
  rw [List.filter_append, List.filter_flatMap]
  cases stored : automation.resolvedPlugBindings[automation.topology.deviceName plug]? with
  | some bindings =>
      have deployed : (automation.topology.bindings.filter fun binding =>
          !automation.bindingSuperseded binding).filter
            (fun binding => binding.watches plug) = [] := by
        rw [List.filter_eq_nil_iff]
        intro binding kept watched
        have free := (List.mem_filter.mp kept).2
        rw [superseded_of_watches watched, (overridden_iff _).mpr (by rw [stored]; rfl)] at free
        cases free
      have member := TreeMap.mem_toList_iff_getElem?_eq_some.mpr stored
      obtain ⟨front, back, split⟩ := List.append_of_mem member
      have keys := OrderedMap.nodup_keys automation.resolvedPlugBindings
      rw [split, List.map_append, List.map_cons, List.nodup_middle, List.nodup_cons,
        ← List.map_append] at keys
      rw [deployed, List.nil_append, split, flatMap_eq_of_unique]
      · obtain ⟨other, found, watch⟩ := resolvedPlugBindings_watch stored
        rw [position] at found
        cases found
        exact List.filter_congr fun binding inside => (watch binding inside).1
      · intro entry inside
        refine elsewhere entry ?_ ?_
        · rw [split]
          rcases List.mem_append.mp inside with inside | inside
          · exact List.mem_append_left _ inside
          · exact List.mem_append_right _ (List.mem_cons_of_mem _ inside)
        · intro same
          exact keys.1 (List.mem_map.mpr ⟨entry, inside, same⟩)
  | none =>
      have overriding : (automation.resolvedPlugBindings.toList.flatMap fun entry =>
          entry.2.filter fun binding => binding.watches plug) = [] := by
        rw [List.flatMap_eq_nil_iff]
        intro entry member
        refine elsewhere entry member fun same => ?_
        have present := TreeMap.mem_toList_iff_getElem?_eq_some.mp member
        rw [same, stored] at present
        cases present
      rw [overriding, List.append_nil, List.filter_filter]
      refine List.filter_congr fun binding _ => ?_
      change binding.watches plug = (binding.watches plug && !automation.bindingSuperseded binding)
      cases watched : binding.watches plug with
      | false => rfl
      | true =>
          have free : automation.plugScheduleOverridden (automation.topology.deviceName plug) =
              false := by
            rw [← Bool.not_eq_true, overridden_iff, stored]
            simp
          rw [superseded_of_watches watched, free]
          rfl

end Automation

/-! ## One tick -/

namespace Operation

/-- The operation notes, forgets or executes the binding with a name. -/
def concerns (name : String) : Operation → Bool
  | noteTimedAction binding _ => binding == name
  | clearTimedAction binding => binding == name
  | execute binding _ _ => binding == name
  | _ => false

end Operation

/-- What was executed for the binding with a name. -/
def executed (name : String) (records : List Record) : List ResolvedEffect :=
  records.filterMap fun record =>
    match record.operation with
    | .execute binding effect _ => if binding = name then some effect else none
    | _ => none

theorem executed_append (name : String) (first second : List Record) :
    executed name (first ++ second) = executed name first ++ executed name second :=
  List.filterMap_append

/-- Nothing of the records concerns a binding, and its last time is a certain one. -/
def Untouched (name : String) (last : Option (Nat × Nat)) (past : List Record) (runtime : Runtime) :
    Prop :=
  (∀ record ∈ past, record.operation.concerns name = false) ∧
    runtime.world.atLastFired[name]? = last

theorem Untouched.executed {name : String} {last : Option (Nat × Nat)} {past : List Record}
    {runtime : Runtime} (untouched : Untouched name last past runtime) :
    executed name past = [] := by
  unfold MqttController.executed
  rw [List.filterMap_eq_nil_iff]
  intro record member
  have aside := untouched.1 record member
  split
  · rename_i binding effect ts operation
    rw [operation] at aside
    rw [if_neg]
    intro same
    rw [same] at aside
    simp [Operation.concerns] at aside
  · rfl

namespace Env

variable {env : Env} {name : String} {last : Option (Nat × Nat)}

theorem perform_untouched {operation : Operation} (admissible : operation.Admissible env.topology)
    (aside : operation.concerns name = false) :
    Keeps (Untouched name last) (env.perform operation) := by
  intro past runtime ⟨before, same⟩
  refine ⟨?_, ?_⟩
  · intro record member
    rcases List.mem_append.mp member with earlier | here
    · exact before record earlier
    · rw [List.mem_singleton.mp here]
      exact aside
  · rw [← same]
    change (operation.run env runtime).1.world.atLastFired[name]? = _
    cases timed : operation.timesActions with
    | false => rw [Operation.run_atLastFired admissible timed]
    | true =>
        have apart : ∀ binding : String, (binding == name) = false →
            ¬ compare binding name = .eq := fun binding different equal => by
          rw [LawfulEqCmp.eq_of_compare equal, beq_self_eq_true] at different
          cases different
        cases operation with
        | noteTimedAction binding time =>
            exact TreeMap.getElem?_insert.trans (if_neg (apart binding aside))
        | clearTimedAction binding =>
            exact TreeMap.getElem?_erase.trans (if_neg (apart binding aside))
        | _ => cases timed

/-- The operation is about other things than a binding. -/
def Aside (topology : Topology) (name : String) (operation : Operation) : Prop :=
  operation.Admissible topology ∧ operation.concerns name = false

theorem aside_keeps (operation : Operation) (aside : Aside env.topology name operation) :
    Keeps (Untouched name last) (env.perform operation) :=
  perform_untouched aside.1 aside.2

/-- No button is bound under a name. -/
def Unbound (tables : TopologyTables) (name : String) : Prop :=
  ∀ binding ∈ tables.bindings, ∀ device button gesture,
    binding.trigger = .button device button gesture → binding.name ≠ name

theorem aside_of_changesPresses (operation : Operation)
    (changes : operation.changesPresses = true) : Aside env.topology name operation := by
  cases operation with
  | deferPress key press => exact ⟨trivial, rfl⟩
  | dropPress key => exact ⟨trivial, rfl⟩
  | noteDoubleTap key ts => exact ⟨trivial, rfl⟩
  | _ => cases changes

theorem aside_of_bindingOperations (unbound : Unbound env.topology.toTopologyTables name)
    (device : DeviceIdx) (button : String) (gesture : Gesture) (ts : Instant)
    (operation : Operation) (listed : operation ∈ env.bindingOperations device button gesture ts) :
    Aside env.topology name operation := by
  obtain ⟨binding, member, rfl⟩ := List.mem_map.mp listed
  obtain ⟨deployed, triggered⟩ := TopologyTables.mem_bindingsForButton.mp member
  refine ⟨Or.inl ⟨binding, deployed, rfl⟩, ?_⟩
  have different := unbound binding deployed device button gesture triggered
  simpa [Operation.concerns] using different

theorem sensing_untouched (operation : Operation) (admissible : operation.Admissible env.topology)
    (follows : operation.followsSensors = true) :
    Keeps (Untouched name last) (env.perform operation) := by
  refine perform_untouched admissible ?_
  cases operation <;> first | rfl | cases follows

/-- An event that is no tick does nothing about a binding that is not a button's. -/
theorem handleEvent_untouched (unbound : Unbound env.topology.toTopologyTables name) {event : Event}
    (other : ∀ ts, event ≠ .tick ts) : Keeps (Untouched name last) (env.handleEvent event) := by
  cases event with
  | buttonPress device button gesture ts =>
      exact handleButtonPress_keeps aside_keeps aside_of_changesPresses
        (aside_of_bindingOperations unbound) _ _ _ _
  | occupancy sensor occupied illuminance received ts =>
      exact handleOccupancy_keeps sensing_untouched _ _ _ _ _
  | groupState group on ts => exact aside_keeps _ ⟨trivial, rfl⟩
  | lightState device on brightness colorTemp colorXy ts => exact aside_keeps _ ⟨trivial, rfl⟩
  | plugState device on power ts => exact aside_keeps _ ⟨trivial, rfl⟩
  | plugPowerUpdate device watts ts => exact aside_keeps _ ⟨trivial, rfl⟩
  | powerMeterState device power energy ts => exact aside_keeps _ ⟨trivial, rfl⟩
  | trvState device temperature demand running setpoint operating system battery ts =>
      exact handleHeatingReport_keeps aside_keeps fun config heating => ⟨heating, rfl⟩
  | wallThermostatState device relayOn temperature operating ts =>
      exact handleHeatingReport_keeps aside_keeps fun config heating => ⟨heating, rfl⟩
  | tick ts => exact absurd rfl (other ts)

theorem evaluateAtTrigger_untouched {binding : ResolvedBinding}
    (effective : binding ∈ env.effectiveBindings) (different : binding.name ≠ name) (ts : Instant) :
    Keeps (Untouched name last) (env.evaluateAtTrigger ts binding) := by
  have aside : (binding.name == name) = false := by simpa using different
  unfold evaluateAtTrigger
  intro past runtime holds
  split
  · exact Keeps.skip past runtime holds
  · dsimp only
    split_ifs
    · exact Keeps.skip past runtime holds
    · refine performAll_keeps aside_keeps (fun operation member => ?_) past runtime holds
      rcases List.mem_pair.mp member with rfl | rfl
      · exact ⟨trivial, aside⟩
      · exact ⟨Automation.effectiveBindings_provided effective, aside⟩
    · exact aside_keeps (.clearTimedAction binding.name) ⟨trivial, aside⟩ past runtime holds

/-- What follows the timed actions on a tick. -/
def tickRest (env : Env) (ts : Instant) : Step Runtime Record :=
  andThen (env.performAll [.fireKillSwitches ts, .ageTargets ts])
    (andThen (env.evaluateActualStaleness ts) env.handleHeatingTick)

theorem tickRest_untouched (ts : Instant) : Keeps (Untouched name last) (env.tickRest ts) := by
  refine Keeps.andThen (performAll_keeps aside_keeps fun operation member => ?_) ?_
  · rcases List.mem_pair.mp member with rfl | rfl
    · exact ⟨trivial, rfl⟩
    · exact ⟨trivial, rfl⟩
  · exact (evaluateActualStaleness_keeps sensing_untouched ts).andThen
      (handleHeatingTick_keeps aside_keeps fun config heating =>
        ⟨⟨heating, rfl⟩, ⟨heating, rfl⟩, ⟨heating, rfl⟩⟩)

/-- A tick does nothing about a name that no binding in force and no button has. -/
theorem handleTick_untouched (unbound : Unbound env.topology.toTopologyTables name)
    (absent : ∀ binding ∈ env.effectiveBindings, binding.name ≠ name) (ts : Instant) :
    Keeps (Untouched name last) (env.handleTick ts) := by
  refine (flushPendingPresses_keeps aside_keeps aside_of_changesPresses
    (aside_of_bindingOperations unbound) ts).andThen ?_
  refine Keeps.andThen ?_ (tickRest_untouched ts)
  exact Keeps.forEach _ fun binding member =>
    evaluateAtTrigger_untouched member (absent binding member) ts

/-- The minute of a timed binding, while the clock shows it. -/
def minuteShown (env : Env) (time : TimeExpr) : Option (Nat × Nat) :=
  if (env.clock.localHour, env.clock.localMinute) = time.due env.sunTimes then
    some (time.due env.sunTimes)
  else none

/-- What a tick executes for a timed binding, by the minute it shows and the one last executed. -/
def dueEffects (effect : ResolvedEffect) (shown last : Option (Nat × Nat)) : List ResolvedEffect :=
  if shown.isSome ∧ shown ≠ last then [effect] else []

variable {binding : ResolvedBinding} {time : TimeExpr}

/-- While the clock shows its minute, a timed binding executes unless it already did. -/
theorem evaluateAtTrigger_shown (timed : env.timedActionTime binding = some time)
    (shows : (env.clock.localHour, env.clock.localMinute) = time.due env.sunTimes) (ts : Instant)
    (runtime : Runtime) :
    env.evaluateAtTrigger ts binding runtime =
      if runtime.world.atLastFired[binding.name]? = some (time.due env.sunTimes) then (runtime, [])
      else
        env.performAll [.noteTimedAction binding.name (time.due env.sunTimes),
          .execute binding.name binding.effect ts] runtime := by
  obtain ⟨hour, minute⟩ := Prod.mk.inj shows
  unfold evaluateAtTrigger
  rw [timed]
  exact if_pos ⟨hour, minute⟩

/-- A timed binding executes in its minute unless it did on the tick before, and remembers the
minute as long as it lasts. -/
theorem evaluateAtTrigger_timed (effective : binding ∈ env.effectiveBindings)
    (timed : env.timedActionTime binding = some time) (ts : Instant) {runtime : Runtime}
    (remembered : runtime.world.atLastFired[binding.name]? = last) :
    executed binding.name (env.evaluateAtTrigger ts binding runtime).2 =
        dueEffects binding.effect (env.minuteShown time) last ∧
      (env.evaluateAtTrigger ts binding runtime).1.world.atLastFired[binding.name]? =
        env.minuteShown time := by
  by_cases shows : (env.clock.localHour, env.clock.localMinute) = time.due env.sunTimes
  · have shown : env.minuteShown time = some (time.due env.sunTimes) := if_pos shows
    rw [evaluateAtTrigger_shown timed shows, shown, remembered]
    by_cases again : last = some (time.due env.sunTimes)
    · rw [if_pos again]
      refine ⟨?_, remembered.trans again⟩
      simp [dueEffects, again, executed]
    · rw [if_neg again]
      constructor
      · have fresh : some (time.due env.sunTimes) ≠ last := fun same => again same.symm
        simp [dueEffects, fresh, executed, performAll, perform, andThen]
      · let noted := (env.perform (.noteTimedAction binding.name (time.due env.sunTimes)) runtime).1
        have admissible : (Operation.execute binding.name binding.effect ts).Admissible
            env.topology := Automation.effectiveBindings_provided effective
        have kept : ((Operation.execute binding.name binding.effect ts).run env
            noted).1.world.atLastFired = noted.world.atLastFired :=
          Operation.run_atLastFired admissible rfl noted
        change ((Operation.execute binding.name binding.effect ts).run env
            noted).1.world.atLastFired[binding.name]? = _
        rw [kept]
        exact TreeMap.getElem?_insert_self
  · have shown : env.minuteShown time = none := if_neg shows
    rw [evaluateAtTrigger_idle timed shows, shown]
    refine ⟨?_, TreeMap.getElem?_erase_self⟩
    simp [dueEffects, executed, perform]

/-- On a tick, a binding in force executes in its minute unless it did on the tick before. -/
theorem handleTick_timed (names : (env.effectiveBindings.map (·.name)).Nodup)
    (unbound : Unbound env.topology.toTopologyTables binding.name)
    (effective : binding ∈ env.effectiveBindings)
    (timed : env.timedActionTime binding = some time) (ts : Instant) {runtime : Runtime}
    (remembered : runtime.world.atLastFired[binding.name]? = last) :
    executed binding.name (env.handleTick ts runtime).2 =
        dueEffects binding.effect (env.minuteShown time) last ∧
      (env.handleTick ts runtime).1.world.atLastFired[binding.name]? = env.minuteShown time := by
  obtain ⟨front, back, split⟩ := List.append_of_mem effective
  rw [split, List.map_append, List.map_cons, List.nodup_middle, List.nodup_cons,
    ← List.map_append] at names
  have others : ∀ other ∈ front ++ back, other.name ≠ binding.name := by
    intro other member same
    exact names.1 (List.mem_map.mpr ⟨other, member, same⟩)
  have listed : ∀ other ∈ front ++ back, other ∈ env.effectiveBindings := by
    intro other member
    rw [split, List.mem_append, List.mem_cons]
    exact (List.mem_append.mp member).imp_right .inr
  -- The stages before and after the binding's own one do nothing about it.
  have before : Keeps (Untouched binding.name last)
      (andThen (env.flushPendingPresses ts) (forEach (env.evaluateAtTrigger ts) front)) :=
    (flushPendingPresses_keeps aside_keeps aside_of_changesPresses
      (aside_of_bindingOperations unbound) ts).andThen
      (Keeps.forEach _ fun other member =>
        evaluateAtTrigger_untouched (listed other (List.mem_append_left _ member))
          (others other (List.mem_append_left _ member)) ts)
  have after : Keeps (Untouched binding.name (env.minuteShown time))
      (andThen (forEach (env.evaluateAtTrigger ts) back) (env.tickRest ts)) :=
    (Keeps.forEach _ fun other member =>
      evaluateAtTrigger_untouched (listed other (List.mem_append_right _ member))
        (others other (List.mem_append_right _ member)) ts).andThen
      (tickRest_untouched ts)
  have stages : env.handleTick ts runtime =
      andThen (andThen (env.flushPendingPresses ts) (forEach (env.evaluateAtTrigger ts) front))
        (andThen (env.evaluateAtTrigger ts binding)
          (andThen (forEach (env.evaluateAtTrigger ts) back) (env.tickRest ts))) runtime := by
    unfold handleTick evaluateAtTriggers
    rw [split]
    simp [andThen_apply, forEach_append, tickRest, List.append_assoc]
  have first := before [] runtime ⟨by simp, remembered⟩
  have own := evaluateAtTrigger_timed effective timed ts first.2
  have last := after [] _ ⟨by simp, own.2⟩
  have quiet := first.executed
  have quiet' := last.executed
  rw [List.nil_append] at quiet quiet'
  rw [stages]
  refine ⟨?_, last.2⟩
  rw [andThen_snd, executed_append, quiet, List.nil_append, andThen_snd, executed_append, own.1,
    quiet', List.append_nil]

end Env

/-! ## Sequences of events -/

/-- The clock readings of the ticks among events. -/
def tickClocks (inputs : List (ClockReading × Event)) : List ClockReading :=
  inputs.filterMap fun input =>
    match input.2 with
    | .tick _ => some input.1
    | _ => none

namespace Automation

/-- By a clock reading it is a certain minute, and the time stands for that minute. -/
def InMinute (automation : Automation) (time : TimeExpr) (minute : Nat × Nat)
    (clock : ClockReading) : Prop :=
  (clock.localHour, clock.localMinute) = minute ∧
    time.due (automation.location.map clock.sunTimes) = minute

theorem minuteShown_eq_some_iff {automation : Automation} {time : TimeExpr} {minute : Nat × Nat}
    {clock : ClockReading} :
    Env.minuteShown { automation with clock } time = some minute ↔
      automation.InMinute time minute clock := by
  unfold Env.minuteShown InMinute
  constructor
  · intro shown
    split at shown
    · rename_i shows
      cases shown
      exact ⟨shows, rfl⟩
    · cases shown
  · rintro ⟨reads, due⟩
    have shows : (clock.localHour, clock.localMinute) =
        time.due (automation.location.map clock.sunTimes) := reads.trans due.symm
    exact (if_pos shows).trans (congrArg some due)

end Automation

namespace EventProcessor

/-- Handle events, each at its clock reading. -/
def handleEvents : List (ClockReading × Event) → EventProcessor → EventProcessor × List Record
  | [], processor => (processor, [])
  | (clock, event) :: rest, processor =>
      match processor.handleEvent clock event with
      | (middle, records) =>
          match handleEvents rest middle with
          | (after, more) => (after, records ++ more)

variable {processor : EventProcessor}

theorem handleEvents_cons (clock : ClockReading) (event : Event)
    (rest : List (ClockReading × Event)) (processor : EventProcessor) :
    handleEvents ((clock, event) :: rest) processor =
      ((handleEvents rest (processor.handleEvent clock event).1).1,
        (processor.handleEvent clock event).2 ++
          (handleEvents rest (processor.handleEvent clock event).1).2) := rfl

theorem handleEvent_eq (clock : ClockReading) (event : Event) (processor : EventProcessor) :
    processor.handleEvent clock event =
      ({ processor with
          runtime := ((processor.env clock).handleEvent event processor.runtime).1 },
        ((processor.env clock).handleEvent event processor.runtime).2) := rfl

theorem automation_handleEvents (inputs : List (ClockReading × Event))
    (processor : EventProcessor) :
    (handleEvents inputs processor).1.automation = processor.automation := by
  induction inputs generalizing processor with
  | nil => rfl
  | cons input rest ih =>
      obtain ⟨clock, event⟩ := input
      rw [handleEvents_cons, ih]
      rfl

/-- A timed binding is in force, and its name is told from those of all others. -/
structure Deploys (automation : Automation) (binding : ResolvedBinding) (time : TimeExpr) :
    Prop where
  names : (automation.effectiveBindings.map (·.name)).Nodup
  unbound : Env.Unbound automation.topology.toTopologyTables binding.name
  effective : binding ∈ automation.effectiveBindings
  timed : automation.timedActionTime binding = some time

/-- The minute of the last tick among events, if the binding was in its minute then. -/
def lastMinute (automation : Automation) (time : TimeExpr)
    (inputs : List (ClockReading × Event)) (last : Option (Nat × Nat)) : Option (Nat × Nat) :=
  (tickClocks inputs).foldl
    (fun _ clock => Env.minuteShown { automation with clock } time) last

variable {binding : ResolvedBinding} {time : TimeExpr} {last : Option (Nat × Nat)}

/-- One event executes a timed binding on a tick in a new minute only. -/
theorem handleEvent_timed (deploys : Deploys processor.automation binding time)
    (clock : ClockReading) (event : Event)
    (remembered : processor.runtime.world.atLastFired[binding.name]? = last) :
    executed binding.name (processor.handleEvent clock event).2 =
        (tickClocks [(clock, event)]).flatMap (fun clock =>
          Env.dueEffects binding.effect
            (Env.minuteShown { processor.automation with clock } time) last) ∧
      (processor.handleEvent clock event).1.runtime.world.atLastFired[binding.name]? =
        lastMinute processor.automation time [(clock, event)] last := by
  rw [handleEvent_eq]
  by_cases tick : ∃ ts, event = .tick ts
  · obtain ⟨ts, rfl⟩ := tick
    have handled := @Env.handleTick_timed (processor.env clock) last binding time deploys.names
      deploys.unbound deploys.effective deploys.timed ts _ remembered
    refine ⟨?_, handled.2⟩
    rw [show tickClocks [(clock, Event.tick ts)] = [clock] from rfl, List.flatMap_singleton]
    exact handled.1
  · have other : ∀ ts, event ≠ .tick ts := fun ts same => tick ⟨ts, same⟩
    have silent : tickClocks [(clock, event)] = [] := by
      cases event with
      | tick ts => exact absurd rfl (other ts)
      | _ => rfl
    have untouched := @Env.handleEvent_untouched (processor.env clock) binding.name last
      deploys.unbound event other [] processor.runtime ⟨by simp, remembered⟩
    rw [List.nil_append] at untouched
    rw [silent]
    unfold lastMinute
    rw [silent]
    exact ⟨untouched.executed, untouched.2⟩

theorem tickClocks_cons (input : ClockReading × Event) (rest : List (ClockReading × Event)) :
    tickClocks (input :: rest) = tickClocks [input] ++ tickClocks rest := by
  have joined : input :: rest = [input] ++ rest := rfl
  unfold tickClocks
  rw [joined, List.filterMap_append]

/-- The last time of a binding is the minute of the last tick. -/
theorem handleEvents_remembers (inputs : List (ClockReading × Event))
    (deploys : Deploys processor.automation binding time)
    (remembered : processor.runtime.world.atLastFired[binding.name]? = last) :
    (handleEvents inputs processor).1.runtime.world.atLastFired[binding.name]? =
      lastMinute processor.automation time inputs last := by
  induction inputs generalizing processor last with
  | nil => exact remembered
  | cons input rest ih =>
      obtain ⟨clock, event⟩ := input
      have step := (handleEvent_timed deploys clock event remembered).2
      rw [handleEvents_cons]
      refine (@ih (processor.handleEvent clock event).1 _ deploys step).trans ?_
      unfold lastMinute
      rw [tickClocks_cons (clock, event) rest, List.foldl_append]
      rfl

/-- Ticks that stay in a minute execute nothing again. -/
theorem handleEvents_again {minute : Nat × Nat} (inputs : List (ClockReading × Event))
    (deploys : Deploys processor.automation binding time)
    (remembered : processor.runtime.world.atLastFired[binding.name]? = some minute)
    (inside : ∀ clock ∈ tickClocks inputs, processor.automation.InMinute time minute clock) :
    executed binding.name (handleEvents inputs processor).2 = [] := by
  induction inputs generalizing processor with
  | nil => rfl
  | cons input rest ih =>
      obtain ⟨clock, event⟩ := input
      rw [tickClocks_cons] at inside
      obtain ⟨own, later⟩ := handleEvent_timed deploys clock event remembered
      have shown : ∀ reading ∈ tickClocks [(clock, event)],
          Env.minuteShown { processor.automation with clock := reading } time = some minute :=
        fun reading member => Automation.minuteShown_eq_some_iff.mpr
          (inside reading (List.mem_append_left _ member))
      have nothing : executed binding.name (processor.handleEvent clock event).2 = [] := by
        rw [own, List.flatMap_eq_nil_iff]
        intro reading member
        rw [shown reading member]
        simp [Env.dueEffects]
      have kept : lastMinute processor.automation time [(clock, event)] (some minute) =
          some minute := by
        unfold lastMinute
        refine List.foldlRecOn (motive := fun last : Option (Nat × Nat) => last = some minute)
          _ _ rfl ?_
        intro _ _ reading member
        exact shown reading member
      rw [handleEvents_cons, executed_append, nothing, List.nil_append]
      refine @ih (processor.handleEvent clock event).1 deploys (later.trans kept) ?_
      intro reading member
      exact inside reading (List.mem_append_right _ member)

/-- Ticks that enter a minute and stay in it execute a timed binding once. -/
theorem handleEvents_once {minute : Nat × Nat} (inputs : List (ClockReading × Event))
    (deploys : Deploys processor.automation binding time)
    (remembered : processor.runtime.world.atLastFired[binding.name]? = last)
    (enters : last ≠ some minute) (ticks : tickClocks inputs ≠ [])
    (inside : ∀ clock ∈ tickClocks inputs, processor.automation.InMinute time minute clock) :
    executed binding.name (handleEvents inputs processor).2 = [binding.effect] := by
  induction inputs generalizing processor with
  | nil => exact absurd rfl ticks
  | cons input rest ih =>
      obtain ⟨clock, event⟩ := input
      rw [tickClocks_cons] at inside ticks
      obtain ⟨own, later⟩ := handleEvent_timed deploys clock event remembered
      rw [handleEvents_cons, executed_append, own]
      unfold lastMinute at later
      by_cases tick : ∃ ts, event = .tick ts
      · obtain ⟨ts, rfl⟩ := tick
        have here : tickClocks [(clock, Event.tick ts)] = [clock] := rfl
        rw [here] at inside later ⊢
        have shown := Automation.minuteShown_eq_some_iff.mpr (inside clock (by simp))
        rw [List.flatMap_singleton, shown]
        rw [List.foldl_cons, List.foldl_nil, shown] at later
        have again := @handleEvents_again (processor.handleEvent clock (.tick ts)).1 binding time
          minute rest deploys later fun reading member => inside reading (by simp [member])
        rw [again, List.append_nil]
        simp [Env.dueEffects, enters.symm]
      · have silent : tickClocks [(clock, event)] = [] := by
          cases event with
          | tick ts => exact absurd ⟨ts, rfl⟩ tick
          | _ => rfl
        rw [silent, List.nil_append] at inside ticks
        rw [silent] at later ⊢
        rw [List.flatMap_nil, List.nil_append]
        exact @ih (processor.handleEvent clock event).1 deploys later ticks inside

theorem lastMinute_ne {automation : Automation} {minute : Nat × Nat}
    {inputs : List (ClockReading × Event)}
    (left : ∀ clock ∈ (tickClocks inputs).getLast?, ¬ automation.InMinute time minute clock) :
    lastMinute automation time inputs none ≠ some minute := by
  unfold lastMinute
  cases final : (tickClocks inputs).getLast? with
  | none =>
      rw [List.getLast?_eq_none_iff.mp final]
      simp
  | some clock =>
      obtain ⟨front, split⟩ := List.getLast?_eq_some_iff.mp final
      rw [split, List.foldl_append, List.foldl_cons, List.foldl_nil]
      exact fun shown => left clock final (Automation.minuteShown_eq_some_iff.mp shown)

theorem deploys_of_effective {automation : Automation} (unreserved : automation.Unreserved)
    (effective : binding ∈ automation.effectiveBindings)
    (timed : automation.timedActionTime binding = some time) : Deploys automation binding time where
  names := Automation.effectiveBindings_names unreserved
  unbound := by
    intro other listed device button gesture triggered same
    have equal := Automation.eq_of_effective_name unreserved effective listed same.symm
    unfold Automation.timedActionTime at timed
    rw [equal, triggered] at timed
    cases timed
  effective
  timed

/-- Nothing is ever executed for a name that no binding in force and no button has. -/
theorem handleEvents_never {name : String} (inputs : List (ClockReading × Event))
    (unbound : Env.Unbound processor.automation.topology.toTopologyTables name)
    (absent : ∀ binding ∈ processor.automation.effectiveBindings, binding.name ≠ name) :
    executed name (handleEvents inputs processor).2 = [] := by
  induction inputs generalizing processor with
  | nil => rfl
  | cons input rest ih =>
      obtain ⟨clock, event⟩ := input
      have untouched : Untouched name processor.runtime.world.atLastFired[name]?
          ([] ++ ((processor.env clock).handleEvent event processor.runtime).2)
          ((processor.env clock).handleEvent event processor.runtime).1 := by
        have start : Untouched name processor.runtime.world.atLastFired[name]? []
            processor.runtime := ⟨by simp, rfl⟩
        by_cases tick : ∃ ts, event = .tick ts
        · obtain ⟨ts, rfl⟩ := tick
          exact @Env.handleTick_untouched (processor.env clock) name _ unbound absent ts [] _ start
        · exact @Env.handleEvent_untouched (processor.env clock) name _ unbound event
            (fun ts same => tick ⟨ts, same⟩) [] _ start
      rw [List.nil_append] at untouched
      rw [handleEvents_cons, executed_append]
      refine (congrArg₂ _ untouched.executed ?_).trans (List.append_nil [])
      exact @ih (processor.handleEvent clock event).1 unbound absent

end EventProcessor

/-- From a processor that has not ticked yet, every timed binding in force is executed exactly once
for each stretch of ticks in its minute, and by no other event; a deployed binding that a plug
override replaces is never executed and is no kill switch of a plug; and the kill switches looked up
for a plug are those in force that watch it. -/
theorem timedActions_once (processor : EventProcessor)
    (fresh : processor.runtime.world.atLastFired = ∅)
    (unreserved : processor.automation.Unreserved) :
    (∀ binding ∈ processor.automation.effectiveBindings, ∀ time,
      processor.automation.timedActionTime binding = some time →
      ∀ past : List (ClockReading × Event),
        let reached := (processor.handleEvents past).1
        (∀ (stretch : List (ClockReading × Event)) (minute : Nat × Nat),
          tickClocks stretch ≠ [] →
          (∀ clock ∈ tickClocks stretch, processor.automation.InMinute time minute clock) →
          (∀ clock ∈ (tickClocks past).getLast?,
            ¬ processor.automation.InMinute time minute clock) →
          executed binding.name (reached.handleEvents stretch).2 = [binding.effect]) ∧
        ∀ (clock : ClockReading) (event : Event),
          (∀ ts, event = .tick ts →
            (clock.localHour, clock.localMinute) ≠
              time.due (processor.automation.location.map clock.sunTimes)) →
          executed binding.name (reached.handleEvent clock event).2 = []) ∧
    (∀ deployed ∈ processor.automation.topology.bindings,
      processor.automation.bindingSuperseded deployed = true →
      (∀ inputs, executed deployed.name (processor.handleEvents inputs).2 = []) ∧
      (∀ binding ∈ processor.automation.effectiveBindings, binding.name ≠ deployed.name) ∧
      ∀ (clock : ClockReading) (device : String),
        ∀ rule ∈ (processor.env clock).killSwitchRules device, rule.name ≠ deployed.name) ∧
    ∀ plug < processor.automation.topology.devices.length,
      processor.automation.powerBelowBindings plug =
        processor.automation.effectiveBindings.filter fun binding => binding.watches plug := by
  refine ⟨?_, ?_, fun plug known => Automation.powerBelowBindings_eq known⟩
  · intro binding effective time timed past
    have deploys := EventProcessor.deploys_of_effective unreserved effective timed
    have empty : processor.runtime.world.atLastFired[binding.name]? = none := by
      rw [fresh]
      exact TreeMap.getElem?_emptyc
    have remembered := EventProcessor.handleEvents_remembers past deploys empty
    have same := EventProcessor.automation_handleEvents past processor
    refine ⟨?_, ?_⟩
    · intro stretch minute ticks inside left
      have entered := EventProcessor.lastMinute_ne left
      rw [← same] at deploys inside
      exact EventProcessor.handleEvents_once stretch deploys remembered entered ticks inside
    · intro clock event outside
      rw [← same] at deploys outside
      rw [(EventProcessor.handleEvent_timed deploys clock event rfl).1, List.flatMap_eq_nil_iff]
      intro reading member
      cases event with
      | tick ts =>
          rw [List.mem_singleton.mp member]
          have hidden : Env.minuteShown
              { (processor.handleEvents past).1.automation with clock } time = none :=
            if_neg (outside ts rfl)
          rw [hidden]
          rfl
      | _ => cases member
  · intro deployed listed superseded
    have absent := Automation.superseded_name unreserved listed superseded
    refine ⟨fun inputs => EventProcessor.handleEvents_never inputs ?_ absent, absent, ?_⟩
    · intro binding member device button gesture triggered same
      have equal := List.inj_on_of_nodup_map
        processor.automation.topology.valid.binding_names_nodup member listed same
      rw [← equal] at superseded
      unfold Automation.bindingSuperseded at superseded
      rw [triggered] at superseded
      cases superseded
    · intro clock device rule member
      unfold Env.killSwitchRules at member
      split at member
      · cases member
      · rename_i plug known
        obtain ⟨binding, watching, described⟩ := List.mem_filterMap.mp member
        have bound : plug < processor.automation.topology.devices.length :=
          (TopologyTables.deviceName_of_deviceIdx known).2
        have watching : binding ∈ processor.automation.powerBelowBindings plug := watching
        rw [Automation.powerBelowBindings_eq bound] at watching
        have different := absent binding (List.mem_filter.mp watching).1
        unfold Env.killSwitchRule at described
        split at described
        · cases described
          exact different
        · cases described

/-- A binding that turns everything off at noon. -/
def House.atNoon : ResolvedBinding :=
  { name := "noon", trigger := .at (.fixed 720), effect := .turnOffAllZones }

/-- Two ticks of one minute execute the binding once. -/
theorem timedActions_once_noon :
    executed "noon" (({ automation := House.automation .offOnly [House.atNoon], runtime := {} } :
      EventProcessor).handleEvents
        [(House.clock 1, .tick (Duration.fromSecs 1)),
          (House.clock 2, .tick (Duration.fromSecs 2))]).2 =
      [.turnOffAllZones] := by
  have deployed :
      (House.automation .offOnly [House.atNoon]).topology.bindings = [House.atNoon] := by
    have accepted : ([House.atNoon].map (·.name)).Nodup ∧ [House.atNoon].all House.accepts := by
      decide +kernel
    change House.checkedBindings [House.atNoon] = _
    unfold House.checkedBindings
    exact if_pos accepted
  have unreserved : (House.automation .offOnly [House.atNoon]).Unreserved := by
    unfold Automation.Unreserved
    rw [deployed]
    intro binding member
    rw [List.mem_singleton.mp member]
    unfold Reserved
    decide
  refine ((timedActions_once
    { automation := House.automation .offOnly [House.atNoon], runtime := {} } rfl unreserved).1
      House.atNoon ?_ (.fixed 720) rfl []).1 _ (12, 0) (by simp [tickClocks]) ?_
      (by simp [tickClocks])
  · unfold Automation.effectiveBindings
    rw [deployed]
    exact List.mem_append_left _
      (List.mem_filter.mpr ⟨List.mem_singleton_self _, by decide +kernel⟩)
  · intro clock member
    simp only [tickClocks, List.filterMap_cons, List.filterMap_nil, List.mem_cons,
      List.not_mem_nil, or_false] at member
    rcases member with rfl | rfl
    · exact ⟨rfl, rfl⟩
    · exact ⟨rfl, rfl⟩

end MqttController
