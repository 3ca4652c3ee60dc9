import MqttController.KillSwitches
import MqttController.Mqtt.Seed

/-!
# The plugs that are known

Plugs are remembered by name.  As long as reports are about plugs of the catalog, and the broker's
publishes are read so, no other name is remembered.
-/

namespace MqttController

open Std Emission

namespace TopologyTables

theorem isPlug_iff {tables : TopologyTables} {name : String} : tables.isPlug name = true ↔
    ∃ idx, tables.deviceIdx name = some idx ∧ tables.isPlugIdx idx = true := by
  unfold isPlug isKind
  rw [Option.any_eq_true]
  rfl

theorem isPlug_deviceName {tables : TopologyTables} (valid : tables.Valid) {idx : DeviceIdx}
    (plug : tables.isPlugIdx idx = true) : tables.isPlug (tables.deviceName idx) = true := by
  have bound : idx < tables.devices.length := by
    by_contra outside
    have absent : tables.devices[idx]? = none := List.getElem?_eq_none (Nat.le_of_not_lt outside)
    unfold isPlugIdx at plug
    rw [absent] at plug
    cases plug
  exact isPlug_iff.mpr ⟨idx, deviceIdx_of_deviceName valid bound, plug⟩

end TopologyTables

namespace WorldState

/-- Only plugs of the catalog are remembered. -/
def PlugsKnown (tables : TopologyTables) (world : WorldState) : Prop :=
  ∀ device, (world.plugs[device]?).isSome = true → tables.isPlug device = true

namespace PlugsKnown

variable {tables : TopologyTables} {world after : WorldState} {device : String}

theorem modify (known : world.PlugsKnown tables) (plug : tables.isPlug device = true)
    (change : PlugEntity → PlugEntity) : (world.modifyPlug device change).PlugsKnown tables := by
  intro other present
  unfold modifyPlug at present
  rw [OrderedMap.getElem?_upsert] at present
  split at present
  · rename_i same
    rw [← same]
    exact plug
  · exact known other present

theorem mapped (known : world.PlugsKnown tables) {change : PlugEntity → PlugEntity}
    (plugs : after.plugs = OrderedMap.mapValues world.plugs change) : after.PlugsKnown tables := by
  intro other present
  rw [plugs, OrderedMap.getElem?_mapValues, Option.isSome_map] at present
  exact known other present

theorem of_eq (known : world.PlugsKnown tables) (plugs : after.plugs = world.plugs) :
    after.PlugsKnown tables := by
  intro other present
  rw [plugs] at present
  exact known other present

end PlugsKnown

end WorldState

namespace KillSwitchRule

/-- What a scan fires is the target of a rule. -/
theorem target_of_scan {power : ℚ} {ts : Instant} {rules : List KillSwitchRule}
    {states : NameMap KillSwitchRuleState} {target : String}
    (fired : target ∈ (scan power ts rules states).2) :
    ∃ rule ∈ rules, rule.target = some target := by
  induction rules generalizing states with
  | nil => cases fired
  | cons rule rest ih =>
      rw [scan_cons] at fired
      split at fired
      · exact ⟨rule, List.mem_cons_self, by simpa using fired⟩
      · obtain ⟨other, member, targets⟩ := ih fired
        exact ⟨other, List.mem_cons_of_mem _ member, targets⟩

end KillSwitchRule

namespace Env

variable {env : Env} {world : WorldState} {device : String}

open WorldState

theorem switchPlug_known (known : world.PlugsKnown env.topology.toTopologyTables)
    {plug : DeviceIdx} (plugs : env.topology.isPlugIdx plug = true) (on : Bool) (ts : Instant) :
    (env.switchPlug plug on ts world).1.PlugsKnown env.topology.toTopologyTables :=
  known.modify (TopologyTables.isPlug_deviceName env.topology.valid plugs) _

theorem applyKillSwitchFired_known (known : world.PlugsKnown env.topology.toTopologyTables)
    (plug : env.topology.isPlug device = true) {fired : List String}
    (targets : ∀ target ∈ fired, target = device) (ts : Instant) :
    (env.applyKillSwitchFired device fired ts world).1.PlugsKnown
      env.topology.toTopologyTables := by
  have killed : ∀ (fired : List String) (world : WorldState), (∀ target ∈ fired, target = device) →
      world.PlugsKnown env.topology.toTopologyTables →
      (fired.foldl (WorldState.killPlug ts) world).PlugsKnown env.topology.toTopologyTables := by
    intro fired
    induction fired with
    | nil => exact fun world _ known => known
    | cons target rest ih =>
        intro world targets known
        have here : target = device := targets target List.mem_cons_self
        subst here
        exact ih _ (fun other member => targets other (List.mem_cons_of_mem _ member))
          (known.modify plug _)
  cases fired with
  | nil => exact known
  | cons target rest => exact killed _ _ targets (known.modify plug _)

theorem evaluateKillSwitch_known (known : world.PlugsKnown env.topology.toTopologyTables)
    (plug : env.topology.isPlug device = true) (watts : ℚ) (ts : Instant) :
    (env.evaluateKillSwitch device watts ts world).1.PlugsKnown
      env.topology.toTopologyTables := by
  obtain ⟨_, targets⟩ := env.killSwitchRules_fit device
  unfold evaluateKillSwitch
  split
  · exact known
  · rename_i first rest rules
    split
    rename_i states fired scanned
    refine applyKillSwitchFired_known (known.modify plug _) plug (fun target listed => ?_) ts
    have reached : target ∈ (KillSwitchRule.scan watts ts (first :: rest)
        (world.plugAt device).killSwitchRules).2 := by
      rw [scanned]
      exact listed
    obtain ⟨rule, member, own⟩ := KillSwitchRule.target_of_scan reached
    exact targets rule (rules ▸ member) target own

theorem armKillSwitchRules_known (known : world.PlugsKnown env.topology.toTopologyTables)
    (plug : env.topology.isPlug device = true) (power : Option ℚ) (ts : Instant) :
    (env.armKillSwitchRules device power ts world).PlugsKnown env.topology.toTopologyTables := by
  unfold armKillSwitchRules
  split
  · exact known
  · exact known.modify plug _

theorem handlePlugState_known (known : world.PlugsKnown env.topology.toTopologyTables)
    (plug : env.topology.isPlug device = true) (on : Option Bool) (power : Option ℚ)
    (ts : Instant) :
    (env.handlePlugState device on power ts world).1.PlugsKnown
      env.topology.toTopologyTables := by
  have arms : ∀ (arm : Prop) [Decidable arm] (watts : Option ℚ) (world : WorldState),
      world.PlugsKnown env.topology.toTopologyTables →
      (if arm then env.armKillSwitchRules device watts ts world else world).PlugsKnown
        env.topology.toTopologyTables := by
    intro arm _ watts world known
    split
    · exact armKillSwitchRules_known known plug watts ts
    · exact known
  have confirms : ∀ world : WorldState, world.PlugsKnown env.topology.toTopologyTables →
      (if on.isSome = true then world.modifyPlug device fun plug => plug.maybeConfirm ts
        else world).PlugsKnown env.topology.toTopologyTables := by
    intro world known
    split
    · exact known.modify plug _
    · exact known
  unfold handlePlugState
  dsimp only
  have observed := known.modify plug fun plug =>
    plug.observe on (power.map fun watts => max watts 0) ts
  by_cases off : on = some false
  · rw [if_pos off]
    exact observed.modify plug _
  · rw [if_neg off]
    split
    · exact observed
    · split
      · exact confirms _ (arms _ _ _ observed)
      · exact evaluateKillSwitch_known (confirms _ (arms _ _ _ observed)) plug _ ts

theorem togglePlug_known (known : world.PlugsKnown env.topology.toTopologyTables)
    {plug : DeviceIdx} (plugs : env.topology.isPlugIdx plug = true) (name : String)
    (seconds : Option ℚ) (ts : Instant) :
    (env.togglePlug name plug seconds ts world).1.PlugsKnown env.topology.toTopologyTables := by
  unfold togglePlug
  dsimp only
  split
  · split
    · exact switchPlug_known (known.of_eq rfl) plugs false ts
    · exact known.of_eq rfl
  · exact switchPlug_known (known.of_eq rfl) plugs _ ts

theorem webSetPlugPower_known (known : world.PlugsKnown env.topology.toTopologyTables)
    (on : Bool) (ts : Instant) :
    (env.webSetPlugPower device on ts world).1.PlugsKnown env.topology.toTopologyTables := by
  unfold webSetPlugPower
  split
  · exact known
  · rename_i idx found
    split
    · exact known
    · rename_i plug
      exact known.modify (TopologyTables.isPlug_iff.mpr ⟨idx, found, by simpa using plug⟩) _

/-- A kill switch that is due is one of a plug that is known. -/
theorem evaluateKillSwitchTicks_known (known : world.PlugsKnown env.topology.toTopologyTables)
    (ts : Instant) :
    (env.evaluateKillSwitchTicks ts world).1.PlugsKnown env.topology.toTopologyTables := by
  have fires : ∀ (dues : List (String × String)) (world : WorldState),
      (∀ due ∈ dues, env.topology.isPlug due.1 = true ∧ due.2 = due.1) →
      world.PlugsKnown env.topology.toTopologyTables →
      (forEach (fun due => env.applyKillSwitchFired due.1 [due.2] ts) dues world).1.PlugsKnown
        env.topology.toTopologyTables := by
    intro dues
    induction dues with
    | nil => exact fun world _ known => known
    | cons due rest ih =>
        intro world each known
        obtain ⟨plug, own⟩ := each due List.mem_cons_self
        exact ih _ (fun other member => each other (List.mem_cons_of_mem _ member))
          (applyKillSwitchFired_known known plug
            (fun target member => (List.mem_singleton.mp member).trans own) ts)
  refine fires _ _ (fun due listed => ?_) known
  obtain ⟨binding, effective, elapsed⟩ := List.mem_filterMap.mp listed
  obtain ⟨own, rule, _, _, _, _, since, idle, _⟩ := killSwitchDue_rule effective elapsed
  refine ⟨known due.1 ?_, own⟩
  by_contra absent
  rw [Bool.not_eq_true, Option.isSome_eq_false_iff, Option.isNone_iff_eq_none] at absent
  unfold WorldState.plugAt at idle
  rw [absent] at idle
  cases idle

theorem armKillSwitchesForActivePlugs_known
    (known : world.PlugsKnown env.topology.toTopologyTables) (ts : Instant) :
    (env.armKillSwitchesForActivePlugs ts world).PlugsKnown env.topology.toTopologyTables := by
  have arms : ∀ (entries : List (String × PlugEntity)) (world : WorldState),
      (∀ entry ∈ entries, env.topology.isPlug entry.1 = true) →
      world.PlugsKnown env.topology.toTopologyTables →
      (entries.foldl (fun world entry =>
        env.armKillSwitchRules entry.1 entry.2.power.value ts world) world).PlugsKnown
        env.topology.toTopologyTables := by
    intro entries
    induction entries with
    | nil => exact fun world _ known => known
    | cons entry rest ih =>
        intro world each known
        exact ih _ (fun other member => each other (List.mem_cons_of_mem _ member))
          (armKillSwitchRules_known known (each entry List.mem_cons_self) _ ts)
  refine arms _ _ (fun entry listed => ?_) known
  have stored := TreeMap.mem_toList_iff_getElem?_eq_some.mp (List.mem_filter.mp listed).1
  exact known entry.1 (Option.isSome_of_eq_some stored)

theorem replacePlugBindings_known (known : world.PlugsKnown env.topology.toTopologyTables)
    (ts : Instant) :
    (env.replacePlugBindings device ts world).PlugsKnown env.topology.toTopologyTables := by
  unfold replacePlugBindings
  split
  · exact known
  · rename_i entity stored
    have plug := known device (Option.isSome_of_eq_some stored)
    dsimp only
    split
    · exact armKillSwitchRules_known (known.modify plug _) plug _ ts
    · exact known.modify plug _

end Env

namespace Operation

/-- A plug report is about a plug of the catalog. -/
def hearsPlugs (tables : TopologyTables) : Operation → Bool
  | observePlug device _ _ _ => tables.isPlug device
  | _ => true

theorem run_plugsKnown {env : Env} {operation : Operation}
    (admissible : operation.Admissible env.topology)
    (hears : operation.hearsPlugs env.topology.toTopologyTables = true) {runtime : Runtime}
    (known : runtime.world.PlugsKnown env.topology.toTopologyTables) :
    (operation.run env runtime).1.world.PlugsKnown env.topology.toTopologyTables := by
  have valid := env.topology.valid
  by_cases other : operation.changesPlugs = false
  · exact known.of_eq (run_plugs admissible other runtime)
  cases operation with
  | execute ruleName effect ts =>
      cases effect with
      | toggle plug seconds =>
          exact Env.togglePlug_known known (admissible.known valid rfl) ruleName seconds ts
      | turnOn plug => exact Env.switchPlug_known known (admissible.known valid rfl) true ts
      | turnOff plug => exact Env.switchPlug_known known (admissible.known valid rfl) false ts
      | _ => exact absurd rfl other
  | webSetPlugPower device on ts => exact Env.webSetPlugPower_known known on ts
  | observePlug device on power ts => exact Env.handlePlugState_known known hears on power ts
  | fireKillSwitches ts => exact Env.evaluateKillSwitchTicks_known known ts
  | armKillSwitches ts => exact Env.armKillSwitchesForActivePlugs_known known ts
  | ageTargets ts => exact known.mapped rfl
  | ageActuals ts => exact known.mapped rfl
  | replacePlugBindings device ts => exact Env.replacePlugBindings_known known ts
  | _ => exact absurd rfl other

end Operation

/-- As long as plug reports are about plugs of the catalog, no other plug is remembered. -/
theorem WorldState.plugsKnown_kept : KeptByOperations fun topology past runtime =>
    (∀ record ∈ past, record.operation.hearsPlugs topology.toTopologyTables = true) →
      runtime.world.PlugsKnown topology.toTopologyTables where
  launch topology _ device present := by simp at present
  operation env operation past runtime admissible follows known hears :=
    Operation.run_plugsKnown admissible
      (hears _ (List.mem_append_right _ (List.mem_singleton_self _)))
      (known fun record member => hears record (List.mem_append_left _ member))

/-- An event that says nothing of other plugs than those of the catalog is handled so. -/
theorem Env.handleEvent_hears {env : Env} {event : Event}
    (catalog : ∀ device, event.reportsPlug device → env.topology.isPlug device = true)
    (runtime : Runtime) : ∀ record ∈ (env.handleEvent event runtime).2,
      record.operation.hearsPlugs env.topology.toTopologyTables = true := by
  let hears : List Record → Runtime → Prop := fun past _ => ∀ record ∈ past,
    record.operation.hearsPlugs env.topology.toTopologyTables = true
  have performed : ∀ operation : Operation,
      operation.hearsPlugs env.topology.toTopologyTables = true →
      Keeps hears (env.perform operation) := by
    intro operation heard past runtime holds record member
    rcases List.mem_append.mp member with member | member
    · exact holds record member
    · rw [List.mem_singleton.mp member]
      exact heard
  have others : ∀ operation : Operation, operation.reportsPlug = false →
      operation.hearsPlugs env.topology.toTopologyTables = true := by
    intro operation other
    cases operation with
    | observePlug device on power ts => cases other
    | _ => rfl
  have sensing : ∀ operation : Operation, operation.Admissible env.topology →
      operation.followsSensors → Keeps hears (env.perform operation) := by
    intro operation _ follows
    refine performed operation (others operation ?_)
    cases operation with
    | observePlug device on power ts => cases follows
    | _ => rfl
  have keeps : Keeps hears (env.handleEvent event) :=
    Env.handleEvent_keeps_reports
      (fun operation handled => performed operation (others operation handled.2.1)) event
      (fun device _ _ _ reports => performed _ (catalog device reports))
      (fun _ _ _ _ _ _ => Env.handleOccupancy_keeps sensing _ _ _ _ _)
      (fun _ _ => Env.evaluateActualStaleness_keeps sensing _)
      fun _ _ => Env.handleHeatingTick_keeps performed fun config _ => ⟨rfl, rfl, rfl⟩
  simpa using keeps [] runtime (by simp [hears])

/-- So is every publish of the broker. -/
theorem Mqtt.parsed_hears {env : Env} {fromSlice : ByteArray → Option JsonValue}
    {publish : Publish} {event : Event}
    (parsed : parseEvent env.topology.toTopologyTables fromSlice publish env.clock = some event)
    (runtime : Runtime) : ∀ record ∈ (env.handleEvent event runtime).2,
      record.operation.hearsPlugs env.topology.toTopologyTables = true :=
  Env.handleEvent_hears (fun _ reports => isPlug_of_parseEvent env.topology.valid parsed reports)
    runtime

end MqttController
