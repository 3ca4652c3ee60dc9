import Mathlib.Data.List.Pairwise
import MqttController.Reach

/-!
# Pressure groups

After the groups were enforced, the valves of a group with demand of its own are open, shut on
purpose or asking for heat, and no valve of another group is held open for it.
-/

namespace MqttController

open Std Emission

namespace TrvEntity

/-- What enforcing a pressure group makes of one of its valves. -/
def enforced (trv : TrvEntity) (env : Env) (active : Bool) (tickGen : Nat) : TrvEntity :=
  let now := env.clock.now
  if active then
    if !trv.isInhibited now && !trv.isForcedOpen &&
        !trv.hasRawDemand env.minDemand.1 env.minDemand.2 then
      trv.forceOpen .pressureGroup now tickGen
    else trv
  else if trv.isForcedOpenFor .pressureGroup && !trv.isInhibited now then trv.releaseForce now
  else trv

@[simp]
theorem isForcedOpen_forceOpen (trv : TrvEntity) (reason : ForceOpenReason) (now : Instant)
    (tickGen : Nat) : (trv.forceOpen reason now tickGen).isForcedOpen = true := rfl

@[simp]
theorem isForcedOpenFor_releaseForce (trv : TrvEntity) (now : Instant) (reason : ForceOpenReason) :
    (trv.releaseForce now).isForcedOpenFor reason = false := by
  simp [isForcedOpenFor, releaseForce]

@[simp]
theorem needsSetpointRetry_releaseForce (trv : TrvEntity) (now : Instant) :
    (trv.releaseForce now).needsSetpointRetry = true := rfl

theorem isForcedOpen_of_for {trv : TrvEntity} {reason : ForceOpenReason}
    (forced : trv.isForcedOpenFor reason = true) : trv.isForcedOpen = true := by
  unfold isForcedOpenFor at forced
  unfold isForcedOpen
  rw [eq_of_beq forced]

theorem not_inhibited_of_forced {trv : TrvEntity} (forced : trv.isForcedOpen = true)
    (now : Instant) : trv.isInhibited now = false := by
  unfold isForcedOpen at forced
  unfold isInhibited
  cases target : trv.target.value with
  | none => rfl
  | some value =>
      rw [target] at forced
      cases value with
      | forcedOpen reason => rfl
      | inhibited stop => cases forced
      | setpoint temperature => cases forced

variable {env : Env} {trv : TrvEntity} {tickGen : Nat}

variable (env trv tickGen) in
/-- A valve of an active group is open, shut on purpose or asks for heat. -/
theorem enforced_active : ((trv.enforced env true tickGen).isInhibited env.clock.now ||
    (trv.enforced env true tickGen).isForcedOpen ||
      (trv.enforced env true tickGen).hasRawDemand env.minDemand.1 env.minDemand.2) = true := by
  unfold enforced
  dsimp only
  rw [if_pos rfl]
  split
  · simp
  · rename_i kept
    simp only [Bool.and_eq_true, Bool.not_eq_true', not_and, Bool.not_eq_false] at kept
    rw [Bool.or_eq_true, Bool.or_eq_true]
    cases inhibited : trv.isInhibited env.clock.now with
    | true => exact .inl (.inl rfl)
    | false =>
        cases forced : trv.isForcedOpen with
        | true => exact .inl (.inr rfl)
        | false => exact .inr (kept ⟨inhibited, forced⟩)

/-- No valve of an inactive group is held open for it. -/
theorem enforced_inactive :
    (trv.enforced env false tickGen).isForcedOpenFor .pressureGroup = false := by
  unfold enforced
  dsimp only
  rw [if_neg Bool.false_ne_true]
  split
  · simp
  · rename_i kept
    cases forced : trv.isForcedOpenFor .pressureGroup with
    | false => rfl
    | true =>
        have open' := not_inhibited_of_forced (isForcedOpen_of_for forced) env.clock.now
        exact absurd (by rw [forced, open']; rfl) kept

/-- Enforcing neither ends nor causes demand of the valve's own. -/
theorem hasOrganicDemand_enforced (active : Bool) :
    (trv.enforced env active tickGen).hasOrganicDemand env.clock.now env.minDemand.1
      env.minDemand.2 =
        trv.hasOrganicDemand env.clock.now env.minDemand.1 env.minDemand.2 := by
  unfold enforced
  dsimp only
  split
  · split
    · rename_i quiet
      simp only [Bool.and_eq_true, Bool.not_eq_true'] at quiet
      simp [hasOrganicDemand, quiet.2]
    · rfl
  · split
    · rename_i forced
      rw [Bool.and_eq_true] at forced
      simp [hasOrganicDemand, isForcedOpen_of_for forced.1]
    · rfl

end TrvEntity

namespace Env

variable {env : Env} {config : HeatingConfig}

/-! ## One valve, one group, all groups -/

/-- The part of the runtime that enforcing the groups reads but does not change. -/
def groupContext (runtime : Runtime) : NameMap HeatingZoneEntity × Nat :=
  (runtime.world.heatingZones, runtime.heatingTickGen)

variable (env) in
theorem enforceOn_spec (active : Bool) (device : String) (runtime : Runtime) :
    groupContext (env.enforceOn active device runtime).1 = groupContext runtime ∧
      ∀ other, (env.enforceOn active device runtime).1.world.trvs[other]? =
        if device = other then
          (runtime.world.trvs[device]?).map (·.enforced env active runtime.heatingTickGen)
        else runtime.world.trvs[other]? := by
  unfold enforceOn
  dsimp only
  cases stored : runtime.world.trvs[device]? with
  | none =>
      refine ⟨rfl, fun other => ?_⟩
      by_cases same : device = other
      · rw [if_pos same, ← same]
        exact stored
      · rw [if_neg same]
  | some trv =>
      have changed : ∀ change : TrvEntity → TrvEntity, ∀ other,
          (runtime.modifyTrv device change).world.trvs[other]? =
            if device = other then some (change trv) else runtime.world.trvs[other]? := by
        intro change other
        rw [Runtime.modifyTrv, WorldState.modifyTrv, OrderedMap.getElem?_upsert, stored,
          Option.getD_some]
      have left : ∀ other, runtime.world.trvs[other]? =
          if device = other then some trv else runtime.world.trvs[other]? := by
        intro other
        split
        · rename_i same
          rw [← same, stored]
        · rfl
      dsimp only [Option.map_some]
      unfold TrvEntity.enforced
      dsimp only
      split
      · split
        · exact ⟨rfl, changed _⟩
        · exact ⟨rfl, left⟩
      · split
        · exact ⟨rfl, changed _⟩
        · exact ⟨rfl, left⟩

variable (env) in
theorem enforceAll_spec (active : Bool) {devices : List String} (distinct : devices.Nodup)
    (runtime : Runtime) :
    groupContext (forEach (env.enforceOn active) devices runtime).1 = groupContext runtime ∧
      ∀ other, (forEach (env.enforceOn active) devices runtime).1.world.trvs[other]? =
        if other ∈ devices then
          (runtime.world.trvs[other]?).map (·.enforced env active runtime.heatingTickGen)
        else runtime.world.trvs[other]? := by
  induction devices generalizing runtime with
  | nil => exact ⟨rfl, fun other => by simp⟩
  | cons device rest ih =>
      rw [List.nodup_cons] at distinct
      obtain ⟨context, trvs⟩ := enforceOn_spec env active device runtime
      obtain ⟨contexts, others⟩ := ih distinct.2 (env.enforceOn active device runtime).1
      rw [forEach_cons, andThen_fst]
      refine ⟨contexts.trans context, fun other => ?_⟩
      have gen : (env.enforceOn active device runtime).1.heatingTickGen = runtime.heatingTickGen :=
        congrArg Prod.snd context
      rw [others other, trvs other, gen]
      by_cases same : device = other
      · subst same
        simp [distinct.1]
      · simp [same, Ne.symm same]

/-- Some enabled valve of the group has demand that no rule caused. -/
def hasGroupDemand (env : Env) (group : PressureGroup) (world : WorldState) : Bool :=
  group.trvs.any fun device =>
    env.effectiveHeatDemandEnabled device &&
      (world.trvs[device]?).any fun trv =>
        trv.hasOrganicDemand env.clock.now env.minDemand.1 env.minDemand.2

/-- Whether a group is active depends on its own valves and the heating zones. -/
theorem groupActive_congr {group : PressureGroup} {first second : WorldState}
    (zones : first.heatingZones = second.heatingZones)
    (trvs : ∀ device ∈ group.trvs, first.trvs[device]? = second.trvs[device]?) :
    env.groupActive config group first = env.groupActive config group second := by
  have demand : env.hasGroupDemand group first = env.hasGroupDemand group second := by
    unfold hasGroupDemand
    rw [Bool.eq_iff_iff, List.any_eq_true, List.any_eq_true]
    refine exists_congr fun device => and_congr_right fun listed => ?_
    rw [trvs device listed]
  have relay : groupRelayOff config group first = groupRelayOff config group second := by
    unfold groupRelayOff
    rw [zones]
  change (env.hasGroupDemand group first && !groupRelayOff config group first) =
    (env.hasGroupDemand group second && !groupRelayOff config group second)
  rw [demand, relay]

variable (env config) in
theorem enforceGroups_spec {groups : List PressureGroup}
    (distinct : (groups.flatMap (·.trvs)).Nodup) (runtime : Runtime) :
    let after := (forEach (fun group runtime =>
      forEach (env.enforceOn (env.groupActive config group runtime.world)) group.trvs runtime)
      groups runtime).1
    groupContext after = groupContext runtime ∧
      (∀ group ∈ groups, ∀ device ∈ group.trvs, after.world.trvs[device]? =
        (runtime.world.trvs[device]?).map
          (·.enforced env (env.groupActive config group runtime.world) runtime.heatingTickGen)) ∧
      ∀ device, device ∉ groups.flatMap (·.trvs) →
        after.world.trvs[device]? = runtime.world.trvs[device]? := by
  induction groups generalizing runtime with
  | nil => exact ⟨rfl, by simp, fun device _ => rfl⟩
  | cons first rest ih =>
      rw [List.flatMap_cons, List.nodup_append] at distinct
      obtain ⟨own, later, apart⟩ := distinct
      obtain ⟨context, trvs⟩ := enforceAll_spec env
        (env.groupActive config first runtime.world) own runtime
      dsimp only
      rw [forEach_cons, andThen_fst]
      generalize (forEach (env.enforceOn (env.groupActive config first runtime.world)) first.trvs
        runtime).1 = middle at context trvs ⊢
      obtain ⟨contexts, members, others⟩ := ih later middle
      have zones : middle.world.heatingZones = runtime.world.heatingZones :=
        congrArg Prod.fst context
      have gen : middle.heatingTickGen = runtime.heatingTickGen := congrArg Prod.snd context
      have disjoint : ∀ device ∈ rest.flatMap (·.trvs), device ∉ first.trvs :=
        fun device inside here => apart device here device inside rfl
      refine ⟨contexts.trans context, fun group listed device member => ?_, fun device free => ?_⟩
      · rcases List.mem_cons.mp listed with rfl | listed
        · have outside : device ∉ rest.flatMap (·.trvs) :=
            fun inside => disjoint device inside member
          rw [others device outside, trvs device, if_pos member]
        · have inside : ∀ device ∈ group.trvs, device ∈ rest.flatMap (·.trvs) :=
            fun device member => List.mem_flatMap.mpr ⟨group, listed, member⟩
          have kept : ∀ device ∈ group.trvs,
              middle.world.trvs[device]? = runtime.world.trvs[device]? := fun device member => by
            rw [trvs device, if_neg (disjoint device (inside device member))]
          rw [members group listed device member, kept device member, gen,
            groupActive_congr zones kept]
      · rw [List.flatMap_cons, List.mem_append, not_or] at free
        rw [others device free.2, trvs device, if_neg free.1]

/-- Enforcing the groups makes of each valve what its group asks for. -/
theorem enforcePressureGroups_spec (heating : env.topology.heatingConfig = some config)
    (runtime : Runtime) :
    (env.enforcePressureGroups config runtime).1.world.heatingZones = runtime.world.heatingZones ∧
      ∀ group ∈ config.pressureGroups, ∀ device ∈ group.trvs,
        (env.enforcePressureGroups config runtime).1.world.trvs[device]? =
          (runtime.world.trvs[device]?).map
            (·.enforced env (env.groupActive config group runtime.world)
              runtime.heatingTickGen) := by
  have distinct := (env.topology.valid.heating_valid config heating).group_trvs_nodup
  obtain ⟨context, members, _⟩ := enforceGroups_spec env config distinct runtime
  exact ⟨congrArg Prod.fst context, members⟩

end Env

/-! ## The relay of a group -/

namespace HeatingConfig

/-- The relay of the group's zone is known to be off, and it is not told to turn on. -/
def RelayKnownOff (config : HeatingConfig) (group : PressureGroup) (world : WorldState) : Prop :=
  ∃ zone ∈ config.zones, (∃ device ∈ group.trvs, device ∈ zone.trvs.map (·.device)) ∧
    ∃ entity, world.heatingZones[zone.name]? = some entity ∧ entity.relayStateKnown = true ∧
      entity.isRelayOn = false ∧ entity.target.value ≠ some .heating

/-- A valve belongs to one zone. -/
theorem zone_of_trv_unique {config : HeatingConfig} (valid : config.Valid)
    {first second : HeatingZone} (here : first ∈ config.zones) (there : second ∈ config.zones)
    {device : String} (inFirst : device ∈ first.trvs.map (·.device))
    (inSecond : device ∈ second.trvs.map (·.device)) : first = second := by
  by_contra different
  have apart := (List.nodup_flatMap.mp valid.trvs_nodup).2
  have symmetric : Std.Symm (Function.onFun List.Disjoint fun zone : HeatingZone =>
      zone.trvs.map (·.device)) := ⟨fun _ _ separate => separate.symm⟩
  exact apart.forall here there different inFirst inSecond

theorem groupRelayOff_iff {config : HeatingConfig} (valid : config.Valid) {group : PressureGroup}
    (listed : group ∈ config.pressureGroups) (world : WorldState) :
    Env.groupRelayOff config group world = true ↔ config.RelayKnownOff group world := by
  obtain ⟨home, known, members⟩ := valid.groups_in_zone group listed
  have large := valid.groups_large group listed
  cases listing : group.trvs with
  | nil => simp [listing] at large
  | cons device rest =>
      have inHome : device ∈ home.trvs.map (·.device) := members device (by rw [listing]; simp)
      have serves : (home.trvs.any fun trv => trv.device == device) = true := by
        obtain ⟨trv, inside, named⟩ := List.mem_map.mp inHome
        exact List.any_eq_true.mpr ⟨trv, inside, beq_iff_eq.mpr named⟩
      have found : (config.zones.find? fun zone =>
          zone.trvs.any fun trv => trv.device == device) = some home := by
        obtain ⟨zone, found⟩ : ∃ zone, (config.zones.find? fun zone =>
            zone.trvs.any fun trv => trv.device == device) = some zone :=
          Option.isSome_iff_exists.mp (List.find?_isSome.mpr ⟨home, known, serves⟩)
        have holds : (zone.trvs.any fun trv => trv.device == device) = true := by
          simpa using List.find?_some found
        obtain ⟨trv, inside, named⟩ := List.any_eq_true.mp holds
        rw [found, zone_of_trv_unique valid (List.mem_of_find?_eq_some found) known
          (List.mem_map.mpr ⟨trv, inside, beq_iff_eq.mp named⟩) inHome]
      unfold Env.groupRelayOff
      rw [listing, List.head?_cons]
      dsimp only
      rw [found, Option.any_some, Option.any_eq_true]
      constructor
      · rintro ⟨entity, stored, off⟩
        simp only [Bool.and_eq_true, Bool.not_eq_true', bne_iff_ne] at off
        exact ⟨home, known, ⟨device, by rw [listing]; simp, inHome⟩, entity, stored, off.1.2,
          off.1.1, off.2⟩
      · rintro ⟨zone, inside, ⟨other, member, inZone⟩, entity, stored, seen, off, target⟩
        rw [zone_of_trv_unique valid inside known inZone (members other member)] at stored
        exact ⟨entity, stored, by simp [off, seen, target]⟩

end HeatingConfig

/-- After the groups were enforced, every valve of a group with demand of its own, unless the relay
of its zone is known to be off, is shut on purpose, held open or asks for heat; no valve of another
group is held open for it. -/
theorem Env.pressure_groups_enforced {env : Env} {config : HeatingConfig}
    (heating : env.topology.heatingConfig = some config) (runtime : Runtime)
    {group : PressureGroup} (listed : group ∈ config.pressureGroups) :
    let after := (env.enforcePressureGroups config runtime).1.world
    (env.hasGroupDemand group after = true ∧ ¬ config.RelayKnownOff group after →
      ∀ device ∈ group.trvs, ∀ trv, after.trvs[device]? = some trv →
        trv.isInhibited env.clock.now = true ∨ trv.isForcedOpen = true ∨
          trv.hasRawDemand env.minDemand.1 env.minDemand.2 = true) ∧
      (¬ (env.hasGroupDemand group after = true ∧ ¬ config.RelayKnownOff group after) →
        ∀ device ∈ group.trvs, ∀ trv, after.trvs[device]? = some trv →
          trv.isForcedOpenFor .pressureGroup = false) := by
  have valid := env.topology.valid.heating_valid config heating
  obtain ⟨zones, members⟩ := Env.enforcePressureGroups_spec heating runtime
  dsimp only
  generalize (env.enforcePressureGroups config runtime).1.world = after at zones members ⊢
  -- What makes the group active is the same before and after.
  have demand : env.hasGroupDemand group after = env.hasGroupDemand group runtime.world := by
    unfold Env.hasGroupDemand
    rw [Bool.eq_iff_iff, List.any_eq_true, List.any_eq_true]
    refine exists_congr fun device => and_congr_right fun member => ?_
    rw [members group listed device member]
    cases runtime.world.trvs[device]? with
    | none => rfl
    | some trv => simp [TrvEntity.hasOrganicDemand_enforced]
  have relay : Env.groupRelayOff config group after =
      Env.groupRelayOff config group runtime.world := by
    unfold Env.groupRelayOff
    rw [zones]
  have active : env.groupActive config group runtime.world = true ↔
      env.hasGroupDemand group after = true ∧ ¬ config.RelayKnownOff group after := by
    rw [← HeatingConfig.groupRelayOff_iff valid listed, demand, relay, Bool.not_eq_true]
    change (env.hasGroupDemand group runtime.world &&
      !Env.groupRelayOff config group runtime.world) = true ↔ _
    rw [Bool.and_eq_true, Bool.not_eq_true']
  have enforced : ∀ device ∈ group.trvs, ∀ trv, after.trvs[device]? = some trv → ∃ before,
      trv = TrvEntity.enforced before env (env.groupActive config group runtime.world)
        runtime.heatingTickGen := by
    intro device member trv stored
    rw [members group listed device member] at stored
    obtain ⟨before, _, same⟩ := Option.map_eq_some_iff.mp stored
    exact ⟨before, same.symm⟩
  constructor
  · intro asks device member trv stored
    obtain ⟨before, rfl⟩ := enforced device member trv stored
    rw [active.mpr asks]
    have open' := TrvEntity.enforced_active env before runtime.heatingTickGen
    rwa [Bool.or_eq_true, Bool.or_eq_true, or_assoc] at open'
  · intro quiet device member trv stored
    obtain ⟨before, rfl⟩ := enforced device member trv stored
    rw [Bool.eq_false_iff.mpr fun busy => quiet (active.mp busy)]
    exact TrvEntity.enforced_inactive

/-- The state of the house with paired valves once one valve asks for heat, before the relay of the
zone reports. -/
theorem House.paired_demand : ∃ (history : List Record) (daemon : Daemon) (record : Record)
    (trv : TrvEntity), Run history daemon ∧ record ∈ history ∧
      record.env.topology.heatingConfig = some pairedHeating ∧
      record.before.world.heatingZones["upstairs"]? = none ∧
      (record.env.hasGroupDemand ⟨"pair", ["valve-up", "valve-down"]⟩
        (record.env.enforcePressureGroups pairedHeating record.before).1.world = true) ∧
      (record.env.enforcePressureGroups pairedHeating record.before).1.world.trvs["valve-down"]? =
        some trv ∧ trv.isForcedOpenFor .pressureGroup = true := by
  obtain ⟨daemon, history, run, same, facts⟩ := House.played_paired
    [House.valve "valve-up" (some 90) none 0, House.valve "valve-down" (some 0) none 0, (1, .start)]
    (by simp [House.valve])
    (fun reached : Daemon × List Record => (reached.2[4]?).any fun record : Record =>
      !(record.before.world.heatingZones["upstairs"]?).isSome &&
      record.env.hasGroupDemand ⟨"pair", ["valve-up", "valve-down"]⟩
        (record.env.enforcePressureGroups House.pairedHeating record.before).1.world &&
      ((record.env.enforcePressureGroups House.pairedHeating
        record.before).1.world.trvs["valve-down"]?).any fun trv : TrvEntity =>
          trv.isForcedOpenFor .pressureGroup)
    true (by decide +kernel)
  obtain ⟨record, found, facts⟩ := (Option.any_eq_true _ _).mp facts
  simp only [Bool.and_eq_true, Bool.not_eq_true', Option.isSome_eq_false_iff,
    Option.isNone_iff_eq_none] at facts
  obtain ⟨⟨unseen, demand⟩, forced⟩ := facts
  obtain ⟨trv, stored, forced⟩ := (Option.any_eq_true _ _).mp forced
  have listed := List.mem_of_getElem? found
  refine ⟨history, daemon, record, trv, run, listed, ?_, unseen, demand, stored, forced⟩
  rw [same record listed]
  rfl

/-- Before its relay was heard of, the valve paired with one that asks for heat is held open. -/
theorem Env.pressure_groups_enforced_paired : ∃ (env : Env) (config : HeatingConfig)
    (runtime : Runtime) (group : PressureGroup) (trv : TrvEntity),
      env.topology.heatingConfig = some config ∧ group ∈ config.pressureGroups ∧
      (env.enforcePressureGroups config runtime).1.world.trvs["valve-down"]? = some trv ∧
      (trv.isInhibited env.clock.now = true ∨ trv.isForcedOpen = true ∨
        trv.hasRawDemand env.minDemand.1 env.minDemand.2 = true) := by
  obtain ⟨history, daemon, record, trv, run, listed, heating, unseen, demand, stored, forced⟩ :=
    House.paired_demand
  have group : (⟨"pair", ["valve-up", "valve-down"]⟩ : PressureGroup) ∈
      House.pairedHeating.pressureGroups := List.mem_singleton_self _
  refine ⟨record.env, House.pairedHeating, record.before, _, trv, heating, group, stored, ?_⟩
  refine (Env.pressure_groups_enforced heating record.before group).1 ⟨demand, ?_⟩ "valve-down"
    (by simp) trv stored
  rintro ⟨zone, known, _, entity, seen, _⟩
  rw [(Env.enforcePressureGroups_spec heating record.before).1,
    List.mem_singleton.mp known, unseen] at seen
  cases seen

/-- A valve can be held open for a group whose relay is neither on nor pending on, because it was
never heard of. -/
theorem Env.pressure_groups_enforced_fails : ∃ (history : List Record) (daemon : Daemon)
    (record : Record) (config : HeatingConfig) (group : PressureGroup) (trv : TrvEntity),
      Run history daemon ∧ record ∈ history ∧
      record.env.topology.heatingConfig = some config ∧ group ∈ config.pressureGroups ∧
      (∀ zone ∈ config.zones, ∀ entity,
        (record.env.enforcePressureGroups config record.before).1.world.heatingZones[zone.name]? =
          some entity → ¬ (entity.isRelayOn = true ∨ entity.target.value = some .heating)) ∧
      "valve-down" ∈ group.trvs ∧
      (record.env.enforcePressureGroups config record.before).1.world.trvs["valve-down"]? =
        some trv ∧ trv.isForcedOpenFor .pressureGroup = true := by
  obtain ⟨history, daemon, record, trv, run, listed, heating, unseen, demand, stored, forced⟩ :=
    House.paired_demand
  refine ⟨history, daemon, record, House.pairedHeating, _, trv, run, listed, heating,
    List.mem_singleton_self _, fun zone known entity seen => ?_, by simp, stored, forced⟩
  rw [(Env.enforcePressureGroups_spec heating record.before).1,
    List.mem_singleton.mp known, unseen] at seen
  cases seen

end MqttController
