import MqttController.Config.Coverage
import MqttController.Config.HeatingSection

/-!
# Accepted heating sections

The checks of the heating section pass exactly on the sections that fit the device catalog.
-/

namespace MqttController

open Std Checked

namespace Config

variable (config : Config)

/-- The relay of a zone is a wall thermostat that leaves its relay to the controller. -/
structure RelayFits (zone : HeatingZone) (options : DeviceOptions) : Prop where
  stored : config.devices[zone.relay]? = some (.wallThermostat options)
  control : options.isSetTo "heater_type" "manual_control" = true
  mode : options.isSetTo "operating_mode" "manual" = true
  options_valid : ∀ entry ∈ options.toList,
    DeviceOptions.validateWallThermostatOption zone.relay entry = .ok ()

/-- A valve is one that leaves its setpoint to the controller. -/
structure TrvFits (device : String) (options : DeviceOptions) (variant : String) : Prop where
  stored : config.devices[device]? = some (.trv options variant)
  mode : options.isSetTo (requiredMode variant).1 (requiredMode variant).2 = true
  options_valid : ∀ entry ∈ options.toList,
    DeviceOptions.validateTrvOption device entry = .ok ()

/-- What the heating section has to be. -/
structure HeatingFits (heating : Heating) : Prop where
  valid : heating.toHeatingConfig.Valid
  demand : heating.heatPump.minDemandPercent ≤ 100
  fallback : heating.heatPump.minDemandPercentFallback ≤ 100
  meter : ∀ meter, heating.energyMeter = some meter → config.hasKind .powerMeter meter = true
  relays : ∀ zone ∈ heating.zones, ∃ options, config.RelayFits zone options
  trvs : ∀ zone ∈ heating.zones, ∀ trv ∈ zone.trvs, ∃ options variant,
    config.TrvFits trv.device options variant

variable {config}

theorem hasKind_iff {kind : DeviceKind} {device : String} : config.hasKind kind device = true ↔
    ∃ entry, config.devices[device]? = some entry ∧ entry.kind = kind := by
  unfold hasKind
  rw [Option.any_eq_true]
  simp only [beq_iff_eq]

theorem checkRelay_ok_iff {zone : HeatingZone} :
    config.checkRelay zone = .ok () ↔ ∃ options, config.RelayFits zone options := by
  unfold checkRelay
  rw [bind_ok_iff]
  simp only [require_ok_iff, hasKind_iff]
  constructor
  · rintro ⟨_, ⟨entry, stored, kind⟩, passed⟩
    rw [stored] at passed
    simp only [bind_ok_iff, require_ok_iff] at passed
    obtain ⟨_, control, _, mode, valid⟩ := passed
    cases entry with
    | wallThermostat options => exact ⟨options, stored, control, mode, forM_ok_iff.mp valid⟩
    | _ => cases kind
  · rintro ⟨options, stored, control, mode, valid⟩
    refine ⟨(), ⟨_, stored, rfl⟩, ?_⟩
    rw [stored]
    simp only [bind_ok_iff, require_ok_iff]
    exact ⟨(), control, (), mode, forM_ok_iff.mpr valid⟩

theorem checkTrvDevice_ok_iff {zone : HeatingZone} {device : String} :
    config.checkTrvDevice zone device = .ok () ↔
      ∃ options variant, config.TrvFits device options variant := by
  unfold checkTrvDevice
  rw [bind_ok_iff]
  simp only [require_ok_iff, hasKind_iff]
  constructor
  · rintro ⟨_, ⟨entry, stored, kind⟩, passed⟩
    rw [stored] at passed
    simp only [bind_ok_iff, require_ok_iff] at passed
    obtain ⟨_, mode, valid⟩ := passed
    cases entry with
    | trv options variant => exact ⟨options, variant, stored, mode, forM_ok_iff.mp valid⟩
    | _ => cases kind
  · rintro ⟨options, variant, stored, mode, valid⟩
    refine ⟨(), ⟨_, stored, rfl⟩, ?_⟩
    rw [stored]
    simp only [bind_ok_iff, require_ok_iff]
    exact ⟨(), mode, forM_ok_iff.mpr valid⟩

/-! ## Valves of a zone -/

/-- What the valves of a zone have to be beside the valves claimed before. -/
structure TrvsFit (config : Config) (heating : HeatingConfig) (claimed : NameMap String)
    (trvs : List ZoneTrv) : Prop where
  fit : ∀ trv ∈ trvs, ∃ options variant, config.TrvFits trv.device options variant
  schedules : ∀ trv ∈ trvs, heating.schedules.contains trv.schedule = true
  free : ∀ trv ∈ trvs, claimed[trv.device]? = none
  distinct : (trvs.map (·.device)).Nodup

/-- The valves of a zone so far have been claimed for it. -/
def TrvsClaimed (zone : HeatingZone) (claimed : NameMap String) (past : List ZoneTrv)
    (trvToZone : NameMap String) : Prop :=
  ∀ device name, trvToZone[device]? = some name ↔
    claimed[device]? = some name ∨ device ∈ past.map (·.device) ∧ name = zone.name

theorem TrvsClaimed.none_iff {zone : HeatingZone} {claimed trvToZone : NameMap String}
    {past : List ZoneTrv} (holds : TrvsClaimed zone claimed past trvToZone) (device : String) :
    trvToZone[device]? = none ↔ claimed[device]? = none ∧ device ∉ past.map (·.device) := by
  constructor
  · intro free
    constructor
    · by_contra taken
      obtain ⟨name, found⟩ := Option.ne_none_iff_exists'.mp taken
      rw [(holds device name).mpr (.inl found)] at free
      cases free
    · intro listed
      rw [(holds device zone.name).mpr (.inr ⟨listed, rfl⟩)] at free
      cases free
  · rintro ⟨free, fresh⟩
    by_contra taken
    obtain ⟨name, found⟩ := Option.ne_none_iff_exists'.mp taken
    rcases (holds device name).mp found with before | ⟨listed, _⟩
    · rw [free] at before
      cases before
    · exact fresh listed

theorem checkTrv_ok_iff {heating : HeatingConfig} {zone : HeatingZone}
    {trvToZone after : NameMap String} {trv : ZoneTrv} :
    config.checkTrv heating zone trvToZone trv = .ok after ↔
      (∃ options variant, config.TrvFits trv.device options variant) ∧
        heating.schedules.contains trv.schedule = true ∧
          claim trvToZone trv.device zone.name (fun other =>
            HeatingSectionError.trvInMultipleZones trv.device other zone.name) = .ok after := by
  unfold checkTrv
  simp only [bind_ok_iff, require_ok_iff]
  constructor
  · rintro ⟨_, device, _, schedule, claimed⟩
    exact ⟨checkTrvDevice_ok_iff.mp device, schedule, claimed⟩
  · rintro ⟨fits, schedule, claimed⟩
    exact ⟨(), checkTrvDevice_ok_iff.mpr fits, (), schedule, claimed⟩

theorem trvsClaimed_step {heating : HeatingConfig} {zone : HeatingZone}
    {claimed : NameMap String} (past : List ZoneTrv) (trv : ZoneTrv)
    (trvToZone after : NameMap String) (holds : TrvsClaimed zone claimed past trvToZone)
    (passed : config.checkTrv heating zone trvToZone trv = .ok after) :
    TrvsClaimed zone claimed (past ++ [trv]) after := by
  obtain ⟨_, _, took⟩ := checkTrv_ok_iff.mp passed
  intro device name
  rw [claimed_iff took, holds, List.map_append, List.mem_append, List.map_singleton,
    List.mem_singleton]
  constructor
  · rintro ((before | ⟨listed, rfl⟩) | ⟨rfl, rfl⟩)
    · exact .inl before
    · exact .inr ⟨.inl listed, rfl⟩
    · exact .inr ⟨.inr rfl, rfl⟩
  · rintro (before | ⟨listed | rfl, rfl⟩)
    · exact .inl (.inl before)
    · exact .inl (.inr ⟨listed, rfl⟩)
    · exact .inr ⟨rfl, rfl⟩

theorem trvsClaimed_nil (zone : HeatingZone) (claimed : NameMap String) :
    TrvsClaimed zone claimed [] claimed := by
  intro device name
  simp

theorem trvsClaimed_of_checkTrvs {heating : HeatingConfig} {zone : HeatingZone}
    {claimed after : NameMap String}
    (passed : zone.trvs.foldlM (config.checkTrv heating zone) claimed = .ok after) :
    TrvsClaimed zone claimed zone.trvs after :=
  foldlM_invariant (TrvsClaimed zone claimed) trvsClaimed_step (trvsClaimed_nil zone claimed) passed

/-- The valves of a zone pass exactly when they fit beside the valves before them. -/
theorem checkTrvs_ok_iff {heating : HeatingConfig} {zone : HeatingZone}
    {claimed : NameMap String} {trvs : List ZoneTrv} :
    (∃ after, trvs.foldlM (config.checkTrv heating zone) claimed = .ok after) ↔
      config.TrvsFit heating claimed trvs := by
  have each := fun past trv trvToZone (holds : TrvsClaimed zone claimed past trvToZone) =>
    (show (∃ after, config.checkTrv heating zone trvToZone trv = .ok after) ↔
      (∃ options variant, config.TrvFits trv.device options variant) ∧
        heating.schedules.contains trv.schedule = true ∧ claimed[trv.device]? = none ∧
          trv.device ∉ past.map (·.device) by
      simp only [checkTrv_ok_iff, claim_ok_iff, holds.none_iff]
      constructor
      · rintro ⟨after, fits, schedule, ⟨free, fresh⟩, _⟩
        exact ⟨fits, schedule, free, fresh⟩
      · rintro ⟨fits, schedule, free, fresh⟩
        exact ⟨_, fits, schedule, ⟨free, fresh⟩, rfl⟩)
  rw [exists_foldlM_ok_iff (TrvsClaimed zone claimed) _ trvsClaimed_step each
    (trvsClaimed_nil zone claimed)]
  constructor
  · intro joins
    exact ⟨forall_split_iff.mp fun front trv back split => (joins front trv back split).1,
      forall_split_iff.mp fun front trv back split => (joins front trv back split).2.1,
      forall_split_iff.mp fun front trv back split => (joins front trv back split).2.2.1,
      nodup_map_iff_split.mpr fun front trv back split => (joins front trv back split).2.2.2⟩
  · rintro ⟨fit, schedules, free, distinct⟩ front trv back split
    have member : trv ∈ trvs := by
      rw [split]
      exact List.mem_append_right _ List.mem_cons_self
    exact ⟨fit trv member, schedules trv member, free trv member,
      nodup_map_iff_split.mp distinct front trv back split⟩

/-! ## Zones -/

/-- What a zone has to be beside the zones before it. -/
structure ZoneFits (config : Config) (heating : HeatingConfig) (past : List HeatingZone)
    (zone : HeatingZone) : Prop where
  name : zone.name ∉ past.map (·.name)
  trvs_nonempty : zone.trvs ≠ []
  relay_fits : ∃ options, config.RelayFits zone options
  relay : zone.relay ∉ past.map (·.relay)
  trvs_fit : ∀ trv ∈ zone.trvs, ∃ options variant, config.TrvFits trv.device options variant
  schedules : ∀ trv ∈ zone.trvs, heating.schedules.contains trv.schedule = true
  distinct : (zone.trvs.map (·.device)).Nodup
  free : ∀ device ∈ zone.trvs.map (·.device),
    device ∉ past.flatMap fun other => other.trvs.map (·.device)

/-- The zones so far have claimed their names, relays and valves. -/
structure ZonesClaimed (past : List HeatingZone) (claims : ZoneClaims) : Prop where
  names : ∀ name, claims.zoneNames[name]? = none ↔ name ∉ past.map (·.name)
  relays : ∀ relay, claims.relayToZone[relay]? = none ↔ relay ∉ past.map (·.relay)
  trvs : ∀ device name, claims.trvToZone[device]? = some name ↔
    ∃ zone ∈ past, zone.name = name ∧ device ∈ zone.trvs.map (·.device)

theorem ZonesClaimed.trv_free_iff {past : List HeatingZone} {claims : ZoneClaims}
    (holds : ZonesClaimed past claims) (device : String) :
    claims.trvToZone[device]? = none ↔
      device ∉ past.flatMap fun other => other.trvs.map (·.device) := by
  rw [List.mem_flatMap]
  constructor
  · rintro free ⟨zone, member, listed⟩
    rw [(holds.trvs device zone.name).mpr ⟨zone, member, rfl, listed⟩] at free
    cases free
  · intro fresh
    by_contra taken
    obtain ⟨name, found⟩ := Option.ne_none_iff_exists'.mp taken
    obtain ⟨zone, member, _, listed⟩ := (holds.trvs device name).mp found
    exact fresh ⟨zone, member, listed⟩

theorem zonesClaimed_nil : ZonesClaimed [] {} where
  names name := by simp
  relays relay := by simp
  trvs device name := by simp

theorem checkZone_ok {heating : HeatingConfig} {claims after : ZoneClaims} {zone : HeatingZone}
    (passed : config.checkZone heating claims zone = .ok after) :
    claim claims.zoneNames zone.name zone.name
        (fun _ => HeatingSectionError.duplicateZoneName zone.name) = .ok after.zoneNames ∧
      zone.trvs ≠ [] ∧ (∃ options, config.RelayFits zone options) ∧
      claim claims.relayToZone zone.relay zone.name
        (fun other => HeatingSectionError.duplicateRelay zone.name zone.relay other) =
          .ok after.relayToZone ∧
      zone.trvs.foldlM (config.checkTrv heating zone) claims.trvToZone = .ok after.trvToZone := by
  unfold checkZone at passed
  simp only [bind_ok_iff, require_ok_iff, pure_ok_iff] at passed
  obtain ⟨names, named, _, nonempty, _, relay, relays, related, trvs, served, rfl⟩ := passed
  exact ⟨named, nonempty, checkRelay_ok_iff.mp relay, related, served⟩

theorem checkZone_of_fits {heating : HeatingConfig} {past : List HeatingZone} {claims : ZoneClaims}
    {zone : HeatingZone} (holds : ZonesClaimed past claims)
    (fits : config.ZoneFits heating past zone) :
    ∃ after, config.checkZone heating claims zone = .ok after := by
  have fit : config.TrvsFit heating claims.trvToZone zone.trvs :=
    ⟨fits.trvs_fit, fits.schedules, fun trv member => (holds.trv_free_iff trv.device).mpr
      (fits.free trv.device (List.mem_map_of_mem member)), fits.distinct⟩
  obtain ⟨trvs, served⟩ := checkTrvs_ok_iff.mpr fit
  unfold checkZone
  simp only [bind_ok_iff, require_ok_iff, pure_ok_iff]
  exact ⟨_, _, claim_ok_iff.mpr ⟨(holds.names zone.name).mpr fits.name, rfl⟩, (),
    fits.trvs_nonempty, (), checkRelay_ok_iff.mpr fits.relay_fits, _,
    claim_ok_iff.mpr ⟨(holds.relays zone.relay).mpr fits.relay, rfl⟩, trvs, served, rfl⟩

theorem zonesClaimed_step {heating : HeatingConfig} (past : List HeatingZone) (zone : HeatingZone)
    (claims after : ZoneClaims) (holds : ZonesClaimed past claims)
    (passed : config.checkZone heating claims zone = .ok after) :
    ZonesClaimed (past ++ [zone]) after := by
  obtain ⟨named, _, _, related, served⟩ := checkZone_ok passed
  constructor
  · intro name
    rw [unclaimed_iff named, holds.names]
    simp
  · intro relay
    rw [unclaimed_iff related, holds.relays]
    simp
  · intro device name
    rw [trvsClaimed_of_checkTrvs served, holds.trvs]
    constructor
    · rintro (⟨other, member, called, listed⟩ | ⟨listed, rfl⟩)
      · exact ⟨other, List.mem_append_left _ member, called, listed⟩
      · exact ⟨zone, List.mem_append_right _ List.mem_cons_self, rfl, listed⟩
    · rintro ⟨other, member, rfl, listed⟩
      rcases List.mem_append.mp member with member | member
      · exact .inl ⟨other, member, rfl, listed⟩
      · cases List.mem_singleton.mp member
        exact .inr ⟨listed, rfl⟩

theorem checkZone_ok_iff {heating : HeatingConfig} (past : List HeatingZone) (zone : HeatingZone)
    (claims : ZoneClaims) (holds : ZonesClaimed past claims) :
    (∃ after, config.checkZone heating claims zone = .ok after) ↔
      config.ZoneFits heating past zone := by
  constructor
  · rintro ⟨after, passed⟩
    obtain ⟨named, nonempty, relay, related, served⟩ := checkZone_ok passed
    have fits := checkTrvs_ok_iff.mp ⟨_, served⟩
    refine ⟨(holds.names _).mp (claim_ok_iff.mp named).1, nonempty, relay,
      (holds.relays _).mp (claim_ok_iff.mp related).1, fits.fit, fits.schedules, fits.distinct,
      fun device listed => ?_⟩
    obtain ⟨trv, member, rfl⟩ := List.mem_map.mp listed
    exact (holds.trv_free_iff trv.device).mp (fits.free trv member)
  · exact checkZone_of_fits holds

/-- The zones pass exactly when each fits beside the zones before it. -/
theorem checkZones_ok_iff {heating : HeatingConfig} :
    (∃ after, heating.zones.foldlM (config.checkZone heating) {} = .ok after) ↔
      ∀ front zone back, heating.zones = front ++ zone :: back →
        config.ZoneFits heating front zone :=
  exists_foldlM_ok_iff ZonesClaimed _ zonesClaimed_step checkZone_ok_iff zonesClaimed_nil

theorem zonesClaimed_of_checkZones {heating : HeatingConfig} {after : ZoneClaims}
    (passed : heating.zones.foldlM (config.checkZone heating) {} = .ok after) :
    ZonesClaimed heating.zones after :=
  foldlM_invariant ZonesClaimed zonesClaimed_step zonesClaimed_nil passed

/-- What the zones have to be together. -/
structure ZonesFit (config : Config) (heating : HeatingConfig) : Prop where
  names : (heating.zones.map (·.name)).Nodup
  relays : (heating.zones.map (·.relay)).Nodup
  trvs : (heating.zones.flatMap fun zone => zone.trvs.map (·.device)).Nodup
  nonempty : ∀ zone ∈ heating.zones, zone.trvs ≠ []
  relays_fit : ∀ zone ∈ heating.zones, ∃ options, config.RelayFits zone options
  trvs_fit : ∀ zone ∈ heating.zones, ∀ trv ∈ zone.trvs, ∃ options variant,
    config.TrvFits trv.device options variant
  schedules : ∀ zone ∈ heating.zones, ∀ trv ∈ zone.trvs,
    heating.schedules.contains trv.schedule = true

theorem zonesFit_iff {heating : HeatingConfig} :
    (∀ front zone back, heating.zones = front ++ zone :: back →
      config.ZoneFits heating front zone) ↔ config.ZonesFit heating := by
  constructor
  · intro each
    have alone : ∀ zone ∈ heating.zones, ∃ front, config.ZoneFits heating front zone := by
      intro zone member
      obtain ⟨front, back, split⟩ := List.append_of_mem member
      exact ⟨front, each front zone back split⟩
    exact {
      names := nodup_map_iff_split.mpr fun front zone back split =>
        (each front zone back split).name
      relays := nodup_map_iff_split.mpr fun front zone back split =>
        (each front zone back split).relay
      trvs := nodup_flatMap_iff_split.mpr fun front zone back split =>
        ⟨(each front zone back split).distinct, (each front zone back split).free⟩
      nonempty := fun zone member => (alone zone member).elim fun _ fits => fits.trvs_nonempty
      relays_fit := fun zone member => (alone zone member).elim fun _ fits => fits.relay_fits
      trvs_fit := fun zone member => (alone zone member).elim fun _ fits => fits.trvs_fit
      schedules := fun zone member => (alone zone member).elim fun _ fits => fits.schedules }
  · intro fits front zone back split
    have member : zone ∈ heating.zones := by
      rw [split]
      exact List.mem_append_right _ List.mem_cons_self
    obtain ⟨distinct, free⟩ := nodup_flatMap_iff_split.mp fits.trvs front zone back split
    exact {
      name := nodup_map_iff_split.mp fits.names front zone back split
      trvs_nonempty := fits.nonempty zone member
      relay_fits := fits.relays_fit zone member
      relay := nodup_map_iff_split.mp fits.relays front zone back split
      trvs_fit := fits.trvs_fit zone member
      schedules := fits.schedules zone member
      distinct := distinct
      free := free }

/-! ## Pressure groups -/

/-- What a pressure group has to be beside the groups before it. -/
structure GroupFits (trvToZone : NameMap String) (past : List PressureGroup)
    (group : PressureGroup) : Prop where
  large : 2 ≤ group.trvs.length
  zone : ∃ name, ∀ trv ∈ group.trvs, trvToZone[trv]? = some name
  distinct : group.trvs.Nodup
  free : ∀ trv ∈ group.trvs, trv ∉ past.flatMap (·.trvs)

/-- The valves of a group so far are of the zone of the group, and are claimed for the group. -/
structure GroupTrvsClaimed (trvToZone trvToGroup : NameMap String) (past : List String)
    (state : Option String × NameMap String) : Prop where
  zone : ∀ name, state.1 = some name → ∀ trv ∈ past, trvToZone[trv]? = some name
  unset : state.1 = none ↔ past = []
  trvs : ∀ trv, state.2[trv]? = none ↔ trvToGroup[trv]? = none ∧ trv ∉ past

theorem checkGroupTrv_ok_iff {trvToZone : NameMap String} {group : PressureGroup}
    {state after : Option String × NameMap String} {trv : String} :
    checkGroupTrv trvToZone group state trv = .ok after ↔
      ∃ name, trvToZone[trv]? = some name ∧ state.1.getD name = name ∧ after.1 = some name ∧
        claim state.2 trv group.name (fun other =>
          HeatingSectionError.trvInMultiplePressureGroups trv other group.name) = .ok after.2 := by
  unfold checkGroupTrv
  simp only [bind_ok_iff, okOr_ok_iff, require_ok_iff, pure_ok_iff]
  constructor
  · rintro ⟨name, found, _, same, trvToGroup, took, rfl⟩
    exact ⟨name, found, same, congrArg some same, took⟩
  · rintro ⟨name, found, same, zone, took⟩
    refine ⟨name, found, (), same, after.2, took, ?_⟩
    rw [same, ← zone]

theorem groupTrvsClaimed_nil (trvToZone trvToGroup : NameMap String) :
    GroupTrvsClaimed trvToZone trvToGroup [] (none, trvToGroup) where
  zone name zone := by cases zone
  unset := by simp
  trvs trv := by simp

theorem groupTrvsClaimed_step {trvToZone trvToGroup : NameMap String} {group : PressureGroup}
    (past : List String) (trv : String) (state after : Option String × NameMap String)
    (holds : GroupTrvsClaimed trvToZone trvToGroup past state)
    (passed : checkGroupTrv trvToZone group state trv = .ok after) :
    GroupTrvsClaimed trvToZone trvToGroup (past ++ [trv]) after := by
  obtain ⟨name, found, same, zone, took⟩ := checkGroupTrv_ok_iff.mp passed
  constructor
  · intro other settled item member
    rw [zone] at settled
    cases settled
    rcases List.mem_append.mp member with member | member
    · cases before : state.1 with
      | none =>
          rw [holds.unset.mp before] at member
          cases member
      | some first =>
          rw [before, Option.getD_some] at same
          rw [same] at before
          exact holds.zone name before item member
    · cases List.mem_singleton.mp member
      exact found
  · rw [zone]
    simp
  · intro other
    rw [unclaimed_iff took, holds.trvs]
    simp [and_assoc]

theorem checkGroupTrv_passes_iff {trvToZone trvToGroup : NameMap String} {group : PressureGroup}
    (past : List String) (trv : String) (state : Option String × NameMap String)
    (holds : GroupTrvsClaimed trvToZone trvToGroup past state) :
    (∃ after, checkGroupTrv trvToZone group state trv = .ok after) ↔
      ∃ name, (∀ other ∈ past ++ [trv], trvToZone[other]? = some name) ∧
        trvToGroup[trv]? = none ∧ trv ∉ past := by
  constructor
  · rintro ⟨after, passed⟩
    have kept := groupTrvsClaimed_step past trv state after holds passed
    obtain ⟨name, _, _, zone, took⟩ := checkGroupTrv_ok_iff.mp passed
    exact ⟨name, kept.zone name zone, (holds.trvs trv).mp (claim_ok_iff.mp took).1⟩
  · rintro ⟨name, zone, free⟩
    have found := zone trv (List.mem_append_right _ List.mem_cons_self)
    have same : state.1.getD name = name := by
      cases settled : state.1 with
      | none => rfl
      | some first =>
          obtain ⟨other, member⟩ := List.exists_mem_of_ne_nil past fun empty => by
            rw [holds.unset.mpr empty] at settled
            cases settled
          have here := holds.zone first settled other member
          rw [zone other (List.mem_append_left _ member)] at here
          exact (Option.some.inj here).symm
    exact ⟨(some name, _), checkGroupTrv_ok_iff.mpr ⟨name, found, same, rfl,
      claim_ok_iff.mpr ⟨(holds.trvs trv).mpr free, rfl⟩⟩⟩

/-- The valves of a group pass exactly when they are of one zone and not in use. -/
theorem checkGroupTrvs_ok_iff {trvToZone trvToGroup : NameMap String} {group : PressureGroup}
    {trvs : List String} (nonempty : trvs ≠ []) :
    (∃ after, trvs.foldlM (checkGroupTrv trvToZone group) (none, trvToGroup) = .ok after) ↔
      (∃ name, ∀ trv ∈ trvs, trvToZone[trv]? = some name) ∧ trvs.Nodup ∧
        ∀ trv ∈ trvs, trvToGroup[trv]? = none := by
  rw [exists_foldlM_ok_iff (GroupTrvsClaimed trvToZone trvToGroup) _ groupTrvsClaimed_step
    checkGroupTrv_passes_iff (groupTrvsClaimed_nil trvToZone trvToGroup)]
  constructor
  · intro joins
    obtain ⟨front, last, split⟩ := (List.eq_nil_or_concat trvs).resolve_left nonempty
    rw [List.concat_eq_append] at split
    obtain ⟨name, zone, _⟩ := joins front last [] split
    refine ⟨⟨name, fun trv member => zone trv ?_⟩, ?_,
      forall_split_iff.mp fun front trv back split => (joins front trv back split).elim
        fun name joined => joined.2.1⟩
    · rw [split] at member
      exact member
    · rw [← List.map_id trvs]
      refine nodup_map_iff_split.mpr fun front trv back split => ?_
      obtain ⟨_, _, _, fresh⟩ := joins front trv back split
      rw [List.map_id]
      exact fresh
  · rintro ⟨⟨name, zone⟩, distinct, free⟩ front trv back rfl
    rw [List.nodup_append'] at distinct
    refine ⟨name, fun other member => zone other ?_, free trv (List.mem_append_right _
      List.mem_cons_self), fun before => distinct.2.2 before List.mem_cons_self⟩
    rcases List.mem_append.mp member with member | member
    · exact List.mem_append_left _ member
    · cases List.mem_singleton.mp member
      exact List.mem_append_right _ List.mem_cons_self

/-- The groups so far have claimed their valves. -/
def GroupsClaimed (past : List PressureGroup) (trvToGroup : NameMap String) : Prop :=
  ∀ trv, trvToGroup[trv]? = none ↔ trv ∉ past.flatMap (·.trvs)

theorem checkPressureGroup_ok {trvToZone trvToGroup after : NameMap String}
    {group : PressureGroup}
    (passed : checkPressureGroup trvToZone trvToGroup group = .ok after) :
    2 ≤ group.trvs.length ∧ ∃ state,
      group.trvs.foldlM (checkGroupTrv trvToZone group) (none, trvToGroup) = .ok state ∧
        state.2 = after := by
  unfold checkPressureGroup at passed
  simp only [bind_ok_iff, require_ok_iff, pure_ok_iff] at passed
  obtain ⟨_, large, state, served, kept⟩ := passed
  exact ⟨large, state, served, kept⟩

theorem groupsClaimed_step {trvToZone : NameMap String} (past : List PressureGroup)
    (group : PressureGroup) (trvToGroup after : NameMap String)
    (holds : GroupsClaimed past trvToGroup)
    (passed : checkPressureGroup trvToZone trvToGroup group = .ok after) :
    GroupsClaimed (past ++ [group]) after := by
  obtain ⟨_, state, served, rfl⟩ := checkPressureGroup_ok passed
  have claimed := foldlM_invariant (GroupTrvsClaimed trvToZone trvToGroup) groupTrvsClaimed_step
    (groupTrvsClaimed_nil trvToZone trvToGroup) served
  intro trv
  rw [claimed.trvs, holds, List.nil_append, List.flatMap_append, List.flatMap_singleton,
    List.mem_append, not_or]

theorem checkPressureGroup_ok_iff {trvToZone : NameMap String} (past : List PressureGroup)
    (group : PressureGroup) (trvToGroup : NameMap String)
    (holds : GroupsClaimed past trvToGroup) :
    (∃ after, checkPressureGroup trvToZone trvToGroup group = .ok after) ↔
      GroupFits trvToZone past group := by
  constructor
  · rintro ⟨after, passed⟩
    obtain ⟨large, state, served, _⟩ := checkPressureGroup_ok passed
    have nonempty : group.trvs ≠ [] := List.ne_nil_of_length_pos (by omega)
    obtain ⟨zone, distinct, free⟩ := (checkGroupTrvs_ok_iff nonempty).mp ⟨state, served⟩
    exact ⟨large, zone, distinct, fun trv member => (holds trv).mp (free trv member)⟩
  · rintro ⟨large, zone, distinct, free⟩
    have nonempty : group.trvs ≠ [] := List.ne_nil_of_length_pos (by omega)
    obtain ⟨state, served⟩ :=
      (@checkGroupTrvs_ok_iff trvToZone trvToGroup group group.trvs nonempty).mpr
        ⟨zone, distinct, fun trv member => (holds trv).mpr (free trv member)⟩
    refine ⟨state.2, ?_⟩
    unfold checkPressureGroup
    simp only [bind_ok_iff, require_ok_iff, pure_ok_iff]
    exact ⟨(), large, state, served, rfl⟩

/-- The groups pass exactly when each fits beside the groups before it. -/
theorem checkPressureGroups_ok_iff {trvToZone : NameMap String} {groups : List PressureGroup} :
    (∃ after, groups.foldlM (checkPressureGroup trvToZone) ∅ = .ok after) ↔
      ∀ front group back, groups = front ++ group :: back → GroupFits trvToZone front group := by
  have unclaimed : GroupsClaimed [] ∅ := by
    intro trv
    simp
  exact exists_foldlM_ok_iff GroupsClaimed _ groupsClaimed_step checkPressureGroup_ok_iff unclaimed

/-! ## The section -/

theorem validateSchedules_ok_iff {heating : HeatingConfig} :
    heating.validateSchedules = .ok () ↔
      (∀ entry ∈ heating.schedules.toList, entry.2.TilesWeek) ∧
        0 < heating.heatPump.minCycleSeconds ∧ 0 < heating.heatPump.minPauseSeconds ∧
        heating.heatPump.minDemandPercent ≤ 100 ∧
        heating.heatPump.minDemandPercentFallback ≤ 100 ∧
        0 < heating.openWindow.detectionMinutes ∧ 0 < heating.openWindow.inhibitMinutes := by
  unfold HeatingConfig.validateSchedules
  simp only [then_ok_iff, require_ok_iff, forM_ok_iff, mapError_ok_iff, Nat.pos_iff_ne_zero,
    TemperatureSchedule.validate_eq_ok_iff]

theorem checkEnergyMeter_ok_iff {heating : Heating} : config.checkEnergyMeter heating = .ok () ↔
    ∀ meter, heating.energyMeter = some meter → config.hasKind .powerMeter meter = true := by
  unfold checkEnergyMeter
  cases heating.energyMeter with
  | none => simp
  | some meter => simp

/-- The zone that a claim stands for is the one with its name. -/
theorem one_zone_iff {heating : HeatingConfig} {claims : ZoneClaims}
    (holds : ZonesClaimed heating.zones claims) (names : (heating.zones.map (·.name)).Nodup)
    {trvs : List String} (nonempty : trvs ≠ []) :
    (∃ name, ∀ trv ∈ trvs, claims.trvToZone[trv]? = some name) ↔
      ∃ zone ∈ heating.zones, ∀ device ∈ trvs, device ∈ zone.trvs.map (·.device) := by
  constructor
  · rintro ⟨name, claimed⟩
    obtain ⟨first, member⟩ := List.exists_mem_of_ne_nil trvs nonempty
    obtain ⟨zone, here, named, _⟩ := (holds.trvs first name).mp (claimed first member)
    refine ⟨zone, here, fun device listed => ?_⟩
    obtain ⟨other, there, called, served⟩ := (holds.trvs device name).mp (claimed device listed)
    rw [List.inj_on_of_nodup_map names here there (named.trans called.symm)]
    exact served
  · rintro ⟨zone, here, served⟩
    exact ⟨zone.name, fun trv member =>
      (holds.trvs trv zone.name).mpr ⟨zone, here, rfl, served trv member⟩⟩

theorem groupsFit_iff {heating : HeatingConfig} {claims : ZoneClaims}
    (holds : ZonesClaimed heating.zones claims) (names : (heating.zones.map (·.name)).Nodup) :
    (∀ front group back, heating.pressureGroups = front ++ group :: back →
      GroupFits claims.trvToZone front group) ↔
        (∀ group ∈ heating.pressureGroups, 2 ≤ group.trvs.length) ∧
          (∀ group ∈ heating.pressureGroups, ∃ zone ∈ heating.zones,
            ∀ device ∈ group.trvs, device ∈ zone.trvs.map (·.device)) ∧
          (heating.pressureGroups.flatMap (·.trvs)).Nodup := by
  have nonempty : ∀ group : PressureGroup, 2 ≤ group.trvs.length → group.trvs ≠ [] := by
    intro group large
    exact List.ne_nil_of_length_pos (by omega)
  constructor
  · intro each
    have alone : ∀ group ∈ heating.pressureGroups, ∃ front,
        GroupFits claims.trvToZone front group := by
      intro group member
      obtain ⟨front, back, split⟩ := List.append_of_mem member
      exact ⟨front, each front group back split⟩
    refine ⟨fun group member => (alone group member).elim fun _ fits => fits.large,
      fun group member => ?_, nodup_flatMap_iff_split.mpr fun front group back split =>
        ⟨(each front group back split).distinct, (each front group back split).free⟩⟩
    obtain ⟨_, fits⟩ := alone group member
    exact (one_zone_iff holds names (nonempty group fits.large)).mp fits.zone
  · rintro ⟨large, zone, distinct⟩ front group back split
    have member : group ∈ heating.pressureGroups := by
      rw [split]
      exact List.mem_append_right _ List.mem_cons_self
    obtain ⟨mine, free⟩ := nodup_flatMap_iff_split.mp distinct front group back split
    exact ⟨large group member, (one_zone_iff holds names (nonempty group (large group member))).mpr
      (zone group member), mine, free⟩

/-- The heating section is accepted exactly when it fits the device catalog, and is then used as
it stands. -/
theorem checkHeating_ok_iff {heating : Heating} {result : HeatingConfig} :
    config.checkHeating heating = .ok result ↔
      config.HeatingFits heating ∧ result = heating.toHeatingConfig := by
  unfold checkHeating
  rw [then_ok_iff, then_ok_iff, checkEnergyMeter_ok_iff, validateSchedules_ok_iff]
  simp only [bind_ok_iff, pure_ok_iff]
  constructor
  · rintro ⟨meter, ⟨schedules, cycle, pause, demand, fallback, detection, inhibit⟩, claims, zones,
      _, groups, rfl⟩
    have claimed := zonesClaimed_of_checkZones zones
    have fits := zonesFit_iff.mp (checkZones_ok_iff.mp ⟨_, zones⟩)
    have grouped :=
      (groupsFit_iff claimed fits.names).mp (checkPressureGroups_ok_iff.mp ⟨_, groups⟩)
    refine ⟨⟨?_, demand, fallback, meter, fits.relays_fit, fits.trvs_fit⟩, rfl⟩
    exact {
      zone_names_nodup := fits.names
      relays_nodup := fits.relays
      trvs_nodup := fits.trvs
      trvs_nonempty := fits.nonempty
      schedules_exist := fits.schedules
      groups_large := grouped.1
      groups_in_zone := grouped.2.1
      group_trvs_nodup := grouped.2.2
      schedules_valid := schedules
      min_cycle_pos := cycle
      min_pause_pos := pause
      detection_pos := detection
      inhibit_pos := inhibit }
  · rintro ⟨⟨valid, demand, fallback, meter, relays, trvs⟩, rfl⟩
    obtain ⟨claims, zones⟩ := checkZones_ok_iff.mpr (zonesFit_iff.mpr
      ⟨valid.zone_names_nodup, valid.relays_nodup, valid.trvs_nodup, valid.trvs_nonempty, relays,
        trvs, valid.schedules_exist⟩)
    obtain ⟨after, groups⟩ := checkPressureGroups_ok_iff.mpr
      ((groupsFit_iff (zonesClaimed_of_checkZones zones) valid.zone_names_nodup).mpr
        ⟨valid.groups_large, valid.groups_in_zone, valid.group_trvs_nodup⟩)
    exact ⟨meter, ⟨valid.schedules_valid, valid.min_cycle_pos, valid.min_pause_pos, demand,
      fallback, valid.detection_pos, valid.inhibit_pos⟩, claims, zones, after, groups, rfl⟩

end Config

end MqttController
