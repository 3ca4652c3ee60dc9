import Mathlib.Data.List.Find
import MqttController.Frames

/-!
# What kill switches do

A reading is taken by the rules of a plug in order, up to the first one that is due.  Every
operation is described by what it does to one plug and its rules.
-/

namespace MqttController

open Std Emission

/-! ## One rule -/

namespace KillSwitchRule

/-- The state of the rule among the states of a plug; a rule without one is inactive. -/
def stateIn (states : NameMap KillSwitchRuleState) (rule : KillSwitchRule) : KillSwitchRuleState :=
  (states[rule.name]?).getD .inactive

/-- The rule is idle for its holdoff and the reading is below its threshold. -/
def due (power : ℚ) (ts : Instant) (states : NameMap KillSwitchRuleState) (rule : KillSwitchRule) :
    Bool :=
  decide (power < rule.thresholdWatts) &&
    match rule.stateIn states with
    | .idle since => decide (durationSince ts since ≥ rule.holdoff)
    | _ => false

/-- The state after a reading that does not fire the rule. -/
def take (power : ℚ) (ts : Instant) (rule : KillSwitchRule) (state : KillSwitchRuleState) :
    KillSwitchRuleState :=
  if power < rule.thresholdWatts then
    match state with
    | .armed => .idle ts
    | other => other
  else .armed

/-- The state after arming. -/
def armedState (power : Option ℚ) (ts : Instant) (rule : KillSwitchRule)
    (state : KillSwitchRuleState) : KillSwitchRuleState :=
  match state with
  | .suppressed => .suppressed
  | .armed => .armed
  | _ =>
      if power.any fun current => decide (current < rule.thresholdWatts) then .idle ts else .armed

variable {power : ℚ} {ts : Instant} {states : NameMap KillSwitchRuleState} {rule : KillSwitchRule}

theorem due_iff : rule.due power ts states = true ↔ power < rule.thresholdWatts ∧
    ∃ since, rule.stateIn states = .idle since ∧ durationSince ts since ≥ rule.holdoff := by
  unfold due
  rw [Bool.and_eq_true, decide_eq_true_iff]
  refine and_congr_right fun _ => ?_
  constructor
  · intro elapsed
    split at elapsed
    · rename_i since idle
      exact ⟨since, idle, of_decide_eq_true elapsed⟩
    · cases elapsed
  · rintro ⟨since, idle, elapsed⟩
    rw [idle]
    exact decide_eq_true elapsed

theorem due_congr {other : NameMap KillSwitchRuleState}
    (same : other[rule.name]? = states[rule.name]?) :
    rule.due power ts other = rule.due power ts states := by
  unfold due stateIn
  rw [same]

theorem scan_cons (rest : List KillSwitchRule) :
    scan power ts (rule :: rest) states =
      if rule.due power ts states then
        (states.insert rule.name (rule.take power ts (rule.stateIn states)), rule.target.toList)
      else
        scan power ts rest
          (states.insert rule.name (rule.take power ts (rule.stateIn states))) := by
  rw [scan]
  by_cases below : power < rule.thresholdWatts
  · have found : (states[rule.name]?).getD .inactive = rule.stateIn states := rfl
    simp only [below, if_true, found, due, take, decide_true, Bool.true_and]
    cases rule.stateIn states <;> simp
  · simp [below, due, take]

/-- No rule before this one is due. -/
def Reached (power : ℚ) (ts : Instant) (states : NameMap KillSwitchRuleState)
    (rules : List KillSwitchRule) (rule : KillSwitchRule) : Prop :=
  ∃ before after, rules = before ++ rule :: after ∧
    ∀ other ∈ before, other.due power ts states = false

private theorem due_insert_of_ne {first : KillSwitchRule} (state : KillSwitchRuleState)
    (different : first.name ≠ rule.name) :
    rule.due power ts (states.insert first.name state) = rule.due power ts states := by
  apply due_congr
  rw [TreeMap.getElem?_insert, if_neg]
  simpa using different

/-- A rule that the scan reaches takes the reading. -/
theorem scan_reached {rules : List KillSwitchRule} (names : (rules.map (·.name)).Nodup)
    (reached : Reached power ts states rules rule) :
    (scan power ts rules states).1[rule.name]? =
      some (rule.take power ts (rule.stateIn states)) := by
  obtain ⟨before, after, split, calm⟩ := reached
  subst split
  induction before generalizing states with
  | nil =>
      rw [List.nil_append, List.map_cons, List.nodup_cons] at names
      -- The rest of the scan leaves the state of the rule alone.
      have kept : ∀ (rest : List KillSwitchRule) (states : NameMap KillSwitchRuleState),
          rule.name ∉ rest.map (·.name) →
            (scan power ts rest states).1[rule.name]? = states[rule.name]? := by
        intro rest
        induction rest with
        | nil => exact fun _ _ => rfl
        | cons next rest ih =>
            intro states absent
            rw [List.map_cons, List.mem_cons, not_or] at absent
            have skipped : (states.insert next.name
                (next.take power ts (next.stateIn states)))[rule.name]? = states[rule.name]? := by
              rw [TreeMap.getElem?_insert, if_neg]
              simpa using Ne.symm absent.1
            rw [scan_cons]
            split
            · exact skipped
            · rw [ih _ absent.2, skipped]
      rw [List.nil_append, scan_cons]
      split
      · exact TreeMap.getElem?_insert_self
      · rw [kept after _ names.1]
        exact TreeMap.getElem?_insert_self
  | cons first before ih =>
      rw [List.cons_append, List.map_cons, List.nodup_cons] at names
      have listed : ∀ other ∈ before ++ rule :: after, first.name ≠ other.name :=
        fun other member same => names.1 (List.mem_map.mpr ⟨other, member, same.symm⟩)
      have different := listed rule (List.mem_append_right _ List.mem_cons_self)
      rw [List.cons_append, scan_cons, if_neg (by simp [calm first List.mem_cons_self]),
        ih (fun other member => ?_) names.2]
      · unfold stateIn
        rw [TreeMap.getElem?_insert, if_neg]
        simpa using different
      · rw [due_insert_of_ne _ (listed other (List.mem_append_left _ member))]
        exact calm other (List.mem_cons_of_mem _ member)

/-- A rule behind a due one keeps its state. -/
theorem scan_blocked {rules before after : List KillSwitchRule}
    (names : (rules.map (·.name)).Nodup) (split : rules = before ++ rule :: after)
    (blocked : ∃ other ∈ before, other.due power ts states = true) :
    (scan power ts rules states).1[rule.name]? = states[rule.name]? := by
  subst split
  induction before generalizing states with
  | nil => simp at blocked
  | cons first before ih =>
      rw [List.cons_append, List.map_cons, List.nodup_cons] at names
      have listed : ∀ other ∈ before ++ rule :: after, first.name ≠ other.name :=
        fun other member same => names.1 (List.mem_map.mpr ⟨other, member, same.symm⟩)
      have different := listed rule (List.mem_append_right _ List.mem_cons_self)
      have skipped : (states.insert first.name
          (first.take power ts (first.stateIn states)))[rule.name]? = states[rule.name]? := by
        rw [TreeMap.getElem?_insert, if_neg]
        simpa using different
      rw [List.cons_append, scan_cons]
      by_cases stops : first.due power ts states
      · rw [if_pos stops]
        exact skipped
      · obtain ⟨other, member, due⟩ := blocked
        rcases List.mem_cons.mp member with rfl | member
        · exact absurd due stops
        · rw [if_neg stops, ih ⟨other, member, ?_⟩ names.2, skipped]
          rwa [due_insert_of_ne _ (listed other (List.mem_append_left _ member))]

/-- The scan fires the first due rule. -/
theorem scan_fired {rules : List KillSwitchRule} (names : (rules.map (·.name)).Nodup) :
    (scan power ts rules states).2 =
      ((rules.find? fun rule => rule.due power ts states).bind (·.target)).toList := by
  induction rules generalizing states with
  | nil => rfl
  | cons first rest ih =>
      rw [List.map_cons, List.nodup_cons] at names
      rw [scan_cons]
      by_cases stops : first.due power ts states
      · simp [stops]
      · have same : ∀ other ∈ rest, other.due power ts (states.insert first.name
            (first.take power ts (first.stateIn states))) = other.due power ts states :=
          fun other member => due_insert_of_ne _ fun same =>
            names.1 (List.mem_map.mpr ⟨other, member, same.symm⟩)
        rw [if_neg stops, ih names.2, List.find?_cons_of_neg (by simpa using stops),
          List.find?_congr same]

/-- A reading leaves a rule inactive only if the rule was inactive and the reading is below its
threshold. -/
theorem take_eq_inactive_iff {watts : ℚ} {ts : Instant} {rule : KillSwitchRule}
    {state : KillSwitchRuleState} :
    rule.take watts ts state = .inactive ↔ watts < rule.thresholdWatts ∧ state = .inactive := by
  unfold take
  split
  · rename_i below
    cases state <;> simp [below]
  · rename_i above
    simp [above]

theorem arm_eq (power : Option ℚ) :
    arm power ts states rule =
      states.insert rule.name (rule.armedState power ts (rule.stateIn states)) := by
  unfold arm armedState stateIn
  cases (states[rule.name]?).getD .inactive with
  | suppressed => rfl
  | armed => rfl
  | inactive => exact (apply_ite (states.insert rule.name) _ _ _).symm
  | idle since => exact (apply_ite (states.insert rule.name) _ _ _).symm

/-- Arming rules with different names arms each of them. -/
theorem arm_each {rules : List KillSwitchRule} (names : (rules.map (·.name)).Nodup)
    (power : Option ℚ) (member : rule ∈ rules) :
    (rules.foldl (arm power ts) states)[rule.name]? =
      some (rule.armedState power ts (rule.stateIn states)) := by
  induction rules generalizing states with
  | nil => cases member
  | cons first rest ih =>
      rw [List.map_cons, List.nodup_cons] at names
      have others : ∀ (rest : List KillSwitchRule) (states : NameMap KillSwitchRuleState),
          first.name ∉ rest.map (·.name) →
            (rest.foldl (arm power ts) states)[first.name]? = states[first.name]? := by
        intro rest
        induction rest with
        | nil => exact fun _ _ => rfl
        | cons next rest ih =>
            intro states absent
            rw [List.map_cons, List.mem_cons, not_or] at absent
            rw [List.foldl_cons, ih _ absent.2, arm_eq, TreeMap.getElem?_insert, if_neg]
            simpa using Ne.symm absent.1
      rw [List.foldl_cons]
      rcases List.mem_cons.mp member with rfl | later
      · rw [others rest _ names.1, arm_eq]
        exact TreeMap.getElem?_insert_self
      · have different : first.name ≠ rule.name := fun same =>
          names.1 (List.mem_map.mpr ⟨rule, later, same.symm⟩)
        rw [ih names.2 later, arm_eq]
        unfold stateIn
        rw [TreeMap.getElem?_insert, if_neg]
        simpa using different

end KillSwitchRule

/-! ## One plug -/

namespace PlugEntity

variable (plug : PlugEntity) (rules : List KillSwitchRule) (on : Option Bool) (power : Option ℚ)
  (watts : ℚ) (ts : Instant)

/-- The state of a rule of the plug. -/
def switchAt (rule : KillSwitchRule) : KillSwitchRuleState := rule.stateIn plug.killSwitchRules

/-- Arm the rules of the plug. -/
def armSwitches : PlugEntity :=
  { plug with killSwitchRules := rules.foldl (KillSwitchRule.arm power ts) plug.killSwitchRules }

/-- Take a reading through the rules. -/
def takeReading : PlugEntity :=
  { plug with killSwitchRules := (KillSwitchRule.scan watts ts rules plug.killSwitchRules).1 }

/-- The rule that a reading fires. -/
def firedRule : Option KillSwitchRule :=
  (rules.find? fun rule => rule.due watts ts plug.killSwitchRules).filter (·.target.isSome)

/-- Turned off by a kill switch of its own. -/
def killed : PlugEntity := plug.suppressAllKillSwitches.command .off .rule ts

/-- A report says on and the plug was not known to be on. -/
def TurnsOn : Prop := on = some true ∧ (!plug.isOn ∨ plug.actual.freshness = .unknown)

instance : Decidable (plug.TurnsOn on) := by
  unfold TurnsOn
  infer_instance

/-- The plug after a report, before its rules take the reading. -/
def reported : PlugEntity :=
  let observed := plug.observe on power ts
  let armed := if plug.TurnsOn on then observed.armSwitches rules power ts else observed
  if on.isSome then armed.maybeConfirm ts else armed

/-- What a report makes of the plug, and the rule it fires. -/
inductive Report : PlugEntity → Option KillSwitchRule → Prop
  | off (reports : on = some false) :
      Report ((plug.observe on power ts).onOffClearKillSwitches.maybeConfirm ts) none
  | unused (reports : on ≠ some false) (notOn : (plug.observe on power ts).isOn = false) :
      Report (plug.observe on power ts) none
  | unread (reports : on ≠ some false) (isOn : (plug.observe on power ts).isOn = true)
      (unread : (plug.observe on power ts).power.value = none) :
      Report (plug.reported rules on power ts) none
  | read {watts : ℚ} (reports : on ≠ some false) (isOn : (plug.observe on power ts).isOn = true)
      (read : (plug.observe on power ts).power.value = some watts)
      (calm : (plug.reported rules on power ts).firedRule rules watts ts = none) :
      Report ((plug.reported rules on power ts).takeReading rules watts ts) none
  | fire {watts : ℚ} {rule : KillSwitchRule} (reports : on ≠ some false)
      (isOn : (plug.observe on power ts).isOn = true)
      (read : (plug.observe on power ts).power.value = some watts)
      (fires : (plug.reported rules on power ts).firedRule rules watts ts = some rule) :
      Report (((plug.reported rules on power ts).takeReading rules watts ts).killed ts) (some rule)

/-! ### What each part keeps -/

@[simp]
theorem target_observe : (plug.observe on power ts).target = plug.target := by
  cases on <;> cases power <;> rfl

@[simp]
theorem killSwitchRules_observe :
    (plug.observe on power ts).killSwitchRules = plug.killSwitchRules := by
  cases on <;> cases power <;> rfl

theorem actual_observe : (plug.observe on power ts).actual =
    on.elim plug.actual fun on => plug.actual.update ⟨on⟩ ts := by
  cases on <;> cases power <;> rfl

theorem power_observe : (plug.observe on power ts).power =
    power.elim plug.power fun watts => plug.power.update (max watts 0) ts := by
  cases on <;> cases power <;> rfl

/-- Only the target of a plug is confirmed. -/
theorem maybeConfirm_eq : plug.maybeConfirm ts = plug ∨
    plug.maybeConfirm ts = { plug with target := plug.target.confirm ts } := by
  unfold maybeConfirm
  dsimp only
  split_ifs
  · exact .inr rfl
  · exact .inl rfl

@[simp]
theorem actual_maybeConfirm : (plug.maybeConfirm ts).actual = plug.actual := by
  rcases plug.maybeConfirm_eq ts with same | same <;> rw [same]

@[simp]
theorem power_maybeConfirm : (plug.maybeConfirm ts).power = plug.power := by
  rcases plug.maybeConfirm_eq ts with same | same <;> rw [same]

@[simp]
theorem killSwitchRules_maybeConfirm :
    (plug.maybeConfirm ts).killSwitchRules = plug.killSwitchRules := by
  rcases plug.maybeConfirm_eq ts with same | same <;> rw [same]

@[simp]
theorem actual_reported : (plug.reported rules on power ts).actual =
    (plug.observe on power ts).actual := by
  unfold reported
  dsimp only
  split_ifs <;> simp [armSwitches]

@[simp]
theorem power_reported : (plug.reported rules on power ts).power =
    (plug.observe on power ts).power := by
  unfold reported
  dsimp only
  split_ifs <;> simp [armSwitches]

theorem killSwitchRules_reported : (plug.reported rules on power ts).killSwitchRules =
    if plug.TurnsOn on then
      rules.foldl (KillSwitchRule.arm power ts) plug.killSwitchRules
    else plug.killSwitchRules := by
  unfold reported
  dsimp only
  split_ifs <;> simp [armSwitches]

theorem switchAt_suppressAll (rule : KillSwitchRule) :
    plug.suppressAllKillSwitches.killSwitchRules[rule.name]? =
      plug.killSwitchRules[rule.name]?.map fun _ => .suppressed :=
  OrderedMap.getElem?_mapValues _ _ _

/-- Turning off forgets the progress of a rule unless it is suppressed. -/
theorem switchAt_onOffClear (rule : KillSwitchRule) :
    plug.onOffClearKillSwitches.switchAt rule =
      if plug.switchAt rule = .suppressed then .suppressed else .inactive := by
  unfold switchAt KillSwitchRule.stateIn onOffClearKillSwitches
  rw [OrderedMap.getElem?_mapValues]
  cases plug.killSwitchRules[rule.name]? with
  | none => simp
  | some state => cases state <;> simp

/-- A plug that was turned off by its kill switch has its known rules suppressed. -/
theorem switchAt_killed (rule : KillSwitchRule) :
    (plug.killed ts).killSwitchRules[rule.name]? =
      plug.killSwitchRules[rule.name]?.map fun _ => .suppressed := by
  unfold killed command onOffClearKillSwitches
  dsimp only
  rw [OrderedMap.getElem?_mapValues, switchAt_suppressAll, Option.map_map]
  rfl

variable {plug rules watts ts} {rule : KillSwitchRule}

/-- A rule of the plug takes a reading, or an earlier rule is due and it is left alone. -/
theorem takeReading_cases (plug : PlugEntity) (watts : ℚ) (ts : Instant)
    (names : (rules.map (·.name)).Nodup) (member : rule ∈ rules) :
    (KillSwitchRule.Reached watts ts plug.killSwitchRules rules rule ∧
      (plug.takeReading rules watts ts).killSwitchRules[rule.name]? =
        some (rule.take watts ts (plug.switchAt rule))) ∨
    (¬ KillSwitchRule.Reached watts ts plug.killSwitchRules rules rule ∧
      (∃ due ∈ rules, due.due watts ts plug.killSwitchRules = true) ∧
      (plug.takeReading rules watts ts).killSwitchRules[rule.name]? =
        plug.killSwitchRules[rule.name]?) := by
  by_cases reached : KillSwitchRule.Reached watts ts plug.killSwitchRules rules rule
  · exact .inl ⟨reached, KillSwitchRule.scan_reached names reached⟩
  · obtain ⟨before, after, split⟩ := List.append_of_mem member
    have blocked : ∃ other ∈ before, other.due watts ts plug.killSwitchRules = true := by
      by_contra none
      refine reached ⟨before, after, split, fun other inside => ?_⟩
      cases due : other.due watts ts plug.killSwitchRules with
      | false => rfl
      | true => exact absurd ⟨other, inside, due⟩ none
    obtain ⟨other, inside, due⟩ := blocked
    refine .inr
      ⟨reached, ⟨other, ?_, due⟩, KillSwitchRule.scan_blocked names split ⟨other, inside, due⟩⟩
    rw [split]
    exact List.mem_append_left _ inside

theorem switchAt_of_lookup {state : KillSwitchRuleState}
    (found : plug.killSwitchRules[rule.name]? = some state) : plug.switchAt rule = state := by
  unfold switchAt KillSwitchRule.stateIn
  rw [found, Option.getD_some]

theorem switchAt_armSwitches (plug : PlugEntity) {rules : List KillSwitchRule}
    (names : (rules.map (·.name)).Nodup) (power : Option ℚ) (ts : Instant) (member : rule ∈ rules) :
    (plug.armSwitches rules power ts).switchAt rule =
      rule.armedState power ts (plug.switchAt rule) :=
  switchAt_of_lookup (KillSwitchRule.arm_each names power member)

/-- A rule without a state is inactive. -/
theorem isSome_of_switchAt (active : plug.switchAt rule ≠ .inactive) :
    (plug.killSwitchRules[rule.name]?).isSome := by
  unfold switchAt KillSwitchRule.stateIn at active
  cases found : plug.killSwitchRules[rule.name]? with
  | none => simp [found] at active
  | some state => rfl

/-- What a reading leaves of a rule that was not inactive. -/
theorem takeReading_active (names : (rules.map (·.name)).Nodup) {watts : ℚ} {rule : KillSwitchRule}
    (member : rule ∈ rules) (active : plug.switchAt rule ≠ .inactive) :
    (plug.takeReading rules watts ts).switchAt rule ≠ .inactive := by
  rcases takeReading_cases plug watts ts names member with taken | left
  · rw [switchAt_of_lookup taken.2]
    exact fun inactive => active (KillSwitchRule.take_eq_inactive_iff.mp inactive).2
  · unfold switchAt KillSwitchRule.stateIn at active ⊢
    rwa [left.2.2]

end PlugEntity

/-! ## The rules of a plug -/

namespace Env

variable {env : Env}

/-- The power-below bindings of a known plug have different names, watch it and target it only. -/
theorem powerBelowBindings_fit {device : String} {idx : DeviceIdx}
    (known : env.topology.deviceIdx device = some idx) :
    ((env.powerBelowBindings idx).map (·.name)).Nodup ∧
      ∀ binding ∈ env.powerBelowBindings idx, (∃ watts holdoff,
        binding.trigger = .powerBelow idx watts holdoff) ∧
          ∀ target, binding.effect.targetPlug = some target → target = idx := by
  obtain ⟨named, _⟩ := TopologyTables.deviceName_of_deviceIdx known
  unfold Automation.powerBelowBindings
  rw [named]
  split
  · rename_i bindings stored
    obtain ⟨value, overridden⟩ := env.fit.bindings device bindings stored
    obtain ⟨same, resolved, accepted⟩ := env.fit.plugs device value overridden
    rw [stored] at resolved
    cases resolved
    obtain ⟨plug, timed, found, _, times, shape⟩ := validatePlugOverride_ok accepted
    have same : plug = idx := by
      have found : env.topology.deviceIdx device = some plug := found
      rw [known] at found
      exact (Option.some.inj found).symm
    subst same
    have none : ∀ keep : ResolvedBinding → Bool,
        (∀ binding time, binding.trigger = .at time → keep binding = false) →
          timed.filter keep = [] := by
      intro keep drops
      rw [List.filter_eq_nil_iff]
      intro binding member
      obtain ⟨⟨time, triggered⟩, _⟩ := times binding member
      simp [drops binding time triggered]
    rcases shape with rfl | ⟨name, watts, holdoff, rfl⟩
    · rw [none]
      · simp
      · intro binding time triggered
        rw [triggered]
    · rw [List.filter_append, none]
      · simp [ResolvedEffect.targetPlug]
      · intro binding time triggered
        rw [triggered]
  · unfold TopologyTables.bindingsForPowerBelow
    refine ⟨env.topology.valid.binding_names_nodup.sublist (List.filter_sublist.map _), ?_⟩
    intro binding member
    obtain ⟨listed, watches⟩ := List.mem_filter.mp member
    split at watches
    · rename_i plug watts holdoff triggered
      obtain rfl := eq_of_beq watches
      obtain ⟨_, _, _, targets⟩ :=
        env.topology.valid.power_below_fits binding listed plug watts holdoff triggered
      exact ⟨⟨watts, holdoff, triggered⟩, targets⟩
    · cases watches

private theorem map_filterMap_sublist {α β γ : Type} {pick : α → Option β} {name : β → γ}
    {key : α → γ} (items : List α)
    (same : ∀ item ∈ items, ∀ picked, pick item = some picked → name picked = key item) :
    ((items.filterMap pick).map name).Sublist (items.map key) := by
  induction items with
  | nil => exact List.Sublist.refl _
  | cons item rest ih =>
      have later := ih fun other member => same other (List.mem_cons_of_mem _ member)
      cases picked : pick item with
      | none =>
          rw [List.filterMap_cons_none picked, List.map_cons]
          exact later.cons _
      | some value =>
          rw [List.filterMap_cons_some picked, List.map_cons, List.map_cons,
            same item List.mem_cons_self value picked]
          exact later.cons_cons _

/-- The kill switches of a plug have different names and turn off no other plug. -/
theorem killSwitchRules_fit (env : Env) (device : String) :
    ((env.killSwitchRules device).map (·.name)).Nodup ∧
      ∀ rule ∈ env.killSwitchRules device, ∀ target, rule.target = some target →
        target = device := by
  unfold killSwitchRules
  split
  · simp
  · rename_i idx known
    obtain ⟨names, fits⟩ := powerBelowBindings_fit known
    have described : ∀ binding ∈ env.powerBelowBindings idx, ∀ rule,
        env.killSwitchRule binding = some rule → rule.name = binding.name ∧
          rule.target = binding.effect.targetPlug.map env.topology.deviceName := by
      intro binding member rule same
      unfold killSwitchRule at same
      split at same
      · cases same
        exact ⟨rfl, rfl⟩
      · cases same
    refine ⟨?_, fun rule listed target targeted => ?_⟩
    · exact names.sublist (map_filterMap_sublist _ fun binding member rule same =>
        (described binding member rule same).1)
    · obtain ⟨binding, member, same⟩ := List.mem_filterMap.mp listed
      rw [(described binding member rule same).2, Option.map_eq_some_iff] at targeted
      obtain ⟨plug, aimed, rfl⟩ := targeted
      rw [(fits binding member).2 plug aimed]
      exact (TopologyTables.deviceName_of_deviceIdx known).1

/-- The kill switches of a plug depend on the topology and on the bindings that replace its own. -/
theorem killSwitchRules_congr {env other : Env} (topology : env.topology = other.topology)
    {device : String}
    (bindings : env.resolvedPlugBindings[device]? = other.resolvedPlugBindings[device]?) :
    env.killSwitchRules device = other.killSwitchRules device := by
  unfold killSwitchRules
  rw [topology]
  split
  · rfl
  · rename_i idx known
    obtain ⟨named, _⟩ := TopologyTables.deviceName_of_deviceIdx known
    have same : env.powerBelowBindings idx = other.powerBelowBindings idx := by
      unfold Automation.powerBelowBindings
      rw [topology, named, bindings]
    have described : env.killSwitchRule = other.killSwitchRule := by
      funext binding
      unfold killSwitchRule
      rw [topology]
    rw [same, described]

/-- The message that turns a plug off. -/
def offMessage (env : Env) (device : String) : List Effect :=
  (env.topology.deviceIdx device).toList.map fun idx => .publishDeviceSet idx .deviceOff

theorem applyKillSwitchFired_self (env : Env) (device : String) (ts : Instant)
    (world : WorldState) :
    (∀ other, (env.applyKillSwitchFired device [device] ts world).1.plugAt other =
      if device = other then (world.plugAt device).killed ts else world.plugAt other) ∧
    (env.applyKillSwitchFired device [device] ts world).2 = env.offMessage device := by
  constructor
  · intro other
    simp only [applyKillSwitchFired, List.foldl_cons, List.foldl_nil, WorldState.killPlug,
      WorldState.plugAt_modifyPlug]
    by_cases same : device = other
    · subst same
      simp [PlugEntity.killed]
    · simp [same]
  · unfold offMessage
    simp only [applyKillSwitchFired, List.filterMap_cons, List.filterMap_nil]
    cases env.topology.deviceIdx device <;> rfl

/-- A reading is taken by the rules of its plug, which may turn the plug off. -/
theorem evaluateKillSwitch_spec (device : String) (watts : ℚ) (ts : Instant)
    (world : WorldState) {fired : Option KillSwitchRule}
    (fires : (world.plugAt device).firedRule (env.killSwitchRules device) watts ts = fired) :
    (∀ other, (env.evaluateKillSwitch device watts ts world).1.plugAt other =
      if device = other then
        let taken := (world.plugAt device).takeReading (env.killSwitchRules device) watts ts
        if fired.isSome then taken.killed ts else taken
      else world.plugAt other) ∧
    (env.evaluateKillSwitch device watts ts world).2 =
      if fired.isSome then env.offMessage device else [] := by
  obtain ⟨names, targets⟩ := env.killSwitchRules_fit device
  -- What a scan of the rules leads to, whether or not there are any.
  have scanned : env.evaluateKillSwitch device watts ts world =
      env.applyKillSwitchFired device
        (KillSwitchRule.scan watts ts (env.killSwitchRules device)
          (world.plugAt device).killSwitchRules).2 ts
        (if env.killSwitchRules device = [] then world
          else world.modifyPlug device fun plug =>
            { plug with killSwitchRules := (KillSwitchRule.scan watts ts
                (env.killSwitchRules device) (world.plugAt device).killSwitchRules).1 }) := by
    unfold evaluateKillSwitch
    split
    · rename_i none
      simp [none, KillSwitchRule.scan, applyKillSwitchFired]
    · rename_i first rest shape
      rw [shape]
      simp
  have taken : ∀ other, (if env.killSwitchRules device = [] then world
      else world.modifyPlug device fun plug =>
        { plug with killSwitchRules := (KillSwitchRule.scan watts ts
            (env.killSwitchRules device) (world.plugAt device).killSwitchRules).1 }).plugAt other =
      if device = other then
        (world.plugAt device).takeReading (env.killSwitchRules device) watts ts
      else world.plugAt other := by
    intro other
    split
    · rename_i none
      split
      · rename_i same
        rw [none, same]
        rfl
      · rfl
    · rw [WorldState.plugAt_modifyPlug]
      split <;> rfl
  rw [scanned, KillSwitchRule.scan_fired names]
  subst fires
  unfold PlugEntity.firedRule
  cases found : (env.killSwitchRules device).find? fun rule =>
      rule.due watts ts (world.plugAt device).killSwitchRules with
  | none =>
      refine ⟨fun other => ?_, rfl⟩
      simpa [applyKillSwitchFired] using taken other
  | some rule =>
      cases targeted : rule.target with
      | none =>
          rw [Option.filter_some, targeted]
          refine ⟨fun other => ?_, by simp [targeted, applyKillSwitchFired]⟩
          simpa [applyKillSwitchFired, targeted] using taken other
      | some target =>
          obtain rfl := targets rule (List.mem_of_find?_eq_some found) target targeted
          rw [Option.filter_some, targeted, Option.bind_some, targeted, Option.toList_some]
          obtain ⟨plugs, effects⟩ := env.applyKillSwitchFired_self target ts
            (if env.killSwitchRules target = [] then world
              else world.modifyPlug target fun plug =>
                { plug with killSwitchRules := (KillSwitchRule.scan watts ts
                    (env.killSwitchRules target) (world.plugAt target).killSwitchRules).1 })
          refine ⟨fun other => ?_, ?_⟩
          · rw [plugs, taken, taken]
            split <;> simp_all
          · rw [effects]
            rfl

theorem armKillSwitchRules_plugAt (device : String) (power : Option ℚ) (ts : Instant)
    (world : WorldState) (other : String) :
    (env.armKillSwitchRules device power ts world).plugAt other =
      if device = other then
        (world.plugAt device).armSwitches (env.killSwitchRules device) power ts
      else world.plugAt other := by
  unfold armKillSwitchRules
  split
  · rename_i unknown
    split
    · rename_i same
      unfold killSwitchRules
      rw [unknown, same]
      rfl
    · rfl
  · rw [WorldState.plugAt_modifyPlug]
    split <;> rfl

/-- Turning on arms the kill switches of the plug that reports. -/
theorem armed_plugAt (env : Env) (device other : String) (on : Option Bool) (reading : Option ℚ)
    (ts : Instant) (world : WorldState) :
    (if on = some true ∧ (!(world.plugAt device).isOn ∨
        (world.plugAt device).actual.freshness = .unknown) then
      env.armKillSwitchRules device reading ts (world.modifyPlug device fun plug =>
        plug.observe on reading ts)
    else world.modifyPlug device fun plug => plug.observe on reading ts).plugAt other =
      if device = other then
        if (world.plugAt device).TurnsOn on then
          ((world.plugAt device).observe on reading ts).armSwitches
            (env.killSwitchRules device) reading ts
        else (world.plugAt device).observe on reading ts
      else world.plugAt other := by
  have observed : ∀ other, (world.modifyPlug device fun plug =>
      plug.observe on reading ts).plugAt other =
        if device = other then (world.plugAt device).observe on reading ts
        else world.plugAt other := fun other => WorldState.plugAt_modifyPlug _ _ _ _
  by_cases turns : (world.plugAt device).TurnsOn on
  · have turns' : on = some true ∧ (!(world.plugAt device).isOn ∨
        (world.plugAt device).actual.freshness = .unknown) := turns
    have self := observed device
    rw [if_pos rfl] at self
    rw [if_pos turns', if_pos turns, armKillSwitchRules_plugAt, self, observed]
    split <;> rfl
  · have turns' : ¬ (on = some true ∧ (!(world.plugAt device).isOn ∨
        (world.plugAt device).actual.freshness = .unknown)) := turns
    rw [if_neg turns', if_neg turns, observed]

/-- A report makes one plug what its rules and the report say, and may turn it off. -/
theorem handlePlugState_report (env : Env) (device : String) (on : Option Bool) (power : Option ℚ)
    (ts : Instant) (world : WorldState) : ∃ after fired,
    PlugEntity.Report (world.plugAt device) (env.killSwitchRules device) on
      (power.map fun watts => max watts 0) ts after fired ∧
    (∀ other, (env.handlePlugState device on power ts world).1.plugAt other =
      if device = other then after else world.plugAt other) ∧
    (env.handlePlugState device on power ts world).2 =
      if fired.isSome then env.offMessage device else [] := by
  unfold handlePlugState
  dsimp only
  generalize clamps : (power.map fun watts => max watts 0) = clamped
  have observed : ∀ other, (world.modifyPlug device fun plug =>
      plug.observe on clamped ts).plugAt other =
        if device = other then (world.plugAt device).observe on clamped ts
        else world.plugAt other := fun other => WorldState.plugAt_modifyPlug _ _ _ _
  have self := observed device
  rw [if_pos rfl] at self
  split
  · rename_i off
    refine ⟨_, none, .off off, fun other => ?_, rfl⟩
    rw [WorldState.plugAt_modifyPlug, self, observed]
    split <;> rfl
  · rename_i reports
    rw [self]
    split
    · rename_i notOn
      exact ⟨_, none, .unused reports (by simpa using notOn), observed, rfl⟩
    · rename_i isOn
      have isOn : ((world.plugAt device).observe on clamped ts).isOn = true := by simpa using isOn
      generalize confirms : (if on.isSome then _ else _ : WorldState) = confirmed
      have reported : ∀ other, confirmed.plugAt other =
          if device = other then
            (world.plugAt device).reported (env.killSwitchRules device) on clamped ts
          else world.plugAt other := by
        intro other
        subst confirms
        unfold PlugEntity.reported
        dsimp only
        by_cases relay : on.isSome
        · rw [if_pos relay, if_pos relay, WorldState.plugAt_modifyPlug, armed_plugAt, armed_plugAt,
            if_pos rfl]
          split <;> rfl
        · rw [if_neg relay, if_neg relay, armed_plugAt]
      have here := reported device
      rw [if_pos rfl] at here
      -- A reading of the report is the one that was just stored.
      have effective : clamped.or (confirmed.plugAt device).power.value =
          ((world.plugAt device).observe on clamped ts).power.value := by
        rw [here, PlugEntity.power_reported]
        subst clamps
        cases power with
        | none => rfl
        | some watts =>
            rw [PlugEntity.power_observe]
            simp
      rw [effective]
      split
      · rename_i unread
        exact ⟨_, none, .unread reports isOn unread, reported, rfl⟩
      · rename_i watts read
        cases fires : (confirmed.plugAt device).firedRule (env.killSwitchRules device) watts ts with
        | none =>
            obtain ⟨plugs, effects⟩ := evaluateKillSwitch_spec device watts ts confirmed fires
            rw [here] at fires
            refine ⟨_, none, .read reports isOn read fires, fun other => ?_, effects⟩
            rw [plugs, here, reported]
            split <;> simp_all
        | some rule =>
            obtain ⟨plugs, effects⟩ := evaluateKillSwitch_spec device watts ts confirmed fires
            rw [here] at fires
            refine ⟨_, some rule, .fire reports isOn read fires, fun other => ?_, effects⟩
            rw [plugs, here, reported]
            split <;> simp_all

/-- Every effective power-below binding describes a kill switch of the plug it watches. -/
theorem effectiveBinding_described {binding : ResolvedBinding}
    (listed : binding ∈ env.effectiveBindings) {plug : DeviceIdx} {watts : ℚ} {holdoff : Duration}
    (triggered : binding.trigger = .powerBelow plug watts holdoff) :
    ∃ rule ∈ env.killSwitchRules (env.topology.deviceName plug),
      env.killSwitchRule binding = some rule := by
  -- The binding watches a known plug and is among the bindings of that plug.
  have watched : env.topology.deviceIdx (env.topology.deviceName plug) = some plug ∧
      binding ∈ env.powerBelowBindings plug := by
    unfold Automation.effectiveBindings at listed
    rcases List.mem_append.mp listed with deployed | overridden
    · obtain ⟨member, kept⟩ := List.mem_filter.mp deployed
      obtain ⟨bound, _⟩ := env.topology.valid.power_below_fits binding member plug watts holdoff
        triggered
      refine ⟨TopologyTables.deviceIdx_of_deviceName env.topology.valid bound, ?_⟩
      have absent : env.resolvedPlugBindings[env.topology.deviceName plug]? = none := by
        rw [Option.eq_none_iff_forall_not_mem]
        intro bindings stored
        obtain ⟨value, overridden⟩ := env.fit.bindings _ bindings stored
        unfold Automation.bindingSuperseded Automation.plugScheduleOverridden at kept
        rw [triggered] at kept
        dsimp only at kept
        rw [Option.any_some, TreeMap.contains_eq_isSome_getElem?, overridden] at kept
        cases kept
      unfold Automation.powerBelowBindings TopologyTables.bindingsForPowerBelow
      rw [absent]
      refine List.mem_filter.mpr ⟨member, ?_⟩
      rw [triggered]
      exact beq_self_eq_true plug
    · obtain ⟨⟨device, bindings⟩, stored, member⟩ := List.mem_flatMap.mp overridden
      have stored := TreeMap.mem_toList_iff_getElem?_eq_some.mp stored
      obtain ⟨value, overridden⟩ := env.fit.bindings device bindings stored
      obtain ⟨same, resolved, accepted⟩ := env.fit.plugs device value overridden
      rw [stored] at resolved
      cases resolved
      obtain ⟨idx, timed, found, _, times, shape⟩ := validatePlugOverride_ok accepted
      have here : plug = idx := by
        rcases shape with rfl | ⟨name, threshold, after, rfl⟩
        · obtain ⟨⟨time, timed⟩, _⟩ := times binding member
          rw [triggered] at timed
          cases timed
        · rcases List.mem_append.mp member with member | member
          · obtain ⟨⟨time, timed⟩, _⟩ := times binding member
            rw [triggered] at timed
            cases timed
          · rw [List.mem_singleton.mp member] at triggered
            cases triggered
            rfl
      subst here
      obtain ⟨named, _⟩ := TopologyTables.deviceName_of_deviceIdx found
      rw [named]
      refine ⟨found, ?_⟩
      unfold Automation.powerBelowBindings
      rw [named, stored]
      refine List.mem_filter.mpr ⟨member, ?_⟩
      rw [triggered]
  have described : ∃ rule, env.killSwitchRule binding = some rule := by
    unfold killSwitchRule
    rw [triggered]
    exact ⟨_, rfl⟩
  obtain ⟨rule, same⟩ := described
  refine ⟨rule, ?_, same⟩
  unfold killSwitchRules
  rw [watched.1]
  exact List.mem_filterMap.mpr ⟨binding, watched.2, same⟩

/-- A kill switch that is due on a tick is a rule of its plug, idle for its holdoff, and turns that
plug off. -/
theorem killSwitchDue_rule {ts : Instant} {world : WorldState} {binding : ResolvedBinding}
    (listed : binding ∈ env.effectiveBindings) {device target : String}
    (due : env.killSwitchDue ts world binding = some (device, target)) :
    target = device ∧ ∃ rule ∈ env.killSwitchRules device,
      env.killSwitchRule binding = some rule ∧ rule.target = some device ∧
        (world.plugAt device).isOn = true ∧ ∃ since,
          (world.plugAt device).switchAt rule = .idle since ∧
            durationSince ts since ≥ rule.holdoff := by
  unfold killSwitchDue at due
  split at due
  · rename_i plug watts holdoff triggered
    dsimp only at due
    split at due
    · cases due
    · rename_i entity found
      split at due
      · rename_i since idle
        split at due
        · rename_i elapsed
          obtain ⟨aim, targeted, same⟩ := Option.map_eq_some_iff.mp due
          cases same
          obtain ⟨rule, member, described⟩ := effectiveBinding_described listed triggered
          obtain ⟨_, targets⟩ := env.killSwitchRules_fit (env.topology.deviceName plug)
          have shape : rule.name = binding.name ∧ rule.holdoff = holdoff ∧
              rule.target = some (env.topology.deviceName aim) := by
            unfold killSwitchRule at described
            rw [triggered, targeted] at described
            cases described
            exact ⟨rfl, rfl, rfl⟩
          obtain ⟨named, held, aimed⟩ := shape
          have here := targets rule member _ aimed
          refine ⟨here, rule, member, described, by rw [aimed, here], ?_, since, ?_, ?_⟩
          · simpa [WorldState.plugAt, found] using elapsed.1
          · simp [PlugEntity.switchAt, KillSwitchRule.stateIn, WorldState.plugAt, found, named,
              idle]
          · rw [held]
            exact elapsed.2
        · cases due
      · cases due
  · cases due

end Env

namespace PlugEntity

/-- The plug was turned off by a kill switch of its own, once or several times. -/
structure Killed (before after : PlugEntity) : Prop where
  actual : after.actual = before.actual
  power : after.power = before.power
  rules : ∀ name : String, after.killSwitchRules[name]? =
    before.killSwitchRules[name]?.map fun _ => .suppressed

theorem killed_killed (plug : PlugEntity) (ts : Instant) : Killed plug (plug.killed ts) where
  actual := rfl
  power := rfl
  rules name := switchAt_killed plug ts ⟨name, 0, 0, none⟩

theorem Killed.trans {before middle after : PlugEntity} (first : Killed before middle)
    (second : Killed middle after) : Killed before after where
  actual := second.actual.trans first.actual
  power := second.power.trans first.power
  rules name := by
    rw [second.rules, first.rules, Option.map_map]
    rfl

end PlugEntity

namespace Env

variable {env : Env}

/-- Plugs that are due, each by its own name, are turned off one after the other. -/
theorem applyKillSwitchFired_each (env : Env) (ts : Instant) {dues : List (String × String)}
    (own : ∀ due ∈ dues, due.2 = due.1) (world : WorldState) :
    (∀ device, if device ∈ dues.map Prod.fst then
        PlugEntity.Killed (world.plugAt device)
          ((forEach (fun due => env.applyKillSwitchFired due.1 [due.2] ts) dues world).1.plugAt
            device)
      else (forEach (fun due => env.applyKillSwitchFired due.1 [due.2] ts) dues world).1.plugAt
        device = world.plugAt device) ∧
    (forEach (fun due => env.applyKillSwitchFired due.1 [due.2] ts) dues world).2 =
      dues.flatMap fun due => env.offMessage due.1 := by
  induction dues generalizing world with
  | nil => exact ⟨fun _ => by simp, rfl⟩
  | cons due rest ih =>
      obtain ⟨device, target⟩ := due
      obtain rfl : target = device := own _ List.mem_cons_self
      obtain ⟨plugs, effects⟩ := env.applyKillSwitchFired_self target ts world
      obtain ⟨later, sent⟩ := ih (fun other member => own other (List.mem_cons_of_mem _ member))
        (env.applyKillSwitchFired target [target] ts world).1
      constructor
      · intro device
        have after := later device
        rw [plugs] at after
        rw [forEach_cons, andThen_fst]
        by_cases here : target = device
        · subst here
          rw [if_pos (by simp)]
          rw [if_pos rfl] at after
          have first := PlugEntity.killed_killed (world.plugAt target) ts
          split at after
          · exact first.trans after
          · rw [after]
            exact first
        · rw [if_neg here] at after
          have same : device ∈ ((target, target) :: rest).map Prod.fst ↔
              device ∈ rest.map Prod.fst := by
            simp [Ne.symm here]
          simp only [same]
          exact after
      · rw [forEach_cons, andThen_snd, effects, sent, List.flatMap_cons]

/-- A tick turns off the plugs with a due kill switch and leaves the others alone. -/
theorem evaluateKillSwitchTicks_spec (env : Env) (ts : Instant) (world : WorldState) :
    (∀ device, if ∃ binding ∈ env.effectiveBindings,
        env.killSwitchDue ts world binding = some (device, device) then
          PlugEntity.Killed (world.plugAt device)
            ((env.evaluateKillSwitchTicks ts world).1.plugAt device)
      else (env.evaluateKillSwitchTicks ts world).1.plugAt device = world.plugAt device) ∧
    (env.evaluateKillSwitchTicks ts world).2 =
      (env.effectiveBindings.filterMap (env.killSwitchDue ts world)).flatMap fun due =>
        env.offMessage due.1 := by
  have own : ∀ due ∈ env.effectiveBindings.filterMap (env.killSwitchDue ts world),
      due.2 = due.1 := by
    rintro ⟨device, target⟩ member
    obtain ⟨binding, listed, due⟩ := List.mem_filterMap.mp member
    exact (killSwitchDue_rule listed due).1
  obtain ⟨plugs, effects⟩ := applyKillSwitchFired_each env ts own world
  refine ⟨fun device => ?_, effects⟩
  have same : device ∈ (env.effectiveBindings.filterMap (env.killSwitchDue ts world)).map Prod.fst ↔
      ∃ binding ∈ env.effectiveBindings,
        env.killSwitchDue ts world binding = some (device, device) := by
    rw [List.mem_map]
    constructor
    · rintro ⟨⟨device, target⟩, member, rfl⟩
      obtain ⟨binding, listed, due⟩ := List.mem_filterMap.mp member
      obtain rfl := (killSwitchDue_rule listed due).1
      exact ⟨binding, listed, due⟩
    · rintro ⟨binding, listed, due⟩
      exact ⟨(device, device), List.mem_filterMap.mpr ⟨binding, listed, due⟩, rfl⟩
  simp only [← same]
  exact plugs device

/-- Startup arms the kill switches of the plugs that were reported on. -/
theorem armKillSwitchesForActivePlugs_plugAt (ts : Instant) (world : WorldState)
    (device : String) :
    (env.armKillSwitchesForActivePlugs ts world).plugAt device =
      if (world.plugAt device).actual.value.any (·.on) then
        (world.plugAt device).armSwitches (env.killSwitchRules device)
          (world.plugAt device).power.value ts
      else world.plugAt device := by
  have folded := foldl_at_key (fun world name => WorldState.plugAt world name)
    (fun world (entry : String × PlugEntity) =>
      env.armKillSwitchRules entry.1 entry.2.power.value ts world) Prod.fst
    (fun entry plug => plug.armSwitches (env.killSwitchRules entry.1) entry.2.power.value ts)
    (fun state entry name => by
      rw [armKillSwitchRules_plugAt]
      split
      · rename_i same
        rw [same]
      · rfl)
    (world.plugs.toList.filter fun entry => entry.2.actual.value.any (·.on)) world device
  refine folded.trans ?_
  rw [List.filter_comm, OrderedMap.filter_key]
  cases found : world.plugs[device]? with
  | none => simp [WorldState.plugAt, found, default]
  | some plug =>
      by_cases on : plug.actual.value.any (·.on)
      · simp [WorldState.plugAt, found, on]
      · simp [WorldState.plugAt, found, on]

/-- Replaced bindings start over. -/
theorem replacePlugBindings_plugAt (device : String) (ts : Instant) (world : WorldState)
    (other : String) :
    (env.replacePlugBindings device ts world).plugAt other =
      if device = other then
        let cleared : PlugEntity := { world.plugAt device with killSwitchRules := ∅ }
        if (world.plugAt device).isOn then
          cleared.armSwitches (env.killSwitchRules device) (world.plugAt device).power.value ts
        else cleared
      else world.plugAt other := by
  unfold replacePlugBindings
  split
  · rename_i absent
    split
    · rename_i same
      subst same
      simp [WorldState.plugAt, absent, default, PlugEntity.isOn]
    · rfl
  · rename_i plug found
    have here : world.plugAt device = plug := by simp [WorldState.plugAt, found]
    dsimp only
    rw [here]
    by_cases on : plug.isOn
    · rw [if_pos on, if_pos on, armKillSwitchRules_plugAt, WorldState.plugAt_modifyPlug,
        WorldState.plugAt_modifyPlug, if_pos rfl, here]
      split <;> rfl
    · rw [if_neg on, if_neg on, WorldState.plugAt_modifyPlug, here]

end Env

end MqttController
