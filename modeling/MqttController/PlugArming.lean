import MqttController.PlugSteps

/-!
# Arming on a switch-on

A relay report that says on arms the kill switches of a plug that was off and not told to be on.  A
plug that was told to be on counts as on before the report, and its rules are left as they are.
-/

namespace MqttController

open Std Emission

namespace KillSwitchRule

theorem armedState_ne_inactive (power : Option ℚ) (ts : Instant) (rule : KillSwitchRule)
    (state : KillSwitchRuleState) : rule.armedState power ts state ≠ .inactive := by
  unfold armedState
  split
  · simp
  · simp
  · split <;> simp

end KillSwitchRule

namespace PlugEntity

variable {plug : PlugEntity} {rules : List KillSwitchRule} {rule : KillSwitchRule} {watts : ℚ}
  {ts : Instant}

/-! ### All rules of a plug are known together -/

/-- If the plug knows one of the rules it knows them all. -/
def Complete (plug : PlugEntity) (rules : List KillSwitchRule) : Prop :=
  (∃ rule ∈ rules, (plug.killSwitchRules[rule.name]?).isSome) →
    ∀ rule ∈ rules, (plug.killSwitchRules[rule.name]?).isSome

theorem Complete.congr {after : PlugEntity} (complete : plug.Complete rules)
    (same : ∀ name : String, (after.killSwitchRules[name]?).isSome =
      (plug.killSwitchRules[name]?).isSome) : after.Complete rules := by
  unfold Complete
  simp only [same]
  exact complete

theorem complete_of_all (all : ∀ rule ∈ rules, (plug.killSwitchRules[rule.name]?).isSome) :
    plug.Complete rules := fun _ => all

/-- Arming makes every rule known. -/
theorem armSwitches_known (names : (rules.map (·.name)).Nodup) (power : Option ℚ) (ts : Instant)
    (member : rule ∈ rules) :
    ((plug.armSwitches rules power ts).killSwitchRules[rule.name]?).isSome := by
  unfold armSwitches
  dsimp only
  rw [KillSwitchRule.arm_each names power member]
  rfl

/-- Where a rule is due all rules are known. -/
theorem Complete.of_due (complete : plug.Complete rules)
    (due : ∃ rule ∈ rules, rule.due watts ts plug.killSwitchRules = true) :
    ∀ rule ∈ rules, (plug.killSwitchRules[rule.name]?).isSome := by
  obtain ⟨rule, member, due⟩ := due
  obtain ⟨_, since, idle, _⟩ := KillSwitchRule.due_iff.mp due
  have active : plug.switchAt rule ≠ .inactive := by
    unfold switchAt
    rw [idle]
    simp
  exact complete ⟨rule, member, isSome_of_switchAt active⟩

theorem Complete.takeReading (complete : plug.Complete rules)
    (names : (rules.map (·.name)).Nodup) (watts : ℚ) (ts : Instant) :
    (plug.takeReading rules watts ts).Complete rules := by
  refine complete_of_all fun rule member => ?_
  rcases takeReading_cases plug watts ts names member with taken | left
  · rw [taken.2]
    rfl
  · rw [left.2.2]
    exact complete.of_due left.2.1 rule member

theorem Complete.killed {after : PlugEntity} (complete : plug.Complete rules)
    (killed : Killed plug after) : after.Complete rules :=
  complete.congr fun name => by rw [killed.rules, Option.isSome_map]

theorem Complete.onOffClear (complete : plug.Complete rules) {after : PlugEntity}
    (cleared : after.killSwitchRules = plug.onOffClearKillSwitches.killSwitchRules) :
    after.Complete rules :=
  complete.congr fun name => by
    rw [cleared, onOffClearKillSwitches, OrderedMap.getElem?_mapValues, Option.isSome_map]

theorem Complete.reported (complete : plug.Complete rules) (names : (rules.map (·.name)).Nodup)
    (on : Option Bool) (power : Option ℚ) (ts : Instant) :
    (plug.reported rules on power ts).Complete rules := by
  have shape := plug.killSwitchRules_reported rules on power ts
  split at shape
  · refine complete_of_all fun rule member => ?_
    rw [shape]
    exact armSwitches_known names power ts member
  · exact complete.congr fun name => by rw [shape]

theorem Complete.report {on : Option Bool} {power : Option ℚ} {after : PlugEntity}
    {fired : Option KillSwitchRule} (complete : plug.Complete rules)
    (names : (rules.map (·.name)).Nodup) (report : plug.Report rules on power ts after fired) :
    after.Complete rules := by
  cases report with
  | off reports => exact complete.onOffClear (by simp [onOffClearKillSwitches])
  | unused reports notOn => exact complete.congr fun name => by simp
  | unread reports isOn unread => exact complete.reported names on power ts
  | read reports isOn read calm =>
      exact (complete.reported names on power ts).takeReading names _ ts
  | fire reports isOn read fires =>
      exact ((complete.reported names on power ts).takeReading names _ ts).killed
        (killed_killed _ ts)

/-- Every operation that does not replace the bindings of the plug keeps its rules together. -/
theorem Outcome.complete {env : Env} {device : String} {operation : Operation} {after : PlugEntity}
    (outcome : Outcome env device plug operation after)
    (complete : plug.Complete (env.killSwitchRules device)) :
    after.Complete (env.killSwitchRules device) := by
  obtain ⟨names, _⟩ := env.killSwitchRules_fit device
  cases outcome with
  | kept unreported readings rules => exact complete.congr fun name => by rw [rules]
  | cleared unreported readings rules => exact complete.onOffClear rules
  | killed killed => exact complete.killed killed
  | armed on => exact complete_of_all fun rule member => armSwitches_known names _ _ member
  | replaced =>
      dsimp only
      split
      · exact complete_of_all fun rule member => armSwitches_known names _ _ member
      · rintro ⟨rule, _, known⟩
        simp at known
  | reported report => exact complete.report names report

end PlugEntity

/-! ## Commands -/

namespace Automation

/-- A command replaces the bindings of the plugs whose rules start over, and of no other. -/
theorem Accepts.plugBindings {automation after : Automation} {clock : ClockReading}
    {command : ControlCommand} {operations : List Operation}
    (accepts : automation.Accepts clock command after operations) {device : String}
    (untouched : ∀ ts, Operation.replacePlugBindings device ts ∉ operations) :
    after.resolvedPlugBindings[device]? = automation.resolvedPlugBindings[device]? := by
  cases accepts with
  | boost boost boosts => cases boost <;> rfl
  | plugReset other =>
      have different : other ≠ device := by
        rintro rfl
        exact untouched clock.now (List.mem_singleton.mpr rfl)
      change (automation.resolvedPlugBindings.erase other)[device]? = _
      rw [TreeMap.getElem?_erase, if_neg]
      simpa using different
  | @plug other value bindings accepted =>
      have different : other ≠ device := by
        rintro rfl
        exact untouched clock.now (List.mem_singleton.mpr rfl)
      change (automation.resolvedPlugBindings.insert other bindings)[device]? = _
      rw [TreeMap.getElem?_insert, if_neg]
      simpa using different
  | _ => rfl

/-- A command that starts the rules of a plug over does nothing else. -/
theorem Accepts.replaces {automation after : Automation} {clock : ClockReading}
    {command : ControlCommand} {operations : List Operation}
    (accepts : automation.Accepts clock command after operations) {device : String} {ts : Instant}
    (replaced : Operation.replacePlugBindings device ts ∈ operations) :
    operations = [.replacePlugBindings device ts] := by
  cases accepts with
  | act acts apart => rw [List.mem_singleton.mp replaced]
  | motion room enabled =>
      split at replaced
      · cases replaced
      · cases List.mem_singleton.mp replaced
  | plugReset other => rw [List.mem_singleton.mp replaced]
  | plug accepted => rw [List.mem_singleton.mp replaced]
  | roomReset room => cases List.mem_singleton.mp replaced
  | room accepted => cases List.mem_singleton.mp replaced
  | _ => cases replaced

end Automation

/-- Rules that start over are all known or all unknown. -/
theorem Operation.replaced_complete (env : Env) (device : String) (ts : Instant)
    (runtime : Runtime) :
    (((Operation.replacePlugBindings device ts).run env runtime).1.world.plugAt device).Complete
      (env.killSwitchRules device) := by
  obtain ⟨names, _⟩ := env.killSwitchRules_fit device
  change ((env.replacePlugBindings device ts runtime.world).plugAt device).Complete _
  rw [Env.replacePlugBindings_plugAt, if_pos rfl]
  dsimp only
  split
  · exact PlugEntity.complete_of_all fun rule member =>
      PlugEntity.armSwitches_known names _ _ member
  · rintro ⟨rule, _, known⟩
    simp at known

/-- The rules of a plug were known together wherever an operation did not start them over. -/
def Record.FindsComplete (device : String) (record : Record) : Prop :=
  (∀ ts, record.operation ≠ .replacePlugBindings device ts) →
    (record.before.world.plugAt device).Complete (record.env.killSwitchRules device)

theorem WorldState.complete_kept (device : String) : KeptByInputs fun automation past runtime =>
    (∀ env : Env, env.toAutomation = automation →
      (runtime.world.plugAt device).Complete (env.killSwitchRules device)) ∧
        ∀ record ∈ past, record.FindsComplete device := by
  refine KeptByInputs.of_operations ?_ ?_ ?_
  · intro automation
    refine ⟨?_, by simp⟩
    rintro env _ ⟨rule, _, known⟩
    simp [WorldState.plugAt, default] at known
  · rintro env operation past runtime admissible _ ⟨complete, records⟩
    refine ⟨fun other same => ?_, fun record member => ?_⟩
    · have rules : other.killSwitchRules device = env.killSwitchRules device :=
        Env.killSwitchRules_congr (by rw [same]) (by rw [same])
      rw [rules]
      exact (Operation.run_plugAt admissible runtime device).complete (complete env rfl)
    · rcases List.mem_append.mp member with earlier | last
      · exact records record earlier
      · rw [List.mem_singleton.mp last]
        exact fun _ => complete env rfl
  · rintro automation env command operations past runtime planned _ ⟨complete, records⟩
    have accepts := Automation.plan_accepts planned
    obtain ⟨topology, apart⟩ := Automation.plan_ok planned
    have same : ∀ other : Env, other.toAutomation = env.toAutomation →
        other.killSwitchRules device = env.killSwitchRules device := fun other same =>
      Env.killSwitchRules_congr (by rw [same]) (by rw [same])
    by_cases replaced : ∃ ts, Operation.replacePlugBindings device ts ∈ operations
    · obtain ⟨ts, replaced⟩ := replaced
      rw [accepts.replaces replaced]
      refine ⟨fun other here => ?_, fun record member => ?_⟩
      · rw [same other here]
        exact Operation.replaced_complete env device ts runtime
      · rcases List.mem_append.mp member with earlier | last
        · exact records record earlier
        · rw [List.mem_singleton.mp last]
          exact fun kept => absurd rfl (kept ts)
    · -- The rules are those from before the command, and its operations keep them together.
      have kept : env.killSwitchRules device =
          ({ automation with clock := env.clock } : Env).killSwitchRules device :=
        Env.killSwitchRules_congr topology
          (accepts.plugBindings fun ts member => replaced ⟨ts, member⟩)
      have keeps : Keeps (fun (past : List Record) (runtime : Runtime) =>
          (runtime.world.plugAt device).Complete (env.killSwitchRules device) ∧
            ∀ record ∈ past, record.FindsComplete device) (env.performAll operations) := by
        refine Keeps.forEach operations fun operation member past runtime holds => ?_
        have admissible := (apart operation member).1.1
        rw [← topology] at admissible
        refine ⟨(Operation.run_plugAt admissible runtime device).complete holds.1, ?_⟩
        intro record member
        rcases List.mem_append.mp member with earlier | last
        · exact holds.2 record earlier
        · rw [List.mem_singleton.mp last]
          exact fun _ => holds.1
      have before := complete { automation with clock := env.clock } rfl
      rw [← kept] at before
      obtain ⟨after, records⟩ := keeps past runtime ⟨before, records⟩
      refine ⟨fun other here => ?_, records⟩
      rw [same other here]
      exact after

/-! ## Switch-on reports -/

namespace PlugEntity

/-- A rule is armed, waits for its holdoff, or is suppressed. -/
def Watched (plug : PlugEntity) (rule : KillSwitchRule) : Prop :=
  plug.switchAt rule ≠ .suppressed →
    plug.switchAt rule = .armed ∨ ∃ since, plug.switchAt rule = .idle since

theorem watched_iff {plug : PlugEntity} {rule : KillSwitchRule} :
    plug.Watched rule ↔ plug.switchAt rule ≠ .inactive := by
  unfold Watched
  cases plug.switchAt rule <;> simp

/-- When a report that says on leaves no rule of the plug inactive: the plug was not told to be on;
or each rule was not inactive before, or is reached by a reading at its threshold, or a due rule
turns the plug off at once. -/
def ArmedByReport (plug : PlugEntity) (rules : List KillSwitchRule) (power : Option ℚ)
    (ts : Instant) : Prop :=
  plug.target.value ≠ some .on ∨ ∀ rule ∈ rules, plug.switchAt rule ≠ .inactive ∨
    ∃ watts, (power.map fun watts => max watts 0).or plug.power.value = some watts ∧
      ((rule.thresholdWatts ≤ watts ∧
        KillSwitchRule.Reached watts ts plug.killSwitchRules rules rule) ∨
          (plug.firedRule rules watts ts).isSome)

variable {plug after : PlugEntity} {rules : List KillSwitchRule} {power : Option ℚ} {ts : Instant}
  {fired : Option KillSwitchRule}

theorem killed_active {watts : ℚ} {rule : KillSwitchRule}
    (known : ((plug.takeReading rules watts ts).killSwitchRules[rule.name]?).isSome) :
    ((plug.takeReading rules watts ts).killed ts).switchAt rule ≠ .inactive := by
  obtain ⟨state, found⟩ := Option.isSome_iff_exists.mp known
  have suppressed := (killed_killed (plug.takeReading rules watts ts) ts).rules rule.name
  rw [found, Option.map_some] at suppressed
  rw [switchAt_of_lookup suppressed]
  simp

/-- A rule is known to a plug on which a rule fires. -/
theorem Complete.fired_known (complete : plug.Complete rules)
    (names : (rules.map (·.name)).Nodup) {watts : ℚ} {first : KillSwitchRule}
    (fires : plug.firedRule rules watts ts = some first) {rule : KillSwitchRule}
    (member : rule ∈ rules) :
    ((plug.takeReading rules watts ts).killSwitchRules[rule.name]?).isSome := by
  have found := (Option.filter_eq_some_iff.mp fires).1
  have known := complete.of_due
    ⟨first, List.mem_of_find?_eq_some found, List.find?_some found⟩ rule member
  rcases takeReading_cases plug watts ts names member with taken | left
  · rw [taken.2]
    rfl
  · rwa [left.2.2]

/-- The report of a switch-on leaves no rule inactive exactly when the plug was not told to be on or
its rules are taken care of otherwise. -/
theorem Report.watched_iff (names : (rules.map (·.name)).Nodup) (complete : plug.Complete rules)
    (off : plug.actual.value.map (·.on) = some false)
    (report : plug.Report rules (some true) (power.map fun watts => max watts 0) ts after fired) :
    (∀ rule ∈ rules, after.Watched rule) ↔ plug.ArmedByReport rules power ts := by
  simp only [PlugEntity.watched_iff]
  have states := plug.killSwitchRules_reported rules (some true)
    (power.map fun watts => max watts 0) ts
  by_cases told : plug.target.value = some .on
  · -- The rules take the reading as they are.
    rw [if_neg (by simp [turnsOn_iff off, told])] at states
    have same : ∀ rule : KillSwitchRule, (plug.reported rules (some true)
        (power.map fun watts => max watts 0) ts).switchAt rule = plug.switchAt rule := by
      intro rule
      unfold switchAt
      rw [states]
    unfold ArmedByReport
    rw [← plug.read_observe (some true) power ts]
    cases report with
    | off reports => cases reports
    | unused reports notOn => simp [isOn, actual_observe] at notOn
    | unread reports isOn unread => simp [told, unread, same]
    | @read watts reports isOn read calm =>
        unfold firedRule at calm ⊢
        rw [states] at calm
        simp only [told, ne_eq, not_true_eq_false, false_or, read, Option.some.injEq,
          exists_eq_left', calm, Option.isSome_none, Bool.false_eq_true, or_false]
        refine forall₂_congr fun rule member => ?_
        rcases takeReading_cases
            (plug.reported rules (some true) (power.map fun watts => max watts 0) ts) watts ts
            names member with taken | left
        · rw [switchAt_of_lookup taken.2, KillSwitchRule.take_eq_inactive_iff, same]
          rw [states] at taken
          simp only [taken.1, and_true, not_and_or, Rat.not_lt]
          exact or_comm
        · have kept := left.2.2
          rw [states] at left kept
          unfold switchAt KillSwitchRule.stateIn
          rw [kept]
          simp [left.1]
    | @fire watts first reports isOn read fires =>
        refine iff_of_true (fun rule member => ?_)
          (.inr fun rule member => .inr ⟨watts, read, .inr ?_⟩)
        · refine killed_active (Complete.fired_known ?_ names fires member)
          exact complete.congr fun name => by rw [states]
        · unfold firedRule at fires ⊢
          rw [states] at fires
          rw [fires]
          rfl
  · -- The rules are armed before they take the reading.
    rw [if_pos ((turnsOn_iff off).mpr told)] at states
    refine iff_of_true (fun rule member => ?_) (.inl told)
    have armed : ∀ rule ∈ rules, (plug.reported rules (some true)
        (power.map fun watts => max watts 0) ts).switchAt rule ≠ .inactive := by
      intro rule member
      unfold switchAt KillSwitchRule.stateIn
      rw [states, KillSwitchRule.arm_each names _ member]
      exact KillSwitchRule.armedState_ne_inactive _ _ _ _
    cases report with
    | off reports => cases reports
    | unused reports notOn => simp [isOn, actual_observe] at notOn
    | unread reports isOn unread => exact armed rule member
    | read reports isOn read calm => exact takeReading_active names member (armed rule member)
    | fire reports isOn read fires =>
        exact killed_active (isSome_of_switchAt
          (takeReading_active names member (armed rule member)))

end PlugEntity

/-- In every run, a report that moves a plug from off to on leaves every rule that is not suppressed
armed or idle exactly when the plug was not told to be on or its rules are taken care of
otherwise. -/
theorem Run.switch_on_arms_iff {history : List Record} {daemon : Daemon} (run : Run history daemon)
    {past later : List Record} {record : Record} (split : history = past ++ record :: later)
    {device : String} {power : Option ℚ} {ts : Instant}
    (reports : record.operation = .observePlug device (some true) power ts)
    (off : lastRelay device past = some false) :
    (∀ rule ∈ record.env.killSwitchRules device,
      (record.after.world.plugAt device).Watched rule) ↔
        (record.before.world.plugAt device).ArmedByReport (record.env.killSwitchRules device)
          power ts := by
  obtain ⟨_, _, remembers⟩ := run.each_record WorldState.remembers_kept split
  have complete := (run.invariant_of_inputs (WorldState.complete_kept device)).2.2 record
    (by rw [split]; simp)
  obtain ⟨env, before, operation⟩ := record
  dsimp only at reports
  subst reports
  obtain ⟨after, fired, report, plugs, _⟩ :=
    env.handlePlugState_report device (some true) power ts before.world
  have here := plugs device
  rw [if_pos rfl] at here
  have same : (Record.after ⟨env, before, .observePlug device (some true) power ts⟩).world.plugAt
      device = after := here
  rw [same]
  refine report.watched_iff (env.killSwitchRules_fit device).1 (complete fun ts => by simp) ?_
  rw [(remembers device).relay, off]

/-- A report that says on, without a reading, about the plug of the house. -/
def House.switchedOn (record : Record) : Bool :=
  match record.operation with
  | .observePlug device (some true) none _ => device == "plug"
  | _ => false

theorem House.switchedOn_iff {record : Record} : House.switchedOn record = true ↔
    ∃ ts, record.operation = .observePlug "plug" (some true) none ts := by
  unfold switchedOn
  constructor
  · intro taken
    split at taken
    · rename_i device ts same
      obtain rfl := eq_of_beq taken
      exact ⟨ts, same⟩
    · cases taken
  · rintro ⟨ts, same⟩
    rw [same]
    rfl

/-- A plug that is switched on by hand has its kill switch armed. -/
theorem Run.switch_on_arms_iff_plug : ∃ (history : List Record) (daemon : Daemon) (record : Record),
    Run history daemon ∧ record ∈ history ∧ House.switchedOn record = true ∧
      record.env.killSwitchRules "plug" ≠ [] ∧
        ∀ rule ∈ record.env.killSwitchRules "plug",
          (record.after.world.plugAt "plug").Watched rule := by
  obtain ⟨daemon, history, run, _, facts⟩ := House.played .offOnly [House.killSwitch]
    [(0, .start), (1, .event (.plugState "plug" false none 1)),
      (2, .event (.plugState "plug" true none 2))]
    (fun reached : Daemon × List Record => (reached.2[4]?).any fun record : Record =>
      (House.switchedOn record && decide (lastRelay "plug" (reached.2.take 4) = some false)) &&
        (!(record.env.killSwitchRules "plug").isEmpty &&
          decide ((record.before.world.plugAt "plug").target.value = none)))
    true (by decide +kernel)
  obtain ⟨record, found, same⟩ := (Option.any_eq_true _ _).mp facts
  simp only [Bool.and_eq_true, decide_eq_true_eq, Bool.not_eq_true', List.isEmpty_eq_false_iff]
    at same
  obtain ⟨⟨on, off⟩, rules, untold⟩ := same
  obtain ⟨ts, reports⟩ := House.switchedOn_iff.mp on
  refine ⟨history, daemon, record, run, List.mem_of_getElem? found, on, rules, ?_⟩
  exact (Run.switch_on_arms_iff run (split_at found) reports off).mpr (.inl (by simp [untold]))

/-- A plug that was off and is switched on by the controller has its kill switch left inactive. -/
theorem Run.switch_on_arms_iff_fails : ∃ (history past later : List Record) (daemon : Daemon)
    (record : Record), Run history daemon ∧ history = past ++ record :: later ∧
      House.switchedOn record = true ∧ lastRelay "plug" past = some false ∧
        ∃ rule ∈ record.env.killSwitchRules "plug",
          ¬ (record.after.world.plugAt "plug").Watched rule := by
  obtain ⟨daemon, history, run, _, facts⟩ := House.played .offOnly
    [House.killSwitch, House.onPress "on" (.toggle 5 none)]
    [(0, .start), (1, .event (.plugState "plug" false none 1)), House.press "on" 2,
      (3, .event (.plugState "plug" true none 3))]
    (fun reached : Daemon × List Record => (reached.2[5]?).any fun record : Record =>
      (House.switchedOn record && decide (lastRelay "plug" (reached.2.take 5) = some false)) &&
        (record.env.killSwitchRules "plug").any fun rule =>
          decide ((record.after.world.plugAt "plug").switchAt rule = .inactive))
    true (by decide +kernel)
  obtain ⟨record, found, same⟩ := (Option.any_eq_true _ _).mp facts
  simp only [Bool.and_eq_true, decide_eq_true_eq, List.any_eq_true] at same
  obtain ⟨⟨on, off⟩, rule, member, inactive⟩ := same
  exact ⟨history, _, _, daemon, record, run, split_at found, on, off, rule, member,
    fun watched => PlugEntity.watched_iff.mp watched inactive⟩

end MqttController
