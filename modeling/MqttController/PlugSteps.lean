import MqttController.KillSwitches

/-!
# Plugs along a run

What each operation does to a plug, and what the history of a run says about it: the last report of
its relay and its last reading.
-/

namespace MqttController

open Std Emission

/-- What an operation reports about a plug: its relay, its power and when. -/
def Operation.plugReport (device : String) :
    Operation → Option (Option Bool × Option ℚ × Instant)
  | .observePlug other on power ts =>
      if other = device then some (on, power.map fun watts => max watts 0, ts) else none
  | _ => none

namespace PlugEntity

/-- The last readings of the plug are kept. -/
structure KeepsReadings (before after : PlugEntity) : Prop where
  actual : after.actual.value = before.actual.value
  watts : after.power.value = before.power.value
  stamp : after.power.since = before.power.since

theorem KeepsReadings.refl (plug : PlugEntity) : KeepsReadings plug plug := ⟨rfl, rfl, rfl⟩

/-- What an operation makes of one plug. -/
inductive Outcome (env : Env) (device : String) (plug : PlugEntity) :
    Operation → PlugEntity → Prop
  /-- The rules are left alone. -/
  | kept {operation : Operation} {after : PlugEntity}
      (unreported : operation.plugReport device = none) (readings : KeepsReadings plug after)
      (rules : after.killSwitchRules = plug.killSwitchRules) :
      Outcome env device plug operation after
  /-- The plug is told to turn off. -/
  | cleared {operation : Operation} {after : PlugEntity}
      (unreported : operation.plugReport device = none) (readings : KeepsReadings plug after)
      (rules : after.killSwitchRules = plug.onOffClearKillSwitches.killSwitchRules) :
      Outcome env device plug operation after
  /-- A kill switch turns the plug off on a tick. -/
  | killed {ts : Instant} {after : PlugEntity} (killed : Killed plug after) :
      Outcome env device plug (.fireKillSwitches ts) after
  /-- Startup arms the kill switches. -/
  | armed {ts : Instant} (on : plug.actual.value.any (·.on) = true) :
      Outcome env device plug (.armKillSwitches ts)
        (plug.armSwitches (env.killSwitchRules device) plug.power.value ts)
  /-- The kill switches start over. -/
  | replaced {ts : Instant} :
      Outcome env device plug (.replacePlugBindings device ts)
        (let cleared : PlugEntity := { plug with killSwitchRules := ∅ }
        if plug.isOn then
          cleared.armSwitches (env.killSwitchRules device) plug.power.value ts
        else cleared)
  /-- The plug reports. -/
  | reported {on : Option Bool} {power : Option ℚ} {ts : Instant} {after : PlugEntity}
      {fired : Option KillSwitchRule}
      (report : plug.Report (env.killSwitchRules device) on
        (power.map fun watts => max watts 0) ts after fired) :
      Outcome env device plug (.observePlug device on power ts) after

theorem Outcome.same {env : Env} {device : String} {plug : PlugEntity} {operation : Operation}
    (unreported : operation.plugReport device = none) :
    Outcome env device plug operation plug :=
  .kept unreported (KeepsReadings.refl plug) rfl

/-- A command keeps the readings; turning off forgets the progress of the rules. -/
theorem Outcome.command {env : Env} {device : String} {plug : PlugEntity} {operation : Operation}
    (unreported : operation.plugReport device = none) (value : PlugTarget) (owner : Owner)
    (ts : Instant) : Outcome env device plug operation (plug.command value owner ts) := by
  cases value with
  | on => exact .kept unreported ⟨rfl, rfl, rfl⟩ rfl
  | off => exact .cleared unreported ⟨rfl, rfl, rfl⟩ rfl

end PlugEntity

namespace Operation

variable {env : Env}

theorem switchPlug_outcome {operation : Operation} (device : String)
    (unreported : operation.plugReport device = none) (plug : DeviceIdx) (on : Bool) (ts : Instant)
    (world : WorldState) :
    PlugEntity.Outcome env device (world.plugAt device) operation
      ((env.switchPlug plug on ts world).1.plugAt device) := by
  unfold Env.switchPlug
  dsimp only
  rw [WorldState.plugAt_modifyPlug]
  split
  · rename_i same
    rw [same]
    exact .command unreported _ _ ts
  · exact .same unreported

theorem executeEffect_outcome (ruleName device : String) {effect : ResolvedEffect} (ts : Instant)
    (changes : (Operation.execute ruleName effect ts).changesPlugs = true) (runtime : Runtime) :
    PlugEntity.Outcome env device (runtime.world.plugAt device) (.execute ruleName effect ts)
      ((run env (.execute ruleName effect ts) runtime).1.world.plugAt device) := by
  cases effect with
  | toggle plug seconds =>
      unfold run Runtime.onWorld Env.executeEffect Env.togglePlug
      dsimp only
      split
      · split
        · exact switchPlug_outcome device rfl plug false ts
            (runtime.world.dropConfirmOff ruleName)
        · exact .same rfl
      · exact switchPlug_outcome device rfl plug _ ts
          (runtime.world.dropConfirmOff ruleName)
  | turnOn plug => exact switchPlug_outcome device rfl plug true ts runtime.world
  | turnOff plug => exact switchPlug_outcome device rfl plug false ts runtime.world
  | _ => cases changes

theorem webSetPlugPower_outcome (device other : String) (on : Bool) (ts : Instant)
    (world : WorldState) :
    PlugEntity.Outcome env device (world.plugAt device) (.webSetPlugPower other on ts)
      ((env.webSetPlugPower other on ts world).1.plugAt device) := by
  unfold Env.webSetPlugPower
  split
  · exact .same rfl
  · split
    · exact .same rfl
    · dsimp only
      rw [WorldState.plugAt_modifyPlug]
      split
      · rename_i same
        rw [same]
        exact .kept rfl ⟨rfl, rfl, rfl⟩ rfl
      · exact .same rfl

theorem handlePlugState_outcome (device other : String) (on : Option Bool) (power : Option ℚ)
    (ts : Instant) (world : WorldState) :
    PlugEntity.Outcome env device (world.plugAt device) (.observePlug other on power ts)
      ((env.handlePlugState other on power ts world).1.plugAt device) := by
  obtain ⟨after, fired, report, plugs, _⟩ := env.handlePlugState_report other on power ts world
  rw [plugs device]
  split
  · rename_i same
    subst same
    exact .reported report
  · rename_i different
    exact .same (if_neg different)

theorem evaluateKillSwitchTicks_outcome (device : String) (ts : Instant) (world : WorldState) :
    PlugEntity.Outcome env device (world.plugAt device) (.fireKillSwitches ts)
      ((env.evaluateKillSwitchTicks ts world).1.plugAt device) := by
  have fires := (env.evaluateKillSwitchTicks_spec ts world).1 device
  split at fires
  · exact .killed fires
  · rw [fires]
    exact .same rfl

theorem armKillSwitches_outcome (device : String) (ts : Instant) (world : WorldState) :
    PlugEntity.Outcome env device (world.plugAt device) (.armKillSwitches ts)
      ((env.armKillSwitchesForActivePlugs ts world).plugAt device) := by
  rw [Env.armKillSwitchesForActivePlugs_plugAt]
  split
  · rename_i on
    exact .armed on
  · exact .same rfl

theorem replacePlugBindings_outcome (device other : String) (ts : Instant) (world : WorldState) :
    PlugEntity.Outcome env device (world.plugAt device) (.replacePlugBindings other ts)
      ((env.replacePlugBindings other ts world).plugAt device) := by
  rw [Env.replacePlugBindings_plugAt]
  split
  · rename_i same
    subst same
    exact .replaced
  · exact .same rfl

theorem plugAt_ageTargets (world : WorldState) (ts : Instant) (device : String) :
    (world.ageTargets ts).plugAt device = (world.plugAt device).age ts := by
  unfold WorldState.plugAt WorldState.ageTargets
  dsimp only
  rw [OrderedMap.getElem?_mapValues]
  cases world.plugs[device]? <;> rfl

theorem plugAt_ageActuals (world : WorldState) (ts : Instant) (device : String) :
    (world.ageActuals ts).plugAt device = (world.plugAt device).ageActuals ts := by
  unfold WorldState.plugAt WorldState.ageActuals
  dsimp only
  rw [OrderedMap.getElem?_mapValues]
  cases world.plugs[device]? <;> rfl

/-- Every operation has one of the outcomes on each plug. -/
theorem run_plugAt {operation : Operation} (admissible : operation.Admissible env.topology)
    (runtime : Runtime) (device : String) :
    PlugEntity.Outcome env device (runtime.world.plugAt device) operation
      ((operation.run env runtime).1.world.plugAt device) := by
  by_cases changes : operation.changesPlugs
  · cases operation with
    | execute ruleName effect ts => exact executeEffect_outcome ruleName device ts changes runtime
    | webSetPlugPower other on ts => exact webSetPlugPower_outcome device other on ts runtime.world
    | observePlug other on power ts =>
        exact handlePlugState_outcome device other on power ts runtime.world
    | fireKillSwitches ts => exact evaluateKillSwitchTicks_outcome device ts runtime.world
    | armKillSwitches ts => exact armKillSwitches_outcome device ts runtime.world
    | ageTargets ts =>
        change PlugEntity.Outcome env device _ _ ((runtime.world.ageTargets ts).plugAt device)
        rw [plugAt_ageTargets]
        exact .kept rfl ⟨rfl, rfl, rfl⟩ rfl
    | ageActuals ts =>
        change PlugEntity.Outcome env device _ _ ((runtime.world.ageActuals ts).plugAt device)
        rw [plugAt_ageActuals]
        exact .kept rfl
          ⟨TassActual.value_markStaleIfOld _ _ _, TassActual.value_markStaleIfOld _ _ _,
            TassActual.since_markStaleIfOld _ _ _⟩ rfl
    | replacePlugBindings other ts =>
        exact replacePlugBindings_outcome device other ts runtime.world
    | _ => cases changes
  · have plugs := run_plugs admissible (by simpa using changes) runtime
    have same :
        (operation.run env runtime).1.world.plugAt device = runtime.world.plugAt device := by
      simp only [WorldState.plugAt, plugs]
    rw [same]
    cases operation with
    | observePlug other on power ts => exact absurd rfl changes
    | _ => exact .same rfl

end Operation

/-! ## What the history says -/

namespace Record

/-- What the record reports about the relay of a plug. -/
def relayReport (device : String) (record : Record) : Option Bool :=
  (record.operation.plugReport device).bind (·.1)

/-- The reading of a plug that the record brings, with its time. -/
def reading (device : String) (record : Record) : Option (ℚ × Instant) :=
  (record.operation.plugReport device).bind fun report => report.2.1.map fun watts =>
    (watts, report.2.2)

end Record

/-- The last relay report of a plug. -/
def lastRelay (device : String) (history : List Record) : Option Bool :=
  lastPicked (Record.relayReport device) history

/-- The last reading of a plug. -/
def lastReading (device : String) (history : List Record) : Option (ℚ × Instant) :=
  lastPicked (Record.reading device) history

/-- The plug holds the last relay report and the last reading of the history. -/
structure PlugEntity.Remembers (plug : PlugEntity) (device : String) (history : List Record) :
    Prop where
  relay : plug.actual.value.map (·.on) = lastRelay device history
  watts : plug.power.value = (lastReading device history).map Prod.fst
  stamp : plug.power.since = (lastReading device history).map Prod.snd

namespace PlugEntity

variable {plug after : PlugEntity} {device : String} {past : List Record}

/-- What a report leaves in the plug, whatever its rules do. -/
theorem Report.readings {rules : List KillSwitchRule} {on : Option Bool} {power : Option ℚ}
    {ts : Instant} {fired : Option KillSwitchRule}
    (report : plug.Report rules on power ts after fired) :
    after.actual = (plug.observe on power ts).actual ∧
      after.power = (plug.observe on power ts).power := by
  cases report with
  | off reports => exact ⟨by simp [onOffClearKillSwitches], by simp [onOffClearKillSwitches]⟩
  | unused reports notOn => exact ⟨rfl, rfl⟩
  | unread reports isOn unread => exact ⟨by simp, by simp⟩
  | read reports isOn read calm => exact ⟨by simp [takeReading], by simp [takeReading]⟩
  | fire reports isOn read fires =>
      exact ⟨(killed_killed _ ts).actual.trans (by simp [takeReading]),
        (killed_killed _ ts).power.trans (by simp [takeReading])⟩

/-- A plug that was last reported off is turned on unless it was told to be on. -/
theorem turnsOn_iff (off : plug.actual.value.map (·.on) = some false) :
    plug.TurnsOn (some true) ↔ plug.target.value ≠ some .on := by
  obtain ⟨⟨on⟩, seen, shown⟩ := Option.map_eq_some_iff.mp off
  obtain rfl : on = false := shown
  have known : plug.actual.freshness ≠ .unknown := by
    cases actual : plug.actual with
    | unknown => simp [actual] at seen
    | known value stale since => cases stale <;> simp [TassActual.freshness]
  unfold TurnsOn isOn
  rw [seen]
  simp [known]

/-- The reading that the rules take: that of the report, else the stored one. -/
theorem read_observe (plug : PlugEntity) (on : Option Bool) (power : Option ℚ) (ts : Instant) :
    (plug.observe on (power.map fun watts => max watts 0) ts).power.value =
      (power.map fun watts => max watts 0).or plug.power.value := by
  rw [power_observe]
  cases power with
  | none => rfl
  | some watts => simp

theorem firedRule_congr {rules : List KillSwitchRule} {watts : ℚ} {ts : Instant}
    (same : after.killSwitchRules = plug.killSwitchRules) :
    after.firedRule rules watts ts = plug.firedRule rules watts ts := by
  unfold firedRule
  rw [same]

theorem Remembers.unreported (remembers : plug.Remembers device past) {record : Record}
    (unreported : record.operation.plugReport device = none) (readings : KeepsReadings plug after) :
    after.Remembers device (past ++ [record]) := by
  have relay : record.relayReport device = none := by
    unfold Record.relayReport
    rw [unreported, Option.bind_none]
  have reading : record.reading device = none := by
    unfold Record.reading
    rw [unreported, Option.bind_none]
  constructor
  · rw [lastRelay, lastPicked_concat, relay, readings.actual, remembers.relay]
    rfl
  · rw [lastReading, lastPicked_concat, reading, readings.watts, remembers.watts]
    rfl
  · rw [lastReading, lastPicked_concat, reading, readings.stamp, remembers.stamp]
    rfl

/-- Every outcome of an operation leaves the plug with the last report and reading. -/
theorem Outcome.remembers {env : Env} {before : Runtime} {operation : Operation}
    (outcome : Outcome env device plug operation after) (remembers : plug.Remembers device past) :
    after.Remembers device (past ++ [Record.mk env before operation]) := by
  cases outcome with
  | kept unreported readings rules => exact remembers.unreported unreported readings
  | cleared unreported readings rules => exact remembers.unreported unreported readings
  | killed killed =>
      refine remembers.unreported rfl ⟨?_, ?_, ?_⟩
      · rw [killed.actual]
      · rw [killed.power]
      · rw [killed.power]
  | armed on => exact remembers.unreported rfl ⟨rfl, rfl, rfl⟩
  | replaced =>
      refine remembers.unreported rfl ?_
      dsimp only
      split
      · exact ⟨rfl, rfl, rfl⟩
      · exact ⟨rfl, rfl, rfl⟩
  | @reported on power ts after fired report =>
      obtain ⟨actual, stored⟩ := report.readings
      have reports : (Operation.observePlug device on power ts).plugReport device =
          some (on, power.map fun watts => max watts 0, ts) := if_pos rfl
      constructor
      · rw [lastRelay, lastPicked_concat, Record.relayReport, reports, actual, actual_observe]
        cases on with
        | none => exact remembers.relay
        | some on => rfl
      · rw [lastReading, lastPicked_concat, Record.reading, reports, stored, power_observe]
        cases power with
        | none => exact remembers.watts
        | some watts => simp
      · rw [lastReading, lastPicked_concat, Record.reading, reports, stored, power_observe]
        cases power with
        | none => exact remembers.stamp
        | some watts => rfl

end PlugEntity

theorem WorldState.remembers_kept : KeptByOperations fun _ past runtime =>
    ∀ device, (runtime.world.plugAt device).Remembers device past where
  launch _ _ := ⟨rfl, rfl, rfl⟩
  operation _ _ _ runtime admissible _ remembers device :=
    (Operation.run_plugAt admissible runtime device).remembers (remembers device)

/-! ## Toggles -/

namespace Env

variable {env : Env}

/-- A plug is toggled by what it was told or by what it last reported. -/
theorem togglePlug_effects {ruleName : String} {plug : DeviceIdx} {seconds : Option ℚ}
    {ts : Instant} {world : WorldState} {on : Bool}
    (observed : ((world.plugAt (env.topology.deviceName plug)).actual.value.map (·.on)) = some on)
    (outside : seconds = none ∨ on = false) :
    (env.togglePlug ruleName plug seconds ts world).2 =
        [.publishDeviceSet plug (if on then .deviceOff else .deviceOn)] ↔
      ¬ (on = false ∧ (world.plugAt (env.topology.deviceName plug)).target.value = some .on) := by
  obtain ⟨⟨_⟩, seen, rfl⟩ := Option.map_eq_some_iff.mp observed
  have isOn : (world.plugs[env.topology.deviceName plug]?).any (·.isOn) =
      (world.plugAt (env.topology.deviceName plug)).isOn := by
    unfold WorldState.plugAt
    cases world.plugs[env.topology.deviceName plug]? <;> rfl
  have off : ¬ ([.publishDeviceSet plug .deviceOff] : List Effect) =
      [.publishDeviceSet plug .deviceOn] := by
    simp [Payload.deviceOn_ne_deviceOff.symm]
  unfold togglePlug
  rw [isOn]
  unfold PlugEntity.isOn
  rw [seen]
  rename_i shown
  cases shown with
  | true =>
      obtain rfl : seconds = none := by simpa using outside
      simp [switchPlug]
  | false =>
      by_cases told : (world.plugAt (env.topology.deviceName plug)).target.value = some .on
      · refine iff_of_false ?_ (by simp [told])
        rw [told]
        have believed : ((some PlugTarget.on == some .on) ||
            (some (PlugActual.mk false)).any (·.on)) = true := rfl
        rw [believed]
        cases seconds with
        | none => exact off
        | some window =>
            dsimp only
            split
            · exact off
            · simp
      · simp [told, switchPlug]

end Env

/-- In every run, a toggle that no confirmation holds back publishes the opposite of the last relay
report exactly when the plug is not still told to be on although it was last reported off. -/
theorem Run.toggle_inverts_iff {history : List Record} {daemon : Daemon} (run : Run history daemon)
    {past later : List Record} {record : Record} (split : history = past ++ record :: later)
    {ruleName : String} {plug : DeviceIdx} {seconds : Option ℚ} {ts : Instant}
    (toggles : record.operation = .execute ruleName (.toggle plug seconds) ts)
    {on : Bool} (observed : lastRelay (record.env.topology.deviceName plug) past = some on)
    (outside : seconds = none ∨ on = false) :
    record.effects = [.publishDeviceSet plug (if on then .deviceOff else .deviceOn)] ↔
      ¬ (on = false ∧ (record.before.world.plugAt
        (record.env.topology.deviceName plug)).target.value = some .on) := by
  obtain ⟨_, _, remembers⟩ := run.each_record WorldState.remembers_kept split
  obtain ⟨env, before, operation⟩ := record
  dsimp only at toggles
  subst toggles
  have seen := (remembers (env.topology.deviceName plug)).relay
  rw [observed] at seen
  exact Env.togglePlug_effects seen outside

/-- A toggle in a run: its plug, its confirmation, and what is known about the plug. -/
def Record.toggled (record : Record) :
    Option (DeviceIdx × Option ℚ × TargetPhase × Option PlugTarget) :=
  match record.operation with
  | .execute _ (.toggle plug seconds) _ =>
      let entity := record.before.world.plugAt (record.env.topology.deviceName plug)
      some (plug, seconds, entity.target.phase, entity.target.value)
  | _ => none

theorem Record.toggled_eq_some {record : Record} {plug : DeviceIdx} {seconds : Option ℚ}
    {phase : TargetPhase} {value : Option PlugTarget}
    (found : record.toggled = some (plug, seconds, phase, value)) :
    ∃ ruleName ts, record.operation = .execute ruleName (.toggle plug seconds) ts := by
  unfold toggled at found
  split at found
  · rename_i ruleName _ _ ts same
    cases found
    exact ⟨ruleName, ts, same⟩
  · cases found

/-- A plug that was toggled on and reports on is toggled off. -/
theorem Run.toggle_inverts_iff_plug : ∃ (history : List Record) (daemon : Daemon) (record : Record),
    Run history daemon ∧ record ∈ history ∧ record.effects = [.publishDeviceSet 5 .deviceOff] := by
  obtain ⟨daemon, history, run, _, facts⟩ := House.played .offOnly
    [House.onPress "on" (.toggle 5 none)]
    [(0, .start), House.press "on" 1, (2, .event (.plugState "plug" true none 2)),
      House.press "on" 3]
    (fun reached : Daemon × List Record => (reached.2[5]?).any fun record : Record =>
      decide (record.toggled = some (5, none, .confirmed, some .on)) &&
        decide (lastRelay (record.env.topology.deviceName 5) (reached.2.take 5) = some true))
    true (by decide +kernel)
  obtain ⟨record, found, same⟩ := (Option.any_eq_true _ _).mp facts
  rw [Bool.and_eq_true, decide_eq_true_eq, decide_eq_true_eq] at same
  obtain ⟨toggled, observed⟩ := same
  obtain ⟨ruleName, ts, toggles⟩ := Record.toggled_eq_some toggled
  refine ⟨history, daemon, record, run, List.mem_of_getElem? found, ?_⟩
  exact (Run.toggle_inverts_iff run (split_at found) toggles observed
    (.inl rfl)).mpr (by simp)

/-- A plug that was toggled on and then switched off by hand is toggled off again. -/
theorem Run.toggle_inverts_iff_fails : ∃ (history past later : List Record) (daemon : Daemon)
    (record : Record), Run history daemon ∧ history = past ++ record :: later ∧
      record.toggled = some (5, none, .confirmed, some .on) ∧
        lastRelay (record.env.topology.deviceName 5) past = some false ∧
          record.effects = [.publishDeviceSet 5 .deviceOff] := by
  obtain ⟨daemon, history, run, _, facts⟩ := House.played .offOnly
    [House.onPress "on" (.toggle 5 none)]
    [(0, .start), House.press "on" 1, (2, .event (.plugState "plug" true none 2)),
      (3, .event (.plugState "plug" false none 3)), House.press "on" 4]
    (fun reached : Daemon × List Record => (reached.2[6]?).any fun record : Record =>
      decide (record.toggled = some (5, none, .confirmed, some .on)) &&
        (decide (lastRelay (record.env.topology.deviceName 5) (reached.2.take 6) = some false) &&
          decide (record.effects = [.publishDeviceSet 5 .deviceOff])))
    true (by decide +kernel)
  obtain ⟨record, found, same⟩ := (Option.any_eq_true _ _).mp facts
  rw [Bool.and_eq_true, Bool.and_eq_true, decide_eq_true_eq, decide_eq_true_eq,
    decide_eq_true_eq] at same
  obtain ⟨toggled, observed, effects⟩ := same
  exact ⟨history, _, _, daemon, record, run, split_at found, toggled, observed, effects⟩

end MqttController
