import MqttController.PlugSteps

/-!
# Runs of kill switches

A kill switch fires after its plug read below its threshold for the holdoff, as long as no step of
the run carries a holdoff over into a new on-period or misses a reading that ends it.
-/

namespace MqttController

open Emission

/-! ## On-periods -/

/-- One more record of the relay's last report and the period since the plug turned on. -/
def extendPeriod (device : String) (state : Option Bool × List Record) (record : Record) :
    Option Bool × List Record :=
  ((record.relayReport device).or state.1,
    if record.relayReport device = some true ∧ state.1 = some false then [record]
    else state.2 ++ [record])

/-- What was recorded since the plug was last observed to turn on, from that report on; the whole
history when it never was. -/
def onPeriod (device : String) (history : List Record) : List Record :=
  (history.foldl (extendPeriod device) (none, [])).2

theorem extendPeriods_fst (device : String) (history : List Record) :
    (history.foldl (extendPeriod device) (none, [])).1 = lastRelay device history := by
  induction history using List.reverseRecOn with
  | nil => rfl
  | append_singleton history record ih =>
      rw [List.foldl_append, List.foldl_cons, List.foldl_nil, lastRelay, lastPicked_concat,
        ← lastRelay, ← ih]
      rfl

theorem onPeriod_concat (device : String) (history : List Record) (record : Record) :
    onPeriod device (history ++ [record]) =
      if record.relayReport device = some true ∧ lastRelay device history = some false then
        [record]
      else onPeriod device history ++ [record] := by
  unfold onPeriod
  rw [List.foldl_append, List.foldl_cons, List.foldl_nil, ← extendPeriods_fst]
  rfl

/-- An on-period is the end of its history. -/
theorem onPeriod_suffix (device : String) (history : List Record) :
    ∃ front, history = front ++ onPeriod device history := by
  induction history using List.reverseRecOn with
  | nil => exact ⟨[], rfl⟩
  | append_singleton history record ih =>
      rw [onPeriod_concat]
      split
      · exact ⟨history, rfl⟩
      · obtain ⟨front, split⟩ := ih
        exact ⟨front, by rw [← List.append_assoc, ← split]⟩

/-- An on-period ends with the last record. -/
theorem onPeriod_last (device : String) (history : List Record) (record : Record) :
    ∃ front, onPeriod device (history ++ [record]) = front ++ [record] := by
  rw [onPeriod_concat]
  split
  · exact ⟨[], rfl⟩
  · exact ⟨_, rfl⟩

/-! ## Low readings -/

/-- In the period a reading below the threshold was received at a time, and all later ones are below
it too. -/
def LowReading (device : String) (rule : KillSwitchRule) (period : List Record) (stamp : Instant) :
    Prop :=
  ∃ before record after watts, period = before ++ record :: after ∧
    record.reading device = some (watts, stamp) ∧ watts < rule.thresholdWatts ∧
      ∀ later ∈ after, ∀ other, later.reading device = some other → other.1 < rule.thresholdWatts

section LowReading

variable {device : String} {rule : KillSwitchRule} {period past : List Record} {stamp : Instant}
  {record : Record}

theorem LowReading.concat (low : LowReading device rule period stamp)
    (below : ∀ other, record.reading device = some other → other.1 < rule.thresholdWatts) :
    LowReading device rule (period ++ [record]) stamp := by
  obtain ⟨before, first, after, watts, rfl, reading, below', all⟩ := low
  refine ⟨before, first, after ++ [record], watts, by simp, reading, below', ?_⟩
  intro later member other read
  rcases List.mem_append.mp member with earlier | last
  · exact all later earlier other read
  · rw [List.mem_singleton.mp last] at read
    exact below other read

/-- A report with a reading below the threshold. -/
theorem lowReading_of_report {watts : ℚ} (reading : record.reading device = some (watts, stamp))
    (below : watts < rule.thresholdWatts) :
    LowReading device rule (onPeriod device (past ++ [record])) stamp := by
  obtain ⟨front, split⟩ := onPeriod_last device past record
  exact ⟨front, record, [], watts, split, reading, below, by simp⟩

/-- The last reading is below the threshold, and the period has a reading. -/
theorem lowReading_of_last {watts : ℚ} (last : lastReading device past = some (watts, stamp))
    (below : watts < rule.thresholdWatts) {front : List Record} (split : past = front ++ period)
    (read : ∃ earlier ∈ period, (earlier.reading device).isSome) :
    LowReading device rule period stamp := by
  have here : lastReading device period = some (watts, stamp) := by
    obtain ⟨earlier, member, reads⟩ := read
    obtain ⟨value, found⟩ := Option.isSome_iff_exists.mp
      (lastPicked_isSome.mpr ⟨earlier, member, reads⟩)
    change lastReading device period = some value at found
    have both : lastReading device past =
        (lastReading device period).or (lastReading device front) := by
      rw [split]
      exact lastPicked_append _ front period
    rw [both] at last
    rw [found, Option.some_or] at last
    rw [found, last]
  obtain ⟨before, output, later, rfl, reading, none⟩ := lastPicked_eq_some_iff.mp here
  refine ⟨before, output, later, watts, rfl, reading, below, fun other member value read => ?_⟩
  rw [none other member] at read
  cases read

/-- After a low reading the plug's last reading is low. -/
theorem LowReading.last (low : LowReading device rule period stamp) {front : List Record}
    (split : past = front ++ period) :
    ∃ value, lastReading device past = some value ∧ value.1 < rule.thresholdWatts := by
  obtain ⟨before, first, after, watts, rfl, reading, below, all⟩ := low
  have shape : past = (front ++ before ++ [first]) ++ after := by rw [split]; simp
  have both : lastReading device past = (lastPicked (Record.reading device) after).or
      (some (watts, stamp)) := by
    unfold lastReading
    rw [shape, lastPicked_append, lastPicked_concat, reading, Option.some_or]
  cases later : lastPicked (Record.reading device) after with
  | none =>
      rw [later, Option.none_or] at both
      exact ⟨_, both, below⟩
  | some value =>
      rw [later, Option.some_or] at both
      obtain ⟨_, output, _, rfl, read, _⟩ := lastPicked_eq_some_iff.mp later
      exact ⟨value, both, all output (by simp) value read⟩

end LowReading

/-! ## Firings and the steps that mislead a rule -/

namespace Record

/-- A rule of a plug fires at a time: on a report of the plug or on a tick. -/
def Fires (device : String) (rule : KillSwitchRule) (ts : Instant) (record : Record) : Prop :=
  match record.operation with
  | .observePlug other on power time =>
      let plug := record.before.world.plugAt device
      let power := power.map fun watts => max watts 0
      let rules := record.env.killSwitchRules device
      other = device ∧ time = ts ∧ on ≠ some false ∧ (plug.observe on power ts).isOn = true ∧
        ∃ watts, (plug.observe on power ts).power.value = some watts ∧
          (plug.reported rules on power ts).firedRule rules watts ts = some rule
  | .fireKillSwitches time => time = ts ∧ ∃ binding ∈ record.env.effectiveBindings,
      record.env.killSwitchRule binding = some rule ∧
        record.env.killSwitchDue ts record.before.world binding = some (device, device)
  | _ => False

/-- The reading that the plug holds was not received in its current on-period, or is stamped later
than the given time. -/
def HoldsOldReading (device : String) (past : List Record) (ts : Instant) (record : Record) :
    Prop :=
  (∀ earlier ∈ onPeriod device (past ++ [record]), earlier.reading device = none) ∨
    ∃ stamp, (record.before.world.plugAt device).power.since = some stamp ∧ ts < stamp

/-- The step misleads a rule of a plug about its holdoff. -/
inductive Misleads (device : String) (rule : KillSwitchRule) (past : List Record)
    (record : Record) : Prop
  /-- A report without a reading starts the holdoff of an armed rule, or of one that it arms, from
  an old reading. -/
  | report (on : Option Bool) (ts : Instant) (watts : ℚ)
      (reports : record.operation = .observePlug device on none ts) (keepsOn : on ≠ some false)
      (armed : (record.before.world.plugAt device).switchAt rule = .armed ∨
        ((record.before.world.plugAt device).TurnsOn on ∧
          (record.before.world.plugAt device).switchAt rule ≠ .suppressed))
      (stored : (record.before.world.plugAt device).power.value = some watts)
      (below : watts < rule.thresholdWatts) (old : record.HoldsOldReading device past ts)
  /-- Startup starts the holdoff of a rule from an old reading. -/
  | startup (ts : Instant) (watts : ℚ) (starts : record.operation = .armKillSwitches ts)
      (on : (record.before.world.plugAt device).actual.value.any (·.on) = true)
      (unarmed : (record.before.world.plugAt device).switchAt rule ≠ .armed)
      (unsuppressed : (record.before.world.plugAt device).switchAt rule ≠ .suppressed)
      (stored : (record.before.world.plugAt device).power.value = some watts)
      (below : watts < rule.thresholdWatts) (old : record.HoldsOldReading device past ts)
  /-- A report that turns on a plug which was told to be on finds the rule idle, and its reading
  does not end the holdoff. -/
  | carried (power : Option ℚ) (ts since : Instant)
      (reports : record.operation = .observePlug device (some true) power ts)
      (off : lastRelay device past = some false)
      (told : (record.before.world.plugAt device).target.value = some .on)
      (idle : (record.before.world.plugAt device).switchAt rule = .idle since)
      (goesOn : ∀ watts, (power.map fun watts => max watts 0).or
          (record.before.world.plugAt device).power.value = some watts →
        rule.thresholdWatts ≤ watts → ¬ KillSwitchRule.Reached watts ts
          (record.before.world.plugAt device).killSwitchRules
            (record.env.killSwitchRules device) rule)
  /-- A reading at the threshold does not reach the idle rule: the plug is off, or an earlier rule
  that turns no plug off is due. -/
  | missed (on : Option Bool) (watts : ℚ) (ts since : Instant)
      (reports : record.operation = .observePlug device on (some watts) ts)
      (above : rule.thresholdWatts ≤ max watts 0)
      (idle : (record.before.world.plugAt device).switchAt rule = .idle since)
      (keepsOn : on ≠ some false) (unarmed : ¬ (record.before.world.plugAt device).TurnsOn on)
      (unreached : ((record.before.world.plugAt device).observe on (some (max watts 0)) ts).isOn =
          false ∨
        (¬ KillSwitchRule.Reached (max watts 0) ts
          (record.before.world.plugAt device).killSwitchRules
            (record.env.killSwitchRules device) rule ∧
          (record.before.world.plugAt device).firedRule (record.env.killSwitchRules device)
            (max watts 0) ts = none))

end Record

/-! ## What keeps track of a rule -/

/-- The holdoff of an idle rule began at a low reading of the current on-period or later. -/
def TracksIdle (device : String) (rule : KillSwitchRule) (past : List Record) (plug : PlugEntity) :
    Prop :=
  ∀ since, plug.switchAt rule = .idle since →
    ∃ stamp ≤ since, LowReading device rule (onPeriod device past) stamp

section Tracking

variable {env : Env} {before : Runtime} {device : String} {rule : KillSwitchRule}
  {past : List Record} {on : Option Bool} {power : Option ℚ} {ts since : Instant}

theorem reading_report : (Record.mk env before (.observePlug device on power ts)).reading device =
    (power.map fun watts => max watts 0).map fun watts => (watts, ts) := by
  unfold Record.reading Operation.plugReport
  dsimp only
  rw [if_pos rfl, Option.bind_some]

theorem relayReport_report :
    (Record.mk env before (.observePlug device on power ts)).relayReport device = on := by
  unfold Record.relayReport Operation.plugReport
  dsimp only
  rw [if_pos rfl, Option.bind_some]

/-- A record that reports nothing about the plug extends the on-period without a reading. -/
theorem LowReading.unreported {stamp : Instant} {record : Record}
    (low : LowReading device rule (onPeriod device past) stamp)
    (unreported : record.operation.plugReport device = none) :
    LowReading device rule (onPeriod device (past ++ [record])) stamp := by
  have relay : record.relayReport device = none := by
    unfold Record.relayReport
    rw [unreported, Option.bind_none]
  have reading : record.reading device = none := by
    unfold Record.reading
    rw [unreported, Option.bind_none]
  rw [onPeriod_concat, if_neg (by simp [relay])]
  refine low.concat fun other read => ?_
  rw [reading] at read
  cases read

/-- A stored reading that is not old is low in the current on-period. -/
theorem lowReading_of_stored {record : Record} {watts : ℚ}
    (remembers : (record.before.world.plugAt device).Remembers device past)
    (stored : (record.before.world.plugAt device).power.value = some watts)
    (below : watts < rule.thresholdWatts) (unread : record.reading device = none)
    (recent : ¬ record.HoldsOldReading device past ts) :
    ∃ stamp ≤ ts, LowReading device rule (onPeriod device (past ++ [record])) stamp := by
  unfold Record.HoldsOldReading at recent
  rw [not_or] at recent
  obtain ⟨inside, inTime⟩ := recent
  have watts' := remembers.watts
  have stamped := remembers.stamp
  rw [stored] at watts'
  obtain ⟨⟨reading, stamp⟩, last, same⟩ := Option.map_eq_some_iff.mp watts'.symm
  obtain rfl : reading = watts := same
  rw [last] at stamped
  refine ⟨stamp, ?_, ?_⟩
  · by_contra later
    exact inTime ⟨stamp, stamped, Nat.lt_of_not_le later⟩
  · have last' : lastReading device (past ++ [record]) = some (reading, stamp) := by
      rw [lastReading, lastPicked_concat, unread, Option.none_or]
      exact last
    obtain ⟨front, split⟩ := onPeriod_suffix device (past ++ [record])
    refine lowReading_of_last last' below split ?_
    push Not at inside
    obtain ⟨earlier, member, read⟩ := inside
    exact ⟨earlier, member, Option.isSome_iff_ne_none.mpr read⟩

/-- What the report makes of the state of a rule before the rule takes the reading. -/
theorem switchAt_reported (plug : PlugEntity) {rules : List KillSwitchRule} (on : Option Bool)
    (power : Option ℚ) (ts : Instant) (names : (rules.map (·.name)).Nodup) (member : rule ∈ rules) :
    (plug.reported rules on power ts).switchAt rule =
      if plug.TurnsOn on then rule.armedState power ts (plug.switchAt rule)
      else plug.switchAt rule := by
  unfold PlugEntity.switchAt KillSwitchRule.stateIn
  rw [PlugEntity.killSwitchRules_reported]
  split
  · rw [KillSwitchRule.arm_each names power member]
    rfl
  · rfl

/-- A rule that a report leaves idle has a low reading to show for it, unless it is misled. -/
theorem TracksIdle.reported
    (remembers : (before.world.plugAt device).Remembers device past)
    (tracks : TracksIdle device rule past (before.world.plugAt device))
    (member : rule ∈ env.killSwitchRules device)
    (faithful :
      ¬ (Record.mk env before (.observePlug device on power ts)).Misleads device rule past)
    (keepsOn : on ≠ some false)
    (idle : ((before.world.plugAt device).reported (env.killSwitchRules device) on
      (power.map fun watts => max watts 0) ts).switchAt rule = .idle since)
    (goesOn : ∀ watts, ((before.world.plugAt device).observe on
        (power.map fun watts => max watts 0) ts).power.value = some watts →
      rule.thresholdWatts ≤ watts →
        ¬ KillSwitchRule.Reached watts ts ((before.world.plugAt device).reported
          (env.killSwitchRules device) on (power.map fun watts => max watts 0) ts).killSwitchRules
            (env.killSwitchRules device) rule ∧
        ((before.world.plugAt device).reported (env.killSwitchRules device) on
          (power.map fun watts => max watts 0) ts).firedRule (env.killSwitchRules device) watts ts =
            none) :
    ∃ stamp ≤ since, LowReading device rule
      (onPeriod device (past ++ [Record.mk env before (.observePlug device on power ts)]))
      stamp := by
  obtain ⟨names, _⟩ := env.killSwitchRules_fit device
  rw [switchAt_reported _ _ _ _ names member] at idle
  have states := (before.world.plugAt device).killSwitchRules_reported (env.killSwitchRules device)
    on (power.map fun watts => max watts 0) ts
  split at idle
  · -- Arming starts the holdoff from the reading of the report.
    unfold KillSwitchRule.armedState at idle
    split at idle
    · cases idle
    · cases idle
    · split at idle
      · rename_i low
        cases idle
        cases power with
        | none => cases low
        | some watts =>
            refine ⟨ts, le_refl ts, lowReading_of_report reading_report ?_⟩
            simpa using low
      · cases idle
  · rename_i unarmed
    rw [if_neg unarmed] at states
    rw [states, PlugEntity.read_observe] at goesOn
    simp only [PlugEntity.firedRule_congr states] at goesOn
    obtain ⟨stamp, early, low⟩ := tracks since idle
    rw [onPeriod_concat, relayReport_report]
    split
    · -- The report begins an on-period while the rule is idle.
      rename_i begins
      obtain ⟨rfl, off⟩ := begins
      rw [PlugEntity.turnsOn_iff ((remembers.relay).trans off), not_not] at unarmed
      refine absurd (.carried power ts since rfl off unarmed idle ?_) faithful
      exact fun watts read above => (goesOn watts read above).1
    · refine ⟨stamp, early, low.concat fun other read => ?_⟩
      rw [reading_report] at read
      obtain ⟨watts, reported, rfl⟩ := Option.map_eq_some_iff.mp read
      obtain ⟨raw, rfl, rfl⟩ := Option.map_eq_some_iff.mp reported
      by_contra above
      have above := not_lt.mp above
      exact faithful (.missed on raw ts since rfl above idle keepsOn unarmed
        (.inr (goesOn (max raw 0) rfl above)))

theorem switchAt_onOffClear_ne_idle (plug : PlugEntity) (rule : KillSwitchRule) (since : Instant) :
    plug.onOffClearKillSwitches.switchAt rule ≠ .idle since := by
  rw [PlugEntity.switchAt_onOffClear]
  split <;> simp

theorem PlugEntity.Killed.switchAt_ne_idle {plug after : PlugEntity}
    (killed : PlugEntity.Killed plug after) (rule : KillSwitchRule) (since : Instant) :
    after.switchAt rule ≠ .idle since := by
  unfold PlugEntity.switchAt KillSwitchRule.stateIn
  rw [killed.rules]
  cases plug.killSwitchRules[rule.name]? <;> simp

/-- A report that leaves the plug off keeps track of an idle rule, as it leaves the rules alone. -/
theorem TracksIdle.unused
    (tracks : TracksIdle device rule past (before.world.plugAt device))
    (faithful :
      ¬ (Record.mk env before (.observePlug device on power ts)).Misleads device rule past)
    (reports : on ≠ some false)
    (notOn : ((before.world.plugAt device).observe on
      (power.map fun watts => max watts 0) ts).isOn = false)
    (idle : ((before.world.plugAt device).observe on
      (power.map fun watts => max watts 0) ts).switchAt rule = .idle since) :
    ∃ stamp ≤ since, LowReading device rule
      (onPeriod device (past ++ [Record.mk env before (.observePlug device on power ts)]))
      stamp := by
  have silent : on = none := by
    cases on with
    | none => rfl
    | some on =>
        cases on with
        | false => exact absurd rfl reports
        | true => simp [PlugEntity.isOn, PlugEntity.actual_observe] at notOn
  subst silent
  have idle' : (before.world.plugAt device).switchAt rule = .idle since := by
    unfold PlugEntity.switchAt at idle ⊢
    rwa [PlugEntity.killSwitchRules_observe] at idle
  obtain ⟨stamp, early, low⟩ := tracks since idle'
  refine ⟨stamp, early, ?_⟩
  rw [onPeriod_concat, relayReport_report, if_neg (by simp)]
  refine low.concat fun other read => ?_
  rw [reading_report] at read
  obtain ⟨watts, reported, rfl⟩ := Option.map_eq_some_iff.mp read
  obtain ⟨raw, rfl, rfl⟩ := Option.map_eq_some_iff.mp reported
  by_contra above
  refine faithful (.missed none raw ts since rfl (not_lt.mp above) idle' reports ?_ (.inl notOn))
  rintro ⟨silent, _⟩
  cases silent

/-- A reading that starts the holdoff of an armed rule is low, and one of the on-period unless the
rule is misled. -/
theorem lowReading_of_armed {watts : ℚ}
    (remembers : (before.world.plugAt device).Remembers device past)
    (member : rule ∈ env.killSwitchRules device)
    (faithful :
      ¬ (Record.mk env before (.observePlug device on power ts)).Misleads device rule past)
    (reports : on ≠ some false)
    (read : ((before.world.plugAt device).observe on
      (power.map fun watts => max watts 0) ts).power.value = some watts)
    (armed : ((before.world.plugAt device).reported (env.killSwitchRules device) on
      (power.map fun watts => max watts 0) ts).switchAt rule = .armed)
    (below : watts < rule.thresholdWatts) :
    ∃ stamp ≤ ts, LowReading device rule
      (onPeriod device (past ++ [Record.mk env before (.observePlug device on power ts)]))
      stamp := by
  obtain ⟨names, _⟩ := env.killSwitchRules_fit device
  rw [PlugEntity.read_observe] at read
  cases power with
  | some raw =>
      cases read
      exact ⟨ts, le_refl ts, lowReading_of_report reading_report below⟩
  | none =>
      refine lowReading_of_stored remembers read below reading_report fun old => ?_
      refine faithful (.report on ts watts rfl reports ?_ read below old)
      rw [switchAt_reported _ _ _ _ names member] at armed
      split at armed
      · rename_i turns
        refine .inr ⟨turns, fun suppressed => ?_⟩
        rw [suppressed] at armed
        cases armed
      · exact .inl armed

/-- A report of the plug keeps track of an idle rule. -/
theorem TracksIdle.report {after : PlugEntity} {fired : Option KillSwitchRule}
    (remembers : (before.world.plugAt device).Remembers device past)
    (tracks : TracksIdle device rule past (before.world.plugAt device))
    (member : rule ∈ env.killSwitchRules device)
    (faithful :
      ¬ (Record.mk env before (.observePlug device on power ts)).Misleads device rule past)
    (report : (before.world.plugAt device).Report (env.killSwitchRules device) on
      (power.map fun watts => max watts 0) ts after fired) :
    TracksIdle device rule (past ++ [Record.mk env before (.observePlug device on power ts)])
      after := by
  obtain ⟨names, _⟩ := env.killSwitchRules_fit device
  intro since idle
  cases report with
  | off reports =>
      refine absurd ?_ (switchAt_onOffClear_ne_idle ((before.world.plugAt device).observe on
        (power.map fun watts => max watts 0) ts) rule since)
      unfold PlugEntity.switchAt at idle ⊢
      rwa [PlugEntity.killSwitchRules_maybeConfirm] at idle
  | unused reports notOn => exact tracks.unused faithful reports notOn idle
  | unread reports isOn unread =>
      refine tracks.reported remembers member faithful reports idle fun watts read => ?_
      rw [unread] at read
      cases read
  | @read watts reports isOn read calm =>
      rcases PlugEntity.takeReading_cases
          ((before.world.plugAt device).reported (env.killSwitchRules device) on
            (power.map fun watts => max watts 0) ts) watts ts names member with taken | left
      · rw [PlugEntity.switchAt_of_lookup taken.2] at idle
        unfold KillSwitchRule.take at idle
        split at idle
        · rename_i below
          split at idle
          · rename_i armed
            cases idle
            exact lowReading_of_armed remembers member faithful reports read armed below
          · refine tracks.reported remembers member faithful reports idle fun other same above => ?_
            rw [read] at same
            cases same
            exact absurd below (not_lt.mpr above)
        · cases idle
      · have kept : ((before.world.plugAt device).reported (env.killSwitchRules device) on
            (power.map fun watts => max watts 0) ts).switchAt rule = .idle since := by
          unfold PlugEntity.switchAt KillSwitchRule.stateIn at idle ⊢
          rwa [left.2.2] at idle
        refine tracks.reported remembers member faithful reports kept fun other same above => ?_
        rw [read] at same
        cases same
        exact ⟨left.1, calm⟩
  | fire reports isOn read fires =>
      exact absurd idle
        (PlugEntity.Killed.switchAt_ne_idle (PlugEntity.killed_killed _ ts) rule since)

/-- Every operation that does not start the rules of the plug over keeps track of an idle rule. -/
theorem TracksIdle.step {operation : Operation} {after : PlugEntity}
    (remembers : (before.world.plugAt device).Remembers device past)
    (tracks : TracksIdle device rule past (before.world.plugAt device))
    (member : rule ∈ env.killSwitchRules device)
    (faithful : ¬ (Record.mk env before operation).Misleads device rule past)
    (fixed : ∀ ts, operation ≠ .replacePlugBindings device ts)
    (outcome : PlugEntity.Outcome env device (before.world.plugAt device) operation after) :
    TracksIdle device rule (past ++ [Record.mk env before operation]) after := by
  obtain ⟨names, _⟩ := env.killSwitchRules_fit device
  cases outcome with
  | kept unreported readings rules =>
      intro since idle
      have same : after.switchAt rule = (before.world.plugAt device).switchAt rule := by
        unfold PlugEntity.switchAt
        rw [rules]
      obtain ⟨stamp, early, low⟩ := tracks since (same ▸ idle)
      exact ⟨stamp, early, low.unreported unreported⟩
  | cleared unreported readings rules =>
      intro since idle
      refine absurd ?_ (switchAt_onOffClear_ne_idle (before.world.plugAt device) rule since)
      unfold PlugEntity.switchAt at idle ⊢
      rwa [rules] at idle
  | killed killed =>
      exact fun since idle => absurd idle (PlugEntity.Killed.switchAt_ne_idle killed rule since)
  | @armed ts on =>
      intro since idle
      have state := (before.world.plugAt device).switchAt_armSwitches names
        (before.world.plugAt device).power.value ts member
      rw [state] at idle
      unfold KillSwitchRule.armedState at idle
      split at idle
      · cases idle
      · cases idle
      · rename_i unsuppressed unarmed
        split at idle
        · rename_i low
          cases idle
          obtain ⟨watts, stored, below⟩ := (Option.any_eq_true _ _).mp low
          refine lowReading_of_stored remembers stored (by simpa using below) rfl fun old => ?_
          exact faithful (.startup ts watts rfl on unarmed unsuppressed stored
            (by simpa using below) old)
        · cases idle
  | replaced => exact absurd rfl (fixed _)
  | reported report => exact tracks.report remembers member faithful report

/-! ## Firing -/

/-- A rule fires on its low reading of the current on-period, which is as old as its holdoff. -/
theorem Record.Fires.low {operation : Operation}
    (fires : (Record.mk env before operation).Fires device rule ts)
    (remembers : (before.world.plugAt device).Remembers device past)
    (tracks : TracksIdle device rule past (before.world.plugAt device))
    (faithful : ¬ (Record.mk env before operation).Misleads device rule past) :
    ∃ stamp, LowReading device rule (onPeriod device (past ++ [Record.mk env before operation]))
      stamp ∧ durationSince ts stamp ≥ rule.holdoff := by
  have older : ∀ {stamp since : Instant}, stamp ≤ since → durationSince ts since ≥ rule.holdoff →
      durationSince ts stamp ≥ rule.holdoff := by
    intro stamp since early elapsed
    exact le_trans elapsed (Nat.sub_le_sub_left early ts)
  unfold Record.Fires at fires
  split at fires
  · rename_i other on power time same
    dsimp only at same
    subst same
    obtain ⟨rfl, rfl, keepsOn, isOn, watts, read, fired⟩ := fires
    obtain ⟨found, _⟩ := Option.filter_eq_some_iff.mp fired
    obtain ⟨below, since, idle, elapsed⟩ := KillSwitchRule.due_iff.mp (List.find?_some found)
    obtain ⟨stamp, early, low⟩ := tracks.reported remembers (List.mem_of_find?_eq_some found)
      faithful keepsOn idle fun value same above => by
        rw [read] at same
        cases same
        exact absurd below (not_lt.mpr above)
    exact ⟨stamp, low, older early elapsed⟩
  · rename_i time same
    dsimp only at same
    subst same
    obtain ⟨rfl, binding, listed, described, due⟩ := fires
    obtain ⟨_, other, _, described', _, _, since, idle, elapsed⟩ :=
      Env.killSwitchDue_rule listed due
    dsimp only at described
    rw [described] at described'
    cases described'
    obtain ⟨stamp, early, low⟩ := tracks since idle
    exact ⟨stamp, low.unreported rfl, older early elapsed⟩
  · exact fires.elim

theorem Record.Fires.member {operation : Operation}
    (fires : (Record.mk env before operation).Fires device rule ts) :
    rule ∈ env.killSwitchRules device := by
  unfold Record.Fires at fires
  split at fires
  · obtain ⟨_, _, _, _, watts, _, fired⟩ := fires
    exact List.mem_of_find?_eq_some (Option.filter_eq_some_iff.mp fired).1
  · obtain ⟨_, binding, listed, described, due⟩ := fires
    obtain ⟨_, other, member, described', _⟩ := Env.killSwitchDue_rule listed due
    dsimp only at described
    rw [described] at described'
    cases described'
    exact member
  · exact fires.elim

/-- A rule that is suppressed does not fire. -/
theorem Record.Fires.unsuppressed {operation : Operation}
    (fires : (Record.mk env before operation).Fires device rule ts) :
    (before.world.plugAt device).switchAt rule ≠ .suppressed := by
  intro suppressed
  have member := fires.member
  obtain ⟨names, _⟩ := env.killSwitchRules_fit device
  unfold Record.Fires at fires
  split at fires
  · rename_i other on power time same
    obtain ⟨_, _, _, _, watts, _, fired⟩ := fires
    obtain ⟨_, since, idle, _⟩ := KillSwitchRule.due_iff.mp
      (List.find?_some (Option.filter_eq_some_iff.mp fired).1)
    have state := switchAt_reported (before.world.plugAt device) on
      (power.map fun watts => max watts 0) ts names member
    rw [suppressed] at state
    have idle : PlugEntity.switchAt _ rule = .idle since := idle
    rw [state] at idle
    split at idle
    · cases idle
    · cases idle
  · obtain ⟨_, binding, listed, described, due⟩ := fires
    obtain ⟨_, other, _, described', _, _, since, idle, _⟩ := Env.killSwitchDue_rule listed due
    dsimp only at described
    rw [described] at described'
    cases described'
    rw [suppressed] at idle
    cases idle
  · exact fires.elim

theorem PlugEntity.Killed.suppressed {plug after : PlugEntity}
    (killed : PlugEntity.Killed plug after)
    (active : plug.switchAt rule ≠ .inactive) : after.switchAt rule = .suppressed := by
  obtain ⟨state, found⟩ := Option.isSome_iff_exists.mp (PlugEntity.isSome_of_switchAt active)
  have lookup := killed.rules rule.name
  rw [found, Option.map_some] at lookup
  exact PlugEntity.switchAt_of_lookup lookup

/-- A rule that fires is suppressed afterwards. -/
theorem Record.Fires.suppresses {operation : Operation}
    (fires : (Record.mk env before operation).Fires device rule ts) :
    (((operation.run env before).1.world.plugAt device).switchAt rule) = .suppressed := by
  obtain ⟨names, _⟩ := env.killSwitchRules_fit device
  have member := fires.member
  unfold Record.Fires at fires
  split at fires
  · rename_i other on power time same
    dsimp only at same
    subst same
    obtain ⟨rfl, rfl, keepsOn, isOn, watts, read, fired⟩ := fires
    obtain ⟨after, outcome, report, plugs, _⟩ :=
      env.handlePlugState_report other on power time before.world
    have here := plugs other
    rw [if_pos rfl] at here
    change ((env.handlePlugState other on power time before.world).1.plugAt other).switchAt rule = _
    rw [here]
    cases report with
    | off reports => exact absurd reports keepsOn
    | unused reports notOn =>
        rw [isOn] at notOn
        cases notOn
    | unread reports isOn unread =>
        rw [read] at unread
        cases unread
    | read reports isOn read' calm =>
        rw [read] at read'
        cases read'
        dsimp only at fired
        rw [calm] at fired
        cases fired
    | fire reports isOn read' fires =>
        rw [read] at read'
        cases read'
        refine PlugEntity.Killed.suppressed (PlugEntity.killed_killed _ time) ?_
        obtain ⟨_, since, idle, _⟩ := KillSwitchRule.due_iff.mp
          (List.find?_some (Option.filter_eq_some_iff.mp fired).1)
        refine PlugEntity.takeReading_active names member ?_
        have idle : PlugEntity.switchAt _ rule = .idle since := idle
        rw [idle]
        simp
  · rename_i time same
    dsimp only at same
    subst same
    obtain ⟨rfl, binding, listed, described, due⟩ := fires
    obtain ⟨_, other, _, described', _, _, since, idle, _⟩ := Env.killSwitchDue_rule listed due
    dsimp only at described
    rw [described] at described'
    cases described'
    have killed := (env.evaluateKillSwitchTicks_spec time before.world).1 device
    rw [if_pos ⟨binding, listed, due⟩] at killed
    exact PlugEntity.Killed.suppressed killed (by rw [idle]; simp)
  · exact fires.elim

/-! ## After firing -/

/-- The rule is suppressed and the last reading of its plug is below its threshold. -/
def Quiet (device : String) (rule : KillSwitchRule) (past : List Record) (plug : PlugEntity) :
    Prop :=
  plug.switchAt rule = .suppressed ∧
    ∃ value, lastReading device past = some value ∧ value.1 < rule.thresholdWatts

/-- A report whose readings are below the threshold leaves a suppressed rule suppressed. -/
theorem suppressed_report {plug after : PlugEntity} {fired : Option KillSwitchRule}
    {rules : List KillSwitchRule} {power : Option ℚ} (names : (rules.map (·.name)).Nodup)
    (member : rule ∈ rules) (suppressed : plug.switchAt rule = .suppressed)
    (below : ∀ watts, (plug.observe on power ts).power.value = some watts →
      watts < rule.thresholdWatts)
    (report : plug.Report rules on power ts after fired) : after.switchAt rule = .suppressed := by
  have state : (plug.reported rules on power ts).switchAt rule = .suppressed := by
    rw [switchAt_reported _ _ _ _ names member, suppressed]
    split <;> rfl
  have taken : ∀ watts, watts < rule.thresholdWatts →
      ((plug.reported rules on power ts).takeReading rules watts ts).switchAt rule =
        .suppressed := by
    intro watts low
    rcases PlugEntity.takeReading_cases (plug.reported rules on power ts) watts ts
        names member with taken | left
    · rw [PlugEntity.switchAt_of_lookup taken.2, state]
      simp [KillSwitchRule.take, low]
    · unfold PlugEntity.switchAt KillSwitchRule.stateIn at state ⊢
      rwa [left.2.2]
  cases report with
  | off reports =>
      have cleared := PlugEntity.switchAt_onOffClear (plug.observe on power ts) rule
      have before : (plug.observe on power ts).switchAt rule = .suppressed := by
        unfold PlugEntity.switchAt at suppressed ⊢
        rwa [PlugEntity.killSwitchRules_observe]
      rw [before, if_pos rfl] at cleared
      unfold PlugEntity.switchAt at cleared ⊢
      rwa [PlugEntity.killSwitchRules_maybeConfirm]
  | unused reports notOn =>
      unfold PlugEntity.switchAt at suppressed ⊢
      rwa [PlugEntity.killSwitchRules_observe]
  | unread reports isOn unread => exact state
  | read reports isOn read calm => exact taken _ (below _ read)
  | fire reports isOn read fires =>
      refine PlugEntity.Killed.suppressed (PlugEntity.killed_killed _ ts) ?_
      rw [taken _ (below _ read)]
      simp

theorem Quiet.step {operation : Operation} {after : PlugEntity}
    (quiet : Quiet device rule past (before.world.plugAt device))
    (remembers : (before.world.plugAt device).Remembers device past)
    (member : rule ∈ env.killSwitchRules device)
    (fixed : ∀ ts, operation ≠ .replacePlugBindings device ts)
    (outcome : PlugEntity.Outcome env device (before.world.plugAt device) operation after) :
    (∃ value, (Record.mk env before operation).reading device = some value ∧
      rule.thresholdWatts ≤ value.1) ∨
      Quiet device rule (past ++ [Record.mk env before operation]) after := by
  obtain ⟨names, _⟩ := env.killSwitchRules_fit device
  obtain ⟨suppressed, last, found, below⟩ := quiet
  by_cases high : ∃ value, (Record.mk env before operation).reading device = some value ∧
      rule.thresholdWatts ≤ value.1
  · exact .inl high
  push Not at high
  have last' : ∃ value, lastReading device (past ++ [Record.mk env before operation]) = some value ∧
      value.1 < rule.thresholdWatts := by
    rw [lastReading, lastPicked_concat]
    cases read : (Record.mk env before operation).reading device with
    | none => exact ⟨last, found, below⟩
    | some value => exact ⟨value, rfl, high value read⟩
  refine .inr ⟨?_, last'⟩
  cases outcome with
  | kept unreported readings rules =>
      unfold PlugEntity.switchAt at suppressed ⊢
      rwa [rules]
  | cleared unreported readings rules =>
      have cleared := PlugEntity.switchAt_onOffClear (before.world.plugAt device) rule
      rw [suppressed, if_pos rfl] at cleared
      unfold PlugEntity.switchAt at cleared ⊢
      rwa [rules]
  | killed killed => exact PlugEntity.Killed.suppressed killed (by rw [suppressed]; simp)
  | @armed ts on =>
      have state := (before.world.plugAt device).switchAt_armSwitches names
        (before.world.plugAt device).power.value ts member
      rw [state, suppressed]
      rfl
  | replaced => exact absurd rfl (fixed _)
  | @reported on power ts after fired report =>
      refine suppressed_report names member suppressed (fun watts read => ?_) report
      rw [PlugEntity.read_observe, remembers.watts, found] at read
      cases power with
      | none =>
          cases read
          exact below
      | some raw =>
          cases read
          exact high _ reading_report

end Tracking

/-! ## Runs -/

/-- The settings never change along the history. -/
def SettingsFixed (history : List Record) : Prop :=
  (∀ first ∈ history, ∀ second ∈ history, first.env.toAutomation = second.env.toAutomation) ∧
    ∀ record ∈ history, ∀ device ts, record.operation ≠ .replacePlugBindings device ts

/-- No step of the history misleads a rule. -/
def RulesFollow (history : List Record) : Prop :=
  Always (fun past record => ∀ device, ∀ rule ∈ record.env.killSwitchRules device,
    ¬ record.Misleads device rule past) history

/-- The firing is justified by a low reading, and the rule read its threshold since it fired
before. -/
def Record.FiresSoundly (past : List Record) (record : Record) : Prop :=
  ∀ device rule ts, record.Fires device rule ts →
    (∃ stamp, LowReading device rule (onPeriod device (past ++ [record])) stamp ∧
      durationSince ts stamp ≥ rule.holdoff) ∧
    ∀ front earlier middle time, past = front ++ earlier :: middle →
      earlier.Fires device rule time → ∃ other ∈ middle, ∃ value,
        other.reading device = some value ∧ rule.thresholdWatts ≤ value.1

theorem SettingsFixed.of_concat {past : List Record} {record : Record}
    (fixed : SettingsFixed (past ++ [record])) : SettingsFixed past :=
  ⟨fun first firstMember second secondMember => fixed.1 first (List.mem_append_left _ firstMember)
      second (List.mem_append_left _ secondMember),
    fun other member => fixed.2 other (List.mem_append_left _ member)⟩

/-- What is known about the rules of a plug along a run with fixed settings that misleads none. -/
structure RulesTracked (past : List Record) (world : WorldState) : Prop where
  /-- Idle rules have a low reading. -/
  idle : ∀ device (env : Env), (∀ record ∈ past, record.env.toAutomation = env.toAutomation) →
    ∀ rule ∈ env.killSwitchRules device, TracksIdle device rule past (world.plugAt device)
  /-- A rule that fired is quiet until it reads its threshold. -/
  quiet : ∀ device (env : Env), (∀ record ∈ past, record.env.toAutomation = env.toAutomation) →
    ∀ rule ∈ env.killSwitchRules device, ∀ front earlier middle time,
      past = front ++ earlier :: middle → earlier.Fires device rule time →
        (∃ other ∈ middle, ∃ value, other.reading device = some value ∧
          rule.thresholdWatts ≤ value.1) ∨ Quiet device rule past (world.plugAt device)
  /-- Every firing was sound. -/
  sound : Always Record.FiresSoundly past

theorem Env.killSwitchRules_of_automation {env other : Env}
    (same : env.toAutomation = other.toAutomation) (device : String) :
    env.killSwitchRules device = other.killSwitchRules device :=
  Env.killSwitchRules_congr (by rw [same]) (by rw [same])

theorem RulesTracked.step {env : Env} {operation : Operation} {past : List Record}
    {runtime : Runtime} (admissible : operation.Admissible env.topology)
    (remembers : ∀ device, (runtime.world.plugAt device).Remembers device past)
    (tracked : RulesTracked past runtime.world)
    (fixed : SettingsFixed (past ++ [Record.mk env runtime operation]))
    (follow : RulesFollow (past ++ [Record.mk env runtime operation])) :
    RulesTracked (past ++ [Record.mk env runtime operation])
      (operation.run env runtime).1.world := by
  have last : Record.mk env runtime operation ∈ past ++ [Record.mk env runtime operation] := by simp
  have before : ∀ record ∈ past, record.env.toAutomation = env.toAutomation := fun record member =>
    fixed.1 record (List.mem_append_left _ member) _ last
  have faithful := ((always_concat_iff past _).mp follow).2
  have fixedHere := fixed.2 _ last
  refine ⟨?_, ?_, (always_concat_iff past _).mpr ⟨tracked.sound, ?_⟩⟩
  · intro device other same rule member
    rw [← Env.killSwitchRules_of_automation (same _ last) device] at member
    exact (tracked.idle device env before rule member).step (remembers device) member
      (faithful device rule member) (fixedHere device)
      (Operation.run_plugAt admissible runtime device)
  · intro device other same rule member front earlier middle time split fires
    rw [← Env.killSwitchRules_of_automation (same _ last) device] at member
    rcases List.eq_nil_or_concat middle with rfl | ⟨start, final, rfl⟩
    · -- The rule has just fired.
      obtain ⟨rfl, here⟩ := List.append_inj' split rfl
      cases here
      obtain ⟨stamp, low, _⟩ := fires.low (remembers device)
        (tracked.idle device env before rule member) (faithful device rule member)
      obtain ⟨period, suffix⟩ := onPeriod_suffix device (past ++ [Record.mk env runtime operation])
      exact .inr ⟨fires.suppresses, low.last suffix⟩
    · rw [List.concat_eq_append, ← List.cons_append, ← List.append_assoc] at split
      obtain ⟨rfl, here⟩ := List.append_inj' split rfl
      cases here
      rcases tracked.quiet device env before rule member front earlier start time rfl fires with
        ⟨other, inside, read⟩ | quiet
      · exact .inl ⟨other, by simp [inside], read⟩
      · rcases quiet.step (remembers device) member (fixedHere device)
          (Operation.run_plugAt admissible runtime device) with high | quiet
        · exact .inl ⟨_, by simp, high⟩
        · exact .inr quiet
  · intro device rule ts fires
    have member := fires.member
    obtain low := fires.low (remembers device) (tracked.idle device env before rule member)
      (faithful device rule member)
    refine ⟨low, fun front earlier middle time split firedBefore => ?_⟩
    rcases tracked.quiet device env before rule member front earlier middle time split firedBefore
      with read | quiet
    · exact read
    · exact absurd quiet.1 fires.unsuppressed

theorem WorldState.rulesTracked_kept : KeptByOperations fun _ past runtime =>
    (∀ device, (runtime.world.plugAt device).Remembers device past) ∧
      (SettingsFixed past → RulesFollow past → RulesTracked past runtime.world) where
  launch topology := by
    refine ⟨WorldState.remembers_kept.launch topology, fun _ _ => ⟨?_, ?_, always_nil⟩⟩
    · intro device env _ rule _ since idle
      simp [PlugEntity.switchAt, KillSwitchRule.stateIn, WorldState.plugAt, default] at idle
    · intro device env _ rule _ front earlier middle time split
      simp at split
  operation env operation past runtime admissible follows kept := by
    refine ⟨WorldState.remembers_kept.operation env operation past runtime admissible
      follows kept.1, fun fixed follow => ?_⟩
    exact (kept.2 fixed.of_concat ((always_concat_iff past _).mp follow).1).step admissible kept.1
      fixed follow

/-! ## Messages -/

/-- The operation may turn a plug off by a kill switch. -/
def Operation.killsPlugs : Operation → Bool
  | observePlug _ _ _ _ => true
  | fireKillSwitches _ => true
  | _ => false

/-- Every message of a kill switch turns off the plug of a rule that fires. -/
theorem Record.fires_of_message {record : Record} (kills : record.operation.killsPlugs)
    {effect : Effect} (sent : effect ∈ record.effects) : ∃ device rule ts,
      record.Fires device rule ts ∧ effect ∈ record.env.offMessage device := by
  obtain ⟨env, before, operation⟩ := record
  cases operation with
  | observePlug device on power ts =>
      obtain ⟨after, fired, report, _, effects⟩ :=
        env.handlePlugState_report device on power ts before.world
      change effect ∈ (env.handlePlugState device on power ts before.world).2 at sent
      rw [effects] at sent
      cases report with
      | fire reports isOn read fires =>
          exact ⟨device, _, ts, ⟨rfl, rfl, reports, isOn, _, read, fires⟩, by simpa using sent⟩
      | _ => simp at sent
  | fireKillSwitches ts =>
      change effect ∈ (env.evaluateKillSwitchTicks ts before.world).2 at sent
      rw [(env.evaluateKillSwitchTicks_spec ts before.world).2] at sent
      obtain ⟨⟨device, target⟩, member, sent⟩ := List.mem_flatMap.mp sent
      obtain ⟨binding, listed, due⟩ := List.mem_filterMap.mp member
      obtain ⟨rfl, rule, _, described, _⟩ := Env.killSwitchDue_rule listed due
      exact ⟨target, rule, ts, ⟨rfl, binding, listed, described, due⟩, sent⟩
  | _ => cases kills

/-- In a run with fixed settings no step of which misleads a rule, every message of a kill switch
turns off the plug of a rule that fires, and every rule fires soundly. -/
theorem Run.kill_switches_sound {history : List Record} {daemon : Daemon} (run : Run history daemon)
    (fixed : SettingsFixed history) (follow : RulesFollow history) {past later : List Record}
    {record : Record} (split : history = past ++ record :: later) :
    (record.operation.killsPlugs → ∀ effect ∈ record.effects, ∃ device rule ts,
      record.Fires device rule ts ∧ effect ∈ record.env.offMessage device) ∧
      record.FiresSoundly past :=
  ⟨fun kills _ sent => Record.fires_of_message kills sent,
    ((run.invariant_of_operations WorldState.rulesTracked_kept).2 fixed follow).sound past record
      later split⟩

namespace House

/-- Only the plug of the house has kill switches. -/
theorem killSwitchRules_plug {env : Env} {mode : MotionMode} {bindings : List ResolvedBinding}
    (here : env.toAutomation = automation mode bindings) {device : String} {rule : KillSwitchRule}
    (member : rule ∈ env.killSwitchRules device) : device = "plug" := by
  unfold Env.killSwitchRules at member
  split at member
  · cases member
  · rename_i idx known
    obtain ⟨binding, listed, _⟩ := List.mem_filterMap.mp member
    obtain ⟨⟨watts, holdoff, triggered⟩, _⟩ := (Env.powerBelowBindings_fit known).2 binding listed
    have deployed : binding ∈ checkedBindings bindings := by
      unfold Automation.powerBelowBindings at listed
      rw [here] at listed
      have none : (automation mode bindings).resolvedPlugBindings[
          (automation mode bindings).topology.deviceName idx]? = none := by
        simp [automation]
      rw [none] at listed
      exact (List.mem_filter.mp listed).1
    have accepted := checkedBindings_accepts deployed
    unfold accepts at accepted
    rw [triggered, Bool.and_eq_true, beq_iff_eq] at accepted
    obtain ⟨_, rfl⟩ := accepted
    rw [← (TopologyTables.deviceName_of_deviceIdx known).1, here]
    rfl

/-- A record that misleads no rule of the plug: a report with a reading that does not begin an
on-period and finds no rule idle above its threshold, or an operation that is not about the plug. -/
def leadsOn (past : List Record) (record : Record) : Bool :=
  match record.operation with
  | .observePlug _ _ none _ => false
  | .observePlug _ _ (some watts) _ =>
      decide (lastRelay "plug" past ≠ some false) &&
        (record.env.killSwitchRules "plug").all fun rule =>
          decide (max watts 0 < rule.thresholdWatts) ||
            match (record.before.world.plugAt "plug").switchAt rule with
            | .idle _ => false
            | _ => true
  | .armKillSwitches _ => !(record.before.world.plugAt "plug").actual.value.any (·.on)
  | _ => true

theorem not_misleads {past : List Record} {record : Record} (leads : leadsOn past record = true)
    {rule : KillSwitchRule} (member : rule ∈ record.env.killSwitchRules "plug") :
    ¬ record.Misleads "plug" rule past := by
  unfold leadsOn at leads
  rintro (⟨on, ts, watts, reports⟩ | ⟨ts, watts, starts, on⟩ | ⟨power, ts, since, reports, off⟩ |
    ⟨on, watts, ts, since, reports, above, idle⟩)
  · rw [reports] at leads
    cases leads
  · rw [starts] at leads
    simp [on] at leads
  · rw [reports] at leads
    cases power with
    | none => cases leads
    | some watts => simp [off] at leads
  · rw [reports] at leads
    simp only [Bool.and_eq_true, List.all_eq_true, Bool.or_eq_true, decide_eq_true_eq] at leads
    rcases leads.2 rule member with below | other
    · exact absurd below (not_lt.mpr above)
    · rw [idle] at other
      cases other

/-- The operation is not one that replaces plug bindings. -/
def keepsBindings (record : Record) : Bool :=
  match record.operation with
  | .replacePlugBindings _ _ => false
  | _ => true

theorem settingsFixed {history : List Record} {mode : MotionMode} {bindings : List ResolvedBinding}
    (same : ∀ record ∈ history, record.env.toAutomation = automation mode bindings)
    (keeps : history.all keepsBindings = true) : SettingsFixed history := by
  refine ⟨fun first firstMember second secondMember => ?_,
    fun record member device ts replaced => ?_⟩
  · rw [same first firstMember, same second secondMember]
  · have kept := List.all_eq_true.mp keeps record member
    unfold keepsBindings at kept
    rw [replaced] at kept
    cases kept

/-- Every record of the history leads the rules of the plug on. -/
def allLeadOn (history : List Record) : Bool :=
  (List.range history.length).all fun position =>
    (history[position]?).all fun record => leadsOn (history.take position) record

theorem rulesFollow {history : List Record} {mode : MotionMode} {bindings : List ResolvedBinding}
    (same : ∀ record ∈ history, record.env.toAutomation = automation mode bindings)
    (leads : allLeadOn history = true) : RulesFollow history := by
  rintro past record later rfl device rule member
  obtain rfl := killSwitchRules_plug (same record (by simp)) member
  have here := List.all_eq_true.mp leads past.length (by simp)
  rw [List.getElem?_append_right (le_refl _), Nat.sub_self, List.getElem?_cons_zero,
    Option.all_some, List.take_left'] at here
  · exact not_misleads here member
  · rfl

/-- On a tick the kill switch of the plug fires. -/
def firesOnTick (record : Record) : Bool :=
  match record.operation with
  | .fireKillSwitches ts => record.env.effectiveBindings.any fun binding =>
      (record.env.killSwitchRule binding).isSome &&
        decide (record.env.killSwitchDue ts record.before.world binding = some ("plug", "plug"))
  | _ => false

theorem fires_of_firesOnTick {record : Record} (tick : firesOnTick record = true) :
    ∃ rule ts, record.Fires "plug" rule ts := by
  unfold firesOnTick at tick
  split at tick
  · rename_i ts same
    obtain ⟨binding, listed, due⟩ := List.any_eq_true.mp tick
    rw [Bool.and_eq_true, decide_eq_true_eq] at due
    obtain ⟨rule, described⟩ := Option.isSome_iff_exists.mp due.1
    refine ⟨rule, ts, ?_⟩
    unfold Record.Fires
    rw [same]
    exact ⟨rfl, binding, listed, described, due.2⟩
  · cases tick

end House

/-- An appliance that drew power and then idles for a minute is turned off. -/
theorem Run.kill_switches_sound_plug : ∃ (history past later : List Record) (daemon : Daemon)
    (record : Record) (rule : KillSwitchRule) (ts : Instant), Run history daemon ∧
      history = past ++ record :: later ∧ record.Fires "plug" rule ts ∧
        ∃ stamp, LowReading "plug" rule (onPeriod "plug" (past ++ [record])) stamp ∧
          durationSince ts stamp ≥ rule.holdoff := by
  obtain ⟨daemon, history, run, same, facts⟩ := House.played_fixed .offOnly [House.killSwitch]
    [(0, .start), (1, .event (.plugState "plug" true (some 50) (Duration.fromSecs 1))),
      (2, .event (.plugPowerUpdate "plug" 5 (Duration.fromSecs 2))),
      (70, .event (.tick (Duration.fromSecs 70)))]
    (by simp)
    (fun reached : Daemon × List Record => (reached.2.all House.keepsBindings &&
      House.allLeadOn reached.2) && (reached.2[5]?).any House.firesOnTick)
    true (by decide +kernel)
  simp only [Bool.and_eq_true] at facts
  obtain ⟨⟨keeps, leads⟩, fires⟩ := facts
  obtain ⟨record, found, tick⟩ := (Option.any_eq_true _ _).mp fires
  obtain ⟨rule, ts, fires⟩ := House.fires_of_firesOnTick tick
  refine ⟨history, _, _, daemon, record, rule, ts, run, split_at found, fires, ?_⟩
  exact ((Run.kill_switches_sound run (House.settingsFixed same keeps)
    (House.rulesFollow same leads) (split_at found)).2 "plug" rule ts fires).1

/-- A reading from before the plug was switched on turns it off a minute later, although no reading
was received since. -/
theorem Run.kill_switches_sound_fails : ∃ (history past later : List Record) (daemon : Daemon)
    (record : Record), Run history daemon ∧ SettingsFixed history ∧
      history = past ++ record :: later ∧ ¬ record.FiresSoundly past := by
  obtain ⟨daemon, history, run, same, facts⟩ := House.played_fixed .offOnly [House.killSwitch]
    [(0, .start), (1, .event (.plugPowerUpdate "plug" 5 (Duration.fromSecs 1))),
      (2, .event (.plugState "plug" false none (Duration.fromSecs 2))),
      (3, .event (.plugState "plug" true none (Duration.fromSecs 3))),
      (70, .event (.tick (Duration.fromSecs 70)))]
    (by simp)
    (fun reached : Daemon × List Record => reached.2.all House.keepsBindings &&
      (reached.2[6]?).any fun record : Record => House.firesOnTick record &&
        (onPeriod "plug" (reached.2.take 6 ++ [record])).all fun other : Record =>
          (other.reading "plug").isNone)
    true (by decide +kernel)
  rw [Bool.and_eq_true] at facts
  obtain ⟨keeps, fires⟩ := facts
  obtain ⟨record, found, facts⟩ := (Option.any_eq_true _ _).mp fires
  rw [Bool.and_eq_true] at facts
  obtain ⟨rule, ts, fires⟩ := House.fires_of_firesOnTick facts.1
  refine ⟨history, _, _, daemon, record, run, House.settingsFixed same keeps, split_at found, ?_⟩
  intro sound
  obtain ⟨⟨stamp, ⟨before, other, after, watts, split, reading, _⟩, _⟩, _⟩ :=
    sound "plug" rule ts fires
  have unread := List.all_eq_true.mp facts.2 other (by rw [split]; simp)
  rw [reading] at unread
  cases unread

end MqttController
