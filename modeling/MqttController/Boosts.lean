import MqttController.Lib.Checked
import MqttController.Reach

/-!
# Boosts of valves

A boost ends on two clocks: its end on the wall clock is a setting, and its monotonic deadline is
derived from it when the boost starts and when a process restores its settings.  A change of a boost
reads the clock before its settings are saved and once more after that.
-/

namespace MqttController

open Std

/-- What a change of a boost asks for. -/
inductive BoostChange
  | start (durationMinutes : Nat) (temperature : ℚ)
  | target (temperature : ℚ)
  | cancel
  deriving DecidableEq

namespace ControlCommand

/-- The change of a boost that a command asks for. -/
def boostChange : ControlCommand → Option (String × BoostChange)
  | startValveBoost device durationMinutes temperature =>
      some (device, .start durationMinutes temperature)
  | setValveBoostTarget device temperature => some (device, .target temperature)
  | cancelValveBoost device => some (device, .cancel)
  | _ => none

theorem boostChange_ne_none {command : ControlCommand} {device : String}
    (boosts : command.boosts device) : command.boostChange ≠ none := by
  cases command with
  | startValveBoost other durationMinutes temperature => exact Option.some_ne_none _
  | setValveBoostTarget other temperature => exact Option.some_ne_none _
  | cancelValveBoost other => exact Option.some_ne_none _
  | _ => exact boosts.elim

end ControlCommand

namespace Automation

variable (automation : Automation)

/-- The boost of a valve that is active at a reading of the clock. -/
def activeBoost (clock : ClockReading) (device : String) : Option ValveBoost :=
  ({ automation with clock } : Env).activeBoost device

/-- The boost that an acceptable change leads to. -/
def changedBoost (clock : ClockReading) (device : String) :
    BoostChange → Except String (Option ValveBoost)
  | .start durationMinutes temperature =>
      (({ automation with clock } : Env).newBoost device durationMinutes temperature).map some
  | .target temperature =>
      (({ automation with clock } : Env).retargetedBoost device temperature).map some
  | .cancel => .ok none

/-- Check a change at one reading of the clock, save it, and apply it at another. -/
def changeValveBoost (checking applying : ClockReading) (saved : Except String Unit)
    (device : String) (change : BoostChange) : Except ControlError Automation :=
  match automation.validateHeatDemandDevice device with
  | .error error => refuse error
  | .ok () =>
      match automation.changedBoost checking device change, saved with
      | .error error, _ => refuse error
      | .ok _, .error error => refuse ("Could not save boost for " ++ device ++ ": " ++ error)
      | .ok boost, .ok () => .ok (automation.applyValveBoost applying device boost)

/-- The deadlines of restored boosts. -/
def restoreBoostDeadlines (clock : ClockReading) (boosts : NameMap ValveBoost) : NameMap Instant :=
  boosts.map fun _ boost =>
    clock.now + Duration.fromMillis (boost.endsAtEpochMs - clock.epochMillis)

end Automation

/-! ## One change -/

namespace Automation

variable {automation : Automation}

theorem activeBoost_eq_some_iff {clock : ClockReading} {device : String} {boost : ValveBoost} :
    automation.activeBoost clock device = some boost ↔
      automation.settings.boosts[device]? = some boost ∧
        (∃ deadline, automation.boostDeadlines[device]? = some deadline ∧ clock.now < deadline) ∧
          clock.epochMillis < boost.endsAtEpochMs := by
  unfold activeBoost Env.activeBoost
  rw [Option.filter_eq_some_iff, Bool.and_eq_true, decide_eq_true_eq, Option.any_eq_true_iff_get]
  constructor
  · rintro ⟨stored, ⟨here, early⟩, ends⟩
    exact ⟨stored, ⟨_, (Option.some_get here).symm, of_decide_eq_true early⟩, ends⟩
  · rintro ⟨stored, ⟨deadline, kept, early⟩, ends⟩
    have here : automation.boostDeadlines[device]?.isSome := by rw [kept]; rfl
    refine ⟨stored, ⟨here, ?_⟩, ends⟩
    simp only [kept, Option.get_some, decide_eq_true_eq]
    exact early

/-- Every boost has a deadline. -/
def DeadlinesKept (automation : Automation) : Prop :=
  ∀ device : String, automation.settings.boosts[device]?.isSome →
    automation.boostDeadlines[device]?.isSome

theorem deadlinesKept_of_restored {clock : ClockReading}
    (restored : automation.boostDeadlines =
      restoreBoostDeadlines clock automation.settings.boosts) : automation.DeadlinesKept := by
  intro device stored
  rw [restored, restoreBoostDeadlines, TreeMap.getElem?_map, Option.isSome_map]
  exact stored

section Apply

variable (automation : Automation) (clock : ClockReading) (device : String) (boost : ValveBoost)

@[simp] theorem applyValveBoost_boosts (other : String) :
    (automation.applyValveBoost clock device (some boost)).settings.boosts[other]? =
      if device = other then some boost else automation.settings.boosts[other]? := by
  simp only [applyValveBoost, withSwitches, TreeMap.getElem?_insert,
    LawfulEqCmp.compare_eq_iff_eq]

@[simp] theorem cancelled_boosts (other : String) :
    (automation.applyValveBoost clock device none).settings.boosts[other]? =
      if device = other then none else automation.settings.boosts[other]? := by
  simp only [applyValveBoost, withSwitches, TreeMap.getElem?_erase,
    LawfulEqCmp.compare_eq_iff_eq]

@[simp] theorem cancelled_deadlines (other : String) :
    (automation.applyValveBoost clock device none).boostDeadlines[other]? =
      if device = other then none else automation.boostDeadlines[other]? := by
  simp only [applyValveBoost, withSwitches, TreeMap.getElem?_erase,
    LawfulEqCmp.compare_eq_iff_eq]

variable {automation device boost}

/-- A boost whose end is already stored leaves the deadlines alone. -/
theorem applyValveBoost_deadlines_kept
    (kept : automation.settings.boosts[device]?.map (·.endsAtEpochMs) =
      some boost.endsAtEpochMs) :
    (automation.applyValveBoost clock device (some boost)).boostDeadlines =
      automation.boostDeadlines := by
  simp only [applyValveBoost, withSwitches, if_pos kept]

/-- A boost with another end sets its deadline. -/
theorem applyValveBoost_deadlines_set
    (fresh : automation.settings.boosts[device]?.map (·.endsAtEpochMs) ≠
      some boost.endsAtEpochMs) (other : String) :
    (automation.applyValveBoost clock device (some boost)).boostDeadlines[other]? =
      if device = other then
        some (clock.now + Duration.fromMillis (boost.endsAtEpochMs - clock.epochMillis))
      else automation.boostDeadlines[other]? := by
  simp only [applyValveBoost, withSwitches, if_neg fresh, TreeMap.getElem?_insert,
    LawfulEqCmp.compare_eq_iff_eq]

end Apply

/-- What an accepted change does. -/
inductive Changes (automation : Automation) (checking applying : ClockReading) (device : String) :
    BoostChange → Automation → Prop
  | started {durationMinutes : Nat} {temperature : ℚ} (lasts : 0 < durationMinutes)
      (inactive : automation.activeBoost checking device = none) :
      Changes automation checking applying device (.start durationMinutes temperature)
        (automation.applyValveBoost applying device
          (some ⟨temperature, checking.epochMillis + durationMinutes * 60000⟩))
  | retargeted {temperature : ℚ} {current : ValveBoost}
      (active : automation.activeBoost checking device = some current) :
      Changes automation checking applying device (.target temperature)
        (automation.applyValveBoost applying device (some { current with temperature }))
  | cancelled :
      Changes automation checking applying device .cancel
        (automation.applyValveBoost applying device none)

theorem accepted_of_changed {checking applying : ClockReading} {device : String}
    {change : BoostChange} {boost : Option ValveBoost}
    (known : automation.validateHeatDemandDevice device = .ok ())
    (changed : automation.changedBoost checking device change = .ok boost) :
    automation.changeValveBoost checking applying (.ok ()) device change =
      .ok (automation.applyValveBoost applying device boost) := by
  unfold changeValveBoost
  rw [known, changed]

theorem newBoost_ok {clock : ClockReading} {device : String} {durationMinutes : Nat}
    {temperature : ℚ} {boost : ValveBoost}
    (accepted : ({ automation with clock } : Env).newBoost device durationMinutes temperature =
      .ok boost) :
    0 < durationMinutes ∧ automation.activeBoost clock device = none ∧
      boost = ⟨temperature, clock.epochMillis + durationMinutes * 60000⟩ := by
  unfold Env.newBoost at accepted
  split at accepted
  · cases accepted
  · dsimp only at accepted
    split_ifs at accepted with listed active early
    · cases accepted
      have positive : ∀ minutes ∈ boostDurationsMinutes, 0 < minutes := by decide
      exact ⟨positive _ listed, Option.not_isSome_iff_eq_none.mp active, rfl⟩

theorem retargetedBoost_ok {clock : ClockReading} {device : String} {temperature : ℚ}
    {boost : ValveBoost}
    (accepted : ({ automation with clock } : Env).retargetedBoost device temperature =
      .ok boost) :
    ∃ current, automation.activeBoost clock device = some current ∧
      boost = { current with temperature } := by
  unfold Env.retargetedBoost at accepted
  split at accepted
  · cases accepted
  · split at accepted
    · cases accepted
    · rename_i current active
      cases accepted
      exact ⟨current, active, rfl⟩

theorem changes_of_accepted {checking applying : ClockReading} {saved : Except String Unit}
    {device : String} {change : BoostChange} {after : Automation}
    (accepted : automation.changeValveBoost checking applying saved device change = .ok after) :
    automation.Changes checking applying device change after := by
  unfold changeValveBoost refuse at accepted
  split at accepted
  · cases accepted
  · split at accepted
    · cases accepted
    · cases accepted
    · rename_i boost changed
      cases accepted
      cases change with
      | start durationMinutes temperature =>
          obtain ⟨started, accepted, rfl⟩ := Checked.ok_of_map changed
          obtain ⟨lasts, inactive, rfl⟩ := newBoost_ok accepted
          exact .started lasts inactive
      | target temperature =>
          obtain ⟨edited, accepted, rfl⟩ := Checked.ok_of_map changed
          obtain ⟨current, active, rfl⟩ := retargetedBoost_ok accepted
          exact .retargeted active
      | cancel =>
          cases changed
          exact .cancelled

/-- A start whose end is not stored already, and during which the wall clock neither goes back nor
reaches that end. -/
def FreshStart (before : Automation) (checking applying : ClockReading) (device : String)
    (durationMinutes : Nat) : Prop :=
  before.settings.boosts[device]?.map (·.endsAtEpochMs) ≠
      some (checking.epochMillis + durationMinutes * 60000) ∧
    checking.epochMillis ≤ applying.epochMillis ∧
      applying.epochMillis < checking.epochMillis + durationMinutes * 60000

/-- The boost is active at once, and never beyond its duration. -/
def StartHonoured (after : Automation) (applying : ClockReading) (device : String)
    (durationMinutes : Nat) (temperature : ℚ) : Prop :=
  (∃ boost, after.activeBoost applying device = some boost ∧ boost.temperature = temperature) ∧
    ∀ clock : ClockReading, (after.activeBoost clock device).isSome →
      clock.now < applying.now + Duration.fromMillis (durationMinutes * 60000)

variable {checking applying : ClockReading} {device : String} {durationMinutes : Nat}
  {temperature : ℚ} {after : Automation}

/-- The deadline of a start whose end is not stored already. -/
theorem deadline_of_start
    (changes : automation.Changes checking applying device (.start durationMinutes temperature)
      after)
    (fresh : automation.settings.boosts[device]?.map (·.endsAtEpochMs) ≠
      some (checking.epochMillis + durationMinutes * 60000)) :
    after.boostDeadlines[device]? = some (applying.now +
      Duration.fromMillis
        (checking.epochMillis + durationMinutes * 60000 - applying.epochMillis)) := by
  cases changes with
  | started lasts inactive =>
      rw [applyValveBoost_deadlines_set applying fresh, if_pos rfl]

/-- A start whose end is stored already finds the deadline in the past, and keeps it. -/
theorem inactive_of_stored_end (ordered : checking.now ≤ applying.now)
    (changes : automation.Changes checking applying device (.start durationMinutes temperature)
      after)
    (kept : automation.settings.boosts[device]?.map (·.endsAtEpochMs) =
      some (checking.epochMillis + durationMinutes * 60000)) :
    after.activeBoost applying device = none := by
  cases changes with
  | started lasts inactive =>
      rw [Option.eq_none_iff_forall_ne_some]
      intro boost active
      obtain ⟨_, ⟨deadline, set, early⟩, _⟩ := activeBoost_eq_some_iff.mp active
      rw [applyValveBoost_deadlines_kept applying kept] at set
      obtain ⟨old, stored, ends⟩ := Option.map_eq_some_iff.mp kept
      have again : automation.activeBoost checking device = some old := by
        refine activeBoost_eq_some_iff.mpr ⟨stored, ⟨deadline, set, ordered.trans_lt early⟩, ?_⟩
        rw [ends]
        omega
      rw [inactive] at again
      cases again

theorem startHonoured_iff (ordered : checking.now ≤ applying.now)
    (changes : automation.Changes checking applying device (.start durationMinutes temperature)
      after) :
    after.StartHonoured applying device durationMinutes temperature ↔
      automation.FreshStart checking applying device durationMinutes := by
  by_cases kept : automation.settings.boosts[device]?.map (·.endsAtEpochMs) =
      some (checking.epochMillis + durationMinutes * 60000)
  · refine iff_of_false ?_ fun fresh => fresh.1 kept
    rintro ⟨⟨boost, active, _⟩, _⟩
    rw [inactive_of_stored_end ordered changes kept] at active
    cases active
  · have set := deadline_of_start changes kept
    have stored : after.settings.boosts[device]? =
        some ⟨temperature, checking.epochMillis + durationMinutes * 60000⟩ := by
      cases changes with
      | started lasts inactive => rw [applyValveBoost_boosts, if_pos rfl]
    constructor
    · rintro ⟨⟨boost, active, _⟩, bounded⟩
      obtain ⟨same, _, early⟩ := activeBoost_eq_some_iff.mp active
      rw [stored] at same
      cases same
      refine ⟨kept, ?_, early⟩
      -- A wall clock that went back makes the deadline late.
      by_contra back
      have late := bounded
        { applying with now := applying.now + Duration.fromMillis (durationMinutes * 60000) }
        (Option.isSome_iff_exists.mpr ⟨_, activeBoost_eq_some_iff.mpr
          ⟨stored, ⟨_, set, ?_⟩, early⟩⟩)
      · exact lt_irrefl _ late
      · have early : applying.epochMillis < checking.epochMillis + durationMinutes * 60000 := early
        exact Nat.add_lt_add_left (Duration.fromMillis_lt (by omega)) _
    · rintro ⟨_, forward, early⟩
      refine ⟨⟨_, activeBoost_eq_some_iff.mpr ⟨stored, ⟨_, set, ?_⟩, early⟩, rfl⟩, ?_⟩
      · have remains :
            0 < checking.epochMillis + durationMinutes * 60000 - applying.epochMillis := by
          omega
        exact Nat.lt_add_of_pos_right (Duration.fromMillis_lt remains)
      · intro clock active
        obtain ⟨boost, active⟩ := Option.isSome_iff_exists.mp active
        obtain ⟨_, ⟨deadline, same, before⟩, _⟩ := activeBoost_eq_some_iff.mp active
        rw [set] at same
        cases same
        exact before.trans_le (Nat.add_le_add_left (Duration.fromMillis_le (by omega)) _)

/-- Editing the target of a boost keeps its end, and with it all deadlines. -/
theorem edited_kept
    (changes : automation.Changes checking applying device (.target temperature) after) :
    after.boostDeadlines = automation.boostDeadlines ∧
      after.settings.boosts[device]?.map (·.endsAtEpochMs) =
        automation.settings.boosts[device]?.map (·.endsAtEpochMs) := by
  cases changes with
  | retargeted active =>
      have stored := (activeBoost_eq_some_iff.mp active).1
      refine ⟨applyValveBoost_deadlines_kept applying (by rw [stored]; rfl), ?_⟩
      rw [applyValveBoost_boosts, if_pos rfl, stored]
      rfl

/-- A change leaves the boosts of other valves alone. -/
theorem boosts_of_ne {change : BoostChange} {other : String}
    (changes : automation.Changes checking applying device change after)
    (different : device ≠ other) :
    after.settings.boosts[other]? = automation.settings.boosts[other]? := by
  cases changes with
  | started lasts inactive => rw [applyValveBoost_boosts, if_neg different]
  | retargeted active => rw [applyValveBoost_boosts, if_neg different]
  | cancelled => rw [cancelled_boosts, if_neg different]

/-- A change leaves the deadlines of other valves alone. -/
theorem deadlines_of_ne {change : BoostChange} {other : String}
    (changes : automation.Changes checking applying device change after)
    (different : device ≠ other) :
    after.boostDeadlines[other]? = automation.boostDeadlines[other]? := by
  cases changes with
  | @started durationMinutes temperature lasts inactive =>
      by_cases kept : automation.settings.boosts[device]?.map (·.endsAtEpochMs) =
          some (checking.epochMillis + durationMinutes * 60000)
      · rw [applyValveBoost_deadlines_kept applying kept]
      · rw [applyValveBoost_deadlines_set applying kept, if_neg different]
  | retargeted active => rw [(edited_kept (.retargeted active)).1]
  | cancelled => rw [cancelled_deadlines, if_neg different]

/-- A change keeps a deadline for every boost. -/
theorem DeadlinesKept.change {change : BoostChange} (kept : automation.DeadlinesKept)
    (changes : automation.Changes checking applying device change after) :
    after.DeadlinesKept := by
  intro other stored
  by_cases same : device = other
  · subst same
    cases changes with
    | @started durationMinutes temperature lasts inactive =>
        by_cases again : automation.settings.boosts[device]?.map (·.endsAtEpochMs) =
            some (checking.epochMillis + durationMinutes * 60000)
        · obtain ⟨old, here, _⟩ := Option.map_eq_some_iff.mp again
          rw [applyValveBoost_deadlines_kept applying again]
          exact kept device (by rw [here]; rfl)
        · rw [deadline_of_start (.started lasts inactive) again]
          rfl
    | retargeted active =>
        rw [(edited_kept (.retargeted active)).1]
        exact kept device (by rw [(activeBoost_eq_some_iff.mp active).1]; rfl)
    | cancelled =>
        rw [cancelled_boosts, if_pos rfl] at stored
        cases stored
  · rw [boosts_of_ne changes same] at stored
    rw [deadlines_of_ne changes same]
    exact kept other stored

end Automation

/-! ## Several processes -/

/-- An accepted change of a boost. -/
structure BoostRecord where
  device : String
  change : BoostChange
  /-- The reading of the clock at which the change was accepted. -/
  checking : ClockReading
  /-- The reading of the clock at which it took effect. -/
  applying : ClockReading
  before : Automation
  after : Automation

/-- What the boosts of a house went through. -/
inductive Moment
  | changed (record : BoostRecord)
  /-- Another process restored the settings. -/
  | restarted

namespace Daemon

/-- The daemon under another automation. -/
def under (daemon : Daemon) (automation : Automation) (now : Instant) : Daemon :=
  { daemon with processor := { daemon.processor with automation }, now }

end Daemon

/-- The moments of a house under one process after another, and the daemon they led to.  Instants of
different processes are unrelated, and the wall clock may read anything. -/
inductive Lifetimes : List Moment → Daemon → Prop
  | launch {automation : Automation} (clock : ClockReading)
      (restored : automation.boostDeadlines =
        Automation.restoreBoostDeadlines clock automation.settings.boosts) :
      Lifetimes [] (Daemon.launch automation clock.now)
  /-- Any event and any command that does not change a boost. -/
  | input {moments : List Moment} {daemon after : Daemon} {clock : ClockReading} {input : Input}
      {records : List Record} (life : Lifetimes moments daemon)
      (apart : ∀ saved command, input = .command saved command → command.boostChange = none)
      (taken : daemon.next clock input = some (after, records)) : Lifetimes moments after
  | change {moments : List Moment} {daemon : Daemon} {automation : Automation} {device : String}
      {change : BoostChange} {checking applying : ClockReading} (life : Lifetimes moments daemon)
      (running : daemon.stage = .running) (later : daemon.now ≤ checking.now)
      (ordered : checking.now ≤ applying.now)
      (accepted : daemon.processor.automation.changeValveBoost checking applying (.ok ()) device
        change = .ok automation) :
      Lifetimes (moments ++ [.changed
          { device, change, checking, applying, before := daemon.processor.automation
            after := automation }])
        (daemon.under automation applying.now)
  | restart {moments : List Moment} {daemon : Daemon} {automation : Automation}
      (clock : ClockReading) (life : Lifetimes moments daemon)
      (stored : automation.settings.boosts = daemon.processor.automation.settings.boosts)
      (restored : automation.boostDeadlines =
        Automation.restoreBoostDeadlines clock automation.settings.boosts) :
      Lifetimes (moments ++ [.restarted]) (Daemon.launch automation clock.now)

namespace Moment

/-- The start that a boost goes back to after a moment; another process is another moment of the
same boost. -/
def follow (device : String) (started : Option BoostRecord) : Moment → Option BoostRecord
  | restarted => started
  | changed record =>
      if record.device = device then
        match record.change with
        | .start _ _ => some record
        | .target _ => started
        | .cancel => none
      else started

/-- The start that a boost goes back to if it is one of the process at hand. -/
def followOwn (device : String) (started : Option BoostRecord) : Moment → Option BoostRecord
  | restarted => none
  | changed record => (changed record).follow device started

end Moment

/-- The start of the boost of a valve. -/
def lastStart (device : String) (moments : List Moment) : Option BoostRecord :=
  moments.foldl (Moment.follow device) none

/-- The start of the boost of a valve, if it was in the process at hand. -/
def ownStart (device : String) (moments : List Moment) : Option BoostRecord :=
  moments.foldl (Moment.followOwn device) none

/-- What a house can rely on about its boosts. -/
structure BoostsHonoured (moments : List Moment) (automation : Automation) : Prop where
  /-- A start is in force at once, and not beyond its duration. -/
  started : ∀ record durationMinutes temperature, .changed record ∈ moments →
    record.change = .start durationMinutes temperature →
      record.after.StartHonoured record.applying record.device durationMinutes temperature
  /-- The boost of a start of this process is not active beyond the duration of that start. -/
  lasting : ∀ device record durationMinutes temperature, ownStart device moments = some record →
    record.change = .start durationMinutes temperature →
      ∀ clock : ClockReading, (automation.activeBoost clock device).isSome →
        clock.now < record.applying.now + Duration.fromMillis (durationMinutes * 60000)
  /-- No boost is active past its end on the wall clock. -/
  ended : ∀ device boost, ∀ clock : ClockReading,
    automation.activeBoost clock device = some boost → clock.epochMillis < boost.endsAtEpochMs
  /-- The end on the wall clock is the one of the start, also in another process. -/
  promised : ∀ device record durationMinutes temperature boost,
    lastStart device moments = some record →
      record.change = .start durationMinutes temperature →
        automation.settings.boosts[device]? = some boost →
          boost.endsAtEpochMs = record.checking.epochMillis + durationMinutes * 60000
  /-- Editing the target moves neither the deadline nor the end. -/
  edited : ∀ record temperature, .changed record ∈ moments → record.change = .target temperature →
    record.after.boostDeadlines = record.before.boostDeadlines ∧
      record.after.settings.boosts[record.device]?.map (·.endsAtEpochMs) =
        record.before.settings.boosts[record.device]?.map (·.endsAtEpochMs)
  deadlines : automation.DeadlinesKept

/-- A start whose end is not stored already, and during which the wall clock neither goes back nor
reaches that end. -/
def BoostRecord.Fresh (record : BoostRecord) : Prop :=
  ∀ durationMinutes temperature, record.change = .start durationMinutes temperature →
    record.before.FreshStart record.checking record.applying record.device durationMinutes

/-- What the moments say about the boosts and deadlines in force. -/
structure FollowsMoments (moments : List Moment) (automation : Automation) : Prop where
  accepted : ∀ record, .changed record ∈ moments →
    record.checking.now ≤ record.applying.now ∧
      record.before.Changes record.checking record.applying record.device record.change record.after
  promised : ∀ device record durationMinutes temperature,
    lastStart device moments = some record →
      record.change = .start durationMinutes temperature →
        ∀ boost, automation.settings.boosts[device]? = some boost →
          boost.endsAtEpochMs = record.checking.epochMillis + durationMinutes * 60000
  lasting : (∀ record, .changed record ∈ moments → record.Fresh) →
    ∀ device record durationMinutes temperature, ownStart device moments = some record →
      record.change = .start durationMinutes temperature →
        ∀ deadline, automation.boostDeadlines[device]? = some deadline →
          deadline ≤ record.applying.now + Duration.fromMillis (durationMinutes * 60000)
  deadlines : automation.DeadlinesKept

namespace FollowsMoments

variable {moments : List Moment} {automation after : Automation}

/-- What keeps the boosts and deadlines keeps what the moments say. -/
theorem of_same (follows : FollowsMoments moments automation)
    (boosts : after.settings.boosts = automation.settings.boosts)
    (deadlines : after.boostDeadlines = automation.boostDeadlines) :
    FollowsMoments moments after where
  accepted := follows.accepted
  promised device record durationMinutes temperature last change boost stored := by
    rw [boosts] at stored
    exact follows.promised device record durationMinutes temperature last change boost stored
  lasting fresh device record durationMinutes temperature own change deadline set := by
    rw [deadlines] at set
    exact follows.lasting fresh device record durationMinutes temperature own change deadline set
  deadlines device stored := by
    rw [boosts] at stored
    rw [deadlines]
    exact follows.deadlines device stored

/-- The boosts restored by another process. -/
theorem restart {clock : ClockReading} (follows : FollowsMoments moments automation)
    (stored : after.settings.boosts = automation.settings.boosts)
    (restored : after.boostDeadlines =
      Automation.restoreBoostDeadlines clock after.settings.boosts) :
    FollowsMoments (moments ++ [.restarted]) after where
  accepted record member := by
    refine follows.accepted record ?_
    rcases List.mem_append.mp member with early | last
    · exact early
    · cases List.mem_singleton.mp last
  promised device record durationMinutes temperature last change boost kept := by
    rw [stored] at kept
    unfold lastStart at last
    rw [List.foldl_concat] at last
    exact follows.promised device record durationMinutes temperature last change boost kept
  lasting fresh device record durationMinutes temperature own := by
    unfold ownStart at own
    rw [List.foldl_concat] at own
    cases own
  deadlines := Automation.deadlinesKept_of_restored restored

/-- An accepted change. -/
theorem change {device : String} {change : BoostChange} {checking applying : ClockReading}
    (follows : FollowsMoments moments automation) (ordered : checking.now ≤ applying.now)
    (changes : automation.Changes checking applying device change after) :
    FollowsMoments (moments ++ [.changed
      { device, change, checking, applying, before := automation, after }]) after where
  accepted record member := by
    rcases List.mem_append.mp member with early | last
    · exact follows.accepted record early
    · cases List.mem_singleton.mp last
      exact ⟨ordered, changes⟩
  promised other record durationMinutes temperature last asked boost kept := by
    unfold lastStart at last
    rw [List.foldl_concat, Moment.follow] at last
    split at last
    · rename_i same
      subst same
      cases changes with
      | started lasts inactive =>
          cases last
          cases asked
          rw [Automation.applyValveBoost_boosts, if_pos rfl] at kept
          cases kept
          rfl
      | retargeted active =>
          have before := follows.promised device record durationMinutes temperature last asked _
            (Automation.activeBoost_eq_some_iff.mp active).1
          rw [Automation.applyValveBoost_boosts, if_pos rfl] at kept
          cases kept
          exact before
      | cancelled => cases last
    · rename_i different
      rw [Automation.boosts_of_ne changes different] at kept
      exact follows.promised other record durationMinutes temperature last asked boost kept
  lasting fresh other record durationMinutes temperature own asked deadline set := by
    have earlier : ∀ record, .changed record ∈ moments → record.Fresh :=
      fun record member => fresh record (List.mem_append_left _ member)
    have now := fresh _ (List.mem_append_right moments (List.mem_singleton_self _))
    unfold ownStart at own
    rw [List.foldl_concat, Moment.followOwn, Moment.follow] at own
    split at own
    · rename_i same
      subst same
      cases changes with
      | started lasts inactive =>
          cases own
          cases asked
          obtain ⟨unstored, forward, _⟩ := now _ _ rfl
          have forward : checking.epochMillis ≤ applying.epochMillis := forward
          rw [Automation.deadline_of_start (.started lasts inactive) unstored] at set
          cases set
          exact Nat.add_le_add_left (Duration.fromMillis_le (by omega)) _
      | retargeted active =>
          rw [(Automation.edited_kept (.retargeted active)).1] at set
          exact follows.lasting earlier device record durationMinutes temperature own asked
            deadline set
      | cancelled => cases own
    · rename_i different
      rw [Automation.deadlines_of_ne changes different] at set
      exact follows.lasting earlier other record durationMinutes temperature own asked deadline set
  deadlines := follows.deadlines.change changes

end FollowsMoments

namespace Daemon

/-- An input that does not change a boost leaves the boosts and their deadlines alone. -/
theorem next_boosts {daemon after : Daemon} {clock : ClockReading} {input : Input}
    {records : List Record}
    (apart : ∀ saved command, input = .command saved command → command.boostChange = none)
    (taken : daemon.next clock input = some (after, records)) :
    after.processor.automation.settings.boosts = daemon.processor.automation.settings.boosts ∧
      after.processor.automation.boostDeadlines = daemon.processor.automation.boostDeadlines := by
  unfold next at taken
  split at taken
  · cases taken
  · split at taken
    · split at taken
      · cases taken
        exact ⟨rfl, rfl⟩
      · cases taken
    · cases taken
      exact ⟨rfl, rfl⟩
    · cases taken
      exact ⟨rfl, rfl⟩
    · rename_i saved command _
      have same := apart saved command rfl
      split at taken
      · rename_i result accepted
        cases taken
        unfold EventProcessor.control at accepted
        split at accepted
        · cases accepted
        · cases accepted
        · rename_i automation operations planned _
          cases accepted
          cases Automation.plan_accepts planned with
          | boost boost boosts =>
              exact absurd same (ControlCommand.boostChange_ne_none boosts)
          | _ => exact ⟨rfl, rfl⟩
      · cases taken
        exact ⟨rfl, rfl⟩
    · cases taken

end Daemon

namespace Lifetimes

variable {moments : List Moment} {daemon : Daemon}

theorem follows_moments (life : Lifetimes moments daemon) :
    FollowsMoments moments daemon.processor.automation := by
  induction life with
  | launch clock restored =>
      refine ⟨by simp, fun device record _ _ last => ?_, fun _ device record _ _ own => ?_, ?_⟩
      · cases last
      · cases own
      · exact Automation.deadlinesKept_of_restored restored
  | input life apart taken ih =>
      obtain ⟨boosts, deadlines⟩ := Daemon.next_boosts apart taken
      exact ih.of_same boosts deadlines
  | change life running later ordered accepted ih =>
      exact ih.change ordered (Automation.changes_of_accepted accepted)
  | restart clock life stored restored ih => exact ih.restart stored restored

/-- The house honours its boosts exactly when every start was a fresh one. -/
theorem boosts_honoured_iff (life : Lifetimes moments daemon) :
    BoostsHonoured moments daemon.processor.automation ↔
      ∀ record, .changed record ∈ moments → record.Fresh := by
  have follows := life.follows_moments
  constructor
  · intro honoured record member durationMinutes temperature asked
    obtain ⟨ordered, changes⟩ := follows.accepted record member
    rw [asked] at changes
    exact (Automation.startHonoured_iff ordered changes).mp
      (honoured.started record durationMinutes temperature member asked)
  · intro fresh
    refine ⟨fun record durationMinutes temperature member asked => ?_,
      fun device record durationMinutes temperature own asked clock active => ?_,
      fun device boost clock active => (Automation.activeBoost_eq_some_iff.mp active).2.2,
      fun device record durationMinutes temperature boost last asked stored =>
        follows.promised device record durationMinutes temperature last asked boost stored,
      fun record temperature member asked => ?_, follows.deadlines⟩
    · obtain ⟨ordered, changes⟩ := follows.accepted record member
      rw [asked] at changes
      exact (Automation.startHonoured_iff ordered changes).mpr
        (fresh record member durationMinutes temperature asked)
    · obtain ⟨boost, active⟩ := Option.isSome_iff_exists.mp active
      obtain ⟨_, ⟨deadline, set, early⟩, _⟩ := Automation.activeBoost_eq_some_iff.mp active
      exact early.trans_le
        (follows.lasting fresh device record durationMinutes temperature own asked deadline set)
    · obtain ⟨_, changes⟩ := follows.accepted record member
      rw [asked] at changes
      exact Automation.edited_kept changes

end Lifetimes

/-- The house has gone through the moments and can take commands. -/
def House.Reaches (moments : List Moment) (automation : Automation) (now : Instant) : Prop :=
  ∃ daemon, Lifetimes moments daemon ∧ daemon.stage = .running ∧ daemon.now = now ∧
    daemon.processor.automation = automation

theorem House.reaches_start (mode : MotionMode) (bindings : List ResolvedBinding) :
    Reaches [] (automation mode bindings) (clock 0).now := by
  have launched : Lifetimes [] (Daemon.launch (automation mode bindings) (clock 0).now) :=
    .launch (clock 0) rfl
  have taken : (Daemon.launch (automation mode bindings) (clock 0).now).next (clock 0) .start =
      some (Daemon.proceed (clock 0) .running
        (EventProcessor.perform { automation := automation mode bindings, runtime := {} } (clock 0)
          fun env => env.startup (clock 0).now)) := rfl
  exact ⟨_, launched.input (by simp) taken, rfl, rfl, rfl⟩

theorem House.Reaches.change {moments : List Moment} {automation : Automation} {now : Instant}
    (reaches : Reaches moments automation now) (device : String) (change : BoostChange)
    (checking applying : ClockReading) (boost : Option ValveBoost) (later : now ≤ checking.now)
    (ordered : checking.now ≤ applying.now)
    (known : automation.validateHeatDemandDevice device = .ok ())
    (changed : automation.changedBoost checking device change = .ok boost) :
    Reaches (moments ++ [.changed
        { device, change, checking, applying, before := automation
          after := automation.applyValveBoost applying device boost }])
      (automation.applyValveBoost applying device boost) applying.now := by
  obtain ⟨daemon, life, running, rfl, rfl⟩ := reaches
  exact ⟨_, life.change running later ordered (Automation.accepted_of_changed known changed),
    running, rfl, rfl⟩

/-- A clock of the house whose wall time was set. -/
def House.setClock (seconds wallSeconds : Nat) : ClockReading :=
  { clock seconds with epochMillis := wallSeconds * 1000 }

/-- The house after half an hour of boost was asked for upstairs. -/
def House.boosted : Automation :=
  (automation .offOnly []).applyValveBoost (clock 1) "valve-up" (some ⟨21, 1801000⟩)

/-- That change. -/
def House.boostedRecord : BoostRecord :=
  { device := "valve-up", change := .start 30 21, checking := clock 1, applying := clock 1
    before := automation .offOnly [], after := boosted }

theorem House.reaches_boosted : Reaches [.changed boostedRecord] boosted (clock 1).now :=
  (reaches_start .offOnly []).change "valve-up" (.start 30 21) (clock 1) (clock 1)
    (some ⟨21, 1801000⟩) (by decide) le_rfl (by decide +kernel) (by decide +kernel)

/-- The boost upstairs goes on after its target was edited. -/
theorem Lifetimes.boosts_honoured_iff_edited : ∃ (moments : List Moment) (daemon : Daemon),
    Lifetimes moments daemon ∧ moments.length = 2 ∧
      BoostsHonoured moments daemon.processor.automation := by
  obtain ⟨daemon, life, _, _, same⟩ :=
    House.reaches_boosted.change "valve-up" (.target 23) (House.clock 2) (House.clock 2)
      (some ⟨23, 1801000⟩) (by decide) le_rfl (by decide +kernel) (by decide +kernel)
  refine ⟨_, daemon, life, rfl, (Lifetimes.boosts_honoured_iff life).mpr ?_⟩
  intro record member durationMinutes temperature asked
  rcases List.mem_pair.mp member with first | second
  · cases first
    cases asked
    exact ⟨by decide +kernel, le_rfl, by decide⟩
  · cases second
    cases asked

/-- The wall clock was set back by half an hour: the second start finds its end stored already. -/
theorem Lifetimes.boosts_honoured_fails : ∃ (moments : List Moment) (daemon : Daemon),
    Lifetimes moments daemon ∧ ¬ BoostsHonoured moments daemon.processor.automation := by
  obtain ⟨daemon, life, _, _, same⟩ :=
    House.reaches_boosted.change "valve-up" (.start 30 21) (House.setClock 1801 1)
      (House.setClock 1801 1) (some ⟨21, 1801000⟩) (by decide) le_rfl (by decide +kernel)
      (by decide +kernel)
  refine ⟨_, daemon, life, fun honoured => ?_⟩
  obtain ⟨⟨boost, active, _⟩, _⟩ := honoured.started _ 30 21
    (List.mem_cons_of_mem _ (List.mem_singleton_self _)) rfl
  have silent : (House.boosted.applyValveBoost (House.setClock 1801 1) "valve-up"
      (some ⟨21, 1801000⟩)).activeBoost (House.setClock 1801 1) "valve-up" = none := by
    decide +kernel
  exact Option.some_ne_none boost (active.symm.trans silent)

end MqttController
