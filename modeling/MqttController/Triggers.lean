import MqttController.Handlers

/-!
# Trigger times

A timed binding fires on the tick that reads its resolved hour and minute from the clock.  The check
of a trigger time looks at the outermost form only, so 24:00 gets past it inside a later or earlier
of two times.
-/

namespace MqttController

namespace TimeExpr

/-- The hour and minute that the clock has to show. -/
def due (sun : Option SunTimes) (time : TimeExpr) : Nat × Nat :=
  (time.resolve sun / 60 % 256, time.resolve sun % 60 % 256)

/-- The fixed times make 24:00 of it: an operand of a later time, or both of an earlier one. -/
def reachesMidnight : TimeExpr → Bool
  | fixed minuteOfDay => decide (1440 ≤ minuteOfDay)
  | sunRelative _ _ => false
  | max first second => first.reachesMidnight || second.reachesMidnight
  | min first second => first.reachesMidnight && second.reachesMidnight

/-- 24:00 comes out of a later or earlier of two times. -/
def hidesMidnight : TimeExpr → Bool
  | max first second => (max first second).reachesMidnight
  | min first second => (min first second).reachesMidnight
  | _ => false

/-- The expression stands for a minute of the day, which the clock shows once a day. -/
def Fires (sun : Option SunTimes) (time : TimeExpr) : Prop :=
  time.resolve sun < 1440 ∧
    ∃! reading : Nat × Nat, reading.1 < 24 ∧ reading.2 < 60 ∧ reading = time.due sun

theorem reachesMidnight_iff (sun : Option SunTimes) {time : TimeExpr}
    (sunless : time.usesSun = false) :
    time.reachesMidnight = true ↔ 1440 ≤ time.resolve sun := by
  induction time with
  | fixed minuteOfDay => simp [reachesMidnight, resolve]
  | sunRelative event offsetMinutes => cases sunless
  | max first second firstIh secondIh =>
      obtain ⟨left, right⟩ := Bool.or_eq_false_iff.mp sunless
      simp only [reachesMidnight, resolve, Bool.or_eq_true, firstIh left, secondIh right]
      omega
  | min first second firstIh secondIh =>
      obtain ⟨left, right⟩ := Bool.or_eq_false_iff.mp sunless
      simp only [reachesMidnight, resolve, Bool.and_eq_true, firstIh left, secondIh right]
      omega

/-- A minute of the day is shown once. -/
theorem fires_iff (sun : Option SunTimes) (time : TimeExpr) :
    time.Fires sun ↔ time.resolve sun < 1440 := by
  constructor
  · exact And.left
  · intro within
    refine ⟨within, time.due sun, ⟨?_, ?_, rfl⟩, fun reading shows => shows.2.2⟩
    · change time.resolve sun / 60 % 256 < 24
      omega
    · change time.resolve sun % 60 % 256 < 60
      omega

/-- An accepted trigger time fires exactly if 24:00 does not come out of a choice of times. -/
theorem accepted_fires (sun : Option SunTimes) {time : TimeExpr} (sunless : time.usesSun = false)
    (accepted : time.isValidTriggerTime = true) : time.Fires sun ↔ time.hidesMidnight = false := by
  have reaches := reachesMidnight_iff sun sunless
  rw [fires_iff]
  cases time with
  | fixed minuteOfDay =>
      have within : minuteOfDay < 1440 := decide_eq_true_eq.mp accepted
      simp [hidesMidnight, resolve, within]
  | sunRelative event offsetMinutes => cases sunless
  | max first second =>
      rw [hidesMidnight, ← Bool.not_eq_true, reaches]
      omega
  | min first second =>
      rw [hidesMidnight, ← Bool.not_eq_true, reaches]
      omega

theorem accepted_fires_nested :
    (TimeExpr.min (.fixed 1440) (.max (.fixed 360) (.fixed 375))).Fires none ↔
      (TimeExpr.min (.fixed 1440) (.max (.fixed 360) (.fixed 375))).hidesMidnight = false :=
  accepted_fires none (by decide) (by decide)

theorem midnight_accepted : ¬ ∀ (sun : Option SunTimes) (time : TimeExpr), time.usesSun = false →
    time.isValidTriggerTime = true → time.Fires sun := by
  intro claim
  have fires := claim none (.max (.fixed 1380) (.fixed 1440)) (by decide) (by decide)
  exact absurd fires.1 (by decide)

end TimeExpr

namespace Env

/-- Unless the clock shows the due time, a timed binding does nothing but forget its last time. -/
theorem evaluateAtTrigger_idle {env : Env} {time : TimeExpr} {binding : ResolvedBinding}
    (timed : env.timedActionTime binding = some time)
    (other : (env.clock.localHour, env.clock.localMinute) ≠ time.due env.sunTimes) (ts : Instant)
    (runtime : Runtime) :
    env.evaluateAtTrigger ts binding runtime =
      env.perform (.clearTimedAction binding.name) runtime := by
  unfold evaluateAtTrigger
  rw [timed]
  dsimp only
  rw [if_neg]
  rintro ⟨hour, minute⟩
  exact other (Prod.ext hour minute)

end Env

end MqttController
