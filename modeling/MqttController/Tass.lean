import MqttController.Time

/-!
# Target and actual state separation

A controllable entity holds a target, with the phase of its command and its owner, and an actual
reading with its freshness.  A target without a value is exactly an unset one, and a reading
without a value is exactly an unknown one; both are built into the types.
-/

namespace MqttController

/-- Phase of a target's lifecycle. -/
inductive TargetPhase
  | unset
  | pending
  | commanded
  | stale
  | confirmed
  deriving DecidableEq, Repr

/-- How reliable an actual reading is. -/
inductive ActualFreshness
  | unknown
  | fresh
  | stale
  deriving DecidableEq, Repr

/-- Who or what set the current target. -/
inductive Owner
  | user
  | motion
  | schedule
  | webUI
  | system
  | rule
  deriving DecidableEq, Repr

/-- Phase of a target that has a value. -/
inductive HeldPhase
  | pending
  | commanded
  | stale
  | confirmed
  deriving DecidableEq, Repr

/-- The phase of a held target among all phases. -/
def HeldPhase.toPhase : HeldPhase → TargetPhase
  | pending => .pending
  | commanded => .commanded
  | stale => .stale
  | confirmed => .confirmed

/-- Target state: unset, or a value with its phase, its owner and the time of its last change. -/
inductive TassTarget (α : Type) where
  | unset
  | held (value : α) (phase : HeldPhase) (owner : Owner) (since : Instant)
  deriving DecidableEq, Repr

namespace TassTarget

variable {α : Type}

/-- The target value, if one is set. -/
def value : TassTarget α → Option α
  | unset => none
  | held value _ _ _ => some value

/-- The lifecycle phase. -/
def phase : TassTarget α → TargetPhase
  | unset => .unset
  | held _ phase _ _ => phase.toPhase

/-- The owner, if a value is set. -/
def owner : TassTarget α → Option Owner
  | unset => none
  | held _ _ owner _ => some owner

/-- When the target last changed, if a value is set. -/
def since : TassTarget α → Option Instant
  | unset => none
  | held _ _ _ since => some since

/-- No target was ever set. -/
def isUnset (target : TassTarget α) : Bool := target.phase == .unset

/-- Set the value and mark its command as sent. -/
def setAndCommand (_target : TassTarget α) (value : α) (owner : Owner) (ts : Instant) :
    TassTarget α :=
  held value .commanded owner ts

/-- Take over an observed value without a command.  The source asserts that no command is in
flight. -/
def adopt (_target : TassTarget α) (value : α) (owner : Owner) (ts : Instant) : TassTarget α :=
  held value .confirmed owner ts

/-- Change only the owner; the timestamp of a command in flight is kept. -/
def reassignOwner (target : TassTarget α) (owner : Owner) (ts : Instant) : TassTarget α :=
  match target with
  | unset => unset
  | held value .commanded _ since => held value .commanded owner since
  | held value .pending _ since => held value .pending owner since
  | held value .confirmed _ _ => held value .confirmed owner ts
  | held value .stale _ _ => held value .stale owner ts

/-- The actual state matches the target.  The source panics on an unset or pending target, which
stays as it is here. -/
def confirm (target : TassTarget α) (ts : Instant) : TassTarget α :=
  match target with
  | held value .commanded owner _ => held value .confirmed owner ts
  | held value .stale owner _ => held value .confirmed owner ts
  | held value .confirmed owner _ => held value .confirmed owner ts
  | other => other

/-- A command older than the threshold becomes stale. -/
def markStaleIfOld (target : TassTarget α) (now : Instant) (threshold : Duration) :
    TassTarget α :=
  match target with
  | held value .commanded owner since =>
      if durationSince now since ≥ threshold then held value .stale owner since
      else held value .commanded owner since
  | other => other

/-- A command is in flight. -/
def isActionable (target : TassTarget α) : Bool :=
  match target.phase with
  | .commanded | .pending => true
  | _ => false

instance : Inhabited (TassTarget α) := ⟨unset⟩

/-! ## What the operations do to each part -/

variable (target : TassTarget α) (value : α) (owner : Owner) (ts : Instant)

@[simp] theorem value_unset : (unset : TassTarget α).value = none := rfl

@[simp] theorem owner_unset : (unset : TassTarget α).owner = none := rfl

@[simp] theorem phase_unset : (unset : TassTarget α).phase = .unset := rfl

@[simp] theorem value_setAndCommand :
    (target.setAndCommand value owner ts).value = some value := rfl

@[simp] theorem owner_setAndCommand :
    (target.setAndCommand value owner ts).owner = some owner := rfl

@[simp] theorem phase_setAndCommand :
    (target.setAndCommand value owner ts).phase = .commanded := rfl

@[simp] theorem since_setAndCommand : (target.setAndCommand value owner ts).since = some ts := rfl

@[simp] theorem value_adopt : (target.adopt value owner ts).value = some value := rfl

@[simp] theorem owner_adopt : (target.adopt value owner ts).owner = some owner := rfl

@[simp] theorem phase_adopt : (target.adopt value owner ts).phase = .confirmed := rfl

@[simp] theorem since_adopt : (target.adopt value owner ts).since = some ts := rfl

@[simp]
theorem value_reassignOwner : (target.reassignOwner owner ts).value = target.value := by
  cases target with
  | unset => rfl
  | held value phase _ _ => cases phase <;> rfl

@[simp]
theorem phase_reassignOwner : (target.reassignOwner owner ts).phase = target.phase := by
  cases target with
  | unset => rfl
  | held value phase _ _ => cases phase <;> rfl

theorem owner_reassignOwner :
    (target.reassignOwner owner ts).owner = target.owner.map fun _ => owner := by
  cases target with
  | unset => rfl
  | held value phase _ _ => cases phase <;> rfl

@[simp]
theorem value_confirm : (target.confirm ts).value = target.value := by
  cases target with
  | unset => rfl
  | held value phase _ _ => cases phase <;> rfl

@[simp]
theorem owner_confirm : (target.confirm ts).owner = target.owner := by
  cases target with
  | unset => rfl
  | held value phase _ _ => cases phase <;> rfl

@[simp]
theorem value_markStaleIfOld (now : Instant) (threshold : Duration) :
    (target.markStaleIfOld now threshold).value = target.value := by
  unfold markStaleIfOld
  split
  · split <;> rfl
  · rfl

@[simp]
theorem owner_markStaleIfOld (now : Instant) (threshold : Duration) :
    (target.markStaleIfOld now threshold).owner = target.owner := by
  unfold markStaleIfOld
  split
  · split <;> rfl
  · rfl

@[simp]
theorem since_markStaleIfOld (now : Instant) (threshold : Duration) :
    (target.markStaleIfOld now threshold).since = target.since := by
  unfold markStaleIfOld
  split
  · split <;> rfl
  · rfl

/-- Confirming sends nothing and leaves nothing to send. -/
theorem sent_confirm (sent : target.phase ≠ .pending) : (target.confirm ts).phase ≠ .pending := by
  cases target with
  | unset => simp [confirm]
  | held value phase _ _ =>
      cases phase with
      | pending => exact absurd rfl sent
      | _ => simp [confirm, TassTarget.phase, HeldPhase.toPhase]

theorem sent_markStaleIfOld (now : Instant) (threshold : Duration)
    (sent : target.phase ≠ .pending) :
    (target.markStaleIfOld now threshold).phase ≠ .pending := by
  unfold markStaleIfOld
  split
  · split <;> simp [TassTarget.phase, HeldPhase.toPhase]
  · exact sent

theorem isUnset_eq_isNone : target.isUnset = target.value.isNone := by
  cases target with
  | unset => rfl
  | held value phase _ _ => cases phase <;> rfl

theorem since_isSome : target.since.isSome = target.value.isSome := by
  cases target <;> rfl

end TassTarget

/-- Actual state: unknown, or the last reading, whether it is stale, and its time. -/
inductive TassActual (α : Type) where
  | unknown
  | known (value : α) (stale : Bool) (since : Instant)
  deriving DecidableEq, Repr

namespace TassActual

variable {α : Type}

/-- The last known value. -/
def value : TassActual α → Option α
  | unknown => none
  | known value _ _ => some value

/-- The freshness of the reading. -/
def freshness : TassActual α → ActualFreshness
  | unknown => .unknown
  | known _ true _ => .stale
  | known _ false _ => .fresh

/-- When the reading was taken. -/
def since : TassActual α → Option Instant
  | unknown => none
  | known _ _ since => some since

/-- A reading was received at least once. -/
def isKnown (actual : TassActual α) : Bool := actual.freshness != .unknown

/-- Record a new reading. -/
def update (_actual : TassActual α) (value : α) (ts : Instant) : TassActual α :=
  known value false ts

/-- Whether a fresh reading is older than the threshold. -/
def isOld (actual : TassActual α) (now : Instant) (threshold : Duration) : Bool :=
  match actual with
  | known _ false since => decide (durationSince now since ≥ threshold)
  | _ => false

/-- A fresh reading older than the threshold becomes stale. -/
def markStaleIfOld (actual : TassActual α) (now : Instant) (threshold : Duration) :
    TassActual α :=
  match actual with
  | known value false since =>
      if durationSince now since ≥ threshold then known value true since
      else known value false since
  | other => other

instance : Inhabited (TassActual α) := ⟨unknown⟩

@[simp] theorem value_unknown : (unknown : TassActual α).value = none := rfl

@[simp] theorem value_update (actual : TassActual α) (value : α) (ts : Instant) :
    (actual.update value ts).value = some value := rfl

@[simp] theorem since_update (actual : TassActual α) (value : α) (ts : Instant) :
    (actual.update value ts).since = some ts := rfl

@[simp] theorem freshness_update (actual : TassActual α) (value : α) (ts : Instant) :
    (actual.update value ts).freshness = .fresh := rfl

@[simp]
theorem value_markStaleIfOld (actual : TassActual α) (now : Instant) (threshold : Duration) :
    (actual.markStaleIfOld now threshold).value = actual.value := by
  unfold markStaleIfOld
  split
  · split <;> rfl
  · rfl

@[simp]
theorem since_markStaleIfOld (actual : TassActual α) (now : Instant) (threshold : Duration) :
    (actual.markStaleIfOld now threshold).since = actual.since := by
  unfold markStaleIfOld
  split
  · split <;> rfl
  · rfl

end TassActual

end MqttController
