import MqttController.Frontend.Connection

/-!
# What the manager emits

The kinds of outputs of every operation of the manager.
-/

namespace MqttController.Frontend

open Std Emission

namespace ConnectionManager

variable {μ κ : Type} {kind : Output μ κ → Prop}

/-- The outputs of a step are of a kind. -/
abbrev Emits (kind : Output μ κ → Prop) (step : Step ConnectionManager (Output μ κ)) : Prop :=
  Leaves (fun _ => ()) kind step

/-- A kind of outputs that has all reports, heartbeats and closed sockets. -/
structure Plain (kind : Output μ κ → Prop) : Prop where
  health : ∀ health, kind (.health health)
  ping : ∀ id nonce clientTsMs, kind (.send id (.ping nonce clientTsMs))
  closeSocket : ∀ id, kind (.closeSocket id)

/-- A step that emits these outputs. -/
theorem Emits.of {step : Step ConnectionManager (Output μ κ)}
    (emits : ∀ manager, ∀ output ∈ (step manager).2, kind output) : Emits kind step :=
  fun manager => ⟨rfl, emits manager⟩

/-- Where a step emits nothing. -/
theorem Emits.nothing : () = () ∧ ∀ output ∈ ([] : List (Output μ κ)), kind output :=
  ⟨rfl, by simp⟩

theorem emit_emits (plain : Plain kind) :
    Emits kind (emit : Step ConnectionManager (Output μ κ)) := by
  refine .of fun manager output member => ?_
  unfold emit at member
  split at member
  · cases member
  · cases List.mem_singleton.mp member
    exact plain.health _

theorem retire_emits (plain : Plain kind) (reading : Reading) (id : Nat) :
    Emits kind (retire reading id : Step ConnectionManager (Output μ κ)) := by
  refine .of fun manager output member => ?_
  unfold retire at member
  split at member
  · cases member
  · split at member
    · cases List.mem_singleton.mp member
      exact plain.closeSocket _
    · cases member

theorem retireAll_emits (plain : Plain kind) (reading : Reading) (selects : Nat → Bool) :
    Emits kind (retireAll reading selects : Step ConnectionManager (Output μ κ)) :=
  fun manager => Leaves.forEach (retire_emits plain reading) _ manager

theorem scheduleRetry_emits (plain : Plain kind) (reading : Reading) :
    Emits kind (scheduleRetry reading : Step ConnectionManager (Output μ κ)) := by
  intro manager
  unfold scheduleRetry
  split_ifs
  · exact Emits.nothing
  · exact emit_emits plain _
  · exact emit_emits plain _
  · exact emit_emits plain _

theorem die_emits (plain : Plain kind) (reading : Reading) (id code : Nat) :
    Emits kind (die reading id code : Step ConnectionManager (Output μ κ)) := by
  intro manager
  unfold die
  split
  · exact Emits.nothing
  · split
    · exact Emits.nothing
    · refine Leaves.andThen (retire_emits plain reading id) (Leaves.andThen ?_ (emit_emits plain)) _
      intro retired
      dsimp only
      split_ifs
      · exact retireAll_emits plain reading _ _
      · exact Emits.nothing
      · exact scheduleRetry_emits plain reading retired

theorem ping_emits (plain : Plain kind) (reading : Reading) (id : Nat) :
    Emits kind (ping reading id : Step ConnectionManager (Output μ κ)) := by
  intro manager
  unfold ping
  split
  · exact Emits.nothing
  · split_ifs
    · exact Emits.nothing
    · exact Emits.nothing
    · refine ⟨rfl, fun output member => ?_⟩
      cases List.mem_singleton.mp member
      exact plain.ping _ _ _
    · exact die_emits plain reading id 1006 _

theorem connect_emits (plain : Plain kind) (opens : ∀ id, kind (.openSocket id))
    (reading : Reading) :
    Emits kind (connect reading : Step ConnectionManager (Output μ κ)) := by
  intro manager
  unfold connect
  split_ifs
  · exact Emits.nothing
  · exact emit_emits plain _
  · exact Emits.nothing
  · exact Emits.nothing
  · exact emit_emits plain _
  · exact scheduleRetry_emits plain reading _
  · refine Leaves.andThen (Emits.of fun opened output member => ?_) (emit_emits plain) _
    cases List.mem_singleton.mp member
    exact opens _

theorem markStale_emits (plain : Plain kind) (opens : ∀ id, kind (.openSocket id))
    (reading : Reading) (id : Nat) :
    Emits kind (markStale reading id : Step ConnectionManager (Output μ κ)) := by
  intro manager
  unfold markStale
  split
  · exact Emits.nothing
  · split
    · exact Emits.nothing
    · exact Leaves.andThen (emit_emits plain) (connect_emits plain opens reading) _

theorem check_emits (plain : Plain kind) (opens : ∀ id, kind (.openSocket id)) (reading : Reading) :
    Emits kind (check reading : Step ConnectionManager (Output μ κ)) := by
  intro manager
  unfold check
  split
  · exact Emits.nothing
  · refine Leaves.andThen (Leaves.forEach (ping_emits plain reading) _)
      (Leaves.andThen (fun checked => ?_) (emit_emits plain)) _
    split
    · exact connect_emits plain opens reading checked
    · exact Emits.nothing

theorem socketOpened_emits (plain : Plain kind) (reading : Reading) (id : Nat) :
    Emits kind (socketOpened reading id : Step ConnectionManager (Output μ κ)) := by
  intro manager
  unfold socketOpened
  split
  · exact Emits.nothing
  · split
    · exact Emits.nothing
    · exact Leaves.andThen (ping_emits plain reading id) (emit_emits plain) _

theorem pongReceived_emits (plain : Plain kind) (actives : ∀ id, kind (.active id))
    (reading : Reading) (id nonce clientTsMs : Nat) :
    Emits kind
      (pongReceived reading id nonce clientTsMs : Step ConnectionManager (Output μ κ)) := by
  intro manager
  unfold pongReceived
  split
  · exact Emits.nothing
  · split
    · exact Emits.nothing
    · split
      · exact Emits.nothing
      · dsimp only
        split
        · split
          · exact retire_emits plain reading id _
          · refine Leaves.andThen (retireAll_emits plain reading _)
              (Leaves.andThen (emit_emits plain) (Emits.of fun taken output member => ?_)) _
            cases List.mem_singleton.mp member
            exact actives _
        · exact Emits.nothing

theorem retry_emits (plain : Plain kind) (opens : ∀ id, kind (.openSocket id)) (reading : Reading) :
    Emits kind (retry reading : Step ConnectionManager (Output μ κ)) := by
  intro manager
  unfold retry
  split
  · exact Emits.nothing
  · exact Leaves.andThen (retireAll_emits plain reading _) (connect_emits plain opens reading) _

theorem visibilityChanged_emits (plain : Plain kind) (opens : ∀ id, kind (.openSocket id))
    (reading : Reading) :
    Emits kind (visibilityChanged reading : Step ConnectionManager (Output μ κ)) := by
  intro manager
  unfold visibilityChanged
  split_ifs
  · exact Emits.nothing
  · refine Leaves.andThen (fun seen => ?_)
      (Leaves.andThen (check_emits plain opens reading) (emit_emits plain)) _
    split
    · exact connect_emits plain opens reading _
    · exact Emits.nothing
  · exact emit_emits plain _

theorem networkChanged_emits (plain : Plain kind) (opens : ∀ id, kind (.openSocket id))
    (reading : Reading) (offline : Bool) :
    Emits kind (networkChanged reading offline : Step ConnectionManager (Output μ κ)) := by
  intro manager
  refine Leaves.andThen (fun noted => ?_) (emit_emits plain) _
  split
  · exact Emits.nothing
  · exact check_emits plain opens reading noted

theorem resume_emits (plain : Plain kind) (opens : ∀ id, kind (.openSocket id)) (reading : Reading)
    (gapMs : Option Nat) :
    Emits kind (resume reading gapMs : Step ConnectionManager (Output μ κ)) := by
  intro manager
  unfold resume
  split
  · exact Emits.nothing
  · refine Leaves.andThen (fun thawed => ?_) (check_emits plain opens reading) _
    split
    · refine Leaves.andThen (fun resumed => ?_) (connect_emits plain opens reading) _
      split
      · exact markStale_emits plain opens reading _ resumed
      · exact Emits.nothing
    · exact Emits.nothing

theorem pageHide_emits (plain : Plain kind) (reading : Reading) :
    Emits kind (pageHide reading : Step ConnectionManager (Output μ κ)) := by
  intro manager
  unfold pageHide
  split
  · exact Emits.nothing
  · exact Leaves.andThen (retireAll_emits plain reading _) (emit_emits plain) _

theorem pageShow_emits (plain : Plain kind) (opens : ∀ id, kind (.openSocket id))
    (reading : Reading) :
    Emits kind (pageShow reading : Step ConnectionManager (Output μ κ)) := by
  intro manager
  unfold pageShow
  split
  · exact Emits.nothing
  · dsimp only
    split
    · exact Emits.nothing
    · exact connect_emits plain opens reading _

theorem destroy_emits (plain : Plain kind) (reading : Reading) :
    Emits kind (destroy reading : Step ConnectionManager (Output μ κ)) :=
  fun _ => Leaves.andThen (retireAll_emits plain reading _) (Leaves.silent fun _ => rfl) _

theorem sweep_emits (plain : Plain kind) (reading : Reading) (id : Nat) :
    Emits kind (sweep reading id : Step ConnectionManager (Output μ κ)) := by
  intro manager
  unfold sweep
  split
  · exact Emits.nothing
  · dsimp only
    split
    · exact ping_emits plain reading id _
    · exact Emits.nothing

theorem tick_emits (plain : Plain kind) (opens : ∀ id, kind (.openSocket id)) (reading : Reading) :
    Emits kind (tick reading : Step ConnectionManager (Output μ κ)) := by
  intro manager
  unfold tick
  split
  · exact Emits.nothing
  · refine Leaves.andThen (fun noted => ?_) (Leaves.andThen (fun resumed => ?_)
      (Leaves.andThen (emit_emits plain) (Leaves.silent fun _ => rfl))) _
    · split
      · exact resume_emits plain opens reading _ noted
      · exact Emits.nothing
    · exact Leaves.forEach (sweep_emits plain reading) _ resumed

theorem start_emits (plain : Plain kind) (opens : ∀ id, kind (.openSocket id)) (reading : Reading) :
    Emits kind (start reading : Step ConnectionManager (Output μ κ)) := by
  intro manager
  unfold start
  split
  · exact Emits.nothing
  · exact Leaves.andThen (tick_emits plain opens reading) (connect_emits plain opens reading) _

theorem connectionTimer_emits {timer id : Nat}
    {callback : Connection → Step ConnectionManager (Output μ κ)}
    (quiet : ∀ connection, Emits kind (callback connection)) :
    Emits kind (connectionTimer timer id callback) := by
  intro manager
  unfold connectionTimer
  split
  · exact Emits.nothing
  · dsimp only
    split
    · exact Emits.nothing
    · exact quiet _ _

theorem run_emits (plain : Plain kind) (opens : ∀ id, kind (.openSocket id)) (reading : Reading)
    (timer : Nat) (callback : Callback) :
    Emits kind (run reading timer callback : Step ConnectionManager (Output μ κ)) := by
  cases callback with
  | connectTimeout id =>
      refine connectionTimer_emits fun connection manager => ?_
      unfold connectTimeout
      split
      · exact die_emits plain reading id 1006 manager
      · exact Emits.nothing
  | pingTimeout id nonce =>
      refine connectionTimer_emits fun connection manager => ?_
      unfold pingTimeout
      split_ifs
      · exact Emits.nothing
      · exact die_emits plain reading id 1006 _
      · exact markStale_emits plain opens reading id _
  | graceTimeout id deadline =>
      refine connectionTimer_emits fun connection manager => ?_
      unfold graceTimeout
      split
      · exact die_emits plain reading id 1006 manager
      · exact Emits.nothing
  | retry => exact fun manager =>
      connect_emits plain opens reading { manager with retryTimer := none }
  | tick => exact tick_emits plain opens reading

theorem expire_emits (plain : Plain kind) (opens : ∀ id, kind (.openSocket id)) (reading : Reading)
    (timer : Nat) :
    Emits kind (expire reading timer : Step ConnectionManager (Output μ κ)) := by
  intro manager
  unfold expire
  split
  · exact Emits.nothing
  · exact run_emits plain opens reading timer _ _

end ConnectionManager

end MqttController.Frontend
