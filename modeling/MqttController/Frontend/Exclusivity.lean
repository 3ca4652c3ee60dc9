import MqttController.Frontend.ConnectionOutputs
import MqttController.Frontend.ConnectionRoles

/-!
# One connection in use

The manager has one live connection in use at most, opens one at most, and hands messages over on
the connection in use only.
-/

namespace MqttController.Frontend

open Std Emission

/-- The connection on which something of the application passes. -/
def Output.carrier {μ κ : Type} : Output μ κ → Option Nat
  | .deliver connection _ => some connection
  | .send connection (.message _) => some connection
  | _ => none

namespace ConnectionManager

variable {μ κ : Type}

/-! ## Steps on which something passes -/

/-- Nothing of the application passes. -/
abbrev Quiet (step : Step ConnectionManager (Output μ κ)) : Prop :=
  Emits (fun output => output.carrier = none) step

theorem plain_quiet : Plain fun output : Output μ κ => output.carrier = none :=
  ⟨fun _ => rfl, fun _ _ _ => rfl, fun _ => rfl⟩

theorem open_quiet (id : Nat) : (Output.openSocket id : Output μ κ).carrier = none := rfl

/-- A connection is in use and alive. -/
def Uses (manager : ConnectionManager) (id : Nat) : Prop :=
  manager.activeId = some id ∧ (manager.connections[id]?).map (·.state) = some .alive

theorem receive_carrier (reading : Reading) (id : Nat) (data : ServerData μ)
    (manager : ConnectionManager) {output : Output μ κ} {carrier : Nat}
    (emitted : output ∈ (receive reading id data manager).2)
    (carries : output.carrier = some carrier) : manager.Uses carrier := by
  unfold receive at emitted
  cases known : manager.connections[id]? with
  | none =>
      rw [known] at emitted
      cases emitted
  | some connection =>
      rw [known] at emitted
      dsimp only at emitted
      split at emitted
      · cases emitted
      · cases data with
        | malformed =>
            cases carries.symm.trans ((die_emits plain_quiet reading id 4002 manager).2 _ emitted)
        | pong nonce clientTsMs =>
            dsimp only at emitted
            split at emitted
            · have quiet : Quiet (andThen (pongReceived reading id nonce clientTsMs) emit :
                  Step ConnectionManager (Output μ κ)) :=
                Leaves.andThen
                  (pongReceived_emits plain_quiet (fun _ => rfl) reading id nonce clientTsMs)
                  (emit_emits plain_quiet)
              cases carries.symm.trans ((quiet manager).2 _ emitted)
            · cases emitted
        | message message =>
            dsimp only at emitted
            split at emitted
            · rename_i used
              rw [Bool.and_eq_true, decide_eq_true_iff, beq_iff_eq] at used
              cases List.mem_singleton.mp emitted
              cases carries
              exact ⟨used.1, by rw [known, Option.map_some, used.2]⟩
            · cases emitted

theorem send_carrier (reading : Reading) (message : κ) (manager : ConnectionManager)
    {output : Output μ κ} {carrier : Nat} (emitted : output ∈ (manager.send reading message).1.2)
    (carries : output.carrier = some carrier) : manager.Uses carrier := by
  unfold send at emitted
  cases active : manager.activeId with
  | none =>
      rw [active] at emitted
      cases emitted
  | some id =>
      rw [active] at emitted
      dsimp only at emitted
      cases known : manager.connections[id]? with
      | none =>
          rw [known] at emitted
          cases emitted
      | some connection =>
          rw [known] at emitted
          dsimp only at emitted
          split_ifs at emitted with unready sends
          · cases emitted
          · cases List.mem_singleton.mp emitted
            cases carries
            simp only [Bool.or_eq_true, bne_iff_ne, not_or, ne_eq, Decidable.not_not] at unready
            exact ⟨active, by rw [known, Option.map_some, unready.1.1]⟩
          · cases carries.symm.trans ((die_emits plain_quiet reading id 1006 manager).2 _ emitted)

/-- What passes on a connection passes while it is in use and alive. -/
theorem step_carrier (reading : Reading) (input : Input μ κ) (manager : ConnectionManager)
    {output : Output μ κ} {carrier : Nat} (emitted : output ∈ (step reading input manager).2)
    (carries : output.carrier = some carrier) : manager.Uses carrier := by
  have silenced : ∀ {step : Step ConnectionManager (Output μ κ)} {start : ConnectionManager},
      Quiet step → output ∈ (step start).2 → manager.Uses carrier := by
    intro step start quiet emitted
    cases carries.symm.trans ((quiet start).2 _ emitted)
  cases input with
  | start => exact silenced (start_emits plain_quiet open_quiet reading) emitted
  | advance id readyState => cases emitted
  | opened id => exact silenced (socketOpened_emits plain_quiet reading id) emitted
  | received id data => exact receive_carrier reading id data manager emitted carries
  | closed id code => exact silenced (die_emits plain_quiet reading id code) emitted
  | error id => exact silenced (die_emits plain_quiet reading id 1006) emitted
  | expired timer => exact silenced (expire_emits plain_quiet open_quiet reading timer) emitted
  | send message => exact send_carrier reading message manager emitted carries
  | retry => exact silenced (retry_emits plain_quiet open_quiet reading) emitted
  | visibilityChanged =>
      exact silenced (visibilityChanged_emits plain_quiet open_quiet reading) emitted
  | networkChanged offline =>
      exact silenced (networkChanged_emits plain_quiet open_quiet reading offline) emitted
  | freeze => exact silenced (emit_emits plain_quiet) emitted
  | resume gapMs => exact silenced (resume_emits plain_quiet open_quiet reading gapMs) emitted
  | pageHide => exact silenced (pageHide_emits plain_quiet reading) emitted
  | pageShow => exact silenced (pageShow_emits plain_quiet open_quiet reading) emitted
  | destroy => exact silenced (destroy_emits plain_quiet reading) emitted

/-! ## The connections of a manager -/

/-- The connections in a role. -/
def countRole (manager : ConnectionManager) (state : ConnectionState) : Nat :=
  OrderedMap.countValues manager.connections fun connection => connection.state == state

theorem countRole_le {manager : ConnectionManager} {state : ConnectionState} (ids : List Nat)
    (covers : ∀ id, manager.cast.role id = some state → id ∈ ids) :
    manager.countRole state ≤ ids.length := by
  refine OrderedMap.countValues_le _ _ fun id connection known holds => covers id ?_
  rw [beq_iff_eq] at holds
  simp [cast, known, holds]

theorem alive_le_one {manager : ConnectionManager} (sound : manager.cast.Sound) :
    manager.countRole .alive ≤ 1 := by
  refine countRole_le [manager.activeId.getD 0] fun id alive => ?_
  have active : manager.activeId = some id := sound.held id (.inl alive)
  simp [active]

theorem new_le_one {manager : ConnectionManager} (sound : manager.cast.Sound) :
    manager.countRole .new ≤ 1 := by
  obtain ⟨opening, only⟩ := exists_opening sound
  exact countRole_le [opening] fun id new => List.mem_singleton.mpr (only id new)

/-- However sockets, timers, the page and the application act: one connection is alive at most, and
it is the one in use; one is being opened at most, and three are not dead; and messages are handed
to the application and sent for it on the connection in use only, while it is alive. -/
theorem exclusive {manager : ConnectionManager} (reached : Reached μ κ manager) :
    manager.countRole .alive ≤ 1 ∧
      (∀ id connection, manager.connections[id]? = some connection → connection.state = .alive →
        manager.activeId = some id) ∧
      manager.countRole .new ≤ 1 ∧
      OrderedMap.countValues manager.connections (·.isLive) ≤ 3 ∧
      ∀ (reading : Reading) (input : Input μ κ), ∀ output ∈ (step reading input manager).2,
        ∀ carrier, output.carrier = some carrier → manager.Uses carrier := by
  have sound := reached.sound
  refine ⟨alive_le_one sound, fun id connection known alive => ?_, new_le_one sound,
    (live_le_two sound).trans (by decide), fun reading input output emitted carrier carries =>
      step_carrier reading input manager emitted carries⟩
  exact sound.held id (.inl (by simp [cast, known, alive]))

/-- What the browser says while all is well. -/
def clearReading (now : Nat) : Reading :=
  { now, visible := true, opens := true, sends := fun _ => true }

/-- A manager whose first socket opened and answered. -/
def connected : ConnectionManager :=
  [.start, .advance 0 .opened, .opened 0, .received 0 (.pong 1 5)].foldl
    (fun manager (input : Input Nat Nat) => (step (clearReading 5) input manager).1) (initial 0)

theorem connected_reached : Reached Nat Nat connected :=
  ((((Reached.initial 0).step (clearReading 5) .start).step (clearReading 5)
    (.advance 0 .opened)).step (clearReading 5) (.opened 0)).step (clearReading 5)
    (.received 0 (.pong 1 5))

theorem exclusive_connected :
    connected.countRole .alive = 1 ∧ connected.countRole .alive ≤ 1 ∧
      ∀ carrier, (Output.send 0 (.message 7) : Output Nat Nat).carrier = some carrier →
        connected.Uses carrier := by
  refine ⟨by decide +kernel, (exclusive connected_reached).1, ?_⟩
  have emitted : Output.send 0 (.message 7) ∈
      (step (clearReading 6) (.send 7 : Input Nat Nat) connected).2 := by decide +kernel
  exact (exclusive connected_reached).2.2.2.2 (clearReading 6) (.send 7) _ emitted

end ConnectionManager

end MqttController.Frontend
