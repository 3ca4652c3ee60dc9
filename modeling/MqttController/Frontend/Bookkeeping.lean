import MqttController.Frontend.RequestSteps

/-!
# The dashboard's bookkeeping

In every run of a dashboard, whatever the order of calls, messages, timeouts and lost connections,
the tables of open requests agree with the statuses that are shown, and the status of a command only
goes away without an error after its result and an update that confirms it.
-/

namespace MqttController.Frontend

open Std Emission

namespace ConnectionManager

variable {μ κ : Type} {manager : ConnectionManager}

theorem internal_of_emits {step : Step ConnectionManager (Output μ κ)} (emits : Emits Internal step)
    (manager : ConnectionManager) : ∀ output ∈ (step manager).2, Internal output :=
  (emits manager).2

/-- Only what arrives on a socket is handed over. -/
theorem step_internal (reading : Reading) {input : Input μ κ}
    (other : ∀ id data, input ≠ .received id data) (manager : ConnectionManager) :
    ∀ output ∈ (step reading input manager).2, Internal output := by
  have plain : Plain (@Internal μ κ) := plain_internal
  have opens : ∀ id, @Internal μ κ (.openSocket id) := fun _ => trivial
  cases input with
  | start => exact internal_of_emits (start_emits plain opens reading) manager
  | advance id readyState => exact fun output inside => absurd inside List.not_mem_nil
  | opened id => exact internal_of_emits (socketOpened_emits plain reading id) _
  | received id data => exact absurd rfl (other id data)
  | closed id code => exact internal_of_emits (die_emits plain reading id code) _
  | error id => exact internal_of_emits (die_emits plain reading id 1006) manager
  | expired timer => exact internal_of_emits (expire_emits plain opens reading timer) manager
  | send message =>
      intro output inside
      simp only [step, send] at inside
      split at inside
      · cases inside
      · split at inside
        · cases inside
        · split at inside
          · cases inside
          · split at inside
            · cases List.mem_singleton.mp inside
              trivial
            · exact internal_of_emits (die_emits plain reading _ 1006) manager output inside
  | retry => exact internal_of_emits (retry_emits plain opens reading) manager
  | visibilityChanged =>
      exact internal_of_emits (visibilityChanged_emits plain opens reading) manager
  | networkChanged offline =>
      exact internal_of_emits (networkChanged_emits plain opens reading offline) manager
  | freeze =>
      exact internal_of_emits (emit_emits plain) { manager with frozen := true }
  | resume gapMs => exact internal_of_emits (resume_emits plain opens reading gapMs) manager
  | pageHide => exact internal_of_emits (pageHide_emits plain reading) manager
  | pageShow => exact internal_of_emits (pageShow_emits plain opens reading) manager
  | destroy => exact internal_of_emits (destroy_emits plain reading) manager

/-- Messages of a connection are handed over. -/
def listens (manager : ConnectionManager) (id : Nat) : Bool :=
  !manager.destroyed && decide (manager.activeId = some id) &&
    (manager.connections[id]?).any (·.state == .alive)

theorem inUse_of_listens {id : Nat} (listening : manager.listens id = true) :
    manager.cast.InUse := by
  unfold listens at listening
  simp only [Bool.and_eq_true, decide_eq_true_eq, Option.any_eq_true, beq_iff_eq] at listening
  obtain ⟨⟨_, active⟩, connection, known, alive⟩ := listening
  exact ⟨id, active, by simp [cast, known, alive]⟩

theorem receive_message (reading : Reading) (id : Nat) (message : μ) (manager : ConnectionManager) :
    (receive reading id (.message message) manager : _ × List (Output μ κ)) =
      (manager, if manager.listens id then [.deliver id message] else []) := by
  unfold receive listens
  cases known : manager.connections[id]? with
  | none => simp
  | some connection =>
      simp only [Option.any_some]
      cases manager.destroyed with
      | true => rfl
      | false =>
          by_cases alive : connection.state = .alive
          · have live : connection.isLive = true := by rw [Connection.isLive, alive]; rfl
            rw [live]
            by_cases active : manager.activeId = some id
            · simp [active, alive]
            · simp [active]
          · simp [beq_false_of_ne alive]

theorem receive_malformed (reading : Reading) (id : Nat) (manager : ConnectionManager) :
    ∀ output ∈ (receive reading id .malformed manager : _ × List (Output μ κ)).2,
      Internal output := by
  intro output inside
  unfold receive at inside
  split at inside
  · cases inside
  · split at inside
    · cases inside
    · exact internal_of_emits (die_emits plain_internal reading id 4002) manager output inside

/-- An answer to a heartbeat may end with a connection being taken into use, when none was. -/
theorem pongReceived_outputs (reading : Reading) (id nonce clientTsMs : Nat)
    (manager : ConnectionManager) :
    (∀ output ∈ (pongReceived reading id nonce clientTsMs manager : _ × List (Output μ κ)).2,
      Internal output) ∨
    ¬ manager.cast.InUse ∧ ∃ quiet : List (Output μ κ), (∀ output ∈ quiet, Internal output) ∧
      (pongReceived reading id nonce clientTsMs manager).2 = quiet ++ [.active id] := by
  have idle : ∀ output ∈ ([] : List (Output μ κ)), Internal output :=
    fun output inside => absurd inside List.not_mem_nil
  unfold pongReceived
  split
  · exact .inl idle
  · rename_i connection known
    split
    · exact .inl idle
    · split
      · exact .inl idle
      · rename_i ping _ _
        dsimp only
        split
        · rename_i begins
          split
          · exact .inl (internal_of_emits (retire_emits plain_internal reading id) _)
          · rename_i unhealthy
            have assigned : (manager.addPong reading id nonce ping).cast =
                manager.cast.assign id .alive := cast_addPong reading id nonce ping known
            generalize manager.addPong reading id nonce ping = answered
              at assigned begins unhealthy ⊢
            have same : answered.activeId = manager.activeId := congrArg Cast.activeId assigned
            refine .inr ⟨?_, _, ?_, (List.append_assoc _ _ _).symm⟩
            · rintro ⟨current, active, alive⟩
              have used : answered.activeId = some current := same.trans active
              by_cases own : current = id
              · subst own
                have was : connection.state = .alive := by simpa [cast, known] using alive
                rw [used, was] at begins
                simp at begins
              · rw [used, Option.any_some, Bool.and_eq_true, bne_iff_ne] at unhealthy
                refine unhealthy ⟨own, ?_⟩
                have role : answered.cast.role current = some .alive := by
                  rw [assigned]
                  simp only [Cast.assign, if_neg own]
                  exact alive
                obtain ⟨other, found, state⟩ := Option.map_eq_some_iff.mp role
                rw [found, Option.any_some, state]
                rfl
            · intro output inside
              rcases List.mem_append.mp inside with closed | reported
              · exact internal_of_emits (retireAll_emits plain_internal reading _) _ output closed
              · exact internal_of_emits (emit_emits plain_internal) _ output reported
        · exact .inl idle

end ConnectionManager

namespace DashboardClient

variable {client : DashboardClient}

/-! ## The client hears of the manager -/

theorem hears_reports (reading : Reading) {outputs : List (Output ServerMessage Request)}
    (internal : ∀ output ∈ outputs, ConnectionManager.Internal output) (client : DashboardClient) :
    outputs.foldl (hear reading) client = outputs.foldl report client := by
  refine List.foldl_ext _ _ _ fun client output inside => ?_
  have own := internal output inside
  cases output with
  | health health => rfl
  | deliver id message => exact own.elim
  | active id => exact own.elim
  | openSocket id => rfl
  | send id message => rfl
  | closeSocket id => rfl

/-- After the manager took a step of its own, the client has heard of a lost connection. -/
theorem Kept.reported (kept : client.Kept)
    {result : ConnectionManager × List (Output ServerMessage Request)}
    (reports : ConnectionManager.Reports client.connection result) :
    (result.2.foldl report { client with connection := result.1 }).Kept := by
  have reported := (kept.books.connected result.1).reports result.2
  refine ⟨reported.books, reported.full kept.full, fun ready => ?_, ?_⟩
  · obtain ⟨before, untold⟩ := reported.ready ready
    rw [reported.connection]
    by_contra lost
    exact untold (reports.tells (kept.used before) lost)
  · rw [reported.connection]
    exact reports.rests kept.rests

theorem Kept.drive (kept : client.Kept) (reading : Reading)
    {step : Step ConnectionManager (Output ServerMessage Request)}
    (reports : ConnectionManager.Reports client.connection (step client.connection))
    (internal : ∀ output ∈ (step client.connection).2, ConnectionManager.Internal output) :
    (client.drive reading step).Kept := by
  unfold DashboardClient.drive
  generalize step client.connection = result at reports internal
  dsimp only
  rw [hears_reports reading internal]
  exact kept.reported reports

/-- With a connection newly in use, the client asks for the state. -/
theorem Kept.resync (kept : client.Kept) (unready : client.state.ready = false)
    (reading : Reading) :
    (client.resync reading).Kept := by
  unfold DashboardClient.resync
  rw [publish_of_running kept.books.running]
  have books : Books { client with state := { client.state with ready := false } } :=
    kept.books.display (fun _ => rfl) (fun request => by cases request <;> rfl) fun _ => unready
  have sent := books.send nofun kept.rests reading .getState
  generalize DashboardClient.send reading .getState
    { client with state := { client.state with ready := false } } = result at sent
  obtain ⟨after, outcome⟩ := result
  by_cases failed : outcome = .failed
  · exact .of_unready sent.books sent.rests (sent.unready failed)
  · have same : after = { client with state := { client.state with ready := false } } :=
      sent.same failed
    refine .of_unready sent.books sent.rests ?_
    change after.state.ready = false
    rw [same]

theorem Kept.pong (kept : client.Kept) (reading : Reading) (id nonce clientTsMs : Nat) :
    (client.pong reading id nonce clientTsMs).Kept := by
  unfold DashboardClient.pong
  split
  · rename_i accepts
    have reports : ConnectionManager.Reports client.connection
        (ConnectionManager.pongReceived reading id nonce clientTsMs client.connection :
          _ × List (Output ServerMessage Request)) :=
      ConnectionManager.pongReceived_reports reading id nonce clientTsMs _ accepts
    have heard : (client.drive reading
        (ConnectionManager.pongReceived reading id nonce clientTsMs)).Kept := by
      rcases ConnectionManager.pongReceived_outputs reading id nonce clientTsMs
          client.connection with
        internal | ⟨unused, quiet, internal, outputs⟩
      · exact kept.drive reading reports internal
      · unfold DashboardClient.drive
        generalize (ConnectionManager.pongReceived reading id nonce clientTsMs client.connection :
          _ × List (Output ServerMessage Request)) = result at reports outputs
        obtain ⟨connection, emitted⟩ := result
        dsimp only at outputs ⊢
        rw [outputs, List.foldl_append, hears_reports reading internal]
        -- Nothing was in use before, so that there is no snapshot and nothing waits.
        have before : client.state.ready = false := by
          rw [Bool.eq_false_iff]
          exact fun ready => unused (kept.used ready)
        have reported := (kept.books.connected connection).reports quiet
        have unready : (quiet.foldl report { client with connection }).state.ready = false := by
          rw [Bool.eq_false_iff]
          intro ready
          exact absurd (before.symm.trans (reported.ready ready).1) nofun
        refine (Kept.of_unready reported.books ?_ unready).resync unready reading
        rw [reported.connection]
        exact reports.rests kept.rests
    exact heard.drive reading (.emit _)
      (ConnectionManager.internal_of_emits
        (ConnectionManager.emit_emits ConnectionManager.plain_internal) _)
  · exact kept

/-! ## Steps -/

/-- What closes the dashboard. -/
def Input.closes : Input → Bool
  | .destroy | .connection .destroy => true
  | _ => false

/-- What the manager may do: answer a heartbeat, hand a message over, or something of its own. -/
theorem step_connection (reading : Reading) (input : ConnectionManager.Input ServerMessage Request)
    (client : DashboardClient) :
    (∃ id nonce clientTsMs, client.step reading (.connection input) =
      client.pong reading id nonce clientTsMs) ∨
    (∃ id message, input = .received id (.message message) ∧
      client.connection.listens id = true ∧
      client.step reading (.connection input) = client.receive reading message) ∨
    (∀ output ∈ (ConnectionManager.step reading input client.connection).2,
      ConnectionManager.Internal output) ∧
      client.step reading (.connection input) =
        client.drive reading (ConnectionManager.step reading input) := by
  by_cases received : ∃ id data, input = .received id data
  · obtain ⟨id, data, rfl⟩ := received
    cases data with
    | pong nonce clientTsMs => exact .inl ⟨id, nonce, clientTsMs, rfl⟩
    | malformed => exact .inr (.inr ⟨ConnectionManager.receive_malformed reading id _, rfl⟩)
    | message message =>
        have taken : (ConnectionManager.receive reading id (.message message) client.connection :
            _ × List (Output ServerMessage Request)) = _ :=
          ConnectionManager.receive_message reading id message client.connection
        cases listening : client.connection.listens id with
        | true =>
            refine .inr (.inl ⟨id, message, rfl, listening, ?_⟩)
            simp only [DashboardClient.step, drive, ConnectionManager.step, taken,
              listening, if_pos]
            rfl
        | false =>
            refine .inr (.inr ⟨?_, rfl⟩)
            simp only [ConnectionManager.step, taken, listening]
            exact fun output inside => absurd inside List.not_mem_nil
  · refine .inr (.inr ⟨ConnectionManager.step_internal reading
      (fun id data same => received ⟨id, data, same⟩) client.connection, ?_⟩)
    cases input with
    | received id data => exact absurd ⟨id, data, rfl⟩ received
    | _ => rfl

/-- Whatever happens to a dashboard that is not closed keeps the books. -/
theorem Kept.step (kept : client.Kept) (reading : Reading) {input : Input}
    (stays : input.closes = false) : (client.step reading input).Kept := by
  cases input with
  | command key command => exact kept.command reading key command
  | loadHistory device => exact kept.queueHistory reading _
  | loadPlugPowerHistory device => exact kept.queueHistory reading _
  | loadHeatingEnergy => exact kept.queueHistory reading _
  | expired timer => exact kept.expire reading timer
  | destroy => cases stays
  | connection input =>
      have runs : input ≠ .destroy := by
        rintro rfl
        cases stays
      rcases step_connection reading input client with
        ⟨id, nonce, clientTsMs, same⟩ | ⟨id, message, _, listening, same⟩ | ⟨internal, same⟩
      · rw [same]
        exact kept.pong reading id nonce clientTsMs
      · rw [same]
        exact kept.receive (ConnectionManager.inUse_of_listens listening) reading message
      · rw [same]
        exact kept.drive reading (ConnectionManager.step_reports reading runs kept.rests) internal

/-! ## What becomes of statuses -/

/-- Statuses stay or turn into errors, and nothing new waits. -/
structure Follows (before after : DashboardClient) : Prop where
  statuses : ∀ key : String, after.state.commands[key]? = before.state.commands[key]? ∨
    ∃ message, after.state.commands[key]? = some (.error message)
  requests : ∀ (id : Nat) pending, after.pendingCommands[id]? = some pending →
    before.pendingCommands[id]? = some pending

namespace Follows

variable {first second third : DashboardClient}

theorem of_eq (statuses : second.state.commands = first.state.commands)
    (requests : second.pendingCommands = first.pendingCommands) : Follows first second where
  statuses key := .inl (by rw [statuses])
  requests id pending asked := by
    rwa [requests] at asked

theorem refl (client : DashboardClient) : Follows client client := of_eq rfl rfl

theorem trans (before : Follows first second) (after : Follows second third) :
    Follows first third where
  statuses key := by
    rcases after.statuses key with same | failed
    · rw [same]
      exact before.statuses key
    · exact .inr failed
  requests id pending asked := before.requests id pending (after.requests id pending asked)

theorem foldl {α : Type} {change : DashboardClient → α → DashboardClient}
    (each : ∀ client item, Follows client (change client item)) (items : List α)
    (client : DashboardClient) : Follows client (items.foldl change client) := by
  induction items generalizing client with
  | nil => exact refl client
  | cons item rest ih => exact (each client item).trans (ih _)

end Follows

theorem closeCommand_follows (client : DashboardClient) (id : Nat) (pending : Pending String) :
    Follows client (client.closeCommand id pending) where
  statuses _ := .inl rfl
  requests other waits asked := by
    refine Eq.trans ?_ asked
    unfold DashboardClient.closeCommand at asked ⊢
    rw [getElem?_erase_number] at asked ⊢
    split at asked
    · cases asked
    · rename_i different
      rw [if_neg different]

theorem commandFails_follows (client : DashboardClient) (key message : String) :
    Follows client (client.commandStatus key (some (.error message))) where
  statuses other := by
    unfold commandStatus publish
    split
    · exact .inl rfl
    · rw [DashboardState.commands_commandStatus]
      split
      · exact .inr ⟨message, rfl⟩
      · exact .inl rfl
  requests id pending asked := by
    rwa [commandStatus_frame pendingCommands fun _ _ => rfl] at asked

theorem historyStatus_follows (client : DashboardClient) (request : HistoryRequest)
    (status : HistoryStatus) : Follows client (client.historyStatus request status) :=
  .of_eq (historyStatus_frame (fun client => client.state.commands) (fun _ _ _ _ => rfl) _ _ _)
    (historyStatus_frame pendingCommands (fun _ _ _ _ => rfl) _ _ _)

theorem healthChanged_follows (client : DashboardClient) (health : Health) :
    Follows client (client.healthChanged health) := by
  have shown (start : DashboardClient) (update : DashboardState → DashboardState)
      (commands : ∀ state, (update state).commands = state.commands) :
      Follows start (start.publish update) := by
    unfold publish
    split
    · exact .refl start
    · exact .of_eq (commands _) rfl
  refine Follows.trans ?_ (shown _ _ fun _ => rfl)
  split
  · exact .refl client
  · have each : ∀ (client : DashboardClient) entry,
      Follows client (client.interruptCommand entry) :=
      fun client entry => (closeCommand_follows client entry.1 entry.2).trans
        (commandFails_follows _ _ _)
    have interrupted : Follows client client.interruptCommands := Follows.foldl each _ client
    exact interrupted.trans (.of_eq
      (interruptHistories_frame (fun client => client.state.commands) (fun _ _ _ _ _ _ _ => rfl) _)
      (interruptHistories_frame pendingCommands (fun _ _ _ _ _ _ _ => rfl) _))

theorem report_follows (client : DashboardClient) (output : Output ServerMessage Request) :
    Follows client (client.report output) := by
  cases output with
  | health health => exact healthChanged_follows client health
  | _ => exact .refl client

theorem reports_follows (outputs : List (Output ServerMessage Request))
    (connection : ConnectionManager) (client : DashboardClient) :
    Follows client (outputs.foldl report { client with connection }) :=
  (Follows.of_eq rfl rfl : Follows client { client with connection }).trans
    (Follows.foldl report_follows outputs _)

theorem send_follows (reading : Reading) (message : Request) (client : DashboardClient) :
    Follows client (client.send reading message).1 :=
  reports_follows _ _ client

theorem requestHistory_follows (reading : Reading) (request : HistoryRequest)
    (client : DashboardClient) : Follows client (client.requestHistory reading request) := by
  unfold requestHistory
  have opened : Follows client (client.openHistory request) := .of_eq rfl rfl
  have sent := send_follows reading (historyMessage client.nextRequest request)
    (client.openHistory request)
  split
  · rename_i after result
    rw [result] at sent
    exact opened.trans sent
  · rename_i after outcome _ result
    rw [result] at sent
    have closed : Follows after (after.closeHistory client.nextRequest
        ⟨request, client.nextTimer⟩) := .of_eq rfl rfl
    exact (opened.trans sent).trans (closed.trans (historyStatus_follows _ _ _))

theorem pump_follows (reading : Reading) (rounds : Nat) (client : DashboardClient) :
    Follows client (pump reading rounds client) := by
  induction rounds generalizing client with
  | zero => exact .refl client
  | succ rounds ih =>
      unfold pump
      split
      · split
        · exact .refl client
        · rename_i request rest _
          have taken : Follows client { client with historyQueue := rest } := .of_eq rfl rfl
          exact taken.trans ((requestHistory_follows reading request _).trans (ih _))
      · exact .refl client

theorem pumpHistory_follows (reading : Reading) (client : DashboardClient) :
    Follows client (client.pumpHistory reading) :=
  pump_follows reading _ client

theorem queueHistory_follows (reading : Reading) (request : HistoryRequest)
    (client : DashboardClient) : Follows client (client.queueHistory reading request) := by
  unfold queueHistory
  split
  · exact .refl client
  · split
    · exact .refl client
    · refine Follows.trans ?_ (pumpHistory_follows reading _)
      exact (historyStatus_follows client request _).trans (.of_eq rfl rfl)

theorem historyAnswer_follows (reading : Reading) (requestId : Nat) (answers : HistoryRequest)
    (data : HistoryData) (error : Option String) (client : DashboardClient) :
    Follows client (client.historyAnswer reading requestId answers data error) := by
  unfold historyAnswer
  split
  · exact .refl client
  · split
    · refine Follows.trans ?_ (pumpHistory_follows reading _)
      have closed : Follows client (client.closeHistory requestId ‹Pending HistoryRequest›) :=
        .of_eq rfl rfl
      exact closed.trans (historyStatus_follows _ _ _)
    · exact .refl client

theorem expire_follows (reading : Reading) (timer : Nat) (client : DashboardClient) :
    Follows client (client.expire reading timer) := by
  unfold expire
  split
  · exact .refl client
  · rename_i callback _
    cases callback with
    | command key requestId =>
        exact (closeCommand_follows client requestId ⟨key, timer⟩).trans
          (commandFails_follows _ _ _)
    | history request requestId =>
        have closed : Follows client (client.closeHistory requestId ⟨request, timer⟩) :=
          .of_eq rfl rfl
        exact (closed.trans (historyStatus_follows _ _ _)).trans (pumpHistory_follows reading _)

theorem drive_follows (reading : Reading)
    {step : Step ConnectionManager (Output ServerMessage Request)}
    (internal : ∀ output ∈ (step client.connection).2, ConnectionManager.Internal output) :
    Follows client (client.drive reading step) := by
  unfold drive
  generalize step client.connection = result at internal
  dsimp only
  rw [hears_reports reading internal]
  exact reports_follows _ _ client

theorem resync_follows (reading : Reading) (client : DashboardClient) :
    Follows client (client.resync reading) := by
  unfold resync
  refine Follows.trans ?_ (send_follows reading .getState _)
  unfold publish
  split
  · exact .refl client
  · exact .of_eq rfl rfl

theorem pong_follows (reading : Reading) (id nonce clientTsMs : Nat) (client : DashboardClient) :
    Follows client (client.pong reading id nonce clientTsMs) := by
  unfold pong
  split
  · have heard : Follows client
        (client.drive reading (ConnectionManager.pongReceived reading id nonce clientTsMs)) := by
      rcases ConnectionManager.pongReceived_outputs reading id nonce clientTsMs
          client.connection with
        internal | ⟨_, quiet, internal, outputs⟩
      · exact drive_follows reading internal
      · unfold drive
        generalize (ConnectionManager.pongReceived reading id nonce clientTsMs client.connection :
          _ × List (Output ServerMessage Request)) = result at outputs
        obtain ⟨connection, emitted⟩ := result
        dsimp only at outputs ⊢
        rw [outputs, List.foldl_append, hears_reports reading internal]
        exact (reports_follows quiet connection client).trans (resync_follows reading _)
    exact heard.trans (drive_follows reading (ConnectionManager.internal_of_emits
      (ConnectionManager.emit_emits ConnectionManager.plain_internal) _))
  · exact .refl client

theorem commands_openCommand (running : client.destroyed = false) (key : String)
    (command : ControlCommand) (other : String) :
    (client.openCommand key command).state.commands[other]? =
      if key = other then some (.pending "Sending command…" command false)
      else client.state.commands[other]? := by
  unfold openCommand
  rw [commandStatus_of_running (by exact running)]
  exact DashboardState.commands_commandStatus _ _ _ _

theorem pendingCommands_openCommand (key : String) (command : ControlCommand) (other : Nat) :
    (client.openCommand key command).pendingCommands[other]? =
      if client.nextRequest = other then some ⟨key, client.nextTimer⟩
      else client.pendingCommands[other]? := by
  unfold openCommand
  rw [commandStatus_frame pendingCommands fun _ _ => rfl]
  exact getElem?_insert_number _ _ _ _

/-- A command that is not sent has failed. -/
theorem unsent_follows (running : client.destroyed = false) {after : DashboardClient}
    {key : String} {command : ControlCommand}
    (sent : Follows (client.openCommand key command) after)
    (stays : after.destroyed = false) (message : String) :
    Follows client
      ((after.closeCommand client.nextRequest ⟨key, client.nextTimer⟩).commandStatus key
        (some (.error message))) where
  statuses other := by
    rw [commandStatus_of_running (by exact stays)]
    simp only [DashboardState.commands_commandStatus]
    split
    · exact .inr ⟨message, rfl⟩
    · rename_i different
      have status := sent.statuses other
      rwa [commands_openCommand running, if_neg different] at status
  requests id pending asked := by
    rw [commandStatus_frame pendingCommands fun _ _ => rfl] at asked
    simp only [closeCommand, getElem?_erase_number] at asked
    split at asked
    · cases asked
    · rename_i different
      have before := sent.requests id pending asked
      rwa [pendingCommands_openCommand, if_neg different] at before

/-- A command that is submitted waits, or its status turns into an error. -/
theorem Kept.command_cases (kept : client.Kept) (reading : Reading) (key : String)
    (command : ControlCommand) : Follows client (client.command reading key command) ∨
      ¬ client.Pends key ∧ client.command reading key command = client.openCommand key command := by
  have running := kept.books.running
  unfold DashboardClient.command
  rw [running, if_neg nofun]
  split
  · exact .inl (.refl client)
  · rename_i free
    split
    · exact .inl (commandFails_follows _ _ _)
    · rename_i ready
      rw [Bool.not_eq_true', Bool.not_eq_false] at ready
      have follows := send_follows reading (.command client.nextRequest command)
        (client.openCommand key command)
      have sent := (kept.openCommand command ready free).send reading
        (.command client.nextRequest command)
      split
      · rename_i after result
        rw [result] at sent
        exact .inr ⟨free, sent.same nofun⟩
      · rename_i after outcome _ result
        rw [result] at follows sent
        exact .inl (unsent_follows running follows sent.books.running _)

/-- What can become of the statuses when something happens. -/
theorem Kept.step_cases (kept : client.Kept) (reading : Reading) {input : Input}
    (stays : input.closes = false) :
    Follows client (client.step reading input) ∨
    (∃ key command, input = .command key command ∧ ¬ client.Pends key ∧
      client.step reading input = client.openCommand key command) ∨
    ∃ id message, input = .connection (.received id (.message message)) ∧
      client.connection.listens id = true ∧
      client.step reading input = client.receive reading message := by
  cases input with
  | command key command =>
      rcases kept.command_cases reading key command with follows | ⟨free, same⟩
      · exact .inl follows
      · exact .inr (.inl ⟨key, command, rfl, free, same⟩)
  | loadHistory device => exact .inl (queueHistory_follows reading _ client)
  | loadPlugPowerHistory device => exact .inl (queueHistory_follows reading _ client)
  | loadHeatingEnergy => exact .inl (queueHistory_follows reading _ client)
  | expired timer => exact .inl (expire_follows reading timer client)
  | destroy => cases stays
  | connection input =>
      rcases step_connection reading input client with
        ⟨id, nonce, clientTsMs, same⟩ | ⟨id, message, received, listening, same⟩ | ⟨internal, same⟩
      · rw [same]
        exact .inl (pong_follows reading id nonce clientTsMs client)
      · exact .inr (.inr ⟨id, message, congrArg Input.connection received, listening, same⟩)
      · rw [same]
        exact .inl (drive_follows reading internal)

/-- The statuses after entities arrived. -/
def Confirms (before after : DashboardClient) (heard : ControlCommand → Option Bool) : Prop :=
  (∃ rooms plugs zones,
    (∀ command : ControlCommand, heard command = command.confirms rooms plugs zones) ∧
    ∀ key : String, after.state.commands[key]? =
      (before.state.commands[key]?).bind fun status => status.confirm rooms plugs zones) ∧
    after.pendingCommands = before.pendingCommands

/-- The status after the result of a command arrived. -/
structure Accepts (before after : DashboardClient) (id : Nat) (key : String)
    (command : ControlCommand) (confirmed : Bool) : Prop where
  asked : ∃ timer, before.pendingCommands[id]? = some ⟨key, timer⟩
  pending : ∃ message, before.state.commands[key]? = some (.pending message command confirmed)
  status : if confirmed then after.state.commands[key]? = none
    else ∃ message, after.state.commands[key]? = some (.accepted message command false)
  others : ∀ other : String, other ≠ key →
    after.state.commands[other]? = before.state.commands[other]?
  requests : ∀ (other : Nat) pending, after.pendingCommands[other]? = some pending →
    before.pendingCommands[other]? = some pending

end DashboardClient

/-- What a message says about what a command asked for. -/
def ServerMessage.confirms : ServerMessage → ControlCommand → Option Bool
  | .stateSnapshot snapshot, command =>
      command.confirms snapshot.rooms snapshot.plugs snapshot.heatingZones
  | .entity (.room data), command => command.confirms [data] [] []
  | .entity (.plug data), command => command.confirms [] [data] []
  | .entity (.heatingZone data), command => command.confirms [] [] [data]
  | _, _ => none

namespace DashboardClient

variable {client : DashboardClient}

theorem receiveEntity_cases (now : Nat) (update : EntityUpdate) (client : DashboardClient) :
    Follows client { client with state := client.state.receiveEntity now update } ∨
      Confirms client { client with state := client.state.receiveEntity now update }
        (ServerMessage.entity update).confirms := by
  unfold DashboardState.receiveEntity
  split
  · exact .inl (.refl client)
  · cases update with
    | room data =>
        exact .inr ⟨⟨_, _, _, fun _ => rfl, commands_confirmTargets client.state [data] [] []⟩, rfl⟩
    | plug data =>
        exact .inr ⟨⟨_, _, _, fun _ => rfl, commands_confirmTargets client.state [] [data] []⟩, rfl⟩
    | light data => exact .inl (.of_eq rfl rfl)
    | heatingZone data =>
        exact .inr ⟨⟨_, _, _, fun _ => rfl, commands_confirmTargets client.state [] [] [data]⟩, rfl⟩

theorem Kept.commandResult_cases (kept : client.Kept) (id : Nat) (error : Option String) :
    Follows client (client.commandResult id error) ∨
      error = none ∧ ∃ key command confirmed,
        Accepts client (client.commandResult id error) id key command confirmed := by
  unfold DashboardClient.commandResult
  cases asked : client.pendingCommands[id]? with
  | none => exact .inl (.refl client)
  | some pending =>
      obtain ⟨key, timer⟩ := pending
      have pends : client.Pends key := (kept.books.command.pending key).mpr ⟨id, timer, asked⟩
      have same : (client.closeCommand id ⟨key, timer⟩).state = client.state := rfl
      have running : (client.closeCommand id ⟨key, timer⟩).destroyed = false := kept.books.running
      have closed := closeCommand_follows client id ⟨key, timer⟩
      unfold Pends at pends
      dsimp only
      rw [same]
      cases shown : client.state.commands[key]? with
      | none =>
          rw [shown] at pends
          cases pends
      | some status =>
          rw [shown, Option.any_some] at pends
          cases status with
          | error message => cases pends
          | accepted message command confirmed => cases pends
          | pending message command confirmed =>
              dsimp only
              cases error with
              | some error => exact .inl (closed.trans (commandFails_follows _ _ _))
              | none =>
                  refine .inr ⟨rfl, key, command, confirmed, ⟨timer, asked⟩, ⟨message, shown⟩, ?_,
                    fun other different => ?_, fun other pending waits => ?_⟩
                  · rw [commandStatus_of_running running]
                    cases confirmed with
                    | true =>
                        exact (DashboardState.commands_commandStatus _ _ _ _).trans (if_pos rfl)
                    | false =>
                        exact ⟨_,
                          (DashboardState.commands_commandStatus _ _ _ _).trans (if_pos rfl)⟩
                  · rw [commandStatus_of_running running]
                    exact (DashboardState.commands_commandStatus _ _ _ _).trans
                      (if_neg (Ne.symm different))
                  · rw [commandStatus_frame pendingCommands fun _ _ => rfl] at waits
                    exact closed.requests other pending waits

/-- What a message makes of the statuses. -/
theorem Kept.receive_cases (kept : client.Kept) (reading : Reading) (message : ServerMessage) :
    Follows client (client.receive reading message) ∨
      Confirms client (client.receive reading message) message.confirms ∨
      ∃ id key command confirmed, message = .commandResult id none ∧
        Accepts client (client.receive reading message) id key command confirmed := by
  unfold DashboardClient.receive
  cases message with
  | stateSnapshot snapshot =>
      dsimp only
      rw [publish_of_running kept.books.running]
      exact .inr (.inl ⟨⟨_, _, _, fun _ => rfl, commands_confirmTargets client.state _ _ _⟩, rfl⟩)
  | entity update =>
      dsimp only
      rw [publish_of_running kept.books.running]
      rcases receiveEntity_cases reading.now update client with follows | confirms
      · exact .inl follows
      · exact .inr (.inl confirms)
  | commandResult id error =>
      rcases kept.commandResult_cases id error with
        follows | ⟨rfl, key, command, confirmed, accepts⟩
      · exact .inl follows
      · exact .inr (.inr ⟨id, key, command, confirmed, rfl, accepts⟩)
  | heatingEnergyHistory history => exact .inl (historyAnswer_follows reading _ _ _ _ client)
  | valveHistory history => exact .inl (historyAnswer_follows reading _ _ _ _ client)
  | plugPowerHistory history => exact .inl (historyAnswer_follows reading _ _ _ _ client)
  | eventLog => exact .inl (.refl client)
  | entityLog => exact .inl (.refl client)
  | topology => exact .inl (.refl client)

/-! ## Runs -/

/-- Something that happens to the client. -/
structure Moment where
  client : DashboardClient
  reading : Reading
  input : Input

namespace Moment

/-- The client afterwards. -/
def after (moment : Moment) : DashboardClient := moment.client.step moment.reading moment.input

/-- A command is submitted under a key, and waits under a number. -/
def Submits (moment : Moment) (key : String) (command : ControlCommand) (id : Nat) : Prop :=
  moment.input = .command key command ∧ moment.client.pendingCommands[id]? = none ∧
    ∃ timer, moment.after.pendingCommands[id]? = some ⟨key, timer⟩

/-- A message arrives on the connection in use. -/
def Hears (moment : Moment) (message : ServerMessage) : Prop :=
  ∃ id, moment.input = .connection (.received id (.message message)) ∧
    moment.client.connection.listens id = true

/-- Entities arrive that have what a command asked for. -/
def Shows (moment : Moment) (command : ControlCommand) : Prop :=
  ∃ message, moment.Hears message ∧ message.confirms command = some true

end Moment

/-- What has happened to a dashboard that was not closed. -/
inductive Runs : List Moment → DashboardClient → Prop
  | start (now : Nat) : Runs [] (.initial now)
  | step {history : List Moment} {client : DashboardClient} (runs : Runs history client)
      (reading : Reading) {input : Input} (stays : input.closes = false) :
      Runs (history ++ [⟨client, reading, input⟩]) (client.step reading input)

/-- A command was submitted under a key, and no other since. -/
def Submitted (history : List Moment) (key : String) (command : ControlCommand) (id : Nat)
    (since : List Moment) : Prop :=
  ∃ before submission, history = before ++ submission :: since ∧ submission.Submits key command id ∧
    ∀ moment ∈ since, ∀ other number, ¬ moment.Submits key other number

/-- What a status tells about the past. -/
def Traced (history : List Moment) (client : DashboardClient) (key : String) : CommandStatus → Prop
  | .error _ => True
  | .pending _ command confirmed => ∃ id since, Submitted history key command id since ∧
      (∃ timer, client.pendingCommands[id]? = some ⟨key, timer⟩) ∧
      (confirmed = true → ∃ moment ∈ since, moment.Shows command)
  | .accepted _ command confirmed => confirmed = false ∧ ∃ id since,
      Submitted history key command id since ∧
        ∃ moment ∈ since, moment.Hears (.commandResult id none)

/-- The tables agree with what is shown. -/
structure Bookkeeping (client : DashboardClient) : Prop where
  /-- A status is pending while exactly one entry with a running timer carries its key. -/
  pending : ∀ key, client.Pends key ↔ ∃! entry : Nat × Pending String,
    client.pendingCommands[entry.1]? = some entry.2 ∧ entry.2.what = key ∧
      client.timers[entry.2.timer]? = some (.command key entry.1)
  /-- The timer ends the wait. -/
  ends : ∀ (id : Nat) pending, client.pendingCommands[id]? = some pending → ∀ reading, ∃ message,
    (client.expire reading pending.timer).state.commands[pending.what]? = some (.error message)
  caught : client.uncaught = []
  few : client.pendingHistories.size ≤ historyConcurrency
  queued : client.historyQueue.Nodup
  once : ∀ (first second : Nat) one other, client.pendingHistories[first]? = some one →
    client.pendingHistories[second]? = some other → one.what = other.what → first = second
  apart : ∀ (id : Nat) pending, client.pendingHistories[id]? = some pending →
    pending.what ∉ client.historyQueue
  loading : ∀ request, client.Loads request ↔ request ∈ client.historyQueue ∨ client.Asked request
  full : client.historyQueue ≠ [] → client.pendingHistories.size = historyConcurrency
  /-- Without a connection in use that is alive, nothing waits. -/
  empty : ¬ client.connection.cast.InUse → client.Empty

theorem Kept.agrees (kept : client.Kept) : client.Bookkeeping where
  pending key := by
    rw [kept.books.command.pending]
    constructor
    · rintro ⟨id, timer, asked⟩
      refine ⟨(id, ⟨key, timer⟩), ⟨asked, rfl, ?_⟩, ?_⟩
      · exact (kept.books.timing.timed timer (.command key id)).mpr asked
      · rintro ⟨other, another, set⟩ ⟨waits, same, _⟩
        dsimp only at waits same
        subst same
        have own := kept.books.command.single other id another set timer waits asked
        subst own
        rw [asked] at waits
        cases waits
        rfl
    · rintro ⟨⟨id, another, timer⟩, ⟨asked, same, _⟩, _⟩
      dsimp only at asked same
      subst same
      exact ⟨id, timer, asked⟩
  ends id pending asked reading := by
    obtain ⟨key, timer⟩ := pending
    have set : client.timers[timer]? = some (.command key id) :=
      (kept.books.timing.timed timer (.command key id)).mpr asked
    refine ⟨"No acknowledgement. Check the reported state before trying again.", ?_⟩
    unfold DashboardClient.expire
    rw [set]
    simp only [giveUp]
    rw [commandStatus_of_running (by exact kept.books.running)]
    exact (DashboardState.commands_commandStatus _ _ _ _).trans (if_pos rfl)
  caught := kept.books.caught
  few := kept.books.history.few
  queued := kept.books.history.queued
  once := by
    rintro first second ⟨request, one⟩ ⟨another, other⟩ firstWaits secondWaits same
    dsimp only at same
    subst same
    exact kept.books.history.single first second request one other firstWaits secondWaits
  apart := by
    rintro id ⟨request, timer⟩ asked queued
    exact kept.books.history.apart request queued ⟨id, timer, asked⟩
  loading := kept.books.history.loading
  full := kept.full
  empty unused := kept.books.idle (Bool.eq_false_iff.mpr fun ready => unused (kept.used ready))

theorem kept_initial (now : Nat) : (initial now).Kept := by
  have nothing {α : Type} (id : Nat) : (∅ : NumberMap α)[id]? = none := TreeMap.getElem?_emptyc
  have empty : (initial now).Empty := ⟨nothing, nothing, rfl⟩
  have unstated : ∀ key : String, (initial now).state.commands[key]? = none :=
    fun _ => TreeMap.getElem?_emptyc
  refine .of_unready ?_ (fun suspended => Bool.noConfusion suspended) rfl
  refine
    { running := rfl
      caught := rfl
      timing :=
        { timed := fun timer callback => ?_
          timers := fun timer _ => nothing timer
          commands := fun id _ => nothing id
          histories := fun id _ => nothing id }
      command :=
        { pending := fun key => ?_
          single := fun first second key one other waits => ?_ }
      history :=
        { loading := fun request => ?_
          single := fun first second request one other waits => ?_
          queued := List.nodup_nil
          apart := fun request queued => absurd queued List.not_mem_nil
          few := Nat.zero_le _ }
      idle := fun _ => empty }
  · exact iff_of_false (by simp [initial]) (empty.not_waits callback timer)
  · rw [Pends, unstated]
    refine iff_of_false Bool.false_ne_true ?_
    rintro ⟨id, timer, asked⟩
    rw [empty.commands] at asked
    cases asked
  · rw [empty.commands] at waits
    cases waits
  · have unloaded : ¬ (initial now).Loads request := by
      unfold Loads initial
      cases request with
      | valve device => simp [DashboardState.existingHistory]
      | plug device => simp [DashboardState.existingHistory]
      | heatingEnergy => simp [DashboardState.existingHistory]
    refine iff_of_false unloaded ?_
    rintro (queued | ⟨id, timer, asked⟩)
    · cases queued
    · rw [empty.histories] at asked
      cases asked
  · rw [empty.histories] at waits
    cases waits

theorem Runs.kept {history : List Moment} (runs : Runs history client) : client.Kept := by
  induction runs with
  | start now => exact kept_initial now
  | step _ reading stays kept => exact kept.step reading stays

/-! ## What statuses tell about the past -/

theorem Submitted.append {history since : List Moment} {key : String} {command : ControlCommand}
    {id : Nat} (submitted : Submitted history key command id since) {moment : Moment}
    (other : ∀ other number, ¬ moment.Submits key other number) :
    Submitted (history ++ [moment]) key command id (since ++ [moment]) := by
  obtain ⟨before, submission, rfl, submits, alone⟩ := submitted
  refine ⟨before, submission, by rw [List.append_assoc, List.cons_append], submits, ?_⟩
  intro later inside
  rcases List.mem_append.mp inside with earlier | last
  · exact alone later earlier
  · rw [List.mem_singleton.mp last]
    exact other

/-- What was shown stays shown. -/
theorem exists_mem_append {since : List Moment} {moment : Moment} {holds : Moment → Prop}
    (found : ∃ moment ∈ since, holds moment) : ∃ other ∈ since ++ [moment], holds other := by
  obtain ⟨earlier, inside, shown⟩ := found
  exact ⟨earlier, List.mem_append_left _ inside, shown⟩

/-- Where no request is added, nothing is submitted. -/
theorem not_submits {moment : Moment} {key : String}
    (requests : ∀ (id : Nat) timer, moment.after.pendingCommands[id]? = some ⟨key, timer⟩ →
      moment.client.pendingCommands[id]? = some ⟨key, timer⟩)
    (other : ControlCommand) (number : Nat) : ¬ moment.Submits key other number := by
  rintro ⟨_, none, timer, asked⟩
  rw [requests number timer asked] at none
  cases none

/-- The request of a command stays while the command is pending. -/
theorem Kept.still_asked {after : DashboardClient} (kept : client.Kept) (then_ : after.Kept)
    {key : String} {id timer : Nat} (asked : client.pendingCommands[id]? = some ⟨key, timer⟩)
    (requests : ∀ (other : Nat) another, after.pendingCommands[other]? = some ⟨key, another⟩ →
      client.pendingCommands[other]? = some ⟨key, another⟩) (pends : after.Pends key) :
    ∃ timer, after.pendingCommands[id]? = some ⟨key, timer⟩ := by
  obtain ⟨other, another, waits⟩ := (then_.books.command.pending key).mp pends
  have same :=
    kept.books.command.single other id key another timer (requests other another waits) asked
  exact ⟨another, same ▸ waits⟩

/-- A status that stays keeps its past. -/
theorem Traced.stays {history : List Moment} {moment : Moment} {key : String}
    {status : CommandStatus} (traced : Traced history moment.client key status)
    (kept : moment.client.Kept) (then_ : moment.after.Kept)
    (stays : moment.after.state.commands[key]? = some status)
    (requests : ∀ (id : Nat) timer, moment.after.pendingCommands[id]? = some ⟨key, timer⟩ →
      moment.client.pendingCommands[id]? = some ⟨key, timer⟩) :
    Traced (history ++ [moment]) moment.after key status := by
  have alone := not_submits requests
  cases status with
  | error message => trivial
  | pending message command confirmed =>
      obtain ⟨id, since, submitted, ⟨timer, asked⟩, shown⟩ := traced
      have pends : moment.after.Pends key := by
        rw [Pends, stays]
        rfl
      exact ⟨id, since ++ [moment], submitted.append alone,
        kept.still_asked then_ asked requests pends, fun confirmed =>
          exists_mem_append (shown confirmed)⟩
  | accepted message command confirmed =>
      obtain ⟨unconfirmed, id, since, submitted, heard⟩ := traced
      exact ⟨unconfirmed, id, since ++ [moment], submitted.append alone, exists_mem_append heard⟩

/-- A command that is submitted has a pending status from then on. -/
theorem traced_submission {history : List Moment} {moment : Moment} {key : String}
    {command : ControlCommand} (kept : moment.client.Kept)
    (input : moment.input = .command key command)
    (opened : moment.after = moment.client.openCommand key command) (message : String) :
    Traced (history ++ [moment]) moment.after key (.pending message command false) := by
  have asked : moment.after.pendingCommands[moment.client.nextRequest]? =
      some ⟨key, moment.client.nextTimer⟩ := by
    rw [opened, pendingCommands_openCommand, if_pos rfl]
  refine ⟨moment.client.nextRequest, [], ⟨history, moment, rfl, ⟨input, ?_, _, asked⟩, ?_⟩,
    ⟨_, asked⟩, nofun⟩
  · exact kept.books.timing.commands _ le_rfl
  · exact fun other inside => absurd inside List.not_mem_nil

/-- A status that entities may have confirmed keeps its past. -/
theorem Traced.confirm {history : List Moment} {moment : Moment} {key : String}
    {message : ServerMessage} {status shown : CommandStatus} {rooms : List Room} {plugs : List Plug}
    {zones : List HeatingZone} (traced : Traced history moment.client key status)
    (heard : moment.Hears message)
    (confirms : ∀ command : ControlCommand, message.confirms command =
      command.confirms rooms plugs zones)
    (same : moment.after.pendingCommands = moment.client.pendingCommands)
    (status_eq : status.confirm rooms plugs zones = some shown) :
    Traced (history ++ [moment]) moment.after key shown := by
  have alone : ∀ other number, ¬ moment.Submits key other number :=
    not_submits fun id timer asked => by rwa [same] at asked
  cases status with
  | error message =>
      cases status_eq
      trivial
  | pending text command confirmed =>
      obtain ⟨id, since, submitted, asked, before⟩ := traced
      cases status_eq
      refine ⟨id, since ++ [moment], submitted.append alone, ?_, fun confirmed => ?_⟩
      · rw [same]
        exact asked
      · rw [← confirms] at confirmed
        cases told : message.confirms command with
        | none =>
            rw [told] at confirmed
            exact exists_mem_append (before confirmed)
        | some value =>
            rw [told, Option.getD_some] at confirmed
            subst confirmed
            exact ⟨moment, List.mem_append_right _ (List.mem_singleton_self _),
              message, heard, told⟩
  | accepted text command confirmed =>
      obtain ⟨unconfirmed, id, since, submitted, result⟩ := traced
      subst unconfirmed
      have unchanged : shown = .accepted text command false := by
        unfold CommandStatus.confirm at status_eq
        dsimp only at status_eq
        split at status_eq
        · cases status_eq
        · cases status_eq
          rfl
        · cases status_eq
          rfl
      rw [unchanged]
      exact ⟨rfl, id, since ++ [moment], submitted.append alone, exists_mem_append result⟩

/-- A command whose result arrived is accepted until entities confirm it. -/
theorem Traced.accept {history : List Moment} {moment : Moment} {key : String} {id : Nat}
    {command : ControlCommand} {text : String} {confirmed : Bool}
    (traced : Traced history moment.client key (.pending text command confirmed))
    (kept : moment.client.Kept) (heard : moment.Hears (.commandResult id none))
    (asked : ∃ timer, moment.client.pendingCommands[id]? = some ⟨key, timer⟩)
    (requests : ∀ (other : Nat) pending, moment.after.pendingCommands[other]? = some pending →
      moment.client.pendingCommands[other]? = some pending) :
    ∃ since, Submitted (history ++ [moment]) key command id since ∧
      (∃ moment ∈ since, moment.Hears (.commandResult id none)) ∧
      (confirmed = true → ∃ moment ∈ since, moment.Shows command) := by
  obtain ⟨number, since, submitted, ⟨timer, waits⟩, shown⟩ := traced
  obtain ⟨another, asked⟩ := asked
  have same : number = id :=
    kept.books.command.single number id key timer another waits asked
  subst same
  have alone : ∀ other number, ¬ moment.Submits key other number :=
    not_submits fun id timer => requests id ⟨key, timer⟩
  exact ⟨since ++ [moment], submitted.append alone,
    ⟨moment, List.mem_append_right _ (List.mem_singleton_self _), heard⟩,
    fun confirmed => exists_mem_append (shown confirmed)⟩

/-- Where statuses stay or turn into errors, they keep their past. -/
theorem Traced.follows {history : List Moment} {moment : Moment} {key : String}
    {status : CommandStatus} (kept : moment.client.Kept) (then_ : moment.after.Kept)
    (traced : ∀ status, moment.client.state.commands[key]? = some status →
      Traced history moment.client key status)
    (follows : Follows moment.client moment.after)
    (shown : moment.after.state.commands[key]? = some status) :
    Traced (history ++ [moment]) moment.after key status := by
  rcases follows.statuses key with same | ⟨message, failed⟩
  · exact (traced status (same ▸ shown)).stays kept then_ shown
      fun id timer => follows.requests id ⟨key, timer⟩
  · rw [failed] at shown
    cases shown
    trivial

theorem Runs.traced {history : List Moment} (runs : Runs history client) (key : String)
    {status : CommandStatus} (shown : client.state.commands[key]? = some status) :
    Traced history client key status := by
  induction runs generalizing status with
  | start now => exact absurd (TreeMap.getElem?_emptyc.symm.trans shown) nofun
  | @step history client before reading input stays ih =>
      have kept := before.kept
      have then_ : Kept (Moment.after ⟨client, reading, input⟩) := kept.step reading stays
      have shown : (Moment.after ⟨client, reading, input⟩).state.commands[key]? = some status :=
        shown
      rcases kept.step_cases reading stays with
        follows | ⟨other, command, submitted, free, opened⟩ |
          ⟨id, message, received, listening, heard⟩
      · exact Traced.follows kept then_ (fun _ => ih) follows shown
      · have running := kept.books.running
        by_cases same : other = key
        · subst same
          have status_eq := commands_openCommand running other command other
          rw [if_pos rfl, ← opened] at status_eq
          rw [Moment.after, status_eq] at shown
          cases shown
          exact @traced_submission history ⟨client, reading, input⟩ other command kept
            submitted opened _
        · have status_eq := commands_openCommand running other command key
          rw [if_neg same, ← opened] at status_eq
          refine (ih (status_eq.symm.trans shown)).stays kept then_ shown
            fun number timer asked => ?_
          rw [Moment.after, opened, pendingCommands_openCommand] at asked
          split at asked
          · cases asked
            exact absurd rfl same
          · exact asked
      · have hears : Moment.Hears ⟨client, reading, input⟩ message := ⟨id, received, listening⟩
        rcases kept.receive_cases reading message with
          follows | ⟨⟨rooms, plugs, zones, confirms, statuses⟩, requests⟩ |
          ⟨number, other, command, confirmed, result, accepts⟩
        · rw [← heard] at follows
          exact Traced.follows kept then_ (fun _ => ih) follows shown
        · rw [← heard] at statuses requests
          obtain ⟨old, was, status_eq⟩ :=
            Option.bind_eq_some_iff.mp ((statuses key).symm.trans shown)
          exact (ih was).confirm hears confirms requests status_eq
        · rw [← heard] at accepts
          subst result
          by_cases same : key = other
          · subst same
            obtain ⟨text, pending⟩ := accepts.pending
            have status_eq := accepts.status
            cases confirmed with
            | true =>
                have gone : (Moment.after ⟨client, reading, input⟩).state.commands[key]? = none :=
                  status_eq
                rw [gone] at shown
                cases shown
            | false =>
                obtain ⟨answer, accepted⟩ := status_eq
                have accepted : (Moment.after ⟨client, reading, input⟩).state.commands[key]? =
                    some (.accepted answer command false) := accepted
                rw [accepted] at shown
                cases shown
                obtain ⟨since, submitted, heardResult, _⟩ :=
                  (ih pending).accept kept hears accepts.asked accepts.requests
                exact ⟨rfl, number, since, submitted, heardResult⟩
          · exact (ih ((accepts.others key same).symm.trans shown)).stays kept then_ shown
              fun number timer => accepts.requests number ⟨key, timer⟩

/-- A status that goes away was accepted and confirmed since the command was submitted. -/
theorem Runs.forgets {history : List Moment} (runs : Runs history client) (reading : Reading)
    {input : Input} (stays : input.closes = false) {key : String} {status : CommandStatus}
    (shown : client.state.commands[key]? = some status)
    (gone : (client.step reading input).state.commands[key]? = none) :
    ∃ command id since, Submitted (history ++ [⟨client, reading, input⟩]) key command id since ∧
      (∃ moment ∈ since, moment.Hears (.commandResult id none)) ∧
      ∃ moment ∈ since, moment.Shows command := by
  have kept := runs.kept
  have traced : ∀ status, client.state.commands[key]? = some status →
      Traced history client key status := fun _ => runs.traced key
  rcases kept.step_cases reading stays with
    follows | ⟨other, command, submitted, free, opened⟩ | ⟨id, message, received, listening, heard⟩
  · rcases follows.statuses key with same | ⟨message, failed⟩
    · rw [gone, shown] at same
      cases same
    · rw [gone] at failed
      cases failed
  · rw [opened, commands_openCommand kept.books.running] at gone
    split at gone
    · cases gone
    · rw [shown] at gone
      cases gone
  · have hears : Moment.Hears ⟨client, reading, input⟩ message := ⟨id, received, listening⟩
    rw [heard] at gone
    rcases kept.receive_cases reading message with
      follows | ⟨⟨rooms, plugs, zones, confirms, statuses⟩, requests⟩ |
      ⟨number, other, command, confirmed, result, accepts⟩
    · rcases follows.statuses key with same | ⟨text, failed⟩
      · rw [gone, shown] at same
        cases same
      · rw [gone] at failed
        cases failed
    · rw [statuses, shown, Option.bind_some] at gone
      -- Only an accepted command that the entities confirm loses its status.
      cases status with
      | error text => cases gone
      | pending text command confirmed => cases gone
      | accepted text command confirmed =>
          obtain ⟨_, number, since, submitted, result⟩ := traced _ shown
          have told : command.confirms rooms plugs zones = some true := by
            unfold CommandStatus.confirm at gone
            dsimp only at gone
            split at gone
            · assumption
            · cases gone
            · cases gone
          have alone : ∀ other number,
              ¬ Moment.Submits ⟨client, reading, input⟩ key other number :=
            not_submits fun id timer asked => by
              change (client.step reading input).pendingCommands[id]? = _ at asked
              rwa [heard, requests] at asked
          exact ⟨command, number, since ++ [⟨client, reading, input⟩], submitted.append alone,
            exists_mem_append result, ⟨client, reading, input⟩,
            List.mem_append_right _ (List.mem_singleton_self _), message, hears,
            (confirms command).trans told⟩
    · subst result
      by_cases same : key = other
      · subst same
        obtain ⟨text, pending⟩ := accepts.pending
        have status_eq := accepts.status
        cases confirmed with
        | true =>
            have requests := accepts.requests
            rw [← heard] at requests
            obtain ⟨since, submitted, heardResult, shows⟩ :=
              @Traced.accept history ⟨client, reading, input⟩ key number command text true
                (traced _ pending) kept hears accepts.asked requests
            exact ⟨command, number, since, submitted, heardResult, shows rfl⟩
        | false =>
            obtain ⟨answer, accepted⟩ := status_eq
            rw [gone] at accepted
            cases accepted
      · rw [accepts.others key same, shown] at gone
        cases gone

/-- The bookkeeping of the dashboard: in every run the tables agree with what is shown, and a status
goes away without an error only when the result of its command and an update that confirms it have
arrived since it was submitted. -/
theorem Runs.bookkeeping {history : List Moment} (runs : Runs history client) :
    client.Bookkeeping ∧ ∀ reading input key status, Input.closes input = false →
      client.state.commands[key]? = some status →
      (client.step reading input).state.commands[key]? = none →
      ∃ command id since, Submitted (history ++ [⟨client, reading, input⟩]) key command id since ∧
        (∃ moment ∈ since, moment.Hears (.commandResult id none)) ∧
        ∃ moment ∈ since, moment.Shows command :=
  ⟨runs.kept.agrees, fun reading _ _ _ stays shown gone => runs.forgets reading stays shown gone⟩

/-- Let things happen one after the other. -/
def play (reading : Reading) : List Input → DashboardClient → List Moment × DashboardClient
  | [], client => ([], client)
  | input :: rest, client =>
      let later := play reading rest (client.step reading input)
      (⟨client, reading, input⟩ :: later.1, later.2)

theorem Runs.play {history : List Moment} (runs : Runs history client) (reading : Reading)
    {inputs : List Input} (stay : inputs.all (!·.closes) = true) :
    Runs (history ++ (DashboardClient.play reading inputs client).1)
      (DashboardClient.play reading inputs client).2 := by
  induction inputs generalizing history client with
  | nil => rwa [DashboardClient.play, List.append_nil]
  | cons input rest ih =>
      rw [List.all_cons, Bool.and_eq_true, Bool.not_eq_true'] at stay
      have continued := ih (runs.step reading stay.1) stay.2
      rwa [List.append_assoc, List.singleton_append] at continued

/-- A study whose motion control is on. -/
def study : Room :=
  { name := "study", target := none, actual := none, targetValue := none, actualValue := none
    motionEnabled := true, motionRules := [], schedule := ⟨[], false⟩, switchSteps := []
    timedActions := [] }

/-- A moment of a page in front, where every socket opens. -/
def calm : Reading := ⟨0, true, true, fun _ => true⟩

/-- The dashboard connects, and motion control is switched on. -/
def switchedOn : List Input :=
  [.connection .start, .connection (.advance 0 .opened), .connection (.opened 0),
    .connection (.received 0 (.pong 1 0)),
    .connection (.received 0 (.message (.stateSnapshot ⟨[], [], [], []⟩))),
    .command "motion" (.setMotionEnabled "study" true),
    .connection (.received 0 (.message (.commandResult 0 none)))]

/-- The status of the command goes away with the update that shows the study. -/
theorem Runs.bookkeeping_study :
    ∃ (history : List Moment) (client : DashboardClient) (input : Input),
    Runs history client ∧ client.Bookkeeping ∧
      (client.state.commands["motion"]?).isSome = true ∧
      (client.step calm input).state.commands["motion"]? = none ∧
      ∃ command id since, Submitted (history ++ [⟨client, calm, input⟩]) "motion" command id since ∧
        (∃ moment ∈ since, moment.Hears (.commandResult id none)) ∧
        ∃ moment ∈ since, moment.Shows command := by
  have stay : switchedOn.all (!·.closes) = true := by decide
  have runs := (Runs.start 0).play calm stay
  have shown :
      ((DashboardClient.play calm switchedOn (initial 0)).2.state.commands["motion"]?).isSome =
      true := by decide +kernel
  have gone : ((DashboardClient.play calm switchedOn (initial 0)).2.step calm
      (.connection (.received 0 (.message (.entity (.room study)))))).state.commands["motion"]? =
        none := by decide +kernel
  obtain ⟨status, present⟩ := Option.isSome_iff_exists.mp shown
  obtain ⟨books, forgets⟩ := Runs.bookkeeping runs
  exact ⟨_, _, _, runs, books, shown, gone, forgets calm _ "motion" status rfl present gone⟩

end DashboardClient

end MqttController.Frontend
