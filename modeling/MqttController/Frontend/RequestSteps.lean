import MqttController.Frontend.ConnectionOutputs
import MqttController.Frontend.ConnectionReports
import MqttController.Frontend.Requests

/-!
# What happens to open requests

Commands, histories, messages, timeouts and reports about the connections keep the books of the open
requests, and nothing waits once no connection in use is alive.
-/

namespace MqttController.Frontend

open Std Emission

namespace DashboardClient

variable {client : DashboardClient}

/-! ## Reports about the connections -/

theorem commandStatus_frame {α : Type} (part : DashboardClient → α)
    (frame : ∀ (client : DashboardClient) commands,
      part { client with state := { client.state with commands } } = part client)
    (client : DashboardClient) (key : String) (status : Option CommandStatus) :
    part (client.commandStatus key status) = part client := by
  unfold commandStatus publish
  split
  · rfl
  · exact frame client _

theorem historyStatus_frame {α : Type} (part : DashboardClient → α)
    (frame : ∀ (client : DashboardClient) histories plugHistories heatingEnergy, part { client with
      state := { client.state with histories, plugHistories, heatingEnergy } } = part client)
    (client : DashboardClient) (request : HistoryRequest) (status : HistoryStatus) :
    part (client.historyStatus request status) = part client := by
  unfold historyStatus publish
  split
  · rfl
  · cases request with
    | valve device => exact frame client _ _ _
    | plug device => exact frame client _ _ _
    | heatingEnergy => exact frame client _ _ _

/-- A command that waits fails, as its connection is lost. -/
def interruptCommand (client : DashboardClient) (entry : Nat × Pending String) : DashboardClient :=
  (client.closeCommand entry.1 entry.2).commandStatus entry.2.what
    (some (.error outcomeUnknown))

/-- A request for a history that waits fails, as its connection is lost. -/
def interruptHistory (client : DashboardClient) (entry : Nat × Pending HistoryRequest) :
    DashboardClient :=
  (client.closeHistory entry.1 entry.2).historyFails entry.2.what
    "History will refresh when the connection recovers."

theorem interruptCommand_frame {α : Type} (part : DashboardClient → α)
    (frame : ∀ (client : DashboardClient) timers pendingCommands commands, part { client with
      timers, pendingCommands, state := { client.state with commands } } = part client)
    (client : DashboardClient) (entry : Nat × Pending String) :
    part (client.interruptCommand entry) = part client :=
  (commandStatus_frame part
    (fun client commands => frame client client.timers client.pendingCommands commands)
    _ _ _).trans (frame client _ _ client.state.commands)

theorem Books.interruptCommand (books : client.Books) {entry : Nat × Pending String}
    (asked : client.pendingCommands[entry.1]? = some entry.2) :
    (client.interruptCommand entry).Books := by
  have settled : (some (CommandStatus.error outcomeUnknown)).any (·.isPending) = false := rfl
  exact books.settleCommand asked settled

theorem Books.interruptHistory (books : client.Books) {entry : Nat × Pending HistoryRequest}
    (asked : client.pendingHistories[entry.1]? = some entry.2) :
    (client.interruptHistory entry).Books :=
  books.settleHistory asked rfl

theorem pendingCommands_interruptCommand (client : DashboardClient) (entry : Nat × Pending String) :
    (client.interruptCommand entry).pendingCommands = client.pendingCommands.erase entry.1 :=
  commandStatus_frame pendingCommands (fun _ _ => rfl) _ _ _

theorem pendingHistories_interruptHistory (client : DashboardClient)
    (entry : Nat × Pending HistoryRequest) :
    (client.interruptHistory entry).pendingHistories = client.pendingHistories.erase entry.1 :=
  historyStatus_frame pendingHistories (fun _ _ _ _ => rfl) _ _ _

/-- After all listed requests were erased, those that were not listed are left. -/
theorem foldl_interrupt {α : Type} (table : DashboardClient → NumberMap (Pending α))
    (interrupt : DashboardClient → Nat × Pending α → DashboardClient)
    (erases : ∀ client entry, table (interrupt client entry) = (table client).erase entry.1)
    (keeps : ∀ (client : DashboardClient) entry, client.Books →
      (table client)[entry.1]? = some entry.2 → (interrupt client entry).Books)
    (entries : List (Nat × Pending α)) (distinct : (entries.map Prod.fst).Nodup)
    (listed : ∀ entry ∈ entries, (table client)[entry.1]? = some entry.2) (books : client.Books) :
    (entries.foldl interrupt client).Books ∧ ∀ (id : Nat),
      (table (entries.foldl interrupt client))[id]? =
        if id ∈ entries.map Prod.fst then none else (table client)[id]? := by
  induction entries generalizing client with
  | nil => exact ⟨books, fun _ => rfl⟩
  | cons entry rest ih =>
      rw [List.map_cons, List.nodup_cons] at distinct
      have others : ∀ other ∈ rest, (table (interrupt client entry))[other.1]? = some other.2 := by
        intro other inside
        rw [erases, getElem?_erase_number, if_neg]
        · exact listed other (List.mem_cons_of_mem _ inside)
        · intro same
          exact distinct.1 (same ▸ List.mem_map_of_mem inside)
      obtain ⟨kept, left⟩ := ih distinct.2 others
        (keeps client entry books (listed entry List.mem_cons_self))
      refine ⟨kept, fun id => ?_⟩
      rw [List.foldl_cons, left, erases, getElem?_erase_number, List.map_cons]
      by_cases first : id = entry.1
      · simp [first]
      · rw [if_neg (Ne.symm first)]
        simp only [List.mem_cons, first, false_or]

/-- Every command that waits is settled when the connection in use is lost. -/
theorem Books.interruptCommands (books : client.Books) :
    client.interruptCommands.Books ∧
      ∀ (id : Nat), client.interruptCommands.pendingCommands[id]? = none := by
  obtain ⟨kept, left⟩ := foldl_interrupt pendingCommands DashboardClient.interruptCommand
    pendingCommands_interruptCommand (fun _ _ books asked => books.interruptCommand asked)
    client.pendingCommands.toList
    (OrderedMap.nodup_keys _)
    (fun entry inside => TreeMap.mem_toList_iff_getElem?_eq_some.mp inside) books
  refine ⟨kept, fun id => (left id).trans ?_⟩
  split
  · rfl
  · rename_i unlisted
    cases found : client.pendingCommands[id]? with
    | none => rfl
    | some pending =>
        exact absurd (List.mem_map_of_mem (TreeMap.mem_toList_iff_getElem?_eq_some.mpr found))
          unlisted

/-- Each request of the queue fails, as the connection is lost. -/
def dropHistory (client : DashboardClient) (request : HistoryRequest) : DashboardClient :=
  client.historyFails request "Waiting for connection"

/-- The first request of the queue is dropped. -/
theorem Books.drop (books : client.Books) {request : HistoryRequest} {rest : List HistoryRequest}
    (queue : client.historyQueue = request :: rest) :
    Books { client.dropHistory request with historyQueue := rest } := by
  unfold dropHistory historyFails
  rw [historyStatus_of_running books.running]
  have once := books.history.queued
  rw [queue, List.nodup_cons] at once
  refine
    { running := books.running
      caught := books.caught
      timing := ⟨books.timing.timed, books.timing.timers, books.timing.commands,
        books.timing.histories⟩
      command := books.command.congr (DashboardState.commands_historyStatus _ _ _) rfl
      history :=
        { loading := fun other => ?_
          single := books.history.single
          queued := once.2
          apart := fun other queued =>
            books.history.apart other (queue ▸ List.mem_cons_of_mem _ queued)
          few := books.history.few }
      idle := fun unready => ?_ }
  · simp only [Loads, DashboardState.existingHistory_historyStatus]
    split
    · rename_i same
      subst same
      refine iff_of_false Bool.false_ne_true ?_
      rintro (queued | asked)
      · exact once.1 queued
      · exact books.history.apart request (queue ▸ List.mem_cons_self) asked
    · rename_i different
      refine (books.history.loading other).trans ?_
      rw [queue, List.mem_cons, or_iff_right (Ne.symm different)]
      rfl
  · have empty := books.idle (by rwa [DashboardState.ready_historyStatus] at unready)
    have none := empty.queue
    rw [queue] at none
    cases none

theorem historyFails_queue (client : DashboardClient) (request : HistoryRequest) (error : String)
    (queue : List HistoryRequest) :
    historyFails { client with historyQueue := queue } request error =
      { client.historyFails request error with historyQueue := queue } := by
  unfold historyFails historyStatus publish
  dsimp only
  split
  · rfl
  · rfl

/-- A history is not loaded, and its timer stops. -/
def failHistory (client : DashboardClient) (entry : Nat × Pending HistoryRequest) :
    DashboardClient :=
  (client.cancel entry.2.timer).historyFails entry.2.what
    "History will refresh when the connection recovers."

/-- Forget all requests for histories. -/
def forgetHistories (client : DashboardClient) : DashboardClient :=
  { client with pendingHistories := ∅ }

theorem failHistory_forgetHistories (client : DashboardClient)
    (entry : Nat × Pending HistoryRequest) :
    failHistory client.forgetHistories entry = (client.failHistory entry).forgetHistories := by
  unfold failHistory forgetHistories historyFails historyStatus publish cancel
  dsimp only
  split
  · rfl
  · rfl

/-- It does not matter whether requests are forgotten one by one or all at the end. -/
theorem forgetHistories_interruptHistory (client : DashboardClient)
    (entry : Nat × Pending HistoryRequest) :
    failHistory client.forgetHistories entry = (client.interruptHistory entry).forgetHistories := by
  unfold failHistory forgetHistories interruptHistory closeHistory historyFails historyStatus
    publish cancel
  dsimp only
  split
  · rfl
  · rfl

/-- All requests of the queue are dropped. -/
theorem Books.dropAll (queue : List HistoryRequest) {client : DashboardClient}
    (queued : client.historyQueue = queue) (books : client.Books) :
    Books { queue.foldl dropHistory client with historyQueue := [] } := by
  induction queue generalizing client with
  | nil =>
      rw [List.foldl_nil, ← queued]
      exact books
  | cons request rest ih =>
      have dropped := ih rfl (books.drop queued)
      have same (start : DashboardClient) (left : List HistoryRequest) :
          ({ rest.foldl dropHistory { start with historyQueue := left } with historyQueue := [] } :
            DashboardClient) = { rest.foldl dropHistory start with historyQueue := [] } := by
        have commutes : ∀ (client : DashboardClient) request,
            dropHistory { client with historyQueue := left } request =
              { client.dropHistory request with historyQueue := left } :=
          fun client request => historyFails_queue client request _ left
        have kept : rest.foldl dropHistory { start with historyQueue := left } =
            { rest.foldl dropHistory start with historyQueue := left } :=
          List.foldl_hom (fun client : DashboardClient => { client with historyQueue := left })
            commutes
        rw [kept]
      rw [same] at dropped
      exact dropped

/-- A table without requests is as good as an empty one. -/
theorem Books.forget (books : client.Books)
    (none : ∀ (id : Nat), client.pendingHistories[id]? = none) :
    client.forgetHistories.Books := by
  have same : ∀ (id : Nat), client.forgetHistories.pendingHistories[id]? =
      client.pendingHistories[id]? := fun id => TreeMap.getElem?_emptyc.trans (none id).symm
  have waits : ∀ callback timer, client.forgetHistories.Waits callback timer ↔
      client.Waits callback timer := by
    intro callback timer
    cases callback with
    | command key id => exact Iff.rfl
    | history request id =>
        simp only [Waits]
        rw [same]
  have asks : ∀ request, client.forgetHistories.Asked request ↔
      client.Asked request := by
    intro request
    unfold Asked
    simp only [same]
  exact
    { running := books.running
      caught := books.caught
      timing :=
        { timed := fun timer callback => (books.timing.timed timer callback).trans (waits _ _).symm
          timers := books.timing.timers
          commands := books.timing.commands
          histories := fun _ _ => TreeMap.getElem?_emptyc }
      command := books.command.congr rfl rfl
      history :=
        { loading := fun request => (books.history.loading request).trans
            (or_congr_right (asks request).symm)
          single := fun first second request one other waiting => by
            cases TreeMap.getElem?_emptyc.symm.trans waiting
          queued := books.history.queued
          apart := fun request queued asked =>
            books.history.apart request queued ((asks request).mp asked)
          few := Nat.zero_le _ }
      idle := fun unready =>
        have empty := books.idle unready
        ⟨empty.commands, fun _ => TreeMap.getElem?_emptyc, empty.queue⟩ }

/-- Every request for a history is settled when the connection in use is lost. -/
theorem Books.interruptHistories (books : client.Books) :
    client.interruptHistories.Books ∧
      (∀ (id : Nat), client.interruptHistories.pendingHistories[id]? = none) ∧
      client.interruptHistories.historyQueue = [] := by
  obtain ⟨kept, left⟩ := foldl_interrupt pendingHistories DashboardClient.interruptHistory
    pendingHistories_interruptHistory (fun _ _ books asked => books.interruptHistory asked)
    client.pendingHistories.toList (OrderedMap.nodup_keys _)
    (fun entry inside => TreeMap.mem_toList_iff_getElem?_eq_some.mp inside) books
  have emptied : (client.pendingHistories.toList.foldl failHistory client).forgetHistories =
      (client.pendingHistories.toList.foldl DashboardClient.interruptHistory
        client).forgetHistories :=
    (List.foldl_hom forgetHistories failHistory_forgetHistories).symm.trans
      (List.foldl_hom forgetHistories forgetHistories_interruptHistory)
  generalize client.pendingHistories.toList.foldl DashboardClient.interruptHistory client =
    erased at kept left emptied
  have unasked : ∀ (id : Nat), erased.pendingHistories[id]? = none := by
    intro id
    rw [left]
    split
    · rfl
    · rename_i unlisted
      cases found : client.pendingHistories[id]? with
      | none => rfl
      | some pending =>
          have listed := TreeMap.mem_toList_iff_getElem?_eq_some.mpr found
          exact absurd (List.mem_map_of_mem listed) unlisted
  have shape : client.interruptHistories =
      { erased.historyQueue.foldl dropHistory erased.forgetHistories with historyQueue := [] } := by
    have drops : ∀ start : DashboardClient, start = erased.forgetHistories →
        ({ start.historyQueue.foldl dropHistory start with historyQueue := [] } : DashboardClient) =
          { erased.historyQueue.foldl dropHistory erased.forgetHistories with
            historyQueue := [] } := by
      intro start same
      rw [same]
      rfl
    exact drops _ emptied
  have untouched : (erased.historyQueue.foldl dropHistory erased.forgetHistories).pendingHistories =
      ∅ :=
    foldl_frame pendingHistories dropHistory
      (fun client request => historyStatus_frame pendingHistories (fun _ _ _ _ => rfl) _ _ _) _ _
  rw [shape]
  refine ⟨(kept.forget unasked).dropAll erased.historyQueue rfl, fun id => ?_, rfl⟩
  exact (congrArg (fun table : NumberMap (Pending HistoryRequest) => table[id]?) untouched).trans
    TreeMap.getElem?_emptyc

/-- Requests are only held back while as many wait as may. -/
def Full (client : DashboardClient) : Prop :=
  client.historyQueue ≠ [] → client.pendingHistories.size = historyConcurrency

theorem Empty.full (empty : client.Empty) : client.Full := fun queued => absurd empty.queue queued

/-- The client was told about the connections, perhaps that none in use is alive. -/
structure Reported (before after : DashboardClient) (lost : Prop) : Prop where
  books : after.Books
  connection : after.connection = before.connection
  ready : after.state.ready = true → before.state.ready = true ∧ ¬ lost
  full : before.Full → after.Full

theorem interruptCommands_frame {α : Type} (part : DashboardClient → α)
    (frame : ∀ (client : DashboardClient) timers pendingCommands commands, part { client with
      timers, pendingCommands, state := { client.state with commands } } = part client)
    (client : DashboardClient) : part client.interruptCommands = part client :=
  foldl_frame part DashboardClient.interruptCommand (interruptCommand_frame part frame) _ client

theorem interruptHistories_frame {α : Type} (part : DashboardClient → α)
    (frame : ∀ (client : DashboardClient) timers pendingHistories historyQueue histories
      plugHistories heatingEnergy, part { client with
        timers, pendingHistories, historyQueue
        state := { client.state with histories, plugHistories, heatingEnergy } } = part client)
    (client : DashboardClient) : part client.interruptHistories = part client := by
  have fails : ∀ (client : DashboardClient) request error,
      part (client.historyFails request error) = part client := fun client request error =>
    historyStatus_frame part (fun client histories plugHistories heatingEnergy =>
      frame client client.timers client.pendingHistories client.historyQueue histories
        plugHistories heatingEnergy) client request _
  have stops : ∀ (client : DashboardClient) timer, part (client.cancel timer) = part client :=
    fun client timer => frame client _ client.pendingHistories client.historyQueue
      client.state.histories client.state.plugHistories client.state.heatingEnergy
  have failed : part (client.pendingHistories.toList.foldl failHistory client) = part client :=
    foldl_frame part failHistory (fun client entry => (fails _ _ _).trans (stops _ _)) _ client
  have dropped : ∀ (start : DashboardClient) (queue : List HistoryRequest),
      part { queue.foldl dropHistory start.forgetHistories with historyQueue := [] } =
        part start := by
    intro start queue
    have kept : part (queue.foldl dropHistory start.forgetHistories) = part start.forgetHistories :=
      foldl_frame part dropHistory (fun client request => fails _ _ _) queue _
    have emptied : part start.forgetHistories = part start :=
      frame start start.timers _ start.historyQueue start.state.histories
        start.state.plugHistories start.state.heatingEnergy
    generalize queue.foldl dropHistory start.forgetHistories = last at kept
    exact (frame last last.timers last.pendingHistories [] last.state.histories
      last.state.plugHistories last.state.heatingEnergy).trans (kept.trans emptied)
  exact (dropped _ _).trans failed

theorem Books.healthChanged (books : client.Books) (health : Health) :
    Reported client (client.healthChanged health) (health.alive = false) ∧
      (health.alive = false → (client.healthChanged health).Empty) := by
  unfold DashboardClient.healthChanged
  cases alive : health.alive with
  | true =>
      rw [if_pos rfl, publish_of_running books.running]
      refine ⟨⟨?_, rfl, fun ready => ⟨ready, nofun⟩, fun full => full⟩, nofun⟩
      exact
        { running := books.running
          caught := books.caught
          timing := ⟨books.timing.timed, books.timing.timers, books.timing.commands,
            books.timing.histories⟩
          command := books.command.congr rfl rfl
          history := books.history.congr (fun request => by cases request <;> rfl) rfl rfl
          idle := fun unready =>
            have empty := books.idle unready
            ⟨empty.commands, empty.histories, empty.queue⟩ }
  | false =>
      obtain ⟨commandBooks, unanswered⟩ := books.interruptCommands
      obtain ⟨kept, unasked, queue⟩ := commandBooks.interruptHistories
      have same : client.interruptCommands.interruptHistories.connection = client.connection :=
        (interruptHistories_frame connection (fun _ _ _ _ _ _ _ => rfl) _).trans
          (interruptCommands_frame connection (fun _ _ _ _ => rfl) _)
      have empty : client.interruptCommands.interruptHistories.Empty := by
        refine ⟨fun id => ?_, unasked, queue⟩
        rw [interruptHistories_frame pendingCommands fun _ _ _ _ _ _ _ => rfl]
        exact unanswered id
      generalize client.interruptCommands.interruptHistories = interrupted at kept same empty
      rw [if_neg nofun, publish_of_running kept.running]
      have empties : Empty { interrupted with
          state := { interrupted.state with health, ready := false && interrupted.state.ready } } :=
        ⟨empty.commands, empty.histories, empty.queue⟩
      refine ⟨⟨?_, same, nofun, fun _ => empties.full⟩, fun _ => empties⟩
      exact
        { running := kept.running
          caught := kept.caught
          timing := ⟨kept.timing.timed, kept.timing.timers, kept.timing.commands,
            kept.timing.histories⟩
          command := kept.command.congr rfl rfl
          history := kept.history.congr (fun request => by cases request <;> rfl) rfl rfl
          idle := fun _ => empties }

theorem Books.report (books : client.Books) (output : Output ServerMessage Request) :
    Reported client (client.report output) (ConnectionManager.Tells [output]) := by
  have silent (quiet : ∀ health, output ≠ .health health) : ¬ ConnectionManager.Tells [output] := by
    rintro ⟨health, inside, _⟩
    exact quiet health (List.mem_singleton.mp inside).symm
  cases output with
  | health health =>
      have reported := (books.healthChanged health).1
      refine ⟨reported.books, reported.connection, fun ready => ?_, reported.full⟩
      obtain ⟨before, told⟩ := reported.ready ready
      refine ⟨before, ?_⟩
      rintro ⟨other, inside, dead⟩
      cases List.mem_singleton.mp inside
      exact told dead
  | deliver id message => exact ⟨books, rfl, fun ready => ⟨ready, silent nofun⟩, fun full => full⟩
  | active id => exact ⟨books, rfl, fun ready => ⟨ready, silent nofun⟩, fun full => full⟩
  | openSocket id => exact ⟨books, rfl, fun ready => ⟨ready, silent nofun⟩, fun full => full⟩
  | send id message => exact ⟨books, rfl, fun ready => ⟨ready, silent nofun⟩, fun full => full⟩
  | closeSocket id => exact ⟨books, rfl, fun ready => ⟨ready, silent nofun⟩, fun full => full⟩

theorem Books.reports (outputs : List (Output ServerMessage Request)) {client : DashboardClient}
    (books : client.Books) :
    Reported client (outputs.foldl DashboardClient.report client)
      (ConnectionManager.Tells outputs) := by
  induction outputs generalizing client with
  | nil =>
      refine ⟨books, rfl, fun ready => ⟨ready, ?_⟩, id⟩
      rintro ⟨health, inside, _⟩
      cases inside
  | cons output rest ih =>
      have first := books.report output
      have others := ih first.books
      refine ⟨others.books, others.connection.trans first.connection, fun ready => ?_,
        fun full => others.full (first.full full)⟩
      obtain ⟨middle, untold⟩ := others.ready ready
      obtain ⟨before, quiet⟩ := first.ready middle
      refine ⟨before, ?_⟩
      rintro ⟨health, inside, dead⟩
      rcases List.mem_cons.mp inside with same | later
      · exact quiet ⟨health, List.mem_singleton.mpr same, dead⟩
      · exact untold ⟨health, later, dead⟩

end DashboardClient

namespace ConnectionManager

variable {μ κ : Type} {manager : ConnectionManager}

/-- An output that only the application's view of the connections depends on. -/
def Internal : Output μ κ → Prop
  | .deliver .. | .active _ => False
  | _ => True

theorem plain_internal : Plain (@Internal μ κ) where
  health _ := trivial
  ping _ _ _ := trivial
  closeSocket _ := trivial

/-- A connection that is lost is not in use. -/
theorem die_activeId (reading : Reading) {id code : Nat} {connection : Connection}
    (known : manager.connections[id]? = some connection) (live : connection.isLive = true)
    (running : manager.destroyed = false) (active : manager.activeId = some id) :
    (die reading id code manager : _ × List (Output μ κ)).1.activeId = none := by
  unfold die
  rw [known]
  dsimp only
  have stays : (manager.destroyed || !connection.isLive) = false := by rw [running, live]; rfl
  rw [stays, if_neg nofun, if_pos active, andThen_fst, andThen_fst, emit_fst]
  have gone : (retire reading id { manager with activeId := none } :
      _ × List (Output μ κ)).1.activeId = none :=
    retire_frame activeId (fun _ _ _ => rfl) reading id _
  split
  · exact (retireAll_frame activeId (fun _ _ _ => rfl) reading _ _).trans
      (cancelRetry_frame activeId (fun _ _ _ => rfl) _)
  · split
    · exact gone
    · exact (scheduleRetry_frame activeId (fun _ _ _ _ _ _ => rfl) reading _).trans gone

end ConnectionManager

namespace DashboardClient

variable {client : DashboardClient}

/-- The books do not depend on the manager. -/
theorem Books.connected (books : client.Books) (connection : ConnectionManager) :
    Books { client with connection } where
  running := books.running
  caught := books.caught
  timing := ⟨books.timing.timed, books.timing.timers, books.timing.commands, books.timing.histories⟩
  command := books.command.congr rfl rfl
  history := books.history.congr (fun _ => rfl) rfl rfl
  idle unready :=
    have empty := books.idle unready
    ⟨empty.commands, empty.histories, empty.queue⟩

/-- What became of sending; a failure ends the use of the connection. -/
structure Sent (before : DashboardClient)
    (result : DashboardClient × ConnectionManager.SendResult) : Prop where
  same : result.2 ≠ .failed → result.1 = before
  books : result.1.Books
  unready : result.2 = .failed → result.1.state.ready = false
  rests : result.1.connection.Rests

theorem Books.send (books : client.Books)
    (used : client.state.ready = true → client.connection.cast.InUse)
    (rests : client.connection.Rests) (reading : Reading) (message : Request) :
    Sent client (client.send reading message) := by
  have unchanged : ∀ result, Sent client (client, result) ∨ result = .failed := by
    intro result
    by_cases failed : result = .failed
    · exact .inr failed
    · exact .inl ⟨fun _ => rfl, books, fun same => absurd same failed, rests⟩
  unfold DashboardClient.send ConnectionManager.send
  cases active : client.connection.activeId with
  | none => exact (unchanged .notReady).resolve_right nofun
  | some id =>
      cases known : client.connection.connections[id]? with
      | none =>
          simp only [known]
          exact (unchanged .notReady).resolve_right nofun
      | some connection =>
          simp only [known]
          split
          · exact (unchanged .notReady).resolve_right nofun
          · rename_i ready
            simp only [Bool.or_eq_true, not_or, bne_iff_ne, ne_eq, not_not, Bool.not_eq_true]
              at ready
            obtain ⟨⟨alive, _⟩, running⟩ := ready
            cases reading.sends id with
            | true =>
                rw [if_pos rfl]
                exact (unchanged .sent).resolve_right nofun
            | false =>
                rw [if_neg nofun]
                have lost : (ConnectionManager.die reading id 1006 client.connection :
                    _ × List (Output ServerMessage Request)).1.activeId = none :=
                  ConnectionManager.die_activeId reading known (by simp [Connection.isLive, alive])
                    running active
                have reports : ConnectionManager.Reports client.connection
                    (ConnectionManager.die reading id 1006 client.connection :
                      _ × List (Output ServerMessage Request)) :=
                  ConnectionManager.die_reports reading id 1006 _
                generalize (ConnectionManager.die reading id 1006 client.connection :
                  _ × List (Output ServerMessage Request)) = died at lost reports
                have reported := (books.connected died.1).reports died.2
                refine ⟨fun sent => absurd rfl sent, reported.books, fun _ => ?_, ?_⟩
                · rw [Bool.eq_false_iff]
                  intro ready
                  obtain ⟨before, untold⟩ := reported.ready ready
                  refine untold (reports.tells (used before) ?_)
                  rintro ⟨other, active, _⟩
                  have active : died.1.activeId = some other := active
                  rw [lost] at active
                  cases active
                · rw [reported.connection]
                  exact reports.rests rests

/-- What holds between two events. -/
structure Kept (client : DashboardClient) : Prop where
  books : client.Books
  full : client.Full
  used : client.state.ready = true → client.connection.cast.InUse
  rests : client.connection.Rests

/-- What holds when the dashboard has no snapshot of the connection in use. -/
theorem Kept.of_unready (books : client.Books) (rests : client.connection.Rests)
    (unready : client.state.ready = false) : client.Kept where
  books := books
  full := (books.idle unready).full
  used ready := absurd (unready.symm.trans ready) nofun
  rests := rests

/-! ## Commands -/

/-- The command of a key has failed before it waited. -/
theorem Books.failCommand (books : client.Books) {key : String} (free : ¬ client.Pends key)
    (message : String) : (client.commandStatus key (some (.error message))).Books := by
  rw [commandStatus_of_running books.running]
  exact
    { running := books.running
      caught := books.caught
      timing := ⟨books.timing.timed, books.timing.timers, books.timing.commands,
        books.timing.histories⟩
      command := books.command.publish free rfl
      history := books.history.congr
        (fun _ => DashboardState.existingHistory_commandStatus _ _ _ _) rfl rfl
      idle := fun unready =>
        have empty := books.idle unready
        ⟨empty.commands, empty.histories, empty.queue⟩ }

/-- Where nothing waits, nothing is closed. -/
theorem Books.closeNothing {after : DashboardClient} (books : client.Books) (empty : client.Empty)
    (closed : after.Empty) (running : after.destroyed = client.destroyed)
    (caught : after.uncaught = client.uncaught) (state : after.state = client.state)
    {timer : Nat} (timers : after.timers = client.timers.erase timer)
    (few : after.pendingHistories.size ≤ client.pendingHistories.size) : after.Books := by
  have unset : ∀ (other : Nat), client.timers[other]? = none := by
    intro other
    cases set : client.timers[other]? with
    | none => rfl
    | some callback =>
        exact absurd ((books.timing.timed other callback).mp set) (empty.not_waits callback other)
  have stopped : ∀ (other : Nat), after.timers[other]? = none := by
    intro other
    rw [timers, getElem?_erase_number, unset]
    split <;> rfl
  refine
    { running := running.trans books.running
      caught := caught.trans books.caught
      timing :=
        { timed := fun other callback => ?_
          timers := fun other _ => stopped other
          commands := fun number _ => closed.commands number
          histories := fun number _ => closed.histories number }
      command :=
        { pending := fun key => ?_
          single := fun first second key one other waits => ?_ }
      history :=
        { loading := fun request => ?_
          single := fun first second request one other waits => ?_
          queued := closed.queue ▸ List.nodup_nil
          apart := fun request queued => absurd (closed.queue ▸ queued) List.not_mem_nil
          few := few.trans books.history.few }
      idle := fun _ => closed }
  · rw [stopped]
    exact iff_of_false nofun (closed.not_waits callback other)
  · have before := books.command.pending key
    rw [Pends, state]
    refine before.trans ?_
    simp only [empty.commands, closed.commands]
  · rw [closed.commands] at waits
    cases waits
  · have before := books.history.loading request
    rw [Loads, state]
    refine before.trans ?_
    simp only [Asked, empty.histories, closed.histories, empty.queue, closed.queue]
  · rw [closed.histories] at waits
    cases waits

theorem Kept.openCommand (kept : client.Kept) {key : String} (command : ControlCommand)
    (ready : client.state.ready = true) (free : ¬ client.Pends key) :
    (client.openCommand key command).Kept := by
  have connected : (client.openCommand key command).connection = client.connection :=
    commandStatus_frame connection (fun _ _ => rfl) _ _ _
  refine ⟨kept.books.openCommand command ready free, ?_, fun _ => ?_, ?_⟩
  · unfold Full DashboardClient.openCommand
    rw [commandStatus_frame historyQueue fun _ _ => rfl,
      commandStatus_frame pendingHistories fun _ _ => rfl]
    exact kept.full
  · rw [connected]
    exact kept.used ready
  · rw [connected]
    exact kept.rests

/-- A command that waits is settled between two events. -/
theorem Kept.settleCommand (kept : client.Kept) {id timer : Nat} {key : String}
    {status : Option CommandStatus} (asked : client.pendingCommands[id]? = some ⟨key, timer⟩)
    (settled : status.any (·.isPending) = false) :
    ((client.closeCommand id ⟨key, timer⟩).commandStatus key status).Kept := by
  refine ⟨kept.books.settleCommand asked settled, ?_, fun ready => ?_, ?_⟩
  · unfold Full
    rw [commandStatus_frame historyQueue fun _ _ => rfl,
      commandStatus_frame pendingHistories fun _ _ => rfl]
    exact kept.full
  · rw [commandStatus_frame (fun client => client.state.ready) fun _ _ => rfl] at ready
    rw [commandStatus_frame connection fun _ _ => rfl]
    exact kept.used ready
  · rw [commandStatus_frame connection fun _ _ => rfl]
    exact kept.rests

theorem Kept.send (kept : client.Kept) (reading : Reading) (message : Request) :
    Sent client (client.send reading message) :=
  kept.books.send kept.used kept.rests reading message

theorem Kept.command (kept : client.Kept) (reading : Reading) (key : String)
    (command : ControlCommand) : (client.command reading key command).Kept := by
  have books := kept.books
  unfold DashboardClient.command
  rw [books.running, if_neg nofun]
  split
  · exact kept
  · rename_i free
    cases ready : client.state.ready with
    | false =>
        rw [Bool.not_false, if_pos rfl]
        have same : (client.commandStatus key (some (.error
            "Waiting for a live controller snapshot. No command was sent."))).state.ready = false :=
          (commandStatus_frame (fun client => client.state.ready)
            (fun _ _ => rfl) _ _ _).trans ready
        refine .of_unready (books.failCommand free _) ?_ same
        rw [commandStatus_frame connection fun _ _ => rfl]
        exact kept.rests
    | true =>
        rw [Bool.not_true, if_neg nofun]
        have opened := kept.openCommand command ready free
        have asked : (client.openCommand key command).pendingCommands[client.nextRequest]? =
            some ⟨key, client.nextTimer⟩ := by
          unfold DashboardClient.openCommand
          rw [commandStatus_frame pendingCommands fun _ _ => rfl]
          exact (getElem?_insert_number _ _ _ _).trans (if_pos rfl)
        generalize client.openCommand key command = begun at opened asked
        have sent := opened.send reading (.command client.nextRequest command)
        generalize begun.send reading (.command client.nextRequest command) = outcome at sent
        obtain ⟨after, result⟩ := outcome
        cases result with
        | sent =>
            have same : after = begun := sent.same nofun
            rw [same]
            exact opened
        | notReady =>
            have same : after = begun := sent.same nofun
            rw [same]
            exact opened.settleCommand asked rfl
        | failed =>
            -- The lost connection has settled the command before.
            have unready : after.state.ready = false := sent.unready rfl
            have empty := sent.books.idle unready
            have closed := sent.books.closeNothing empty
              (empty.closeCommand client.nextRequest ⟨key, client.nextTimer⟩) rfl rfl rfl rfl le_rfl
            have free :
                ¬ (after.closeCommand client.nextRequest ⟨key, client.nextTimer⟩).Pends key := by
              rw [closed.command.pending]
              rintro ⟨id, timer, asked⟩
              rw [(empty.closeCommand _ _).commands] at asked
              cases asked
            refine .of_unready (closed.failCommand free _) ?_ ?_
            · rw [commandStatus_frame connection fun _ _ => rfl]
              exact sent.rests
            · exact (commandStatus_frame (fun client => client.state.ready)
                (fun _ _ => rfl) _ _ _).trans unready

/-! ## Histories -/

/-- A history that is not loaded has failed. -/
theorem Books.failHistory (books : client.Books) {request : HistoryRequest}
    (free : ¬ client.Loads request) (error : String) :
    (client.historyFails request error).Books := by
  unfold historyFails
  rw [historyStatus_of_running books.running]
  exact
    { running := books.running
      caught := books.caught
      timing := ⟨books.timing.timed, books.timing.timers, books.timing.commands,
        books.timing.histories⟩
      command := books.command.congr (DashboardState.commands_historyStatus _ _ _) rfl
      history := books.history.publish free rfl
      idle := fun unready =>
        have empty := books.idle (by rwa [DashboardState.ready_historyStatus] at unready)
        ⟨empty.commands, empty.histories, empty.queue⟩ }

theorem historyFails_ready (client : DashboardClient) (request : HistoryRequest) (error : String) :
    (client.historyFails request error).state.ready = client.state.ready :=
  historyStatus_frame (fun client => client.state.ready) (fun _ _ _ _ => rfl) _ _ _

theorem historyFails_connection (client : DashboardClient) (request : HistoryRequest)
    (error : String) : (client.historyFails request error).connection = client.connection :=
  historyStatus_frame connection (fun _ _ _ _ => rfl) _ _ _

/-- The first request of the queue is sent, or fails. -/
theorem Books.requestHistory (books : client.Books) {request : HistoryRequest}
    {rest : List HistoryRequest} (queue : client.historyQueue = request :: rest)
    (ready : client.state.ready = true) (free : client.pendingHistories.size < historyConcurrency)
    (used : client.connection.cast.InUse) (rests : client.connection.Rests) (reading : Reading)
    {after : DashboardClient}
    (result : DashboardClient.requestHistory reading request { client with historyQueue := rest } =
      after) :
    after.Books ∧ (after.state.ready = true → after.connection.cast.InUse) ∧
      after.connection.Rests ∧ after.historyQueue.length ≤ rest.length := by
  have opened := books.openHistory queue ready free
  unfold DashboardClient.requestHistory at result
  have asked : (DashboardClient.openHistory { client with historyQueue := rest }
      request).pendingHistories[client.nextRequest]? = some ⟨request, client.nextTimer⟩ :=
    (getElem?_insert_number _ _ _ _).trans (if_pos rfl)
  have left : (DashboardClient.openHistory { client with historyQueue := rest }
      request).historyQueue = rest := rfl
  have connected : (DashboardClient.openHistory { client with historyQueue := rest }
      request).connection = client.connection := rfl
  have sent := opened.send (fun _ => used) rests reading (historyMessage client.nextRequest request)
  dsimp only at result
  generalize DashboardClient.openHistory { client with historyQueue := rest } request = begun
    at opened sent asked left connected result
  generalize begun.send reading (historyMessage client.nextRequest request) = outcome at sent result
  obtain ⟨last, sending⟩ := outcome
  cases sending with
  | sent =>
      have same : last = begun := sent.same nofun
      cases result
      rw [same, left, connected]
      exact ⟨opened, fun _ => used, rests, le_rfl⟩
  | notReady =>
      have same : last = begun := sent.same nofun
      cases result
      rw [historyFails_connection, same]
      refine ⟨opened.settleHistory asked rfl, fun _ => ?_, ?_, ?_⟩
      · exact connected ▸ used
      · exact connected ▸ rests
      · unfold historyFails
        rw [historyStatus_frame historyQueue fun _ _ _ _ => rfl]
        exact left ▸ le_rfl
  | failed =>
      have unready : last.state.ready = false := sent.unready rfl
      have empty := sent.books.idle unready
      have closed := empty.closeHistory client.nextRequest ⟨request, client.nextTimer⟩
      have kept := sent.books.closeNothing empty closed rfl rfl rfl rfl TreeMap.size_erase_le
      have free :
          ¬ (last.closeHistory client.nextRequest ⟨request, client.nextTimer⟩).Loads request := by
        rw [kept.history.loading, closed.queue]
        rintro (queued | ⟨id, timer, asked⟩)
        · cases queued
        · rw [closed.histories] at asked
          cases asked
      cases result
      refine ⟨kept.failHistory free _, fun still => ?_, ?_, ?_⟩
      · rw [historyFails_ready] at still
        exact absurd (unready.symm.trans still) nofun
      · rw [historyFails_connection]
        exact sent.rests
      · unfold historyFails
        rw [historyStatus_frame historyQueue fun _ _ _ _ => rfl, closed.queue]
        exact Nat.zero_le _

/-- Requests are sent until enough wait, whatever becomes of each. -/
theorem Books.pump (reading : Reading) (rounds : Nat) {client : DashboardClient}
    (books : client.Books) (used : client.state.ready = true → client.connection.cast.InUse)
    (rests : client.connection.Rests) (bound : client.historyQueue.length ≤ rounds) :
    (DashboardClient.pump reading rounds client).Kept := by
  induction rounds generalizing client with
  | zero =>
      have queue : client.historyQueue = [] := List.length_eq_zero_iff.mp (Nat.le_zero.mp bound)
      exact ⟨books, fun queued => absurd queue queued, used, rests⟩
  | succ rounds ih =>
      unfold DashboardClient.pump
      split
      · rename_i room
        rw [Bool.and_eq_true, decide_eq_true_iff] at room
        cases queue : client.historyQueue with
        | nil => exact ⟨books, fun queued => absurd queue queued, used, rests⟩
        | cons request rest =>
            dsimp only
            generalize result : DashboardClient.requestHistory reading request
              { client with historyQueue := rest } = after
            obtain ⟨kept, usedAfter, restsAfter, shorter⟩ :=
              books.requestHistory queue room.1 room.2 (used room.1) rests reading result
            rw [queue, List.length_cons] at bound
            exact ih kept usedAfter restsAfter (by omega)
      · rename_i noRoom
        rw [Bool.and_eq_true, decide_eq_true_iff] at noRoom
        cases ready : client.state.ready with
        | false => exact .of_unready books rests ready
        | true =>
            refine ⟨books, fun _ => ?_, used, rests⟩
            have few := books.history.few
            have many : ¬ client.pendingHistories.size < historyConcurrency :=
              fun room => noRoom ⟨ready, room⟩
            omega

theorem Books.pumpHistory (books : client.Books)
    (used : client.state.ready = true → client.connection.cast.InUse)
    (rests : client.connection.Rests) (reading : Reading) : (client.pumpHistory reading).Kept :=
  books.pump reading _ used rests le_rfl

/-- A history that is neither queued nor asked for is queued. -/
theorem Books.queue (books : client.Books) {request : HistoryRequest} {status : HistoryStatus}
    (ready : client.state.ready = true) (loading : status.loading = true)
    (unqueued : request ∉ client.historyQueue) (unasked : ¬ client.Asked request) :
    Books { client with
      state := client.state.historyStatus request status
      historyQueue := client.historyQueue ++ [request] } where
  running := books.running
  caught := books.caught
  timing := ⟨books.timing.timed, books.timing.timers, books.timing.commands, books.timing.histories⟩
  command := books.command.congr (DashboardState.commands_historyStatus _ _ _) rfl
  history :=
    { loading := by
        intro other
        simp only [Loads, DashboardState.existingHistory_historyStatus, List.mem_append,
          List.mem_singleton]
        split
        · rename_i same
          subst same
          exact iff_of_true (by rw [Option.any_some, loading]) (.inl (.inr rfl))
        · rename_i different
          rw [or_iff_left (Ne.symm different)]
          exact books.history.loading other
      single := books.history.single
      queued := by
        refine List.nodup_append.mpr ⟨books.history.queued, List.nodup_singleton _, ?_⟩
        intro queued inside other last same
        rw [List.mem_singleton.mp last] at same
        exact unqueued (same ▸ inside)
      apart := by
        intro other queued
        rcases List.mem_append.mp queued with before | last
        · exact books.history.apart other before
        · rw [List.mem_singleton.mp last]
          exact unasked
      few := books.history.few }
  idle unready := by
    rw [DashboardState.ready_historyStatus, ready] at unready
    cases unready

theorem Kept.queueHistory (kept : client.Kept) (reading : Reading) (request : HistoryRequest) :
    (client.queueHistory reading request).Kept := by
  have books := kept.books
  unfold DashboardClient.queueHistory
  split
  · exact kept
  · rename_i open_
    rw [books.running, Bool.false_or, Bool.not_eq_true', Bool.not_eq_false] at open_
    split
    · exact kept
    · rename_i fresh
      rw [Bool.or_eq_true, not_or, List.contains_iff_mem, OrderedMap.anyValue_eq_true_iff] at fresh
      have unasked : ¬ client.Asked request := by
        rintro ⟨id, timer, asked⟩
        exact fresh.2 ⟨id, _, asked, decide_eq_true rfl⟩
      rw [historyStatus_of_running books.running]
      refine (books.queue open_ rfl fresh.1 unasked).pumpHistory (fun _ => kept.used open_)
        kept.rests reading

/-! ## Messages -/

theorem confirm_isPending (rooms : List Room) (plugs : List Plug) (zones : List HeatingZone)
    (status : CommandStatus) :
    (status.confirm rooms plugs zones).any (·.isPending) = status.isPending := by
  cases status with
  | error message => rfl
  | pending message command confirmed => rfl
  | accepted message command confirmed =>
      unfold CommandStatus.confirm
      dsimp only
      split <;> rfl

theorem commands_confirmTargets (state : DashboardState) (rooms : List Room) (plugs : List Plug)
    (zones : List HeatingZone) (key : String) :
    (state.confirmTargets rooms plugs zones)[key]? =
      (state.commands[key]?).bind fun status => status.confirm rooms plugs zones :=
  TreeMap.getElem?_filterMap'

theorem pends_confirmTargets (state : DashboardState) (rooms : List Room) (plugs : List Plug)
    (zones : List HeatingZone) (key : String) :
    ((state.confirmTargets rooms plugs zones)[key]?).any (·.isPending) =
      (state.commands[key]?).any (·.isPending) := by
  rw [commands_confirmTargets]
  cases state.commands[key]? with
  | none => rfl
  | some status => exact confirm_isPending rooms plugs zones status

/-- What is shown may change where no command and no history begins or ends to wait. -/
theorem Books.display (books : client.Books) {state : DashboardState}
    (pending : ∀ key : String, (state.commands[key]?).any (·.isPending) =
      (client.state.commands[key]?).any (·.isPending))
    (histories : ∀ request, state.existingHistory request = client.state.existingHistory request)
    (ready : state.ready = false → client.state.ready = false) : Books { client with state } where
  running := books.running
  caught := books.caught
  timing := ⟨books.timing.timed, books.timing.timers, books.timing.commands, books.timing.histories⟩
  command :=
    { pending := fun key => (iff_of_eq (congrArg (· = true) (pending key))).trans
        (books.command.pending key)
      single := books.command.single }
  history := books.history.congr histories rfl rfl
  idle unready :=
    have empty := books.idle (ready unready)
    ⟨empty.commands, empty.histories, empty.queue⟩

theorem Kept.receiveSnapshot (kept : client.Kept) (used : client.connection.cast.InUse)
    (now : Nat) (snapshot : Snapshot) :
    Kept { client with state := client.state.receiveSnapshot now snapshot } where
  books := kept.books.display (fun key => pends_confirmTargets _ _ _ _ key)
    (fun request => by cases request <;> rfl) nofun
  full := kept.full
  used _ := used
  rests := kept.rests

theorem Kept.receiveEntity (kept : client.Kept) (now : Nat) (update : EntityUpdate) :
    Kept { client with state := client.state.receiveEntity now update } := by
  unfold DashboardState.receiveEntity
  split
  · exact kept
  · have same : ∀ state : DashboardState, state.ready = client.state.ready →
        Books { client with state } → Kept { client with state } := by
      intro state ready books
      exact ⟨books, kept.full, fun still => kept.used (ready ▸ still), kept.rests⟩
    cases update with
    | room data =>
        exact same _ rfl (kept.books.display (fun key => pends_confirmTargets _ _ _ _ key)
          (fun request => by cases request <;> rfl) id)
    | plug data =>
        exact same _ rfl (kept.books.display (fun key => pends_confirmTargets _ _ _ _ key)
          (fun request => by cases request <;> rfl) id)
    | light data =>
        exact same _ rfl (kept.books.display (fun _ => rfl)
          (fun request => by cases request <;> rfl) id)
    | heatingZone data =>
        exact same _ rfl (kept.books.display (fun key => pends_confirmTargets _ _ _ _ key)
          (fun request => by cases request <;> rfl) id)

theorem Kept.commandResult (kept : client.Kept) (requestId : Nat) (error : Option String) :
    (client.commandResult requestId error).Kept := by
  unfold DashboardClient.commandResult
  cases asked : client.pendingCommands[requestId]? with
  | none => exact kept
  | some pending =>
      obtain ⟨key, timer⟩ := pending
      -- The status of a command that waits is pending, so that no error is thrown.
      have pends : client.Pends key :=
        (kept.books.command.pending key).mpr ⟨requestId, timer, asked⟩
      have same : (client.closeCommand requestId ⟨key, timer⟩).state = client.state := rfl
      unfold Pends at pends
      dsimp only
      rw [same]
      cases shown : client.state.commands[key]? with
      | none =>
          rw [shown] at pends
          cases pends
      | some status =>
          rw [shown, Option.any_some] at pends
          cases status with
          | error message => cases pends
          | accepted message command confirmed => cases pends
          | pending message command confirmed =>
              refine kept.settleCommand asked ?_
              cases error with
              | some error => rfl
              | none =>
                  cases confirmed with
                  | true => rfl
                  | false => rfl

theorem Kept.historyAnswer (kept : client.Kept) (reading : Reading) (requestId : Nat)
    (answers : HistoryRequest) (data : HistoryData) (error : Option String) :
    (client.historyAnswer reading requestId answers data error).Kept := by
  unfold DashboardClient.historyAnswer
  cases asked : client.pendingHistories[requestId]? with
  | none => exact kept
  | some pending =>
      obtain ⟨request, timer⟩ := pending
      dsimp only
      split
      · refine (kept.books.settleHistory asked rfl).pumpHistory (fun ready => ?_) ?_ reading
        · rw [historyStatus_frame (fun client => client.state.ready) fun _ _ _ _ => rfl] at ready
          rw [historyStatus_frame connection fun _ _ _ _ => rfl]
          exact kept.used ready
        · rw [historyStatus_frame connection fun _ _ _ _ => rfl]
          exact kept.rests
      · exact kept

/-- A message that arrives on the connection in use. -/
theorem Kept.receive (kept : client.Kept) (used : client.connection.cast.InUse) (reading : Reading)
    (message : ServerMessage) : (client.receive reading message).Kept := by
  unfold DashboardClient.receive
  cases message with
  | stateSnapshot snapshot =>
      dsimp only
      rw [publish_of_running kept.books.running]
      exact kept.receiveSnapshot used reading.now snapshot
  | entity update =>
      dsimp only
      rw [publish_of_running kept.books.running]
      exact kept.receiveEntity reading.now update
  | commandResult requestId error => exact kept.commandResult requestId error
  | heatingEnergyHistory history => exact kept.historyAnswer reading _ _ _ _
  | valveHistory history => exact kept.historyAnswer reading _ _ _ _
  | plugPowerHistory history => exact kept.historyAnswer reading _ _ _ _
  | eventLog => exact kept
  | entityLog => exact kept
  | topology => exact kept

/-! ## Timers -/

/-- A timer that expires settles what it belongs to. -/
theorem Kept.expire (kept : client.Kept) (reading : Reading) (timer : Nat) :
    (client.expire reading timer).Kept := by
  unfold DashboardClient.expire
  cases set : client.timers[timer]? with
  | none => exact kept
  | some callback =>
      have waits := (kept.books.timing.timed timer callback).mp set
      cases callback with
      | command key requestId => exact kept.settleCommand waits rfl
      | history request requestId =>
          refine (kept.books.settleHistory waits rfl).pumpHistory (fun ready => ?_) ?_ reading
          · rw [historyStatus_frame (fun client => client.state.ready) fun _ _ _ _ => rfl] at ready
            rw [historyStatus_frame connection fun _ _ _ _ => rfl]
            exact kept.used ready
          · rw [historyStatus_frame connection fun _ _ _ _ => rfl]
            exact kept.rests

end DashboardClient

end MqttController.Frontend
