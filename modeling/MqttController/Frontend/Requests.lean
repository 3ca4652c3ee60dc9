import MqttController.Frontend.Store

/-!
# The dashboard's open requests

Every command and every request for a history that waits for its answer has one running timer and a
status that says so.
-/

namespace MqttController.Frontend

open Std Emission

namespace DashboardClient

variable {client : DashboardClient}

/-- The command of a key waits for its result. -/
def Pends (client : DashboardClient) (key : String) : Prop :=
  (client.state.commands[key]?).any (·.isPending) = true

/-- A history is being loaded. -/
def Loads (client : DashboardClient) (request : HistoryRequest) : Prop :=
  (client.state.existingHistory request).any (·.loading) = true

/-- A request for a history waits for its answer. -/
def Asked (client : DashboardClient) (request : HistoryRequest) : Prop :=
  ∃ (id timer : Nat), client.pendingHistories[id]? = some ⟨request, timer⟩

/-- A request is waiting, and this is the timer that gives it up. -/
def Waits (client : DashboardClient) : ClientTimer → Nat → Prop
  | .command key id, timer => client.pendingCommands[id]? = some ⟨key, timer⟩
  | .history request id, timer => client.pendingHistories[id]? = some ⟨request, timer⟩

/-- Timers and numbers: the running timers are those of the requests that wait. -/
structure Timing (client : DashboardClient) : Prop where
  timed : ∀ (timer : Nat) callback,
    client.timers[timer]? = some callback ↔ client.Waits callback timer
  timers : ∀ (timer : Nat), client.nextTimer ≤ timer → client.timers[timer]? = none
  commands : ∀ (id : Nat), client.nextRequest ≤ id → client.pendingCommands[id]? = none
  histories : ∀ (id : Nat), client.nextRequest ≤ id → client.pendingHistories[id]? = none

/-- Commands: the status of a key is pending while one command of it waits. -/
structure CommandBooks (client : DashboardClient) : Prop where
  pending : ∀ key, client.Pends key ↔
    ∃ (id timer : Nat), client.pendingCommands[id]? = some ⟨key, timer⟩
  single : ∀ (first second : Nat) key one other, client.pendingCommands[first]? = some ⟨key, one⟩ →
    client.pendingCommands[second]? = some ⟨key, other⟩ → first = second

/-- Histories: what is loaded is queued or asked for, once. -/
structure HistoryBooks (client : DashboardClient) : Prop where
  loading : ∀ request, client.Loads request ↔
    request ∈ client.historyQueue ∨ client.Asked request
  single : ∀ (first second : Nat) request one other,
    client.pendingHistories[first]? = some ⟨request, one⟩ →
    client.pendingHistories[second]? = some ⟨request, other⟩ → first = second
  queued : client.historyQueue.Nodup
  apart : ∀ request ∈ client.historyQueue, ¬ client.Asked request
  few : client.pendingHistories.size ≤ historyConcurrency

/-- Nothing waits. -/
structure Empty (client : DashboardClient) : Prop where
  commands : ∀ (id : Nat), client.pendingCommands[id]? = none
  histories : ∀ (id : Nat), client.pendingHistories[id]? = none
  queue : client.historyQueue = []

/-- The books of a dashboard that was not closed. -/
structure Books (client : DashboardClient) : Prop where
  running : client.destroyed = false
  caught : client.uncaught = []
  timing : client.Timing
  command : client.CommandBooks
  history : client.HistoryBooks
  /-- Without a snapshot of the connection in use, nothing waits. -/
  idle : client.state.ready = false → client.Empty

/-! ## Fields -/

theorem publish_of_running (running : client.destroyed = false)
    (update : DashboardState → DashboardState) :
    client.publish update = { client with state := update client.state } := by
  unfold publish
  rw [running]
  rfl

theorem commandStatus_of_running (running : client.destroyed = false) (key : String)
    (status : Option CommandStatus) :
    client.commandStatus key status =
      { client with state := client.state.commandStatus key status } :=
  publish_of_running running _

theorem historyStatus_of_running (running : client.destroyed = false) (request : HistoryRequest)
    (status : HistoryStatus) :
    client.historyStatus request status =
      { client with state := client.state.historyStatus request status } :=
  publish_of_running running _

end DashboardClient

namespace DashboardState

theorem commands_commandStatus (state : DashboardState) (key other : String)
    (status : Option CommandStatus) :
    (state.commandStatus key status).commands[other]? =
      if key = other then status else state.commands[other]? := by
  unfold commandStatus
  cases status with
  | none =>
      refine TreeMap.getElem?_erase.trans ?_
      simp only [LawfulEqCmp.compare_eq_iff_eq]
  | some status =>
      refine TreeMap.getElem?_insert.trans ?_
      simp only [LawfulEqCmp.compare_eq_iff_eq]

@[simp]
theorem existingHistory_commandStatus (state : DashboardState) (key : String)
    (status : Option CommandStatus) (request : HistoryRequest) :
    (state.commandStatus key status).existingHistory request = state.existingHistory request := by
  cases request with
  | valve device => rfl
  | plug device => rfl
  | heatingEnergy => rfl

@[simp]
theorem commands_historyStatus (state : DashboardState) (request : HistoryRequest)
    (status : HistoryStatus) : (state.historyStatus request status).commands = state.commands := by
  cases request with
  | valve device => rfl
  | plug device => rfl
  | heatingEnergy => rfl

@[simp]
theorem ready_historyStatus (state : DashboardState) (request : HistoryRequest)
    (status : HistoryStatus) : (state.historyStatus request status).ready = state.ready := by
  cases request with
  | valve device => rfl
  | plug device => rfl
  | heatingEnergy => rfl

theorem existingHistory_historyStatus (state : DashboardState) (request other : HistoryRequest)
    (status : HistoryStatus) :
    (state.historyStatus request status).existingHistory other =
      if request = other then some status else state.existingHistory other := by
  cases request with
  | valve device =>
      cases other with
      | valve another =>
          refine TreeMap.getElem?_insert.trans ?_
          simp only [LawfulEqCmp.compare_eq_iff_eq, HistoryRequest.valve.injEq]
          rfl
      | plug another => rfl
      | heatingEnergy => rfl
  | plug device =>
      cases other with
      | valve another => rfl
      | plug another =>
          refine TreeMap.getElem?_insert.trans ?_
          simp only [LawfulEqCmp.compare_eq_iff_eq, HistoryRequest.plug.injEq]
          rfl
      | heatingEnergy => rfl
  | heatingEnergy =>
      cases other with
      | valve another => rfl
      | plug another => rfl
      | heatingEnergy => rfl

end DashboardState

namespace DashboardClient

variable {client : DashboardClient}

@[simp]
theorem getElem?_erase_number {α : Type} (entries : NumberMap α) (key other : Nat) :
    (entries.erase key)[other]? = if key = other then none else entries[other]? := by
  refine TreeMap.getElem?_erase.trans ?_
  simp only [LawfulEqCmp.compare_eq_iff_eq]

@[simp]
theorem getElem?_insert_number {α : Type} (entries : NumberMap α) (key other : Nat) (value : α) :
    (entries.insert key value)[other]? = if key = other then some value else entries[other]? := by
  refine TreeMap.getElem?_insert.trans ?_
  simp only [LawfulEqCmp.compare_eq_iff_eq]

theorem Empty.not_waits (empty : client.Empty) (callback : ClientTimer) (timer : Nat) :
    ¬ client.Waits callback timer := by
  intro waits
  cases callback with
  | command key id =>
      rw [Waits, empty.commands] at waits
      cases waits
  | history request id =>
      rw [Waits, empty.histories] at waits
      cases waits

/-! ## Closing requests -/

/-- Timers are right after one of them is stopped together with what it gives up. -/
theorem Timing.stop {after : DashboardClient} (timing : client.Timing) {gone : ClientTimer}
    {timer : Nat} (waited : client.Waits gone timer)
    (timers : after.timers = client.timers.erase timer)
    (nextTimer : after.nextTimer = client.nextTimer)
    (nextRequest : after.nextRequest = client.nextRequest)
    (waits : ∀ callback other, after.Waits callback other ↔
      client.Waits callback other ∧ callback ≠ gone)
    (unique : ∀ other, client.Waits gone other → other = timer)
    (commands : ∀ (id : Nat), client.pendingCommands[id]? = none →
      after.pendingCommands[id]? = none)
    (histories : ∀ (id : Nat), client.pendingHistories[id]? = none →
      after.pendingHistories[id]? = none) : after.Timing where
  timed other callback := by
    rw [timers, getElem?_erase_number, waits]
    have own := (timing.timed timer gone).mpr waited
    split
    · rename_i same
      subst same
      constructor
      · nofun
      · rintro ⟨waiting, different⟩
        rw [← timing.timed, own] at waiting
        exact absurd (Option.some.inj waiting).symm different
    · rename_i different
      rw [timing.timed]
      constructor
      · intro waiting
        refine ⟨waiting, ?_⟩
        rintro rfl
        exact different (unique other waiting).symm
      · exact And.left
  timers other fresh := by
    rw [timers, getElem?_erase_number]
    split
    · rfl
    · exact timing.timers other (nextTimer ▸ fresh)
  commands id fresh := commands id (timing.commands id (nextRequest ▸ fresh))
  histories id fresh := histories id (timing.histories id (nextRequest ▸ fresh))

theorem Timing.closeCommand (timing : client.Timing) {id timer : Nat} {key : String}
    (asked : client.pendingCommands[id]? = some ⟨key, timer⟩) :
    (client.closeCommand id ⟨key, timer⟩).Timing := by
  have waited : client.Waits (.command key id) timer := asked
  refine timing.stop waited rfl rfl rfl (fun callback other => ?_) (fun other waits => ?_)
    (fun number none => ?_) fun number none => none
  · cases callback with
    | command another number =>
        simp only [Waits, DashboardClient.closeCommand, cancel, getElem?_erase_number]
        split
        · rename_i same
          subst same
          rw [asked]
          constructor
          · nofun
          · rintro ⟨same, different⟩
            cases same
            exact absurd rfl different
        · rename_i different
          refine (and_iff_left ?_).symm
          rintro same
          cases same
          exact different rfl
    | history request number => exact (and_iff_left nofun).symm
  · have same : client.pendingCommands[id]? = some ⟨key, other⟩ := waits
    rw [asked] at same
    cases same
    rfl
  · refine (getElem?_erase_number _ _ _).trans ?_
    split
    · rfl
    · exact none

theorem Timing.closeHistory (timing : client.Timing) {id timer : Nat} {request : HistoryRequest}
    (asked : client.pendingHistories[id]? = some ⟨request, timer⟩) :
    (client.closeHistory id ⟨request, timer⟩).Timing := by
  have waited : client.Waits (.history request id) timer := asked
  refine timing.stop waited rfl rfl rfl (fun callback other => ?_) (fun other waits => ?_)
    (fun number none => none) fun number none => ?_
  · cases callback with
    | command key number => exact (and_iff_left nofun).symm
    | history another number =>
        simp only [Waits, DashboardClient.closeHistory, cancel, getElem?_erase_number]
        split
        · rename_i same
          subst same
          rw [asked]
          constructor
          · nofun
          · rintro ⟨same, different⟩
            cases same
            exact absurd rfl different
        · rename_i different
          refine (and_iff_left ?_).symm
          rintro same
          cases same
          exact different rfl
  · have same : client.pendingHistories[id]? = some ⟨request, other⟩ := waits
    rw [asked] at same
    cases same
    rfl
  · refine (getElem?_erase_number _ _ _).trans ?_
    split
    · rfl
    · exact none

/-- A command is forgotten and its status is no longer pending. -/
theorem CommandBooks.settle (books : client.CommandBooks) {id timer : Nat} {key : String}
    {status : Option CommandStatus} (asked : client.pendingCommands[id]? = some ⟨key, timer⟩)
    (settled : status.any (·.isPending) = false) :
    CommandBooks { client.closeCommand id ⟨key, timer⟩ with
      state := client.state.commandStatus key status } where
  pending other := by
    simp only [Pends, DashboardState.commands_commandStatus, DashboardClient.closeCommand,
      getElem?_erase_number]
    split
    · rename_i same
      subst same
      rw [settled]
      constructor
      · nofun
      · rintro ⟨number, another, waits⟩
        split at waits
        · cases waits
        · rename_i different
          exact absurd (books.single id number key timer another asked waits) different
    · rename_i different
      refine (books.pending other).trans ⟨?_, ?_⟩
      · rintro ⟨number, another, waits⟩
        refine ⟨number, another, ?_⟩
        rw [if_neg]
        · exact waits
        · rintro rfl
          rw [asked] at waits
          cases waits
          exact different rfl
      · rintro ⟨number, another, waits⟩
        split at waits
        · cases waits
        · exact ⟨number, another, waits⟩
  single first second other one two firstWaits secondWaits := by
    simp only [DashboardClient.closeCommand, getElem?_erase_number] at firstWaits secondWaits
    split at firstWaits
    · cases firstWaits
    · split at secondWaits
      · cases secondWaits
      · exact books.single first second other one two firstWaits secondWaits

/-- A command without a pending status gets another one. -/
theorem CommandBooks.publish (books : client.CommandBooks) {key : String}
    {status : Option CommandStatus} (free : ¬ client.Pends key)
    (settled : status.any (·.isPending) = false) :
    CommandBooks { client with state := client.state.commandStatus key status } where
  pending other := by
    simp only [Pends, DashboardState.commands_commandStatus]
    split
    · rename_i same
      subst same
      rw [settled, ← books.pending key]
      exact iff_of_false nofun free
    · exact books.pending other
  single := books.single

theorem CommandBooks.congr {after : DashboardClient} (books : client.CommandBooks)
    (commands : after.state.commands = client.state.commands)
    (pending : after.pendingCommands = client.pendingCommands) : after.CommandBooks where
  pending key := by
    rw [Pends, commands, pending]
    exact books.pending key
  single := by
    rw [pending]
    exact books.single

theorem HistoryBooks.congr {after : DashboardClient} (books : client.HistoryBooks)
    (statuses : ∀ request, after.state.existingHistory request =
      client.state.existingHistory request)
    (pending : after.pendingHistories = client.pendingHistories)
    (queue : after.historyQueue = client.historyQueue) : after.HistoryBooks where
  loading request := by
    rw [Loads, statuses, queue, Asked, pending]
    exact books.loading request
  single := by
    rw [pending]
    exact books.single
  queued := by
    rw [queue]
    exact books.queued
  apart request := by
    rw [queue, Asked, pending]
    exact books.apart request
  few := by
    rw [pending]
    exact books.few

/-- A history that is not loaded gets a status that does not say so. -/
theorem HistoryBooks.publish (books : client.HistoryBooks) {request : HistoryRequest}
    {status : HistoryStatus} (free : ¬ client.Loads request) (settled : status.loading = false) :
    HistoryBooks { client with state := client.state.historyStatus request status } where
  loading other := by
    simp only [Loads, DashboardState.existingHistory_historyStatus]
    split
    · rename_i same
      subst same
      rw [Option.any_some, settled]
      refine iff_of_false nofun ?_
      exact fun waits => free ((books.loading request).mpr waits)
    · exact books.loading other
  single := books.single
  queued := books.queued
  apart := books.apart
  few := books.few

theorem asked_closeHistory (books : client.HistoryBooks) {id timer : Nat} {request : HistoryRequest}
    (asked : client.pendingHistories[id]? = some ⟨request, timer⟩) (other : HistoryRequest) :
    (client.closeHistory id ⟨request, timer⟩).Asked other ↔
      client.Asked other ∧ other ≠ request := by
  unfold Asked
  simp only [DashboardClient.closeHistory, getElem?_erase_number]
  constructor
  · rintro ⟨number, another, waits⟩
    split at waits
    · cases waits
    · rename_i different
      refine ⟨⟨number, another, waits⟩, ?_⟩
      rintro rfl
      exact different (books.single id number other timer another asked waits)
  · rintro ⟨⟨number, another, waits⟩, different⟩
    refine ⟨number, another, ?_⟩
    rw [if_neg]
    · exact waits
    · rintro rfl
      rw [asked] at waits
      cases waits
      exact different rfl

/-- A request for a history is forgotten and its status no longer says that it is loaded. -/
theorem HistoryBooks.settle (books : client.HistoryBooks) {id timer : Nat}
    {request : HistoryRequest} {status : HistoryStatus}
    (asked : client.pendingHistories[id]? = some ⟨request, timer⟩)
    (settled : status.loading = false) :
    HistoryBooks { client.closeHistory id ⟨request, timer⟩ with
      state := client.state.historyStatus request status } where
  loading other := by
    have waits : Asked { client.closeHistory id ⟨request, timer⟩ with
        state := client.state.historyStatus request status } other ↔
          client.Asked other ∧ other ≠ request := asked_closeHistory books asked other
    rw [waits]
    simp only [Loads, DashboardState.existingHistory_historyStatus]
    split
    · rename_i same
      subst same
      rw [Option.any_some, settled]
      refine iff_of_false nofun ?_
      rintro (queued | ⟨_, different⟩)
      · exact books.apart request queued ⟨id, timer, asked⟩
      · exact different rfl
    · rename_i different
      have other_ne : other ≠ request := fun same => different same.symm
      refine (books.loading other).trans ?_
      rw [and_iff_left other_ne]
      rfl
  single first second other one two firstWaits secondWaits := by
    simp only [DashboardClient.closeHistory, getElem?_erase_number] at firstWaits secondWaits
    split at firstWaits
    · cases firstWaits
    · split at secondWaits
      · cases secondWaits
      · exact books.single first second other one two firstWaits secondWaits
  queued := books.queued
  apart other queued waits :=
    books.apart other queued ((asked_closeHistory books asked other).mp waits).1
  few := by
    have fewer : (client.pendingHistories.erase id).size ≤ client.pendingHistories.size :=
      TreeMap.size_erase_le
    exact fewer.trans books.few

theorem Empty.closeCommand (empty : client.Empty) (id : Nat) (pending : Pending String) :
    (client.closeCommand id pending).Empty where
  commands number := by
    refine (getElem?_erase_number _ _ _).trans ?_
    split
    · rfl
    · exact empty.commands number
  histories := empty.histories
  queue := empty.queue

theorem Empty.closeHistory (empty : client.Empty) (id : Nat) (pending : Pending HistoryRequest) :
    (client.closeHistory id pending).Empty where
  commands := empty.commands
  histories number := by
    refine (getElem?_erase_number _ _ _).trans ?_
    split
    · rfl
    · exact empty.histories number
  queue := empty.queue

/-- A command that waits is settled. -/
theorem Books.settleCommand (books : client.Books) {id timer : Nat} {key : String}
    {status : Option CommandStatus} (asked : client.pendingCommands[id]? = some ⟨key, timer⟩)
    (settled : status.any (·.isPending) = false) :
    ((client.closeCommand id ⟨key, timer⟩).commandStatus key status).Books := by
  have running : (client.closeCommand id ⟨key, timer⟩).destroyed = false := books.running
  rw [commandStatus_of_running running]
  have timing := books.timing.closeCommand asked
  exact {
    running := running
    caught := books.caught
    timing := ⟨timing.timed, timing.timers, timing.commands, timing.histories⟩
    command := books.command.settle asked settled
    history :=
      books.history.congr (fun _ => DashboardState.existingHistory_commandStatus _ _ _ _) rfl rfl
    idle := fun unready =>
      have empty := (books.idle unready).closeCommand id ⟨key, timer⟩
      ⟨empty.commands, empty.histories, empty.queue⟩ }

/-- A request for a history that waits is settled. -/
theorem Books.settleHistory (books : client.Books) {id timer : Nat} {request : HistoryRequest}
    {status : HistoryStatus} (asked : client.pendingHistories[id]? = some ⟨request, timer⟩)
    (settled : status.loading = false) :
    ((client.closeHistory id ⟨request, timer⟩).historyStatus request status).Books := by
  have running : (client.closeHistory id ⟨request, timer⟩).destroyed = false := books.running
  rw [historyStatus_of_running running]
  have timing := books.timing.closeHistory asked
  exact {
    running := running
    caught := books.caught
    timing := ⟨timing.timed, timing.timers, timing.commands, timing.histories⟩
    command := books.command.congr (DashboardState.commands_historyStatus _ _ _) rfl
    history := books.history.settle asked settled
    idle := fun unready =>
      have waits := books.idle (by
        rwa [DashboardState.ready_historyStatus] at unready)
      have empty := waits.closeHistory id ⟨request, timer⟩
      ⟨empty.commands, empty.histories, empty.queue⟩ }

/-! ## Opening requests -/

/-- Timers are right after one is set together with what it gives up. -/
theorem Timing.set {after : DashboardClient} (timing : client.Timing) {new : ClientTimer}
    (timers : after.timers = client.timers.insert client.nextTimer new)
    (nextTimer : after.nextTimer = client.nextTimer + 1)
    (nextRequest : after.nextRequest = client.nextRequest + 1)
    (waits : ∀ callback other, after.Waits callback other ↔
      client.Waits callback other ∨ callback = new ∧ other = client.nextTimer)
    (commands : ∀ (id : Nat), client.nextRequest < id →
      after.pendingCommands[id]? = client.pendingCommands[id]?)
    (histories : ∀ (id : Nat), client.nextRequest < id →
      after.pendingHistories[id]? = client.pendingHistories[id]?) : after.Timing where
  timed other callback := by
    rw [timers, getElem?_insert_number, waits]
    split
    · rename_i same
      subst same
      have unused : ¬ client.Waits callback client.nextTimer := by
        rw [← timing.timed, timing.timers _ le_rfl]
        nofun
      rw [Option.some_inj, or_iff_right unused, and_iff_left rfl]
      exact eq_comm
    · rename_i different
      rw [timing.timed, or_iff_left]
      exact fun new => different new.2.symm
  timers other fresh := by
    rw [nextTimer] at fresh
    rw [timers, getElem?_insert_number, if_neg (by omega)]
    exact timing.timers other (by omega)
  commands id fresh := by
    rw [nextRequest] at fresh
    rw [commands id fresh]
    exact timing.commands id (by omega)
  histories id fresh := by
    rw [nextRequest] at fresh
    rw [histories id fresh]
    exact timing.histories id (by omega)

/-- A command begins to wait. -/
theorem Books.openCommand (books : client.Books) {key : String} (command : ControlCommand)
    (ready : client.state.ready = true) (free : ¬ client.Pends key) :
    (client.openCommand key command).Books := by
  unfold DashboardClient.openCommand
  rw [commandStatus_of_running (by exact books.running)]
  have unasked : ∀ (id timer : Nat), client.pendingCommands[id]? ≠ some ⟨key, timer⟩ :=
    fun id timer asked => free ((books.command.pending key).mpr ⟨id, timer, asked⟩)
  refine
    { running := books.running
      caught := books.caught
      timing := ?_
      command := ⟨fun other => ?_, fun first second other one two firstWaits secondWaits => ?_⟩
      history := books.history.congr
        (fun _ => DashboardState.existingHistory_commandStatus _ _ _ _) rfl rfl
      idle := fun unready => absurd (ready.symm.trans unready) nofun }
  · refine books.timing.set rfl rfl rfl (fun callback other => ?_) (fun id later => ?_)
      fun _ _ => rfl
    · cases callback with
      | command another id =>
          simp only [Waits, getElem?_insert_number]
          split
          · rename_i same
            subst same
            rw [books.timing.commands _ le_rfl]
            simp [eq_comm]
          · rename_i different
            refine (or_iff_left ?_).symm
            rintro ⟨same, _⟩
            cases same
            exact different rfl
      | history request id => exact (or_iff_left nofun).symm
    · exact (getElem?_insert_number _ _ _ _).trans (if_neg (Nat.ne_of_lt later))
  · simp only [Pends, DashboardState.commands_commandStatus, later, getElem?_insert_number]
    split
    · rename_i same
      subst same
      refine iff_of_true rfl ⟨client.nextRequest, client.nextTimer, ?_⟩
      rw [if_pos rfl]
    · rename_i different
      refine (books.command.pending other).trans ⟨?_, ?_⟩
      · rintro ⟨number, timer, waits⟩
        refine ⟨number, timer, ?_⟩
        rw [if_neg]
        · exact waits
        · rintro rfl
          rw [books.timing.commands _ le_rfl] at waits
          cases waits
      · rintro ⟨number, timer, waits⟩
        split at waits
        · cases waits
          exact absurd rfl different
        · exact ⟨number, timer, waits⟩
  · simp only [getElem?_insert_number] at firstWaits secondWaits
    split at firstWaits
    · rename_i same
      cases firstWaits
      split at secondWaits
      · rename_i other
        exact same.symm.trans other
      · exact absurd secondWaits (unasked second two)
    · split at secondWaits
      · cases secondWaits
        exact absurd firstWaits (unasked first one)
      · exact books.command.single first second other one two firstWaits secondWaits

theorem asked_openHistory (books : client.Books) (request other : HistoryRequest) :
    (client.openHistory request).Asked other ↔ client.Asked other ∨ other = request := by
  unfold Asked
  simp only [openHistory, later, getElem?_insert_number]
  constructor
  · rintro ⟨number, timer, waits⟩
    split at waits
    · cases waits
      exact .inr rfl
    · exact .inl ⟨number, timer, waits⟩
  · rintro (⟨number, timer, waits⟩ | rfl)
    · refine ⟨number, timer, ?_⟩
      rw [if_neg]
      · exact waits
      · rintro rfl
        rw [books.timing.histories _ le_rfl] at waits
        cases waits
    · exact ⟨client.nextRequest, client.nextTimer, if_pos rfl⟩

/-- The first request of the queue begins to wait. -/
theorem Books.openHistory (books : client.Books) {request : HistoryRequest}
    {rest : List HistoryRequest} (queue : client.historyQueue = request :: rest)
    (ready : client.state.ready = true) (free : client.pendingHistories.size < historyConcurrency) :
    (DashboardClient.openHistory { client with historyQueue := rest } request).Books := by
  have once := books.history.queued
  rw [queue, List.nodup_cons] at once
  have unasked : ¬ client.Asked request :=
    books.history.apart request (queue ▸ List.mem_cons_self)
  have asks : ∀ other, (DashboardClient.openHistory { client with historyQueue := rest }
      request).Asked other ↔ client.Asked other ∨ other = request :=
    asked_openHistory books request
  refine
    { running := books.running
      caught := books.caught
      timing := ?_
      command := books.command.congr rfl rfl
      history :=
        { loading := fun other => ?_
          single := fun first second other one two firstWaits secondWaits => ?_
          queued := once.2
          apart := fun other queued asked => ?_
          few := ?_ }
      idle := fun unready => absurd (ready.symm.trans unready) nofun }
  · refine books.timing.set rfl rfl rfl (fun callback other => ?_) (fun _ _ => rfl)
      fun id later => ?_
    · cases callback with
      | command key id => exact (or_iff_left nofun).symm
      | history another id =>
          simp only [Waits, DashboardClient.openHistory, later, getElem?_insert_number]
          split
          · rename_i same
            subst same
            rw [books.timing.histories _ le_rfl]
            simp [eq_comm]
          · rename_i different
            refine (or_iff_left ?_).symm
            rintro ⟨same, _⟩
            cases same
            exact different rfl
    · exact (getElem?_insert_number _ _ _ _).trans (if_neg (Nat.ne_of_lt later))
  · rw [asks]
    refine (books.history.loading other).trans ?_
    rw [queue, List.mem_cons]
    change _ ↔ other ∈ rest ∨ _
    tauto
  · simp only [DashboardClient.openHistory, later, getElem?_insert_number] at firstWaits secondWaits
    split at firstWaits
    · rename_i same
      cases firstWaits
      split at secondWaits
      · rename_i other
        exact same.symm.trans other
      · exact absurd ⟨second, two, secondWaits⟩ unasked
    · split at secondWaits
      · cases secondWaits
        exact absurd ⟨first, one, firstWaits⟩ unasked
      · exact books.history.single first second other one two firstWaits secondWaits
  · rcases (asks other).mp asked with before | rfl
    · exact books.history.apart other (queue ▸ List.mem_cons_of_mem _ queued) before
    · exact once.1 queued
  · have more : (client.pendingHistories.insert client.nextRequest
        ⟨request, client.nextTimer⟩).size ≤ client.pendingHistories.size + 1 :=
      TreeMap.size_insert_le
    exact more.trans free

end DashboardClient

end MqttController.Frontend
