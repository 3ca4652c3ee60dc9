import MqttController.Frontend.ConnectionOutputs
import MqttController.Frontend.ConnectionRoles

/-!
# Timers of connections

Which timers are running in which state of the manager: a connection that is being opened has one
that gives it up, a heartbeat that was not missed has one that notices, a planned attempt has one,
and the manager looks after the connections once a second.
-/

namespace MqttController.Frontend

open Std Emission

/-- A socket is created. -/
def Output.isOpen {μ κ : Type} : Output μ κ → Bool
  | .openSocket _ => true
  | _ => false

/-- The timers and heartbeats of a connection. -/
structure Held (timers : NumberMap Callback) (nextTimer id : Nat) (connection : Connection) :
    Prop where
  owned : ∀ timer ∈ connection.timers, timer < nextTimer ∧
    ∀ callback : Callback, timers[timer]? = some callback → callback.connection = some id
  pinged : ∀ (nonce : Nat) (ping : PendingPing), connection.pings[nonce]? = some ping →
    ping.timer < nextTimer ∧ ∀ callback : Callback, timers[ping.timer]? = some callback →
      callback = .pingTimeout id nonce
  awaited : connection.isLive = true → ∀ (nonce : Nat) (ping : PendingPing),
    connection.pings[nonce]? = some ping → ping.expired = false →
      timers[ping.timer]? = some (.pingTimeout id nonce)
  reached : ∀ (nonce : Nat) (ping : PendingPing), connection.pings[nonce]? = some ping →
    connection.socket.readyState ≠ .connecting
  answered : connection.state = .alive →
    connection.lastPong.isSome ∧ connection.socket.readyState ≠ .connecting

/-- What is awaited of the socket of a connection. -/
structure Attended (timers : NumberMap Callback) (id : Nat) (connection : Connection) : Prop where
  connecting : connection.state = .new → connection.socket.readyState = .connecting →
    ∃ timer : Nat, timers[timer]? = some (.connectTimeout id)
  greeted : connection.state = .new → connection.socket.openDelivered = true →
    ∃ (nonce : Nat) (ping : PendingPing), connection.pings[nonce]? = some ping ∧
      ping.expired = false
  unclosed : connection.isLive = true → connection.socket.closeDelivered = false

section Timers

variable {timers fewer : NumberMap Callback} {nextTimer id : Nat} {connection : Connection}

/-- A dead connection needs nothing. -/
theorem Held.of_retired (now : Nat) : Held timers nextTimer id (connection.retired now) where
  owned timer member := by cases member
  pinged nonce ping found := by simp [Connection.retired] at found
  awaited live := by cases live
  reached nonce ping found := by simp [Connection.retired] at found
  answered alive := by cases alive

/-- A new connection has no timer and no heartbeat yet. -/
theorem Held.of_opening (now : Nat) :
    Held timers nextTimer id (.opening now) where
  owned timer member := by cases member
  pinged nonce ping found := by simp [Connection.opening] at found
  awaited live nonce ping found := by simp [Connection.opening] at found
  reached nonce ping found := by simp [Connection.opening] at found
  answered alive := by cases alive

theorem Attended.of_dead (dead : connection.isLive = false) : Attended timers id connection := by
  have dead' : connection.state = .dead := by simpa [Connection.isLive] using dead
  exact {
    connecting := fun new => by simp [dead'] at new
    greeted := fun new => by simp [dead'] at new
    unclosed := fun live => by simp [dead] at live }

/-- A connection that was opened before awaits nothing but its close event. -/
theorem Attended.of_opened (opened : connection.state ≠ .new)
    (unclosed : connection.isLive = true → connection.socket.closeDelivered = false) :
    Attended timers id connection where
  connecting new := absurd new opened
  greeted new := absurd new opened
  unclosed := unclosed

theorem getElem?_setTimer (callback : Callback) {timer : Nat} (bound : timer < nextTimer) :
    (timers.insert nextTimer callback)[timer]? = timers[timer]? := by
  simp [TreeMap.getElem?_insert, bound.ne']

/-- A timer is set. -/
theorem Held.setTimer (held : Held timers nextTimer id connection) (callback : Callback) :
    Held (timers.insert nextTimer callback) (nextTimer + 1) id connection := by
  refine { held with
    owned := fun timer member => ?_
    pinged := fun nonce ping found => ?_
    awaited := fun live nonce ping found unexpired => ?_ }
  · obtain ⟨bound, own⟩ := held.owned timer member
    rw [getElem?_setTimer callback bound]
    exact ⟨Nat.lt_succ_of_lt bound, own⟩
  · obtain ⟨bound, own⟩ := held.pinged nonce ping found
    rw [getElem?_setTimer callback bound]
    exact ⟨Nat.lt_succ_of_lt bound, own⟩
  · rw [getElem?_setTimer callback (held.pinged nonce ping found).1]
    exact held.awaited live nonce ping found unexpired

theorem Attended.setTimer (attended : Attended timers id connection)
    (bounded : ∀ (timer : Nat) (callback : Callback), timers[timer]? = some callback →
      timer < nextTimer) (callback : Callback) :
    Attended (timers.insert nextTimer callback) id connection :=
  { attended with
    connecting := fun new connecting => by
      obtain ⟨timer, running⟩ := attended.connecting new connecting
      exact ⟨timer, (getElem?_setTimer callback (bounded timer _ running)).trans running⟩ }

/-- Timers are stopped that the heartbeats of this connection do not wait for. -/
theorem Held.stopTimers (held : Held timers nextTimer id connection)
    (stopped : ∀ (timer : Nat) (callback : Callback), fewer[timer]? = some callback →
      timers[timer]? = some callback)
    (kept : ∀ timer nonce : Nat, timers[timer]? = some (.pingTimeout id nonce) →
      fewer[timer]? = some (.pingTimeout id nonce)) : Held fewer nextTimer id connection :=
  { held with
    owned := fun timer member => ⟨(held.owned timer member).1, fun callback running =>
      (held.owned timer member).2 callback (stopped timer callback running)⟩
    pinged := fun nonce ping found => ⟨(held.pinged nonce ping found).1, fun callback running =>
      (held.pinged nonce ping found).2 callback (stopped _ callback running)⟩
    awaited := fun live nonce ping found unexpired =>
      kept _ _ (held.awaited live nonce ping found unexpired) }

theorem Attended.stopTimers (attended : Attended timers id connection)
    (kept : ∀ timer : Nat, timers[timer]? = some (.connectTimeout id) →
      fewer[timer]? = some (.connectTimeout id)) : Attended fewer id connection :=
  { attended with
    connecting := fun new connecting => by
      obtain ⟨timer, running⟩ := attended.connecting new connecting
      exact ⟨timer, kept timer running⟩ }

/-- A timer of the connection is forgotten. -/
theorem Held.dropTimer (held : Held timers nextTimer id connection) (timer : Nat) :
    Held timers nextTimer id (connection.dropTimer timer) :=
  { held with owned := fun other member => held.owned other (List.mem_of_mem_filter member) }

theorem Attended.dropTimer (attended : Attended timers id connection) (timer : Nat) :
    Attended timers id (connection.dropTimer timer) :=
  ⟨attended.connecting, attended.greeted, attended.unclosed⟩

/-- A timer of this connection is set. -/
theorem Held.ownTimer (held : Held timers nextTimer id connection) {callback : Callback}
    (own : callback.connection = some id) :
    Held (timers.insert nextTimer callback) (nextTimer + 1) id
      { connection with timers := connection.timers ++ [nextTimer] } := by
  have later := held.setTimer callback
  refine { later with owned := fun timer member => ?_ }
  rcases List.mem_append.mp member with earlier | last
  · exact later.owned timer earlier
  · rw [List.mem_singleton.mp last]
    refine ⟨Nat.lt_succ_self _, fun running found => ?_⟩
    have same : callback = running := by simpa using found
    rw [← same, own]

/-- A heartbeat is sent. -/
theorem Held.pinged_sent (held : Held timers nextTimer id connection)
    (opened : connection.socket.readyState = .opened) (now nonce : Nat) :
    Held (timers.insert nextTimer (.pingTimeout id nonce)) (nextTimer + 1) id
      (({ connection with timers := connection.timers ++ [nextTimer] } : Connection).pinged nonce
        { sentAt := now, timer := nextTimer, expired := false }) := by
  have own : (Callback.pingTimeout id nonce).connection = some id := rfl
  have later := held.ownTimer own
  have found_cases : ∀ (other : Nat) (ping : PendingPing),
      (connection.pings.insert nonce
        { sentAt := now, timer := nextTimer, expired := false })[other]? = some ping →
      nonce = other ∧ ping.timer = nextTimer ∨ connection.pings[other]? = some ping := by
    intro other ping found
    rw [TreeMap.getElem?_insert] at found
    split at found
    · rename_i same
      cases found
      exact .inl ⟨by simpa using same, rfl⟩
    · exact .inr found
  refine { later with
    pinged := fun other ping found => ?_
    awaited := fun live other ping found unexpired => ?_
    reached := fun other ping found => ?_ }
  · rcases found_cases other ping found with ⟨rfl, timer⟩ | earlier
    · rw [timer]
      refine ⟨Nat.lt_succ_self _, fun callback running => ?_⟩
      have same : Callback.pingTimeout id nonce = callback := by simpa using running
      exact same.symm
    · exact later.pinged other ping earlier
  · rcases found_cases other ping found with ⟨rfl, timer⟩ | earlier
    · rw [timer]
      simp
    · exact later.awaited live other ping earlier unexpired
  · change connection.socket.readyState ≠ .connecting
    rw [opened]
    decide

theorem Attended.pinged_sent (opened : connection.socket.readyState = .opened)
    (unclosed : connection.isLive = true → connection.socket.closeDelivered = false)
    (now nonce : Nat) :
    Attended timers id
      (({ connection with timers := connection.timers ++ [nextTimer] } : Connection).pinged nonce
        { sentAt := now, timer := nextTimer, expired := false }) where
  connecting new connecting := by cases opened.symm.trans connecting
  greeted new delivered := ⟨nonce, _, TreeMap.getElem?_insert_self, rfl⟩
  unclosed := unclosed

theorem getElem?_of_erase {timer other : Nat} {callback : Callback}
    (running : (timers.erase timer)[other]? = some callback) : timers[other]? = some callback := by
  rw [TreeMap.getElem?_erase] at running
  split at running
  · cases running
  · exact running

theorem getElem?_erase_of_ne {timer other : Nat} (apart : timer ≠ other) :
    (timers.erase timer)[other]? = timers[other]? := by
  rw [TreeMap.getElem?_erase, if_neg (by simpa using apart)]

/-- A timer of the connection has expired that belongs to no heartbeat it waits for. -/
theorem Held.timerExpired (held : Held timers nextTimer id connection) {timer : Nat}
    {callback : Callback} (running : timers[timer]? = some callback)
    (spared : connection.isLive = true → ∀ (nonce : Nat) (ping : PendingPing),
      connection.pings[nonce]? = some ping → callback ≠ .pingTimeout id nonce) :
    Held (timers.erase timer) nextTimer id (connection.dropTimer timer) where
  owned other member :=
    ⟨((held.dropTimer timer).owned other member).1, fun callback found =>
      ((held.dropTimer timer).owned other member).2 callback (getElem?_of_erase found)⟩
  pinged nonce ping found :=
    ⟨(held.pinged nonce ping found).1, fun callback running =>
      (held.pinged nonce ping found).2 callback (getElem?_of_erase running)⟩
  awaited live nonce ping found unexpired := by
    have waiting := held.awaited live nonce ping found unexpired
    have apart : timer ≠ ping.timer := by
      rintro rfl
      exact spared live nonce ping found (Option.some.inj (running.symm.trans waiting))
    rw [getElem?_erase_of_ne apart]
    exact waiting
  reached := held.reached
  answered := held.answered

/-- A heartbeat is missed. -/
theorem Held.pingExpired (held : Held timers nextTimer id connection) {timer nonce : Nat}
    (running : timers[timer]? = some (.pingTimeout id nonce)) :
    Held (timers.erase timer) nextTimer id
      ((connection.dropTimer timer).pingExpired nonce) := by
  have found_cases : ∀ (other : Nat) (ping : PendingPing),
      (OrderedMap.adjust connection.pings nonce fun ping => { ping with expired := true })[other]? =
        some ping → ∃ earlier : PendingPing, connection.pings[other]? = some earlier ∧
          ping.timer = earlier.timer ∧
            (ping.expired = false → nonce ≠ other ∧ earlier.expired = false) := by
    intro other ping found
    rw [OrderedMap.getElem?_adjust] at found
    split at found
    · rename_i same
      subst same
      obtain ⟨earlier, known, rfl⟩ := Option.map_eq_some_iff.mp found
      exact ⟨earlier, known, rfl, fun unexpired => by cases unexpired⟩
    · rename_i apart
      exact ⟨ping, found, rfl, fun unexpired => ⟨apart, unexpired⟩⟩
  exact {
    owned := fun other member =>
      ⟨((held.dropTimer timer).owned other member).1, fun callback found =>
        ((held.dropTimer timer).owned other member).2 callback (getElem?_of_erase found)⟩
    pinged := fun other ping found => by
      obtain ⟨earlier, known, same, _⟩ := found_cases other ping found
      rw [same]
      exact ⟨(held.pinged other earlier known).1, fun callback found =>
        (held.pinged other earlier known).2 callback (getElem?_of_erase found)⟩
    awaited := fun live other ping found unexpired => by
      obtain ⟨earlier, known, same, fresh⟩ := found_cases other ping found
      obtain ⟨apart, unmissed⟩ := fresh unexpired
      have waiting := held.awaited live other earlier known unmissed
      have different : timer ≠ earlier.timer := by
        rintro rfl
        rw [running, Option.some.injEq, Callback.pingTimeout.injEq] at waiting
        exact apart waiting.2
      rw [same, getElem?_erase_of_ne different]
      exact waiting
    reached := fun other ping found => by
      obtain ⟨earlier, known, _⟩ := found_cases other ping found
      exact held.reached other earlier known
    answered := held.answered }

/-- A heartbeat is answered. -/
theorem Held.answered_ping (held : Held timers nextTimer id connection) {nonce : Nat}
    {ping : PendingPing} (found : connection.pings[nonce]? = some ping)
    (live : connection.isLive = true) (now : Nat) :
    Held (timers.erase ping.timer) nextTimer id (connection.answered nonce ping now) := by
  have older : ∀ (other : Nat) (pending : PendingPing),
      ((connection.pings.erase nonce).filter fun _ other => !other.expired)[other]? = some pending →
        nonce ≠ other ∧ connection.pings[other]? = some pending := by
    intro other pending kept
    rw [TreeMap.getElem?_filter, Option.pfilter_eq_filter, Option.filter_eq_some_iff,
      TreeMap.getElem?_erase] at kept
    obtain ⟨kept, _⟩ := kept
    split at kept
    · cases kept
    · rename_i apart
      exact ⟨by simpa using apart, kept⟩
  exact {
    owned := fun other member =>
      ⟨(held.owned other (List.mem_of_mem_filter member)).1, fun callback running =>
        (held.owned other (List.mem_of_mem_filter member)).2 callback (getElem?_of_erase running)⟩
    pinged := fun other pending kept =>
      ⟨(held.pinged other pending (older other pending kept).2).1, fun callback running =>
        (held.pinged other pending (older other pending kept).2).2 callback
          (getElem?_of_erase running)⟩
    awaited := fun _ other pending kept unexpired => by
      obtain ⟨apart, known⟩ := older other pending kept
      have waiting := held.awaited live other pending known unexpired
      have different : ping.timer ≠ pending.timer := by
        intro same
        have own := (held.pinged nonce ping found).2 _ (same ▸ waiting)
        rw [Callback.pingTimeout.injEq] at own
        exact apart own.2.symm
      rw [getElem?_erase_of_ne different]
      exact waiting
    reached := fun other pending kept => held.reached other pending (older other pending kept).2
    answered := fun _ => ⟨rfl, held.reached nonce ping found⟩ }

/-- The socket of a connection changes, but does not begin anew. -/
theorem Held.withSocket (held : Held timers nextTimer id connection) {change : Socket → Socket}
    (opened : connection.socket.readyState ≠ .connecting →
      (change connection.socket).readyState ≠ .connecting) :
    Held timers nextTimer id { connection with socket := change connection.socket } :=
  { held with
    reached := fun nonce ping found => opened (held.reached nonce ping found)
    answered := fun alive => (held.answered alive).imp_right opened }

/-- A heartbeat was missed. -/
theorem Held.becomeStale (held : Held timers nextTimer id connection)
    (live : connection.isLive = true) (now : Nat) :
    Held timers nextTimer id (connection.becomeStale now) :=
  { held with
    awaited := fun _ => held.awaited live
    answered := fun alive => by cases alive }

end Timers

/-! ## The manager -/

/-- How the tick timer stands. -/
inductive Clock
  /-- It was never set. -/
  | stopped
  /-- Nothing is known. -/
  | unknown
  /-- It is running, unless the manager is destroyed. -/
  | running

namespace ConnectionManager

variable {μ κ : Type}

/-- The manager's tick timer stands so. -/
def Shows (manager : ConnectionManager) : Clock → Prop
  | .stopped => manager.tickTimer = none ∧ ∀ timer : Nat, manager.timers[timer]? ≠ some .tick
  | .unknown => True
  | .running => manager.destroyed = false →
      ∃ timer, manager.tickTimer = some timer ∧ manager.timers[timer]? = some .tick

/-- The timers of a manager, except what one connection awaits, after a number of sockets were
created. -/
structure Tied (except : Option Nat) (clock : Clock) (opens : Nat) (manager : ConnectionManager) :
    Prop where
  held : ∀ (id : Nat) (connection : Connection), manager.connections[id]? = some connection →
    Held manager.timers manager.nextTimer id connection
  attended : ∀ (id : Nat) (connection : Connection), manager.connections[id]? = some connection →
    except ≠ some id → Attended manager.timers id connection
  bounded : ∀ (timer : Nat) (callback : Callback), manager.timers[timer]? = some callback →
    timer < manager.nextTimer
  retry : ∀ timer, manager.retryTimer = some timer → manager.timers[timer]? = some .retry
  planned : manager.retryTimer.isSome = true → manager.attempts < ConnectionPolicy.maxAttempts
  shows : manager.Shows clock
  attempts : manager.attempts ≤ ConnectionPolicy.maxAttempts
  opened : opens ≤ manager.attempts
  cleared : manager.destroyed = true → ∀ id : Nat, manager.connections[id]? = none

variable {except other : Option Nat} {clock : Clock} {opens : Nat} {manager : ConnectionManager}

theorem connections_modify (manager : ConnectionManager) (id key : Nat)
    (change : Connection → Connection) : (manager.modify id change).connections[key]? =
      if id = key then (manager.connections[id]?).map change else manager.connections[key]? :=
  OrderedMap.getElem?_adjust manager.connections id key change

/-- Stopping timers of a connection leaves the tick timer as it is. -/
theorem Shows.stopTimers (shows : manager.Shows clock) {fewer : NumberMap Callback}
    (stopped : ∀ (timer : Nat) (callback : Callback), fewer[timer]? = some callback →
      manager.timers[timer]? = some callback)
    (kept : ∀ timer : Nat, manager.timers[timer]? = some .tick → fewer[timer]? = some .tick) :
    { manager with timers := fewer }.Shows clock := by
  cases clock with
  | stopped => exact ⟨shows.1, fun timer running => shows.2 timer (stopped timer _ running)⟩
  | unknown => trivial
  | running =>
      intro alive
      obtain ⟨timer, set, running⟩ := shows alive
      exact ⟨timer, set, kept timer running⟩

/-- One connection is changed, and timers of it are stopped. -/
theorem Tied.changeOne (tied : Tied except clock opens manager) {id : Nat}
    (only : except = none ∨ except = some id) {fewer : NumberMap Callback}
    {change : Connection → Connection}
    (stopped : ∀ (timer : Nat) (callback : Callback), fewer[timer]? = some callback →
      manager.timers[timer]? = some callback)
    (kept : ∀ (timer : Nat) (callback : Callback), manager.timers[timer]? = some callback →
      callback.connection ≠ some id → fewer[timer]? = some callback)
    (held : ∀ connection, manager.connections[id]? = some connection →
      Held fewer manager.nextTimer id (change connection))
    (attended : ∀ connection, manager.connections[id]? = some connection → other ≠ some id →
      Attended fewer id (change connection)) :
    Tied other clock opens ({ manager with timers := fewer }.modify id change) := by
  have others : ∀ key, key ≠ id → except ≠ some key := by
    intro key apart
    rcases only with none | some
    · simp [none]
    · rw [some]
      exact fun same => apart (Option.some.inj same).symm
  exact { tied with
    held := fun key connection known => by
      rw [connections_modify] at known
      split at known
      · rename_i same
        subst same
        obtain ⟨before, stored, rfl⟩ := Option.map_eq_some_iff.mp known
        exact held before stored
      · rename_i apart
        exact (tied.held key connection known).stopTimers stopped fun timer nonce running =>
          kept timer _ running fun same => apart (Option.some.inj same).symm
    attended := fun key connection known waived => by
      rw [connections_modify] at known
      split at known
      · rename_i same
        subst same
        obtain ⟨before, stored, rfl⟩ := Option.map_eq_some_iff.mp known
        exact attended before stored waived
      · rename_i apart
        exact (tied.attended key connection known (others key (Ne.symm apart))).stopTimers
          fun timer running => kept timer _ running fun same => apart (Option.some.inj same).symm
    bounded := fun timer callback running => tied.bounded timer callback (stopped timer _ running)
    retry := fun timer set => kept timer _ (tied.retry timer set) (by simp [Callback.connection])
    shows := tied.shows.stopTimers stopped fun timer running =>
      kept timer _ running (by simp [Callback.connection])
    cleared := fun destroyed key => by
      rw [connections_modify]
      split
      · exact congrArg (Option.map change) (tied.cleared destroyed id)
      · exact tied.cleared destroyed key }

/-- One connection is changed. -/
theorem Tied.modify (tied : Tied except clock opens manager) {id : Nat}
    (only : except = none ∨ except = some id) {change : Connection → Connection}
    (held : ∀ connection, manager.connections[id]? = some connection →
      Held manager.timers manager.nextTimer id (change connection))
    (attended : ∀ connection, manager.connections[id]? = some connection → other ≠ some id →
      Attended manager.timers id (change connection)) :
    Tied other clock opens (manager.modify id change) :=
  tied.changeOne only (fun _ _ running => running) (fun _ _ running _ => running) held attended

/-- What was waived holds after all. -/
theorem Tied.settle {id : Nat} (tied : Tied (some id) clock opens manager)
    (attended : ∀ connection, manager.connections[id]? = some connection →
      Attended manager.timers id connection) : Tied none clock opens manager :=
  { tied with
    attended := fun key connection known _ => by
      by_cases same : id = key
      · subst same
        exact attended connection known
      · exact tied.attended key connection known fun waived => same (Option.some.inj waived) }

/-- A timer is set. -/
theorem Tied.setTimer (tied : Tied except clock opens manager) (callback : Callback)
    {clock' : Clock} (shows : (manager.later callback).Shows clock') :
    Tied except clock' opens (manager.later callback) :=
  { tied with
    held := fun id connection known => (tied.held id connection known).setTimer callback
    attended := fun id connection known kept =>
      (tied.attended id connection known kept).setTimer tied.bounded callback
    bounded := fun timer running found => by
      unfold ConnectionManager.later at found
      rw [TreeMap.getElem?_insert] at found
      split at found
      · rename_i same
        rw [← (by simpa using same : manager.nextTimer = timer)]
        exact Nat.lt_succ_self _
      · exact Nat.lt_succ_of_lt (tied.bounded timer running found)
    retry := fun timer set =>
      (getElem?_setTimer callback (tied.bounded timer _ (tied.retry timer set))).trans
        (tied.retry timer set)
    shows }

/-- A timer is set that is not the tick timer. -/
theorem Tied.later (tied : Tied except clock opens manager) {callback : Callback}
    (other : callback ≠ .tick) : Tied except clock opens (manager.later callback) := by
  refine tied.setTimer callback ?_
  have shows := tied.shows
  cases clock with
  | stopped =>
      refine ⟨shows.1, fun timer running => ?_⟩
      unfold ConnectionManager.later at running
      rw [TreeMap.getElem?_insert] at running
      split at running
      · exact other (Option.some.inj running)
      · exact shows.2 timer running
  | unknown => trivial
  | running =>
      intro alive
      obtain ⟨timer, set, running⟩ := shows alive
      exact ⟨timer, set, (getElem?_setTimer callback (tied.bounded timer _ running)).trans running⟩

/-- The retry timer is stopped, or has expired. -/
theorem Tied.stopRetry (tied : Tied except clock opens manager) {timer : Nat}
    (retries : ∀ callback : Callback, manager.timers[timer]? = some callback → callback = .retry) :
    Tied except clock opens { manager.cancel timer with retryTimer := none } := by
  have stopped : ∀ (other : Nat) (callback : Callback),
      (manager.timers.erase timer)[other]? = some callback →
        manager.timers[other]? = some callback := fun _ _ => getElem?_of_erase
  have kept : ∀ (other : Nat) (callback : Callback), manager.timers[other]? = some callback →
      callback ≠ .retry → (manager.timers.erase timer)[other]? = some callback := by
    intro other callback running needed
    have apart : timer ≠ other := by
      rintro rfl
      exact needed (retries callback running)
    rw [getElem?_erase_of_ne apart]
    exact running
  exact { tied with
    held := fun id connection known => (tied.held id connection known).stopTimers stopped
      fun other nonce running => kept other _ running (by simp)
    attended := fun id connection known waived =>
      (tied.attended id connection known waived).stopTimers
        fun other running => kept other _ running (by simp)
    bounded := fun other callback running => tied.bounded other callback (stopped other _ running)
    retry := fun other set => by cases set
    planned := fun planned => by cases planned
    shows := tied.shows.stopTimers stopped fun other running => kept other _ running (by simp) }

theorem Tied.cancelRetry (tied : Tied except clock opens manager) :
    Tied except clock opens manager.cancelRetry := by
  unfold ConnectionManager.cancelRetry
  cases set : manager.retryTimer with
  | none => exact { tied with
      retry := fun timer set => by cases set
      planned := fun planned => by cases planned }
  | some timer =>
      refine tied.stopRetry fun callback running => ?_
      rw [tied.retry timer set] at running
      exact (Option.some.inj running).symm

/-! ## Giving up -/

theorem cancelAll_eq (timers : List Nat) (manager : ConnectionManager) :
    timers.foldl cancel manager =
      { manager with
        timers := timers.foldl (fun running timer => running.erase timer) manager.timers } := by
  induction timers generalizing manager with
  | nil => rfl
  | cons timer rest ih => exact ih (manager.cancel timer)

theorem getElem?_eraseAll (stopped : List Nat) (timers : NumberMap Callback) (timer : Nat) :
    (stopped.foldl (fun running timer => running.erase timer) timers)[timer]? =
      if timer ∈ stopped then none else timers[timer]? := by
  induction stopped generalizing timers with
  | nil => simp
  | cons first rest ih =>
      rw [List.foldl_cons, ih, TreeMap.getElem?_erase]
      by_cases same : first = timer
      · subst same
        simp
      · simp [same, Ne.symm same]

theorem Tied.retire (tied : Tied except clock opens manager) (reading : Reading) {id : Nat}
    (only : except = none ∨ except = some id) :
    Tied none clock opens (retire reading id manager : _ × List (Output μ κ)).1 := by
  have settled : (∀ connection, manager.connections[id]? = some connection →
      connection.isLive = false) → Tied none clock opens manager := by
    intro dead
    rcases only with rfl | rfl
    · exact tied
    · exact tied.settle fun connection known => .of_dead (dead connection known)
  unfold ConnectionManager.retire
  cases known : manager.connections[id]? with
  | none => exact settled fun connection found => by simp [known] at found
  | some connection =>
      dsimp only
      split
      · rw [cancelAll_eq]
        refine tied.changeOne only ?_ ?_ (fun _ _ => .of_retired reading.now)
          (fun _ _ _ => .of_dead rfl)
        · intro timer callback running
          rw [getElem?_eraseAll] at running
          split at running
          · cases running
          · exact running
        · intro timer callback running foreign
          rw [getElem?_eraseAll, if_neg]
          · exact running
          · intro member
            exact foreign (((tied.held id connection known).owned timer member).2 callback running)
      · rename_i dead
        refine settled fun other found => ?_
        cases known.symm.trans found
        simpa using dead

theorem Tied.retireAll (tied : Tied none clock opens manager) (reading : Reading)
    (selects : Nat → Bool) :
    Tied none clock opens (retireAll reading selects manager : _ × List (Output μ κ)).1 := by
  have all : ∀ (ids : List Nat) (start : ConnectionManager), Tied none clock opens start →
      Tied none clock opens
        (forEach (ConnectionManager.retire reading) ids start : _ × List (Output μ κ)).1 := by
    intro ids
    induction ids with
    | nil => exact fun start tied => tied
    | cons id rest ih => exact fun start tied => ih _ (tied.retire reading (.inl rfl))
  exact all _ manager tied

theorem Tied.scheduleRetry (tied : Tied except clock opens manager) (reading : Reading) :
    Tied except clock opens (scheduleRetry reading manager : _ × List (Output μ κ)).1 := by
  unfold ConnectionManager.scheduleRetry
  split_ifs with idle exhausted
  · exact tied
  · exact { tied with }
  · exact { tied with }
  · have other : Callback.retry ≠ .tick := by simp
    have later := tied.later other
    exact { later with
      retry := fun timer set => by
        cases set
        exact TreeMap.getElem?_insert_self
      planned := fun _ => Nat.lt_of_not_le exhausted }

theorem Tied.die (tied : Tied except clock opens manager) (reading : Reading) {id : Nat}
    (only : except = none ∨ except = some id) (code : Nat) :
    Tied none clock opens (die reading id code manager : _ × List (Output μ κ)).1 := by
  have settled : (∀ connection, manager.connections[id]? = some connection →
      connection.isLive = false) → Tied none clock opens manager := by
    intro dead
    rcases only with rfl | rfl
    · exact tied
    · exact tied.settle fun connection known => .of_dead (dead connection known)
  unfold ConnectionManager.die
  cases known : manager.connections[id]? with
  | none => exact settled fun connection found => by simp [known] at found
  | some connection =>
      dsimp only
      split
      · rename_i early
        rw [Bool.or_eq_true, Bool.not_eq_true'] at early
        refine settled fun other found => ?_
        cases known.symm.trans found
        rcases early with destroyed | dead
        · simp [tied.cleared destroyed id] at known
        · exact dead
      · have dropped : Tied except clock opens (if manager.activeId = some id then
            { manager with activeId := none } else manager) := by
          split
          · exact { tied with }
          · exact tied
        generalize (if manager.activeId = some id then
          { manager with activeId := none } else manager) = start at dropped ⊢
        have retired : Tied none clock opens
            (ConnectionManager.retire reading id start : _ × List (Output μ κ)).1 :=
          dropped.retire reading only
        rw [andThen_fst, andThen_fst, emit_fst]
        split_ifs
        · refine Tied.retireAll (Tied.cancelRetry ?_) reading _
          exact { retired with }
        · exact retired
        · exact retired.scheduleRetry reading

/-! ## Heartbeats and new connections -/

/-- A connection whose socket is open is sent a heartbeat. -/
theorem Tied.addPing (tied : Tied except clock opens manager) (reading : Reading) {id : Nat}
    (only : except = none ∨ except = some id)
    (opened : ∀ connection, manager.connections[id]? = some connection →
      connection.socket.readyState = .opened)
    (unclosed : ∀ connection, manager.connections[id]? = some connection →
      connection.isLive = true → connection.socket.closeDelivered = false) :
    Tied none clock opens (manager.addPing reading id) := by
  have spent : Tied except clock opens { manager with nextNonce := manager.nextNonce + 1 } :=
    { tied with }
  have other : Callback.pingTimeout id manager.nextNonce ≠ .tick := by simp
  have own : (Callback.pingTimeout id manager.nextNonce).connection = some id := rfl
  have later := spent.later other
  -- Between the two changes the connection has a timer, but no heartbeat for it.
  have timed : Tied (some id) clock opens
      ({ manager with nextNonce := manager.nextNonce + 1 }.timer id
        (.pingTimeout id manager.nextNonce)) :=
    later.modify only (fun connection known => (tied.held id connection known).ownTimer own)
      fun _ _ waived => absurd rfl waived
  have stored : ∀ connection,
      ({ manager with nextNonce := manager.nextNonce + 1 }.timer id
        (.pingTimeout id manager.nextNonce)).connections[id]? = some connection →
      ∃ before, manager.connections[id]? = some before ∧
        connection = { before with timers := before.timers ++ [manager.nextTimer] } := by
    intro connection known
    unfold timer at known
    rw [connections_modify, if_pos rfl] at known
    obtain ⟨before, earlier, rfl⟩ := Option.map_eq_some_iff.mp known
    exact ⟨before, earlier, rfl⟩
  refine timed.modify (.inr rfl) (fun connection known => ?_) fun connection known _ => ?_
  · obtain ⟨before, earlier, rfl⟩ := stored connection known
    exact (tied.held id before earlier).pinged_sent (opened before earlier) reading.now
      manager.nextNonce
  · obtain ⟨before, earlier, rfl⟩ := stored connection known
    exact Attended.pinged_sent (opened before earlier) (unclosed before earlier) reading.now
      manager.nextNonce

/-- A connection whose socket is open is sent a heartbeat, while nothing is waived. -/
theorem Tied.addPing_opened (tied : Tied none clock opens manager) (reading : Reading) {id : Nat}
    {connection : Connection} (known : manager.connections[id]? = some connection)
    (opened : connection.socket.readyState = .opened) :
    Tied none clock opens (manager.addPing reading id) :=
  tied.addPing reading (.inl rfl)
    (fun other found => by
      cases known.symm.trans found
      exact opened)
    fun other found => (tied.attended id other found (by simp)).unclosed

theorem Tied.ping (tied : Tied none clock opens manager) (reading : Reading) (id : Nat) :
    Tied none clock opens (ping reading id manager : _ × List (Output μ κ)).1 := by
  unfold ConnectionManager.ping
  cases known : manager.connections[id]? with
  | none => exact tied
  | some connection =>
      dsimp only
      split_ifs with closed awaited
      · exact tied
      · exact tied
      · simp only [Bool.or_eq_true, bne_iff_ne, not_or, ne_eq, Decidable.not_not] at closed
        exact tied.addPing_opened reading known closed.1.2
      · simp only [Bool.or_eq_true, bne_iff_ne, not_or, ne_eq, Decidable.not_not] at closed
        exact (tied.addPing_opened reading known closed.1.2).die reading (.inl rfl) 1006

theorem attempt_destroyed (manager : ConnectionManager) :
    manager.attempt.destroyed = manager.destroyed := by
  unfold attempt cancelRetry
  dsimp only
  split <;> rfl

/-- An attempt is counted. -/
theorem Tied.attempt (tied : Tied except clock opens manager)
    (left : manager.attempts < ConnectionPolicy.maxAttempts) :
    Tied except clock opens manager.attempt ∧ opens < manager.attempt.attempts := by
  have stopped := tied.cancelRetry
  have more : manager.attempt.attempts = manager.attempts + 1 := rfl
  refine ⟨{ stopped with
    planned := fun planned => by cases planned
    attempts := ?_
    opened := ?_ }, ?_⟩
  · rw [more]
    omega
  · rw [more]
    exact Nat.le_succ_of_le tied.opened
  · rw [more]
    exact Nat.lt_succ_of_le tied.opened

/-- A connection is added. -/
theorem Tied.addConnection (tied : Tied none clock opens manager) (reading : Reading)
    (counted : opens < manager.attempts) (alive : manager.destroyed = false) :
    Tied none clock (opens + 1) (manager.addConnection reading) := by
  have known_cases : ∀ (id : Nat) (connection : Connection),
      (manager.connections.insert manager.nextNonce (.opening reading.now))[id]? = some connection →
        id = manager.nextNonce ∧ connection = .opening reading.now ∨
          manager.connections[id]? = some connection := by
    intro id connection known
    rw [TreeMap.getElem?_insert] at known
    split at known
    · rename_i same
      cases known
      exact .inl ⟨(by simpa using same : manager.nextNonce = id).symm, rfl⟩
    · exact .inr known
  have added : Tied (some manager.nextNonce) clock (opens + 1) { manager with
      connections := manager.connections.insert manager.nextNonce (.opening reading.now)
      nextNonce := manager.nextNonce + 1 } :=
    { tied with
      held := fun id connection known => by
        rcases known_cases id connection known with ⟨_, rfl⟩ | earlier
        · exact .of_opening reading.now
        · exact tied.held id connection earlier
      attended := fun id connection known kept => by
        rcases known_cases id connection known with ⟨same, _⟩ | earlier
        · exact absurd (congrArg some same.symm) kept
        · exact tied.attended id connection earlier (by simp)
      opened := counted
      cleared := fun destroyed => by cases alive.symm.trans destroyed }
  have other : Callback.connectTimeout manager.nextNonce ≠ .tick := by simp
  have own : (Callback.connectTimeout manager.nextNonce).connection = some manager.nextNonce := rfl
  refine (added.later other).modify (.inr rfl)
    (fun connection known => (added.held _ connection known).ownTimer own)
    fun connection known _ => ?_
  have stored : (manager.connections.insert manager.nextNonce
      (.opening reading.now))[manager.nextNonce]? = some connection := known
  rw [TreeMap.getElem?_insert_self, Option.some.injEq] at stored
  subst stored
  exact {
    connecting := fun _ _ => ⟨manager.nextTimer, TreeMap.getElem?_insert_self⟩
    greeted := fun _ delivered => by cases delivered
    unclosed := fun _ => rfl }

/-- The number of sockets that were created. -/
def opensIn (outputs : List (Output μ κ)) : Nat := outputs.countP Output.isOpen

theorem plain_unopened : Plain fun output : Output μ κ => output.isOpen = false :=
  ⟨fun _ => rfl, fun _ _ _ => rfl, fun _ => rfl⟩

theorem opensIn_eq_zero {outputs : List (Output μ κ)}
    (unopened : ∀ output ∈ outputs, output.isOpen = false) : opensIn outputs = 0 := by
  unfold opensIn
  rw [List.countP_eq_zero]
  intro output member opens
  cases (unopened output member).symm.trans opens

theorem Tied.connect (tied : Tied none clock opens manager) (reading : Reading) :
    Tied none clock (opens + opensIn (connect reading manager : _ × List (Output μ κ)).2)
      (connect reading manager : _ × List (Output μ κ)).1 := by
  have unopened : ∀ {step : Step ConnectionManager (Output μ κ)} {start : ConnectionManager},
      Emits (fun output => output.isOpen = false) step → Tied none clock opens (step start).1 →
      Tied none clock (opens + opensIn (step start).2) (step start).1 := by
    intro step start plain tied
    rw [opensIn_eq_zero (plain start).2]
    exact tied
  unfold ConnectionManager.connect
  split_ifs with idle hidden opening alive exhausted failed
  · exact tied
  · exact unopened (emit_emits plain_unopened) { tied with }
  · exact tied
  · exact tied
  · exact unopened (emit_emits plain_unopened) { tied with }
  · exact unopened (scheduleRetry_emits plain_unopened reading)
      ((tied.attempt (Nat.lt_of_not_le exhausted)).1.scheduleRetry reading)
  · obtain ⟨attempted, counted⟩ := tied.attempt (Nat.lt_of_not_le exhausted)
    have undestroyed : manager.attempt.destroyed = false := by
      simp only [Bool.or_eq_true, not_or, Bool.not_eq_true] at idle
      rw [attempt_destroyed]
      exact idle.1.1
    have opened : opensIn (andThen (fun manager : ConnectionManager =>
        (manager.addConnection reading, [Output.openSocket manager.nextNonce])) emit
          manager.attempt : _ × List (Output μ κ)).2 = 1 := by
      rw [andThen_snd, opensIn, List.countP_append]
      have unopened : Emits (fun output : Output μ κ => output.isOpen = false) emit :=
        emit_emits plain_unopened
      have quiet := opensIn_eq_zero (unopened (manager.attempt.addConnection reading)).2
      unfold opensIn at quiet
      simp [quiet, Output.isOpen]
    rw [opened, andThen_fst, emit_fst]
    exact attempted.addConnection reading counted undestroyed

@[simp]
theorem opensIn_nil : opensIn ([] : List (Output μ κ)) = 0 := rfl

@[simp]
theorem opensIn_andThen (first second : Step ConnectionManager (Output μ κ))
    (manager : ConnectionManager) : opensIn (andThen first second manager).2 =
      opensIn (first manager).2 + opensIn (second (first manager).1).2 :=
  List.countP_append

@[simp]
theorem opensIn_emit (manager : ConnectionManager) :
    opensIn (emit manager : _ × List (Output μ κ)).2 = 0 :=
  opensIn_eq_zero (emit_emits plain_unopened manager).2

/-- A connection turns stale. -/
theorem Tied.addGrace (tied : Tied except clock opens manager) (reading : Reading) {id : Nat}
    (only : except = none ∨ except = some id)
    (live : ∀ connection, manager.connections[id]? = some connection → connection.isLive = true)
    (unclosed : ∀ connection, manager.connections[id]? = some connection →
      connection.isLive = true → connection.socket.closeDelivered = false) :
    Tied none clock opens (manager.addGrace reading id) := by
  have stale : Tied none clock opens (manager.modify id (·.becomeStale reading.now)) :=
    tied.modify only
      (fun connection known => (tied.held id connection known).becomeStale (live connection known)
        reading.now)
      fun connection known _ => .of_opened (by simp [Connection.becomeStale])
        fun _ => unclosed connection known (live connection known)
  have other : Callback.graceTimeout id (reading.now + ConnectionPolicy.graceMs) ≠ .tick := by simp
  have own : (Callback.graceTimeout id (reading.now + ConnectionPolicy.graceMs)).connection =
      some id := rfl
  have later := stale.later other
  refine later.modify (.inl rfl)
    (fun connection known => (stale.held id connection known).ownTimer own)
    fun connection known _ => ?_
  have attended := later.attended id connection known (by simp)
  exact ⟨attended.connecting, attended.greeted, attended.unclosed⟩

theorem Tied.markStale (tied : Tied except clock opens manager) (reading : Reading) {id : Nat}
    (only : except = none ∨ except = some id)
    (unclosed : ∀ connection, manager.connections[id]? = some connection →
      connection.isLive = true → connection.socket.closeDelivered = false) :
    Tied none clock (opens + opensIn (markStale reading id manager : _ × List (Output μ κ)).2)
      (markStale reading id manager : _ × List (Output μ κ)).1 := by
  have settled : (∀ connection, manager.connections[id]? = some connection →
      Attended manager.timers id connection) → Tied none clock opens manager := by
    intro attended
    rcases only with rfl | rfl
    · exact tied
    · exact tied.settle attended
  unfold ConnectionManager.markStale
  cases known : manager.connections[id]? with
  | none => exact settled fun connection found => by simp [known] at found
  | some connection =>
      dsimp only
      split
      · rename_i early
        simp only [Bool.or_eq_true, beq_iff_eq] at early
        refine settled fun other found => ?_
        cases known.symm.trans found
        rcases early with (destroyed | dead) | stale
        · simp [tied.cleared destroyed id] at known
        · exact .of_dead (by simp [Connection.isLive, dead])
        · exact .of_opened (by simp [stale]) (unclosed connection known)
      · rename_i running
        simp only [Bool.or_eq_true, beq_iff_eq, not_or] at running
        have graced := tied.addGrace reading only (fun other found => by
          cases known.symm.trans found
          simpa [Connection.isLive] using running.1.2) unclosed
        rw [opensIn_andThen, opensIn_emit, Nat.zero_add, andThen_fst, emit_fst]
        exact graced.connect reading

/-- A heartbeat is answered. -/
theorem Tied.addPong (tied : Tied none clock 0 manager) (reading : Reading) {id nonce : Nat}
    {connection : Connection} {ping : PendingPing}
    (known : manager.connections[id]? = some connection) (live : connection.isLive = true)
    (pending : connection.pings[nonce]? = some ping) :
    Tied none clock 0 (manager.addPong reading id nonce ping) := by
  have own : ∀ callback : Callback, manager.timers[ping.timer]? = some callback →
      callback.connection = some id := by
    intro callback running
    rw [((tied.held id connection known).pinged nonce ping pending).2 callback running]
    rfl
  have answered : Tied none clock 0
      ((manager.cancel ping.timer).modify id (·.answered nonce ping reading.now)) := by
    refine tied.changeOne (.inl rfl) (fun _ _ => getElem?_of_erase)
      (fun timer callback running foreign => ?_) (fun other found => ?_) fun other found _ => ?_
    · have apart : ping.timer ≠ timer := by
        rintro rfl
        exact foreign (own callback running)
      rw [getElem?_erase_of_ne apart]
      exact running
    · cases known.symm.trans found
      exact (tied.held id connection known).answered_ping pending live reading.now
    · cases known.symm.trans found
      exact .of_opened (by simp [Connection.answered])
        fun _ => (tied.attended id connection known (by simp)).unclosed live
  have stopped := answered.cancelRetry
  exact { stopped with
    planned := fun planned => by cases planned
    attempts := Nat.zero_le _
    opened := Nat.le_refl _ }

/-! ## Going on -/

/-- The manager is not to connect, or it is connected, or it will try to connect. -/
def Going (manager : ConnectionManager) : Prop :=
  manager.destroyed = true ∨ manager.terminal = true ∨ manager.suspended = true ∨
    manager.deferred = true ∨ manager.retryTimer.isSome = true ∨
    ∃ id, manager.cast.role id = some .alive ∨ manager.cast.role id = some .new

theorem going_of_hasConnection {manager : ConnectionManager}
    (healthy : (manager.hasConnection fun other =>
      other.state == .alive || other.state == .new) = true) :
    Going manager := by
  obtain ⟨id, connection, known, state⟩ := (OrderedMap.anyValue_eq_true_iff _ _).mp healthy
  rw [Bool.or_eq_true, beq_iff_eq, beq_iff_eq] at state
  refine .inr (.inr (.inr (.inr (.inr ⟨id, ?_⟩))))
  simpa [cast, known] using state

theorem scheduleRetry_going (reading : Reading) (manager : ConnectionManager) :
    Going (scheduleRetry reading manager : _ × List (Output μ κ)).1 := by
  unfold scheduleRetry
  split_ifs with idle
  · simp only [Bool.or_eq_true] at idle
    rcases idle with ((destroyed | suspended) | terminal) | planned
    · exact .inl destroyed
    · exact .inr (.inr (.inl suspended))
    · exact .inr (.inl terminal)
    · exact .inr (.inr (.inr (.inr (.inl planned))))
  · exact .inr (.inl rfl)
  · exact .inr (.inr (.inr (.inl rfl)))
  · exact .inr (.inr (.inr (.inr (.inl rfl))))

/-- Giving a connection up changes the connections and the timers only. -/
theorem retire_frame {α : Type} (part : ConnectionManager → α)
    (frame : ∀ (manager : ConnectionManager) timers connections,
      part { manager with timers, connections } = part manager)
    (reading : Reading) (id : Nat) (manager : ConnectionManager) :
    part (retire reading id manager : _ × List (Output μ κ)).1 = part manager := by
  unfold retire
  split
  · rfl
  · split
    · rw [cancelAll_eq]
      exact frame manager _ _
    · rfl

theorem retireAll_frame {α : Type} (part : ConnectionManager → α)
    (frame : ∀ (manager : ConnectionManager) timers connections,
      part { manager with timers, connections } = part manager)
    (reading : Reading) (selects : Nat → Bool) (manager : ConnectionManager) :
    part (retireAll reading selects manager : _ × List (Output μ κ)).1 = part manager := by
  have leaves : ∀ id, Leaves part (fun _ => True)
      (retire reading id : Step ConnectionManager (Output μ κ)) :=
    fun id manager => ⟨retire_frame part frame reading id manager, fun _ _ => trivial⟩
  exact (Leaves.forEach leaves _ manager).1

theorem cancelRetry_frame {α : Type} (part : ConnectionManager → α)
    (frame : ∀ (manager : ConnectionManager) timers retryTimer,
      part { manager with timers, retryTimer } = part manager)
    (manager : ConnectionManager) : part manager.cancelRetry = part manager := by
  unfold cancelRetry
  dsimp only
  split
  · exact frame manager _ _
  · exact frame manager _ _

theorem die_going (reading : Reading) (id code : Nat) {manager : ConnectionManager}
    (going : Going manager) : Going (die reading id code manager : _ × List (Output μ κ)).1 := by
  unfold die
  cases known : manager.connections[id]? with
  | none => exact going
  | some connection =>
      dsimp only
      split
      · exact going
      · generalize (if manager.activeId = some id then
          { manager with activeId := none } else manager) = start
        rw [andThen_fst, andThen_fst, emit_fst]
        split_ifs with permanent healthy
        · refine .inr (.inl ?_)
          rw [retireAll_frame terminal fun _ _ _ => rfl,
            cancelRetry_frame terminal fun _ _ _ => rfl]
        · exact going_of_hasConnection healthy
        · exact scheduleRetry_going reading _

theorem connect_going (reading : Reading) {manager : ConnectionManager}
    (sound : manager.cast.Sound) : Going (connect reading manager : _ × List (Output μ κ)).1 := by
  unfold connect
  split_ifs with idle hidden opening alive exhausted failed
  · simp only [Bool.or_eq_true] at idle
    rcases idle with (destroyed | terminal) | suspended
    · exact .inl destroyed
    · exact .inr (.inl terminal)
    · exact .inr (.inr (.inl suspended))
  · exact .inr (.inr (.inr (.inl rfl)))
  · rw [Bool.or_eq_true, decide_eq_true_iff] at opening
    rcases opening with new | crowded
    · obtain ⟨id, connection, known, state⟩ := (OrderedMap.anyValue_eq_true_iff _ _).mp new
      rw [beq_iff_eq] at state
      exact .inr (.inr (.inr (.inr (.inr ⟨id, .inr (by simp [cast, known, state])⟩))))
    · have few := live_le_two sound
      simp only [ConnectionPolicy.poolSize] at crowded
      omega
  · obtain ⟨id, connection, known, state⟩ := (OrderedMap.anyValue_eq_true_iff _ _).mp alive
    rw [beq_iff_eq] at state
    exact .inr (.inr (.inr (.inr (.inr ⟨id, .inl (by simp [cast, known, state])⟩))))
  · exact .inr (.inl rfl)
  · exact scheduleRetry_going reading _
  · rw [andThen_fst, emit_fst]
    refine .inr (.inr (.inr (.inr (.inr ⟨manager.attempt.nextNonce, .inr ?_⟩))))
    change (manager.attempt.addConnection reading).cast.role _ = _
    rw [cast_addConnection]
    simp [Cast.assign, cast]

/-! ## What every operation keeps -/

/-- The timers, the roles, and the will to go on, after a number of sockets were created. -/
structure Inv (clock : Clock) (going : Bool) (opens : Nat) (manager : ConnectionManager) :
    Prop where
  tied : Tied none clock opens manager
  sound : manager.cast.Sound
  going : going = true → Going manager

variable {going : Bool}

/-- A step that opens no socket. -/
theorem Inv.of_plain {step : Step ConnectionManager (Output μ κ)} {after : Bool}
    (emits : Emits (fun output => output.isOpen = false) step)
    (tied : Tied none clock opens (step manager).1) (sound : (step manager).1.cast.Sound)
    (goes : after = true → Going (step manager).1) :
    Inv clock after (opens + opensIn (step manager).2) (step manager).1 := by
  rw [opensIn_eq_zero (emits manager).2]
  exact ⟨tied, sound, goes⟩

theorem Inv.emit (inv : Inv clock going opens manager) :
    Inv clock going (opens + opensIn (emit manager : _ × List (Output μ κ)).2)
      (emit manager : _ × List (Output μ κ)).1 := by
  rw [opensIn_emit]
  exact inv

/-- One step after another. -/
theorem Inv.andThen {first second : Step ConnectionManager (Output μ κ)} {clock' : Clock}
    {middle after : Bool}
    (invFirst : Inv clock middle (opens + opensIn (first manager).2) (first manager).1)
    (invSecond : ∀ opens start, Inv clock middle opens start →
      Inv clock' after (opens + opensIn (second start).2) (second start).1) :
    Inv clock' after (opens + opensIn (andThen first second manager).2)
      (andThen first second manager).1 := by
  rw [opensIn_andThen, ← Nat.add_assoc]
  exact invSecond _ _ invFirst

theorem Inv.forEach {α : Type} {step : α → Step ConnectionManager (Output μ κ)}
    (keeps : ∀ item opens start, Inv clock going opens start →
      Inv clock going (opens + opensIn (step item start).2) (step item start).1) (items : List α)
    (inv : Inv clock going opens manager) :
    Inv clock going (opens + opensIn (forEach step items manager).2)
      (forEach step items manager).1 := by
  induction items generalizing opens manager with
  | nil => exact inv
  | cons item rest ih =>
      rw [forEach_cons]
      exact (keeps item opens manager inv).andThen fun opens start inv => ih inv

theorem die_inv (inv : Inv clock going opens manager) (reading : Reading) (id code : Nat) :
    Inv clock going (opens + opensIn (die reading id code manager : _ × List (Output μ κ)).2)
      (die reading id code manager : _ × List (Output μ κ)).1 :=
  .of_plain (die_emits plain_unopened reading id code) (inv.tied.die reading (.inl rfl) code)
    (inv.sound.moves (die_moves reading id code manager))
    fun goes => die_going reading id code (inv.going goes)

/-- Sending a heartbeat changes nothing the manager goes on by. -/
theorem addPing_going (reading : Reading) (id : Nat) (going : Going manager) :
    Going (manager.addPing reading id) := by
  have roles : (manager.addPing reading id).cast.role = manager.cast.role := by
    rw [cast_addPing]
  unfold Going
  rw [roles]
  exact going

theorem ping_going (reading : Reading) (id : Nat) (going : Going manager) :
    Going (ping reading id manager : _ × List (Output μ κ)).1 := by
  unfold ping
  split
  · exact going
  · split_ifs
    · exact going
    · exact going
    · exact addPing_going reading id going
    · exact die_going reading id 1006 (addPing_going reading id going)

theorem ping_inv (inv : Inv clock going opens manager) (reading : Reading) (id : Nat) :
    Inv clock going (opens + opensIn (ping reading id manager : _ × List (Output μ κ)).2)
      (ping reading id manager : _ × List (Output μ κ)).1 :=
  .of_plain (ping_emits plain_unopened reading id) (inv.tied.ping reading id)
    (inv.sound.moves (ping_moves reading id manager))
    fun goes => ping_going reading id (inv.going goes)

/-- After an attempt to connect the manager goes on, whatever was before. -/
theorem connect_inv {after : Bool} (inv : Inv clock going opens manager) (reading : Reading) :
    Inv clock after (opens + opensIn (connect reading manager : _ × List (Output μ κ)).2)
      (connect reading manager : _ × List (Output μ κ)).1 :=
  ⟨inv.tied.connect reading, inv.sound.moves (connect_moves reading manager),
    fun _ => connect_going reading inv.sound⟩

theorem markStale_going (reading : Reading) {id : Nat} (going : Going manager)
    (sound : manager.cast.Sound)
    (was : manager.cast.role id = some .alive ∨ manager.activeId = some id ∨
      manager.cast.role id = some .stale) :
    Going (markStale reading id manager : _ × List (Output μ κ)).1 := by
  unfold markStale
  cases known : manager.connections[id]? with
  | none => exact going
  | some connection =>
      dsimp only
      split
      · exact going
      · rename_i running
        rw [andThen_fst, emit_fst]
        refine connect_going reading ?_
        rw [cast_addGrace reading id known]
        refine sound.move (.fade _ id (by simp [cast, known]) ?_)
        rcases was with alive | active | stale
        · exact .inl alive
        · exact .inr active
        · simp only [cast, known, Option.map_some, Option.some.injEq] at stale
          simp [stale] at running

theorem markStale_inv (inv : Inv clock going opens manager) (reading : Reading) {id : Nat}
    (was : manager.cast.role id = some .alive ∨ manager.activeId = some id ∨
      manager.cast.role id = some .stale) :
    Inv clock going (opens + opensIn (markStale reading id manager : _ × List (Output μ κ)).2)
      (markStale reading id manager : _ × List (Output μ κ)).1 :=
  ⟨inv.tied.markStale reading (.inl rfl) fun connection known =>
    (inv.tied.attended id connection known (by simp)).unclosed,
    inv.sound.moves (markStale_moves reading id manager was),
    fun goes => markStale_going reading (inv.going goes) inv.sound was⟩

theorem check_inv (inv : Inv clock going opens manager) (reading : Reading) :
    Inv clock going (opens + opensIn (check reading manager : _ × List (Output μ κ)).2)
      (check reading manager : _ × List (Output μ κ)).1 := by
  unfold check
  split
  · exact inv
  · refine (inv.forEach (fun id opens start inv => ping_inv inv reading id) _).andThen
      fun opens pinged inv => Inv.andThen ?_ fun opens checked inv => inv.emit
    split
    · exact connect_inv inv reading
    · exact inv

theorem cast_modifySocket (manager : ConnectionManager) (id : Nat) (change : Socket → Socket) :
    (manager.modifySocket id change).cast = manager.cast := by
  have keeps : ∀ connection : Connection,
      ({ connection with socket := change connection.socket } : Connection).state =
        connection.state := fun _ => rfl
  exact cast_modify keeps manager id

/-- A connection whose socket is open, and that awaits no answer, is sent a heartbeat. -/
theorem Tied.greet {id : Nat} (tied : Tied (some id) clock opens manager) (reading : Reading)
    {connection : Connection} (known : manager.connections[id]? = some connection)
    (opened : connection.socket.readyState = .opened) (quiet : connection.awaitsPong = false)
    (unclosed : connection.isLive = true → connection.socket.closeDelivered = false) :
    Tied none clock opens
      (ConnectionManager.ping reading id manager : _ × List (Output μ κ)).1 := by
  have pinged := tied.addPing reading (.inr rfl)
    (fun other found => by
      cases known.symm.trans found
      exact opened)
    fun other found => by
      cases known.symm.trans found
      exact unclosed
  unfold ConnectionManager.ping
  rw [known]
  dsimp only
  split_ifs with closed awaits sends
  · simp only [Bool.or_eq_true, Bool.not_eq_true', bne_iff_ne, ne_eq, opened, not_true_eq_false,
      or_false] at closed
    refine tied.settle fun other found => ?_
    cases known.symm.trans found
    rcases closed with dead | destroyed
    · exact .of_dead dead
    · simp [tied.cleared destroyed id] at known
  · cases quiet.symm.trans awaits
  · exact pinged
  · exact pinged.die reading (.inl rfl) 1006

/-- Once the open event is delivered, a heartbeat is on its way. -/
theorem Tied.socketOpened (tied : Tied none clock opens manager) (reading : Reading) (id : Nat) :
    Tied none clock opens (socketOpened reading id
      (manager.modifySocket id Socket.deliverOpen) : _ × List (Output μ κ)).1 := by
  have delivered : Tied (some id) clock opens (manager.modifySocket id Socket.deliverOpen) :=
    tied.modify (.inl rfl) (fun connection known => (tied.held id connection known).withSocket
      fun opened => opened)
      fun _ _ waived => absurd rfl waived
  unfold ConnectionManager.socketOpened
  cases known : manager.connections[id]? with
  | none =>
      have unknown : (manager.modifySocket id Socket.deliverOpen).connections[id]? = none := by
        rw [modifySocket, connections_modify, if_pos rfl, known]
        rfl
      rw [unknown]
      exact delivered.settle fun connection found => by simp [unknown] at found
  | some connection =>
      have stored : (manager.modifySocket id Socket.deliverOpen).connections[id]? =
          some { connection with socket := connection.socket.deliverOpen } := by
        rw [modifySocket, connections_modify, if_pos rfl, known]
        rfl
      have attended := tied.attended id connection known (by simp)
      rw [stored]
      dsimp only
      split
      · rename_i closed
        rw [Bool.or_eq_true, Bool.not_eq_true'] at closed
        refine delivered.settle fun other found => ?_
        cases stored.symm.trans found
        rcases closed with dead | destroyed
        · exact .of_dead dead
        · simp [tied.cleared destroyed id] at known
      · rename_i running
        simp only [Bool.or_eq_true, Bool.not_eq_true', not_or, Bool.not_eq_false,
          Bool.not_eq_true] at running
        have timed : Tied (some id) clock opens
            ((manager.modifySocket id Socket.deliverOpen).modify id
              fun connection => { connection with
                deadline := some (reading.now + ConnectionPolicy.pongMs) }) :=
          delivered.modify (.inr rfl)
            (fun other found => { delivered.held id other found with })
            fun _ _ waived => absurd rfl waived
        have found : ((manager.modifySocket id Socket.deliverOpen).modify id
            fun connection => { connection with
              deadline := some (reading.now + ConnectionPolicy.pongMs) }).connections[id]? =
            some { connection with
              socket := connection.socket.deliverOpen
              deadline := some (reading.now + ConnectionPolicy.pongMs) } := by
          rw [connections_modify, if_pos rfl, stored]
          rfl
        have timers : ((manager.modifySocket id Socket.deliverOpen).modify id
            fun connection => { connection with
              deadline := some (reading.now + ConnectionPolicy.pongMs) }).timers =
            manager.timers := rfl
        rw [andThen_fst, emit_fst]
        generalize (manager.modifySocket id Socket.deliverOpen).modify id _ = start
          at timed found timers ⊢
        by_cases opened : connection.socket.readyState = .opened ∧ connection.awaitsPong = false
        · exact timed.greet reading found opened.1 opened.2 attended.unclosed
        · refine Tied.ping (timed.settle fun other stored => ?_) reading id
          cases found.symm.trans stored
          rw [timers]
          refine ⟨attended.connecting, fun new delivered => ?_, attended.unclosed⟩
          by_cases before : connection.socket.openDelivered = true
          · exact attended.greeted new before
          · have open' : connection.socket.readyState = .opened := by
              simpa [Socket.deliverOpen, before] using delivered
            have awaits : connection.awaitsPong = true := by
              by_contra quiet
              exact opened ⟨open', by simpa using quiet⟩
            obtain ⟨nonce, ping, pending, unexpired⟩ :=
              (OrderedMap.anyValue_eq_true_iff _ _).mp awaits
            exact ⟨nonce, ping, pending, by simpa using unexpired⟩

theorem socketOpened_inv (inv : Inv clock going opens manager) (reading : Reading) (id : Nat) :
    Inv clock going
      (opens + opensIn (socketOpened reading id
        (manager.modifySocket id Socket.deliverOpen) : _ × List (Output μ κ)).2)
      (socketOpened reading id
        (manager.modifySocket id Socket.deliverOpen) : _ × List (Output μ κ)).1 := by
  have roles := cast_modifySocket manager id Socket.deliverOpen
  have delivered : going = true → Going (manager.modifySocket id Socket.deliverOpen) := by
    intro goes
    unfold Going
    rw [roles]
    exact inv.going goes
  refine .of_plain (socketOpened_emits plain_unopened reading id) (inv.tied.socketOpened reading id)
    ((roles ▸ inv.sound : (manager.modifySocket id Socket.deliverOpen).cast.Sound).moves
      (socketOpened_moves reading id _)) fun goes => ?_
  generalize manager.modifySocket id Socket.deliverOpen = start at delivered ⊢
  unfold socketOpened
  split
  · exact delivered goes
  · split
    · exact delivered goes
    · rw [andThen_fst, emit_fst]
      refine ping_going reading id ?_
      have keeps : ∀ connection : Connection, ({ connection with
          deadline := some (reading.now + ConnectionPolicy.pongMs) } : Connection).state =
            connection.state := fun _ => rfl
      have same := cast_modify keeps start id
      unfold Going
      rw [same]
      exact delivered goes

theorem pongReceived_inv (inv : Inv clock going 0 manager) (reading : Reading)
    (id nonce clientTsMs : Nat) (live : ∀ connection, manager.connections[id]? = some connection →
      connection.isLive = true) :
    Inv clock going
      (0 + opensIn (pongReceived reading id nonce clientTsMs manager : _ × List (Output μ κ)).2)
      (pongReceived reading id nonce clientTsMs manager : _ × List (Output μ κ)).1 := by
  have sound : (pongReceived reading id nonce clientTsMs manager :
      _ × List (Output μ κ)).1.cast.Sound :=
    inv.sound.moves (pongReceived_moves reading id nonce clientTsMs manager)
  refine .of_plain (pongReceived_emits plain_unopened (fun _ => rfl) reading id nonce clientTsMs)
    ?_ sound ?_
  · unfold pongReceived
    cases known : manager.connections[id]? with
    | none => exact inv.tied
    | some connection =>
        dsimp only
        cases pending : connection.pings[nonce]? with
        | none => exact inv.tied
        | some ping =>
            dsimp only
            have answered := inv.tied.addPong reading known (live connection known) pending
            split_ifs
            · exact inv.tied
            · exact answered.retire reading (.inl rfl)
            · have taken : Tied none clock 0
                  { manager.addPong reading id nonce ping with activeId := some id } :=
                    { answered with }
              exact taken.retireAll reading _
            · exact answered
  · intro goes
    unfold pongReceived
    cases known : manager.connections[id]? with
    | none => exact inv.going goes
    | some connection =>
        dsimp only
        cases pending : connection.pings[nonce]? with
        | none => exact inv.going goes
        | some ping =>
            dsimp only
            have roles := cast_addPong reading id nonce ping known
            split_ifs with mismatch changes healthy
            · exact inv.going goes
            · -- The other connection stays alive.
              obtain ⟨current, _, holds⟩ := (Option.any_eq_true _ _).mp healthy
              rw [Bool.and_eq_true, bne_iff_ne] at holds
              obtain ⟨other, stored, alive⟩ := (Option.any_eq_true _ _).mp holds.2
              rw [beq_iff_eq] at alive
              refine .inr (.inr (.inr (.inr (.inr ⟨current, .inl ?_⟩))))
              rw [cast_retire, Cast.role_bury _ _ _ (by decide)]
              exact ⟨by simp [cast, Option.mem_def.mp stored, alive], by simpa using holds.1⟩
            · refine .inr (.inr (.inr (.inr (.inr ⟨id, .inl ?_⟩))))
              rw [andThen_fst, andThen_fst, emit_fst, cast_retireAll,
                Cast.role_bury _ _ _ (by decide)]
              refine ⟨?_, by simp⟩
              change (manager.addPong reading id nonce ping).cast.role id = _
              simp [roles, Cast.assign]
            · refine .inr (.inr (.inr (.inr (.inr ⟨id, .inl ?_⟩))))
              simp [roles, Cast.assign]

theorem receive_inv (inv : Inv clock going opens manager) (reading : Reading) (id : Nat)
    (data : ServerData μ)
    (fresh : ∀ nonce clientTsMs, data = .pong nonce clientTsMs →
      manager.acceptsPong id nonce clientTsMs = true → opens = 0) :
    Inv clock going (opens + opensIn (receive reading id data manager : _ × List (Output μ κ)).2)
      (receive reading id data manager : _ × List (Output μ κ)).1 := by
  unfold receive
  cases known : manager.connections[id]? with
  | none => exact inv
  | some connection =>
      dsimp only
      split
      · exact inv
      · rename_i open'
        simp only [Bool.or_eq_true, Bool.not_eq_true', not_or, Bool.not_eq_false] at open'
        cases data with
        | malformed => exact die_inv inv reading id 4002
        | pong nonce clientTsMs =>
            dsimp only
            split
            · rename_i accepted
              obtain rfl := fresh nonce clientTsMs rfl accepted
              refine (pongReceived_inv inv reading id nonce clientTsMs
                fun other found => ?_).andThen fun opens answered inv => inv.emit
              cases known.symm.trans found
              exact open'.2
            · exact inv
        | message message =>
            dsimp only
            split
            · exact inv
            · exact inv

theorem send_inv (inv : Inv clock going opens manager) (reading : Reading) (message : κ) :
    Inv clock going
      (opens + opensIn (send reading message manager : (_ × List (Output μ κ)) × _).1.2)
      (send reading message manager : (_ × List (Output μ κ)) × _).1.1 := by
  unfold send
  split
  · exact inv
  · split
    · exact inv
    · split_ifs
      · exact inv
      · exact inv
      · exact die_inv inv reading _ 1006

/-! ## Calls -/

/-- Giving up everything, while nothing is in use. -/
theorem retireAll_inv (inv : Inv clock going opens manager) (reading : Reading) {after : Bool}
    {start : ConnectionManager} (tied : Tied none clock opens start)
    (roles : start.cast = { manager.cast with activeId := none })
    (goes : after = true →
      Going (retireAll reading (fun _ => true) start : _ × List (Output μ κ)).1) :
    Inv clock after
      (opens + opensIn (retireAll reading (fun _ => true) start : _ × List (Output μ κ)).2)
      (retireAll reading (fun _ => true) start : _ × List (Output μ κ)).1 :=
  .of_plain (retireAll_emits plain_unopened reading _) (tied.retireAll reading _)
    (inv.sound.moves (abandon_moves reading roles)) goes

theorem retry_inv (inv : Inv clock going 0 manager) (reading : Reading) :
    Inv clock going (0 + opensIn (retry reading manager : _ × List (Output μ κ)).2)
      (retry reading manager : _ × List (Output μ κ)).1 := by
  unfold retry
  split
  · exact inv
  · have stopped := inv.tied.cancelRetry
    have started : Tied none clock 0 { manager.cancelRetry with
        terminal := false, attempts := 0, activeId := none } :=
      { stopped with
        planned := fun planned => by cases planned
        attempts := Nat.zero_le _
        opened := Nat.le_refl _ }
    refine Inv.andThen
      (retireAll_inv inv reading started ?_ fun goes : false = true => by cases goes)
      fun opens given inv => connect_inv inv reading
    rw [← cast_cancelRetry manager]
    rfl

theorem visibilityChanged_inv (inv : Inv clock going opens manager) (reading : Reading) :
    Inv clock going
      (opens + opensIn (visibilityChanged reading manager : _ × List (Output μ κ)).2)
      (visibilityChanged reading manager : _ × List (Output μ κ)).1 := by
  unfold visibilityChanged
  split_ifs
  · exact inv
  · refine Inv.andThen ?_ fun opens seen inv => (check_inv inv reading).andThen
      fun opens checked inv => inv.emit
    split
    · have seen : Inv clock false opens { manager with deferred := false } :=
        ⟨{ inv.tied with }, inv.sound, by simp⟩
      exact connect_inv seen reading
    · exact inv
  · exact inv.emit

theorem networkChanged_inv (inv : Inv clock going opens manager) (reading : Reading)
    (offline : Bool) :
    Inv clock going
      (opens + opensIn (networkChanged reading offline manager : _ × List (Output μ κ)).2)
      (networkChanged reading offline manager : _ × List (Output μ κ)).1 := by
  have noted : Inv clock going opens { manager with offline } :=
    ⟨{ inv.tied with }, inv.sound, inv.going⟩
  unfold networkChanged
  refine Inv.andThen ?_ fun opens checked inv => inv.emit
  split
  · exact noted
  · exact check_inv noted reading

theorem resume_inv (inv : Inv clock going opens manager) (reading : Reading) (gapMs : Option Nat) :
    Inv clock going (opens + opensIn (resume reading gapMs manager : _ × List (Output μ κ)).2)
      (resume reading gapMs manager : _ × List (Output μ κ)).1 := by
  have thawed : Inv clock going opens { manager with frozen := false } :=
    ⟨{ inv.tied with }, inv.sound, inv.going⟩
  unfold resume
  split
  · exact inv
  · refine Inv.andThen ?_ fun opens resumed inv => check_inv inv reading
    split
    · refine Inv.andThen ?_ fun opens marked (inv : Inv clock going opens marked) =>
        connect_inv inv reading
      dsimp only
      split
      · rename_i active used
        exact markStale_inv thawed reading (.inr (.inl used))
      · exact thawed
    · exact thawed

theorem pageHide_inv (inv : Inv clock going opens manager) (reading : Reading) :
    Inv clock going (opens + opensIn (pageHide reading manager : _ × List (Output μ κ)).2)
      (pageHide reading manager : _ × List (Output μ κ)).1 := by
  unfold pageHide
  split
  · exact inv
  · have hidden : Tied none clock opens ({ manager with
        suspended := true, frozen := true, activeId := none } : ConnectionManager).cancelRetry :=
      Tied.cancelRetry { inv.tied with }
    refine Inv.andThen (retireAll_inv inv reading hidden (cast_cancelRetry _) fun _ => ?_)
      fun opens hidden (inv : Inv clock going opens hidden) => inv.emit
    refine .inr (.inr (.inl ?_))
    rw [retireAll_frame suspended fun _ _ _ => rfl, cancelRetry_frame suspended fun _ _ _ => rfl]

theorem pageShow_inv (inv : Inv clock going opens manager) (reading : Reading) :
    Inv clock going (opens + opensIn (pageShow reading manager : _ × List (Output μ κ)).2)
      (pageShow reading manager : _ × List (Output μ κ)).1 := by
  unfold pageShow
  split
  · exact inv
  · dsimp only
    have shown : Inv clock false opens
        { manager with suspended := false, frozen := false, lastTick := reading.now } :=
      ⟨{ inv.tied with }, inv.sound, by simp⟩
    split
    · rename_i terminal
      exact ⟨shown.tied, shown.sound, fun _ => .inr (.inl terminal)⟩
    · exact connect_inv shown reading

/-! ## The clock -/

/-- No timer runs that did not run before. -/
def Stops (before after : ConnectionManager) : Prop :=
  ∀ (timer : Nat) (callback : Callback), after.timers[timer]? = some callback →
    before.timers[timer]? = some callback

theorem cancel_stops (manager : ConnectionManager) (timer : Nat) :
    Stops manager (manager.cancel timer) := fun _ _ => getElem?_of_erase

theorem cancelRetry_stops (manager : ConnectionManager) : Stops manager manager.cancelRetry := by
  unfold cancelRetry
  dsimp only
  split
  · exact cancel_stops manager _
  · exact fun _ _ running => running

theorem cancelTick_stops (manager : ConnectionManager) : Stops manager manager.cancelTick := by
  unfold cancelTick
  split
  · exact cancel_stops manager _
  · exact fun _ _ running => running

theorem retireAll_stops (reading : Reading) (selects : Nat → Bool) (manager : ConnectionManager) :
    Stops manager (retireAll reading selects manager : _ × List (Output μ κ)).1 := by
  refine forEach_related (fun _ _ _ running => running)
    (fun _ _ _ first second timer callback running =>
      first timer callback (second timer callback running))
    (fun id _ manager => ?_) manager
  unfold retire
  split
  · exact fun _ _ running => running
  · split
    · rw [cancelAll_eq]
      intro timer callback running
      have running := (getElem?_eraseAll _ _ _).symm.trans running
      split at running
      · cases running
      · exact running
    · exact fun _ _ running => running

theorem cancelTick_frame {α : Type} (part : ConnectionManager → α)
    (frame : ∀ (manager : ConnectionManager) timers, part { manager with timers } = part manager)
    (manager : ConnectionManager) : part manager.cancelTick = part manager := by
  unfold cancelTick
  split
  · exact frame manager _
  · rfl

/-- What is left of a manager that is destroyed. -/
theorem destroy_tied (tied : Tied none clock opens manager) (reading : Reading) :
    Tied none clock opens (destroy reading manager : _ × List (Output μ κ)).1 ∧
      (destroy reading manager : _ × List (Output μ κ)).1.destroyed = true := by
  let start : ConnectionManager :=
    { ({ manager with destroyed := true } : ConnectionManager).cancelRetry.cancelTick with
      activeId := none }
  let retired := (retireAll reading (fun _ => true) start : _ × List (Output μ κ)).1
  have stops : Stops manager retired := by
    intro timer callback running
    have running := retireAll_stops reading _ start timer callback running
    have running := cancelTick_stops _ timer callback running
    exact cancelRetry_stops { manager with destroyed := true } timer callback running
  have kept : ∀ {α : Type} (part : ConnectionManager → α)
      (frame : ∀ (manager : ConnectionManager) timers retryTimer activeId connections,
        part { manager with timers, retryTimer, activeId, connections } = part manager),
      part retired = part { manager with destroyed := true } := by
    intro α part frame
    have first : part retired = part start :=
      retireAll_frame part (fun manager timers connections => frame manager timers _ _ connections)
        reading _ start
    have second := cancelTick_frame part (fun manager timers => frame manager timers _ _ _)
      ({ manager with destroyed := true } : ConnectionManager).cancelRetry
    have third := cancelRetry_frame part
      (fun manager timers retry => frame manager timers retry _ _)
      { manager with destroyed := true }
    exact first.trans ((frame _ _ _ none _).trans (second.trans third))
  have gone : retired.destroyed = true := kept destroyed fun _ _ _ _ _ => rfl
  have unplanned : retired.retryTimer = none :=
    (retireAll_frame retryTimer (fun _ _ _ => rfl) reading _ start).trans
      (cancelTick_frame retryTimer (fun _ _ => rfl) _)
  have cleared : Tied none clock opens { retired with connections := ∅ } := by
    refine {
      held := fun id connection known => by simp at known
      attended := fun id connection known => by simp at known
      bounded := fun timer callback running => ?_
      retry := fun timer set => by cases unplanned.symm.trans set
      planned := fun planned => by cases (congrArg Option.isSome unplanned).symm.trans planned
      shows := ?_
      attempts := (kept attempts fun _ _ _ _ _ => rfl).trans_le tied.attempts
      opened := tied.opened.trans (kept attempts fun _ _ _ _ _ => rfl).ge
      cleared := fun _ id => by simp }
    · exact (tied.bounded timer callback (stops timer callback running)).trans_le
        (kept nextTimer fun _ _ _ _ _ => rfl).ge
    · have shows := tied.shows
      cases clock with
      | stopped =>
          exact ⟨(kept tickTimer fun _ _ _ _ _ => rfl).trans shows.1,
            fun timer running => shows.2 timer (stops timer _ running)⟩
      | unknown => trivial
      | running => exact fun alive => by cases gone.symm.trans alive
  exact ⟨cleared.cancelRetry, (cancelRetry_frame destroyed (fun _ _ _ => rfl) _).trans gone⟩

theorem destroy_inv (inv : Inv clock going opens manager) (reading : Reading) :
    Inv clock going (opens + opensIn (destroy reading manager : _ × List (Output μ κ)).2)
      (destroy reading manager : _ × List (Output μ κ)).1 :=
  .of_plain (destroy_emits plain_unopened reading) (destroy_tied inv.tied reading).1
    (inv.sound.moves (destroy_moves reading manager))
    fun _ => .inl (destroy_tied inv.tied reading).2

theorem forgetOld_inv (inv : Inv clock going opens manager) (reading : Reading) {id : Nat}
    {connection : Connection} (known : manager.connections[id]? = some connection) :
    Inv clock going opens (manager.forgetOld reading id connection) := by
  refine ⟨?_, inv.sound.moves (forgetOld_moves reading known), fun goes => ?_⟩
  · unfold forgetOld
    split
    · have older : ∀ (key : Nat) (other : Connection),
          (manager.connections.erase id)[key]? = some other →
            manager.connections[key]? = some other := by
        intro key other stored
        rw [TreeMap.getElem?_erase] at stored
        split at stored
        · cases stored
        · exact stored
      exact { inv.tied with
        held := fun key other stored => inv.tied.held key other (older key other stored)
        attended := fun key other stored => inv.tied.attended key other (older key other stored)
        cleared := fun destroyed key => by
          rw [TreeMap.getElem?_erase, inv.tied.cleared destroyed key]
          split <;> rfl }
    · exact inv.tied
  · unfold forgetOld
    split
    · rename_i old
      rw [Bool.and_eq_true] at old
      have dead : connection.state = .dead := by simpa [Connection.isLive] using old.1
      rcases inv.going goes with destroyed | terminal | suspended | deferred | planned | ⟨key, role⟩
      · exact .inl destroyed
      · exact .inr (.inl terminal)
      · exact .inr (.inr (.inl suspended))
      · exact .inr (.inr (.inr (.inl deferred)))
      · exact .inr (.inr (.inr (.inr (.inl planned))))
      · refine .inr (.inr (.inr (.inr (.inr ⟨key, ?_⟩))))
        have apart : id ≠ key := by
          rintro rfl
          simp [cast, known, dead] at role
        simpa [cast, TreeMap.getElem?_erase, apart] using role
    · exact inv.going goes

theorem sweep_inv (inv : Inv clock going opens manager) (reading : Reading) (id : Nat) :
    Inv clock going (opens + opensIn (sweep reading id manager : _ × List (Output μ κ)).2)
      (sweep reading id manager : _ × List (Output μ κ)).1 := by
  unfold sweep
  split
  · exact inv
  · rename_i connection known
    have swept := forgetOld_inv inv reading known
    split
    · exact ping_inv swept reading id
    · exact swept

/-- After a tick the tick timer runs. -/
theorem tick_inv (inv : Inv clock going opens manager) (reading : Reading)
    (alive : manager.destroyed = false) :
    Inv .running going (opens + opensIn (tick reading manager : _ × List (Output μ κ)).2)
      (tick reading manager : _ × List (Output μ κ)).1 := by
  have noted : Inv .unknown going opens { manager with lastTick := reading.now } :=
    ⟨{ inv.tied with shows := trivial }, inv.sound, inv.going⟩
  unfold tick
  rw [if_neg (by simp [alive])]
  refine Inv.andThen ?_ fun opens resumed (inv : Inv .unknown going opens resumed) =>
    Inv.andThen ?_ fun opens swept (inv : Inv .unknown going opens swept) =>
      Inv.andThen inv.emit fun opens start inv => ?_
  · split
    · exact resume_inv noted reading _
    · exact noted
  · exact inv.forEach (fun id opens start inv => sweep_inv inv reading id) _
  · have nothing : (start.later .tick).Shows .unknown := trivial
    have ticking := inv.tied.setTimer .tick nothing
    exact ⟨{ ticking with
        shows := fun _ => ⟨start.nextTimer, rfl, TreeMap.getElem?_insert_self⟩ },
      inv.sound, inv.going⟩

/-- After the start the manager goes on, and its tick timer runs. -/
theorem start_inv (inv : Inv clock going opens manager) (reading : Reading)
    (known : clock = .stopped ∨ clock = .running ∧ going = true) :
    Inv .running true (opens + opensIn (start reading manager : _ × List (Output μ κ)).2)
      (start reading manager : _ × List (Output μ κ)).1 := by
  unfold start
  split
  · rename_i early
    rw [Bool.or_eq_true] at early
    rcases known with rfl | ⟨rfl, rfl⟩
    · rcases early with destroyed | started
      · exact ⟨{ inv.tied with shows := fun alive => by cases alive.symm.trans destroyed },
          inv.sound, fun _ => .inl destroyed⟩
      · have never := inv.tied.shows.1
        simp [never] at started
    · exact inv
  · rename_i running
    rw [Bool.or_eq_true, not_or, Bool.not_eq_true] at running
    exact (tick_inv inv reading running.1).andThen fun opens start inv => connect_inv inv reading

/-! ## Expired timers -/

/-- What is stored for each connection is all that counts. -/
theorem Tied.of_lookups (tied : Tied except clock opens manager)
    {connections : NumberMap Connection}
    (same : ∀ id : Nat, connections[id]? = manager.connections[id]?) :
    Tied except clock opens { manager with connections } :=
  { tied with
    held := fun id connection known => tied.held id connection ((same id).symm.trans known)
    attended := fun id connection known => tied.attended id connection ((same id).symm.trans known)
    cleared := fun destroyed id => (same id).trans (tied.cleared destroyed id) }

/-- A timer of a connection has expired that belongs to no heartbeat it waits for. -/
theorem Tied.timerExpired (tied : Tied none clock opens manager) {timer id : Nat}
    {callback : Callback} (running : manager.timers[timer]? = some callback)
    (own : callback.connection = some id)
    (spared : ∀ connection, manager.connections[id]? = some connection → connection.isLive = true →
      ∀ (nonce : Nat) (ping : PendingPing), connection.pings[nonce]? = some ping →
        callback ≠ .pingTimeout id nonce) :
    Tied (some id) clock opens ((manager.cancel timer).modify id (·.dropTimer timer)) :=
  tied.changeOne (.inl rfl) (fun _ _ => getElem?_of_erase)
    (fun other callback' running' foreign => by
      have apart : timer ≠ other := by
        rintro rfl
        cases running.symm.trans running'
        exact foreign own
      rw [getElem?_erase_of_ne apart]
      exact running')
    (fun connection known => (tied.held id connection known).timerExpired running
      (spared connection known))
    fun _ _ waived => absurd rfl waived

/-- A timer of a connection expires: only what it does for a live connection has to be shown. -/
theorem connectionTimer_inv (inv : Inv clock going opens manager) {timer id : Nat}
    {callback : Callback} (running : manager.timers[timer]? = some callback)
    (own : callback.connection = some id) {does : Connection → Step ConnectionManager (Output μ κ)}
    (each : ∀ connection, manager.connections[id]? = some connection → connection.isLive = true →
      ((manager.cancel timer).modify id (·.dropTimer timer)).cast = manager.cast →
      (going = true → Going ((manager.cancel timer).modify id (·.dropTimer timer))) →
      Inv clock going
        (opens + opensIn (does connection ((manager.cancel timer).modify id (·.dropTimer timer))).2)
        (does connection ((manager.cancel timer).modify id (·.dropTimer timer))).1) :
    Inv clock going (opens + opensIn (connectionTimer timer id does (manager.cancel timer)).2)
      (connectionTimer timer id does (manager.cancel timer)).1 := by
  have keeps : ∀ connection : Connection,
      (connection.dropTimer timer).state = connection.state := fun _ => rfl
  have roles : ((manager.cancel timer).modify id (·.dropTimer timer)).cast = manager.cast :=
    cast_modify keeps (manager.cancel timer) id
  have goes : going = true → Going ((manager.cancel timer).modify id (·.dropTimer timer)) := by
    intro goes
    unfold Going
    rw [roles]
    exact inv.going goes
  unfold connectionTimer
  cases known : manager.connections[id]? with
  | none =>
      have expired := (inv.tied.timerExpired running own fun connection found => by
        simp [known] at found).settle fun connection found => by
          rw [connections_modify, if_pos rfl] at found
          cases (congrArg (Option.map (·.dropTimer timer)) known).symm.trans found
      have unchanged : Tied none clock opens (manager.cancel timer) := by
        refine expired.of_lookups fun other => ?_
        rw [connections_modify]
        split
        · rename_i same
          subst same
          exact known.trans (congrArg (Option.map fun connection : Connection =>
            connection.dropTimer timer) known).symm
        · rfl
      have kept : Inv clock going opens (manager.cancel timer) := ⟨unchanged, inv.sound, inv.going⟩
      split
      · exact kept
      · rename_i connection found
        cases known.symm.trans found
  | some connection =>
      have stored : (manager.cancel timer).connections[id]? = some connection := known
      rw [stored]
      dsimp only
      split
      · rename_i finished
        rw [Bool.or_eq_true, Bool.not_eq_true'] at finished
        have dead : connection.isLive = false := by
          rcases finished with destroyed | dead
          · cases known.symm.trans (inv.tied.cleared destroyed id)
          · exact dead
        have expired := (inv.tied.timerExpired running own fun other found live => by
          cases known.symm.trans found
          cases dead.symm.trans live).settle fun other found => by
            rw [connections_modify, if_pos rfl] at found
            cases (congrArg (Option.map (·.dropTimer timer)) stored).symm.trans found
            exact .of_dead dead
        exact ⟨expired, roles ▸ inv.sound, goes⟩
      · rename_i live
        simp only [Bool.or_eq_true, Bool.not_eq_true', not_or, Bool.not_eq_false] at live
        exact each connection known live.2 roles goes

/-- The connection whose timer has expired. -/
theorem stored_timerExpired {manager : ConnectionManager} {timer id : Nat}
    {connection other : Connection} (known : manager.connections[id]? = some connection)
    (found : ((manager.cancel timer).modify id (·.dropTimer timer)).connections[id]? = some other) :
    other = connection.dropTimer timer := by
  rw [connections_modify, if_pos rfl] at found
  have stored : (manager.cancel timer).connections[id]? = some connection := known
  rw [stored] at found
  exact (Option.some.inj found).symm

theorem connectTimeout_inv (inv : Inv clock going opens manager) (reading : Reading)
    {timer id : Nat} (running : manager.timers[timer]? = some (.connectTimeout id)) :
    Inv clock going
      (opens + opensIn (run reading timer (.connectTimeout id) (manager.cancel timer) :
        _ × List (Output μ κ)).2)
      (run reading timer (.connectTimeout id) (manager.cancel timer) :
        _ × List (Output μ κ)).1 := by
  refine connectionTimer_inv inv running rfl fun connection known live roles goes => ?_
  have expired := inv.tied.timerExpired running rfl fun _ _ _ _ _ _ => by simp
  have attended := inv.tied.attended id connection known (by simp)
  unfold connectTimeout
  split
  · exact .of_plain (die_emits plain_unopened reading id 1006) (expired.die reading (.inr rfl) 1006)
      ((roles ▸ inv.sound : Cast.Sound _).moves (die_moves reading id 1006 _))
      fun going => die_going reading id 1006 (goes going)
  · rename_i other
    refine ⟨expired.settle fun after found => ?_, roles ▸ inv.sound, goes⟩
    rw [stored_timerExpired known found]
    refine ⟨fun new connecting => ?_, attended.greeted, attended.unclosed⟩
    have new : connection.state = .new := new
    have connecting : connection.socket.readyState = .connecting := connecting
    simp [new, connecting] at other

theorem graceTimeout_inv (inv : Inv clock going opens manager) (reading : Reading)
    {timer id deadline : Nat}
    (running : manager.timers[timer]? = some (.graceTimeout id deadline)) :
    Inv clock going
      (opens + opensIn (run reading timer (.graceTimeout id deadline) (manager.cancel timer) :
        _ × List (Output μ κ)).2)
      (run reading timer (.graceTimeout id deadline) (manager.cancel timer) :
        _ × List (Output μ κ)).1 := by
  refine connectionTimer_inv inv running rfl fun connection known live roles goes => ?_
  have expired := inv.tied.timerExpired running rfl fun _ _ _ _ _ _ => by simp
  have attended := inv.tied.attended id connection known (by simp)
  unfold graceTimeout
  split
  · exact .of_plain (die_emits plain_unopened reading id 1006) (expired.die reading (.inr rfl) 1006)
      ((roles ▸ inv.sound : Cast.Sound _).moves (die_moves reading id 1006 _))
      fun going => die_going reading id 1006 (goes going)
  · refine ⟨expired.settle fun after found => ?_, roles ▸ inv.sound, goes⟩
    rw [stored_timerExpired known found]
    refine (attended.stopTimers fun other waiting => ?_).dropTimer timer
    have apart : timer ≠ other := by
      rintro rfl
      cases running.symm.trans waiting
    exact (getElem?_erase_of_ne apart).trans waiting

/-- The heartbeat whose timer has expired is missed. -/
theorem Tied.pingExpired (tied : Tied none clock opens manager) {timer id nonce : Nat}
    (running : manager.timers[timer]? = some (.pingTimeout id nonce)) :
    Tied (some id) clock opens
      (((manager.cancel timer).modify id (·.dropTimer timer)).modify id (·.pingExpired nonce)) := by
  have once : Tied (some id) clock opens ((manager.cancel timer).modify id fun connection =>
      (connection.dropTimer timer).pingExpired nonce) :=
    tied.changeOne (.inl rfl) (fun _ _ => getElem?_of_erase)
      (fun other callback' running' foreign => by
        have apart : timer ≠ other := by
          rintro rfl
          cases running.symm.trans running'
          exact foreign rfl
        rw [getElem?_erase_of_ne apart]
        exact running')
      (fun connection known => (tied.held id connection known).pingExpired running)
      fun _ _ waived => absurd rfl waived
  refine once.of_lookups fun other => ?_
  change (((manager.cancel timer).modify id (·.dropTimer timer)).modify id
    (·.pingExpired nonce)).connections[other]? = _
  rw [connections_modify, connections_modify, connections_modify, connections_modify, if_pos rfl]
  by_cases same : id = other
  · simp only [if_pos same, Option.map_map]
    rfl
  · simp only [if_neg same]

theorem pingTimeout_inv (inv : Inv clock going opens manager) (reading : Reading)
    {timer id nonce : Nat} (running : manager.timers[timer]? = some (.pingTimeout id nonce)) :
    Inv clock going
      (opens + opensIn (run reading timer (.pingTimeout id nonce) (manager.cancel timer) :
        _ × List (Output μ κ)).2)
      (run reading timer (.pingTimeout id nonce) (manager.cancel timer) :
        _ × List (Output μ κ)).1 := by
  refine connectionTimer_inv inv running rfl fun connection known live roles goes => ?_
  have attended := inv.tied.attended id connection known (by simp)
  have keeps : ∀ connection : Connection,
      (connection.pingExpired nonce).state = connection.state := fun _ => rfl
  have roles' := (cast_modify keeps ((manager.cancel timer).modify id (·.dropTimer timer)) id).trans
    roles
  have sound : (((manager.cancel timer).modify id (·.dropTimer timer)).modify id
      (·.pingExpired nonce)).cast.Sound := roles' ▸ inv.sound
  have goes' : going = true →
      Going (((manager.cancel timer).modify id (·.dropTimer timer)).modify id
        (·.pingExpired nonce)) := by
    intro goes
    unfold Going
    rw [roles']
    exact inv.going goes
  unfold pingTimeout
  split_ifs with answered new
  · have unknown : connection.pings[nonce]? = none := by simpa using answered
    have expired := inv.tied.timerExpired running rfl
        fun other found _ nonce' ping pending same => by
      cases known.symm.trans found
      cases same
      cases unknown.symm.trans pending
    refine ⟨expired.settle fun after found => ?_, roles ▸ inv.sound, goes⟩
    rw [stored_timerExpired known found]
    refine (attended.stopTimers fun other waiting => ?_).dropTimer timer
    have apart : timer ≠ other := by
      rintro rfl
      cases running.symm.trans waiting
    exact (getElem?_erase_of_ne apart).trans waiting
  · exact .of_plain (die_emits plain_unopened reading id 1006)
      ((inv.tied.pingExpired running).die reading (.inr rfl) 1006)
      (sound.moves (die_moves reading id 1006 _))
      fun going => die_going reading id 1006 (goes' going)
  · have was : connection.state = .alive ∨ connection.state = .stale := by
      cases state : connection.state with
      | new => simp [state] at new
      | alive => exact .inl rfl
      | stale => exact .inr rfl
      | dead => simp [Connection.isLive, state] at live
    have was' : ((((manager.cancel timer).modify id (·.dropTimer timer)).modify id
        (·.pingExpired nonce)).cast.role id = some .alive ∨
          (((manager.cancel timer).modify id (·.dropTimer timer)).modify id
            (·.pingExpired nonce)).activeId = some id ∨
          (((manager.cancel timer).modify id (·.dropTimer timer)).modify id
            (·.pingExpired nonce)).cast.role id = some .stale) := by
      rw [roles']
      rcases was with alive | stale
      · exact .inl (by simp [cast, known, alive])
      · exact .inr (.inr (by simp [cast, known, stale]))
    refine ⟨(inv.tied.pingExpired running).markStale reading (.inr rfl) fun after found _ => ?_,
      sound.moves (markStale_moves reading id _ was'),
      fun going => markStale_going reading (goes' going) sound was'⟩
    rw [connections_modify, if_pos rfl, connections_modify, if_pos rfl] at found
    have stored : (manager.cancel timer).connections[id]? = some connection := known
    rw [stored] at found
    cases Option.some.inj found
    exact attended.unclosed live

theorem retryExpired_inv (inv : Inv clock going opens manager) (reading : Reading) {timer : Nat}
    (running : manager.timers[timer]? = some .retry) :
    Inv clock going
      (opens + opensIn (run reading timer .retry (manager.cancel timer) : _ × List (Output μ κ)).2)
      (run reading timer .retry (manager.cancel timer) : _ × List (Output μ κ)).1 := by
  have stopped : Inv clock false opens { manager.cancel timer with retryTimer := none } :=
    ⟨inv.tied.stopRetry fun callback found => (Option.some.inj (running.symm.trans found)).symm,
      inv.sound, by simp⟩
  exact connect_inv stopped reading

/-- The tick timer has expired. -/
theorem tickTimer_expired (inv : Inv .running going opens manager) {timer : Nat}
    (running : manager.timers[timer]? = some .tick) :
    Inv .unknown going opens (manager.cancel timer) := by
  have kept : ∀ (other : Nat) (callback : Callback), manager.timers[other]? = some callback →
      callback ≠ .tick → (manager.cancel timer).timers[other]? = some callback := by
    intro other callback found needed
    have apart : timer ≠ other := by
      rintro rfl
      exact needed (Option.some.inj (found.symm.trans running))
    exact (getElem?_erase_of_ne apart).trans found
  exact ⟨{ inv.tied with
    held := fun id connection known => (inv.tied.held id connection known).stopTimers
      (fun _ _ => getElem?_of_erase) fun other nonce found => kept other _ found (by simp)
    attended := fun id connection known waived => (inv.tied.attended id connection known
      waived).stopTimers fun other found => kept other _ found (by simp)
    bounded := fun other callback found => inv.tied.bounded other callback (getElem?_of_erase found)
    retry := fun other set => kept other _ (inv.tied.retry other set) (by simp)
    shows := trivial }, inv.sound, inv.going⟩

theorem tickExpired_inv (inv : Inv .running going opens manager) (reading : Reading) {timer : Nat}
    (running : manager.timers[timer]? = some .tick) :
    Inv .running going
      (opens + opensIn (run reading timer .tick (manager.cancel timer) : _ × List (Output μ κ)).2)
      (run reading timer .tick (manager.cancel timer) : _ × List (Output μ κ)).1 := by
  have expired := tickTimer_expired inv running
  change Inv _ _ (opens + opensIn (tick reading (manager.cancel timer) : _ × List (Output μ κ)).2)
    (tick reading (manager.cancel timer) : _ × List (Output μ κ)).1
  cases destroyed : manager.destroyed with
  | false => exact tick_inv expired reading destroyed
  | true =>
      have idle : (tick reading (manager.cancel timer) : _ × List (Output μ κ)) =
          (manager.cancel timer, []) := if_pos destroyed
      rw [idle]
      exact ⟨{ expired.tied with shows := fun alive => by cases destroyed.symm.trans alive },
        expired.sound, expired.going⟩

/-! ## Every step -/

/-- The input begins the attempts anew. -/
def resets (manager : ConnectionManager) : Input μ κ → Bool
  | .retry => true
  | .received id (.pong nonce clientTsMs) => manager.acceptsPong id nonce clientTsMs
  | _ => false

theorem advance_inv (inv : Inv clock going opens manager) (id : Nat) (readyState : ReadyState) :
    Inv clock going opens (manager.modifySocket id (·.advance readyState)) := by
  have roles := cast_modifySocket manager id (·.advance readyState)
  have reached : ∀ socket : Socket, socket.readyState ≠ .connecting →
      (socket.advance readyState).readyState ≠ .connecting := by
    intro socket passed
    unfold Socket.advance
    split
    · rename_i further
      dsimp only
      rintro rfl
      simp [ReadyState.rank] at further
    · exact passed
  refine ⟨inv.tied.modify (.inl rfl) (fun connection known => ?_) fun connection known _ => ?_,
    roles ▸ inv.sound, fun goes => ?_⟩
  · exact (inv.tied.held id connection known).withSocket (reached connection.socket)
  · have attended := inv.tied.attended id connection known (by simp)
    refine ⟨fun new connecting => attended.connecting new ?_, fun new delivered =>
      attended.greeted new ?_, fun live => ?_⟩
    · by_contra passed
      exact reached connection.socket passed connecting
    · have same : (connection.socket.advance readyState).openDelivered =
          connection.socket.openDelivered := by
        unfold Socket.advance
        split <;> rfl
      exact same.symm.trans delivered
    · have same : (connection.socket.advance readyState).closeDelivered =
          connection.socket.closeDelivered := by
        unfold Socket.advance
        split <;> rfl
      exact same.trans (attended.unclosed live)
  · unfold Going
    rw [roles]
    exact inv.going goes

theorem closed_inv (inv : Inv clock going opens manager) (reading : Reading) (id code : Nat) :
    Inv clock going
      (opens + opensIn (die reading id code
        (manager.modifySocket id Socket.deliverClose) : _ × List (Output μ κ)).2)
      (die reading id code
        (manager.modifySocket id Socket.deliverClose) : _ × List (Output μ κ)).1 := by
  have roles := cast_modifySocket manager id Socket.deliverClose
  have delivered : Tied (some id) clock opens (manager.modifySocket id Socket.deliverClose) :=
    inv.tied.modify (.inl rfl)
      (fun connection known => (inv.tied.held id connection known).withSocket fun opened => opened)
      fun _ _ waived => absurd rfl waived
  refine .of_plain (die_emits plain_unopened reading id code)
    (delivered.die reading (.inr rfl) code)
    ((roles ▸ inv.sound : (manager.modifySocket id Socket.deliverClose).cast.Sound).moves
      (die_moves reading id code _)) fun goes => die_going reading id code ?_
  unfold Going
  rw [roles]
  exact inv.going goes

/-- A step of a manager that was never started may start it. -/
theorem step_inv (inv : Inv clock going opens manager)
    (known : clock = .stopped ∨ clock = .running ∧ going = true) (reading : Reading)
    (input : Input μ κ) (fresh : manager.resets input = true → opens = 0) :
    Inv clock going (opens + opensIn (step reading input manager).2)
      (step reading input manager).1 ∨
      Inv .running true (opens + opensIn (step reading input manager).2)
        (step reading input manager).1 := by
  cases input with
  | start => exact .inr (start_inv inv reading known)
  | advance id readyState => exact .inl (advance_inv inv id readyState)
  | opened id => exact .inl (socketOpened_inv inv reading id)
  | received id data =>
      refine .inl (receive_inv inv reading id data fun nonce clientTsMs same accepted => ?_)
      subst same
      exact fresh accepted
  | closed id code => exact .inl (closed_inv inv reading id code)
  | error id => exact .inl (die_inv inv reading id 1006)
  | expired timer =>
      refine .inl ?_
      change Inv _ _ (opens + opensIn (expire reading timer manager : _ × List (Output μ κ)).2)
        (expire reading timer manager : _ × List (Output μ κ)).1
      unfold expire
      cases running : manager.timers[timer]? with
      | none => exact inv
      | some callback =>
          cases callback with
          | connectTimeout id => exact connectTimeout_inv inv reading running
          | pingTimeout id nonce => exact pingTimeout_inv inv reading running
          | graceTimeout id deadline => exact graceTimeout_inv inv reading running
          | retry => exact retryExpired_inv inv reading running
          | tick =>
              rcases known with rfl | ⟨rfl, rfl⟩
              · exact absurd running (inv.tied.shows.2 timer)
              · exact tickExpired_inv inv reading running
  | send message => exact .inl (send_inv inv reading message)
  | retry =>
      obtain rfl := fresh rfl
      exact .inl (retry_inv inv reading)
  | visibilityChanged => exact .inl (visibilityChanged_inv inv reading)
  | networkChanged offline => exact .inl (networkChanged_inv inv reading offline)
  | freeze =>
      have frozen : Inv clock going opens { manager with frozen := true } :=
        ⟨{ inv.tied with }, inv.sound, inv.going⟩
      exact .inl frozen.emit
  | resume gapMs => exact .inl (resume_inv inv reading gapMs)
  | pageHide => exact .inl (pageHide_inv inv reading)
  | pageShow => exact .inl (pageShow_inv inv reading)
  | destroy => exact .inl (destroy_inv inv reading)

end ConnectionManager

end MqttController.Frontend
