import MqttController.Frontend.ConnectionTimers
import MqttController.Frontend.Exclusivity

/-!
# The dashboard keeps trying

Once started, the manager is always about to do something: it looks after a live connection, or
gives up one that is being opened, or tries again.  And it does not try for ever.
-/

namespace MqttController.Frontend

open Std Emission

namespace ConnectionManager

variable {μ κ : Type}

/-! ## Giving up for good -/

/-- The connection is dead, or forgotten. -/
def Gone (id : Nat) (manager : ConnectionManager) : Prop :=
  ∀ connection, manager.connections[id]? = some connection → connection.state = .dead

theorem gone_iff {id : Nat} {manager : ConnectionManager} :
    Gone id manager ↔ ∀ state, manager.cast.role id = some state → state = .dead := by
  constructor
  · intro gone state role
    obtain ⟨connection, known, rfl⟩ := Option.map_eq_some_iff.mp role
    exact gone connection known
  · intro gone connection known
    exact gone connection.state (by simp [cast, known])

theorem gone_of_bury {id : Nat} {manager : ConnectionManager} {cast : Cast} {selects : Nat → Bool}
    (roles : manager.cast.role = (cast.bury selects).role) (selected : selects id = true) :
    Gone id manager := by
  rw [gone_iff]
  intro state role
  rw [roles] at role
  simp only [Cast.bury, selected, cond_true, Option.map_eq_some_iff] at role
  obtain ⟨_, _, same⟩ := role
  exact same.symm

/-- Whoever dies is gone. -/
theorem die_gone (reading : Reading) (id code : Nat) {manager : ConnectionManager}
    (alive : manager.destroyed = false) :
    Gone id (die reading id code manager : _ × List (Output μ κ)).1 := by
  unfold die
  cases known : manager.connections[id]? with
  | none =>
      intro connection found
      cases known.symm.trans found
  | some connection =>
      dsimp only
      split
      · rename_i early
        rw [alive, Bool.false_or, Bool.not_eq_true'] at early
        intro other found
        cases known.symm.trans found
        simpa [Connection.isLive] using early
      · generalize (if manager.activeId = some id then
          { manager with activeId := none } else manager) = start
        have retired : Gone id (retire reading id start : _ × List (Output μ κ)).1 :=
          gone_of_bury (congrArg Cast.role (cast_retire reading id start)) (beq_self_eq_true id)
        rw [andThen_fst, andThen_fst, emit_fst]
        split_ifs
        · exact gone_of_bury (congrArg Cast.role (cast_retireAll reading _ _)) rfl
        · exact retired
        · rw [gone_iff, cast_scheduleRetry, ← gone_iff]
          exact retired

/-! ## Expiring timers -/

/-- Timers that are running give the connection up, one after another. -/
inductive Doomed (μ κ : Type) (id : Nat) : ConnectionManager → Prop
  | gone {manager : ConnectionManager} : Gone id manager → Doomed μ κ id manager
  | expires {manager : ConnectionManager} (timer : Nat)
      (running : manager.timers[timer]?.isSome = true)
      (next : ∀ reading, Doomed μ κ id (expire reading timer manager : _ × List (Output μ κ)).1) :
      Doomed μ κ id manager

/-- A running timer gives the connection up when it expires. -/
def Kills (μ κ : Type) (manager : ConnectionManager) (timer id : Nat) : Prop :=
  manager.timers[timer]?.isSome = true ∧
    ∀ reading, Gone id (expire reading timer manager : _ × List (Output μ κ)).1

/-- The tick timer is running, and it is known when the connection last answered a heartbeat.  When
the timer expires and that is too long ago, timers give the connection up unless one is answered. -/
def Watched (μ κ : Type) (manager : ConnectionManager) (id : Nat) : Prop :=
  ∃ timer, manager.tickTimer = some timer ∧ manager.timers[timer]? = some .tick ∧
    ∀ connection, manager.connections[id]? = some connection →
      ∃ last, connection.lastPong = some last ∧
        ∀ reading : Reading, ConnectionPolicy.pingMs ≤ reading.now - last →
          Doomed μ κ id (expire reading timer manager : _ × List (Output μ κ)).1

/-- The transport has delivered the open event of every live connection whose socket reports to be
open, and the close event of every one whose socket is no longer. -/
def Delivered (manager : ConnectionManager) : Prop :=
  ∀ (id : Nat) (connection : Connection), manager.connections[id]? = some connection →
    connection.isLive = true →
      (connection.socket.readyState = .opened → connection.socket.openDelivered = true) ∧
      (connection.socket.readyState = .closing ∨ connection.socket.readyState = .closed →
        connection.socket.closeDelivered = true)

variable {clock : Clock} {going : Bool} {opens : Nat} {manager : ConnectionManager}

/-- A live connection exists only while the manager is not destroyed. -/
theorem Tied.undestroyed {except : Option Nat} (tied : Tied except clock opens manager) {id : Nat}
    {connection : Connection} (known : manager.connections[id]? = some connection) :
    manager.destroyed = false := by
  cases destroyed : manager.destroyed with
  | false => rfl
  | true => cases known.symm.trans (tied.cleared destroyed id)

/-- A timer of a live connection does its work. -/
theorem expire_connectionTimer {timer id : Nat} {callback : Callback} {connection : Connection}
    {does : Connection → Step ConnectionManager (Output μ κ)} (reading : Reading)
    (tied : Tied none clock opens manager)
    (running : manager.timers[timer]? = some callback)
    (runs : (run reading timer callback : Step ConnectionManager (Output μ κ)) =
      connectionTimer timer id does)
    (known : manager.connections[id]? = some connection) (live : connection.isLive = true) :
    (expire reading timer manager : _ × List (Output μ κ)) =
      does connection ((manager.cancel timer).modify id (·.dropTimer timer)) := by
  have stored : (manager.cancel timer).connections[id]? = some connection := known
  have alive : (manager.cancel timer).destroyed = false := tied.undestroyed known
  unfold expire
  rw [running]
  dsimp only
  rw [runs]
  unfold connectionTimer
  rw [stored]
  dsimp only
  rw [if_neg]
  rw [live, Bool.not_true, Bool.or_false]
  exact fun destroyed => by cases alive.symm.trans destroyed

/-- A connection that is being opened, and for whose socket the transport owes nothing, is given up
by a timer. -/
theorem Tied.kills (tied : Tied none clock opens manager) (delivered : manager.Delivered) {id : Nat}
    {connection : Connection} (known : manager.connections[id]? = some connection)
    (new : connection.state = .new) : ∃ timer, manager.Kills μ κ timer id := by
  have live : connection.isLive = true := by simp [Connection.isLive, new]
  have attended := tied.attended id connection known (by simp)
  have alive : ∀ timer, ((manager.cancel timer).modify id (·.dropTimer timer)).destroyed = false :=
    fun _ => tied.undestroyed known
  obtain ⟨opened, closed⟩ := delivered id connection known live
  have dies : connection.socket.readyState = .closing ∨ connection.socket.readyState = .closed →
      False := by
    intro left
    cases (attended.unclosed live).symm.trans (closed left)
  cases state : connection.socket.readyState with
  | connecting =>
      obtain ⟨timer, running⟩ := attended.connecting new state
      refine ⟨timer, by rw [running]; rfl, fun reading => ?_⟩
      rw [expire_connectionTimer reading tied running rfl known live, connectTimeout,
        if_pos (by simp [new, state])]
      exact die_gone reading id 1006 (alive timer)
  | opened =>
      obtain ⟨nonce, ping, pending, unexpired⟩ := attended.greeted new (opened state)
      have running := (tied.held id connection known).awaited live nonce ping pending unexpired
      refine ⟨ping.timer, by rw [running]; rfl, fun reading => ?_⟩
      rw [expire_connectionTimer reading tied running rfl known live, pingTimeout,
        if_neg (by simp [pending]), if_pos (by simp [new])]
      exact die_gone reading id 1006 (alive ping.timer)
  | closing => exact (dies (.inl state)).elim
  | closed => exact (dies (.inr state)).elim

/-! ## What happens to a connection in use -/

/-- The connection was taken into use.  It is dead, or a timer will give it up, or it is alive and
has the property. -/
structure Under (holds : Connection → Prop) (id : Nat) (manager : ConnectionManager) : Prop where
  used : id < manager.nextNonce
  fate : ∀ connection, manager.connections[id]? = some connection →
    connection.state = .dead ∨
    (connection.state = .stale ∧ ∃ timer deadline : Nat,
      manager.timers[timer]? = some (.graceTimeout id deadline) ∧
        connection.deadline = some deadline) ∨
    (connection.state = .alive ∧ holds connection)

/-- Nothing happens to the connection. -/
structure Spares (id : Nat) (before after : ConnectionManager) : Prop where
  nonces : before.nextNonce ≤ after.nextNonce
  stored : after.connections[id]? = before.connections[id]?
  timers : ∀ timer deadline : Nat, before.timers[timer]? = some (.graceTimeout id deadline) →
    after.timers[timer]? = some (.graceTimeout id deadline)

theorem Spares.refl (id : Nat) (manager : ConnectionManager) : Spares id manager manager :=
  ⟨Nat.le_refl _, rfl, fun _ _ running => running⟩

theorem Spares.trans {id : Nat} {first second third : ConnectionManager}
    (before : Spares id first second) (after : Spares id second third) : Spares id first third :=
  ⟨before.nonces.trans after.nonces, after.stored.trans before.stored,
    fun timer deadline running =>
      after.timers timer deadline (before.timers timer deadline running)⟩

theorem Under.spared {holds : Connection → Prop} {id : Nat} {after : ConnectionManager}
    (under : Under holds id manager) (spares : Spares id manager after) : Under holds id after := by
  refine ⟨under.used.trans_le spares.nonces, fun connection known => ?_⟩
  rw [spares.stored] at known
  refine (under.fate connection known).imp_right (Or.imp_left ?_)
  rintro ⟨stale, timer, deadline, running, due⟩
  exact ⟨stale, timer, deadline, spares.timers timer deadline running, due⟩

variable {except : Option Nat}

theorem later_spares (tied : Tied except clock opens manager) (callback : Callback) (id : Nat) :
    Spares id manager (manager.later callback) :=
  ⟨Nat.le_refl _, rfl, fun _ _ running =>
    (getElem?_setTimer callback (tied.bounded _ _ running)).trans running⟩

theorem modify_spares (manager : ConnectionManager) {other id : Nat} (apart : other ≠ id)
    (change : Connection → Connection) : Spares id manager (manager.modify other change) := by
  refine ⟨Nat.le_refl _, ?_, fun _ _ running => running⟩
  rw [connections_modify, if_neg apart]

theorem cancelRetry_spares (tied : Tied except clock opens manager) (id : Nat) :
    Spares id manager manager.cancelRetry := by
  unfold cancelRetry
  cases set : manager.retryTimer with
  | none => exact ⟨Nat.le_refl _, rfl, fun _ _ running => running⟩
  | some planned =>
      refine ⟨Nat.le_refl _, rfl, fun timer deadline running => ?_⟩
      have apart : planned ≠ timer := by
        rintro rfl
        cases (tied.retry planned set).symm.trans running
      exact (getElem?_erase_of_ne apart).trans running

theorem scheduleRetry_spares (tied : Tied except clock opens manager)
    (reading : Reading) (id : Nat) :
    Spares id manager (scheduleRetry reading manager : _ × List (Output μ κ)).1 := by
  unfold scheduleRetry
  split_ifs
  · exact .refl id manager
  · exact ⟨Nat.le_refl _, rfl, fun _ _ running => running⟩
  · exact ⟨Nat.le_refl _, rfl, fun _ _ running => running⟩
  · have later := later_spares tied .retry id
    exact ⟨later.nonces, later.stored, later.timers⟩

theorem retire_spares (tied : Tied except clock opens manager) (reading : Reading) {other id : Nat}
    (apart : other ≠ id) :
    Spares id manager (retire reading other manager : _ × List (Output μ κ)).1 := by
  unfold retire
  cases known : manager.connections[other]? with
  | none => exact .refl id manager
  | some connection =>
      dsimp only
      split
      · rw [cancelAll_eq]
        have stopped : Spares id manager { manager with
            timers := connection.timers.foldl (fun running timer => running.erase timer)
              manager.timers } := by
          refine ⟨Nat.le_refl _, rfl, fun timer deadline running => ?_⟩
          refine (getElem?_eraseAll _ _ _).trans ?_
          rw [if_neg]
          · exact running
          · intro member
            have own := ((tied.held other connection known).owned timer member).2 _ running
            exact apart (Option.some.inj own).symm
        exact stopped.trans (modify_spares _ apart _)
      · exact .refl id manager

/-- The network loses another connection. -/
theorem die_spares (tied : Tied none clock opens manager) (reading : Reading) {other id : Nat}
    (apart : other ≠ id) :
    Spares id manager (die reading other 1006 manager : _ × List (Output μ κ)).1 := by
  unfold die
  cases known : manager.connections[other]? with
  | none => exact .refl id manager
  | some connection =>
      dsimp only
      split
      · exact .refl id manager
      · have dropped : Tied none clock opens (if manager.activeId = some other then
            { manager with activeId := none } else manager) ∧
            Spares id manager (if manager.activeId = some other then
              { manager with activeId := none } else manager) := by
          split
          · exact ⟨{ tied with }, ⟨Nat.le_refl _, rfl, fun _ _ running => running⟩⟩
          · exact ⟨tied, .refl id manager⟩
        generalize (if manager.activeId = some other then
          { manager with activeId := none } else manager) = start at dropped ⊢
        have retired : Tied none clock opens
            (retire reading other start : _ × List (Output μ κ)).1 :=
          dropped.1.retire reading (.inl rfl)
        have spared : Spares id manager (retire reading other start : _ × List (Output μ κ)).1 :=
          dropped.2.trans (retire_spares dropped.1 reading apart)
        rw [andThen_fst, andThen_fst, emit_fst, if_neg (by decide)]
        split
        · exact spared
        · exact spared.trans (scheduleRetry_spares retired reading id)

theorem addPing_spares (tied : Tied except clock opens manager) (reading : Reading) {other id : Nat}
    (apart : other ≠ id) : Spares id manager (manager.addPing reading other) := by
  have later := later_spares tied (.pingTimeout other manager.nextNonce) id
  have spent : Spares id manager ({ manager with nextNonce := manager.nextNonce + 1 }.later
      (.pingTimeout other manager.nextNonce)) :=
    ⟨Nat.le_succ _, later.stored, later.timers⟩
  exact (spent.trans (modify_spares _ apart _)).trans (modify_spares _ apart _)

theorem ping_spares (tied : Tied none clock opens manager) (reading : Reading) {other id : Nat}
    (apart : other ≠ id) :
    Spares id manager (ping reading other manager : _ × List (Output μ κ)).1 := by
  have spared := addPing_spares tied reading apart
  unfold ping
  cases known : manager.connections[other]? with
  | none => exact .refl id manager
  | some connection =>
      dsimp only
      split_ifs with closed awaited
      · exact .refl id manager
      · exact .refl id manager
      · exact spared
      · simp only [Bool.or_eq_true, bne_iff_ne, not_or, ne_eq, Decidable.not_not] at closed
        exact spared.trans (die_spares (tied.addPing_opened reading known closed.1.2) reading apart)

/-- Looking for another connection. -/
theorem connect_spares (tied : Tied none clock opens manager) (reading : Reading) {id : Nat}
    (used : id < manager.nextNonce) :
    Spares id manager (connect reading manager : _ × List (Output μ κ)).1 := by
  have attempted : Spares id manager manager.attempt := by
    have stopped := cancelRetry_spares tied id
    exact ⟨stopped.nonces, stopped.stored, stopped.timers⟩
  unfold connect
  split_ifs with idle hidden opening alive exhausted failed
  · exact .refl id manager
  · exact ⟨Nat.le_refl _, rfl, fun _ _ running => running⟩
  · exact .refl id manager
  · exact .refl id manager
  · exact ⟨Nat.le_refl _, rfl, fun _ _ running => running⟩
  · exact attempted.trans
      (scheduleRetry_spares (tied.attempt (Nat.lt_of_not_le exhausted)).1 reading id)
  · rw [andThen_fst, emit_fst]
    have tied' := (tied.attempt (Nat.lt_of_not_le exhausted)).1
    have used' : id < manager.attempt.nextNonce := used.trans_le attempted.nonces
    refine attempted.trans ?_
    let joined : ConnectionManager := { manager.attempt with
      connections := manager.attempt.connections.insert manager.attempt.nextNonce
        (.opening reading.now)
      nextNonce := manager.attempt.nextNonce + 1 }
    have added : Spares id manager.attempt joined := by
      refine ⟨Nat.le_succ _, ?_, fun _ _ running => running⟩
      exact TreeMap.getElem?_insert.trans (if_neg (by simpa using used'.ne'))
    have later := later_spares tied' (.connectTimeout manager.attempt.nextNonce) id
    have timed : Spares id joined (joined.later (.connectTimeout manager.attempt.nextNonce)) :=
      ⟨Nat.le_refl _, rfl, later.timers⟩
    exact (added.trans timed).trans (modify_spares _ used'.ne' _)

/-! ## What happens to it, step by step -/

/-- A heartbeat is recorded for the connection. -/
theorem Under.addPing {holds after : Connection → Prop} {id : Nat} (under : Under holds id manager)
    (tied : Tied except clock opens manager) (reading : Reading)
    (becomes : ∀ connection timers nonce ping, holds connection → ping.expired = false →
      after (({ connection with timers } : Connection).pinged nonce ping)) :
    Under after id (manager.addPing reading id) := by
  have later := later_spares tied (.pingTimeout id manager.nextNonce) id
  refine ⟨Nat.lt_succ_of_lt under.used, fun connection known => ?_⟩
  have known : (((({ manager with nextNonce := manager.nextNonce + 1 } : ConnectionManager).timer id
    (.pingTimeout id manager.nextNonce)).modify id _).connections)[id]? = some connection := known
  rw [connections_modify, if_pos rfl, timer, connections_modify, if_pos rfl] at known
  obtain ⟨timed, found, rfl⟩ := Option.map_eq_some_iff.mp known
  obtain ⟨before, stored, rfl⟩ := Option.map_eq_some_iff.mp found
  rcases under.fate before stored with dead | ⟨stale, timer, deadline, running, due⟩ | ⟨alive, held⟩
  · exact .inl dead
  · refine .inr (.inl ⟨stale, timer, deadline, later.timers timer deadline running, ?_⟩)
    simp [Connection.pinged, stale, due]
  · exact .inr (.inr ⟨alive, becomes _ _ _ _ held rfl⟩)

theorem Moves.nonces {before after : ConnectionManager} (moves : Moves before after) :
    before.nextNonce ≤ after.nextNonce := by
  have grows : ∀ {cast : Cast}, Relation.ReflTransGen Cast.Move before.cast cast →
      before.cast.nextNonce ≤ cast.nextNonce := by
    intro cast moved
    induction moved with
    | refl => exact Nat.le_refl _
    | tail _ last ih =>
        refine ih.trans ?_
        cases last with
        | spend => exact Nat.le_succ _
        | join => exact Nat.le_succ _
        | _ => exact Nat.le_refl _
  exact grows moves

theorem Under.of_gone {holds : Connection → Prop} {id : Nat} (used : id < manager.nextNonce)
    (gone : Gone id manager) : Under holds id manager :=
  ⟨used, fun connection known => .inl (gone connection known)⟩

theorem Under.mono {holds after : Connection → Prop} {id : Nat} (under : Under holds id manager)
    (becomes : ∀ connection, holds connection → after connection) : Under after id manager :=
  ⟨under.used, fun connection known =>
    (under.fate connection known).imp_right (Or.imp_right (And.imp_right (becomes connection)))⟩

/-- A heartbeat for the connection itself. -/
theorem ping_under {holds after : Connection → Prop} {id : Nat}
    (inv : Inv clock going opens manager) (under : Under holds id manager) (reading : Reading)
    (becomes : ∀ connection timers nonce ping, holds connection → ping.expired = false →
      after (({ connection with timers } : Connection).pinged nonce ping))
    (stays : ∀ connection, holds connection →
      connection.socket.readyState ≠ .opened ∨ connection.awaitsPong = true → after connection) :
    Under after id (ping reading id manager : _ × List (Output μ κ)).1 := by
  have nonces : id < (ping reading id manager : _ × List (Output μ κ)).1.nextNonce :=
    under.used.trans_le (ping_moves reading id manager).nonces
  have pinged := under.addPing inv.tied reading becomes
  unfold ping at nonces ⊢
  cases known : manager.connections[id]? with
  | none => exact .of_gone under.used fun connection found => by cases known.symm.trans found
  | some connection =>
      have alive := inv.tied.undestroyed known
      have unchanged : (connection.isLive = true →
          connection.socket.readyState ≠ .opened ∨ connection.awaitsPong = true) →
          Under after id manager := by
        intro quiet
        refine ⟨under.used, fun other found => ?_⟩
        cases known.symm.trans found
        refine (under.fate connection known).imp_right (Or.imp_right ?_)
        rintro ⟨living, held⟩
        exact ⟨living, stays connection held (quiet (by simp [Connection.isLive, living]))⟩
      rw [known] at nonces
      dsimp only at nonces ⊢
      split_ifs at nonces ⊢ with closed awaited
      · refine unchanged fun live => .inl ?_
        simpa [live, alive] using closed
      · exact unchanged fun _ => .inr awaited
      · exact pinged
      · exact .of_gone nonces (die_gone reading id 1006 alive)

/-- A property that a heartbeat does not change. -/
def Lasting (holds : Connection → Prop) : Prop :=
  ∀ connection timers nonce ping, holds connection → ping.expired = false →
    holds (({ connection with timers } : Connection).pinged nonce ping)

theorem ping_keeps {holds : Connection → Prop} (lasting : Lasting holds) {id : Nat}
    (inv : Inv clock going opens manager) (under : Under holds id manager) (reading : Reading)
    (other : Nat) : Under holds id (ping reading other manager : _ × List (Output μ κ)).1 := by
  by_cases same : other = id
  · subst same
    exact ping_under inv under reading lasting fun _ held _ => held
  · exact under.spared (ping_spares inv.tied reading same)

/-- The invariant and what happens to the connection, through an iteration. -/
theorem forEach_keeps {holds : Connection → Prop} {id : Nat} {α : Type}
    {step : α → Step ConnectionManager (Output μ κ)}
    (keeps : ∀ item opens start, Inv clock going opens start →
      Inv clock going (opens + opensIn (step item start).2) (step item start).1)
    (spares : ∀ item opens start, Inv clock going opens start → Under holds id start →
      Under holds id (step item start).1) (items : List α)
    (inv : Inv clock going opens manager) (under : Under holds id manager) :
    Under holds id (forEach step items manager).1 := by
  induction items generalizing opens manager with
  | nil => exact under
  | cons item rest ih =>
      rw [forEach_cons, andThen_fst]
      exact ih (keeps item opens manager inv) (spares item opens manager inv under)

theorem connect_keeps {holds : Connection → Prop} {id : Nat} (inv : Inv clock going opens manager)
    (under : Under holds id manager) (reading : Reading) :
    Under holds id (connect reading manager : _ × List (Output μ κ)).1 :=
  under.spared (connect_spares inv.tied reading under.used)

theorem check_keeps {holds : Connection → Prop} (lasting : Lasting holds) {id : Nat}
    (inv : Inv clock going opens manager) (under : Under holds id manager) (reading : Reading) :
    Under holds id (check reading manager : _ × List (Output μ κ)).1 := by
  unfold check
  split
  · exact under
  · have pings : ∀ item opens (start : ConnectionManager), Inv clock going opens start →
      Inv clock going (opens + opensIn (ping reading item start : _ × List (Output μ κ)).2)
        (ping reading item start : _ × List (Output μ κ)).1 :=
      fun item opens start inv => ping_inv inv reading item
    have keeps : ∀ item opens (start : ConnectionManager), Inv clock going opens start →
        Under holds id start → Under holds id (ping reading item start : _ × List (Output μ κ)).1 :=
      fun item opens start inv under => ping_keeps lasting inv under reading item
    have pinged := inv.forEach pings manager.connections.keys
    have kept := forEach_keeps pings keeps manager.connections.keys inv under
    rw [andThen_fst, andThen_fst, emit_fst]
    split
    · exact connect_keeps pinged kept reading
    · exact kept

/-- The connection itself turns stale, if it is alive. -/
theorem markStale_under {holds : Connection → Prop} {id : Nat} (inv : Inv clock going opens manager)
    (under : Under holds id manager) (reading : Reading) :
    Under (fun _ => False) id (markStale reading id manager : _ × List (Output μ κ)).1 := by
  unfold markStale
  cases known : manager.connections[id]? with
  | none => exact .of_gone under.used fun connection found => by cases known.symm.trans found
  | some connection =>
      dsimp only
      split
      · rename_i early
        refine ⟨under.used, fun other found => ?_⟩
        cases known.symm.trans found
        rcases under.fate connection known with dead | stale | ⟨alive, _⟩
        · exact .inl dead
        · exact .inr (.inl stale)
        · simp [alive, inv.tied.undestroyed known] at early
      · rename_i running
        simp only [Bool.or_eq_true, beq_iff_eq, not_or] at running
        have graced := inv.tied.addGrace reading (.inl rfl) (fun other found => by
          cases known.symm.trans found
          simpa [Connection.isLive] using running.1.2) fun other found =>
            (inv.tied.attended id other found (by simp)).unclosed
        have stale : Under (fun _ => False) id (manager.addGrace reading id) := by
          refine ⟨under.used, fun other found => ?_⟩
          have found : ((((manager.modify id (·.becomeStale reading.now)).timer id
            (.graceTimeout id (reading.now + ConnectionPolicy.graceMs))).connections))[id]? =
              some other := found
          rw [timer, connections_modify, if_pos rfl] at found
          obtain ⟨marked, stored, rfl⟩ := Option.map_eq_some_iff.mp found
          have stored : (manager.modify id (·.becomeStale reading.now)).connections[id]? =
            some marked := stored
          rw [connections_modify, if_pos rfl] at stored
          obtain ⟨before, _, rfl⟩ := Option.map_eq_some_iff.mp stored
          exact .inr (.inl ⟨rfl, manager.nextTimer, reading.now + ConnectionPolicy.graceMs,
            TreeMap.getElem?_insert_self, rfl⟩)
        rw [andThen_fst, emit_fst]
        exact stale.spared (connect_spares graced reading stale.used)

theorem resume_keeps {holds : Connection → Prop} (lasting : Lasting holds) {id : Nat}
    (inv : Inv clock going opens manager) (under : Under holds id manager)
    (active : manager.activeId = some id) (reading : Reading) (gapMs : Option Nat) :
    Under holds id (resume reading gapMs manager : _ × List (Output μ κ)).1 := by
  have thawed : Inv clock going opens { manager with frozen := false } :=
    ⟨{ inv.tied with }, inv.sound, inv.going⟩
  have under' : Under holds id { manager with frozen := false } := ⟨under.used, under.fate⟩
  unfold resume
  split
  · exact under
  · rw [andThen_fst]
    split
    · rw [andThen_fst]
      dsimp only
      split
      · rename_i current used
        obtain rfl : current = id := Option.some.inj (used.symm.trans active)
        have marked : Inv clock going _
            (markStale reading current { manager with frozen := false } :
              _ × List (Output μ κ)).1 :=
          markStale_inv thawed reading (.inr (.inl used))
        have stale : Under holds current
            (markStale reading current { manager with frozen := false } :
              _ × List (Output μ κ)).1 :=
          (markStale_under thawed under' reading).mono fun _ => False.elim
        generalize (markStale reading current { manager with frozen := false } :
          _ × List (Output μ κ)).1 = start at marked stale ⊢
        have connected : Inv clock going _ (connect reading start : _ × List (Output μ κ)).1 :=
          connect_inv marked reading
        exact check_keeps lasting connected (connect_keeps marked stale reading) reading
      · rename_i unused
        cases unused.symm.trans active
    · exact check_keeps lasting thawed under' reading

/-! ## Overdue answers -/

/-- The last answer came then, and the socket is open. -/
def Heard (last : Nat) (connection : Connection) : Prop :=
  connection.lastPong = some last ∧ connection.socket.readyState = .opened

theorem heard_lasting (last : Nat) : Lasting (Heard last) := fun _ _ _ _ heard _ => heard

theorem awaiting_lasting : Lasting fun connection => connection.awaitsPong = true := by
  intro connection timers nonce ping _ unexpired
  refine (OrderedMap.anyValue_eq_true_iff _ _).mpr ⟨nonce, ping, TreeMap.getElem?_insert_self, ?_⟩
  rw [unexpired]
  rfl

theorem forgetOld_keeps {holds : Connection → Prop} {id : Nat} (under : Under holds id manager)
    (reading : Reading) (other : Nat) (connection : Connection) :
    Under holds id (manager.forgetOld reading other connection) := by
  unfold forgetOld
  split
  · refine ⟨under.used, fun connection stored => under.fate connection ?_⟩
    rw [TreeMap.getElem?_erase] at stored
    split at stored
    · cases stored
    · exact stored
  · exact under

theorem sweep_keeps {holds : Connection → Prop} (lasting : Lasting holds) {id : Nat}
    (inv : Inv clock going opens manager) (under : Under holds id manager) (reading : Reading)
    (other : Nat) : Under holds id (sweep reading other manager : _ × List (Output μ κ)).1 := by
  unfold sweep
  split
  · exact under
  · rename_i connection known
    have kept := forgetOld_keeps under reading other connection
    split
    · exact ping_keeps lasting (forgetOld_inv inv reading known) kept reading other
    · exact kept

/-- Sweeping the connection itself sends it a heartbeat when one is due. -/
theorem sweep_under {id last : Nat} (inv : Inv clock going opens manager)
    (under : Under (Heard last) id manager) (reading : Reading)
    (overdue : ConnectionPolicy.pingMs ≤ reading.now - last) :
    Under (fun connection => connection.awaitsPong = true) id
      (sweep reading id manager : _ × List (Output μ κ)).1 := by
  unfold sweep
  cases known : manager.connections[id]? with
  | none => exact .of_gone under.used fun connection found => by cases known.symm.trans found
  | some connection =>
      have kept := forgetOld_keeps under reading id connection
      dsimp only
      split
      · refine ping_under (forgetOld_inv inv reading known) kept reading
          (fun connection timers nonce ping heard unexpired => ?_) fun connection heard quiet => ?_
        · exact (OrderedMap.anyValue_eq_true_iff _ _).mpr ⟨nonce, ping,
            TreeMap.getElem?_insert_self, by simp [unexpired]⟩
        · exact quiet.resolve_left fun closed => closed heard.2
      · rename_i undue
        have notHeard : ¬ (connection.state = .alive ∧ Heard last connection) := by
          rintro ⟨alive, heard⟩
          exact undue (by simp [alive, heard.1, overdue])
        refine ⟨kept.used, fun other found => ?_⟩
        have same : other = connection := by
          have older : manager.connections[id]? = some other := by
            unfold forgetOld at found
            split at found
            · rw [TreeMap.getElem?_erase] at found
              split at found
              · cases found
              · exact found
            · exact found
          exact Option.some.inj (older.symm.trans known)
        subst same
        rcases kept.fate other found with dead | stale | alive
        · exact .inl dead
        · exact .inr (.inl stale)
        · exact absurd alive notHeard

/-- Sweeping all connections sends the connection a heartbeat when one is due. -/
theorem sweepAll_under {id last : Nat} (inv : Inv clock going opens manager)
    (under : Under (Heard last) id manager) (reading : Reading)
    (overdue : ConnectionPolicy.pingMs ≤ reading.now - last) :
    Under (fun connection => connection.awaitsPong = true) id
      (forEach (sweep reading) manager.connections.keys manager : _ × List (Output μ κ)).1 := by
  have sweeps : ∀ item opens (start : ConnectionManager), Inv clock going opens start →
      Inv clock going (opens + opensIn (sweep reading item start : _ × List (Output μ κ)).2)
        (sweep reading item start : _ × List (Output μ κ)).1 :=
    fun item opens start inv => sweep_inv inv reading item
  have keeps : ∀ {holds : Connection → Prop}, Lasting holds →
      ∀ item opens (start : ConnectionManager), Inv clock going opens start → Under holds id start →
        Under holds id (sweep reading item start : _ × List (Output μ κ)).1 :=
    fun lasting item opens start inv under => sweep_keeps lasting inv under reading item
  by_cases known : id ∈ manager.connections
  · have listed : id ∈ manager.connections.keys := TreeMap.mem_keys.mpr known
    obtain ⟨before, after, split⟩ := List.append_of_mem listed
    rw [split, forEach_append, andThen_fst, forEach_cons, andThen_fst]
    have early := forEach_keeps sweeps (keeps (heard_lasting last)) before inv under
    have swept := inv.forEach sweeps before
    exact forEach_keeps sweeps (keeps awaiting_lasting) after
      (sweep_inv swept reading id) (sweep_under swept early reading overdue)
  · have gone : Gone id manager := by
      intro connection found
      rw [TreeMap.getElem?_eq_none known] at found
      cases found
    exact forEach_keeps sweeps (keeps awaiting_lasting) _ inv (.of_gone under.used gone)

/-- After a tick at which an answer is overdue the connection is dead, or a timer gives it up, or it
has been sent a heartbeat. -/
theorem tick_under {id last : Nat} (inv : Inv clock going opens manager)
    (under : Under (Heard last) id manager) (active : manager.activeId = some id)
    (alive : manager.destroyed = false) (reading : Reading)
    (overdue : ConnectionPolicy.pingMs ≤ reading.now - last) :
    Under (fun connection => connection.awaitsPong = true) id
      (tick reading manager : _ × List (Output μ κ)).1 := by
  have noted : Inv clock going opens { manager with lastTick := reading.now } :=
    ⟨{ inv.tied with }, inv.sound, inv.going⟩
  have under' : Under (Heard last) id { manager with lastTick := reading.now } :=
    ⟨under.used, under.fate⟩
  unfold tick
  rw [if_neg (by simp [alive])]
  dsimp only
  rw [andThen_fst, andThen_fst, andThen_fst, emit_fst, silent_fst]
  have swept : ∀ (resumed : ConnectionManager) opens, Inv clock going opens resumed →
      Under (Heard last) id resumed → Under (fun connection => connection.awaitsPong = true) id
        (let swept := (forEach (sweep reading) resumed.connections.keys resumed :
          _ × List (Output μ κ)).1
        { swept.later .tick with tickTimer := some swept.nextTimer }) := by
    intro resumed opens inv under
    have awaiting : Under (fun connection => connection.awaitsPong = true) id
        (forEach (sweep reading) resumed.connections.keys resumed : _ × List (Output μ κ)).1 :=
      sweepAll_under inv under reading overdue
    have swept : Inv clock going _
        (forEach (sweep reading) resumed.connections.keys resumed : _ × List (Output μ κ)).1 :=
      inv.forEach (fun item opens start inv => sweep_inv inv reading item) resumed.connections.keys
    have ticking := awaiting.spared (later_spares swept.tied .tick id)
    exact ⟨ticking.used, ticking.fate⟩
  split
  · exact swept _ _ (resume_inv noted reading _)
      (resume_keeps (heard_lasting last) noted under' active reading _)
  · exact swept _ _ noted under'

/-- A stale connection is given up when it does not recover. -/
theorem Under.doomed_of_stale {id : Nat} (tied : Tied none clock opens manager)
    (under : Under (fun _ => False) id manager) : Doomed μ κ id manager := by
  cases known : manager.connections[id]? with
  | none => exact .gone fun connection found => by cases known.symm.trans found
  | some connection =>
      rcases under.fate connection known with
        dead | ⟨stale, timer, deadline, running, due⟩ | ⟨_, false⟩
      · refine .gone fun other found => ?_
        cases known.symm.trans found
        exact dead
      · refine .expires timer (by rw [running]; rfl) fun reading => .gone ?_
        have alive : ((manager.cancel timer).modify id (·.dropTimer timer)).destroyed = false :=
          tied.undestroyed known
        rw [expire_connectionTimer reading tied running rfl known
          (by simp [Connection.isLive, stale]), graceTimeout, if_pos (by simp [stale, due])]
        exact die_gone reading id 1006 alive
      · exact false.elim

/-- A connection that has to answer turns stale when it does not. -/
theorem Under.doomed {id : Nat} (inv : Inv clock going opens manager)
    (under : Under (fun connection => connection.awaitsPong = true) id manager) :
    Doomed μ κ id manager := by
  cases known : manager.connections[id]? with
  | none => exact .gone fun connection found => by cases known.symm.trans found
  | some connection =>
      by_cases alive : connection.state = .alive
      · rcases under.fate connection known with dead | ⟨stale, _⟩ | ⟨_, awaits⟩
        · cases alive.symm.trans dead
        · cases alive.symm.trans stale
        · obtain ⟨nonce, ping, pending, unexpired⟩ :=
            (OrderedMap.anyValue_eq_true_iff _ _).mp awaits
          have live : connection.isLive = true := by simp [Connection.isLive, alive]
          have running := (inv.tied.held id connection known).awaited live nonce ping pending
            (by simpa using unexpired)
          refine .expires ping.timer (by rw [running]; rfl) fun reading => ?_
          rw [expire_connectionTimer reading inv.tied running rfl known live, pingTimeout,
            if_neg (by simp [pending]), if_neg (by simp [alive])]
          have stored : (((manager.cancel ping.timer).modify id (·.dropTimer ping.timer)).modify id
              (·.pingExpired nonce)).connections[id]? =
                some ((connection.dropTimer ping.timer).pingExpired nonce) := by
            rw [connections_modify, if_pos rfl, connections_modify, if_pos rfl]
            exact congrArg (Option.map _ ∘ Option.map _) known
          have keeps : ∀ connection : Connection, ((connection.pingExpired nonce).state =
            connection.state) ∧ (connection.dropTimer ping.timer).state = connection.state :=
              fun _ => ⟨rfl, rfl⟩
          have roles := (cast_modify (fun connection => (keeps connection).1)
            ((manager.cancel ping.timer).modify id (·.dropTimer ping.timer)) id).trans
              (cast_modify (fun connection => (keeps connection).2) (manager.cancel ping.timer) id)
          have expired : Inv clock false opens (((manager.cancel ping.timer).modify id
              (·.dropTimer ping.timer)).modify id (·.pingExpired nonce)) := by
            refine ⟨(inv.tied.pingExpired running).settle fun other found => ?_,
              roles ▸ inv.sound, by simp⟩
            cases stored.symm.trans found
            refine .of_opened (fun new => ?_) fun _ =>
              (inv.tied.attended id connection known (by simp)).unclosed live
            cases alive.symm.trans new
          have missed : Under (fun _ => True) id (((manager.cancel ping.timer).modify id
              (·.dropTimer ping.timer)).modify id (·.pingExpired nonce)) := by
            refine ⟨under.used, fun other found => ?_⟩
            cases stored.symm.trans found
            exact .inr (.inr ⟨alive, trivial⟩)
          have was := congrArg (fun cast => cast.role id) roles
          generalize ((manager.cancel ping.timer).modify id (·.dropTimer ping.timer)).modify id
            (·.pingExpired nonce) = start at expired missed was ⊢
          have before : manager.cast.role id = some .alive := by simp [cast, known, alive]
          have role : start.cast.role id = some .alive := was.trans before
          exact (markStale_under expired missed reading).doomed_of_stale
            (markStale_inv expired reading (.inl role)).tied
      · refine Under.doomed_of_stale inv.tied ⟨under.used, fun other found => ?_⟩
        cases known.symm.trans found
        exact (under.fate connection known).imp_right
          (Or.imp_right fun fate => absurd fate.1 alive)

/-- While a connection is alive, the tick timer looks after it. -/
theorem Inv.watched {id : Nat} (inv : Inv .running going opens manager)
    (delivered : manager.Delivered) {connection : Connection}
    (known : manager.connections[id]? = some connection) (alive : connection.state = .alive) :
    manager.Watched μ κ id := by
  have undestroyed := inv.tied.undestroyed known
  have live : connection.isLive = true := by simp [Connection.isLive, alive]
  have role : manager.cast.role id = some .alive := by simp [cast, known, alive]
  have active : manager.activeId = some id := inv.sound.held id (.inl role)
  have attended := inv.tied.attended id connection known (by simp)
  obtain ⟨opened, closed⟩ := delivered id connection known live
  have isOpen : connection.socket.readyState = .opened := by
    cases state : connection.socket.readyState with
    | connecting =>
        exact absurd state ((inv.tied.held id connection known).answered alive).2
    | opened => rfl
    | closing => cases (attended.unclosed live).symm.trans (closed (.inl state))
    | closed => cases (attended.unclosed live).symm.trans (closed (.inr state))
  obtain ⟨timer, set, running⟩ := inv.tied.shows undestroyed
  refine ⟨timer, set, running, fun other found => ?_⟩
  cases known.symm.trans found
  obtain ⟨last, heard⟩ := Option.isSome_iff_exists.mp
    ((inv.tied.held id connection known).answered alive).1
  refine ⟨last, heard, fun reading overdue => ?_⟩
  have expired : (expire reading timer manager : _ × List (Output μ κ)) =
      tick reading (manager.cancel timer) := by
    unfold expire
    rw [running]
    rfl
  have ready := tickTimer_expired inv running
  have under : Under (Heard last) id (manager.cancel timer) := by
    refine ⟨inv.sound.active_known id active, fun other stored => ?_⟩
    cases known.symm.trans stored
    exact .inr (.inr ⟨alive, heard, isOpen⟩)
  rw [expired]
  exact (tick_under ready under active undestroyed reading overdue).doomed
    (tick_inv ready reading undestroyed)

/-! ## Runs -/

/-- Events, one after another. -/
def play (events : List (Reading × Input μ κ)) : Step ConnectionManager (Output μ κ) :=
  forEach (fun event => step event.1 event.2) events

/-- How far a manager is: it was never started, or it goes on. -/
def Underway (opens : Nat) (manager : ConnectionManager) : Prop :=
  Inv .stopped false opens manager ∨ Inv .running true opens manager

theorem Underway.step {reading : Reading} {input : Input μ κ} (underway : Underway opens manager)
    (fresh : manager.resets input = true → opens = 0) :
    Underway (opens + opensIn (step reading input manager).2) (step reading input manager).1 := by
  rcases underway with inv | inv
  · exact step_inv inv (.inl rfl) reading input fresh
  · exact .inr ((step_inv inv (.inr ⟨rfl, rfl⟩) reading input fresh).elim id id)

/-- The sockets that were created before need not be counted. -/
theorem Inv.forget (inv : Inv clock going opens manager) : Inv clock going 0 manager :=
  ⟨{ inv.tied with opened := Nat.zero_le _ }, inv.sound, inv.going⟩

theorem Underway.forget (underway : Underway opens manager) : Underway 0 manager :=
  underway.imp Inv.forget Inv.forget

end ConnectionManager

end MqttController.Frontend
