import MqttController.Lib.Emission
import MqttController.Lib.OrderedMap

/-!
# The dashboard's connection manager

The dashboard keeps one healthy connection to the controller.  A new socket has to answer a
heartbeat before it is used; a connection that misses one turns stale and is replaced, and failed
attempts are repeated until they are exhausted.
-/

namespace MqttController.Frontend

open Std Emission

/-- Entries by the number of their nonce or timer. -/
abbrev NumberMap (α : Type) := TreeMap Nat α compare

/-- Role of a connection. -/
inductive ConnectionState
  | new
  | alive
  | stale
  | dead
  deriving DecidableEq, Repr

/-- What a native socket reports about itself. -/
inductive ReadyState
  | connecting
  | opened
  | closing
  | closed
  deriving DecidableEq, Repr

namespace ReadyState

/-- Position in the life of a socket. -/
def rank : ReadyState → Nat
  | connecting => 0
  | opened => 1
  | closing => 2
  | closed => 3

end ReadyState

namespace ConnectionPolicy

def connectMs : Nat := 10000
def pingMs : Nat := 10000
def pongMs : Nat := 3000
def graceMs : Nat := 10000
def maxAttempts : Nat := 15
def poolSize : Nat := 3
def deadRetentionMs : Nat := 5000
def tickMs : Nat := 1000
def pauseThresholdMs : Nat := 500

/-- Close codes after which reconnecting is pointless. -/
def permanentCodes : List Nat := [1002, 1003, 1007, 1009, 1010, 1015, 4002]

end ConnectionPolicy

/-- A native socket, and which of its events were delivered. -/
structure Socket where
  readyState : ReadyState := .connecting
  /-- The open event was delivered while the socket reported to be open. -/
  openDelivered : Bool := false
  /-- The close event was delivered. -/
  closeDelivered : Bool := false
  deriving DecidableEq, Repr

/-- A heartbeat that was not answered. -/
structure PendingPing where
  sentAt : Nat
  timer : Nat
  expired : Bool
  deriving DecidableEq, Repr

/-- One connection of the pool. -/
structure Connection where
  socket : Socket := {}
  state : ConnectionState := .new
  stateAt : Nat
  deadline : Option Nat
  timers : List Nat := []
  pings : NumberMap PendingPing := ∅
  lastPong : Option Nat := none

/-- What a timer does when it expires. -/
inductive Callback
  | connectTimeout (connection : Nat)
  | pingTimeout (connection nonce : Nat)
  | graceTimeout (connection deadline : Nat)
  | retry
  | tick
  deriving DecidableEq, Repr

namespace Callback

/-- The connection a timer belongs to. -/
def connection : Callback → Option Nat
  | connectTimeout connection => some connection
  | pingTimeout connection _ => some connection
  | graceTimeout connection _ => some connection
  | retry => none
  | tick => none

end Callback

/-- What the browser says while the manager handles one event. -/
structure Reading where
  /-- Milliseconds. -/
  now : Nat
  /-- The page is visible. -/
  visible : Bool
  /-- A socket can be created. -/
  opens : Bool
  /-- Sending on the socket of a connection succeeds. -/
  sends : Nat → Bool

/-- What the dashboard sends: heartbeats of the manager and messages of the application. -/
inductive ClientMessage (κ : Type)
  | ping (nonce clientTsMs : Nat)
  | message (message : κ)
  deriving DecidableEq

/-- What arrives on a socket. -/
inductive ServerData (μ : Type)
  /-- Text that is no message of the protocol. -/
  | malformed
  | pong (nonce clientTsMs : Nat)
  | message (message : μ)
  deriving DecidableEq

/-- The connections and the one in use, as the application is told. -/
structure Health where
  connections : List (Nat × ConnectionState)
  activeId : Option Nat
  deriving DecidableEq, Repr

/-- What the manager does to the outside. -/
inductive Output (μ κ : Type)
  /-- The application is told about the connections. -/
  | health (health : Health)
  /-- A message is handed to the application. -/
  | deliver (connection : Nat) (message : μ)
  /-- The application is told that a connection is in use. -/
  | active (connection : Nat)
  /-- A socket is created. -/
  | openSocket (connection : Nat)
  /-- Something is sent on a socket. -/
  | send (connection : Nat) (message : ClientMessage κ)
  /-- A socket is closed. -/
  | closeSocket (connection : Nat)
  deriving DecidableEq

/-- The manager and the timers it has set. -/
structure ConnectionManager where
  connections : NumberMap Connection := ∅
  activeId : Option Nat := none
  attempts : Nat := 0
  terminal : Bool := false
  deferred : Bool := false
  frozen : Bool := false
  offline : Bool := false
  suspended : Bool := false
  destroyed : Bool := false
  retryTimer : Option Nat := none
  tickTimer : Option Nat := none
  lastTick : Nat
  /-- The timers that are running. -/
  timers : NumberMap Callback := ∅
  /-- Numbers from here on name no timer yet. -/
  nextTimer : Nat := 0
  /-- Numbers from here on were no nonce yet. -/
  nextNonce : Nat := 0

namespace Connection

/-- The connection is not dead. -/
def isLive (connection : Connection) : Bool := connection.state != .dead

/-- A heartbeat is on its way. -/
def awaitsPong (connection : Connection) : Bool :=
  OrderedMap.anyValue connection.pings fun ping => !ping.expired

/-- A new connection, whose socket has to open in time. -/
def opening (now : Nat) : Connection :=
  { stateAt := now, deadline := some (now + ConnectionPolicy.connectMs) }

/-- Give a connection up. -/
def retired (connection : Connection) (now : Nat) : Connection :=
  { connection with state := .dead, stateAt := now, deadline := none, timers := [], pings := ∅ }

/-- Remember a heartbeat. -/
def pinged (connection : Connection) (nonce : Nat) (ping : PendingPing) : Connection :=
  { connection with
    pings := connection.pings.insert nonce ping
    deadline :=
      if connection.state = .stale then connection.deadline
      else some (ping.sentAt + ConnectionPolicy.pongMs) }

/-- The heartbeat in time is missed. -/
def pingExpired (connection : Connection) (nonce : Nat) : Connection :=
  { connection with
    pings := OrderedMap.adjust connection.pings nonce fun ping => { ping with expired := true } }

/-- No heartbeat came for too long. -/
def becomeStale (connection : Connection) (now : Nat) : Connection :=
  { connection with
    state := .stale
    stateAt := now
    deadline := some (now + ConnectionPolicy.graceMs) }

/-- A heartbeat was answered: forget it and those that were missed before. -/
def answered (connection : Connection) (nonce : Nat) (ping : PendingPing) (now : Nat) :
    Connection :=
  { connection with
    timers := connection.timers.filter fun timer => timer != ping.timer
    pings := (connection.pings.erase nonce).filter fun _ other => !other.expired
    lastPong := some now
    state := .alive
    stateAt := if connection.state = .alive then connection.stateAt else now
    deadline := some (now + ConnectionPolicy.pingMs) }

/-- A timer of the connection is no longer needed. -/
def dropTimer (connection : Connection) (timer : Nat) : Connection :=
  { connection with timers := connection.timers.filter fun other => other != timer }

end Connection

namespace ConnectionManager

variable {μ κ : Type}

/-- What the application is told. -/
def stats (manager : ConnectionManager) : Health :=
  { connections := manager.connections.toList.map fun entry => (entry.1, entry.2.state)
    activeId := manager.activeId }

/-- Change one connection. -/
def modify (manager : ConnectionManager) (id : Nat) (change : Connection → Connection) :
    ConnectionManager :=
  { manager with connections := OrderedMap.adjust manager.connections id change }

/-- Set a timer; its number is the next one. -/
def later (manager : ConnectionManager) (callback : Callback) : ConnectionManager :=
  { manager with
    timers := manager.timers.insert manager.nextTimer callback
    nextTimer := manager.nextTimer + 1 }

/-- Stop a timer. -/
def cancel (manager : ConnectionManager) (timer : Nat) : ConnectionManager :=
  { manager with timers := manager.timers.erase timer }

/-- Set a timer of a connection. -/
def timer (manager : ConnectionManager) (id : Nat) (callback : Callback) : ConnectionManager :=
  (manager.later callback).modify id fun connection =>
    { connection with timers := connection.timers ++ [manager.nextTimer] }

/-- Tell the application about the connections. -/
def emit : Step ConnectionManager (Output μ κ) := fun manager =>
  (manager, if manager.destroyed then [] else [.health manager.stats])

/-- Stop the retry timer. -/
def cancelRetry (manager : ConnectionManager) : ConnectionManager :=
  let stopped := match manager.retryTimer with
    | some timer => manager.cancel timer
    | none => manager
  { stopped with retryTimer := none }

/-- Stop the tick timer. -/
def cancelTick (manager : ConnectionManager) : ConnectionManager :=
  match manager.tickTimer with
  | some timer => manager.cancel timer
  | none => manager

/-- A connection has a property. -/
def hasConnection (manager : ConnectionManager) (holds : Connection → Bool) : Bool :=
  OrderedMap.anyValue manager.connections holds

/-- Give a connection up and close its socket. -/
def retire (reading : Reading) (id : Nat) : Step ConnectionManager (Output μ κ) := fun manager =>
  match manager.connections[id]? with
  | none => (manager, [])
  | some connection =>
      if connection.isLive then
        ((connection.timers.foldl cancel manager).modify id (·.retired reading.now),
          [.closeSocket id])
      else (manager, [])

/-- Give up every connection that an identity test selects. -/
def retireAll (reading : Reading) (selects : Nat → Bool) : Step ConnectionManager (Output μ κ) :=
  fun manager => forEach (retire reading) (manager.connections.keys.filter selects) manager

/-- Plan the next attempt, unless the attempts are exhausted or the page is hidden. -/
def scheduleRetry (reading : Reading) : Step ConnectionManager (Output μ κ) := fun manager =>
  if manager.destroyed || manager.suspended || manager.terminal || manager.retryTimer.isSome then
    (manager, [])
  else if ConnectionPolicy.maxAttempts ≤ manager.attempts then
    emit { manager with terminal := true }
  else if !reading.visible then emit { manager with deferred := true }
  else emit { manager.later .retry with retryTimer := some manager.nextTimer }

/-- A connection is lost. -/
def die (reading : Reading) (id code : Nat) : Step ConnectionManager (Output μ κ) := fun manager =>
  match manager.connections[id]? with
  | none => (manager, [])
  | some connection =>
      if manager.destroyed || !connection.isLive then (manager, [])
      else
        let dropped :=
          if manager.activeId = some id then { manager with activeId := none } else manager
        andThen (retire reading id)
          (andThen (fun manager =>
            if ConnectionPolicy.permanentCodes.contains code then
              retireAll reading (fun _ => true)
                { manager with terminal := true, activeId := none }.cancelRetry
            else if manager.hasConnection fun other =>
                other.state == .alive || other.state == .new then (manager, [])
            else scheduleRetry reading manager) emit) dropped

/-- Record a heartbeat that is being sent. -/
def addPing (reading : Reading) (id : Nat) (manager : ConnectionManager) : ConnectionManager :=
  ({ manager with nextNonce := manager.nextNonce + 1 }.timer id
    (.pingTimeout id manager.nextNonce)).modify id
      (·.pinged manager.nextNonce
        { sentAt := reading.now, timer := manager.nextTimer, expired := false })

/-- Send a heartbeat, unless one is on its way or the socket is not open. -/
def ping (reading : Reading) (id : Nat) : Step ConnectionManager (Output μ κ) := fun manager =>
  match manager.connections[id]? with
  | none => (manager, [])
  | some connection =>
      if !connection.isLive || connection.socket.readyState != .opened || manager.destroyed then
        (manager, [])
      else if connection.awaitsPong then (manager, [])
      else if reading.sends id then
        (manager.addPing reading id, [.send id (.ping manager.nextNonce reading.now)])
      else die reading id 1006 (manager.addPing reading id)

/-- Count an attempt. -/
def attempt (manager : ConnectionManager) : ConnectionManager :=
  { manager.cancelRetry with deferred := false, attempts := manager.attempts + 1 }

/-- Add a connection whose socket has to open and answer soon. -/
def addConnection (reading : Reading) (manager : ConnectionManager) : ConnectionManager :=
  { manager with
    connections := manager.connections.insert manager.nextNonce (.opening reading.now)
    nextNonce := manager.nextNonce + 1 }.timer manager.nextNonce
      (.connectTimeout manager.nextNonce)

/-- Open a new socket, if one is needed and allowed. -/
def connect (reading : Reading) : Step ConnectionManager (Output μ κ) := fun manager =>
  if manager.destroyed || manager.terminal || manager.suspended then (manager, [])
  else if !reading.visible then emit { manager with deferred := true }
  else if manager.hasConnection (·.state == .new) ||
      decide (ConnectionPolicy.poolSize ≤
        OrderedMap.countValues manager.connections (·.isLive)) then (manager, [])
  else if manager.hasConnection (·.state == .alive) then (manager, [])
  else if ConnectionPolicy.maxAttempts ≤ manager.attempts then
    emit { manager with terminal := true }
  else if !reading.opens then scheduleRetry reading manager.attempt
  else
    andThen (fun manager => (manager.addConnection reading, [.openSocket manager.nextNonce])) emit
      manager.attempt

/-- Record that a connection turned stale. -/
def addGrace (reading : Reading) (id : Nat) (manager : ConnectionManager) : ConnectionManager :=
  (manager.modify id (·.becomeStale reading.now)).timer id
    (.graceTimeout id (reading.now + ConnectionPolicy.graceMs))

/-- A heartbeat was missed: look for a replacement. -/
def markStale (reading : Reading) (id : Nat) : Step ConnectionManager (Output μ κ) :=
  fun manager =>
    match manager.connections[id]? with
    | none => (manager, [])
    | some connection =>
        if manager.destroyed || connection.state == .dead || connection.state == .stale then
          (manager, [])
        else andThen emit (connect reading) (manager.addGrace reading id)

/-- Check every connection and look for a new one if none is planned. -/
def check (reading : Reading) : Step ConnectionManager (Output μ κ) := fun manager =>
  if manager.destroyed || manager.terminal || manager.suspended then (manager, [])
  else
    andThen (forEach (ping reading) manager.connections.keys)
      (andThen (fun manager =>
        if manager.retryTimer.isNone then connect reading manager else (manager, [])) emit) manager

/-! ## Events of sockets -/

/-- The socket opened: it has to answer a heartbeat soon. -/
def socketOpened (reading : Reading) (id : Nat) : Step ConnectionManager (Output μ κ) :=
  fun manager =>
    match manager.connections[id]? with
    | none => (manager, [])
    | some connection =>
        if !connection.isLive || manager.destroyed then (manager, [])
        else
          andThen (ping reading id) emit (manager.modify id fun connection =>
            { connection with deadline := some (reading.now + ConnectionPolicy.pongMs) })

/-- Record that a heartbeat was answered. -/
def addPong (reading : Reading) (id nonce : Nat) (ping : PendingPing)
    (manager : ConnectionManager) : ConnectionManager :=
  { ((manager.cancel ping.timer).modify id (·.answered nonce ping reading.now)).cancelRetry with
    attempts := 0
    deferred := false }

/-- A heartbeat is answered: use this connection, and no other.  The application is told before the
connections are reported again. -/
def pongReceived (reading : Reading) (id nonce clientTsMs : Nat) :
    Step ConnectionManager (Output μ κ) := fun manager =>
  match manager.connections[id]? with
  | none => (manager, [])
  | some connection =>
      match connection.pings[nonce]? with
      | none => (manager, [])
      | some ping =>
          if ping.sentAt ≠ clientTsMs then (manager, [])
          else
            let wasAlive := connection.state == .alive
            let answered := manager.addPong reading id nonce ping
            if answered.activeId ≠ some id || !wasAlive then
              let healthy := answered.activeId.any fun current => current != id &&
                (answered.connections[current]?).any (·.state == .alive)
              if healthy then retire reading id answered
              else
                andThen (retireAll reading (· != id))
                  (andThen emit fun manager => (manager, [.active id]))
                  { answered with activeId := some id }
            else (answered, [])

/-- The heartbeat that an answer belongs to is on its way. -/
def acceptsPong (manager : ConnectionManager) (id nonce clientTsMs : Nat) : Bool :=
  !manager.destroyed && (manager.connections[id]?).any fun connection =>
    connection.isLive && (connection.pings[nonce]?).any (·.sentAt == clientTsMs)

/-- Something arrived on a socket. -/
def receive (reading : Reading) (id : Nat) (data : ServerData μ) :
    Step ConnectionManager (Output μ κ) := fun manager =>
  match manager.connections[id]? with
  | none => (manager, [])
  | some connection =>
      if manager.destroyed || !connection.isLive then (manager, [])
      else
        match data with
        | .malformed => die reading id 4002 manager
        | .pong nonce clientTsMs =>
            if manager.acceptsPong id nonce clientTsMs then
              andThen (pongReceived reading id nonce clientTsMs) emit manager
            else (manager, [])
        | .message message =>
            if manager.activeId = some id && connection.state == .alive then
              (manager, [.deliver id message])
            else (manager, [])

/-! ## Calls -/

/-- What became of a message of the application. -/
inductive SendResult
  | sent
  /-- No connection is ready. -/
  | notReady
  /-- The socket refused it. -/
  | failed
  deriving DecidableEq, Repr

/-- Send a message of the application on the connection in use. -/
def send (reading : Reading) (message : κ) (manager : ConnectionManager) :
    (ConnectionManager × List (Output μ κ)) × SendResult :=
  match manager.activeId with
  | none => ((manager, []), .notReady)
  | some id =>
      match manager.connections[id]? with
      | none => ((manager, []), .notReady)
      | some connection =>
          if connection.state != .alive || connection.socket.readyState != .opened ||
              manager.destroyed then ((manager, []), .notReady)
          else if reading.sends id then ((manager, [.send id (.message message)]), .sent)
          else (die reading id 1006 manager, .failed)

/-- Start over. -/
def retry (reading : Reading) : Step ConnectionManager (Output μ κ) := fun manager =>
  if manager.destroyed then (manager, [])
  else
    andThen (retireAll reading fun _ => true) (connect reading)
      { manager.cancelRetry with terminal := false, attempts := 0, activeId := none }

/-- The page came to the front or went to the back. -/
def visibilityChanged (reading : Reading) : Step ConnectionManager (Output μ κ) := fun manager =>
  if manager.destroyed || manager.terminal || manager.suspended then (manager, [])
  else if reading.visible then
    andThen (fun manager =>
      if manager.deferred then connect reading { manager with deferred := false }
      else (manager, [])) (andThen (check reading) emit) manager
  else emit manager

/-- The network came or went. -/
def networkChanged (reading : Reading) (offline : Bool) : Step ConnectionManager (Output μ κ) :=
  fun manager =>
    andThen (fun manager => if offline then (manager, []) else check reading manager) emit
      { manager with offline }

/-- The page is frozen. -/
def freeze : Step ConnectionManager (Output μ κ) :=
  fun manager => emit { manager with frozen := true }

/-- Events were held up for a while; no limit is known for the page being frozen. -/
def resume (reading : Reading) (gapMs : Option Nat) : Step ConnectionManager (Output μ κ) :=
  fun manager =>
    if manager.destroyed || manager.terminal || manager.suspended then (manager, [])
    else
      andThen (fun manager =>
        if gapMs.all fun gap => decide (ConnectionPolicy.pongMs ≤ gap) then
          andThen (fun manager =>
            match manager.activeId with
            | some active => markStale reading active manager
            | none => (manager, [])) (connect reading) manager
        else (manager, [])) (check reading) { manager with frozen := false }

/-- The page is left. -/
def pageHide (reading : Reading) : Step ConnectionManager (Output μ κ) := fun manager =>
  if manager.destroyed then (manager, [])
  else
    andThen (retireAll reading fun _ => true) emit
      { manager with suspended := true, frozen := true, activeId := none }.cancelRetry

/-- The page is shown again. -/
def pageShow (reading : Reading) : Step ConnectionManager (Output μ κ) := fun manager =>
  if manager.destroyed then (manager, [])
  else
    let shown := { manager with suspended := false, frozen := false, lastTick := reading.now }
    if shown.terminal then (shown, []) else connect reading shown

/-- The dashboard is closed. -/
def destroy (reading : Reading) : Step ConnectionManager (Output μ κ) := fun manager =>
  andThen (retireAll reading fun _ => true)
    (silent fun manager => { manager with connections := ∅ }.cancelRetry)
    { { manager with destroyed := true }.cancelRetry.cancelTick with activeId := none }

/-! ## Timers -/

/-- Forget a connection that has been dead for long. -/
def forgetOld (reading : Reading) (id : Nat) (connection : Connection)
    (manager : ConnectionManager) : ConnectionManager :=
  if !connection.isLive &&
      decide (ConnectionPolicy.deadRetentionMs ≤ reading.now - connection.stateAt) then
    { manager with connections := manager.connections.erase id }
  else manager

/-- Forget a connection that has been dead for long, and send a heartbeat when one is due. -/
def sweep (reading : Reading) (id : Nat) : Step ConnectionManager (Output μ κ) := fun manager =>
  match manager.connections[id]? with
  | none => (manager, [])
  | some connection =>
      if connection.state == .alive &&
          connection.lastPong.any fun last =>
            decide (ConnectionPolicy.pingMs ≤ reading.now - last) then
        ping reading id (manager.forgetOld reading id connection)
      else (manager.forgetOld reading id connection, [])

/-- Look after the connections, once a second. -/
def tick (reading : Reading) : Step ConnectionManager (Output μ κ) := fun manager =>
  if manager.destroyed then (manager, [])
  else
    let elapsed := reading.now - manager.lastTick
    andThen (fun manager =>
      if ConnectionPolicy.tickMs + ConnectionPolicy.pauseThresholdMs < elapsed then
        resume reading (some elapsed) manager
      else (manager, []))
      (andThen (fun manager => forEach (sweep reading) manager.connections.keys manager)
        (andThen emit
          (silent fun manager => { manager.later .tick with tickTimer := some manager.nextTimer })))
      { manager with lastTick := reading.now }

/-- Begin to connect. -/
def start (reading : Reading) : Step ConnectionManager (Output μ κ) := fun manager =>
  if manager.destroyed || manager.tickTimer.isSome then (manager, [])
  else andThen (tick reading) (connect reading) manager

/-- Run a timer of a live connection. -/
def connectionTimer (timer id : Nat)
    (callback : Connection → Step ConnectionManager (Output μ κ)) :
    Step ConnectionManager (Output μ κ) := fun manager =>
  match manager.connections[id]? with
  | none => (manager, [])
  | some connection =>
      let dropped := manager.modify id (·.dropTimer timer)
      if manager.destroyed || !connection.isLive then (dropped, [])
      else callback connection dropped

/-- The socket did not open in time. -/
def connectTimeout (reading : Reading) (id : Nat) (connection : Connection) :
    Step ConnectionManager (Output μ κ) := fun manager =>
  if connection.state == .new && connection.socket.readyState == .connecting then
    die reading id 1006 manager
  else (manager, [])

/-- A heartbeat was not answered in time. -/
def pingTimeout (reading : Reading) (id nonce : Nat) (connection : Connection) :
    Step ConnectionManager (Output μ κ) := fun manager =>
  if (connection.pings[nonce]?).isNone then (manager, [])
  else if connection.state == .new then
    die reading id 1006 (manager.modify id (·.pingExpired nonce))
  else markStale reading id (manager.modify id (·.pingExpired nonce))

/-- A stale connection did not recover in time. -/
def graceTimeout (reading : Reading) (id deadline : Nat) (connection : Connection) :
    Step ConnectionManager (Output μ κ) := fun manager =>
  if connection.state == .stale && connection.deadline == some deadline then
    die reading id 1006 manager
  else (manager, [])

/-- What a timer does. -/
def run (reading : Reading) (timer : Nat) : Callback → Step ConnectionManager (Output μ κ)
  | .connectTimeout id => connectionTimer timer id (connectTimeout reading id)
  | .pingTimeout id nonce => connectionTimer timer id (pingTimeout reading id nonce)
  | .graceTimeout id deadline => connectionTimer timer id (graceTimeout reading id deadline)
  | .retry => fun manager => connect reading { manager with retryTimer := none }
  | .tick => tick reading

/-- A running timer expires. -/
def expire (reading : Reading) (timer : Nat) : Step ConnectionManager (Output μ κ) := fun manager =>
  match manager.timers[timer]? with
  | none => (manager, [])
  | some callback => run reading timer callback (manager.cancel timer)

/-! ## The manager as a machine -/

/-- What can happen to the manager. -/
inductive Input (μ κ : Type)
  | start
  /-- What a socket reports about itself moves on. -/
  | advance (connection : Nat) (readyState : ReadyState)
  | opened (connection : Nat)
  | received (connection : Nat) (data : ServerData μ)
  | closed (connection code : Nat)
  | error (connection : Nat)
  | expired (timer : Nat)
  | send (message : κ)
  | retry
  | visibilityChanged
  | networkChanged (offline : Bool)
  | freeze
  | resume (gapMs : Option Nat)
  | pageHide
  | pageShow
  | destroy

/-- Change the socket of a connection. -/
def modifySocket (manager : ConnectionManager) (id : Nat) (change : Socket → Socket) :
    ConnectionManager :=
  manager.modify id fun connection => { connection with socket := change connection.socket }

end ConnectionManager

namespace Socket

/-- A socket only moves on. -/
def advance (socket : Socket) (readyState : ReadyState) : Socket :=
  if socket.readyState.rank < readyState.rank then { socket with readyState } else socket

/-- The open event is delivered. -/
def deliverOpen (socket : Socket) : Socket :=
  { socket with openDelivered := socket.openDelivered || socket.readyState == .opened }

/-- The close event is delivered. -/
def deliverClose (socket : Socket) : Socket := { socket with closeDelivered := true }

end Socket

namespace ConnectionManager

variable {μ κ : Type}

/-- What the manager does when something happens. -/
def step (reading : Reading) : Input μ κ → Step ConnectionManager (Output μ κ)
  | .start => start reading
  | .advance id readyState => silent fun manager => manager.modifySocket id (·.advance readyState)
  | .opened id => fun manager =>
      socketOpened reading id (manager.modifySocket id Socket.deliverOpen)
  | .received id data => receive reading id data
  | .closed id code => fun manager =>
      die reading id code (manager.modifySocket id Socket.deliverClose)
  | .error id => die reading id 1006
  | .expired timer => expire reading timer
  | .send message => fun manager => (manager.send reading message).1
  | .retry => retry reading
  | .visibilityChanged => visibilityChanged reading
  | .networkChanged offline => networkChanged reading offline
  | .freeze => freeze
  | .resume gapMs => resume reading gapMs
  | .pageHide => pageHide reading
  | .pageShow => pageShow reading
  | .destroy => destroy reading

/-- A manager that was just created. -/
def initial (now : Nat) : ConnectionManager := { lastTick := now }

end ConnectionManager

end MqttController.Frontend
