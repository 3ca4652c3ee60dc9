import MqttController.Frontend.Connection
import MqttController.Frontend.Protocol

/-!
# The dashboard's store

The client of the dashboard keeps what it shows: the entities, the status of every command it sent,
and the histories it asked for.  It submits commands and requests over the connection manager, and
learns from it what arrives and whether a connection is in use.
-/

namespace MqttController.Frontend

open Std

/-- A value and when it arrived. -/
structure Timed (α : Type) where
  value : α
  receivedAt : Nat
  deriving DecidableEq, Repr

/-- Replace the item with the key of a value, or append the value. -/
def replace {α κ : Type} [DecidableEq κ] (items : List (Timed α)) (value : α) (receivedAt : Nat)
    (key : α → κ) : List (Timed α) :=
  match items.findIdx? fun item => key item.value = key value with
  | none => items ++ [⟨value, receivedAt⟩]
  | some index => items.set index ⟨value, receivedAt⟩

/-- What became of a command. -/
inductive CommandStatus
  | pending (message : String) (command : ControlCommand) (confirmed : Bool)
  | accepted (message : String) (command : ControlCommand) (confirmed : Bool)
  | error (message : String)
  deriving DecidableEq

/-- What was recorded, as an answer brought it. -/
inductive HistoryData
  | valve (history : DeviceHistory)
  | plug (history : DeviceHistory)
  | heatingEnergy (history : HeatingEnergyHistory)
  deriving DecidableEq, Repr

structure HistoryStatus where
  loading : Bool
  data : Option HistoryData
  error : Option String
  deriving DecidableEq, Repr

inductive HistoryRequest
  | valve (device : String)
  | plug (device : String)
  | heatingEnergy
  deriving DecidableEq, Repr

/-- What the dashboard shows. -/
structure DashboardState where
  health : Health
  ready : Bool := false
  receivedAt : Option Nat := none
  rooms : List (Timed Room) := []
  plugs : List (Timed Plug) := []
  lights : List (Timed Light) := []
  heating : List (Timed HeatingZone) := []
  commands : TreeMap String CommandStatus compare := ∅
  histories : TreeMap String HistoryStatus compare := ∅
  plugHistories : TreeMap String HistoryStatus compare := ∅
  heatingEnergy : HistoryStatus := ⟨false, none, none⟩

/-- A request without an answer, what it is about and the timer that gives it up. -/
structure Pending (α : Type) where
  what : α
  timer : Nat
  deriving DecidableEq, Repr

/-- What a timer of the client gives up. -/
inductive ClientTimer
  | command (key : String) (requestId : Nat)
  | history (request : HistoryRequest) (requestId : Nat)
  deriving DecidableEq, Repr

/-- The client, its connection manager and the timers it has set. -/
structure DashboardClient where
  connection : ConnectionManager
  state : DashboardState
  pendingCommands : NumberMap (Pending String) := ∅
  pendingHistories : NumberMap (Pending HistoryRequest) := ∅
  historyQueue : List HistoryRequest := []
  destroyed : Bool := false
  /-- The timers that are running. -/
  timers : NumberMap ClientTimer := ∅
  /-- Numbers from here on name no timer yet. -/
  nextTimer : Nat := 0
  /-- Numbers from here on name no request yet. -/
  nextRequest : Nat := 0
  /-- Errors thrown out of a callback. -/
  uncaught : List String := []

def historyConcurrency : Nat := 2

namespace Health

/-- The connection in use is alive. -/
def alive (health : Health) : Bool :=
  health.connections.any fun connection =>
    decide (health.activeId = some connection.1) && decide (connection.2 = .alive)

end Health

namespace ControlCommand

/-- The command changes a setting. -/
def isSetting : ControlCommand → Bool
  | recallScene .. | setRoomOff .. | setPlugPower .. => false
  | _ => true

/-- The valve that a command names. -/
def findValve (zones : List HeatingZone) (device : String) : Option Valve :=
  (zones.flatMap (·.trvs)).find? fun valve => valve.device = device

/-- A plan has the ranges of every day of a schedule. -/
def planHas (plan : Option ValveSchedule) (schedule : ValveSchedule) : Bool :=
  schedule.days.all fun day =>
    decide ((plan.bind fun plan => plan.days.lookup day.1) = some day.2)

/-- Entities show what a command asked for, when they have what it names. -/
def confirms (rooms : List Room) (plugs : List Plug) (zones : List HeatingZone) :
    ControlCommand → Option Bool
  | setPlugPower device on =>
      (plugs.find? fun plug => plug.device = device).map fun plug =>
        plug.target.any (fun target => target.phase = "confirmed") &&
          decide (plug.targetValue = some on)
  | setHeatDemandEnabled device enabled =>
      (findValve zones device).map fun valve => decide (valve.heatDemandEnabled = enabled)
  | cancelValveBoost device =>
      (findValve zones device).map fun valve => valve.boost.isNone
  | startValveBoost device _ temperature | setValveBoostTarget device temperature =>
      (findValve zones device).map fun valve =>
        valve.boost.any fun boost => decide (boost.temperature = temperature)
  | resetValveSchedule device =>
      (findValve zones device).map fun valve => !valve.scheduleOverride
  | setValveSchedule device schedule =>
      (findValve zones device).map fun valve =>
        valve.scheduleOverride && valve.schedulePlan.isSome && planHas valve.schedulePlan schedule
  | resetRoomSchedule room =>
      (rooms.find? fun other => other.name = room).map fun room => !room.schedule.overridden
  | setRoomSchedule room slots switchSteps =>
      (rooms.find? fun other => other.name = room).map fun room =>
        room.schedule.overridden && decide (room.schedule.slots = slots) &&
          decide (room.switchSteps = switchSteps)
  | resetMotionSchedule rule =>
      ((rooms.flatMap (·.motionRules)).find? fun other => other.name = rule).map fun rule =>
        !rule.schedule.overridden
  | setMotionSchedule rule slots =>
      ((rooms.flatMap (·.motionRules)).find? fun other => other.name = rule).map fun rule =>
        rule.schedule.overridden && decide (rule.schedule.slots = slots)
  | resetTimedActionTime binding =>
      ((rooms.flatMap (·.timedActions)).find? fun action => action.binding = binding).map
        fun action => !action.overridden
  | setTimedActionTime binding time =>
      ((rooms.flatMap (·.timedActions)).find? fun action => action.binding = binding).map
        fun action => action.overridden && decide (action.time = time)
  | resetPlugSchedule device =>
      (plugs.find? fun plug => plug.device = device).map fun plug => !plug.schedule.overridden
  | setPlugSchedule device timedActions killSwitch =>
      (plugs.find? fun plug => plug.device = device).map fun plug =>
        plug.schedule.overridden && decide (plug.schedule.timedActions = timedActions) &&
          decide (plug.schedule.killSwitch = killSwitch)
  | setMotionEnabled room enabled =>
      (rooms.find? fun other => other.name = room).map fun room =>
        decide (room.motionEnabled = enabled)
  | setRoomOff room =>
      (rooms.find? fun other => other.name = room).map fun room =>
        room.target.any (fun target => target.phase = "confirmed") &&
          decide (room.targetValue = some .off)
  | recallScene room sceneId =>
      (rooms.find? fun other => other.name = room).map fun room =>
        room.target.any (fun target => target.phase = "confirmed") &&
          decide (room.targetValue = some (.on sceneId))

end ControlCommand

namespace CommandStatus

/-- The command waits for its result. -/
def isPending : CommandStatus → Bool
  | pending .. => true
  | _ => false

/-- A status after entities arrived; none is left of a command that is accepted and confirmed. -/
def confirm (rooms : List Room) (plugs : List Plug) (zones : List HeatingZone) :
    CommandStatus → Option CommandStatus
  | error message => some (error message)
  | pending message command confirmed =>
      some (pending message command ((command.confirms rooms plugs zones).getD confirmed))
  | accepted message command confirmed =>
      match command.confirms rooms plugs zones with
      | some true => none
      | some false => some (accepted message command false)
      | none => some (accepted message command confirmed)

end CommandStatus

namespace DashboardState

/-- The statuses of the commands after entities arrived. -/
def confirmTargets (state : DashboardState) (rooms : List Room) (plugs : List Plug)
    (zones : List HeatingZone) : TreeMap String CommandStatus compare :=
  state.commands.filterMap fun _ status => status.confirm rooms plugs zones

/-- A snapshot replaces all entities. -/
def receiveSnapshot (now : Nat) (snapshot : Snapshot) (state : DashboardState) : DashboardState :=
  { state with
    ready := true
    receivedAt := some now
    rooms := snapshot.rooms.map fun value => ⟨value, now⟩
    plugs := snapshot.plugs.map fun value => ⟨value, now⟩
    lights := snapshot.lights.map fun value => ⟨value, now⟩
    heating := snapshot.heatingZones.map fun value => ⟨value, now⟩
    commands := state.confirmTargets snapshot.rooms snapshot.plugs snapshot.heatingZones }

/-- An update replaces one entity, once there was a snapshot. -/
def receiveEntity (now : Nat) (update : EntityUpdate) (state : DashboardState) : DashboardState :=
  if !state.ready then state
  else
    match update with
    | .room data =>
        { state with
          rooms := replace state.rooms data now Room.name
          commands := state.confirmTargets [data] [] [] }
    | .plug data =>
        { state with
          plugs := replace state.plugs data now Plug.device
          commands := state.confirmTargets [] [data] [] }
    | .light data => { state with lights := replace state.lights data now Light.device }
    | .heatingZone data =>
        { state with
          heating := replace state.heating data now HeatingZone.name
          commands := state.confirmTargets [] [] [data] }

/-- The status of a history. -/
def existingHistory (state : DashboardState) : HistoryRequest → Option HistoryStatus
  | .heatingEnergy => some state.heatingEnergy
  | .valve device => state.histories[device]?
  | .plug device => state.plugHistories[device]?

/-- Set the status of a history. -/
def historyStatus (state : DashboardState) (request : HistoryRequest) (status : HistoryStatus) :
    DashboardState :=
  match request with
  | .heatingEnergy => { state with heatingEnergy := status }
  | .valve device => { state with histories := state.histories.insert device status }
  | .plug device => { state with plugHistories := state.plugHistories.insert device status }

/-- Set the status of a command. -/
def commandStatus (state : DashboardState) (key : String) (status : Option CommandStatus) :
    DashboardState :=
  { state with
    commands :=
      match status with
      | none => state.commands.erase key
      | some status => state.commands.insert key status }

end DashboardState

namespace DashboardClient

/-- Change what is shown. -/
def publish (client : DashboardClient) (update : DashboardState → DashboardState) :
    DashboardClient :=
  if client.destroyed then client else { client with state := update client.state }

/-- Set a timer; its number is the next one. -/
def later (client : DashboardClient) (callback : ClientTimer) : DashboardClient :=
  { client with
    timers := client.timers.insert client.nextTimer callback
    nextTimer := client.nextTimer + 1 }

/-- Stop a timer. -/
def cancel (client : DashboardClient) (timer : Nat) : DashboardClient :=
  { client with timers := client.timers.erase timer }

/-- Set the status of a command. -/
def commandStatus (client : DashboardClient) (key : String) (status : Option CommandStatus) :
    DashboardClient :=
  client.publish fun state => state.commandStatus key status

/-- Set the status of a history. -/
def historyStatus (client : DashboardClient) (request : HistoryRequest) (status : HistoryStatus) :
    DashboardClient :=
  client.publish fun state => state.historyStatus request status

/-- The status of a history, where its data stays. -/
def existingData (client : DashboardClient) (request : HistoryRequest) : Option HistoryData :=
  (client.state.existingHistory request).bind (·.data)

/-- A history is not loaded. -/
def historyFails (client : DashboardClient) (request : HistoryRequest) (error : String) :
    DashboardClient :=
  client.historyStatus request
    { loading := false, data := client.existingData request, error := some error }

/-- Forget a command that waits for its result. -/
def closeCommand (client : DashboardClient) (requestId : Nat) (pending : Pending String) :
    DashboardClient :=
  { client.cancel pending.timer with
    pendingCommands := client.pendingCommands.erase requestId }

/-- Forget a request for a history. -/
def closeHistory (client : DashboardClient) (requestId : Nat) (pending : Pending HistoryRequest) :
    DashboardClient :=
  { client.cancel pending.timer with
    pendingHistories := client.pendingHistories.erase requestId }

/-! ## Health -/

/-- What is said of a command that was sent on a connection that is lost. -/
def outcomeUnknown : String :=
  "Connection interrupted. The command outcome is unknown; check reported state after reconnecting."

/-- Every command that waits fails. -/
def interruptCommands (client : DashboardClient) : DashboardClient :=
  client.pendingCommands.toList.foldl (fun client entry =>
    (client.closeCommand entry.1 entry.2).commandStatus entry.2.what
      (some (.error outcomeUnknown))) client

/-- Every history that is loaded or queued fails. -/
def interruptHistories (client : DashboardClient) : DashboardClient :=
  let interrupted := client.pendingHistories.toList.foldl (fun client entry =>
    (client.cancel entry.2.timer).historyFails entry.2.what
      "History will refresh when the connection recovers.") client
  let dropped := interrupted.historyQueue.foldl (fun client request =>
    client.historyFails request "Waiting for connection") { interrupted with pendingHistories := ∅ }
  { dropped with historyQueue := [] }

/-- The manager reports about the connections. -/
def healthChanged (client : DashboardClient) (health : Health) : DashboardClient :=
  (if health.alive then client else client.interruptCommands.interruptHistories).publish
    fun state => { state with health, ready := health.alive && state.ready }

/-- What the manager reports. -/
def report (client : DashboardClient) : Output ServerMessage Request → DashboardClient
  | .health health => client.healthChanged health
  | _ => client

/-- Send over the manager, which may report about the connections before it fails. -/
def send (reading : Reading) (message : Request) (client : DashboardClient) :
    DashboardClient × ConnectionManager.SendResult :=
  match client.connection.send reading message with
  | ((connection, outputs), result) =>
      (outputs.foldl report { client with connection }, result)

/-- A connection is in use: ask for the state. -/
def resync (reading : Reading) (client : DashboardClient) : DashboardClient :=
  ((client.publish fun state => { state with ready := false }).send reading .getState).1

/-! ## Commands -/

/-- What a failure to send is shown as. -/
def sendError : ConnectionManager.SendResult → String
  | .failed => "Sending failed. Check the reported device state before trying again."
  | _ => "The controller connection is not ready. No command was sent."

/-- Remember a command and the timer that gives it up. -/
def openCommand (client : DashboardClient) (key : String) (command : ControlCommand) :
    DashboardClient :=
  { client.later (.command key client.nextRequest) with
    nextRequest := client.nextRequest + 1
    pendingCommands :=
      client.pendingCommands.insert client.nextRequest ⟨key, client.nextTimer⟩ }.commandStatus
    key (some (.pending "Sending command…" command false))

/-- Submit a command under a key. -/
def command (reading : Reading) (key : String) (command : ControlCommand)
    (client : DashboardClient) : DashboardClient :=
  if client.destroyed then client
  else if (client.state.commands[key]?).any (·.isPending) then client
  else if !client.state.ready then
    client.commandStatus key
      (some (.error "Waiting for a live controller snapshot. No command was sent."))
  else
    match (client.openCommand key command).send reading (.command client.nextRequest command) with
    | (sent, .sent) => sent
    | (unsent, failure) =>
        (unsent.closeCommand client.nextRequest ⟨key, client.nextTimer⟩).commandStatus key
          (some (.error (sendError failure)))

/-! ## Histories -/

/-- Remember a request for a history and the timer that gives it up. -/
def openHistory (client : DashboardClient) (request : HistoryRequest) : DashboardClient :=
  { client.later (.history request client.nextRequest) with
    nextRequest := client.nextRequest + 1
    pendingHistories :=
      client.pendingHistories.insert client.nextRequest ⟨request, client.nextTimer⟩ }

/-- The message that asks for a history. -/
def historyMessage (requestId : Nat) : HistoryRequest → Request
  | .heatingEnergy => .getHeatingEnergyHistory requestId
  | .valve device => .getValveHistory requestId device
  | .plug device => .getPlugPowerHistory requestId device

/-- Ask for a history. -/
def requestHistory (reading : Reading) (request : HistoryRequest) (client : DashboardClient) :
    DashboardClient :=
  match (client.openHistory request).send reading (historyMessage client.nextRequest request) with
  | (sent, .sent) => sent
  | (unsent, _) =>
      (unsent.closeHistory client.nextRequest ⟨request, client.nextTimer⟩).historyFails request
        "Could not request history. Try again when connected."

/-- The loop of `pumpHistory`, for at most so many requests. -/
def pump (reading : Reading) : Nat → DashboardClient → DashboardClient
  | 0, client => client
  | rounds + 1, client =>
      if client.state.ready && decide (client.pendingHistories.size < historyConcurrency) then
        match client.historyQueue with
        | [] => client
        | request :: rest =>
            pump reading rounds
              (requestHistory reading request { client with historyQueue := rest })
      else client

/-- Ask for histories of the queue, while few enough are loaded; every round takes one. -/
def pumpHistory (reading : Reading) (client : DashboardClient) : DashboardClient :=
  pump reading client.historyQueue.length client

/-- Load a history, unless it is being loaded. -/
def queueHistory (reading : Reading) (request : HistoryRequest) (client : DashboardClient) :
    DashboardClient :=
  if client.destroyed || !client.state.ready then client
  else if client.historyQueue.contains request ||
      OrderedMap.anyValue client.pendingHistories (fun pending => pending.what = request) then
    client
  else
    let loading := client.historyStatus request
      { loading := true, data := client.existingData request, error := none }
    pumpHistory reading { loading with historyQueue := loading.historyQueue ++ [request] }

def loadHistory (reading : Reading) (device : String) : DashboardClient → DashboardClient :=
  queueHistory reading (.valve device)

def loadPlugPowerHistory (reading : Reading) (device : String) :
    DashboardClient → DashboardClient :=
  queueHistory reading (.plug device)

def loadHeatingEnergy (reading : Reading) : DashboardClient → DashboardClient :=
  queueHistory reading .heatingEnergy

/-! ## Messages -/

/-- The result of a command arrived. -/
def commandResult (requestId : Nat) (error : Option String) (client : DashboardClient) :
    DashboardClient :=
  match client.pendingCommands[requestId]? with
  | none => client
  | some pending =>
      let closed := client.closeCommand requestId pending
      match closed.state.commands[pending.what]? with
      | some (.pending _ command confirmed) =>
          closed.commandStatus pending.what (match error with
            | some error => some (.error error)
            | none =>
                if confirmed then none
                else some (.accepted
                  (if command.isSetting then "Setting saved. Waiting for updated controller state."
                  else "Command accepted. Reported state updates when the device responds.")
                  command confirmed))
      | _ =>
          { closed with
            uncaught := closed.uncaught ++ ["Pending command status invariant violated"] }

/-- The answer to a request for a history arrived. -/
def historyAnswer (reading : Reading) (requestId : Nat) (answers : HistoryRequest)
    (data : HistoryData) (error : Option String) (client : DashboardClient) : DashboardClient :=
  match client.pendingHistories[requestId]? with
  | none => client
  | some pending =>
      if pending.what = answers then
        pumpHistory reading ((client.closeHistory requestId pending).historyStatus pending.what
          { loading := false, data := some data, error })
      else client

/-- The manager hands a message over. -/
def receive (reading : Reading) (message : ServerMessage) (client : DashboardClient) :
    DashboardClient :=
  match message with
  | .stateSnapshot snapshot =>
      client.publish fun state => state.receiveSnapshot reading.now snapshot
  | .entity update => client.publish fun state => state.receiveEntity reading.now update
  | .commandResult requestId error => client.commandResult requestId error
  | .heatingEnergyHistory history =>
      client.historyAnswer reading history.requestId .heatingEnergy (.heatingEnergy history)
        history.error
  | .valveHistory history =>
      client.historyAnswer reading history.requestId (.valve history.device) (.valve history)
        history.error
  | .plugPowerHistory history =>
      client.historyAnswer reading history.requestId (.plug history.device) (.plug history)
        history.error
  | .eventLog | .entityLog | .topology => client

/-! ## Timers -/

/-- A request has waited for too long. -/
def giveUp (reading : Reading) : ClientTimer → DashboardClient → DashboardClient
  | .command key requestId, client =>
      { client with pendingCommands := client.pendingCommands.erase requestId }.commandStatus key
        (some (.error "No acknowledgement. Check the reported state before trying again."))
  | .history request requestId, client =>
      pumpHistory reading
        ({ client with
          pendingHistories := client.pendingHistories.erase requestId }.historyFails request
            "History request timed out. Try again.")

/-- A running timer expires. -/
def expire (reading : Reading) (timer : Nat) (client : DashboardClient) : DashboardClient :=
  match client.timers[timer]? with
  | none => client
  | some callback => giveUp reading callback (client.cancel timer)

/-- The dashboard is closed. -/
def destroy (reading : Reading) (client : DashboardClient) : DashboardClient :=
  let commands := client.pendingCommands.toList.foldl (fun client entry =>
    client.cancel entry.2.timer) { client with destroyed := true }
  let histories := client.pendingHistories.toList.foldl (fun client entry =>
    client.cancel entry.2.timer) commands
  { histories with
    pendingCommands := ∅
    pendingHistories := ∅
    connection := (client.connection.destroy reading : _ × List (Output ServerMessage Request)).1 }

/-! ## The client as a machine -/

/-- The client hears what the manager does. -/
def hear (reading : Reading) (client : DashboardClient) :
    Output ServerMessage Request → DashboardClient
  | .health health => client.healthChanged health
  | .deliver _ message => client.receive reading message
  | .active _ => client.resync reading
  | _ => client

/-- The manager takes a step, and the client hears of it in order. -/
def drive (reading : Reading)
    (step : Emission.Step ConnectionManager (Output ServerMessage Request))
    (client : DashboardClient) : DashboardClient :=
  match step client.connection with
  | (connection, outputs) => outputs.foldl (hear reading) { client with connection }

/-- What can happen to the client. -/
inductive Input
  /-- Something happens to the manager. -/
  | connection (input : ConnectionManager.Input ServerMessage Request)
  | command (key : String) (command : ControlCommand)
  | loadHistory (device : String)
  | loadPlugPowerHistory (device : String)
  | loadHeatingEnergy
  | expired (timer : Nat)
  | destroy

/-- An answer to a heartbeat: the client hears of a new connection in use, and acts on it, before
the manager reports for the last time. -/
def pong (reading : Reading) (id nonce clientTsMs : Nat) (client : DashboardClient) :
    DashboardClient :=
  if client.connection.acceptsPong id nonce clientTsMs then
    drive reading ConnectionManager.emit
      (drive reading (ConnectionManager.pongReceived reading id nonce clientTsMs) client)
  else client

/-- What the client does when something happens. -/
def step (reading : Reading) : Input → DashboardClient → DashboardClient
  | .connection (.received id (.pong nonce clientTsMs)), client =>
      client.pong reading id nonce clientTsMs
  | .connection input, client => client.drive reading (ConnectionManager.step reading input)
  | .command key command, client => client.command reading key command
  | .loadHistory device, client => client.loadHistory reading device
  | .loadPlugPowerHistory device, client => client.loadPlugPowerHistory reading device
  | .loadHeatingEnergy, client => client.loadHeatingEnergy reading
  | .expired timer, client => client.expire reading timer
  | .destroy, client => client.destroy reading

/-- A client that was just created. -/
def initial (now : Nat) : DashboardClient :=
  { connection := .initial now, state := { health := (ConnectionManager.initial now).stats } }

end DashboardClient

end MqttController.Frontend
