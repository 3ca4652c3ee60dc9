import MqttController.Frontend.Store
import MqttController.Lib.Keyed
import MqttController.Lib.Overlay

/-!
# Delivery of state to a dashboard

A dashboard learns of the state by two queues of its connection: the broadcasts of the event loop,
and the direct answers to its requests for a snapshot.  The writer of the connection takes from
either in any order.  A snapshot that is written after a newer broadcast puts an old value back;
where no snapshot is overtaken so, the dashboard shows what the event loop last produced.
-/

namespace MqttController.Frontend

open Overlay

/-! ## Values of entities -/

/-- What an entity is found by. -/
inductive EntityKey
  | room (name : String)
  | plug (device : String)
  | light (device : String)
  | heatingZone (name : String)
  deriving DecidableEq, Repr

/-- What an update is about. -/
def EntityUpdate.key : EntityUpdate → EntityKey
  | room data => .room data.name
  | plug data => .plug data.device
  | light data => .light data.device
  | heatingZone data => .heatingZone data.name

/-- Put an item in the place of the one with its key, or at the end. -/
def putItem {α κ : Type} [DecidableEq κ] (items : List α) (value : α) (key : α → κ) : List α :=
  match items.findIdx? fun item => key item = key value with
  | none => items ++ [value]
  | some index => items.set index value

namespace Snapshot

/-- What a snapshot has for an entity. -/
def entity (snapshot : Snapshot) : EntityKey → Option EntityUpdate
  | .room name => (snapshot.rooms.find? fun room => room.name = name).map .room
  | .plug device => (snapshot.plugs.find? fun plug => plug.device = device).map .plug
  | .light device => (snapshot.lights.find? fun light => light.device = device).map .light
  | .heatingZone name => (snapshot.heatingZones.find? fun zone => zone.name = name).map .heatingZone

/-- Give an entity a new value. -/
def put (snapshot : Snapshot) : EntityUpdate → Snapshot
  | .room data => { snapshot with rooms := putItem snapshot.rooms data Room.name }
  | .plug data => { snapshot with plugs := putItem snapshot.plugs data Plug.device }
  | .light data => { snapshot with lights := putItem snapshot.lights data Light.device }
  | .heatingZone data =>
      { snapshot with heatingZones := putItem snapshot.heatingZones data HeatingZone.name }

/-- A full snapshot has no light that is a member of no room. -/
def listing (lists : String → Bool) (snapshot : Snapshot) : Snapshot :=
  { snapshot with lights := snapshot.lights.filter fun light => lists light.device }

/-- Every light of the snapshot is listed in full snapshots. -/
def Listed (lists : String → Bool) (snapshot : Snapshot) : Prop :=
  ∀ light ∈ snapshot.lights, lists light.device = true

instance (lists : String → Bool) (snapshot : Snapshot) : Decidable (snapshot.Listed lists) :=
  inferInstanceAs (Decidable (∀ light ∈ snapshot.lights, _))

end Snapshot

namespace EntityUpdate

/-- The update is not about a light that full snapshots leave out. -/
def Listed (lists : String → Bool) : EntityUpdate → Prop
  | light data => lists data.device = true
  | _ => True

instance (lists : String → Bool) : (update : EntityUpdate) → Decidable (update.Listed lists)
  | light data => inferInstanceAs (Decidable (lists data.device = true))
  | room _ | plug _ | heatingZone _ => inferInstanceAs (Decidable True)

end EntityUpdate

namespace ServerMessage

/-- The message is a full snapshot. -/
def isSnapshot : ServerMessage → Bool
  | stateSnapshot _ => true
  | _ => false

/-- The message carries the state of entities. -/
def isState : ServerMessage → Bool
  | stateSnapshot _ | entity _ => true
  | _ => false

/-- What a message makes of the value of an entity, if it says anything about it. -/
def tells (key : EntityKey) : ServerMessage → Option (Option EntityUpdate)
  | stateSnapshot snapshot => some (snapshot.entity key)
  | entity update => if update.key = key then some (some update) else none
  | _ => none

end ServerMessage

namespace DashboardState

/-- What the dashboard has for an entity. -/
def entity (state : DashboardState) : EntityKey → Option EntityUpdate
  | .room name =>
      (state.rooms.find? fun item => item.value.name = name).map fun item => .room item.value
  | .plug device =>
      (state.plugs.find? fun item => item.value.device = device).map fun item => .plug item.value
  | .light device =>
      (state.lights.find? fun item => item.value.device = device).map fun item => .light item.value
  | .heatingZone name =>
      (state.heating.find? fun item => item.value.name = name).map fun item =>
        .heatingZone item.value

/-- What a message does to the entities that are shown. -/
def take (now : Nat) (message : ServerMessage) (state : DashboardState) : DashboardState :=
  match message with
  | .stateSnapshot snapshot => state.receiveSnapshot now snapshot
  | .entity update => state.receiveEntity now update
  | _ => state

end DashboardState

/-! ## A connection -/

/-- The snapshot that a new connection is greeted with before its writer starts. -/
inductive Greeting
  | asked
  | answered (snapshot : Snapshot)
  | over
  deriving DecidableEq

/-- The way from the event loop to what a dashboard shows. -/
structure Link where
  /-- What the event loop last produced. -/
  current : Snapshot
  /-- What the connection has not yet received of the broadcasts. -/
  broadcast : List ServerMessage := []
  greeting : Greeting := .asked
  /-- Requests for a snapshot that the event loop has not answered. -/
  requests : Nat := 0
  /-- The answer that the worker of the connection holds. -/
  reply : Option Snapshot := none
  /-- Answers for the writer. -/
  direct : List ServerMessage := []
  /-- What was written and has not arrived. -/
  socket : List ServerMessage := []
  /-- The dashboard uses the connection and its heartbeat is answered. -/
  active : Bool := false
  client : DashboardState

/-- What can happen on the way. -/
inductive Move
  /-- The event loop produces the value of an entity, new or not. -/
  | produce (update : EntityUpdate)
  /-- The event loop broadcasts a full snapshot, after a command that changed a setting. -/
  | announce (snapshot : Snapshot)
  /-- The event loop answers the request that the connection begins with. -/
  | answerGreeting
  /-- The first snapshot is written. -/
  | greet
  /-- The first snapshot was not answered in time. -/
  | skipGreeting
  /-- The dashboard begins to use the connection and asks for a snapshot. -/
  | activate
  /-- A heartbeat is late, and the dashboard ignores what arrives. -/
  | neglect
  /-- The event loop answers a request. -/
  | answer
  /-- The worker of the connection passes an answer on. -/
  | enqueue
  /-- Something else is answered. -/
  | respond (message : ServerMessage)
  | writeBroadcast
  | writeDirect
  | deliver (now : Nat)

namespace Link

variable (lists : String → Bool)

/-- One thing happens, if it can. -/
def next (link : Link) : Move → Option Link
  | .produce update =>
      some { link with
        current := link.current.put update
        broadcast := link.broadcast ++ [.entity update] }
  | .announce snapshot =>
      some { link with
        current := snapshot
        broadcast := link.broadcast ++ [.stateSnapshot (snapshot.listing lists)] }
  | .answerGreeting =>
      if link.greeting = .asked then
        some { link with greeting := .answered (link.current.listing lists) }
      else none
  | .greet =>
      match link.greeting with
      | .answered snapshot =>
          some { link with
            greeting := .over
            socket := link.socket ++ [.stateSnapshot snapshot] }
      | _ => none
  | .skipGreeting => if link.greeting = .asked then some { link with greeting := .over } else none
  | .activate =>
      -- The reader of the connection starts after the greeting.
      if link.greeting = .over then
        some { link with
          requests := link.requests + 1
          active := true
          client := { link.client with ready := false } }
      else none
  | .neglect => some { link with active := false, client := { link.client with ready := false } }
  | .answer =>
      if 0 < link.requests ∧ link.reply = none then
        some { link with
          requests := link.requests - 1
          reply := some (link.current.listing lists) }
      else none
  | .enqueue =>
      link.reply.map fun snapshot =>
        { link with reply := none, direct := link.direct ++ [.stateSnapshot snapshot] }
  | .respond message =>
      if message.isState then none else some { link with direct := link.direct ++ [message] }
  | .writeBroadcast =>
      match link.greeting, link.broadcast with
      | .over, message :: rest =>
          some { link with broadcast := rest, socket := link.socket ++ [message] }
      | _, _ => none
  | .writeDirect =>
      match link.greeting, link.direct with
      | .over, message :: rest =>
          some { link with direct := rest, socket := link.socket ++ [message] }
      | _, _ => none
  | .deliver now =>
      match link.socket with
      | message :: rest =>
          some { link with
            socket := rest
            client := if link.active then link.client.take now message else link.client }
      | [] => none

/-- Everything has been written and has arrived. -/
structure Drained (link : Link) : Prop where
  broadcast : link.broadcast = []
  requests : link.requests = 0
  reply : link.reply = none
  direct : link.direct = []
  socket : link.socket = []

/-- The dashboard shows what the event loop last produced. -/
structure Converged (link : Link) : Prop where
  ready : link.client.ready = true
  entities : ∀ key, link.client.entity key = link.current.entity key

/-- What has happened since the connection was made, with the state before. -/
inductive Runs : List (Link × Move) → Link → Prop
  | start (current : Snapshot) (client : DashboardState) : Runs [] { current, client }
  | step {history : List (Link × Move)} {link after : Link} {move : Move}
      (runs : Runs history link) (taken : link.next lists move = some after) :
      Runs (history ++ [(link, move)]) after

/-- A snapshot has for every entity what the event loop last produced, or a broadcast that says what
it produced has yet to be written. -/
def UpToDate (link : Link) (snapshot : Snapshot) : Prop :=
  ∀ key, snapshot.entity key = link.current.entity key ∨
    ∃ message ∈ link.broadcast, (message.tells key).isSome

/-- No light is produced that full snapshots leave out, and the last snapshot on its way to a
dashboard in use is up to date when it is written. -/
def InOrder (link : Link) (move : Move) : Prop :=
  link.current.Listed lists ∧
    match move with
    | .produce update => update.Listed lists
    | .announce snapshot => snapshot.Listed lists
    | .writeDirect =>
        link.active = true → link.requests = 0 → link.reply = none →
          ∀ snapshot rest, link.direct = .stateSnapshot snapshot :: rest →
            rest.any (·.isSnapshot) = false → link.UpToDate snapshot
    | _ => True

end Link

/-! ## What messages do to entities -/

theorem find?_putItem {α κ : Type} [DecidableEq κ] (items : List α) (value : α) (key : α → κ)
    (sought : κ) : (putItem items value key).find? (fun item => key item = sought) =
      if key value = sought then some value else items.find? fun item => key item = sought := by
  unfold putItem
  cases position : items.findIdx? fun item => key item = key value with
  | none => exact Keyed.find?_append position sought
  | some index => exact Keyed.find?_set position sought

theorem find?_replace {α κ : Type} [DecidableEq κ] (items : List (Timed α)) (value : α) (now : Nat)
    (key : α → κ) (sought : κ) :
    (replace items value now key).find? (fun item => key item.value = sought) =
      if key value = sought then some ⟨value, now⟩
      else items.find? fun item => key item.value = sought := by
  have placed :
      replace items value now key = putItem items ⟨value, now⟩ fun item => key item.value := rfl
  rw [placed]
  exact find?_putItem items ⟨value, now⟩ (fun item => key item.value) sought

namespace Snapshot

variable {lists : String → Bool} {snapshot : Snapshot}

/-- Nothing is left out of a snapshot all of whose lights are listed. -/
theorem Listed.listing_eq (listed : snapshot.Listed lists) : snapshot.listing lists = snapshot := by
  have all : (snapshot.lights.filter fun light => lists light.device) = snapshot.lights :=
    List.filter_eq_self.mpr listed
  unfold listing
  rw [all]

theorem entity_put (snapshot : Snapshot) (update : EntityUpdate) (key : EntityKey) :
    (snapshot.put update).entity key =
      if update.key = key then some update else snapshot.entity key := by
  cases update <;> cases key <;>
    simp only [put, entity, EntityUpdate.key, find?_putItem, reduceCtorEq, if_false,
      EntityKey.room.injEq, EntityKey.plug.injEq, EntityKey.light.injEq,
      EntityKey.heatingZone.injEq] <;>
    split_ifs with same <;> simp

end Snapshot

namespace DashboardState

theorem entity_receiveSnapshot (now : Nat) (snapshot : Snapshot) (state : DashboardState)
    (key : EntityKey) : (state.receiveSnapshot now snapshot).entity key = snapshot.entity key := by
  cases key <;>
    simp only [receiveSnapshot, entity, Snapshot.entity, List.find?_map, Option.map_map] <;> rfl

theorem entity_receiveEntity {state : DashboardState} (ready : state.ready = true) (now : Nat)
    (update : EntityUpdate) (key : EntityKey) : (state.receiveEntity now update).entity key =
      if update.key = key then some update else state.entity key := by
  unfold receiveEntity
  rw [ready, Bool.not_true, if_neg Bool.false_ne_true]
  cases update <;> cases key <;>
    simp only [entity, EntityUpdate.key, find?_replace, reduceCtorEq, if_false,
      EntityKey.room.injEq, EntityKey.plug.injEq, EntityKey.light.injEq,
      EntityKey.heatingZone.injEq] <;>
    split_ifs with same <;> simp

theorem ready_take (now : Nat) (message : ServerMessage) (state : DashboardState) :
    (state.take now message).ready = (state.ready || message.isSnapshot) := by
  cases message with
  | stateSnapshot snapshot => simp [take, receiveSnapshot, ServerMessage.isSnapshot]
  | entity update =>
      change (state.receiveEntity now update).ready = (state.ready || false)
      rw [Bool.or_false]
      unfold receiveEntity
      split
      · rfl
      · cases update <;> rfl
  | _ => simp [take, ServerMessage.isSnapshot]

/-- Before the first snapshot the dashboard takes in nothing else. -/
theorem entity_take_of_not_ready {state : DashboardState} (ready : state.ready = false) (now : Nat)
    {message : ServerMessage} (other : message.isSnapshot = false) (key : EntityKey) :
    (state.take now message).entity key = state.entity key := by
  cases message with
  | stateSnapshot snapshot => cases other
  | entity update =>
      change (state.receiveEntity now update).entity key = state.entity key
      unfold receiveEntity
      rw [ready, Bool.not_false, if_pos rfl]
  | _ => rfl

/-- Afterwards it takes in what a message says. -/
theorem entity_take {state : DashboardState} {message : ServerMessage}
    (ready : state.ready = true ∨ message.isSnapshot = true) (now : Nat) (key : EntityKey) :
    (state.take now message).entity key = (message.tells key).getD (state.entity key) := by
  cases message with
  | stateSnapshot snapshot => exact entity_receiveSnapshot now snapshot state key
  | entity update =>
      have open' : state.ready = true := ready.resolve_right Bool.false_ne_true
      have told : (ServerMessage.entity update).tells key =
          if update.key = key then some (some update) else none := rfl
      change (state.receiveEntity now update).entity key = _
      rw [entity_receiveEntity open', told]
      split_ifs
      · rfl
      · rfl
  | _ => rfl

/-- Two states show the same. -/
structure Agrees (first second : DashboardState) : Prop where
  ready : first.ready = second.ready
  entities : ∀ key, first.entity key = second.entity key

theorem Agrees.refl (state : DashboardState) : Agrees state state := ⟨rfl, fun _ => rfl⟩

/-- It does not matter when a message arrives. -/
theorem Agrees.take {first second : DashboardState} (agrees : Agrees first second) (now later : Nat)
    (message : ServerMessage) : Agrees (first.take now message) (second.take later message) := by
  refine ⟨by rw [ready_take, ready_take, agrees.ready], fun key => ?_⟩
  by_cases open' : first.ready = true ∨ message.isSnapshot = true
  · rw [entity_take open', entity_take (agrees.ready ▸ open'), agrees.entities]
  · rw [not_or, Bool.not_eq_true, Bool.not_eq_true] at open'
    rw [entity_take_of_not_ready open'.1 now open'.2,
      entity_take_of_not_ready (agrees.ready ▸ open'.1) later open'.2, agrees.entities]

/-- What is shown when all of some messages have arrived. -/
def takeAll (messages : List ServerMessage) (state : DashboardState) : DashboardState :=
  messages.foldl (fun state message => state.take 0 message) state

theorem takeAll_concat (messages : List ServerMessage) (message : ServerMessage)
    (state : DashboardState) :
    state.takeAll (messages ++ [message]) = (state.takeAll messages).take 0 message := by
  unfold takeAll
  rw [List.foldl_append]
  rfl

theorem Agrees.takeAll {first second : DashboardState} (agrees : Agrees first second)
    (messages : List ServerMessage) :
    Agrees (first.takeAll messages) (second.takeAll messages) := by
  induction messages generalizing first second with
  | nil => exact agrees
  | cons message rest ih => exact ih (agrees.take 0 0 message)

end DashboardState

/-! ## Runs of a connection -/

namespace Link

variable {lists : String → Bool} {link after : Link}

/-- A snapshot that the dashboard asked for has not been written. -/
def owes (link : Link) : Bool :=
  decide (0 < link.requests) || link.reply.isSome || link.direct.any (·.isSnapshot)

/-- What the dashboard shows when everything written has arrived. -/
def arrived (link : Link) : DashboardState := link.client.takeAll link.socket

/-- Once no snapshot is owed, what was written and the broadcasts to come give every entity the
value that the event loop last produced. -/
structure Settles (link : Link) : Prop where
  greeted : link.active = true → link.greeting = .over
  answers : ∀ message ∈ link.direct, message.isState = true → message.isSnapshot = true
  broadcasts : ∀ key, (∃ message ∈ link.broadcast, (message.tells key).isSome) → ∀ value,
    overlay (ServerMessage.tells key) link.broadcast value = link.current.entity key
  ready : link.active = true → link.owes = false → link.arrived.ready = true
  entities : link.active = true → link.owes = false → ∀ key,
    overlay (ServerMessage.tells key) link.broadcast (link.arrived.entity key) =
      link.current.entity key

theorem settles_start (current : Snapshot) (client : DashboardState) :
    Settles { current, client } where
  greeted := nofun
  answers message inside := absurd inside List.not_mem_nil
  broadcasts key := by
    rintro ⟨message, listed, _⟩
    cases listed
  ready := nofun
  entities := nofun

/-- A broadcast of what the event loop now has. -/
theorem Settles.broadcast (settles : link.Settles) {current : Snapshot} {message : ServerMessage}
    (told : ∀ key, current.entity key = (message.tells key).getD (link.current.entity key)) :
    Settles { link with current, broadcast := link.broadcast ++ [message] } where
  greeted := settles.greeted
  answers := settles.answers
  broadcasts key := by
    rintro ⟨other, listed, speaks⟩ value
    rw [overlay_concat, told]
    cases spoken : message.tells key with
    | some update => rfl
    | none =>
        refine settles.broadcasts key ⟨other, ?_, speaks⟩ value
        rcases List.mem_append.mp listed with before | last
        · exact before
        · rw [List.mem_singleton.mp last, spoken] at speaks
          cases speaks
  ready := settles.ready
  entities active owes key := by
    rw [overlay_concat, told]
    change (message.tells key).getD
      (overlay (ServerMessage.tells key) link.broadcast (link.arrived.entity key)) = _
    rw [settles.entities active owes key]

/-- Nothing is promised while a snapshot is owed. -/
theorem Settles.of_owes (settles : link.Settles) (current : after.current = link.current)
    (broadcast : after.broadcast = link.broadcast)
    (greeted : after.active = true → after.greeting = .over)
    (answers : ∀ message ∈ after.direct, message.isState = true → message.isSnapshot = true)
    (owes : after.active = true → after.owes = true) : after.Settles where
  greeted := greeted
  answers := answers
  broadcasts key speaks value := by
    rw [broadcast] at speaks ⊢
    rw [current]
    exact settles.broadcasts key speaks value
  ready active settled := by
    rw [owes active] at settled
    cases settled
  entities active settled := by
    rw [owes active] at settled
    cases settled

/-- What is written arrives last. -/
theorem arrived_write (link : Link) (broadcast direct : List ServerMessage)
    (message : ServerMessage) :
    arrived { link with broadcast, direct, socket := link.socket ++ [message] } =
      link.arrived.take 0 message :=
  DashboardState.takeAll_concat link.socket message link.client

/-- A broadcast is written. -/
theorem Settles.writeBroadcast (settles : link.Settles) {message : ServerMessage}
    {rest : List ServerMessage} (queued : link.broadcast = message :: rest) :
    Settles { link with broadcast := rest, socket := link.socket ++ [message] } where
  greeted := settles.greeted
  answers := settles.answers
  broadcasts key := by
    rintro ⟨other, listed, speaks⟩ value
    have earlier := settles.broadcasts key
    rw [queued] at earlier
    rw [overlay_congr ⟨other, listed, speaks⟩ value ((message.tells key).getD value)]
    exact earlier ⟨other, List.mem_cons_of_mem _ listed, speaks⟩ value
  ready active owes := by
    rw [arrived_write, DashboardState.ready_take, Bool.or_eq_true]
    exact .inl (settles.ready active owes)
  entities active owes key := by
    have earlier := settles.entities active owes key
    rw [queued, overlay_cons] at earlier
    rw [arrived_write, DashboardState.entity_take (.inl (settles.ready active owes))]
    exact earlier

/-- An answer is written. -/
theorem Settles.writeDirect (settles : link.Settles) {message : ServerMessage}
    {rest : List ServerMessage} (queued : link.direct = message :: rest)
    (order : link.active = true → link.requests = 0 → link.reply = none →
      ∀ snapshot rest, link.direct = .stateSnapshot snapshot :: rest →
        rest.any (·.isSnapshot) = false → link.UpToDate snapshot) :
    Settles { link with direct := rest, socket := link.socket ++ [message] } := by
  have answers : ∀ message ∈ rest, message.isState = true → message.isSnapshot = true := by
    intro message listed
    refine settles.answers message ?_
    rw [queued]
    exact List.mem_cons_of_mem _ listed
  by_cases snapshot : ∃ snapshot, message = .stateSnapshot snapshot
  · obtain ⟨snapshot, rfl⟩ := snapshot
    refine ⟨settles.greeted, answers, settles.broadcasts, fun _ _ => ?_,
      fun active owes key => ?_⟩
    · rw [arrived_write, DashboardState.ready_take, Bool.or_eq_true]
      exact .inr rfl
    · have settled : link.requests = 0 ∧ link.reply = none ∧ rest.any (·.isSnapshot) = false := by
        unfold Link.owes at owes
        rw [Bool.or_eq_false_iff, Bool.or_eq_false_iff, decide_eq_false_iff_not] at owes
        exact ⟨Nat.eq_zero_of_not_pos owes.1.1, Option.isSome_eq_false_iff.mp owes.1.2 |>
          Option.isNone_iff_eq_none.mp, owes.2⟩
      rw [arrived_write, DashboardState.entity_take (.inr rfl)]
      change overlay (ServerMessage.tells key) link.broadcast (snapshot.entity key) = _
      have fresh := order active settled.1 settled.2.1 snapshot rest queued settled.2.2 key
      by_cases speaks : ∃ message ∈ link.broadcast, (message.tells key).isSome
      · exact settles.broadcasts key speaks _
      · rw [fresh.resolve_right speaks]
        refine overlay_silent (fun message listed => ?_) _
        exact Option.not_isSome_iff_eq_none.mp fun told => speaks ⟨message, listed, told⟩
  · have other : message.isSnapshot = false := by
      cases message with
      | stateSnapshot value => exact absurd ⟨value, rfl⟩ snapshot
      | _ => rfl
    have silent : ∀ key, message.tells key = none := by
      intro key
      cases message with
      | stateSnapshot value => exact absurd ⟨value, rfl⟩ snapshot
      | entity update =>
          have first : ServerMessage.entity update ∈ link.direct := by
            rw [queued]
            exact List.mem_cons_self
          cases settles.answers _ first rfl
      | _ => rfl
    have same : ∀ active : link.active = true,
        Link.owes { link with direct := rest, socket := link.socket ++ [message] } = false →
          link.owes = false := by
      intro _ owes
      unfold Link.owes at owes ⊢
      rwa [queued, List.any_cons, other, Bool.false_or]
    refine ⟨settles.greeted, answers, settles.broadcasts, fun active owes => ?_,
      fun active owes key => ?_⟩
    · rw [arrived_write, DashboardState.ready_take, Bool.or_eq_true]
      exact .inl (settles.ready active (same active owes))
    · rw [arrived_write,
        DashboardState.entity_take (.inl (settles.ready active (same active owes))), silent]
      exact settles.entities active (same active owes) key

/-- A message arrives. -/
theorem Settles.deliver (settles : link.Settles) {message : ServerMessage}
    {rest : List ServerMessage} (queued : link.socket = message :: rest) (now : Nat) :
    Settles { link with
      socket := rest
      client := if link.active then link.client.take now message else link.client } := by
  have agrees : link.active = true → DashboardState.Agrees
      (arrived { link with
        socket := rest
        client := if link.active then link.client.take now message else link.client })
      link.arrived := by
    intro active
    unfold arrived
    rw [queued, if_pos active]
    exact ((DashboardState.Agrees.refl link.client).take now 0 message).takeAll rest
  refine ⟨settles.greeted, settles.answers, settles.broadcasts, fun active owes => ?_,
    fun active owes key => ?_⟩
  · rw [(agrees active).ready]
    exact settles.ready active owes
  · rw [(agrees active).entities]
    exact settles.entities active owes key

/-- A connection is not used before the greeting is over. -/
theorem Settles.unused (settles : link.Settles) (greeting : link.greeting ≠ .over) :
    link.active = false := by
  rw [← Bool.not_eq_true]
  exact fun active => greeting (settles.greeted active)

/-- Nothing is promised while the connection is not used. -/
theorem Settles.of_unused (settles : link.Settles) (current : after.current = link.current)
    (broadcast : after.broadcast = link.broadcast) (direct : after.direct = link.direct)
    (unused : after.active = false) : after.Settles := by
  refine settles.of_owes current broadcast (fun active => ?_) ?_ fun active => ?_
  · rw [unused] at active
    cases active
  · rw [direct]
    exact settles.answers
  · rw [unused] at active
    cases active

/-- A snapshot is queued for the writer. -/
theorem Settles.enqueue (settles : link.Settles) (snapshot : Snapshot)
    (reply : Option Snapshot) :
    Settles { link with reply, direct := link.direct ++ [.stateSnapshot snapshot] } := by
  refine settles.of_owes rfl rfl settles.greeted (fun message inside => ?_) fun _ => ?_
  · rcases List.mem_append.mp inside with before | last
    · exact settles.answers message before
    · rw [List.mem_singleton.mp last]
      exact fun _ => rfl
  · unfold Link.owes
    rw [List.any_append]
    simp [ServerMessage.isSnapshot]

/-- An answer that is about no entity is queued. -/
theorem Settles.respond (settles : link.Settles) {message : ServerMessage}
    (other : ¬ message.isState = true) :
    Settles { link with direct := link.direct ++ [message] } := by
  have plain : message.isSnapshot = false := by
    cases message with
    | stateSnapshot snapshot => exact absurd rfl other
    | _ => rfl
  have same : Link.owes { link with direct := link.direct ++ [message] } = link.owes := by
    unfold Link.owes
    rw [List.any_append, List.any_cons, plain, List.any_nil, Bool.or_false, Bool.or_false]
  refine ⟨settles.greeted, fun sent inside state => ?_, settles.broadcasts,
    fun active owes => ?_, fun active owes => ?_⟩
  · rcases List.mem_append.mp inside with before | last
    · exact settles.answers sent before state
    · rw [List.mem_singleton.mp last] at state
      exact absurd state other
  · exact settles.ready active (same ▸ owes)
  · exact settles.entities active (same ▸ owes)

/-- The event loop produces an update. -/
theorem Settles.produce (settles : link.Settles) (update : EntityUpdate) :
    Settles { link with
      current := link.current.put update
      broadcast := link.broadcast ++ [.entity update] } := by
  refine settles.broadcast fun key => ?_
  rw [Snapshot.entity_put]
  have told : (ServerMessage.entity update).tells key =
      if update.key = key then some (some update) else none := rfl
  rw [told]
  split_ifs
  · rfl
  · rfl

/-- The event loop produces a snapshot of all it has. -/
theorem Settles.announce (settles : link.Settles) {snapshot : Snapshot}
    (listed : snapshot.Listed lists) :
    Settles { link with
      current := snapshot
      broadcast := link.broadcast ++ [.stateSnapshot (snapshot.listing lists)] } := by
  refine settles.broadcast fun key => ?_
  rw [listed.listing_eq]
  rfl

/-- The connection is taken into use, and asks for a snapshot. -/
theorem Settles.activate (settles : link.Settles) (greeted : link.greeting = .over) :
    Settles { link with
      requests := link.requests + 1
      active := true
      client := { link.client with ready := false } } := by
  refine settles.of_owes rfl rfl (fun _ => greeted) settles.answers fun _ => ?_
  unfold Link.owes
  rw [decide_eq_true (Nat.succ_pos link.requests)]
  rfl

/-- The event loop answers a request for a snapshot. -/
theorem Settles.answer (settles : link.Settles) (snapshot : Snapshot) :
    Settles { link with requests := link.requests - 1, reply := some snapshot } := by
  refine settles.of_owes rfl rfl settles.greeted settles.answers fun _ => ?_
  unfold Link.owes
  simp

theorem Settles.next (settles : link.Settles) {move : Move}
    (taken : link.next lists move = some after) (order : link.InOrder lists move) :
    after.Settles := by
  obtain ⟨listed, order⟩ := order
  cases move with
  | produce update =>
      cases taken
      exact settles.produce update
  | announce snapshot =>
      cases taken
      exact settles.announce order
  | answerGreeting =>
      obtain ⟨asked, same⟩ := Option.ite_none_right_eq_some.mp taken
      cases same
      exact settles.of_unused rfl rfl rfl (settles.unused (by simp [asked]))
  | greet =>
      simp only [Link.next] at taken
      split at taken
      · rename_i snapshot answered
        cases taken
        exact settles.of_unused rfl rfl rfl (settles.unused (by simp [answered]))
      · cases taken
  | skipGreeting =>
      obtain ⟨_, same⟩ := Option.ite_none_right_eq_some.mp taken
      cases same
      exact ⟨fun _ => rfl, settles.answers, settles.broadcasts, settles.ready, settles.entities⟩
  | activate =>
      obtain ⟨greeted, same⟩ := Option.ite_none_right_eq_some.mp taken
      cases same
      exact settles.activate greeted
  | neglect =>
      cases taken
      exact settles.of_unused rfl rfl rfl rfl
  | answer =>
      obtain ⟨_, same⟩ := Option.ite_none_right_eq_some.mp taken
      cases same
      exact settles.answer _
  | enqueue =>
      obtain ⟨snapshot, _, same⟩ := Option.map_eq_some_iff.mp taken
      cases same
      exact settles.enqueue snapshot none
  | respond message =>
      obtain ⟨other, same⟩ := Option.ite_none_left_eq_some.mp taken
      cases same
      exact settles.respond other
  | writeBroadcast =>
      simp only [Link.next] at taken
      split at taken
      · rename_i message rest _ queued
        cases taken
        exact settles.writeBroadcast queued
      · cases taken
  | writeDirect =>
      simp only [Link.next] at taken
      split at taken
      · rename_i message rest _ queued
        cases taken
        exact settles.writeDirect queued order
      · cases taken
  | deliver now =>
      simp only [Link.next] at taken
      split at taken
      · rename_i message rest queued
        cases taken
        exact settles.deliver queued now
      · cases taken

theorem Runs.settles {history : List (Link × Move)} (runs : Runs lists history link)
    (order : ∀ step ∈ history, step.1.InOrder lists step.2) : link.Settles := by
  induction runs with
  | start current client => exact settles_start current client
  | step _ taken ih =>
      rw [List.forall_mem_append] at order
      exact (ih order.1).next taken (order.2 _ (List.mem_singleton_self _))

/-- A dashboard in use shows what the event loop last produced when everything has been written and
has arrived, in every run in which no snapshot is overtaken. -/
theorem Runs.converged {history : List (Link × Move)} (runs : Runs lists history link)
    (order : ∀ step ∈ history, step.1.InOrder lists step.2) (drained : link.Drained)
    (active : link.active = true) : link.Converged := by
  have settles := runs.settles order
  have owes : link.owes = false := by
    unfold Link.owes
    rw [drained.requests, drained.reply, drained.direct]
    rfl
  have arrived : link.arrived = link.client := by
    unfold Link.arrived
    rw [drained.socket]
    rfl
  refine ⟨?_, fun key => ?_⟩
  · rw [← arrived]
    exact settles.ready active owes
  · have entities := settles.entities active owes key
    rw [drained.broadcast, overlay_nil, arrived] at entities
    exact entities

/-! ## Two connections -/

/-- Let things happen one after the other. -/
def play (lists : String → Bool) : List Move → Link → Option (List (Link × Move) × Link)
  | [], link => some ([], link)
  | move :: rest, link =>
      (link.next lists move).bind fun after =>
        (play lists rest after).map fun reached => ((link, move) :: reached.1, reached.2)

theorem Runs.play {history more : List (Link × Move)} {moves : List Move}
    (runs : Runs lists history link) (played : Link.play lists moves link = some (more, after)) :
    Runs lists (history ++ more) after := by
  induction moves generalizing history more link with
  | nil =>
      cases played
      rwa [List.append_nil]
  | cons move rest ih =>
      obtain ⟨middle, taken, played⟩ := Option.bind_eq_some_iff.mp played
      obtain ⟨⟨later, last⟩, rested, same⟩ := Option.map_eq_some_iff.mp played
      cases same
      have continued := ih (runs.step taken) rested
      rwa [List.append_assoc, List.singleton_append] at continued

/-- A step that writes no snapshot but the current one. -/
def writesCurrent (lists : String → Bool) (step : Link × Move) : Bool :=
  decide (step.1.current.Listed lists) &&
    match step.2 with
    | .produce update => decide (update.Listed lists)
    | .announce snapshot => decide (snapshot.Listed lists)
    | .writeDirect =>
        step.1.direct.head?.all fun message => decide (message = .stateSnapshot step.1.current)
    | _ => true

theorem inOrder_of_writesCurrent {step : Link × Move} (plain : writesCurrent lists step = true) :
    step.1.InOrder lists step.2 := by
  obtain ⟨link, move⟩ := step
  unfold writesCurrent at plain
  rw [Bool.and_eq_true, decide_eq_true_iff] at plain
  refine ⟨plain.1, ?_⟩
  cases move with
  | produce update => exact of_decide_eq_true plain.2
  | announce snapshot => exact of_decide_eq_true plain.2
  | writeDirect =>
      intro _ _ _ snapshot rest queued _ key
      have current := plain.2
      dsimp only at current
      rw [queued, List.head?_cons, Option.all_some, decide_eq_true_iff] at current
      cases current
      exact .inl rfl
  | _ => trivial

/-- A study whose group is reported on or off. -/
def study (on : Bool) : Room :=
  { name := "study", target := none, actual := some ⟨"fresh"⟩, targetValue := none
    actualValue := some on, motionEnabled := true, motionRules := []
    schedule := ⟨[], false⟩, switchSteps := [], timedActions := [] }

/-- A connection to a controller of the study, which is off. -/
def connected : Link :=
  { current := ⟨[study false], [], [], []⟩, client := (DashboardClient.initial 0).state }

/-- The dashboard is told of the study, and then that it is on. -/
theorem Runs.converged_study : ∃ (history : List (Link × Move)) (link : Link),
    Runs (fun _ => true) history link ∧ link.Drained ∧ link.active = true ∧
      link.current.entity (.room "study") = some (.room (study true)) ∧ link.Converged := by
  have evaluated : ((Link.play (fun _ => true)
      [.answerGreeting, .greet, .deliver 1, .activate, .answer, .enqueue, .writeDirect, .deliver 2,
        .produce (.room (study true)), .writeBroadcast, .deliver 3] connected).map fun reached =>
      (decide (reached.2.broadcast = [] ∧ reached.2.requests = 0 ∧ reached.2.reply = none ∧
          reached.2.direct = [] ∧ reached.2.socket = []),
        reached.2.active, reached.1.all (writesCurrent fun _ => true),
        decide (reached.2.current.entity (.room "study") = some (.room (study true))))) =
      some (true, true, true, true) := by decide +kernel
  obtain ⟨⟨history, link⟩, played, facts⟩ := Option.map_eq_some_iff.mp evaluated
  simp only [Prod.mk.injEq, decide_eq_true_iff] at facts
  obtain ⟨⟨broadcast, requests, reply, direct, socket⟩, active, plain, shown⟩ := facts
  have runs := (@Runs.start (fun _ => true) _ _).play played
  have drained : link.Drained := ⟨broadcast, requests, reply, direct, socket⟩
  exact ⟨_, link, runs, drained, active, shown, Runs.converged runs
    (fun step listed => inOrder_of_writesCurrent (List.all_eq_true.mp plain step listed)) drained
    active⟩

/-- The answer to a request for a snapshot is written after a newer update, and the dashboard goes
on showing that the study is off. -/
theorem Runs.converged_fails :
    ¬ ∀ (lists : String → Bool) (history : List (Link × Move)) (link : Link),
    Runs lists history link → link.Drained → link.active = true → link.Converged := by
  intro claim
  have evaluated : ((Link.play (fun _ => true)
      [.answerGreeting, .greet, .deliver 1, .activate, .answer, .enqueue,
        .produce (.room (study true)), .writeBroadcast, .writeDirect, .deliver 2, .deliver 3]
      connected).map fun reached =>
      (decide (reached.2.broadcast = [] ∧ reached.2.requests = 0 ∧ reached.2.reply = none ∧
          reached.2.direct = [] ∧ reached.2.socket = []),
        reached.2.active,
        decide (reached.2.client.entity (.room "study") =
          reached.2.current.entity (.room "study")))) = some (true, true, false) := by
    decide +kernel
  obtain ⟨⟨history, link⟩, played, facts⟩ := Option.map_eq_some_iff.mp evaluated
  simp only [Prod.mk.injEq, decide_eq_true_iff, decide_eq_false_iff_not] at facts
  obtain ⟨⟨broadcast, requests, reply, direct, socket⟩, active, different⟩ := facts
  have runs := (@Runs.start (fun _ => true) _ _).play played
  exact different ((claim _ _ link runs ⟨broadcast, requests, reply, direct, socket⟩
    active).entities _)

end Link

end MqttController.Frontend
