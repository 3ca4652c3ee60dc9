/-!
# The inventory fetches of the provisioner

The provisioner reads the group inventory of zigbee2mqtt from a retained message.  The task that
fetches and the task that polls the MQTT event loop share one cache entry and its `Notify`; every
step below is one access to them, or one move of the broker or of zigbee2mqtt.
-/

namespace MqttController.Provision

/-- A request of the client to the broker, for the topic of the inventory. -/
inductive Request where
  | subscribe
  | unsubscribe
  deriving DecidableEq, Repr

/-- A payload in the cache, with the number of the delivery that put it there. -/
structure Cached (π : Type) where
  payload : π
  storedAs : Nat
  deriving DecidableEq, Repr

/-- Where the task of `run_event_loop` stands. -/
inductive EventLoop where
  | polling
  /-- The payload is stored and the lock released, `notify_waiters` is still to come. -/
  | notifying
  deriving DecidableEq, Repr

/-- A call of `fetch_retained`, with the number of deliveries stored when it was made. -/
structure Call where
  forceRefresh : Bool
  calledAt : Nat
  deriving DecidableEq, Repr

/-- How far the `Notified` of a call is: created, and then polled in the timeout. -/
inductive Refresh where
  | registered
  | unsubscribed
  | awaiting
  deriving DecidableEq, Repr

/-- Where the task that fetches stands. -/
inductive Fetch where
  | idle
  | called (call : Call)
  /-- The cache was empty and the lock is released, no waiter exists yet. -/
  | missed (call : Call)
  | waiting (call : Call) (refresh : Refresh) (woken : Bool)
  deriving DecidableEq, Repr

/-- How a call of `fetch_retained` ends. -/
inductive FetchResult (π : Type) where
  | payload (cached : Cached π)
  | fetchTimeout
  | client
  deriving DecidableEq, Repr

/-- A call that ended, with what the broker retained at that moment. -/
structure Outcome (π : Type) where
  call : Call
  retained : Option π
  result : FetchResult π
  deriving DecidableEq, Repr

/-- The provisioner with its broker and zigbee2mqtt, as far as the inventory is concerned. -/
structure System (π : Type) where
  /-- Inventories after accepted mutations that zigbee2mqtt has still to publish. -/
  unpublished : List π
  retained : Option π
  subscribed : Bool
  /-- The requests of the client on their way to the broker. -/
  requests : List Request
  /-- The publishes of the broker on their way to the client. -/
  deliveries : List π
  /-- `payload` of the `TopicCacheEntry`. -/
  cache : Option (Cached π)
  /-- The number of payloads stored so far. -/
  stores : Nat
  eventLoop : EventLoop
  fetch : Fetch
  outcomes : List (Outcome π)
  deriving DecidableEq, Repr

/-- One step of one of the parties. -/
inductive Action (π : Type) where
  /-- zigbee2mqtt accepts a mutation that leaves this inventory. -/
  | mutate (inventory : π)
  | publish
  | brokerTakes
  | store
  | notifyWaiters
  | fetchGroups
  | fetchGroupsFresh
  | lock
  | register
  | unsubscribe
  | subscribe
  | subscribeFails
  | wake
  | expire
  deriving DecidableEq, Repr

namespace System

variable {π : Type}

/-- The client after `connect`, in front of a broker that may retain an inventory. -/
def connected (retained : Option π) : System π where
  unpublished := []
  retained := retained
  subscribed := false
  requests := [.subscribe]
  deliveries := []
  cache := none
  stores := 0
  eventLoop := .polling
  fetch := .idle
  outcomes := []

/-- Nothing for the client is under way. -/
def quiet (system : System π) : Bool :=
  system.requests.isEmpty && system.deliveries.isEmpty && system.eventLoop == .polling

/-- The call is over. -/
def finish (call : Call) (result : FetchResult π) (system : System π) : System π :=
  { system with
    fetch := .idle
    outcomes := system.outcomes ++ [⟨call, system.retained, result⟩] }

/-- zigbee2mqtt publishes the inventory after its oldest unpublished mutation, retained. -/
def publish (system : System π) : Option (System π) :=
  match system.unpublished with
  | [] => none
  | inventory :: rest =>
      some
        { system with
          unpublished := rest
          retained := some inventory
          deliveries :=
            if system.subscribed then system.deliveries ++ [inventory] else system.deliveries }

/-- The broker takes the next request; a subscription is answered with the retained message. -/
def brokerTakes (system : System π) : Option (System π) :=
  match system.requests with
  | [] => none
  | .unsubscribe :: rest => some { system with requests := rest, subscribed := false }
  | .subscribe :: rest =>
      some
        { system with
          requests := rest
          subscribed := true
          deliveries := system.deliveries ++ system.retained.toList }

/-- The event loop stores the next publish under the lock. -/
def store (system : System π) : Option (System π) :=
  match system.eventLoop, system.deliveries with
  | .polling, payload :: rest =>
      some
        { system with
          deliveries := rest
          cache := some ⟨payload, system.stores + 1⟩
          stores := system.stores + 1
          eventLoop := .notifying }
  | _, _ => none

/-- `notify_waiters` wakes the waiters that exist; it leaves no permit for later ones. -/
def notifyWaiters (system : System π) : Option (System π) :=
  match system.eventLoop with
  | .polling => none
  | .notifying =>
      some
        { system with
          eventLoop := .polling
          fetch :=
            match system.fetch with
            | .waiting call refresh _ => .waiting call refresh true
            | fetch => fetch }

/-- A call of `fetch_groups` or `fetch_groups_fresh`. -/
def call (forceRefresh : Bool) (system : System π) : Option (System π) :=
  match system.fetch with
  | .idle => some { system with fetch := .called ⟨forceRefresh, system.stores⟩ }
  | _ => none

/-- The first lock of `fetch_retained`: a forced refresh takes the payload, another clones it, and
either returns it when there is one. -/
def lock (system : System π) : Option (System π) :=
  match system.fetch with
  | .called call =>
      let after := if call.forceRefresh then { system with cache := none } else system
      match system.cache with
      | some cachedNow => some (after.finish call (.payload cachedNow))
      | none => some { after with fetch := .missed call }
  | _ => none

/-- `notify.notified()`. -/
def register (system : System π) : Option (System π) :=
  match system.fetch with
  | .missed call =>
      some
        { system with
          fetch := .waiting call (if call.forceRefresh then .registered else .awaiting) false }
  | _ => none

/-- The unsubscription of a forced refresh; its failure would be ignored. -/
def unsubscribe (system : System π) : Option (System π) :=
  match system.fetch with
  | .waiting call .registered woken =>
      some
        { system with
          fetch := .waiting call .unsubscribed woken
          requests := system.requests ++ [.unsubscribe] }
  | _ => none

/-- The subscription of a forced refresh. -/
def subscribe (system : System π) : Option (System π) :=
  match system.fetch with
  | .waiting call .unsubscribed woken =>
      some
        { system with
          fetch := .waiting call .awaiting woken
          requests := system.requests ++ [.subscribe] }
  | _ => none

/-- A failed subscription ends the call. -/
def subscribeFails (system : System π) : Option (System π) :=
  match system.fetch with
  | .waiting call .unsubscribed _ => some (system.finish call .client)
  | _ => none

/-- The waiter fires and the payload is read back out of the cache. -/
def wake (system : System π) : Option (System π) :=
  match system.fetch with
  | .waiting call .awaiting true =>
      match system.cache with
      | some cached => some (system.finish call (.payload cached))
      | none => some (system.finish call .fetchTimeout)
  | _ => none

/-- The timeout elapses; a timely broker has delivered by then what it had to. -/
def expire (system : System π) : Option (System π) :=
  match system.fetch with
  | .waiting call .awaiting false =>
      if system.quiet then some (system.finish call .fetchTimeout) else none
  | _ => none

/-- The state after a step, when the step is possible. -/
def step : Action π → System π → Option (System π)
  | .mutate inventory, system =>
      some { system with unpublished := system.unpublished ++ [inventory] }
  | .publish, system => system.publish
  | .brokerTakes, system => system.brokerTakes
  | .store, system => system.store
  | .notifyWaiters, system => system.notifyWaiters
  | .fetchGroups, system => system.call false
  | .fetchGroupsFresh, system => system.call true
  | .lock, system => system.lock
  | .register, system => system.register
  | .unsubscribe, system => system.unsubscribe
  | .subscribe, system => system.subscribe
  | .subscribeFails, system => system.subscribeFails
  | .wake, system => system.wake
  | .expire, system => system.expire

/-- The provisioner fetches only after the first inventory was delivered. -/
def Provisioned : Action π → System π → Prop
  | .fetchGroups, system | .fetchGroupsFresh, system => 0 < system.stores
  | _, _ => True

instance : (action : Action π) → (system : System π) → Decidable (Provisioned action system)
  | .fetchGroups, system | .fetchGroupsFresh, system =>
      inferInstanceAs (Decidable (0 < system.stores))
  | .mutate _, _ | .publish, _ | .brokerTakes, _ | .store, _ | .notifyWaiters, _ | .lock, _
  | .register, _ | .unsubscribe, _ | .subscribe, _ | .subscribeFails, _ | .wake, _ | .expire, _ =>
      .isTrue trivial

/-- The states reached by steps that each meet a condition on the state before it. -/
inductive ReachedBy (condition : Action π → System π → Prop) : System π → Prop where
  | connected (retained : Option π) : ReachedBy condition (connected retained)
  | step {system after : System π} (action : Action π) : ReachedBy condition system →
      Provisioned action system → condition action system → system.step action = some after →
      ReachedBy condition after

/-- The states reached by any steps. -/
abbrev Reached : System π → Prop := ReachedBy fun _ _ => True

end System

end MqttController.Provision
