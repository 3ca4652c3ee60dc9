import Mathlib.Data.List.Basic
import MqttController.Provision.Client

/-!
# What a fetch of the inventory returns

A forced refresh that finds a payload in the cache takes it and returns it, although it is the copy
the mutation made stale, and leaves the cache empty for the next plain fetch, which then waits for a
delivery nothing asks for.  The run keeps its promises exactly as long as the cache and the event
loop are where every call expects them.
-/

namespace MqttController.Provision

variable {π : Type}

/-- A forced refresh returns nothing that was cached before it was called, and no call times out
while the broker retains an inventory. -/
def Outcome.Sound (outcome : Outcome π) : Prop :=
  (∀ cached, outcome.result = .payload cached → outcome.call.forceRefresh = true →
    outcome.call.calledAt < cached.storedAs) ∧
  (outcome.result = .fetchTimeout → outcome.retained = none)

namespace System

/-- Every call so far ended as it should, and no delivery slipped past the one that waits. -/
structure Sound (system : System π) : Prop where
  outcomes : ∀ outcome ∈ system.outcomes, outcome.Sound
  /-- The cache was empty when the call looked: what is in it now arrived during the call. -/
  heard : ∀ call refresh, system.fetch = .waiting call refresh false →
    system.eventLoop = .polling → system.cache = none

/-- A delivery is on its way to the client, or a subscription that brings one. -/
def Underway (system : System π) : Prop :=
  system.deliveries ≠ [] ∨ .subscribe ∈ system.requests

/-- A forced refresh looks into a cache that is empty or was filled since the call; a call registers
its waiter when a payload is in the cache exactly if its notification is still to come; and a plain
fetch that finds the cache empty has a delivery under way. -/
def Timely : Action π → System π → Prop
  | .lock, system => ∀ call, system.fetch = .called call → call.forceRefresh = true →
      ∀ cached ∈ system.cache, call.calledAt < cached.storedAs
  | .register, system => (system.cache.isSome ↔ system.eventLoop = .notifying) ∧
      ∀ call, system.fetch = .missed call → call.forceRefresh = false →
        system.cache.isSome ∨ system.Underway
  | _, _ => True

/-! ## The invariant of timely runs -/

/-- The cache holds nothing older than the call. -/
def Renewed (call : Call) (system : System π) : Prop :=
  call.calledAt ≤ system.stores ∧ ∀ cached ∈ system.cache, call.calledAt < cached.storedAs

/-- What a waiting call can rely on. -/
structure Attended (refresh : Refresh) (woken : Bool) (system : System π) : Prop where
  filled : woken = true ∨ system.eventLoop = .notifying → system.cache.isSome
  heard : woken = false → system.eventLoop = .polling → system.cache = none
  served : refresh = .awaiting → woken = false → system.eventLoop = .polling → system.Underway

/-- What holds of the task that fetches, at each of its stages. -/
def Fits (system : System π) : Fetch → Prop
  | .idle => True
  | .called call => 0 < system.stores ∧ call.calledAt ≤ system.stores
  | .missed call => 0 < system.stores ∧ system.Renewed call
  | .waiting call refresh woken =>
      0 < system.stores ∧ system.Renewed call ∧ system.Attended refresh woken

/-- The invariant of timely runs. -/
structure Inv (system : System π) : Prop where
  retains : 0 < system.stores ∨ system.deliveries ≠ [] → system.retained.isSome
  fits : system.Fits system.fetch
  outcomes : ∀ outcome ∈ system.outcomes, outcome.Sound

theorem Inv.sound {system : System π} (inv : system.Inv) : system.Sound := by
  refine ⟨inv.outcomes, ?_⟩
  intro call refresh waits polls
  have fits := inv.fits
  rw [waits] at fits
  exact fits.2.2.heard rfl polls

theorem inv_connected (retained : Option π) : (connected retained).Inv := by
  refine ⟨?_, trivial, ?_⟩
  · intro some
    simp [connected] at some
  · intro outcome ended
    simp [connected] at ended

/-- The call ends well, and what it leaves in the cache matters to no call. -/
theorem Inv.finish {system : System π} (inv : system.Inv) (call : Call) (result : FetchResult π)
    (sound : (⟨call, system.retained, result⟩ : Outcome π).Sound) :
    (system.finish call result).Inv := by
  refine ⟨inv.retains, trivial, ?_⟩
  intro outcome ended
  rcases List.mem_append.mp ended with before | last
  · exact inv.outcomes outcome before
  · rw [List.mem_singleton.mp last]
    exact sound

/-- What leaves the client alone and takes nothing off the network keeps the invariant. -/
theorem Inv.network {system after : System π} (inv : system.Inv)
    (retains : 0 < after.stores ∨ after.deliveries ≠ [] → after.retained.isSome)
    (underway : system.retained.isSome → system.Underway → after.Underway)
    (cache : after.cache = system.cache)
    (stores : after.stores = system.stores) (eventLoop : after.eventLoop = system.eventLoop)
    (fetch : after.fetch = system.fetch) (outcomes : after.outcomes = system.outcomes) :
    after.Inv := by
  refine ⟨retains, ?_, by rw [outcomes]; exact inv.outcomes⟩
  have fits := inv.fits
  rw [fetch]
  have renewed (call : Call) (before : system.Renewed call) : after.Renewed call := by
    unfold Renewed
    rw [stores, cache]
    exact before
  cases stage : system.fetch with
  | idle => trivial
  | called call =>
      rw [stage] at fits
      exact ⟨by rw [stores]; exact fits.1, by rw [stores]; exact fits.2⟩
  | missed call =>
      rw [stage] at fits
      exact ⟨by rw [stores]; exact fits.1, renewed call fits.2⟩
  | waiting call refresh woken =>
      rw [stage] at fits
      obtain ⟨stored, new, attended⟩ := fits
      refine ⟨by rw [stores]; exact stored, renewed call new, ?_, ?_, ?_⟩
      · rw [eventLoop, cache]
        exact attended.filled
      · rw [eventLoop, cache]
        exact attended.heard
      · rw [eventLoop]
        intro awaits sleeps polls
        exact underway (inv.retains (Or.inl stored)) (attended.served awaits sleeps polls)

/-! ## One step -/

theorem mutate_inv {system : System π} (inv : system.Inv) (inventory : π) :
    ({ system with unpublished := system.unpublished ++ [inventory] } : System π).Inv :=
  inv.network inv.retains (fun _ => id) rfl rfl rfl rfl rfl

theorem publish_inv {system after : System π} (inv : system.Inv)
    (moved : system.publish = some after) : after.Inv := by
  unfold publish at moved
  split at moved
  · cases moved
  · cases moved
    refine inv.network (fun _ => rfl) ?_ rfl rfl rfl rfl rfl
    rintro - (delivers | subscribes)
    · left
      dsimp only
      split
      · simp
      · exact delivers
    · exact Or.inr subscribes

theorem brokerTakes_inv {system after : System π} (inv : system.Inv)
    (moved : system.brokerTakes = some after) : after.Inv := by
  unfold brokerTakes at moved
  split at moved
  · cases moved
  · next rest taken =>
      cases moved
      refine inv.network inv.retains ?_ rfl rfl rfl rfl rfl
      rintro - (delivers | subscribes)
      · exact Or.inl delivers
      · rw [taken] at subscribes
        exact Or.inr (by simpa using subscribes)
  · next rest taken =>
      cases moved
      have retains : 0 < system.stores ∨ system.deliveries ++ system.retained.toList ≠ [] →
          system.retained.isSome := by
        rintro (stored | delivers)
        · exact inv.retains (Or.inl stored)
        · cases held : system.retained with
          | some inventory => rfl
          | none =>
              rw [held] at delivers
              have retained := inv.retains (Or.inr (by simpa using delivers))
              rw [held] at retained
              exact retained
      refine inv.network retains ?_ rfl rfl rfl rfl rfl
      intro held _
      obtain ⟨inventory, retained⟩ := Option.isSome_iff_exists.mp held
      left
      simp [retained]

/-- What a store leaves is newer than every call made before it. -/
theorem store_inv {system after : System π} (inv : system.Inv)
    (moved : system.store = some after) : after.Inv := by
  unfold store at moved
  split at moved
  · next payload rest polls delivers =>
      cases moved
      have retained := inv.retains (Or.inr (by rw [delivers]; exact List.cons_ne_nil _ _))
      refine ⟨fun _ => retained, ?_, inv.outcomes⟩
      have fits := inv.fits
      have renewed (call : Call) (made : call.calledAt ≤ system.stores) :
          call.calledAt ≤ system.stores + 1 ∧
            ∀ cached ∈ some (Cached.mk payload (system.stores + 1)),
              call.calledAt < cached.storedAs := by
        refine ⟨by omega, ?_⟩
        rintro cached stored
        cases stored
        dsimp only
        omega
      dsimp only
      cases stage : system.fetch with
      | idle => trivial
      | called call =>
          rw [stage] at fits
          exact ⟨Nat.succ_pos _, Nat.le_succ_of_le fits.2⟩
      | missed call =>
          rw [stage] at fits
          exact ⟨Nat.succ_pos _, renewed call fits.2.1⟩
      | waiting call refresh woken =>
          rw [stage] at fits
          refine ⟨Nat.succ_pos _, renewed call fits.2.1.1, fun _ => rfl, ?_, ?_⟩
          · intro _ polls
            cases polls
          · intro _ _ polls
            cases polls
  · cases moved

/-- A notification finds the payload it is about in the cache and wakes the call that waits. -/
theorem notifyWaiters_inv {system after : System π} (inv : system.Inv)
    (moved : system.notifyWaiters = some after) : after.Inv := by
  unfold notifyWaiters at moved
  split at moved
  · cases moved
  · next notifies =>
      cases moved
      refine ⟨inv.retains, ?_, inv.outcomes⟩
      have fits := inv.fits
      dsimp only
      cases stage : system.fetch with
      | idle => trivial
      | called call =>
          rw [stage] at fits
          exact fits
      | missed call =>
          rw [stage] at fits
          exact fits
      | waiting call refresh woken =>
          rw [stage] at fits
          obtain ⟨stored, new, attended⟩ := fits
          refine ⟨stored, new, fun _ => attended.filled (Or.inr notifies), ?_, ?_⟩
          · intro asleep
            cases asleep
          · intro _ asleep
            cases asleep

theorem call_inv {system after : System π} (inv : system.Inv) (forceRefresh : Bool)
    (provisioned : 0 < system.stores) (moved : system.call forceRefresh = some after) :
    after.Inv := by
  unfold call at moved
  split at moved
  · cases moved
    exact ⟨inv.retains, ⟨provisioned, Nat.le_refl _⟩, inv.outcomes⟩
  · cases moved

theorem lock_inv {system after : System π} (inv : system.Inv)
    (timely : Timely (.lock : Action π) system) (moved : system.lock = some after) :
    after.Inv := by
  unfold lock at moved
  split at moved
  · next call called =>
      have fits := inv.fits
      rw [called] at fits
      -- taking the payload out matters to the call alone
      have taken : ({ system with cache := none, fetch := .idle } : System π).Inv :=
        ⟨inv.retains, trivial, inv.outcomes⟩
      have left : ({ system with fetch := .idle } : System π).Inv :=
        ⟨inv.retains, trivial, inv.outcomes⟩
      cases cached : system.cache with
      | some cachedNow =>
          rw [cached] at moved
          cases moved
          have sound : (⟨call, system.retained, .payload cachedNow⟩ : Outcome π).Sound := by
            refine ⟨?_, fun times => by cases times⟩
            intro payload returned forced
            cases returned
            exact timely call called forced cachedNow cached
          split
          · exact taken.finish call _ sound
          · exact left.finish call _ sound
      | none =>
          rw [cached] at moved
          cases moved
          have renewed : ∀ held ∈ (none : Option (Cached π)), call.calledAt < held.storedAs := by
            intro held stored
            cases stored
          split
          · exact ⟨inv.retains, ⟨fits.1, fits.2, renewed⟩, inv.outcomes⟩
          · refine ⟨inv.retains, ⟨fits.1, fits.2, ?_⟩, inv.outcomes⟩
            dsimp only
            rw [cached]
            exact renewed
  · cases moved

theorem register_inv {system after : System π} (inv : system.Inv)
    (timely : Timely (.register : Action π) system) (moved : system.register = some after) :
    after.Inv := by
  unfold register at moved
  split at moved
  · next call missed =>
      cases moved
      have fits := inv.fits
      rw [missed] at fits
      obtain ⟨announced, served⟩ := timely
      refine ⟨inv.retains, ⟨fits.1, fits.2, ?_, ?_, ?_⟩, inv.outcomes⟩
      · rintro (woken | notifies)
        · cases woken
        · exact announced.mpr notifies
      · intro _ polls
        dsimp only at polls
        cases cached : system.cache with
        | none => rfl
        | some held =>
            have notifies := announced.mp (by rw [cached]; rfl)
            rw [polls] at notifies
            cases notifies
      · intro awaits _ polls
        dsimp only at awaits polls
        have plain : call.forceRefresh = false := by
          cases forced : call.forceRefresh with
          | false => rfl
          | true =>
              rw [forced] at awaits
              cases awaits
        rcases served call missed plain with filled | underway
        · have notifies := announced.mp filled
          rw [polls] at notifies
          cases notifies
        · exact underway
  · cases moved

theorem unsubscribe_inv {system after : System π} (inv : system.Inv)
    (moved : system.unsubscribe = some after) : after.Inv := by
  unfold unsubscribe at moved
  split at moved
  · next call woken waits =>
      cases moved
      have fits := inv.fits
      rw [waits] at fits
      obtain ⟨stored, new, attended⟩ := fits
      refine ⟨inv.retains, ⟨stored, new, attended.filled, attended.heard, ?_⟩, inv.outcomes⟩
      intro awaits
      cases awaits
  · cases moved

/-- The subscription brings the retained inventory. -/
theorem subscribe_inv {system after : System π} (inv : system.Inv)
    (moved : system.subscribe = some after) : after.Inv := by
  unfold subscribe at moved
  split at moved
  · next call woken waits =>
      cases moved
      have fits := inv.fits
      rw [waits] at fits
      obtain ⟨stored, new, attended⟩ := fits
      refine ⟨inv.retains, ⟨stored, new, attended.filled, attended.heard, ?_⟩, inv.outcomes⟩
      intro _ _ _
      exact Or.inr (by simp)
  · cases moved

theorem subscribeFails_inv {system after : System π} (inv : system.Inv)
    (moved : system.subscribeFails = some after) : after.Inv := by
  unfold subscribeFails at moved
  split at moved
  · cases moved
    apply inv.finish
    constructor
    · intro payload returned
      cases returned
    · intro times
      cases times
  · cases moved

/-- A call is woken only when the cache is filled. -/
theorem wake_inv {system after : System π} (inv : system.Inv)
    (moved : system.wake = some after) : after.Inv := by
  unfold wake at moved
  split at moved
  · next call waits =>
      have fits := inv.fits
      rw [waits] at fits
      obtain ⟨stored, new, attended⟩ := fits
      obtain ⟨held, cached⟩ := Option.isSome_iff_exists.mp (attended.filled (Or.inl rfl))
      rw [cached] at moved
      cases moved
      apply inv.finish
      refine ⟨?_, fun times => by cases times⟩
      intro payload returned _
      cases returned
      exact new.2 held cached
  · cases moved

/-- No timeout elapses on a call that waits: what it waits for is under way. -/
theorem expire_none {system : System π} (inv : system.Inv) : system.expire = none := by
  unfold expire
  split
  · next call waits =>
      have fits := inv.fits
      rw [waits] at fits
      rw [if_neg]
      intro still
      simp only [quiet, Bool.and_eq_true, List.isEmpty_iff, beq_iff_eq] at still
      obtain ⟨⟨requests, deliveries⟩, polls⟩ := still
      rcases fits.2.2.served rfl rfl polls with delivers | subscribes
      · exact delivers deliveries
      · rw [requests] at subscribes
        cases subscribes
  · rfl

theorem step_inv {system after : System π} (inv : system.Inv) (action : Action π)
    (provisioned : Provisioned action system) (timely : Timely action system)
    (moved : system.step action = some after) : after.Inv := by
  cases action with
  | mutate inventory =>
      cases moved
      exact mutate_inv inv inventory
  | publish => exact publish_inv inv moved
  | brokerTakes => exact brokerTakes_inv inv moved
  | store => exact store_inv inv moved
  | notifyWaiters => exact notifyWaiters_inv inv moved
  | fetchGroups => exact call_inv inv false provisioned moved
  | fetchGroupsFresh => exact call_inv inv true provisioned moved
  | lock => exact lock_inv inv timely moved
  | register => exact register_inv inv timely moved
  | unsubscribe => exact unsubscribe_inv inv moved
  | subscribe => exact subscribe_inv inv moved
  | subscribeFails => exact subscribeFails_inv inv moved
  | wake => exact wake_inv inv moved
  | expire =>
      have expired : system.expire = some after := moved
      rw [expire_none inv] at expired
      cases expired

/-! ## Runs -/

theorem inv_of_timely {system : System π} (reached : ReachedBy Timely system) : system.Inv := by
  induction reached with
  | connected retained => exact inv_connected retained
  | step action _ provisioned timely moved ih => exact step_inv ih action provisioned timely moved

/-- In a run of timely steps every forced refresh returns what arrived after it was called, no
delivery that arrives during a call is missed, and no call times out. -/
theorem fetches_sound {system : System π} (reached : ReachedBy Timely system) : system.Sound :=
  (inv_of_timely reached).sound

/-- The new inventory arrives between the call and its lock, and a second refresh waits for the
answer to its own subscription. -/
theorem fetches_sound_refreshed :
    (⟨[], some ["kitchen"], true, [], [], some ⟨["kitchen"], 3⟩, 3, .polling, .idle,
      [⟨⟨true, 1⟩, some ["kitchen"], .payload ⟨["kitchen"], 2⟩⟩,
        ⟨⟨true, 2⟩, some ["kitchen"], .payload ⟨["kitchen"], 3⟩⟩]⟩ :
      System (List String)).Sound := by
  have first : ReachedBy Timely (⟨[["kitchen"]], some ["kitchen", "hall"], true, [], [],
      some ⟨["kitchen", "hall"], 1⟩, 1, .polling, .idle, []⟩ : System (List String)) :=
    .step (.mutate ["kitchen"])
      (.step .notifyWaiters
        (.step .store
          (.step .brokerTakes (.connected (some ["kitchen", "hall"])) trivial trivial rfl)
          trivial trivial rfl)
        trivial trivial rfl)
      trivial trivial rfl
  have arrived : ReachedBy Timely (⟨[], some ["kitchen"], true, [], [], some ⟨["kitchen"], 2⟩, 2,
      .polling, .called ⟨true, 1⟩, []⟩ : System (List String)) :=
    .step .notifyWaiters
      (.step .store
        (.step .publish (.step .fetchGroupsFresh first Nat.one_pos trivial rfl) trivial trivial rfl)
        trivial trivial rfl)
      trivial trivial rfl
  have taken : ReachedBy Timely (⟨[], some ["kitchen"], true, [], [], none, 2, .polling, .idle,
      [⟨⟨true, 1⟩, some ["kitchen"], .payload ⟨["kitchen"], 2⟩⟩]⟩ : System (List String)) := by
    refine .step .lock arrived trivial ?_ rfl
    rintro call ⟨⟩ _ cached ⟨⟩
    exact Nat.one_lt_two
  have missed : ReachedBy Timely (⟨[], some ["kitchen"], true, [], [], none, 2, .polling,
      .missed ⟨true, 2⟩, [⟨⟨true, 1⟩, some ["kitchen"], .payload ⟨["kitchen"], 2⟩⟩]⟩ :
      System (List String)) := by
    refine .step .lock (.step .fetchGroupsFresh taken Nat.two_pos trivial rfl) trivial ?_ rfl
    rintro call ⟨⟩ _ cached ⟨⟩
  have waits : ReachedBy Timely (⟨[], some ["kitchen"], true, [], [], none, 2, .polling,
      .waiting ⟨true, 2⟩ .registered false,
      [⟨⟨true, 1⟩, some ["kitchen"], .payload ⟨["kitchen"], 2⟩⟩]⟩ : System (List String)) := by
    refine .step .register missed trivial ⟨by simp, ?_⟩ rfl
    rintro call ⟨⟩ ⟨⟩
  exact fetches_sound
    (.step .wake
      (.step .notifyWaiters
        (.step .store
          (.step .brokerTakes
            (.step .brokerTakes
              (.step .subscribe (.step .unsubscribe waits trivial trivial rfl) trivial trivial rfl)
              trivial trivial rfl)
            trivial trivial rfl)
          trivial trivial rfl)
        trivial trivial rfl)
      trivial trivial rfl)

/-! ## Untimely steps -/

/-- Take steps in order, as far as the provisioner makes them. -/
def play : List (Action π) → System π → Option (System π)
  | [], system => some system
  | action :: rest, system =>
      if Provisioned action system then (system.step action).bind (play rest) else none

theorem reached_play {start system : System π} (reached : Reached start)
    (actions : List (Action π)) (played : play actions start = some system) : Reached system := by
  induction actions generalizing start with
  | nil =>
      cases played
      exact reached
  | cons action rest ih =>
      rw [play] at played
      split at played
      · next provisioned =>
          obtain ⟨after, moved, onward⟩ := Option.bind_eq_some_iff.mp played
          exact ih (.step action reached provisioned trivial moved) onward
      · cases played

/-- The group `hall` is pruned: the refresh before the new inventory arrives returns the old one,
the refresh after it takes the new one out of the cache, and the fetch at the end waits in vain. -/
def prune : List (Action (List String)) :=
  [.brokerTakes, .store, .notifyWaiters, .mutate ["kitchen"], .fetchGroupsFresh, .lock, .publish,
    .store, .notifyWaiters, .fetchGroupsFresh, .lock, .fetchGroups, .lock, .register, .expire]

theorem fetches_unsound : ¬ ∀ system : System (List String), Reached system → system.Sound := by
  intro claim
  have connected : Reached (connected (some ["kitchen", "hall"])) := .connected _
  have played : play prune (System.connected (some ["kitchen", "hall"])) =
      some
        { unpublished := []
          retained := some ["kitchen"]
          subscribed := true
          requests := []
          deliveries := []
          cache := none
          stores := 2
          eventLoop := .polling
          fetch := .idle
          outcomes :=
            [⟨⟨true, 1⟩, some ["kitchen", "hall"], .payload ⟨["kitchen", "hall"], 1⟩⟩,
              ⟨⟨true, 2⟩, some ["kitchen"], .payload ⟨["kitchen"], 2⟩⟩,
              ⟨⟨false, 2⟩, some ["kitchen"], .fetchTimeout⟩] } := by
    decide
  have sound := claim _ (reached_play connected prune played)
  have stale := (sound.outcomes _ (List.mem_cons_self ..)).1 _ rfl rfl
  exact Nat.lt_irrefl _ stale

/-- The requests drain when no subscription is among them. -/
theorem play_unsubscribed (system : System π) (idle : Request.subscribe ∉ system.requests) :
    ∃ subscribed, play (List.replicate system.requests.length .brokerTakes) system =
      some { system with requests := [], subscribed := subscribed } := by
  obtain ⟨unpublished, retained, subscribed, requests, deliveries, cache, stores, eventLoop, fetch,
    outcomes⟩ := system
  dsimp only at idle ⊢
  induction requests generalizing subscribed with
  | nil => exact ⟨subscribed, rfl⟩
  | cons request rest ih =>
      cases request with
      | subscribe => exact absurd (List.mem_cons_self ..) idle
      | unsubscribe =>
          obtain ⟨last, played⟩ := ih false (fun later => idle (List.mem_cons_of_mem _ later))
          refine ⟨last, ?_⟩
          exact played

theorem play_append (first second : List (Action π)) (system : System π) :
    play (first ++ second) system = (play first system).bind (play second) := by
  induction first generalizing system with
  | nil => rfl
  | cons action rest ih =>
      rw [List.cons_append, play, play]
      split
      · cases system.step action with
        | none => rfl
        | some after => exact ih after
      · rfl

/-- A call that ends in a timeout in front of a retained inventory breaks the promise. -/
theorem unsound_finish {system : System π} (call : Call) (held : system.retained.isSome) :
    ¬ (system.finish call .fetchTimeout).Sound := by
  intro sound
  have ended : (⟨call, system.retained, .fetchTimeout⟩ : Outcome π) ∈
      (system.finish call .fetchTimeout).outcomes :=
    List.mem_append_right _ (List.mem_singleton.mpr rfl)
  have retained := (sound.outcomes _ ended).2 rfl
  dsimp only at retained
  rw [retained] at held
  cases held

/-- An untimely look into the cache returns what was there before the call. -/
theorem untimely_lock {system after : System π} (untimely : ¬ Timely (.lock : Action π) system)
    (moved : system.lock = some after) : ¬ after.Sound := by
  intro sound
  apply untimely
  intro call called forced cached stored
  rw [Option.mem_def] at stored
  unfold lock at moved
  rw [called] at moved
  dsimp only at moved
  rw [stored] at moved
  cases moved
  exact (sound.outcomes _ (List.mem_append_right _ (List.mem_singleton.mpr rfl))).1
    cached rfl forced

/-- After an untimely registration some run breaks the promise. -/
theorem untimely_register {system after : System π} (inv : system.Inv)
    (untimely : ¬ Timely (.register : Action π) system) (moved : system.register = some after) :
    ∃ actions final, play actions after = some final ∧ ¬ final.Sound := by
  obtain ⟨unpublished, retained, subscribed, requests, deliveries, cache, stores, eventLoop, fetch,
    outcomes⟩ := system
  cases fetch with
  | idle => cases moved
  | called call => cases moved
  | waiting call refresh woken => cases moved
  | missed call =>
      cases moved
      have held : retained.isSome := inv.retains (Or.inl inv.fits.1)
      obtain ⟨forceRefresh, calledAt⟩ := call
      cases eventLoop with
      | notifying =>
          cases cache with
          | some cached =>
              apply (untimely ?_).elim
              exact ⟨by simp, fun _ _ _ => Or.inl rfl⟩
          | none =>
              -- the notification is about a payload that another call took
              cases forceRefresh with
              | false =>
                  refine ⟨[.notifyWaiters, .wake], _, rfl, ?_⟩
                  exact unsound_finish _ held
              | true =>
                  refine ⟨[.notifyWaiters, .unsubscribe, .subscribe, .wake], _, rfl, ?_⟩
                  exact unsound_finish _ held
      | polling =>
          cases cache with
          | some cached =>
              -- the delivery came before the waiter did
              refine ⟨[], _, rfl, ?_⟩
              intro sound
              cases sound.heard _ _ rfl rfl
          | none =>
              cases forceRefresh with
              | true =>
                  apply (untimely ?_).elim
                  refine ⟨by simp, ?_⟩
                  intro call missed plain
                  cases missed
                  cases plain
              | false =>
                  have alone : ¬ (deliveries ≠ [] ∨ Request.subscribe ∈ requests) := by
                    intro underway
                    apply untimely
                    exact ⟨by simp, fun _ _ _ => Or.inr underway⟩
                  have drained : deliveries = [] := by
                    by_contra delivers
                    exact alone (Or.inl delivers)
                  subst drained
                  let waiting : System π :=
                    ⟨unpublished, retained, subscribed, requests, [], none, stores, .polling,
                      .waiting ⟨false, calledAt⟩ .awaiting false, outcomes⟩
                  obtain ⟨last, played⟩ := play_unsubscribed waiting
                    (fun subscribes => alone (Or.inr subscribes))
                  let quieted : System π := { waiting with requests := [], subscribed := last }
                  refine ⟨List.replicate requests.length .brokerTakes ++ [.expire],
                    quieted.finish ⟨false, calledAt⟩ .fetchTimeout, ?_, unsound_finish _ held⟩
                  rw [play_append]
                  exact congrArg (fun state => Option.bind state (play [.expire])) played

/-- The condition is exact: after every untimely step some run breaks the promise. -/
theorem untimely_unsound {system after : System π} (reached : ReachedBy Timely system)
    (action : Action π) (untimely : ¬ Timely action system)
    (moved : system.step action = some after) :
    ∃ actions final, play actions after = some final ∧ ¬ final.Sound := by
  cases action with
  | lock => exact ⟨[], after, rfl, untimely_lock untimely moved⟩
  | register => exact untimely_register (inv_of_timely reached) untimely moved
  | _ => exact (untimely trivial).elim

end System

end MqttController.Provision
