import MqttController.Frontend.ConnectionTimers
import MqttController.Frontend.Store

/-!
# Reports of the manager

Whatever ends the use of a connection, the application is told that no connection in use is alive
before the manager comes to rest; and no connection is live while the page is left.
-/

namespace MqttController.Frontend

open Std Emission

namespace Cast

/-- A connection is in use and alive. -/
def InUse (cast : Cast) : Prop := ∃ id, cast.activeId = some id ∧ cast.role id = some .alive

/-- No connection is live. -/
def Rests (cast : Cast) : Prop := ∀ id state, cast.role id = some state → state = .dead

theorem Rests.bury {cast : Cast} (rests : cast.Rests) (selects : Nat → Bool) :
    (cast.bury selects).Rests := by
  intro id state role
  unfold Cast.bury at role
  dsimp only at role
  cases selected : selects id with
  | false =>
      rw [selected] at role
      exact rests id state role
  | true =>
      rw [selected] at role
      obtain ⟨_, _, dead⟩ := Option.map_eq_some_iff.mp role
      exact dead.symm

theorem rests_bury_all (cast : Cast) : (cast.bury fun _ => true).Rests := by
  intro id state role
  obtain ⟨_, _, dead⟩ := Option.map_eq_some_iff.mp role
  exact dead.symm

end Cast

namespace ConnectionManager

variable {μ κ : Type} {manager : ConnectionManager}

theorem stats_alive (manager : ConnectionManager) :
    manager.stats.alive = true ↔ manager.cast.InUse := by
  unfold Health.alive stats
  rw [List.any_map, List.any_eq_true]
  constructor
  · rintro ⟨⟨id, connection⟩, member, used⟩
    have known := TreeMap.mem_toList_iff_getElem?_eq_some.mp member
    simp only [Function.comp_apply, Bool.and_eq_true, decide_eq_true_eq] at used
    exact ⟨id, used.1, by simp [cast, known, used.2]⟩
  · rintro ⟨id, active, alive⟩
    obtain ⟨connection, known, state⟩ := Option.map_eq_some_iff.mp alive
    refine ⟨(id, connection), TreeMap.mem_toList_iff_getElem?_eq_some.mpr known, ?_⟩
    simp only [Function.comp_apply, Bool.and_eq_true, decide_eq_true_eq]
    exact ⟨active, state⟩

/-- The page is left and no connection is live. -/
def Rests (manager : ConnectionManager) : Prop := manager.suspended = true → manager.cast.Rests

/-- Some report says that no connection in use is alive. -/
def Tells (outputs : List (Output μ κ)) : Prop :=
  ∃ health, Output.health health ∈ outputs ∧ health.alive = false

/-- A step tells that the connection in use is lost, and revives nothing while the page is left. -/
structure Reports (manager : ConnectionManager)
    (result : ConnectionManager × List (Output μ κ)) : Prop where
  tells : manager.cast.InUse → ¬ result.1.cast.InUse → Tells result.2
  rests : manager.Rests → result.1.Rests

namespace Reports

/-- Nothing that matters is changed. -/
theorem of_roles {result : ConnectionManager × List (Output μ κ)}
    (roles : result.1.cast.role = manager.cast.role)
    (active : result.1.activeId = manager.activeId)
    (suspended : result.1.suspended = manager.suspended) : Reports manager result where
  tells used lost := by
    obtain ⟨id, same, alive⟩ := used
    apply (lost ⟨id, ?_, ?_⟩).elim
    · exact active.trans same
    · rw [roles]
      exact alive
  rests rests left := by
    rw [suspended] at left
    intro id state role
    rw [roles] at role
    exact rests left id state role

theorem refl (manager : ConnectionManager) :
    Reports manager ((manager, []) : _ × List (Output μ κ)) :=
  of_roles rfl rfl rfl

/-- The start of a step may be changed where nothing matters. -/
theorem from_roles (manager : ConnectionManager) {before : ConnectionManager}
    {result : ConnectionManager × List (Output μ κ)}
    (roles : manager.cast.role = before.cast.role) (active : manager.activeId = before.activeId)
    (suspended : manager.suspended = before.suspended) (reports : Reports manager result) :
    Reports before result where
  tells used := by
    obtain ⟨id, same, alive⟩ := used
    refine reports.tells ⟨id, ?_, ?_⟩
    · exact active.trans same
    · rw [roles]
      exact alive
  rests rests := by
    refine reports.rests ?_
    intro left id state role
    rw [roles] at role
    exact rests (suspended ▸ left) id state role

theorem andThen {first second : Step ConnectionManager (Output μ κ)}
    (before : Reports manager (first manager))
    (after : Reports (first manager).1 (second (first manager).1)) :
    Reports manager (andThen first second manager) where
  tells used lost := by
    rw [andThen_fst] at lost
    rw [andThen_snd]
    by_cases kept : (first manager).1.cast.InUse
    · obtain ⟨health, member, dead⟩ := after.tells kept lost
      exact ⟨health, List.mem_append_right _ member, dead⟩
    · obtain ⟨health, member, dead⟩ := before.tells used kept
      exact ⟨health, List.mem_append_left _ member, dead⟩
  rests rests := by
    rw [andThen_fst]
    exact after.rests (before.rests rests)

theorem forEach {α : Type} {step : α → Step ConnectionManager (Output μ κ)}
    (each : ∀ item manager, Reports manager (step item manager)) (items : List α)
    (manager : ConnectionManager) : Reports manager (forEach step items manager) := by
  induction items generalizing manager with
  | nil => exact refl manager
  | cons item rest ih => exact (each item manager).andThen (ih _)

theorem emit (manager : ConnectionManager) :
    Reports manager (ConnectionManager.emit manager : _ × List (Output μ κ)) :=
  of_roles rfl rfl rfl

/-- The last report says what is left. -/
theorem of_last {result : ConnectionManager × List (Output μ κ)}
    (last : Output.health result.1.stats ∈ result.2) (rests : manager.Rests → result.1.Rests) :
    Reports manager result where
  tells _ lost := by
    refine ⟨result.1.stats, last, ?_⟩
    rw [← Bool.not_eq_true, stats_alive]
    exact lost
  rests := rests

end Reports

/-! ## Parts of steps -/

theorem retireAll_rests (reading : Reading) (manager : ConnectionManager) :
    (retireAll reading (fun _ => true) manager : _ × List (Output μ κ)).1.cast.Rests := by
  rw [cast_retireAll]
  exact manager.cast.rests_bury_all

theorem scheduleRetry_frame {α : Type} (part : ConnectionManager → α)
    (frame : ∀ (manager : ConnectionManager) timers nextTimer retryTimer terminal deferred,
      part { manager with timers, nextTimer, retryTimer, terminal, deferred } = part manager)
    (reading : Reading) (manager : ConnectionManager) :
    part (scheduleRetry reading manager : _ × List (Output μ κ)).1 = part manager := by
  unfold scheduleRetry
  split_ifs
  · rfl
  · exact frame manager _ _ _ _ _
  · exact frame manager _ _ _ _ _
  · exact frame manager _ _ _ _ _

theorem scheduleRetry_reports (reading : Reading) (manager : ConnectionManager) :
    Reports manager (scheduleRetry reading manager : _ × List (Output μ κ)) := by
  have same : (scheduleRetry reading manager : _ × List (Output μ κ)).1.cast = manager.cast :=
    cast_scheduleRetry reading manager
  refine .of_roles (congrArg Cast.role same) (congrArg Cast.activeId same) ?_
  exact scheduleRetry_frame suspended (fun _ _ _ _ _ _ => rfl) reading manager

theorem stats_mem_emit (running : manager.destroyed = false) :
    Output.health manager.stats ∈ (emit manager : _ × List (Output μ κ)).2 := by
  simp [emit, running]

/-- A connection is given up, and the rest follows. -/
theorem die_reports (reading : Reading) (id code : Nat) (manager : ConnectionManager) :
    Reports manager (die reading id code manager : _ × List (Output μ κ)) := by
  unfold die
  split
  · exact .refl manager
  · split
    · exact .refl manager
    · rename_i idle
      have running : manager.destroyed = false := by
        rw [Bool.or_eq_true, not_or] at idle
        exact Bool.eq_false_iff.mpr idle.1
      dsimp only
      generalize drop : (if manager.activeId = some id then { manager with activeId := none }
        else manager) = dropped
      have roles : dropped.cast.role = manager.cast.role := by
        rw [← drop]
        split
        · rfl
        · rfl
      have left : dropped.suspended = manager.suspended := by
        rw [← drop]
        split
        · rfl
        · rfl
      have runs : dropped.destroyed = false := by
        rw [← drop]
        split
        · exact running
        · exact running
      generalize retired : (retire reading id dropped : _ × List (Output μ κ)) = gone
      have cast : gone.1.cast = dropped.cast.bury (· == id) := by
        rw [← retired]
        exact cast_retire reading id dropped
      have kept {α : Type} (part : ConnectionManager → α)
          (frame : ∀ (manager : ConnectionManager) timers connections,
            part { manager with timers, connections } = part manager) :
          part gone.1 = part dropped := by
        rw [← retired]
        exact retire_frame part frame reading id dropped
      have goneRests (rests : manager.Rests) : gone.1.Rests := by
        intro suspends
        rw [kept suspended fun _ _ _ => rfl, left] at suspends
        rw [cast]
        apply Cast.Rests.bury
        intro other state role
        rw [roles] at role
        exact rests suspends other state role
      rw [andThen_apply, retired]
      refine .of_last (List.mem_append_right _ ?_) ?_
      · rw [andThen_snd, andThen_fst]
        refine List.mem_append_right _ (stats_mem_emit ?_)
        split
        · rw [retireAll_frame destroyed fun _ _ _ => rfl,
            cancelRetry_frame destroyed fun _ _ _ => rfl]
          exact (kept destroyed fun _ _ _ => rfl).trans runs
        · split
          · exact (kept destroyed fun _ _ _ => rfl).trans runs
          · rw [scheduleRetry_frame destroyed fun _ _ _ _ _ _ => rfl]
            exact (kept destroyed fun _ _ _ => rfl).trans runs
      · intro rests
        rw [andThen_fst]
        split
        · intro _
          exact retireAll_rests reading _
        · split
          · exact goneRests rests
          · have reports : Reports gone.1 (scheduleRetry reading gone.1 : _ × List (Output μ κ)) :=
              scheduleRetry_reports reading gone.1
            exact reports.rests (goneRests rests)

theorem ping_reports (reading : Reading) (id : Nat) (manager : ConnectionManager) :
    Reports manager (ping reading id manager : _ × List (Output μ κ)) := by
  unfold ping
  have same : (manager.addPing reading id).cast.role = manager.cast.role := by
    rw [cast_addPing]
  split
  · exact .refl manager
  · split_ifs
    · exact .refl manager
    · exact .refl manager
    · exact .of_roles same rfl rfl
    · exact .from_roles (manager.addPing reading id) same rfl rfl (die_reports reading id 1006 _)

/-- A socket is opened only while no connection is alive and the page is shown. -/
theorem connect_reports (reading : Reading) (manager : ConnectionManager) :
    Reports manager (connect reading manager : _ × List (Output μ κ)) := by
  have attempted : manager.attempt.cast = manager.cast := cast_attempt manager
  have left : manager.attempt.suspended = manager.suspended :=
    cancelRetry_frame suspended (fun _ _ _ => rfl) manager
  unfold connect
  split_ifs with idle hidden opening alive exhausted failed
  · exact .refl manager
  · exact .of_roles rfl rfl rfl
  · exact .refl manager
  · exact .refl manager
  · exact .of_roles rfl rfl rfl
  · exact .from_roles manager.attempt (congrArg Cast.role attempted)
      (congrArg Cast.activeId attempted) left (scheduleRetry_reports reading _)
  · constructor
    · rintro ⟨id, _, role⟩
      obtain ⟨connection, known, state⟩ := Option.map_eq_some_iff.mp role
      apply (alive _).elim
      rw [hasConnection, OrderedMap.anyValue_eq_true_iff]
      exact ⟨id, connection, known, by simp [state]⟩
    · intro _ suspends
      have shown : manager.suspended = false := by
        simp only [Bool.or_eq_true, not_or, Bool.not_eq_true] at idle
        exact idle.2
      rw [andThen_fst] at suspends
      have same :
          (manager.attempt.addConnection reading).suspended = manager.attempt.suspended := rfl
      change (manager.attempt.addConnection reading).suspended = true at suspends
      rw [same, left, shown] at suspends
      cases suspends

theorem markStale_reports (reading : Reading) (id : Nat) (manager : ConnectionManager) :
    Reports manager (markStale reading id manager : _ × List (Output μ κ)) := by
  unfold markStale
  cases known : manager.connections[id]? with
  | none => exact .refl manager
  | some connection =>
      dsimp only
      split
      · exact .refl manager
      · rename_i settled
        simp only [Bool.or_eq_true, beq_iff_eq, not_or, Bool.not_eq_true] at settled
        have faded : Reports manager
            (emit (manager.addGrace reading id) : _ × List (Output μ κ)) := by
          refine .of_last (stats_mem_emit settled.1.1) ?_
          intro rests suspends
          have role : manager.cast.role id = some connection.state := by simp [cast, known]
          exact absurd (rests suspends id _ role) settled.1.2
        change Reports manager (andThen (fun manager => emit (manager.addGrace reading id))
          (connect reading) manager)
        exact .andThen faded (connect_reports reading _)

theorem check_reports (reading : Reading) (manager : ConnectionManager) :
    Reports manager (check reading manager : _ × List (Output μ κ)) := by
  unfold check
  split
  · exact .refl manager
  · refine .andThen (.forEach (fun id => ping_reports reading id) _ manager) (.andThen ?_ (.emit _))
    split
    · exact connect_reports reading _
    · exact .refl _

theorem socketOpened_reports (reading : Reading) (id : Nat) (manager : ConnectionManager) :
    Reports manager (socketOpened reading id manager : _ × List (Output μ κ)) := by
  unfold socketOpened
  split
  · exact .refl manager
  · split
    · exact .refl manager
    · have keeps : ∀ connection : Connection, ({ connection with
          deadline := some (reading.now + ConnectionPolicy.pongMs) } : Connection).state =
            connection.state := fun _ => rfl
      exact .from_roles _ (congrArg Cast.role (cast_modify keeps manager id)) rfl rfl
        (.andThen (ping_reports reading id _) (.emit _))

/-- An answer to a heartbeat ends no use. -/
theorem pongReceived_inUse (reading : Reading) {id : Nat} (nonce clientTsMs : Nat)
    {connection : Connection} (known : manager.connections[id]? = some connection)
    (used : manager.cast.InUse) :
    (pongReceived reading id nonce clientTsMs manager : _ × List (Output μ κ)).1.cast.InUse := by
  obtain ⟨current, active, alive⟩ := used
  unfold pongReceived
  rw [known]
  dsimp only
  split
  · exact ⟨current, active, alive⟩
  · rename_i ping pending
    split
    · exact ⟨current, active, alive⟩
    · have assigned : (manager.addPong reading id nonce ping).cast =
          manager.cast.assign id .alive := cast_addPong reading id nonce ping known
      generalize manager.addPong reading id nonce ping = answered at assigned ⊢
      have same : answered.activeId = manager.activeId := congrArg Cast.activeId assigned
      have stays : answered.cast.role current = some .alive := by
        rw [assigned]
        unfold Cast.assign
        dsimp only
        split
        · rfl
        · exact alive
      have used : answered.activeId = some current := same.trans active
      split
      · split
        · rename_i healthy
          rw [cast_retire]
          refine ⟨current, used, ?_⟩
          rw [used, Option.any_some, Bool.and_eq_true, bne_iff_ne] at healthy
          rw [Cast.role_bury _ _ _ (by decide)]
          exact ⟨stays, beq_false_of_ne healthy.1⟩
        · rw [andThen_fst, andThen_fst]
          change (retireAll reading (· != id) _ : _ × List (Output μ κ)).1.cast.InUse
          rw [cast_retireAll]
          refine ⟨id, rfl, ?_⟩
          rw [Cast.role_bury _ _ _ (by decide)]
          refine ⟨?_, by simp⟩
          change answered.cast.role id = some .alive
          rw [assigned]
          simp [Cast.assign]
      · exact ⟨current, used, stays⟩

theorem pongReceived_suspended (reading : Reading) (id nonce clientTsMs : Nat)
    (manager : ConnectionManager) :
    (pongReceived reading id nonce clientTsMs manager : _ × List (Output μ κ)).1.suspended =
      manager.suspended := by
  unfold pongReceived
  split
  · rfl
  · dsimp only
    split
    · rfl
    · rename_i ping pending
      split
      · rfl
      · have same : (manager.addPong reading id nonce ping).suspended = manager.suspended := by
          unfold addPong
          exact cancelRetry_frame suspended (fun _ _ _ => rfl) _
        generalize manager.addPong reading id nonce ping = answered at same ⊢
        split
        · split
          · exact (retire_frame suspended (fun _ _ _ => rfl) reading id answered).trans same
          · exact (retireAll_frame suspended (fun _ _ _ => rfl) reading _ _).trans same
        · exact same

/-- An answer to a heartbeat ends no use, and none arrives on a dead connection. -/
theorem pongReceived_reports (reading : Reading) (id nonce clientTsMs : Nat)
    (manager : ConnectionManager) (accepts : manager.acceptsPong id nonce clientTsMs = true) :
    Reports manager (pongReceived reading id nonce clientTsMs manager : _ × List (Output μ κ)) := by
  obtain ⟨_, listened⟩ := (Bool.and_eq_true _ _).mp accepts
  obtain ⟨connection, known, live⟩ := (Option.any_eq_true _ _).mp listened
  rw [Bool.and_eq_true] at live
  have role : manager.cast.role id = some connection.state := by simp [cast, known]
  constructor
  · exact fun used lost => absurd (pongReceived_inUse reading nonce clientTsMs known used) lost
  · intro rests suspends
    have shown : manager.suspended = false := by
      by_contra left
      have dead := rests (Bool.not_eq_false _ ▸ left) id _ role
      simp [Connection.isLive, dead] at live
    rw [pongReceived_suspended, shown] at suspends
    cases suspends

theorem receive_reports (reading : Reading) (id : Nat) (data : ServerData μ)
    (manager : ConnectionManager) :
    Reports manager (receive reading id data manager : _ × List (Output μ κ)) := by
  unfold receive
  split
  · exact .refl manager
  · split
    · exact .refl manager
    · cases data with
      | malformed => exact die_reports reading id 4002 manager
      | pong nonce clientTsMs =>
          dsimp only
          split
          · rename_i accepts
            exact .andThen (pongReceived_reports reading id nonce clientTsMs manager accepts)
              (.emit _)
          · exact .refl manager
      | message message =>
          dsimp only
          split
          · exact .of_roles rfl rfl rfl
          · exact .refl manager

theorem send_reports (reading : Reading) (message : κ) (manager : ConnectionManager) :
    Reports manager (send reading message manager : (_ × List (Output μ κ)) × SendResult).1 := by
  unfold send
  split
  · exact .refl manager
  · split
    · exact .refl manager
    · split_ifs
      · exact .refl manager
      · exact .of_roles rfl rfl rfl
      · exact die_reports reading _ 1006 manager

/-! ## Starting over -/

theorem tells_emit (running : manager.destroyed = false) (unused : manager.activeId = none) :
    Tells (emit manager : _ × List (Output μ κ)).2 := by
  refine ⟨manager.stats, stats_mem_emit running, ?_⟩
  rw [← Bool.not_eq_true, stats_alive]
  rintro ⟨id, active, _⟩
  have active : manager.activeId = some id := active
  rw [unused] at active
  cases active

theorem hasConnection_of_rests (rests : manager.cast.Rests) {state : ConnectionState}
    (live : state ≠ .dead) : manager.hasConnection (·.state == state) = false := by
  rw [← Bool.not_eq_true, hasConnection, OrderedMap.anyValue_eq_true_iff]
  rintro ⟨id, connection, known, same⟩
  have dead := rests id connection.state (by simp [cast, known])
  rw [dead] at same
  exact live (beq_iff_eq.mp same).symm

theorem countLive_of_rests (rests : manager.cast.Rests) :
    OrderedMap.countValues manager.connections (·.isLive) = 0 := by
  rw [OrderedMap.countValues_eq_zero_iff]
  intro id connection known live
  have dead := rests id connection.state (by simp [cast, known])
  simp [Connection.isLive, dead] at live

/-- With no connection left, looking for one reports. -/
theorem connect_tells (reading : Reading) (running : manager.destroyed = false)
    (ongoing : manager.terminal = false) (shown : manager.suspended = false)
    (fresh : manager.attempts = 0) (unused : manager.activeId = none)
    (rests : manager.cast.Rests) : Tells (connect reading manager : _ × List (Output μ κ)).2 := by
  have kept {α : Type} (part : ConnectionManager → α)
      (frame : ∀ (manager : ConnectionManager) timers retryTimer deferred attempts,
        part { manager with timers, retryTimer, deferred, attempts } = part manager) :
      part manager.attempt = part manager := by
    unfold attempt
    rw [frame manager.cancelRetry manager.cancelRetry.timers manager.cancelRetry.retryTimer]
    exact cancelRetry_frame part
      (fun manager timers retry =>
        frame manager timers retry manager.deferred manager.attempts) manager
  have runs : manager.attempt.destroyed = false :=
    (kept destroyed fun _ _ _ _ _ => rfl).trans running
  have free : manager.attempt.activeId = none := (kept activeId fun _ _ _ _ _ => rfl).trans unused
  unfold connect
  rw [hasConnection_of_rests rests (by decide), hasConnection_of_rests rests (by decide),
    countLive_of_rests rests, running, ongoing, shown, fresh]
  simp only [Bool.or_self, Bool.false_eq_true, ↓reduceIte, ConnectionPolicy.poolSize,
    ConnectionPolicy.maxAttempts, Nat.le_zero_eq, OfNat.ofNat_ne_zero, decide_false]
  split_ifs
  · exact tells_emit rfl unused
  · have last : manager.attempt.attempts = 1 := by
      change manager.attempts + 1 = 1
      rw [fresh]
    have unplanned : manager.attempt.retryTimer = none := rfl
    have continues : manager.attempt.terminal = false :=
      (kept terminal fun _ _ _ _ _ => rfl).trans ongoing
    have visible : manager.attempt.suspended = false :=
      (kept suspended fun _ _ _ _ _ => rfl).trans shown
    unfold scheduleRetry
    rw [runs, visible, continues, unplanned, last]
    simp only [Bool.or_self, Bool.false_eq_true, ↓reduceIte, Option.isSome_none,
      ConnectionPolicy.maxAttempts, Nat.reduceLeDiff]
    split
    · exact tells_emit rfl free
    · exact tells_emit runs free
  · obtain ⟨health, member, dead⟩ : Tells
        (emit (manager.attempt.addConnection reading) : _ × List (Output μ κ)).2 :=
      tells_emit runs free
    exact ⟨health, List.mem_append_right _ member, dead⟩

theorem retry_reports (reading : Reading) (shown : manager.Rests) :
    Reports manager (retry reading manager : _ × List (Output μ κ)) := by
  unfold retry
  split
  · exact .refl manager
  · rename_i running
    generalize began : ({ manager.cancelRetry with
      terminal := false, attempts := 0, activeId := none } : ConnectionManager) = start
    have kept {α : Type} (part : ConnectionManager → α)
        (frame : ∀ (manager : ConnectionManager) timers connections,
          part { manager with timers, connections } = part manager) :
        part (retireAll reading (fun _ => true) start : _ × List (Output μ κ)).1 = part start :=
      retireAll_frame part frame reading _ start
    have suspends : start.suspended = manager.suspended := by
      rw [← began]
      exact cancelRetry_frame suspended (fun _ _ _ => rfl) manager
    have runs : start.destroyed = false := by
      rw [← began]
      exact (cancelRetry_frame destroyed (fun _ _ _ => rfl) manager).trans
        (Bool.eq_false_iff.mpr running)
    have rests : (retireAll reading (fun _ => true) start : _ × List (Output μ κ)).1.cast.Rests :=
      retireAll_rests reading start
    constructor
    · rintro ⟨id, active, alive⟩ _
      have visible : manager.suspended = false := by
        by_contra left
        cases shown (Bool.not_eq_false _ ▸ left) id _ alive
      rw [andThen_snd]
      obtain ⟨health, member, dead⟩ : Tells (connect reading
          (retireAll reading (fun _ => true) start : _ × List (Output μ κ)).1 :
            _ × List (Output μ κ)).2 := connect_tells reading
        ((kept destroyed fun _ _ _ => rfl).trans runs)
        ((kept terminal fun _ _ _ => rfl).trans (by rw [← began]))
        ((kept suspended fun _ _ _ => rfl).trans (suspends.trans visible))
        ((kept attempts fun _ _ _ => rfl).trans (by rw [← began]))
        ((kept activeId fun _ _ _ => rfl).trans (by rw [← began])) rests
      exact ⟨health, List.mem_append_right _ member, dead⟩
    · intro _
      rw [andThen_fst]
      have reports : Reports (retireAll reading (fun _ => true) start : _ × List (Output μ κ)).1
          (connect reading _ : _ × List (Output μ κ)) := connect_reports reading _
      exact reports.rests fun _ => rests

/-! ## Other steps -/

theorem visibilityChanged_reports (reading : Reading) (manager : ConnectionManager) :
    Reports manager (visibilityChanged reading manager : _ × List (Output μ κ)) := by
  unfold visibilityChanged
  split_ifs
  · exact .refl manager
  · refine .andThen ?_ (.andThen (check_reports reading _) (.emit _))
    split
    · exact .from_roles { manager with deferred := false } rfl rfl rfl (connect_reports reading _)
    · exact .refl manager
  · exact .emit manager

theorem networkChanged_reports (reading : Reading) (offline : Bool) (manager : ConnectionManager) :
    Reports manager (networkChanged reading offline manager : _ × List (Output μ κ)) := by
  unfold networkChanged
  refine .from_roles { manager with offline } rfl rfl rfl (.andThen ?_ (.emit _))
  split
  · exact .refl _
  · exact check_reports reading _

theorem resume_reports (reading : Reading) (gapMs : Option Nat) (manager : ConnectionManager) :
    Reports manager (resume reading gapMs manager : _ × List (Output μ κ)) := by
  unfold resume
  split
  · exact .refl manager
  · refine .from_roles { manager with frozen := false } rfl rfl rfl
      (.andThen ?_ (check_reports reading _))
    split
    · refine .andThen ?_ (connect_reports reading _)
      split
      · exact markStale_reports reading _ _
      · exact .refl _
    · exact .refl _

/-- Leaving the page gives everything up and reports. -/
theorem pageHide_reports (reading : Reading) (manager : ConnectionManager) :
    Reports manager (pageHide reading manager : _ × List (Output μ κ)) := by
  unfold pageHide
  split
  · exact .refl manager
  · rename_i running
    refine .of_last (List.mem_append_right _ (stats_mem_emit ?_)) ?_
    · refine (retireAll_frame destroyed (fun _ _ _ => rfl) reading _ _).trans ?_
      rw [cancelRetry_frame destroyed fun _ _ _ => rfl]
      exact Bool.eq_false_iff.mpr running
    · intro _ _
      exact retireAll_rests reading _

theorem pageShow_reports (reading : Reading) (manager : ConnectionManager) :
    Reports manager (pageShow reading manager : _ × List (Output μ κ)) := by
  unfold pageShow
  split
  · exact .refl manager
  · dsimp only
    split
    · constructor
      · intro used lost
        exact absurd used lost
      · intro _ suspends
        cases suspends
    · constructor
      · exact (connect_reports reading { manager with
          suspended := false, frozen := false, lastTick := reading.now }).tells
      · intro _
        apply (connect_reports reading { manager with
          suspended := false, frozen := false, lastTick := reading.now } :
            Reports _ (_ : _ × List (Output μ κ))).rests
        intro suspends
        cases suspends

/-! ## Timers -/

/-- Only dead connections are forgotten. -/
theorem forgetOld_reports (reading : Reading) {id : Nat} {connection : Connection}
    (known : manager.connections[id]? = some connection) :
    Reports manager ((manager.forgetOld reading id connection, []) : _ × List (Output μ κ)) := by
  unfold forgetOld
  split
  · rename_i old
    rw [Bool.and_eq_true] at old
    have dead : connection.state = .dead := by simpa [Connection.isLive] using old.1
    have roles : ∀ other,
        ({ manager with connections := manager.connections.erase id } :
          ConnectionManager).cast.role other =
          if other = id then none else manager.cast.role other := by
      intro other
      simp only [cast, TreeMap.getElem?_erase]
      by_cases same : id = other
      · simp [same]
      · simp [same, Ne.symm same]
    constructor
    · rintro ⟨current, active, alive⟩ lost
      apply (lost ⟨current, active, ?_⟩).elim
      rw [roles, if_neg]
      · exact alive
      · rintro rfl
        simp [cast, known, dead] at alive
    · intro rests suspends other state role
      rw [roles] at role
      split at role
      · cases role
      · exact rests suspends other state role
  · exact .refl manager

theorem sweep_reports (reading : Reading) (id : Nat) (manager : ConnectionManager) :
    Reports manager (sweep reading id manager : _ × List (Output μ κ)) := by
  unfold sweep
  split
  · exact .refl manager
  · rename_i connection known
    have forgotten : Reports manager
        ((manager.forgetOld reading id connection, []) : _ × List (Output μ κ)) :=
      forgetOld_reports reading known
    split
    · have pinged : Reports (manager.forgetOld reading id connection)
          (ping reading id (manager.forgetOld reading id connection) : _ × List (Output μ κ)) :=
        ping_reports reading id _
      constructor
      · intro used lost
        by_cases kept : (manager.forgetOld reading id connection).cast.InUse
        · exact pinged.tells kept lost
        · obtain ⟨health, member, _⟩ := forgotten.tells used kept
          cases member
      · exact fun rests => pinged.rests (forgotten.rests rests)
    · exact forgotten

theorem tick_reports (reading : Reading) (manager : ConnectionManager) :
    Reports manager (tick reading manager : _ × List (Output μ κ)) := by
  unfold tick
  split
  · exact .refl manager
  · refine .from_roles { manager with lastTick := reading.now } rfl rfl rfl
      (.andThen ?_ (.andThen (.forEach (fun id => sweep_reports reading id) _ _)
        (.andThen (.emit _) (.of_roles rfl rfl rfl))))
    split
    · exact resume_reports reading _ _
    · exact .refl _

theorem start_reports (reading : Reading) (manager : ConnectionManager) :
    Reports manager (start reading manager : _ × List (Output μ κ)) := by
  unfold start
  split
  · exact .refl manager
  · exact .andThen (tick_reports reading manager) (connect_reports reading _)

theorem connectionTimer_reports {timer id : Nat}
    {callback : Connection → Step ConnectionManager (Output μ κ)}
    (each : ∀ connection manager, Reports manager (callback connection manager))
    (manager : ConnectionManager) :
    Reports manager (connectionTimer timer id callback manager) := by
  have keeps : ∀ connection : Connection,
      (connection.dropTimer timer).state = connection.state := fun _ => rfl
  have same := congrArg Cast.role (cast_modify keeps manager id)
  unfold connectionTimer
  split
  · exact .refl manager
  · dsimp only
    split
    · exact .of_roles same rfl rfl
    · exact .from_roles _ same rfl rfl (each _ _)

theorem run_reports (reading : Reading) (timer : Nat) (callback : Callback)
    (manager : ConnectionManager) :
    Reports manager (run reading timer callback manager : _ × List (Output μ κ)) := by
  cases callback with
  | connectTimeout id =>
      refine connectionTimer_reports (fun connection manager => ?_) manager
      unfold connectTimeout
      split
      · exact die_reports reading id 1006 manager
      · exact .refl manager
  | pingTimeout id nonce =>
      refine connectionTimer_reports (fun connection manager => ?_) manager
      have keeps : ∀ connection : Connection,
          (connection.pingExpired nonce).state = connection.state := fun _ => rfl
      have same := congrArg Cast.role (cast_modify keeps manager id)
      unfold pingTimeout
      split_ifs
      · exact .refl manager
      · exact .from_roles _ same rfl rfl (die_reports reading id 1006 _)
      · exact .from_roles _ same rfl rfl (markStale_reports reading id _)
  | graceTimeout id deadline =>
      refine connectionTimer_reports (fun connection manager => ?_) manager
      unfold graceTimeout
      split
      · exact die_reports reading id 1006 manager
      · exact .refl manager
  | retry =>
      exact .from_roles { manager with retryTimer := none } rfl rfl rfl (connect_reports reading _)
  | tick => exact tick_reports reading manager

theorem expire_reports (reading : Reading) (timer : Nat) (manager : ConnectionManager) :
    Reports manager (expire reading timer manager : _ × List (Output μ κ)) := by
  unfold expire
  split
  · exact .refl manager
  · exact .from_roles (manager.cancel timer) rfl rfl rfl (run_reports reading timer _ _)

/-- Every step but the end reports a connection in use that is lost. -/
theorem step_reports (reading : Reading) {input : Input μ κ} (runs : input ≠ .destroy)
    (shown : manager.Rests) : Reports manager (step reading input manager) := by
  have sockets : ∀ (id : Nat) (change : Socket → Socket),
      (manager.modifySocket id change).cast = manager.cast := by
    intro id change
    have keeps : ∀ connection : Connection,
        ({ connection with socket := change connection.socket } : Connection).state =
          connection.state := fun _ => rfl
    exact cast_modify keeps manager id
  cases input with
  | start => exact start_reports reading manager
  | advance id readyState => exact .of_roles (congrArg Cast.role (sockets id _)) rfl rfl
  | opened id =>
      exact .from_roles _ (congrArg Cast.role (sockets id _)) rfl rfl
        (socketOpened_reports reading id _)
  | received id data => exact receive_reports reading id data manager
  | closed id code =>
      exact .from_roles _ (congrArg Cast.role (sockets id _)) rfl rfl
        (die_reports reading id code _)
  | error id => exact die_reports reading id 1006 manager
  | expired timer => exact expire_reports reading timer manager
  | send message => exact send_reports reading message manager
  | retry => exact retry_reports reading shown
  | visibilityChanged => exact visibilityChanged_reports reading manager
  | networkChanged offline => exact networkChanged_reports reading offline manager
  | freeze => exact .of_roles rfl rfl rfl
  | resume gapMs => exact resume_reports reading gapMs manager
  | pageHide => exact pageHide_reports reading manager
  | pageShow => exact pageShow_reports reading manager
  | destroy => exact absurd rfl runs

end ConnectionManager

end MqttController.Frontend
