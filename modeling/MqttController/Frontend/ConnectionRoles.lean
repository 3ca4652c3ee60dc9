import Mathlib.Logic.Relation
import MqttController.Frontend.Connection

/-!
# Roles of connections

Whatever happens to the manager moves the roles of its connections by a few kinds of moves.  From
them follows that one connection is in use at most, and one is being opened at most.
-/

namespace MqttController.Frontend

open Std Emission Relation

/-- The roles of the connections, the one in use, and where fresh numbers begin. -/
@[ext]
structure Cast where
  role : Nat → Option ConnectionState
  activeId : Option Nat
  nextNonce : Nat

namespace Cast

/-- Give up the selected connections. -/
def bury (cast : Cast) (selects : Nat → Bool) : Cast :=
  { cast with
    role := fun id => bif selects id then (cast.role id).map fun _ => .dead else cast.role id }

/-- Give a connection a role. -/
def assign (cast : Cast) (id : Nat) (state : ConnectionState) : Cast :=
  { cast with role := fun other => if other = id then some state else cast.role other }

/-- One move of the roles. -/
inductive Move : Cast → Cast → Prop
  /-- A nonce is used up. -/
  | spend (cast : Cast) : Move cast { cast with nextNonce := cast.nextNonce + 1 }
  /-- A connection is lost. -/
  | lose (cast : Cast) (id : Nat) : Move cast { cast.bury (· == id) with
      activeId := if cast.activeId = some id then none else cast.activeId }
  /-- Every connection is given up. -/
  | abandon (cast : Cast) : Move cast { cast.bury fun _ => true with activeId := none }
  /-- A dead connection is forgotten. -/
  | forget (cast : Cast) (id : Nat) (dead : cast.role id = some .dead) :
      Move cast { cast with role := fun other => if other = id then none else cast.role other }
  /-- All connections are forgotten. -/
  | clear (cast : Cast) : Move cast { cast with role := fun _ => none, activeId := none }
  /-- A connection is opened. -/
  | join (cast : Cast) (opening : ∀ id, cast.role id ≠ some .new)
      (healthy : ∀ id, cast.role id ≠ some .alive) : Move cast
        { cast.assign cast.nextNonce .new with nextNonce := cast.nextNonce + 1 }
  /-- A connection that is alive or in use turns stale. -/
  | fade (cast : Cast) (id : Nat) (known : cast.role id ≠ none)
      (was : cast.role id = some .alive ∨ cast.activeId = some id) :
      Move cast (cast.assign id .stale)
  /-- A connection is taken into use, and no other stays. -/
  | take (cast : Cast) (id : Nat) (known : cast.role id ≠ none) :
      Move cast { (cast.bury (· != id)).assign id .alive with activeId := some id }

/-- What the moves preserve. -/
structure Sound (cast : Cast) : Prop where
  /-- What is alive or stale is the connection in use. -/
  held : ∀ id, cast.role id = some .alive ∨ cast.role id = some .stale → cast.activeId = some id
  /-- The connection in use has been alive. -/
  settled : ∀ id, cast.activeId = some id → cast.role id ≠ some .new
  new_unique : ∀ first second, cast.role first = some .new → cast.role second = some .new →
    first = second
  /-- Nothing is opened beside a connection that is alive. -/
  alone : ∀ id, cast.role id = some .alive → ∀ other, cast.role other ≠ some .new
  fresh : ∀ id, cast.nextNonce ≤ id → cast.role id = none
  active_known : ∀ id, cast.activeId = some id → id < cast.nextNonce

theorem role_bury (cast : Cast) (selects : Nat → Bool) (id : Nat) {state : ConnectionState}
    (live : state ≠ .dead) :
    (cast.bury selects).role id = some state ↔ cast.role id = some state ∧ selects id = false := by
  unfold bury
  dsimp only
  cases selected : selects id with
  | true => simp [Ne.symm live]
  | false => simp

theorem Sound.bury {cast : Cast} (sound : cast.Sound) (selects : Nat → Bool) :
    (cast.bury selects).Sound where
  held id role := by
    refine sound.held id (role.imp ?_ ?_)
    · exact fun role => ((cast.role_bury selects id (by decide)).mp role).1
    · exact fun role => ((cast.role_bury selects id (by decide)).mp role).1
  settled id active role :=
    sound.settled id active ((cast.role_bury selects id (by decide)).mp role).1
  new_unique first second here there :=
    sound.new_unique first second ((cast.role_bury selects first (by decide)).mp here).1
      ((cast.role_bury selects second (by decide)).mp there).1
  alone id alive other new :=
    sound.alone id ((cast.role_bury selects id (by decide)).mp alive).1 other
      ((cast.role_bury selects other (by decide)).mp new).1
  fresh id bound := by
    have unknown := sound.fresh id bound
    unfold Cast.bury
    dsimp only
    rw [unknown]
    cases selects id <;> rfl
  active_known := sound.active_known

section Moves

variable {cast : Cast}

/-- The connection in use may be the one that is lost. -/
theorem Sound.lose (sound : cast.Sound) (id : Nat) :
    ({ cast.bury (· == id) with
      activeId := if cast.activeId = some id then none else cast.activeId } : Cast).Sound := by
  have buried := sound.bury (· == id)
  refine { buried with
    held := fun other role => ?_
    settled := fun other active => ?_
    active_known := fun other active => ?_ }
  · have active := buried.held other role
    have apart : other ≠ id := by
      rintro rfl
      rcases role with role | role
      · simpa using ((cast.role_bury (· == other) other (by decide)).mp role).2
      · simpa using ((cast.role_bury (· == other) other (by decide)).mp role).2
    have active : cast.activeId = some other := active
    rw [active, if_neg fun same => apart (Option.some.inj same)]
  · dsimp only at active
    split at active
    · cases active
    · exact buried.settled other active
  · dsimp only at active
    split at active
    · cases active
    · exact sound.active_known other active

theorem Sound.abandon (sound : cast.Sound) :
    ({ cast.bury fun _ => true with activeId := none } : Cast).Sound := by
  have buried := sound.bury fun _ => true
  refine { buried with held := ?_, settled := ?_, active_known := ?_ }
  · intro id role
    rcases role with role | role
    · simpa using ((cast.role_bury (fun _ => true) id (by decide)).mp role).2
    · simpa using ((cast.role_bury (fun _ => true) id (by decide)).mp role).2
  · intro id active
    cases active
  · intro id active
    cases active

theorem Sound.forget (sound : cast.Sound) (id : Nat) :
    ({ cast with
      role := fun other => if other = id then none else cast.role other } : Cast).Sound := by
  have kept : ∀ other state,
      (if other = id then none else cast.role other) = some state →
        cast.role other = some state := by
    intro other state role
    split at role
    · cases role
    · exact role
  exact {
    held := fun other role => sound.held other (role.imp (kept other _) (kept other _))
    settled := fun other active role => sound.settled other active (kept other _ role)
    new_unique := fun first second here there =>
      sound.new_unique first second (kept first _ here) (kept second _ there)
    alone := fun other alive third new => sound.alone other (kept other _ alive) third
      (kept third _ new)
    fresh := fun other bound => by
      dsimp only
      rw [sound.fresh other bound]
      split <;> rfl
    active_known := sound.active_known }

/-- A connection is opened when no other is new or alive. -/
theorem Sound.join (sound : cast.Sound) (opening : ∀ id, cast.role id ≠ some .new)
    (healthy : ∀ id, cast.role id ≠ some .alive) :
    ({ cast.assign cast.nextNonce .new with nextNonce := cast.nextNonce + 1 } : Cast).Sound := by
  refine {
    held := fun id role => ?_
    settled := fun id active => ?_
    new_unique := fun first second here there => ?_
    alone := fun id alive => ?_
    fresh := fun id bound => ?_
    active_known := fun id active => Nat.lt_succ_of_lt (sound.active_known id active) }
  · have older : ∀ state, state ≠ .new → (cast.assign cast.nextNonce .new).role id = some state →
        cast.role id = some state := by
      intro state other role
      simp only [assign] at role
      split at role
      · exact absurd (Option.some.inj role).symm other
      · exact role
    exact sound.held id (role.imp (older _ (by decide)) (older _ (by decide)))
  · have known := sound.active_known id active
    simp only [assign, if_neg known.ne]
    exact sound.settled id active
  · simp only [assign] at here there
    split at here
    · split at there
      · omega
      · exact absurd there (opening second)
    · exact absurd here (opening first)
  · simp only [assign] at alive
    split at alive
    · cases alive
    · exact absurd alive (healthy id)
  · simp only [assign] at bound ⊢
    rw [if_neg (by omega)]
    exact sound.fresh id (by omega)

/-- What turns stale is the connection in use. -/
theorem Sound.fade (sound : cast.Sound) {id : Nat} (known : cast.role id ≠ none)
    (was : cast.role id = some .alive ∨ cast.activeId = some id) :
    (cast.assign id .stale).Sound := by
  have active : cast.activeId = some id := by
    rcases was with alive | active
    · exact sound.held id (.inl alive)
    · exact active
  refine {
    held := fun other role => ?_
    settled := fun other used => ?_
    new_unique := fun first second here there => ?_
    alone := fun other alive third new => ?_
    fresh := fun other bound => ?_
    active_known := sound.active_known }
  · by_cases same : other = id
    · rw [same]
      exact active
    · simp only [assign, if_neg same] at role
      exact sound.held other role
  · cases active.symm.trans used
    simp [assign]
  · simp only [assign] at here there
    split at here
    · cases here
    · split at there
      · cases there
      · exact sound.new_unique first second here there
  · simp only [assign] at alive new
    split at alive
    · cases alive
    · split at new
      · cases new
      · exact sound.alone other alive third new
  · have different : other ≠ id := by
      rintro rfl
      exact known (sound.fresh other bound)
    simp only [assign, if_neg different]
    exact sound.fresh other bound

/-- The connection that is taken into use is the only one that is not dead. -/
theorem Sound.take (sound : cast.Sound) {id : Nat} (known : cast.role id ≠ none) :
    ({ (cast.bury (· != id)).assign id .alive with activeId := some id } : Cast).Sound := by
  have others : ∀ other state, state ≠ .dead →
      ((cast.bury (· != id)).assign id .alive).role other = some state →
      other = id ∧ state = .alive := by
    intro other state live role
    by_cases same : other = id
    · simp only [assign, if_pos same, Option.some.injEq] at role
      exact ⟨same, role.symm⟩
    · simp only [assign, if_neg same] at role
      have unselected := ((cast.role_bury _ other live).mp role).2
      simp [same] at unselected
  refine {
    held := fun other role => ?_
    settled := fun other active role => ?_
    new_unique := fun first second here there => ?_
    alone := fun other alive third new => ?_
    fresh := fun other bound => ?_
    active_known := fun other active => ?_ }
  · rcases role with role | role
    · rw [(others other _ (by decide) role).1]
    · cases (others other _ (by decide) role).2
  · cases (others other _ (by decide) role).2
  · cases (others first _ (by decide) here).2
  · cases (others third _ (by decide) new).2
  · have different : other ≠ id := by
      rintro rfl
      exact known (sound.fresh other bound)
    simp only [assign, if_neg different]
    exact (sound.bury _).fresh other bound
  · cases active
    by_contra unknown
    exact known (sound.fresh id (Nat.le_of_not_lt unknown))

end Moves

theorem Sound.move {cast after : Cast} (sound : cast.Sound) (moved : Move cast after) :
    after.Sound := by
  cases moved with
  | spend =>
      exact { sound with
        fresh := fun id bound => sound.fresh id (by dsimp only at bound; omega)
        active_known := fun id active => Nat.lt_succ_of_lt (sound.active_known id active) }
  | lose id => exact sound.lose id
  | abandon => exact sound.abandon
  | forget id dead => exact sound.forget id
  | clear =>
      exact {
        held := fun id role => by simp at role
        settled := fun id active => by cases active
        new_unique := fun first second here => by cases here
        alone := fun id alive => by cases alive
        fresh := fun id bound => rfl
        active_known := fun id active => by cases active }
  | join opening healthy => exact sound.join opening healthy
  | fade id known was => exact sound.fade known was
  | take id known => exact sound.take known

theorem Sound.moves {cast after : Cast} (sound : cast.Sound)
    (moved : ReflTransGen Move cast after) : after.Sound := by
  induction moved with
  | refl => exact sound
  | tail _ last ih => exact ih.move last

end Cast

namespace ConnectionManager

variable {μ κ : Type}

/-- The roles of the connections of a manager. -/
def cast (manager : ConnectionManager) : Cast :=
  ⟨fun id => (manager.connections[id]?).map (·.state), manager.activeId, manager.nextNonce⟩

/-- The roles change by moves. -/
def Moves (before after : ConnectionManager) : Prop :=
  ReflTransGen Cast.Move before.cast after.cast

namespace Moves

variable {first second third : ConnectionManager}

theorem refl (manager : ConnectionManager) : Moves manager manager := ReflTransGen.refl

theorem trans (before : Moves first second) (after : Moves second third) : Moves first third :=
  ReflTransGen.trans before after

theorem of_cast (same : second.cast = first.cast) : Moves first second := by
  rw [Moves, same]

theorem of_move {cast : Cast} (move : Cast.Move first.cast cast) (result : second.cast = cast) :
    Moves first second := by
  rw [Moves, result]
  exact ReflTransGen.single move

theorem forEach {α ε : Type*} {step : α → Step ConnectionManager ε} {items : List α}
    (each : ∀ item ∈ items, ∀ manager, Moves manager (step item manager).1)
    (manager : ConnectionManager) : Moves manager (forEach step items manager).1 :=
  forEach_related refl (fun _ _ _ => trans) each manager

end Moves

/-! ## Timers and fields -/

@[simp]
theorem emit_fst (manager : ConnectionManager) :
    (emit manager : _ × List (Output μ κ)).1 = manager := rfl

theorem cast_modify {change : Connection → Connection}
    (keeps : ∀ connection, (change connection).state = connection.state)
    (manager : ConnectionManager) (id : Nat) : (manager.modify id change).cast = manager.cast := by
  unfold cast modify
  ext other state
  · dsimp only
    rw [OrderedMap.getElem?_adjust]
    split
    · rename_i same
      subst same
      cases manager.connections[id]? with
      | none => rfl
      | some connection => simp [keeps]
    · rfl
  · rfl
  · rfl

theorem role_modify (manager : ConnectionManager) (id : Nat) {change : Connection → Connection}
    {state : ConnectionState} (assigns : ∀ connection, (change connection).state = state)
    {connection : Connection} (known : manager.connections[id]? = some connection) :
    (manager.modify id change).cast = manager.cast.assign id state := by
  unfold cast modify Cast.assign
  ext other role
  · dsimp only
    rw [OrderedMap.getElem?_adjust]
    by_cases same : id = other
    · subst same
      simp [known, assigns]
    · simp [same, Ne.symm same]
  · rfl
  · rfl

@[simp]
theorem cast_timer (manager : ConnectionManager) (id : Nat) (callback : Callback) :
    (manager.timer id callback).cast = manager.cast := by
  have keeps : ∀ connection : Connection, ({ connection with
      timers := connection.timers ++ [manager.nextTimer] } : Connection).state = connection.state :=
    fun _ => rfl
  exact cast_modify keeps (manager.later callback) id

@[simp]
theorem cast_cancelRetry (manager : ConnectionManager) :
    manager.cancelRetry.cast = manager.cast := by
  unfold cancelRetry
  dsimp only
  split
  · rfl
  · rfl

@[simp]
theorem cast_cancelTick (manager : ConnectionManager) : manager.cancelTick.cast = manager.cast := by
  unfold cancelTick
  split
  · rfl
  · rfl

theorem cast_cancelAll (manager : ConnectionManager) (timers : List Nat) :
    (timers.foldl cancel manager).cast = manager.cast :=
  foldl_frame cast cancel (fun _ _ => rfl) timers manager

/-! ## Giving up -/

theorem cast_retire (reading : Reading) (id : Nat) (manager : ConnectionManager) :
    (retire reading id manager : _ × List (Output μ κ)).1.cast = manager.cast.bury (· == id) := by
  unfold retire
  cases known : manager.connections[id]? with
  | none =>
      ext other state
      · simp only [Cast.bury]
        by_cases same : other = id
        · simp [same, cast, known]
        · rw [beq_false_of_ne same]
          rfl
      · rfl
      · rfl
  | some connection =>
      dsimp only
      split
      · have stored : (connection.timers.foldl cancel manager).connections = manager.connections :=
          foldl_frame connections cancel (fun _ _ => rfl) _ manager
        have retired : ∀ connection : Connection,
            (connection.retired reading.now).state = .dead := fun _ => rfl
        dsimp only
        rw [role_modify _ id retired (by rw [stored]; exact known), cast_cancelAll]
        ext other state
        · by_cases same : other = id
          · simp [Cast.assign, Cast.bury, same, cast, known]
          · simp [Cast.assign, Cast.bury, same, beq_false_of_ne same]
        · rfl
        · rfl
      · rename_i dead
        have dead : connection.state = .dead := by simpa [Connection.isLive] using dead
        ext other state
        · by_cases same : other = id
          · simp [Cast.bury, same, cast, known, dead]
          · simp [Cast.bury, beq_false_of_ne same]
        · rfl
        · rfl

theorem bury_bury (cast : Cast) (first second : Nat → Bool) :
    (cast.bury first).bury second = cast.bury fun id => first id || second id := by
  ext id state
  · simp only [Cast.bury]
    cases first id <;> cases second id <;> simp
  · rfl
  · rfl

theorem cast_retireAll (reading : Reading) (selects : Nat → Bool) (manager : ConnectionManager) :
    (retireAll reading selects manager : _ × List (Output μ κ)).1.cast =
      manager.cast.bury selects := by
  have folded : ∀ (ids : List Nat) (start : ConnectionManager),
      (forEach (retire reading) ids start : _ × List (Output μ κ)).1.cast =
        start.cast.bury fun id => ids.contains id := by
    intro ids
    induction ids with
    | nil => exact fun start => rfl
    | cons first rest ih =>
        intro start
        rw [forEach_cons, andThen_fst, ih, cast_retire, bury_bury]
        rfl
  rw [retireAll, folded]
  ext id state
  · simp only [Cast.bury]
    by_cases known : id ∈ manager.connections
    · have listed : (manager.connections.keys.filter selects).contains id = selects id := by
        rw [Bool.eq_iff_iff, List.contains_iff_mem, List.mem_filter, TreeMap.mem_keys]
        exact and_iff_right known
      rw [listed]
    · have unknown : manager.cast.role id = none := by
        simp [cast, TreeMap.getElem?_eq_none known]
      rw [unknown]
      cases selects id <;> cases (manager.connections.keys.filter selects).contains id <;> rfl
  · rfl
  · rfl

theorem cast_scheduleRetry (reading : Reading) (manager : ConnectionManager) :
    (scheduleRetry reading manager : _ × List (Output μ κ)).1.cast = manager.cast := by
  unfold scheduleRetry
  split_ifs
  · rfl
  · rfl
  · rfl
  · rfl

theorem die_moves (reading : Reading) (id code : Nat) (manager : ConnectionManager) :
    Moves manager (die reading id code manager : _ × List (Output μ κ)).1 := by
  unfold die
  cases known : manager.connections[id]? with
  | none => exact .refl _
  | some connection =>
      dsimp only
      split
      · exact .refl _
      · rw [andThen_fst, andThen_fst]
        have lost : Moves manager (retire reading id (if manager.activeId = some id then
            { manager with activeId := none } else manager) : _ × List (Output μ κ)).1 := by
          refine .of_move (.lose _ id) ?_
          rw [cast_retire]
          split
          · rename_i active
            ext other state
            · rfl
            · simp [Cast.bury, cast, active]
            · rfl
          · rename_i active
            ext other state
            · rfl
            · have here : ¬ manager.cast.activeId = some id := active
              rw [if_neg here]
              rfl
            · rfl
        refine lost.trans ?_
        generalize (retire reading id _ : _ × List (Output μ κ)).1 = retired
        rw [emit_fst]
        split_ifs
        · refine .of_move (.abandon _) ?_
          rw [cast_retireAll, cast_cancelRetry]
          rfl
        · exact .refl _
        · exact .of_cast (cast_scheduleRetry reading retired)

theorem cast_addPing (reading : Reading) (id : Nat) (manager : ConnectionManager) :
    (manager.addPing reading id).cast =
      { manager.cast with nextNonce := manager.nextNonce + 1 } := by
  have keeps : ∀ (nonce : Nat) (pending : PendingPing) (connection : Connection),
      (connection.pinged nonce pending).state = connection.state := fun _ _ _ => rfl
  rw [addPing, cast_modify (keeps _ _), cast_timer]
  rfl

theorem ping_moves (reading : Reading) (id : Nat) (manager : ConnectionManager) :
    Moves manager (ping reading id manager : _ × List (Output μ κ)).1 := by
  have recorded : Moves manager (manager.addPing reading id) :=
    .of_move (.spend _) (cast_addPing reading id manager)
  unfold ping
  split
  · exact .refl _
  · split_ifs
    · exact .refl _
    · exact .refl _
    · exact recorded
    · exact recorded.trans (die_moves reading id 1006 _)

/-- No connection has a property that its role decides. -/
theorem role_of_hasConnection {manager : ConnectionManager} {state : ConnectionState}
    (none : manager.hasConnection (·.state == state) = false) (id : Nat) :
    manager.cast.role id ≠ some state := by
  intro role
  obtain ⟨connection, known, same⟩ := Option.map_eq_some_iff.mp role
  have found := (OrderedMap.anyValue_eq_true_iff manager.connections (·.state == state)).mpr
    ⟨id, connection, known, by rw [same, beq_self_eq_true]⟩
  rw [hasConnection, found] at none
  cases none

@[simp]
theorem cast_attempt (manager : ConnectionManager) : manager.attempt.cast = manager.cast :=
  cast_cancelRetry manager

theorem cast_addConnection (reading : Reading) (manager : ConnectionManager) :
    (manager.addConnection reading).cast =
      { manager.cast.assign manager.nextNonce .new with nextNonce := manager.nextNonce + 1 } := by
  rw [addConnection, cast_timer]
  ext other state
  · simp only [cast, Cast.assign, TreeMap.getElem?_insert]
    by_cases same : manager.nextNonce = other
    · simp [same, Connection.opening]
    · simp [same, Ne.symm same]
  · rfl
  · rfl

theorem connect_moves (reading : Reading) (manager : ConnectionManager) :
    Moves manager (connect reading manager : _ × List (Output μ κ)).1 := by
  unfold connect
  split_ifs with stopped hidden busy healthy exhausted failed
  · exact .refl _
  · exact .of_cast rfl
  · exact .refl _
  · exact .refl _
  · exact .of_cast rfl
  · refine .of_cast ?_
    rw [cast_scheduleRetry, cast_attempt]
  · rw [andThen_fst, emit_fst]
    simp only [Bool.or_eq_true, not_or, Bool.not_eq_true] at busy
    rw [Bool.not_eq_true] at healthy
    refine Moves.trans (.of_cast (cast_attempt manager)) ?_
    have nobody : ∀ state, manager.hasConnection (·.state == state) = false →
        ∀ id, manager.attempt.cast.role id ≠ some state := by
      intro state none id
      rw [cast_attempt]
      exact role_of_hasConnection none id
    exact .of_move (.join _ (nobody _ busy.1) (nobody _ healthy)) (cast_addConnection reading _)

theorem cast_addGrace (reading : Reading) (id : Nat) {manager : ConnectionManager}
    {connection : Connection} (known : manager.connections[id]? = some connection) :
    (manager.addGrace reading id).cast = manager.cast.assign id .stale := by
  rw [addGrace, cast_timer]
  exact role_modify manager id (fun _ => rfl) known

theorem cast_addPong (reading : Reading) (id nonce : Nat) (ping : PendingPing)
    {manager : ConnectionManager} {connection : Connection}
    (known : manager.connections[id]? = some connection) :
    (manager.addPong reading id nonce ping).cast = manager.cast.assign id .alive := by
  refine (cast_cancelRetry _).trans ?_
  exact role_modify (manager.cancel ping.timer) id (fun _ => rfl) known

/-- A connection that is alive, or in use, may turn stale. -/
theorem markStale_moves (reading : Reading) (id : Nat) (manager : ConnectionManager)
    (was : manager.cast.role id = some .alive ∨ manager.activeId = some id ∨
      manager.cast.role id = some .stale) :
    Moves manager (markStale reading id manager : _ × List (Output μ κ)).1 := by
  unfold markStale
  split
  · exact .refl _
  · rename_i connection known
    split_ifs with settled
    · exact .refl _
    · rw [andThen_fst, emit_fst]
      refine Moves.trans (.of_move (.fade _ id ?_ ?_) (cast_addGrace reading id known))
        (connect_moves reading _)
      · simp [cast, known]
      · rcases was with alive | active | stale
        · exact .inl alive
        · exact .inr active
        · simp only [cast, known, Option.map_some, Option.some.injEq] at stale
          simp [stale] at settled

theorem check_moves (reading : Reading) (manager : ConnectionManager) :
    Moves manager (check reading manager : _ × List (Output μ κ)).1 := by
  unfold check
  split
  · exact .refl _
  · rw [andThen_fst, andThen_fst, emit_fst]
    have pings : Moves manager
        (forEach (ping reading) manager.connections.keys manager : _ × List (Output μ κ)).1 :=
      .forEach (fun id _ => ping_moves reading id) manager
    refine pings.trans ?_
    split
    · exact connect_moves reading _
    · exact .refl _

theorem socketOpened_moves (reading : Reading) (id : Nat) (manager : ConnectionManager) :
    Moves manager (socketOpened reading id manager : _ × List (Output μ κ)).1 := by
  unfold socketOpened
  split
  · exact .refl _
  · split
    · exact .refl _
    · rw [andThen_fst, emit_fst]
      have keeps : ∀ connection : Connection, ({ connection with
          deadline := some (reading.now + ConnectionPolicy.pongMs) } : Connection).state =
            connection.state := fun _ => rfl
      exact Moves.trans (.of_cast (cast_modify keeps manager id)) (ping_moves reading id _)

theorem pongReceived_moves (reading : Reading) (id nonce clientTsMs : Nat)
    (manager : ConnectionManager) :
    Moves manager (pongReceived reading id nonce clientTsMs manager : _ × List (Output μ κ)).1 := by
  unfold pongReceived
  split
  · exact .refl _
  · rename_i connection known
    split
    · exact .refl _
    · rename_i ping pending
      split_ifs with mismatch
      · exact .refl _
      · dsimp only
        have assigned : (manager.addPong reading id nonce ping).cast =
            manager.cast.assign id .alive := cast_addPong reading id nonce ping known
        generalize manager.addPong reading id nonce ping = answered at assigned ⊢
        have active : answered.activeId = manager.activeId := congrArg Cast.activeId assigned
        split_ifs with changes healthy
        · refine .of_move (.lose _ id) ?_
          rw [cast_retire, assigned]
          obtain ⟨current, used, other⟩ := (Option.any_eq_true _ _).mp healthy
          rw [Bool.and_eq_true, bne_iff_ne] at other
          have apart : manager.cast.activeId ≠ some id := by
            change manager.activeId ≠ some id
            rw [← active, used]
            simpa using other.1
          ext third state
          · by_cases same : third = id
            · simp [Cast.bury, Cast.assign, same, cast, known]
            · simp [Cast.bury, Cast.assign, same, beq_false_of_ne same]
          · rw [if_neg apart]
            rfl
          · rfl
        · rw [andThen_fst, andThen_fst]
          refine .of_move (.take _ id (by simp [cast, known])) ?_
          change (retireAll reading (· != id) _ : _ × List (Output μ κ)).1.cast = _
          rw [cast_retireAll]
          have taken : ({ answered with activeId := some id } : ConnectionManager).cast =
              { manager.cast.assign id .alive with activeId := some id } := by
            rw [← assigned]
            rfl
          rw [taken]
          ext third state
          · by_cases same : third = id
            · simp [Cast.bury, Cast.assign, same]
            · simp [Cast.bury, Cast.assign, same]
          · rfl
          · rfl
        · have wasAlive : connection.state = .alive := by
            by_contra other
            exact changes (by simp [other])
          refine .of_cast (assigned.trans ?_)
          ext third state
          · by_cases same : third = id
            · simp [Cast.assign, same, cast, known, wasAlive]
            · simp [Cast.assign, same]
          · rfl
          · rfl

theorem receive_moves (reading : Reading) (id : Nat) (data : ServerData μ)
    (manager : ConnectionManager) :
    Moves manager (receive reading id data manager : _ × List (Output μ κ)).1 := by
  unfold receive
  split
  · exact .refl _
  · split
    · exact .refl _
    · cases data with
      | malformed => exact die_moves reading id 4002 manager
      | pong nonce clientTsMs =>
          dsimp only
          split
          · exact pongReceived_moves reading id nonce clientTsMs manager
          · exact .refl _
      | message message =>
          dsimp only
          split
          · exact .refl _
          · exact .refl _

theorem send_moves (reading : Reading) (message : κ) (manager : ConnectionManager) :
    Moves manager (send reading message manager : (_ × List (Output μ κ)) × _).1.1 := by
  unfold send
  split
  · exact .refl _
  · split
    · exact .refl _
    · split_ifs
      · exact .refl _
      · exact .refl _
      · exact die_moves reading _ 1006 manager

/-! ## Calls and timers -/

/-- Giving up everything, when nothing is in use any more. -/
theorem abandon_moves (reading : Reading) {before manager : ConnectionManager}
    (roles : manager.cast = { before.cast with activeId := none }) :
    Moves before (retireAll reading (fun _ => true) manager : _ × List (Output μ κ)).1 := by
  refine .of_move (.abandon _) ?_
  rw [cast_retireAll, roles]
  rfl

theorem retry_moves (reading : Reading) (manager : ConnectionManager) :
    Moves manager (retry reading manager : _ × List (Output μ κ)).1 := by
  unfold retry
  split
  · exact .refl _
  · rw [andThen_fst]
    refine Moves.trans (abandon_moves reading ?_) (connect_moves reading _)
    rw [← cast_cancelRetry manager]
    rfl

theorem visibilityChanged_moves (reading : Reading) (manager : ConnectionManager) :
    Moves manager (visibilityChanged reading manager : _ × List (Output μ κ)).1 := by
  unfold visibilityChanged
  split_ifs
  · exact .refl _
  · rw [andThen_fst, andThen_fst, emit_fst]
    refine Moves.trans ?_ (check_moves reading _)
    split
    · exact Moves.trans (.of_cast rfl) (connect_moves reading { manager with deferred := false })
    · exact .refl _
  · exact .refl _

theorem networkChanged_moves (reading : Reading) (offline : Bool) (manager : ConnectionManager) :
    Moves manager (networkChanged reading offline manager : _ × List (Output μ κ)).1 := by
  have noted : Moves manager { manager with offline } := .of_cast rfl
  unfold networkChanged
  rw [andThen_fst, emit_fst]
  split
  · exact noted
  · exact noted.trans (check_moves reading _)

theorem resume_moves (reading : Reading) (gapMs : Option Nat) (manager : ConnectionManager) :
    Moves manager (resume reading gapMs manager : _ × List (Output μ κ)).1 := by
  have thawed : Moves manager { manager with frozen := false } := .of_cast rfl
  unfold resume
  split
  · exact .refl _
  · rw [andThen_fst]
    refine Moves.trans ?_ (check_moves reading _)
    split
    · rw [andThen_fst]
      refine Moves.trans ?_ (connect_moves reading _)
      dsimp only
      split
      · rename_i active used
        exact thawed.trans (markStale_moves reading active _ (.inr (.inl used)))
      · exact thawed
    · exact thawed

theorem pageHide_moves (reading : Reading) (manager : ConnectionManager) :
    Moves manager (pageHide reading manager : _ × List (Output μ κ)).1 := by
  unfold pageHide
  split
  · exact .refl _
  · rw [andThen_fst, emit_fst]
    exact abandon_moves reading (cast_cancelRetry _)

theorem pageShow_moves (reading : Reading) (manager : ConnectionManager) :
    Moves manager (pageShow reading manager : _ × List (Output μ κ)).1 := by
  unfold pageShow
  split
  · exact .refl _
  · dsimp only
    split
    · exact .of_cast rfl
    · exact Moves.trans (.of_cast rfl) (connect_moves reading
        { manager with suspended := false, frozen := false, lastTick := reading.now })

theorem destroy_moves (reading : Reading) (manager : ConnectionManager) :
    Moves manager (destroy reading manager : _ × List (Output μ κ)).1 := by
  have stopped :
      ({ manager with destroyed := true } : ConnectionManager).cancelRetry.cancelTick.cast =
        manager.cast := by
    rw [cast_cancelTick, cast_cancelRetry]
    rfl
  have abandoned : Moves manager (retireAll reading (fun _ => true)
      { { manager with destroyed := true }.cancelRetry.cancelTick with activeId := none } :
        _ × List (Output μ κ)).1 := by
    refine abandon_moves reading ?_
    rw [← stopped]
    rfl
  refine abandoned.trans (.of_move (.clear _) ((cast_cancelRetry _).trans ?_))
  have active : (retireAll reading (fun _ => true)
      { { manager with destroyed := true }.cancelRetry.cancelTick with activeId := none } :
        _ × List (Output μ κ)).1.activeId = none :=
    congrArg Cast.activeId (cast_retireAll reading _ _)
  ext other state
  · simp [cast]
  · exact iff_of_eq (congrArg (· = some other) active)
  · rfl

theorem forgetOld_moves (reading : Reading) {id : Nat} {connection : Connection}
    {manager : ConnectionManager} (known : manager.connections[id]? = some connection) :
    Moves manager (manager.forgetOld reading id connection) := by
  unfold forgetOld
  split
  · rename_i old
    rw [Bool.and_eq_true] at old
    have dead : connection.state = .dead := by simpa [Connection.isLive] using old.1
    refine .of_move (.forget _ id (by simp [cast, known, dead])) ?_
    ext other state
    · simp only [cast, TreeMap.getElem?_erase]
      by_cases same : id = other
      · simp [same]
      · simp [same, Ne.symm same]
    · rfl
    · rfl
  · exact .refl _

theorem sweep_moves (reading : Reading) (id : Nat) (manager : ConnectionManager) :
    Moves manager (sweep reading id manager : _ × List (Output μ κ)).1 := by
  unfold sweep
  split
  · exact .refl _
  · rename_i connection known
    have swept := forgetOld_moves reading known
    split
    · exact swept.trans (ping_moves reading id _)
    · exact swept

theorem tick_moves (reading : Reading) (manager : ConnectionManager) :
    Moves manager (tick reading manager : _ × List (Output μ κ)).1 := by
  have noted : Moves manager { manager with lastTick := reading.now } := .of_cast rfl
  unfold tick
  split
  · exact .refl _
  · dsimp only
    rw [andThen_fst, andThen_fst, andThen_fst, emit_fst, silent_fst]
    refine Moves.trans (Moves.trans ?_ (.forEach (fun id _ => sweep_moves reading id) _))
      (.of_cast rfl)
    split
    · exact noted.trans (resume_moves reading _ _)
    · exact noted

theorem connectionTimer_moves {timer id : Nat}
    {callback : Connection → Step ConnectionManager (Output μ κ)} (manager : ConnectionManager)
    (each : ∀ connection, manager.connections[id]? = some connection → connection.isLive = true →
      ∀ dropped : ConnectionManager, dropped.cast = manager.cast →
        Moves dropped (callback connection dropped).1) :
    Moves manager (connectionTimer timer id callback manager).1 := by
  have keeps : ∀ connection : Connection,
      (connection.dropTimer timer).state = connection.state := fun _ => rfl
  have dropped := cast_modify keeps manager id
  unfold connectionTimer
  split
  · exact .refl _
  · rename_i connection known
    dsimp only
    split
    · exact .of_cast dropped
    · rename_i live
      simp only [Bool.or_eq_true, Bool.not_eq_true', not_or, Bool.not_eq_false] at live
      exact Moves.trans (.of_cast dropped) (each connection known live.2 _ dropped)

theorem run_moves (reading : Reading) (timer : Nat) (callback : Callback)
    (manager : ConnectionManager) :
    Moves manager (run reading timer callback manager : _ × List (Output μ κ)).1 := by
  cases callback with
  | connectTimeout id =>
      refine connectionTimer_moves manager fun connection _ _ dropped _ => ?_
      unfold connectTimeout
      split
      · exact die_moves reading id 1006 dropped
      · exact .refl _
  | pingTimeout id nonce =>
      refine connectionTimer_moves manager fun connection known live dropped same => ?_
      have keeps : ∀ connection : Connection,
          (connection.pingExpired nonce).state = connection.state := fun _ => rfl
      have expired := cast_modify keeps dropped id
      unfold pingTimeout
      split_ifs with answered new
      · exact .refl _
      · exact Moves.trans (.of_cast expired) (die_moves reading id 1006 _)
      · refine Moves.trans (.of_cast expired) (markStale_moves reading id _ ?_)
        rw [expired, same]
        cases state : connection.state with
        | new => simp [state] at new
        | alive => exact .inl (by simp [cast, known, state])
        | stale => exact .inr (.inr (by simp [cast, known, state]))
        | dead => simp [Connection.isLive, state] at live
  | graceTimeout id deadline =>
      refine connectionTimer_moves manager fun connection _ _ dropped _ => ?_
      unfold graceTimeout
      split
      · exact die_moves reading id 1006 dropped
      · exact .refl _
  | retry =>
      exact Moves.trans (.of_cast rfl) (connect_moves reading { manager with retryTimer := none })
  | tick => exact tick_moves reading manager

theorem step_moves (reading : Reading) (input : Input μ κ) (manager : ConnectionManager) :
    Moves manager (step reading input manager).1 := by
  have sockets : ∀ id (change : Socket → Socket),
      Moves manager (manager.modifySocket id change) := by
    intro id change
    have keeps : ∀ connection : Connection,
        ({ connection with socket := change connection.socket } : Connection).state =
          connection.state := fun _ => rfl
    exact .of_cast (cast_modify keeps manager id)
  cases input with
  | start =>
      change Moves manager (start reading manager : _ × List (Output μ κ)).1
      unfold start
      split
      · exact .refl _
      · rw [andThen_fst]
        exact (tick_moves reading manager).trans (connect_moves reading _)
  | advance id readyState => exact sockets id _
  | opened id => exact (sockets id _).trans (socketOpened_moves reading id _)
  | received id data => exact receive_moves reading id data manager
  | closed id code => exact (sockets id _).trans (die_moves reading id code _)
  | error id => exact die_moves reading id 1006 manager
  | expired timer =>
      change Moves manager (expire reading timer manager : _ × List (Output μ κ)).1
      unfold expire
      split
      · exact .refl _
      · exact Moves.trans (.of_cast rfl) (run_moves reading timer _ (manager.cancel timer))
  | send message => exact send_moves reading message manager
  | retry => exact retry_moves reading manager
  | visibilityChanged => exact visibilityChanged_moves reading manager
  | networkChanged offline => exact networkChanged_moves reading offline manager
  | freeze => exact .of_cast rfl
  | resume gapMs => exact resume_moves reading gapMs manager
  | pageHide => exact pageHide_moves reading manager
  | pageShow => exact pageShow_moves reading manager
  | destroy => exact destroy_moves reading manager

/-! ## Reachable managers -/

/-- The managers that any inputs lead to. -/
inductive Reached (μ κ : Type) : ConnectionManager → Prop
  | initial (now : Nat) : Reached μ κ (initial now)
  | step {manager : ConnectionManager} (reached : Reached μ κ manager) (reading : Reading)
      (input : Input μ κ) : Reached μ κ (step reading input manager).1

theorem cast_initial (now : Nat) : (initial now).cast = ⟨fun _ => none, none, 0⟩ := by
  ext id state
  · simp [cast, initial]
  · rfl
  · rfl

theorem sound_empty : Cast.Sound ⟨fun _ => none, none, 0⟩ where
  held id role := by simp at role
  settled id active := by cases active
  new_unique first second here := by cases here
  alone id alive := by cases alive
  fresh id bound := rfl
  active_known id active := by cases active

theorem Reached.sound {manager : ConnectionManager} (reached : Reached μ κ manager) :
    manager.cast.Sound := by
  induction reached with
  | initial now =>
      rw [cast_initial]
      exact sound_empty
  | step _ reading input ih => exact ih.moves (step_moves reading input _)

/-! ## Counting live connections -/

/-- The connection that is being opened, where there is one. -/
theorem exists_opening {manager : ConnectionManager} (sound : manager.cast.Sound) :
    ∃ opening, ∀ id, manager.cast.role id = some .new → id = opening := by
  by_cases opening : ∃ id, manager.cast.role id = some .new
  · obtain ⟨id, new⟩ := opening
    exact ⟨id, fun other also => sound.new_unique other id also new⟩
  · exact ⟨0, fun other also => absurd ⟨other, also⟩ opening⟩

/-- Beside the connection in use at most one is live, which is being opened. -/
theorem live_le_two {manager : ConnectionManager} (sound : manager.cast.Sound) :
    OrderedMap.countValues manager.connections (·.isLive) ≤ 2 := by
  obtain ⟨opening, only⟩ := exists_opening sound
  have covers : ∀ id connection, manager.connections[id]? = some connection →
      connection.isLive = true → id ∈ [manager.activeId.getD 0, opening] := by
    intro id connection known live
    have role : manager.cast.role id = some connection.state := by simp [cast, known]
    cases state : connection.state with
    | new => simp [only id (role.trans (congrArg some state))]
    | alive =>
        have active : manager.activeId = some id := sound.held id (.inl (by rw [role, state]))
        simp [active]
    | stale =>
        have active : manager.activeId = some id := sound.held id (.inr (by rw [role, state]))
        simp [active]
    | dead => simp [Connection.isLive, state] at live
  exact OrderedMap.countValues_le _ _ covers

end ConnectionManager

end MqttController.Frontend
