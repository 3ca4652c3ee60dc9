import MqttController.Lib.Checked
import MqttController.Lib.Loop
import MqttController.Topology

/-!
# Descendants of rooms

Building the topology follows the parents of every room twice: once to refuse parents that are not
known or lead back to where they started, and once to list the descendants of every room.  The
second pass has nothing that ends it but what the first one has checked.
-/

namespace MqttController

open Std Relation

/-! ## Checking the parents -/

/-- What the checks read of a room of the configuration. -/
structure RoomLink where
  name : String
  parent : Option String
  deriving DecidableEq, Repr

/-- Why the rooms are refused. -/
inductive ParentError
  /-- Two rooms have the name. -/
  | duplicateRoomName (name : String)
  /-- The room lists itself as parent. -/
  | selfParent (room : String)
  /-- The parent of the room is not a known room. -/
  | unknownParent (room parent : String)
  /-- The parents along the chain lead back to one of its rooms. -/
  | parentChainCycle (chain : String)
  deriving DecidableEq, Repr

namespace RoomLink

/-- Add a room to the rooms by name. -/
def register (byName : NameMap RoomLink) (room : RoomLink) :
    Except ParentError (NameMap RoomLink) :=
  if byName.contains room.name then .error (.duplicateRoomName room.name)
  else .ok (byName.insert room.name room)

/-- The rooms by name. -/
def roomsByName (rooms : List RoomLink) : Except ParentError (NameMap RoomLink) :=
  rooms.foldlM register ∅

/-- The parent of the room with a name. -/
def parentOf (byName : NameMap RoomLink) (name : String) : Option String :=
  (byName[name]?).bind (·.parent)

/-- The parent of a room is another room. -/
def checkParent (byName : NameMap RoomLink) (room : RoomLink) : Except ParentError Unit :=
  match room.parent with
  | none => .ok ()
  | some parent =>
      if parent = room.name then .error (.selfParent room.name)
      else if byName.contains parent then .ok ()
      else .error (.unknownParent room.name parent)

/-- Go from a room to its parent, unless the chain has been there. -/
def chainTurn (byName : NameMap RoomLink) :
    List String × Option String → Loop.Turn (List String × Option String) (Except ParentError Unit)
  | (_, none) => .done (.ok ())
  | (visited, some parent) =>
      if parent ∈ visited then
        .done (.error (.parentChainCycle (" -> ".intercalate (visited ++ [parent]))))
      else .again (visited ++ [parent], parentOf byName parent)

/-- The parents of a room do not lead back to one of them. -/
def checkChain (byName : NameMap RoomLink) (turns : Nat) (room : RoomLink) :
    ExceptT ParentError Option Unit :=
  ExceptT.mk (Loop.run (chainTurn byName) turns ([room.name], room.parent))

/-- Check the parents of all rooms; no verdict is reached where a loop takes too many turns. -/
def validateParents (turns : Nat) (rooms : List RoomLink) : Option (Except ParentError Unit) :=
  match roomsByName rooms with
  | .error error => some (.error error)
  | .ok byName =>
      match rooms.forM (checkParent byName) with
      | .error error => some (.error error)
      | .ok _ => (rooms.forM (checkChain byName turns)).run

end RoomLink

/-! ## Listing the descendants -/

namespace TopologyTables

variable (tables : TopologyTables)

/-- What the checks read of the rooms: a resolved room keeps its name and its parent. -/
def roomLinks : List RoomLink :=
  tables.rooms.map fun room => { name := room.name, parent := room.parent }

/-- A binding is about the room. -/
def roomHasBindings (idx : RoomIdx) : Bool :=
  tables.bindings.any fun binding => binding.effect.room == some idx

/-- The room has bindings or motion sensors. -/
def roomHasRules (idx : RoomIdx) : Bool :=
  (tables.room idx).any fun room => !room.boundMotion.isEmpty || tables.roomHasBindings idx

/-- Go from an ancestor to its parent, and note whether it is the room that is looked for. -/
def ancestorTurn (sought : RoomIdx) :
    Option String × Bool → Loop.Turn (Option String × Bool) (Except String Bool)
  | (none, found) => .done (.ok found)
  | (some name, found) =>
      match tables.roomIdx name with
      | none => .done (.error "validated parent")
      | some idx => .again ((tables.room idx).bind (·.parent), found || idx == sought)

/-- The room is an ancestor of a room. -/
def hasAncestor (turns : Nat) (sought child : RoomIdx) : ExceptT String Option Bool :=
  ExceptT.mk
    (Loop.run (tables.ancestorTurn sought) turns ((tables.room child).bind (·.parent), false))

/-- The child, if it has rules and the room is an ancestor of it. -/
def descendant (turns : Nat) (parent child : RoomIdx) : ExceptT String Option (Option RoomIdx) :=
  if tables.roomHasRules child then do
    let found ← tables.hasAncestor turns parent child
    pure (if found then some child else none)
  else pure none

/-- The descendants of a room that have rules, in the order of their names. -/
def descendantsIndexed (turns : Nat) (parent : RoomIdx) : ExceptT String Option (List RoomIdx) := do
  let found ← (List.range tables.rooms.length).mapM (tables.descendant turns parent)
  pure ((found.filterMap id).insertionSort fun first second =>
    tables.roomName first ≤ tables.roomName second)

/-- The descendants of every room. -/
def indexDescendants (turns : Nat) : ExceptT String Option (List (List RoomIdx)) :=
  (List.range tables.rooms.length).mapM (tables.descendantsIndexed turns)

end TopologyTables

/-! ## What the checks establish -/

namespace RoomLink

variable {rooms : List RoomLink} {byName : NameMap RoomLink}

/-- A room names another one as its parent. -/
def ChildOf (rooms : List RoomLink) (child parent : String) : Prop :=
  ∃ room ∈ rooms, room.name = child ∧ room.parent = some parent

/-- The rooms with distinct names are the ones that can be registered. -/
theorem foldlM_register_ok {start : NameMap RoomLink}
    (registered : rooms.foldlM register start = .ok byName) :
    (rooms.map (·.name)).Nodup ∧ (∀ room ∈ rooms, start.contains room.name = false) ∧
      ∀ name room, byName[name]? = some room ↔
        start[name]? = some room ∨ room ∈ rooms ∧ room.name = name := by
  induction rooms generalizing start with
  | nil =>
      cases registered
      simp
  | cons first rest ih =>
      rw [List.foldlM_cons] at registered
      unfold register at registered
      split at registered
      · cases registered
      · rename_i fresh
        rw [Bool.not_eq_true] at fresh
        obtain ⟨distinct, apart, stored⟩ := ih registered
        have later : ∀ room ∈ rest, first.name ≠ room.name ∧ start.contains room.name = false := by
          intro room member
          have absent := apart room member
          rw [TreeMap.contains_insert, Bool.or_eq_false_iff] at absent
          exact ⟨by simpa using absent.1, absent.2⟩
        refine ⟨?_, ?_, fun name room => ?_⟩
        · rw [List.map_cons, List.nodup_cons]
          refine ⟨fun member => ?_, distinct⟩
          obtain ⟨room, inside, same⟩ := List.mem_map.mp member
          exact (later room inside).1 same.symm
        · intro room member
          rcases List.mem_cons.mp member with rfl | member
          · exact fresh
          · exact (later room member).2
        · rw [stored name room, TreeMap.getElem?_insert]
          by_cases same : first.name = name
          · subst same
            have absent : start[first.name]? = none :=
              TreeMap.getElem?_eq_none_of_contains_eq_false fresh
            have others : ∀ room ∈ rest, room.name ≠ first.name := fun room member =>
              (later room member).1.symm
            simp only [compare_self, if_true, absent, List.mem_cons]
            constructor
            · rintro (same | ⟨member, named⟩)
              · cases same
                exact .inr ⟨.inl rfl, rfl⟩
              · exact absurd named (others room member)
            · rintro (none | ⟨rfl | member, named⟩)
              · cases none
              · exact .inl rfl
              · exact absurd named (others room member)
          · have other : compare first.name name ≠ .eq := by simpa using same
            rw [if_neg other]
            simp only [List.mem_cons]
            constructor
            · rintro (old | ⟨member, named⟩)
              · exact .inl old
              · exact .inr ⟨.inr member, named⟩
            · rintro (old | ⟨rfl | member, named⟩)
              · exact .inl old
              · exact absurd named same
              · exact .inr ⟨member, named⟩

theorem exists_registered {start : NameMap RoomLink} (distinct : (rooms.map (·.name)).Nodup)
    (apart : ∀ room ∈ rooms, start.contains room.name = false) :
    ∃ byName, rooms.foldlM register start = .ok byName := by
  induction rooms generalizing start with
  | nil => exact ⟨start, rfl⟩
  | cons first rest ih =>
      rw [List.map_cons, List.nodup_cons] at distinct
      have fresh : ¬ start.contains first.name = true := by
        rw [Bool.not_eq_true]
        exact apart first List.mem_cons_self
      rw [List.foldlM_cons]
      unfold register
      rw [if_neg fresh]
      refine ih distinct.2 fun room member => ?_
      have other : first.name ≠ room.name := fun same =>
        distinct.1 (List.mem_map.mpr ⟨room, member, same.symm⟩)
      rw [TreeMap.contains_insert, apart room (List.mem_cons_of_mem _ member)]
      simpa using other

/-- The rooms by name are the rooms, each under its name. -/
structure Registered (rooms : List RoomLink) (byName : NameMap RoomLink) : Prop where
  distinct : (rooms.map (·.name)).Nodup
  stored : ∀ name room, byName[name]? = some room ↔ room ∈ rooms ∧ room.name = name

theorem roomsByName_ok (named : roomsByName rooms = .ok byName) : Registered rooms byName := by
  obtain ⟨distinct, _, stored⟩ := foldlM_register_ok named
  refine ⟨distinct, fun name room => ?_⟩
  rw [stored name room]
  simp

theorem exists_roomsByName (distinct : (rooms.map (·.name)).Nodup) :
    ∃ byName, roomsByName rooms = .ok byName :=
  exists_registered distinct fun room _ => by simp

namespace Registered

variable (registered : Registered rooms byName)

include registered

theorem contains_iff (name : String) :
    byName.contains name = true ↔ name ∈ rooms.map (·.name) := by
  rw [TreeMap.contains_eq_isSome_getElem?, Option.isSome_iff_exists, List.mem_map]
  constructor
  · rintro ⟨room, found⟩
    exact ⟨room, (registered.stored name room).mp found⟩
  · rintro ⟨room, listed, same⟩
    exact ⟨room, (registered.stored name room).mpr ⟨listed, same⟩⟩

/-- Parents are looked up as the rooms name them. -/
theorem below_iff (child parent : String) :
    Chain.Below (parentOf byName) child parent ↔ ChildOf rooms child parent := by
  unfold Chain.Below parentOf ChildOf
  rw [Option.bind_eq_some_iff]
  constructor
  · rintro ⟨room, found, named⟩
    obtain ⟨listed, same⟩ := (registered.stored child room).mp found
    exact ⟨room, listed, same, named⟩
  · rintro ⟨room, listed, same, named⟩
    exact ⟨room, (registered.stored child room).mpr ⟨listed, same⟩, named⟩

theorem cycle_iff (name : String) :
    TransGen (Chain.Below (parentOf byName)) name name ↔ TransGen (ChildOf rooms) name name := by
  have same : Chain.Below (parentOf byName) = ChildOf rooms := by
    funext child parent
    exact propext (registered.below_iff child parent)
  rw [same]

/-- The parents of the rooms pass when every room names a room other than itself, or none. -/
theorem checkParents_ok_iff : rooms.forM (checkParent byName) = .ok () ↔
    ∀ room ∈ rooms, ∀ parent, room.parent = some parent →
      parent ≠ room.name ∧ parent ∈ rooms.map (·.name) := by
  rw [Checked.forM_ok_iff]
  refine forall₂_congr fun room _ => ?_
  unfold checkParent
  cases room.parent with
  | none => simp
  | some parent =>
      have listed := registered.contains_iff parent
      by_cases self : parent = room.name
      · simp [self]
      · cases known : byName.contains parent with
        | true => simpa [self, known] using listed.mp known
        | false => simpa [self, known] using listed.not.mp (by simp [known])

end Registered

/-- The names of the rooms that a chain has visited; the last of them is reached from all. -/
structure Visited (rooms : List RoomLink) (byName : NameMap RoomLink) (room : RoomLink)
    (state : List String × Option String) : Prop where
  distinct : state.1.Nodup
  known : ∀ name ∈ state.1, name ∈ rooms.map (·.name)
  first : room.name ∈ state.1
  last : ∃ last ∈ state.1, state.2 = parentOf byName last ∧
    ∀ name ∈ state.1, ReflTransGen (Chain.Below (parentOf byName)) name last

theorem Visited.length_le {room : RoomLink} {state : List String × Option String}
    (visited : Visited rooms byName room state) : state.1.length ≤ rooms.length := by
  have within : state.1.Subperm (rooms.map (·.name)) :=
    List.subperm_of_subset visited.distinct visited.known
  simpa using within.length_le

theorem Visited.start (registered : Registered rooms byName) {room : RoomLink}
    (listed : room ∈ rooms) : Visited rooms byName room ([room.name], room.parent) := by
  have here : parentOf byName room.name = room.parent := by
    unfold parentOf
    rw [(registered.stored room.name room).mpr ⟨listed, rfl⟩]
    rfl
  refine ⟨by simp, fun name member => ?_, by simp, room.name, by simp, here.symm,
    fun name member => ?_⟩
  · rw [List.mem_singleton.mp member]
    exact List.mem_map.mpr ⟨room, listed, rfl⟩
  · rw [List.mem_singleton.mp member]

/-- A turn visits one more room. -/
theorem Visited.turn (registered : Registered rooms byName)
    (known : ∀ room ∈ rooms, ∀ parent, room.parent = some parent → parent ∈ rooms.map (·.name))
    {room : RoomLink} {state next : List String × Option String}
    (visited : Visited rooms byName room state) (turn : chainTurn byName state = .again next) :
    Visited rooms byName room next ∧ next.1.length = state.1.length + 1 := by
  obtain ⟨names, current⟩ := state
  obtain ⟨distinct, inside, first, last, lastVisited, same, reaches⟩ := visited
  cases current with
  | none => cases turn
  | some parent =>
      rw [chainTurn] at turn
      split at turn
      · cases turn
      · rename_i fresh
        cases turn
        have below : Chain.Below (parentOf byName) last parent := same.symm
        obtain ⟨lower, lowerListed, _, named⟩ := (registered.below_iff last parent).mp below
        refine ⟨⟨?_, fun name member => ?_, List.mem_append_left _ first, parent, by simp, rfl,
          fun name member => ?_⟩, by simp⟩
        · rw [List.nodup_append]
          refine ⟨distinct, by simp, fun name member other equal => ?_⟩
          rintro rfl
          rw [List.mem_singleton.mp equal] at member
          exact fresh member
        · rcases List.mem_append.mp member with early | final
          · exact inside name early
          · rw [List.mem_singleton.mp final]
            exact known lower lowerListed parent named
        · rcases List.mem_append.mp member with early | final
          · exact (reaches name early).tail below
          · rw [List.mem_singleton.mp final]

/-- The chain of a room ends after as many turns as there are rooms at most.  It is refused where
some parents lead back to where they started, and passes where those of the room do not. -/
theorem checkChain_ends (registered : Registered rooms byName)
    (known : ∀ room ∈ rooms, ∀ parent, room.parent = some parent → parent ∈ rooms.map (·.name))
    {turns : Nat} (enough : rooms.length ≤ turns) {room : RoomLink} (listed : room ∈ rooms) :
    ∃ verdict, (checkChain byName turns room).run = some verdict ∧
      (verdict = .ok () → ¬ TransGen (ChildOf rooms) room.name room.name) ∧
        (verdict ≠ .ok () → ∃ name, TransGen (ChildOf rooms) name name) := by
  have few : rooms.length - [room.name].length < turns := by
    have some : 0 < rooms.length := List.length_pos_of_mem listed
    rw [List.length_singleton]
    omega
  have start := Visited.start registered listed
  refine Loop.run_ends (fun state => rooms.length - state.1.length) ?_ ?_ few start
  · intro state next visited turn
    obtain ⟨goesOn, longer⟩ := visited.turn registered known turn
    have bound := goesOn.length_le
    exact ⟨goesOn, by omega⟩
  · rintro ⟨visited, current⟩ verdict ⟨_, _, first, last, lastVisited, same, reaches⟩ turn
    cases current with
    | none =>
        cases turn
        refine ⟨fun _ cycle => ?_, fun failed => absurd rfl failed⟩
        have back := Chain.comes_back ((registered.cycle_iff room.name).mpr cycle)
          (reaches room.name first)
        obtain ⟨next, above, _⟩ := TransGen.head'_iff.mp back
        cases same.trans above
    | some parent =>
        rw [chainTurn] at turn
        split at turn
        · rename_i again
          cases turn
          refine ⟨fun passed => (nomatch passed), fun _ => ⟨parent, ?_⟩⟩
          refine (registered.cycle_iff parent).mp ?_
          exact TransGen.tail' (reaches parent again) same.symm
        · cases turn

/-- The checks end, and they pass the rooms with distinct names whose parents are rooms and never
lead back to where they started. -/
theorem validateParents_ends {turns : Nat} (enough : rooms.length ≤ turns) :
    ∃ verdict, validateParents turns rooms = some verdict ∧
      (verdict = .ok () ↔ (rooms.map (·.name)).Nodup ∧
        (∀ room ∈ rooms, ∀ parent, room.parent = some parent → parent ∈ rooms.map (·.name)) ∧
          ∀ name, ¬ TransGen (ChildOf rooms) name name) := by
  unfold validateParents
  cases named : roomsByName rooms with
  | error error =>
      refine ⟨.error error, rfl, fun passed => (nomatch passed), fun fits => ?_⟩
      obtain ⟨byName, found⟩ := exists_roomsByName fits.1
      rw [named] at found
      cases found
  | ok byName =>
      have registered := roomsByName_ok named
      dsimp only
      cases parents : rooms.forM (checkParent byName) with
      | error error =>
          refine ⟨.error error, rfl, fun passed => (nomatch passed), fun fits => ?_⟩
          have passes : rooms.forM (checkParent byName) = .ok () := by
            refine registered.checkParents_ok_iff.mpr fun room listed parent named => ?_
            refine ⟨?_, fits.2.1 room listed parent named⟩
            rintro rfl
            exact fits.2.2 room.name (TransGen.single ⟨room, listed, rfl, named⟩)
          rw [parents] at passes
          cases passes
      | ok passed =>
          have known := registered.checkParents_ok_iff.mp parents
          have ends : ∀ room, ∃ verdict : Except ParentError Unit, room ∈ rooms →
              (checkChain byName turns room).run = some verdict ∧
                (verdict = .ok () → ¬ TransGen (ChildOf rooms) room.name room.name) ∧
                  (verdict ≠ .ok () → ∃ name, TransGen (ChildOf rooms) name name) := by
            intro room
            by_cases listed : room ∈ rooms
            · obtain ⟨verdict, ends⟩ := checkChain_ends registered
                (fun other member parent named => (known other member parent named).2) enough listed
              exact ⟨verdict, fun _ => ends⟩
            · exact ⟨.ok (), fun member => absurd member listed⟩
          choose verdict ends using ends
          refine ⟨rooms.forM verdict, Loop.forM_of_verdicts fun room listed =>
            (ends room listed).1, ?_⟩
          rw [Checked.forM_ok_iff]
          constructor
          · intro passes
            refine ⟨registered.distinct, fun room listed parent named =>
              (known room listed parent named).2, fun name cycle => ?_⟩
            obtain ⟨_, ⟨room, listed, same, _⟩, _⟩ := TransGen.head'_iff.mp cycle
            rw [← same] at cycle
            exact (ends room listed).2.1 (passes room listed) cycle
          · intro fits room listed
            by_contra failed
            obtain ⟨name, cycle⟩ := (ends room listed).2.2 failed
            exact fits.2.2 name cycle

end RoomLink

/-! ## What the index holds -/

namespace TopologyTables

variable {tables : TopologyTables}

/-- The position of a room's parent. -/
def parentIdx (tables : TopologyTables) (idx : RoomIdx) : Option RoomIdx :=
  (tables.room idx).bind fun room => room.parent.bind tables.roomIdx

/-- The parents of the rooms are rooms, and never lead back to where they started. -/
structure ParentsFit (tables : TopologyTables) : Prop where
  known : ∀ room ∈ tables.rooms, ∀ name, room.parent = some name → (tables.roomIdx name).isSome
  acyclic : Chain.Acyclic tables.parentIdx

theorem parentsFit_of_validated {turns : Nat} (enough : tables.rooms.length ≤ turns)
    (validated : RoomLink.validateParents turns tables.roomLinks = some (.ok ())) :
    ParentsFit tables := by
  have many : tables.roomLinks.length ≤ turns := by simpa [roomLinks] using enough
  obtain ⟨verdict, ended, passed⟩ := RoomLink.validateParents_ends many
  rw [validated] at ended
  cases ended
  obtain ⟨_, known, acyclic⟩ := passed.mp rfl
  refine ⟨fun room listed name named => ?_, fun idx cycle => ?_⟩
  · have inside := known _ (List.mem_map.mpr ⟨room, listed, rfl⟩) name named
    unfold roomLinks at inside
    rw [List.map_map, List.mem_map] at inside
    obtain ⟨other, member, same⟩ := inside
    unfold roomIdx
    rw [List.findIdx?_isSome, List.any_eq_true]
    exact ⟨other, member, by simpa using same⟩
  · refine acyclic (tables.roomName idx) (cycle.lift tables.roomName fun child parent below => ?_)
    obtain ⟨room, here, named⟩ := Option.bind_eq_some_iff.mp below
    obtain ⟨name, parental, found⟩ := Option.bind_eq_some_iff.mp named
    refine ⟨⟨room.name, room.parent⟩,
      List.mem_map.mpr ⟨room, mem_rooms_of_room here, rfl⟩, ?_, ?_⟩
    · simp [roomName, here]
    · rw [roomName_of_roomIdx found]
      exact parental

theorem parentIdx_eq (idx : RoomIdx) :
    tables.parentIdx idx = ((tables.room idx).bind (·.parent)).bind tables.roomIdx := by
  unfold parentIdx
  rw [Option.bind_assoc]

/-- The walk is at a room that is known, if at any. -/
def KnownName (tables : TopologyTables) (current : Option String) : Prop :=
  ∀ name, current = some name → (tables.roomIdx name).isSome

theorem ParentsFit.knownName (fit : ParentsFit tables) (idx : RoomIdx) :
    KnownName tables ((tables.room idx).bind (·.parent)) := by
  intro name named
  obtain ⟨room, here, parental⟩ := Option.bind_eq_some_iff.mp named
  exact fit.known room (mem_rooms_of_room here) name parental

/-- The walk is at the room that is looked for, or below it. -/
def Leads (tables : TopologyTables) (current : Option String) (sought : RoomIdx) : Prop :=
  ∃ idx, current.bind tables.roomIdx = some idx ∧
    ReflTransGen (Chain.Below tables.parentIdx) idx sought

/-- A walk from the parent of a room leads to its ancestors. -/
theorem leads_parent_iff (idx sought : RoomIdx) :
    Leads tables ((tables.room idx).bind (·.parent)) sought ↔
      TransGen (Chain.Below tables.parentIdx) idx sought := by
  rw [TransGen.head'_iff]
  unfold Leads Chain.Below
  rw [← parentIdx_eq]

/-- Rooms above the one that the walk is at, and that one. -/
noncomputable def left (tables : TopologyTables) (current : Option String) : Nat :=
  (current.bind tables.roomIdx).elim 0 fun idx =>
    (Chain.aboveIn tables.parentIdx (Finset.range tables.rooms.length) idx).card + 1

theorem parentIdx_lt {lower upper : RoomIdx} (below : Chain.Below tables.parentIdx lower upper) :
    upper ∈ Finset.range tables.rooms.length := by
  obtain ⟨room, _, named⟩ := Option.bind_eq_some_iff.mp below
  obtain ⟨name, _, found⟩ := Option.bind_eq_some_iff.mp named
  obtain ⟨other, here, _⟩ := room_of_roomIdx found
  exact Finset.mem_range.mpr (List.getElem?_eq_some_iff.mp here).1

/-- At the parent of a room no more is left than what is above the room. -/
theorem left_parent_le (fit : ParentsFit tables) (idx : RoomIdx) :
    left tables ((tables.room idx).bind (·.parent)) ≤
      (Chain.aboveIn tables.parentIdx (Finset.range tables.rooms.length) idx).card := by
  unfold left
  rw [← parentIdx_eq]
  cases above : tables.parentIdx idx with
  | none => exact Nat.zero_le _
  | some upper => exact Chain.card_aboveIn_lt fit.acyclic above (parentIdx_lt above)

/-- A walk from a room tells whether it came by the room that is looked for, or is still to. -/
structure Walked (tables : TopologyTables) (sought child : RoomIdx) (state : Option String × Bool) :
    Prop where
  known : KnownName tables state.1
  tells : (state.2 = true ∨ Leads tables state.1 sought) ↔
    TransGen (Chain.Below tables.parentIdx) child sought

theorem leads_some_iff {name : String} {idx : RoomIdx} (here : tables.roomIdx name = some idx)
    (sought : RoomIdx) : Leads tables (some name) sought ↔
      idx = sought ∨ Leads tables ((tables.room idx).bind (·.parent)) sought := by
  have at' : Leads tables (some name) sought ↔
      ReflTransGen (Chain.Below tables.parentIdx) idx sought := by
    unfold Leads
    rw [Option.bind_some, here]
    simp
  rw [at', leads_parent_iff, reflTransGen_iff_eq_or_transGen, eq_comm]

/-- A turn of the walk goes on above. -/
theorem Walked.again (fit : ParentsFit tables) {sought child : RoomIdx}
    {state next : Option String × Bool} (walked : Walked tables sought child state)
    (turn : tables.ancestorTurn sought state = .again next) :
    Walked tables sought child next ∧ left tables next.1 < left tables state.1 := by
  obtain ⟨current, found⟩ := state
  cases current with
  | none => cases turn
  | some name =>
      obtain ⟨idx, here⟩ := Option.isSome_iff_exists.mp (walked.known name rfl)
      rw [ancestorTurn, here] at turn
      cases turn
      refine ⟨⟨fit.knownName idx, ?_⟩, ?_⟩
      · have tells := walked.tells
        rw [leads_some_iff here, ← or_assoc] at tells
        rw [← tells]
        simp
      · have now : left tables (some name) =
            (Chain.aboveIn tables.parentIdx (Finset.range tables.rooms.length) idx).card + 1 := by
          unfold left
          rw [Option.bind_some, here]
          rfl
        change left tables ((tables.room idx).bind (·.parent)) < left tables (some name)
        rw [now]
        exact Nat.lt_succ_of_le (left_parent_le fit idx)

/-- The walk along the parents ends, and tells whether it came by the room. -/
theorem hasAncestor_ends (fit : ParentsFit tables) {turns : Nat}
    (enough : tables.rooms.length ≤ turns) (sought : RoomIdx) {child : RoomIdx}
    (inside : child < tables.rooms.length) :
    ∃ verdict, (tables.hasAncestor turns sought child).run = some verdict ∧
      ∃ found, verdict = .ok found ∧
        (found = true ↔ TransGen (Chain.Below tables.parentIdx) child sought) := by
  have few : left tables ((tables.room child).bind (·.parent)) < turns := by
    have less : (Chain.aboveIn tables.parentIdx (Finset.range tables.rooms.length) child).card <
        (Finset.range tables.rooms.length).card := by
      refine Finset.card_lt_card ⟨fun other member => (Chain.mem_aboveIn.mp member).1, ?_⟩
      intro all
      have member := all (Finset.mem_range.mpr inside)
      exact fit.acyclic child (Chain.mem_aboveIn.mp member).2
    rw [Finset.card_range] at less
    have bound := left_parent_le fit child
    omega
  have start : Walked tables sought child ((tables.room child).bind (·.parent), false) :=
    ⟨fit.knownName child, by simp [leads_parent_iff]⟩
  refine Loop.run_ends (fun state => left tables state.1)
    (fun state next walked turn => walked.again fit turn) ?_ few start
  rintro ⟨current, found⟩ verdict walked turn
  cases current with
  | none =>
      cases turn
      refine ⟨found, rfl, ?_⟩
      rw [← walked.tells]
      simp [Leads]
  | some name =>
      obtain ⟨idx, here⟩ := Option.isSome_iff_exists.mp (walked.known name rfl)
      rw [ancestorTurn, here] at turn
      cases turn

/-- The descendants of a room that have rules. -/
def Lists (tables : TopologyTables) (parent : RoomIdx) (descendants : List RoomIdx) : Prop :=
  descendants.Nodup ∧ ∀ child, child ∈ descendants ↔ tables.roomHasRules child = true ∧
    TransGen (Chain.Below tables.parentIdx) child parent

theorem lt_of_roomHasRules {idx : RoomIdx} (rules : tables.roomHasRules idx = true) :
    idx < tables.rooms.length := by
  obtain ⟨room, here, _⟩ := (Option.any_eq_true _ _).mp rules
  exact (List.getElem?_eq_some_iff.mp here).1

/-- A room is taken into the descendants when it has rules and descends. -/
theorem descendant_ends (fit : ParentsFit tables) {turns : Nat}
    (enough : tables.rooms.length ≤ turns) (parent child : RoomIdx) :
    ∃ result : Option RoomIdx, (tables.descendant turns parent child).run = some (.ok result) ∧
      ∀ other, result = some other ↔ other = child ∧ tables.roomHasRules child = true ∧
        TransGen (Chain.Below tables.parentIdx) child parent := by
  unfold descendant
  cases rules : tables.roomHasRules child with
  | false => exact ⟨none, rfl, by simp⟩
  | true =>
      obtain ⟨_, ended, found, rfl, sound⟩ :=
        hasAncestor_ends fit enough parent (lt_of_roomHasRules rules)
      have same : tables.hasAncestor turns parent child = ExceptT.mk (some (.ok found)) := ended
      refine ⟨if found then some child else none, ?_, fun other => ?_⟩
      · rw [if_pos rfl, same]
        rfl
      · rw [← sound]
        cases found with
        | false => simp
        | true => simp [eq_comm]

theorem descendantsIndexed_ends (fit : ParentsFit tables) {turns : Nat}
    (enough : tables.rooms.length ≤ turns) (parent : RoomIdx) :
    ∃ descendants, (tables.descendantsIndexed turns parent).run = some (.ok descendants) ∧
      Lists tables parent descendants := by
  choose result ended taken using descendant_ends fit enough parent
  have walks : (List.range tables.rooms.length).mapM (tables.descendant turns parent) =
      ExceptT.mk (some (.ok ((List.range tables.rooms.length).map result))) :=
    Loop.mapM_of_results fun child _ => ended child
  refine ⟨(((List.range tables.rooms.length).map result).filterMap id).insertionSort
    fun first second => tables.roomName first ≤ tables.roomName second, ?_, ?_, fun child => ?_⟩
  · unfold descendantsIndexed
    rw [walks]
    rfl
  · rw [(List.perm_insertionSort _ _).nodup_iff, List.filterMap_map]
    refine List.Nodup.filterMap (fun first second other here there => ?_) List.nodup_range
    rw [← ((taken first other).mp here).1, ← ((taken second other).mp there).1]
  · rw [(List.perm_insertionSort _ _).mem_iff, List.filterMap_map, List.mem_filterMap]
    constructor
    · rintro ⟨other, _, found⟩
      obtain ⟨rfl, fits⟩ := (taken other child).mp found
      exact fits
    · intro fits
      exact ⟨child, List.mem_range.mpr (lt_of_roomHasRules fits.1),
        (taken child child).mpr ⟨rfl, fits⟩⟩

/-- With parents that fit, the index is complete for every room. -/
theorem indexDescendants_ends (fit : ParentsFit tables) {turns : Nat}
    (enough : tables.rooms.length ≤ turns) :
    ∃ lists, (tables.indexDescendants turns).run = some (.ok lists) ∧
      lists.length = tables.rooms.length ∧
        ∀ parent descendants, lists[parent]? = some descendants →
          Lists tables parent descendants := by
  choose descendants ended lists using descendantsIndexed_ends fit enough
  refine ⟨(List.range tables.rooms.length).map descendants,
    Loop.mapM_of_results fun parent _ => ended parent, by simp, fun parent found here => ?_⟩
  rw [List.getElem?_map] at here
  obtain ⟨position, same, rfl⟩ := Option.map_eq_some_iff.mp here
  obtain ⟨bound, rfl⟩ := List.getElem?_eq_some_iff.mp same
  rw [List.getElem_range]
  exact lists parent

/-- A topology that was built with this index has no room among its own descendants. -/
theorem descendantsOf_irrefl {turns : Nat} (enough : tables.rooms.length ≤ turns)
    (validated : RoomLink.validateParents turns tables.roomLinks = some (.ok ()))
    (indexed : (tables.indexDescendants turns).run = some (.ok tables.descendantsByRoom))
    (idx : RoomIdx) : idx ∉ tables.descendantsOf idx := by
  have fit := parentsFit_of_validated enough validated
  obtain ⟨lists, ended, _, each⟩ := indexDescendants_ends fit enough
  rw [indexed] at ended
  cases ended
  unfold descendantsOf
  cases here : tables.descendantsByRoom[idx]? with
  | none => simp
  | some descendants =>
      intro member
      exact fit.acyclic idx (((each idx descendants here).2 idx).mp member).2

/-- Checking the parents ends, and refuses every cycle of parents.  When it passes the rooms,
listing the descendants ends as well, with no more turns of any loop than there are rooms, and lists
for every room exactly the rooms with rules from which the parents lead to it, each once. -/
theorem descendants_closure (tables : TopologyTables) {turns : Nat}
    (enough : tables.rooms.length ≤ turns) :
    (∃ verdict, RoomLink.validateParents turns tables.roomLinks = some verdict ∧
      ((∃ name, TransGen (RoomLink.ChildOf tables.roomLinks) name name) → verdict ≠ .ok ())) ∧
    (RoomLink.validateParents turns tables.roomLinks = some (.ok ()) →
      ∃ lists, (tables.indexDescendants turns).run = some (.ok lists) ∧
        lists.length = tables.rooms.length ∧
          ∀ parent descendants, lists[parent]? = some descendants → descendants.Nodup ∧
            ∀ child, child ∈ descendants ↔ tables.roomHasRules child = true ∧
              TransGen (fun lower upper => tables.parentIdx lower = some upper) child parent) := by
  have many : tables.roomLinks.length ≤ turns := by simpa [roomLinks] using enough
  constructor
  · obtain ⟨verdict, ended, passes⟩ := RoomLink.validateParents_ends many
    refine ⟨verdict, ended, ?_⟩
    rintro ⟨name, cycle⟩ passed
    exact (passes.mp passed).2.2 name cycle
  · intro validated
    exact indexDescendants_ends (parentsFit_of_validated enough validated) enough

/-- A room with a parent and nothing else. -/
def bareRoom (name : String) (parent : Option String) : ResolvedRoom :=
  { name, groupName := name ++ "-group", members := [], lightMembers := [], parent
    scenes := { scenes := [], slots := ∅ }, switchSteps := ∅, offTransitionSeconds := 0
    boundMotion := [] }

/-- A room in a room in a room; the one in the middle has no rules. -/
def nestedRooms : TopologyTables :=
  { rooms := [bareRoom "child" (some "parent"), bareRoom "parent" (some "grand"),
      bareRoom "grand" none]
    descendantsByRoom := [], devices := [], switchModels := ∅, softDoubleTapButtons := []
    hwDoubleTapButtons := []
    bindings := [⟨"child", .at (.fixed 0), .sceneCycle 0⟩, ⟨"grand", .at (.fixed 0), .sceneCycle 2⟩]
    motionRules := [], heatingConfig := none }

theorem descendants_closure_nested :
    (∃ verdict, RoomLink.validateParents 3 nestedRooms.roomLinks = some verdict ∧
      ((∃ name, TransGen (RoomLink.ChildOf nestedRooms.roomLinks) name name) → verdict ≠ .ok ())) ∧
    ∃ lists, (nestedRooms.indexDescendants 3).run = some (.ok lists) ∧ lists = [[], [0], [0]] ∧
      ∀ parent descendants, lists[parent]? = some descendants → descendants.Nodup ∧
        ∀ child, child ∈ descendants ↔ nestedRooms.roomHasRules child = true ∧
          TransGen (fun lower upper => nestedRooms.parentIdx lower = some upper) child parent := by
  obtain ⟨refuses, closure⟩ := @descendants_closure nestedRooms 3 le_rfl
  obtain ⟨lists, ended, _, each⟩ := closure (by rfl)
  have computed : (nestedRooms.indexDescendants 3).run = some (.ok [[], [0], [0]]) := by rfl
  have same : lists = [[], [0], [0]] := by
    rw [computed] at ended
    cases ended
    rfl
  exact ⟨refuses, lists, ended, same, each⟩

end TopologyTables

end MqttController
