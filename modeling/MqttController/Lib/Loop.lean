import Mathlib.Data.Fintype.Card
import Mathlib.Logic.Relation

/-!
# Loops and chains

A loop takes turns until one of them has a result; it ends when a measure goes down with every turn.
A chain follows a partial function; without cycles every chain in a finite set ends.
-/

namespace Loop

variable {σ ρ : Type*}

/-- One turn of a loop goes on with another state or ends with a result. -/
inductive Turn (σ ρ : Type*)
  | again (state : σ)
  | done (result : ρ)

/-- The result of a loop, unless it takes more turns than allowed. -/
def run (body : σ → Turn σ ρ) : Nat → σ → Option ρ
  | 0, _ => none
  | turns + 1, state =>
      match body state with
      | .again next => run body turns next
      | .done result => some result

/-- A loop ends when its turns keep an invariant and bring a measure down; what ends it then fits
the invariant. -/
theorem run_ends {body : σ → Turn σ ρ} {inv : σ → Prop} {post : ρ → Prop} (measure : σ → Nat)
    (again : ∀ state next, inv state → body state = .again next →
      inv next ∧ measure next < measure state)
    (done : ∀ state result, inv state → body state = .done result → post result) {turns : Nat}
    {state : σ} (enough : measure state < turns) (start : inv state) :
    ∃ result, run body turns state = some result ∧ post result := by
  induction turns generalizing state with
  | zero => exact absurd enough (Nat.not_lt_zero _)
  | succ turns ih =>
      rw [run]
      cases turn : body state with
      | again next =>
          obtain ⟨kept, less⟩ := again state next start turn
          have left : measure next < turns := by omega
          exact ih left kept
      | done result => exact ⟨result, rfl, done state result start turn⟩

/-! ## Several loops in a row -/

section Several

variable {α β ε : Type}

/-- Loops that all end one after the other with a verdict end with the first that fails. -/
theorem forM_of_verdicts {loop : α → ExceptT ε Option Unit} {verdict : α → Except ε Unit}
    {items : List α} (ends : ∀ item ∈ items, (loop item).run = some (verdict item)) :
    (items.forM loop).run = some (items.forM verdict) := by
  induction items with
  | nil => rfl
  | cons item rest ih =>
      have here : loop item = ExceptT.mk (some (verdict item)) := ends item List.mem_cons_self
      have later : rest.forM loop = ExceptT.mk (some (rest.forM verdict)) :=
        ih fun other member => ends other (List.mem_cons_of_mem _ member)
      change (loop item >>= fun _ => rest.forM loop).run =
        some (verdict item >>= fun _ => rest.forM verdict)
      rw [here, later]
      cases verdict item with
      | error error => rfl
      | ok passed => rfl

/-- Loops that all end with a result yield the list of results. -/
theorem mapM_of_results {loop : α → ExceptT ε Option β} {result : α → β} {items : List α}
    (ends : ∀ item ∈ items, (loop item).run = some (.ok (result item))) :
    (items.mapM loop).run = some (.ok (items.map result)) := by
  induction items with
  | nil => rfl
  | cons item rest ih =>
      have here : loop item = ExceptT.mk (some (.ok (result item))) := ends item List.mem_cons_self
      have later : rest.mapM loop = ExceptT.mk (some (.ok (rest.map result))) :=
        ih fun other member => ends other (List.mem_cons_of_mem _ member)
      rw [List.mapM_cons, here, later]
      rfl

end Several

end Loop

namespace Chain

open Relation

variable {α : Type*} {up : α → Option α}

/-- An element is directly below another one. -/
def Below (up : α → Option α) (lower upper : α) : Prop := up lower = some upper

/-- No chain comes back to where it started. -/
def Acyclic (up : α → Option α) : Prop := ∀ element, ¬ TransGen (Below up) element element

/-- What a chain from an element of a cycle reaches, reaches the element again. -/
theorem comes_back {element other : α} (cycle : TransGen (Below up) element element)
    (reached : ReflTransGen (Below up) element other) : TransGen (Below up) other element := by
  induction reached with
  | refl => exact cycle
  | tail _ step ih =>
      obtain ⟨next, first, rest⟩ := TransGen.head'_iff.mp ih
      -- The function leaves no choice of the next element.
      cases step.symm.trans first
      rcases rest.cases_head with rfl | ⟨second, below, further⟩
      · exact cycle
      · exact TransGen.head' below further

open scoped Classical in
/-- The elements of a set that are above an element. -/
noncomputable def aboveIn (up : α → Option α) (within : Finset α) (element : α) : Finset α :=
  within.filter fun other => TransGen (Below up) element other

theorem mem_aboveIn {within : Finset α} {element other : α} :
    other ∈ aboveIn up within element ↔ other ∈ within ∧ TransGen (Below up) element other := by
  classical
  unfold aboveIn
  exact Finset.mem_filter

/-- Going up leaves fewer elements above. -/
theorem card_aboveIn_lt (acyclic : Acyclic up) {within : Finset α} {lower upper : α}
    (below : Below up lower upper) (inside : upper ∈ within) :
    (aboveIn up within upper).card < (aboveIn up within lower).card := by
  have fewer : aboveIn up within upper ⊆ aboveIn up within lower := by
    intro other member
    obtain ⟨here, above⟩ := mem_aboveIn.mp member
    exact mem_aboveIn.mpr ⟨here, TransGen.head below above⟩
  have gained : upper ∈ aboveIn up within lower := mem_aboveIn.mpr ⟨inside, TransGen.single below⟩
  have missing : upper ∉ aboveIn up within upper := by
    intro member
    exact acyclic upper (mem_aboveIn.mp member).2
  exact Finset.card_lt_card ⟨fewer, fun back => missing (back gained)⟩

end Chain
