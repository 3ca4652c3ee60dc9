import Mathlib.Data.Int.ConditionallyCompleteOrder
import Mathlib.Data.Int.Interval
import Mathlib.Data.List.Sort
import Mathlib.Order.ConditionallyCompleteLattice.Indexed

/-!
# Half-open intervals of integers

A sweep over intervals in the order of their starts counts the integers of their union.
-/

/-- The integers from `start` up to, but not including, `stop`. -/
structure Span where
  start : Int
  stop : Int
  deriving DecidableEq, Repr

namespace Span

/-- The integers of an interval. -/
noncomputable def cells (interval : Span) : Finset Int := Finset.Ico interval.start interval.stop

/-- The integers of some interval. -/
noncomputable def union (intervals : List Span) : Finset Int :=
  intervals.foldr (fun interval rest => interval.cells ∪ rest) ∅

theorem mem_union {intervals : List Span} {time : Int} :
    time ∈ union intervals ↔ ∃ interval ∈ intervals, time ∈ interval.cells := by
  induction intervals with
  | nil => simp [union]
  | cons interval rest ih =>
      have split : union (interval :: rest) = interval.cells ∪ union rest := rfl
      rw [split, Finset.mem_union, ih]
      simp

theorem union_append (first second : List Span) :
    union (first ++ second) = union first ∪ union second := by
  ext time
  simp only [mem_union, Finset.mem_union, List.mem_append, or_and_right, exists_or]

theorem union_perm {first second : List Span} (perm : first.Perm second) :
    union first = union second := by
  ext time
  simp only [mem_union, perm.mem_iff]

/-! ## Sweeping -/

/-- A sweep: what was counted, and how far it reached; nothing is reached at the start. -/
structure Sweep where
  counted : Int
  reached : Option Int

namespace Sweep

/-- A time is not behind the sweep. -/
def Ahead (sweep : Sweep) (time : Int) : Prop := ∀ reached ∈ sweep.reached, reached ≤ time

instance (sweep : Sweep) : DecidablePred sweep.Ahead := fun _ =>
  inferInstanceAs (Decidable (∀ _ ∈ sweep.reached, _))

/-- The larger of a time and what was reached. -/
def latest (sweep : Sweep) (time : Int) : Int := sweep.reached.elim time (max · time)

/-- Sweep over one interval. -/
def step (sweep : Sweep) (interval : Span) : Sweep where
  counted := sweep.counted + max 0 (interval.stop - sweep.latest interval.start)
  reached := some (sweep.latest interval.stop)

theorem latest_le_iff {sweep : Sweep} {start time : Int} :
    sweep.latest start ≤ time ↔ sweep.Ahead time ∧ start ≤ time := by
  unfold latest Ahead
  cases sweep.reached with
  | none => simp
  | some reached => simp

/-- What the rest of the sweep still counts. -/
theorem card_union_cons {interval : Span} {rest : List Span}
    (sorted : ∀ other ∈ rest, interval.start ≤ other.start) (sweep : Sweep) :
    (((union (interval :: rest)).filter sweep.Ahead).card : Int) =
      max 0 (interval.stop - sweep.latest interval.start) +
        ((union rest).filter (sweep.step interval).Ahead).card := by
  have parts : (union (interval :: rest)).filter sweep.Ahead =
      Finset.Ico (sweep.latest interval.start) interval.stop ∪
        (union rest).filter (sweep.step interval).Ahead := by
    ext time
    have ahead : (sweep.step interval).Ahead time ↔ sweep.Ahead time ∧ interval.stop ≤ time := by
      rw [← latest_le_iff]
      unfold step Ahead
      simp
    rw [Finset.mem_filter, Finset.mem_union, Finset.mem_Ico, Finset.mem_filter, latest_le_iff,
      ahead, mem_union, mem_union]
    simp only [List.mem_cons, exists_eq_or_imp, cells, Finset.mem_Ico]
    constructor
    · rintro ⟨⟨start, stop⟩ | ⟨other, member, start, stop⟩, reached⟩
      · exact .inl ⟨⟨reached, start⟩, stop⟩
      · have first := sorted other member
        by_cases inside : time < interval.stop
        · exact .inl ⟨⟨reached, first.trans start⟩, inside⟩
        · exact .inr ⟨⟨other, member, start, stop⟩, reached, not_lt.mp inside⟩
    · rintro (⟨⟨reached, start⟩, stop⟩ | ⟨⟨other, member, start, stop⟩, reached, _⟩)
      · exact ⟨.inl ⟨start, stop⟩, reached⟩
      · exact ⟨.inr ⟨other, member, start, stop⟩, reached⟩
  have apart : Disjoint (Finset.Ico (sweep.latest interval.start) interval.stop)
      ((union rest).filter (sweep.step interval).Ahead) := by
    rw [Finset.disjoint_left]
    intro time inside later
    have ahead := (Finset.mem_filter.mp later).2 _ rfl
    have stop := (Finset.mem_Ico.mp inside).2
    have reached := (latest_le_iff.mp ahead).2
    omega
  rw [parts, Finset.card_union_of_disjoint apart, Int.card_Ico, Nat.cast_add, Int.toNat_eq_max,
    max_comm]

/-- Sweeping over sorted intervals counts their union. -/
theorem foldl_counted (intervals : List Span) (sweep : Sweep)
    (sorted : intervals.Pairwise fun first second => first.start ≤ second.start) :
    (intervals.foldl step sweep).counted =
      sweep.counted + ((union intervals).filter sweep.Ahead).card := by
  induction intervals generalizing sweep with
  | nil => simp [union]
  | cons interval rest ih =>
      obtain ⟨first, later⟩ := List.pairwise_cons.mp sorted
      have counted : (sweep.step interval).counted =
        sweep.counted + max 0 (interval.stop - sweep.latest interval.start) := rfl
      rw [List.foldl_cons, ih _ later, card_union_cons first, counted, add_assoc]

end Sweep

/-- The order of the starts. -/
def Earlier (first second : Span) : Prop := first.start ≤ second.start

instance : DecidableRel Earlier := fun _ _ => inferInstanceAs (Decidable (_ ≤ _))

instance : Std.Total Earlier := ⟨fun _ _ => le_total _ _⟩

instance : IsTrans Span Earlier := ⟨fun _ _ _ => le_trans⟩

/-- The length counted by a sweep over intervals in the order of their starts. -/
def sweepLength (intervals : List Span) : Int :=
  ((intervals.insertionSort Earlier).foldl Sweep.step { counted := 0, reached := none }).counted

theorem sweepLength_eq (intervals : List Span) :
    sweepLength intervals = (union intervals).card := by
  unfold sweepLength
  rw [Sweep.foldl_counted _ _ (List.pairwise_insertionSort Earlier intervals),
    union_perm (List.perm_insertionSort _ _), Finset.filter_true_of_mem, zero_add]
  intro time _ reached none
  cases none

end Span
