import MqttController.Frontend.Protocol
import MqttController.Lib.Intervals
import Mathlib.Data.Set.Card

/-!
# Relay run times

The dashboard estimates from the recorded samples how long each zone's relay was on, and how long
at least one of them was.  Between two consecutive fresh samples that are not too far apart a relay
is taken to be as the first of them says; nothing is assumed about any other time.
-/

namespace MqttController.Frontend

def maxSampleGapMs : Int := 90_000

structure RelayPoint where
  timestampEpochMs : Int
  on : Option Bool
  freshness : String
  deriving DecidableEq, Repr

structure RelayHistory where
  fromEpochMs : Int
  toEpochMs : Int
  points : List RelayPoint
  active : List Span
  onMs : Option Int
  observedMs : Int
  deriving DecidableEq, Repr

/-- What a zone's relay reported at each sample. -/
def relayPoints (history : HeatingEnergyHistory) (zone device : String) : List RelayPoint :=
  history.points.map fun point =>
    let relay := point.relays.find? fun relay => decide (relay.zone = zone ∧ relay.device = device)
    { timestampEpochMs := point.timestampEpochMs
      on := relay.bind (·.on)
      freshness := (relay.map (·.freshness)).getD "unknown" }

/-- What the samples counted so far amount to. -/
structure RelayTally where
  observedMs : Int
  onMs : Int
  active : List Span
  deriving DecidableEq, Repr

/-- Append an interval, or continue the last one where it starts. -/
def pushActive (active : List Span) (interval : Span) : List Span :=
  match active.getLast? with
  | some last =>
      if last.stop = interval.start then active.dropLast ++ [{ last with stop := interval.stop }]
      else active ++ [interval]
  | none => active ++ [interval]

/-- The state of the relay between two samples is not known. -/
def RelayPoint.Unknown (previous current : RelayPoint) : Prop :=
  let elapsed := current.timestampEpochMs - previous.timestampEpochMs
  elapsed ≤ 0 ∨ elapsed > maxSampleGapMs ∨ previous.freshness ≠ "fresh" ∨
    current.freshness ≠ "fresh" ∨ previous.on = none ∨ current.on = none

instance (previous current : RelayPoint) : Decidable (previous.Unknown current) :=
  inferInstanceAs (Decidable (_ ∨ _))

/-- Count the time between two consecutive samples. -/
def RelayTally.add (tally : RelayTally) (samples : RelayPoint × RelayPoint) : RelayTally :=
  let (previous, current) := samples
  let elapsed := current.timestampEpochMs - previous.timestampEpochMs
  if previous.Unknown current then tally
  else if previous.on = some true then
    { observedMs := tally.observedMs + elapsed
      onMs := tally.onMs + elapsed
      active := pushActive tally.active ⟨previous.timestampEpochMs, current.timestampEpochMs⟩ }
  else { tally with observedMs := tally.observedMs + elapsed }

def relayHistory (history : HeatingEnergyHistory) (zone device : String) : RelayHistory :=
  let points := relayPoints history zone device
  let tally := (points.zip points.tail).foldl RelayTally.add ⟨0, 0, []⟩
  { fromEpochMs := history.fromEpochMs
    toEpochMs := history.toEpochMs
    points
    active := tally.active
    onMs := if tally.observedMs = 0 then none else some tally.onMs
    observedMs := tally.observedMs }

structure RelayTotals where
  summedMs : Option Int
  anyOnMs : Option Int
  deriving DecidableEq, Repr

def relayTotals (histories : List RelayHistory) : RelayTotals :=
  let known := histories.filter (·.onMs.isSome)
  if known.isEmpty then { summedMs := none, anyOnMs := none }
  else
    { summedMs := some (known.foldl (fun total history => total + history.onMs.getD 0) 0)
      anyOnMs := some (Span.sweepLength (known.flatMap (·.active))) }

/-! ## What is known of a relay -/

/-- The samples are in the order of their times. -/
def HeatingEnergyHistory.Ordered (history : HeatingEnergyHistory) : Prop :=
  history.points.Pairwise fun first second => first.timestampEpochMs ≤ second.timestampEpochMs

/-- Between two samples the relay is known to be on or off: both are fresh and tell it, and they are
not too far apart. -/
structure RelayPoint.Known (previous current : RelayPoint) (on : Bool) (time : Int) : Prop where
  start : previous.timestampEpochMs ≤ time
  stop : time < current.timestampEpochMs
  gap : current.timestampEpochMs - previous.timestampEpochMs ≤ maxSampleGapMs
  fresh : previous.freshness = "fresh" ∧ current.freshness = "fresh"
  told : previous.on = some on ∧ current.on.isSome

/-- At this time the relay is known to be on or off, by the samples next to it. -/
def KnownAt (points : List RelayPoint) (on : Bool) (time : Int) : Prop :=
  ∃ previous current, [previous, current] <:+: points ∧ previous.Known current on time

theorem knownAt_cons {previous current : RelayPoint} {rest : List RelayPoint} {on : Bool}
    {time : Int} : KnownAt (previous :: current :: rest) on time ↔
      previous.Known current on time ∨ KnownAt (current :: rest) on time := by
  unfold KnownAt
  constructor
  · rintro ⟨first, second, adjacent, known⟩
    rcases List.infix_cons_iff.mp adjacent with first | later
    · simp only [List.cons_prefix_cons, List.nil_prefix, and_true] at first
      obtain ⟨rfl, rfl⟩ := first
      exact .inl known
    · exact .inr ⟨first, second, later, known⟩
  · rintro (known | ⟨first, second, adjacent, known⟩)
    · exact ⟨previous, current, (List.prefix_append [previous, current] rest).isInfix, known⟩
    · exact ⟨first, second, List.infix_cons adjacent, known⟩

theorem not_knownAt_singleton (point : RelayPoint) (on : Bool) (time : Int) :
    ¬ KnownAt [point] on time := by
  rintro ⟨first, second, adjacent, _⟩
  simpa using adjacent.length_le

theorem RelayPoint.not_known_of_unknown {previous current : RelayPoint}
    (unknown : previous.Unknown current) (on : Bool) (time : Int) :
    ¬ previous.Known current on time := by
  intro ⟨start, stop, gap, ⟨fresh, fresh'⟩, told, told'⟩
  rcases unknown with elapsed | elapsed | stale | stale | silent | silent
  · omega
  · omega
  · exact stale fresh
  · exact stale fresh'
  · rw [silent] at told
    cases told
  · rw [silent] at told'
    cases told'

/-- Where the state is known, it is that of the first sample up to the second. -/
theorem RelayPoint.known_iff {previous current : RelayPoint}
    (known : ¬ previous.Unknown current) (on : Bool) (time : Int) :
    previous.Known current on time ↔ previous.on = some on ∧
      time ∈ Finset.Ico previous.timestampEpochMs current.timestampEpochMs := by
  unfold RelayPoint.Unknown at known
  simp only [not_or, not_not, Int.not_le, Int.not_lt] at known
  obtain ⟨_, gap, fresh, fresh', _, told⟩ := known
  rw [Finset.mem_Ico]
  constructor
  · intro known
    exact ⟨known.told.1, known.start, known.stop⟩
  · intro ⟨on, start, stop⟩
    exact ⟨start, stop, gap, ⟨fresh, fresh'⟩, on, Option.isSome_iff_ne_none.mpr told⟩

/-! ## Counting -/

/-- Every interval ends no earlier than it starts. -/
def Proper (active : List Span) : Prop := ∀ interval ∈ active, interval.start ≤ interval.stop

theorem pushActive_spec {active : List Span} (proper : Proper active) {interval : Span}
    (forward : interval.start ≤ interval.stop) :
    Proper (pushActive active interval) ∧
      Span.union (pushActive active interval) = Span.union active ∪ interval.cells := by
  have single : Span.union [interval] = interval.cells := by
    ext time
    simp [Span.mem_union]
  have append : Proper (active ++ [interval]) ∧
      Span.union (active ++ [interval]) = Span.union active ∪ interval.cells := by
    refine ⟨fun other member => ?_, by rw [Span.union_append, single]⟩
    rcases List.mem_append.mp member with member | member
    · exact proper other member
    · rw [List.mem_singleton.mp member]
      exact forward
  unfold pushActive
  cases final : active.getLast? with
  | none => exact append
  | some last =>
      by_cases touching : last.stop = interval.start
      · obtain ⟨rest, rfl⟩ := List.getLast?_eq_some_iff.mp final
        have before := proper last (by simp)
        simp only [if_pos touching, List.dropLast_concat]
        constructor
        · intro other member
          rcases List.mem_append.mp member with member | member
          · exact proper other (List.mem_append_left _ member)
          · rw [List.mem_singleton.mp member]
            show last.start ≤ interval.stop
            omega
        · ext time
          simp only [Span.mem_union, Finset.mem_union, List.mem_append, List.mem_singleton,
            or_and_right, exists_or, exists_eq_left, or_assoc]
          refine or_congr_right ?_
          simp only [Span.cells, Finset.mem_Ico]
          omega
      · simp only [if_neg touching]
        exact append

/-- The tally counts the times at which the relay is on, among those at which its state is known,
all of them before a limit. -/
structure RelayTally.Counts (tally : RelayTally) (on known : Finset Int) (limit : Int) : Prop where
  observed : tally.observedMs = known.card
  onMs : tally.onMs = on.card
  active : Span.union tally.active = on
  proper : Proper tally.active
  within : on ⊆ known
  behind : ∀ time ∈ known, time < limit

theorem RelayTally.counts_nothing (limit : Int) :
    RelayTally.Counts ⟨0, 0, []⟩ ∅ ∅ limit where
  observed := rfl
  onMs := rfl
  active := rfl
  proper := by
    intro interval member
    cases member
  within := Finset.Subset.refl _
  behind := by
    intro time member
    cases member

/-- Adding a stretch of time that starts where everything counted ends. -/
theorem card_union_later {counted : Finset Int} {start stop : Int}
    (behind : ∀ time ∈ counted, time < start) (forward : start ≤ stop) :
    ((counted ∪ Finset.Ico start stop).card : Int) = counted.card + (stop - start) := by
  have apart : Disjoint counted (Finset.Ico start stop) := by
    rw [Finset.disjoint_left]
    intro time early late
    have first := behind time early
    have second := (Finset.mem_Ico.mp late).1
    omega
  rw [Finset.card_union_of_disjoint apart, Int.card_Ico, Nat.cast_add, Int.toNat_of_nonneg]
  omega

/-- Two consecutive samples add what is known between them. -/
theorem RelayTally.Counts.add {tally : RelayTally} {on known : Finset Int}
    {previous current : RelayPoint} (counts : tally.Counts on known previous.timestampEpochMs)
    (ordered : previous.timestampEpochMs ≤ current.timestampEpochMs) :
    ∃ on' known', (tally.add (previous, current)).Counts on' known' current.timestampEpochMs ∧
      (∀ time, time ∈ on' ↔ time ∈ on ∨ previous.Known current true time) ∧
      ∀ time, time ∈ known' ↔ time ∈ known ∨ ∃ state, previous.Known current state time := by
  have added : tally.add (previous, current) =
      if previous.Unknown current then tally
      else if previous.on = some true then
        { observedMs := tally.observedMs +
            (current.timestampEpochMs - previous.timestampEpochMs)
          onMs := tally.onMs + (current.timestampEpochMs - previous.timestampEpochMs)
          active := pushActive tally.active
            ⟨previous.timestampEpochMs, current.timestampEpochMs⟩ }
      else { tally with observedMs := tally.observedMs +
            (current.timestampEpochMs - previous.timestampEpochMs) } := rfl
  rw [added]
  by_cases unknown : previous.Unknown current
  · rw [if_pos unknown]
    refine ⟨on, known, { counts with behind := ?_ }, ?_, ?_⟩
    · intro time member
      have before := counts.behind time member
      omega
    · intro time
      simp [RelayPoint.not_known_of_unknown unknown]
    · intro time
      simp [RelayPoint.not_known_of_unknown unknown]
  · rw [if_neg unknown]
    let stretch := Finset.Ico previous.timestampEpochMs current.timestampEpochMs
    have later := card_union_later counts.behind ordered
    have behind : ∀ time ∈ known ∪ stretch, time < current.timestampEpochMs := by
      intro time member
      rcases Finset.mem_union.mp member with member | member
      · have before := counts.behind time member
        omega
      · exact (Finset.mem_Ico.mp member).2
    have told : ∃ state, previous.on = some state := by
      cases reading : previous.on with
      | none => exact absurd (.inr (.inr (.inr (.inr (.inl reading))))) unknown
      | some state => exact ⟨state, rfl⟩
    obtain ⟨state, told⟩ := told
    have known_iff : ∀ time, time ∈ known ∪ stretch ↔
        time ∈ known ∨ ∃ state, previous.Known current state time := by
      intro time
      rw [Finset.mem_union]
      refine or_congr_right ?_
      simp [RelayPoint.known_iff unknown, told, stretch]
    by_cases running : previous.on = some true
    · rw [if_pos running]
      have pushed := @pushActive_spec _ counts.proper
        ⟨previous.timestampEpochMs, current.timestampEpochMs⟩ ordered
      refine ⟨on ∪ stretch, known ∪ stretch, ?_, ?_, known_iff⟩
      · exact
          { observed := by rw [counts.observed, later]
            onMs := by
              rw [counts.onMs, card_union_later (fun time member =>
                counts.behind time (counts.within member)) ordered]
            active := by
              rw [pushed.2, counts.active]
              rfl
            proper := pushed.1
            within := Finset.union_subset_union counts.within (Finset.Subset.refl _)
            behind }
      · intro time
        rw [Finset.mem_union]
        refine or_congr_right ?_
        simp [RelayPoint.known_iff unknown, running, stretch]
    · rw [if_neg running]
      refine ⟨on, known ∪ stretch, ?_, ?_, known_iff⟩
      · exact
          { counts with
            observed := by rw [counts.observed, later]
            within := counts.within.trans Finset.subset_union_left
            behind }
      · intro time
        simp [RelayPoint.known_iff unknown, running]

/-- A run over ordered samples counts what is known between any two of them. -/
theorem RelayTally.Counts.run (previous : RelayPoint) (rest : List RelayPoint)
    (ordered : (previous :: rest).Pairwise fun first second =>
      first.timestampEpochMs ≤ second.timestampEpochMs)
    {tally : RelayTally} {on known : Finset Int}
    (counts : tally.Counts on known previous.timestampEpochMs) :
    ∃ on' known' limit,
      (((previous :: rest).zip rest).foldl RelayTally.add tally).Counts on' known' limit ∧
      (∀ time, time ∈ on' ↔ time ∈ on ∨ KnownAt (previous :: rest) true time) ∧
      ∀ time, time ∈ known' ↔ time ∈ known ∨ ∃ state, KnownAt (previous :: rest) state time := by
  induction rest generalizing previous tally on known with
  | nil => exact ⟨on, known, _, counts, by simp [not_knownAt_singleton]⟩
  | cons current rest ih =>
      obtain ⟨first, later⟩ := List.pairwise_cons.mp ordered
      obtain ⟨on₁, known₁, counts₁, on_iff₁, known_iff₁⟩ := counts.add (first current (by simp))
      obtain ⟨on₂, known₂, limit, counts₂, on_iff₂, known_iff₂⟩ := ih current later counts₁
      refine ⟨on₂, known₂, limit, counts₂, ?_, ?_⟩
      · intro time
        rw [on_iff₂, on_iff₁, knownAt_cons, or_assoc]
      · intro time
        rw [known_iff₂, known_iff₁, or_assoc]
        simp only [knownAt_cons, exists_or]

/-! ## Totals -/

/-- The relay of a zone, with the history that tells about it. -/
structure RelaySeries where
  history : HeatingEnergyHistory
  zone : String
  device : String
  deriving DecidableEq, Repr

namespace RelaySeries

def points (series : RelaySeries) : List RelayPoint :=
  relayPoints series.history series.zone series.device

def total (series : RelaySeries) : RelayHistory :=
  relayHistory series.history series.zone series.device

/-- The times at which the relay is known to be on. -/
def on (series : RelaySeries) : Set Int := { time | KnownAt series.points true time }

/-- The times at which it is known whether the relay is on. -/
def known (series : RelaySeries) : Set Int := { time | ∃ state, KnownAt series.points state time }

theorem points_ordered {series : RelaySeries} (ordered : series.history.Ordered) :
    series.points.Pairwise fun first second =>
      first.timestampEpochMs ≤ second.timestampEpochMs :=
  List.pairwise_map.mpr ordered

/-- A relay's history counts what is known of the relay. -/
theorem counts {series : RelaySeries} (ordered : series.history.Ordered) :
    ∃ on known limit, RelayTally.Counts
        ((series.points.zip series.points.tail).foldl RelayTally.add ⟨0, 0, []⟩) on known limit ∧
      (on : Set Int) = series.on ∧ (known : Set Int) = series.known := by
  have sorted := points_ordered ordered
  cases samples : series.points with
  | nil =>
      refine ⟨∅, ∅, 0, RelayTally.counts_nothing 0, ?_, ?_⟩
      · ext time
        simp [RelaySeries.on, KnownAt, samples]
      · ext time
        simp [RelaySeries.known, KnownAt, samples]
  | cons previous rest =>
      rw [samples] at sorted
      obtain ⟨on, known, limit, counts, on_iff, known_iff⟩ :=
        RelayTally.Counts.run previous rest sorted (RelayTally.counts_nothing _)
      refine ⟨on, known, limit, counts, ?_, ?_⟩
      · ext time
        simp [RelaySeries.on, samples, on_iff]
      · ext time
        simp [RelaySeries.known, samples, known_iff]

/-- A relay's history tells for how long the relay was on, unless nothing is known of it. -/
theorem total_spec {series : RelaySeries} (ordered : series.history.Ordered) :
    series.on.Finite ∧ (Span.union series.total.active : Set Int) = series.on ∧
      (series.known.Nonempty → series.total.onMs = some (series.on.ncard : Int)) ∧
      (¬ series.known.Nonempty → series.total.onMs = none ∧ series.on = ∅) := by
  obtain ⟨on, known, limit, counts, on_eq, known_eq⟩ := counts ordered
  have onMs :
      series.total.onMs = if (known.card : Int) = 0 then none else some (on.card : Int) := by
    rw [← counts.observed, ← counts.onMs]
    rfl
  have active : Span.union series.total.active = on := counts.active
  rw [← on_eq, ← known_eq, onMs, active]
  refine ⟨on.finite_toSet, rfl, ?_, ?_⟩
  · intro nonempty
    have some_known : known.Nonempty := Finset.coe_nonempty.mp nonempty
    have positive := some_known.card_pos
    rw [if_neg (by omega), Set.ncard_coe_finset]
  · intro nothing
    have none_known : known = ∅ :=
      Finset.not_nonempty_iff_eq_empty.mp (mt Finset.coe_nonempty.mpr nothing)
    have within := counts.within
    rw [none_known, Finset.subset_empty] at within
    rw [none_known, within]
    simp

/-- What is known of a relay lies in the window of the history. -/
theorem known_subset {series : RelaySeries}
    (inside : ∀ point ∈ series.history.points,
      series.history.fromEpochMs ≤ point.timestampEpochMs ∧
        point.timestampEpochMs ≤ series.history.toEpochMs) :
    series.known ⊆ Set.Ico series.history.fromEpochMs series.history.toEpochMs := by
  rintro time ⟨state, previous, current, adjacent, known⟩
  have inside' : ∀ point ∈ series.points, series.history.fromEpochMs ≤ point.timestampEpochMs ∧
      point.timestampEpochMs ≤ series.history.toEpochMs := by
    intro point member
    obtain ⟨sample, recorded, rfl⟩ := List.mem_map.mp member
    exact inside sample recorded
  have first := inside' previous (adjacent.subset (by simp))
  have second := inside' current (adjacent.subset (by simp))
  have start := known.start
  have stop := known.stop
  exact ⟨first.1.trans start, stop.trans_le second.2⟩

end RelaySeries

/-- The times at which some relay is known to be on. -/
def anyOn (series : List RelaySeries) : Set Int := ⋃ one ∈ series, one.on

theorem union_known {series : List RelaySeries} (ordered : ∀ one ∈ series, one.history.Ordered) :
    (Span.union (((series.map RelaySeries.total).filter (·.onMs.isSome)).flatMap (·.active)) :
      Set Int) = anyOn series := by
  ext time
  simp only [anyOn, Finset.mem_coe, Span.mem_union, List.mem_flatMap, List.mem_filter,
    List.mem_map, Set.mem_iUnion]
  constructor
  · rintro ⟨interval, ⟨_, ⟨⟨one, member, rfl⟩, _⟩, active⟩, inside⟩
    have active_eq := (RelaySeries.total_spec (ordered one member)).2.1
    refine ⟨one, member, ?_⟩
    rw [← active_eq, Finset.mem_coe, Span.mem_union]
    exact ⟨interval, active, inside⟩
  · rintro ⟨one, member, on⟩
    obtain ⟨_, active_eq, total, nothing⟩ := RelaySeries.total_spec (ordered one member)
    by_cases nonempty : one.known.Nonempty
    · rw [← active_eq, Finset.mem_coe, Span.mem_union] at on
      obtain ⟨interval, active, inside⟩ := on
      exact ⟨interval, ⟨_, ⟨⟨one, member, rfl⟩, by simp [total nonempty]⟩, active⟩, inside⟩
    · rw [(nothing nonempty).2] at on
      exact absurd on (Set.notMem_empty _)

theorem anyOn_cons (one : RelaySeries) (rest : List RelaySeries) :
    anyOn (one :: rest) = one.on ∪ anyOn rest := by
  ext time
  simp [anyOn]

/-- Adding up what the relays were on counts nothing for a relay of which nothing is known. -/
theorem summed_eq {series : List RelaySeries} (ordered : ∀ one ∈ series, one.history.Ordered)
    (start : Int) :
    ((series.map RelaySeries.total).filter (·.onMs.isSome)).foldl
        (fun total history => total + history.onMs.getD 0) start =
      start + (series.map fun one => (one.on.ncard : Int)).sum := by
  induction series generalizing start with
  | nil => simp
  | cons one rest ih =>
      obtain ⟨_, _, total, nothing⟩ := RelaySeries.total_spec (ordered one List.mem_cons_self)
      have later := ih fun other member => ordered other (List.mem_cons_of_mem _ member)
      rw [List.map_cons, List.map_cons, List.sum_cons]
      by_cases nonempty : one.known.Nonempty
      · have kept : one.total.onMs.isSome = true := by rw [total nonempty]; rfl
        rw [List.filter_cons, if_pos kept, List.foldl_cons, later, total nonempty, Option.getD_some,
          add_assoc]
      · have dropped : ¬ one.total.onMs.isSome = true := by simp [(nothing nonempty).1]
        rw [List.filter_cons, if_neg dropped, later, (nothing nonempty).2, Set.ncard_empty,
          Nat.cast_zero, zero_add]

/-- The relays together are on no longer than their times add up to. -/
theorem ncard_anyOn_le (series : List RelaySeries) :
    ((anyOn series).ncard : Int) ≤ (series.map fun one => (one.on.ncard : Int)).sum := by
  induction series with
  | nil => simp [anyOn]
  | cons one rest ih =>
      have joined := Set.ncard_union_le one.on (anyOn rest)
      rw [anyOn_cons, List.map_cons, List.sum_cons]
      omega

theorem anyOn_finite {series : List RelaySeries} (ordered : ∀ one ∈ series, one.history.Ordered) :
    (anyOn series).Finite := by
  rw [← union_known ordered]
  exact Finset.finite_toSet _

/-- The time at which any relay was on is the measure of the union of the times at which the single
relays were known to be on: at least what each of them was on, and at most what they were on in
sum.  It is told when something is known of some relay. -/
theorem relayTotals_measure (series : List RelaySeries)
    (ordered : ∀ one ∈ series, one.history.Ordered) :
    let totals := relayTotals (series.map RelaySeries.total)
    ((∃ one ∈ series, one.known.Nonempty) →
      totals.anyOnMs = some ((anyOn series).ncard : Int) ∧
      totals.summedMs = some ((series.map fun one => (one.on.ncard : Int)).sum) ∧
      ((anyOn series).ncard : Int) ≤ (series.map fun one => (one.on.ncard : Int)).sum) ∧
    ((¬ ∃ one ∈ series, one.known.Nonempty) →
      totals = { summedMs := none, anyOnMs := none }) ∧
    ∀ one ∈ series,
      (one.known.Nonempty → one.total.onMs = some (one.on.ncard : Int)) ∧
      (¬ one.known.Nonempty → one.total.onMs = none) ∧
      one.on.ncard ≤ (anyOn series).ncard ∧ one.on ⊆ one.known ∧
      ((∀ point ∈ one.history.points, one.history.fromEpochMs ≤ point.timestampEpochMs ∧
          point.timestampEpochMs ≤ one.history.toEpochMs) →
        one.known ⊆ Set.Ico one.history.fromEpochMs one.history.toEpochMs) := by
  have measured : ∀ one ∈ series, one.known.Nonempty ↔ one.total.onMs.isSome = true := by
    intro one member
    obtain ⟨_, _, total, nothing⟩ := RelaySeries.total_spec (ordered one member)
    by_cases nonempty : one.known.Nonempty
    · simp [nonempty, total nonempty]
    · simp [nonempty, (nothing nonempty).1]
  refine ⟨?_, ?_, ?_⟩
  · rintro ⟨one, member, nonempty⟩
    have kept : one.total ∈ (series.map RelaySeries.total).filter (·.onMs.isSome) :=
      List.mem_filter.mpr ⟨List.mem_map_of_mem member, (measured one member).mp nonempty⟩
    have told : ((series.map RelaySeries.total).filter (·.onMs.isSome)).isEmpty ≠ true := by
      intro empty
      rw [List.isEmpty_iff.mp empty] at kept
      cases kept
    unfold relayTotals
    simp only [if_neg told]
    refine ⟨?_, ?_, ncard_anyOn_le series⟩
    · rw [Span.sweepLength_eq, ← union_known ordered, Set.ncard_coe_finset]
    · rw [summed_eq ordered, zero_add]
  · intro nothing
    have dropped : (series.map RelaySeries.total).filter (·.onMs.isSome) = [] := by
      rw [List.filter_eq_nil_iff]
      rintro _ counted kept
      obtain ⟨one, member, rfl⟩ := List.mem_map.mp counted
      exact nothing ⟨one, member, (measured one member).mpr kept⟩
    unfold relayTotals
    simp [dropped]
  · intro one member
    obtain ⟨_, _, total, nothing⟩ := RelaySeries.total_spec (ordered one member)
    refine ⟨total, fun unknown => (nothing unknown).1, ?_, ?_, RelaySeries.known_subset⟩
    · have part : one.on ⊆ anyOn series := Set.subset_biUnion_of_mem member
      exact Set.ncard_le_ncard part (anyOn_finite ordered)
    · intro time on
      exact ⟨true, on⟩

/-- Four samples a minute apart: the relay upstairs is on for the first two minutes, the one
downstairs for the last two. -/
def overlapping : HeatingEnergyHistory where
  requestId := 0
  fromEpochMs := 0
  toEpochMs := 86_400_000
  error := none
  points :=
    [(0, true, false), (1, true, true), (2, false, true), (3, false, false)].map
      fun (minute, upstairs, downstairs) =>
        { timestampEpochMs := minute * 60_000
          relays := [⟨"upstairs", "relay-u", some upstairs, "fresh"⟩,
            ⟨"downstairs", "relay-d", some downstairs, "fresh"⟩] }

def bothRelays : List RelaySeries :=
  [⟨overlapping, "upstairs", "relay-u"⟩, ⟨overlapping, "downstairs", "relay-d"⟩]

/-- The minute in which both relays are on counts once. -/
theorem relayTotals_measure_both :
    relayTotals (bothRelays.map RelaySeries.total) =
        { summedMs := some 240_000, anyOnMs := some 180_000 } ∧
      ((¬ ∃ one ∈ bothRelays, one.known.Nonempty) →
        relayTotals (bothRelays.map RelaySeries.total) = { summedMs := none, anyOnMs := none }) ∧
      ∀ one ∈ bothRelays, one.on.ncard ≤ (anyOn bothRelays).ncard := by
  have ordered : ∀ one ∈ bothRelays, one.history.Ordered := by
    have sorted : overlapping.Ordered := by
      unfold HeatingEnergyHistory.Ordered
      decide
    intro one member
    simp only [bothRelays, List.mem_cons, List.not_mem_nil, or_false] at member
    rcases member with rfl | rfl
    · exact sorted
    · exact sorted
  have measured := relayTotals_measure bothRelays ordered
  exact ⟨by decide +kernel, measured.2.1, fun one member => (measured.2.2 one member).2.2.1⟩

end MqttController.Frontend
