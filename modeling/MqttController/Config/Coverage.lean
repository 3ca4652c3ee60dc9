import MqttController.Config.Heating
import MqttController.Lib.Checked

/-!
# Coverage of temperature schedules

The validator sorts the ranges of a day and walks over adjacent ones, and the look-up searches the
ranges in their own order.  Both agree with the pointwise law: every minute of the day lies in
exactly one range.
-/

namespace MqttController

open Std

theorem Weekday.mem_all (day : Weekday) : day ∈ Weekday.all := by
  cases day
  all_goals decide

namespace DayTimeRange

theorem covers_iff (range : DayTimeRange) (minute : Nat) :
    range.covers minute = true ↔ range.startMinutes ≤ minute ∧ minute < range.endMinutes := by
  have clock : minute / 60 * 60 + minute % 60 = minute := by omega
  simp [covers, contains, clock]

theorem FieldsInRange.endMinutes_le {range : DayTimeRange} (fields : range.FieldsInRange) :
    range.endMinutes ≤ 1440 := by
  have hour := fields.endHour
  have minute := fields.endMinute
  unfold endMinutes
  split at minute
  · omega
  · omega

end DayTimeRange

namespace TemperatureSchedule

theorem rangeError_eq_none_iff (name : String) (day : Weekday) (idx : Nat) (range : DayTimeRange) :
    rangeError name day idx range = none ↔
      range.FieldsInRange ∧ range.startMinutes < range.endMinutes := by
  unfold rangeError
  constructor
  · intro fine
    split_ifs at fine with startHour endHour startMinute endMinute midnight crossing temperature
    refine ⟨⟨by omega, by omega, by omega, ?_, temperature⟩, by omega⟩
    split
    · omega
    · omega
  · rintro ⟨fields, forward⟩
    have endMinute := fields.endMinute
    have startHour := fields.startHour
    have endHour := fields.endHour
    have startMinute := fields.startMinute
    have late : ¬ (range.endHour < 24 ∧ 59 < range.endMinute) := by
      split at endMinute
      · omega
      · omega
    have midnight : ¬ (range.endHour = 24 ∧ range.endMinute ≠ 0) := by
      split at endMinute
      · omega
      · omega
    rw [if_neg (by omega), if_neg (by omega), if_neg (by omega), if_neg late, if_neg midnight,
      if_neg (by omega), if_neg (not_not_intro fields.temperature)]

/-! ## The sweep -/

/-- The intervals follow one another from a minute on to the end of the day. -/
def Contiguous : List (Nat × Nat × Nat) → Nat → Prop
  | [], coveredUntil => coveredUntil = 1440
  | (start, stop, _) :: rest, coveredUntil => start = coveredUntil ∧ Contiguous rest stop

theorem sweep_eq_ok_iff (name : String) (day : Weekday) (sorted rest : List (Nat × Nat × Nat))
    (coveredUntil : Nat) :
    sweep name day sorted rest coveredUntil = .ok () ↔ Contiguous rest coveredUntil := by
  induction rest generalizing coveredUntil with
  | nil =>
      unfold sweep Contiguous
      split
      · next gap => simp [gap]
      · next covered => simpa using covered
  | cons interval rest ih =>
      obtain ⟨start, stop, idx⟩ := interval
      unfold sweep Contiguous
      dsimp only
      split_ifs with overlap gap
      · simp only [false_iff, not_and]
        omega
      · simp only [false_iff, not_and]
        omega
      · rw [ih]
        have same : start = coveredUntil := by omega
        simp [same]

/-- How many intervals a minute lies in. -/
def depth (intervals : List (Nat × Nat × Nat)) (minute : Nat) : Nat :=
  intervals.countP fun interval => decide (interval.1 ≤ minute) && decide (minute < interval.2.1)

theorem depth_cons (start stop idx : Nat) (rest : List (Nat × Nat × Nat)) (minute : Nat) :
    depth ((start, stop, idx) :: rest) minute =
      depth rest minute + if start ≤ minute ∧ minute < stop then 1 else 0 := by
  simp [depth, List.countP_cons]

/-- Contiguous intervals cover every later minute once, and no earlier one. -/
theorem depth_of_contiguous {intervals : List (Nat × Nat × Nat)} {coveredUntil : Nat}
    (contiguous : Contiguous intervals coveredUntil)
    (forward : ∀ interval ∈ intervals, interval.1 < interval.2.1) :
    coveredUntil ≤ 1440 ∧ ∀ minute, depth intervals minute =
      if coveredUntil ≤ minute ∧ minute < 1440 then 1 else 0 := by
  induction intervals generalizing coveredUntil with
  | nil =>
      have reached : coveredUntil = 1440 := contiguous
      subst reached
      refine ⟨Nat.le_refl _, ?_⟩
      intro minute
      rw [if_neg (by omega)]
      rfl
  | cons interval rest ih =>
      obtain ⟨start, stop, idx⟩ := interval
      obtain ⟨rfl, follows⟩ := contiguous
      have grows : start < stop := forward (start, stop, idx) List.mem_cons_self
      obtain ⟨bound, later⟩ :=
        ih follows fun interval member => forward interval (List.mem_cons_of_mem _ member)
      refine ⟨by omega, ?_⟩
      intro minute
      rw [depth_cons, later minute]
      split_ifs
      all_goals omega

/-- Sorted intervals that cover every minute once are contiguous. -/
theorem contiguous_of_depth {intervals : List (Nat × Nat × Nat)} {coveredUntil : Nat}
    (sorted : intervals.Pairwise fun first second => first.1 ≤ second.1)
    (forward : ∀ interval ∈ intervals, interval.1 < interval.2.1 ∧ interval.2.1 ≤ 1440)
    (starts : ∀ interval ∈ intervals, coveredUntil ≤ interval.1) (bound : coveredUntil ≤ 1440)
    (once : ∀ minute, coveredUntil ≤ minute → minute < 1440 → depth intervals minute = 1) :
    Contiguous intervals coveredUntil := by
  induction intervals generalizing coveredUntil with
  | nil =>
      by_contra short
      have uncovered := once coveredUntil (Nat.le_refl _) (by
        have other : coveredUntil ≠ 1440 := short
        omega)
      cases uncovered
  | cons interval rest ih =>
      obtain ⟨start, stop, idx⟩ := interval
      obtain ⟨first, others⟩ := List.pairwise_cons.mp sorted
      have grows : start < stop ∧ stop ≤ 1440 := forward (start, stop, idx) List.mem_cons_self
      have early : coveredUntil ≤ start := starts (start, stop, idx) List.mem_cons_self
      have begins : start = coveredUntil := by
        by_contra gap
        have covered := once coveredUntil (Nat.le_refl _) (by omega)
        have uncovered : depth ((start, stop, idx) :: rest) coveredUntil = 0 := by
          unfold depth
          rw [List.countP_eq_zero]
          intro other member
          have after : start ≤ other.1 := by
            rcases List.mem_cons.mp member with rfl | member
            · exact Nat.le_refl _
            · exact first other member
          simp
          omega
        omega
      refine ⟨begins, ih others (fun other member => forward other (List.mem_cons_of_mem _ member))
        ?_ grows.2 ?_⟩
      · intro other member
        by_contra before
        have after : start ≤ other.1 := first other member
        have nonempty := forward other (List.mem_cons_of_mem _ member)
        have covered := once other.1 (by omega) (by omega)
        rw [depth_cons, if_pos (by omega)] at covered
        have twice : 0 < depth rest other.1 := by
          unfold depth
          rw [List.countP_pos_iff]
          exact ⟨other, member, by simp; omega⟩
        omega
      · intro minute after within
        have covered := once minute (by omega) within
        rw [depth_cons, if_neg (by omega)] at covered
        exact covered

/-! ## One day -/

/-- Sorting and numbering keeps what a minute lies in. -/
theorem depth_intervals (ranges : List DayTimeRange) (minute : Nat) :
    depth (intervals ranges) minute = ranges.countP fun range => range.covers minute := by
  unfold depth intervals
  rw [(List.perm_insertionSort _ _).countP_eq, List.countP_map]
  have unnumbered : ∀ start : Nat,
      (ranges.zipIdx start).countP (fun entry => entry.1.covers minute) =
        ranges.countP fun range => range.covers minute := by
    induction ranges with
    | nil => exact fun _ => rfl
    | cons range rest ih =>
        intro start
        rw [List.zipIdx_cons, List.countP_cons, List.countP_cons, ih]
  rw [← unnumbered 0]
  apply List.countP_congr
  intro entry _
  rw [DayTimeRange.covers_iff]
  simp

theorem mem_intervals {ranges : List DayTimeRange} {interval : Nat × Nat × Nat}
    (member : interval ∈ intervals ranges) :
    ∃ range ∈ ranges, interval.1 = range.startMinutes ∧ interval.2.1 = range.endMinutes := by
  unfold intervals at member
  rw [List.mem_insertionSort, List.mem_map] at member
  obtain ⟨⟨range, idx⟩, numbered, rfl⟩ := member
  exact ⟨range, (List.mem_zipIdx numbered).2.2 ▸ List.getElem_mem _, rfl, rfl⟩

theorem sorted_intervals (ranges : List DayTimeRange) :
    (intervals ranges).Pairwise fun first second => first.1 ≤ second.1 := by
  have total : Std.Total fun first second : Nat × Nat × Nat => first.1 ≤ second.1 :=
    ⟨fun first second => Nat.le_total first.1 second.1⟩
  have transitive : IsTrans _ fun first second : Nat × Nat × Nat => first.1 ≤ second.1 :=
    ⟨fun first second third => Nat.le_trans⟩
  exact List.pairwise_insertionSort _ _

/-- The coverage check of one day is the pointwise law, when the ranges are fine on their own. -/
theorem validateDayCoverage_eq_ok_iff (name : String) (day : Weekday) {ranges : List DayTimeRange}
    (fine : ∀ range ∈ ranges, range.FieldsInRange ∧ range.startMinutes < range.endMinutes) :
    validateDayCoverage name day ranges = .ok () ↔ Tiles ranges := by
  have forward : ∀ interval ∈ intervals ranges,
      interval.1 < interval.2.1 ∧ interval.2.1 ≤ 1440 := by
    intro interval member
    obtain ⟨range, known, start, stop⟩ := mem_intervals member
    rw [start, stop]
    exact ⟨(fine range known).2, (fine range known).1.endMinutes_le⟩
  have contiguous : Contiguous (intervals ranges) 0 ↔ Tiles ranges := by
    constructor
    · intro contiguous minute within
      rw [← depth_intervals,
        (depth_of_contiguous contiguous fun interval member => (forward interval member).1).2,
        if_pos ⟨Nat.zero_le _, within⟩]
    · intro tiles
      refine contiguous_of_depth (sorted_intervals ranges) forward
        (fun _ _ => Nat.zero_le _) (Nat.zero_le _) ?_
      intro minute _ within
      rw [depth_intervals]
      exact tiles minute within
  rw [← contiguous]
  unfold validateDayCoverage
  cases sorted : intervals ranges with
  | nil => simp [Contiguous]
  | cons first rest =>
      dsimp only
      split_ifs with late
      · simp only [Contiguous, false_iff, not_and]
        omega
      · rw [sweep_eq_ok_iff]

theorem validateDay_eq_ok_iff (schedule : TemperatureSchedule) (name : String) (day : Weekday) :
    schedule.validateDay name day = .ok () ↔
      ∃ ranges, schedule.days[day]? = some ranges ∧ DayAccepted ranges := by
  unfold validateDay
  cases known : schedule.days[day]? with
  | none => simp
  | some ranges =>
      have checked :
          (ranges.zipIdx.findSome? fun entry => rangeError name day entry.2 entry.1) = none ↔
          ∀ range ∈ ranges, range.FieldsInRange ∧ range.startMinutes < range.endMinutes := by
        rw [List.findSome?_eq_none_iff]
        constructor
        · intro none range member
          obtain ⟨idx, bound, rfl⟩ := List.mem_iff_getElem.mp member
          have numbered : (ranges[idx], idx) ∈ ranges.zipIdx := by
            rw [List.mem_zipIdx_iff_getElem?]
            exact List.getElem?_eq_getElem bound
          exact (rangeError_eq_none_iff name day idx _).mp (none _ numbered)
        · rintro fine ⟨range, idx⟩ numbered
          have member := (List.mem_zipIdx_iff_getElem?.mp numbered)
          exact (rangeError_eq_none_iff name day idx range).mpr
            (fine range (List.mem_of_getElem? member))
      dsimp only
      cases wrong : ranges.zipIdx.findSome? fun entry => rangeError name day entry.2 entry.1 with
      | some error =>
          have refused : ¬ DayAccepted ranges := by
            intro accepted
            rw [checked.mpr accepted.1] at wrong
            cases wrong
          simp [refused]
      | none =>
          have fine := checked.mp wrong
          dsimp only
          rw [validateDayCoverage_eq_ok_iff name day fine]
          simp only [Option.some.injEq, exists_eq_left', DayAccepted]
          exact ⟨fun tiles => ⟨fine, tiles⟩, And.right⟩

/-! ## The schedule -/

theorem validate_eq_ok_iff (schedule : TemperatureSchedule) (name : String) :
    schedule.validate name = .ok () ↔ schedule.TilesWeek := by
  unfold validate TilesWeek
  rw [Checked.forM_ok_iff]
  constructor
  · intro accepted day
    exact (schedule.validateDay_eq_ok_iff name day).mp (accepted day (Weekday.mem_all day))
  · intro accepted day _
    exact (schedule.validateDay_eq_ok_iff name day).mpr (accepted day)

/-- The look-up finds the one range of a minute. -/
theorem targetTemperature_of_accepted (schedule : TemperatureSchedule) {day : Weekday}
    {ranges : List DayTimeRange} (known : schedule.days[day]? = some ranges)
    (accepted : DayAccepted ranges) {hour minute : Nat} (hours : hour < 24)
    (minutes : minute < 60) :
    ∃ range, ranges.filter (fun range => range.contains hour minute) = [range] ∧
      schedule.targetTemperature day hour minute = some range.temperature ∧
      5 ≤ range.temperature ∧ range.temperature ≤ 30 := by
  have once := accepted.2 (hour * 60 + minute) (by omega)
  have quotient : (hour * 60 + minute) / 60 = hour := by omega
  have remainder : (hour * 60 + minute) % 60 = minute := by omega
  unfold DayTimeRange.covers at once
  rw [quotient, remainder, List.countP_eq_length_filter] at once
  obtain ⟨range, only⟩ := List.length_eq_one_iff.mp once
  have inside : range ∈ ranges := by
    have member : range ∈ ranges.filter fun range => range.contains hour minute := by
      rw [only]
      exact List.mem_cons_self
    exact (List.mem_filter.mp member).1
  refine ⟨range, only, ?_, (accepted.1 range inside).1.temperature⟩
  unfold targetTemperature
  rw [known]
  dsimp only
  rw [← List.head?_filter, only]
  rfl

/-- A schedule is accepted when all fields are in range, every range starts before it ends, and
every minute lies in exactly one range; its look-up then returns the temperature of that range. -/
theorem coverage (schedule : TemperatureSchedule) (name : String) :
    (schedule.validate name = .ok () ↔
      ∀ day : Weekday, ∃ ranges : List DayTimeRange, schedule.days[day]? = some ranges ∧
        (∀ range ∈ ranges, range.FieldsInRange) ∧
        (∀ range ∈ ranges, range.startMinutes < range.endMinutes) ∧ Tiles ranges) ∧
    (schedule.validate name = .ok () → ∀ (day : Weekday) (hour minute : Nat),
      hour < 24 → minute < 60 → ∃ (ranges : List DayTimeRange) (range : DayTimeRange),
        schedule.days[day]? = some ranges ∧
        ranges.filter (fun range => range.contains hour minute) = [range] ∧
        schedule.targetTemperature day hour minute = some range.temperature ∧
        5 ≤ range.temperature ∧ range.temperature ≤ 30) := by
  constructor
  · rw [validate_eq_ok_iff]
    apply forall_congr'
    intro day
    apply exists_congr
    intro ranges
    apply and_congr_right
    intro _
    constructor
    · intro accepted
      exact ⟨fun range member => (accepted.1 range member).1,
        fun range member => (accepted.1 range member).2, accepted.2⟩
    · rintro ⟨fields, forward, tiles⟩
      exact ⟨fun range member => ⟨fields range member, forward range member⟩, tiles⟩
  · intro accepted day hour minute hours minutes
    obtain ⟨ranges, known, fine⟩ := (schedule.validate_eq_ok_iff name).mp accepted day
    obtain ⟨range, only, found⟩ := schedule.targetTemperature_of_accepted known fine hours minutes
    exact ⟨ranges, range, known, only, found⟩

/-! ## A range that covers nothing -/

/-- The whole day, and a range that ends where it starts. -/
def emptyRangeDay : List DayTimeRange := [⟨0, 0, 24, 0, 20⟩, ⟨10, 0, 10, 0, 20⟩]

/-- A week of such days. -/
def emptyRangeSchedule : TemperatureSchedule :=
  ⟨TreeMap.ofList (Weekday.all.map fun day => (day, emptyRangeDay)) _⟩

theorem empty_range_refused : ¬ ∀ (schedule : TemperatureSchedule) (name : String),
    schedule.validate name = .ok () ↔
      ∀ day : Weekday, ∃ ranges : List DayTimeRange, schedule.days[day]? = some ranges ∧
        (∀ range ∈ ranges, range.FieldsInRange) ∧ Tiles ranges := by
  intro claim
  have lawful : ∀ day : Weekday, ∃ ranges : List DayTimeRange,
      emptyRangeSchedule.days[day]? = some ranges ∧
      (∀ range ∈ ranges, range.FieldsInRange) ∧ Tiles ranges := by
    intro day
    refine ⟨emptyRangeDay, ?_, ?_, ?_⟩
    · cases day
      all_goals rfl
    · intro range member
      rcases List.mem_cons.mp member with rfl | member
      · exact ⟨by decide, by decide, by decide, by decide, by norm_num⟩
      · rw [List.mem_singleton.mp member]
        exact ⟨by decide, by decide, by decide, by decide, by norm_num⟩
    · intro minute within
      have whole : (DayTimeRange.mk 0 0 24 0 20).covers minute = true := by
        rw [DayTimeRange.covers_iff]
        simp [DayTimeRange.startMinutes, DayTimeRange.endMinutes]
        omega
      have nothing : (DayTimeRange.mk 10 0 10 0 20).covers minute = false := by
        rw [← Bool.not_eq_true, DayTimeRange.covers_iff]
        simp [DayTimeRange.startMinutes, DayTimeRange.endMinutes]
      simp [emptyRangeDay, whole, nothing]
  have accepted := (claim emptyRangeSchedule "week").mpr lawful
  obtain ⟨ranges, known, fine, _⟩ :=
    (emptyRangeSchedule.validate_eq_ok_iff "week").mp accepted .monday
  have same : emptyRangeSchedule.days[Weekday.monday]? = some emptyRangeDay := rfl
  rw [same] at known
  cases known
  have forward := (fine ⟨10, 0, 10, 0, 20⟩ (by simp [emptyRangeDay])).2
  exact Nat.lt_irrefl _ forward

end TemperatureSchedule

end MqttController
