import Mathlib.Algebra.Group.Nat.Defs
import Mathlib.Algebra.Ring.Int.Defs
import Mathlib.Data.List.Dedup
import MqttController.Lib.Cursor

/-!
# The audit log

Every decision is one row of the log; an index names the entities it involves.  A dashboard reads
the rows of an entity page by page, each page below the time of the last entry it has.
-/

namespace MqttController.Audit

/-- One action that a decision published. -/
structure ActionDto where
  target : String
  targetKind : String
  payloadJson : String
  deriving DecidableEq

/-- A decision to be logged. -/
structure DecisionLogEntry where
  timestampEpochMs : Nat
  eventSummary : String
  decisions : List String
  actionsEmitted : List ActionDto
  involvedEntities : List String

/-- A logged decision as a dashboard reads it. -/
structure LogEntryDto where
  id : Int
  timestampEpochMs : Int
  eventSummary : String
  decisions : List String
  actionsEmitted : List ActionDto
  deriving DecidableEq

/-- A row of `decision_log`. -/
structure LogRow where
  id : Int
  tsMs : Int
  eventSummary : String
  decisionsJson : String
  actionsJson : String
  deriving DecidableEq

/-- A row of `decision_log_entity`. -/
structure EntityRow where
  entity : String
  logId : Int
  tsMs : Int
  deriving DecidableEq

/-- How JSON is written and read. -/
structure Codec where
  writeDecisions : List String → String
  writeActions : List ActionDto → String
  readDecisions : String → Option (List String)
  readActions : String → Option (List ActionDto)

/-- The largest time a column holds. -/
def maxTime : Int := 2 ^ 63 - 1

/-- The tables: primary keys are unique, and the writer gives an index row the time of its log
row. -/
structure Tables where
  log : List LogRow
  entities : List EntityRow
  /-- The id of the next row. -/
  nextId : Int
  ids_lt : ∀ row ∈ log, row.id < nextId
  ids_nodup : (log.map (·.id)).Nodup
  keys_nodup : (entities.map fun row => (row.entity, row.logId)).Nodup
  logged : ∀ row ∈ entities, ∃ logRow ∈ log, logRow.id = row.logId ∧ logRow.tsMs = row.tsMs
  times_le : ∀ row ∈ entities, row.tsMs ≤ maxTime

/-- The rows returned when no page size is asked for. -/
def defaultLimit : Nat := 50

/-- The largest page. -/
def maxLimit : Nat := 500

/-- The page size that is used. -/
def pageSize (limit : Option Nat) : Nat := max 1 (min maxLimit (limit.getD defaultLimit))

/-- A page sent to a dashboard. -/
structure EntityLog where
  entries : List LogEntryDto
  hasMore : Bool

namespace Codec

variable (codec : Codec)

/-- A row as a dashboard reads it; what cannot be parsed is empty. -/
def entry (row : LogRow) : LogEntryDto where
  id := row.id
  timestampEpochMs := row.tsMs
  eventSummary := row.eventSummary
  decisions := (codec.readDecisions row.decisionsJson).getD []
  actionsEmitted := (codec.readActions row.actionsJson).getD []

end Codec

namespace Tables

/-- An empty log. -/
def empty : Tables where
  log := []
  entities := []
  nextId := 1
  ids_lt := by simp
  ids_nodup := List.nodup_nil
  keys_nodup := List.nodup_nil
  logged := by simp
  times_le := by simp

/-- The time as it is stored: the source narrows it to 64 bits with a sign. -/
def storedTime (timestampEpochMs : Nat) : Int := (timestampEpochMs : Int).bmod (2 ^ 64)

theorem storedTime_le (timestampEpochMs : Nat) : storedTime timestampEpochMs ≤ maxTime := by
  have less : (timestampEpochMs : Int).bmod (2 ^ 64) < (2 ^ 64 + 1) / 2 := Int.bmod_lt (by decide)
  unfold storedTime maxTime
  omega

variable (codec : Codec) (tables : Tables)

/-- Log a decision. -/
def insert (entry : DecisionLogEntry) : Tables where
  log := tables.log ++ [
    { id := tables.nextId, tsMs := storedTime entry.timestampEpochMs
      eventSummary := entry.eventSummary, decisionsJson := codec.writeDecisions entry.decisions
      actionsJson := codec.writeActions entry.actionsEmitted }]
  entities := tables.entities ++ entry.involvedEntities.dedup.map fun entity =>
    { entity, logId := tables.nextId, tsMs := storedTime entry.timestampEpochMs }
  nextId := tables.nextId + 1
  ids_lt row member := by
    rcases List.mem_append.mp member with early | last
    · have less := tables.ids_lt row early
      omega
    · rw [List.mem_singleton.mp last]
      exact Int.lt_succ _
  ids_nodup := by
    rw [List.map_append, List.nodup_append]
    refine ⟨tables.ids_nodup, List.nodup_singleton _, fun id early other last => ?_⟩
    obtain ⟨row, member, rfl⟩ := List.mem_map.mp early
    rw [List.map_singleton, List.mem_singleton] at last
    rw [last]
    exact (tables.ids_lt row member).ne
  keys_nodup := by
    rw [List.map_append, List.nodup_append]
    refine ⟨tables.keys_nodup, ?_, fun key early other last => ?_⟩
    · rw [List.map_map]
      exact (List.nodup_dedup _).map fun first second same => (Prod.mk.inj same).1
    · obtain ⟨row, member, rfl⟩ := List.mem_map.mp early
      obtain ⟨fresh, listed, rfl⟩ := List.mem_map.mp last
      obtain ⟨entity, _, rfl⟩ := List.mem_map.mp listed
      obtain ⟨logRow, known, same, _⟩ := tables.logged row member
      have less := tables.ids_lt logRow known
      rw [same] at less
      exact fun equal => less.ne (Prod.mk.inj equal).2
  logged row member := by
    rcases List.mem_append.mp member with early | late
    · obtain ⟨logRow, known, facts⟩ := tables.logged row early
      exact ⟨logRow, List.mem_append_left _ known, facts⟩
    · obtain ⟨entity, _, rfl⟩ := List.mem_map.mp late
      exact ⟨_, List.mem_append_right _ (List.mem_singleton_self _), rfl, rfl⟩
  times_le row member := by
    rcases List.mem_append.mp member with early | late
    · exact tables.times_le row early
    · obtain ⟨entity, _, rfl⟩ := List.mem_map.mp late
      dsimp only
      exact storedTime_le entry.timestampEpochMs

/-- The log rows of an entity, each with the time of its index row. -/
def rowsOf (entity : String) : List (Int × LogRow) :=
  (tables.entities.filter (·.entity == entity)).flatMap fun row =>
    (tables.log.filter (·.id == row.logId)).map fun logRow => (row.tsMs, logRow)

/-- What a query may return: SQL leaves the order of rows with one time open. -/
def Fetches (entity : String) (beforeTsMs : Option Int) (limit : Option Nat)
    (entries : List LogEntryDto) : Prop :=
  ∃ rows, Cursor.Answers Prod.fst (tables.rowsOf entity) (beforeTsMs.getD maxTime)
    (pageSize limit) rows ∧ entries = rows.map fun row => codec.entry row.2

/-- What a dashboard may be answered. -/
def Replies (entity : String) (beforeTsMs : Option Int) (limit : Option Nat)
    (reply : EntityLog) : Prop :=
  tables.Fetches codec entity beforeTsMs (some (pageSize limit)) reply.entries ∧
    reply.hasMore = (reply.entries.length == pageSize limit)

/-- Following the cursor until there is no more. -/
inductive Pages (entity : String) (limit : Option Nat) : Option Int → List LogEntryDto → Prop
  | last {beforeTsMs : Option Int} {reply : EntityLog}
      (replied : tables.Replies codec entity beforeTsMs limit reply)
      (done : reply.hasMore = false) : Pages entity limit beforeTsMs reply.entries
  | more {beforeTsMs : Option Int} {reply : EntityLog} {oldest : LogEntryDto}
      {rest : List LogEntryDto} (replied : tables.Replies codec entity beforeTsMs limit reply)
      (hasMore : reply.hasMore = true) (cursor : reply.entries.getLast? = some oldest)
      (next : Pages entity limit (some oldest.timestampEpochMs) rest) :
      Pages entity limit beforeTsMs (reply.entries ++ rest)

variable {codec tables} {entity : String} {limit : Option Nat}

/-! ## Pages are read by a strict cursor -/

theorem pageSize_pageSize (limit : Option Nat) :
    pageSize (some (pageSize limit)) = pageSize limit := by
  unfold pageSize maxLimit
  simp only [Option.getD_some]
  omega

theorem pageSize_pos (limit : Option Nat) : 0 < pageSize limit := by
  unfold pageSize
  omega

theorem mem_rowsOf {row : Int × LogRow} (member : row ∈ tables.rowsOf entity) :
    row.2.tsMs = row.1 ∧ row.1 ≤ maxTime := by
  unfold rowsOf at member
  obtain ⟨indexRow, listed, inside⟩ := List.mem_flatMap.mp member
  obtain ⟨logRow, found, rfl⟩ := List.mem_map.mp inside
  have indexed := (List.mem_filter.mp listed).1
  obtain ⟨known, same⟩ := List.mem_filter.mp found
  obtain ⟨other, also, id, time⟩ := tables.logged indexRow indexed
  have here : other = logRow := List.inj_on_of_nodup_map tables.ids_nodup also known
    (id.trans (beq_iff_eq.mp same).symm)
  exact ⟨here ▸ time, tables.times_le indexRow indexed⟩

theorem replies_iff {beforeTsMs : Option Int} {reply : EntityLog} :
    tables.Replies codec entity beforeTsMs limit reply ↔
      ∃ rows, Cursor.Answers Prod.fst (tables.rowsOf entity) (beforeTsMs.getD maxTime)
        (pageSize limit) rows ∧ (reply.entries = rows.map fun row => codec.entry row.2) ∧
          reply.hasMore = (rows.length == pageSize limit) := by
  unfold Replies Fetches
  rw [pageSize_pageSize]
  constructor
  · rintro ⟨⟨rows, answered, same⟩, more⟩
    refine ⟨rows, answered, same, ?_⟩
    rw [more, same, List.length_map]
  · rintro ⟨rows, answered, same, more⟩
    refine ⟨⟨rows, answered, same⟩, ?_⟩
    rw [more, same, List.length_map]

/-- The last row of a page is the last entry. -/
theorem oldest_of_last {before : Int} {rows : List (Int × LogRow)}
    (answered : Cursor.Answers Prod.fst (tables.rowsOf entity) before (pageSize limit) rows)
    {row : Int × LogRow} (last : rows.getLast? = some row) :
    (codec.entry row.2).timestampEpochMs = row.1 := by
  obtain ⟨sorted, perm, _, rfl⟩ := answered
  have inside := perm.mem_iff.mp (List.mem_of_mem_take (List.mem_of_getLast? last))
  exact (mem_rowsOf (Cursor.mem_under.mp inside).1).1

theorem pages_iff_reads {beforeTsMs : Option Int} {entries : List LogEntryDto} :
    tables.Pages codec entity limit beforeTsMs entries ↔
      ∃ rows, Cursor.Reads Prod.fst (tables.rowsOf entity) (pageSize limit)
        (beforeTsMs.getD maxTime) rows ∧ entries = rows.map fun row => codec.entry row.2 := by
  constructor
  · intro pages
    induction pages with
    | last replied done =>
        obtain ⟨rows, answered, same, more⟩ := replies_iff.mp replied
        rw [done] at more
        exact ⟨rows, .last answered (by simpa using more.symm), same⟩
    | @more beforeTsMs reply oldest rest replied hasMore cursor next ih =>
        obtain ⟨rows, answered, same, more⟩ := replies_iff.mp replied
        obtain ⟨others, reads, rfl⟩ := ih
        rw [same, List.getLast?_map] at cursor
        obtain ⟨row, last, rfl⟩ := Option.map_eq_some_iff.mp cursor
        rw [Option.getD_some, oldest_of_last answered last] at reads
        rw [hasMore] at more
        refine ⟨rows ++ others, .more answered (by simpa using more.symm) last reads, ?_⟩
        rw [same, List.map_append]
  · rintro ⟨rows, reads, rfl⟩
    generalize start : beforeTsMs.getD maxTime = before at reads
    induction reads generalizing beforeTsMs with
    | @last before page answered short =>
        subst start
        have replied : tables.Replies codec entity beforeTsMs limit
            ⟨page.map fun row => codec.entry row.2, false⟩ :=
          replies_iff.mpr ⟨page, answered, rfl, by simpa using short⟩
        exact .last replied rfl
    | @more before page rest oldest answered full cursor next ih =>
        subst start
        have replied : tables.Replies codec entity beforeTsMs limit
            ⟨page.map fun row => codec.entry row.2, true⟩ :=
          replies_iff.mpr ⟨page, answered, rfl, by simpa using full⟩
        have later : tables.Pages codec entity limit (some oldest.1)
            (rest.map fun row => codec.entry row.2) := ih rfl
        rw [← @oldest_of_last codec tables entity limit _ page answered oldest cursor] at later
        rw [List.map_append]
        refine .more replied rfl ?_ later
        simp [List.getLast?_map, cursor]

theorem pages_exist (codec : Codec) (tables : Tables) (entity : String) (limit : Option Nat) :
    ∃ entries, tables.Pages codec entity limit none entries := by
  obtain ⟨rows, reads⟩ := Cursor.reads_exists Prod.fst (tables.rowsOf entity) (pageSize_pos limit)
    maxTime
  exact ⟨_, pages_iff_reads.mpr ⟨rows, reads, rfl⟩⟩

/-! ## What the pages hold -/

/-- The entries of an entity. -/
def entriesOf (codec : Codec) (tables : Tables) (entity : String) : List LogEntryDto :=
  (tables.rowsOf entity).map fun row => codec.entry row.2

/-- No page boundary falls between two rows of one time, and no row is at the end of time. -/
def PagesApart (tables : Tables) (entity : String) (limit : Option Nat) : Prop :=
  Cursor.Unsplit Prod.fst (tables.rowsOf entity) (pageSize limit) ∧
    ∀ row ∈ tables.rowsOf entity, row.1 < maxTime

theorem pages_perm_iff {entries : List LogEntryDto}
    (pages : tables.Pages codec entity limit none entries) :
    entries.Perm (tables.entriesOf codec entity) ↔ tables.PagesApart entity limit := by
  obtain ⟨rows, reads, rfl⟩ := pages_iff_reads.mp pages
  rw [Option.getD_none] at reads
  have inside : (Cursor.under Prod.fst (tables.rowsOf entity) maxTime).length ≤
      (tables.rowsOf entity).length := List.length_filter_le _ _
  have read := reads.subperm.length_le
  constructor
  · intro perm
    have all := perm.length_eq
    unfold entriesOf at all
    rw [List.length_map, List.length_map] at all
    have early : ∀ row ∈ tables.rowsOf entity, row.1 < maxTime := by
      have kept := List.length_filter_eq_length_iff.mp (le_antisymm inside (all ▸ read))
      intro row member
      simpa using kept row member
    have whole : Cursor.under Prod.fst (tables.rowsOf entity) maxTime = tables.rowsOf entity :=
      List.filter_eq_self.mpr fun row member => by simpa using early row member
    have complete := reads.perm_iff
    rw [whole] at complete
    refine ⟨complete.mp ?_, early⟩
    have some := reads.subperm
    rw [whole] at some
    exact some.perm_of_length_le all.ge
  · rintro ⟨unsplit, early⟩
    have whole : Cursor.under Prod.fst (tables.rowsOf entity) maxTime = tables.rowsOf entity :=
      List.filter_eq_self.mpr fun row member => by simpa using early row member
    have complete := reads.perm_iff
    rw [whole] at complete
    exact (complete.mpr unsplit).map _

theorem pages_descending {entries : List LogEntryDto}
    (pages : tables.Pages codec entity limit none entries) :
    Cursor.Descending LogEntryDto.timestampEpochMs entries := by
  obtain ⟨rows, reads, rfl⟩ := pages_iff_reads.mp pages
  have time : ∀ row ∈ rows, row.2.tsMs = row.1 := fun row member =>
    (mem_rowsOf (Cursor.mem_under.mp (reads.subperm.subset member)).1).1
  refine List.pairwise_map.mpr (reads.descending.imp_of_mem fun first second le => ?_)
  change (_ : LogRow).tsMs ≤ (_ : LogRow).tsMs
  rw [time _ first, time _ second]
  exact le

/-- Following the cursor ends, and it returns every row of the entity once, the latest first,
exactly when no page boundary falls between two rows of one time. -/
theorem entity_log_complete_iff (codec : Codec) (tables : Tables) (entity : String)
    (limit : Option Nat) :
    (∃ entries, tables.Pages codec entity limit none entries) ∧
      ∀ entries, tables.Pages codec entity limit none entries →
        (entries.Perm (tables.entriesOf codec entity) ∧
          Cursor.Descending LogEntryDto.timestampEpochMs entries ↔
            tables.PagesApart entity limit) := by
  refine ⟨pages_exist codec tables entity limit, fun entries pages => ?_⟩
  rw [← pages_perm_iff pages]
  exact and_iff_left (pages_descending pages)

end Tables

/-- A decision about a lamp. -/
def lampDecision (timestampEpochMs : Nat) : DecisionLogEntry where
  timestampEpochMs
  eventSummary := "lamp"
  decisions := []
  actionsEmitted := []
  involvedEntities := ["lamp"]

/-- JSON of decisions without text or actions. -/
def emptyCodec : Codec where
  writeDecisions _ := "[]"
  writeActions _ := "[]"
  readDecisions _ := some []
  readActions _ := some []

namespace Tables

/-- Two decisions of one millisecond, and an earlier one. -/
def lampLog : Tables :=
  ((empty.insert emptyCodec (lampDecision 5)).insert emptyCodec (lampDecision 7)).insert emptyCodec
    (lampDecision 7)

theorem rowsOf_lampLog : lampLog.rowsOf "lamp" =
    [(5, ⟨1, 5, "lamp", "[]", "[]"⟩), (7, ⟨2, 7, "lamp", "[]", "[]"⟩),
      (7, ⟨3, 7, "lamp", "[]", "[]"⟩)] := by decide +kernel

/-- In pages of two rows, the two decisions of one millisecond share a page. -/
theorem entity_log_complete_iff_lamp : ∃ entries,
    lampLog.Pages emptyCodec "lamp" (some 2) none entries ∧
      (entries.Perm (lampLog.entriesOf emptyCodec "lamp") ∧
        Cursor.Descending LogEntryDto.timestampEpochMs entries) := by
  obtain ⟨⟨entries, pages⟩, complete⟩ := entity_log_complete_iff emptyCodec lampLog "lamp" (some 2)
  refine ⟨entries, pages, (complete entries pages).mpr ?_⟩
  unfold PagesApart Cursor.Unsplit Cursor.above Cursor.downTo pageSize maxLimit maxTime
  rw [rowsOf_lampLog]
  constructor
  · intro entry member page
    simp only [List.mem_cons, List.not_mem_nil, or_false] at member
    rcases member with rfl | rfl | rfl
    · simp
      omega
    · simp
      omega
    · simp
      omega
  · simp

/-- One row a page: the second decision of the millisecond is lost. -/
theorem entity_log_complete_fails : ∃ entries,
    lampLog.Pages emptyCodec "lamp" (some 1) none entries ∧
      ¬ entries.Perm (lampLog.entriesOf emptyCodec "lamp") := by
  obtain ⟨entries, pages⟩ := pages_exist emptyCodec lampLog "lamp" (some 1)
  refine ⟨entries, pages, fun perm => ?_⟩
  have apart := ((pages_perm_iff pages).mp perm).1
  rw [rowsOf_lampLog] at apart
  have outside := apart (7, ⟨2, 7, "lamp", "[]", "[]"⟩) (by simp) 1
  revert outside
  decide

end Tables

end MqttController.Audit
