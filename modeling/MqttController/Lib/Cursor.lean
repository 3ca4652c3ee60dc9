import Mathlib.Data.List.Sort
import Mathlib.Data.List.Perm.Subperm

/-!
# Reading by a strict cursor

Entries are read page by page from the highest key down.  A page holds the first entries below a
key, ties in any order, and the next page starts below the key of its last entry.  Nothing is lost
exactly when no page boundary falls between two entries with one key.
-/

namespace Cursor

variable {α κ : Type*} [LinearOrder κ]

section Definitions

variable (key : α → κ) (entries : List α)

/-- The entries below a key. -/
def under (before : κ) : List α := entries.filter fun entry => decide (key entry < before)

/-- From the highest key down. -/
def Descending (entries : List α) : Prop :=
  entries.Pairwise fun first second => key second ≤ key first

/-- A page of the entries below a key. -/
def Answers (before : κ) (limit : Nat) (page : List α) : Prop :=
  ∃ sorted, sorted.Perm (under key entries before) ∧ Descending key sorted ∧
    page = sorted.take limit

/-- Reading page by page until a page is not full. -/
inductive Reads (limit : Nat) : κ → List α → Prop
  | last {before : κ} {page : List α} (answered : Answers key entries before limit page)
      (short : page.length ≠ limit) : Reads limit before page
  | more {before : κ} {page rest : List α} {oldest : α}
      (answered : Answers key entries before limit page) (full : page.length = limit)
      (cursor : page.getLast? = some oldest) (next : Reads limit (key oldest) rest) :
      Reads limit before (page ++ rest)

/-- How many entries have a higher key. -/
def above (bound : κ) : Nat := entries.countP fun entry => decide (bound < key entry)

/-- How many entries have a key at least as high. -/
def downTo (bound : κ) : Nat := entries.countP fun entry => decide (bound ≤ key entry)

/-- No page boundary falls between two entries with one key. -/
def Unsplit (limit : Nat) : Prop :=
  ∀ entry ∈ entries, ∀ pages, pages * limit ≤ above key entries (key entry) ∨
    downTo key entries (key entry) ≤ pages * limit

end Definitions

variable {key : α → κ} {entries : List α} {limit : Nat}

theorem mem_under {before : κ} {entry : α} :
    entry ∈ under key entries before ↔ entry ∈ entries ∧ key entry < before := by
  simp [under]

theorem under_under {before lower : κ} (le : lower ≤ before) :
    under key (under key entries before) lower = under key entries lower := by
  unfold under
  rw [List.filter_filter]
  refine List.filter_congr fun entry _ => ?_
  rw [← Bool.decide_and, decide_eq_decide]
  exact ⟨And.left, fun less => ⟨less, less.trans_le le⟩⟩

theorem unsplit_perm {other : List α} (perm : entries.Perm other) (limit : Nat) :
    Unsplit key entries limit ↔ Unsplit key other limit := by
  unfold Unsplit above downTo
  simp only [perm.countP_eq, perm.mem_iff]

/-! ## One page -/

/-- A full page cuts the sorted entries at the key of its last entry. -/
structure Cut (key : α → κ) (page rest : List α) (bound : κ) : Prop where
  reached : ∃ entry ∈ page, key entry = bound
  page_ge : ∀ entry ∈ page, bound ≤ key entry
  rest_le : ∀ entry ∈ rest, key entry ≤ bound

theorem cut_of_full {sorted : List α} (descending : Descending key sorted) {oldest : α}
    (cursor : (sorted.take limit).getLast? = some oldest) :
    Cut key (sorted.take limit) (sorted.drop limit) (key oldest) := by
  have member : oldest ∈ sorted.take limit := List.mem_of_getLast? cursor
  obtain ⟨front, split⟩ := List.getLast?_eq_some_iff.mp cursor
  have parts : Descending key (sorted.take limit ++ sorted.drop limit) := by
    rwa [List.take_append_drop]
  obtain ⟨page, _, across⟩ := List.pairwise_append.mp parts
  refine ⟨⟨oldest, member, rfl⟩, fun entry inside => ?_, fun entry inside =>
    across oldest member entry inside⟩
  rw [split] at page inside
  rcases List.mem_append.mp inside with early | last
  · exact (List.pairwise_append.mp page).2.2 entry early oldest (List.mem_singleton_self _)
  · rw [List.mem_singleton.mp last]

theorem length_split (key : α → κ) (rest : List α) (bound : κ) :
    rest.length = (under key rest bound).length + downTo key rest bound := by
  unfold under downTo
  rw [← List.countP_eq_length_filter, List.length_eq_countP_add_countP
    (fun entry => decide (key entry < bound))]
  congr 1
  refine List.countP_congr fun entry _ => ?_
  simp

namespace Cut

variable {page rest : List α} {bound : κ}

/-- What the next page may read is what is left below the cut. -/
theorem under_eq (cut : Cut key page rest bound) :
    under key (page ++ rest) bound = under key rest bound := by
  unfold under
  rw [List.filter_append, List.filter_eq_nil_iff.mpr, List.nil_append]
  intro entry inside
  simpa using cut.page_ge entry inside

theorem above_lt (cut : Cut key page rest bound) :
    above key (page ++ rest) bound < page.length := by
  obtain ⟨entry, inside, same⟩ := cut.reached
  unfold above
  rw [List.countP_append, (List.countP_eq_zero (l := rest)).mpr, Nat.add_zero]
  · refine lt_of_le_of_ne List.countP_le_length fun all => ?_
    have higher := List.countP_eq_length.mp all entry inside
    simp [same] at higher
  · intro entry inside
    simpa using cut.rest_le entry inside

theorem downTo_eq (cut : Cut key page rest bound) :
    downTo key (page ++ rest) bound = page.length + downTo key rest bound := by
  unfold downTo
  rw [List.countP_append, (List.countP_eq_length (l := page)).mpr]
  intro entry inside
  simpa using cut.page_ge entry inside

/-- Counting down to a key above the cut stays inside the page. -/
theorem downTo_le (cut : Cut key page rest bound) (lost : downTo key rest bound = 0) {higher : κ}
    (le : bound ≤ higher) : downTo key (page ++ rest) higher ≤ page.length := by
  have all := cut.downTo_eq
  rw [lost, Nat.add_zero] at all
  rw [← all]
  refine List.countP_mono_left fun entry _ reaches => ?_
  simp only [decide_eq_true_eq] at reaches ⊢
  exact le.trans reaches

/-- Counting down to a key below the cut counts the whole page. -/
theorem counts_add (cut : Cut key page rest bound) {lower : κ} (less : lower < bound) :
    above key (page ++ rest) lower = page.length + above key rest lower ∧
      downTo key (page ++ rest) lower = page.length + downTo key rest lower := by
  unfold above downTo
  rw [List.countP_append, List.countP_append,
    (List.countP_eq_length (l := page)).mpr fun entry inside => ?_,
    (List.countP_eq_length (l := page)).mpr fun entry inside => ?_]
  · exact ⟨rfl, rfl⟩
  · simpa using less.le.trans (cut.page_ge entry inside)
  · simpa using less.trans_le (cut.page_ge entry inside)

/-- A page boundary inside a group of one key is a split. -/
theorem not_unsplit (cut : Cut key page rest bound) (lost : 0 < downTo key rest bound) :
    ¬ Unsplit key (page ++ rest) page.length := by
  intro unsplit
  obtain ⟨entry, inside, same⟩ := cut.reached
  have higher := cut.above_lt
  have total := cut.downTo_eq
  have outside := unsplit entry (List.mem_append_left _ inside) 1
  rw [same] at outside
  omega

/-- When the page ends where a group ends, the splits are those of what is left. -/
theorem unsplit_iff (cut : Cut key page rest bound) (lost : downTo key rest bound = 0) :
    Unsplit key (page ++ rest) page.length ↔ Unsplit key rest page.length := by
  have low : ∀ entry ∈ rest, key entry < bound := by
    intro entry inside
    have absent := List.countP_eq_zero.mp lost entry inside
    simpa using absent
  constructor
  · intro unsplit entry inside pages
    obtain ⟨higher, total⟩ := cut.counts_add (low entry inside)
    have outside := unsplit entry (List.mem_append_right _ inside) (pages + 1)
    rw [higher, total, Nat.succ_mul] at outside
    omega
  · intro unsplit entry inside pages
    rcases List.mem_append.mp inside with inside | inside
    · cases pages with
      | zero => exact .inl (by omega)
      | succ pages =>
          have within := cut.downTo_le lost (cut.page_ge entry inside)
          refine .inr (within.trans ?_)
          exact Nat.le_mul_of_pos_left _ pages.succ_pos
    · obtain ⟨higher, total⟩ := cut.counts_add (low entry inside)
      rw [higher, total]
      cases pages with
      | zero => exact .inl (by omega)
      | succ pages =>
          have outside := unsplit entry inside pages
          rw [Nat.succ_mul]
          omega

end Cut

/-! ## All pages -/

/-- A full page of the entries below a key, and what it leaves. -/
theorem cut_of_answer {before : κ} {page : List α} {oldest : α}
    (answered : Answers key entries before limit page) (cursor : page.getLast? = some oldest) :
    ∃ rest, Cut key page rest (key oldest) ∧ (page ++ rest).Perm (under key entries before) ∧
      (under key rest (key oldest)).Perm (under key entries (key oldest)) ∧
        Descending key page := by
  obtain ⟨sorted, perm, descending, rfl⟩ := answered
  have cut := cut_of_full descending cursor
  have parts : (sorted.take limit ++ sorted.drop limit).Perm (under key entries before) := by
    rwa [List.take_append_drop]
  have inside : oldest ∈ under key entries before :=
    perm.mem_iff.mp (List.mem_of_mem_take (List.mem_of_getLast? cursor))
  refine ⟨sorted.drop limit, cut, parts, ?_, descending.sublist (List.take_sublist _ _)⟩
  have same : under key (under key entries before) (key oldest) = under key entries (key oldest) :=
    under_under (mem_under.mp inside).2.le
  rw [← cut.under_eq, ← same]
  exact parts.filter _

namespace Reads

variable {before : κ} {result : List α}

/-- Nothing is read twice. -/
theorem subperm (reads : Reads key entries limit before result) :
    result.Subperm (under key entries before) := by
  induction reads with
  | last answered short =>
      obtain ⟨sorted, perm, _, rfl⟩ := answered
      exact (List.take_sublist _ _).subperm.trans perm.subperm
  | @more before page rest oldest answered full cursor next ih =>
      obtain ⟨left, cut, parts, lower, _⟩ := cut_of_answer answered cursor
      have inside : rest.Subperm left :=
        (ih.trans lower.symm.subperm).trans List.filter_sublist.subperm
      exact ((List.subperm_append_left page).mpr inside).trans parts.subperm

theorem descending (reads : Reads key entries limit before result) : Descending key result := by
  induction reads with
  | last answered short =>
      obtain ⟨sorted, _, descending, rfl⟩ := answered
      exact descending.sublist (List.take_sublist _ _)
  | @more before page rest oldest answered full cursor next ih =>
      obtain ⟨left, cut, _, _, descending⟩ := cut_of_answer answered cursor
      refine List.pairwise_append.mpr ⟨descending, ih, fun first early second late => ?_⟩
      exact (mem_under.mp (next.subperm.subset late)).2.le.trans (cut.page_ge first early)

/-- Everything below the cursor is read exactly when no group of one key is split. -/
theorem perm_iff (reads : Reads key entries limit before result) :
    result.Perm (under key entries before) ↔ Unsplit key (under key entries before) limit := by
  induction reads with
  | @last before page answered short =>
      obtain ⟨sorted, perm, _, rfl⟩ := answered
      have few : sorted.length < limit := by
        rw [List.length_take] at short
        omega
      refine iff_of_true ?_ ((unsplit_perm perm limit).mp fun entry inside pages => ?_)
      · rwa [List.take_of_length_le few.le]
      · cases pages with
        | zero => exact .inl (by omega)
        | succ pages =>
            have within : downTo key sorted (key entry) ≤ sorted.length := List.countP_le_length
            refine .inr (within.trans (few.le.trans ?_))
            exact Nat.le_mul_of_pos_left _ pages.succ_pos
  | @more before page rest oldest answered full cursor next ih =>
      obtain ⟨left, cut, parts, lower, _⟩ := cut_of_answer answered cursor
      subst full
      rw [← unsplit_perm parts]
      cases lost : downTo key left (key oldest) with
      | zero =>
          have all : under key left (key oldest) = left := by
            refine List.filter_eq_self.mpr fun entry inside => ?_
            simpa using List.countP_eq_zero.mp lost entry inside
          rw [all] at lower
          rw [cut.unsplit_iff lost, unsplit_perm lower, ← ih]
          constructor
          · intro perm
            exact ((List.perm_append_left_iff page).mp (perm.trans parts.symm)).trans lower
          · intro perm
            exact ((perm.trans lower.symm).append_left page).trans parts
      | succ count =>
          refine iff_of_false (fun perm => ?_) (cut.not_unsplit (by omega))
          have total := perm.length_eq.trans parts.length_eq.symm
          have fewer := next.subperm.length_le
          rw [List.length_append, List.length_append] at total
          rw [← lower.length_eq] at fewer
          have lengths := length_split key left (key oldest)
          omega

end Reads

/-- Reading ends. -/
theorem reads_exists (key : α → κ) (entries : List α) {limit : Nat} (positive : 0 < limit)
    (before : κ) : ∃ result, Reads key entries limit before result := by
  generalize length : (under key entries before).length = count
  induction count using Nat.strong_induction_on generalizing before with
  | _ count ih =>
      let sorted := (under key entries before).mergeSort fun first second =>
        decide (key second ≤ key first)
      have perm : sorted.Perm (under key entries before) := List.mergeSort_perm _ _
      have descending : Descending key sorted := by
        have pairs : sorted.Pairwise fun first second =>
            decide (key second ≤ key first) = true := by
          refine List.pairwise_mergeSort ?_ ?_ _
          · intro first second third le le'
            simp only [decide_eq_true_eq] at le le' ⊢
            exact le'.trans le
          · intro first second
            simp only [Bool.or_eq_true, decide_eq_true_eq]
            exact le_total _ _
        exact pairs.imp fun le => by simpa using le
      have answered : Answers key entries before limit (sorted.take limit) :=
        ⟨sorted, perm, descending, rfl⟩
      by_cases full : (sorted.take limit).length = limit
      · obtain ⟨oldest, cursor⟩ : ∃ oldest, (sorted.take limit).getLast? = some oldest := by
          rw [← Option.isSome_iff_exists, List.getLast?_isSome, ← List.length_pos_iff, full]
          exact positive
        obtain ⟨left, cut, parts, lower, _⟩ := cut_of_answer answered cursor
        have shorter : (under key entries (key oldest)).length < count := by
          have whole := parts.length_eq
          have kept : (under key left (key oldest)).length ≤ left.length :=
            List.length_filter_le _ _
          rw [List.length_append, full] at whole
          rw [← lower.length_eq]
          omega
        obtain ⟨rest, reads⟩ := ih _ shorter (key oldest) rfl
        exact ⟨_, .more answered full cursor reads⟩
      · exact ⟨_, .last answered full⟩

end Cursor
