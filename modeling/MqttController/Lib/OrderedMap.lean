import Mathlib.Data.Rat.Floor
import Mathlib.Data.List.Induction
import Mathlib.Data.List.Nodup
import Mathlib.Data.List.Perm.Subperm

/-!
# Ordered maps with default entries

Update of one entry of an ordered map starting from a fresh value when the key is absent, update of
every entry, and the number of entries whose value satisfies a predicate.
-/

open Std

namespace OrderedMap

variable {κ α β : Type*} {order : κ → κ → Ordering}

/-- Replace the value at `key` by its change, starting from `fresh` when the key is absent. -/
def upsert (entries : TreeMap κ α order) (key : κ) (fresh : α) (change : α → α) :
    TreeMap κ α order :=
  entries.insert key (change (entries[key]?.getD fresh))

/-- Change the value at `key` when the key is present. -/
def adjust (entries : TreeMap κ α order) (key : κ) (change : α → α) : TreeMap κ α order :=
  match entries[key]? with
  | some value => entries.insert key (change value)
  | none => entries

/-- Change every value, keeping the keys. -/
def mapValues (entries : TreeMap κ α order) (change : α → β) : TreeMap κ β order :=
  entries.map fun _ value => change value

/-- The number of entries whose value satisfies `holds`. -/
def countValues (entries : TreeMap κ α order) (holds : α → Bool) : Nat :=
  entries.toList.countP fun entry => holds entry.2

/-- The results of `pick` on the values, in key order. -/
def pickValues (entries : TreeMap κ α order) (pick : α → Option β) : List β :=
  entries.toList.filterMap fun entry => pick entry.2

/-- Whether some entry's value satisfies `holds`. -/
def anyValue (entries : TreeMap κ α order) (holds : α → Bool) : Bool :=
  entries.toList.any fun entry => holds entry.2

section Lookup

variable [TransCmp order] [LawfulEqCmp order]

theorem getElem?_upsert [DecidableEq κ] (entries : TreeMap κ α order) (key other : κ) (fresh : α)
    (change : α → α) :
    (upsert entries key fresh change)[other]? =
      if key = other then some (change (entries[key]?.getD fresh)) else entries[other]? := by
  unfold upsert
  rw [TreeMap.getElem?_insert]
  simp only [LawfulEqCmp.compare_eq_iff_eq]

omit [LawfulEqCmp order] in
@[simp]
theorem getElem?_upsert_self (entries : TreeMap κ α order) (key : κ) (fresh : α)
    (change : α → α) :
    (upsert entries key fresh change)[key]? = some (change (entries[key]?.getD fresh)) := by
  unfold upsert
  rw [TreeMap.getElem?_insert_self]

theorem getElem?_upsert_of_ne (entries : TreeMap κ α order) {key other : κ} (fresh : α)
    (change : α → α) (different : key ≠ other) :
    (upsert entries key fresh change)[other]? = entries[other]? := by
  classical
  rw [getElem?_upsert, if_neg different]

theorem getElem?_adjust [DecidableEq κ] (entries : TreeMap κ α order) (key other : κ)
    (change : α → α) :
    (adjust entries key change)[other]? =
      if key = other then entries[key]?.map change else entries[other]? := by
  unfold adjust
  split
  · rename_i value found
    rw [TreeMap.getElem?_insert, found]
    simp only [LawfulEqCmp.compare_eq_iff_eq, Option.map_some]
  · rename_i missing
    by_cases same : key = other
    · subst same
      rw [if_pos rfl, missing, Option.map_none]
    · rw [if_neg same]

@[simp]
theorem getElem?_mapValues (entries : TreeMap κ α order) (change : α → β) (key : κ) :
    (mapValues entries change)[key]? = entries[key]?.map change := by
  unfold mapValues
  rw [TreeMap.getElem?_map]

theorem anyValue_eq_true_iff (entries : TreeMap κ α order) (holds : α → Bool) :
    anyValue entries holds = true ↔
      ∃ (key : κ) (value : α), entries[key]? = some value ∧ holds value := by
  unfold anyValue
  rw [List.any_eq_true]
  constructor
  · rintro ⟨⟨key, value⟩, member, good⟩
    exact ⟨key, value, TreeMap.mem_toList_iff_getElem?_eq_some.mp member, good⟩
  · rintro ⟨key, value, found, good⟩
    exact ⟨(key, value), TreeMap.mem_toList_iff_getElem?_eq_some.mpr found, good⟩

theorem mem_pickValues (entries : TreeMap κ α order) (pick : α → Option β) (picked : β) :
    picked ∈ pickValues entries pick ↔
      ∃ (key : κ) (value : α), entries[key]? = some value ∧ pick value = some picked := by
  unfold pickValues
  rw [List.mem_filterMap]
  constructor
  · rintro ⟨⟨key, value⟩, member, chosen⟩
    exact ⟨key, value, TreeMap.mem_toList_iff_getElem?_eq_some.mp member, chosen⟩
  · rintro ⟨key, value, found, chosen⟩
    exact ⟨(key, value), TreeMap.mem_toList_iff_getElem?_eq_some.mpr found, chosen⟩

theorem countValues_eq_zero_iff (entries : TreeMap κ α order) (holds : α → Bool) :
    countValues entries holds = 0 ↔
      ∀ (key : κ) (value : α), entries[key]? = some value → ¬ holds value := by
  unfold countValues
  rw [List.countP_eq_zero]
  constructor
  · intro none key value found
    exact none (key, value) (TreeMap.mem_toList_iff_getElem?_eq_some.mpr found)
  · intro none entry member
    exact none entry.1 entry.2 (TreeMap.mem_toList_iff_getElem?_eq_some.mp member)

omit [TransCmp order] [LawfulEqCmp order] in
theorem anyValue_eq_countValues_pos (entries : TreeMap κ α order) (holds : α → Bool) :
    anyValue entries holds = decide (0 < countValues entries holds) := by
  unfold anyValue countValues
  rw [Bool.eq_iff_iff, List.any_eq_true, decide_eq_true_iff, List.countP_pos_iff]

/-- Every key is listed once. -/
theorem nodup_keys (entries : TreeMap κ α order) : (entries.toList.map Prod.fst).Nodup := by
  rw [TreeMap.map_fst_toList_eq_keys]
  refine entries.distinct_keys.imp ?_
  intro first second differs equal
  exact differs (LawfulEqCmp.compare_eq_iff_eq.mpr equal)

/-- The counted entries have their keys in any list that covers them. -/
theorem countValues_le (entries : TreeMap κ α order) (holds : α → Bool) {keys : List κ}
    (covers : ∀ (key : κ) (value : α), entries[key]? = some value → holds value → key ∈ keys) :
    countValues entries holds ≤ keys.length := by
  have distinct : ((entries.toList.filter fun entry => holds entry.2).map Prod.fst).Nodup :=
    (nodup_keys entries).sublist (List.filter_sublist.map Prod.fst)
  have inside : (entries.toList.filter fun entry => holds entry.2).map Prod.fst ⊆ keys := by
    intro key listed
    obtain ⟨⟨_, value⟩, inside, rfl⟩ := List.mem_map.mp listed
    rw [List.mem_filter] at inside
    exact covers _ value (TreeMap.mem_toList_iff_getElem?_eq_some.mp inside.1) inside.2
  have bound := (List.Nodup.subperm distinct inside).length_le
  rwa [List.length_map, ← List.countP_eq_length_filter] at bound

/-- The entries with a key are the one that is stored there. -/
theorem filter_key [DecidableEq κ] (entries : TreeMap κ α order) (key : κ) :
    (entries.toList.filter fun entry => decide (entry.1 = key)) =
      (entries[key]?).toList.map fun value => (key, value) := by
  cases found : entries[key]? with
  | none =>
      rw [Option.toList_none, List.map_nil, List.filter_eq_nil_iff]
      rintro ⟨other, value⟩ member
      have stored := TreeMap.mem_toList_iff_getElem?_eq_some.mp member
      rw [decide_eq_true_iff]
      rintro rfl
      rw [found] at stored
      cases stored
  | some value =>
      rw [Option.toList_some, List.map_singleton, ← List.perm_singleton,
        List.perm_ext_iff_of_nodup ((List.Nodup.of_map Prod.fst (nodup_keys entries)).filter _)
          (List.nodup_singleton _)]
      rintro ⟨other, stored⟩
      rw [List.mem_filter, decide_eq_true_iff, List.mem_singleton,
        TreeMap.mem_toList_iff_getElem?_eq_some]
      constructor
      · rintro ⟨here, rfl⟩
        rw [found] at here
        cases here
        rfl
      · intro same
        cases same
        exact ⟨found, rfl⟩

end Lookup

section Count

variable [DecidableEq κ] [TransCmp order] [LawfulEqCmp order]

private theorem countP_filter_key_ne (rows : List (κ × α)) (holds : α → Bool) (key : κ)
    (distinct : (rows.map Prod.fst).Nodup) (value : α) (member : (key, value) ∈ rows) :
    (rows.filter fun entry => !(key == entry.1)).countP (fun entry => holds entry.2) +
        (if holds value then 1 else 0) =
      rows.countP fun entry => holds entry.2 := by
  induction rows with
  | nil => simp at member
  | cons row rows ih =>
      rw [List.map_cons, List.nodup_cons] at distinct
      rcases List.mem_cons.mp member with rfl | member
      · have untouched : rows.filter (fun entry => !(key == entry.1)) = rows := by
          rw [List.filter_eq_self]
          intro entry entryMem
          have : key ≠ entry.1 := fun equal =>
            distinct.1 (List.mem_map.mpr ⟨entry, entryMem, equal.symm⟩)
          simpa using this
        rw [List.filter_cons]
        simp [untouched, List.countP_cons]
      · have differs : key ≠ row.1 := fun equal =>
          distinct.1 (List.mem_map.mpr ⟨(key, value), member, equal⟩)
        rw [List.filter_cons]
        have step := ih distinct.2 member
        simp only [differs, Bool.not_eq_true', not_false_eq_true,
          beq_eq_false_iff_ne, ne_eq, if_true, List.countP_cons]
        omega

/-- Replacing one value changes the count by the old and the new value's contribution. -/
theorem countValues_insert (entries : TreeMap κ α order) (key : κ) (value : α)
    (holds : α → Bool) :
    countValues (entries.insert key value) holds +
        (if entries[key]?.any holds then 1 else 0) =
      countValues entries holds + (if holds value then 1 else 0) := by
  unfold countValues
  rw [TreeMap.toList_insert_perm.countP_eq, List.countP_cons]
  cases found : entries[key]? with
  | none =>
      have untouched :
          entries.toList.filter (fun entry => decide ¬(key == entry.1) = true) =
            entries.toList := by
        rw [List.filter_eq_self]
        rintro ⟨other, stored⟩ member
        have stored := TreeMap.mem_toList_iff_getElem?_eq_some.mp member
        have : key ≠ other := by
          rintro rfl
          rw [found] at stored
          cases stored
        simpa using this
      rw [untouched]
      simp
  | some old =>
      have member : (key, old) ∈ entries.toList :=
        TreeMap.mem_toList_iff_getElem?_eq_some.mpr found
      have split := countP_filter_key_ne entries.toList holds key (nodup_keys entries) old member
      have same : (fun entry : κ × α => decide ¬(key == entry.1) = true) =
          fun entry => !(key == entry.1) := by
        funext entry
        cases key == entry.1 <;> rfl
      rw [same]
      simp only [Option.any_some]
      omega

end Count

/-! ## Positions by key -/

/-- Note a position under a key, if there is one. -/
def pushAt (index : TreeMap κ (List Nat) order) (key : Option κ) (position : Nat) :
    TreeMap κ (List Nat) order :=
  match key with
  | none => index
  | some key => upsert index key [] (· ++ [position])

section Positions

variable [DecidableEq κ] {keyOf : β → Option κ} {index : TreeMap κ (List Nat) order}
  {items : List β}

/-- The index has the positions of the items with each key, in order. -/
def Indexes (keyOf : β → Option κ) (index : TreeMap κ (List Nat) order) (items : List β) : Prop :=
  ∀ key, (index[key]?).getD [] = (List.range items.length).filter fun position =>
    (items[position]?).any fun item => keyOf item == some key

theorem indexes_empty [TransCmp order] :
    Indexes keyOf (∅ : TreeMap κ (List Nat) order) [] := by
  intro key
  simp

theorem filter_range_concat (items : List β) (item : β) (holds : β → Bool) :
    ((List.range (items ++ [item]).length).filter fun position =>
        ((items ++ [item])[position]?).any holds) =
      ((List.range items.length).filter fun position => (items[position]?).any holds) ++
        if holds item then [items.length] else [] := by
  rw [List.length_append, List.length_singleton, List.range_succ, List.filter_append,
    List.filter_singleton, Bool.cond_eq_ite]
  congr 1
  · apply List.filter_congr
    intro position inside
    rw [List.getElem?_append_left (List.mem_range.mp inside)]
  · rw [List.getElem?_concat_length, Option.any_some]

theorem Indexes.push [TransCmp order] [LawfulEqCmp order] (indexes : Indexes keyOf index items)
    (item : β) : Indexes keyOf (pushAt index (keyOf item) items.length) (items ++ [item]) := by
  intro key
  rw [filter_range_concat, ← indexes key]
  unfold pushAt
  cases keyed : keyOf item with
  | none => simp
  | some own =>
      rw [getElem?_upsert]
      by_cases same : own = key
      · subst same
        simp
      · simp [same]

/-- Looking positions up is going through all items. -/
theorem Indexes.filterMap_eq (indexes : Indexes keyOf index items) (key : κ) :
    ((index[key]?).getD []).filterMap (items[·]?) =
      items.filter fun item => keyOf item == some key := by
  rw [indexes key]
  clear indexes
  induction items using List.reverseRecOn with
  | nil => rfl
  | append_singleton items item ih =>
      rw [filter_range_concat, List.filterMap_append, List.filter_append, ← ih]
      congr 1
      · apply List.filterMap_congr
        intro position inside
        rw [List.getElem?_append_left (List.mem_range.mp (List.mem_filter.mp inside).1)]
      · rw [List.filter_singleton, Bool.cond_eq_ite]
        split
        · simp
        · rfl

end Positions

end OrderedMap
