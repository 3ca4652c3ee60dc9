import Mathlib.Data.List.Basic

/-!
# Lists of checked results

What a successful pass of a fallible function over a list says about its results.
-/

namespace Checked

variable {ε α β : Type*}

theorem ok_of_map {result : Except ε α} {build : α → β} {built : β}
    (mapped : result.map build = .ok built) :
    ∃ value, result = .ok value ∧ built = build value := by
  cases result with
  | error error => cases mapped
  | ok value =>
      cases mapped
      exact ⟨value, rfl, rfl⟩

theorem ok_of_bind.{u, v} {ε : Type u} {α β : Type v} {result : Except ε α}
    {next : α → Except ε β} {value : β}
    (passed : result >>= next = .ok value) :
    ∃ between, result = .ok between ∧ next between = .ok value := by
  cases result with
  | error error => cases passed
  | ok between => exact ⟨between, rfl, passed⟩

theorem mapM_cons_ok {check : α → Except ε β} {item : α} {rest : List α} {results : List β}
    (passed : (item :: rest).mapM check = .ok results) :
    ∃ result more, check item = .ok result ∧ rest.mapM check = .ok more ∧
      results = result :: more := by
  rw [List.mapM_cons] at passed
  cases here : check item with
  | error error =>
      rw [here] at passed
      cases passed
  | ok result =>
      cases there : rest.mapM check with
      | error error =>
          rw [here, there] at passed
          cases passed
      | ok more =>
          rw [here, there] at passed
          cases passed
          exact ⟨result, more, rfl, rfl, rfl⟩

/-- Every result of a successful pass comes from an item of the list. -/
theorem mem_of_mapM_ok {check : α → Except ε β} {items : List α} {results : List β}
    (passed : items.mapM check = .ok results) {result : β} (member : result ∈ results) :
    ∃ item ∈ items, check item = .ok result := by
  induction items generalizing results with
  | nil =>
      rw [List.mapM_nil] at passed
      cases passed
      cases member
  | cons item rest ih =>
      obtain ⟨first, more, here, there, rfl⟩ := mapM_cons_ok passed
      rcases List.mem_cons.mp member with rfl | member
      · exact ⟨item, List.mem_cons_self, here⟩
      · obtain ⟨other, otherMem, checked⟩ := ih there member
        exact ⟨other, List.mem_cons_of_mem _ otherMem, checked⟩

/-- Every item of the list has its result in a successful pass. -/
theorem exists_of_mapM_ok {check : α → Except ε β} {items : List α} {results : List β}
    (passed : items.mapM check = .ok results) {item : α} (member : item ∈ items) :
    ∃ result ∈ results, check item = .ok result := by
  induction items generalizing results with
  | nil => cases member
  | cons first rest ih =>
      obtain ⟨result, more, here, there, rfl⟩ := mapM_cons_ok passed
      rcases List.mem_cons.mp member with rfl | member
      · exact ⟨result, List.mem_cons_self, here⟩
      · obtain ⟨other, otherMem, checked⟩ := ih there member
        exact ⟨other, List.mem_cons_of_mem _ otherMem, checked⟩

/-- A successful pass yields one result for each item. -/
theorem length_of_mapM_ok {check : α → Except ε β} {items : List α} {results : List β}
    (passed : items.mapM check = .ok results) : results.length = items.length := by
  induction items generalizing results with
  | nil =>
      rw [List.mapM_nil] at passed
      cases passed
      rfl
  | cons item rest ih =>
      obtain ⟨first, more, _, there, rfl⟩ := mapM_cons_ok passed
      rw [List.length_cons, List.length_cons, ih there]

/-- A pass of checks succeeds if every check does. -/
theorem forM_ok_iff {check : α → Except ε Unit} {items : List α} :
    items.forM check = .ok () ↔ ∀ item ∈ items, check item = .ok () := by
  induction items with
  | nil => simp [pure, Except.pure]
  | cons item rest ih =>
      rw [List.forall_mem_cons, ← ih]
      change (check item >>= fun _ => rest.forM check) = .ok () ↔ _
      cases here : check item with
      | error error => simp [bind, Except.bind]
      | ok passed => simp [bind, Except.bind]

end Checked
