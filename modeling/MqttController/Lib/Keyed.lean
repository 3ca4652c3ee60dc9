import Mathlib.Data.List.Nodup

/-!
# Lists with distinct keys

Among entries with different keys, a key picks one entry, wherever the search begins.
-/

namespace Keyed

variable {α κ : Type*} [DecidableEq κ] {key : α → κ} {entries : List α} {entry : α}

theorem filter_eq (nodup : (entries.map key).Nodup) (listed : entry ∈ entries) :
    entries.filter (fun other => key other == key entry) = [entry] := by
  induction entries with
  | nil => cases listed
  | cons first rest ih =>
      rw [List.map_cons, List.nodup_cons] at nodup
      rcases List.mem_cons.mp listed with rfl | member
      · have others : rest.filter (fun other => key other == key entry) = [] := by
          rw [List.filter_eq_nil_iff]
          intro other inside same
          exact nodup.1 (List.mem_map.mpr ⟨other, inside, eq_of_beq same⟩)
        rw [List.filter_cons, if_pos (beq_self_eq_true (key entry)), others]
      · have different : ¬ (key first == key entry) = true := by
          intro same
          exact nodup.1 (List.mem_map.mpr ⟨entry, member, (eq_of_beq same).symm⟩)
        rw [List.filter_cons, if_neg different]
        exact ih nodup.2 member

theorem find?_eq (nodup : (entries.map key).Nodup) (listed : entry ∈ entries) :
    entries.find? (fun other => key other == key entry) = some entry := by
  have found : (entries.find? fun other => key other == key entry).isSome :=
    List.find?_isSome.mpr ⟨entry, listed, by simp⟩
  obtain ⟨other, found⟩ := Option.isSome_iff_exists.mp found
  have same : key other = key entry := by simpa using List.find?_some found
  rw [found, List.inj_on_of_nodup_map nodup (List.mem_of_find?_eq_some found) listed same]

theorem find?_reverse_eq (nodup : (entries.map key).Nodup) (listed : entry ∈ entries) :
    entries.reverse.find? (fun other => key other == key entry) = some entry := by
  apply find?_eq
  · rw [List.map_reverse, List.nodup_reverse]
    exact nodup
  · exact List.mem_reverse.mpr listed

/-- Appending an entry with a new key. -/
theorem find?_append {new : α} (absent : entries.findIdx? (fun other => key other = key new) = none)
    (sought : κ) :
    (entries ++ [new]).find? (fun other => key other = sought) =
      if key new = sought then some new else entries.find? (fun other => key other = sought) := by
  rw [List.find?_append]
  split
  · rename_i same
    subst same
    have none : entries.find? (fun other => key other = key new) = none := by
      rw [List.findIdx?_eq_none_iff] at absent
      rw [List.find?_eq_none]
      intro other listed
      simpa using absent other listed
    rw [none, Option.none_or, List.find?_singleton, if_pos (by simp)]
  · rename_i other
    rw [List.find?_singleton, if_neg (by simpa using other), Option.or_none]

/-- Replacing the first entry with a key. -/
theorem find?_set {new : α} {index : Nat}
    (found : entries.findIdx? (fun other => key other = key new) = some index) (sought : κ) :
    (entries.set index new).find? (fun other => key other = sought) =
      if key new = sought then some new else entries.find? (fun other => key other = sought) := by
  induction entries generalizing index with
  | nil => cases found
  | cons first rest ih =>
      rw [List.findIdx?_cons] at found
      by_cases here : key first = key new
      · rw [if_pos (by simpa using here)] at found
        cases found
        rw [List.set_cons_zero, List.find?_cons, List.find?_cons]
        rw [here]
        by_cases same : key new = sought
        · simp [same]
        · simp [same]
      · rw [if_neg (by simpa using here)] at found
        obtain ⟨later, position, rfl⟩ := Option.map_eq_some_iff.mp found
        rw [List.set_cons_succ, List.find?_cons, List.find?_cons, ih position]
        by_cases same : key new = sought
        · have other : key first ≠ sought := fun equal => here (equal.trans same.symm)
          simp [same, other]
        · simp only [if_neg same]

end Keyed
