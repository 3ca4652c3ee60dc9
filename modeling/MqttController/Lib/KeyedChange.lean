import Mathlib.Logic.Relation

/-!
# Changes of keyed families

A family of entries changes by steps when every entry takes finitely many steps of the relation its
key allows.  What each step preserves at a key is preserved at that key by the whole change.
-/

namespace KeyedChange

open Relation

variable {κ α : Type*}

/-- Every entry takes finitely many steps of its key's relation. -/
def Steps (step : κ → α → α → Prop) (before after : κ → α) : Prop :=
  ∀ key, ReflTransGen (step key) (before key) (after key)

namespace Steps

variable {step step' : κ → α → α → Prop} {before middle after : κ → α}

theorem refl (step : κ → α → α → Prop) (before : κ → α) : Steps step before before :=
  fun _ => ReflTransGen.refl

theorem of_eq (same : after = before) : Steps step before after := by
  rw [same]
  exact refl step before

theorem trans (first : Steps step before middle) (second : Steps step middle after) :
    Steps step before after :=
  fun key => (first key).trans (second key)

/-- Changing one entry by a step. -/
theorem update [DecidableEq κ] {changed : κ} {value : α}
    (taken : step changed (before changed) value)
    (result : ∀ key, after key = if changed = key then value else before key) :
    Steps step before after := by
  intro key
  rw [result key]
  split
  · rename_i same
    subst same
    exact ReflTransGen.single taken
  · exact ReflTransGen.refl

/-- What the steps of one key preserve. -/
theorem preserves {key : κ} (holds : α → Prop) (steps : Steps step before after)
    (keep : ∀ first second, step key first second → holds first → holds second)
    (start : holds (before key)) : holds (after key) := by
  generalize after key = final, steps key = path
  clear steps
  induction path with
  | refl => exact start
  | tail _ last ih => exact keep _ _ last ih

/-- An entry whose key allows no step is unchanged. -/
theorem eq_of_no_step {key : κ} (steps : Steps step before after)
    (none : ∀ first second, ¬ step key first second) : after key = before key :=
  steps.preserves (fun value => value = before key)
    (fun first second taken => absurd taken (none first second)) rfl

end Steps

end KeyedChange
