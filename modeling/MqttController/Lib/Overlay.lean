import Mathlib.Data.List.Basic

/-!
# Overlaying messages

Messages each give a value anew or say nothing about it.  Of several messages in order the last one
that says something decides, so that a copy of the value may miss any message that is followed by
another about the value.
-/

namespace Overlay

variable {μ σ : Type*} (tells : μ → Option σ)

/-- The value after messages that may give it anew. -/
def overlay (messages : List μ) (start : σ) : σ :=
  messages.foldl (fun value message => (tells message).getD value) start

@[simp]
theorem overlay_nil (start : σ) : overlay tells [] start = start := rfl

@[simp]
theorem overlay_cons (message : μ) (messages : List μ) (start : σ) :
    overlay tells (message :: messages) start =
      overlay tells messages ((tells message).getD start) := rfl

theorem overlay_append (earlier later : List μ) (start : σ) :
    overlay tells (earlier ++ later) start = overlay tells later (overlay tells earlier start) :=
  List.foldl_append

theorem overlay_concat (messages : List μ) (message : μ) (start : σ) :
    overlay tells (messages ++ [message]) start =
      (tells message).getD (overlay tells messages start) := by
  rw [overlay_append]
  rfl

variable {tells}

/-- Messages that say nothing leave the value. -/
theorem overlay_silent {messages : List μ} (silent : ∀ message ∈ messages, tells message = none)
    (start : σ) : overlay tells messages start = start := by
  induction messages generalizing start with
  | nil => rfl
  | cons message rest ih =>
      rw [List.forall_mem_cons] at silent
      rw [overlay_cons, silent.1, Option.getD_none]
      exact ih silent.2 start

/-- When some message gives the value, it does not matter what it was. -/
theorem overlay_congr {messages : List μ} (speaks : ∃ message ∈ messages, (tells message).isSome)
    (first second : σ) : overlay tells messages first = overlay tells messages second := by
  induction messages generalizing first second with
  | nil =>
      obtain ⟨message, listed, _⟩ := speaks
      cases listed
  | cons message rest ih =>
      rw [overlay_cons, overlay_cons]
      by_cases later : ∃ message ∈ rest, (tells message).isSome
      · exact ih later _ _
      · obtain ⟨other, listed, told⟩ := speaks
        rcases List.mem_cons.mp listed with rfl | inside
        · obtain ⟨value, same⟩ := Option.isSome_iff_exists.mp told
          rw [same, Option.getD_some, Option.getD_some]
        · exact absurd ⟨other, inside, told⟩ later

end Overlay
