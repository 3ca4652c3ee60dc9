import MqttController.TopologyBuilt

/-!
# Refused configurations

Building a topology fails with nothing but reasons for refusing the configuration: no lookup that
the code takes for granted fails, and no loop goes on forever.
-/

namespace MqttController

open Std Checked

/-- The failure is a refusal. -/
def BuildFailure.IsRefusal (failure : BuildFailure) : Prop := ∃ error, failure = .refused error

theorem BuildFailure.isRefusal (error : TopologyError) :
    (BuildFailure.refused error).IsRefusal := ⟨error, rfl⟩

/-- The result is a value or a refusal. -/
abbrev Refuses {α : Type} (result : Except BuildFailure α) : Prop :=
  Only BuildFailure.IsRefusal result

namespace Refuses

variable {α β : Type}

theorem require {holds : Prop} [Decidable holds] {error : TopologyError} :
    Refuses (Checked.require holds (.refused error)) :=
  Only.require fun _ => BuildFailure.isRefusal error

theorem okOr {value : Option α} {error : TopologyError} :
    Refuses (Checked.okOr value (.refused error)) :=
  Only.okOr fun _ => BuildFailure.isRefusal error

/-- A lookup that is taken for granted does not fail. -/
theorem known {value : Option α} {failure : BuildFailure} (found : ∃ known, value = some known) :
    Refuses (Checked.okOr value failure) := by
  obtain ⟨known, rfl⟩ := found
  exact Only.ok known

theorem claim {κ β : Type} {order : κ → κ → Ordering} {owners : TreeMap κ β order} {key : κ}
    {owner : β} {clash : β → TopologyError} :
    Refuses (Checked.claim owners key owner fun other => .refused (clash other)) :=
  Only.claim fun other => BuildFailure.isRefusal (clash other)

theorem mapError {ε : Type} {result : Except ε α} (error : ε → TopologyError) :
    Refuses (result.mapError (BuildFailure.refused ∘ error)) :=
  Only.mapError fun inner => BuildFailure.isRefusal (error inner)

theorem refused (error : TopologyError) :
    Refuses (.error (.refused error) : Except BuildFailure α) :=
  Only.error (BuildFailure.isRefusal error)

/-- A check is followed by what may use that it has passed. -/
theorem andThen {first : Except BuildFailure α} {next : α → Except BuildFailure β}
    (here : Refuses first) (later : ∀ value, first = .ok value → Refuses (next value)) :
    Refuses (first >>= next) :=
  Only.bind here later

end Refuses

namespace Config

variable {config : Config}

/-! ## Rooms -/

namespace MotionRule

variable {rule : MotionRule} {tables : TopologyTables}

theorem finds {α : Type} {value : Option α} {reason : String} :
    Refuses (okOr value (rule.invalid reason)) :=
  Refuses.okOr

end MotionRule

end Config

end MqttController
