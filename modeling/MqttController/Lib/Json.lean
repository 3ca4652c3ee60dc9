import Mathlib.Data.Rat.Floor
import MqttController.Lib.Text

/-!
# JSON values

A parsed JSON document and the accessors by which its fields are read.
-/

/-- A JSON number: an unsigned integer, a negative one, or a number with a fraction or an
exponent. -/
inductive JsonNumber
  | posInt (value : UInt64)
  | negInt (value : Int64)
  | float (value : ℚ)

/-- A JSON value.  The keys of an object are unique. -/
inductive JsonValue
  | null
  | bool (value : Bool)
  | number (value : JsonNumber)
  | string (value : String)
  | array (items : List JsonValue)
  | object (fields : List (String × JsonValue))

namespace JsonValue

/-- The field of an object. -/
def get (value : JsonValue) (field : String) : Option JsonValue :=
  match value with
  | object fields => fields.lookup field
  | _ => none

/-- A boolean. -/
def asBool : JsonValue → Option Bool
  | bool value => some value
  | _ => none

/-- A text. -/
def asStr : JsonValue → Option String
  | string value => some value
  | _ => none

/-- An integer that is not negative. -/
def asU64 : JsonValue → Option Nat
  | number (.posInt value) => some value.toNat
  | _ => none

/-- Any number. -/
def asF64 : JsonValue → Option ℚ
  | number (.posInt value) => some value.toNat
  | number (.negInt value) => some value.toInt
  | number (.float value) => some value
  | _ => none

end JsonValue

namespace Text

/-- What follows a prefix of a text. -/
def withoutPrefix (front text : String) : Option String :=
  (stripPrefix front.toList text.toList).map String.ofList

/-- What comes before a suffix of a text. -/
def withoutSuffix (back text : String) : Option String :=
  (stripSuffix back.toList text.toList).map String.ofList

/-- The texts are the same up to the case of the ASCII letters. -/
def eqIgnoreAsciiCase (first second : String) : Bool :=
  first.toList.map Char.toLower == second.toList.map Char.toLower

/-- Drop the occurrences of a letter at both ends of a text. -/
def trimMatches (letter : Char) (text : String) : String :=
  String.ofList (trim (· == letter) text.toList)

theorem withoutPrefix_append (front text : String) :
    withoutPrefix front (front ++ text) = some text := by
  simp [withoutPrefix]

theorem withoutSuffix_eq_none {back text : String} (absent : ¬ back.toList <:+ text.toList) :
    withoutSuffix back text = none := by
  simp [withoutSuffix, stripSuffix, absent]

end Text
