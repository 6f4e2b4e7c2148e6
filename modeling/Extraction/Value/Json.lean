import Extraction.Json.Render
import Extraction.Value.Basic

/-!
# Values as documents

A value is shown as a document.  What a document cannot hold is shown as null: functions, absent
optionals and the numbers that are not finite.  A present optional is shown as what it holds.
-/

namespace Extraction

namespace Number

/-- The largest integer that a numeral holds. -/
def greatestInteger : Int := 9223372036854775807

/-- Integers within 64 bits are written as such; the bound of the range is inclusive, and an
integer on it is written as the largest one below. -/
def toJson (number : Number) : Json :=
  match number.toInteger? with
  | some integer =>
      if -(greatestInteger + 1) ≤ integer ∧ integer ≤ greatestInteger + 1 then
        .number (.integer (min integer greatestInteger))
      else
        match number with
        | finite value => .number (.float value)
        | _ => .null
  | none =>
      match number with
      | finite value => .number (.float value)
      | _ => .null

example : (7 : Number).toJson.compact = "7" := by decide +kernel

example : (ofDecimal false 1234 (-8)).toJson.compact = "0.00001234" := by decide +kernel

example : (ofDecimal false 1 (-6)).toJson.compact = "1e-6" := by decide +kernel

example : (ofDecimal false 1 20).toJson.compact = "1e+20" := by decide +kernel

end Number

namespace Value

mutual

/-- The document that shows a value. -/
def toJson : Value → Json
  | null | function _ | absent => .null
  | bool value => .bool value
  | number value => value.toJson
  | string value => .string value
  | array items => .array (itemsToJson items)
  | object entries => .object (entriesToJson entries)
  | present value => toJson value

/-- The documents that show the items of an array. -/
def itemsToJson : List Value → List Json
  | [] => []
  | item :: items => toJson item :: itemsToJson items

/-- The members that show the entries of an object. -/
def entriesToJson : List (String × Value) → List (String × Json)
  | [] => []
  | (key, value) :: entries => (key, toJson value) :: entriesToJson entries

end

/-- An object with more keys than this is not shown. -/
def shownKeys : Nat := 100

/-- What stands in place of an object that is not shown. -/
def sizeNotice : String := " removed due to size"

/-- The text of a value in messages. -/
def format (value : Value) : String :=
  match value with
  | object entries =>
      if shownKeys < entries.length then sizeNotice else value.toJson.pretty
  | _ => value.toJson.pretty

/-- The text of a value inside a sentence: a string as it is, anything else compactly. -/
def inline : Value → String
  | string value => value
  | value => value.toJson.compact

end Value

end Extraction
