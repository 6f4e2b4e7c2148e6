import Extraction.Pattern
import Extraction.Traced
import Extraction.Value.Json

/-!
# Validators

A validator accepts a value, possibly changing it, or rejects it with a message.
-/

namespace Extraction

/-- Accepts or rejects a single value. -/
abbrev Validator := Value → Traced (Except String Value)

namespace Validator

/-- Accepts every value as it is. -/
def acceptAny : Validator := fun value =>
  pure (.ok value)

/-- Accepts the values of one type. -/
def expectType (expected : String) : Validator := fun value =>
  pure <|
    if value.typeName = expected then .ok value
    else .error ("Expected type: " ++ expected ++ " but got: " ++ value.typeName)

/-- Accepts the strings of a list. -/
def stringEnum (choices : List String) : Validator := fun value =>
  pure <|
    if value.asString?.any (choices.contains ·) then .ok value
    else .error ("Unsupported value: \"" ++ value.inline ++ "\", choose one of \"" ++
      ", ".intercalate choices ++ "\".")

/-- Accepts the strings in which a pattern occurs. -/
def matching (pattern : Pattern) : Validator := fun value =>
  pure <|
    if value.asString?.any (pattern.occursIn ·) then .ok value
    else .error ("Value \"" ++ value.inline ++ "\" does not match pattern: " ++ pattern.source)

end Validator

end Extraction
