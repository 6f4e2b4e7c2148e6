import Extraction.Traced
import Extraction.Value.Merge

/-!
# Presence policies

A presence policy says what becomes of a field that is missing, and in what form a field that is
there is passed on.
-/

namespace Extraction

/-- Computes a value from the object that a field belongs to. -/
abbrev Fallback := Value → Traced Value

namespace Fallback

/-- The same value for every object. -/
def const (value : Value) : Fallback := fun _ =>
  pure value

end Fallback

/-- How a field is looked up. -/
inductive Presence where
  /-- The field has to be there. -/
  | strict
  /-- A missing field is replaced by the fallback. -/
  | defaulted (fallback : Fallback)
  /-- A missing field gives an absent optional, one that is there a present one. -/
  | option
  /-- Like `option`, but `true` stands for the fallback. -/
  | defaultedOption (fallback : Fallback)
  /-- The field is merged onto the base; a missing one adds nothing to it. -/
  | merged (base : Fallback)

/-- What a policy makes of a field in a given object. -/
inductive Resolution where
  /-- The field has to be there and is not. -/
  | missing
  /-- The field gives an absent optional. -/
  | skipped
  /-- The nested schema is run on a value. -/
  | plain (value : Value)
  /-- The nested schema is run on a value, and its result becomes a present optional. -/
  | optional (value : Value)

namespace Presence

/-- Resolves the field `key` of an object.  The fallback is only asked when its value is needed,
and it is given the whole object. -/
def resolve (presence : Presence) (object : Value) (key : String) : Traced Resolution :=
  match presence, object.get? key with
  | strict, some value => pure (.plain value)
  | strict, none => pure .missing
  | defaulted _, some value => pure (.plain value)
  | defaulted fallback, none => .plain <$> fallback object
  | option, some value => pure (.optional value)
  | option, none => pure .skipped
  | defaultedOption fallback, some (.bool true) => .optional <$> fallback object
  | defaultedOption _, some value => pure (.optional value)
  | defaultedOption _, none => pure .skipped
  | merged base, found =>
      (fun base => .plain (base.merge (found.getD .emptyObject))) <$> base object

/-- The name of a policy in structural text. -/
def debug : Presence → String
  | strict => "Strict"
  | defaulted _ => "DefaultedThunk"
  | option => "AsOption"
  | defaultedOption _ => "DefaultedOptionThunk"
  | merged _ => "MergeWithThunk"

end Presence

end Extraction
