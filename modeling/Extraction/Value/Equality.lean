import Extraction.Value.Basic

/-!
# Equality of values

Values are compared by what they mean: numbers as numbers, and objects without regard to the order
of their entries.  Functions of the host are the same if they have one handle.  A limited function
has no identity of its own: two of them are the same if they have the same parts, also where they
have been limited one after the other and a program would compare their allocations.
-/

namespace Extraction.Value

mutual

/-- Whether two values are equal. -/
def equals : Value → Value → Bool
  | null, null => true
  | bool left, bool right => left == right
  | number left, number right => left.equals right
  | string left, string right => left == right
  | array left, array right => equalsItems left right
  | object left, object right =>
      left.length == right.length && equalsEntries left right
  | function left, function right => left == right
  | absent, absent => true
  | present left, present right => equals left right
  | _, _ => false

/-- Whether two lists have equal items in the same places. -/
def equalsItems : List Value → List Value → Bool
  | [], [] => true
  | left :: lefts, right :: rights => equals left right && equalsItems lefts rights
  | _, _ => false

/-- Whether every entry has an equal one under the same key. -/
def equalsEntries : List (String × Value) → List (String × Value) → Bool
  | [], _ => true
  | (key, left) :: lefts, entries =>
      (match Entries.find? key entries with
        | some right => equals left right
        | none => false) && equalsEntries lefts entries

end

end Extraction.Value
