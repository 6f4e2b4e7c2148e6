import Extraction.Number.Basic

/-!
# Documents

The interchange documents that values are shown as.  A numeral is either an integer or a finite
number; the two kinds are kept apart, and an object keeps the order of its members.
-/

namespace Extraction

/-- A written number. -/
inductive Numeral where
  | integer (value : Int)
  | float (value : FiniteNumber)
deriving DecidableEq

/-- A document. -/
inductive Json where
  | null
  | bool (value : Bool)
  | number (value : Numeral)
  | string (value : String)
  | array (items : List Json)
  | object (members : List (String × Json))

namespace Json

instance : Inhabited Json :=
  ⟨null⟩

end Json

end Extraction
