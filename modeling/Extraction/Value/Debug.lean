import Extraction.Number.Layout
import Extraction.Text.Quoted
import Extraction.Value.Basic

/-!
# Structural text of values

A value is written out with its constructors, for diagnostics that have to tell all values apart.
-/

namespace Extraction

namespace Number

/-- Numbers are written positionally for magnitudes from `1e-4` to below `1e16`, and otherwise with
an exponent that is signed only if negative. -/
def debugLayout : Layout where
  positionalFrom := -4
  positionalBelow := 16
  exponentPlus := false
  tie := .up

/-- The structural text of a number. -/
def debug : Number → String
  | undefined => "NaN"
  | infinite negative => if negative then "-inf" else "inf"
  | finite number => debugLayout.render number

example : (7 : Number).debug = "7.0" := by decide +kernel

example : (ofDecimal false 1 (-4)).debug = "0.0001" := by decide +kernel

example : (ofDecimal true 15 (-6)).debug = "-1.5e-5" := by decide +kernel

example : (ofDecimal false 1 16).debug = "1e16" := by decide +kernel

end Number

namespace Value

/-- Parts separated by commas. -/
def commaSeparated (parts : List String) : String :=
  ", ".intercalate parts

mutual

/-- The structural text of a value. -/
def debug : Value → String
  | null => "Null"
  | bool value => "Bool(" ++ (if value then "true" else "false") ++ ")"
  | number value => "Number(" ++ value.debug ++ ")"
  | string value => "String(" ++ Quoted.encode value ++ ")"
  | array items => "Array([" ++ commaSeparated (debugItems items) ++ "])"
  | object entries => "Object(\x7b" ++ commaSeparated (debugEntries entries) ++ "\x7d)"
  | function _ => "Function(Callable(..))"
  | absent => "Optional(None)"
  | present value => "Optional(Some(" ++ debug value ++ "))"

/-- The structural texts of items. -/
def debugItems : List Value → List String
  | [] => []
  | item :: items => debug item :: debugItems items

/-- The structural texts of entries. -/
def debugEntries : List (String × Value) → List String
  | [] => []
  | (key, value) :: entries => (Quoted.encode key ++ ": " ++ debug value) :: debugEntries entries

end

end Value

end Extraction
