import Extraction.Json.Basic
import Extraction.Number.Layout

/-!
# Text of documents

A document is written compactly on one line, or with one member a line and two blanks of
indentation a level.
-/

namespace Extraction

namespace Numeral

/-- Floats are written positionally for magnitudes from `1e-5` to below `1e16`, and otherwise with
a signed exponent. -/
def layout : Layout where
  positionalFrom := -5
  positionalBelow := 16
  exponentPlus := true
  tie := .toEven

/-- The text of a numeral. -/
def render : Numeral → String
  | integer value => toString value
  | float value => layout.render value

end Numeral

namespace Json

/-- A character inside a string: quotes, backslashes and control characters are escaped. -/
def escapeChar (char : Char) : List Char :=
  match char with
  | '"' => ['\\', '"']
  | '\\' => ['\\', '\\']
  | '\x08' => ['\\', 'b']
  | '\t' => ['\\', 't']
  | '\n' => ['\\', 'n']
  | '\x0c' => ['\\', 'f']
  | '\r' => ['\\', 'r']
  | _ =>
      if char.toNat < 0x20 then
        ['\\', 'u', '0', '0', Nat.digitChar (char.toNat / 16), Nat.digitChar (char.toNat % 16)]
      else
        [char]

/-- A string in quotes. -/
def quote (text : String) : String :=
  "\"" ++ String.ofList (text.toList.flatMap escapeChar) ++ "\""

mutual

/-- The document on one line, without blanks. -/
def compact : Json → String
  | null => "null"
  | bool value => if value then "true" else "false"
  | number value => value.render
  | string value => quote value
  | array items => "[" ++ ",".intercalate (compactItems items) ++ "]"
  | object members => "\x7b" ++ ",".intercalate (compactMembers members) ++ "\x7d"

/-- The items of an array, each on its own. -/
def compactItems : List Json → List String
  | [] => []
  | item :: items => compact item :: compactItems items

/-- The members of an object, each on its own. -/
def compactMembers : List (String × Json) → List String
  | [] => []
  | (key, value) :: members => (quote key ++ ":" ++ compact value) :: compactMembers members

end

/-- A line end and the indentation of a level. -/
def newline (level : Nat) : String :=
  "\n" ++ String.ofList (List.replicate (2 * level) ' ')

/-- Parts between brackets, one a line; nothing stands between the brackets of an empty list. -/
def block (level : Nat) (left right : String) (parts : List String) : String :=
  if parts.isEmpty then left ++ right
  else left ++ newline (level + 1) ++ ("," ++ newline (level + 1)).intercalate parts ++
    newline level ++ right

mutual

/-- The document with one item or member a line, starting at the given level. -/
def prettyAt (level : Nat) : Json → String
  | array items => block level "[" "]" (prettyItems (level + 1) items)
  | object members => block level "\x7b" "\x7d" (prettyMembers (level + 1) members)
  | null => compact null
  | bool value => compact (bool value)
  | number value => compact (number value)
  | string value => compact (string value)

/-- The items of an array at a level. -/
def prettyItems (level : Nat) : List Json → List String
  | [] => []
  | item :: items => prettyAt level item :: prettyItems level items

/-- The members of an object at a level. -/
def prettyMembers (level : Nat) : List (String × Json) → List String
  | [] => []
  | (key, value) :: members =>
      (quote key ++ ": " ++ prettyAt level value) :: prettyMembers level members

end

/-- The document with one item or member a line. -/
def pretty (document : Json) : String :=
  prettyAt 0 document

end Json

end Extraction
