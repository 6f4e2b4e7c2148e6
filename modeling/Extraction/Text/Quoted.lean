import Extraction.Character.Class

/-!
# Quoted text

Text is shown in diagnostics between quotes, with every character visible: the usual short escapes,
and the code point in hexadecimal for any other character without a visible form of its own.
-/

namespace Extraction.Quoted

/-- A character inside quotes. -/
def encodeChar (char : Char) : List Char :=
  match char with
  | '"' => ['\\', '"']
  | '\\' => ['\\', '\\']
  | '\n' => ['\\', 'n']
  | '\r' => ['\\', 'r']
  | '\t' => ['\\', 't']
  | '\x00' => ['\\', '0']
  | _ =>
      if Character.isHidden char then
        ['\\', 'u', '\x7b'] ++ Nat.toDigits 16 char.toNat ++ ['\x7d']
      else
        [char]

/-- The text between quotes. -/
def encode (text : String) : String :=
  "\"" ++ String.ofList (text.toList.flatMap encodeChar) ++ "\""

example : encode "a\t'\"" = "\"a\\t'\\\"\"" := by decide +kernel

end Extraction.Quoted
