import Extraction.Pattern.Program.Assembly
import Extraction.Pattern.Program.Search
import Extraction.Pattern.Reader.Expression

/-!
# Patterns

A pattern is a program that looks for a regular expression, together with the text that the
expression was read from.
-/

namespace Extraction

/-- A pattern that has been read. -/
structure Pattern where
  source : String
  program : Pattern.Program

namespace Pattern

/-- Reads a pattern.  Its program must not be too large, nor the one that reads backwards. -/
def ofString (source : String) : Except Flaw Pattern := do
  let (regex, _) ← Reader.pattern.run { rest := source.toList }
  match Program.ofRegex? false regex, Program.ofRegex? true regex with
  | some program, some _ => return { source, program }
  | _, _ => throw .tooLarge

/-- Whether some part of the text matches the pattern. -/
def occursIn (pattern : Pattern) (text : String) : Bool :=
  pattern.program.occursIn text

end Pattern

end Extraction
