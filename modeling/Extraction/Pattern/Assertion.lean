import Extraction.Character.Class

/-!
# Assertions

What a pattern can ask of a place in a text without taking a character: to be at an end of the text
or of a line, or at an edge of a word.
-/

namespace Extraction.Pattern

/-- The characters that end a line. -/
inductive LineEnds where
  | newline
  /-- A newline, a carriage return, or both as one end. -/
  | carriageReturn
deriving DecidableEq, Repr

/-- The characters that words are made of. -/
inductive Alphabet where
  | unicode
  | ascii
deriving DecidableEq, Repr

namespace Alphabet

/-- Whether a character belongs to a word. -/
def isWord : Alphabet → Char → Bool
  | unicode, char => Character.isWord char
  | ascii, char => char.isAlphanum || char == '_'

end Alphabet

/-- The kinds of edges of words. -/
inductive WordEdge where
  | boundary
  | noBoundary
  | start
  | stop
  /-- No word before the place. -/
  | startHalf
  /-- No word after the place. -/
  | stopHalf
deriving DecidableEq, Repr

namespace WordEdge

/-- Whether a place is such an edge, given whether there is a word on either side. -/
def holds (before after : Bool) : WordEdge → Bool
  | boundary => before != after
  | noBoundary => before == after
  | start => !before && after
  | stop => before && !after
  | startHalf => !before
  | stopHalf => !after

end WordEdge

/-- What can be asked of a place between two characters. -/
inductive Assertion where
  | textStart
  | textEnd
  | lineStart (ends : LineEnds)
  | lineEnd (ends : LineEnds)
  | word (alphabet : Alphabet) (edge : WordEdge)
deriving DecidableEq, Repr

namespace Assertion

/-- Whether the assertion holds at a place with the given neighbours; there is none at an end of
the text. -/
def holds (before after : Option Char) : Assertion → Bool
  | textStart => before.isNone
  | textEnd => after.isNone
  | lineStart .newline => before.all (· == '\n')
  | lineStart .carriageReturn =>
      before.all (· == '\n') || (before == some '\r' && after != some '\n')
  | lineEnd .newline => after.all (· == '\n')
  | lineEnd .carriageReturn =>
      after.all (· == '\r') || (after == some '\n' && before != some '\r')
  | word alphabet edge => edge.holds (before.any alphabet.isWord) (after.any alphabet.isWord)

end Assertion

end Extraction.Pattern
