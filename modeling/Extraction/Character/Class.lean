import Extraction.Character.Table.Blank
import Extraction.Character.Table.Digit
import Extraction.Character.Table.Hidden
import Extraction.Character.Table.Letter
import Extraction.Character.Table.Numeral
import Extraction.Character.Table.Word

/-!
# Character classes

The classes of characters that patterns and quoted text refer to, over the whole code space.
-/

namespace Extraction.Character

/-- A letter, mark, decimal digit, connector or join control of any script. -/
def isWord (char : Char) : Bool :=
  Span.cover Table.word char.toNat

/-- White space of any kind, line ends included. -/
def isBlank (char : Char) : Bool :=
  Span.cover Table.blank char.toNat

/-- A letter of any script, or a mark that stands for one. -/
def isLetter (char : Char) : Bool :=
  Span.cover Table.letter char.toNat

/-- A character that stands for a number in any script. -/
def isNumeral (char : Char) : Bool :=
  Span.cover Table.numeral char.toNat

/-- A character that leaves no mark of its own on paper; the plain space is not hidden. -/
def isHidden (char : Char) : Bool :=
  Span.cover Table.hidden char.toNat

end Extraction.Character
