import Extraction.Pattern.Reader.Basic

/-!
# Escapes

What a backslash gives a meaning, or takes it from.
-/

namespace Extraction.Pattern

/-- One thing that matches at a place: a character, a set of characters or an assertion. -/
inductive Atom where
  | literal (char : Char)
  | member (set : CharSet)
  | check (assertion : Assertion)

namespace Atom

/-- An atom as an expression. -/
def toRegex (flags : Flags) : Atom → Regex
  | literal char => .ofSet (flags.folded (.ofChar char))
  | member set => .ofSet set
  | check assertion => .check assertion

end Atom

namespace Reader

/-- The value of a hexadecimal digit. -/
def hexValue? (char : Char) : Option Nat :=
  if char.isDigit then some (char.toNat - '0'.toNat)
  else if 'a' ≤ char ∧ char ≤ 'f' then some (char.toNat - 'a'.toNat + 10)
  else if 'A' ≤ char ∧ char ≤ 'F' then some (char.toNat - 'A'.toNat + 10)
  else none

/-- The character of a code point. -/
def ofCode (code : Nat) : Reader Char :=
  if code.isValidChar then return Char.ofNat code else throw .invalidCode

/-- Reads exactly `count` hexadecimal digits. -/
def hexDigits (flags : Flags) (value : Nat) : Nat → Reader Nat
  | 0 => return value
  | count + 1 => do
      let char ← take .danglingEscape
      match hexValue? char with
      | some digit =>
          skip flags
          hexDigits flags (16 * value + digit) count
      | none => throw .invalidCode

/-- Reads hexadecimal digits up to a closing brace. -/
def bracedDigits (flags : Flags) (value : Option Nat) : Nat → Reader Nat
  | 0 => throw .danglingEscape
  | bound + 1 => do
      skip flags
      let char ← take .danglingEscape
      if char = '\x7d' then
        match value with
        | some value =>
            skip flags
            return value
        | none => throw .invalidCode
      else
        match hexValue? char with
        | some digit => bracedDigits flags (some (16 * value.getD 0 + digit)) bound
        | none => throw .invalidCode

/-- Reads a character given by its code point: in braces, or by a fixed number of digits.  Where
only ASCII is known, two digits stand for a byte, and no byte above ASCII is a character. -/
def codePoint (flags : Flags) (count : Nat) : Reader Atom := do
  skip flags
  if ← takeIf "\x7b" then
    return .literal (← ofCode (← bracedDigits flags none ((← get).rest.length + 1)))
  else
    let code ← hexDigits flags 0 count
    if flags.ascii && count = 2 && 0x7F < code then throw .notCharacters
    else return .literal (← ofCode code)

/-- The characters that never stand for themselves, or may come not to. -/
def isReserved (char : Char) : Bool :=
  char ∈ ['\\', '.', '+', '*', '?', '(', ')', '|', '[', ']', '\x7b', '\x7d', '^', '$', '#', '&',
    '-', '~']

/-- The characters that a backslash may stand before without a meaning: in ASCII, all but letters,
digits and angle brackets. -/
def isEscapable (char : Char) : Bool :=
  isReserved char ||
    (char.toNat < 0x80 && !char.isAlphanum && char != '<' && char != '>')

/-- Letters and hyphens, of which the names of word boundaries are made. -/
def isBoundaryChar (char : Char) : Bool :=
  char.isAlpha || char == '-'

/-- The named edges of words. -/
def wordEdge? : String → Option WordEdge
  | "start" => some .start
  | "end" => some .stop
  | "start-half" => some .startHalf
  | "end-half" => some .stopHalf
  | _ => none

/-- Reads the name of an edge of a word. -/
def edgeName (flags : Flags) (name : List Char) : Nat → Reader (List Char)
  | 0 => return name.reverse
  | bound + 1 => do
      match (← get).rest with
      | char :: rest =>
          if isBoundaryChar char then
            modify fun cursor => { cursor with rest := skipped flags rest }
            edgeName flags (char :: name) bound
          else
            return name.reverse
      | [] => return name.reverse

/-- Reads what may follow `\b`: a name in braces.  Braces around anything else are a repetition. -/
def wordBoundary (flags : Flags) : Reader Atom := do
  match (← get).rest with
  | '\x7b' :: text =>
      let text := skipped flags text
      match text.head? with
      | none => throw .unclosedRepetition
      | some char =>
          if isBoundaryChar char then
            modify fun cursor => { cursor with rest := text }
            let name ← edgeName flags [] text.length
            match ← takeIf "\x7d", wordEdge? (String.ofList name) with
            | true, some edge => return .check (flags.wordEdge edge)
            | _, _ => throw (.unknownEscape 'b')
          else
            return .check (flags.wordEdge .boundary)
  | _ => return .check (flags.wordEdge .boundary)

/-- A class that is written with a letter, or its complement. -/
def letterClass (flags : Flags) (negated : Bool) (unicode ascii : CharSet) : Reader Atom :=
  if flags.ascii then
    if negated then throw .notCharacters else return .member ascii
  else
    return .member (if negated then unicode.complement else unicode)

/-- The decimal digits of ASCII. -/
def asciiDigits : CharSet :=
  .range '0' '9'

/-- The white space of ASCII. -/
def asciiBlanks : CharSet :=
  .ofSpans [⟨0x09, 0x0D⟩, ⟨0x20, 0x20⟩]

/-- The word characters of ASCII. -/
def asciiWords : CharSet :=
  .ofSpans [⟨0x30, 0x39⟩, ⟨0x41, 0x5A⟩, ⟨0x5F, 0x5F⟩, ⟨0x61, 0x7A⟩]

/-- Reads what follows a backslash. -/
def escape (flags : Flags) : Reader Atom := do
  let char ← take .danglingEscape
  match char with
  | 'x' => codePoint flags 2
  | 'u' => codePoint flags 4
  | 'U' => codePoint flags 8
  | 'd' | 'D' => letterClass flags (char == 'D') .digits asciiDigits
  | 's' | 'S' => letterClass flags (char == 'S') .blanks asciiBlanks
  | 'w' | 'W' => letterClass flags (char == 'W') .words asciiWords
  | 'a' => return .literal '\x07'
  | 'f' => return .literal '\x0c'
  | 't' => return .literal '\t'
  | 'n' => return .literal '\n'
  | 'r' => return .literal '\r'
  | 'v' => return .literal '\x0b'
  | 'A' => return .check .textStart
  | 'z' => return .check .textEnd
  | 'b' => wordBoundary flags
  | 'B' => return .check (flags.wordEdge .noBoundary)
  | '<' => return .check (flags.wordEdge .start)
  | '>' => return .check (flags.wordEdge .stop)
  | _ => if isEscapable char then return .literal char else throw (.unknownEscape char)

end Reader

end Extraction.Pattern
