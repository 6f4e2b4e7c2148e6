import Extraction.Pattern.Regex

/-!
# Reading patterns

Patterns are read from text by recursive descent.  Flags hold from where they are set to the end of
the enclosing group.  Every reader that recurses takes a bound on the number of its steps; each
step takes at least one character, so the length of the text is bound enough.  What is read is
built up together with the depth of what was written, which is limited.
-/

namespace Extraction.Pattern

/-- Why a text is not a pattern. -/
inductive Flaw where
  | danglingEscape
  | unknownEscape (char : Char)
  | invalidCode
  | missingOperand
  | unclosedRepetition
  | invalidRepetition
  | unclosedGroup
  | unopenedGroup
  | lookAround
  | invalidName
  | repeatedName (name : String)
  | invalidFlags
  | unclosedClass
  | invalidClassItem
  | invalidRange
  /-- What would match something other than whole characters. -/
  | notCharacters
  | tooDeep
  | tooLarge
deriving DecidableEq, Repr

/-- The flags that change what a pattern means. -/
structure Flags where
  caseless : Bool := false
  multiline : Bool := false
  dotAll : Bool := false
  spaced : Bool := false
  /-- Repetitions ask for as little as possible, unless they are marked. -/
  lazy : Bool := false
  /-- A carriage return ends a line too. -/
  carriageReturn : Bool := false
  /-- Classes know the characters of ASCII only. -/
  ascii : Bool := false
deriving DecidableEq, Repr

namespace Flags

/-- What ends a line. -/
def lineEnds (flags : Flags) : LineEnds :=
  if flags.carriageReturn then .carriageReturn else .newline

/-- The assertion of an edge of a word. -/
def wordEdge (flags : Flags) (edge : WordEdge) : Assertion :=
  .word (if flags.ascii then .ascii else .unicode) edge

/-- A set together with the case variants of its members, if case does not matter. -/
def folded (flags : Flags) (set : CharSet) : CharSet :=
  if flags.caseless then if flags.ascii then set.asciiCaseless else set.caseless else set

end Flags

/-- The text still to be read, the group names given so far, and the number of groups whose bounds
are kept. -/
structure Cursor where
  rest : List Char
  names : List String := []
  groups : Nat := 0

/-- A reader of patterns. -/
abbrev Reader := StateT Cursor (Except Flaw)

/-- An expression, and how deep the text is nested that it was read from. -/
structure Piece where
  regex : Regex
  depth : Nat

namespace Reader

/-! ## Depth -/

/-- How deep a pattern may be nested. -/
def depthLimit : Nat := 250

/-- The depth of something around what has the given depth. -/
def around (depth : Nat) : Reader Nat :=
  if depth < depthLimit then return depth + 1 else throw .tooDeep

/-- The depth of what consists of parts with the given depths; a single part is all there is. -/
def ofParts : List Nat → Reader Nat
  | [] => return 0
  | [depth] => return depth
  | depths => around (depths.foldl max 0)

/-! ## Characters -/

/-- Skips blanks, and comments up to the end of their line. -/
def dropBlank (inComment : Bool) : List Char → List Char
  | [] => []
  | char :: rest =>
      if inComment then dropBlank (char != '\n') rest
      else if Character.isBlank char then dropBlank false rest
      else if char = '#' then dropBlank true rest
      else char :: rest

/-- In spaced patterns, blanks and comments mean nothing. -/
def skipped (flags : Flags) (text : List Char) : List Char :=
  if flags.spaced then dropBlank false text else text

/-- The next character, which stays unread. -/
def peek : Reader (Option Char) :=
  return (← get).rest.head?

/-- Passes over the next characters. -/
def drop (count : Nat) : Reader Unit :=
  modify fun cursor => { cursor with rest := cursor.rest.drop count }

/-- The character after the blanks that come next, in a spaced pattern also after the sign of a
comment. -/
def ahead (flags : Flags) (text : List Char) : Option Char :=
  if flags.spaced then
    match text.dropWhile Character.isBlank with
    | '#' :: comment => (comment.dropWhile Character.isBlank).head?
    | rest => rest.head?
  else
    text.head?

/-- Passes over blanks and comments in a spaced pattern. -/
def skip (flags : Flags) : Reader Unit :=
  modify fun cursor => { cursor with rest := skipped flags cursor.rest }

/-- Reads the next character; `flaw` arises at the end of the text. -/
def take (flaw : Flaw) : Reader Char := do
  match (← get).rest with
  | [] => throw flaw
  | char :: rest =>
      modify fun cursor => { cursor with rest }
      return char

/-- Whether the text goes on with the given one. -/
def looksAt (text : String) : Reader Bool :=
  return text.toList.isPrefixOf (← get).rest

/-- Passes over the given text if it comes next. -/
def takeIf (text : String) : Reader Bool := do
  if ← looksAt text then
    drop text.length
    return true
  else
    return false

end Reader

end Extraction.Pattern
