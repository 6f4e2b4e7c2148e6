import Extraction.Pattern.Reader.Class
import Extraction.Pattern.Reader.Group

/-!
# Expressions

Branches and their items, and whole patterns.
-/

namespace Extraction.Pattern

namespace Reader

/-- A group around its content. -/
def grouped (index : Option Nat) (content : Piece) : Reader Piece := do
  let depth ← around content.depth
  match index with
  | some index => return ⟨.capture index content.regex, depth⟩
  | none => return ⟨content.regex, depth⟩

/-- The items of a branch in reverse; flags are items that cannot be repeated. -/
abbrev Items := List (Option Piece)

/-- The items of a branch as one expression. -/
def branch (items : Items) : Reader Piece := do
  let depth ← ofParts (items.map fun item => (item.map Piece.depth).getD 0)
  let regexes := items.map fun item => (item.map Piece.regex).getD .empty
  return ⟨.ofItems regexes.reverse, depth⟩

/-- The branches of an expression, given in reverse, as one expression. -/
def choice (branches : List Piece) : Reader Piece := do
  let depth ← ofParts (branches.map Piece.depth)
  return ⟨.ofBranches (branches.map Piece.regex).reverse, depth⟩

/-- Repeats the last item of a branch.  A question mark that comes next turns round whether as much
or as little as possible is asked for. -/
def repeatLast (flags : Flags) (items : Items) (count : Count) : Reader Items := do
  let marked ← takeIf "?"
  match items with
  | some last :: items =>
      let repeated := Regex.repetition count (marked == flags.lazy) last.regex
      return some ⟨repeated, ← around last.depth⟩ :: items
  | _ => throw .missingOperand

/-- Repeats the last item of a branch as often as the braces that have been opened say. -/
def repeatCounted (flags : Flags) (items : Items) : Reader Items := do
  let count ← bounds flags
  skip flags
  repeatLast flags items count

/-- The set of the characters that a dot stands for. -/
def dotSet (flags : Flags) : Reader CharSet :=
  if flags.ascii then throw .notCharacters
  else if flags.dotAll then return .all
  else if flags.carriageReturn then return (CharSet.ofSpans [⟨10, 10⟩, ⟨13, 13⟩]).complement
  else return (CharSet.ofChar '\n').complement

/-- The atom of a character that stands on its own. -/
def plain (flags : Flags) : Char → Reader Atom
  | '.' => return .member (← dotSet flags)
  | '^' =>
      return .check (if flags.multiline then .lineStart flags.lineEnds else .textStart)
  | '$' => return .check (if flags.multiline then .lineEnd flags.lineEnds else .textEnd)
  | char => return .literal char

/-- Reads branches up to a closing parenthesis, which stays unread, or the end of the text, after
the `earlier` ones; `level` more groups may be inside each other. -/
def branches (flags : Flags) (level : Nat) (earlier : List Piece) (items : Items) :
    Nat → Reader Piece
  | 0 => throw .unclosedGroup
  | bound + 1 => do
      skip flags
      match ← peek with
      | none | some ')' => choice ((← branch items) :: earlier)
      | some char =>
          drop 1
          match char with
          | '|' => branches flags level ((← branch items) :: earlier) [] bound
          | '(' =>
              match ← opening flags with
              | .flags flags => branches flags level earlier (none :: items) bound
              | .group index inner =>
                  match level with
                  | 0 => throw .tooDeep
                  | level + 1 =>
                      let content ← branches inner level [] [] bound
                      if ← takeIf ")" then
                        let group ← grouped index content
                        branches flags (level + 1) earlier (some group :: items) bound
                      else
                        throw .unclosedGroup
          | '[' =>
              let set ← bracketed flags
              branches flags level earlier (some set :: items) bound
          | '?' => branches flags level earlier (← repeatLast flags items ⟨0, some 1⟩) bound
          | '*' => branches flags level earlier (← repeatLast flags items ⟨0, none⟩) bound
          | '+' => branches flags level earlier (← repeatLast flags items ⟨1, none⟩) bound
          | '\x7b' => branches flags level earlier (← repeatCounted flags items) bound
          | char =>
              let atom ← if char = '\\' then escape flags else plain flags char
              branches flags level earlier (some ⟨atom.toRegex flags, 0⟩ :: items) bound

/-- Reads a whole pattern. -/
def pattern : Reader Regex := do
  let whole ← branches {} depthLimit [] [] ((← get).rest.length + 1)
  if (← peek).isSome then throw .unopenedGroup else return whole.regex

end Reader

end Extraction.Pattern
