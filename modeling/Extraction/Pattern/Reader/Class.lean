import Extraction.Pattern.Reader.Escape

/-!
# Classes

Classes of characters in brackets: items, ranges, named and nested classes, and the operators
between them.
-/

namespace Extraction.Pattern

namespace Reader

/-- The classes that are named in brackets and colons. -/
def namedClass? (name : String) : Option CharSet :=
  match name with
  | "alnum" => some (.ofSpans [⟨0x30, 0x39⟩, ⟨0x41, 0x5A⟩, ⟨0x61, 0x7A⟩])
  | "alpha" => some (.ofSpans [⟨0x41, 0x5A⟩, ⟨0x61, 0x7A⟩])
  | "ascii" => some (.ofSpans [⟨0x00, 0x7F⟩])
  | "blank" => some (.ofSpans [⟨0x09, 0x09⟩, ⟨0x20, 0x20⟩])
  | "cntrl" => some (.ofSpans [⟨0x00, 0x1F⟩, ⟨0x7F, 0x7F⟩])
  | "digit" => some asciiDigits
  | "graph" => some (.ofSpans [⟨0x21, 0x7E⟩])
  | "lower" => some (.range 'a' 'z')
  | "print" => some (.ofSpans [⟨0x20, 0x7E⟩])
  | "punct" => some (.ofSpans [⟨0x21, 0x2F⟩, ⟨0x3A, 0x40⟩, ⟨0x5B, 0x60⟩, ⟨0x7B, 0x7E⟩])
  | "space" => some asciiBlanks
  | "upper" => some (.range 'A' 'Z')
  | "word" => some asciiWords
  | "xdigit" => some (.ofSpans [⟨0x30, 0x39⟩, ⟨0x41, 0x46⟩, ⟨0x61, 0x66⟩])
  | _ => none

/-- The complement of a set if it is negated.  Where only ASCII is known, a complement would have
bytes that are no characters. -/
def negatedIf (flags : Flags) (negated : Bool) (set : CharSet) : Reader CharSet :=
  if negated then
    if flags.ascii then throw .notCharacters else return set.complement
  else
    return set

/-- Reads a named class after its opening bracket; anything else there is a nested class. -/
def namedClass (flags : Flags) : Reader (Option CharSet) := do
  match (← get).rest with
  | ':' :: text =>
      let negated := text.head? == some '^'
      let text := if negated then text.drop 1 else text
      let name := text.takeWhile (· != ':')
      match text.dropWhile (· != ':'), namedClass? (String.ofList name) with
      | ':' :: ']' :: rest, some set =>
          modify fun cursor => { cursor with rest }
          return some (← negatedIf flags negated (flags.folded set))
      | _, _ => return none
  | _ => return none

/-- Reads one item of a class. -/
def classItem (flags : Flags) : Reader Atom := do
  let char ← take .unclosedClass
  if char = '\\' then escape flags else return .literal char

/-- The characters between two, as an item of a class. -/
def rangeSet (flags : Flags) (first last : Char) : Reader CharSet :=
  if flags.ascii && !(first.toNat < 0x80 && last.toNat < 0x80) then throw .notCharacters
  else if first ≤ last then return .range first last
  else throw .invalidRange

/-- An atom as an item of a class; an assertion is none. -/
def itemSet (flags : Flags) : Atom → Reader CharSet
  | .literal char => rangeSet flags char char
  | .member set => return set
  | .check _ => throw .invalidClassItem

/-- Reads an item of a class or a range between two characters. -/
def classRange (flags : Flags) : Reader CharSet := do
  let first ← classItem flags
  skip flags
  match (← get).rest with
  | [] => throw .unclosedClass
  | '-' :: rest =>
      if ahead flags rest ∈ [some ']', some '-'] then
        itemSet flags first
      else
        modify fun cursor => { cursor with rest := skipped flags rest }
        let last ← classItem flags
        match first, last with
        | .literal first, .literal last => rangeSet flags first last
        | _, _ => throw .invalidRange
  | _ => itemSet flags first

/-- How the two sides of an operator in a class are put together. -/
inductive SetOperator where
  | intersection
  | difference
  | symmetricDifference

/-- Puts the sides of an operator together. -/
def SetOperator.apply : SetOperator → CharSet → CharSet → CharSet
  | intersection => .intersection
  | difference => .difference
  | symmetricDifference => .symmetricDifference

/-- A set that has been read, and how deep its text is nested. -/
structure SetPiece where
  set : CharSet
  depth : Nat

/-- The items of a class that have been read since its start or the last operator: what they cover,
and their depths. -/
structure SetItems where
  spans : List Character.Span
  depths : List Nat

namespace SetItems

/-- No item. -/
def none : SetItems :=
  ⟨[], []⟩

/-- One more item. -/
def add (items : SetItems) (set : CharSet) (depth : Nat) : SetItems :=
  ⟨set.spans.reverse ++ items.spans, depth :: items.depths⟩

end SetItems

/-- An operator that waits for its right side. -/
structure PendingOperator where
  operator : SetOperator
  left : SetPiece

/-- Finishes the right side of the pending operator, if there is one. -/
def joined (flags : Flags) (pending : Option PendingOperator) (items : SetItems) :
    Reader SetPiece := do
  let depth ← ofParts items.depths
  let set := flags.folded (.ofSpans items.spans.reverse)
  match pending with
  | none => return ⟨set, depth⟩
  | some pending =>
      return ⟨pending.operator.apply pending.left.set set,
        ← around (max pending.left.depth depth)⟩

/-- Passes over an operator inside a class, if one comes next. -/
def setOperator : Reader (Option SetOperator) := do
  if ← takeIf "&&" then return some .intersection
  else if ← takeIf "--" then return some .difference
  else if ← takeIf "~~" then return some .symmetricDifference
  else return none

/-- Reads the hyphens at the start of a class, which stand for themselves. -/
def leadingHyphens (flags : Flags) (items : SetItems) : Nat → Reader SetItems
  | 0 => return items
  | bound + 1 => do
      if ← takeIf "-" then
        skip flags
        leadingHyphens flags (items.add (.ofChar '-') 0) bound
      else
        return items

/-- Reads the start of a class: whether it is negated, and the items that stand for themselves only
there. -/
def classStart (flags : Flags) : Reader (Bool × SetItems) := do
  skip flags
  let negated ← takeIf "^"
  skip flags
  let hyphens ← leadingHyphens flags .none ((← get).rest.length + 1)
  if hyphens.depths.isEmpty then
    if ← takeIf "]" then
      return (negated, SetItems.none.add (.ofChar ']') 0)
    else
      return (negated, .none)
  else
    return (negated, hyphens)

/-- Reads the items of a class up to its closing bracket; `level` is the number of classes that it
may still have inside each other. -/
def classItems (flags : Flags) (level : Nat) (negated : Bool)
    (pending : Option PendingOperator) (items : SetItems) : Nat → Reader SetPiece
  | 0 => throw .unclosedClass
  | bound + 1 => do
      skip flags
      if (← peek).isNone then
        throw .unclosedClass
      else if ← takeIf "]" then
        let whole ← joined flags pending items
        return ⟨← negatedIf flags negated whole.set, ← around whole.depth⟩
      else if ← takeIf "[" then
        match ← namedClass flags with
        | some named => classItems flags level negated pending (items.add named 0) bound
        | none =>
            match level with
            | 0 => throw .tooDeep
            | level + 1 =>
                let (nestedNegated, start) ← classStart flags
                let nested ← classItems flags level nestedNegated none start bound
                classItems flags (level + 1) negated pending
                  (items.add nested.set nested.depth) bound
      else
        match ← setOperator with
        | some operator =>
            let left ← joined flags pending items
            classItems flags level negated (some ⟨operator, left⟩) .none bound
        | none =>
            let range ← classRange flags
            classItems flags level negated pending (items.add range 0) bound

/-- Reads a class after its opening bracket. -/
def bracketed (flags : Flags) : Reader Piece := do
  let (negated, start) ← classStart flags
  let whole ← classItems flags depthLimit negated none start ((← get).rest.length + 1)
  return ⟨.ofSet whole.set, whole.depth⟩

end Reader

end Extraction.Pattern
