import Extraction.Character.Class
import Extraction.Character.Folding

/-!
# Sets of characters

The sets that a pattern can ask a single character to be in.  A set is kept as spans in ascending
order with a gap between any two, so that what it costs to look for its members can be told from
the spans.
-/

namespace Extraction.Pattern

open Character (Span)

/-- A set of characters, as spans in ascending order that do not touch. -/
structure CharSet where
  spans : List Span
deriving DecidableEq, Repr

namespace CharSet

/-- Whether a set holds a code point. -/
def contains (set : CharSet) (code : Nat) : Bool :=
  set.spans.any (·.contains code)

/-- Adds a span that begins no earlier than the ones before it, which are given in reverse. -/
def addLater (earlier : List Span) (span : Span) : List Span :=
  match earlier with
  | [] => [span]
  | last :: others =>
      if span.first ≤ last.last + 1 then ⟨last.first, max last.last span.last⟩ :: others
      else span :: last :: others

/-- The set that is covered by spans in any order. -/
def ofSpans (spans : List Span) : CharSet :=
  let ordered := spans.mergeSort fun left right => decide (left.first ≤ right.first)
  ⟨(ordered.foldl addLater []).reverse⟩

/-- The set of one code point. -/
def single (code : Nat) : CharSet :=
  ⟨[⟨code, code⟩]⟩

/-- The set of one character. -/
def ofChar (char : Char) : CharSet :=
  single char.toNat

/-- The characters between two, which belong to it. -/
def range (first last : Char) : CharSet :=
  ⟨[⟨first.toNat, last.toNat⟩]⟩

/-- The set of no character. -/
def none : CharSet :=
  ⟨[]⟩

/-- The set of all characters. -/
def all : CharSet :=
  ⟨[⟨0, 0x10FFFF⟩]⟩

/-- The decimal digits of every script. -/
def digits : CharSet :=
  ⟨Character.Table.digit.toList⟩

/-- White space. -/
def blanks : CharSet :=
  ⟨Character.Table.blank.toList⟩

/-- The word characters of every script. -/
def words : CharSet :=
  ⟨Character.Table.word.toList⟩

/-- The union of two sets. -/
def union (left right : CharSet) : CharSet :=
  ofSpans (left.spans ++ right.spans)

/-- The part of a span that is in another one too. -/
def overlap? (left right : Span) : Option Span :=
  let first := max left.first right.first
  let last := min left.last right.last
  if first ≤ last then some ⟨first, last⟩ else Option.none

/-- The characters that are in both sets. -/
def intersection (left right : CharSet) : CharSet :=
  ⟨left.spans.flatMap fun span => right.spans.filterMap (overlap? span)⟩

/-- The code point of the character before a given one; no character is a surrogate. -/
def before (code : Nat) : Nat :=
  if code = 0xE000 then 0xD7FF else code - 1

/-- The code point of the character after a given one. -/
def after (code : Nat) : Nat :=
  if code = 0xD7FF then 0xE000 else code + 1

/-- What a hole leaves of a span. -/
def cut (span hole : Span) : List Span :=
  if (overlap? span hole).isNone then
    [span]
  else
    let left := if span.first < hole.first then [⟨span.first, before hole.first⟩] else []
    let right := if hole.last < span.last then [⟨after hole.last, span.last⟩] else []
    left ++ right

/-- The characters that are in the first set and not in the second. -/
def difference (left right : CharSet) : CharSet :=
  ⟨right.spans.foldl (fun rest hole => rest.flatMap (cut · hole)) left.spans⟩

/-- The characters that are in exactly one of two sets. -/
def symmetricDifference (left right : CharSet) : CharSet :=
  difference (union left right) (intersection left right)

/-- The span between two spans.  Where they have only surrogates between them, it is made of the
two characters beside those. -/
def gap (left right : Span) : Span :=
  let first := after left.last
  let last := before right.first
  ⟨min first last, max first last⟩

/-- The gaps from the end of a span on. -/
def gapsAfter (span : Span) : List Span → List Span
  | [] => if span.last < 0x10FFFF then [⟨after span.last, 0x10FFFF⟩] else []
  | next :: later => gap span next :: gapsAfter next later

/-- The characters that are not in the set. -/
def complement (set : CharSet) : CharSet :=
  match set.spans with
  | [] => all
  | first :: later =>
      let start := if 0 < first.first then [⟨0, before first.first⟩] else []
      ⟨start ++ gapsAfter first later⟩

/-- The set with all characters that are in it without regard to case, among the given groups of
such characters. -/
def withGroups (groups : List (List Nat)) (set : CharSet) : CharSet :=
  let met := groups.filter fun codes => codes.any set.contains
  if met.isEmpty then set
  else ofSpans (set.spans ++ met.flatten.map fun code => ⟨code, code⟩)

/-- The set with all case variants of its members. -/
def caseless (set : CharSet) : CharSet :=
  set.withGroups Character.caseGroups

/-- The set with the case variants of its members among the letters of ASCII. -/
def asciiCaseless (set : CharSet) : CharSet :=
  set.withGroups <| (List.range 26).map fun letter => [0x41 + letter, 0x61 + letter]

/-- Whether all members are in ASCII. -/
def isAscii (set : CharSet) : Bool :=
  set.spans.all (·.last < 0x80)

/-- The only member of a set. -/
def only? (set : CharSet) : Option Char :=
  match set.spans with
  | [⟨first, last⟩] => if first = last then some (Char.ofNat first) else Option.none
  | _ => Option.none

example : (complement (single 0x62)).spans = [⟨0, 0x61⟩, ⟨0x63, 0x10FFFF⟩] := by decide

end CharSet

end Extraction.Pattern
