import Extraction.Pattern.CharSet

/-!
# Spans of characters as bytes

The encodings of the characters of a span, as rows of byte spans: a row stands for all encodings
that have their first byte in the first span, the second byte in the second one, and so on.
-/

namespace Extraction.Pattern

open Character (Span)

/-- The bytes from `first` to `last`, both included. -/
structure ByteSpan where
  first : UInt8
  last : UInt8
deriving DecidableEq, Repr

namespace Utf8

/-- The bytes of a code point. -/
def encode (code : Nat) : List UInt8 :=
  String.utf8EncodeChar (Char.ofNat code)

/-- The parts of a span on both sides of the surrogates, which have no encoding. -/
def withoutSurrogates (span : Span) : List Span :=
  if span.first < 0xE000 && 0xD7FF < span.last then
    [⟨span.first, 0xD7FF⟩, ⟨0xE000, span.last⟩].filter fun part => part.first ≤ part.last
  else
    [span]

/-- Where a span has to be cut so that the last `6 * count` bits take all values, or those before
them only one. -/
def cutAtTrailing? (span : Span) (count : Nat) : Option Nat :=
  let unit := Nat.pow 64 count
  if span.first / unit = span.last / unit then none
  else if span.first % unit ≠ 0 then some (span.first / unit * unit + (unit - 1))
  else if span.last % unit ≠ unit - 1 then some (span.last / unit * unit - 1)
  else none

/-- The last code point of the first part of a span whose encodings are not one row. -/
def cut? (span : Span) : Option Nat :=
  match [0x7F, 0x7FF, 0xFFFF].find? fun limit => span.first ≤ limit && limit < span.last with
  | some limit => some limit
  | none => if span.last < 0x80 then none else [1, 2, 3].findSome? (cutAtTrailing? span)

/-- The rows of a span without surrogates. -/
def rowsOf (span : Span) : List (List ByteSpan) :=
  match cut? span with
  | none => [List.zipWith ByteSpan.mk (encode span.first) (encode span.last)]
  | some last =>
      if _inside : span.first ≤ last ∧ last < span.last then
        rowsOf ⟨span.first, last⟩ ++ rowsOf ⟨last + 1, span.last⟩
      else
        []
termination_by span.last - span.first
decreasing_by all_goals omega

/-- The rows of a set, in ascending order. -/
def rows (set : CharSet) : List (List ByteSpan) :=
  (set.spans.flatMap withoutSurrogates).flatMap rowsOf

end Utf8

end Extraction.Pattern
