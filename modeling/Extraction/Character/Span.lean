/-!
# Spans of code points

Character classes are written as spans in ascending order, none of which overlap.
-/

namespace Extraction.Character

/-- The code points from `first` to `last`, both included. -/
structure Span where
  first : Nat
  last : Nat
deriving DecidableEq, Repr

namespace Span

/-- Whether the span holds the code point. -/
def contains (span : Span) (code : Nat) : Bool :=
  span.first ≤ code && code ≤ span.last

@[simp]
theorem contains_iff (span : Span) (code : Nat) :
    span.contains code = true ↔ span.first ≤ code ∧ code ≤ span.last := by
  simp [contains]

/-- Whether one of the spans from place `low` to before place `high` holds the code point, found by
halving the stretch `halvings` times at most. -/
def coverBetween (spans : Array Span) (code low high : Nat) : Nat → Bool
  | 0 => false
  | halvings + 1 =>
      if low < high then
        let middle := (low + high) / 2
        match spans[middle]? with
        | none => false
        | some span =>
            if code < span.first then coverBetween spans code low middle halvings
            else if span.last < code then coverBetween spans code (middle + 1) high halvings
            else true
      else
        false

/-- Whether one of the spans, which are in ascending order, holds the code point. -/
def cover (spans : Array Span) (code : Nat) : Bool :=
  coverBetween spans code 0 spans.size (spans.size.log2 + 1)

end Span

end Extraction.Character
