import Extraction.Character.Table.Fold

/-!
# Comparing characters without regard to case

Two characters are the same without regard to case when they fold to the same code point.
-/

namespace Extraction.Character

namespace Table.FoldRun

/-- The code points of the run, each with what it folds to. -/
def pairs (run : FoldRun) : List (Nat × Nat) :=
  (List.range ((run.last - run.first) / run.stride + 1)).map fun step =>
    let code := run.first + run.stride * step
    (code, (code + run.shift).toNat)

end Table.FoldRun

/-- Puts a code point into the group of what it folds to, if that is the first group. -/
def addToGroups (pair : Nat × Nat) : List (List Nat) → List (List Nat)
  | (target :: codes) :: groups =>
      if pair.2 = target then (target :: pair.1 :: codes) :: groups
      else [pair.2, pair.1] :: (target :: codes) :: groups
  | groups => [pair.2, pair.1] :: groups

/-- The groups of code points that are the same without regard to case.  A code point in no group
is the same as itself alone. -/
def caseGroups : List (List Nat) :=
  ((Table.fold.flatMap Table.FoldRun.pairs).mergeSort fun left right =>
    decide (left.2 ≤ right.2)).foldr addToGroups []

end Extraction.Character
