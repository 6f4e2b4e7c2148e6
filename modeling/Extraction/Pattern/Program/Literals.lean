import Extraction.Pattern.Program.Basic

/-!
# Programs of several literals

A choice between literals is looked for by way of a tree of their bytes.
-/

namespace Extraction.Pattern

/-- A tree of literals, its branches in groups and in the order of their bytes; a literal ends at
the node after each of the `settled` groups. -/
inductive LiteralTree where
  | node (settled : List (List (UInt8 × LiteralTree))) (current : List (UInt8 × LiteralTree))

namespace LiteralTree

/-- The tree of no literal. -/
def empty : LiteralTree :=
  node [] []

/-- Whether no branch leads out of the root. -/
def isLeaf : LiteralTree → Bool
  | node settled current => settled.all List.isEmpty && current.isEmpty

/-- Changes the branch of a byte in a group, or adds it. -/
def change (byte : UInt8) (f : LiteralTree → LiteralTree) :
    List (UInt8 × LiteralTree) → List (UInt8 × LiteralTree)
  | [] => [(byte, f empty)]
  | (other, branch) :: group =>
      if byte < other then (byte, f empty) :: (other, branch) :: group
      else if byte = other then (byte, f branch) :: group
      else (other, branch) :: change byte f group

/-- Adds a literal.  One that ends at a leaf where another one ends is in the tree already. -/
def insert : List UInt8 → LiteralTree → LiteralTree
  | [], node settled current =>
      if (node settled current).isLeaf && !settled.isEmpty then node settled current
      else node (settled ++ [current]) []
  | byte :: bytes, node settled current => node settled (change byte (insert bytes) current)

/-- The instruction of a group of branches. -/
def instruction : List Edge → Instruction
  | [edge] => .byte edge
  | edges => .bytes edges.toArray

mutual

/-- Builds the tree above a leaf; all leaves are at the same place. -/
def assemble (leaf : Nat) : LiteralTree → Assembler Nat
  | node settled current => do
      let earlier ← assembleGroups leaf settled
      let last ← assembleGroup leaf current
      Assembler.add (.split (earlier ++ last).toArray)

/-- Builds groups after each of which a literal ends. -/
def assembleGroups (leaf : Nat) : List (List (UInt8 × LiteralTree)) → Assembler (List Nat)
  | [] => return []
  | group :: groups => do
      let first ← assembleGroup leaf group
      return first ++ leaf :: (← assembleGroups leaf groups)

/-- Builds one group; an empty one needs nothing. -/
def assembleGroup (leaf : Nat) (group : List (UInt8 × LiteralTree)) : Assembler (List Nat) := do
  match ← assembleBranches leaf group with
  | [] => return []
  | edges => return [← Assembler.add (instruction edges)]

/-- Builds the branches of a group. -/
def assembleBranches (leaf : Nat) : List (UInt8 × LiteralTree) → Assembler (List Edge)
  | [] => return []
  | (byte, branch) :: group => do
      let next ← if branch.isLeaf then pure leaf else assemble leaf branch
      return ⟨byte, byte, next⟩ :: (← assembleBranches leaf group)

end

end LiteralTree

end Extraction.Pattern
