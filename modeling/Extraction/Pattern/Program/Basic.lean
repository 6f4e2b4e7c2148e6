import Extraction.Pattern.Assertion
import Extraction.Pattern.Utf8

/-!
# Programs

A program looks for a match in the bytes of a text.  It is a list of instructions that name each
other by their places; many of them are followed at the same time.  Programs are put together from
fragments, and one that grows larger than a fixed size is given up.
-/

namespace Extraction.Pattern

/-- Takes a byte from `first` to `last` and goes on at a place. -/
structure Edge where
  first : UInt8
  last : UInt8
  next : Nat
deriving DecidableEq, Repr

namespace Edge

/-- The edge that takes a byte of a span. -/
def ofSpan (span : ByteSpan) (next : Nat) : Edge :=
  ⟨span.first, span.last, next⟩

/-- Whether the edge takes a byte. -/
def takes (edge : Edge) (byte : UInt8) : Bool :=
  edge.first ≤ byte && byte ≤ edge.last

end Edge

/-- One instruction of a program. -/
inductive Instruction where
  /-- Goes on at a place. -/
  | pass (next : Nat)
  /-- Takes one byte. -/
  | byte (edge : Edge)
  /-- Takes one byte along one of several edges. -/
  | bytes (edges : Array Edge)
  /-- Goes on if the assertion holds. -/
  | check (assertion : Assertion) (next : Nat)
  /-- Goes on at several places. -/
  | split (targets : Array Nat)
  /-- Ends a match. -/
  | accept
deriving Repr

namespace Instruction

/-- The size of an instruction. -/
def size : Instruction → Nat
  | pass _ | byte _ | check _ _ | accept => 32
  | bytes edges => 32 + 8 * edges.size
  | split targets => 32 + 4 * targets.size

/-- The instruction with one more place to go on at: the only one, or one of the targets of a
split.  What leads on by several edges, or not at all, stays as it is. -/
def leadTo (place : Nat) : Instruction → Instruction
  | pass _ => pass place
  | byte edge => byte { edge with next := place }
  | check assertion _ => check assertion place
  | split targets => split (targets.push place)
  | instruction => instruction

end Instruction

/-- A program and the place where it starts. -/
structure Program where
  code : Array Instruction
  start : Nat

/-- A part of a program: where it is entered, and the instruction that leads out of it. -/
structure Fragment where
  entry : Nat
  exit : Nat

/-- A program in the making, with the size that it has so far. -/
structure Draft where
  code : Array Instruction
  size : Nat

namespace Draft

/-- The greatest size of a program, ten times two to the twentieth. -/
def limit : Nat := 10485760

end Draft

/-- What adds to a program, unless it gets too large. -/
abbrev Assembler := StateT Draft Option

namespace Assembler

/-- Refuses a draft that is too large. -/
def checked (draft : Draft) : Option Draft :=
  if draft.size ≤ Draft.limit then some draft else none

/-- Adds an instruction and tells its place. -/
def add (instruction : Instruction) : Assembler Nat := fun draft =>
  let place := draft.code.size
  (checked ⟨draft.code.push instruction, draft.size + instruction.size⟩).map (place, ·)

/-- Lets the instruction at a place lead to another place. -/
def connect (place target : Nat) : Assembler Unit := fun draft =>
  match draft.code[place]? with
  | some (.split _) =>
      (checked ⟨draft.code.modify place (.leadTo target), draft.size + 4⟩).map ((), ·)
  | _ => some ((), { draft with code := draft.code.modify place (.leadTo target) })

/-- The fragment of an instruction that leads to one place. -/
def single (instruction : Instruction) : Assembler Fragment := do
  let place ← add instruction
  return ⟨place, place⟩

/-- A fragment that takes nothing. -/
def pass : Assembler Fragment :=
  single (.pass 0)

/-- A split without targets so far. -/
def split : Assembler Nat :=
  add (.split #[])

/-- One fragment and then another one. -/
def andThen (first : Fragment) (second : Assembler Fragment) : Assembler Fragment := do
  let second ← second
  connect first.exit second.entry
  return ⟨first.entry, second.exit⟩

/-- One fragment after the other. -/
def inTurn : List (Assembler Fragment) → Assembler Fragment
  | [] => pass
  | first :: later => do later.foldlM andThen (← first)

/-- A fragment and then some more copies of another one. -/
def withCopies (body : Assembler Fragment) (first : Fragment) : Nat → Assembler Fragment
  | 0 => return first
  | count + 1 => do withCopies body (← andThen first body) count

/-- Some copies of a fragment in a row. -/
def copies (body : Assembler Fragment) : Nat → Assembler Fragment
  | 0 => pass
  | count + 1 => do withCopies body (← body) count

end Assembler

end Extraction.Pattern
