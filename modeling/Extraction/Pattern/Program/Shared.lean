import Extraction.Pattern.Program.Basic
import Std.Data.HashMap

/-!
# Programs of character sets

A set of characters is looked for byte by byte.  Instructions that do the same are shared, as far
as they are remembered: what has been built is kept in a table with a fixed number of slots, where
a newcomer takes the slot over.
-/

namespace Extraction.Pattern

/-- What has been built, by slot: what describes it, and its place. -/
abbrev Built := Std.HashMap Nat (List Nat × Nat)

/-- What adds to a program and remembers what it has built. -/
abbrev SharingAssembler := StateT Built Assembler

namespace Assembler

/-- The slot of a description among a number of slots: its numbers are mixed into one in turn. -/
def slot (slots : Nat) (description : List Nat) : Nat :=
  let mixed := description.foldl
    (fun (mixed : UInt64) number => (mixed ^^^ number.toUInt64) * 1099511628211)
    14695981039346656037
  mixed.toNat % slots

/-- Builds something unless it is remembered. -/
def shared (slots : Nat) (description : List Nat) (instruction : Instruction) :
    SharingAssembler Nat := do
  let slot := slot slots description
  match (← get)[slot]? with
  | some (known, place) =>
      if known = description then return place
  | none => pure ()
  let place ← add instruction
  modify (·.insert slot (description, place))
  return place

/-! ## Reading forwards -/

/-- A node of the tree of rows that is still open: its edges in reverse, and the bytes of the edge
to the node below it. -/
structure OpenNode where
  edges : List Edge
  pending : Option ByteSpan

namespace OpenNode

/-- Lets the pending edge lead to a place. -/
def settle (node : OpenNode) (next : Nat) : OpenNode :=
  match node.pending with
  | some span => ⟨.ofSpan span next :: node.edges, none⟩
  | none => node

/-- The nodes of a row below the first one. -/
def chain (row : List ByteSpan) : List OpenNode :=
  row.map fun span => ⟨[], some span⟩

end OpenNode

/-- The instruction of a node, shared with equal ones. -/
def node (edges : List Edge) : SharingAssembler Nat := do
  let edges := edges.reverse
  let description := edges.flatMap fun edge =>
    [edge.first.toNat, edge.last.toNat, edge.next]
  shared 10000 description (.bytes edges.toArray)

/-- Builds a path of open nodes from its lower end and tells the place of the upper one. -/
def closeAll (target : Nat) : List OpenNode → SharingAssembler Nat
  | [] => return target
  | top :: below => do
      let next ← closeAll target below
      node (top.settle next).edges

/-- Builds the nodes of a path that lie below the first `kept + 1` ones. -/
def closeBelow (target : Nat) : Nat → List OpenNode → SharingAssembler (List OpenNode)
  | _, [] => return []
  | 0, top :: below => do
      let next ← closeAll target below
      return [top.settle next]
  | kept + 1, top :: below => return top :: (← closeBelow target kept below)

/-- The number of byte spans at the start of a row that the path goes along. -/
def commonLength : List ByteSpan → List OpenNode → Nat
  | span :: row, node :: path =>
      if node.pending = some span then commonLength row path + 1 else 0
  | _, _ => 0

/-- Goes along a row from the last node of the path on. -/
def extend : List OpenNode → List ByteSpan → List OpenNode
  | [], row => OpenNode.chain row
  | [last], span :: row => { last with pending := some span } :: OpenNode.chain row
  | node :: path, row => node :: extend path row

/-- Adds a row, which comes after the ones before, to the tree of rows. -/
def addRow (target : Nat) (path : List OpenNode) (row : List ByteSpan) :
    SharingAssembler (List OpenNode) := do
  let common := commonLength row path
  let path ← closeBelow target common path
  return extend path (row.drop common)

/-- The tree of the rows, read from the first byte on. -/
def tree (target : Nat) (rows : List (List ByteSpan)) : SharingAssembler Nat := do
  let path ← rows.foldlM (addRow target) [⟨[], none⟩]
  closeAll target path

/-! ## Reading backwards -/

/-- The end of a row, built from its first byte to its last one, which is read first. -/
def rowBackwards (target : Nat) (row : List ByteSpan) : SharingAssembler Nat :=
  row.foldlM (fun next span =>
    shared 1000 [next, span.first.toNat, span.last.toNat] (.byte (.ofSpan span next))) target

/-- All rows, each on its own up to where it meets others. -/
def rowsBackwards (start target : Nat) (rows : List (List ByteSpan)) :
    SharingAssembler Unit :=
  rows.forM fun row => do
    let entry ← rowBackwards target row
    connect start entry

/-! ## Sets -/

/-- The fragment that takes a byte of some spans. -/
def byteOf (spans : List ByteSpan) : Assembler Fragment := do
  let exit ← add (.pass 0)
  let entry ← add (.bytes (spans.map (Edge.ofSpan · exit)).toArray)
  return ⟨entry, exit⟩

/-- The fragment that takes a character of a set. -/
def member (backward : Bool) (set : CharSet) : Assembler Fragment := do
  if set.isAscii then
    byteOf (set.spans.map fun span => ⟨span.first.toUInt8, span.last.toUInt8⟩)
  else if backward then
    let entry ← split
    let exit ← add (.pass 0)
    let _ ← (rowsBackwards entry exit (Utf8.rows set)).run ∅
    return ⟨entry, exit⟩
  else
    let exit ← add (.pass 0)
    let (entry, _) ← (tree exit (Utf8.rows set)).run ∅
    return ⟨entry, exit⟩

end Assembler

end Extraction.Pattern
