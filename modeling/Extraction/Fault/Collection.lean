import Extraction.Fault.Basic
import Extraction.Text.Quoted

/-!
# Collections of faults

A failed extraction holds at least one fault.  Collections are combined by concatenation: the order
is kept, and equal faults are kept apart.
-/

namespace Extraction

/-- One or more faults in order. -/
structure Faults where
  head : Fault
  tail : List Fault

namespace Faults

/-- A single fault. -/
def single (fault : Fault) : Faults :=
  ⟨fault, []⟩

/-- The collection of a list; the empty list has none. -/
def ofList? : List Fault → Option Faults
  | [] => none
  | head :: tail => some ⟨head, tail⟩

/-- The faults in order. -/
def toList (faults : Faults) : List Fault :=
  faults.head :: faults.tail

/-- The faults of one collection followed by those of another. -/
def combine (first second : Faults) : Faults :=
  ⟨first.head, first.tail ++ second.toList⟩

/-- The number of faults. -/
def length (faults : Faults) : Nat :=
  faults.toList.length

/-- The faults at exactly this path. -/
def atPath (faults : Faults) (path : Path) : List Fault :=
  faults.toList.filter fun fault => fault.path == path

/-- The faults of one kind. -/
def ofKind (faults : Faults) (kind : FaultKind) : List Fault :=
  faults.toList.filter fun fault => fault.kind == kind

/-- Applies a function to every fault. -/
def map (change : Fault → Fault) (faults : Faults) : Faults :=
  ⟨change faults.head, faults.tail.map change⟩

@[simp]
theorem toList_single (fault : Fault) : (single fault).toList = [fault] :=
  rfl

@[simp]
theorem toList_combine (first second : Faults) :
    (first.combine second).toList = first.toList ++ second.toList :=
  rfl

@[simp]
theorem toList_map (change : Fault → Fault) (faults : Faults) :
    (faults.map change).toList = faults.toList.map change :=
  rfl

theorem toList_ne_nil (faults : Faults) : faults.toList ≠ [] := by
  simp [toList]

theorem toList_injective {left right : Faults} (same : left.toList = right.toList) :
    left = right := by
  cases left
  cases right
  simpa [toList] using same

theorem ofList?_eq_some_iff {list : List Fault} {faults : Faults} :
    ofList? list = some faults ↔ list = faults.toList := by
  cases list with
  | nil => simp [ofList?, toList]
  | cons head tail =>
      constructor
      · intro made
        cases made
        rfl
      · intro same
        rw [ofList?, @toList_injective ⟨head, tail⟩ faults same]

@[simp]
theorem ofList?_toList (faults : Faults) : ofList? faults.toList = some faults :=
  rfl

theorem combine_assoc (first second third : Faults) :
    (first.combine second).combine third = first.combine (second.combine third) := by
  simp [combine, toList]

/-- Every fault rendered on its own. -/
def lines (faults : Faults) : Traced (List String) :=
  faults.toList.mapM Fault.render

/-- All faults rendered, one below the other. -/
def render (faults : Faults) : Traced String := do
  pure ("\n".intercalate (← faults.lines))

/-- Whether two lists of the same length hold equal faults in the same places, up to the first
difference. -/
def equalsList : List Fault → List Fault → Traced Bool
  | left :: lefts, right :: rights => do
      if ← left.equals right then equalsList lefts rights else pure false
  | _, _ => pure true

/-- The heads are compared first, then the lengths, then the rest in order. -/
def equals (left right : Faults) : Traced Bool := do
  if ← left.head.equals right.head then
    if left.tail.length = right.tail.length then equalsList left.tail right.tail
    else pure false
  else
    pure false

/-- The structural text of a fault. -/
def debugFault (fault : Fault) : Traced String := do
  let explanation ← fault.explain
  pure ("SchemaError \x7b path: " ++ Quoted.encode fault.path.render ++ ", kind: " ++
    fault.kind.debug ++ ", explain: " ++ Quoted.encode explanation ++ " \x7d")

/-- The structural text of a collection. -/
def debug (faults : Faults) : Traced String := do
  let head ← debugFault faults.head
  let tail ← faults.tail.mapM debugFault
  pure ("SchemaErrors(NonEmptyVec \x7b head: " ++ head ++ ", tail: [" ++
    ", ".intercalate tail ++ "] \x7d)")

end Faults

/-- An extraction that failed for good: its faults, the input, and the message that shows both. -/
structure Failure where
  message : String
  faults : Faults
  input : Value

namespace Failure

/-- The message is worked out once, when the failure is made. -/
def ofFaults (faults : Faults) (input : Value) : Traced Failure := do
  let rendered ← faults.render
  pure
    { message := "Errors: \n" ++ rendered ++ "\n\nInput object: " ++ input.format
      faults
      input }

end Failure

end Extraction
