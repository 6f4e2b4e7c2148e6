import Extraction.Schema.Memory

/-!
# Descriptions

A schema describes its structure in one text.  A thunk that is met again while it is being
described is only named, and so is a reference of a recursive schema to itself.
-/

namespace Extraction

/-- Describes a schema. -/
abbrev Describer := Node → Run String

namespace Describer

/-- Describes one entry of an object schema. -/
def entry (describe : Describer) : Field Node → Run String
  | .read key _ _ node => return key ++ " -> " ++ (← describe node)
  | .state outputKey _ => return "state(" ++ outputKey ++ ")"

/-- Describes an object schema, one entry a line. -/
def object (describe : Describer) (fields : List (Field Node)) : Run String := do
  let lines ← fields.mapM describe.entry
  return "obj\x7b\n" ++ "\n".intercalate lines ++ "\x7d"

/-- The name of a recursive schema where it stands for itself. -/
def recursiveName (label : String) : String :=
  "recursive(" ++ label ++ ")"

/-- Describes a thunk by what it holds, unless it is being described already. -/
def thunk (definitions : Definitions) (describe : Describer) (thunk : Thunk) : Run String := do
  if thunk.key ∈ (← get).describing then
    return "thunk(" ++ thunk.key.label ++ ")"
  else
    modify fun memory => { memory with describing := thunk.key :: memory.describing }
    let delegate ← Run.force definitions thunk
    let description ← describe delegate
    modify fun memory => { memory with describing := memory.describing.tail }
    return description

/-- Builds a thunk by its number and describes what it holds.  The description is empty where there
is no such thunk. -/
def numbered (definitions : Definitions) (describe : Describer) (number : Nat) :
    Run String := do
  match ← Run.forceNumbered definitions number with
  | some delegate => describe delegate
  | none => return ""

/-- One step of description. -/
def step (definitions : Definitions) (describe : Describer) : Describer := fun node =>
  match node.schema with
  | .leaf _ => return "val"
  | .object fields | .closed fields => describe.object (node.fields 0 fields)
  | .array element => return "array(" ++ (← describe (node.child 0 element)) ++ ")"
  | .oneOf alternatives => do
      let parts ← (node.children 0 alternatives).mapM describe
      return "oneOf(" ++ ", ".intercalate parts ++ ")"
  | .setOf _ values => return "setOf(" ++ (← describe (node.child 0 values)) ++ ")"
  | .choose key branches =>
      return "chooseOn(" ++ key ++ "). Possible values: [" ++
        ", ".intercalate (Schema.branchNames branches) ++ "]"
  | .function _ _ => return "function"
  | .thunk site label body => describe.thunk definitions (node.inlineThunk site label body)
  | .reference label name =>
      describe.thunk definitions (node.definedThunk definitions label name)
  | .supplied first later => do
      let count ← Run.request node.address
      describe (node.supply first later count)
  | .recursive label body => describe (node.recursiveBody label body)
  | .self label | .released label => return recursiveName label
  | .boxed inner => describe (node.child 0 inner)

end Describer

/-- Description in runs that nest at most `depth` deep. -/
def describe (definitions : Definitions) : Nat → Describer
  | 0 => fun _ => Run.exhausted
  | depth + 1 => Describer.step definitions (describe definitions depth)

@[simp]
theorem describe_zero (definitions : Definitions) (node : Node) :
    describe definitions 0 node = Run.exhausted :=
  rfl

theorem describe_succ (definitions : Definitions) (depth : Nat) :
    describe definitions (depth + 1) =
      Describer.step definitions (describe definitions depth) :=
  rfl

end Extraction
