import Extraction.Schema.Memory

/-!
# Extraction

Extraction runs a schema on a value found at a path.  One step of it says what each kind of schema
does, given how nested schemas are extracted; repeating the step a bounded number of times gives
extraction for all schemas that are nested no deeper in a run.
-/

namespace Extraction

/-- Extracts from a value at a path. -/
abbrev Extractor := Node → Path → Value → Run (Outcome Value)

namespace Extractor

/-- Extracts one field of an object under a presence policy. -/
def field (extract : Extractor) (presence : Presence) (path : Path) (object : Value)
    (key : String) (node : Node) : Run (Outcome Value) := do
  let place := path.pushField key
  match ← Run.perform (presence.resolve object key) with
  | .missing => return Outcome.fail ⟨place, .missingStrict key object⟩
  | .skipped => return .ok .absent
  | .plain value => extract node place value
  | .optional value => return (← extract node place value).map .present

/-- Extracts one entry of an object schema, together with the key that it is stored under. -/
def entry (extract : Extractor) (path : Path) (object : Value) :
    Field Node → Run (Outcome (String × Value))
  | .read key outputKey presence node =>
      return (← extract.field presence path object key node).map (outputKey, ·)
  | .state outputKey generator =>
      return .ok (outputKey, ← Run.perform (generator object))

/-- Extracts all fields of an object in order, whether or not some of them fail.  The results are
stored in order: of a repeated output key the last result counts and the first place. -/
def object (extract : Extractor) (path : Path) (fields : List (Field Node)) (value : Value) :
    Run (Outcome Value) := do
  let results ← fields.mapM (extract.entry path value)
  return (Outcome.consolidate results).map fun pairs => .object (Entries.ofList pairs)

/-- Extracts every item of an array in order, each at its index. -/
def items (extract : Extractor) (path : Path) (element : Node) (values : List Value) :
    Run (Outcome (List Value)) := do
  let results ← values.zipIdx.mapM fun (value, index) =>
    extract element (path.pushIndex index) value
  return Outcome.consolidate results

/-- Tries alternatives in order up to the first success; `earlier` are the faults of those that
have failed.  Where there is no alternative at all, the result is an empty array. -/
def oneOf (extract : Extractor) (path : Path) (value : Value) (earlier : List Fault) :
    List Node → Run (Outcome Value)
  | [] =>
      match Faults.ofList? earlier with
      | some faults => return .error faults
      | none => return .ok (.array [])
  | node :: nodes => do
      match ← extract node path value with
      | .ok result => return .ok result
      | .error faults => extract.oneOf path value (earlier ++ faults.toList) nodes

/-- Judges keys in order, each at its index.  A key that is accepted as a string goes by that
string. -/
def keys (validator : Validator) (path : Path) (keys : List String) :
    Run (Outcome (List String)) := do
  let verdicts ← keys.zipIdx.mapM fun (key, index) => do
    let verdict ← Run.perform (validator (.string key))
    return (Outcome.lift verdict (path.pushIndex index)).map fun accepted =>
      accepted.asString?.getD key
  return Outcome.consolidate verdicts

/-- Extracts an object of like values: if all keys are accepted, each becomes a field that has to
be there. -/
def setOf (extract : Extractor) (validator : Validator) (path : Path) (values : Node)
    (value : Value) : Run (Outcome Value) := do
  match ← keys validator path value.entries.keys with
  | .error faults => return .error faults
  | .ok keys => extract.object path (keys.map fun key => .read key key .strict values) value

/-- The name of the branch that a value asks for: a string is the name itself. -/
def branchName : Value → String
  | .string name => name
  | value => value.format

/-- Extracts the whole value by the branch that it asks for. -/
def choose (extract : Extractor) (path : Path) (key : String) (branches : List (String × Node))
    (value : Value) : Run (Outcome Value) :=
  match value.get? key with
  | none => return Outcome.fail ⟨path, .missingKey key⟩
  | some chosen =>
      let name := branchName chosen
      match Schema.branch? name branches with
      | some branch => extract branch (path.pushField ("branch: " ++ name)) value
      | none =>
          let names := .array ((Schema.branchNames branches).map .string)
          return Outcome.fail ⟨path, .missingBranch names name⟩

/-- The keys of a value that hold something and that no field reads. -/
def unsupportedKeys (permitted : List String) (value : Value) : List String :=
  value.setKeys.filter fun key => !permitted.contains key

/-- The fault of a reference to a recursive schema that no longer exists. -/
def unavailable (path : Path) (label : String) : Fault :=
  .custom path ("Recursive schema \"" ++ label ++ "\" is no longer available")

/-- Builds a thunk if need be and extracts by what it holds. -/
def thunk (definitions : Definitions) (extract : Extractor) (thunk : Thunk) (path : Path)
    (value : Value) : Run (Outcome Value) := do
  let delegate ← Run.force definitions thunk
  extract delegate path value

/-- One step of extraction. -/
def step (definitions : Definitions) (extract : Extractor) : Extractor := fun node path value =>
  match node.schema with
  | .leaf validator => return Outcome.lift (← Run.perform (validator value)) path
  | .object fields => extract.object path (node.fields 0 fields) value
  | .closed fields =>
      match unsupportedKeys (Schema.permittedKeys fields) value with
      | [] => extract.object path (node.fields 0 fields) value
      | keys => return Outcome.fail ⟨path, .unsupportedFields keys⟩
  | .array element =>
      match value with
      | .array values => return (← extract.items path (node.child 0 element) values).map .array
      | other =>
          return Outcome.fail (.custom path ("Expected array but got: " ++ other.typeName))
  | .oneOf alternatives => extract.oneOf path value [] (node.children 0 alternatives)
  | .setOf validator values => extract.setOf validator path (node.child 0 values) value
  | .choose key branches => extract.choose path key (node.branches 0 branches) value
  | .function parameters retriever =>
      match value with
      | .function callable =>
          return .ok (.function (.limited callable parameters.length retriever))
      | _ => return Outcome.fail (.custom path "Not a function")
  | .thunk site label body =>
      extract.thunk definitions (node.inlineThunk site label body) path value
  | .reference label name =>
      extract.thunk definitions (node.definedThunk definitions label name) path value
  | .supplied first later => do
      let count ← Run.request node.address
      extract (node.supply first later count) path value
  | .recursive label body => extract (node.recursiveBody label body) path value
  | .self label =>
      match node.scope.find? label with
      | some target => extract target path value
      | none => return Outcome.fail (unavailable path label)
  | .released label => return Outcome.fail (unavailable path label)
  | .boxed inner => extract (node.child 0 inner) path value

end Extractor

/-- Extraction in runs that nest at most `depth` deep. -/
def extract (definitions : Definitions) : Nat → Extractor
  | 0 => fun _ _ _ => Run.exhausted
  | depth + 1 => Extractor.step definitions (extract definitions depth)

@[simp]
theorem extract_zero (definitions : Definitions) (node : Node) (path : Path) (value : Value) :
    extract definitions 0 node path value = Run.exhausted :=
  rfl

theorem extract_succ (definitions : Definitions) (depth : Nat) :
    extract definitions (depth + 1) = Extractor.step definitions (extract definitions depth) :=
  rfl

end Extraction
