import Extraction.Schema.Debug
import Extraction.Schema.Extract

/-!
# Sessions

A session holds a schema that has been built once, and the memory of everything that was run on it.
-/

namespace Extraction

/-- A schema in use. -/
structure Session where
  definitions : Definitions
  root : Node
  memory : Memory

namespace Session

/-- Builds a schema. -/
def start (definitions : Definitions) (schema : Schema) : Session :=
  let root := Node.root schema
  { definitions, root, memory := .initial (root.thunks definitions) }

/-- How deep a run may nest.  Runs that end stay far below; a run that never would end has no
result. -/
def nestingLimit : Nat := 1000000

/-- Runs a computation in the session. -/
def run {α : Type} (session : Session) (computation : Run α) : Option (α × Session) :=
  (computation.run session.memory).map fun (result, memory) =>
    (result, { session with memory })

/-- Extraction as the session does it. -/
def extractor (session : Session) : Extractor :=
  Extraction.extract session.definitions nestingLimit

/-- Description as the session does it. -/
def describer (session : Session) : Describer :=
  Extraction.describe session.definitions nestingLimit

/-- Extracts a value found at a path. -/
def extractAt (session : Session) (path : Path) (value : Value) :
    Option (Outcome Value × Session) :=
  session.run (session.extractor session.root path value)

/-- Extracts a whole input. -/
def extract (session : Session) (value : Value) : Option (Outcome Value × Session) :=
  session.extractAt .root value

/-- Extracts a whole input; every path starts with the label. -/
def extractAs (session : Session) (label : String) (value : Value) :
    Option (Outcome Value × Session) :=
  session.extractAt (.ofField label) value

/-- Extracts a whole input, or fails with a message that shows all faults and the input. -/
def extractOrFail (session : Session) (label : String) (value : Value) :
    Option (Except Failure Value × Session) :=
  session.run do
    match ← session.extractor session.root (.ofField label) value with
    | .ok result => return .ok result
    | .error faults => return .error (← Run.perform (Failure.ofFaults faults value))

/-- Extracts one field of an object by the schema of the session. -/
def extractField (session : Session) (presence : Presence) (path : Path) (object : Value)
    (key : String) : Option (Outcome Value × Session) :=
  session.run (session.extractor.field presence path object key session.root)

/-- Describes the schema. -/
def describe (session : Session) : Option (String × Session) :=
  session.run (session.describer session.root)

/-- The structural texts of the fields of an object schema at the root. -/
def debugFields (session : Session) (fields : List (Field Schema)) :
    Option (List String × Session) :=
  session.run ((session.root.fields 0 fields).mapM session.describer.debugField)

/-- The structural text of a closed object schema at the root. -/
def debugClosed (session : Session) (fields : List (Field Schema)) : Option (String × Session) :=
  session.run (session.describer.debugClosed (session.root.fields 0 fields))

/-- The labels of all thunks in the order in which they came into being, and whether each has been
built. -/
def thunks (session : Session) : List (String × Bool) :=
  session.memory.created.map fun thunk =>
    (thunk.key.label, session.memory.isBuilt thunk.address)

/-- Builds a thunk by its number and describes what it holds. -/
def force (session : Session) (number : Nat) : Option (String × Session) :=
  session.run (session.describer.numbered session.definitions number)

/-- The log, which starts anew. -/
def takeLog (session : Session) : List Event × Session :=
  (session.memory.log, { session with memory := { session.memory with log := [] } })

end Session

end Extraction
