import Extraction.Schema.Basic

/-!
# Schemas in place

A node is a schema together with its place: the address at which it occurs in what has been built,
and the recursive schemas around it.  Addresses tell apart occurrences that look the same.  What a
lazy schema builds occurs below it, so a schema that unfolds into itself has a new address at every
turn.  Since schemas are trees, every place has lazy schemas of its own, which are built apart from
those in equal schemas elsewhere.
-/

namespace Extraction

/-- The positions that lead from the root to an occurrence, the last one first. -/
abbrev Address := List Nat

/-- A recursive schema that encloses an occurrence. -/
structure Owner where
  label : String
  body : Schema
  address : Address

/-- The recursive schemas that enclose an occurrence, the innermost first. -/
abbrev Scope := List Owner

/-- The schemas that have a name, looked up when they are first needed. -/
abbrev Definitions := List (String × Schema)

/-- An occurrence of a schema. -/
structure Node where
  schema : Schema
  address : Address
  scope : Scope

namespace Definitions

/-- The schema of a name; a name that is not defined stands for a schema that does not exist. -/
def find (definitions : Definitions) (name : String) : Schema :=
  (definitions.lookup name).getD (.released name)

end Definitions

namespace Owner

/-- The body of a recursive schema at its place. -/
def node (owner : Owner) (outer : Scope) : Node :=
  ⟨owner.body, owner.address, owner :: outer⟩

end Owner

namespace Scope

/-- The body of the innermost recursive schema with a label. -/
def find? (label : String) : Scope → Option Node
  | [] => none
  | owner :: outer => if owner.label = label then some (owner.node outer) else find? label outer

end Scope

namespace Node

/-- A schema as the root of what is built. -/
def root (schema : Schema) : Node :=
  ⟨schema, [], []⟩

/-- A nested schema in the same scope. -/
def child (node : Node) (position : Nat) (schema : Schema) : Node :=
  ⟨schema, position :: node.address, node.scope⟩

/-- Nested schemas at successive positions. -/
def children (node : Node) (position : Nat) : List Schema → List Node
  | [] => []
  | schema :: schemas => node.child position schema :: node.children (position + 1) schemas

/-- The fields of an object schema at successive positions. -/
def fields (node : Node) (position : Nat) : List (Field Schema) → List (Field Node)
  | [] => []
  | field :: rest => field.map (node.child position) :: node.fields (position + 1) rest

/-- Named schemas at successive positions. -/
def branches (node : Node) (position : Nat) : List (String × Schema) → List (String × Node)
  | [] => []
  | (name, schema) :: rest =>
      (name, node.child position schema) :: node.branches (position + 1) rest

/-- What a supplied schema yields after so many requests: one schema after the other, and then
always the last. -/
def supply (node : Node) (first : Schema) (later : List Schema) (count : Nat) : Node :=
  let position := min count later.length
  node.child position ((first :: later)[position]?.getD first)

/-- The body of a recursive schema, which can refer to that schema. -/
def recursiveBody (node : Node) (label : String) (body : Schema) : Node :=
  Owner.node ⟨label, body, 0 :: node.address⟩ node.scope

end Node

/-- Where the factory of a thunk stands. -/
inductive Origin where
  | inline (site : Nat)
  | definition
deriving DecidableEq, Repr

/-- What makes two thunks the same when they are described. -/
structure ThunkKey where
  origin : Origin
  label : String
deriving DecidableEq, Repr

/-- A schema that is built when it is first needed: the name of its factory, and what the factory
builds. -/
structure Thunk where
  address : Address
  key : ThunkKey
  factory : String
  delegate : Node

namespace Node

/-- A thunk written in place; it builds in the scope in which it is written. -/
def inlineThunk (node : Node) (site : Nat) (label : String) (body : Schema) : Thunk where
  address := node.address
  key := ⟨.inline site, label⟩
  factory := label
  delegate := node.child 0 body

/-- A thunk that looks a definition up; definitions stand in no scope. -/
def definedThunk (definitions : Definitions) (node : Node) (label name : String) : Thunk where
  address := node.address
  key := ⟨.definition, label⟩
  factory := name
  delegate := ⟨definitions.find name, 0 :: node.address, []⟩

end Node

namespace Schema

mutual

/-- The thunks that come into being when a schema is built at a place, in the order in which they
are written.  What thunks themselves build is not among them. -/
def thunks (definitions : Definitions) (address : Address) (scope : Scope) :
    Schema → List Thunk
  | leaf _ | function _ _ | self _ | released _ => []
  | object fields | closed fields => thunksOfFields definitions address scope 0 fields
  | array element => thunks definitions (0 :: address) scope element
  | oneOf alternatives => thunksOfList definitions address scope 0 alternatives
  | setOf _ values => thunks definitions (0 :: address) scope values
  | choose _ branches => thunksOfBranches definitions address scope 0 branches
  | thunk site label body =>
      [Node.inlineThunk ⟨thunk site label body, address, scope⟩ site label body]
  | reference label name =>
      [Node.definedThunk definitions ⟨reference label name, address, scope⟩ label name]
  | supplied first later =>
      thunks definitions (0 :: address) scope first ++
        thunksOfList definitions address scope 1 later
  | recursive label body =>
      thunks definitions (0 :: address) (⟨label, body, 0 :: address⟩ :: scope) body
  | boxed inner => thunks definitions (0 :: address) scope inner

/-- The thunks of schemas at successive positions. -/
def thunksOfList (definitions : Definitions) (address : Address) (scope : Scope)
    (position : Nat) : List Schema → List Thunk
  | [] => []
  | schema :: schemas =>
      thunks definitions (position :: address) scope schema ++
        thunksOfList definitions address scope (position + 1) schemas

/-- The thunks of named schemas at successive positions. -/
def thunksOfBranches (definitions : Definitions) (address : Address) (scope : Scope)
    (position : Nat) : List (String × Schema) → List Thunk
  | [] => []
  | (_, schema) :: branches =>
      thunks definitions (position :: address) scope schema ++
        thunksOfBranches definitions address scope (position + 1) branches

/-- The thunks of fields at successive positions. -/
def thunksOfFields (definitions : Definitions) (address : Address) (scope : Scope)
    (position : Nat) : List (Field Schema) → List Thunk
  | [] => []
  | field :: fields =>
      thunksOfField definitions (position :: address) scope field ++
        thunksOfFields definitions address scope (position + 1) fields

/-- The thunks of the schema nested in a field. -/
def thunksOfField (definitions : Definitions) (address : Address) (scope : Scope) :
    Field Schema → List Thunk
  | .read _ _ _ schema => thunks definitions address scope schema
  | .state _ _ => []

end

end Schema

namespace Node

/-- The thunks that come into being when a node is built. -/
def thunks (definitions : Definitions) (node : Node) : List Thunk :=
  node.schema.thunks definitions node.address node.scope

end Node

end Extraction
