import Extraction.Proofs.Parts
import Extraction.Schema.Node

/-!
# What stands where

Everything that is ever built from a schema has its place in one tree, which the addresses span.
The tree says which node stands at an address, and so an address determines its node, also where a
schema delegates into itself without end.
-/

namespace Extraction

namespace Node

/-- The node at a position directly below a node, eagerly or lazily built. -/
def below? (definitions : Definitions) (node : Node) (position : Nat) : Option Node :=
  match node.schema with
  | .leaf _ | .function _ _ | .self _ | .released _ => none
  | .object fields | .closed fields =>
      (fields[position]?.bind Field.schema?).map (node.child position)
  | .oneOf alternatives => alternatives[position]?.map (node.child position)
  | .choose _ branches => branches[position]?.map fun branch => node.child position branch.2
  | .supplied first later => (first :: later)[position]?.map (node.child position)
  | .array inner | .setOf _ inner | .thunk _ _ inner | .boxed inner =>
      if position = 0 then some (node.child 0 inner) else none
  | .reference _ name =>
      if position = 0 then some ⟨definitions.find name, 0 :: node.address, []⟩ else none
  | .recursive label body => if position = 0 then some (node.recursiveBody label body) else none

/-- The node at an address of what is built from a schema. -/
def at? (definitions : Definitions) (schema : Schema) : Address → Option Node
  | [] => some (root schema)
  | position :: outer => (at? definitions schema outer).bind (·.below? definitions position)

/-- A node stands in what is built from a schema if the tree has it at its address. -/
def Stands (definitions : Definitions) (schema : Schema) (node : Node) : Prop :=
  at? definitions schema node.address = some node

/-- The thunk that a node is, if it is one. -/
def thunk? (definitions : Definitions) (node : Node) : Option Thunk :=
  match node.schema with
  | .thunk site label body => some (node.inlineThunk site label body)
  | .reference label name => some (node.definedThunk definitions label name)
  | _ => none

@[simp]
theorem schema_child (node : Node) (position : Nat) (schema : Schema) :
    (node.child position schema).schema = schema :=
  rfl

@[simp]
theorem address_child (node : Node) (position : Nat) (schema : Schema) :
    (node.child position schema).address = position :: node.address :=
  rfl

@[simp]
theorem scope_child (node : Node) (position : Nat) (schema : Schema) :
    (node.child position schema).scope = node.scope :=
  rfl

theorem stands_root (definitions : Definitions) (schema : Schema) :
    (root schema).Stands definitions schema :=
  rfl

/-- What stands directly below a node is a schema nested in its schema, what a definition gives, or
the body of a recursive schema. -/
theorem below?_cases {definitions : Definitions} {node lower : Node} {position : Nat}
    (found : node.below? definitions position = some lower) :
    (∃ schema, lower = node.child position schema) ∨
      (∃ name, position = 0 ∧ lower = ⟨definitions.find name, 0 :: node.address, []⟩) ∨
      ∃ label body, position = 0 ∧ lower = node.recursiveBody label body := by
  cases shape : node.schema with
  | leaf | function | self | released => simp [below?, shape] at found
  | object | closed | oneOf | choose | supplied =>
      simp only [below?, shape, Option.map_eq_some_iff] at found
      rcases found with ⟨_, _, rfl⟩
      exact .inl ⟨_, rfl⟩
  | array | setOf | thunk | boxed =>
      simp only [below?, shape, Option.ite_none_right_eq_some, Option.some.injEq] at found
      rcases found with ⟨rfl, rfl⟩
      exact .inl ⟨_, rfl⟩
  | reference label name =>
      simp only [below?, shape, Option.ite_none_right_eq_some, Option.some.injEq] at found
      exact .inr (.inl ⟨name, found.1, found.2.symm⟩)
  | recursive label body =>
      simp only [below?, shape, Option.ite_none_right_eq_some, Option.some.injEq] at found
      exact .inr (.inr ⟨label, body, found.1, found.2.symm⟩)

/-- What stands below a node has the address of the node, continued by its position. -/
theorem address_of_below? {definitions : Definitions} {node lower : Node} {position : Nat}
    (found : node.below? definitions position = some lower) :
    lower.address = position :: node.address := by
  rcases below?_cases found with ⟨_, rfl⟩ | ⟨_, rfl, rfl⟩ | ⟨_, _, rfl, rfl⟩ <;> rfl

theorem address_of_at? {definitions : Definitions} {schema : Schema} {address : Address}
    {node : Node} (found : at? definitions schema address = some node) :
    node.address = address := by
  induction address generalizing node with
  | nil =>
      cases found
      rfl
  | cons position outer inductionHypothesis =>
      rcases Option.bind_eq_some_iff.mp found with ⟨upper, upperFound, isBelow⟩
      rw [address_of_below? isBelow, inductionHypothesis upperFound]

theorem stands_of_at? {definitions : Definitions} {schema : Schema} {address : Address}
    {node : Node} (found : at? definitions schema address = some node) :
    node.Stands definitions schema := by
  unfold Stands
  rw [address_of_at? found]
  exact found

/-! ## Lists of nested schemas -/

theorem fields_eq_map (node : Node) (start : Nat) (fields : List (Field Schema)) :
    node.fields start fields =
      (fields.zipIdx start).map fun entry => entry.1.map (node.child entry.2) := by
  induction fields generalizing start with
  | nil => rfl
  | cons field fields inductionHypothesis => simp [Node.fields, inductionHypothesis]

theorem getElem?_fields (node : Node) (fields : List (Field Schema)) (position : Nat) :
    (node.fields 0 fields)[position]? =
      fields[position]?.map (Field.map (node.child position)) := by
  cases found : fields[position]? <;> simp [fields_eq_map, List.getElem?_zipIdx, found]

theorem children_eq_map (node : Node) (start : Nat) (schemas : List Schema) :
    node.children start schemas =
      (schemas.zipIdx start).map fun entry => node.child entry.2 entry.1 := by
  induction schemas generalizing start with
  | nil => rfl
  | cons schema schemas inductionHypothesis => simp [children, inductionHypothesis]

theorem getElem?_children (node : Node) (schemas : List Schema) (position : Nat) :
    (node.children 0 schemas)[position]? = schemas[position]?.map (node.child position) := by
  cases found : schemas[position]? <;> simp [children_eq_map, List.getElem?_zipIdx, found]

theorem children_take (node : Node) (start : Nat) (schemas : List Schema) (count : Nat) :
    node.children start (schemas.take count) = (node.children start schemas).take count := by
  induction schemas generalizing start count with
  | nil => simp [children]
  | cons schema schemas inductionHypothesis =>
      cases count with
      | zero => rfl
      | succ count => simp [children, inductionHypothesis]

/-- The schemas of nested nodes are those that are written there. -/
theorem schema_mem_of_mem_children {node lower : Node} {start : Nat} {schemas : List Schema}
    (member : lower ∈ node.children start schemas) : lower.schema ∈ schemas := by
  rw [children_eq_map] at member
  rcases List.mem_map.mp member with ⟨_, found, rfl⟩
  exact List.fst_mem_of_mem_zipIdx found

theorem schema_mem_of_mem_fields {node lower : Node} {start : Nat} {fields : List (Field Schema)}
    {field : Field Node} (member : field ∈ node.fields start fields)
    (inside : field.schema? = some lower) :
    lower.schema ∈ fields.filterMap Field.schema? := by
  rw [fields_eq_map] at member
  rcases List.mem_map.mp member with ⟨written, found, rfl⟩
  rw [Field.schema?_map] at inside
  rcases Option.map_eq_some_iff.mp inside with ⟨schema, isWritten, rfl⟩
  exact List.mem_filterMap.mpr ⟨written.1, List.fst_mem_of_mem_zipIdx found, isWritten⟩

theorem branches_eq_map (node : Node) (start : Nat) (branches : List (String × Schema)) :
    node.branches start branches =
      (branches.zipIdx start).map fun entry =>
        (entry.1.1, node.child entry.2 entry.1.2) := by
  induction branches generalizing start with
  | nil => rfl
  | cons branch branches inductionHypothesis => simp [Node.branches, inductionHypothesis]

/-- Nested nodes have the address of the node, continued by a position. -/
theorem address_of_mem_fields {node lower : Node} {start : Nat} {fields : List (Field Schema)}
    {field : Field Node} (member : field ∈ node.fields start fields)
    (inside : field.schema? = some lower) :
    ∃ position, lower.address = position :: node.address := by
  rw [fields_eq_map] at member
  rcases List.mem_map.mp member with ⟨written, _, rfl⟩
  rw [Field.schema?_map] at inside
  rcases Option.map_eq_some_iff.mp inside with ⟨_, _, rfl⟩
  exact ⟨written.2, rfl⟩

theorem address_of_mem_children {node lower : Node} {start : Nat} {schemas : List Schema}
    (member : lower ∈ node.children start schemas) :
    ∃ position, lower.address = position :: node.address := by
  rw [children_eq_map] at member
  rcases List.mem_map.mp member with ⟨written, _, rfl⟩
  exact ⟨written.2, rfl⟩

theorem address_of_mem_branches {node : Node} {start : Nat} {branches : List (String × Schema)}
    {branch : String × Node} (member : branch ∈ node.branches start branches) :
    ∃ position, branch.2.address = position :: node.address := by
  rw [branches_eq_map] at member
  rcases List.mem_map.mp member with ⟨written, _, rfl⟩
  exact ⟨written.2, rfl⟩

/-- A supplied schema always yields one of its schemas, at the position that it has among them. -/
theorem exists_supply_eq (node : Node) (first : Schema) (later : List Schema) (count : Nat) :
    ∃ position written, (first :: later)[position]? = some written ∧
      node.supply first later count = node.child position written := by
  have inRange : min count later.length < (first :: later).length := by
    rw [List.length_cons]
    omega
  refine ⟨min count later.length, _, List.getElem?_eq_getElem inRange, ?_⟩
  rw [Node.supply, List.getElem?_eq_getElem inRange, Option.getD_some]

namespace Stands

variable {definitions : Definitions} {schema : Schema} {node lower : Node}

/-- An address determines what stands at it. -/
theorem eq_of_address_eq {first second : Node} (firstStands : first.Stands definitions schema)
    (secondStands : second.Stands definitions schema)
    (same : first.address = second.address) : first = second := by
  unfold Stands at firstStands secondStands
  rw [same, secondStands] at firstStands
  exact (Option.some.inj firstStands).symm

theorem below (position : Nat) (stands : node.Stands definitions schema)
    (found : node.below? definitions position = some lower) :
    lower.Stands definitions schema := by
  unfold Stands
  rw [address_of_below? found, at?, stands]
  exact found

private theorem owner_of_at? {address : Address} {label : String} {target : Node}
    (found : at? definitions schema address = some node)
    (owner : node.scope.find? label = some target) : target.Stands definitions schema := by
  induction address generalizing node with
  | nil =>
      cases found
      contradiction
  | cons position outer inductionHypothesis =>
      rcases Option.bind_eq_some_iff.mp found with ⟨upper, upperFound, isBelow⟩
      have standing := stands_of_at? found
      rcases below?_cases isBelow with ⟨_, rfl⟩ | ⟨_, _, rfl⟩ | ⟨opened, body, _, rfl⟩
      · exact inductionHypothesis upperFound owner
      · contradiction
      · simp only [recursiveBody, Owner.node, Scope.find?] at owner
        split at owner
        · cases owner
          exact standing
        · exact inductionHypothesis upperFound owner

/-- Every recursive schema that encloses a standing node stands itself. -/
theorem owner {label : String} {target : Node} (stands : node.Stands definitions schema)
    (owner : node.scope.find? label = some target) : target.Stands definitions schema :=
  owner_of_at? stands owner

/-- The schemas in the fields of an object stand below it. -/
theorem fields {fields : List (Field Schema)} (stands : node.Stands definitions schema)
    (shape : node.schema = .object fields ∨ node.schema = .closed fields) {field : Field Node}
    (member : field ∈ node.fields 0 fields) (inside : field.schema? = some lower) :
    lower.Stands definitions schema := by
  rw [fields_eq_map] at member
  rcases List.mem_map.mp member with ⟨⟨written, position⟩, found, rfl⟩
  rw [List.mk_mem_zipIdx_iff_getElem?] at found
  rw [Field.schema?_map] at inside
  rcases Option.map_eq_some_iff.mp inside with ⟨nested, nestedInside, rfl⟩
  apply stands.below position
  rcases shape with shape | shape <;> simp [below?, shape, found, nestedInside]

theorem alternatives {alternatives : List Schema} (stands : node.Stands definitions schema)
    (shape : node.schema = .oneOf alternatives) (member : lower ∈ node.children 0 alternatives) :
    lower.Stands definitions schema := by
  rw [children_eq_map] at member
  rcases List.mem_map.mp member with ⟨⟨written, position⟩, found, rfl⟩
  rw [List.mk_mem_zipIdx_iff_getElem?] at found
  apply stands.below position
  simp [below?, shape, found]

theorem branches {key : String} {branches : List (String × Schema)}
    (stands : node.Stands definitions schema) (shape : node.schema = .choose key branches)
    {branch : String × Node} (member : branch ∈ node.branches 0 branches) :
    branch.2.Stands definitions schema := by
  rw [branches_eq_map] at member
  rcases List.mem_map.mp member with ⟨⟨written, position⟩, found, rfl⟩
  rw [List.mk_mem_zipIdx_iff_getElem?] at found
  apply stands.below position
  simp [below?, shape, found]

/-- Whatever a supplied schema yields stands below it. -/
theorem supply {first : Schema} {later : List Schema} (stands : node.Stands definitions schema)
    (shape : node.schema = .supplied first later) (count : Nat) :
    (node.supply first later count).Stands definitions schema := by
  rcases exists_supply_eq node first later count with ⟨position, written, found, supplied⟩
  rw [supplied]
  apply stands.below position
  simp [below?, shape, found]

end Stands

end Node

theorem Node.address_of_thunk? {definitions : Definitions} {node : Node} {thunk : Thunk}
    (isThunk : node.thunk? definitions = some thunk) : thunk.address = node.address := by
  unfold thunk? at isThunk
  split at isThunk <;> cases isThunk <;> rfl

theorem Node.address_delegate_of_thunk? {definitions : Definitions} {node : Node} {thunk : Thunk}
    (isThunk : node.thunk? definitions = some thunk) :
    thunk.delegate.address = 0 :: node.address := by
  unfold thunk? at isThunk
  split at isThunk <;> cases isThunk <;> rfl

/-- A thunk stands in what is built from a schema if it is a standing node. -/
def Thunk.Stands (definitions : Definitions) (schema : Schema) (thunk : Thunk) : Prop :=
  ∃ node : Node, node.Stands definitions schema ∧ node.thunk? definitions = some thunk

namespace Thunk.Stands

variable {definitions : Definitions} {schema : Schema} {thunk : Thunk}

/-- There is one thunk at most at an address. -/
theorem eq_of_address_eq {first second : Thunk} (firstStands : first.Stands definitions schema)
    (secondStands : second.Stands definitions schema)
    (same : first.address = second.address) : first = second := by
  rcases firstStands with ⟨firstNode, firstPlace, firstIs⟩
  rcases secondStands with ⟨secondNode, secondPlace, secondIs⟩
  have sameNode : firstNode = secondNode := firstPlace.eq_of_address_eq secondPlace
    ((Node.address_of_thunk? firstIs).symm.trans (same.trans (Node.address_of_thunk? secondIs)))
  subst sameNode
  exact Option.some.inj (firstIs.symm.trans secondIs)

/-- What a standing thunk builds stands as well. -/
theorem delegate (stands : thunk.Stands definitions schema) :
    thunk.delegate.Stands definitions schema := by
  rcases stands with ⟨node, place, is⟩
  apply place.below 0
  cases shape : node.schema with
  | thunk site label body =>
      simp only [Node.thunk?, shape, Option.some.injEq] at is
      subst is
      simp [Node.below?, shape, Node.inlineThunk]
  | reference label name =>
      simp only [Node.thunk?, shape, Option.some.injEq] at is
      subst is
      simp [Node.below?, shape, Node.definedThunk]
  | _ => simp [Node.thunk?, shape] at is

end Thunk.Stands

/-! ## Thunks that come into being -/

namespace Schema

variable {definitions : Definitions} {schema : Schema} {address : Address} {scope : Scope}
  {thunk : Thunk}

private theorem mem_thunksOfList {start : Nat} {schemas : List Schema}
    (member : thunk ∈ thunksOfList definitions address scope start schemas) :
    ∃ entry ∈ schemas.zipIdx start,
      thunk ∈ entry.1.thunks definitions (entry.2 :: address) scope := by
  induction schemas generalizing start with
  | nil => contradiction
  | cons schema schemas inductionHypothesis =>
      rcases List.mem_append.mp member with here | later
      · exact ⟨(schema, start), .head _, here⟩
      · rcases inductionHypothesis later with ⟨entry, found, inside⟩
        exact ⟨entry, .tail _ found, inside⟩

private theorem mem_thunksOfBranches {start : Nat} {branches : List (String × Schema)}
    (member : thunk ∈ thunksOfBranches definitions address scope start branches) :
    ∃ entry ∈ branches.zipIdx start,
      thunk ∈ entry.1.2.thunks definitions (entry.2 :: address) scope := by
  induction branches generalizing start with
  | nil => contradiction
  | cons branch branches inductionHypothesis =>
      rcases List.mem_append.mp member with here | later
      · exact ⟨(branch, start), .head _, here⟩
      · rcases inductionHypothesis later with ⟨entry, found, inside⟩
        exact ⟨entry, .tail _ found, inside⟩

private theorem mem_thunksOfFields {start : Nat} {fields : List (Field Schema)}
    (member : thunk ∈ thunksOfFields definitions address scope start fields) :
    ∃ entry ∈ fields.zipIdx start, ∃ nested, entry.1.schema? = some nested ∧
      thunk ∈ nested.thunks definitions (entry.2 :: address) scope := by
  induction fields generalizing start with
  | nil => contradiction
  | cons field fields inductionHypothesis =>
      rcases List.mem_append.mp member with here | later
      · cases field with
        | read key outputKey presence nested => exact ⟨_, .head _, nested, rfl, here⟩
        | state => contradiction
      · rcases inductionHypothesis later with ⟨entry, found, inside⟩
        exact ⟨entry, .tail _ found, inside⟩

end Schema

namespace Node.Stands

variable {definitions : Definitions} {schema : Schema}

/-- All thunks that come into being with a standing node stand. -/
theorem thunks {node : Node} (stands : node.Stands definitions schema) {thunk : Thunk}
    (member : thunk ∈ node.thunks definitions) : thunk.Stands definitions schema := by
  rcases node with ⟨written, address, scope⟩
  induction written using Schema.nested_induction generalizing address scope with
  | step written inductionHypothesis =>
      -- A nested schema stands below, so its thunks stand by induction.
      have nested {position : Nat} {part : Schema} (member : part ∈ written.nested)
          (found : Node.below? definitions ⟨written, address, scope⟩ position =
            some ⟨part, position :: address, scope⟩)
          (inside : thunk ∈ part.thunks definitions (position :: address) scope) :
          thunk.Stands definitions schema :=
        inductionHypothesis part member _ _ (stands.below _ found) inside
      have ofFields {fields : List (Field Schema)}
          (shape : written = .object fields ∨ written = .closed fields)
          (member : thunk ∈ Schema.thunksOfFields definitions address scope 0 fields) :
          thunk.Stands definitions schema := by
        obtain ⟨⟨field, position⟩, found, part, isNested, inside⟩ :=
          Schema.mem_thunksOfFields member
        rw [List.mk_mem_zipIdx_iff_getElem?] at found
        have fieldMem := List.mem_of_getElem? found
        refine nested ?_ ?_ inside
        · rcases shape with rfl | rfl <;> exact List.mem_filterMap.mpr ⟨field, fieldMem, isNested⟩
        · rcases shape with rfl | rfl <;> simp [Node.below?, found, isNested, Node.child]
      cases written with
      | leaf | function | self | released => contradiction
      | object fields => exact ofFields (.inl rfl) member
      | closed fields => exact ofFields (.inr rfl) member
      | array inner | setOf _ inner | boxed inner => exact nested (.head _) rfl member
      | oneOf alternatives =>
          rcases Schema.mem_thunksOfList member with ⟨⟨part, position⟩, found, inside⟩
          rw [List.mk_mem_zipIdx_iff_getElem?] at found
          exact nested (List.mem_of_getElem? found) (by simp [Node.below?, found, Node.child])
            inside
      | choose key branches =>
          rcases Schema.mem_thunksOfBranches member with ⟨⟨⟨name, part⟩, position⟩, found, inside⟩
          rw [List.mk_mem_zipIdx_iff_getElem?] at found
          exact nested (List.mem_map_of_mem (List.mem_of_getElem? found))
            (by simp [Node.below?, found, Node.child]) inside
      | supplied first later =>
          obtain ⟨⟨part, position⟩, found, inside⟩ :=
            Schema.mem_thunksOfList (show thunk ∈
              Schema.thunksOfList definitions address scope 0 (first :: later) from member)
          rw [List.mk_mem_zipIdx_iff_getElem?] at found
          exact nested (List.mem_of_getElem? found) (by simp [Node.below?, found, Node.child])
            inside
      | thunk | reference =>
          cases List.mem_singleton.mp member
          exact ⟨_, stands, rfl⟩
      | recursive label body =>
          exact inductionHypothesis body (.head _) _ _ (stands.below 0 rfl) member

end Node.Stands

end Extraction
