import Extraction.Proofs.Contexts

/-!
# Filled contexts in place

What stands in a context stands at the same address in the filled context, with the holes inside it
filled.  Only at a hole and below it something else stands.
-/

namespace Extraction

/-- Fills the holes in the recursive schemas of a scope. -/
def Scope.fill (hole : String) (filling : Schema) (scope : Scope) : Scope :=
  scope.map fun owner => { owner with body := .fill hole filling owner.body }

/-- Fills the holes in a node and in what encloses it. -/
def Node.fill (hole : String) (filling : Schema) (node : Node) : Node :=
  ⟨.fill hole filling node.schema, node.address, Scope.fill hole filling node.scope⟩

/-- Fills the holes in what a thunk builds. -/
def Thunk.fill (hole : String) (filling : Schema) (thunk : Thunk) : Thunk :=
  { thunk with delegate := thunk.delegate.fill hole filling }

/-- A hole stands at an address of a context. -/
def HoleAt (definitions : Definitions) (context : Schema) (hole : String) (address : Address) :
    Prop :=
  ∃ node, Node.at? definitions context address = some node ∧ node.schema = .self hole

theorem Scope.find?_fill (hole : String) (filling : Schema) (label : String) (scope : Scope) :
    Scope.find? label (Scope.fill hole filling scope) =
      (Scope.find? label scope).map (Node.fill hole filling) := by
  induction scope with
  | nil => rfl
  | cons owner outer inductionHypothesis =>
      by_cases same : owner.label = label
      · simp [Scope.find?, Scope.fill, same, Owner.node, Node.fill]
      · simpa [Scope.find?, Scope.fill, same] using inductionHypothesis

namespace Node

variable {hole : String} {filling : Schema} {definitions : Definitions} {node lower : Node}

@[simp]
theorem address_fill (hole : String) (filling : Schema) (node : Node) :
    (node.fill hole filling).address = node.address :=
  rfl

@[simp]
theorem schema_fill (hole : String) (filling : Schema) (node : Node) :
    (node.fill hole filling).schema = .fill hole filling node.schema :=
  rfl

@[simp]
theorem scope_fill (hole : String) (filling : Schema) (node : Node) :
    (node.fill hole filling).scope = Scope.fill hole filling node.scope :=
  rfl

@[simp]
theorem fill_child (hole : String) (filling : Schema) (node : Node) (position : Nat)
    (schema : Schema) :
    (node.child position schema).fill hole filling =
      (node.fill hole filling).child position (.fill hole filling schema) :=
  rfl

theorem fields_fill (hole : String) (filling : Schema) (node : Node) (start : Nat)
    (fields : List (Field Schema)) :
    (node.fill hole filling).fields start (fields.map (Field.map (.fill hole filling))) =
      (node.fields start fields).map (Field.map (Node.fill hole filling)) := by
  induction fields generalizing start with
  | nil => rfl
  | cons field fields inductionHypothesis =>
      have same : (field.map (Schema.fill hole filling)).map
          ((node.fill hole filling).child start) =
            (field.map (node.child start)).map (Node.fill hole filling) := by
        cases field <;> rfl
      simp only [List.map_cons, Node.fields, inductionHypothesis, same]

theorem children_fill (hole : String) (filling : Schema) (node : Node) (start : Nat)
    (schemas : List Schema) :
    (node.fill hole filling).children start (schemas.map (.fill hole filling)) =
      (node.children start schemas).map (Node.fill hole filling) := by
  induction schemas generalizing start with
  | nil => rfl
  | cons schema schemas inductionHypothesis =>
      simp only [List.map_cons, children, inductionHypothesis, fill_child]

theorem branches_fill (hole : String) (filling : Schema) (node : Node) (start : Nat)
    (branches : List (String × Schema)) :
    (node.fill hole filling).branches start
        (branches.map (Prod.map id (.fill hole filling))) =
      (node.branches start branches).map (Prod.map id (Node.fill hole filling)) := by
  induction branches generalizing start with
  | nil => rfl
  | cons branch branches inductionHypothesis =>
      simp only [List.map_cons, Prod.map, Node.branches, inductionHypothesis, fill_child, id]

theorem supply_fill (hole : String) (filling : Schema) (node : Node) (first : Schema)
    (later : List Schema) (count : Nat) :
    (node.fill hole filling).supply (.fill hole filling first)
        (later.map (.fill hole filling)) count =
      (node.supply first later count).fill hole filling := by
  have position : min count later.length < (first :: later).length := by
    rw [List.length_cons]
    omega
  simp only [supply, List.length_map, fill_child, ← List.map_cons, List.getElem?_map,
    List.getElem?_eq_getElem position, Option.map_some, Option.getD_some]

/-- A node that is no hole is filled by filling the schemas inside it. -/
theorem fill_of_ne (notHole : node.schema ≠ .self hole) :
    node.fill hole filling =
      ⟨node.schema.mapNested (.fill hole filling), node.address,
        Scope.fill hole filling node.scope⟩ := by
  rw [Node.fill, Schema.fill_eq_mapNested notHole]

/-- What stands below a node stands below the filled node, with the holes filled. -/
theorem below?_fill {position : Nat} (notHole : node.schema ≠ .self hole)
    (found : node.below? definitions position = some lower) :
    (node.fill hole filling).below? (definitions.fill hole filling) position =
      some (lower.fill hole filling) := by
  rw [fill_of_ne notHole]
  rcases node with ⟨written, address, scope⟩
  cases written with
  | leaf | function | self | released => contradiction
  | object fields | closed fields =>
      rcases Option.map_eq_some_iff.mp found with ⟨part, isPart, rfl⟩
      rcases Option.bind_eq_some_iff.mp isPart with ⟨field, fieldAt, inside⟩
      simp only [below?, Schema.mapNested, List.getElem?_map, fieldAt, Option.map_some,
        Option.bind_some, Field.schema?_map, inside]
      rfl
  | oneOf alternatives =>
      rcases Option.map_eq_some_iff.mp found with ⟨part, partAt, rfl⟩
      simp only [below?, Schema.mapNested, List.getElem?_map, partAt, Option.map_some]
      rfl
  | choose key branches =>
      rcases Option.map_eq_some_iff.mp found with ⟨branch, branchAt, rfl⟩
      simp only [below?, Schema.mapNested, List.getElem?_map, branchAt, Option.map_some]
      rfl
  | supplied first later =>
      rcases Option.map_eq_some_iff.mp found with ⟨part, partAt, rfl⟩
      simp only [below?, Schema.mapNested, ← List.map_cons, List.getElem?_map, partAt,
        Option.map_some]
      rfl
  | array | setOf | thunk | boxed | recursive =>
      rcases Option.ite_none_right_eq_some.mp found with ⟨rfl, same⟩
      cases same
      rfl
  | reference label name =>
      rcases Option.ite_none_right_eq_some.mp found with ⟨rfl, same⟩
      cases same
      simp only [below?, Schema.mapNested, if_pos, Definitions.find_fill]
      rfl

theorem at?_fill {context : Schema} {address : Address}
    (found : at? definitions context address = some node) :
    at? (definitions.fill hole filling) (.fill hole filling context) address =
      some (node.fill hole filling) := by
  induction address generalizing node with
  | nil =>
      cases found
      rfl
  | cons position outer inductionHypothesis =>
      rcases Option.bind_eq_some_iff.mp found with ⟨upper, upperFound, isBelow⟩
      have notHole : upper.schema ≠ .self hole := by
        intro isHole
        simp [below?, isHole] at isBelow
      rw [at?, inductionHypothesis upperFound, Option.bind_some]
      exact below?_fill notHole isBelow

/-- What stands in a context stands in the filled context, with the holes filled. -/
theorem Stands.fill {context : Schema} (stands : node.Stands definitions context) :
    (node.fill hole filling).Stands (definitions.fill hole filling)
      (.fill hole filling context) :=
  at?_fill stands

/-- The thunk that a filled node is, is the filled thunk. -/
theorem thunk?_fill (notHole : node.schema ≠ .self hole) :
    (node.fill hole filling).thunk? (definitions.fill hole filling) =
      (node.thunk? definitions).map (Thunk.fill hole filling) := by
  rw [fill_of_ne notHole]
  rcases node with ⟨written, address, scope⟩
  cases written with
  | reference label name =>
      simp only [thunk?, Schema.mapNested, Option.map_some, definedThunk, Definitions.find_fill]
      rfl
  | _ => rfl

/-- A recursive schema around a node that is no hole is no hole itself: there is something inside
it. -/
theorem Stands.owner_ne_hole {context : Schema} {label : String} {target : Node}
    (stands : node.Stands definitions context) (notHole : node.schema ≠ .self hole)
    (owner : node.scope.find? label = some target) : target.schema ≠ .self hole := by
  have ofAddress (address : Address) (node : Node)
      (found : at? definitions context address = some node) (notHole : node.schema ≠ .self hole)
      (owner : node.scope.find? label = some target) : target.schema ≠ .self hole := by
    induction address generalizing node with
    | nil =>
        cases found
        contradiction
    | cons position outer inductionHypothesis =>
        rcases Option.bind_eq_some_iff.mp found with ⟨upper, upperFound, isBelow⟩
        have upperNotHole : upper.schema ≠ .self hole := by
          intro isHole
          simp [below?, isHole] at isBelow
        rcases below?_cases isBelow with ⟨_, rfl⟩ | ⟨_, _, rfl⟩ | ⟨opened, body, _, rfl⟩
        · exact inductionHypothesis upper upperFound upperNotHole owner
        · contradiction
        · simp only [recursiveBody, Owner.node, Scope.find?] at owner
          split at owner
          · cases owner
            exact notHole
          · exact inductionHypothesis upper upperFound upperNotHole owner
  exact ofAddress node.address node stands notHole owner

end Node

/-- A thunk that stands in a context stands in the filled context, and builds what is filled. -/
theorem Thunk.Stands.fill {hole : String} {filling : Schema} {definitions : Definitions}
    {context : Schema} {thunk : Thunk} (stands : thunk.Stands definitions context) :
    (thunk.fill hole filling).Stands (definitions.fill hole filling)
      (.fill hole filling context) := by
  rcases stands with ⟨node, place, isThunk⟩
  have notHole : node.schema ≠ .self hole := by
    intro isHole
    simp [Node.thunk?, isHole] at isThunk
  exact ⟨_, place.fill, by rw [Node.thunk?_fill notHole, isThunk, Option.map_some]⟩

end Extraction
