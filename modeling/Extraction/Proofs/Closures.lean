import Mathlib.Logic.Relation
import Extraction.Proofs.Places

/-!
# Schemas in their surroundings

What a schema means depends on the recursive schemas around it, which its handles refer to, but not
on the address at which it stands.  A closure is what is left of a node without the addresses.
-/

namespace Extraction

/-- The labels and bodies of the recursive schemas around a schema, the innermost first. -/
abbrev Bindings := List (String × Schema)

/-- A schema together with the recursive schemas around it. -/
structure Closure where
  schema : Schema
  bindings : Bindings

namespace Bindings

/-- The body of the innermost recursive schema with a label. -/
def find? (label : String) : Bindings → Option Closure
  | [] => none
  | (other, body) :: outer =>
      if other = label then some ⟨body, (other, body) :: outer⟩ else find? label outer

end Bindings

/-- The labels and bodies of a scope. -/
def Scope.bindings (scope : Scope) : Bindings :=
  scope.map fun owner => (owner.label, owner.body)

/-- A node without its address. -/
def Node.closure (node : Node) : Closure :=
  ⟨node.schema, Scope.bindings node.scope⟩

theorem Scope.find?_bindings (label : String) (scope : Scope) :
    Bindings.find? label (Scope.bindings scope) = (Scope.find? label scope).map Node.closure := by
  induction scope with
  | nil => rfl
  | cons owner outer inductionHypothesis =>
      by_cases same : owner.label = label
      · subst same
        simp [Scope.bindings, Bindings.find?, Scope.find?, Owner.node, Node.closure]
      · simpa [Scope.bindings, Bindings.find?, Scope.find?, same] using inductionHypothesis

namespace Node

@[simp]
theorem schema_closure (node : Node) : node.closure.schema = node.schema :=
  rfl

@[simp]
theorem closure_child (node : Node) (position : Nat) (schema : Schema) :
    (node.child position schema).closure = ⟨schema, node.closure.bindings⟩ :=
  rfl

@[simp]
theorem closure_recursiveBody (node : Node) (label : String) (body : Schema) :
    (node.recursiveBody label body).closure = ⟨body, (label, body) :: node.closure.bindings⟩ :=
  rfl

theorem map_closure_fields (node : Node) (start : Nat) (fields : List (Field Schema)) :
    (node.fields start fields).map (Field.map closure) =
      fields.map (Field.map (Closure.mk · node.closure.bindings)) := by
  induction fields generalizing start with
  | nil => rfl
  | cons field fields inductionHypothesis =>
      have same : (field.map (node.child start)).map closure =
          field.map (Closure.mk · node.closure.bindings) := by
        cases field <;> rfl
      simp [Node.fields, inductionHypothesis, same]

theorem map_closure_children (node : Node) (start : Nat) (schemas : List Schema) :
    (node.children start schemas).map closure =
      schemas.map (Closure.mk · node.closure.bindings) := by
  induction schemas generalizing start with
  | nil => rfl
  | cons schema schemas inductionHypothesis => simp [children, inductionHypothesis]

theorem map_closure_branches (node : Node) (start : Nat) (branches : List (String × Schema)) :
    (node.branches start branches).map (Prod.map id closure) =
      branches.map (Prod.map id (Closure.mk · node.closure.bindings)) := by
  induction branches generalizing start with
  | nil => rfl
  | cons branch branches inductionHypothesis =>
      simp only [Node.branches, List.map_cons, inductionHypothesis]
      rfl

theorem branch?_branches (node : Node) (name : String) (branches : List (String × Schema)) :
    (Schema.branch? name (node.branches 0 branches)).map closure =
      (Schema.branch? name branches).map (Closure.mk · node.closure.bindings) := by
  rw [← Schema.branch?_map, map_closure_branches, Schema.branch?_map]

theorem branchNames_branches (node : Node) (branches : List (String × Schema)) :
    Schema.branchNames (node.branches 0 branches) = Schema.branchNames branches := by
  rw [← Schema.branchNames_map closure, map_closure_branches, Schema.branchNames_map]

end Node

namespace Closure

/-- What a lazily built, indirect or self-referring closure stands for. -/
def delegate? (definitions : Definitions) (closure : Closure) : Option Closure :=
  match closure.schema with
  | .thunk _ _ inner | .boxed inner => some ⟨inner, closure.bindings⟩
  | .reference _ name => some ⟨definitions.find name, []⟩
  | .recursive label body => some ⟨body, (label, body) :: closure.bindings⟩
  | .self label => Bindings.find? label closure.bindings
  | _ => none

/-- One closure leads to another if a run of the first may run the second. -/
inductive Leads (definitions : Definitions) : Closure → Closure → Prop where
  | nested {schema part : Schema} {bindings : Bindings} (member : part ∈ schema.nested) :
      Leads definitions ⟨schema, bindings⟩ ⟨part, bindings⟩
  | delegate {closure delegate : Closure}
      (delegates : closure.delegate? definitions = some delegate) :
      Leads definitions closure delegate

/-- A property holds of all schemas in a closure: of those in its schema and in the bodies that its
handles refer to. -/
structure Throughout (property : Schema → Prop) (closure : Closure) : Prop where
  schema : closure.schema.Throughout property
  bindings : ∀ binding ∈ closure.bindings, binding.2.Throughout property

end Closure

/-- A property holds of all schemas that are written in definitions. -/
def Definitions.Throughout (property : Schema → Prop) (definitions : Definitions) : Prop :=
  ∀ definition ∈ definitions, definition.2.Throughout property

namespace Closure

variable {property : Schema → Prop} {definitions : Definitions}

/-- What holds throughout the definitions holds throughout what a name stands for, also where the
name is not defined. -/
theorem throughout_find {name : String} (released : ∀ label, property (.released label))
    (defined : definitions.Throughout property) :
    (definitions.find name).Throughout property := by
  unfold Definitions.find
  cases found : definitions.lookup name with
  | none =>
      rw [Option.getD_none, Schema.throughout_iff]
      exact ⟨released name, by simp [Schema.nested]⟩
  | some schema =>
      rcases List.lookup_eq_some_iff.mp found with ⟨_, _, rfl, _⟩
      exact defined (name, schema) (by simp)

private theorem throughout_find? {label : String} {bindings : Bindings} {found : Closure}
    (holds : ∀ binding ∈ bindings, binding.2.Throughout property)
    (isFound : Bindings.find? label bindings = some found) : found.Throughout property := by
  induction bindings with
  | nil => contradiction
  | cons binding outer inductionHypothesis =>
      rw [Bindings.find?] at isFound
      split at isFound
      · cases isFound
        exact ⟨holds binding (.head _), holds⟩
      · exact inductionHypothesis (fun other member => holds other (.tail _ member)) isFound

/-- What holds throughout a closure and the definitions holds wherever the closure leads. -/
theorem Throughout.leads {closure next : Closure} (holds : closure.Throughout property)
    (released : ∀ label, property (.released label))
    (defined : definitions.Throughout property) (leads : Leads definitions closure next) :
    next.Throughout property := by
  cases leads with
  | nested member => exact ⟨holds.schema.nested member, holds.bindings⟩
  | delegate delegates =>
      rcases closure with ⟨schema, bindings⟩
      cases schema with
      | thunk | boxed =>
          cases delegates
          exact ⟨holds.schema.nested (.head _), holds.bindings⟩
      | reference label name =>
          cases delegates
          exact ⟨throughout_find released defined, by simp⟩
      | recursive label body =>
          cases delegates
          have inner := holds.schema.nested (.head _)
          constructor
          · exact inner
          · rintro binding (_ | ⟨_, outer⟩)
            · exact inner
            · exact holds.bindings binding outer
      | self label => exact throughout_find? holds.bindings delegates
      | _ => contradiction

end Closure

/-! ## Standing nodes -/

namespace Node

variable {definitions : Definitions} {schema : Schema} {node lower : Node}

theorem delegate?_of_thunk? {thunk : Thunk} (isThunk : node.thunk? definitions = some thunk) :
    node.closure.delegate? definitions = some thunk.delegate.closure := by
  rcases node with ⟨written, address, scope⟩
  cases written with
  | thunk | reference =>
      cases isThunk
      rfl
  | _ => contradiction

theorem delegate?_of_find? {target : Node} {label : String} (shape : node.schema = .self label)
    (found : node.scope.find? label = some target) :
    node.closure.delegate? definitions = some target.closure := by
  rcases node with ⟨written, address, scope⟩
  cases shape
  exact (Scope.find?_bindings label scope).trans (by rw [found, Option.map_some])

/-- A closure leads to whatever stands directly below it. -/
theorem leads_of_below? {position : Nat}
    (found : node.below? definitions position = some lower) :
    node.closure.Leads definitions lower.closure := by
  rcases node with ⟨written, address, scope⟩
  cases written with
  | leaf | function | self | released => contradiction
  | object fields | closed fields =>
      rcases Option.map_eq_some_iff.mp found with ⟨part, isPart, rfl⟩
      rcases Option.bind_eq_some_iff.mp isPart with ⟨field, fieldAt, inside⟩
      exact .nested (List.mem_filterMap.mpr ⟨field, List.mem_of_getElem? fieldAt, inside⟩)
  | oneOf alternatives =>
      rcases Option.map_eq_some_iff.mp found with ⟨part, partAt, rfl⟩
      exact .nested (List.mem_of_getElem? partAt)
  | choose key branches =>
      rcases Option.map_eq_some_iff.mp found with ⟨branch, branchAt, rfl⟩
      exact .nested (List.mem_map_of_mem (List.mem_of_getElem? branchAt))
  | supplied first later =>
      rcases Option.map_eq_some_iff.mp found with ⟨part, partAt, rfl⟩
      exact .nested (List.mem_of_getElem? partAt)
  | array | setOf | thunk | boxed =>
      rcases Option.ite_none_right_eq_some.mp found with ⟨_, same⟩
      cases same
      exact .nested (.head _)
  | reference | recursive =>
      rcases Option.ite_none_right_eq_some.mp found with ⟨_, same⟩
      cases same
      exact .delegate rfl

/-- A schema leads to whatever stands in what is built from it. -/
theorem Stands.leadsTo (stands : node.Stands definitions schema) :
    Relation.ReflTransGen (Closure.Leads definitions) ⟨schema, []⟩ node.closure := by
  have ofAddress (address : Address) (node : Node)
      (found : at? definitions schema address = some node) :
      Relation.ReflTransGen (Closure.Leads definitions) ⟨schema, []⟩ node.closure := by
    induction address generalizing node with
    | nil =>
        cases found
        exact .refl
    | cons position outer inductionHypothesis =>
        rcases Option.bind_eq_some_iff.mp found with ⟨upper, upperFound, isBelow⟩
        exact (inductionHypothesis upper upperFound).tail (leads_of_below? isBelow)
  exact ofAddress node.address node stands

/-- What holds throughout a schema and the definitions holds of all that stands in what is
built. -/
theorem Stands.throughout {property : Schema → Prop} (stands : node.Stands definitions schema)
    (released : ∀ label, property (.released label)) (holds : schema.Throughout property)
    (defined : definitions.Throughout property) : node.closure.Throughout property := by
  have leadsTo := stands.leadsTo
  generalize node.closure = closure at leadsTo
  induction leadsTo with
  | refl => exact ⟨holds, fun _ member => nomatch member⟩
  | tail _ leads inductionHypothesis => exact inductionHypothesis.leads released defined leads

end Node

end Extraction
