import Extraction.Proofs.Closures

/-!
# Contexts

A schema with holes is a schema that refers to itself by a label that stands for the holes.
Filling it puts another schema in the place of each of these references, as text: what the other
schema refers to by its labels is what is around the hole.
-/

namespace Extraction

namespace Schema

mutual

/-- Puts a schema in the place of every reference to the label `hole`. -/
def fill (hole : String) (filling : Schema) : Schema → Schema
  | leaf validator => leaf validator
  | object fields => object (fillFields hole filling fields)
  | closed fields => closed (fillFields hole filling fields)
  | array element => array (fill hole filling element)
  | oneOf alternatives => oneOf (fillList hole filling alternatives)
  | setOf keys values => setOf keys (fill hole filling values)
  | choose key branches => choose key (fillBranches hole filling branches)
  | function parameters retriever => function parameters retriever
  | thunk site label body => thunk site label (fill hole filling body)
  | reference label name => reference label name
  | supplied first later => supplied (fill hole filling first) (fillList hole filling later)
  | recursive label body => recursive label (fill hole filling body)
  | self label => if label = hole then filling else self label
  | released label => released label
  | boxed inner => boxed (fill hole filling inner)

/-- Fills schemas one after the other. -/
def fillList (hole : String) (filling : Schema) : List Schema → List Schema
  | [] => []
  | schema :: schemas => fill hole filling schema :: fillList hole filling schemas

/-- Fills the schemas of branches. -/
def fillBranches (hole : String) (filling : Schema) :
    List (String × Schema) → List (String × Schema)
  | [] => []
  | (name, schema) :: branches =>
      (name, fill hole filling schema) :: fillBranches hole filling branches

/-- Fills the schemas in fields. -/
def fillFields (hole : String) (filling : Schema) : List (Field Schema) → List (Field Schema)
  | [] => []
  | field :: fields => fillField hole filling field :: fillFields hole filling fields

/-- Fills the schema in a field. -/
def fillField (hole : String) (filling : Schema) : Field Schema → Field Schema
  | .read key outputKey presence schema =>
      .read key outputKey presence (fill hole filling schema)
  | .state outputKey generator => .state outputKey generator

end

variable {hole : String} {filling : Schema}

@[simp]
theorem fill_hole (hole : String) (filling : Schema) :
    fill hole filling (self hole) = filling := by
  simp [fill]

private theorem fillList_eq_map (schemas : List Schema) :
    fillList hole filling schemas = schemas.map (fill hole filling) := by
  induction schemas with
  | nil => rfl
  | cons schema schemas inductionHypothesis => rw [fillList, inductionHypothesis, List.map_cons]

private theorem fillBranches_eq_map (branches : List (String × Schema)) :
    fillBranches hole filling branches = branches.map (Prod.map id (fill hole filling)) := by
  induction branches with
  | nil => rfl
  | cons branch branches inductionHypothesis =>
      rw [fillBranches, inductionHypothesis, List.map_cons]
      rfl

private theorem fillFields_eq_map (fields : List (Field Schema)) :
    fillFields hole filling fields = fields.map (Field.map (fill hole filling)) := by
  induction fields with
  | nil => rfl
  | cons field fields inductionHypothesis =>
      rw [fillFields, inductionHypothesis, List.map_cons]
      cases field <;> rfl

/-- A schema that is not a hole is filled by filling the schemas inside it. -/
theorem fill_eq_mapNested {schema : Schema} (notHole : schema ≠ self hole) :
    fill hole filling schema = schema.mapNested (fill hole filling) := by
  cases schema with
  | object | closed => simp [fill, mapNested, fillFields_eq_map]
  | oneOf | supplied => simp [fill, mapNested, fillList_eq_map]
  | choose => simp [fill, mapNested, fillBranches_eq_map]
  | self label =>
      have differs : label ≠ hole := fun same => notHole (same ▸ rfl)
      simp [fill, mapNested, differs]
  | _ => rfl

/-- What holds throughout a context and what fills it holds throughout the result, if changing
nested schemas does not matter to it. -/
theorem Throughout.fill {property : Schema → Prop} {schema : Schema}
    (stable : ∀ change schema, property schema → property (schema.mapNested change))
    (holds : schema.Throughout property) (fillingHolds : filling.Throughout property) :
    (Schema.fill hole filling schema).Throughout property := by
  induction schema using nested_induction with
  | step schema inductionHypothesis =>
      by_cases isHole : schema = self hole
      · rw [isHole, fill_hole]
        exact fillingHolds
      · rw [fill_eq_mapNested isHole, throughout_iff, nested_mapNested, List.forall_mem_map]
        exact ⟨stable _ schema holds.here, fun part member =>
          inductionHypothesis part member (holds.nested member)⟩

end Schema

namespace Definitions

/-- Fills the holes in all definitions. -/
def fill (hole : String) (filling : Schema) (definitions : Definitions) : Definitions :=
  definitions.map (Prod.map id (Schema.fill hole filling))

theorem find_fill (hole : String) (filling : Schema) (definitions : Definitions)
    (name : String) :
    (definitions.fill hole filling).find name =
      Schema.fill hole filling (definitions.find name) := by
  induction definitions with
  | nil => simp [find, fill, Schema.fill]
  | cons definition definitions inductionHypothesis =>
      rcases definition with ⟨other, schema⟩
      by_cases same : name = other
      · simp [find, fill, same]
      · simpa [find, fill, List.lookup_cons, beq_false_of_ne same] using inductionHypothesis

theorem Throughout.fill {property : Schema → Prop} {definitions : Definitions} {hole : String}
    {filling : Schema}
    (stable : ∀ change schema, property schema → property (schema.mapNested change))
    (holds : definitions.Throughout property) (fillingHolds : filling.Throughout property) :
    (definitions.fill hole filling).Throughout property := by
  rw [Definitions.Throughout, Definitions.fill, List.forall_mem_map]
  exact fun definition member => (holds definition member).fill stable fillingHolds

end Definitions

end Extraction
