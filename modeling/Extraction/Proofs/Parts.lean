import Extraction.Schema.Basic

/-!
# Parts of schemas

The schemas that are written inside a schema, and properties that hold of all of them.  What a
reference looks up is not written inside it.
-/

namespace Extraction.Schema

/-- The schemas that are written directly inside a schema, in order. -/
def nested : Schema → List Schema
  | leaf _ | function _ _ | reference _ _ | self _ | released _ => []
  | object fields | closed fields => fields.filterMap Field.schema?
  | array element => [element]
  | oneOf alternatives => alternatives
  | setOf _ values => [values]
  | choose _ branches => branches.map Prod.snd
  | thunk _ _ body => [body]
  | supplied first later => first :: later
  | recursive _ body => [body]
  | boxed inner => [inner]

/-- Changes the schemas that are written directly inside a schema. -/
def mapNested (change : Schema → Schema) : Schema → Schema
  | leaf validator => leaf validator
  | object fields => object (fields.map (Field.map change))
  | closed fields => closed (fields.map (Field.map change))
  | array element => array (change element)
  | oneOf alternatives => oneOf (alternatives.map change)
  | setOf keys values => setOf keys (change values)
  | choose key branches => choose key (branches.map (Prod.map id change))
  | function parameters retriever => function parameters retriever
  | thunk site label body => thunk site label (change body)
  | reference label name => reference label name
  | supplied first later => supplied (change first) (later.map change)
  | recursive label body => recursive label (change body)
  | self label => self label
  | released label => released label
  | boxed inner => boxed (change inner)

theorem filterMap_schema?_map {σ τ : Type} (change : σ → τ) (fields : List (Field σ)) :
    (fields.map (Field.map change)).filterMap Field.schema? =
      (fields.filterMap Field.schema?).map change := by
  rw [List.filterMap_map, List.map_filterMap]
  congr 1
  funext field
  exact Field.schema?_map change field

/-- The nested schema of a changed field is that of a written field, changed. -/
theorem exists_part_of_mem_map {σ τ : Type} {change : σ → τ} {fields : List (Field σ)}
    {field : Field τ} {next : τ} (member : field ∈ fields.map (Field.map change))
    (inside : field.schema? = some next) :
    ∃ part ∈ fields.filterMap Field.schema?, change part = next := by
  have found := List.mem_filterMap.mpr ⟨field, member, inside⟩
  rw [filterMap_schema?_map] at found
  exact List.mem_map.mp found

theorem eq_of_mem_members {σ : Type} {names : List String} {schema part : σ}
    (member : part ∈
      (names.map fun name => Field.read name name .strict schema).filterMap Field.schema?) :
    part = schema := by
  rcases List.mem_filterMap.mp member with ⟨field, fieldMem, inside⟩
  rcases List.mem_map.mp fieldMem with ⟨name, _, rfl⟩
  exact (Option.some.inj inside).symm

@[simp]
theorem nested_mapNested (change : Schema → Schema) (schema : Schema) :
    (schema.mapNested change).nested = schema.nested.map change := by
  cases schema with
  | object fields => exact filterMap_schema?_map change fields
  | closed fields => exact filterMap_schema?_map change fields
  | choose key branches => simp [mapNested, nested, Function.comp_def]
  | _ => rfl

@[simp]
theorem mapNested_id (schema : Schema) : schema.mapNested id = schema := by
  cases schema <;> simp [mapNested]

private theorem sizeOf_lt_of_schema? {field : Field Schema} {schema : Schema}
    (inside : field.schema? = some schema) : sizeOf schema < sizeOf field := by
  cases field with
  | read key outputKey presence nested =>
      cases inside
      simp only [Field.read.sizeOf_spec]
      omega
  | state => contradiction

/-- What is written inside a schema is smaller than the schema. -/
theorem sizeOf_lt_of_mem_nested {part whole : Schema} (inside : part ∈ whole.nested) :
    sizeOf part < sizeOf whole := by
  have inFields {fields : List (Field Schema)} (found : part ∈ fields.filterMap Field.schema?) :
      sizeOf part < 1 + sizeOf fields := by
    rcases List.mem_filterMap.mp found with ⟨field, fieldMem, inside⟩
    have smaller := sizeOf_lt_of_schema? inside
    have bound := List.sizeOf_lt_of_mem fieldMem
    omega
  cases whole with
  | leaf | function | reference | self | released => contradiction
  | object fields =>
      rw [object.sizeOf_spec]
      exact inFields inside
  | closed fields =>
      rw [closed.sizeOf_spec]
      exact inFields inside
  | oneOf alternatives =>
      have bound := List.sizeOf_lt_of_mem (show part ∈ alternatives from inside)
      rw [oneOf.sizeOf_spec]
      omega
  | choose key branches =>
      rcases List.mem_map.mp inside with ⟨⟨name, schema⟩, branchMem, rfl⟩
      have bound := List.sizeOf_lt_of_mem branchMem
      rw [Prod.mk.sizeOf_spec] at bound
      change sizeOf schema < sizeOf (choose key branches)
      rw [choose.sizeOf_spec]
      omega
  | supplied first later =>
      rw [supplied.sizeOf_spec]
      rcases List.mem_cons.mp inside with rfl | laterMem
      · omega
      · have bound := List.sizeOf_lt_of_mem laterMem
        omega
  | array | setOf | thunk | recursive | boxed =>
      cases List.mem_singleton.mp inside
      simp only [array.sizeOf_spec, setOf.sizeOf_spec, thunk.sizeOf_spec, recursive.sizeOf_spec,
        boxed.sizeOf_spec]
      omega

/-- The branch of a name is one of the branches. -/
theorem branch?_mem {β : Type} {name : String} {branches : List (String × β)} {branch : β}
    (found : branch? name branches = some branch) : (name, branch) ∈ branches := by
  induction branches with
  | nil => contradiction
  | cons entry branches inductionHypothesis =>
      rcases entry with ⟨other, schema⟩
      rcases Option.or_eq_some_iff.mp found with later | ⟨_, here⟩
      · exact .tail _ (inductionHypothesis later)
      · split at here
        · next same =>
            cases here
            subst same
            exact .head _
        · contradiction

theorem branch?_map {β γ : Type} (change : β → γ) (name : String)
    (branches : List (String × β)) :
    branch? name (branches.map (Prod.map id change)) = (branch? name branches).map change := by
  induction branches with
  | nil => rfl
  | cons entry branches inductionHypothesis =>
      rcases entry with ⟨other, branch⟩
      by_cases same : other = name <;>
        cases found : branch? name branches <;>
          simp_all [branch?]

theorem branchNames_map {β γ : Type} (change : β → γ) (branches : List (String × β)) :
    branchNames (branches.map (Prod.map id change)) = branchNames branches := by
  simp [branchNames, Function.comp_def]

theorem permittedKeys_map {β γ : Type} (change : β → γ) (fields : List (Field β)) :
    permittedKeys (fields.map (Field.map change)) = permittedKeys fields := by
  have sameKeys : Field.sourceKey? ∘ Field.map change = Field.sourceKey? :=
    funext (Field.sourceKey?_map change)
  rw [permittedKeys, permittedKeys, List.filterMap_map, sameKeys]

/-- What holds of a schema whenever it holds of the schemas directly inside it holds of every
schema. -/
theorem nested_induction {property : Schema → Prop}
    (step : ∀ schema, (∀ part ∈ schema.nested, property part) → property schema)
    (schema : Schema) : property schema :=
  step schema fun part inside =>
    have _smaller := sizeOf_lt_of_mem_nested inside
    nested_induction step part
termination_by sizeOf schema

/-- A part of a schema is the schema itself or written somewhere inside it. -/
inductive Part (part : Schema) : Schema → Prop where
  | whole : Part part part
  | inside {whole direct : Schema} (member : direct ∈ whole.nested) (rest : Part part direct) :
      Part part whole

/-- A property holds throughout a schema if it holds of all its parts. -/
def Throughout (property : Schema → Prop) (schema : Schema) : Prop :=
  ∀ part, Part part schema → property part

variable {property : Schema → Prop}

theorem throughout_iff {schema : Schema} :
    schema.Throughout property ↔
      property schema ∧ ∀ part ∈ schema.nested, part.Throughout property := by
  constructor
  · intro holds
    exact ⟨holds schema .whole, fun direct member part rest => holds part (.inside member rest)⟩
  · rintro ⟨here, below⟩ part isPart
    cases isPart with
    | whole => exact here
    | inside member rest => exact below _ member part rest

theorem Throughout.here {schema : Schema} (holds : schema.Throughout property) :
    property schema :=
  (throughout_iff.mp holds).1

theorem Throughout.nested {schema part : Schema} (holds : schema.Throughout property)
    (member : part ∈ schema.nested) : part.Throughout property :=
  (throughout_iff.mp holds).2 part member

end Extraction.Schema
