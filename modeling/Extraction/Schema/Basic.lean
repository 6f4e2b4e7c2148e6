import Extraction.Presence
import Extraction.Validator

/-!
# Schemas

A schema says which values are accepted and what is extracted from them.  Schemas are data: what is
built lazily is kept as the schema that will be built, and what refers to itself does so by a
label.  Schemas are trees: what occurs in two places is written twice, and no part is shared.  Of
what is supplied from outside there are finitely many schemas, and the last one is supplied on and
on.
-/

namespace Extraction

/-- One entry of an object schema, over schemas of type `σ`. -/
inductive Field (σ : Type) where
  /-- Reads `key` of the input and stores what is extracted from it under `outputKey`. -/
  | read (key outputKey : String) (presence : Presence) (schema : σ)
  /-- Stores what is generated from the whole input; never fails. -/
  | state (outputKey : String) (generator : Fallback)

namespace Field

variable {σ τ : Type}

/-- The key that a field reads; generated fields read none. -/
def sourceKey? : Field σ → Option String
  | read key .. => some key
  | state .. => none

/-- The key under which a field is stored. -/
def outputKey : Field σ → String
  | read _ outputKey _ _ => outputKey
  | state outputKey _ => outputKey

/-- Changes the nested schema. -/
def map (change : σ → τ) : Field σ → Field τ
  | read key outputKey presence schema => read key outputKey presence (change schema)
  | state outputKey generator => state outputKey generator

/-- The nested schema. -/
def schema? : Field σ → Option σ
  | read _ _ _ schema => some schema
  | state .. => none

@[simp]
theorem sourceKey?_map (change : σ → τ) (field : Field σ) :
    (field.map change).sourceKey? = field.sourceKey? := by
  cases field <;> rfl

@[simp]
theorem outputKey_map (change : σ → τ) (field : Field σ) :
    (field.map change).outputKey = field.outputKey := by
  cases field <;> rfl

@[simp]
theorem schema?_map (change : σ → τ) (field : Field σ) :
    (field.map change).schema? = field.schema?.map change := by
  cases field <;> rfl

@[simp]
theorem map_id (field : Field σ) : field.map id = field := by
  cases field <;> rfl

@[simp]
theorem map_id_list (fields : List (Field σ)) : fields.map (map id) = fields :=
  (List.map_congr_left fun field _ => field.map_id).trans (List.map_id fields)

/-- The strict fields of a list of names, all with one nested schema, which is changed. -/
theorem map_members (change : σ → τ) (names : List String) (schema : σ) :
    (names.map fun name => read name name .strict schema).map (map change) =
      names.map fun name => read name name .strict (change schema) := by
  rw [List.map_map]
  rfl

end Field

/-- A schema. -/
inductive Schema where
  /-- A single value, judged by a validator. -/
  | leaf (validator : Validator)
  /-- An object; keys that no field reads are dropped. -/
  | object (fields : List (Field Schema))
  /-- An object that may hold no other keys than its fields read. -/
  | closed (fields : List (Field Schema))
  /-- An array of like elements. -/
  | array (element : Schema)
  /-- The first alternative that succeeds. -/
  | oneOf (alternatives : List Schema)
  /-- An object of like values under keys that are not known beforehand. -/
  | setOf (keys : Validator) (values : Schema)
  /-- The branch that the value under a key names. -/
  | choose (key : String) (branches : List (String × Schema))
  /-- A function, limited to the parameters; its answers pass through the retriever. -/
  | function (parameters : List String) (retriever : Nat)
  /-- A schema that is built when it is first needed.  The site tells factories apart. -/
  | thunk (site : Nat) (label : String) (body : Schema)
  /-- A definition that is looked up when it is first needed. -/
  | reference (label name : String)
  /-- A schema that is asked for anew at each use: one after the other, then always the last. -/
  | supplied (first : Schema) (later : List Schema)
  /-- A schema that can refer to itself by its label. -/
  | recursive (label : String) (body : Schema)
  /-- The innermost enclosing recursive schema with the label. -/
  | self (label : String)
  /-- A reference to a recursive schema that no longer exists. -/
  | released (label : String)
  /-- A schema behind an indirection. -/
  | boxed (inner : Schema)

namespace Schema

instance : Inhabited Schema :=
  ⟨leaf Validator.acceptAny⟩

/-- Accepts any value. -/
def anyValue : Schema :=
  leaf Validator.acceptAny

/-- Accepts the values of one type. -/
def typed (expected : String) : Schema :=
  leaf (Validator.expectType expected)

/-- Accepts numbers. -/
def number : Schema :=
  typed "number"

/-- Accepts strings. -/
def string : Schema :=
  typed "string"

/-- Accepts truth values. -/
def boolean : Schema :=
  typed "boolean"

/-- Accepts functions as they are. -/
def anyFunction : Schema :=
  typed "function"

/-- Accepts the strings of a list. -/
def stringEnum (choices : List String) : Schema :=
  leaf (Validator.stringEnum choices)

/-- Accepts the strings in which a pattern occurs. -/
def matching (pattern : Pattern) : Schema :=
  leaf (Validator.matching pattern)

/-- An array of objects. -/
def arrayOfObjects (fields : List (Field Schema)) : Schema :=
  array (object fields)

/-- The branch of a name; of a repeated name the last one counts. -/
def branch? {β : Type} (name : String) : List (String × β) → Option β
  | [] => none
  | (other, branch) :: branches =>
      (branch? name branches).or (if other = name then some branch else none)

/-- The names of branches, each once, in the order in which they first come. -/
def branchNames {β : Type} (branches : List (String × β)) : List String :=
  (branches.map Prod.fst).eraseDups

/-- The keys that fields read, each once, in order. -/
def permittedKeys {σ : Type} (fields : List (Field σ)) : List String :=
  (fields.filterMap Field.sourceKey?).eraseDups

end Schema

end Extraction
