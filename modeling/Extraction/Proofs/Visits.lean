import Extraction.Proofs.Language

/-!
# What a run visits

Extraction of a value by a schema runs the schemas that are nested in it, each on a value of its
own and at a place further down.  Which schemas these are, which values they are run on and where
is said here once, apart from how a run goes and from what it yields.
-/

namespace Extraction

namespace Value

/-- A key is missing in an object, or it holds null. -/
def Lacks (value : Value) (key : String) : Prop :=
  value.entries.find? key = none ∨ value.entries.find? key = some .null

theorem get?_eq_none_iff {value : Value} {key : String} :
    value.get? key = none ↔ value.Lacks key := by
  unfold get? Lacks
  cases value.entries.find? key with
  | none => simp
  | some found => cases found <;> simp

end Value

namespace Resolution

/-- The value that the nested schema is run on, if it is run at all. -/
def given? : Resolution → Option Value
  | missing | skipped => none
  | plain value | optional value => some value

end Resolution

namespace Presence

/-- Whether results under a policy become optionals. -/
def isOptional : Presence → Bool
  | option | defaultedOption _ => true
  | strict | defaulted _ | merged _ => false

/-- Only what holds nothing is missed or skipped, a strict field or an optional one. -/
theorem resolve_cases {presence : Presence} {object : Value} {key : String}
    {resolution : Resolution} : (presence.resolve object key).value = resolution →
    match resolution with
    | .missing => presence = .strict ∧ object.Lacks key
    | .skipped => presence.isOptional = true ∧ object.Lacks key
    | .plain _ => presence.isOptional = false
    | .optional _ => presence.isOptional = true := by
  rintro rfl
  rw [← Value.get?_eq_none_iff]
  cases presence with
  | merged base => simp [resolve, isOptional]
  | strict | option | defaulted =>
      cases found : object.get? key <;> simp [resolve, found, isOptional]
  | defaultedOption fallback =>
      cases found : object.get? key with
      | none => simp [resolve, found, isOptional]
      | some value =>
          by_cases isTrue : value = .bool true
          · simp [resolve, found, isTrue, isOptional]
          · simp [value_resolve_defaultedOption found isTrue, isOptional]

theorem given?_strict (object : Value) (key : String) :
    (strict.resolve object key).value.given? = object.get? key := by
  cases found : object.get? key <;> simp [resolve, found, Resolution.given?]

theorem given?_option (object : Value) (key : String) :
    (option.resolve object key).value.given? = object.get? key := by
  cases found : object.get? key <;> simp [resolve, found, Resolution.given?]

theorem given?_defaulted (fallback : Fallback) (object : Value) (key : String) :
    ((defaulted fallback).resolve object key).value.given? =
      some ((object.get? key).getD (fallback object).value) := by
  cases found : object.get? key <;> simp [resolve, found, Resolution.given?]

end Presence

/-- A validator gives a name to an object: one of the keys is accepted under it. -/
def Validator.Names (validator : Validator) (value : Value) (name : String) : Prop :=
  ∃ key ∈ value.entries.keys, ∃ accepted,
    (validator (.string key)).value = .ok accepted ∧ accepted.asString?.getD key = name

/-- An accepted name is one that the validator gives to the object. -/
theorem Semantics.names_of_keysVerdict {validator : Validator} {path : Path} {value : Value}
    {names : List String}
    (accepted : keysVerdict validator path value.entries.keys = .ok names) {name : String}
    (member : name ∈ names) : validator.Names value name := by
  rw [keysVerdict, Outcome.consolidate_eq_ok_iff] at accepted
  have isVerdict : (.ok name : Outcome String) ∈
      value.entries.keys.zipIdx.map (keyVerdict validator path) := by
    rw [accepted]
    exact List.mem_map_of_mem member
  rcases List.mem_map.mp isVerdict with ⟨⟨key, position⟩, entryMem, isAccepted⟩
  refine ⟨key, List.fst_mem_of_mem_zipIdx entryMem, ?_⟩
  rw [keyVerdict] at isAccepted
  cases verdict : (validator (.string key)).value with
  | error message =>
      rw [verdict] at isAccepted
      contradiction
  | ok result =>
      rw [verdict] at isAccepted
      exact ⟨result, rfl, Except.ok.inj isAccepted⟩

/-- The fields that an object schema reads from a value; a closed object reads none where there is
a key that it does not support. -/
inductive Schema.Reads : Schema → Value → List (Field Schema) → Prop where
  | object {fields : List (Field Schema)} {value : Value} : Reads (.object fields) value fields
  | closed {fields : List (Field Schema)} {value : Value}
      (supported : Extractor.unsupportedKeys (permittedKeys fields) value = []) :
      Reads (.closed fields) value fields

/-- A run of the first closure on a value may run the second one on another value, at a place that
the path leads to. -/
inductive Visits (definitions : Definitions) :
    Closure → Value → Path → Closure → Value → Prop where
  | field {schema part : Schema} {bindings : Bindings} {value given : Value}
      {fields : List (Field Schema)} {key outputKey : String} {presence : Presence}
      (reads : schema.Reads value fields)
      (written : .read key outputKey presence part ∈ fields)
      (asked : (presence.resolve value key).value.given? = some given) :
      Visits definitions ⟨schema, bindings⟩ value (.ofField key) ⟨part, bindings⟩ given
  | item {element : Schema} {bindings : Bindings} {items : List Value} {position : Nat}
      {given : Value} (found : items[position]? = some given) :
      Visits definitions ⟨.array element, bindings⟩ (.array items) (Path.root.pushIndex position)
        ⟨element, bindings⟩ given
  | alternative {alternative : Schema} {alternatives : List Schema} {bindings : Bindings}
      {value : Value} (member : alternative ∈ alternatives) :
      Visits definitions ⟨.oneOf alternatives, bindings⟩ value .root ⟨alternative, bindings⟩ value
  | member {keys : Validator} {values : Schema} {bindings : Bindings} {value given : Value}
      {name : String} (named : keys.Names value name) (found : value.get? name = some given) :
      Visits definitions ⟨.setOf keys values, bindings⟩ value (.ofField name) ⟨values, bindings⟩
        given
  | branch {key : String} {branches : List (String × Schema)} {bindings : Bindings}
      {value chosen : Value} {branch : Schema} (found : value.get? key = some chosen)
      (known : Schema.branch? (Extractor.branchName chosen) branches = some branch) :
      Visits definitions ⟨.choose key branches, bindings⟩ value
        (.ofField ("branch: " ++ Extractor.branchName chosen)) ⟨branch, bindings⟩ value
  | supplied {first schema : Schema} {later : List Schema} {bindings : Bindings} {value : Value}
      (member : schema ∈ first :: later) :
      Visits definitions ⟨.supplied first later, bindings⟩ value .root ⟨schema, bindings⟩ value
  | delegate {closure delegate : Closure} {value : Value}
      (delegates : closure.delegate? definitions = some delegate) :
      Visits definitions closure value .root delegate value

/-- A closure leads to whatever a run of it may run. -/
theorem Visits.leads {definitions : Definitions} {closure next : Closure} {value given : Value}
    {step : Path} (visits : Visits definitions closure value step next given) :
    closure.Leads definitions next := by
  cases visits with
  | field reads written _ =>
      cases reads <;> exact .nested (List.mem_filterMap.mpr ⟨_, written, rfl⟩)
  | item | member => exact .nested (.head _)
  | alternative member | supplied member => exact .nested member
  | branch _ known => exact .nested (List.mem_map_of_mem (Schema.branch?_mem known))
  | delegate delegates => exact .delegate delegates

/-- Visits one after the other lead from a closure on a value to another one on another value. -/
inductive Reaches (definitions : Definitions) :
    Closure → Value → Path → Closure → Value → Prop where
  | here (closure : Closure) (value : Value) :
      Reaches definitions closure value .root closure value
  | further {closure next last : Closure} {value given found : Value} {step walked : Path}
      (visits : Visits definitions closure value step next given)
      (rest : Reaches definitions next given walked last found) :
      Reaches definitions closure value (step ++ walked) last found

end Extraction
