import Extraction.Proofs.History

/-!
# The language of a schema

The language of a schema is the least relation between closures and values that its constructors
and its presence policies call for.  It knows nothing of runs, of paths, or of what is extracted.
Extraction succeeds on exactly the values in it.
-/

namespace Extraction

/-- A key validator that never changes the keys that it accepts. -/
def Validator.KeepsKeys (validator : Validator) : Prop :=
  ∀ key result, (validator (.string key)).value = .ok result → result = .string key

/-- The keys of an object of like values are judged, not changed. -/
def Schema.KeepsKeys : Schema → Prop
  | .setOf keys _ => keys.KeepsKeys
  | _ => True

mutual

/-- A value is in the language of a closure. -/
inductive Accepts (definitions : Definitions) : Closure → Value → Prop where
  | leaf {validator : Validator} {bindings : Bindings} {value result : Value}
      (accepted : (validator value).value = .ok result) :
      Accepts definitions ⟨.leaf validator, bindings⟩ value
  | object {fields : List (Field Schema)} {bindings : Bindings} {value : Value}
      (each : ∀ field ∈ fields, AcceptsField definitions bindings value field) :
      Accepts definitions ⟨.object fields, bindings⟩ value
  | closed {fields : List (Field Schema)} {bindings : Bindings} {value : Value}
      (each : ∀ field ∈ fields, AcceptsField definitions bindings value field)
      (read : ∀ key ∈ value.setKeys, key ∈ fields.filterMap Field.sourceKey?) :
      Accepts definitions ⟨.closed fields, bindings⟩ value
  | array {element : Schema} {bindings : Bindings} {items : List Value}
      (each : ∀ item ∈ items, Accepts definitions ⟨element, bindings⟩ item) :
      Accepts definitions ⟨.array element, bindings⟩ (.array items)
  | noAlternative {bindings : Bindings} {value : Value} :
      Accepts definitions ⟨.oneOf [], bindings⟩ value
  | alternative {alternative : Schema} {alternatives : List Schema} {bindings : Bindings}
      {value : Value} (member : alternative ∈ alternatives)
      (accepts : Accepts definitions ⟨alternative, bindings⟩ value) :
      Accepts definitions ⟨.oneOf alternatives, bindings⟩ value
  | setOf {keys : Validator} {values : Schema} {bindings : Bindings} {value : Value}
      (accepted : ∀ key ∈ value.entries.keys, ∃ result, (keys (.string key)).value = .ok result)
      (each : ∀ key ∈ value.entries.keys,
        AcceptsField definitions bindings value (.read key key .strict values)) :
      Accepts definitions ⟨.setOf keys values, bindings⟩ value
  | choose {key : String} {branches : List (String × Schema)} {bindings : Bindings}
      {value chosen : Value} {branch : Schema} (found : value.get? key = some chosen)
      (known : Schema.branch? (Extractor.branchName chosen) branches = some branch)
      (accepts : Accepts definitions ⟨branch, bindings⟩ value) :
      Accepts definitions ⟨.choose key branches, bindings⟩ value
  | function {parameters : List String} {retriever : Nat} {bindings : Bindings}
      {callable : Callable} :
      Accepts definitions ⟨.function parameters retriever, bindings⟩ (.function callable)
  | thunk {site : Nat} {label : String} {body : Schema} {bindings : Bindings} {value : Value}
      (accepts : Accepts definitions ⟨body, bindings⟩ value) :
      Accepts definitions ⟨.thunk site label body, bindings⟩ value
  | reference {label name : String} {bindings : Bindings} {value : Value}
      (accepts : Accepts definitions ⟨definitions.find name, []⟩ value) :
      Accepts definitions ⟨.reference label name, bindings⟩ value
  | supplied {first : Schema} {later : List Schema} {bindings : Bindings} {value : Value}
      (accepts : Accepts definitions ⟨first, bindings⟩ value) :
      Accepts definitions ⟨.supplied first later, bindings⟩ value
  | recursive {label : String} {body : Schema} {bindings : Bindings} {value : Value}
      (accepts : Accepts definitions ⟨body, (label, body) :: bindings⟩ value) :
      Accepts definitions ⟨.recursive label body, bindings⟩ value
  | self {label : String} {bindings : Bindings} {owner : Closure} {value : Value}
      (found : Bindings.find? label bindings = some owner)
      (accepts : Accepts definitions owner value) :
      Accepts definitions ⟨.self label, bindings⟩ value
  | boxed {inner : Schema} {bindings : Bindings} {value : Value}
      (accepts : Accepts definitions ⟨inner, bindings⟩ value) :
      Accepts definitions ⟨.boxed inner, bindings⟩ value

/-- An object has what a field calls for. -/
inductive AcceptsField (definitions : Definitions) :
    Bindings → Value → Field Schema → Prop where
  | strict {bindings : Bindings} {object value : Value} {key outputKey : String}
      {schema : Schema} (found : object.get? key = some value)
      (accepts : Accepts definitions ⟨schema, bindings⟩ value) :
      AcceptsField definitions bindings object (.read key outputKey .strict schema)
  | missingOption {bindings : Bindings} {object : Value} {key outputKey : String}
      {schema : Schema} (missing : object.get? key = none) :
      AcceptsField definitions bindings object (.read key outputKey .option schema)
  | option {bindings : Bindings} {object value : Value} {key outputKey : String}
      {schema : Schema} (found : object.get? key = some value)
      (accepts : Accepts definitions ⟨schema, bindings⟩ value) :
      AcceptsField definitions bindings object (.read key outputKey .option schema)
  | missingDefaulted {bindings : Bindings} {object : Value} {key outputKey : String}
      {schema : Schema} {fallback : Fallback} (missing : object.get? key = none)
      (accepts : Accepts definitions ⟨schema, bindings⟩ (fallback object).value) :
      AcceptsField definitions bindings object (.read key outputKey (.defaulted fallback) schema)
  | defaulted {bindings : Bindings} {object value : Value} {key outputKey : String}
      {schema : Schema} {fallback : Fallback} (found : object.get? key = some value)
      (accepts : Accepts definitions ⟨schema, bindings⟩ value) :
      AcceptsField definitions bindings object (.read key outputKey (.defaulted fallback) schema)
  | missingDefaultedOption {bindings : Bindings} {object : Value} {key outputKey : String}
      {schema : Schema} {fallback : Fallback} (missing : object.get? key = none) :
      AcceptsField definitions bindings object
        (.read key outputKey (.defaultedOption fallback) schema)
  | requestedDefault {bindings : Bindings} {object : Value} {key outputKey : String}
      {schema : Schema} {fallback : Fallback} (found : object.get? key = some (.bool true))
      (accepts : Accepts definitions ⟨schema, bindings⟩ (fallback object).value) :
      AcceptsField definitions bindings object
        (.read key outputKey (.defaultedOption fallback) schema)
  | defaultedOption {bindings : Bindings} {object value : Value} {key outputKey : String}
      {schema : Schema} {fallback : Fallback} (found : object.get? key = some value)
      (given : value ≠ .bool true) (accepts : Accepts definitions ⟨schema, bindings⟩ value) :
      AcceptsField definitions bindings object
        (.read key outputKey (.defaultedOption fallback) schema)
  | merged {bindings : Bindings} {object : Value} {key outputKey : String} {schema : Schema}
      {base : Fallback}
      (accepts : Accepts definitions ⟨schema, bindings⟩
        ((base object).value.merge ((object.get? key).getD .emptyObject))) :
      AcceptsField definitions bindings object (.read key outputKey (.merged base) schema)
  | state {bindings : Bindings} {object : Value} {outputKey : String} {generator : Fallback} :
      AcceptsField definitions bindings object (.state outputKey generator)

end

namespace Outcome

variable {α : Type}

/-- An outcome with a value. -/
def Succeeds (outcome : Outcome α) : Prop :=
  ∃ value, outcome = .ok value

@[simp]
theorem succeeds_ok (value : α) : Succeeds (.ok value) :=
  ⟨value, rfl⟩

@[simp]
theorem not_succeeds_error (faults : Faults) : ¬ Succeeds (.error faults : Outcome α) := by
  rintro ⟨value, same⟩
  contradiction

@[simp]
theorem not_succeeds_fail (fault : Fault) : ¬ Succeeds (fail fault : Outcome α) :=
  not_succeeds_error _

@[simp]
theorem succeeds_map {β : Type} (change : α → β) (outcome : Outcome α) :
    Succeeds (outcome.map change) ↔ outcome.Succeeds := by
  cases outcome <;> simp [Except.map]

/-- Siblings succeed together if each of them does. -/
theorem succeeds_consolidate (outcomes : List (Outcome α)) :
    (consolidate outcomes).Succeeds ↔ ∀ outcome ∈ outcomes, outcome.Succeeds := by
  induction outcomes with
  | nil => simp
  | cons outcome outcomes inductionHypothesis =>
      rw [List.forall_mem_cons, ← inductionHypothesis, consolidate_cons]
      cases outcome <;> cases consolidate outcomes <;> simp [prepend]

/-- Siblings have values together if each of them has its value. -/
theorem consolidate_eq_ok_iff {outcomes : List (Outcome α)} {values : List α} :
    consolidate outcomes = .ok values ↔ outcomes = values.map .ok := by
  induction outcomes generalizing values with
  | nil => simp [eq_comm]
  | cons outcome outcomes inductionHypothesis =>
      rw [consolidate_cons]
      cases outcome with
      | error first => cases consolidate outcomes <;> cases values <;> simp [prepend]
      | ok first =>
          cases rest : consolidate outcomes with
          | error later =>
              cases values with
              | nil => simp [prepend]
              | cons value values =>
                  have differs := mt inductionHypothesis.mpr (by simp [rest] :
                    ¬ consolidate outcomes = .ok values)
                  simp [prepend, differs]
          | ok others =>
              have same := inductionHypothesis.mp rest
              cases values with
              | nil => simp [prepend]
              | cons value values =>
                  rw [same]
                  simp [prepend, List.map_inj_right]

end Outcome

variable {definitions : Definitions}

/-- Whatever a closure stands for has the same language. -/
theorem accepts_delegate_iff {closure delegate : Closure} {value : Value}
    (delegates : closure.delegate? definitions = some delegate) :
    Accepts definitions closure value ↔ Accepts definitions delegate value := by
  rcases closure with ⟨schema, bindings⟩
  cases schema with
  | thunk =>
      cases delegates
      exact ⟨fun | .thunk accepts => accepts, .thunk⟩
  | boxed =>
      cases delegates
      exact ⟨fun | .boxed accepts => accepts, .boxed⟩
  | reference =>
      cases delegates
      exact ⟨fun | .reference accepts => accepts, .reference⟩
  | recursive =>
      cases delegates
      exact ⟨fun | .recursive accepts => accepts, .recursive⟩
  | self label =>
      constructor
      · intro accepts
        cases accepts with
        | self found accepts =>
            cases found.symm.trans delegates
            exact accepts
      · exact .self delegates
  | _ => contradiction

/-! ### The language of each form of schema -/

section

variable {bindings : Bindings} {value : Value}

theorem accepts_leaf_iff {validator : Validator} :
    Accepts definitions ⟨.leaf validator, bindings⟩ value ↔
      ∃ result, (validator value).value = .ok result :=
  ⟨fun | .leaf accepted => ⟨_, accepted⟩, fun ⟨_, accepted⟩ => .leaf accepted⟩

theorem accepts_closed_iff {fields : List (Field Schema)} :
    Accepts definitions ⟨.closed fields, bindings⟩ value ↔
      (∀ field ∈ fields, AcceptsField definitions bindings value field) ∧
        ∀ key ∈ value.setKeys, key ∈ fields.filterMap Field.sourceKey? :=
  ⟨fun | .closed each read => ⟨each, read⟩, fun ⟨each, read⟩ => .closed each read⟩

theorem accepts_array_iff {element : Schema} :
    Accepts definitions ⟨.array element, bindings⟩ value ↔
      ∃ items, value = .array items ∧
        ∀ item ∈ items, Accepts definitions ⟨element, bindings⟩ item := by
  constructor
  · rintro (_ | _ | _ | each)
    exact ⟨_, rfl, each⟩
  · rintro ⟨items, rfl, each⟩
    exact .array each

theorem accepts_oneOf_iff {alternatives : List Schema} :
    Accepts definitions ⟨.oneOf alternatives, bindings⟩ value ↔
      alternatives = [] ∨
        ∃ alternative ∈ alternatives, Accepts definitions ⟨alternative, bindings⟩ value := by
  constructor
  · intro accepts
    cases accepts with
    | noAlternative => exact .inl rfl
    | alternative member accepts => exact .inr ⟨_, member, accepts⟩
  · rintro (rfl | ⟨alternative, member, accepts⟩)
    · exact .noAlternative
    · exact .alternative member accepts

theorem accepts_setOf_iff {keys : Validator} {values : Schema} :
    Accepts definitions ⟨.setOf keys values, bindings⟩ value ↔
      (∀ key ∈ value.entries.keys, ∃ result, (keys (.string key)).value = .ok result) ∧
        ∀ key ∈ value.entries.keys,
          AcceptsField definitions bindings value (.read key key .strict values) :=
  ⟨fun | .setOf accepted each => ⟨accepted, each⟩, fun ⟨accepted, each⟩ => .setOf accepted each⟩

theorem accepts_choose_iff {key : String} {branches : List (String × Schema)} :
    Accepts definitions ⟨.choose key branches, bindings⟩ value ↔
      ∃ chosen branch, value.get? key = some chosen ∧
        Schema.branch? (Extractor.branchName chosen) branches = some branch ∧
        Accepts definitions ⟨branch, bindings⟩ value := by
  constructor
  · intro accepts
    cases accepts with
    | choose found known accepts => exact ⟨_, _, found, known, accepts⟩
  · rintro ⟨chosen, branch, found, known, accepts⟩
    exact .choose found known accepts

theorem accepts_function_iff {parameters : List String} {retriever : Nat} :
    Accepts definitions ⟨.function parameters retriever, bindings⟩ value ↔
      ∃ callable, value = .function callable := by
  constructor
  · intro accepts
    cases accepts
    exact ⟨_, rfl⟩
  · rintro ⟨callable, rfl⟩
    exact .function

theorem not_accepts_array {element : Schema} (other : value.asArray? = none) :
    ¬ Accepts definitions ⟨.array element, bindings⟩ value := by
  rw [accepts_array_iff]
  rintro ⟨items, rfl, _⟩
  contradiction

theorem not_accepts_function {parameters : List String} {retriever : Nat}
    (other : value.asFunction? = none) :
    ¬ Accepts definitions ⟨.function parameters retriever, bindings⟩ value := by
  rw [accepts_function_iff]
  rintro ⟨callable, rfl⟩
  contradiction

theorem not_accepts_missingKey {key : String} {branches : List (String × Schema)}
    (missing : value.get? key = none) :
    ¬ Accepts definitions ⟨.choose key branches, bindings⟩ value := by
  rw [accepts_choose_iff]
  rintro ⟨chosen, branch, found, _⟩
  cases missing.symm.trans found

theorem not_accepts_missingBranch {key : String} {branches : List (String × Schema)}
    {chosen : Value} (found : value.get? key = some chosen)
    (unknown : Schema.branch? (Extractor.branchName chosen) branches = none) :
    ¬ Accepts definitions ⟨.choose key branches, bindings⟩ value := by
  rw [accepts_choose_iff]
  rintro ⟨other, branch, otherFound, known, _⟩
  cases found.symm.trans otherFound
  cases unknown.symm.trans known

theorem not_accepts_unbound {label : String} (missing : Bindings.find? label bindings = none) :
    ¬ Accepts definitions ⟨.self label, bindings⟩ value := by
  intro accepts
  cases accepts with
  | self found => cases missing.symm.trans found

theorem not_accepts_released {label : String} :
    ¬ Accepts definitions ⟨.released label, bindings⟩ value :=
  nofun

end

/-- A field that holds something other than `true` is passed on as it is. -/
theorem value_resolve_defaultedOption {object value : Value} {key : String}
    {fallback : Fallback} (found : object.get? key = some value) (given : value ≠ .bool true) :
    ((Presence.defaultedOption fallback).resolve object key).value = .optional value := by
  cases value with
  | bool truth =>
      cases truth with
      | true => contradiction
      | false => simp [Presence.resolve, found]
  | _ => simp [Presence.resolve, found]

/-- A field that is read calls for what its policy makes of the object. -/
theorem acceptsField_read_iff {bindings : Bindings} {object : Value} {key outputKey : String}
    {presence : Presence} {schema : Schema} :
    AcceptsField definitions bindings object (.read key outputKey presence schema) ↔
      match (presence.resolve object key).value with
      | .missing => False
      | .skipped => True
      | .plain value | .optional value => Accepts definitions ⟨schema, bindings⟩ value := by
  constructor
  · intro accepts
    cases accepts with
    | strict found accepts | option found accepts | defaulted found accepts
    | missingDefaulted found accepts | requestedDefault found accepts =>
        simpa [Presence.resolve, found] using accepts
    | missingOption missing | missingDefaultedOption missing =>
        simp [Presence.resolve, missing]
    | defaultedOption found given accepts =>
        rw [value_resolve_defaultedOption found given]
        exact accepts
    | merged accepts => simpa [Presence.resolve] using accepts
  · intro accepts
    cases presence with
    | merged => exact .merged (by simpa [Presence.resolve] using accepts)
    | strict =>
        cases found : object.get? key with
        | none => simp [Presence.resolve, found] at accepts
        | some value => exact .strict found (by simpa [Presence.resolve, found] using accepts)
    | option =>
        cases found : object.get? key with
        | none => exact .missingOption found
        | some value => exact .option found (by simpa [Presence.resolve, found] using accepts)
    | defaulted =>
        cases found : object.get? key with
        | none => exact .missingDefaulted found (by simpa [Presence.resolve, found] using accepts)
        | some value => exact .defaulted found (by simpa [Presence.resolve, found] using accepts)
    | defaultedOption =>
        cases found : object.get? key with
        | none => exact .missingDefaultedOption found
        | some value =>
            by_cases isTrue : value = .bool true
            · subst isTrue
              exact .requestedDefault found (by simpa [Presence.resolve, found] using accepts)
            · rw [value_resolve_defaultedOption found isTrue] at accepts
              exact .defaultedOption found isTrue accepts

namespace Semantics

variable {yields : Judgement}

private theorem succeeds_entry_iff {bindings : Bindings} {path : Path} {object : Value}
    {field : Field Schema} {result : Outcome (String × Value)}
    (nested : ∀ schema, field.schema? = some schema → ∀ path value outcome,
      yields ⟨schema, bindings⟩ path value outcome →
        (outcome.Succeeds ↔ Accepts definitions ⟨schema, bindings⟩ value))
    (rule : EntryRule yields path object (field.map (Closure.mk · bindings)) result) :
    result.Succeeds ↔ AcceptsField definitions bindings object field := by
  cases field with
  | state =>
      cases rule
      exact iff_of_true (Outcome.succeeds_ok _) .state
  | read key outputKey presence schema =>
      rw [acceptsField_read_iff]
      cases rule with
      | missing resolved => simp [resolved]
      | skipped resolved => simp [resolved]
      | plain resolved holds => simpa [resolved] using nested schema rfl _ _ _ holds
      | optional resolved holds => simpa [resolved] using nested schema rfl _ _ _ holds

private theorem forall_iff_of_forall₂ {α β : Type} {related : α → β → Prop} {left : α → Prop}
    {right : β → Prop} {lefts : List α} {rights : List β}
    (pairs : List.Forall₂ related lefts rights)
    (each : ∀ item ∈ lefts, ∀ other, related item other → (right other ↔ left item)) :
    (∀ other ∈ rights, right other) ↔ ∀ item ∈ lefts, left item := by
  induction pairs with
  | nil => simp
  | cons first _ inductionHypothesis =>
      rw [List.forall_mem_cons, List.forall_mem_cons, each _ (.head _) _ first,
        inductionHypothesis fun item member => each item (.tail _ member)]

private theorem succeeds_gather_iff {bindings : Bindings} {path : Path} {object : Value}
    {fields : List (Field Schema)} {results : List (Outcome (String × Value))}
    (nested : ∀ schema ∈ fields.filterMap Field.schema?, ∀ path value outcome,
      yields ⟨schema, bindings⟩ path value outcome →
        (outcome.Succeeds ↔ Accepts definitions ⟨schema, bindings⟩ value))
    (entries : List.Forall₂ (EntryRule yields path object)
      (fields.map (Field.map (Closure.mk · bindings))) results) :
    (gather results).Succeeds ↔
      ∀ field ∈ fields, AcceptsField definitions bindings object field := by
  rw [gather, Outcome.succeeds_map, Outcome.succeeds_consolidate]
  apply forall_iff_of_forall₂ (List.forall₂_map_left_iff.mp entries)
  intro field member result rule
  refine succeeds_entry_iff (fun schema inside => nested schema ?_) rule
  exact List.mem_filterMap.mpr ⟨field, member, inside⟩

private theorem succeeds_alternatives_iff {yields : Closure → Outcome Value → Prop}
    {accepts : Closure → Prop} {earlier : List Fault} {closures : List Closure}
    {outcome : Outcome Value}
    (nested : ∀ closure ∈ closures, ∀ outcome, yields closure outcome →
      (outcome.Succeeds ↔ accepts closure))
    (rule : AlternativesRule yields earlier closures outcome) :
    outcome.Succeeds ↔ (earlier = [] ∧ closures = []) ∨ ∃ closure ∈ closures, accepts closure := by
  induction rule with
  | none => simp
  | @exhausted earlier faults collected =>
      have notEmpty : earlier ≠ [] := by
        rintro rfl
        contradiction
      simp [notEmpty]
  | success first =>
      have accepted := (nested _ (.head _) _ first).mp (Outcome.succeeds_ok _)
      exact iff_of_true (Outcome.succeeds_ok _) (.inr ⟨_, .head _, accepted⟩)
  | failure first _ inductionHypothesis =>
      have rejected := mt (nested _ (.head _) _ first).mpr (Outcome.not_succeeds_error _)
      rw [inductionHypothesis fun closure member => nested closure (.tail _ member)]
      simp [rejected, Faults.toList]

/-- A verdict on keys succeeds if every key is accepted. -/
theorem succeeds_keysVerdict_iff {validator : Validator} {path : Path}
    {keys : List String} :
    (keysVerdict validator path keys).Succeeds ↔
      ∀ key ∈ keys, ∃ result, (validator (.string key)).value = .ok result := by
  have each (entry : String × Nat) : (keyVerdict validator path entry).Succeeds ↔
      ∃ result, (validator (.string entry.1)).value = .ok result := by
    rw [keyVerdict, Outcome.succeeds_map]
    cases (validator (.string entry.1)).value <;> simp [Outcome.lift]
  rw [keysVerdict, Outcome.succeeds_consolidate, List.forall_mem_map]
  simp only [each]
  conv_rhs => rw [← List.zipIdx_map_fst 0 keys, List.forall_mem_map]

theorem not_accepts_rejectedKeys {keys : Validator} {values : Schema} {bindings : Bindings}
    {path : Path} {value : Value} {faults : Faults}
    (rejected : keysVerdict keys path value.entries.keys = .error faults) :
    ¬ Accepts definitions ⟨.setOf keys values, bindings⟩ value := by
  intro accepts
  obtain ⟨names, isOk⟩ := succeeds_keysVerdict_iff.mpr (accepts_setOf_iff.mp accepts).1
  cases rejected.symm.trans isOk

/-- A validator that keeps keys accepts them under their own names. -/
theorem eq_of_keysVerdict {validator : Validator} {path : Path}
    {keys names : List String} (keeps : validator.KeepsKeys)
    (accepted : keysVerdict validator path keys = .ok names) : names = keys := by
  rw [keysVerdict, Outcome.consolidate_eq_ok_iff] at accepted
  have kept : ∀ entry ∈ keys.zipIdx, keyVerdict validator path entry = .ok entry.1 := by
    intro entry member
    have verdictMem : keyVerdict validator path entry ∈ names.map Except.ok := by
      rw [← accepted]
      exact List.mem_map_of_mem member
    rcases List.mem_map.mp verdictMem with ⟨name, _, isOk⟩
    rw [keyVerdict]
    cases verdict : (validator (.string entry.1)).value with
    | error message =>
        rw [keyVerdict, verdict] at isOk
        contradiction
    | ok result =>
        cases keeps entry.1 result verdict
        rfl
  have sameVerdicts : names.map (Except.ok : String → Outcome String) = keys.map .ok :=
    calc
      names.map .ok = keys.zipIdx.map (keyVerdict validator path) := accepted.symm
      _ = keys.zipIdx.map fun entry => .ok entry.1 := List.map_congr_left kept
      _ = (keys.zipIdx.map Prod.fst).map .ok := by rw [List.map_map]; rfl
      _ = keys.map .ok := by rw [List.zipIdx_map_fst]
  exact List.map_injective_iff.mpr (fun _ _ same => Except.ok.inj same) sameVerdicts

/-- No key is unsupported if every key that holds something is read by a field. -/
theorem unsupportedKeys_eq_nil_iff {fields : List (Field Schema)} {value : Value} :
    Extractor.unsupportedKeys (Schema.permittedKeys fields) value = [] ↔
      ∀ key ∈ value.setKeys, key ∈ fields.filterMap Field.sourceKey? := by
  simp [Extractor.unsupportedKeys, Schema.permittedKeys, List.filter_eq_nil_iff]

section

variable {bindings : Bindings} {path : Path} {value : Value}

private theorem succeeds_leaf_iff {validator : Validator} :
    (Outcome.lift (validator value).value path).Succeeds ↔
      Accepts definitions ⟨.leaf validator, bindings⟩ value := by
  rw [accepts_leaf_iff]
  cases (validator value).value with
  | ok result => exact iff_of_true (Outcome.succeeds_ok _) ⟨result, rfl⟩
  | error message => exact iff_of_false (Outcome.not_succeeds_fail _) nofun

private theorem succeeds_array_iff {element : Schema} {items : List Value}
    {outcomes : List (Outcome Value)}
    (nested : ∀ path value outcome, yields ⟨element, bindings⟩ path value outcome →
      (outcome.Succeeds ↔ Accepts definitions ⟨element, bindings⟩ value))
    (elements : List.Forall₂ (fun (item : Value × Nat) outcome =>
      yields ⟨element, bindings⟩ (path.pushIndex item.2) item.1 outcome) items.zipIdx outcomes) :
    Outcome.Succeeds ((Outcome.consolidate outcomes).map Value.array) ↔
      Accepts definitions ⟨.array element, bindings⟩ (.array items) := by
  have items_iff : (∀ outcome ∈ outcomes, outcome.Succeeds) ↔
      ∀ item ∈ items.zipIdx, Accepts definitions ⟨element, bindings⟩ item.1 :=
    forall_iff_of_forall₂ elements fun item _ outcome holds => nested _ _ _ holds
  rw [Outcome.succeeds_map, Outcome.succeeds_consolidate, items_iff]
  rw [← List.forall_mem_map (f := Prod.fst), List.zipIdx_map_fst]
  exact ⟨.array, fun | .array each => each⟩

private theorem succeeds_oneOf_iff {alternatives : List Schema} {outcome : Outcome Value}
    (nested : ∀ schema ∈ alternatives, ∀ path value outcome,
      yields ⟨schema, bindings⟩ path value outcome →
        (outcome.Succeeds ↔ Accepts definitions ⟨schema, bindings⟩ value))
    (tried : AlternativesRule (fun closure outcome => yields closure path value outcome) []
      (alternatives.map (Closure.mk · bindings)) outcome) :
    outcome.Succeeds ↔ Accepts definitions ⟨.oneOf alternatives, bindings⟩ value := by
  have each : ∀ closure ∈ alternatives.map (Closure.mk · bindings), ∀ outcome,
      yields closure path value outcome →
        (outcome.Succeeds ↔ Accepts definitions closure value) :=
    List.forall_mem_map.mpr fun schema written => nested schema written path value
  rw [accepts_oneOf_iff, succeeds_alternatives_iff each tried]
  simp

private theorem succeeds_setOf_iff {keys : Validator} {values : Schema} {names : List String}
    {results : List (Outcome (String × Value))} (keeps : keys.KeepsKeys)
    (nested : ∀ path value outcome, yields ⟨values, bindings⟩ path value outcome →
      (outcome.Succeeds ↔ Accepts definitions ⟨values, bindings⟩ value))
    (accepted : keysVerdict keys path value.entries.keys = .ok names)
    (entries : List.Forall₂ (EntryRule yields path value)
      (names.map fun name => .read name name .strict ⟨values, bindings⟩) results) :
    (gather results).Succeeds ↔ Accepts definitions ⟨.setOf keys values, bindings⟩ value := by
  have keysAccepted := succeeds_keysVerdict_iff.mp ⟨names, accepted⟩
  cases eq_of_keysVerdict keeps accepted
  rw [← Field.map_members (Closure.mk · bindings)] at entries
  rw [accepts_setOf_iff, and_iff_right keysAccepted, succeeds_gather_iff ?_ entries,
    List.forall_mem_map]
  intro schema member
  cases Schema.eq_of_mem_members member
  exact nested

private theorem accepts_choose_iff_of_known {key : String} {branches : List (String × Schema)}
    {chosen : Value} {branch : Schema} (found : value.get? key = some chosen)
    (known : Schema.branch? (Extractor.branchName chosen) branches = some branch) :
    Accepts definitions ⟨.choose key branches, bindings⟩ value ↔
      Accepts definitions ⟨branch, bindings⟩ value := by
  rw [accepts_choose_iff]
  constructor
  · rintro ⟨other, otherBranch, otherFound, otherKnown, accepts⟩
    cases found.symm.trans otherFound
    cases known.symm.trans otherKnown
    exact accepts
  · intro accepts
    exact ⟨chosen, branch, found, known, accepts⟩

end

/-- One step of what extraction means succeeds on the language, if this is so wherever the closure
leads. -/
private theorem succeeds_iff_of_rule {closure : Closure} {path : Path} {value : Value}
    {outcome : Outcome Value} (steady : closure.schema.Steady)
    (keeps : closure.schema.KeepsKeys)
    (nested : ∀ next, closure.Leads definitions next → ∀ path value outcome,
      yields next path value outcome → (outcome.Succeeds ↔ Accepts definitions next value))
    (rule : Rule definitions yields closure path value outcome) :
    outcome.Succeeds ↔ Accepts definitions closure value := by
  have refused {fault : Fault} (rejects : ¬ Accepts definitions closure value) :
      (Outcome.fail fault : Outcome Value).Succeeds ↔ Accepts definitions closure value :=
    iff_of_false (Outcome.not_succeeds_fail fault) rejects
  cases rule with
  | leaf => exact succeeds_leaf_iff
  | object entries =>
      rw [succeeds_gather_iff (fun schema member => nested _ (.nested member)) entries]
      exact ⟨.object, fun | .object each => each⟩
  | closed supported entries =>
      rw [succeeds_gather_iff (fun schema member => nested _ (.nested member)) entries,
        accepts_closed_iff, and_iff_left (unsupportedKeys_eq_nil_iff.mp supported)]
  | unsupported found =>
      exact refused fun accepts =>
        found (unsupportedKeys_eq_nil_iff.mpr (accepts_closed_iff.mp accepts).2)
  | array elements => exact succeeds_array_iff (nested _ (.nested (.head _))) elements
  | notArray other => exact refused (not_accepts_array other)
  | oneOf tried =>
      exact succeeds_oneOf_iff (fun schema written => nested _ (.nested written)) tried
  | rejectedKeys rejected =>
      exact iff_of_false (Outcome.not_succeeds_error _) (not_accepts_rejectedKeys rejected)
  | setOf accepted entries =>
      exact succeeds_setOf_iff keeps (nested _ (.nested (.head _))) accepted entries
  | missingKey missing => exact refused (not_accepts_missingKey missing)
  | missingBranch found unknown => exact refused (not_accepts_missingBranch found unknown)
  | choose found known holds =>
      rw [accepts_choose_iff_of_known found known]
      exact nested _ (.nested (List.mem_map_of_mem (Schema.branch?_mem known))) _ _ _ holds
  | function => exact iff_of_true (Outcome.succeeds_ok _) .function
  | notFunction other => exact refused (not_accepts_function other)
  | unbound missing => exact refused (not_accepts_unbound missing)
  | released => exact refused not_accepts_released
  | supplied member holds =>
      rw [nested _ (.nested member) _ _ _ holds, steady.eq_first member]
      exact ⟨.supplied, fun | .supplied accepts => accepts⟩
  | delegate delegates holds =>
      rw [accepts_delegate_iff delegates]
      exact nested _ (.delegate delegates) _ _ _ holds

end Semantics

section

variable {schema : Schema}
  (definitionsSteady : definitions.Throughout Schema.Steady)
  (definitionsKeep : definitions.Throughout Schema.KeepsKeys)

include definitionsSteady definitionsKeep

/-- What extraction means succeeds on the language. -/
theorem YieldsWithin.succeeds_iff {depth : Nat} {closure : Closure} {path : Path} {value : Value}
    {outcome : Outcome Value} (steady : closure.Throughout Schema.Steady)
    (keeps : closure.Throughout Schema.KeepsKeys)
    (yields : YieldsWithin definitions depth closure path value outcome) :
    outcome.Succeeds ↔ Accepts definitions closure value := by
  induction depth generalizing closure path value outcome with
  | zero => exact yields.elim
  | succ depth inductionHypothesis =>
      refine Semantics.succeeds_iff_of_rule steady.schema.here keeps.schema.here ?_ yields
      intro next leads path value outcome
      exact inductionHypothesis (steady.leads (fun _ => trivial) definitionsSteady leads)
        (keeps.leads (fun _ => trivial) definitionsKeep leads)

/-- Whatever was asked of a session before, an extraction that ends succeeds if and only if the
value is in the language of the schema. -/
theorem Session.extract_succeeds_iff_accepts (steady : schema.Throughout Schema.Steady)
    (keeps : schema.Throughout Schema.KeepsKeys) {session after : Session} {limit : Nat}
    {path : Path} {value : Value} {outcome : Outcome Value}
    (reachable : session.Reachable definitions schema)
    (answered : session.answer limit (.extract path value) = some (.outcome outcome, after)) :
    outcome.Succeeds ↔ Accepts definitions ⟨schema, []⟩ value := by
  have sound := reachable.staysSound
  have yields := (sound.answer_extract_iff steady definitionsSteady).mp ⟨after, answered⟩
  have unbound {property : Schema → Prop} (holds : schema.Throughout property) :
      Closure.Throughout property ⟨schema, []⟩ :=
    ⟨holds, fun _ member => by contradiction⟩
  exact yields.succeeds_iff definitionsSteady definitionsKeep (unbound steady) (unbound keeps)

end

/-! ## Folders -/

/-- Objects under any keys of arrays of the same kind of objects, however deep. -/
def folderDefinitions : Definitions :=
  [("folder", .setOf .acceptAny (.array (.reference "folder" "folder")))]

/-- The schema of `folderDefinitions`. -/
def folder : Schema :=
  .reference "folder" "folder"

private theorem folder_throughout {property : Schema → Prop} (holds : property folder) :
    folder.Throughout property :=
  Schema.throughout_iff.mpr ⟨holds, by simp [folder, Schema.nested]⟩

private theorem folderDefinitions_throughout {property : Schema → Prop}
    (ofSet : property (.setOf .acceptAny (.array folder))) (ofArray : property (.array folder))
    (ofFolder : property folder) : folderDefinitions.Throughout property := by
  intro definition member
  cases List.mem_singleton.mp member
  refine Schema.throughout_iff.mpr ⟨ofSet, List.forall_mem_singleton.mpr ?_⟩
  refine Schema.throughout_iff.mpr ⟨ofArray, List.forall_mem_singleton.mpr ?_⟩
  exact folder_throughout ofFolder

theorem Validator.keepsKeys_acceptAny : acceptAny.KeepsKeys := by
  intro key result accepted
  cases accepted
  rfl

/-- A folder in a folder is accepted, also after an extraction that has built its thunks, and a
truth value in the place of a folder is not. -/
theorem Session.extract_succeeds_iff_accepts_folder :
    Accepts folderDefinitions ⟨folder, []⟩ (.object [("a", .array [.object []])]) ∧
      ¬ Accepts folderDefinitions ⟨folder, []⟩ (.object [("a", .bool true)]) := by
  have steady : folderDefinitions.Throughout Schema.Steady :=
    folderDefinitions_throughout trivial trivial trivial
  have keeps : folderDefinitions.Throughout Schema.KeepsKeys :=
    folderDefinitions_throughout Validator.keepsKeys_acceptAny trivial trivial
  have rejected : (Session.start folderDefinitions folder).answer 9
      (.extract .root (.object [("a", .bool true)])) = some (.outcome (.error _), _) := rfl
  have fresh : (Session.start folderDefinitions folder).Reachable folderDefinitions folder :=
    ⟨_, .start⟩
  have reached : Session.Reachable folderDefinitions folder _ := ⟨_, .step .start rejected⟩
  constructor
  · exact (extract_succeeds_iff_accepts steady keeps (folder_throughout trivial)
      (folder_throughout trivial) reached
      (show Session.answer _ 9 (.extract .root (.object [("a", .array [.object []])])) =
        some (.outcome (.ok _), _) from rfl)).mp (Outcome.succeeds_ok _)
  · exact mt (extract_succeeds_iff_accepts steady keeps (folder_throughout trivial)
      (folder_throughout trivial) fresh rejected).mpr (Outcome.not_succeeds_error _)

end Extraction
