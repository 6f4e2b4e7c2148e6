import Extraction.Proofs.Visits

/-!
# What successful extraction yields

A schema declares the shape of what is extracted by it: the type of a leaf, the keys of an object
and what stands under them, the length of an array.  The shape depends on the value that is
extracted from, since generated fields and the lengths of arrays do.  Whatever an extraction yields
has the shape that its schema declares.
-/

namespace Extraction

/-- A result that a validator may return for a value: a validator of types returns values of its
type, and a validator of listed strings one of them. -/
structure Validator.Returns (validator : Validator) (value result : Value) : Prop where
  accepted : (validator value).value = .ok result
  typed : ∀ expected, validator = expectType expected → result.typeName = expected
  listed : ∀ choices, validator = stringEnum choices → ∃ text ∈ choices, result = .string text

theorem Validator.Returns.of_ok {validator : Validator} {value result : Value}
    (accepted : (validator value).value = .ok result) : validator.Returns value result where
  accepted := accepted
  typed := by
    rintro expected rfl
    simp only [expectType, Traced.value_pure] at accepted
    split at accepted
    · next isTyped =>
        cases accepted
        exact isTyped
    · contradiction
  listed := by
    rintro choices rfl
    simp only [stringEnum, Traced.value_pure] at accepted
    split at accepted
    · next isListed =>
        cases accepted
        cases value with
        | string text => exact ⟨text, by simpa [Value.asString?] using isListed, rfl⟩
        | _ => contradiction
    · contradiction

/-- The field that stores an output key; of several the last one counts. -/
def Field.writer? {σ : Type} (outputKey : String) : List (Field σ) → Option (Field σ)
  | [] => none
  | field :: fields =>
      (writer? outputKey fields).or (if field.outputKey = outputKey then some field else none)

mutual

/-- A result has the shape that a closure declares for a value. -/
inductive Conforms (definitions : Definitions) : Closure → Value → Value → Prop where
  | leaf {validator : Validator} {bindings : Bindings} {value result : Value}
      (returns : validator.Returns value result) :
      Conforms definitions ⟨.leaf validator, bindings⟩ value result
  | object {schema : Schema} {bindings : Bindings} {value : Value}
      {fields : List (Field Schema)} {entries : Entries} (reads : schema.Reads value fields)
      (stored : entries.keys = (fields.map Field.outputKey).eraseDups)
      (each : ∀ outputKey field result, Field.writer? outputKey fields = some field →
        entries.find? outputKey = some result →
          ConformsField definitions bindings value field result) :
      Conforms definitions ⟨schema, bindings⟩ value (.object entries)
  | array {element : Schema} {bindings : Bindings} {items results : List Value}
      (sameLength : results.length = items.length)
      (each : ∀ (position : Nat) given result, items[position]? = some given →
        results[position]? = some result →
          Conforms definitions ⟨element, bindings⟩ given result) :
      Conforms definitions ⟨.array element, bindings⟩ (.array items) (.array results)
  | noAlternative {bindings : Bindings} {value : Value} :
      Conforms definitions ⟨.oneOf [], bindings⟩ value (.array [])
  | alternative {alternative : Schema} {alternatives : List Schema} {bindings : Bindings}
      {value result : Value} (member : alternative ∈ alternatives)
      (conforms : Conforms definitions ⟨alternative, bindings⟩ value result) :
      Conforms definitions ⟨.oneOf alternatives, bindings⟩ value result
  | setOf {keys : Validator} {values : Schema} {bindings : Bindings} {value : Value}
      {names : List String} {entries : Entries} (named : ∀ name ∈ names, keys.Names value name)
      (stored : entries.keys = names.eraseDups)
      (each : ∀ name result, entries.find? name = some result →
        ConformsField definitions bindings value (.read name name .strict values) result) :
      Conforms definitions ⟨.setOf keys values, bindings⟩ value (.object entries)
  | branch {key : String} {branches : List (String × Schema)} {bindings : Bindings}
      {value chosen result : Value} {branch : Schema} (found : value.get? key = some chosen)
      (known : Schema.branch? (Extractor.branchName chosen) branches = some branch)
      (conforms : Conforms definitions ⟨branch, bindings⟩ value result) :
      Conforms definitions ⟨.choose key branches, bindings⟩ value result
  | function {parameters : List String} {retriever : Nat} {bindings : Bindings}
      {callable : Callable} :
      Conforms definitions ⟨.function parameters retriever, bindings⟩ (.function callable)
        (.function (.limited callable parameters.length retriever))
  | supplied {first schema : Schema} {later : List Schema} {bindings : Bindings}
      {value result : Value} (member : schema ∈ first :: later)
      (conforms : Conforms definitions ⟨schema, bindings⟩ value result) :
      Conforms definitions ⟨.supplied first later, bindings⟩ value result
  | delegate {closure delegate : Closure} {value result : Value}
      (delegates : closure.delegate? definitions = some delegate)
      (conforms : Conforms definitions delegate value result) :
      Conforms definitions closure value result

/-- A result has the shape that a field declares for an object. -/
inductive ConformsField (definitions : Definitions) :
    Bindings → Value → Field Schema → Value → Prop where
  | plain {bindings : Bindings} {object given result : Value} {key outputKey : String}
      {presence : Presence} {part : Schema} (isPlain : presence.isOptional = false)
      (asked : (presence.resolve object key).value.given? = some given)
      (conforms : Conforms definitions ⟨part, bindings⟩ given result) :
      ConformsField definitions bindings object (.read key outputKey presence part) result
  | absent {bindings : Bindings} {object : Value} {key outputKey : String} {presence : Presence}
      {part : Schema} (isOptional : presence.isOptional = true) (lacks : object.Lacks key) :
      ConformsField definitions bindings object (.read key outputKey presence part) .absent
  | present {bindings : Bindings} {object given result : Value} {key outputKey : String}
      {presence : Presence} {part : Schema} (isOptional : presence.isOptional = true)
      (asked : (presence.resolve object key).value.given? = some given)
      (conforms : Conforms definitions ⟨part, bindings⟩ given result) :
      ConformsField definitions bindings object (.read key outputKey presence part)
        (.present result)
  | generated {bindings : Bindings} {object : Value} {outputKey : String} {generator : Fallback} :
      ConformsField definitions bindings object (.state outputKey generator)
        (generator object).value

end

theorem Field.writer?_mem {σ : Type} {outputKey : String} {fields : List (Field σ)}
    {field : Field σ} (isWriter : writer? outputKey fields = some field) :
    field ∈ fields ∧ field.outputKey = outputKey := by
  induction fields with
  | nil => contradiction
  | cons first fields inductionHypothesis =>
      rcases Option.or_eq_some_iff.mp isWriter with later | ⟨_, here⟩
      · rcases inductionHypothesis later with ⟨member, same⟩
        exact ⟨.tail _ member, same⟩
      · split at here
        · next same =>
            cases here
            exact ⟨.head _, same⟩
        · contradiction

namespace Semantics

variable {definitions : Definitions} {yields : Judgement} {path : Path}

/-- What is found under a key is what was inserted last under it, by the last field that stores it,
or it was there before. -/
private theorem exists_writer {related : Field Schema → String × Value → Prop}
    {fields : List (Field Schema)} {pairs : List (String × Value)} {entries : Entries}
    {outputKey : String} {result : Value} (each : List.Forall₂ related fields pairs)
    (named : ∀ field pair, related field pair → pair.1 = field.outputKey)
    (found : (entries.insertAll pairs).find? outputKey = some result) :
    (∃ field, Field.writer? outputKey fields = some field ∧ related field (outputKey, result)) ∨
      Field.writer? outputKey fields = none ∧ entries.find? outputKey = some result := by
  -- Later fields are stored over earlier ones, so the entries grow along the induction.
  induction each generalizing entries with
  | nil => exact .inr ⟨rfl, found⟩
  | @cons field pair fields pairs isRelated _ inductionHypothesis =>
      obtain ⟨key, value⟩ := pair
      have same : key = field.outputKey := named _ _ isRelated
      simp only [Field.writer?]
      rcases inductionHypothesis found with ⟨writer, isWriter, wrote⟩ | ⟨noWriter, before⟩
      · exact .inl ⟨writer, by rw [isWriter, Option.some_or], wrote⟩
      · rw [noWriter, Option.none_or]
        by_cases here : field.outputKey = outputKey
        · rw [same, here, Entries.find?_insert_self] at before
          cases before
          rw [same, here] at isRelated
          exact .inl ⟨field, if_pos here, isRelated⟩
        · rw [same, Entries.find?_insert_of_ne _ _ (Ne.symm here)] at before
          exact .inr ⟨if_neg here, before⟩

private theorem exists_of_alternatives_ok {yields : Closure → Outcome Value → Prop}
    {earlier : List Fault} {closures : List Closure} {outcome : Outcome Value} {result : Value}
    (tried : AlternativesRule yields earlier closures outcome) (isOk : outcome = .ok result) :
    (earlier = [] ∧ closures = [] ∧ result = .array []) ∨
      ∃ closure ∈ closures, yields closure (.ok result) := by
  induction tried with
  | none =>
      cases isOk
      exact .inl ⟨rfl, rfl, rfl⟩
  | exhausted => contradiction
  | success first =>
      cases isOk
      exact .inr ⟨_, .head _, first⟩
  | @failure _ _ _ faults _ _ _ inductionHypothesis =>
      rcases inductionHypothesis isOk with ⟨empty, _⟩ | ⟨closure, member, holds⟩
      · exact absurd (List.append_eq_nil_iff.mp empty).2 faults.toList_ne_nil
      · exact .inr ⟨closure, .tail _ member, holds⟩

section

variable {bindings : Bindings} {value result : Value}
  (nested : ∀ next path value result, yields next path value (.ok result) →
    Conforms definitions next value result)

include nested

private theorem conforms_of_entry {object result : Value}
    {field : Field Schema} {outputKey : String} {outcome : Outcome (String × Value)}
    (rule : EntryRule yields path object (field.map (Closure.mk · bindings)) outcome)
    (isOk : outcome = .ok (outputKey, result)) :
    outputKey = field.outputKey ∧ ConformsField definitions bindings object field result := by
  cases field with
  | state key generator =>
      cases rule
      cases isOk
      exact ⟨rfl, .generated⟩
  | read key outputKey presence part =>
      cases rule with
      | missing => contradiction
      | skipped resolved =>
          cases isOk
          obtain ⟨isOptional, lacks⟩ := Presence.resolve_cases resolved
          exact ⟨rfl, .absent isOptional lacks⟩
      | @plain _ _ _ _ _ outcome resolved holds =>
          cases outcome with
          | error => contradiction
          | ok result =>
              cases isOk
              have isPlain := Presence.resolve_cases resolved
              exact ⟨rfl, .plain isPlain (by rw [resolved]; rfl) (nested _ _ _ _ holds)⟩
      | @optional _ _ _ _ _ outcome resolved holds =>
          cases outcome with
          | error => contradiction
          | ok result =>
              cases isOk
              have isOptional := Presence.resolve_cases resolved
              exact ⟨rfl, .present isOptional (by rw [resolved]; rfl) (nested _ _ _ _ holds)⟩

private theorem conforms_of_gather {object result : Value}
    {fields : List (Field Schema)} {results : List (Outcome (String × Value))}
    (entries : List.Forall₂ (EntryRule yields path object)
      (fields.map (Field.map (Closure.mk · bindings))) results)
    (isOk : gather results = .ok result) :
    ∃ stored : Entries, result = .object stored ∧
      stored.keys = (fields.map Field.outputKey).eraseDups ∧
      ∀ outputKey result, stored.find? outputKey = some result →
        ∃ field, Field.writer? outputKey fields = some field ∧
          ConformsField definitions bindings object field result := by
  have consolidated : ∃ pairs, Outcome.consolidate results = .ok pairs ∧
      .object (Entries.ofList pairs) = result := by
    cases collected : Outcome.consolidate results with
    | error => simp [gather, collected, Except.map] at isOk
    | ok pairs =>
        rw [gather, collected] at isOk
        exact ⟨pairs, rfl, Except.ok.inj isOk⟩
  obtain ⟨pairs, collected, rfl⟩ := consolidated
  cases Outcome.consolidate_eq_ok_iff.mp collected
  rw [List.forall₂_map_left_iff, List.forall₂_map_right_iff] at entries
  have each : List.Forall₂ (fun field pair => pair.1 = field.outputKey ∧
      ConformsField definitions bindings object field pair.2) fields pairs :=
    entries.imp fun field pair rule => conforms_of_entry nested rule rfl
  have sameKeys : List.Forall₂ Eq (fields.map Field.outputKey) (pairs.map Prod.fst) := by
    rw [List.forall₂_map_left_iff, List.forall₂_map_right_iff]
    exact each.imp fun _ _ isEntry => isEntry.1.symm
  rw [List.forall₂_eq_eq_eq] at sameKeys
  refine ⟨_, rfl, ?_, ?_⟩
  · rw [Entries.keys_ofList, sameKeys]
  · intro outputKey result found
    rcases exists_writer each (fun _ _ isEntry => isEntry.1) found with
      ⟨field, isWriter, _, conforms⟩ | ⟨_, before⟩
    · exact ⟨field, isWriter, conforms⟩
    · contradiction

private theorem conforms_of_fields {schema : Schema} {fields : List (Field Schema)}
    {results : List (Outcome (String × Value))} (reads : schema.Reads value fields)
    (entries : List.Forall₂ (EntryRule yields path value)
      (fields.map (Field.map (Closure.mk · bindings))) results)
    (isOk : gather results = .ok result) :
    Conforms definitions ⟨schema, bindings⟩ value result := by
  obtain ⟨stored, rfl, sameKeys, each⟩ := conforms_of_gather nested entries isOk
  refine .object reads sameKeys fun outputKey field result isWriter found => ?_
  obtain ⟨writer, isLast, conforms⟩ := each outputKey result found
  cases isWriter.symm.trans isLast
  exact conforms

private theorem conforms_of_elements {element : Schema} {items : List Value}
    {outcomes : List (Outcome Value)}
    (elements : List.Forall₂ (fun (item : Value × Nat) outcome =>
      yields ⟨element, bindings⟩ (path.pushIndex item.2) item.1 outcome) items.zipIdx outcomes)
    (isOk : (Outcome.consolidate outcomes).map Value.array = .ok result) :
    Conforms definitions ⟨.array element, bindings⟩ (.array items) result := by
  cases collected : Outcome.consolidate outcomes with
  | error => simp [collected, Except.map] at isOk
  | ok results =>
      rw [collected] at isOk
      cases isOk
      cases Outcome.consolidate_eq_ok_iff.mp collected
      rw [List.forall₂_map_right_iff, List.forall₂_iff_get] at elements
      obtain ⟨sameLength, each⟩ := elements
      rw [List.length_zipIdx] at sameLength
      refine .array sameLength.symm fun position given result isGiven isResult => ?_
      obtain ⟨givenBound, rfl⟩ := List.getElem?_eq_some_iff.mp isGiven
      obtain ⟨resultBound, rfl⟩ := List.getElem?_eq_some_iff.mp isResult
      have holds := each position (by simpa using givenBound) resultBound
      simp only [List.get_eq_getElem, List.getElem_zipIdx] at holds
      exact nested _ _ _ _ holds

private theorem conforms_of_alternatives {alternatives : List Schema} {outcome : Outcome Value}
    (tried : AlternativesRule (fun closure outcome => yields closure path value outcome) []
      (alternatives.map (Closure.mk · bindings)) outcome) (isOk : outcome = .ok result) :
    Conforms definitions ⟨.oneOf alternatives, bindings⟩ value result := by
  rcases exists_of_alternatives_ok tried isOk with ⟨_, empty, rfl⟩ | ⟨_, member, holds⟩
  · cases List.map_eq_nil_iff.mp empty
    exact .noAlternative
  · rcases List.mem_map.mp member with ⟨alternative, written, rfl⟩
    exact .alternative written (nested _ _ _ _ holds)

private theorem conforms_of_members {keys : Validator} {values : Schema} {names : List String}
    {results : List (Outcome (String × Value))}
    (accepted : keysVerdict keys path value.entries.keys = .ok names)
    (entries : List.Forall₂ (EntryRule yields path value)
      (names.map fun name => .read name name .strict ⟨values, bindings⟩) results)
    (isOk : gather results = .ok result) :
    Conforms definitions ⟨.setOf keys values, bindings⟩ value result := by
  rw [← Field.map_members (Closure.mk · bindings)] at entries
  obtain ⟨stored, rfl, sameKeys, each⟩ := conforms_of_gather nested entries isOk
  rw [List.map_map] at sameKeys
  have storedKeys : stored.keys = names.eraseDups := by
    simpa [Function.comp_def, Field.outputKey] using sameKeys
  refine .setOf (fun name => names_of_keysVerdict accepted) storedKeys ?_
  intro name result found
  obtain ⟨field, isWriter, conforms⟩ := each name result found
  obtain ⟨member, same⟩ := Field.writer?_mem isWriter
  rcases List.mem_map.mp member with ⟨other, _, rfl⟩
  cases same
  exact conforms

/-- What one step yields has the shape that its closure declares, if this is so for what it is made
of. -/
private theorem conforms_of_rule {closure : Closure} {outcome : Outcome Value}
    (rule : Rule definitions yields closure path value outcome) (isOk : outcome = .ok result) :
    Conforms definitions closure value result := by
  cases rule with
  | @leaf validator bindings =>
      cases verdict : (validator value).value with
      | error message => simp [verdict, Outcome.lift, Outcome.fail] at isOk
      | ok returned =>
          rw [verdict] at isOk
          cases isOk
          exact .leaf (.of_ok verdict)
  | object entries => exact conforms_of_fields nested .object entries isOk
  | closed supported entries => exact conforms_of_fields nested (.closed supported) entries isOk
  | array elements => exact conforms_of_elements nested elements isOk
  | oneOf tried => exact conforms_of_alternatives nested tried isOk
  | setOf accepted entries => exact conforms_of_members nested accepted entries isOk
  | choose found known holds =>
      subst isOk
      exact .branch found known (nested _ _ _ _ holds)
  | function =>
      cases isOk
      exact .function
  | supplied member holds =>
      subst isOk
      exact .supplied member (nested _ _ _ _ holds)
  | delegate delegates holds =>
      subst isOk
      exact .delegate delegates (nested _ _ _ _ holds)
  | _ => contradiction

end

end Semantics

/-- What extraction means to yield has the shape that the closure declares. -/
theorem YieldsWithin.conforms {definitions : Definitions} {depth : Nat} {closure : Closure}
    {path : Path} {value result : Value}
    (yields : YieldsWithin definitions depth closure path value (.ok result)) :
    Conforms definitions closure value result := by
  induction depth generalizing closure path value result with
  | zero => exact yields.elim
  | succ depth inductionHypothesis =>
      exact Semantics.conforms_of_rule (fun _ _ _ _ => inductionHypothesis) yields rfl

/-- Whatever a session extracts from a value, and whatever was asked before, has the shape that the
schema of the session declares. -/
theorem Session.result_conforms {definitions : Definitions} {schema : Schema}
    {session after : Session} {limit : Nat} {path : Path} {value result : Value}
    (reachable : session.Reachable definitions schema)
    (answered : session.answer limit (.extract path value) =
      some (.outcome (.ok result), after)) :
    Conforms definitions ⟨schema, []⟩ value result :=
  (reachable.yieldsWithin answered).conforms

/-! ## Contacts -/

/-- Contacts of a person: under the title stands the nick name, not the name, and a person may have
been introduced by another one. -/
def contactDefinitions : Definitions :=
  [("contact", .closed
    [.read "name" "title" .strict .string,
      .read "tags" "tags" (.defaulted (.const (.array []))) (.array .string),
      .read "nick" "title" .option .string,
      .state "kind" (.const (.string "contact")),
      .read "by" "introducer" .option (.reference "contact" "contact")])]

/-- The schema of `contactDefinitions`. -/
def contact : Schema :=
  .reference "contact" "contact"

/-- Also in a session that has rejected a value before, a contact that was introduced by another
one conforms at both levels. -/
theorem Session.result_conforms_contact :
    Conforms contactDefinitions ⟨contact, []⟩
      (.object [("name", .string "first"), ("by",
        .object [("name", .string "second"), ("nick", .string "2nd"),
          ("tags", .array [.string "other"])])])
      (.object [("title", .absent), ("tags", .array []), ("kind", .string "contact"),
        ("introducer", .present
          (.object [("title", .present (.string "2nd")), ("tags", .array [.string "other"]),
            ("kind", .string "contact"), ("introducer", .absent)]))]) := by
  have rejected := History.step .start
    (show (Session.start contactDefinitions contact).answer 9
      (.extract .root (.object [("by", .object [])])) = some (.outcome (.error _), _) from rfl)
  exact result_conforms ⟨_, rejected⟩
    (show Session.answer _ 9 (.extract .root _) = some (.outcome (.ok _), _) from rfl)

end Extraction
