import Mathlib.Data.List.Forall2
import Extraction.Proofs.Closures
import Extraction.Schema.Extract

/-!
# What extraction means

The rules say which outcomes a closure has on a value, given which outcomes the closures that it
leads to have.  They know nothing of addresses, of what has been built before, or of how often a
supplied schema was asked for: a supplied schema may yield any of its schemas at any time.  An
outcome that the rules give in finitely many steps is what extraction means.
-/

namespace Extraction

/-- Which outcomes closures have on values found at paths. -/
abbrev Judgement := Closure → Path → Value → Outcome Value → Prop

namespace Semantics

/-- The outcome of an object schema, given those of its entries in order. -/
def gather (results : List (Outcome (String × Value))) : Outcome Value :=
  (Outcome.consolidate results).map fun pairs => .object (Entries.ofList pairs)

/-- The verdict on a key at an index: an accepted key goes by the string that it is accepted as. -/
def keyVerdict (validator : Validator) (path : Path) (entry : String × Nat) : Outcome String :=
  (Outcome.lift (validator (.string entry.1)).value (path.pushIndex entry.2)).map fun accepted =>
    accepted.asString?.getD entry.1

/-- The verdict on all keys of an object. -/
def keysVerdict (validator : Validator) (path : Path) (keys : List String) :
    Outcome (List String) :=
  Outcome.consolidate (keys.zipIdx.map (keyVerdict validator path))

/-- The outcome of one entry of an object schema, under the policy for its presence. -/
inductive EntryRule (yields : Judgement) (path : Path) (object : Value) :
    Field Closure → Outcome (String × Value) → Prop where
  | missing {key outputKey : String} {presence : Presence} {closure : Closure}
      (resolved : (presence.resolve object key).value = .missing) :
      EntryRule yields path object (.read key outputKey presence closure)
        (.fail ⟨path.pushField key, .missingStrict key object⟩)
  | skipped {key outputKey : String} {presence : Presence} {closure : Closure}
      (resolved : (presence.resolve object key).value = .skipped) :
      EntryRule yields path object (.read key outputKey presence closure)
        (.ok (outputKey, .absent))
  | plain {key outputKey : String} {presence : Presence} {closure : Closure} {given : Value}
      {outcome : Outcome Value} (resolved : (presence.resolve object key).value = .plain given)
      (nested : yields closure (path.pushField key) given outcome) :
      EntryRule yields path object (.read key outputKey presence closure)
        (outcome.map (outputKey, ·))
  | optional {key outputKey : String} {presence : Presence} {closure : Closure} {given : Value}
      {outcome : Outcome Value} (resolved : (presence.resolve object key).value = .optional given)
      (nested : yields closure (path.pushField key) given outcome) :
      EntryRule yields path object (.read key outputKey presence closure)
        ((outcome.map Value.present).map (outputKey, ·))
  | state {outputKey : String} {generator : Fallback} :
      EntryRule yields path object (.state outputKey generator)
        (.ok (outputKey, (generator object).value))

/-- The outcome of alternatives in order, after the faults of earlier ones. -/
inductive AlternativesRule (yields : Closure → Outcome Value → Prop) :
    List Fault → List Closure → Outcome Value → Prop where
  | none : AlternativesRule yields [] [] (.ok (.array []))
  | exhausted {earlier : List Fault} {faults : Faults}
      (collected : Faults.ofList? earlier = some faults) :
      AlternativesRule yields earlier [] (.error faults)
  | success {earlier : List Fault} {closure : Closure} {closures : List Closure} {result : Value}
      (first : yields closure (.ok result)) :
      AlternativesRule yields earlier (closure :: closures) (.ok result)
  | failure {earlier : List Fault} {closure : Closure} {closures : List Closure}
      {faults : Faults} {outcome : Outcome Value} (first : yields closure (.error faults))
      (rest : AlternativesRule yields (earlier ++ faults.toList) closures outcome) :
      AlternativesRule yields earlier (closure :: closures) outcome

/-- One step of what extraction means. -/
inductive Rule (definitions : Definitions) (yields : Judgement) : Judgement where
  | leaf {validator : Validator} {bindings : Bindings} {path : Path} {value : Value} :
      Rule definitions yields ⟨.leaf validator, bindings⟩ path value
        (.lift (validator value).value path)
  | object {fields : List (Field Schema)} {bindings : Bindings} {path : Path} {value : Value}
      {results : List (Outcome (String × Value))}
      (entries : List.Forall₂ (EntryRule yields path value)
        (fields.map (Field.map (Closure.mk · bindings))) results) :
      Rule definitions yields ⟨.object fields, bindings⟩ path value (gather results)
  | closed {fields : List (Field Schema)} {bindings : Bindings} {path : Path} {value : Value}
      {results : List (Outcome (String × Value))}
      (supported : Extractor.unsupportedKeys (Schema.permittedKeys fields) value = [])
      (entries : List.Forall₂ (EntryRule yields path value)
        (fields.map (Field.map (Closure.mk · bindings))) results) :
      Rule definitions yields ⟨.closed fields, bindings⟩ path value (gather results)
  | unsupported {fields : List (Field Schema)} {bindings : Bindings} {path : Path}
      {value : Value}
      (found : Extractor.unsupportedKeys (Schema.permittedKeys fields) value ≠ []) :
      Rule definitions yields ⟨.closed fields, bindings⟩ path value
        (.fail ⟨path, .unsupportedFields
          (Extractor.unsupportedKeys (Schema.permittedKeys fields) value)⟩)
  | array {element : Schema} {bindings : Bindings} {path : Path} {items : List Value}
      {outcomes : List (Outcome Value)}
      (elements : List.Forall₂ (fun (item : Value × Nat) outcome =>
        yields ⟨element, bindings⟩ (path.pushIndex item.2) item.1 outcome)
        items.zipIdx outcomes) :
      Rule definitions yields ⟨.array element, bindings⟩ path (.array items)
        ((Outcome.consolidate outcomes).map .array)
  | notArray {element : Schema} {bindings : Bindings} {path : Path} {value : Value}
      (other : value.asArray? = none) :
      Rule definitions yields ⟨.array element, bindings⟩ path value
        (.fail (.custom path ("Expected array but got: " ++ value.typeName)))
  | oneOf {alternatives : List Schema} {bindings : Bindings} {path : Path} {value : Value}
      {outcome : Outcome Value}
      (tried : AlternativesRule (fun closure outcome => yields closure path value outcome) []
        (alternatives.map (Closure.mk · bindings)) outcome) :
      Rule definitions yields ⟨.oneOf alternatives, bindings⟩ path value outcome
  | rejectedKeys {keys : Validator} {values : Schema} {bindings : Bindings} {path : Path}
      {value : Value} {faults : Faults}
      (rejected : keysVerdict keys path value.entries.keys = .error faults) :
      Rule definitions yields ⟨.setOf keys values, bindings⟩ path value (.error faults)
  | setOf {keys : Validator} {values : Schema} {bindings : Bindings} {path : Path}
      {value : Value} {names : List String} {results : List (Outcome (String × Value))}
      (accepted : keysVerdict keys path value.entries.keys = .ok names)
      (entries : List.Forall₂ (EntryRule yields path value)
        (names.map fun name => .read name name .strict ⟨values, bindings⟩) results) :
      Rule definitions yields ⟨.setOf keys values, bindings⟩ path value (gather results)
  | missingKey {key : String} {branches : List (String × Schema)} {bindings : Bindings}
      {path : Path} {value : Value} (missing : value.get? key = none) :
      Rule definitions yields ⟨.choose key branches, bindings⟩ path value
        (.fail ⟨path, .missingKey key⟩)
  | missingBranch {key : String} {branches : List (String × Schema)} {bindings : Bindings}
      {path : Path} {value chosen : Value} (found : value.get? key = some chosen)
      (unknown : Schema.branch? (Extractor.branchName chosen) branches = none) :
      Rule definitions yields ⟨.choose key branches, bindings⟩ path value
        (.fail ⟨path, .missingBranch (.array ((Schema.branchNames branches).map .string))
          (Extractor.branchName chosen)⟩)
  | choose {key : String} {branches : List (String × Schema)} {bindings : Bindings}
      {path : Path} {value chosen : Value} {branch : Schema} {outcome : Outcome Value}
      (found : value.get? key = some chosen)
      (known : Schema.branch? (Extractor.branchName chosen) branches = some branch)
      (nested : yields ⟨branch, bindings⟩
        (path.pushField ("branch: " ++ Extractor.branchName chosen)) value outcome) :
      Rule definitions yields ⟨.choose key branches, bindings⟩ path value outcome
  | function {parameters : List String} {retriever : Nat} {bindings : Bindings} {path : Path}
      {callable : Callable} :
      Rule definitions yields ⟨.function parameters retriever, bindings⟩ path
        (.function callable) (.ok (.function (.limited callable parameters.length retriever)))
  | notFunction {parameters : List String} {retriever : Nat} {bindings : Bindings}
      {path : Path} {value : Value} (other : value.asFunction? = none) :
      Rule definitions yields ⟨.function parameters retriever, bindings⟩ path value
        (.fail (.custom path "Not a function"))
  | unbound {label : String} {bindings : Bindings} {path : Path} {value : Value}
      (missing : Bindings.find? label bindings = none) :
      Rule definitions yields ⟨.self label, bindings⟩ path value
        (.fail (Extractor.unavailable path label))
  | released {label : String} {bindings : Bindings} {path : Path} {value : Value} :
      Rule definitions yields ⟨.released label, bindings⟩ path value
        (.fail (Extractor.unavailable path label))
  | supplied {first schema : Schema} {later : List Schema} {bindings : Bindings} {path : Path}
      {value : Value} {outcome : Outcome Value} (member : schema ∈ first :: later)
      (nested : yields ⟨schema, bindings⟩ path value outcome) :
      Rule definitions yields ⟨.supplied first later, bindings⟩ path value outcome
  | delegate {closure delegate : Closure} {path : Path} {value : Value} {outcome : Outcome Value}
      (delegates : closure.delegate? definitions = some delegate)
      (nested : yields delegate path value outcome) :
      Rule definitions yields closure path value outcome

/-! ## Rules with fewer or more premises -/

variable {definitions : Definitions} {yields wider : Judgement}

theorem EntryRule.imp {path : Path} {object : Value} {field : Field Closure}
    {result : Outcome (String × Value)} (rule : EntryRule yields path object field result)
    (implies : ∀ {closure path value outcome}, field.schema? = some closure →
      yields closure path value outcome → wider closure path value outcome) :
    EntryRule wider path object field result := by
  cases rule with
  | missing resolved => exact .missing resolved
  | skipped resolved => exact .skipped resolved
  | plain resolved nested => exact .plain resolved (implies rfl nested)
  | optional resolved nested => exact .optional resolved (implies rfl nested)
  | state => exact .state

theorem AlternativesRule.imp {yields wider : Closure → Outcome Value → Prop}
    {earlier : List Fault} {closures : List Closure} {outcome : Outcome Value}
    (rule : AlternativesRule yields earlier closures outcome)
    (implies : ∀ {closure outcome}, closure ∈ closures →
      yields closure outcome → wider closure outcome) :
    AlternativesRule wider earlier closures outcome := by
  induction rule with
  | none => exact .none
  | exhausted collected => exact .exhausted collected
  | success first => exact .success (implies (.head _) first)
  | failure first rest inductionHypothesis =>
      exact .failure (implies (.head _) first)
        (inductionHypothesis fun member => implies (.tail _ member))

/-- A relation between lists may be weakened item by item. -/
theorem forall₂_imp_of_mem {α β : Type} {first second : α → β → Prop} {lefts : List α}
    {rights : List β} (related : List.Forall₂ first lefts rights)
    (implies : ∀ left ∈ lefts, ∀ right, first left right → second left right) :
    List.Forall₂ second lefts rights := by
  have both := (List.forall₂_and_left lefts rights).mpr ⟨fun _ member => member, related⟩
  exact both.imp fun left right holds => implies left holds.1 right holds.2

/-- Every item of the first list has a partner in the second one. -/
theorem exists_of_forall₂_of_mem {α β : Type} {pairs : α → β → Prop} {lefts : List α}
    {rights : List β} {item : α} (all : List.Forall₂ pairs lefts rights) (member : item ∈ lefts) :
    ∃ other ∈ rights, pairs item other := by
  induction all with
  | nil => contradiction
  | cons isPair _ inductionHypothesis =>
      rcases List.mem_cons.mp member with rfl | later
      · exact ⟨_, .head _, isPair⟩
      · rcases inductionHypothesis later with ⟨other, otherMem, isPair⟩
        exact ⟨other, .tail _ otherMem, isPair⟩

/-- What is related item by item to two lists in sequence is two lists in sequence itself. -/
theorem exists_of_forall₂_append {α β : Type} {related : α → β → Prop} {front back : List α}
    {results : List β} (all : List.Forall₂ related (front ++ back) results) :
    ∃ before later, results = before ++ later ∧ List.Forall₂ related front before ∧
      List.Forall₂ related back later := by
  induction front generalizing results with
  | nil => exact ⟨[], results, rfl, .nil, all⟩
  | cons item front inductionHypothesis =>
      cases all with
      | @cons _ first _ _ isFirst rest =>
          obtain ⟨before, later, rfl, inFront, inBack⟩ := inductionHypothesis rest
          exact ⟨first :: before, later, rfl, .cons isFirst inFront, inBack⟩

/-- What is related item by item to a list with an item in the middle has that form itself. -/
theorem exists_of_forall₂_append_cons {α β : Type} {related : α → β → Prop} {front back : List α}
    {item : α} {results : List β} (all : List.Forall₂ related (front ++ item :: back) results) :
    ∃ before result later, results = before ++ result :: later ∧
      List.Forall₂ related front before ∧ related item result ∧
      List.Forall₂ related back later := by
  obtain ⟨before, _, rfl, inFront, _ | ⟨here, inBack⟩⟩ := exists_of_forall₂_append all
  exact ⟨before, _, _, rfl, inFront, here, inBack⟩

theorem forall₂_append_cons {α β : Type} {related : α → β → Prop} {front back : List α}
    {item : α} {before later : List β} {result : β} (inFront : List.Forall₂ related front before)
    (here : related item result) (inBack : List.Forall₂ related back later) :
    List.Forall₂ related (front ++ item :: back) (before ++ result :: later) :=
  List.rel_append inFront (.cons here inBack)

private theorem entries_imp {path : Path} {object : Value} {fields : List (Field Schema)}
    {bindings : Bindings} {results : List (Outcome (String × Value))}
    (entries : List.Forall₂ (EntryRule yields path object)
      (fields.map (Field.map (Closure.mk · bindings))) results)
    (implies : ∀ {schema path value outcome}, schema ∈ fields.filterMap Field.schema? →
      yields ⟨schema, bindings⟩ path value outcome →
        wider ⟨schema, bindings⟩ path value outcome) :
    List.Forall₂ (EntryRule wider path object)
      (fields.map (Field.map (Closure.mk · bindings))) results := by
  apply forall₂_imp_of_mem entries
  intro field member result rule
  apply rule.imp
  intro closure path value outcome isNested nested
  obtain ⟨schema, written, rfl⟩ := Schema.exists_part_of_mem_map member isNested
  exact implies written nested

/-- The premises of a rule are about closures that its own closure leads to. -/
theorem Rule.imp {closure : Closure} {path : Path} {value : Value} {outcome : Outcome Value}
    (rule : Rule definitions yields closure path value outcome)
    (implies : ∀ {next path value outcome}, closure.Leads definitions next →
      yields next path value outcome → wider next path value outcome) :
    Rule definitions wider closure path value outcome := by
  cases rule with
  | leaf => exact .leaf
  | object entries => exact .object (entries_imp entries fun member => implies (.nested member))
  | closed supported entries =>
      exact .closed supported (entries_imp entries fun member => implies (.nested member))
  | unsupported found => exact .unsupported found
  | array elements =>
      exact .array (elements.imp fun _ _ nested => implies (.nested (.head _)) nested)
  | notArray other => exact .notArray other
  | oneOf tried =>
      refine .oneOf (tried.imp fun member nested => ?_)
      rcases List.mem_map.mp member with ⟨schema, written, rfl⟩
      exact implies (.nested written) nested
  | rejectedKeys rejected => exact .rejectedKeys rejected
  | setOf accepted entries =>
      rw [← Field.map_members (Closure.mk · _)] at entries
      have wider := entries_imp entries fun member nested => implies
        (.nested (List.mem_singleton.mpr (Schema.eq_of_mem_members member))) nested
      rw [Field.map_members] at wider
      exact .setOf accepted wider
  | missingKey missing => exact .missingKey missing
  | missingBranch found unknown => exact .missingBranch found unknown
  | choose found known nested =>
      exact .choose found known
        (implies (.nested (List.mem_map_of_mem (Schema.branch?_mem known))) nested)
  | function => exact .function
  | notFunction other => exact .notFunction other
  | unbound missing => exact .unbound missing
  | released => exact .released
  | supplied member nested => exact .supplied member (implies (.nested member) nested)
  | delegate delegates nested => exact .delegate delegates (implies (.delegate delegates) nested)

/-! ## Finitely many premises -/

section Bound

variable {family : Nat → Judgement}

private theorem forall₂_exists_bound {α β : Type} {related : Nat → α → β → Prop}
    {lefts : List α} {rights : List β}
    (each : List.Forall₂ (fun left right => ∃ bound, related bound left right) lefts rights)
    (mono : ∀ lower upper, lower ≤ upper → ∀ left right,
      related lower left right → related upper left right) :
    ∃ bound, List.Forall₂ (related bound) lefts rights := by
  induction each with
  | nil => exact ⟨0, .nil⟩
  | cons first _ inductionHypothesis =>
      rcases first with ⟨firstBound, first⟩
      rcases inductionHypothesis with ⟨restBound, rest⟩
      refine ⟨max firstBound restBound, .cons (mono _ _ (Nat.le_max_left _ _) _ _ first) ?_⟩
      exact rest.imp (mono _ _ (Nat.le_max_right _ _))

/-- Higher bounds allow everything that lower bounds allow. -/
def Growing (family : Nat → Judgement) : Prop :=
  ∀ lower upper : Nat, lower ≤ upper → ∀ closure path value outcome,
    family lower closure path value outcome → family upper closure path value outcome

variable (growing : Growing family)

include growing

private theorem entries_exists_bound {path : Path} {object : Value}
    {fields : List (Field Closure)} {results : List (Outcome (String × Value))}
    (entries : List.Forall₂ (EntryRule (fun closure path value outcome =>
      ∃ bound, family bound closure path value outcome) path object) fields results) :
    ∃ bound, List.Forall₂ (EntryRule (family bound) path object) fields results := by
  have each : List.Forall₂ (fun field result =>
      ∃ bound, EntryRule (family bound) path object field result) fields results := by
    apply entries.imp
    intro field result rule
    cases rule with
    | missing resolved => exact ⟨0, .missing resolved⟩
    | skipped resolved => exact ⟨0, .skipped resolved⟩
    | plain resolved nested => exact nested.imp fun _ nested => .plain resolved nested
    | optional resolved nested => exact nested.imp fun _ nested => .optional resolved nested
    | state => exact ⟨0, .state⟩
  exact forall₂_exists_bound each fun _ _ larger _ _ rule =>
    rule.imp fun _ nested => growing _ _ larger _ _ _ _ nested

private theorem alternatives_exists_bound {path : Path} {value : Value} {earlier : List Fault}
    {closures : List Closure} {outcome : Outcome Value}
    (tried : AlternativesRule (fun closure outcome =>
      ∃ bound, family bound closure path value outcome) earlier closures outcome) :
    ∃ bound, AlternativesRule (fun closure outcome => family bound closure path value outcome)
      earlier closures outcome := by
  induction tried with
  | none => exact ⟨0, .none⟩
  | exhausted collected => exact ⟨0, .exhausted collected⟩
  | success first => exact first.imp fun _ first => .success first
  | failure first _ inductionHypothesis =>
      rcases first with ⟨firstBound, first⟩
      rcases inductionHypothesis with ⟨restBound, rest⟩
      refine ⟨max firstBound restBound,
        .failure (growing _ _ (Nat.le_max_left _ _) _ _ _ _ first) ?_⟩
      exact rest.imp fun _ holds => growing _ _ (Nat.le_max_right _ _) _ _ _ _ holds

/-- A rule has finitely many premises, so one bound does for all of them. -/
theorem Rule.exists_bound {closure : Closure} {path : Path} {value : Value}
    {outcome : Outcome Value}
    (rule : Rule definitions (fun closure path value outcome =>
      ∃ bound, family bound closure path value outcome) closure path value outcome) :
    ∃ bound, Rule definitions (family bound) closure path value outcome := by
  cases rule with
  | leaf => exact ⟨0, .leaf⟩
  | object entries =>
      rcases entries_exists_bound growing entries with ⟨bound, entries⟩
      exact ⟨bound, .object entries⟩
  | closed supported entries =>
      rcases entries_exists_bound growing entries with ⟨bound, entries⟩
      exact ⟨bound, .closed supported entries⟩
  | unsupported found => exact ⟨0, .unsupported found⟩
  | array elements =>
      obtain ⟨bound, elements⟩ := forall₂_exists_bound elements
        fun _ _ larger _ _ nested => growing _ _ larger _ _ _ _ nested
      exact ⟨bound, .array elements⟩
  | notArray other => exact ⟨0, .notArray other⟩
  | oneOf tried =>
      rcases alternatives_exists_bound growing tried with ⟨bound, tried⟩
      exact ⟨bound, .oneOf tried⟩
  | rejectedKeys rejected => exact ⟨0, .rejectedKeys rejected⟩
  | setOf accepted entries =>
      rcases entries_exists_bound growing entries with ⟨bound, entries⟩
      exact ⟨bound, .setOf accepted entries⟩
  | missingKey missing => exact ⟨0, .missingKey missing⟩
  | missingBranch found unknown => exact ⟨0, .missingBranch found unknown⟩
  | choose found known nested => exact nested.imp fun _ nested => .choose found known nested
  | function => exact ⟨0, .function⟩
  | notFunction other => exact ⟨0, .notFunction other⟩
  | unbound missing => exact ⟨0, .unbound missing⟩
  | released => exact ⟨0, .released⟩
  | supplied member nested => exact nested.imp fun _ nested => .supplied member nested
  | delegate delegates nested => exact nested.imp fun _ nested => .delegate delegates nested

end Bound

end Semantics

/-- The outcomes that the rules give in at most so many steps below each other. -/
def YieldsWithin (definitions : Definitions) : Nat → Judgement
  | 0 => fun _ _ _ _ => False
  | depth + 1 => Semantics.Rule definitions (YieldsWithin definitions depth)

/-- The outcomes that extraction means. -/
def Yields (definitions : Definitions) : Judgement := fun closure path value outcome =>
  ∃ depth, YieldsWithin definitions depth closure path value outcome

section

variable {definitions : Definitions} {closure : Closure} {path : Path} {value : Value}
  {outcome : Outcome Value}

theorem YieldsWithin.succ {depth : Nat}
    (yields : YieldsWithin definitions depth closure path value outcome) :
    YieldsWithin definitions (depth + 1) closure path value outcome := by
  induction depth generalizing closure path value outcome with
  | zero => exact yields.elim
  | succ depth inductionHypothesis =>
      exact Semantics.Rule.imp yields fun _ nested => inductionHypothesis nested

theorem YieldsWithin.growing : Semantics.Growing (YieldsWithin definitions) := by
  intro lower upper larger closure path value outcome yields
  induction larger with
  | refl => exact yields
  | step _ inductionHypothesis => exact inductionHypothesis.succ

theorem YieldsWithin.mono {lower upper : Nat} (larger : lower ≤ upper)
    (yields : YieldsWithin definitions lower closure path value outcome) :
    YieldsWithin definitions upper closure path value outcome :=
  YieldsWithin.growing lower upper larger closure path value outcome yields

/-- What extraction means is closed under the rules. -/
theorem Yields.of_rule
    (rule : Semantics.Rule definitions (Yields definitions) closure path value outcome) :
    Yields definitions closure path value outcome := by
  rcases Semantics.Rule.exists_bound YieldsWithin.growing rule with ⟨depth, rule⟩
  exact ⟨depth + 1, rule⟩

end

end Extraction
