import Extraction.Proofs.Semantics

/-!
# Closures that extract alike

Two closures correspond if they have the same constructor, up to the schemas nested in it, or if
both stand for something else, and what they lead to is related.  Outcomes carry over along a
relation under which related closures correspond, one step for one step.
-/

namespace Extraction

/-- Two fields differ at most in their nested schemas, and these are related. -/
inductive Field.Alike {σ τ : Type} (related : σ → τ → Prop) : Field σ → Field τ → Prop where
  | read {key outputKey : String} {presence : Presence} {schema : σ} {other : τ}
      (nested : related schema other) :
      Alike related (.read key outputKey presence schema) (.read key outputKey presence other)
  | state {outputKey : String} {generator : Fallback} :
      Alike related (.state outputKey generator) (.state outputKey generator)

namespace Schema

/-- Two named schemas have one name, and the schemas are related. -/
inductive NamedAlike (related : Schema → Schema → Prop) :
    String × Schema → String × Schema → Prop where
  | intro {name : String} {schema other : Schema} (nested : related schema other) :
      NamedAlike related (name, schema) (name, other)

variable {related : Schema → Schema → Prop}

/-- Two schemas differ at most in the schemas directly inside them, and these are related in
order. -/
inductive Alike (related : Schema → Schema → Prop) : Schema → Schema → Prop where
  | leaf {validator : Validator} : Alike related (.leaf validator) (.leaf validator)
  | object {fields others : List (Field Schema)}
      (nested : List.Forall₂ (Field.Alike related) fields others) :
      Alike related (.object fields) (.object others)
  | closed {fields others : List (Field Schema)}
      (nested : List.Forall₂ (Field.Alike related) fields others) :
      Alike related (.closed fields) (.closed others)
  | array {element other : Schema} (nested : related element other) :
      Alike related (.array element) (.array other)
  | oneOf {alternatives others : List Schema}
      (nested : List.Forall₂ related alternatives others) :
      Alike related (.oneOf alternatives) (.oneOf others)
  | setOf {keys : Validator} {values other : Schema} (nested : related values other) :
      Alike related (.setOf keys values) (.setOf keys other)
  | choose {key : String} {branches others : List (String × Schema)}
      (nested : List.Forall₂ (NamedAlike related) branches others) :
      Alike related (.choose key branches) (.choose key others)
  | function {parameters : List String} {retriever : Nat} :
      Alike related (.function parameters retriever) (.function parameters retriever)
  | thunk {site : Nat} {label : String} {body other : Schema} (nested : related body other) :
      Alike related (.thunk site label body) (.thunk site label other)
  | reference {label name : String} :
      Alike related (.reference label name) (.reference label name)
  | supplied {first other : Schema} {later others : List Schema}
      (nested : List.Forall₂ related (first :: later) (other :: others)) :
      Alike related (.supplied first later) (.supplied other others)
  | recursive {label : String} {body other : Schema} (nested : related body other) :
      Alike related (.recursive label body) (.recursive label other)
  | self {label : String} : Alike related (.self label) (.self label)
  | released {label : String} : Alike related (.released label) (.released label)
  | boxed {inner other : Schema} (nested : related inner other) :
      Alike related (.boxed inner) (.boxed other)

private theorem fields_alike {change other : Schema → Schema} {fields : List (Field Schema)}
    (nested : ∀ part ∈ fields.filterMap Field.schema?, related (change part) (other part)) :
    List.Forall₂ (Field.Alike related) (fields.map (Field.map change))
      (fields.map (Field.map other)) := by
  rw [List.forall₂_map_left_iff, List.forall₂_map_right_iff, List.forall₂_same]
  intro field member
  cases field with
  | read key outputKey presence schema =>
      exact .read (nested schema (List.mem_filterMap.mpr ⟨_, member, rfl⟩))
  | state => exact .state

/-- Changing nested schemas in two ways gives schemas that are alike. -/
theorem alike_mapNested {change other : Schema → Schema} (schema : Schema)
    (nested : ∀ part ∈ schema.nested, related (change part) (other part)) :
    Alike related (schema.mapNested change) (schema.mapNested other) := by
  have inList {schemas : List Schema}
      (each : ∀ part ∈ schemas, related (change part) (other part)) :
      List.Forall₂ related (schemas.map change) (schemas.map other) := by
    rw [List.forall₂_map_left_iff, List.forall₂_map_right_iff, List.forall₂_same]
    exact each
  cases schema with
  | leaf => exact .leaf
  | object fields => exact .object (fields_alike nested)
  | closed fields => exact .closed (fields_alike nested)
  | array => exact .array (nested _ (.head _))
  | oneOf alternatives => exact .oneOf (inList nested)
  | setOf => exact .setOf (nested _ (.head _))
  | choose key branches =>
      refine .choose ?_
      rw [List.forall₂_map_left_iff, List.forall₂_map_right_iff, List.forall₂_same]
      exact fun branch member => .intro (nested _ (List.mem_map_of_mem member))
  | function => exact .function
  | thunk => exact .thunk (nested _ (.head _))
  | reference => exact .reference
  | supplied => exact .supplied (inList nested)
  | recursive => exact .recursive (nested _ (.head _))
  | self => exact .self
  | released => exact .released
  | boxed => exact .boxed (nested _ (.head _))

/-- A schema is like the one that it becomes when nested schemas change to related ones. -/
theorem alike_mapNested_self {change : Schema → Schema} (schema : Schema)
    (nested : ∀ part ∈ schema.nested, related part (change part)) :
    Alike related schema (schema.mapNested change) := by
  have alike : Alike related (schema.mapNested id) (schema.mapNested change) :=
    alike_mapNested schema nested
  rw [mapNested_id] at alike
  exact alike

/-- A schema is like itself if what is nested in it is related to itself. -/
theorem alike_self (schema : Schema) (nested : ∀ part ∈ schema.nested, related part part) :
    Alike related schema schema := by
  have alike : Alike related schema (schema.mapNested id) := alike_mapNested_self schema nested
  rw [mapNested_id] at alike
  exact alike

private theorem forall₂_swap {α β : Type} {forth : α → β → Prop} {back : β → α → Prop}
    {lefts : List α} {rights : List β} (pairs : List.Forall₂ forth lefts rights)
    (swap : ∀ left right, forth left right → back right left) :
    List.Forall₂ back rights lefts :=
  (pairs.imp swap).flip

theorem Alike.swap {left right : Schema} (alike : Alike related left right) :
    Alike (fun left right => related right left) right left := by
  have swapField (left right : Field Schema) (alike : Field.Alike related left right) :
      Field.Alike (fun left right => related right left) right left := by
    cases alike with
    | read nested => exact .read nested
    | state => exact .state
  cases alike with
  | leaf => exact .leaf
  | object nested => exact .object (forall₂_swap nested swapField)
  | closed nested => exact .closed (forall₂_swap nested swapField)
  | array nested => exact .array nested
  | oneOf nested => exact .oneOf nested.flip
  | setOf nested => exact .setOf nested
  | choose nested =>
      exact .choose (forall₂_swap nested fun _ _ (.intro nested) => .intro nested)
  | function => exact .function
  | thunk nested => exact .thunk nested
  | reference => exact .reference
  | supplied nested => exact .supplied nested.flip
  | recursive nested => exact .recursive nested
  | self => exact .self
  | released => exact .released
  | boxed nested => exact .boxed nested

private theorem Alike.permittedKeys_eq {fields others : List (Field Schema)}
    (nested : List.Forall₂ (Field.Alike related) fields others) :
    permittedKeys fields = permittedKeys others := by
  have sameKeys : fields.filterMap Field.sourceKey? = others.filterMap Field.sourceKey? := by
    induction nested with
    | nil => rfl
    | cons alike _ inductionHypothesis =>
        cases alike <;> simp [List.filterMap_cons, Field.sourceKey?, inductionHypothesis]
  rw [permittedKeys, permittedKeys, sameKeys]

private theorem or_rel {first second other another : Option Schema}
    (firstRel : Option.Rel related first second) (otherRel : Option.Rel related other another) :
    Option.Rel related (first.or other) (second.or another) := by
  cases firstRel with
  | some isRelated => exact .some isRelated
  | none => exact otherRel

private theorem Alike.branch?_rel (name : String) {branches others : List (String × Schema)}
    (nested : List.Forall₂ (NamedAlike related) branches others) :
    Option.Rel related (branch? name branches) (branch? name others) := by
  induction nested with
  | nil => exact .none
  | cons alike _ inductionHypothesis =>
      cases alike with
      | intro isRelated =>
          apply or_rel inductionHypothesis
          split
          · exact .some isRelated
          · exact .none

private theorem Alike.branchNames_eq {branches others : List (String × Schema)}
    (nested : List.Forall₂ (NamedAlike related) branches others) :
    branchNames branches = branchNames others := by
  have sameNames : branches.map Prod.fst = others.map Prod.fst := by
    induction nested with
    | nil => rfl
    | cons alike _ inductionHypothesis =>
        cases alike
        rw [List.map_cons, List.map_cons, inductionHypothesis]
  rw [branchNames, branchNames, sameNames]

end Schema

/-- Two closures correspond if both stand for something else, or if they have the same constructor,
and what they lead to is related. -/
inductive Closure.Corresponds (definitions others : Definitions)
    (related : Closure → Closure → Prop) (left right : Closure) : Prop where
  | delegate {leftDelegate rightDelegate : Closure}
      (leftDelegates : left.delegate? definitions = some leftDelegate)
      (rightDelegates : right.delegate? others = some rightDelegate)
      (nested : related leftDelegate rightDelegate) :
      Corresponds definitions others related left right
  | alike (leftDelegates : left.delegate? definitions = none)
      (rightDelegates : right.delegate? others = none)
      (alike : Schema.Alike
        (fun schema other => related ⟨schema, left.bindings⟩ ⟨other, right.bindings⟩)
        left.schema right.schema) :
      Corresponds definitions others related left right

theorem Closure.Corresponds.swap {definitions others : Definitions}
    {related : Closure → Closure → Prop} {left right : Closure}
    (corresponds : Corresponds definitions others related left right) :
    Corresponds others definitions (fun left right => related right left) right left := by
  cases corresponds with
  | delegate leftDelegates rightDelegates nested =>
      exact .delegate rightDelegates leftDelegates nested
  | alike leftDelegates rightDelegates alike =>
      exact .alike rightDelegates leftDelegates alike.swap

private theorem rel_cases {α β : Type} {pairs : α → β → Prop} {first : Option α}
    {second : Option β} (pair : Option.Rel pairs first second) :
    (first = none ∧ second = none) ∨
      ∃ item other, first = some item ∧ second = some other ∧ pairs item other := by
  cases pair with
  | none => exact .inl ⟨rfl, rfl⟩
  | some isPair => exact .inr ⟨_, _, rfl, rfl, isPair⟩

/-- Closures with the same constructor correspond, if what they stand for and what is nested in
them is related. -/
theorem Closure.corresponds_of_rel {definitions others : Definitions}
    {related : Closure → Closure → Prop} {left right : Closure}
    (delegates : Option.Rel related (left.delegate? definitions) (right.delegate? others))
    (alike : Schema.Alike
      (fun schema other => related ⟨schema, left.bindings⟩ ⟨other, right.bindings⟩)
      left.schema right.schema) : left.Corresponds definitions others related right := by
  rcases rel_cases delegates with ⟨leftNone, rightNone⟩ | ⟨_, _, leftSome, rightSome, nested⟩
  · exact .alike leftNone rightNone alike
  · exact .delegate leftSome rightSome nested

/-- A closure corresponds to itself, if closures are related to themselves. -/
theorem Closure.corresponds_self {definitions : Definitions} {related : Closure → Closure → Prop}
    (same : ∀ closure, related closure closure) (closure : Closure) :
    closure.Corresponds definitions definitions related closure := by
  have alike : Schema.Alike
      (fun schema other => related ⟨schema, closure.bindings⟩ ⟨other, closure.bindings⟩)
      closure.schema closure.schema :=
    Schema.alike_self _ fun _ _ => same _
  cases delegates : closure.delegate? definitions with
  | none => exact .alike delegates delegates alike
  | some delegate => exact .delegate delegates delegates (same delegate)

namespace Semantics

variable {definitions others : Definitions} {related : Closure → Closure → Prop}
  {yields otherYields : Judgement}

/-- A closure that stands for something else has the outcomes of that. -/
theorem Rule.of_delegate {closure delegate : Closure} {path : Path} {value : Value}
    {outcome : Outcome Value} (delegates : closure.delegate? definitions = some delegate)
    (rule : Rule definitions yields closure path value outcome) :
    yields delegate path value outcome := by
  cases rule with
  | delegate otherDelegates nested =>
      cases delegates.symm.trans otherDelegates
      exact nested
  | unbound missing => cases delegates.symm.trans missing
  | _ => contradiction

private theorem eq_none_of_rel_none {α β : Type} {pairs : α → β → Prop} {option : Option β}
    (pair : Option.Rel pairs none option) : option = none := by
  cases pair
  rfl

private theorem exists_of_rel_some {α β : Type} {pairs : α → β → Prop} {item : α}
    {option : Option β} (pair : Option.Rel pairs (some item) option) :
    ∃ other, option = some other ∧ pairs item other := by
  cases pair with
  | some isPair => exact ⟨_, rfl, isPair⟩

section

variable
  (carries : ∀ left right, related left right → ∀ path value outcome,
    yields left path value outcome → otherYields right path value outcome)
  {left right : Bindings} {path : Path} {value : Value} {outcome : Outcome Value}

include carries

private theorem EntryRule.carry {field other : Field Schema} {result : Outcome (String × Value)}
    (alike : Field.Alike (fun schema other => related ⟨schema, left⟩ ⟨other, right⟩) field other)
    (rule : EntryRule yields path value (field.map (Closure.mk · left)) result) :
    EntryRule otherYields path value (other.map (Closure.mk · right)) result := by
  cases alike with
  | state =>
      cases rule
      exact .state
  | read nested =>
      cases rule with
      | missing resolved => exact .missing resolved
      | skipped resolved => exact .skipped resolved
      | plain resolved holds => exact .plain resolved (carries _ _ nested _ _ _ holds)
      | optional resolved holds => exact .optional resolved (carries _ _ nested _ _ _ holds)

private theorem entries_carry {fields others : List (Field Schema)}
    {results : List (Outcome (String × Value))}
    (alike : List.Forall₂
      (Field.Alike fun schema other => related ⟨schema, left⟩ ⟨other, right⟩) fields others)
    (entries : List.Forall₂ (EntryRule yields path value)
      (fields.map (Field.map (Closure.mk · left))) results) :
    List.Forall₂ (EntryRule otherYields path value)
      (others.map (Field.map (Closure.mk · right))) results := by
  induction alike generalizing results with
  | nil =>
      cases entries
      exact .nil
  | cons fieldAlike _ inductionHypothesis =>
      cases entries with
      | cons rule rest => exact .cons (rule.carry carries fieldAlike) (inductionHypothesis rest)

private theorem members_carry {values others : Schema} {names : List String}
    {results : List (Outcome (String × Value))} (nested : related ⟨values, left⟩ ⟨others, right⟩)
    (entries : List.Forall₂ (EntryRule yields path value)
      (names.map fun name => .read name name .strict ⟨values, left⟩) results) :
    List.Forall₂ (EntryRule otherYields path value)
      (names.map fun name => .read name name .strict ⟨others, right⟩) results := by
  rw [List.forall₂_map_left_iff] at entries ⊢
  apply entries.imp
  intro name result rule
  have alike : Field.Alike (fun schema other => related ⟨schema, left⟩ ⟨other, right⟩)
      (.read name name .strict values) (.read name name .strict others) := .read nested
  exact EntryRule.carry carries alike rule

private theorem AlternativesRule.carry {earlier : List Fault} {alternatives others : List Schema}
    (alike : List.Forall₂ (fun schema other => related ⟨schema, left⟩ ⟨other, right⟩)
      alternatives others)
    (tried : AlternativesRule (fun closure outcome => yields closure path value outcome) earlier
      (alternatives.map (Closure.mk · left)) outcome) :
    AlternativesRule (fun closure outcome => otherYields closure path value outcome) earlier
      (others.map (Closure.mk · right)) outcome := by
  induction alike generalizing earlier with
  | nil =>
      cases tried with
      | none => exact .none
      | exhausted collected => exact .exhausted collected
  | cons nested _ inductionHypothesis =>
      cases tried with
      | success first => exact .success (carries _ _ nested _ _ _ first)
      | failure first rest =>
          exact .failure (carries _ _ nested _ _ _ first) (inductionHypothesis rest)

private theorem Rule.carry_closed {fields otherFields : List (Field Schema)}
    (nested : List.Forall₂
      (Field.Alike fun schema other => related ⟨schema, left⟩ ⟨other, right⟩) fields otherFields)
    (rule : Rule definitions yields ⟨.closed fields, left⟩ path value outcome) :
    Rule others otherYields ⟨.closed otherFields, right⟩ path value outcome := by
  cases rule with
  | closed supported entries =>
      rw [Schema.Alike.permittedKeys_eq nested] at supported
      exact .closed supported (entries_carry carries nested entries)
  | unsupported found =>
      rw [Schema.Alike.permittedKeys_eq nested] at found ⊢
      exact .unsupported found
  | delegate delegates => contradiction

private theorem Rule.carry_choose {key : String} {branches otherBranches : List (String × Schema)}
    (nested : List.Forall₂
      (Schema.NamedAlike fun schema other => related ⟨schema, left⟩ ⟨other, right⟩) branches
        otherBranches)
    (rule : Rule definitions yields ⟨.choose key branches, left⟩ path value outcome) :
    Rule others otherYields ⟨.choose key otherBranches, right⟩ path value outcome := by
  cases rule with
  | missingKey missing => exact .missingKey missing
  | @missingBranch _ _ _ _ _ chosen found unknown =>
      have pair := Schema.Alike.branch?_rel (Extractor.branchName chosen) nested
      rw [unknown] at pair
      rw [Schema.Alike.branchNames_eq nested]
      exact .missingBranch found (eq_none_of_rel_none pair)
  | @choose _ _ _ _ _ chosen _ _ found known holds =>
      have pair := Schema.Alike.branch?_rel (Extractor.branchName chosen) nested
      rw [known] at pair
      rcases exists_of_rel_some pair with ⟨branch, otherKnown, isRelated⟩
      exact .choose found otherKnown (carries _ _ isRelated _ _ _ holds)
  | delegate delegates => contradiction

private theorem Rule.carry_alike {schema other : Schema}
    (leftDelegates : Closure.delegate? definitions ⟨schema, left⟩ = none)
    (rightDelegates : Closure.delegate? others ⟨other, right⟩ = none)
    (alike : Schema.Alike (fun schema other => related ⟨schema, left⟩ ⟨other, right⟩) schema other)
    (rule : Rule definitions yields ⟨schema, left⟩ path value outcome) :
    Rule others otherYields ⟨other, right⟩ path value outcome := by
  cases alike with
  | leaf =>
      cases rule with
      | leaf => exact .leaf
      | delegate delegates => contradiction
  | object nested =>
      cases rule with
      | object entries => exact .object (entries_carry carries nested entries)
      | delegate delegates => contradiction
  | closed nested => exact carry_closed carries nested rule
  | array nested =>
      cases rule with
      | array elements =>
          exact .array (elements.imp fun _ _ holds => carries _ _ nested _ _ _ holds)
      | notArray other => exact .notArray other
      | delegate delegates => contradiction
  | oneOf nested =>
      cases rule with
      | oneOf tried => exact .oneOf (AlternativesRule.carry carries nested tried)
      | delegate delegates => contradiction
  | setOf nested =>
      cases rule with
      | rejectedKeys rejected => exact .rejectedKeys rejected
      | setOf accepted entries => exact .setOf accepted (members_carry carries nested entries)
      | delegate delegates => contradiction
  | choose nested => exact carry_choose carries nested rule
  | function =>
      cases rule with
      | function => exact .function
      | notFunction other => exact .notFunction other
      | delegate delegates => contradiction
  | supplied nested =>
      cases rule with
      | supplied member holds =>
          rcases exists_of_forall₂_of_mem nested member with ⟨other, otherMem, isRelated⟩
          exact .supplied otherMem (carries _ _ isRelated _ _ _ holds)
      | delegate delegates => contradiction
  | self =>
      cases rule with
      | unbound missing => exact .unbound rightDelegates
      | delegate delegates => cases leftDelegates.symm.trans delegates
  | released =>
      cases rule with
      | released => exact .released
      | delegate delegates => contradiction
  | thunk | reference | recursive | boxed => contradiction

/-- Outcomes carry over between corresponding closures if they do between what these lead to. -/
theorem Rule.carry {left right : Closure}
    (corresponds : left.Corresponds definitions others related right)
    (rule : Rule definitions yields left path value outcome) :
    Rule others otherYields right path value outcome := by
  cases corresponds with
  | delegate leftDelegates rightDelegates nested =>
      exact .delegate rightDelegates (carries _ _ nested _ _ _ (rule.of_delegate leftDelegates))
  | alike leftDelegates rightDelegates alike =>
      exact carry_alike carries leftDelegates rightDelegates alike rule

end

end Semantics

/-- Related closures have the same outcomes in equally many steps, if related ones correspond. -/
theorem YieldsWithin.carry {definitions others : Definitions}
    {related : Closure → Closure → Prop}
    (correspond : ∀ left right, related left right →
      left.Corresponds definitions others related right)
    {depth : Nat} {left right : Closure} {path : Path} {value : Value} {outcome : Outcome Value}
    (isRelated : related left right)
    (yields : YieldsWithin definitions depth left path value outcome) :
    YieldsWithin others depth right path value outcome := by
  induction depth generalizing left right path value outcome with
  | zero => exact yields.elim
  | succ depth inductionHypothesis =>
      apply Semantics.Rule.carry _ (correspond left right isRelated) yields
      intro left right isRelated path value outcome
      exact inductionHypothesis isRelated

end Extraction
