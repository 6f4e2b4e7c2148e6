import Mathlib.Data.List.Nodup
import Mathlib.Tactic.Tauto
import Extraction.Proofs.Correspondence
import Extraction.Proofs.History
import Extraction.Proofs.Origins
import Extraction.Proofs.Replacement
import Extraction.Schema.Fields

/-!
# Faults are local

Where nothing but objects and arrays is on the way to a place, the faults found below the place
stand together among the faults of an extraction, and what is found elsewhere does not depend on
them: a change of the value at the place changes these faults and no others.
-/

namespace Extraction

/-! ## Schemas that only take values apart -/

/-- A field that has to be there or may be missing, or that is generated. -/
def Field.IsPlain {σ : Type} : Field σ → Prop
  | read _ _ presence _ => presence = .strict ∨ presence = .option
  | state .. => True

@[simp]
theorem Field.isPlain_map {σ τ : Type} (change : σ → τ) (field : Field σ) :
    (field.map change).IsPlain ↔ field.IsPlain := by
  cases field <;> rfl

/-- A schema that runs what is nested in it on distinct parts of its value, and on all of them. -/
def Schema.InPlace : Schema → Prop
  | object fields => (fields.filterMap Field.sourceKey?).Nodup ∧ ∀ field ∈ fields, field.IsPlain
  | closed _ | oneOf _ | setOf .. | choose .. | supplied .. => False
  | _ => True

theorem Schema.InPlace.steady {schema : Schema} (inPlace : schema.InPlace) : schema.Steady := by
  cases schema with
  | supplied => exact inPlace.elim
  | _ => trivial

namespace Yields

variable {definitions : Definitions} {closure : Closure} {path : Path} {value : Value}
  {outcome : Outcome Value} {fault : Fault}

/-- What extraction means, the rules give. -/
theorem rule (yields : Yields definitions closure path value outcome) :
    Semantics.Rule definitions (Yields definitions) closure path value outcome := by
  obtain ⟨_ | depth, yields⟩ := yields
  · exact yields.elim
  · exact Semantics.Rule.imp yields fun _ nested => ⟨depth, nested⟩

theorem continues (yields : Yields definitions closure path value outcome)
    (member : fault ∈ outcome.faults) : fault.path.Continues path := by
  obtain ⟨_, yields⟩ := yields
  obtain ⟨_, _, _, _, _, _, isAt⟩ := yields.hasOrigin member
  exact ⟨_, isAt⟩

/-- The objects in which fields are missing are the value itself or in it. -/
theorem continues_of_missingStrict {key : String} {object : Value} {outer : Path}
    (yields : Yields definitions closure path value outcome) (member : fault ∈ outcome.faults)
    (isMissing : fault.cause = .missingStrict key object)
    (isOuter : fault.path.parent? = some outer) : outer.Continues path := by
  obtain ⟨_, yields⟩ := yields
  obtain ⟨walked, _, _, raised, _, raises, isAt⟩ := yields.hasOrigin member
  have isField : raised = .ofField key := by
    rw [isMissing] at raises
    cases raises <;> rfl
  have isPushed : fault.path = (path ++ walked).pushField key := by
    rw [isAt, isField]
    exact (Path.append_assoc path walked _).symm
  rw [isPushed, Path.pushField, Path.parent?_push] at isOuter
  cases isOuter
  exact Path.continues_append path walked

end Yields

/-- The faults of a closure on a value stand between given ones among those of another closure on
another value, and one of the two outcomes exists if the other one does. -/
structure Surrounds (definitions : Definitions) (before later : List Fault) (closure : Closure)
    (path : Path) (value : Value) (next : Closure) (place : Path) (given : Value) : Prop where
  outward : ∀ {inner}, Yields definitions next place given inner →
    ∃ outcome, Yields definitions closure path value outcome ∧
      outcome.faults = before ++ inner.faults ++ later
  inward : ∀ {outcome}, Yields definitions closure path value outcome →
    ∃ inner, Yields definitions next place given inner

namespace Surrounds

variable {definitions : Definitions} {closure next last : Closure} {path place : Path}
  {value given found : Value}

theorem refl : Surrounds definitions [] [] closure path value closure path value where
  outward yields := ⟨_, yields, by simp⟩
  inward yields := ⟨_, yields⟩

theorem trans {before later innerBefore innerLater : List Fault} {further : Path}
    (outer : Surrounds definitions before later closure path value next place given)
    (inner : Surrounds definitions innerBefore innerLater next place given last further found) :
    Surrounds definitions (before ++ innerBefore) (innerLater ++ later) closure path value last
      further found where
  outward yields := by
    obtain ⟨middle, middleYields, middleFaults⟩ := inner.outward yields
    obtain ⟨outcome, outcomeYields, outcomeFaults⟩ := outer.outward middleYields
    refine ⟨outcome, outcomeYields, ?_⟩
    rw [outcomeFaults, middleFaults]
    simp only [List.append_assoc]
  inward yields := by
    obtain ⟨_, middleYields⟩ := outer.inward yields
    exact inner.inward middleYields

end Surrounds

namespace Semantics

section

variable {definitions : Definitions} {closure : Closure} {path : Path} {value : Value}
  {outcome : Outcome Value} {here there : Segment}

private theorem not_continues_of_ne
    (yields : Yields definitions closure (path.push there) value outcome)
    (different : there ≠ here) :
    ∀ fault ∈ outcome.faults, ¬ fault.path.Continues (path.push here) :=
  fun _ member continues => different ((yields.continues member).eq_of_push continues)

private theorem revise_of_ne (yields : Yields definitions closure (path.push there) value outcome)
    (different : there ≠ here) (walked : Path) (replacement : Value) :
    outcome.faults.map (Fault.revise (path.push here ++ walked) replacement) =
      outcome.faults := by
  refine (List.map_congr_left ?_).trans (List.map_id _)
  intro fault member
  apply Fault.revise_eq_self
  intro key object outer isMissing isOuter continues
  have below := (yields.continues_of_missingStrict member isMissing isOuter).trans continues
  exact different (below.eq_of_push (Path.continues_append _ walked))

end

section

variable {definitions : Definitions} {path : Path} {value : Value} {key : String}

private theorem resolve_congr {presence : Presence} {object other : Value}
    (isPlain : presence = .strict ∨ presence = .option) (same : other.get? key = object.get? key) :
    presence.resolve other key = presence.resolve object key := by
  rcases isPlain with rfl | rfl <;> cases found : object.get? key <;>
    simp [Presence.resolve, same, found]

private theorem entry_of_ne {field : Field Closure} {result : Outcome (String × Value)}
    (isPlain : field.IsPlain) (different : field.sourceKey? ≠ some key)
    (rule : EntryRule (Yields definitions) path value field result) :
    (∀ fault ∈ result.faults, ¬ fault.path.Continues (path.pushField key)) ∧
      ∀ walked replacement, ∃ other,
        EntryRule (Yields definitions) path
          (value.replaceAt (.ofField key ++ walked) replacement) field other ∧
        other.faults =
          result.faults.map (Fault.revise (path.pushField key ++ walked) replacement) := by
  cases field with
  | state outputKey generator =>
      cases rule
      exact ⟨by simp, fun _ _ => ⟨_, .state, rfl⟩⟩
  | read source outputKey presence closure =>
      have isOther : source ≠ key := fun same => different (congrArg some same)
      have otherSegment : Segment.field source ≠ .field key := by simpa using isOther
      have resolve_eq (walked replacement) :
          presence.resolve (value.replaceAt (.ofField key ++ walked) replacement) source =
            presence.resolve value source :=
        resolve_congr isPlain (Value.get?_replaceAt_of_ne isOther)
      cases rule with
      | missing resolved =>
          refine ⟨?_, fun walked replacement => ⟨_, .missing (by rwa [resolve_eq]), ?_⟩⟩
          · intro fault member continues
            cases List.mem_singleton.mp member
            have isHere : (path.pushField source).Continues (path.pushField source) :=
              ⟨.root, (Path.append_root _).symm⟩
            exact otherSegment (Path.Continues.eq_of_push isHere continues)
          · have revised := Fault.revise_missingStrict path (.ofField key ++ walked) source value
              replacement
            rw [← Path.append_assoc] at revised
            exact (congrArg List.singleton revised).symm
      | skipped resolved =>
          exact ⟨by simp,
            fun walked replacement => ⟨_, .skipped (by rwa [resolve_eq]), rfl⟩⟩
      | plain resolved nested =>
          rw [Outcome.faults_map]
          refine ⟨not_continues_of_ne nested otherSegment, fun walked replacement =>
            ⟨_, .plain (by rwa [resolve_eq]) nested, ?_⟩⟩
          rw [Outcome.faults_map]
          exact (revise_of_ne nested otherSegment walked replacement).symm
      | optional resolved nested =>
          rw [Outcome.faults_map, Outcome.faults_map]
          refine ⟨not_continues_of_ne nested otherSegment, fun walked replacement =>
            ⟨_, .optional (by rwa [resolve_eq]) nested, ?_⟩⟩
          rw [Outcome.faults_map, Outcome.faults_map]
          exact (revise_of_ne nested otherSegment walked replacement).symm

private theorem entries_of_ne {fields : List (Field Schema)} {bindings : Bindings}
    {results : List (Outcome (String × Value))} (isPlain : ∀ field ∈ fields, field.IsPlain)
    (different : ∀ field ∈ fields, field.sourceKey? ≠ some key)
    (rules : List.Forall₂ (EntryRule (Yields definitions) path value)
      (fields.map (Field.map (Closure.mk · bindings))) results) :
    (∀ fault ∈ results.flatMap Outcome.faults, ¬ fault.path.Continues (path.pushField key)) ∧
      ∀ walked replacement, ∃ others,
        List.Forall₂ (EntryRule (Yields definitions) path
          (value.replaceAt (.ofField key ++ walked) replacement))
          (fields.map (Field.map (Closure.mk · bindings))) others ∧
        others.flatMap Outcome.faults = (results.flatMap Outcome.faults).map
          (Fault.revise (path.pushField key ++ walked) replacement) := by
  induction fields generalizing results with
  | nil =>
      cases rules
      exact ⟨by simp, fun _ _ => ⟨[], .nil, rfl⟩⟩
  | cons field fields inductionHypothesis =>
      cases rules with
      | cons rule rules =>
          rw [List.forall_mem_cons] at isPlain different
          rw [← Field.isPlain_map (Closure.mk · bindings)] at isPlain
          rw [← Field.sourceKey?_map (Closure.mk · bindings)] at different
          obtain ⟨elsewhere, changed⟩ := entry_of_ne isPlain.1 different.1 rule
          obtain ⟨restElsewhere, restChanged⟩ :=
            inductionHypothesis isPlain.2 different.2 rules
          rw [List.flatMap_cons]
          refine ⟨List.forall_mem_append.mpr ⟨elsewhere, restElsewhere⟩, ?_⟩
          intro walked replacement
          obtain ⟨other, otherRule, same⟩ := changed walked replacement
          obtain ⟨others, otherRules, restSame⟩ := restChanged walked replacement
          refine ⟨other :: others, .cons otherRule otherRules, ?_⟩
          rw [List.flatMap_cons, List.map_append, same, restSame]

private theorem elements_of_ne {closure : Closure} {items : List (Value × Nat)}
    {outcomes : List (Outcome Value)} {position : Nat}
    (different : ∀ item ∈ items, item.2 ≠ position)
    (elements : List.Forall₂ (fun (item : Value × Nat) outcome =>
      Yields definitions closure (path.pushIndex item.2) item.1 outcome) items outcomes) :
    (∀ fault ∈ outcomes.flatMap Outcome.faults, ¬ fault.path.Continues (path.pushIndex position)) ∧
      ∀ walked replacement, (outcomes.flatMap Outcome.faults).map
        (Fault.revise (path.pushIndex position ++ walked) replacement) =
          outcomes.flatMap Outcome.faults := by
  induction elements with
  | nil => exact ⟨by simp, fun _ _ => rfl⟩
  | cons nested _ inductionHypothesis =>
      rw [List.forall_mem_cons] at different
      have otherSegment := fun same => different.1 (Segment.index.inj same)
      obtain ⟨restElsewhere, restSame⟩ := inductionHypothesis different.2
      rw [List.flatMap_cons]
      constructor
      · exact List.forall_mem_append.mpr ⟨not_continues_of_ne nested otherSegment, restElsewhere⟩
      · intro walked replacement
        have same := revise_of_ne nested otherSegment walked replacement
        rw [List.map_append, restSame]
        exact congrArg (· ++ _) same

private theorem given?_of_isPlain {presence : Presence}
    (isPlain : presence = .strict ∨ presence = .option) (object : Value) (key : String) :
    (presence.resolve object key).value.given? = object.get? key := by
  rcases isPlain with rfl | rfl
  · exact Presence.given?_strict object key
  · exact Presence.given?_option object key

private theorem exists_inner_of_entry {presence : Presence} {outputKey : String}
    {closure : Closure} {given : Value} {result : Outcome (String × Value)}
    (isPlain : presence = .strict ∨ presence = .option) (found : value.get? key = some given)
    (rule : EntryRule (Yields definitions) path value (.read key outputKey presence closure)
      result) :
    ∃ inner, Yields definitions closure (path.pushField key) given inner ∧
      result.faults = inner.faults := by
  have asked := (given?_of_isPlain isPlain value key).trans found
  cases rule with
  | missing resolved | skipped resolved =>
      rw [resolved] at asked
      contradiction
  | plain resolved nested =>
      rw [resolved] at asked
      cases asked
      exact ⟨_, nested, Outcome.faults_map _ _⟩
  | optional resolved nested =>
      rw [resolved] at asked
      cases asked
      exact ⟨_, nested, by simp only [Outcome.faults_map]⟩

private theorem exists_entry_of_inner {presence : Presence} {closure : Closure} {given : Value}
    {inner : Outcome Value} (outputKey : String)
    (isPlain : presence = .strict ∨ presence = .option) (found : value.get? key = some given)
    (nested : Yields definitions closure (path.pushField key) given inner) :
    ∃ result, EntryRule (Yields definitions) path value (.read key outputKey presence closure)
      result ∧ result.faults = inner.faults := by
  rcases isPlain with rfl | rfl
  · exact ⟨_, .plain (by simp [Presence.resolve, found]) nested, by simp⟩
  · exact ⟨_, .optional (by simp [Presence.resolve, found]) nested, by simp⟩

private theorem sourceKey?_ne {front back : List (Field Schema)} {outputKey : String}
    {presence : Presence} {part : Schema}
    (distinct : ((front ++ .read key outputKey presence part :: back).filterMap
      Field.sourceKey?).Nodup) :
    ∀ field ∈ front ++ back, field.sourceKey? ≠ some key := by
  intro field member same
  have isKey : (Field.read key outputKey presence part).sourceKey? = some key := rfl
  rw [List.filterMap_append, List.filterMap_cons_some isKey] at distinct
  apply (List.nodup_middle.mp distinct).notMem
  rw [← List.filterMap_append]
  exact List.mem_filterMap.mpr ⟨field, member, same⟩

/-- One of the fields of an object finds what its nested schema finds, among what the other fields
find. -/
private theorem object_surrounds {fields : List (Field Schema)} {bindings : Bindings}
    {part : Schema} {outputKey : String} {presence : Presence} {given : Value}
    {results : List (Outcome (String × Value))} (inPlace : (Schema.object fields).InPlace)
    (written : .read key outputKey presence part ∈ fields)
    (asked : (presence.resolve value key).value.given? = some given)
    (entries : List.Forall₂ (EntryRule (Yields definitions) path value)
      (fields.map (Field.map (Closure.mk · bindings))) results) :
    ∃ before inner later,
      Yields definitions ⟨part, bindings⟩ (path.pushField key) given inner ∧
      (gather results).faults = before ++ inner.faults ++ later ∧
      (∀ fault ∈ before ++ later, ¬ fault.path.Continues (path.pushField key)) ∧
      ∀ walked replacement, replacement ≠ .null →
        Surrounds definitions
          (before.map (Fault.revise (path.pushField key ++ walked) replacement))
          (later.map (Fault.revise (path.pushField key ++ walked) replacement))
          ⟨.object fields, bindings⟩ path (value.replaceAt (.ofField key ++ walked) replacement)
          ⟨part, bindings⟩ (path.pushField key) (given.replaceAt walked replacement) := by
  obtain ⟨distinct, isPlain⟩ := inPlace
  obtain ⟨front, back, rfl⟩ := List.append_of_mem written
  have partPlain : presence = .strict ∨ presence = .option := isPlain _ written
  have found := (given?_of_isPlain partPlain value key).symm.trans asked
  have givenIsSet := (Value.get?_eq_some_iff.mp found).2
  have others := sourceKey?_ne distinct
  rw [List.forall_mem_append] at others
  rw [List.forall_mem_append, List.forall_mem_cons] at isPlain
  rw [List.map_append, List.map_cons] at entries
  obtain ⟨before, result, later, rfl, inFront, here, inBack⟩ :=
    exists_of_forall₂_append_cons entries
  obtain ⟨inner, nested, same⟩ := exists_inner_of_entry partPlain found here
  obtain ⟨frontElsewhere, frontChanged⟩ := entries_of_ne isPlain.1 others.1 inFront
  obtain ⟨backElsewhere, backChanged⟩ := entries_of_ne isPlain.2.2 others.2 inBack
  refine ⟨before.flatMap Outcome.faults, inner, later.flatMap Outcome.faults, nested, ?_,
    List.forall_mem_append.mpr ⟨frontElsewhere, backElsewhere⟩, ?_⟩
  · rw [faults_gather, List.flatMap_append, List.flatMap_cons, same, List.append_assoc]
  · intro walked replacement isSet
    have changedIsSet : given.replaceAt walked replacement ≠ .null :=
      Value.replaceAt_ne_null givenIsSet isSet
    have isGiven := Value.get?_replaceAt found changedIsSet
    constructor
    · intro changed yields
      obtain ⟨frontResults, frontEntries, frontSame⟩ := frontChanged walked replacement
      obtain ⟨backResults, backEntries, backSame⟩ := backChanged walked replacement
      obtain ⟨changedResult, entry, changedSame⟩ :=
        exists_entry_of_inner outputKey partPlain isGiven yields
      refine ⟨gather (frontResults ++ changedResult :: backResults), .of_rule (.object ?_), ?_⟩
      · rw [List.map_append, List.map_cons]
        exact forall₂_append_cons frontEntries entry backEntries
      rw [faults_gather, List.flatMap_append, List.flatMap_cons, frontSame, changedSame,
        backSame, List.append_assoc]
    · intro outcome yields
      cases yields.rule with
      | object changedEntries =>
          rw [List.map_append, List.map_cons] at changedEntries
          obtain ⟨_, _, _, _, _, entry, _⟩ := exists_of_forall₂_append_cons changedEntries
          obtain ⟨changed, yields, _⟩ := exists_inner_of_entry partPlain isGiven entry
          exact ⟨changed, yields⟩
      | delegate delegates => contradiction

private theorem array_surrounds {element : Schema} {bindings : Bindings} {items : List Value}
    {position : Nat} {given : Value} {outcomes : List (Outcome Value)}
    (found : items[position]? = some given)
    (elements : List.Forall₂ (fun (item : Value × Nat) outcome =>
      Yields definitions ⟨element, bindings⟩ (path.pushIndex item.2) item.1 outcome)
      items.zipIdx outcomes) :
    ∃ before inner later,
      Yields definitions ⟨element, bindings⟩ (path.pushIndex position) given inner ∧
      (Outcome.consolidate outcomes).faults = before ++ inner.faults ++ later ∧
      (∀ fault ∈ before ++ later, ¬ fault.path.Continues (path.pushIndex position)) ∧
      ∀ walked replacement,
        Surrounds definitions
          (before.map (Fault.revise (path.pushIndex position ++ walked) replacement))
          (later.map (Fault.revise (path.pushIndex position ++ walked) replacement))
          ⟨.array element, bindings⟩ path
          ((Value.array items).replaceAt (Path.root.pushIndex position ++ walked) replacement)
          ⟨element, bindings⟩ (path.pushIndex position) (given.replaceAt walked replacement) := by
  obtain ⟨inRange, isGiven⟩ := List.getElem?_eq_some_iff.mp found
  obtain ⟨front, back, split, length, _⟩ := @List.exists_of_set _ _ given _ inRange
  rw [isGiven] at split
  subst split length
  rw [List.zipIdx_append, List.zipIdx_cons, Nat.zero_add] at elements
  obtain ⟨before, inner, later, rfl, inFront, here, inBack⟩ :=
    exists_of_forall₂_append_cons elements
  have frontOthers : ∀ item ∈ front.zipIdx, item.2 ≠ front.length := by
    intro item member
    have bound := List.snd_lt_of_mem_zipIdx member
    omega
  have backOthers : ∀ item ∈ back.zipIdx (front.length + 1), item.2 ≠ front.length := by
    intro item member
    have bound := List.le_snd_of_mem_zipIdx member
    omega
  obtain ⟨frontElsewhere, frontSame⟩ := elements_of_ne frontOthers inFront
  obtain ⟨backElsewhere, backSame⟩ := elements_of_ne backOthers inBack
  refine ⟨before.flatMap Outcome.faults, inner, later.flatMap Outcome.faults, here, ?_,
    List.forall_mem_append.mpr ⟨frontElsewhere, backElsewhere⟩, ?_⟩
  · rw [Outcome.faults_consolidate, List.flatMap_append, List.flatMap_cons, List.append_assoc]
  · intro walked replacement
    have replaced : (front ++ given :: back).modify front.length (·.replaceAt walked replacement) =
        front ++ given.replaceAt walked replacement :: back := by
      simp [List.modify_eq_take_cons_drop]
    rw [Value.replaceAt_index, replaced, frontSame, backSame]
    constructor
    · intro changed yields
      refine ⟨(Outcome.consolidate (before ++ changed :: later)).map .array,
        .of_rule (.array ?_), ?_⟩
      · rw [List.zipIdx_append, List.zipIdx_cons, Nat.zero_add]
        exact forall₂_append_cons inFront yields inBack
      · rw [Outcome.faults_map, Outcome.faults_consolidate, List.flatMap_append,
          List.flatMap_cons, List.append_assoc]
    · intro outcome yields
      cases yields.rule with
      | array changedElements =>
          rw [List.zipIdx_append, List.zipIdx_cons, Nat.zero_add] at changedElements
          obtain ⟨_, changed, _, _, _, yields, _⟩ := exists_of_forall₂_append_cons changedElements
          exact ⟨changed, yields⟩
      | notArray other => contradiction
      | delegate delegates => contradiction

end

end Semantics

section

variable {definitions : Definitions} {closure next last : Closure} {value given found : Value}
  {path step place : Path} {outcome : Outcome Value}

/-- What a visit finds is found among what is found elsewhere, and what is found elsewhere is found
again after a change of what the visit is given. -/
theorem Visits.surrounds (visits : Visits definitions closure value step next given)
    (inPlace : closure.schema.InPlace) (yields : Yields definitions closure path value outcome) :
    ∃ before inner later, Yields definitions next (path ++ step) given inner ∧
      outcome.faults = before ++ inner.faults ++ later ∧
      (∀ fault ∈ before ++ later, ¬ fault.path.Continues (path ++ step)) ∧
      ∀ walked replacement, replacement ≠ .null →
        Surrounds definitions
          (before.map (Fault.revise (path ++ step ++ walked) replacement))
          (later.map (Fault.revise (path ++ step ++ walked) replacement))
          closure path (value.replaceAt (step ++ walked) replacement)
          next (path ++ step) (given.replaceAt walked replacement) := by
  cases visits with
  | field reads written asked =>
      cases reads with
      | closed => exact inPlace.elim
      | object =>
          cases yields.rule with
          | object entries => exact Semantics.object_surrounds inPlace written asked entries
          | delegate delegates => contradiction
  | item found =>
      cases yields.rule with
      | array elements =>
          rw [Outcome.faults_map]
          obtain ⟨before, inner, later, nested, same, elsewhere, surrounds⟩ :=
            Semantics.array_surrounds found elements
          exact ⟨before, inner, later, nested, same, elsewhere,
            fun walked replacement _ => surrounds walked replacement⟩
      | notArray other => contradiction
      | delegate delegates => contradiction
  | alternative | member | branch | supplied => exact inPlace.elim
  | delegate delegates =>
      rw [Path.append_root]
      refine ⟨[], outcome, [], yields.rule.of_delegate delegates, by simp, by simp, ?_⟩
      intro walked replacement _
      constructor
      · intro inner nested
        exact ⟨inner, .of_rule (.delegate delegates nested), by simp⟩
      · intro changed nested
        exact ⟨changed, nested.rule.of_delegate delegates⟩

/-- What is found at a place that is reached stands together among what is found, and what is found
elsewhere is found again after a change at the place. -/
theorem Reaches.surrounds (reaches : Reaches definitions closure value place last found)
    (inPlace : closure.Throughout Schema.InPlace)
    (definitionsInPlace : definitions.Throughout Schema.InPlace)
    (yields : Yields definitions closure path value outcome) :
    ∃ before block later, outcome.faults = before ++ block ++ later ∧
      (∀ fault ∈ block, fault.path.Continues (path ++ place)) ∧
      (∀ fault ∈ before ++ later, ¬ fault.path.Continues (path ++ place)) ∧
      ∀ replacement, replacement ≠ .null →
        Surrounds definitions
          (before.map (Fault.revise (path ++ place) replacement))
          (later.map (Fault.revise (path ++ place) replacement))
          closure path (value.replaceAt place replacement) last (path ++ place) replacement := by
  induction reaches generalizing path outcome with
  | here closure value =>
      rw [Path.append_root]
      refine ⟨[], outcome.faults, [], by simp, ?_, by simp, fun replacement _ => ?_⟩
      · exact fun _ member => yields.continues member
      · rw [Value.replaceAt_root]
        exact .refl
  | @further closure next last value given found step walked visits _ inductionHypothesis =>
      obtain ⟨outerBefore, inner, outerLater, nested, outerSplit, outerElsewhere, outer⟩ :=
        visits.surrounds inPlace.schema.here yields
      have nextInPlace := inPlace.leads (fun _ => trivial) definitionsInPlace visits.leads
      obtain ⟨before, block, later, split, below, elsewhere, surrounds⟩ :=
        inductionHypothesis nextInPlace nested
      rw [← Path.append_assoc]
      refine ⟨outerBefore ++ before, block, later ++ outerLater, ?_, below, ?_, ?_⟩
      · rw [outerSplit, split]
        simp only [List.append_assoc]
      · intro fault member continues
        have further := (Path.continues_append (path ++ step) walked).trans continues
        have isOuter := mt (outerElsewhere fault) (not_not_intro further)
        have isInner := mt (elsewhere fault) (not_not_intro continues)
        simp only [List.mem_append] at member isOuter isInner
        tauto
      · intro replacement isSet
        have both := (outer walked replacement isSet).trans (surrounds replacement isSet)
        rw [List.map_append, List.map_append]
        exact both

end

/-! ## Sessions -/

theorem Outcome.succeeds_iff_faults_eq_nil {α : Type} (outcome : Outcome α) :
    outcome.Succeeds ↔ outcome.faults = [] := by
  cases outcome with
  | ok value => simp
  | error faults => simp [Faults.toList]

namespace Session

/-- Asked to extract by a node, a session ends with an outcome if its bound on nesting is large
enough. -/
def EndsWith (session : Session) (node : Node) (path : Path) (value : Value)
    (outcome : Outcome Value) : Prop :=
  ∃ limit after, session.run (Extraction.extract session.definitions limit node path value) =
    some (outcome, after)

section

variable {definitions : Definitions} {schema : Schema} {session : Session} {node : Node}
  {path place : Path} {value found : Value} {outcome : Outcome Value}

/-- A session ends with what extraction means. -/
theorem Sound.endsWith_iff (sound : session.Sound definitions schema)
    (steady : schema.Throughout Schema.Steady)
    (definitionsSteady : definitions.Throughout Schema.Steady)
    (stands : node.Stands definitions schema) :
    session.EndsWith node path value outcome ↔
      Yields definitions node.closure path value outcome := by
  refine exists_congr fun limit => ?_
  rw [← extract_ends_iff steady definitionsSteady sound.memory_sound stands,
    sound.definitions_eq]
  constructor
  · rintro ⟨after, ends⟩
    rcases Option.map_eq_some_iff.mp ends with ⟨⟨_, memory⟩, ran, same⟩
    cases same
    exact ⟨memory, ran⟩
  · rintro ⟨memory, ran⟩
    exact ⟨_, Option.map_eq_some_iff.mpr ⟨_, ran, rfl⟩⟩

/-- A change at a place that an extraction reaches changes the faults found there and below,
which stand together; all others stay, in order. -/
theorem faults_replaceAt (inPlace : schema.Throughout Schema.InPlace)
    (definitionsInPlace : definitions.Throughout Schema.InPlace)
    (reachable : session.Reachable definitions schema)
    (ends : session.EndsWith session.root path value outcome)
    (stands : node.Stands definitions schema)
    (reaches : Reaches definitions ⟨schema, []⟩ value place node.closure found) :
    ∃ before block later, outcome.faults = before ++ block ++ later ∧
      (∀ fault ∈ block, fault.path.Continues (path ++ place)) ∧
      (∀ fault ∈ before ++ later, ¬ fault.path.Continues (path ++ place)) ∧
      ∀ replacement, replacement ≠ .null →
        ∀ other : Session, other.Reachable definitions schema →
          ((∃ changed, other.EndsWith other.root path (value.replaceAt place replacement)
            changed) ↔
            ∃ inner, other.EndsWith node (path ++ place) replacement inner) ∧
          ∀ changed inner,
            other.EndsWith other.root path (value.replaceAt place replacement) changed →
            other.EndsWith node (path ++ place) replacement inner →
            changed.faults = before.map (Fault.revise (path ++ place) replacement) ++
              inner.faults ++ later.map (Fault.revise (path ++ place) replacement) ∧
            (changed.Succeeds ↔ before ++ inner.faults ++ later = []) := by
  have steady : schema.Throughout Schema.Steady := fun part isPart => (inPlace part isPart).steady
  have definitionsSteady : definitions.Throughout Schema.Steady :=
    fun definition member part isPart => (definitionsInPlace definition member part isPart).steady
  have rootStands := Node.stands_root definitions schema
  have sound := reachable.staysSound
  rw [sound.root_eq, sound.endsWith_iff steady definitionsSteady rootStands] at ends
  have throughout : Closure.Throughout Schema.InPlace ⟨schema, []⟩ := ⟨inPlace, by simp⟩
  obtain ⟨before, block, later, split, below, elsewhere, surrounds⟩ :=
    reaches.surrounds throughout definitionsInPlace ends
  refine ⟨before, block, later, split, below, elsewhere, ?_⟩
  intro replacement isSet other otherReachable
  obtain ⟨outward, inward⟩ := surrounds replacement isSet
  have otherSound := otherReachable.staysSound
  simp only [otherSound.root_eq, otherSound.endsWith_iff steady definitionsSteady rootStands,
    otherSound.endsWith_iff steady definitionsSteady stands]
  constructor
  · constructor
    · rintro ⟨changed, yields⟩
      exact inward yields
    · rintro ⟨inner, yields⟩
      obtain ⟨changed, changedYields, _⟩ := outward yields
      exact ⟨changed, changedYields⟩
  · intro changed inner changedYields innerYields
    obtain ⟨outcome, outcomeYields, faults⟩ := outward innerYields
    have same := Yields.unique steady definitionsSteady rootStands outcomeYields changedYields
    rw [Outcome.succeeds_iff_faults_eq_nil, ← same, faults]
    exact ⟨rfl, by simp⟩

end

/-- A menu has a title, and it may have entries, which are menus. -/
def menuBody : Schema :=
  .object [.strictString "title", .optionOf "entries" (.array (.self "menu"))]

/-- Menus, however deep. -/
def menu : Schema :=
  .recursive "menu" menuBody

/-- The handle for a menu among the entries of a menu. -/
def menuEntry : Node :=
  ⟨.self "menu", [0, 1, 0], [⟨"menu", menuBody, [0]⟩]⟩

/-- A menu without a title.  The first of its entries has a title that is none, and the others have
no title. -/
def untitledMenu : Value :=
  .object [("entries", .array [.object [("title", .bool true)], .object [], .string "c"])]

theorem inPlace_menu : menu.Throughout Schema.InPlace := by
  have title : Schema.string.Throughout Schema.InPlace :=
    Schema.throughout_iff.mpr ⟨trivial, by simp [Schema.string, Schema.typed, Schema.nested]⟩
  have handle : (Schema.self "menu").Throughout Schema.InPlace :=
    Schema.throughout_iff.mpr ⟨trivial, by simp [Schema.nested]⟩
  have entries : (Schema.array (.self "menu")).Throughout Schema.InPlace :=
    Schema.throughout_iff.mpr ⟨trivial, List.forall_mem_singleton.mpr handle⟩
  have body : menuBody.InPlace :=
    ⟨by decide, List.forall_mem_cons.mpr ⟨.inl rfl, List.forall_mem_singleton.mpr (.inr rfl)⟩⟩
  refine Schema.throughout_iff.mpr ⟨trivial, List.forall_mem_singleton.mpr ?_⟩
  refine Schema.throughout_iff.mpr ⟨body, List.forall_mem_cons.mpr ⟨title, ?_⟩⟩
  exact List.forall_mem_singleton.mpr entries

theorem reaches_menuEntry :
    Reaches [] ⟨menu, []⟩ untitledMenu ⟨[.field "entries", .index 1]⟩ menuEntry.closure
      (.object []) :=
  .further (.delegate rfl) (.further (.field .object (.tail _ (.head _)) rfl)
    (.further (.item rfl) (.here _ _)))

/-- When the second entry of a menu is given a title, its fault goes, and the other three stay. -/
theorem faults_replaceAt_menu :
    ∃ outcome changed,
      (Session.start [] menu).EndsWith (.root menu) .root untitledMenu outcome ∧
      (Session.start [] menu).EndsWith (.root menu) .root (untitledMenu.replaceAt
        ⟨[.field "entries", .index 1]⟩ (.object [("title", .string "b")])) changed ∧
      outcome.faults.length = 4 ∧ changed.faults.length = 3 ∧
      ∃ before block later, outcome.faults = before ++ block ++ later ∧
        changed.faults =
          before.map (Fault.revise ⟨[.field "entries", .index 1]⟩
            (.object [("title", .string "b")])) ++
          later.map (Fault.revise ⟨[.field "entries", .index 1]⟩
            (.object [("title", .string "b")])) := by
  have ends : (Session.start [] menu).EndsWith (.root menu) .root untitledMenu
      (.error ⟨_, [_, _, _]⟩) := ⟨9, _, rfl⟩
  have changedEnds : (Session.start [] menu).EndsWith (.root menu) .root
      (untitledMenu.replaceAt ⟨[.field "entries", .index 1]⟩ (.object [("title", .string "b")]))
      (.error ⟨_, [_, _]⟩) := ⟨9, _, rfl⟩
  have innerEnds : (Session.start [] menu).EndsWith menuEntry ⟨[.field "entries", .index 1]⟩
      (.object [("title", .string "b")]) (.ok _) := ⟨9, _, rfl⟩
  have stands : menuEntry.Stands [] menu := rfl
  obtain ⟨before, block, later, split, _, _, change⟩ :=
    faults_replaceAt inPlace_menu (by simp [Definitions.Throughout]) ⟨[], .start⟩ ends stands
      reaches_menuEntry
  obtain ⟨same, _⟩ := (change _ (by simp) _ ⟨[], .start⟩).2 _ _ changedEnds innerEnds
  rw [Outcome.faults_ok, List.append_nil] at same
  exact ⟨_, _, ends, changedEnds, rfl, rfl, before, block, later, split, same⟩

end Session

end Extraction
