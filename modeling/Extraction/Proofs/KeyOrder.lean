import Mathlib.Data.List.Perm.Basic
import Extraction.Proofs.Coupling
import Extraction.Proofs.Origins
import Extraction.Proofs.Reordering

/-!
# The order of keys decides nothing

Where everything that the host supplies keeps the equality up to the order of keys, extraction
keeps it as well.  Two values that differ in the order of keys only are both accepted, with results
that differ in no more than that, or both rejected, with equally many faults of each kind.  The one
exception is a choice by a value that is not a name: it goes by the text of that value, which shows
the order.
-/

namespace Extraction

variable {alike : Callable → Callable → Prop}

/-! ## What the host supplies -/

/-- Two verdicts of a validator: both accept, with results that are equal up to the order of keys,
or both reject. -/
inductive Validator.SameVerdict (alike : Callable → Callable → Prop) :
    Except String Value → Except String Value → Prop where
  | accepted {result other : Value} (same : result.Reordered alike other) :
      SameVerdict alike (.ok result) (.ok other)
  | rejected (message other : String) : SameVerdict alike (.error message) (.error other)

/-- A validator gives the same verdict on values that are equal up to the order of keys. -/
def Validator.Respects (alike : Callable → Callable → Prop) (validator : Validator) : Prop :=
  ∀ value other : Value, value.Reordered alike other →
    SameVerdict alike (validator value).value (validator other).value

/-- A fallback gives the same, up to the order of keys, for objects that are so equal. -/
def Fallback.Respects (alike : Callable → Callable → Prop) (fallback : Fallback) : Prop :=
  ∀ value other : Value, value.Reordered alike other →
    (fallback value).value.Reordered alike (fallback other).value

/-- The fallback of a policy respects the equality up to the order of keys, if it has one. -/
def Presence.Respects (alike : Callable → Callable → Prop) : Presence → Prop
  | strict | option => True
  | defaulted fallback | defaultedOption fallback | merged fallback => fallback.Respects alike

/-- What the host supplies for a field respects the equality up to the order of keys. -/
def Field.Respects {σ : Type} (alike : Callable → Callable → Prop) : Field σ → Prop
  | read _ _ presence _ => presence.Respects alike
  | state _ generator => generator.Respects alike

/-- What the host supplies for a schema itself respects the equality up to the order of keys. -/
def Schema.Respects (alike : Callable → Callable → Prop) : Schema → Prop
  | leaf validator => validator.Respects alike
  | object fields | closed fields => ∀ field ∈ fields, field.Respects alike
  | _ => True

namespace Validator

theorem respects_acceptAny : acceptAny.Respects alike :=
  fun _ _ same => .accepted same

theorem respects_expectType (expected : String) : (expectType expected).Respects alike := by
  intro value other same
  have sameType : value.typeName = other.typeName := by cases same <;> rfl
  simp only [expectType, Traced.value_pure, sameType]
  split
  · exact .accepted same
  · exact .rejected _ _

private theorem sameVerdict_of_text {accepts : String → Bool} {message otherMessage : String}
    {value other : Value} (same : value.Reordered alike other) :
    SameVerdict alike (if value.asString?.any accepts then .ok value else .error message)
      (if other.asString?.any accepts then .ok other else .error otherMessage) := by
  have sameText : value.asString? = other.asString? := by cases same <;> rfl
  rw [sameText]
  split
  · exact .accepted same
  · exact .rejected _ _

theorem respects_stringEnum (choices : List String) : (stringEnum choices).Respects alike := by
  intro value other same
  exact sameVerdict_of_text same

theorem respects_matching (pattern : Pattern) : (matching pattern).Respects alike := by
  intro value other same
  exact sameVerdict_of_text same

end Validator

theorem Fallback.respects_const {value : Value} (same : value.Reordered alike value) :
    (Fallback.const value).Respects alike :=
  fun _ _ _ => same

/-! ## Fields -/

/-- Two fields are resolved in the same way, to values that are equal up to the order of keys. -/
inductive Resolution.Reordered (alike : Callable → Callable → Prop) :
    Resolution → Resolution → Prop where
  | missing : Reordered alike .missing .missing
  | skipped : Reordered alike .skipped .skipped
  | plain {value other : Value} (same : value.Reordered alike other) :
      Reordered alike (.plain value) (.plain other)
  | optional {value other : Value} (same : value.Reordered alike other) :
      Reordered alike (.optional value) (.optional other)

private theorem resolve_defaultedOption {fallback : Fallback} (respects : fallback.Respects alike)
    {object other : Value} (same : object.Reordered alike other) (key : String) :
    Resolution.Reordered alike ((Presence.defaultedOption fallback).resolve object key).value
      ((Presence.defaultedOption fallback).resolve other key).value := by
  have sameKey := same.get? key
  simp only [Presence.resolve]
  generalize object.get? key = found, other.get? key = otherFound at sameKey
  cases sameKey with
  | none => exact .skipped
  | some given =>
      cases given with
      | bool value =>
          cases value with
          | false => exact .optional (.bool false)
          | true => exact .optional (respects object other same)
      | null => exact .optional .null
      | number value => exact .optional (.number value)
      | string value => exact .optional (.string value)
      | array sameLength each => exact .optional (.array sameLength each)
      | object distinct otherDistinct sameKeys each =>
          exact .optional (.object distinct otherDistinct sameKeys each)
      | function callables => exact .optional (.function callables)
      | absent => exact .optional .absent
      | present held => exact .optional (.present held)

theorem Presence.Respects.resolve {presence : Presence} (respects : presence.Respects alike)
    {object other : Value} (same : object.Reordered alike other) (key : String) :
    Resolution.Reordered alike (presence.resolve object key).value
      (presence.resolve other key).value := by
  have sameKey := same.get? key
  cases presence with
  | strict =>
      simp only [Presence.resolve]
      generalize object.get? key = found, other.get? key = otherFound at sameKey
      cases sameKey with
      | none => exact .missing
      | some given => exact .plain given
  | option =>
      simp only [Presence.resolve]
      generalize object.get? key = found, other.get? key = otherFound at sameKey
      cases sameKey with
      | none => exact .skipped
      | some given => exact .optional given
  | defaulted fallback =>
      simp only [Presence.resolve]
      generalize object.get? key = found, other.get? key = otherFound at sameKey
      cases sameKey with
      | none => exact .plain (respects object other same)
      | some given => exact .plain given
  | defaultedOption fallback => exact resolve_defaultedOption respects same key
  | merged base =>
      simp only [Presence.resolve, Traced.value_map]
      generalize object.get? key = found, other.get? key = otherFound at sameKey
      cases sameKey with
      | none =>
          have empty : Value.emptyObject.Reordered alike .emptyObject :=
            .object_of_entries .nil
          exact .plain ((respects object other same).merge empty)
      | some given => exact .plain ((respects object other same).merge given)

theorem Presence.Respects.exists_resolve {presence : Presence} (respects : presence.Respects alike)
    {object other : Value} (same : object.Reordered alike other) {key : String}
    {resolution : Resolution} (resolved : (presence.resolve object key).value = resolution) :
    ∃ otherResolution, (presence.resolve other key).value = otherResolution ∧
      resolution.Reordered alike otherResolution :=
  ⟨_, rfl, resolved ▸ respects.resolve same key⟩

/-! ## Outcomes -/

/-- Two outcomes are similar: both have a value, and the values are related, or both have faults,
as many of each kind. -/
inductive Outcome.Similar {α β : Type} (related : α → β → Prop) :
    Outcome α → Outcome β → Prop where
  | ok {result : α} {other : β} (same : related result other) :
      Similar related (.ok result) (.ok other)
  | error {faults others : Faults}
      (kinds : (faults.toList.map Fault.kind).Perm (others.toList.map Fault.kind)) :
      Similar related (.error faults) (.error others)

namespace Outcome.Similar

variable {α β γ δ : Type} {related : α → β → Prop} {outcome : Outcome α} {other : Outcome β}

theorem fail {fault otherFault : Fault} (sameKind : fault.kind = otherFault.kind) :
    Similar related (Outcome.fail fault) (Outcome.fail otherFault) :=
  .error (by simp [sameKind])

theorem map {final : γ → δ → Prop} (similar : Similar related outcome other) {change : α → γ}
    {otherChange : β → δ} (keeps : ∀ result otherResult, related result otherResult →
      final (change result) (otherChange otherResult)) :
    Similar final (outcome.map change) (other.map otherChange) := by
  cases similar with
  | ok same => exact .ok (keeps _ _ same)
  | error kinds => exact .error kinds

theorem kinds (similar : Similar related outcome other) :
    (outcome.faults.map Fault.kind).Perm (other.faults.map Fault.kind) := by
  cases similar with
  | ok => exact .refl _
  | error kinds => exact kinds

/-- A failure is similar to whatever has as many faults of each kind. -/
theorem of_kinds (fails : ¬ outcome.Succeeds)
    (kinds : (outcome.faults.map Fault.kind).Perm (other.faults.map Fault.kind)) :
    Similar related outcome other := by
  cases outcome with
  | ok result => exact absurd (Outcome.succeeds_ok result) fails
  | error faults =>
      cases other with
      | ok result =>
          have empty := kinds.length_eq
          simp [Faults.toList] at empty
      | error others => exact .error kinds

theorem prepend {outcomes : Outcome (List α)} {others : Outcome (List β)}
    (first : Similar related outcome other)
    (rest : Similar (List.Forall₂ related) outcomes others) :
    Similar (List.Forall₂ related) (outcome.prepend outcomes) (other.prepend others) := by
  cases first with
  | ok same =>
      cases rest with
      | ok all => exact .ok (.cons same all)
      | error later => exact .error later
  | error earlier =>
      cases rest with
      | ok => exact .error earlier
      | error later =>
          apply Similar.error
          simpa using earlier.append later

/-- Siblings that are similar one by one are similar together. -/
theorem consolidate {outcomes : List (Outcome α)} {others : List (Outcome β)}
    (each : List.Forall₂ (Similar related) outcomes others) :
    Similar (List.Forall₂ related) (Outcome.consolidate outcomes)
      (Outcome.consolidate others) := by
  induction each with
  | nil => exact .ok .nil
  | cons first _ inductionHypothesis => exact first.prepend inductionHypothesis

/-- Similar failures have equally many faults, also of each kind. -/
theorem length_eq {faults others : Faults}
    (similar : Similar related (.error faults : Outcome α) (.error others)) :
    faults.length = others.length ∧
      ∀ kind, (faults.ofKind kind).length = (others.ofKind kind).length := by
  cases similar with
  | error kinds =>
      constructor
      · simpa [Faults.length] using kinds.length_eq
      · intro kind
        have count (list : List Fault) : (list.filter fun fault => fault.kind == kind).length =
            (list.map Fault.kind).count kind := by
          rw [← List.countP_eq_length_filter, List.count, List.countP_map]
          rfl
        rw [Faults.ofKind, Faults.ofKind, count, count, kinds.count_eq]

end Outcome.Similar

/-! ## Rules -/

namespace Semantics

variable {yields otherYields : Judgement} {path : Path} {value other : Value}

/-- What a closure yields for a value, it yields up to the order of keys for another one. -/
def Carries (alike : Callable → Callable → Prop) (yields otherYields : Judgement)
    (closure : Closure) : Prop :=
  ∀ (path : Path) (value other : Value) (outcome : Outcome Value), value.Reordered alike other →
    yields closure path value outcome → ∃ otherOutcome,
      otherYields closure path other otherOutcome ∧
        Outcome.Similar (Value.Reordered alike) outcome otherOutcome

private theorem EntryRule.reordered {field : Field Closure} {result : Outcome (String × Value)}
    (respects : field.Respects alike)
    (carries : ∀ closure, field.schema? = some closure → Carries alike yields otherYields closure)
    (same : value.Reordered alike other) (rule : EntryRule yields path value field result) :
    ∃ otherResult, EntryRule otherYields path other field otherResult ∧
      Outcome.Similar (Entries.SamePlace (Value.Reordered alike)) result otherResult := by
  cases rule with
  | state => exact ⟨_, .state, .ok ⟨rfl, respects value other same⟩⟩
  | missing resolved =>
      obtain ⟨_, otherResolved, resolution⟩ := respects.exists_resolve same resolved
      cases resolution
      exact ⟨_, .missing otherResolved, .fail rfl⟩
  | skipped resolved =>
      obtain ⟨_, otherResolved, resolution⟩ := respects.exists_resolve same resolved
      cases resolution
      exact ⟨_, .skipped otherResolved, .ok ⟨rfl, .absent⟩⟩
  | @plain _ _ _ closure _ _ resolved nested =>
      obtain ⟨_, otherResolved, resolution⟩ := respects.exists_resolve same resolved
      cases resolution with
      | plain sameGiven =>
          obtain ⟨otherOutcome, holds, similar⟩ :=
            carries closure rfl _ _ _ _ sameGiven nested
          exact ⟨_, .plain otherResolved holds, similar.map fun _ _ same => ⟨rfl, same⟩⟩
  | @optional _ _ _ closure _ outcome resolved nested =>
      obtain ⟨_, otherResolved, resolution⟩ := respects.exists_resolve same resolved
      cases resolution with
      | optional sameGiven =>
          obtain ⟨otherOutcome, holds, similar⟩ :=
            carries closure rfl _ _ _ _ sameGiven nested
          have present : Outcome.Similar (Value.Reordered alike) (outcome.map Value.present)
              (otherOutcome.map Value.present) := similar.map fun _ _ same => .present same
          exact ⟨_, .optional otherResolved holds, present.map fun _ _ same => ⟨rfl, same⟩⟩

private theorem entries_reordered {fields : List (Field Closure)}
    {results : List (Outcome (String × Value))} (respects : ∀ field ∈ fields, field.Respects alike)
    (carries : ∀ field ∈ fields, ∀ closure, field.schema? = some closure →
      Carries alike yields otherYields closure)
    (same : value.Reordered alike other)
    (entries : List.Forall₂ (EntryRule yields path value) fields results) :
    ∃ others, List.Forall₂ (EntryRule otherYields path other) fields others ∧
      List.Forall₂ (Outcome.Similar (Entries.SamePlace (Value.Reordered alike))) results
        others := by
  induction entries with
  | nil => exact ⟨[], .nil, .nil⟩
  | cons rule _ inductionHypothesis =>
      rw [List.forall_mem_cons] at respects carries
      obtain ⟨first, firstRule, firstSimilar⟩ := rule.reordered respects.1 carries.1 same
      obtain ⟨others, rules, similar⟩ := inductionHypothesis respects.2 carries.2
      exact ⟨first :: others, .cons firstRule rules, .cons firstSimilar similar⟩

private theorem gather_similar {results others : List (Outcome (String × Value))}
    (each : List.Forall₂ (Outcome.Similar (Entries.SamePlace (Value.Reordered alike)))
      results others) :
    Outcome.Similar (Value.Reordered alike) (gather results) (gather others) :=
  (Outcome.Similar.consolidate each).map fun _ _ pairs =>
    .object_of_entries (.ofList pairs)

private theorem AlternativesRule.reordered {holds otherHolds : Closure → Outcome Value → Prop}
    {earlier otherEarlier : List Fault} {closures : List Closure} {outcome : Outcome Value}
    (carries : ∀ closure ∈ closures, ∀ outcome, holds closure outcome → ∃ otherOutcome,
      otherHolds closure otherOutcome ∧
        Outcome.Similar (Value.Reordered alike) outcome otherOutcome)
    (kinds : (earlier.map Fault.kind).Perm (otherEarlier.map Fault.kind))
    (tried : AlternativesRule holds earlier closures outcome) :
    ∃ otherOutcome, AlternativesRule otherHolds otherEarlier closures otherOutcome ∧
      Outcome.Similar (Value.Reordered alike) outcome otherOutcome := by
  induction tried generalizing otherEarlier with
  | none =>
      have empty : otherEarlier = [] := by simpa using kinds
      subst empty
      exact ⟨_, .none, .ok (.array rfl (by simp))⟩
  | exhausted collected =>
      rw [Faults.ofList?_eq_some_iff] at collected
      subst collected
      cases otherCollected : Faults.ofList? otherEarlier with
      | none =>
          cases otherEarlier with
          | nil => simp [Faults.toList] at kinds
          | cons => contradiction
      | some others =>
          have sameKinds := Faults.ofList?_eq_some_iff.mp otherCollected
          subst sameKinds
          exact ⟨_, .exhausted otherCollected, .error kinds⟩
  | success first =>
      obtain ⟨otherOutcome, otherFirst, similar⟩ := carries _ (.head _) _ first
      cases similar with
      | ok same => exact ⟨_, .success otherFirst, .ok same⟩
  | @failure before _ _ faults _ first _ inductionHypothesis =>
      rw [List.forall_mem_cons] at carries
      obtain ⟨otherOutcome, otherFirst, similar⟩ := carries.1 _ first
      cases similar with
      | @error _ others sameKinds =>
          have allKinds : ((before ++ faults.toList).map Fault.kind).Perm
              ((otherEarlier ++ others.toList).map Fault.kind) := by
            rw [List.map_append, List.map_append]
            exact kinds.append sameKinds
          obtain ⟨final, otherRest, sameFinal⟩ := inductionHypothesis carries.2 allKinds
          exact ⟨final, .failure otherFirst otherRest, sameFinal⟩

/-! ## Keys -/

/-- The name that a validator gives to a key, if it accepts the key. -/
def rename? (validator : Validator) (key : String) : Option String :=
  (validator (.string key)).value.toOption.map fun accepted => accepted.asString?.getD key

private theorem keyVerdict_eq_ok_iff {validator : Validator} {key name : String} {position : Nat} :
    keyVerdict validator path (key, position) = .ok name ↔ rename? validator key = some name := by
  unfold keyVerdict rename?
  cases (validator (.string key)).value with
  | error message => simp [Outcome.lift, Outcome.fail, Except.map, Except.toOption]
  | ok accepted => simp [Outcome.lift, Except.map, Except.toOption]

/-- Keys are accepted together if each of them is. -/
theorem keysVerdict_eq_ok_iff {validator : Validator} {keys names : List String} :
    keysVerdict validator path keys = .ok names ↔
      List.Forall₂ (fun key name => rename? validator key = some name) keys names := by
  rw [keysVerdict, Outcome.consolidate_eq_ok_iff, ← List.forall₂_eq_eq_eq,
    List.forall₂_map_left_iff, List.forall₂_map_right_iff]
  generalize 0 = start
  induction keys generalizing start names with
  | nil => simp
  | cons key keys inductionHypothesis =>
      cases names with
      | nil => simp
      | cons name names =>
          rw [List.zipIdx_cons, List.forall₂_cons, List.forall₂_cons, keyVerdict_eq_ok_iff,
            inductionHypothesis]

private theorem kinds_keyVerdict (validator : Validator) (key : String) (position other : Nat) :
    (keyVerdict validator path (key, position)).faults.map Fault.kind =
      (keyVerdict validator path (key, other)).faults.map Fault.kind := by
  unfold keyVerdict
  cases (validator (.string key)).value <;> rfl

private theorem kinds_keysVerdict (validator : Validator) (keys : List String) (position : Nat) :
    (keysVerdict validator path keys).faults.map Fault.kind = keys.flatMap fun key =>
      (keyVerdict validator path (key, position)).faults.map Fault.kind := by
  rw [keysVerdict, Outcome.faults_consolidate, List.flatMap_map, List.map_flatMap]
  generalize 0 = start
  induction keys generalizing start with
  | nil => rfl
  | cons key keys inductionHypothesis =>
      rw [List.zipIdx_cons, List.flatMap_cons, List.flatMap_cons, inductionHypothesis,
        kinds_keyVerdict validator key start position]

private theorem keysVerdict_similar (validator : Validator) (path : Path)
    {keys otherKeys : List String} (sameKeys : keys.Perm otherKeys) :
    Outcome.Similar List.Perm (keysVerdict validator path keys)
      (keysVerdict validator path otherKeys) := by
  cases verdict : keysVerdict validator path keys with
  | ok names =>
      obtain ⟨otherNames, each, sameNames⟩ :=
        List.perm_comp_forall₂ sameKeys.symm (keysVerdict_eq_ok_iff.mp verdict)
      rw [keysVerdict_eq_ok_iff.mpr each]
      exact .ok sameNames.symm
  | error faults =>
      rw [← verdict]
      apply Outcome.Similar.of_kinds
      · simp [verdict]
      · rw [kinds_keysVerdict validator keys 0, kinds_keysVerdict validator otherKeys 0]
        exact sameKeys.flatMap_right _

/-! ## Members -/

private theorem gather_ok (pairs : List (String × Value)) :
    gather (pairs.map .ok) = .ok (.object (Entries.ofList pairs)) := by
  rw [gather, Outcome.consolidate_eq_ok_iff.mpr rfl]
  rfl

private theorem EntryRule.outputKey_eq {field : Field Closure} {pair : String × Value}
    (rule : EntryRule yields path value field (.ok pair)) : pair.1 = field.outputKey := by
  generalize isOk : (Except.ok pair : Outcome (String × Value)) = result at rule
  cases rule with
  | missing => contradiction
  | skipped | state =>
      cases isOk
      rfl
  | @plain _ _ _ _ _ outcome _ _ =>
      cases outcome with
      | error => contradiction
      | ok =>
          cases isOk
          rfl
  | @optional _ _ _ _ _ outcome _ _ =>
      cases outcome with
      | error => contradiction
      | ok =>
          cases isOk
          rfl

private theorem map_fst_eq_of_members {names : List String} {closure : Closure}
    {pairs : List (String × Value)}
    (entries : List.Forall₂ (fun name pair => EntryRule yields path value
      (.read name name .strict closure) (.ok pair)) names pairs) : pairs.map Prod.fst = names := by
  rw [← List.forall₂_eq_eq_eq, List.forall₂_map_left_iff]
  exact entries.flip.imp fun pair name rule => rule.outputKey_eq

/-- Of a name that comes more than once, every member of the other object is given what is like the
result that is stored. -/
private theorem exists_stored {names : List String} {closure : Closure}
    {pairs : List (String × Value)} {name : String}
    (carries : Carries alike yields otherYields closure) (same : value.Reordered alike other)
    (entries : List.Forall₂ (fun name pair => EntryRule yields path value
      (.read name name .strict closure) (.ok pair)) names pairs) (member : name ∈ names) :
    ∃ result held, (Entries.ofList pairs).find? name = some result ∧
      result.Reordered alike held ∧
      EntryRule otherYields path other (.read name name .strict closure) (.ok (name, held)) := by
  cases found : (Entries.ofList pairs).find? name with
  | none =>
      rw [Entries.find?_eq_none_iff, Entries.mem_keys_ofList_iff, map_fst_eq_of_members entries]
        at found
      contradiction
  | some result =>
      obtain ⟨written, _, rule⟩ :=
        exists_of_forall₂_of_mem entries.flip (Entries.mem_of_find?_ofList found)
      cases rule.outputKey_eq
      have nested : ∀ lower, (Field.read name name .strict closure).schema? = some lower →
          Carries alike yields otherYields lower := by
        intro lower inside
        cases inside
        exact carries
      have respects : (Field.read name name .strict closure).Respects alike := trivial
      obtain ⟨otherResult, otherRule, similar⟩ := rule.reordered respects nested same
      cases similar with
      | @ok _ pair samePlace =>
          cases pair with
          | mk key held =>
              obtain ⟨rfl, sameHeld⟩ := samePlace
              exact ⟨result, held, rfl, sameHeld, otherRule⟩

section

variable {names otherNames : List String} {closure : Closure}
  {results : List (Outcome (String × Value))} (sameNames : names.Perm otherNames)
  (carries : Carries alike yields otherYields closure) (same : value.Reordered alike other)

include sameNames carries same

private theorem members_reordered_of_fails
    (entries : List.Forall₂ (EntryRule yields path value)
      (names.map fun name => .read name name .strict closure) results)
    (fails : ¬ (gather results).Succeeds) :
    ∃ others, List.Forall₂ (EntryRule otherYields path other)
        (otherNames.map fun name => .read name name .strict closure) others ∧
      Outcome.Similar (Value.Reordered alike) (gather results) (gather others) := by
  have each : ∀ field ∈ names.map fun name => Field.read name name .strict closure,
      field.Respects alike ∧ ∀ lower, field.schema? = some lower →
        Carries alike yields otherYields lower := by
    intro field member
    obtain ⟨name, _, rfl⟩ := List.mem_map.mp member
    refine ⟨trivial, fun lower inside => ?_⟩
    cases inside
    exact carries
  obtain ⟨others, rules, similar⟩ := entries_reordered (fun field member => (each field member).1)
    (fun field member => (each field member).2) same entries
  rw [List.forall₂_map_left_iff] at rules
  obtain ⟨permuted, otherRules, samePermuted⟩ := List.perm_comp_forall₂ sameNames.symm rules
  refine ⟨permuted, List.forall₂_map_left_iff.mpr otherRules, .of_kinds fails ?_⟩
  apply (gather_similar similar).kinds.trans
  rw [faults_gather, faults_gather]
  exact (samePermuted.symm.flatMap_right Outcome.faults).map Fault.kind

private theorem members_reordered_of_pairs {pairs : List (String × Value)}
    (entries : List.Forall₂ (EntryRule yields path value)
      (names.map fun name => .read name name .strict closure) (pairs.map .ok)) :
    ∃ others, List.Forall₂ (EntryRule otherYields path other)
        (otherNames.map fun name => .read name name .strict closure) others ∧
      Outcome.Similar (Value.Reordered alike) (.ok (.object (Entries.ofList pairs)))
        (gather others) := by
  rw [List.forall₂_map_left_iff, List.forall₂_map_right_iff] at entries
  have keysAre := map_fst_eq_of_members entries
  have stored (name : String) (member : name ∈ names) :=
    exists_stored carries same entries member
  choose! result held found sameHeld rules using stored
  refine ⟨(otherNames.map fun name => (name, held name)).map .ok, ?_, ?_⟩
  · rw [List.map_map, List.forall₂_map_left_iff, List.forall₂_map_right_iff, List.forall₂_same]
    exact fun name member => rules name (sameNames.mem_iff.mpr member)
  · rw [gather_ok]
    apply Outcome.Similar.ok
    apply Value.Reordered.object_of_entries
    refine ⟨Entries.keys_nodup_ofList _, Entries.keys_nodup_ofList _, fun key => ?_⟩
    rw [Entries.find?_ofList_map]
    by_cases member : key ∈ names
    · rw [found key member, if_pos (sameNames.mem_iff.mp member)]
      exact .some (sameHeld key member)
    · have missing : (Entries.ofList pairs).find? key = none := by
        rw [Entries.find?_eq_none_iff, Entries.mem_keys_ofList_iff, keysAre]
        exact member
      rw [missing, if_neg (mt sameNames.mem_iff.mpr member)]
      exact .none

/-- The members of two objects that are equal up to the order of keys make objects that are so
equal, or equally many faults of each kind. -/
private theorem members_reordered
    (entries : List.Forall₂ (EntryRule yields path value)
      (names.map fun name => .read name name .strict closure) results) :
    ∃ others, List.Forall₂ (EntryRule otherYields path other)
        (otherNames.map fun name => .read name name .strict closure) others ∧
      Outcome.Similar (Value.Reordered alike) (gather results) (gather others) := by
  cases collected : Outcome.consolidate results with
  | error faults =>
      apply members_reordered_of_fails sameNames carries same entries
      simp [gather, collected, Except.map]
  | ok pairs =>
      rw [Outcome.consolidate_eq_ok_iff] at collected
      subst collected
      rw [gather_ok]
      exact members_reordered_of_pairs sameNames carries same entries

end

end Semantics

/-! ## Choices -/

/-- Whether a value is neither an array nor an object nor an optional.  Its text shows no order of
keys. -/
def Value.isPlain : Value → Bool
  | .array _ | .object _ | .absent | .present _ => false
  | _ => true

/-- Whether a choice on a value goes by a plain value, if there is one; other schemas choose
nothing. -/
def Schema.choosesPlainly : Schema → Value → Bool
  | .choose key _, value => (value.get? key).all Value.isPlain
  | _, _ => true

namespace Value.Reordered

variable {value other : Value} (same : value.Reordered alike other)

include same

theorem isPlain_eq : value.isPlain = other.isPlain := by
  cases same <;> rfl

theorem choosesPlainly_eq (schema : Schema) :
    schema.choosesPlainly value = schema.choosesPlainly other := by
  cases schema with
  | choose key branches =>
      simp only [Schema.choosesPlainly]
      have sameKey := same.get? key
      generalize value.get? key = found, other.get? key = otherFound at sameKey
      cases sameKey with
      | none => rfl
      | some given => exact given.isPlain_eq
  | _ => rfl

/-- Plain values that are equal up to the order of keys ask for the same branch. -/
theorem branchName_eq (plain : value.isPlain = true) :
    Extractor.branchName value = Extractor.branchName other := by
  cases same with
  | null | bool | number | string | function => rfl
  | array | object | absent | present => contradiction

end Value.Reordered

/-! ## One step -/

namespace Semantics

variable {definitions : Definitions} {yields otherYields : Judgement} {path : Path}
  {value other : Value}

private theorem fields_reordered {fields : List (Field Schema)} {bindings : Bindings}
    {results : List (Outcome (String × Value))} (respects : ∀ field ∈ fields, field.Respects alike)
    (carries : ∀ part ∈ fields.filterMap Field.schema?,
      Carries alike yields otherYields ⟨part, bindings⟩)
    (same : value.Reordered alike other)
    (entries : List.Forall₂ (EntryRule yields path value)
      (fields.map (Field.map (Closure.mk · bindings))) results) :
    ∃ others, List.Forall₂ (EntryRule otherYields path other)
        (fields.map (Field.map (Closure.mk · bindings))) others ∧
      Outcome.Similar (Value.Reordered alike) (gather results) (gather others) := by
  have respectsEach : ∀ field ∈ fields.map (Field.map (Closure.mk · bindings)),
      field.Respects alike := by
    intro field member
    obtain ⟨written, writtenMem, rfl⟩ := List.mem_map.mp member
    have respectsWritten := respects written writtenMem
    cases written <;> exact respectsWritten
  have carriesEach : ∀ field ∈ fields.map (Field.map (Closure.mk · bindings)),
      ∀ closure, field.schema? = some closure → Carries alike yields otherYields closure := by
    intro field member closure inside
    obtain ⟨part, written, rfl⟩ := Schema.exists_part_of_mem_map member inside
    exact carries part written
  obtain ⟨others, rules, similar⟩ := entries_reordered respectsEach carriesEach same entries
  exact ⟨others, rules, gather_similar similar⟩

private theorem elements_reordered {closure : Closure} {items others : List Value}
    {outcomes : List (Outcome Value)} (carries : Carries alike yields otherYields closure)
    (same : List.Forall₂ (Value.Reordered alike) items others)
    (elements : List.Forall₂ (fun (item : Value × Nat) outcome =>
      yields closure (path.pushIndex item.2) item.1 outcome) items.zipIdx outcomes) :
    ∃ otherOutcomes, List.Forall₂ (fun (item : Value × Nat) outcome =>
        otherYields closure (path.pushIndex item.2) item.1 outcome) others.zipIdx otherOutcomes ∧
      List.Forall₂ (Outcome.Similar (Value.Reordered alike)) outcomes otherOutcomes := by
  generalize 0 = start at elements ⊢
  induction same generalizing start outcomes with
  | nil =>
      cases elements
      exact ⟨[], .nil, .nil⟩
  | cons sameItem _ inductionHypothesis =>
      cases elements with
      | cons holds rest =>
          obtain ⟨first, otherHolds, similar⟩ := carries _ _ _ _ sameItem holds
          obtain ⟨later, otherRest, allSimilar⟩ := inductionHypothesis (start + 1) rest
          exact ⟨first :: later, .cons otherHolds otherRest, .cons similar allSimilar⟩

private theorem leaf_reordered {validator : Validator} (respects : validator.Respects alike)
    (same : value.Reordered alike other) :
    Outcome.Similar (Value.Reordered alike) (.lift (validator value).value path)
      (.lift (validator other).value path) := by
  have verdict := respects value other same
  generalize (validator value).value = first, (validator other).value = second at verdict ⊢
  cases verdict with
  | accepted same => exact .ok same
  | rejected => exact .fail rfl

private theorem unsupportedKeys_eq_nil_iff_of_reordered (same : value.Reordered alike other)
    (fields : List (Field Schema)) :
    Extractor.unsupportedKeys (Schema.permittedKeys fields) value = [] ↔
      Extractor.unsupportedKeys (Schema.permittedKeys fields) other = [] := by
  rw [unsupportedKeys_eq_nil_iff, unsupportedKeys_eq_nil_iff]
  exact forall_congr' fun key => by rw [same.setKeys_iff key]

private theorem array_reordered {element : Schema} {bindings : Bindings} {items : List Value}
    {outcomes : List (Outcome Value)}
    (carries : Carries alike yields otherYields ⟨element, bindings⟩)
    (same : (Value.array items).Reordered alike other)
    (elements : List.Forall₂ (fun (item : Value × Nat) outcome =>
      yields ⟨element, bindings⟩ (path.pushIndex item.2) item.1 outcome) items.zipIdx outcomes) :
    ∃ otherOutcome, Rule definitions otherYields ⟨.array element, bindings⟩ path other
        otherOutcome ∧
      Outcome.Similar (Value.Reordered alike) ((Outcome.consolidate outcomes).map .array)
        otherOutcome := by
  cases same with
  | array sameLength each =>
      obtain ⟨otherOutcomes, holds, similar⟩ := elements_reordered carries
        (Value.Reordered.array_iff.mp (.array sameLength each)) elements
      refine ⟨_, .array holds, (Outcome.Similar.consolidate similar).map ?_⟩
      exact fun _ _ same => Value.Reordered.array_iff.mpr same

private theorem oneOf_reordered {alternatives : List Schema} {bindings : Bindings}
    {outcome : Outcome Value}
    (carries : ∀ alternative ∈ alternatives,
      Carries alike yields otherYields ⟨alternative, bindings⟩)
    (same : value.Reordered alike other)
    (tried : AlternativesRule (fun closure outcome => yields closure path value outcome) []
      (alternatives.map (Closure.mk · bindings)) outcome) :
    ∃ otherOutcome, Rule definitions otherYields ⟨.oneOf alternatives, bindings⟩ path other
        otherOutcome ∧ Outcome.Similar (Value.Reordered alike) outcome otherOutcome := by
  have each : ∀ closure ∈ alternatives.map (Closure.mk · bindings), ∀ outcome,
      yields closure path value outcome → ∃ otherOutcome,
        otherYields closure path other otherOutcome ∧
          Outcome.Similar (Value.Reordered alike) outcome otherOutcome :=
    List.forall_mem_map.mpr fun alternative written outcome =>
      carries alternative written path value other outcome same
  obtain ⟨otherOutcome, otherTried, similar⟩ := tried.reordered each (.refl _)
  exact ⟨otherOutcome, .oneOf otherTried, similar⟩

private theorem rejectedKeys_reordered {keys : Validator} {values : Schema} {bindings : Bindings}
    {faults : Faults} (same : value.Reordered alike other)
    (rejected : keysVerdict keys path value.entries.keys = .error faults) :
    ∃ otherOutcome, Rule definitions otherYields ⟨.setOf keys values, bindings⟩ path other
        otherOutcome ∧ Outcome.Similar (Value.Reordered alike) (.error faults) otherOutcome := by
  have verdicts := keysVerdict_similar keys path same.entries.keys_perm
  rw [rejected] at verdicts
  generalize verdict : keysVerdict keys path other.entries.keys = otherVerdict at verdicts
  cases verdicts with
  | error kinds => exact ⟨_, .rejectedKeys verdict, .error kinds⟩

private theorem setOf_reordered {keys : Validator} {values : Schema} {bindings : Bindings}
    {names : List String} {results : List (Outcome (String × Value))}
    (carries : Carries alike yields otherYields ⟨values, bindings⟩)
    (same : value.Reordered alike other)
    (accepted : keysVerdict keys path value.entries.keys = .ok names)
    (entries : List.Forall₂ (EntryRule yields path value)
      (names.map fun name => .read name name .strict ⟨values, bindings⟩) results) :
    ∃ otherOutcome, Rule definitions otherYields ⟨.setOf keys values, bindings⟩ path other
        otherOutcome ∧ Outcome.Similar (Value.Reordered alike) (gather results) otherOutcome := by
  have verdicts := keysVerdict_similar keys path same.entries.keys_perm
  rw [accepted] at verdicts
  generalize verdict : keysVerdict keys path other.entries.keys = otherVerdict at verdicts
  cases verdicts with
  | ok sameNames =>
      obtain ⟨others, rules, similar⟩ := members_reordered sameNames carries same entries
      exact ⟨_, .setOf verdict rules, similar⟩

private theorem exists_branchName_eq {key : String} {branches : List (String × Schema)}
    {chosen : Value} (plain : (Schema.choose key branches).choosesPlainly value = true)
    (same : value.Reordered alike other) (found : value.get? key = some chosen) :
    ∃ otherChosen, other.get? key = some otherChosen ∧
      Extractor.branchName chosen = Extractor.branchName otherChosen := by
  obtain ⟨otherChosen, otherFound, sameChosen⟩ := same.exists_get? found
  have isPlain : chosen.isPlain = true := by simpa [Schema.choosesPlainly, found] using plain
  exact ⟨otherChosen, otherFound, sameChosen.branchName_eq isPlain⟩

/-- One step keeps the equality up to the order of keys, if what the host supplies does, if a
choice goes by a plain value, and if this is so wherever the closure leads. -/
theorem Rule.reordered {closure : Closure} {outcome : Outcome Value}
    (limited : ∀ callable other, alike callable other → ∀ arity retriever,
      alike (.limited callable arity retriever) (.limited other arity retriever))
    (respects : closure.schema.Respects alike)
    (carries : ∀ next, closure.Leads definitions next → Carries alike yields otherYields next)
    (plain : closure.schema.choosesPlainly value = true) (same : value.Reordered alike other)
    (rule : Rule definitions yields closure path value outcome) :
    ∃ otherOutcome, Rule definitions otherYields closure path other otherOutcome ∧
      Outcome.Similar (Value.Reordered alike) outcome otherOutcome := by
  cases rule with
  | leaf => exact ⟨_, .leaf, leaf_reordered respects same⟩
  | object entries =>
      obtain ⟨others, rules, similar⟩ :=
        fields_reordered respects (fun part member => carries _ (.nested member)) same entries
      exact ⟨_, .object rules, similar⟩
  | closed supported entries =>
      obtain ⟨others, rules, similar⟩ :=
        fields_reordered respects (fun part member => carries _ (.nested member)) same entries
      have otherSupported := (unsupportedKeys_eq_nil_iff_of_reordered same _).mp supported
      exact ⟨_, .closed otherSupported rules, similar⟩
  | unsupported found =>
      have otherFound := mt (unsupportedKeys_eq_nil_iff_of_reordered same _).mpr found
      exact ⟨_, .unsupported otherFound, .fail rfl⟩
  | array elements => exact array_reordered (carries _ (.nested (.head _))) same elements
  | notArray isOther =>
      have otherIsOther : other.asArray? = none := by
        cases same <;> first | contradiction | rfl
      exact ⟨_, .notArray otherIsOther, .fail rfl⟩
  | oneOf tried =>
      exact oneOf_reordered (fun alternative written => carries _ (.nested written)) same tried
  | rejectedKeys rejected => exact rejectedKeys_reordered same rejected
  | setOf accepted entries =>
      exact setOf_reordered (carries _ (.nested (.head _))) same accepted entries
  | missingKey missing => exact ⟨_, .missingKey (same.get?_eq_none missing), .fail rfl⟩
  | missingBranch found unknown =>
      obtain ⟨otherChosen, otherFound, sameName⟩ := exists_branchName_eq plain same found
      rw [sameName] at unknown
      exact ⟨_, .missingBranch otherFound unknown, .fail rfl⟩
  | choose found known nested =>
      obtain ⟨otherChosen, otherFound, sameName⟩ := exists_branchName_eq plain same found
      have written := List.mem_map_of_mem (f := Prod.snd) (Schema.branch?_mem known)
      rw [sameName] at known nested
      obtain ⟨otherOutcome, holds, similar⟩ :=
        carries _ (.nested written) _ value other _ same nested
      exact ⟨otherOutcome, .choose otherFound known holds, similar⟩
  | function =>
      cases same with
      | function sameCallable =>
          exact ⟨_, .function, .ok (.function (limited _ _ sameCallable _ _))⟩
  | notFunction isOther =>
      have otherIsOther : other.asFunction? = none := by
        cases same <;> first | contradiction | rfl
      exact ⟨_, .notFunction otherIsOther, .fail rfl⟩
  | unbound missing => exact ⟨_, .unbound missing, .fail rfl⟩
  | released => exact ⟨_, .released, .fail rfl⟩
  | supplied member nested =>
      obtain ⟨otherOutcome, holds, similar⟩ :=
        carries _ (.nested member) path value other outcome same nested
      exact ⟨otherOutcome, .supplied member holds, similar⟩
  | delegate delegates nested =>
      obtain ⟨otherOutcome, holds, similar⟩ :=
        carries _ (.delegate delegates) path value other outcome same nested
      exact ⟨otherOutcome, .delegate delegates holds, similar⟩

end Semantics

end Extraction
