import Extraction.Proofs.Entries
import Extraction.Proofs.Language
import Extraction.Proofs.Origins
import Extraction.Schema.Fields

/-!
# Object schemas in parts

The fields of an object schema are extracted one after the other, each exactly once, whatever has
become of those before it.  So a list of fields can be cut in two: the first part is run and then
the second, the faults of both are kept in order, and what the second part stores is put after what
the first part has stored.  Cut into single fields, an object schema does what its fields do one by
one.
-/

namespace Extraction

namespace Outcome

variable {α β γ : Type}

/-- Two outcomes as one: their values combined, or else the faults of both in order. -/
def both (combine : α → β → γ) : Outcome α → Outcome β → Outcome γ
  | .ok first, .ok second => .ok (combine first second)
  | .ok _, .error later => .error later
  | .error earlier, .ok _ => .error earlier
  | .error earlier, .error later => .error (earlier.combine later)

/-- The outcome of some fields of an object and then that of others: what the others have stored is
inserted in order, or else the faults of both are kept. -/
def followedBy (former latter : Outcome Value) : Outcome Value :=
  former.both (fun first second => .object (first.entries.insertAll second.entries)) latter

@[simp]
theorem faults_both (combine : α → β → γ) (first : Outcome α) (second : Outcome β) :
    (first.both combine second).faults = first.faults ++ second.faults := by
  cases first <;> cases second <;> simp [both]

@[simp]
theorem succeeds_both (combine : α → β → γ) (first : Outcome α) (second : Outcome β) :
    (first.both combine second).Succeeds ↔ first.Succeeds ∧ second.Succeeds := by
  cases first <;> cases second <;> simp [both]

/-- Siblings may be consolidated in two parts. -/
theorem consolidate_append (first second : List (Outcome α)) :
    consolidate (first ++ second) = (consolidate first).both (· ++ ·) (consolidate second) := by
  induction first with
  | nil => cases second' : consolidate second <;> simp [both, second']
  | cons outcome first inductionHypothesis =>
      rw [List.cons_append, consolidate_cons, consolidate_cons, inductionHypothesis]
      cases outcome <;> cases consolidate first <;> cases consolidate second <;>
        simp [prepend, both, Faults.combine_assoc]

private theorem map_consolidate_append (first second : List (Outcome (String × Value))) :
    (consolidate (first ++ second)).map (fun pairs => Value.object (Entries.ofList pairs)) =
      followedBy ((consolidate first).map fun pairs => Value.object (Entries.ofList pairs))
        ((consolidate second).map fun pairs => Value.object (Entries.ofList pairs)) := by
  rw [consolidate_append]
  cases consolidate first with
  | error earlier => cases consolidate second <;> rfl
  | ok pairs =>
      cases consolidate second with
      | error later => rfl
      | ok further =>
          simp only [Except.map, both, followedBy, Value.entries, Entries.ofList_append]

/-- What becomes of the outcomes of several parts: what is made of the values of all of them, or
else the faults of all of them in order. -/
inductive Gathers (assemble : List α → β) : Outcome β → List (Outcome α) → Prop where
  | ok (values : List α) : Gathers assemble (.ok (assemble values)) (values.map .ok)
  | error {faults : Faults} {outcomes : List (Outcome α)}
      (all : faults.toList = outcomes.flatMap Outcome.faults) :
      Gathers assemble (.error faults) outcomes

/-- To consolidate outcomes is to gather them, with nothing lost and nothing added. -/
theorem gathers_iff {assemble : List α → β} {outcome : Outcome β} {outcomes : List (Outcome α)} :
    Gathers assemble outcome outcomes ↔ (consolidate outcomes).map assemble = outcome := by
  constructor
  · intro gathers
    cases gathers with
    | ok values =>
        rw [consolidate_eq_ok_iff.mpr rfl]
        rfl
    | @error faults _ all =>
        rw [← faults_consolidate] at all
        cases together : consolidate outcomes with
        | ok values =>
            rw [together] at all
            exact absurd all faults.toList_ne_nil
        | error others =>
            rw [together] at all
            rw [Faults.toList_injective all]
            rfl
  · rintro rfl
    cases together : consolidate outcomes with
    | ok values =>
        rw [consolidate_eq_ok_iff.mp together]
        exact .ok values
    | error faults =>
        apply Gathers.error
        rw [← faults_consolidate, together]
        rfl

/-- Gathered outcomes have the faults of all parts in order. -/
theorem Gathers.faults_eq {assemble : List α → β} {outcome : Outcome β}
    {outcomes : List (Outcome α)} (gathers : Gathers assemble outcome outcomes) :
    outcome.faults = outcomes.flatMap faults := by
  cases gathers with
  | error all => exact all
  | ok values =>
      rw [List.flatMap_map]
      exact (List.flatMap_eq_nil_iff.mpr fun _ _ => rfl).symm

theorem faults_foldr_followedBy (outcomes : List (Outcome Value)) :
    (outcomes.foldr followedBy (.ok .emptyObject)).faults = outcomes.flatMap faults := by
  induction outcomes with
  | nil => rfl
  | cons outcome outcomes inductionHypothesis =>
      rw [List.foldr_cons, followedBy, faults_both, inductionHypothesis, List.flatMap_cons]

end Outcome

@[simp]
theorem Run.perform_pure {α : Type} (value : α) : Run.perform (pure value) = pure value := by
  funext memory
  have ends : (Run.perform (pure value)).run memory = some (value, memory.record []) := rfl
  rw [Memory.record_nil] at ends
  exact ends

/-- The entries of two parts of an object, stored one after the other. -/
structure Entries.StoredTogether (former latter together : Entries) : Prop where
  inserted : together = former.insertAll latter
  keys_eq : together.keys =
    former.keys ++ latter.keys.filter (fun key => !former.keys.contains key)
  find?_eq : ∀ key, together.find? key = (latter.find? key).or (former.find? key)

namespace Extractor

variable (extract : Extractor) (path : Path) (value : Value)

/-- Extracts the fields of an object in two parts, the second one whatever has become of the
first. -/
def objectInParts (first second : List (Field Node)) : Run (Outcome Value) := do
  let former ← extract.object path first value
  let latter ← extract.object path second value
  return former.followedBy latter

/-- How an object ends, where its fields end one by one in that way. -/
structure OneByOne (fields : List (Field Node)) (memory after : Memory) (outcome : Outcome Value)
    (outcomes : List (Outcome Value)) : Prop where
  ran : (fields.mapM fun field => extract.object path [field] value).run memory =
    some (outcomes, after)
  faults_eq : outcome.faults = outcomes.flatMap Outcome.faults
  absent : List.Forall₂ (fun field alone => ∀ key outputKey lower,
    field = .read key outputKey .strict lower → value.get? key = none →
      alone = .fail ⟨path.pushField key, .missingStrict key value⟩) fields outcomes

/-- An object is extracted field by field, and in any two parts one after the other. -/
structure Composes : Prop where
  append : ∀ first second : List (Field Node),
    extract.object path (first ++ second) value = extract.objectInParts path value first second
  stored : ∀ (first second : List (Field Node)) (memory between after : Memory)
    (former latter : Value),
    (extract.object path first value).run memory = some (.ok former, between) →
    (extract.object path second value).run between = some (.ok latter, after) →
    ∃ together : Entries,
      (extract.object path (first ++ second) value).run memory =
        some (.ok (.object together), after) ∧
      former.entries.StoredTogether latter.entries together
  read : ∀ (key outputKey : String) (presence : Presence) (lower : Node),
    extract.object path [.read key outputKey presence lower] value = (do
      let outcome ← extract.field presence path value key lower
      return outcome.map fun result => .object [(outputKey, result)])
  generated : ∀ (outputKey : String) (generator : Fallback),
    extract.object path [.state outputKey generator] value = (do
      let result ← Run.perform (generator value)
      return .ok (.object [(outputKey, result)]))
  oneByOne : ∀ (fields : List (Field Node)) (memory after : Memory) (outcome : Outcome Value),
    (extract.object path fields value).run memory = some (outcome, after) →
      ∃ outcomes, extract.OneByOne path value fields memory after outcome outcomes

theorem object_append_eq_inParts (first second : List (Field Node)) :
    extract.object path (first ++ second) value =
      extract.objectInParts path value first second := by
  simp only [objectInParts, Extractor.object, List.mapM_append, bind_assoc, pure_bind,
    Outcome.map_consolidate_append]

/-- A single field that is read is extracted as a field and stored under its output key. -/
theorem object_read (key outputKey : String) (presence : Presence) (lower : Node) :
    extract.object path [.read key outputKey presence lower] value = (do
      let outcome ← extract.field presence path value key lower
      return outcome.map fun result => .object [(outputKey, result)]) := by
  simp only [Extractor.object, List.mapM_cons, List.mapM_nil, Extractor.entry, bind_assoc,
    pure_bind]
  congr 1
  funext outcome
  cases outcome <;> rfl

/-- A single field that is generated takes what the generator makes of the object. -/
theorem object_state (outputKey : String) (generator : Fallback) :
    extract.object path [.state outputKey generator] value = (do
      let result ← Run.perform (generator value)
      return .ok (.object [(outputKey, result)])) := by
  simp only [Extractor.object, List.mapM_cons, List.mapM_nil, Extractor.entry, bind_assoc,
    pure_bind]
  rfl

/-- Fields are run one by one, each once. -/
theorem object_eq_foldr (fields : List (Field Node)) :
    extract.object path fields value = (do
      let outcomes ← fields.mapM fun field => extract.object path [field] value
      return outcomes.foldr Outcome.followedBy (.ok .emptyObject)) := by
  induction fields with
  | nil => rfl
  | cons field fields inductionHypothesis =>
      rw [← List.singleton_append, object_append_eq_inParts, objectInParts, inductionHypothesis]
      simp [List.mapM_cons]

/-- What an object schema stores has distinct keys. -/
theorem object_keys_nodup {fields : List (Field Node)} {memory after : Memory} {result : Value}
    (ends : (extract.object path fields value).run memory = some (.ok result, after)) :
    ∃ entries : Entries, result = .object entries ∧ entries.keys.Nodup := by
  rw [Extractor.object, StateT.run_bind] at ends
  obtain ⟨⟨results, between⟩, _, isStored⟩ := Option.bind_eq_some_iff.mp ends
  rw [StateT.run_pure] at isStored
  have stored := congrArg Prod.fst (Option.some.inj isStored)
  cases together : Outcome.consolidate results with
  | error faults => simp [together, Except.map] at stored
  | ok pairs =>
      simp only [together, Except.map, Except.ok.injEq] at stored
      exact ⟨_, stored.symm, Entries.keys_nodup_ofList pairs⟩

/-- A strict field that is absent gives a single fault and asks nothing of the host. -/
theorem object_absent {key outputKey : String} {lower : Node} (absent : value.get? key = none) :
    extract.object path [.read key outputKey .strict lower] value =
      return Outcome.fail ⟨path.pushField key, .missingStrict key value⟩ := by
  have resolved : Presence.strict.resolve value key = pure .missing := by
    simp [Presence.resolve, absent]
  rw [object_read, Extractor.field, resolved, Run.perform_pure]
  rfl

/-- What two parts have stored is stored together: a key that is repeated keeps its first place and
takes the later value. -/
theorem object_append_ok {first second : List (Field Node)} {memory between after : Memory}
    {former latter : Value}
    (firstEnds : (extract.object path first value).run memory = some (.ok former, between))
    (secondEnds : (extract.object path second value).run between = some (.ok latter, after)) :
    ∃ together : Entries,
      (extract.object path (first ++ second) value).run memory =
        some (.ok (.object together), after) ∧
      former.entries.StoredTogether latter.entries together := by
  obtain ⟨entries, rfl, distinct⟩ := extract.object_keys_nodup path value secondEnds
  refine ⟨former.entries.insertAll entries, ?_, rfl, Entries.keys_insertAll_of_nodup distinct,
    Entries.find?_insertAll distinct⟩
  rw [object_append_eq_inParts, objectInParts, StateT.run_bind, firstEnds]
  exact congrArg (Option.bind · _) secondEnds

/-- Where the fields of an object end, each of them ends after those before it. -/
theorem object_oneByOne {fields : List (Field Node)} {memory after : Memory}
    {outcome : Outcome Value}
    (ends : (extract.object path fields value).run memory = some (outcome, after)) :
    ∃ outcomes, extract.OneByOne path value fields memory after outcome outcomes := by
  rw [object_eq_foldr, StateT.run_bind] at ends
  obtain ⟨⟨outcomes, between⟩, oneByOne, same⟩ := Option.bind_eq_some_iff.mp ends
  cases same
  have each : ∀ field ∈ fields, Run.Ensures (fun _ => True) (extract.object path [field] value)
      fun alone => ∀ key outputKey lower, field = .read key outputKey .strict lower →
        value.get? key = none →
          alone = .fail ⟨path.pushField key, .missingStrict key value⟩ := by
    intro field _ memory _ alone after ends
    constructor
    · rintro key outputKey lower rfl absent
      rw [object_absent extract path value absent] at ends
      cases ends
      rfl
    · trivial
  exact ⟨outcomes, oneByOne, Outcome.faults_foldr_followedBy outcomes,
    (Run.Ensures.mapM each memory trivial outcomes _ oneByOne).1⟩

theorem composes : extract.Composes path value where
  append := extract.object_append_eq_inParts path value
  stored := fun _ _ _ _ _ _ _ => extract.object_append_ok path value
  read := extract.object_read path value
  generated := extract.object_state path value
  oneByOne := fun _ _ _ _ => extract.object_oneByOne path value

end Extractor

theorem Node.fields_append (node : Node) (start : Nat) (first second : List (Field Schema)) :
    node.fields start (first ++ second) =
      node.fields start first ++ node.fields (start + first.length) second := by
  rw [fields_eq_map, fields_eq_map, fields_eq_map, List.zipIdx_append, List.map_append]

/-- Extraction by an object schema is compositional in its fields: whatever becomes of the first
part, the second one is run after it, and the faults of both are kept in order. -/
theorem extract_object_append (definitions : Definitions) (limit : Nat) (path : Path)
    (value : Value) :
    (∀ (first second : List (Field Schema)) (address : Address) (scope : Scope),
      let node : Node := ⟨.object (first ++ second), address, scope⟩
      extract definitions (limit + 1) node path value =
        (extract definitions limit).objectInParts path value (node.fields 0 first)
          (node.fields first.length second)) ∧
    (extract definitions limit).Composes path value ∧
    ∀ former latter : Outcome Value,
      (former.followedBy latter).faults = former.faults ++ latter.faults ∧
      ((former.followedBy latter).Succeeds ↔ former.Succeeds ∧ latter.Succeeds) := by
  refine ⟨?_, (extract definitions limit).composes path value, ?_⟩
  · intro first second address scope node
    have placed : node.fields 0 (first ++ second) =
        node.fields 0 first ++ node.fields first.length second := by
      rw [Node.fields_append, Nat.zero_add]
    rw [← Extractor.object_append_eq_inParts, ← placed]
    rfl
  · intro former latter
    exact ⟨Outcome.faults_both _ former latter, Outcome.succeeds_both _ former latter⟩

/-- Of two strict fields that are both absent, each has its fault, in the order of the fields; a
key that is stored again by a later part keeps its place. -/
theorem extract_object_append_person :
    (∃ outcomes : List (Outcome Value),
      outcomes.flatMap Outcome.faults =
        [⟨.ofField "name", .missingStrict "name" .emptyObject⟩,
          ⟨.ofField "age", .missingStrict "age" .emptyObject⟩] ∧
      outcomes.length = 2) ∧
    ∃ together : Entries,
      ((extract [] 1).object .root ((Node.root .anyValue).fields 0
        [.output "kind" .null, .output "name" .null, .output "kind" (.string "person")])
        .emptyObject).run (.initial []) = some (.ok (.object together), .initial []) ∧
      together.keys = ["kind", "name"] ∧ (together.find? "kind").isSome = true := by
  obtain ⟨_, composes, _⟩ := extract_object_append [] 1 .root .emptyObject
  constructor
  · obtain ⟨outcomes, oneByOne⟩ := composes.oneByOne
      ((Node.root .anyValue).fields 0 [.strictString "name", .strictNumber "age"]) (.initial [])
      (.initial []) _ rfl
    exact ⟨outcomes, oneByOne.faults_eq.symm, oneByOne.absent.length_eq.symm⟩
  · obtain ⟨together, ends, stored⟩ := composes.stored
      ((Node.root .anyValue).fields 0 [.output "kind" .null, .output "name" .null])
      ((Node.root .anyValue).fields 0 [.output "kind" (.string "person")])
      (.initial []) (.initial []) (.initial []) (.object [("kind", .null), ("name", .null)])
      (.object [("kind", .string "person")]) rfl rfl
    exact ⟨together, ends, stored.keys_eq, by rw [stored.find?_eq]; rfl⟩

end Extraction
