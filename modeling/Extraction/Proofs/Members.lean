import Extraction.Proofs.Composition

/-!
# Objects of like values

An object of like values is extracted in two phases.  First the validator is asked about every key,
in the order of the object, whatever stands under it; if it rejects any, each rejected key has a
fault at its index, and no value is looked at.  Otherwise what stands under each key is extracted,
in the same order: an entry that holds nothing is missing, and the others are extracted by the
schema for the values.
-/

namespace Extraction

/-- The fault of a key at an index, if the key is rejected. -/
def Validator.rejection? (validator : Validator) (path : Path) (entry : String × Nat) :
    Option Fault :=
  match (validator (.string entry.1)).value with
  | .ok _ => none
  | .error message => some (.custom (path.pushIndex entry.2) message)

/-- Extracts what stands under one key of an object of like values; an entry that holds nothing is
missing. -/
def Extractor.member (extract : Extractor) (path : Path) (values : Node) (object : Value)
    (entry : String × Value) : Run (Outcome Value) :=
  if entry.2.isNull then return .fail ⟨path.pushField entry.1, .missingStrict entry.1 object⟩
  else extract values (path.pushField entry.1) entry.2

/-! ## Keys -/

namespace Semantics

variable {validator : Validator} {path : Path}

private theorem faults_keyVerdict (entry : String × Nat) :
    (keyVerdict validator path entry).faults = (validator.rejection? path entry).toList := by
  unfold keyVerdict Validator.rejection?
  cases (validator (.string entry.1)).value <;> rfl

/-- The faults of rejected keys, in order. -/
theorem faults_keysVerdict (validator : Validator) (path : Path) (keys : List String) :
    (keysVerdict validator path keys).faults =
      keys.zipIdx.filterMap (validator.rejection? path) := by
  rw [keysVerdict, Outcome.faults_consolidate, List.flatMap_map, List.filterMap_eq_flatMap_toList]
  simp only [faults_keyVerdict]

/-- Keys that are all accepted go by their own names, if the validator keeps them. -/
theorem keysVerdict_eq_ok {keys : List String} (keeps : validator.KeepsKeys)
    (accepted : ∀ key ∈ keys, ∃ result, (validator (.string key)).value = .ok result) :
    keysVerdict validator path keys = .ok keys := by
  have succeeds : (keysVerdict validator path keys).Succeeds :=
    succeeds_keysVerdict_iff.mpr accepted
  obtain ⟨names, verdict⟩ := succeeds
  rw [verdict, eq_of_keysVerdict keeps verdict]

/-- If a key is rejected, the verdict is a failure. -/
theorem exists_keysVerdict_eq_error {keys : List String} {key message : String}
    (member : key ∈ keys) (rejected : (validator (.string key)).value = .error message) :
    ∃ faults, keysVerdict validator path keys = .error faults := by
  cases verdict : keysVerdict validator path keys with
  | error faults => exact ⟨faults, rfl⟩
  | ok names =>
      have succeeds : (keysVerdict validator path keys).Succeeds := ⟨names, verdict⟩
      obtain ⟨result, accepted⟩ := succeeds_keysVerdict_iff.mp succeeds key member
      rw [rejected] at accepted
      contradiction

end Semantics

/-! ## Members -/

namespace Outcome

private theorem consolidate_zipWith {names : List String} {outcomes : List (Outcome Value)}
    (sameLength : names.length = outcomes.length) :
    consolidate (List.zipWith (fun name outcome => outcome.map (name, ·)) names outcomes) =
      (consolidate outcomes).map names.zip := by
  induction names generalizing outcomes with
  | nil =>
      cases outcomes with
      | nil => rfl
      | cons => contradiction
  | cons name names inductionHypothesis =>
      cases outcomes with
      | nil => contradiction
      | cons outcome outcomes =>
          have restLength : names.length = outcomes.length := Nat.succ.inj sameLength
          rw [List.zipWith_cons_cons, consolidate_cons, consolidate_cons,
            inductionHypothesis restLength]
          cases outcome <;> cases consolidate outcomes <;> rfl

private theorem map_consolidate_zipWith {names : List String} {outcomes : List (Outcome Value)}
    (distinct : names.Nodup) (sameLength : names.length = outcomes.length) :
    (consolidate (List.zipWith (fun name outcome => outcome.map (name, ·)) names outcomes)).map
        (fun pairs => Value.object (Entries.ofList pairs)) =
      (consolidate outcomes).map fun values => .object (names.zip values) := by
  rw [consolidate_zipWith sameLength]
  cases together : consolidate outcomes with
  | error faults => rfl
  | ok values =>
      have valuesLength : names.length = values.length := by
        rw [sameLength, consolidate_eq_ok_iff.mp together, List.length_map]
      have sameKeys : Entries.keys (names.zip values) = names :=
        List.map_fst_zip (Nat.le_of_eq valuesLength)
      rw [Except.map, Except.map, Except.map, Entries.ofList_eq_self (by rwa [sameKeys])]

end Outcome

namespace Extractor

variable (extract : Extractor) (path : Path) (node : Node) {value : Value}

private theorem entry_strict (value : Value) (name : String) :
    extract.entry path value (.read name name .strict node) =
      (fun outcome => outcome.map (name, ·)) <$> extract.field .strict path value name node := by
  simp [Extractor.entry]

private theorem mapM_entry_strict (value : Value) (names : List String) :
    (names.map fun name => Field.read name name .strict node).mapM (extract.entry path value) =
      List.zipWith (fun name outcome => outcome.map (name, ·)) names <$>
        names.mapM fun name => extract.field .strict path value name node := by
  induction names with
  | nil => rfl
  | cons name names inductionHypothesis =>
      have first := entry_strict extract path node value name
      rw [List.map_cons, List.mapM_cons, List.mapM_cons, first, inductionHypothesis]
      simp

/-- Strict fields with distinct names do what reading under the names one by one does, and store
what is read under each. -/
theorem run_object_strict_names_iff (value : Value) {names : List String} (distinct : names.Nodup)
    {memory after : Memory} {outcome : Outcome Value} :
    (extract.object path (names.map fun name => .read name name .strict node) value).run memory =
        some (outcome, after) ↔
      ∃ outcomes, (names.mapM fun name => extract.field .strict path value name node).run memory =
          some (outcomes, after) ∧ outcomes.length = names.length ∧
        outcome.Gathers (fun results => .object (names.zip results)) outcomes := by
  rw [Extractor.object, mapM_entry_strict, bind_map_left, StateT.run_bind]
  cases ends : (names.mapM fun name => extract.field .strict path value name node).run memory with
  | none => simp
  | some ending =>
      obtain ⟨outcomes, last⟩ := ending
      have sameLength : names.length = outcomes.length := (Run.length_of_mapM ends).symm
      simp only [Option.bind_eq_bind, Option.bind_some, StateT.run_pure, Option.pure_def,
        Outcome.map_consolidate_zipWith distinct sameLength, Option.some.injEq, Prod.mk.injEq]
      constructor
      · rintro ⟨isGathered, rfl⟩
        exact ⟨outcomes, ⟨rfl, rfl⟩, sameLength.symm, Outcome.gathers_iff.mpr isGathered⟩
      · rintro ⟨_, ⟨rfl, rfl⟩, _, gathers⟩
        exact ⟨Outcome.gathers_iff.mp gathers, rfl⟩

private theorem field_strict {entry : String × Value} (distinct : value.entries.keys.Nodup)
    (member : entry ∈ value.entries) :
    extract.field .strict path value entry.1 node = extract.member path node value entry := by
  have found := Entries.get?_of_mem distinct member
  by_cases holdsNothing : entry.2.isNull = true
  · have missing : Presence.strict.resolve value entry.1 = pure .missing := by
      simp [Presence.resolve, found, holdsNothing]
    simp [Extractor.field, Extractor.member, missing, holdsNothing]
  · have given : Presence.strict.resolve value entry.1 = pure (.plain entry.2) := by
      simp [Presence.resolve, found, holdsNothing]
    simp [Extractor.field, Extractor.member, given, holdsNothing]

private theorem mapM_field_strict {entries : Entries} (distinct : value.entries.keys.Nodup)
    (members : ∀ entry ∈ entries, entry ∈ value.entries) :
    (entries.keys.mapM fun key => extract.field .strict path value key node) =
      entries.mapM (extract.member path node value) := by
  induction entries with
  | nil => rfl
  | cons entry entries inductionHypothesis =>
      have first := field_strict extract path node distinct (members entry (.head _))
      have rest := inductionHypothesis fun other member => members other (.tail _ member)
      have keys : Entries.keys (entry :: entries) = entry.1 :: Entries.keys entries := rfl
      rw [keys, List.mapM_cons, List.mapM_cons, first, rest]

private theorem run_object_strict_iff (distinct : value.entries.keys.Nodup) {memory after : Memory}
    {outcome : Outcome Value} :
    (extract.object path (value.entries.keys.map fun key => .read key key .strict node) value).run
        memory = some (outcome, after) ↔
      ∃ outcomes, (value.entries.mapM (extract.member path node value)).run memory =
          some (outcomes, after) ∧ outcomes.length = value.entries.length ∧
        outcome.Gathers (fun results => .object (value.entries.keys.zip results)) outcomes := by
  rw [run_object_strict_names_iff extract path node value distinct,
    mapM_field_strict extract path node distinct fun _ member => member, Entries.keys,
    List.length_map]

end Extractor

/-- Where accepted keys are kept, an object of like values is extracted in two phases: first all
keys are judged, and only if none is rejected are the members extracted. -/
theorem extract_setOf (definitions : Definitions) {validator : Validator}
    (keeps : validator.KeepsKeys) (values : Schema) (address : Address) (scope : Scope)
    (path : Path) (value : Value) (distinct : value.entries.keys.Nodup) :
    let node : Node := ⟨.setOf validator values, address, scope⟩
    let judged (memory : Memory) : Memory := memory.record
      ((value.entries.keys.flatMap fun key => (validator (.string key)).notes).map .note)
    (∀ key ∈ value.entries.keys, ∀ message, (validator (.string key)).value = .error message →
      ∃ faults : Faults,
        faults.toList = value.entries.keys.zipIdx.filterMap (validator.rejection? path) ∧
        ∀ limit memory, (extract definitions (limit + 1) node path value).run memory =
          some (.error faults, judged memory)) ∧
    ((∀ key ∈ value.entries.keys, ∃ accepted, (validator (.string key)).value = .ok accepted) →
      ∀ limit memory outcome after,
        (extract definitions (limit + 1) node path value).run memory = some (outcome, after) ↔
          ∃ outcomes, (value.entries.mapM ((extract definitions limit).member path
              (node.child 0 values) value)).run (judged memory) = some (outcomes, after) ∧
            outcomes.length = value.entries.length ∧
            outcome.Gathers (fun results => .object (value.entries.keys.zip results)) outcomes) ∧
    (value.asObject? = none → ∀ limit memory,
      (extract definitions (limit + 1) node path value).run memory =
        some (.ok .emptyObject, memory)) := by
  intro node judged
  have rejects {faults : Faults} {limit : Nat} {memory : Memory}
      (verdict : Semantics.keysVerdict validator path value.entries.keys = .error faults) :
      (extract definitions (limit + 1) node path value).run memory =
        some (.error faults, judged memory) := by
    simp only [extract_succ, Extractor.step, node, Extractor.setOf, StateT.run_bind,
      Extractor.run_keys, verdict]
    rfl
  have reads {names : List String} {limit : Nat} {memory : Memory}
      (verdict : Semantics.keysVerdict validator path value.entries.keys = .ok names) :
      (extract definitions (limit + 1) node path value).run memory =
        ((extract definitions limit).object path
          (names.map fun name => .read name name .strict (node.child 0 values)) value).run
            (judged memory) := by
    simp only [extract_succ, Extractor.step, node, Extractor.setOf, StateT.run_bind,
      Extractor.run_keys, verdict]
    rfl
  refine ⟨?_, ?_, ?_⟩
  · intro key member message rejected
    obtain ⟨faults, verdict⟩ := Semantics.exists_keysVerdict_eq_error member rejected
    refine ⟨faults, ?_, fun limit memory => rejects verdict⟩
    rw [← Semantics.faults_keysVerdict, verdict]
    rfl
  · intro accepted limit memory outcome after
    rw [reads (Semantics.keysVerdict_eq_ok keeps accepted)]
    exact (extract definitions limit).run_object_strict_iff path _ distinct
  · intro isOther limit memory
    have noEntries : value.entries = [] := by
      cases value with
      | object => contradiction
      | _ => rfl
    have noKeys : value.entries.keys = [] := congrArg Entries.keys noEntries
    have accepted : Semantics.keysVerdict validator path value.entries.keys = .ok [] := by
      rw [noKeys]
      rfl
    rw [reads accepted]
    simp only [judged, noKeys, List.flatMap_nil, List.map_nil, Memory.record_nil]
    rfl

/-! ## Wordings -/

/-- A text for each of the languages that are known. -/
def wording : Node :=
  ⟨.setOf (.stringEnum ["en", "de"]) .string, [], []⟩

private theorem keepsKeys_stringEnum (choices : List String) :
    (Validator.stringEnum choices).KeepsKeys := by
  intro key result accepted
  simp only [Validator.stringEnum, Traced.value_pure] at accepted
  split at accepted
  · exact (Except.ok.inj accepted).symm
  · contradiction

/-- A language that is not known is reported although nothing stands under it; a text that is
missing is reported at its language; two texts are kept in their order; and a single text has no
members. -/
theorem extract_setOf_wording :
    (∃ faults : Faults, faults.toList.map Fault.path = [Path.root.pushIndex 1] ∧
      (extract [] 2 wording .root (.object [("en", .string "yes"), ("fr", .null)])).run
        (.initial []) = some (.error faults, .initial [])) ∧
    (extract [] 2 wording .root (.object [("en", .string "yes"), ("de", .null)])).run
        (.initial []) =
      some (.fail ⟨.ofField "de",
        .missingStrict "de" (.object [("en", .string "yes"), ("de", .null)])⟩, .initial []) ∧
    (extract [] 2 wording .root (.object [("en", .string "yes"), ("de", .string "ja")])).run
        (.initial []) =
      some (.ok (.object [("en", .string "yes"), ("de", .string "ja")]), .initial []) ∧
    (extract [] 2 wording .root (.string "yes")).run (.initial []) =
      some (.ok .emptyObject, .initial []) := by
  have keeps := keepsKeys_stringEnum ["en", "de"]
  have known : ∀ key ∈ ["en", "de"], ∃ result,
      (Validator.stringEnum ["en", "de"] (.string key)).value = .ok result := by
    intro key member
    rcases List.mem_pair.mp member with rfl | rfl
    · exact ⟨_, rfl⟩
    · exact ⟨_, rfl⟩
  refine ⟨?_, ?_, ?_, ?_⟩
  · obtain ⟨rejected, _, _⟩ := extract_setOf [] keeps .string [] [] .root
      (.object [("en", .string "yes"), ("fr", .null)]) (by decide)
    obtain ⟨faults, areRejections, fails⟩ := rejected "fr" (by decide) _ rfl
    exact ⟨faults, by rw [areRejections]; rfl, fails 1 (.initial [])⟩
  · obtain ⟨_, accepted, _⟩ := extract_setOf [] keeps .string [] [] .root
      (.object [("en", .string "yes"), ("de", .null)]) (by decide)
    exact (accepted known 1 (.initial []) _ _).mpr ⟨_, rfl, rfl, .error rfl⟩
  · obtain ⟨_, accepted, _⟩ := extract_setOf [] keeps .string [] [] .root
      (.object [("en", .string "yes"), ("de", .string "ja")]) (by decide)
    exact (accepted known 1 (.initial []) _ _).mpr
      ⟨_, rfl, rfl, .ok [Value.string "yes", Value.string "ja"]⟩
  · obtain ⟨_, _, other⟩ := extract_setOf [] keeps .string [] [] .root (.string "yes") (by decide)
    exact other rfl 1 (.initial [])

end Extraction
