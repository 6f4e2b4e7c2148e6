import Extraction.Proofs.KeyOrder
import Extraction.Proofs.Members

/-!
# Keys that are rewritten

A validator may accept a key under another name.  An object of like values then goes by the names
throughout: what it stores under a name it has read under that very name, and not under the key
that was accepted.  So each name has to be a key of the object as well, which distinct names can
only be if they are the keys in another order, and even then a member may be found under another
name than its own.
-/

namespace Extraction

variable {validator : Validator} {rename : String → String} {path : Path} {value : Value}

/-- Keys that are accepted under other names go by these. -/
theorem Semantics.keysVerdict_eq_ok_map {keys : List String}
    (accepted : ∀ key ∈ keys, (validator (.string key)).value = .ok (.string (rename key))) :
    keysVerdict validator path keys = .ok (keys.map rename) := by
  rw [keysVerdict_eq_ok_iff, List.forall₂_map_right_iff, List.forall₂_same]
  intro key member
  rw [rename?, accepted key member]
  rfl

/-! ## What stands under a name -/

/-- What a name comes to in an object whose members are all accepted: the result of the member with
that name, or the fault that there is none. -/
def Extractor.named (path : Path) (object : Value) (result : String → Value) (name : String) :
    Outcome Value :=
  if name ∈ object.entries.keys then .ok (result name)
  else .fail ⟨path.pushField name, .missingStrict name object⟩

namespace Extractor

variable {extract : Extractor} {node : Node} {result : String → Value}

/-- Each name is read in the object itself, and comes to the result of the member with that
name. -/
private theorem finishes_field_named (isSet : ∀ entry ∈ value.entries, entry.2 ≠ .null)
    (accepts : ∀ key held, value.entries.find? key = some held → ∀ place memory, ∃ after,
      (extract node place held).run memory = some (.ok (result key), after)) (name : String) :
    Run.Finishes (fun _ => True) (extract.field .strict path value name node)
      (· = named path value result name) := by
  intro memory _
  cases found : value.entries.find? name with
  | none =>
      have noMember : name ∉ value.entries.keys := Entries.find?_eq_none_iff.mp found
      have missing : Presence.strict.resolve value name = pure .missing := by
        simp [Presence.resolve, Value.get?, found]
      refine ⟨named path value result name, memory, ?_, rfl, trivial⟩
      simp [Extractor.field, missing, named, noMember]
  | some held =>
      have member : (name, held) ∈ value.entries := Entries.mem_of_find? found
      have isMember : name ∈ value.entries.keys := List.mem_map_of_mem member
      have isThere : value.get? name = some held :=
        Value.get?_eq_some_iff.mpr ⟨found, isSet _ member⟩
      have given : Presence.strict.resolve value name = pure (.plain held) := by
        simp [Presence.resolve, isThere]
      rcases accepts name held found (path.pushField name) memory with ⟨after, ends⟩
      refine ⟨named path value result name, after, ?_, rfl, trivial⟩
      simpa [Extractor.field, given, named, isMember] using ends

private theorem flatMap_faults_named (names : List String) :
    (names.map (named path value result)).flatMap Outcome.faults =
      (names.filter fun name => !value.entries.keys.contains name).map fun name =>
        ⟨path.pushField name, .missingStrict name value⟩ := by
  induction names with
  | nil => rfl
  | cons name names inductionHypothesis =>
      rw [List.map_cons, List.flatMap_cons, inductionHypothesis]
      by_cases isMember : name ∈ value.entries.keys
      · simp [named, isMember, Outcome.faults, Outcome.either]
      · simp [named, isMember, Outcome.faults, Outcome.either, Outcome.fail]

variable {outcome : Outcome Value}

private theorem eq_ok_of_gathers_named {names : List String}
    (gathers : outcome.Gathers (fun results => .object (names.zip results))
      (names.map (named path value result)))
    (areKeys : ∀ name ∈ names, name ∈ value.entries.keys) :
    outcome = .ok (.object (names.map fun name => (name, result name))) := by
  have allOk : names.map (named path value result) = (names.map result).map .ok := by
    rw [List.map_map]
    apply List.map_congr_left
    intro name member
    simp [named, areKeys name member]
  have together := Outcome.gathers_iff.mp gathers
  rw [Outcome.consolidate_eq_ok_iff.mpr allOk] at together
  have sameEntries : names.zip (names.map result) = names.map fun name => (name, result name) := by
    conv_lhs => rw [← List.map_id names]
    rw [List.map_map, List.zip_map']
    rfl
  rw [← together, ← sameEntries]
  rfl

private theorem areKeys_of_gathers_named {names : List String} {assemble : List Value → Value}
    {given : Value} (gathers : Outcome.Gathers assemble (.ok given)
      (names.map (named path value result))) : ∀ name ∈ names, name ∈ value.entries.keys := by
  have noFaults := gathers.faults_eq
  rw [flatMap_faults_named] at noFaults
  have noneMissing := List.filter_eq_nil_iff.mp (List.map_eq_nil_iff.mp noFaults.symm)
  intro name member
  simpa using noneMissing name member

private theorem eq_ok_iff_of_gathers_named {keys : List String}
    (gathers : outcome.Gathers (fun results => .object ((keys.map rename).zip results))
      ((keys.map rename).map (named path value result))) :
    outcome = .ok (.object (keys.map fun key => (rename key, result key))) ↔
      ∀ key ∈ keys, rename key ∈ value.entries.keys ∧ result (rename key) = result key := by
  constructor
  · rintro rfl
    have areKeys := areKeys_of_gathers_named gathers
    have same := eq_ok_of_gathers_named gathers areKeys
    rw [List.map_map] at same
    have sameEntries := Value.object.inj (Except.ok.inj same)
    intro key member
    have sameEntry := List.map_eq_map_iff.mp sameEntries key member
    exact ⟨areKeys _ (List.mem_map_of_mem member), (Prod.mk.inj sameEntry).2.symm⟩
  · intro each
    have areKeys : ∀ name ∈ keys.map rename, name ∈ value.entries.keys :=
      List.forall_mem_map.mpr fun key member => (each key member).1
    rw [eq_ok_of_gathers_named gathers areKeys, List.map_map]
    apply congrArg fun entries => Except.ok (Value.object entries)
    apply List.map_congr_left
    intro key member
    exact congrArg (rename key, ·) (each key member).2

end Extractor

/-- Keys that are all accepted make an object of strict fields under the names that they go by. -/
theorem run_setOf_of_accepted (definitions : Definitions) (limit : Nat) (values : Schema)
    (address : Address) (scope : Scope) (path : Path)
    (accepted : ∀ key ∈ value.entries.keys,
      (validator (.string key)).value = .ok (.string (rename key))) (memory : Memory) :
    let node : Node := ⟨.setOf validator values, address, scope⟩
    (extract definitions (limit + 1) node path value).run memory =
      ((extract definitions limit).object path ((value.entries.keys.map rename).map fun name =>
        .read name name .strict (node.child 0 values)) value).run (memory.record
          ((value.entries.keys.flatMap fun key => (validator (.string key)).notes).map
            .note)) := by
  intro node
  simp only [extract_succ, Extractor.step, node, Extractor.setOf, StateT.run_bind,
    Extractor.run_keys, Semantics.keysVerdict_eq_ok_map accepted]
  rfl

/-- Where all keys are accepted under distinct names, the members are read under these names, not
under the keys, so that a name that is no key is missing. -/
theorem extract_setOf_renamed (definitions : Definitions) (values : Schema) (address : Address)
    (scope : Scope) (path : Path)
    (accepted : ∀ key ∈ value.entries.keys,
      (validator (.string key)).value = .ok (.string (rename key)))
    (apart : (value.entries.keys.map rename).Nodup) :
    let node : Node := ⟨.setOf validator values, address, scope⟩
    let names := value.entries.keys.map rename
    let judged (memory : Memory) : Memory := memory.record
      ((value.entries.keys.flatMap fun key => (validator (.string key)).notes).map .note)
    (∀ limit memory outcome after,
      (extract definitions (limit + 1) node path value).run memory = some (outcome, after) ↔
        ∃ outcomes, (names.mapM fun name =>
            (extract definitions limit).field .strict path value name (node.child 0 values)).run
              (judged memory) = some (outcomes, after) ∧
          outcomes.length = names.length ∧
          outcome.Gathers (fun results => .object (names.zip results)) outcomes) ∧
    ∀ limit (result : String → Value), (∀ entry ∈ value.entries, entry.2 ≠ .null) →
      (∀ key held, value.entries.find? key = some held → ∀ place memory, ∃ after,
        (extract definitions limit (node.child 0 values) place held).run memory =
          some (.ok (result key), after)) →
      ∀ memory, ∃ outcome after,
        (extract definitions (limit + 1) node path value).run memory = some (outcome, after) ∧
        outcome.faults = (names.filter fun name => !value.entries.keys.contains name).map
          (fun name => ⟨path.pushField name, .missingStrict name value⟩) ∧
        ((∀ name ∈ names, name ∈ value.entries.keys) →
          outcome = .ok (.object (names.map fun name => (name, result name)))) ∧
        (outcome = .ok (.object (value.entries.keys.map fun key => (rename key, result key))) ↔
          ∀ key ∈ value.entries.keys,
            rename key ∈ value.entries.keys ∧ result (rename key) = result key) := by
  intro node names judged
  have reads (limit : Nat) (memory : Memory) :=
    run_setOf_of_accepted definitions limit values address scope path accepted memory
  constructor
  · intro limit memory outcome after
    rw [reads]
    exact (extract definitions limit).run_object_strict_names_iff path _ value apart
  · intro limit result isSet accepts memory
    have each : Run.Finishes (fun _ => True)
        (names.mapM fun name => (extract definitions limit).field .strict path value name
          (node.child 0 values))
        (List.Forall₂ (fun name outcome => outcome = Extractor.named path value result name)
          names) :=
      .mapM fun name _ => Extractor.finishes_field_named isSet accepts name
    rcases each (judged memory) trivial with ⟨outcomes, after, ends, areNamed, -⟩
    have outcomesAre : names.map (Extractor.named path value result) = outcomes := by
      rw [← List.forall₂_eq_eq_eq, List.forall₂_map_left_iff]
      exact areNamed.imp fun _ _ same => same.symm
    subst outcomesAre
    let outcome : Outcome Value :=
      (Outcome.consolidate (names.map (Extractor.named path value result))).map
        fun results => .object (names.zip results)
    have gathers : outcome.Gathers (fun results => .object (names.zip results))
        (names.map (Extractor.named path value result)) := Outcome.gathers_iff.mpr rfl
    refine ⟨outcome, after, ?_, ?_, ?_, ?_⟩
    · rw [reads]
      exact ((extract definitions limit).run_object_strict_names_iff path _ value apart).mpr
        ⟨_, ends, List.length_map _, gathers⟩
    · rw [gathers.faults_eq, Extractor.flatMap_faults_named]
    · exact Extractor.eq_ok_of_gathers_named gathers
    · exact Extractor.eq_ok_iff_of_gathers_named gathers

/-! ## Sides and capitals -/

/-- Accepts each of two sides as the other one. -/
def mirrored : Validator := fun value =>
  pure <| if value.asString? = some "left" then .ok (.string "right") else .ok (.string "left")

/-- What is on two sides, mirrored. -/
def sides : Node :=
  ⟨.setOf mirrored .anyValue, [], []⟩

/-- Although the sides are mirrored, the hand on the left stays on the left: under the name that
the right goes by, the left is read. -/
theorem extract_setOf_renamed_sides :
    ∃ outcome after,
      (extract [] 2 sides .root
        (.object [("left", .string "hand"), ("right", .string "foot")])).run (.initial []) = some
          (outcome, after) ∧
      outcome = .ok (.object [("right", .string "foot"), ("left", .string "hand")]) ∧
      outcome ≠ .ok (.object [("right", .string "hand"), ("left", .string "foot")]) := by
  let hands : Value := .object [("left", .string "hand"), ("right", .string "foot")]
  let rename (key : String) : String := if key = "left" then "right" else "left"
  let result (key : String) : Value := if key = "left" then .string "hand" else .string "foot"
  have accepted : ∀ key ∈ hands.entries.keys,
      (mirrored (.string key)).value = .ok (.string (rename key)) := by
    intro key member
    rcases List.mem_pair.mp member with rfl | rfl
    · rfl
    · rfl
  have isSet : ∀ entry ∈ hands.entries, entry.2 ≠ .null := by
    intro entry member
    rcases List.mem_pair.mp member with rfl | rfl
    · nofun
    · nofun
  have accepts : ∀ key held, hands.entries.find? key = some held → ∀ place memory, ∃ after,
      (extract [] 1 (sides.child 0 .anyValue) place held).run memory =
        some (.ok (result key), after) := by
    intro key held found place memory
    have member : (key, held) ∈ hands.entries := Entries.mem_of_find? found
    rcases List.mem_pair.mp member with same | same
    · cases same
      exact ⟨_, rfl⟩
    · cases same
      exact ⟨_, rfl⟩
  rcases extract_setOf_renamed [] .anyValue [] [] .root accepted (by decide) with ⟨_, decided⟩
  rcases decided 1 result isSet accepts (.initial []) with
    ⟨outcome, after, ends, _, stored, decides⟩
  refine ⟨outcome, after, ends, stored (by decide), ?_⟩
  intro asClaimed
  have sameHands : result (rename "left") = result "left" :=
    (decides.mp asClaimed "left" (.head _)).2
  simp [rename, result] at sameHands

/-- Accepts texts, in capitals. -/
def capitals : Validator := fun value =>
  pure <| match value.asString? with
    | some text => .ok (.string text.toUpper)
    | none => .error "not a string"

/-- Two letters and what stands under them. -/
def letters : Value :=
  .object [("a", .number 1), ("B", .number 2)]

/-- A key that is accepted in capitals is missing if the capitals are no key, although something
stands under it. -/
theorem extract_setOf_capitals :
    (capitals (.string "a")).value = .ok (.string "A") ∧
    (capitals (.string "B")).value = .ok (.string "B") ∧
    (extract [] 2 ⟨.setOf capitals .anyValue, [], []⟩ .root letters).run (.initial []) =
      some (.fail ⟨.ofField "A", .missingStrict "A" letters⟩, .initial []) := by
  have firstName : "a".toUpper = "A" := by decide +kernel
  have secondName : "B".toUpper = "B" := by decide +kernel
  have accepted : ∀ key ∈ letters.entries.keys,
      (capitals (.string key)).value = .ok (.string key.toUpper) := fun _ _ => rfl
  have names : letters.entries.keys.map String.toUpper = ["A", "B"] := by
    simp only [letters, Value.entries, Entries.keys, List.map_cons, List.map_nil, firstName,
      secondName]
  refine ⟨?_, ?_, ?_⟩
  · rw [accepted "a" (by decide), firstName]
  · rw [accepted "B" (by decide), secondName]
  · rw [run_setOf_of_accepted [] 1 .anyValue [] [] .root accepted, names]
    rfl

end Extraction
