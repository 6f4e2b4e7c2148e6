import Extraction.Proofs.Reading
import Extraction.Schema.Fields

/-!
# What is not read makes no difference

Two values hold the same under all keys that are read at the level of a closure, and what the host
is asked about either of them has the same value.  Then extraction of both runs side by side: it
calls the same nested schemas on the same values in the same order, and it ends with the same value
or with the same faults, but for the object in the faults of strict fields that are missing in it.
-/

namespace Extraction

/-! ## What the host is asked -/

/-- A policy asks a fallback about an object whose field is resolved. -/
inductive Presence.Asks : Presence → Value → String → Fallback → Prop where
  | defaulted {object : Value} {key : String} {fallback : Fallback}
      (missing : object.get? key = none) : Asks (.defaulted fallback) object key fallback
  | defaultedOption {object : Value} {key : String} {fallback : Fallback}
      (found : object.get? key = some (.bool true)) :
      Asks (.defaultedOption fallback) object key fallback
  | merged {object : Value} {key : String} {base : Fallback} : Asks (.merged base) object key base

/-- A field asks a fallback or a generator about its object. -/
inductive Field.Asks {σ : Type} : Field σ → Value → Fallback → Prop where
  | read {key outputKey : String} {presence : Presence} {schema : σ} {object : Value}
      {fallback : Fallback} (asks : presence.Asks object key fallback) :
      Asks (.read key outputKey presence schema) object fallback
  | state {outputKey : String} {generator : Fallback} {object : Value} :
      Asks (.state outputKey generator) object generator

/-- A run at one level leads to another one: the value is passed on as a whole. -/
inductive RunsAlongside (definitions : Definitions) : Nat → Visit → Visit → Prop where
  | here (depth : Nat) (visit : Visit) : RunsAlongside definitions (depth + 1) visit visit
  | further {depth : Nat} {visit next last : Visit} (passes : visit.node.schema.passesOn = true)
      (calls : Calls definitions (extract definitions depth) visit next)
      (rest : RunsAlongside definitions depth next last) :
      RunsAlongside definitions (depth + 1) visit last

/-- What the host is asked in a run at one level, it answers in the same way for another value. -/
def Visit.AsksAlike (definitions : Definitions) (depth : Nat) (visit : Visit) (other : Value) :
    Prop :=
  ∀ last, RunsAlongside definitions depth visit last →
    ∀ fields, last.node.schema = .object fields → ∀ field ∈ fields, ∀ fallback,
      field.Asks visit.value fallback → (fallback visit.value).value = (fallback other).value

/-! ## What two runs have in common -/

/-- Visits of the same node on the same value and at the same place. -/
structure Visit.Alike (visit other : Visit) : Prop where
  node : visit.node = other.node
  path : visit.path = other.path
  value : visit.value = other.value
  memory : visit.memory.SameButNotes other.memory

/-- Two faults are the same but for the object that is shown where a strict field is missing. -/
inductive Fault.SameButShown (value other : Value) : Fault → Fault → Prop where
  | same (fault : Fault) : SameButShown value other fault fault
  | shown (path : Path) (key : String) :
      SameButShown value other ⟨path.pushField key, .missingStrict key value⟩
        ⟨path.pushField key, .missingStrict key other⟩

/-- Two outcomes have the same value, or the same faults in the same order but for the object that
is shown. -/
inductive Outcome.SameButShown {α : Type} (value other : Value) :
    Outcome α → Outcome α → Prop where
  | ok (result : α) : SameButShown value other (.ok result) (.ok result)
  | error {faults otherFaults : Faults}
      (same : List.Forall₂ (Fault.SameButShown value other) faults.toList otherFaults.toList) :
      SameButShown value other (.error faults) (.error otherFaults)

namespace Outcome.SameButShown

variable {α β : Type} {value other : Value}

theorem refl (outcome : Outcome α) : SameButShown value other outcome outcome := by
  cases outcome with
  | ok result => exact .ok result
  | error faults => exact .error (List.forall₂_same.mpr fun fault _ => .same fault)

theorem map {outcome otherOutcome : Outcome α}
    (same : SameButShown value other outcome otherOutcome) (change : α → β) :
    SameButShown value other (outcome.map change) (otherOutcome.map change) := by
  cases same with
  | ok result => exact .ok (change result)
  | error same => exact .error same

theorem prepend {outcome otherOutcome : Outcome α} {outcomes otherOutcomes : Outcome (List α)}
    (first : SameButShown value other outcome otherOutcome)
    (rest : SameButShown value other outcomes otherOutcomes) :
    SameButShown value other (outcome.prepend outcomes) (otherOutcome.prepend otherOutcomes) := by
  cases first with
  | ok result =>
      cases rest with
      | ok results => exact .ok (result :: results)
      | error later => exact .error later
  | error earlier =>
      cases rest with
      | ok results => exact .error earlier
      | error later => exact .error (List.rel_append earlier later)

theorem consolidate {outcomes otherOutcomes : List (Outcome α)}
    (each : List.Forall₂ (SameButShown value other) outcomes otherOutcomes) :
    SameButShown value other (Outcome.consolidate outcomes)
      (Outcome.consolidate otherOutcomes) := by
  induction each with
  | nil => exact .ok []
  | cons first _ inductionHypothesis => exact first.prepend inductionHypothesis

end Outcome.SameButShown

/-- A field resolves alike for two objects that hold the same under its key. -/
theorem Presence.value_resolve_eq {presence : Presence} {object other : Value} {key : String}
    (sameKey : object.get? key = other.get? key)
    (alike : ∀ fallback, presence.Asks object key fallback →
      (fallback object).value = (fallback other).value) :
    (presence.resolve object key).value = (presence.resolve other key).value := by
  cases presence with
  | strict | option => cases found : object.get? key <;> simp [resolve, ← sameKey, found]
  | defaulted fallback =>
      cases found : object.get? key with
      | none =>
          have otherMissing : other.get? key = none := sameKey ▸ found
          simp [resolve, found, otherMissing, alike fallback (.defaulted found)]
      | some given =>
          have otherFound : other.get? key = some given := sameKey ▸ found
          simp [resolve, found, otherFound]
  | defaultedOption fallback =>
      cases found : object.get? key with
      | none =>
          have otherMissing : other.get? key = none := sameKey ▸ found
          simp [resolve, found, otherMissing]
      | some given =>
          have otherFound : other.get? key = some given := sameKey ▸ found
          by_cases isTrue : given = .bool true
          · subst isTrue
            simp [resolve, found, otherFound, alike fallback (.defaultedOption found)]
          · rw [value_resolve_defaultedOption found isTrue,
              value_resolve_defaultedOption otherFound isTrue]
  | merged base => simp [resolve, ← sameKey, alike base .merged]

namespace Extractor

section

variable {extract : Extractor}
  (coupled : ∀ node place given memory changed, Memory.SameButNotes memory changed →
    Run.Coupled Memory.SameButNotes (extract node place given) (extract node place given) memory
      changed)
  {path : Path} {value other : Value} {memory changed : Memory}
  (same : memory.SameButNotes changed)

include coupled same

private theorem paired_entry {field : Field Node}
    (sameKey : ∀ key, field.sourceKey? = some key → value.get? key = other.get? key)
    (alike : ∀ fallback, field.Asks value fallback →
      (fallback value).value = (fallback other).value) :
    Run.Paired (Outcome.SameButShown value other) Memory.SameButNotes
      (extract.entry path value field) (extract.entry path other field) memory changed := by
  cases field with
  | state outputKey generator =>
      have generated : Run.Paired Eq Memory.SameButNotes (Run.perform (generator value))
          (Run.perform (generator other)) memory changed :=
        .some ⟨alike generator .state, same.notes _ _⟩
      apply generated.bind
      rintro result _ between otherBetween _ rfl linkedBetween
      exact .pure (.ok _) linkedBetween
  | read key outputKey presence lower =>
      have sameResolution := Presence.value_resolve_eq (sameKey key rfl)
        fun fallback asks => alike fallback (.read asks)
      have resolved : Run.Paired Eq Memory.SameButNotes (Run.perform (presence.resolve value key))
          (Run.perform (presence.resolve other key)) memory changed :=
        .some ⟨sameResolution, same.notes _ _⟩
      have field : Run.Paired (Outcome.SameButShown value other) Memory.SameButNotes
          (extract.field presence path value key lower)
          (extract.field presence path other key lower) memory changed := by
        apply resolved.bind
        rintro resolution _ between otherBetween _ rfl linkedBetween
        have given (found : Value) : Run.Paired (Outcome.SameButShown value other)
            Memory.SameButNotes (extract lower (path.pushField key) found)
            (extract lower (path.pushField key) found) between otherBetween :=
          .of_coupled .refl (coupled lower _ found between otherBetween linkedBetween)
        cases resolution with
        | missing => exact .pure (.error (.cons (.shown path key) .nil)) linkedBetween
        | skipped => exact .pure (.ok Value.absent) linkedBetween
        | plain found => exact given found
        | optional found =>
            apply (given found).bind
            intro outcome otherOutcome last otherLast _ alike linkedLast
            exact .pure (alike.map Value.present) linkedLast
      apply field.bind
      intro outcome otherOutcome last otherLast _ alike linkedLast
      exact .pure (alike.map (outputKey, ·)) linkedLast

/-- The fields of an object are extracted side by side from two objects that hold the same under
the keys that they read, if the host answers alike about both. -/
theorem paired_object {fields : List (Field Node)}
    (sameKey : ∀ field ∈ fields, ∀ key, field.sourceKey? = some key →
      value.get? key = other.get? key)
    (alike : ∀ field ∈ fields, ∀ fallback, field.Asks value fallback →
      (fallback value).value = (fallback other).value) :
    Run.Paired (Outcome.SameButShown value other) Memory.SameButNotes
      (extract.object path fields value) (extract.object path fields other) memory changed := by
  have entries : Run.Paired (List.Forall₂ (Outcome.SameButShown value other)) Memory.SameButNotes
      (fields.mapM (extract.entry path value)) (fields.mapM (extract.entry path other)) memory
      changed := by
    apply Run.Paired.mapM _ same
    intro field member between otherBetween linkedBetween
    exact paired_entry coupled linkedBetween (sameKey field member) (alike field member)
  apply entries.bind
  intro results otherResults after otherAfter _ each linkedAfter
  exact .pure ((Outcome.SameButShown.consolidate each).map _) linkedAfter

private theorem fieldCalls_alike {fields : List (Field Node)}
    (sameKey : ∀ field ∈ fields, ∀ key, field.sourceKey? = some key →
      value.get? key = other.get? key)
    (alike : ∀ field ∈ fields, ∀ fallback, field.Asks value fallback →
      (fallback value).value = (fallback other).value) :
    List.Forall₂ Visit.Alike (extract.fieldCalls path value fields memory)
      (extract.fieldCalls path other fields changed) := by
  induction fields generalizing memory changed with
  | nil => exact .nil
  | cons field fields inductionHypothesis =>
      rw [fieldCalls, fieldCalls]
      have paired : Run.Paired (Outcome.SameButShown value other) Memory.SameButNotes
          (extract.entry path value field) (extract.entry path other field) memory changed :=
        paired_entry coupled same (sameKey field (.head _)) (alike field (.head _))
      apply List.rel_append
      · cases field with
        | state => exact .nil
        | read key outputKey presence lower =>
            have sameResolution := Presence.value_resolve_eq (sameKey _ (.head _) key rfl)
              fun fallback asks => alike _ (.head _) fallback (.read asks)
            simp only [Field.call?, sameResolution]
            cases (presence.resolve other key).value.given? with
            | none => exact .nil
            | some given => exact .cons ⟨rfl, rfl, rfl, same.notes _ _⟩ .nil
      · unfold Run.Paired at paired
        generalize (extract.entry path value field).run memory = ending,
          (extract.entry path other field).run changed = otherEnding at paired ⊢
        cases paired with
        | none => exact .nil
        | some related =>
            exact inductionHypothesis related.2
              (fun lower member => sameKey lower (.tail _ member))
              fun lower member => alike lower (.tail _ member)

end

section

variable {extract : Extractor} {path : Path} {value other : Value} {further : Visit → List Visit}

private theorem paired_alternatives {nodes : List Node} {memory changed : Memory}
    {earlier otherEarlier : List Fault}
    (each : ∀ node between otherBetween,
      ⟨node, path, value, between⟩ ∈ extract.alternativeCalls path value nodes memory →
      between.SameButNotes otherBetween →
      Run.Paired (Outcome.SameButShown value other) Memory.SameButNotes (extract node path value)
        (extract node path other) between otherBetween ∧
      List.Forall₂ Visit.Alike (further ⟨node, path, value, between⟩)
        (further ⟨node, path, other, otherBetween⟩))
    (sameEarlier : List.Forall₂ (Fault.SameButShown value other) earlier otherEarlier)
    (same : memory.SameButNotes changed) :
    Run.Paired (Outcome.SameButShown value other) Memory.SameButNotes
      (extract.oneOf path value earlier nodes) (extract.oneOf path other otherEarlier nodes)
      memory changed ∧
    List.Forall₂ Visit.Alike ((extract.alternativeCalls path value nodes memory).flatMap further)
      ((extract.alternativeCalls path other nodes changed).flatMap further) := by
  induction nodes generalizing memory changed earlier otherEarlier with
  | nil =>
      constructor
      · cases sameEarlier with
        | nil => exact .pure (.ok _) same
        | cons first rest => exact .pure (.error (.cons first rest)) same
      · exact .nil
  | cons node nodes inductionHypothesis =>
      obtain ⟨first, firstCalls⟩ := each node memory changed (.head _) same
      rw [alternativeCalls, alternativeCalls, List.flatMap_cons, List.flatMap_cons]
      unfold Run.Paired at first
      generalize ends : (extract node path value).run memory = ending,
        otherEnds : (extract node path other).run changed = otherEnding at first
      rw [oneOf, oneOf, Run.Paired, StateT.run_bind, StateT.run_bind, ends, otherEnds]
      cases first with
      | none => exact ⟨.none, List.rel_append firstCalls .nil⟩
      | @some ending otherEnding related =>
          rcases ending with ⟨outcome, between⟩
          rcases otherEnding with ⟨otherOutcome, otherBetween⟩
          obtain ⟨alike, linkedBetween⟩ := related
          cases alike with
          | ok result => exact ⟨.some ⟨.ok result, linkedBetween⟩, List.rel_append firstCalls .nil⟩
          | @error faults otherFaults sameFaults =>
              have later := inductionHypothesis
                (fun lower last otherLast member => each lower last otherLast (by
                  rw [alternativeCalls, ends]
                  exact .tail _ member))
                (List.rel_append sameEarlier sameFaults) linkedBetween
              exact ⟨later.1, List.rel_append firstCalls later.2⟩

private theorem paired_thunk {definitions : Definitions} {thunk : Thunk} (node : Node)
    {memory changed : Memory} (same : memory.SameButNotes changed)
    (delegated : ∀ otherAfter, (memory.force definitions thunk).2.SameButNotes otherAfter →
      Run.Paired (Outcome.SameButShown value other) Memory.SameButNotes
        (extract (memory.force definitions thunk).1 path value)
        (extract (memory.force definitions thunk).1 path other)
        (memory.force definitions thunk).2 otherAfter ∧
      List.Forall₂ Visit.Alike
        (further ⟨(memory.force definitions thunk).1, path, value,
          (memory.force definitions thunk).2⟩)
        (further ⟨(memory.force definitions thunk).1, path, other, otherAfter⟩)) :
    Run.Paired (Outcome.SameButShown value other) Memory.SameButNotes
      (extract.thunk definitions thunk path value) (extract.thunk definitions thunk path other)
      memory changed ∧
    List.Forall₂ Visit.Alike
      ([Visit.forced definitions ⟨node, path, value, memory⟩ thunk].flatMap further)
      ([Visit.forced definitions ⟨node, path, other, changed⟩ thunk].flatMap further) := by
  obtain ⟨sameDelegate, sameAfter⟩ := same.force definitions thunk
  obtain ⟨paired, calls⟩ := delegated _ sameAfter
  simp only [List.flatMap_cons, List.flatMap_nil, List.append_nil, Visit.forced]
  rw [← sameDelegate]
  constructor
  · rw [Run.Paired, Extractor.thunk, Extractor.thunk, StateT.run_bind, StateT.run_bind,
      Run.run_force, Run.run_force, ← Prod.eta (changed.force definitions thunk), ← sameDelegate]
    exact paired
  · exact calls

end

end Extractor

/-- A field in place is one that is written, with its schema in place. -/
theorem exists_written_field {node : Node} {fields : List (Field Schema)}
    {field : Field Node} (member : field ∈ node.fields 0 fields) :
    ∃ written ∈ fields, ∃ position, field = written.map (node.child position) := by
  rw [Node.fields_eq_map] at member
  obtain ⟨⟨written, position⟩, entry, rfl⟩ := List.mem_map.mp member
  exact ⟨written, List.fst_mem_of_mem_zipIdx entry, position, rfl⟩

theorem Field.Asks.of_map {σ τ : Type} {change : σ → τ} {field : Field σ} {object : Value}
    {fallback : Fallback} (asks : (field.map change).Asks object fallback) :
    field.Asks object fallback := by
  cases field with
  | read =>
      cases asks with
      | read asks => exact .read asks
  | state =>
      cases asks
      exact .state

/-! ## Whole levels -/

section

variable {definitions : Definitions} {schema : Schema} {keys : List ThunkKey} {value other : Value}

private theorem passed_alternative {depth : Nat} {alternatives : List Schema}
    {address : Address} {scope : Scope} {lower : Node} {front back : List Node} {path : Path}
    {value : Value} {memory between : Memory} {outcomes : List (Outcome Value)}
    (stands : Node.Stands definitions schema ⟨.oneOf alternatives, address, scope⟩)
    (sound : memory.Sound definitions schema keys)
    (split : Node.children ⟨.oneOf alternatives, address, scope⟩ 0 alternatives =
      front ++ lower :: back)
    (before : (front.mapM (extract definitions depth · path value)).run memory =
      some (outcomes, between)) :
    Closure.PassesTo definitions ⟨.oneOf alternatives, Scope.bindings scope⟩ lower.closure ∧
      lower.Stands definitions schema ∧ between.Sound definitions schema keys := by
  have isAlternative {tried : Node} (found : tried ∈ front ++ lower :: back) :
      tried ∈ Node.children ⟨.oneOf alternatives, address, scope⟩ 0 alternatives := by
    rw [split]
    exact found
  have triedBefore : Run.Ensures (Memory.Sound definitions schema keys)
      (front.mapM (extract definitions depth · path value))
      (List.Forall₂ (fun tried => YieldsWithin definitions depth tried.closure path value)
        front) :=
    .mapM fun tried found => extract_ensures
      (stands.alternatives rfl (isAlternative (List.mem_append_left _ found)))
  have isLower := isAlternative (List.mem_append_right front (.head back))
  have closureEq : lower.closure = ⟨lower.schema, Scope.bindings scope⟩ := by
    rw [Node.children_eq_map] at isLower
    obtain ⟨entry, _, rfl⟩ := List.mem_map.mp isLower
    rfl
  rw [closureEq]
  exact ⟨.alternative (Node.schema_mem_of_mem_children isLower), stands.alternatives rfl isLower,
    (triedBefore memory sound _ between before).2⟩

/-- What a value is passed on to stands in the same tree, and is run from a sound memory. -/
theorem Calls.passed {depth : Nat} {visit next : Visit}
    (calls : Calls definitions (extract definitions depth) visit next)
    (passes : visit.node.schema.passesOn = true) (stands : visit.node.Stands definitions schema)
    (sound : visit.memory.Sound definitions schema keys) :
    visit.node.closure.PassesTo definitions next.node.closure ∧
      next.node.Stands definitions schema ∧ next.memory.Sound definitions schema keys ∧
      next.value = visit.value := by
  rcases visit with ⟨⟨written, address, scope⟩, path, value, memory⟩
  cases calls with
  | field reads => cases reads <;> contradiction
  | item shape | member shape | supplied shape =>
      cases shape
      contradiction
  | alternative shape split before failed =>
      cases shape
      obtain ⟨passesTo, lowerStands, soundBetween⟩ := passed_alternative stands sound split before
      exact ⟨passesTo, lowerStands, soundBetween, rfl⟩
  | branch shape found known =>
      cases shape
      have isBranch := Schema.branch?_mem known
      have branchStands := stands.branches rfl isBranch
      rw [Node.branches_eq_map] at isBranch
      obtain ⟨⟨⟨name, part⟩, position⟩, entry, isEntry⟩ := List.mem_map.mp isBranch
      cases isEntry
      exact ⟨.branch (List.fst_mem_of_mem_zipIdx entry), branchStands, sound, rfl⟩
  | @thunk _ _ _ _ thunk isThunk =>
      have thunkStands : thunk.Stands definitions schema := ⟨_, stands, isThunk⟩
      obtain ⟨after, forced, soundAfter⟩ := sound.force thunkStands
      rw [forced]
      exact ⟨.delegate (Node.delegate?_of_thunk? isThunk), thunkStands.delegate, soundAfter, rfl⟩
  | recursive shape | boxed shape =>
      cases shape
      exact ⟨.delegate rfl, stands.below 0 rfl, sound, rfl⟩
  | handle shape found =>
      exact ⟨.delegate (Node.delegate?_of_find? shape found), stands.owner found, sound, rfl⟩

/-- What runs alongside stands on the same level. -/
theorem RunsAlongside.level {depth : Nat} {visit last : Visit}
    (runs : RunsAlongside definitions depth visit last)
    (stands : visit.node.Stands definitions schema)
    (sound : visit.memory.Sound definitions schema keys) :
    Closure.Level definitions visit.node.closure last.node.closure := by
  induction runs with
  | here => exact .refl
  | further passes calls _ inductionHypothesis =>
      obtain ⟨passesTo, nextStands, nextSound, _⟩ := calls.passed passes stands sound
      exact .head passesTo (inductionHypothesis nextStands nextSound)

/-- A visit is run side by side with one of another value at the same place: both end alike, and
both call the same nested schemas. -/
def Visit.SideBySide (definitions : Definitions) (depth : Nat) (visit : Visit) (other : Value)
    (changed : Memory) : Prop :=
  Run.Paired (Outcome.SameButShown visit.value other) Memory.SameButNotes
    (extract definitions depth visit.node visit.path visit.value)
    (extract definitions depth visit.node visit.path other) visit.memory changed ∧
  List.Forall₂ Visit.Alike (visit.nestedCalls definitions depth)
    (Visit.nestedCalls definitions depth ⟨visit.node, visit.path, other, changed⟩)

section

variable {depth : Nat} {visit : Visit} {changed : Memory}
  (same : visit.memory.SameButNotes changed)

include same

private theorem sideBySide_object {fields : List (Field Schema)}
    (shape : visit.node.schema = .object fields)
    (sameKeys : ∀ key ∈ fields.filterMap Field.sourceKey?, visit.value.get? key = other.get? key)
    (alike : ∀ field ∈ fields, ∀ fallback, field.Asks visit.value fallback →
      (fallback visit.value).value = (fallback other).value) :
    visit.SideBySide definitions (depth + 1) other changed := by
  have coupled (lower : Node) (place : Path) (given : Value) (between otherBetween : Memory)
      (sameBetween : between.SameButNotes otherBetween) :=
    extract_coupled (Memory.SameButNotes.preserves definitions) depth lower place given sameBetween
  have sameKey : ∀ field ∈ visit.node.fields 0 fields, ∀ key, field.sourceKey? = some key →
      visit.value.get? key = other.get? key := by
    intro field member key isSource
    obtain ⟨written, isWritten, position, rfl⟩ := exists_written_field member
    rw [Field.sourceKey?_map] at isSource
    exact sameKeys key (List.mem_filterMap.mpr ⟨written, isWritten, isSource⟩)
  have sameAnswers : ∀ field ∈ visit.node.fields 0 fields, ∀ fallback,
      field.Asks visit.value fallback → (fallback visit.value).value = (fallback other).value := by
    intro field member fallback asks
    obtain ⟨written, isWritten, position, rfl⟩ := exists_written_field member
    exact alike written isWritten fallback asks.of_map
  unfold Visit.SideBySide
  simp only [extract_succ, Extractor.step, Visit.nestedCalls, Visit.calls, shape, Schema.passesOn]
  exact ⟨Extractor.paired_object coupled same sameKey sameAnswers,
    Extractor.fieldCalls_alike coupled same sameKey sameAnswers⟩

-- What the value is passed on to is run side by side, from wherever it is run.
variable (passed : ∀ {lower : Node} {place : Path} {between otherBetween : Memory},
  Calls definitions (extract definitions depth) visit ⟨lower, place, visit.value, between⟩ →
    between.SameButNotes otherBetween →
      Visit.SideBySide definitions depth ⟨lower, place, visit.value, between⟩ other otherBetween)

include passed

private theorem sideBySide_oneOf {alternatives : List Schema}
    (shape : visit.node.schema = .oneOf alternatives) :
    visit.SideBySide definitions (depth + 1) other changed := by
  have called : visit.calls definitions (extract definitions depth) =
      (extract definitions depth).alternativeCalls visit.path visit.value
        (visit.node.children 0 alternatives) visit.memory := by
    simp only [Visit.calls, shape]
  unfold Visit.SideBySide
  simp only [extract_succ, Extractor.step, Visit.nestedCalls, Visit.calls, shape, Schema.passesOn,
    if_true]
  apply Extractor.paired_alternatives _ .nil same
  intro lower between otherBetween member sameBetween
  have passesOn : visit.node.schema.passesOn = true := by rw [shape, Schema.passesOn]
  exact passed ((Visit.mem_calls_iff (.inr passesOn)).mp (called ▸ member)) sameBetween

private theorem sideBySide_choose {key : String} {branches : List (String × Schema)}
    (shape : visit.node.schema = .choose key branches)
    (sameKey : visit.value.get? key = other.get? key) :
    visit.SideBySide definitions (depth + 1) other changed := by
  unfold Visit.SideBySide
  simp only [extract_succ, Extractor.step, Extractor.choose, Visit.nestedCalls, Visit.calls, shape,
    Schema.passesOn, if_true, ← sameKey]
  cases found : visit.value.get? key with
  | none => exact ⟨.pure (.refl _) same, .nil⟩
  | some chosen =>
      dsimp only
      cases known : Schema.branch? (Extractor.branchName chosen)
        (visit.node.branches 0 branches) with
      | none => exact ⟨.pure (.refl _) same, .nil⟩
      | some branch =>
          simp only [List.flatMap_cons, List.flatMap_nil, List.append_nil]
          exact passed (.branch shape found known) same

private theorem sideBySide_thunk {thunk : Thunk}
    (isThunk : visit.node.thunk? definitions = some thunk) :
    visit.SideBySide definitions (depth + 1) other changed := by
  have paired := Extractor.paired_thunk visit.node same fun otherAfter sameAfter =>
    passed (.thunk isThunk) sameAfter
  cases shape : visit.node.schema with
    simp only [Node.thunk?, shape, reduceCtorEq, Option.some.injEq] at isThunk
  | thunk | reference =>
      subst isThunk
      unfold Visit.SideBySide
      simp only [extract_succ, Extractor.step, Visit.nestedCalls, Visit.calls, shape,
        Schema.passesOn, if_true]
      exact paired

private theorem sideBySide_passing (passes : visit.node.schema.passesOn = true)
    (sameKey : ∀ key branches, visit.node.schema = .choose key branches →
      visit.value.get? key = other.get? key) :
    visit.SideBySide definitions (depth + 1) other changed := by
  cases shape : visit.node.schema with
  | oneOf alternatives => exact sideBySide_oneOf same passed shape
  | choose key branches => exact sideBySide_choose same passed shape (sameKey key branches shape)
  | thunk | reference =>
      apply sideBySide_thunk same passed
      rw [Node.thunk?, shape]
  | self label =>
      unfold Visit.SideBySide
      simp only [extract_succ, Extractor.step, Visit.nestedCalls, Visit.calls, shape,
        Schema.passesOn, if_true]
      cases found : visit.node.scope.find? label with
      | none => exact ⟨.pure (.refl _) same, .nil⟩
      | some target =>
          simp only [List.flatMap_cons, List.flatMap_nil, List.append_nil]
          exact passed (.handle shape found) same
  | recursive =>
      unfold Visit.SideBySide
      simp only [extract_succ, Extractor.step, Visit.nestedCalls, Visit.calls, shape,
        Schema.passesOn, if_true, List.flatMap_cons, List.flatMap_nil, List.append_nil]
      exact passed (.recursive shape) same
  | boxed =>
      unfold Visit.SideBySide
      simp only [extract_succ, Extractor.step, Visit.nestedCalls, Visit.calls, shape,
        Schema.passesOn, if_true, List.flatMap_cons, List.flatMap_nil, List.append_nil]
      exact passed (.boxed shape) same
  | _ =>
      rw [shape] at passes
      contradiction

end

/-- At one level the runs of two values go side by side, if the values hold the same under all keys
that are read there. -/
private theorem sideBySide_level {depth : Nat} {visit : Visit} {changed : Memory}
    (stands : visit.node.Stands definitions schema)
    (objectLevel : visit.node.closure.ObjectLevel definitions)
    (sameKeys : ∀ key, visit.node.closure.ReadsKey definitions key →
      visit.value.get? key = other.get? key)
    (sound : visit.memory.Sound definitions schema keys)
    (same : visit.memory.SameButNotes changed)
    (alike : visit.AsksAlike definitions depth other) :
    visit.SideBySide definitions depth other changed := by
  induction depth generalizing visit changed with
  | zero => exact ⟨.exhausted, .nil⟩
  | succ depth inductionHypothesis =>
      rcases objectLevel visit.node.closure .refl with ⟨fields, shape⟩ | passes
      · rw [Node.schema_closure] at shape
        refine sideBySide_object same shape (fun key isSource => sameKeys key (.own ?_)) ?_
        · rw [Node.schema_closure, shape]
          exact isSource
        · exact alike visit (.here depth visit) fields shape
      · rw [Node.schema_closure] at passes
        refine sideBySide_passing same ?_ passes ?_
        · intro lower place between otherBetween calls sameBetween
          obtain ⟨passesTo, lowerStands, soundBetween, _⟩ := calls.passed passes stands sound
          exact inductionHypothesis lowerStands (objectLevel.passed passesTo)
            (fun key reads => sameKeys key (reads.passing passesTo)) soundBetween sameBetween
            fun last runs => alike last (.further passes calls runs)
        · intro key branches shape
          apply sameKeys key (.own _)
          rw [Node.schema_closure, shape]
          exact .head _

namespace Session

/-- In a session two values are extracted alike: the same nested schemas are called on the same
values in the same order, and either run ends like the other one. -/
def ExtractsAlike (session : Session) (limit : Nat) (path : Path) (value other : Value) : Prop :=
  List.Forall₂ Visit.Alike
    (Visit.nestedCalls session.definitions limit ⟨session.root, path, value, session.memory⟩)
    (Visit.nestedCalls session.definitions limit ⟨session.root, path, other, session.memory⟩) ∧
  Option.Rel (fun (reply, after) (otherReply, otherAfter) =>
      ∃ outcome otherOutcome, reply = .outcome outcome ∧ otherReply = .outcome otherOutcome ∧
        Outcome.SameButShown value other outcome otherOutcome ∧
        after.memory.SameButNotes otherAfter.memory)
    (session.answer limit (.extract path value)) (session.answer limit (.extract path other))

private theorem extractsAlike_of_sameKeys {session : Session} {limit : Nat} {path : Path}
    (sound : session.Sound definitions schema)
    (objectLevel : Closure.ObjectLevel definitions ⟨schema, []⟩)
    (sameKeys : ∀ key, Closure.ReadsKey definitions ⟨schema, []⟩ key →
      value.get? key = other.get? key)
    (alike : Visit.AsksAlike definitions limit ⟨session.root, path, value, session.memory⟩ other) :
    session.ExtractsAlike limit path value other := by
  rw [sound.root_eq] at alike
  obtain ⟨paired, calls⟩ :=
    sideBySide_level (Node.stands_root definitions schema) objectLevel sameKeys
      sound.memory_sound (.refl _) alike
  unfold ExtractsAlike
  rw [answer_extract, answer_extract, sound.definitions_eq, sound.root_eq]
  constructor
  · exact calls
  · unfold Run.Paired at paired
    generalize
      (Extraction.extract definitions limit (.root schema) path value).run session.memory = ending,
      (Extraction.extract definitions limit (.root schema) path other).run session.memory =
        otherEnding at paired ⊢
    cases paired with
    | none => exact .none
    | some related => exact .some ⟨_, _, rfl, rfl, related⟩

/-- Open object schemas read nothing but what they declare: two values that agree there, and
about which the host answers alike, lead to the same nested calls and end alike. -/
theorem extract_unread {session : Session} (sound : session.Sound definitions schema)
    (objectLevel : Closure.ObjectLevel definitions ⟨schema, []⟩) (limit : Nat) (path : Path) :
    (∀ value other : Value,
      (∀ key, Closure.ReadsKey definitions ⟨schema, []⟩ key → value.get? key = other.get? key) →
      Visit.AsksAlike definitions limit ⟨session.root, path, value, session.memory⟩ other →
      session.ExtractsAlike limit path value other) ∧
    ∀ value other : Value,
      value.DiffersUnread (Closure.ReadsKey definitions ⟨schema, []⟩) other →
      Visit.AsksAlike definitions limit ⟨session.root, path, value, session.memory⟩ other →
      session.ExtractsAlike limit path value other := by
  constructor
  · intro value other sameKeys alike
    exact extractsAlike_of_sameKeys sound objectLevel sameKeys alike
  · intro value other differs alike
    exact extractsAlike_of_sameKeys sound objectLevel (fun _ reads => differs.get?_eq reads) alike

end Session

end

/-! ## People or titles -/

/-- A person, or else a work with a title. -/
def personOrWork : Schema :=
  .oneOf [.object [.strictString "name", .defaultedString "kind" "person"],
    .object [.strictString "title"]]

private theorem level_personOrWork {part : Closure}
    (level : Closure.Level [] ⟨personOrWork, []⟩ part) :
    part = ⟨personOrWork, []⟩ ∨
      part = ⟨.object [.strictString "name", .defaultedString "kind" "person"], []⟩ ∨
      part = ⟨.object [.strictString "title"], []⟩ := by
  induction level with
  | refl => exact .inl rfl
  | tail _ passes inductionHypothesis =>
      rcases inductionHypothesis with rfl | rfl | rfl
      · cases passes with
        | alternative member =>
            rcases List.mem_pair.mp member with rfl | rfl
            · exact .inr (.inl rfl)
            · exact .inr (.inr rfl)
        | delegate delegates => contradiction
      · cases passes
        contradiction
      · cases passes
        contradiction

private theorem objectLevel_personOrWork : Closure.ObjectLevel [] ⟨personOrWork, []⟩ := by
  intro part level
  rcases level_personOrWork level with rfl | rfl | rfl
  · exact .inr rfl
  · exact .inl ⟨_, rfl⟩
  · exact .inl ⟨_, rfl⟩

private theorem asksAlike_personOrWork (depth : Nat) (value other : Value) :
    Visit.AsksAlike [] depth
      ⟨.root personOrWork, .root, value, (Session.start [] personOrWork).memory⟩ other := by
  intro last runs fields shape field member fallback asks
  have level := runs.level (Node.stands_root [] personOrWork)
    (Session.sound_start [] personOrWork).memory_sound
  rw [← Node.schema_closure] at shape
  rcases level_personOrWork level with same | same | same
  · rw [same] at shape
    contradiction
  · rw [same] at shape
    cases shape
    rcases List.mem_pair.mp member with rfl | rfl
    · cases asks with
      | read asks => cases asks
    · cases asks with
      | read asks =>
          cases asks
          rfl
  · rw [same] at shape
    cases shape
    cases List.mem_singleton.mp member
    cases asks with
    | read asks => cases asks

/-- Neither a key that is not declared nor being a text makes a difference to `personOrWork`. -/
theorem Session.extract_unread_personOrWork :
    (Session.start [] personOrWork).ExtractsAlike 9 .root (.object [("name", .string "first")])
        (.object [("name", .string "first"), ("email", .string "first@contact")]) ∧
      (Session.start [] personOrWork).ExtractsAlike 9 .root (.string "first") .emptyObject := by
  obtain ⟨_, unread⟩ :=
    extract_unread (sound_start [] personOrWork) objectLevel_personOrWork 9 .root
  have undeclared : ¬ Closure.ReadsKey [] ⟨personOrWork, []⟩ "email" := by
    rintro ⟨part, level, own⟩
    rcases level_personOrWork level with rfl | rfl | rfl <;> revert own <;> decide
  constructor
  · exact unread _ _ (.undeclared (.string "first@contact") undeclared)
      (asksAlike_personOrWork 9 _ _)
  · exact unread _ _ (.notObject rfl) (asksAlike_personOrWork 9 _ _)

end Extraction
