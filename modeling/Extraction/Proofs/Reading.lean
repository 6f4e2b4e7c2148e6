import Extraction.Proofs.Coupling
import Extraction.Proofs.Entries

/-!
# What object schemas read

An open object schema looks at the object in one way only, by asking what stands under a key, and
it asks for the keys that it declares.  The same holds of alternatives, choices and lazily built or
indirect schemas, as long as what they pass the object on to reads it so.  On two values with the
same under all these keys such a schema does the same: it calls the same nested schemas in the same
order and ends alike, but for the object that is shown where a strict field is missing.
-/

namespace Extraction

/-! ## The keys that are read -/

/-- A schema that passes the value it is given on as a whole: alternatives, choices, and schemas
that are built lazily, indirect or self-referring. -/
def Schema.passesOn : Schema → Bool
  | oneOf _ | choose .. | thunk .. | reference .. | recursive .. | self _ | boxed _ => true
  | _ => false

/-- The keys that a schema reads itself: those of its fields, or the one that it chooses by. -/
def Schema.ownKeys : Schema → List String
  | object fields => fields.filterMap Field.sourceKey?
  | choose key _ => [key]
  | _ => []

namespace Closure

/-- One closure passes the value it is given on to another one. -/
inductive PassesTo (definitions : Definitions) : Closure → Closure → Prop where
  | alternative {alternative : Schema} {alternatives : List Schema} {bindings : Bindings}
      (member : alternative ∈ alternatives) :
      PassesTo definitions ⟨.oneOf alternatives, bindings⟩ ⟨alternative, bindings⟩
  | branch {key name : String} {branches : List (String × Schema)} {bindings : Bindings}
      {branch : Schema} (member : (name, branch) ∈ branches) :
      PassesTo definitions ⟨.choose key branches, bindings⟩ ⟨branch, bindings⟩
  | delegate {closure delegate : Closure}
      (delegates : closure.delegate? definitions = some delegate) :
      PassesTo definitions closure delegate

/-- What a closure passes its value on to, at one or more turns, and the closure itself: all that
extracts from the same object. -/
def Level (definitions : Definitions) : Closure → Closure → Prop :=
  Relation.ReflTransGen (PassesTo definitions)

/-- A closure whose whole level consists of open objects and of what passes objects on. -/
def ObjectLevel (definitions : Definitions) (closure : Closure) : Prop :=
  ∀ part, Level definitions closure part →
    (∃ fields, part.schema = .object fields) ∨ part.schema.passesOn = true

/-- A key is read at the level of a closure. -/
def ReadsKey (definitions : Definitions) (closure : Closure) (key : String) : Prop :=
  ∃ part, Level definitions closure part ∧ key ∈ part.schema.ownKeys

section

variable {definitions : Definitions} {closure part : Closure}

theorem ObjectLevel.passed (objectLevel : closure.ObjectLevel definitions)
    (passes : closure.PassesTo definitions part) : part.ObjectLevel definitions :=
  fun lower level => objectLevel lower (.head passes level)

theorem ReadsKey.passing {key : String} (passes : closure.PassesTo definitions part)
    (reads : part.ReadsKey definitions key) : closure.ReadsKey definitions key := by
  obtain ⟨lower, level, own⟩ := reads
  exact ⟨lower, .head passes level, own⟩

theorem ReadsKey.own {key : String} (own : key ∈ closure.schema.ownKeys) :
    closure.ReadsKey definitions key :=
  ⟨closure, .refl, own⟩

end

end Closure

/-- A difference between two values that does not show under certain keys: an entry under another
key, one that holds nothing, the order of the entries, or a value that is no object. -/
inductive Value.DiffersUnread (reads : String → Prop) : Value → Value → Prop where
  | undeclared {entries : Entries} {key : String} (held : Value) (unread : ¬ reads key) :
      DiffersUnread reads (.object entries) (.object (entries.insert key held))
  | null {entries : Entries} {key : String} (missing : entries.find? key = none) :
      DiffersUnread reads (.object entries) (.object (entries.insert key .null))
  | reordered {entries other : Entries} (distinct : entries.keys.Nodup)
      (sameEntries : entries.Perm other) : DiffersUnread reads (.object entries) (.object other)
  | notObject {value : Value} (isOther : value.asObject? = none) :
      DiffersUnread reads value .emptyObject

/-- Values that differ under other keys only hold the same under the keys that are read. -/
theorem Value.DiffersUnread.get?_eq {reads : String → Prop} {value other : Value}
    (differs : value.DiffersUnread reads other) {key : String} (isRead : reads key) :
    value.get? key = other.get? key := by
  unfold Value.get?
  cases differs with
  | @undeclared entries changed held unread =>
      have different : key ≠ changed := fun same => unread (same ▸ isRead)
      simp only [Value.entries, Entries.find?_insert_of_ne entries held different]
  | @null entries changed missing =>
      by_cases same : key = changed
      · subst same
        simp [Value.entries, missing]
      · simp only [Value.entries, Entries.find?_insert_of_ne entries .null same]
  | reordered distinct sameEntries =>
      simp only [Value.entries, Entries.find?_perm distinct sameEntries]
  | notObject isOther => cases value <;> first | contradiction | rfl

/-! ## Calls in order -/

/-- The call of a field, if it makes one. -/
def Field.call? (path : Path) (value : Value) (memory : Memory) : Field Node → Option Visit
  | read key _ presence lower =>
      (presence.resolve value key).value.given?.map fun given =>
        ⟨lower, path.pushField key, given,
          memory.record ((presence.resolve value key).notes.map .note)⟩
  | state .. => none

namespace Extractor

/-- The calls of the fields of an object in order. -/
def fieldCalls (extract : Extractor) (path : Path) (value : Value) :
    List (Field Node) → Memory → List Visit
  | [], _ => []
  | field :: fields, memory =>
      (field.call? path value memory).toList ++
        match (extract.entry path value field).run memory with
        | some (_, between) => fieldCalls extract path value fields between
        | none => []

/-- The alternatives that are tried, in order. -/
def alternativeCalls (extract : Extractor) (path : Path) (value : Value) :
    List Node → Memory → List Visit
  | [], _ => []
  | node :: nodes, memory =>
      ⟨node, path, value, memory⟩ ::
        match (extract node path value).run memory with
        | some (.error _, between) => alternativeCalls extract path value nodes between
        | _ => []

end Extractor

namespace Visit

/-- The visit of what a thunk holds. -/
def forced (definitions : Definitions) (visit : Visit) (thunk : Thunk) : Visit :=
  ⟨(visit.memory.force definitions thunk).1, visit.path, visit.value,
    (visit.memory.force definitions thunk).2⟩

/-- The calls in order that a run of an open object makes, or of a schema that passes its value
on. -/
def calls (definitions : Definitions) (extract : Extractor) (visit : Visit) : List Visit :=
  match visit.node.schema with
  | .object fields =>
      extract.fieldCalls visit.path visit.value (visit.node.fields 0 fields) visit.memory
  | .oneOf alternatives =>
      extract.alternativeCalls visit.path visit.value (visit.node.children 0 alternatives)
        visit.memory
  | .choose key branches =>
      match visit.value.get? key with
      | none => []
      | some chosen =>
          match Schema.branch? (Extractor.branchName chosen) (visit.node.branches 0 branches) with
          | none => []
          | some branch =>
              [⟨branch, visit.path.pushField ("branch: " ++ Extractor.branchName chosen),
                visit.value, visit.memory⟩]
  | .thunk site label body => [visit.forced definitions (visit.node.inlineThunk site label body)]
  | .reference label name =>
      [visit.forced definitions (visit.node.definedThunk definitions label name)]
  | .recursive label body => [{ visit with node := visit.node.recursiveBody label body }]
  | .self label =>
      match visit.node.scope.find? label with
      | none => []
      | some target => [{ visit with node := target }]
  | .boxed inner => [{ visit with node := visit.node.child 0 inner }]
  | _ => []

/-- The calls of nested schemas, in order, that extraction at the level of one object makes: those
of the objects that its value is passed on to, one after the other. -/
def nestedCalls (definitions : Definitions) : Nat → Visit → List Visit
  | 0, _ => []
  | depth + 1, visit =>
      let calls := visit.calls definitions (extract definitions depth)
      if visit.node.schema.passesOn then calls.flatMap (nestedCalls definitions depth) else calls

end Visit

namespace Extractor

variable {extract : Extractor} {path : Path} {value : Value} {memory : Memory} {next : Visit}

private theorem not_callsEntry_nil : ¬ CallsEntry extract path value memory [] next := by
  intro entry
  generalize entriesAre : ([] : List (Field Node)) = entries at entry
  cases entry with
  | intro => simp at entriesAre

/-- The first field is called, or a later one after the first field has been extracted. -/
private theorem callsEntry_cons_iff {field : Field Node} {fields : List (Field Node)} :
    CallsEntry extract path value memory (field :: fields) next ↔
      field.call? path value memory = some next ∨
        ∃ result between, (extract.entry path value field).run memory = some (result, between) ∧
          CallsEntry extract path value between fields next := by
  constructor
  · intro entry
    generalize entriesAre : field :: fields = entries at entry
    cases entry with
    | @intro front back key outputKey presence lower results between given before asked =>
        cases front with
        | nil =>
            cases before
            cases entriesAre
            simp [Field.call?, asked]
        | cons first front =>
            cases entriesAre
            rw [List.mapM_cons, StateT.run_bind] at before
            obtain ⟨⟨result, middle⟩, firstEnds, before⟩ := Option.bind_eq_some_iff.mp before
            rw [StateT.run_bind] at before
            obtain ⟨⟨rest, _⟩, restEnds, same⟩ := Option.bind_eq_some_iff.mp before
            cases same
            exact .inr ⟨result, middle, firstEnds, .intro restEnds asked⟩
  · rintro (here | ⟨result, between, ends, later⟩)
    · cases field with
      | state => contradiction
      | read key outputKey presence lower =>
          obtain ⟨given, asked, rfl⟩ := Option.map_eq_some_iff.mp here
          have first : CallsEntry extract path value memory
              ([] ++ .read key outputKey presence lower :: fields) _ := .intro rfl asked
          exact first
    · cases later with
      | @intro front back _ _ _ _ results last _ before asked =>
          have bothEnd : ((field :: front).mapM (extract.entry path value)).run memory =
              some (result :: results, last) := by
            simp [ends, before]
          exact .intro bothEnd asked

theorem mem_fieldCalls_iff {fields : List (Field Node)} :
    next ∈ extract.fieldCalls path value fields memory ↔
      CallsEntry extract path value memory fields next := by
  induction fields generalizing memory with
  | nil => exact iff_of_false List.not_mem_nil not_callsEntry_nil
  | cons field fields inductionHypothesis =>
      rw [fieldCalls, List.mem_append, Option.mem_toList, callsEntry_cons_iff]
      cases ends : (extract.entry path value field).run memory with
      | none => simp
      | some ending =>
          rcases ending with ⟨result, between⟩
          simp [inductionHypothesis]

theorem mem_alternativeCalls_iff {nodes : List Node} :
    next ∈ extract.alternativeCalls path value nodes memory ↔
      ∃ front lower back results between, nodes = front ++ lower :: back ∧
        (front.mapM (extract · path value)).run memory = some (results, between) ∧
        (∀ result ∈ results, ¬ Outcome.Succeeds result) ∧
        next = ⟨lower, path, value, between⟩ := by
  induction nodes generalizing memory with
  | nil => simp [alternativeCalls]
  | cons node nodes inductionHypothesis =>
      rw [alternativeCalls, List.mem_cons]
      constructor
      · rintro (rfl | later)
        · exact ⟨[], node, nodes, [], memory, rfl, rfl, by simp, rfl⟩
        · cases ends : (extract node path value).run memory with
          | none => simp [ends] at later
          | some ending =>
              rcases ending with ⟨outcome, between⟩
              cases outcome with
              | ok result => simp [ends] at later
              | error faults =>
                  simp only [ends] at later
                  obtain ⟨front, lower, back, results, last, rfl, before, failed, rfl⟩ :=
                    inductionHypothesis.mp later
                  exact ⟨node :: front, lower, back, .error faults :: results, last, rfl,
                    by simp [ends, before],
                    List.forall_mem_cons.mpr ⟨Outcome.not_succeeds_error faults, failed⟩, rfl⟩
      · rintro ⟨front, lower, back, results, between, split, before, failed, rfl⟩
        cases front with
        | nil =>
            cases split
            cases before
            exact .inl rfl
        | cons first front =>
            cases split
            rw [List.mapM_cons, StateT.run_bind] at before
            obtain ⟨⟨outcome, middle⟩, firstEnds, before⟩ := Option.bind_eq_some_iff.mp before
            rw [StateT.run_bind] at before
            obtain ⟨⟨rest, _⟩, restEnds, same⟩ := Option.bind_eq_some_iff.mp before
            cases same
            cases outcome with
            | ok result => exact absurd (Outcome.succeeds_ok result) (failed _ (.head _))
            | error faults =>
                simp only [firstEnds]
                exact .inr (inductionHypothesis.mpr ⟨front, lower, back, rest, _, rfl, restEnds,
                  fun result member => failed result (.tail _ member), rfl⟩)

end Extractor

namespace Visit

variable {definitions : Definitions} {extract : Extractor} {visit next : Visit}

private theorem calls_of_mem_calls (member : next ∈ visit.calls definitions extract) :
    Calls definitions extract visit next := by
  rcases visit with ⟨⟨schema, address, scope⟩, path, value, memory⟩
  cases schema with simp only [Visit.calls] at member
  | object fields => exact .field .object (Extractor.mem_fieldCalls_iff.mp member)
  | oneOf alternatives =>
      obtain ⟨front, lower, back, results, between, split, before, failed, rfl⟩ :=
        Extractor.mem_alternativeCalls_iff.mp member
      exact .alternative rfl split before failed
  | choose key branches =>
      split at member
      · contradiction
      · next chosen found =>
          split at member
          · contradiction
          · next branch known =>
              cases List.mem_singleton.mp member
              exact .branch rfl found known
  | thunk | reference =>
      cases List.mem_singleton.mp member
      exact .thunk rfl
  | recursive =>
      cases List.mem_singleton.mp member
      exact .recursive rfl
  | self =>
      split at member
      · contradiction
      · next target found =>
          cases List.mem_singleton.mp member
          exact .handle rfl found
  | boxed =>
      cases List.mem_singleton.mp member
      exact .boxed rfl
  | _ => contradiction

private theorem mem_calls_of_calls
    (reads : (∃ fields, visit.node.schema = .object fields) ∨ visit.node.schema.passesOn = true)
    (calls : Calls definitions extract visit next) : next ∈ visit.calls definitions extract := by
  cases calls with
  | @field node path value memory next fields isRead entry =>
      rcases node with ⟨schema, address, scope⟩
      cases isRead with
      | object => exact Extractor.mem_fieldCalls_iff.mpr entry
      | closed => simp [Schema.passesOn] at reads
  | alternative shape split before failed =>
      rw [Visit.calls, shape]
      exact Extractor.mem_alternativeCalls_iff.mpr
        ⟨_, _, _, _, _, split, before, failed, rfl⟩
  | branch shape found known => simp [Visit.calls, shape, found, known]
  | @thunk node path value memory thunk isThunk =>
      rcases node with ⟨schema, address, scope⟩
      cases schema with
      | thunk | reference =>
          cases isThunk
          exact .head _
      | _ => contradiction
  | recursive shape | boxed shape => simp [Visit.calls, shape]
  | handle shape found => simp [Visit.calls, shape, found]
  | item shape | member shape | supplied shape => simp [shape, Schema.passesOn] at reads

/-- The calls in order are the calls that the run makes. -/
theorem mem_calls_iff
    (reads : (∃ fields, visit.node.schema = .object fields) ∨ visit.node.schema.passesOn = true) :
    next ∈ visit.calls definitions extract ↔ Calls definitions extract visit next :=
  ⟨calls_of_mem_calls, mem_calls_of_calls reads⟩

end Visit

end Extraction
