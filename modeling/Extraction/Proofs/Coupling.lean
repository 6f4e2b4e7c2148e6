import Extraction.Proofs.Selection

/-!
# One schema from two memories

Extraction looks at its memory in two places only: where it forces a thunk, and where it asks for a
supplied schema.  A link between memories that makes no difference there, and that the things which
extraction does to its memory keep, couples all runs of extraction from linked memories.  So it is
with the runs of a node and of a copy of it that stands elsewhere.
-/

namespace Extraction

/-- Linked memories look the same to one step on a node, and stay linked whatever the step itself
does to both. -/
structure Memory.Preserves (definitions : Definitions) (linked : Memory → Memory → Prop)
    (node : Node) : Prop where
  notes : ∀ memory changed, linked memory changed → ∀ texts : List String,
    linked (memory.record (texts.map .note)) (changed.record (texts.map .note))
  force : ∀ memory changed, linked memory changed →
    ∀ thunk, node.thunk? definitions = some thunk →
      (memory.force definitions thunk).1 = (changed.force definitions thunk).1 ∧
        linked (memory.force definitions thunk).2 (changed.force definitions thunk).2
  request : ∀ memory changed, linked memory changed →
    ∀ first later, node.schema = .supplied first later →
      node.supply first later (memory.requests.count node.address) =
          node.supply first later (changed.requests.count node.address) ∧
        linked (memory.request node.address) (changed.request node.address)

theorem Memory.preserves_eq (definitions : Definitions) (node : Node) :
    Preserves definitions Eq node where
  notes := by
    rintro memory _ rfl texts
    rfl
  force := by
    rintro memory _ rfl thunk _
    exact ⟨rfl, rfl⟩
  request := by
    rintro memory _ rfl first later _
    exact ⟨rfl, rfl⟩

/-! ## Copies of nodes -/

namespace Node

/-- A node and its copy look the same to one step from linked memories, which stay linked, and
copies of what stands below the node stand below the copy. -/
structure Copied (definitions : Definitions) (linked : Memory → Memory → Prop) (copy : Node → Node)
    (node : Node) : Prop where
  schema : (copy node).schema = node.schema
  child : ∀ position schema, copy (node.child position schema) = (copy node).child position schema
  recursiveBody : ∀ label body,
    copy (node.recursiveBody label body) = (copy node).recursiveBody label body
  owner : ∀ label, (copy node).scope.find? label = (node.scope.find? label).map copy
  notes : ∀ memory changed, linked memory changed → ∀ texts : List String,
    linked (memory.record (texts.map .note)) (changed.record (texts.map .note))
  force : ∀ memory changed, linked memory changed →
    ∀ thunk, node.thunk? definitions = some thunk →
      ∃ other, (copy node).thunk? definitions = some other ∧
        (changed.force definitions other).1 = copy (memory.force definitions thunk).1 ∧
        linked (memory.force definitions thunk).2 (changed.force definitions other).2
  request : ∀ memory changed, linked memory changed →
    ∀ first later, node.schema = .supplied first later →
      (copy node).supply first later (changed.requests.count (copy node).address) =
          copy (node.supply first later (memory.requests.count node.address)) ∧
        linked (memory.request node.address) (changed.request (copy node).address)

/-- A node is a copy of itself. -/
theorem copied_id {definitions : Definitions} {linked : Memory → Memory → Prop} {node : Node}
    (preserves : Memory.Preserves definitions linked node) :
    node.Copied definitions linked id where
  schema := rfl
  child := fun _ _ => rfl
  recursiveBody := fun _ _ => rfl
  owner := fun _ => Option.map_id_apply.symm
  notes := preserves.notes
  force := by
    intro memory changed isLinked thunk isThunk
    obtain ⟨sameDelegate, linkedAfter⟩ := preserves.force memory changed isLinked thunk isThunk
    exact ⟨thunk, isThunk, sameDelegate.symm, linkedAfter⟩
  request := by
    intro memory changed isLinked first later shape
    obtain ⟨sameSupply, linkedAfter⟩ := preserves.request memory changed isLinked first later shape
    exact ⟨sameSupply.symm, linkedAfter⟩

section

variable {copy : Node → Node} {node : Node}
  (child : ∀ position schema,
    copy (node.child position schema) = (copy node).child position schema)

include child

theorem children_copy (start : Nat) (schemas : List Schema) :
    (copy node).children start schemas = (node.children start schemas).map copy := by
  induction schemas generalizing start with
  | nil => rfl
  | cons schema schemas inductionHypothesis =>
      simp only [children, List.map_cons, inductionHypothesis, child]

theorem fields_copy (start : Nat) (fields : List (Field Schema)) :
    (copy node).fields start fields = (node.fields start fields).map (Field.map copy) := by
  induction fields generalizing start with
  | nil => rfl
  | cons field fields inductionHypothesis =>
      cases field <;> simp only [Node.fields, List.map_cons, Field.map, inductionHypothesis, child]

theorem branches_copy (start : Nat) (branches : List (String × Schema)) :
    (copy node).branches start branches =
      (node.branches start branches).map (Prod.map id copy) := by
  induction branches generalizing start with
  | nil => rfl
  | cons branch branches inductionHypothesis =>
      simp only [Node.branches, List.map_cons, inductionHypothesis, child, Prod.map, id]

end

end Node

namespace Extractor

variable {definitions : Definitions} {linked : Memory → Memory → Prop} {copy : Node → Node}
  {node : Node} (copied : node.Copied definitions linked copy) {left right : Extractor}
  {path : Path} {value : Value} {memory changed : Memory} (isLinked : linked memory changed)
  (nested : ∀ lower place given between otherBetween, linked between otherBetween →
    Calls definitions left ⟨node, path, value, memory⟩ ⟨lower, place, given, between⟩ →
    Run.Coupled linked (left lower place given) (right (copy lower) place given) between
      otherBetween)

include copied isLinked nested

private theorem coupled_copiedAlternatives {alternatives : List Schema}
    (shape : node.schema = .oneOf alternatives) :
    Run.Coupled linked (left.oneOf path value [] (node.children 0 alternatives))
      (right.oneOf path value [] ((copy node).children 0 alternatives)) memory changed := by
  rw [← List.map_id (node.children 0 alternatives), Node.children_copy copied.child]
  apply coupled_oneOf isLinked
  intro front lower back split results between otherBetween before failed linkedBetween
  rw [List.map_id] at before
  exact nested lower path value between otherBetween linkedBetween
    (.alternative shape split before failed)

private theorem coupled_copiedFields {fields : List (Field Schema)}
    (reads : node.schema.Reads value fields) :
    Run.Coupled linked (left.object path (node.fields 0 fields) value)
      (right.object path ((copy node).fields 0 fields) value) memory changed := by
  rw [← Field.map_id_list (node.fields 0 fields), Node.fields_copy copied.child]
  apply coupled_object copied.notes isLinked
  intro field member lower inside place given between otherBetween linkedBetween entry
  rw [Field.map_id_list] at entry
  exact nested lower place given between otherBetween linkedBetween (.field reads entry)

private theorem coupled_copiedMembers {keys : Validator} {values : Schema}
    (shape : node.schema = .setOf keys values) :
    Run.Coupled linked (left.setOf keys path (node.child 0 values) value)
      (right.setOf keys path ((copy node).child 0 values) value) memory changed := by
  obtain ⟨texts, judges⟩ := exists_run_keys keys path value.entries.keys
  have judged : Run.Coupled linked (Extractor.keys keys path value.entries.keys)
      (Extractor.keys keys path value.entries.keys) memory changed := by
    rw [Run.Coupled, judges, judges]
    exact .some ⟨rfl, copied.notes memory changed isLinked texts⟩
  apply judged.bind
  intro verdict between otherBetween ends linkedBetween
  cases verdict with
  | error faults => exact .pure linkedBetween
  | ok names =>
      dsimp only
      rw [← Field.map_id_list
        (names.map fun name => Field.read name name .strict (node.child 0 _)), ← copied.child,
        ← Field.map_members copy]
      apply coupled_object copied.notes linkedBetween
      intro field member lower inside place given last otherLast linkedLast entry
      rw [Field.map_id_list] at entry
      exact nested lower place given last otherLast linkedLast (.member shape ends entry)

private theorem coupled_copiedThunk {thunk other : Thunk}
    (isThunk : node.thunk? definitions = some thunk)
    (isCopy : (copy node).thunk? definitions = some other) :
    Run.Coupled linked (left.thunk definitions thunk path value)
      (right.thunk definitions other path value) memory changed := by
  obtain ⟨_, isOther, sameDelegate, linkedAfter⟩ :=
    copied.force memory changed isLinked thunk isThunk
  cases isCopy.symm.trans isOther
  have delegated := nested (memory.force definitions thunk).1 path value _ _ linkedAfter
    (.thunk isThunk)
  rw [Run.Coupled, Extractor.thunk, Extractor.thunk, StateT.run_bind, StateT.run_bind,
    Run.run_force, Run.run_force, ← Prod.eta (changed.force definitions other), sameDelegate]
  exact delegated

private theorem coupled_copiedElements {element : Schema} {items : List Value}
    (isArray : value = .array items) (shape : node.schema = .array element) :
    Run.Coupled linked
      (do return (← left.items path (node.child 0 element) items).map Value.array)
      (do return (← right.items path ((copy node).child 0 element) items).map Value.array) memory
      changed := by
  rw [← copied.child]
  apply Run.Coupled.bind (coupled_items isLinked _)
  · intro _ _ _ _ linkedAfter
    exact .pure linkedAfter
  · rintro front given back rfl results between otherBetween before linkedBetween
    subst isArray
    exact nested _ _ given between otherBetween linkedBetween (.item shape before)

private theorem coupled_copiedChoose {key : String} {branches : List (String × Schema)}
    (shape : node.schema = .choose key branches) :
    Run.Coupled linked (left.choose path key (node.branches 0 branches) value)
      (right.choose path key ((copy node).branches 0 branches) value) memory changed := by
  simp only [choose, Node.branches_copy copied.child, Schema.branch?_map, Schema.branchNames_map]
  cases found : value.get? key with
  | none => exact .pure isLinked
  | some chosen =>
      dsimp only
      cases known : Schema.branch? (branchName chosen) (node.branches 0 branches) with
      | none => exact .pure isLinked
      | some branch =>
          exact nested branch _ value memory changed isLinked (.branch shape found known)

private theorem coupled_copiedSupplied {first : Schema} {later : List Schema}
    (shape : node.schema = .supplied first later) :
    Run.Coupled linked
      (do left (node.supply first later (← Run.request node.address)) path value)
      (do right ((copy node).supply first later (← Run.request (copy node).address)) path value)
      memory changed := by
  obtain ⟨sameSupply, linkedAfter⟩ := copied.request memory changed isLinked first later shape
  have supplied := nested _ path value _ _ linkedAfter (.supplied shape)
  rw [Run.Coupled, StateT.run_bind, StateT.run_bind, Run.run_request, Run.run_request]
  simp only [Option.bind_eq_bind, Option.bind_some]
  rw [sameSupply]
  exact supplied

/-- One step on a node and on its copy, from linked memories, is coupled, if the runs are coupled
that it calls. -/
theorem coupled_copiedStep :
    Run.Coupled linked (Extractor.step definitions left node path value)
      (Extractor.step definitions right (copy node) path value) memory changed := by
  have nestedHere (lower : Node) (place : Path) (given : Value)
      (calls : Calls definitions left ⟨node, path, value, memory⟩ ⟨lower, place, given, memory⟩) :=
    nested lower place given memory changed isLinked calls
  cases shape : node.schema with simp only [Extractor.step, copied.schema, shape]
  | leaf validator =>
      apply Run.Coupled.bind (.perform copied.notes _ isLinked)
      intro _ _ _ _ linkedAfter
      exact .pure linkedAfter
  | object fields =>
      apply coupled_copiedFields copied isLinked nested
      rw [shape]
      exact .object
  | closed fields =>
      split
      · next supported =>
          apply coupled_copiedFields copied isLinked nested
          rw [shape]
          exact .closed supported
      · exact .pure isLinked
  | array element =>
      cases value with
      | array items => exact coupled_copiedElements copied isLinked nested rfl shape
      | _ => exact .pure isLinked
  | oneOf alternatives => exact coupled_copiedAlternatives copied isLinked nested shape
  | setOf keys values => exact coupled_copiedMembers copied isLinked nested shape
  | choose key branches => exact coupled_copiedChoose copied isLinked nested shape
  | function parameters retriever => cases value <;> exact .pure isLinked
  | thunk | reference =>
      apply coupled_copiedThunk copied isLinked nested
      · rw [Node.thunk?, shape]
      · rw [Node.thunk?, copied.schema, shape]
  | supplied first later => exact coupled_copiedSupplied copied isLinked nested shape
  | recursive label body =>
      rw [← copied.recursiveBody]
      exact nestedHere _ path value (.recursive shape)
  | self label =>
      rw [copied.owner]
      cases found : node.scope.find? label with
      | none => exact .pure isLinked
      | some target => exact nestedHere target path value (.handle shape found)
  | released label => exact .pure isLinked
  | boxed inner =>
      rw [← copied.child]
      exact nestedHere _ path value (.boxed shape)

end Extractor

/-- One step on the same node from linked memories is coupled, if the runs are coupled that it
calls. -/
theorem Extractor.coupled_sameStep {definitions : Definitions} {linked : Memory → Memory → Prop}
    {node : Node} (preserves : Memory.Preserves definitions linked node) {left right : Extractor}
    {path : Path} {value : Value} {memory changed : Memory} (isLinked : linked memory changed)
    (nested : ∀ lower place given between otherBetween, linked between otherBetween →
      Calls definitions left ⟨node, path, value, memory⟩ ⟨lower, place, given, between⟩ →
      Run.Coupled linked (left lower place given) (right lower place given) between otherBetween) :
    Run.Coupled linked (Extractor.step definitions left node path value)
      (Extractor.step definitions right node path value) memory changed :=
  coupled_copiedStep (Node.copied_id preserves) isLinked nested

/-- Extraction runs alike from linked memories. -/
theorem extract_coupled {definitions : Definitions} {linked : Memory → Memory → Prop}
    (preserves : ∀ node, Memory.Preserves definitions linked node) (depth : Nat) (node : Node)
    (path : Path) (value : Value) {memory changed : Memory} (isLinked : linked memory changed) :
    Run.Coupled linked (extract definitions depth node path value)
      (extract definitions depth node path value) memory changed := by
  induction depth generalizing node path value memory changed with
  | zero => exact .exhausted
  | succ depth inductionHypothesis =>
      apply Extractor.coupled_sameStep (preserves node) isLinked
      intro lower place given between otherBetween linkedBetween _
      exact inductionHypothesis lower place given linkedBetween

/-! ## Memories that differ in their notes -/

/-- Whether an event is a note of the host. -/
def Event.isNote : Event → Bool
  | note _ => true
  | _ => false

/-- Two memories that remember the same, up to the notes that the host has left. -/
structure Memory.SameButNotes (memory changed : Memory) : Prop where
  created : memory.created = changed.created
  cells : memory.cells = changed.cells
  requests : memory.requests = changed.requests
  describing : memory.describing = changed.describing
  log : memory.log.filter (!·.isNote) = changed.log.filter (!·.isNote)

namespace Memory.SameButNotes

variable {memory changed : Memory}

theorem refl (memory : Memory) : memory.SameButNotes memory :=
  ⟨rfl, rfl, rfl, rfl, rfl⟩

/-- Notes may be left on both sides, be they the same or not. -/
theorem notes (same : memory.SameButNotes changed) (first second : List String) :
    (memory.record (first.map .note)).SameButNotes (changed.record (second.map .note)) := by
  have noNotes (texts : List String) : (texts.map Event.note).filter (!·.isNote) = [] := by
    simp [Event.isNote]
  exact ⟨same.created, same.cells, same.requests, same.describing,
    by simp only [Memory.record, List.filter_append, noNotes, same.log]⟩

theorem force (definitions : Definitions) (same : memory.SameButNotes changed) (thunk : Thunk) :
    (memory.force definitions thunk).1 = (changed.force definitions thunk).1 ∧
      (memory.force definitions thunk).2.SameButNotes (changed.force definitions thunk).2 := by
  have sameCell : memory.cell? thunk.address = changed.cell? thunk.address := by
    rw [Memory.cell?, Memory.cell?, same.cells]
  simp only [Memory.force, ← sameCell]
  cases memory.cell? thunk.address with
  | some delegate => exact ⟨rfl, same⟩
  | none =>
      constructor
      · rfl
      · exact ⟨by simp [build, same.created], by simp [build, same.cells], same.requests,
          same.describing, by simp only [build, List.filter_append, same.log]⟩

theorem request (same : memory.SameButNotes changed) (address : Address) :
    memory.requests.count address = changed.requests.count address ∧
      (memory.request address).SameButNotes (changed.request address) := by
  rw [← same.requests]
  exact ⟨rfl, same.created, same.cells, by simp [Memory.request, same.requests], same.describing,
    by simp only [Memory.request, List.filter_append, same.log, same.requests]⟩

/-- Extraction cannot tell such memories apart. -/
theorem preserves (definitions : Definitions) (node : Node) :
    Memory.Preserves definitions SameButNotes node where
  notes _ _ same texts := same.notes texts texts
  force _ _ same thunk _ := same.force definitions thunk
  request _ _ same _ _ _ := by
    obtain ⟨sameCount, sameAfter⟩ := same.request node.address
    exact ⟨by rw [sameCount], sameAfter⟩

end Memory.SameButNotes

end Extraction
