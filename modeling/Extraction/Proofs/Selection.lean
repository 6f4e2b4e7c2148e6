import Extraction.Proofs.Calls
import Extraction.Proofs.Filling
import Extraction.Proofs.History

/-!
# Schemas that are not selected

The same context is filled with two schemas.  Where no run of the first filling selects what fills
the holes, the second filling is run in the same way: with the same result, with the same events,
and with the same memory of all that stands outside the holes.
-/

namespace Extraction

/-- Two memories agree on what stands outside the holes of a context: the same thunks have been
built, and the same supplied schemas were asked for as often. -/
structure Memory.AgreeOutside (definitions : Definitions) (context : Schema) (hole : String)
    (memory changed : Memory) : Prop where
  isBuilt : ∀ thunk : Thunk, thunk.Stands definitions context →
    memory.isBuilt thunk.address = changed.isBuilt thunk.address
  requests : ∀ node : Node, node.Stands definitions context → node.schema ≠ .self hole →
    memory.requests.count node.address = changed.requests.count node.address

private theorem lookup_filterMap {κ α β : Type} [BEq κ] [LawfulBEq κ] (keep : κ → Option β)
    (cells : List (κ × α)) (key : κ) :
    (cells.filterMap fun cell => (keep cell.1).map (cell.1, ·)).lookup key =
      (cells.lookup key).bind fun _ => keep key := by
  induction cells with
  | nil => rfl
  | cons cell cells inductionHypothesis =>
      rcases cell with ⟨other, held⟩
      cases kept : keep other with
      | none =>
          by_cases same : key = other
          · subst same
            simp [kept, inductionHypothesis]
          · simp [kept, inductionHypothesis, List.lookup_cons, beq_false_of_ne same]
      | some found =>
          by_cases same : key = other
          · subst same
            simp [kept]
          · simp [kept, inductionHypothesis, List.lookup_cons, beq_false_of_ne same]

/-- Every memory has its like among the sound memories for another filling. -/
theorem Memory.exists_agreeOutside (definitions : Definitions) (context : Schema) (hole : String)
    (other : Schema) (memory : Memory) :
    ∃ changed : Memory, changed.Sound (definitions.fill hole other) (.fill hole other context) [] ∧
      memory.AgreeOutside definitions context hole changed ∧ changed.log = memory.log := by
  -- Of the cells only those outside the holes are kept, and what they hold is filled anew.
  let keep (address : Address) : Option Node :=
    ((Node.at? definitions context address).bind (Node.thunk? definitions)).map fun thunk =>
      thunk.delegate.fill hole other
  let changed : Memory := { memory with
    created := []
    cells := memory.cells.filterMap fun cell => (keep cell.1).map (cell.1, ·)
    describing := [] }
  have cell? (address : Address) :
      changed.cell? address = (memory.cell? address).bind fun _ => keep address :=
    lookup_filterMap keep memory.cells address
  have kept {node : Node} {thunk : Thunk} (stands : node.Stands definitions context)
      (isThunk : node.thunk? definitions = some thunk) :
      keep thunk.address = some (thunk.delegate.fill hole other) := by
    simp only [keep]
    rw [Node.address_of_thunk? isThunk, stands, Option.bind_some, isThunk, Option.map_some]
  refine ⟨changed, ⟨by simp [changed], ?_, rfl⟩, ⟨?_, fun _ _ _ => rfl⟩, rfl⟩
  · intro thunk stands delegate held
    rw [cell?] at held
    obtain ⟨_, _, found⟩ := Option.bind_eq_some_iff.mp held
    obtain ⟨written, isWritten, rfl⟩ := Option.map_eq_some_iff.mp found
    obtain ⟨node, nodeAt, isThunk⟩ := Option.bind_eq_some_iff.mp isWritten
    have filledStands : (written.fill hole other).Stands (definitions.fill hole other)
        (.fill hole other context) := Thunk.Stands.fill ⟨node, Node.stands_of_at? nodeAt, isThunk⟩
    have sameAddress : written.address = thunk.address :=
      (Node.address_of_thunk? isThunk).trans (Node.address_of_at? nodeAt)
    rw [← filledStands.eq_of_address_eq stands sameAddress]
    rfl
  · rintro thunk ⟨node, stands, isThunk⟩
    rw [Memory.isBuilt, Memory.isBuilt, cell?, kept stands isThunk]
    cases memory.cell? thunk.address <;> rfl

/-- The memories of two runs, of a context filled in one way and in another way: both are sound and
agree outside the holes, and the same events were added to what the logs were at the start. -/
structure Memory.Linked (definitions : Definitions) (context : Schema) (hole : String)
    (filling other : Schema) (start otherStart memory changed : Memory) : Prop where
  sound : memory.Sound (definitions.fill hole filling) (.fill hole filling context) []
  changedSound : changed.Sound (definitions.fill hole other) (.fill hole other context) []
  agree : memory.AgreeOutside definitions context hole changed
  added : ∃ events, memory.log = start.log ++ events ∧ changed.log = otherStart.log ++ events

section

variable {definitions : Definitions} {context : Schema} {hole : String} {filling other : Schema}
  {start otherStart memory changed : Memory} {node : Node}

namespace Memory

theorem requests_force (definitions : Definitions) (thunk : Thunk) (memory : Memory) :
    (memory.force definitions thunk).2.requests = memory.requests := by
  cases held : memory.cell? thunk.address <;> simp [force, held, build]

/-- Whether forcing a thunk leaves an event depends only on whether it has been built. -/
theorem log_force (definitions : Definitions) (thunk : Thunk) (memory : Memory) :
    (memory.force definitions thunk).2.log =
      memory.log ++ if memory.isBuilt thunk.address then [] else [.built thunk.factory] := by
  cases held : memory.cell? thunk.address <;> simp [force, isBuilt, held, build]

namespace Linked

theorem record
    (linked : Linked definitions context hole filling other start otherStart memory changed)
    (events : List Event) :
    Linked definitions context hole filling other start otherStart (memory.record events)
      (changed.record events) := by
  obtain ⟨earlier, log, changedLog⟩ := linked.added
  refine ⟨linked.sound.record events, linked.changedSound.record events,
    ⟨linked.agree.isBuilt, linked.agree.requests⟩, earlier ++ events, ?_, ?_⟩
  · rw [Memory.record, log, List.append_assoc]
  · rw [Memory.record, changedLog, List.append_assoc]

/-- A supplied schema that stands outside the holes is asked for on both sides. -/
theorem request
    (linked : Linked definitions context hole filling other start otherStart memory changed)
    (stands : node.Stands definitions context) (notHole : node.schema ≠ .self hole) :
    Linked definitions context hole filling other start otherStart (memory.request node.address)
      (changed.request node.address) := by
  obtain ⟨earlier, log, changedLog⟩ := linked.added
  have sameCount := linked.agree.requests node stands notHole
  refine ⟨linked.sound.request _, linked.changedSound.request _,
    ⟨linked.agree.isBuilt, fun lower lowerStands lowerNotHole => ?_⟩,
    earlier ++ [.requested (memory.requests.count node.address)], ?_, ?_⟩
  · have sameRequests := linked.agree.requests lower lowerStands lowerNotHole
    simp only [Memory.request, List.count_cons, sameRequests]
  · rw [Memory.request, log, List.append_assoc]
  · rw [Memory.request, changedLog, sameCount, List.append_assoc]

/-- A thunk that stands outside the holes is built on both sides or on neither. -/
theorem force
    (linked : Linked definitions context hole filling other start otherStart memory changed)
    {thunk : Thunk} (stands : thunk.Stands definitions context) :
    ∃ after changedAfter,
      memory.force (definitions.fill hole filling) (thunk.fill hole filling) =
        (thunk.delegate.fill hole filling, after) ∧
      changed.force (definitions.fill hole other) (thunk.fill hole other) =
        (thunk.delegate.fill hole other, changedAfter) ∧
      Linked definitions context hole filling other start otherStart after changedAfter := by
  obtain ⟨after, forced, sound⟩ := linked.sound.force stands.fill
  obtain ⟨changedAfter, changedForced, changedSound⟩ :=
    linked.changedSound.force stands.fill
  have isAfter : after = (memory.force (definitions.fill hole filling)
      (thunk.fill hole filling)).2 := by rw [forced]
  have isChangedAfter : changedAfter = (changed.force (definitions.fill hole other)
      (thunk.fill hole other)).2 := by rw [changedForced]
  refine ⟨after, changedAfter, forced, changedForced, sound, changedSound, ⟨?_, ?_⟩, ?_⟩
  · intro lower lowerStands
    rw [isAfter, isChangedAfter, isBuilt_force, isBuilt_force,
      linked.agree.isBuilt lower lowerStands]
    rfl
  · intro lower lowerStands lowerNotHole
    rw [isAfter, isChangedAfter, requests_force, requests_force,
      linked.agree.requests lower lowerStands lowerNotHole]
  · obtain ⟨earlier, log, changedLog⟩ := linked.added
    have sameBuilt := linked.agree.isBuilt thunk stands
    refine ⟨earlier ++ if memory.isBuilt thunk.address then [] else [.built thunk.factory], ?_, ?_⟩
    · rw [isAfter, log_force, log, List.append_assoc]
      rfl
    · rw [isChangedAfter, log_force, changedLog, sameBuilt, List.append_assoc]
      rfl

end Linked

end Memory

end

/-! ## Coupled runs of the combinators -/

section

variable {linked : Memory → Memory → Prop}
  (records : ∀ memory changed, linked memory changed →
    ∀ texts : List String, linked (Memory.record memory (texts.map .note))
      (Memory.record changed (texts.map .note)))
  {left right : Extractor} {change otherChange : Node → Node} {path : Path} {value : Value}
  {memory changed : Memory}

include records in
theorem Run.Coupled.perform {α : Type} (computation : Traced α)
    (isLinked : linked memory changed) :
    Run.Coupled linked (Run.perform computation) (Run.perform computation) memory changed :=
  .some ⟨rfl, records _ _ isLinked _⟩

namespace Extractor

include records in
theorem coupled_entry {field : Field Node} (isLinked : linked memory changed)
    (nested : ∀ key outputKey presence lower given, field = .read key outputKey presence lower →
      (presence.resolve value key).value.given? = some given →
      ∀ otherBetween,
        linked (memory.record ((presence.resolve value key).notes.map .note)) otherBetween →
        Run.Coupled linked (left (change lower) (path.pushField key) given)
          (right (otherChange lower) (path.pushField key) given)
          (memory.record ((presence.resolve value key).notes.map .note)) otherBetween) :
    Run.Coupled linked (left.entry path value (field.map change))
      (right.entry path value (field.map otherChange)) memory changed := by
  cases field with
  | state outputKey generator =>
      exact .bind (.perform records _ isLinked) fun _ _ _ _ linkedAfter => .pure linkedAfter
  | read key outputKey presence lower =>
      refine .bind (.bind (.perform records _ isLinked) ?_) fun _ _ _ _ linkedAfter =>
        .pure linkedAfter
      intro resolution between otherBetween ends linkedBetween
      cases ends
      have given (found : Value)
          (asked : (presence.resolve value key).value.given? = some found) :=
        nested key outputKey presence lower found rfl asked otherBetween linkedBetween
      cases resolved : (presence.resolve value key).value with
      | missing | skipped => exact .pure linkedBetween
      | plain found => exact given found (by rw [resolved]; rfl)
      | optional found =>
          exact .bind (given found (by rw [resolved]; rfl)) fun _ _ _ _ linkedAfter =>
            .pure linkedAfter

include records in
theorem coupled_object {entries : List (Field Node)} (isLinked : linked memory changed)
    (nested : ∀ field ∈ entries, ∀ lower, field.schema? = some lower →
      ∀ place given between otherBetween, linked between otherBetween →
      CallsEntry left path value memory (entries.map (Field.map change))
        ⟨change lower, place, given, between⟩ →
      Run.Coupled linked (left (change lower) place given) (right (otherChange lower) place given)
        between otherBetween) :
    Run.Coupled linked (left.object path (entries.map (Field.map change)) value)
      (right.object path (entries.map (Field.map otherChange)) value) memory changed := by
  refine .bind ?_ fun _ _ _ _ linkedAfter => .pure linkedAfter
  rw [List.mapM_map, List.mapM_map]
  refine .mapM ?_ isLinked
  intro front field back split results between otherBetween before linkedBetween
  apply coupled_entry records linkedBetween
  rintro key outputKey presence lower given rfl asked otherAfter linkedAfter
  have member : .read key outputKey presence lower ∈ entries := by
    rw [split]
    exact List.mem_append_right _ (.head _)
  apply nested _ member lower rfl _ given _ otherAfter linkedAfter
  rw [split, List.map_append, List.map_cons]
  exact .intro (by rw [List.mapM_map]; exact before) asked

theorem coupled_oneOf {nodes : List Node} {earlier : List Fault}
    (isLinked : linked memory changed)
    (nested : ∀ front lower back, nodes = front ++ lower :: back →
      ∀ results between otherBetween,
      ((front.map change).mapM (left · path value)).run memory = some (results, between) →
      (∀ result ∈ results, ¬ Outcome.Succeeds result) → linked between otherBetween →
      Run.Coupled linked (left (change lower) path value) (right (otherChange lower) path value)
        between otherBetween) :
    Run.Coupled linked (left.oneOf path value earlier (nodes.map change))
      (right.oneOf path value earlier (nodes.map otherChange)) memory changed := by
  induction nodes generalizing memory changed earlier with
  | nil =>
      simp only [List.map_nil, Extractor.oneOf]
      split <;> exact .pure isLinked
  | cons node nodes inductionHypothesis =>
      have first := nested [] node nodes rfl [] memory changed rfl (by simp) isLinked
      refine first.bind fun outcome between otherBetween ends linkedBetween => ?_
      cases outcome with
      | ok result => exact .pure linkedBetween
      | error faults =>
          apply inductionHypothesis linkedBetween
          intro front lower back split results last otherLast frontEnds failed linkedLast
          rw [List.mapM_map] at frontEnds
          have bothEnd : (((node :: front).map change).mapM (left · path value)).run memory =
              some (.error faults :: results, last) := by
            simp [ends, frontEnds]
          refine nested (node :: front) lower back (by rw [split]; rfl) _ last otherLast bothEnd ?_
            linkedLast
          exact List.forall_mem_cons.mpr ⟨Outcome.not_succeeds_error faults, failed⟩

theorem coupled_items {element otherElement : Node} {items : List Value}
    (isLinked : linked memory changed)
    (nested : ∀ front given back, items = front ++ given :: back →
      ∀ results between otherBetween,
      (front.zipIdx.mapM fun (item, index) =>
        left element (path.pushIndex index) item).run memory = some (results, between) →
      linked between otherBetween →
      Run.Coupled linked (left element (path.pushIndex front.length) given)
        (right otherElement (path.pushIndex front.length) given) between otherBetween) :
    Run.Coupled linked (left.items path element items) (right.items path otherElement items) memory
      changed := by
  refine .bind (.mapM ?_ isLinked) fun _ _ _ _ linkedAfter => .pure linkedAfter
  intro front entry back split results between otherBetween before linkedBetween
  obtain ⟨frontItems, rest, rfl, rfl, isRest⟩ := List.zipIdx_eq_append_iff.mp split
  obtain ⟨given, later, rfl, rfl, _⟩ := List.zipIdx_eq_cons_iff.mp isRest.symm
  rw [Nat.zero_add]
  exact nested frontItems given later rfl results between otherBetween before linkedBetween

end Extractor

end

/-! ## Two fillings of a context -/

namespace Extractor

section

variable {definitions : Definitions} {context : Schema} {hole : String} {filling other : Schema}
  {start otherStart memory changed : Memory} {left right : Extractor} {node : Node} {path : Path}
  {value : Value} (stands : node.Stands definitions context) (notHole : node.schema ≠ .self hole)
  (linked : Memory.Linked definitions context hole filling other start otherStart memory changed)
  (nested : ∀ lower : Node, lower.Stands definitions context →
    (lower.schema = .self hole → ∃ position, lower.address = position :: node.address) →
    ∀ place given between otherBetween,
    Memory.Linked definitions context hole filling other start otherStart between otherBetween →
    Calls (definitions.fill hole filling) left ⟨node.fill hole filling, path, value, memory⟩
      ⟨lower.fill hole filling, place, given, between⟩ →
    Run.Coupled (Memory.Linked definitions context hole filling other start otherStart)
      (left (lower.fill hole filling) place given) (right (lower.fill hole other) place given)
      between otherBetween)

include stands linked nested

private theorem coupled_fields {fields : List (Field Schema)}
    (shape : node.schema = .object fields ∨ node.schema = .closed fields)
    (reads : (node.fill hole filling).schema.Reads value
      (fields.map (Field.map (.fill hole filling)))) :
    Run.Coupled (Memory.Linked definitions context hole filling other start otherStart)
      (left.object path ((node.fill hole filling).fields 0
        (fields.map (Field.map (.fill hole filling)))) value)
      (right.object path ((node.fill hole other).fields 0
        (fields.map (Field.map (.fill hole other)))) value) memory changed := by
  rw [Node.fields_fill, Node.fields_fill]
  apply coupled_object (fun _ _ linked _ => linked.record _) linked
  intro field member lower inside place given between otherBetween linkedBetween entry
  refine nested lower (stands.fields shape member inside)
    (fun _ => Node.address_of_mem_fields member inside) _ _ _ _ linkedBetween ?_
  exact .field reads (by rw [Node.fields_fill]; exact entry)

private theorem coupled_alternatives {alternatives : List Schema}
    (shape : node.schema = .oneOf alternatives)
    (filledShape : (node.fill hole filling).schema =
      .oneOf (alternatives.map (.fill hole filling))) :
    Run.Coupled (Memory.Linked definitions context hole filling other start otherStart)
      (left.oneOf path value [] ((node.fill hole filling).children 0
        (alternatives.map (.fill hole filling))))
      (right.oneOf path value [] ((node.fill hole other).children 0
        (alternatives.map (.fill hole other)))) memory changed := by
  rw [Node.children_fill, Node.children_fill]
  apply coupled_oneOf linked
  intro front lower back split results between otherBetween before failed linkedBetween
  have member : lower ∈ node.children 0 alternatives := by
    rw [split]
    exact List.mem_append_right _ (.head _)
  have filledSplit :
      (node.fill hole filling).children 0 (alternatives.map (.fill hole filling)) =
        front.map (Node.fill hole filling) ++ lower.fill hole filling ::
          back.map (Node.fill hole filling) := by
    rw [Node.children_fill, split, List.map_append, List.map_cons]
  exact nested lower (stands.alternatives shape member)
    (fun _ => Node.address_of_mem_children member) _ _ _ _ linkedBetween
    (.alternative filledShape filledSplit before failed)

private theorem coupled_setOf {keys : Validator} {values : Schema}
    (shape : node.schema = .setOf keys values)
    (filledShape : (node.fill hole filling).schema = .setOf keys (.fill hole filling values)) :
    Run.Coupled (Memory.Linked definitions context hole filling other start otherStart)
      (left.setOf keys path ((node.fill hole filling).child 0 (.fill hole filling values)) value)
      (right.setOf keys path ((node.fill hole other).child 0 (.fill hole other values)) value)
      memory changed := by
  obtain ⟨texts, judges⟩ := exists_run_keys keys path value.entries.keys
  have judged : Run.Coupled
      (Memory.Linked definitions context hole filling other start otherStart)
      (Extractor.keys keys path value.entries.keys)
      (Extractor.keys keys path value.entries.keys) memory changed := by
    rw [Run.Coupled, judges, judges]
    exact .some ⟨rfl, linked.record _⟩
  refine .bind judged fun verdict between otherBetween ends linkedBetween => ?_
  cases verdict with
  | error faults => exact .pure linkedBetween
  | ok names =>
      have entries (filling : Schema) :
          (names.map fun name => Field.read name name .strict
            ((node.fill hole filling).child 0 (.fill hole filling values))) =
          (names.map fun name => Field.read name name .strict (node.child 0 values)).map
            (Field.map (Node.fill hole filling)) :=
        (Field.map_members (Node.fill hole filling) names (node.child 0 values)).symm
      have below : node.below? definitions 0 = some (node.child 0 values) := by
        simp [Node.below?, shape]
      dsimp only
      rw [entries, entries]
      apply coupled_object (fun _ _ linked _ => linked.record _) linkedBetween
      intro field member lower inside place given last otherLast linkedLast entry
      obtain ⟨name, _, rfl⟩ := List.mem_map.mp member
      cases inside
      refine nested (node.child 0 values) (stands.below 0 below) (fun _ => ⟨0, rfl⟩) _ _ _ _
        linkedLast (.member filledShape ends ?_)
      rw [entries]
      exact entry

private theorem coupled_branches {key : String} {branches : List (String × Schema)}
    (shape : node.schema = .choose key branches)
    (filledShape : (node.fill hole filling).schema =
      .choose key (branches.map (Prod.map id (.fill hole filling)))) :
    Run.Coupled (Memory.Linked definitions context hole filling other start otherStart)
      (left.choose path key ((node.fill hole filling).branches 0
        (branches.map (Prod.map id (.fill hole filling)))) value)
      (right.choose path key ((node.fill hole other).branches 0
        (branches.map (Prod.map id (.fill hole other)))) value) memory changed := by
  simp only [Extractor.choose, Node.branches_fill, Schema.branch?_map, Schema.branchNames_map]
  cases found : value.get? key with
  | none => exact .pure linked
  | some chosen =>
      dsimp only
      cases known : Schema.branch? (branchName chosen) (node.branches 0 branches) with
      | none => exact .pure linked
      | some branch =>
          have member := Schema.branch?_mem known
          refine nested branch (stands.branches shape member)
            (fun _ => Node.address_of_mem_branches member) _ _ _ _ linked ?_
          refine .branch filledShape found ?_
          rw [Node.branches_fill, Schema.branch?_map, known, Option.map_some]

private theorem coupled_elements {element : Schema} {items : List Value}
    (shape : node.schema = .array element)
    (filledShape : (node.fill hole filling).schema = .array (.fill hole filling element))
    (isArray : value = .array items) :
    Run.Coupled (Memory.Linked definitions context hole filling other start otherStart)
      (left.items path ((node.fill hole filling).child 0 (.fill hole filling element)) items)
      (right.items path ((node.fill hole other).child 0 (.fill hole other element)) items)
      memory changed := by
  have below : node.below? definitions 0 = some (node.child 0 element) := by
    simp [Node.below?, shape]
  subst isArray
  apply coupled_items linked
  rintro front given back rfl results between otherBetween before linkedBetween
  exact nested (node.child 0 element) (stands.below 0 below) (fun _ => ⟨0, rfl⟩) _ _ _ _
    linkedBetween (.item filledShape before)

private theorem coupled_below {lower : Node} (below : node.below? definitions 0 = some lower)
    (calls : Calls (definitions.fill hole filling) left
      ⟨node.fill hole filling, path, value, memory⟩
      ⟨lower.fill hole filling, path, value, memory⟩) :
    Run.Coupled (Memory.Linked definitions context hole filling other start otherStart)
      (left (lower.fill hole filling) path value) (right (lower.fill hole other) path value)
      memory changed :=
  nested lower (stands.below 0 below) (fun _ => ⟨0, Node.address_of_below? below⟩) _ _ _ _ linked
    calls

include notHole

private theorem coupled_thunk {thunk : Thunk} (isThunk : node.thunk? definitions = some thunk) :
    Run.Coupled (Memory.Linked definitions context hole filling other start otherStart)
      (left.thunk (definitions.fill hole filling) (thunk.fill hole filling) path value)
      (right.thunk (definitions.fill hole other) (thunk.fill hole other) path value)
      memory changed := by
  have thunkStands : thunk.Stands definitions context := ⟨node, stands, isThunk⟩
  obtain ⟨after, changedAfter, forced, changedForced, linkedAfter⟩ := linked.force thunkStands
  have isFilled : (node.fill hole filling).thunk? (definitions.fill hole filling) =
      some (thunk.fill hole filling) := by
    rw [Node.thunk?_fill notHole, isThunk, Option.map_some]
  have calls : Calls (definitions.fill hole filling) left
      ⟨node.fill hole filling, path, value, memory⟩ _ := .thunk isFilled
  rw [forced] at calls
  have delegated := nested thunk.delegate thunkStands.delegate
    (fun _ => ⟨0, Node.address_delegate_of_thunk? isThunk⟩) _ _ _ _ linkedAfter calls
  rw [Run.Coupled, Extractor.thunk, Extractor.thunk, StateT.run_bind, StateT.run_bind,
    Run.run_force, Run.run_force, forced, changedForced]
  exact delegated

private theorem coupled_supplied {first : Schema} {later : List Schema}
    (shape : node.schema = .supplied first later)
    (filledShape : (node.fill hole filling).schema =
      .supplied (.fill hole filling first) (later.map (.fill hole filling))) :
    Run.Coupled (Memory.Linked definitions context hole filling other start otherStart)
      (do
        let count ← Run.request node.address
        left ((node.supply first later count).fill hole filling) path value)
      (do
        let count ← Run.request node.address
        right ((node.supply first later count).fill hole other) path value) memory changed := by
  have requested : Run.Coupled
      (Memory.Linked definitions context hole filling other start otherStart)
      (Run.request node.address) (Run.request node.address) memory changed :=
    .some ⟨linked.agree.requests node stands notHole, linked.request stands notHole⟩
  refine requested.bind fun count between otherBetween ends linkedBetween => ?_
  cases ends
  have calls : Calls (definitions.fill hole filling) left
      ⟨node.fill hole filling, path, value, memory⟩ _ := .supplied filledShape
  rw [Node.supply_fill] at calls
  exact nested _ (stands.supply shape _) (fun _ => ⟨_, rfl⟩) _ _ _ _ linkedBetween calls

private theorem coupled_handle {label : String}
    (filledShape : (node.fill hole filling).schema = .self label) :
    Run.Coupled (Memory.Linked definitions context hole filling other start otherStart)
      (match (node.scope.find? label).map (Node.fill hole filling) with
        | some target => left target path value
        | none => return Outcome.fail (unavailable path label))
      (match (node.scope.find? label).map (Node.fill hole other) with
        | some target => right target path value
        | none => return Outcome.fail (unavailable path label)) memory changed := by
  cases found : node.scope.find? label with
  | none => exact .pure linked
  | some target =>
      refine nested target (stands.owner found)
        (fun isHole => absurd isHole (stands.owner_ne_hole notHole found)) _ _ _ _ linked ?_
      exact .handle filledShape (by rw [Node.scope_fill, Scope.find?_fill, found]; rfl)

/-- One step on a node outside the holes is coupled, if the runs are coupled that it calls. -/
theorem coupled_step :
    Run.Coupled (Memory.Linked definitions context hole filling other start otherStart)
      (Extractor.step (definitions.fill hole filling) left (node.fill hole filling) path value)
      (Extractor.step (definitions.fill hole other) right (node.fill hole other) path value)
      memory changed := by
  have filled (filling : Schema) : (node.fill hole filling).schema =
      node.schema.mapNested (.fill hole filling) := Schema.fill_eq_mapNested notHole
  have filledShape {written : Schema} (shape : node.schema = written) :
      (node.fill hole filling).schema = written.mapNested (.fill hole filling) :=
    shape ▸ filled filling
  -- The runs are those of the nested schemas, each with its holes filled.
  cases shape : node.schema with simp only [Extractor.step, filled, shape, Schema.mapNested]
  | leaf validator =>
      apply Run.Coupled.bind (.perform (fun _ _ linked _ => linked.record _) _ linked)
      intro _ _ _ _ linkedAfter
      exact .pure linkedAfter
  | object fields =>
      apply coupled_fields stands linked nested (.inl shape)
      rw [filledShape shape]
      exact .object
  | closed fields =>
      simp only [Schema.permittedKeys_map]
      split
      · next supported =>
          apply coupled_fields stands linked nested (.inr shape)
          rw [filledShape shape]
          exact .closed (by rw [Schema.permittedKeys_map]; exact supported)
      · exact .pure linked
  | array element =>
      split
      · exact .bind (coupled_elements stands linked nested shape (filledShape shape) rfl)
          fun _ _ _ _ linkedAfter => .pure linkedAfter
      · exact .pure linked
  | oneOf alternatives =>
      exact coupled_alternatives stands linked nested shape (filledShape shape)
  | setOf keys values => exact coupled_setOf stands linked nested shape (filledShape shape)
  | choose key branches => exact coupled_branches stands linked nested shape (filledShape shape)
  | function parameters retriever => split <;> exact .pure linked
  | thunk site label body =>
      have isThunk : node.thunk? definitions = some (node.inlineThunk site label body) := by
        simp [Node.thunk?, shape]
      exact coupled_thunk stands notHole linked nested isThunk
  | reference label name =>
      have isThunk : node.thunk? definitions =
          some (node.definedThunk definitions label name) := by
        simp [Node.thunk?, shape]
      have delegated := coupled_thunk stands notHole linked nested isThunk
      simp only [Thunk.fill, Node.definedThunk, Node.fill, ← Definitions.find_fill] at delegated
      exact delegated
  | supplied first later =>
      simp only [Node.supply_fill]
      exact coupled_supplied stands notHole linked nested shape (filledShape shape)
  | recursive label body =>
      have below : node.below? definitions 0 = some (node.recursiveBody label body) := by
        simp [Node.below?, shape]
      exact coupled_below stands linked nested below (.recursive (filledShape shape))
  | self label =>
      simp only [Node.scope_fill, Scope.find?_fill]
      exact coupled_handle stands notHole linked nested (filledShape shape)
  | released label => exact .pure linked
  | boxed inner =>
      have below : node.below? definitions 0 = some (node.child 0 inner) := by
        simp [Node.below?, shape]
      exact coupled_below stands linked nested below (.boxed (filledShape shape))

end

end Extractor

/-! ## Whole runs -/

section

variable {definitions : Definitions} {context : Schema} {hole : String} {filling other : Schema}

/-- Runs from a node outside the holes are coupled, if no run that they lead to selects a hole. -/
theorem coupled_extract {start otherStart memory changed : Memory} {depth : Nat} {node : Node}
    {path : Path} {value : Value} (stands : node.Stands definitions context)
    (notHole : node.schema ≠ .self hole)
    (linked : Memory.Linked definitions context hole filling other start otherStart memory changed)
    (unselected : ∀ visit, RunsInto (definitions.fill hole filling) depth
        ⟨node.fill hole filling, path, value, memory⟩ visit →
      ∀ position, HoleAt definitions context hole (position :: visit.node.address) →
        Unselected (definitions.fill hole filling) visit position) :
    Run.Coupled (Memory.Linked definitions context hole filling other start otherStart)
      (extract (definitions.fill hole filling) depth (node.fill hole filling) path value)
      (extract (definitions.fill hole other) depth (node.fill hole other) path value)
      memory changed := by
  induction depth generalizing node path value memory changed with
  | zero => exact .exhausted
  | succ depth inductionHypothesis =>
      apply Extractor.coupled_step stands notHole linked
      intro lower lowerStands isBelow place given between otherBetween linkedBetween calls
      have lowerNotHole : lower.schema ≠ .self hole := by
        intro isHole
        obtain ⟨position, address⟩ := isBelow isHole
        have holeAt : HoleAt definitions context hole (position :: node.address) := by
          rw [← address]
          exact ⟨lower, lowerStands, isHole⟩
        exact (unselected _ (.here depth _) position holeAt).not_called calls address
      exact inductionHypothesis lowerStands lowerNotHole linkedBetween fun visit runs =>
        unselected visit (.further calls runs)

namespace Session

/-- What fills a hole has no effect where no run selects it: sessions that agree outside the
holes answer the same, log the same, and agree there again. -/
theorem extract_unselected {plain changed : Session} (notHole : context ≠ .self hole)
    (plainSound : plain.Sound (definitions.fill hole filling) (.fill hole filling context))
    (changedSound : changed.Sound (definitions.fill hole other) (.fill hole other context))
    (agree : plain.memory.AgreeOutside definitions context hole changed.memory) (limit : Nat)
    (path : Path) (value : Value)
    (unselected : ∀ visit,
      RunsInto plain.definitions limit ⟨plain.root, path, value, plain.memory⟩ visit →
      ∀ position, HoleAt definitions context hole (position :: visit.node.address) →
        Unselected plain.definitions visit position) :
    Option.Rel (fun (reply, after) (otherReply, changedAfter) => reply = otherReply ∧
        after.memory.AgreeOutside definitions context hole changedAfter.memory ∧
        ∃ events, after.memory.log = plain.memory.log ++ events ∧
          changedAfter.memory.log = changed.memory.log ++ events)
      (plain.answer limit (.extract path value)) (changed.answer limit (.extract path value)) := by
  rw [plainSound.definitions_eq, plainSound.root_eq] at unselected
  have linked : Memory.Linked definitions context hole filling other plain.memory changed.memory
      plain.memory changed.memory :=
    ⟨plainSound.memory_sound, changedSound.memory_sound, agree, [], by simp, by simp⟩
  have coupled := coupled_extract (Node.stands_root definitions context) notHole linked unselected
  rw [answer_extract, answer_extract, plainSound.definitions_eq, plainSound.root_eq,
    changedSound.definitions_eq, changedSound.root_eq]
  have rootFilled (filling : Schema) :
      (Node.root context).fill hole filling = .root (.fill hole filling context) := rfl
  rw [Run.Coupled, rootFilled, rootFilled] at coupled
  generalize (Extraction.extract _ limit _ path value).run plain.memory = ending,
    (Extraction.extract _ limit _ path value).run changed.memory = otherEnding at coupled ⊢
  cases coupled with
  | none => exact .none
  | some alike =>
      exact .some ⟨congrArg Reply.outcome alike.1, alike.2.agree, alike.2.added⟩

end Session

end

/-! ## Texts or something else -/

/-- Texts, or else whatever fills the hole. -/
def textOr : Schema :=
  .oneOf [.string, .self "hole"]

private theorem cases_of_runsInto_textOr {limit : Nat} {memory : Memory} {value : Value}
    {visit : Visit}
    (runs : RunsInto [] limit ⟨.root (.oneOf [.string, .number]), .root, value, memory⟩ visit) :
    visit = ⟨.root (.oneOf [.string, .number]), .root, value, memory⟩ ∨
      visit.node.address = [0] ∨ visit.node.address = [1] := by
  cases runs with
  | here => exact .inl rfl
  | @further _ _ next _ calls rest =>
      cases calls with
      | field reads => contradiction
      | thunk isThunk => contradiction
      | @alternative _ lower _ _ _ _ _ front back _ shape split =>
          cases shape
          have member : lower ∈ (Node.root (.oneOf [.string, .number])).children 0
              [.string, .number] := by
            rw [split]
            exact List.mem_append_right _ (.head _)
          obtain rfl | rfl := List.mem_pair.mp member
          · cases rest with
            | here => exact .inr (.inl rfl)
            | further calls => exact absurd rfl (calls.schema_ne_leaf _)
          · cases rest with
            | here => exact .inr (.inr rfl)
            | further calls => exact absurd rfl (calls.schema_ne_leaf _)
      | _ => contradiction

/-- A text is accepted by `textOr` in the same way whether numbers fill its hole or something that
is built lazily. -/
theorem Session.extract_unselected_textOr :
    Option.Rel (fun (reply, after) (otherReply, changedAfter) => reply = otherReply ∧
        after.memory.AgreeOutside [] textOr "hole" changedAfter.memory ∧
        ∃ events, after.memory.log = [] ++ events ∧ changedAfter.memory.log = [] ++ events)
      ((Session.start [] (.fill "hole" .number textOr)).answer 9 (.extract .root (.string "a")))
      ((Session.start [] (.fill "hole" (.thunk 0 "later" .boolean) textOr)).answer 9
        (.extract .root (.string "a"))) := by
  have started (filling : Schema) : (Session.start [] (.fill "hole" filling textOr)).Sound
      (Definitions.fill "hole" filling []) (.fill "hole" filling textOr) := sound_start _ _
  refine extract_unselected (fun same => by contradiction) (started .number)
    (started (.thunk 0 "later" .boolean)) ⟨fun _ _ => rfl, fun _ _ _ => rfl⟩ 9 .root
    (.string "a") ?_
  rintro visit runs position ⟨node, nodeAt, isHole⟩
  rcases cases_of_runsInto_textOr runs with rfl | below | below
  · match position with
    | 0 =>
        cases nodeAt
        contradiction
    | 1 =>
        have succeeds : ((Extraction.extract [] 1).oneOf .root (.string "a") []
            ((Node.root (.oneOf [.string, .number])).children 0 [.string])).run (.initial []) =
              some (.ok (.string "a"), .initial []) := rfl
        exact .laterAlternative rfl (List.cons_ne_nil _ _) succeeds
    | position + 2 => contradiction
  · rw [below] at nodeAt
    contradiction
  · rw [below] at nodeAt
    contradiction

end Extraction
