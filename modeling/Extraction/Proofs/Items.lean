import Extraction.Proofs.Composition
import Extraction.Proofs.Equivariance
import Extraction.Proofs.History
import Extraction.Proofs.Replacement

/-!
# Arrays in parts

The items of an array are extracted one after the other, each exactly once and at its index,
whatever has become of those before it.  Where no supplied schema changes, what has been built for
one item makes no difference to another.  So an array may be cut in two: its faults are those of
the first part and then those of the second, at indices that are raised by the length of the first.
-/

namespace Extraction

/-! ## Indices -/

namespace Path

/-- The index directly below a place that a path goes through. -/
def indexBelow? (lead path : Path) : Option Nat :=
  match lead.after? path with
  | some ⟨.index position :: _⟩ => some position
  | _ => none

/-- A path, with the index directly below a place raised if it goes through one. -/
def raise (lead : Path) (count : Nat) (path : Path) : Path :=
  match lead.after? path with
  | some ⟨.index position :: rest⟩ => lead.pushIndex (position + count) ++ ⟨rest⟩
  | _ => path

private theorem after?_pushIndex (lead rest : Path) (position : Nat) :
    lead.after? (lead.pushIndex position ++ rest) = some ⟨.index position :: rest.segments⟩ := by
  rw [after?_eq_some_iff]
  ext1
  simp [pushIndex]

@[simp]
theorem indexBelow?_pushIndex (lead rest : Path) (position : Nat) :
    lead.indexBelow? (lead.pushIndex position ++ rest) = some position := by
  rw [indexBelow?, after?_pushIndex]

@[simp]
theorem raise_pushIndex (lead rest : Path) (position count : Nat) :
    lead.raise count (lead.pushIndex position ++ rest) =
      lead.pushIndex (position + count) ++ rest := by
  rw [raise, after?_pushIndex]

end Path

/-- A fault, with the index directly below a place raised. -/
def Fault.raise (lead : Path) (count : Nat) (fault : Fault) : Fault :=
  { fault with path := lead.raise count fault.path }

/-- The items of two arrays in one. -/
def Value.appendItems : Value → Value → Value
  | .array first, .array second => .array (first ++ second)
  | first, _ => first

namespace Outcome

/-- An outcome in whose faults the index directly below a place is raised. -/
def raise {α : Type} (lead : Path) (count : Nat) (outcome : Outcome α) : Outcome α :=
  outcome.mapError (Faults.map (Fault.raise lead count))

variable {α : Type} {lead : Path}

private theorem faults_mapError (change : Fault → Fault) (outcome : Outcome α) :
    Outcome.faults (outcome.mapError (Faults.map change)) = outcome.faults.map change := by
  cases outcome <;> rfl

@[simp]
theorem faults_raise (lead : Path) (count : Nat) (outcome : Outcome α) :
    (outcome.raise lead count).faults = outcome.faults.map (Fault.raise lead count) :=
  faults_mapError (Fault.raise lead count) outcome

@[simp]
theorem succeeds_raise (lead : Path) (count : Nat) (outcome : Outcome α) :
    (outcome.raise lead count).Succeeds ↔ outcome.Succeeds := by
  cases outcome <;> simp [raise, Succeeds]

/-- To raise the index of an item is to look at the item at the raised index. -/
theorem raise_under (lead : Path) (position count : Nat) (outcome : Outcome α) :
    (outcome.under (lead.pushIndex position)).raise lead count =
      outcome.under (lead.pushIndex (position + count)) := by
  have moved : Fault.raise lead count ∘ Fault.under (lead.pushIndex position) =
      Fault.under (lead.pushIndex (position + count)) := by
    funext fault
    simp [Fault.raise, Fault.under]
  cases outcome with
  | ok value => rfl
  | error faults => simp [raise, under, Faults.map, ← moved]

private theorem map_consolidate_array (first second : List (Outcome Value)) (count : Nat) :
    (consolidate (first ++ second.map (raise lead count))).map Value.array =
      both Value.appendItems ((consolidate first).map Value.array)
        (raise lead count ((consolidate second).map Value.array)) := by
  have raised : consolidate (second.map (raise lead count)) =
      (consolidate second).raise lead count :=
    consolidate_map_mapError (Fault.raise lead count) second
  rw [consolidate_append, raised]
  cases consolidate first <;> cases consolidate second <;> rfl

private theorem exists_indices {items : List Value} {start : Nat} {outcomes : List (Outcome α)}
    (each : List.Forall₂ (fun entry outcome => ∀ fault ∈ outcome.faults,
      lead.indexBelow? fault.path = some entry.2) (items.zipIdx start) outcomes) :
    ∃ indices : List Nat,
      (outcomes.flatMap faults).map (fun fault => lead.indexBelow? fault.path) =
        indices.map some ∧
      indices.Pairwise (· ≤ ·) ∧ ∀ index ∈ indices, start ≤ index := by
  induction items generalizing start outcomes with
  | nil =>
      cases each
      exact ⟨[], rfl, .nil, by simp⟩
  | cons item items inductionHypothesis =>
      rw [List.zipIdx_cons] at each
      cases each with
      | @cons _ outcome _ outcomes first rest =>
          obtain ⟨indices, same, ordered, later⟩ := inductionHypothesis rest
          have here : outcome.faults.map (fun fault => lead.indexBelow? fault.path) =
              (List.replicate outcome.faults.length start).map some := by
            rw [List.map_replicate, List.eq_replicate_iff]
            simpa using first
          refine ⟨List.replicate outcome.faults.length start ++ indices, ?_, ?_, ?_⟩
          · rw [List.flatMap_cons, List.map_append, List.map_append, here, same]
          · rw [List.pairwise_append]
            refine ⟨List.pairwise_replicate.mpr (.inr (Nat.le_refl start)), ordered, ?_⟩
            intro index member other otherMember
            rw [List.eq_of_mem_replicate member]
            exact Nat.le_of_succ_le (later other otherMember)
          · intro index member
            rcases List.mem_append.mp member with here | after
            · exact Nat.le_of_eq (List.eq_of_mem_replicate here).symm
            · exact Nat.le_of_succ_le (later index after)

end Outcome

/-! ## Items one by one -/

/-- Extracts one item of an array at its index. -/
def Extractor.item (extract : Extractor) (path : Path) (element : Node) (entry : Value × Nat) :
    Run (Outcome Value) :=
  extract element (path.pushIndex entry.2) entry.1

section

variable {definitions : Definitions} {node : Node} {element : Schema} {path : Path}

private theorem extract_eq_items (isArray : node.schema = .array element) (limit : Nat)
    (values : List Value) :
    extract definitions (limit + 1) node path (.array values) = (do
      let alone ← values.zipIdx.mapM ((extract definitions limit).item path (node.child 0 element))
      return (Outcome.consolidate alone).map .array) := by
  simp only [extract_succ, Extractor.step, isArray, Extractor.items, bind_assoc, pure_bind]
  rfl

private theorem run_array_iff (isArray : node.schema = .array element) {limit : Nat}
    {values : List Value} {memory after : Memory} {outcome : Outcome Value} :
    (extract definitions (limit + 1) node path (.array values)).run memory =
        some (outcome, after) ↔
      ∃ alone, (values.zipIdx.mapM ((extract definitions limit).item path
          (node.child 0 element))).run memory = some (alone, after) ∧
        alone.length = values.length ∧ outcome.Gathers .array alone := by
  rw [extract_eq_items isArray, StateT.run_bind]
  constructor
  · intro ends
    obtain ⟨⟨alone, last⟩, itemsEnd, isGathered⟩ := Option.bind_eq_some_iff.mp ends
    cases isGathered
    have sameLength := Run.length_of_mapM itemsEnd
    rw [List.length_zipIdx] at sameLength
    exact ⟨alone, itemsEnd, sameLength, Outcome.gathers_iff.mpr rfl⟩
  · rintro ⟨alone, itemsEnd, _, gathers⟩
    rw [itemsEnd, ← Outcome.gathers_iff.mp gathers]
    rfl

private theorem indexBelow?_of_item {limit : Nat} {lower : Node} {entry : Value × Nat}
    {memory after : Memory} {outcome : Outcome Value}
    (ends : ((extract definitions limit).item path lower entry).run memory =
      some (outcome, after)) :
    ∀ fault ∈ outcome.faults, path.indexBelow? fault.path = some entry.2 := by
  rw [Extractor.item, ← Path.append_root (path.pushIndex entry.2),
    extract_equivariant definitions limit, StateT.run_map] at ends
  obtain ⟨⟨above, last⟩, _, same⟩ := Option.map_eq_some_iff.mp ends
  cases same
  intro fault member
  rw [Outcome.under, Outcome.faults_mapError] at member
  obtain ⟨found, _, rfl⟩ := List.mem_map.mp member
  exact Path.indexBelow?_pushIndex path found.path entry.2

/-- What the items of an array mean, given what each means at the root, from some index on. -/
private def itemwise (base : Value → Option (Outcome Value)) (path : Path) (start : Nat)
    (values : List Value) : Option (List (Outcome Value)) :=
  (values.zipIdx start).mapM fun entry =>
    (base entry.1).map (Outcome.under (path.pushIndex entry.2))

private theorem itemwise_raise (base : Value → Option (Outcome Value)) (path : Path)
    (start count : Nat) (values : List Value) :
    itemwise base path (start + count) values =
      (itemwise base path start values).map (List.map (Outcome.raise path count)) := by
  induction values generalizing start with
  | nil => rfl
  | cons value values inductionHypothesis =>
      have rest := inductionHypothesis (start + 1)
      rw [Nat.add_right_comm] at rest
      unfold itemwise at rest ⊢
      rw [List.zipIdx_cons, List.zipIdx_cons, List.mapM_cons, List.mapM_cons, rest]
      cases base value with
      | none => rfl
      | some outcome =>
          cases (values.zipIdx (start + 1)).mapM fun entry =>
            (base entry.1).map (Outcome.under (path.pushIndex entry.2)) <;>
            simp [Outcome.raise_under]

private theorem itemwise_append (base : Value → Option (Outcome Value)) (path : Path)
    (first second : List Value) :
    itemwise base path 0 (first ++ second) = (do
      let former ← itemwise base path 0 first
      let latter ← itemwise base path 0 second
      return former ++ latter.map (Outcome.raise path first.length)) := by
  have raised := itemwise_raise base path 0 first.length second
  rw [Nat.zero_add] at raised
  have split : itemwise base path 0 (first ++ second) = (do
      let former ← itemwise base path 0 first
      let latter ← itemwise base path first.length second
      return former ++ latter) := by
    simp [itemwise, List.zipIdx_append, List.mapM_append]
  rw [split, raised]
  cases itemwise base path 0 first <;> cases itemwise base path 0 second <;> rfl

variable {schema : Schema} {keys : List ThunkKey} (steady : schema.Throughout Schema.Steady)
  (definitionsSteady : definitions.Throughout Schema.Steady)
  (stands : node.Stands definitions schema)

include steady definitionsSteady stands

private theorem items_ensures (limit : Nat) (values : List Value) :
    Run.Ensures (Memory.Sound definitions schema keys)
      (values.zipIdx.mapM ((extract definitions limit).item path node))
      (List.Forall₂ (fun entry outcome =>
        (∀ fault ∈ outcome.faults, path.indexBelow? fault.path = some entry.2) ∧
        ∀ other : Memory, other.Sound definitions schema keys →
          (((extract definitions limit).item path node entry).run other).map Prod.fst =
            some outcome) values.zipIdx) := by
  apply Run.Ensures.mapM
  intro entry _ memory sound outcome after ends
  obtain ⟨outcome?, settles⟩ : ∃ outcome?, Run.Settles (Memory.Sound definitions schema keys)
      ((extract definitions limit).item path node entry) outcome? :=
    exists_extract_settles steady definitionsSteady stands
  obtain ⟨rfl, afterSound⟩ := settles.eq_some sound ends
  exact ⟨⟨indexBelow?_of_item ends, fun other otherSound => settles.map_fst otherSound⟩,
    afterSound⟩

private theorem exists_array_settles (isArray : node.schema = .array element) (limit : Nat) :
    ∃ base : Value → Option (Outcome Value), ∀ values,
      Run.Settles (Memory.Sound definitions schema keys)
        (extract definitions (limit + 1) node path (.array values))
        ((itemwise base path 0 values).map fun alone =>
          (Outcome.consolidate alone).map .array) := by
  have lowerStands : (node.child 0 element).Stands definitions schema :=
    stands.below 0 (by simp [Node.below?, isArray])
  have atRoot (value : Value) : ∃ outcome?, Run.Settles (Memory.Sound definitions schema keys)
      (extract definitions limit (node.child 0 element) .root value) outcome? :=
    exists_extract_settles steady definitionsSteady lowerStands
  -- What a value gives at the root does not depend on where it is, so all arrays can share it.
  choose base settles using atRoot
  have each (entry : Value × Nat) : Run.Settles (Memory.Sound definitions schema keys)
      ((extract definitions limit).item path (node.child 0 element) entry)
      ((base entry.1).map (Outcome.under (path.pushIndex entry.2))) := by
    rw [Extractor.item, ← Path.append_root (path.pushIndex entry.2),
      extract_equivariant definitions limit, Path.append_root]
    exact (settles entry.1).map _
  refine ⟨base, fun values => ?_⟩
  rw [extract_eq_items isArray, ← map_eq_pure_bind]
  exact Run.Settles.map (.mapM fun entry _ => each entry) _

private theorem array_append (isArray : node.schema = .array element) (limit : Nat)
    (first second : List Value) {memory firstMemory secondMemory : Memory}
    (sound : memory.Sound definitions schema keys)
    (firstSound : firstMemory.Sound definitions schema keys)
    (secondSound : secondMemory.Sound definitions schema keys) :
    ((extract definitions (limit + 1) node path (.array (first ++ second))).run memory).map
        Prod.fst = (do
      let former ← ((extract definitions (limit + 1) node path (.array first)).run
        firstMemory).map Prod.fst
      let latter ← ((extract definitions (limit + 1) node path (.array second)).run
        secondMemory).map Prod.fst
      return former.both Value.appendItems (latter.raise path first.length)) := by
  obtain ⟨base, settles⟩ : ∃ base : Value → Option (Outcome Value), ∀ values,
      Run.Settles (Memory.Sound definitions schema keys)
        (extract definitions (limit + 1) node path (.array values))
        ((itemwise base path 0 values).map fun alone => (Outcome.consolidate alone).map .array) :=
    exists_array_settles steady definitionsSteady stands isArray limit
  rw [(settles (first ++ second)).map_fst sound, (settles first).map_fst firstSound,
    (settles second).map_fst secondSound, itemwise_append]
  cases itemwise base path 0 first with
  | none => rfl
  | some former =>
      cases itemwise base path 0 second with
      | none => rfl
      | some latter =>
          exact congrArg some (Outcome.map_consolidate_array former latter first.length)

/-- Where no supplied schema changes, an array is extracted item by item, each at its index, and
in two parts as these are, with the indices of the second part raised. -/
theorem extract_array (isArray : node.schema = .array element) (limit : Nat) (path : Path) :
    let item := (extract definitions limit).item path (node.child 0 element)
    let array (values : List Value) := extract definitions (limit + 1) node path (.array values)
    (∀ (values : List Value) (memory : Memory) (outcome : Outcome Value) (after : Memory),
      (array values).run memory = some (outcome, after) ↔
        ∃ alone, (values.zipIdx.mapM item).run memory = some (alone, after) ∧
          alone.length = values.length ∧ outcome.Gathers .array alone) ∧
    (∀ (values : List Value) (memory : Memory) (alone : List (Outcome Value)) (after : Memory),
      memory.Sound definitions schema keys →
      (values.zipIdx.mapM item).run memory = some (alone, after) →
      List.Forall₂ (fun entry outcome =>
        (∀ fault ∈ outcome.faults, path.indexBelow? fault.path = some entry.2) ∧
        ∀ other : Memory, other.Sound definitions schema keys →
          ((item entry).run other).map Prod.fst = some outcome) values.zipIdx alone) ∧
    (∀ (values : List Value) (memory : Memory) (outcome : Outcome Value) (after : Memory),
      (array values).run memory = some (outcome, after) →
      ∃ indices : List Nat,
        outcome.faults.map (fun fault => path.indexBelow? fault.path) = indices.map some ∧
        indices.Pairwise (· ≤ ·)) ∧
    (∀ (first second : List Value) (memory firstMemory secondMemory : Memory),
      memory.Sound definitions schema keys → firstMemory.Sound definitions schema keys →
      secondMemory.Sound definitions schema keys →
      ((array (first ++ second)).run memory).map Prod.fst = (do
        let former ← ((array first).run firstMemory).map Prod.fst
        let latter ← ((array second).run secondMemory).map Prod.fst
        return former.both Value.appendItems (latter.raise path first.length))) ∧
    ∀ (former latter : Outcome Value) (count : Nat),
      let together := former.both Value.appendItems (latter.raise path count)
      (together.Succeeds ↔ former.Succeeds ∧ latter.Succeeds) ∧
        together.faults = former.faults ++ latter.faults.map (Fault.raise path count) := by
  intro item array
  have lowerStands : (node.child 0 element).Stands definitions schema :=
    stands.below 0 (by simp [Node.below?, isArray])
  refine ⟨?_, ?_, ?_, ?_, ?_⟩
  · intro values memory outcome after
    exact run_array_iff isArray
  · intro values memory alone after sound ends
    exact (items_ensures steady definitionsSteady lowerStands limit values memory sound alone after
      ends).1
  · intro values memory outcome after ends
    obtain ⟨alone, itemsEnd, _, gathers⟩ := (run_array_iff isArray).mp ends
    have ensures : Run.Ensures (fun _ => True) (values.zipIdx.mapM item) (List.Forall₂
        (fun entry outcome => ∀ fault ∈ outcome.faults, path.indexBelow? fault.path = some entry.2)
        values.zipIdx) :=
      .mapM fun _ _ _ _ _ _ itemEnds => ⟨indexBelow?_of_item itemEnds, trivial⟩
    obtain ⟨indices, same, ordered, _⟩ :=
      Outcome.exists_indices (ensures memory trivial alone after itemsEnd).1
    refine ⟨indices, ?_, ordered⟩
    rw [← Outcome.gathers_iff.mp gathers, Outcome.faults_map, Outcome.faults_consolidate]
    exact same
  · intro first second memory firstMemory secondMemory sound firstSound secondSound
    exact array_append steady definitionsSteady stands isArray limit first second sound firstSound
      secondSound
  · intro former latter count
    simp

end

/-! ## Trees in two parts -/

/-- The second item of either array is no tree, and in the other one the first has a branch that
is none. -/
theorem extract_array_trees :
    ∃ faults, ((extract Session.treeDefinitions 9 ⟨.array Session.tree, [0], []⟩ .root
        (.array ([.array [], .null] ++ [.array [.bool true, .array []], .null]))).run
          (.initial ((Node.root Session.tree).thunks Session.treeDefinitions))).map Prod.fst =
        some (.error faults) ∧
      faults.toList.map Fault.path =
        [⟨[.index 1]⟩, ⟨[.index 2, .index 0]⟩, ⟨[.index 3]⟩] := by
  have sound := Memory.sound_initial Session.treeDefinitions Session.tree
  have stands : Node.Stands Session.treeDefinitions Session.tree
      ⟨.array Session.tree, [0], []⟩ := rfl
  obtain ⟨_, _, _, append, _⟩ := extract_array Session.steady_tree Session.steady_treeDefinitions
    stands rfl 8 .root
  exact ⟨_, append [.array [], .null] [.array [.bool true, .array []], .null] _ _ _ sound sound
    sound, by decide⟩

end Extraction
