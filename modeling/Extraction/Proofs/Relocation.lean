import Extraction.Proofs.Coupling
import Extraction.Proofs.Creation
import Extraction.Proofs.Descent

/-!
# Schemas that stand elsewhere

Addresses only tell occurrences apart.  Where a schema is built at other addresses, so that
different occurrences stay different and what is below an occurrence moves together with it, runs
do the same as before, and remember the same under the other addresses.
-/

namespace Extraction

/-- A renaming of addresses moves what is below an address together with it. -/
def Address.MovesBelow (move : Address → Address) (address : Address) : Prop :=
  ∀ inner, move (inner ++ address) = inner ++ move address

/-- A recursive schema at another address. -/
def Owner.relocate (move : Address → Address) (owner : Owner) : Owner :=
  { owner with address := move owner.address }

/-- A node at another address, in a scope of which the addresses are renamed as well. -/
def Node.relocate (move : Address → Address) (node : Node) : Node :=
  ⟨node.schema, move node.address, node.scope.map (Owner.relocate move)⟩

/-- A thunk at another address. -/
def Thunk.relocate (move : Address → Address) (thunk : Thunk) : Thunk :=
  { thunk with address := move thunk.address, delegate := thunk.delegate.relocate move }

/-- What is remembered, under other addresses. -/
def Memory.relocate (move : Address → Address) (memory : Memory) : Memory where
  created := memory.created.map (Thunk.relocate move)
  cells := memory.cells.map (Prod.map move (Node.relocate move))
  requests := memory.requests.map move
  describing := memory.describing
  log := memory.log

/-- A renaming of addresses moves what is below a node together with it, and what is below the
recursive schemas around it. -/
structure Node.Fits (move : Address → Address) (node : Node) : Prop where
  below : Address.MovesBelow move node.address
  owners : ∀ owner ∈ node.scope, Address.MovesBelow move owner.address

section

variable {move : Address → Address}

theorem Address.MovesBelow.cons {address : Address} (moves : MovesBelow move address)
    (position : Nat) : MovesBelow move (position :: address) := by
  intro inner
  have here : move (position :: address) = position :: move address := moves [position]
  have further := moves (inner ++ [position])
  rw [List.append_assoc, List.append_assoc] at further
  rw [here]
  exact further

theorem Scope.find?_relocate (move : Address → Address) (label : String) (scope : Scope) :
    Scope.find? label (scope.map (Owner.relocate move)) =
      (Scope.find? label scope).map (Node.relocate move) := by
  induction scope with
  | nil => rfl
  | cons owner outer inductionHypothesis =>
      by_cases same : owner.label = label
      · simp [Scope.find?, same, Owner.node, Owner.relocate, Node.relocate]
      · simpa [Scope.find?, same, Owner.relocate] using inductionHypothesis

namespace Node

variable {definitions : Definitions} {node lower : Node}

theorem relocate_child (moves : Address.MovesBelow move node.address) (position : Nat)
    (schema : Schema) :
    (node.child position schema).relocate move = (node.relocate move).child position schema := by
  have here : move (position :: node.address) = position :: move node.address := moves [position]
  simp [Node.relocate, Node.child, here]

theorem relocate_recursiveBody (moves : Address.MovesBelow move node.address) (label : String)
    (body : Schema) :
    (node.recursiveBody label body).relocate move =
      (node.relocate move).recursiveBody label body := by
  have here : move (0 :: node.address) = 0 :: move node.address := moves [0]
  simp [Node.relocate, Node.recursiveBody, Owner.node, Owner.relocate, here]

/-- The thunk that a node is, is elsewhere the thunk that is built elsewhere. -/
theorem thunk?_relocate (moves : Address.MovesBelow move node.address) :
    (node.relocate move).thunk? definitions =
      (node.thunk? definitions).map (Thunk.relocate move) := by
  have here : move (0 :: node.address) = 0 :: move node.address := moves [0]
  rcases node with ⟨written, address, scope⟩
  cases written with
  | thunk site label body =>
      simp [thunk?, Node.relocate, inlineThunk, Thunk.relocate, Node.child, here]
  | reference label name =>
      simp [thunk?, Node.relocate, definedThunk, Thunk.relocate, here]
  | _ => rfl

/-- What stands below a node that fits, fits as well. -/
theorem Fits.of_below? (fits : node.Fits move) {position : Nat}
    (found : node.below? definitions position = some lower) : lower.Fits move := by
  rcases below?_cases found with ⟨_, rfl⟩ | ⟨_, rfl, rfl⟩ | ⟨_, _, rfl, rfl⟩
  · exact ⟨fits.below.cons position, fits.owners⟩
  · exact ⟨fits.below.cons 0, fun _ member => by contradiction⟩
  · exact ⟨fits.below.cons 0, List.forall_mem_cons.mpr ⟨fits.below.cons 0, fits.owners⟩⟩

theorem Fits.of_owner (fits : node.Fits move) {label : String}
    (found : node.scope.find? label = some lower) : lower.Fits move := by
  rcases node with ⟨written, address, scope⟩
  have owners := fits.owners
  clear fits
  induction scope with
  | nil => contradiction
  | cons owner outer inductionHypothesis =>
      rw [List.forall_mem_cons] at owners
      simp only [Scope.find?] at found
      split at found
      · cases found
        exact ⟨owners.1, List.forall_mem_cons.mpr owners⟩
      · exact inductionHypothesis found owners.2

theorem Fits.of_mem_parts (fits : node.Fits move) (member : lower ∈ node.parts) :
    lower.Fits move := by
  have notThunk : node.thunk? [] = none := thunk?_eq_none_of_mem_parts member
  obtain ⟨position, found⟩ := (mem_parts_iff notThunk).mp member
  exact fits.of_below? found

/-- What a thunk builds fits where the thunk does. -/
theorem Fits.delegate (fits : node.Fits move) {thunk : Thunk}
    (isThunk : node.thunk? definitions = some thunk) : thunk.delegate.Fits move := by
  unfold thunk? at isThunk
  split at isThunk <;> cases isThunk
  · exact ⟨fits.below.cons 0, fits.owners⟩
  · exact ⟨fits.below.cons 0, fun _ member => by contradiction⟩

theorem parts_relocate (moves : Address.MovesBelow move node.address) :
    (node.relocate move).parts = node.parts.map (Node.relocate move) := by
  have child := fun position schema => relocate_child moves position schema
  have body := fun label schema => relocate_recursiveBody moves label schema
  rcases node with ⟨written, address, scope⟩
  cases written with
  | leaf | function | self | released | thunk | reference => rfl
  | object fields | closed fields =>
      simp only [parts]
      rw [← Schema.filterMap_schema?_map, ← fields_copy child 0 fields]
      rfl
  | oneOf alternatives => exact children_copy child 0 alternatives
  | supplied first later => exact children_copy child 0 (first :: later)
  | choose key branches =>
      simp only [parts]
      have copies := congrArg (List.map Prod.snd) (branches_copy child 0 branches)
      rw [List.map_map] at copies ⊢
      exact copies
  | array inner | setOf keys inner | boxed inner =>
      exact (congrArg List.singleton (child 0 inner)).symm
  | recursive label inner => exact (congrArg List.singleton (body label inner)).symm

/-- With a node come into being the same thunks, wherever it is built. -/
theorem thunks_relocate (moves : Address.MovesBelow move node.address) :
    (node.relocate move).thunks definitions =
      (node.thunks definitions).map (Thunk.relocate move) := by
  induction node using parts_induction with
  | step node inductionHypothesis =>
      rw [thunks_eq, thunks_eq, thunk?_relocate moves]
      cases isThunk : node.thunk? definitions with
      | some thunk => rfl
      | none =>
          simp only [Option.map_none]
          rw [parts_relocate moves, List.flatMap_map, List.map_flatMap]
          apply List.flatMap_congr
          intro part member
          obtain ⟨position, found⟩ := (mem_parts_iff isThunk).mp member
          apply inductionHypothesis part member
          rw [address_of_below? found]
          exact moves.cons position

end Node

end

/-! ## Memories -/

namespace Memory

variable {move : Address → Address} (injective : Function.Injective move)
  {definitions : Definitions} {memory : Memory}

include injective

private theorem lookup_relocate (cells : List (Address × Node)) (address : Address) :
    (cells.map (Prod.map move (Node.relocate move))).lookup (move address) =
      (cells.lookup address).map (Node.relocate move) := by
  induction cells with
  | nil => rfl
  | cons cell cells inductionHypothesis =>
      rcases cell with ⟨other, held⟩
      by_cases same : address = other
      · subst same
        simp
      · have different : move address ≠ move other := fun moved => same (injective moved)
        simp [List.lookup_cons, beq_false_of_ne same, beq_false_of_ne different,
          inductionHypothesis]

theorem cell?_relocate (memory : Memory) (address : Address) :
    (memory.relocate move).cell? (move address) =
      (memory.cell? address).map (Node.relocate move) :=
  lookup_relocate injective memory.cells address

theorem request_relocate (memory : Memory) (address : Address) :
    (memory.relocate move).request (move address) = (memory.request address).relocate move := by
  simp [request, relocate, List.count_map_of_injective _ _ injective]

/-- Forcing a thunk elsewhere does what forcing it does. -/
theorem force_relocate {thunk : Thunk} (moves : Address.MovesBelow move thunk.delegate.address)
    (memory : Memory) :
    (memory.relocate move).force definitions (thunk.relocate move) =
      Prod.map (Node.relocate move) (Memory.relocate move) (memory.force definitions thunk) := by
  have held := cell?_relocate injective memory thunk.address
  cases found : memory.cell? thunk.address with
  | some delegate =>
      rw [found] at held
      rw [force_of_cell? held, force_of_cell? found]
      rfl
  | none =>
      rw [found] at held
      have missing : (memory.relocate move).isBuilt (thunk.relocate move).address = false :=
        congrArg Option.isSome held
      have notBuilt : memory.isBuilt thunk.address = false := congrArg Option.isSome found
      rw [force_of_not_isBuilt missing, force_of_not_isBuilt notBuilt]
      simp [build, relocate, Thunk.relocate, Node.thunks_relocate moves]

end Memory

/-- A sound memory, and the same memory under other addresses. -/
structure Memory.Moved (definitions : Definitions) (schema : Schema) (keys : List ThunkKey)
    (move : Address → Address) (memory changed : Memory) : Prop where
  sound : memory.Sound definitions schema keys
  relocated : changed = memory.relocate move

/-! ## Runs -/

section

variable {move : Address → Address} {definitions : Definitions} {schema : Schema}
  {keys : List ThunkKey} {node : Node}

/-- Where a run of a node that fits goes on, it fits as well. -/
theorem Node.Enters.fits {lower : Node} {memory : Memory}
    (enters : node.Enters definitions memory lower) (fits : node.Fits move)
    (stands : node.Stands definitions schema) (sound : memory.Sound definitions schema keys) :
    lower.Fits move := by
  cases enters with
  | part member => exact fits.of_mem_parts member
  | held isThunk held =>
      rw [sound.held _ ⟨node, stands, isThunk⟩ lower held]
      exact fits.delegate isThunk
  | owner found => exact fits.of_owner found

variable (injective : Function.Injective move)

include injective

/-- A node that is built elsewhere is a copy of the node. -/
theorem Node.copied_relocate (fits : node.Fits move) (stands : node.Stands definitions schema) :
    node.Copied definitions (Memory.Moved definitions schema keys move) (Node.relocate move) where
  schema := rfl
  child := fun position schema => relocate_child fits.below position schema
  recursiveBody := fun label body => relocate_recursiveBody fits.below label body
  owner := fun label => Scope.find?_relocate move label node.scope
  notes := by
    rintro memory _ ⟨sound, rfl⟩ texts
    exact ⟨sound.record _, rfl⟩
  force := by
    rintro memory _ ⟨sound, rfl⟩ thunk isThunk
    have forced : (memory.relocate move).force definitions (thunk.relocate move) =
        Prod.map (Node.relocate move) (Memory.relocate move) (memory.force definitions thunk) :=
      Memory.force_relocate injective (fits.delegate isThunk).below memory
    obtain ⟨after, isForced, afterSound⟩ := sound.force ⟨node, stands, isThunk⟩
    refine ⟨thunk.relocate move, ?_, ?_, ?_, ?_⟩
    · rw [thunk?_relocate fits.below, isThunk, Option.map_some]
    · rw [forced]
      rfl
    · rw [isForced]
      exact afterSound
    · rw [forced]
      rfl
  request := by
    rintro memory _ ⟨sound, rfl⟩ first later shape
    have sameCount : (memory.relocate move).requests.count (node.relocate move).address =
        memory.requests.count node.address := List.count_map_of_injective _ _ injective _
    refine ⟨?_, sound.request _, ?_⟩
    · rw [sameCount]
      exact (relocate_child fits.below _ _).symm
    · exact Memory.request_relocate injective memory node.address

/-- What a node gives is given by the node that is built elsewhere, from the memory that remembers
the same under the other addresses. -/
theorem extract_relocate {depth : Nat} {path : Path} {value : Value} {memory changed : Memory}
    (fits : node.Fits move) (stands : node.Stands definitions schema)
    (moved : Memory.Moved definitions schema keys move memory changed) :
    Run.Coupled (Memory.Moved definitions schema keys move)
      (extract definitions depth node path value)
      (extract definitions depth (node.relocate move) path value) memory changed := by
  induction depth generalizing node path value memory changed with
  | zero => exact .exhausted
  | succ depth inductionHypothesis =>
      apply Extractor.coupled_copiedStep (Node.copied_relocate injective fits stands) moved
      intro lower place given between otherBetween movedBetween calls
      have enters := calls.enters
      have lowerFits := enters.fits fits stands movedBetween.sound
      exact inductionHypothesis lowerFits (enters.stands stands movedBetween.sound) movedBetween

/-- Alternatives that are built elsewhere are tried like those alternatives. -/
theorem run_oneOf_relocate {nodes : List Node} (fit : ∀ node ∈ nodes, node.Fits move)
    (stand : ∀ node ∈ nodes, node.Stands definitions schema) {memory : Memory}
    (sound : memory.Sound definitions schema keys) (depth : Nat) (path : Path) (value : Value)
    (earlier : List Fault) :
    ((extract definitions depth).oneOf path value earlier (nodes.map (Node.relocate move))).run
        (memory.relocate move) =
      (((extract definitions depth).oneOf path value earlier nodes).run memory).map
        (Prod.map id (Memory.relocate move)) := by
  have coupled : Run.Coupled (Memory.Moved definitions schema keys move)
      ((extract definitions depth).oneOf path value earlier (nodes.map id))
      ((extract definitions depth).oneOf path value earlier (nodes.map (Node.relocate move)))
      memory (memory.relocate move) := by
    apply Extractor.coupled_oneOf ⟨sound, rfl⟩
    intro front lower back split _ between otherBetween _ _ movedBetween
    have member : lower ∈ nodes := by
      rw [split]
      exact List.mem_append_right _ (.head _)
    exact extract_relocate injective (fit lower member) (stand lower member) movedBetween
  rw [List.map_id, Run.Coupled] at coupled
  generalize ((extract definitions depth).oneOf path value earlier nodes).run memory = ending,
    ((extract definitions depth).oneOf path value earlier (nodes.map (Node.relocate move))).run
      (memory.relocate move) = otherEnding at coupled ⊢
  cases coupled with
  | none => rfl
  | @some ending otherEnding alike =>
      obtain ⟨sameOutcome, _, relocated⟩ := alike
      exact congrArg some (Prod.ext sameOutcome.symm relocated)

end

end Extraction
