import Mathlib.Data.List.Induction
import Mathlib.Data.List.Nodup
import Extraction.Proofs.Places
import Extraction.Schema.Memory

/-!
# Which thunks come into being

With a node come into being the thunks below it that are not below another thunk: those that are
nested in what a thunk builds come into being when it is built.  Their addresses are distinct.
-/

namespace Extraction

/-! ## Addresses -/

private theorem eq_of_suffix_of_length {address first second : Address}
    (firstEncloses : first <:+ address) (secondEncloses : second <:+ address)
    (sameLength : first.length = second.length) : first = second :=
  have encloses : first <:+ second :=
    List.suffix_of_suffix_length_le firstEncloses secondEncloses (Nat.le_of_eq sameLength)
  encloses.eq_of_length sameLength

namespace Node

variable {definitions : Definitions} {schema : Schema}

/-- Whatever encloses an address of what is built is there as well. -/
theorem exists_at?_of_suffix {address outer : Address} {node : Node}
    (found : at? definitions schema address = some node) (encloses : outer <:+ address) :
    ∃ upper, at? definitions schema outer = some upper := by
  obtain ⟨inner, rfl⟩ := encloses
  induction inner generalizing node with
  | nil => exact ⟨node, found⟩
  | cons position inner inductionHypothesis =>
      obtain ⟨upper, upperFound, _⟩ := Option.bind_eq_some_iff.mp found
      exact inductionHypothesis upperFound

/-- What is properly below a node is below one of the nodes directly below it. -/
theorem Stands.exists_below? {node lower : Node} (stands : node.Stands definitions schema)
    (lowerStands : lower.Stands definitions schema) (encloses : node.address <:+ lower.address)
    (different : lower.address ≠ node.address) :
    ∃ position next, node.below? definitions position = some next ∧
      next.address <:+ lower.address := by
  obtain ⟨inner, joined⟩ := encloses
  cases inner using List.reverseRecOn with
  | nil => exact absurd joined.symm different
  | append_singleton inner position =>
      have reached : position :: node.address <:+ lower.address := by
        rw [← joined, List.append_assoc]
        exact List.suffix_append inner _
      obtain ⟨next, nextFound⟩ := exists_at?_of_suffix lowerStands reached
      rw [at?, stands] at nextFound
      refine ⟨position, next, nextFound, ?_⟩
      rw [address_of_below? nextFound]
      exact reached

/-! ## Nodes that are built together -/

/-- The nodes directly below a node that are built with it. -/
def parts (node : Node) : List Node :=
  match node.schema with
  | .leaf _ | .function _ _ | .self _ | .released _ | .thunk _ _ _ | .reference _ _ => []
  | .object fields | .closed fields => (node.fields 0 fields).filterMap Field.schema?
  | .oneOf alternatives => node.children 0 alternatives
  | .choose _ branches => (node.branches 0 branches).map Prod.snd
  | .supplied first later => node.children 0 (first :: later)
  | .array inner | .setOf _ inner | .boxed inner => [node.child 0 inner]
  | .recursive label body => [node.recursiveBody label body]

private theorem mem_nested_fields_iff {node lower : Node} {fields : List (Field Schema)} :
    lower ∈ (node.fields 0 fields).filterMap Field.schema? ↔
      ∃ position,
        (fields[position]?.bind Field.schema?).map (node.child position) = some lower := by
  rw [List.mem_filterMap]
  constructor
  · rintro ⟨field, member, inside⟩
    obtain ⟨position, found⟩ := List.mem_iff_getElem?.mp member
    rw [getElem?_fields] at found
    obtain ⟨written, isWritten, rfl⟩ := Option.map_eq_some_iff.mp found
    rw [Field.schema?_map] at inside
    exact ⟨position, by rw [isWritten]; exact inside⟩
  · rintro ⟨position, found⟩
    obtain ⟨part, isPart, rfl⟩ := Option.map_eq_some_iff.mp found
    obtain ⟨written, isWritten, isNested⟩ := Option.bind_eq_some_iff.mp isPart
    refine ⟨written.map (node.child position), List.mem_iff_getElem?.mpr ⟨position, ?_⟩, ?_⟩
    · rw [getElem?_fields, isWritten, Option.map_some]
    · rw [Field.schema?_map, isNested, Option.map_some]

private theorem mem_nested_branches_iff {node lower : Node} {branches : List (String × Schema)} :
    lower ∈ (node.branches 0 branches).map Prod.snd ↔
      ∃ position, branches[position]?.map (fun branch => node.child position branch.2) =
        some lower := by
  rw [branches_eq_map, List.map_map, List.mem_map]
  constructor
  · rintro ⟨⟨branch, position⟩, member, rfl⟩
    rw [List.mk_mem_zipIdx_iff_getElem?] at member
    exact ⟨position, by rw [member, Option.map_some]; rfl⟩
  · rintro ⟨position, found⟩
    obtain ⟨branch, isBranch, rfl⟩ := Option.map_eq_some_iff.mp found
    exact ⟨(branch, position), List.mk_mem_zipIdx_iff_getElem?.mpr isBranch, rfl⟩

/-- The parts of a node that is no thunk are all that stands directly below it. -/
theorem mem_parts_iff {node lower : Node} (notThunk : node.thunk? definitions = none) :
    lower ∈ node.parts ↔ ∃ position, node.below? definitions position = some lower := by
  rcases node with ⟨written, address, scope⟩
  cases written with
  | leaf | function | self | released => simp [parts, below?]
  | thunk | reference => contradiction
  | object fields | closed fields => exact mem_nested_fields_iff
  | oneOf alternatives | supplied first later =>
      simp only [parts, below?, List.mem_iff_getElem?, getElem?_children]
  | choose key branches => exact mem_nested_branches_iff
  | array inner | setOf keys inner | boxed inner | recursive label inner =>
      simp [parts, below?, eq_comm]

private theorem distinct_positions (address : Address) (start count : Nat) :
    ((List.range' start count).map (· :: address)).Nodup :=
  List.Nodup.map (fun _ _ same => (List.cons.inj same).1) List.nodup_range'

private theorem addresses_fields (node : Node) (start : Nat) (fields : List (Field Schema)) :
    (((node.fields start fields).filterMap Field.schema?).map Node.address).Sublist
      ((List.range' start fields.length).map (· :: node.address)) := by
  induction fields generalizing start with
  | nil => exact .slnil
  | cons field fields inductionHypothesis =>
      cases field with
      | read => exact (inductionHypothesis (start + 1)).cons_cons _
      | state => exact (inductionHypothesis (start + 1)).cons _

private theorem addresses_branches (node : Node) (start : Nat)
    (branches : List (String × Schema)) :
    ((node.branches start branches).map Prod.snd).map Node.address =
      (List.range' start branches.length).map (· :: node.address) := by
  induction branches generalizing start with
  | nil => rfl
  | cons branch branches inductionHypothesis =>
      exact congrArg (_ :: ·) (inductionHypothesis (start + 1))

private theorem addresses_children (node : Node) (start : Nat) (schemas : List Schema) :
    (node.children start schemas).map Node.address =
      (List.range' start schemas.length).map (· :: node.address) := by
  induction schemas generalizing start with
  | nil => rfl
  | cons schema schemas inductionHypothesis =>
      exact congrArg (_ :: ·) (inductionHypothesis (start + 1))

/-- The parts of a node have distinct addresses. -/
theorem distinct_parts (node : Node) : (node.parts.map Node.address).Nodup := by
  rcases node with ⟨written, address, scope⟩
  cases written with
  | leaf | function | self | released | thunk | reference => exact List.nodup_nil
  | object fields | closed fields =>
      exact (distinct_positions address 0 fields.length).sublist (addresses_fields _ 0 fields)
  | oneOf alternatives =>
      rw [parts, addresses_children]
      exact distinct_positions address 0 alternatives.length
  | supplied first later =>
      rw [parts, addresses_children]
      exact distinct_positions address 0 (first :: later).length
  | choose key branches =>
      rw [parts, addresses_branches]
      exact distinct_positions address 0 branches.length
  | array inner | setOf keys inner | boxed inner | recursive label inner =>
      exact List.nodup_singleton _

private theorem thunksOfList_eq (definitions : Definitions) (node : Node) (start : Nat)
    (schemas : List Schema) :
    Schema.thunksOfList definitions node.address node.scope start schemas =
      (node.children start schemas).flatMap (·.thunks definitions) := by
  induction schemas generalizing start with
  | nil => rfl
  | cons schema schemas inductionHypothesis =>
      rw [Schema.thunksOfList, children, List.flatMap_cons, inductionHypothesis]
      rfl

private theorem thunksOfBranches_eq (definitions : Definitions) (node : Node) (start : Nat)
    (branches : List (String × Schema)) :
    Schema.thunksOfBranches definitions node.address node.scope start branches =
      ((node.branches start branches).map Prod.snd).flatMap (·.thunks definitions) := by
  induction branches generalizing start with
  | nil => rfl
  | cons branch branches inductionHypothesis =>
      rw [Schema.thunksOfBranches, Node.branches, List.map_cons, List.flatMap_cons,
        inductionHypothesis]
      rfl

private theorem thunksOfFields_eq (definitions : Definitions) (node : Node) (start : Nat)
    (fields : List (Field Schema)) :
    Schema.thunksOfFields definitions node.address node.scope start fields =
      ((node.fields start fields).filterMap Field.schema?).flatMap (·.thunks definitions) := by
  induction fields generalizing start with
  | nil => rfl
  | cons field fields inductionHypothesis =>
      rw [Schema.thunksOfFields, Node.fields, inductionHypothesis]
      cases field with
      | read => rfl
      | state => rfl

/-- With a node that is no thunk come into being the thunks of its parts, in order. -/
theorem thunks_eq (definitions : Definitions) (node : Node) :
    node.thunks definitions = match node.thunk? definitions with
      | some thunk => [thunk]
      | none => node.parts.flatMap (·.thunks definitions) := by
  rcases node with ⟨written, address, scope⟩
  cases written with
  | leaf | function | self | released | thunk | reference => rfl
  | object fields | closed fields =>
      exact thunksOfFields_eq definitions ⟨_, address, scope⟩ 0 fields
  | oneOf alternatives => exact thunksOfList_eq definitions ⟨_, address, scope⟩ 0 alternatives
  | supplied first later =>
      exact thunksOfList_eq definitions ⟨_, address, scope⟩ 0 (first :: later)
  | choose key branches => exact thunksOfBranches_eq definitions ⟨_, address, scope⟩ 0 branches
  | array inner | setOf keys inner | boxed inner | recursive label inner =>
      exact (List.flatMap_singleton _ _).symm

theorem schema_mem_of_mem_parts {node part : Node} (member : part ∈ node.parts) :
    part.schema ∈ node.schema.nested := by
  rcases node with ⟨written, address, scope⟩
  cases written with
  | leaf | function | self | released | thunk | reference => contradiction
  | object fields | closed fields =>
      obtain ⟨field, fieldMem, inside⟩ := List.mem_filterMap.mp member
      exact schema_mem_of_mem_fields fieldMem inside
  | oneOf | supplied => exact schema_mem_of_mem_children member
  | choose key branches =>
      obtain ⟨position, found⟩ := mem_nested_branches_iff.mp member
      obtain ⟨branch, isBranch, rfl⟩ := Option.map_eq_some_iff.mp found
      exact List.mem_map_of_mem (List.mem_of_getElem? isBranch)
  | array | setOf | boxed | recursive =>
      cases List.mem_singleton.mp member
      exact .head _

/-- What holds of a node whenever it holds of its parts holds of every node. -/
theorem parts_induction {property : Node → Prop}
    (step : ∀ node : Node, (∀ part ∈ node.parts, property part) → property node) (node : Node) :
    property node := by
  have ofSchema : ∀ schema : Schema, ∀ node : Node, node.schema = schema → property node := by
    intro schema
    induction schema using Schema.nested_induction with
    | step written inductionHypothesis =>
        rintro node rfl
        apply step
        intro part member
        exact inductionHypothesis part.schema (schema_mem_of_mem_parts member) part rfl
  exact ofSchema node.schema node rfl

end Node

/-- A thunk is the outermost one at or below an address: it is there, and no other one there
encloses it. -/
structure Thunk.Outermost (definitions : Definitions) (schema : Schema) (address : Address)
    (thunk : Thunk) : Prop where
  stands : thunk.Stands definitions schema
  below : address <:+ thunk.address
  outermost : ∀ outer : Thunk, outer.Stands definitions schema → address <:+ outer.address →
    outer.address <:+ thunk.address → outer = thunk

namespace Node.Stands

variable {definitions : Definitions} {schema : Schema} {node : Node} {thunk : Thunk}

/-- At the address of a node that is no thunk there is none. -/
theorem address_ne_of_thunk? (stands : node.Stands definitions schema)
    (notThunk : node.thunk? definitions = none) (thunkStands : thunk.Stands definitions schema) :
    thunk.address ≠ node.address := by
  intro same
  obtain ⟨place, placeStands, isThunk⟩ := thunkStands
  rw [address_of_thunk? isThunk] at same
  rw [placeStands.eq_of_address_eq stands same, notThunk] at isThunk
  contradiction

private theorem outermost_iff_of_part {part : Node} (stands : node.Stands definitions schema)
    (notThunk : node.thunk? definitions = none) (member : part ∈ node.parts) :
    thunk.Outermost definitions schema part.address ↔
      thunk.Outermost definitions schema node.address ∧ part.address <:+ thunk.address := by
  obtain ⟨position, found⟩ := (mem_parts_iff notThunk).mp member
  have partAddress := address_of_below? found
  have partBelow : node.address <:+ part.address := by
    rw [partAddress]
    exact List.suffix_cons _ _
  constructor
  · intro outermost
    refine ⟨⟨outermost.stands, partBelow.trans outermost.below, ?_⟩, outermost.below⟩
    intro outer outerStands below encloses
    obtain ⟨place, placeStands, isThunk⟩ := outerStands
    have samePlace := address_of_thunk? isThunk
    have different := address_ne_of_thunk? stands notThunk ⟨place, placeStands, isThunk⟩
    rw [samePlace] at below different
    -- Whatever lies below the node lies below one of its parts, and parts at one address are the
    -- same.
    obtain ⟨other, next, nextFound, nextBelow⟩ := stands.exists_below? placeStands below different
    rw [← samePlace] at nextBelow
    have sameAddress : next.address = part.address := by
      rw [address_of_below? nextFound] at nextBelow ⊢
      rw [partAddress] at outermost ⊢
      exact eq_of_suffix_of_length (nextBelow.trans encloses) outermost.below rfl
    rw [sameAddress] at nextBelow
    exact outermost.outermost outer ⟨place, placeStands, isThunk⟩ nextBelow encloses
  · rintro ⟨outermost, below⟩
    refine ⟨outermost.stands, below, ?_⟩
    intro outer outerStands outerBelow encloses
    exact outermost.outermost outer outerStands (partBelow.trans outerBelow) encloses

/-- With a node come into being the outermost thunks at or below it. -/
theorem mem_thunks_iff (stands : node.Stands definitions schema) :
    thunk ∈ node.thunks definitions ↔ thunk.Outermost definitions schema node.address := by
  induction node using Node.parts_induction with
  | step node inductionHypothesis =>
      rw [thunks_eq]
      cases isThunk : node.thunk? definitions with
      | some own =>
          have ownStands : own.Stands definitions schema := ⟨node, stands, isThunk⟩
          have ownAddress := address_of_thunk? isThunk
          have atOwn : node.address <:+ own.address := ⟨[], ownAddress.symm⟩
          rw [List.mem_singleton]
          constructor
          · rintro rfl
            refine ⟨ownStands, atOwn, ?_⟩
            intro outer outerStands below encloses
            rw [← ownAddress] at below
            have sameLength := Nat.le_antisymm encloses.length_le below.length_le
            exact outerStands.eq_of_address_eq ownStands (encloses.eq_of_length sameLength)
          · intro outermost
            have below : own.address <:+ thunk.address := ownAddress ▸ outermost.below
            exact (outermost.outermost own ownStands atOwn below).symm
      | none =>
          rw [List.mem_flatMap]
          constructor
          · rintro ⟨part, member, inside⟩
            obtain ⟨position, found⟩ := (mem_parts_iff isThunk).mp member
            rw [inductionHypothesis part member (stands.below position found)] at inside
            exact ((outermost_iff_of_part stands isThunk member).mp inside).1
          · intro outermost
            obtain ⟨place, placeStands, isPlace⟩ := outermost.stands
            have samePlace := address_of_thunk? isPlace
            have different := address_ne_of_thunk? stands isThunk outermost.stands
            have below := outermost.below
            rw [samePlace] at below different
            obtain ⟨position, next, found, nextBelow⟩ :=
              stands.exists_below? placeStands below different
            rw [← samePlace] at nextBelow
            have member : next ∈ node.parts := (mem_parts_iff isThunk).mpr ⟨position, found⟩
            refine ⟨next, member, ?_⟩
            rw [inductionHypothesis next member (stands.below position found)]
            exact (outermost_iff_of_part stands isThunk member).mpr ⟨outermost, nextBelow⟩

/-- The thunks that come into being with a node have distinct addresses. -/
theorem distinct_thunks (stands : node.Stands definitions schema) :
    ((node.thunks definitions).map Thunk.address).Nodup := by
  induction node using Node.parts_induction with
  | step node inductionHypothesis =>
      rw [thunks_eq]
      cases isThunk : node.thunk? definitions with
      | some own => exact List.nodup_singleton _
      | none =>
          rw [List.map_flatMap, List.nodup_flatMap]
          constructor
          · intro part member
            obtain ⟨position, found⟩ := (mem_parts_iff isThunk).mp member
            exact inductionHypothesis part member (stands.below position found)
          · apply (List.pairwise_map.mp (distinct_parts node)).imp_of_mem
            intro part other member otherMember different address inside otherInside
            obtain ⟨thunk, isThere, rfl⟩ := List.mem_map.mp inside
            obtain ⟨otherThunk, otherIsThere, same⟩ := List.mem_map.mp otherInside
            obtain ⟨position, found⟩ := (mem_parts_iff isThunk).mp member
            obtain ⟨otherPosition, otherFound⟩ := (mem_parts_iff isThunk).mp otherMember
            have below := ((mem_thunks_iff (stands.below position found)).mp isThere).below
            have otherBelow :=
              ((mem_thunks_iff (stands.below otherPosition otherFound)).mp otherIsThere).below
            rw [same] at otherBelow
            rw [address_of_below? found] at below different
            rw [address_of_below? otherFound] at otherBelow different
            exact different (eq_of_suffix_of_length below otherBelow rfl)

end Node.Stands

namespace Thunk.Stands

variable {definitions : Definitions} {schema : Schema} {thunk other : Thunk}
  (stands : thunk.Stands definitions schema)

include stands

theorem address_delegate : thunk.delegate.address = 0 :: thunk.address := by
  obtain ⟨node, _, isThunk⟩ := stands
  rw [Node.address_delegate_of_thunk? isThunk, Node.address_of_thunk? isThunk]

/-- What is properly below a thunk is below what the thunk builds. -/
theorem suffix_of_encloses (otherStands : other.Stands definitions schema)
    (encloses : thunk.address <:+ other.address) (different : other.address ≠ thunk.address) :
    0 :: thunk.address <:+ other.address := by
  obtain ⟨node, nodeStands, isThunk⟩ := stands
  obtain ⟨place, placeStands, isPlace⟩ := otherStands
  rw [Node.address_of_thunk? isThunk, Node.address_of_thunk? isPlace] at encloses different ⊢
  obtain ⟨position, next, found, below⟩ := nodeStands.exists_below? placeStands encloses different
  have isFirst : position = 0 := by
    rcases node with ⟨written, address, scope⟩
    cases written with
    | thunk | reference => exact (Option.ite_none_right_eq_some.mp found).1
    | _ => contradiction
  rw [Node.address_of_below? found, isFirst] at below
  exact below

end Thunk.Stands

end Extraction
