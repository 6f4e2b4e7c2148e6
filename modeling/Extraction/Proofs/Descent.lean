import Extraction.Proofs.Building
import Extraction.Proofs.Coupling
import Extraction.Proofs.Describing

/-!
# Where runs go on

A run of a node goes on with a part of the node, with what the node holds if it is a thunk, or with
a recursive schema around it.  All of these stand in what is built from the schema, and all thunks
around them have been built.  Descriptions run alike from linked memories, as extractions do.
-/

namespace Extraction

namespace Node

variable {definitions : Definitions} {schema : Schema} {node lower : Node} {memory : Memory}

/-- A run of a node may go on with another one from a memory. -/
inductive Enters (definitions : Definitions) (memory : Memory) (node : Node) : Node → Prop where
  | part {lower : Node} (member : lower ∈ node.parts) : Enters definitions memory node lower
  | held {thunk : Thunk} {lower : Node} (isThunk : node.thunk? definitions = some thunk)
      (held : memory.cell? thunk.address = some lower) : Enters definitions memory node lower
  | owner {label : String} {target : Node} (found : node.scope.find? label = some target) :
      Enters definitions memory node target

/-- A recursive schema encloses whatever stands in its scope. -/
theorem Stands.suffix_of_owner {label : String} {target : Node}
    (stands : node.Stands definitions schema) (found : node.scope.find? label = some target) :
    target.address <:+ node.address := by
  -- The scope grows on the way down, so the induction is on the address.
  have ofAddress : ∀ address node, at? definitions schema address = some node →
      node.scope.find? label = some target → target.address <:+ address := by
    intro address
    induction address with
    | nil =>
        intro node isNode found
        cases isNode
        contradiction
    | cons position outer inductionHypothesis =>
        intro node isNode found
        have sameAddress := address_of_at? isNode
        obtain ⟨upper, upperFound, isBelow⟩ := Option.bind_eq_some_iff.mp isNode
        have outside (found : upper.scope.find? label = some target) :
            target.address <:+ position :: outer :=
          (inductionHypothesis upper upperFound found).trans (List.suffix_cons _ _)
        rcases below?_cases isBelow with ⟨_, rfl⟩ | ⟨_, _, rfl⟩ | ⟨opened, body, _, rfl⟩
        · exact outside found
        · contradiction
        · simp only [recursiveBody, Owner.node, Scope.find?] at found
          split at found
          · cases found
            exact ⟨[], sameAddress⟩
          · exact outside found
  exact ofAddress node.address node stands found

theorem thunk?_eq_none_of_mem_parts (member : lower ∈ node.parts) :
    node.thunk? definitions = none := by
  rcases node with ⟨written, address, scope⟩
  cases written with
  | thunk | reference => contradiction
  | _ => rfl

namespace Enters

variable {keys : List ThunkKey} (enters : node.Enters definitions memory lower)
  (nodeStands : node.Stands definitions schema) (sound : memory.Sound definitions schema keys)

include enters nodeStands sound

/-- Where a run goes on stands in what is built from the schema. -/
theorem stands : lower.Stands definitions schema := by
  cases enters with
  | part member =>
      obtain ⟨position, found⟩ := (mem_parts_iff (thunk?_eq_none_of_mem_parts member)).mp member
      exact nodeStands.below position found
  | held isThunk held =>
      have thunkStands : Thunk.Stands definitions schema _ := ⟨node, nodeStands, isThunk⟩
      rw [sound.held _ thunkStands lower held]
      exact thunkStands.delegate
  | owner found => exact nodeStands.owner found

/-- All thunks around the place where a run goes on have been built. -/
theorem opens (nodeOpens : memory.Opens definitions schema node.address) :
    memory.Opens definitions schema lower.address := by
  intro outer outerStands encloses different
  cases enters with
  | part member =>
      have notThunk : node.thunk? definitions = none := thunk?_eq_none_of_mem_parts member
      obtain ⟨position, found⟩ := (mem_parts_iff notThunk).mp member
      rw [address_of_below? found] at encloses different
      have inside := (List.suffix_cons_iff.mp encloses).resolve_left different
      exact nodeOpens outer outerStands inside
        (nodeStands.address_ne_of_thunk? notThunk outerStands)
  | @held thunk _ isThunk held =>
      have thunkStands : Thunk.Stands definitions schema thunk := ⟨node, nodeStands, isThunk⟩
      rw [sound.held _ thunkStands lower held, thunkStands.address_delegate] at encloses different
      have inside := (List.suffix_cons_iff.mp encloses).resolve_left different
      have nodeAddress := address_of_thunk? isThunk
      by_cases same : outer.address = thunk.address
      · rw [same, Memory.isBuilt, held]
        rfl
      · rw [nodeAddress] at inside same
        exact nodeOpens outer outerStands inside same
  | owner found =>
      have around := nodeStands.suffix_of_owner found
      apply nodeOpens outer outerStands (encloses.trans around)
      intro same
      rw [← same] at around
      have sameLength := Nat.le_antisymm encloses.length_le around.length_le
      exact different (encloses.eq_of_length sameLength)

end Enters

end Node

/-- A thunk that has been forced holds what it gave. -/
theorem Memory.cell?_force (definitions : Definitions) (thunk : Thunk) (memory : Memory) :
    (memory.force definitions thunk).2.cell? thunk.address =
      some (memory.force definitions thunk).1 := by
  cases held : memory.cell? thunk.address with
  | some node => rw [force_of_cell? held, held]
  | none =>
      rw [force_of_not_isBuilt (by rw [isBuilt, held, Option.isSome_none]), cell?_build,
        if_pos rfl]

/-! ## Extraction -/

namespace Node

variable {node lower : Node} {memory : Memory}

private theorem mem_parts_of_fields {fields : List (Field Schema)} {field : Field Node}
    (shape : node.schema = .object fields ∨ node.schema = .closed fields)
    (member : field ∈ node.fields 0 fields) (inside : field.schema? = some lower) :
    lower ∈ node.parts := by
  rcases shape with shape | shape <;>
    · simp only [parts, shape]
      exact List.mem_filterMap.mpr ⟨field, member, inside⟩

theorem supply_mem_parts {first : Schema} {later : List Schema}
    (shape : node.schema = .supplied first later) (count : Nat) :
    node.supply first later count ∈ node.parts := by
  obtain ⟨position, written, found, supplied⟩ := exists_supply_eq node first later count
  simp only [parts, shape, supplied]
  apply List.mem_iff_getElem?.mpr
  exact ⟨position, by rw [getElem?_children, found, Option.map_some]⟩

end Node

theorem CallsEntry.exists_mem {extract : Extractor} {path : Path} {value : Value} {memory : Memory}
    {fields : List (Field Node)} {next : Visit}
    (entry : CallsEntry extract path value memory fields next) :
    ∃ field ∈ fields, field.schema? = some next.node := by
  cases entry with
  | intro => exact ⟨_, List.mem_append_right _ (.head _), rfl⟩

/-- A run calls only where it may go on. -/
theorem Calls.enters {definitions : Definitions} {extract : Extractor} {visit next : Visit}
    (calls : Calls definitions extract visit next) :
    visit.node.Enters definitions next.memory next.node := by
  cases calls with
  | @field node _ _ _ _ fields reads entry =>
      obtain ⟨field, member, inside⟩ := entry.exists_mem
      have shape : node.schema = .object fields ∨ node.schema = .closed fields := by
        generalize node.schema = written at reads
        cases reads
        · exact .inl rfl
        · exact .inr rfl
      exact .part (Node.mem_parts_of_fields shape member inside)
  | @member node _ _ _ _ next _ values _ shape accepted entry =>
      obtain ⟨field, member, inside⟩ := entry.exists_mem
      obtain ⟨name, _, rfl⟩ := List.mem_map.mp member
      have isChild : node.child 0 values = next.node := Option.some.inj inside
      exact .part (by simp [Node.parts, shape, isChild])
  | @alternative node lower _ _ _ _ alternatives front back _ shape split =>
      have member : lower ∈ node.children 0 alternatives := by
        rw [split]
        exact List.mem_append_right _ (.head _)
      exact .part (by simpa only [Node.parts, shape] using member)
  | branch shape found known =>
      have member := List.mem_map_of_mem (f := Prod.snd) (Schema.branch?_mem known)
      exact .part (by simpa only [Node.parts, shape] using member)
  | thunk isThunk => exact .held isThunk (Memory.cell?_force _ _ _)
  | supplied shape => exact .part (Node.supply_mem_parts shape _)
  | item shape | recursive shape | boxed shape => exact .part (by simp [Node.parts, shape])
  | handle shape found => exact .owner found

/-! ## Description -/

namespace Describer

variable {definitions : Definitions} {linked : Memory → Memory → Prop} {node : Node}
  (preserves : Memory.Preserves definitions linked node)
  (sameDescribing : ∀ memory changed, linked memory changed →
    memory.describing = changed.describing)
  (keeps : ∀ memory changed, linked memory changed → ∀ keys,
    linked { memory with describing := keys } { changed with describing := keys })
  {describe : Describer} {memory changed : Memory} (isLinked : linked memory changed)
  (nested : ∀ lower between otherBetween, linked between otherBetween →
    node.Enters definitions between lower →
      Run.Coupled linked (describe lower) (describe lower) between otherBetween)

include nested isLinked in
private theorem coupled_ownParts {nodes : List Node}
    (areParts : ∀ lower ∈ nodes, lower ∈ node.parts) :
    Run.Coupled linked (nodes.mapM describe) (nodes.mapM describe) memory changed := by
  apply Run.Coupled.mapM _ isLinked
  intro front lower back split results between otherBetween before linkedBetween
  have member : lower ∈ nodes := by
    rw [split]
    exact List.mem_append_right _ (.head _)
  exact nested lower between otherBetween linkedBetween (.part (areParts lower member))

include nested isLinked in
private theorem coupled_ownEntries {fields : List (Field Schema)}
    (shape : node.schema = .object fields ∨ node.schema = .closed fields) :
    Run.Coupled linked (describe.object (node.fields 0 fields))
      (describe.object (node.fields 0 fields)) memory changed := by
  have lines : Run.Coupled linked ((node.fields 0 fields).mapM describe.entry)
      ((node.fields 0 fields).mapM describe.entry) memory changed := by
    apply Run.Coupled.mapM _ isLinked
    intro front field back split results between otherBetween before linkedBetween
    have member : field ∈ node.fields 0 fields := by
      rw [split]
      exact List.mem_append_right _ (.head _)
    cases field with
    | state => exact .pure linkedBetween
    | read key outputKey presence lower =>
        have enters : node.Enters definitions between lower :=
          .part (Node.mem_parts_of_fields shape member rfl)
        apply (nested lower between otherBetween linkedBetween enters).bind
        intro _ _ _ _ linkedAfter
        exact .pure linkedAfter
  apply lines.bind
  intro _ _ _ _ linkedAfter
  exact .pure linkedAfter

include sameDescribing keeps isLinked in
private theorem coupled_whileDescribing {key : ThunkKey} {run : Run String}
    (coupled : Run.Coupled linked run run
      { memory with describing := key :: memory.describing }
      { changed with describing := key :: memory.describing }) :
    Run.Coupled linked (Run.whileDescribing key run) (Run.whileDescribing key run) memory
      changed := by
  rw [Run.Coupled] at coupled ⊢
  rw [Run.run_whileDescribing, Run.run_whileDescribing,
    ← sameDescribing memory changed isLinked]
  generalize run.run { memory with describing := key :: memory.describing } = ending,
    run.run { changed with describing := key :: memory.describing } = otherEnding at coupled ⊢
  cases coupled with
  | none => exact .none
  | @some ending otherEnding alike =>
      have linkedPopped : linked { ending.2 with describing := ending.2.describing.tail }
          { otherEnding.2 with describing := otherEnding.2.describing.tail } := by
        rw [← sameDescribing _ _ alike.2]
        exact keeps _ _ alike.2 _
      exact .some ⟨alike.1, linkedPopped⟩

include preserves sameDescribing keeps isLinked nested

private theorem coupled_ownThunk {thunk : Thunk} (isThunk : node.thunk? definitions = some thunk) :
    Run.Coupled linked (describe.thunk definitions thunk) (describe.thunk definitions thunk) memory
      changed := by
  have same := sameDescribing memory changed isLinked
  by_cases isDescribed : thunk.key ∈ memory.describing
  · have otherIsDescribed : thunk.key ∈ changed.describing := same ▸ isDescribed
    rw [Run.Coupled, run_thunk_of_mem isDescribed, run_thunk_of_mem otherIsDescribed]
    exact .some ⟨rfl, isLinked⟩
  · have otherIsNew : thunk.key ∉ changed.describing := same ▸ isDescribed
    have linkedPushed := keeps memory changed isLinked (thunk.key :: memory.describing)
    obtain ⟨sameDelegate, linkedForced⟩ := preserves.force _ _ linkedPushed thunk isThunk
    have held := Memory.cell?_force definitions thunk
      { memory with describing := thunk.key :: memory.describing }
    have described := nested _ _ _ linkedForced (.held isThunk held)
    rw [Run.Coupled, run_thunk_of_not_mem isDescribed, run_thunk_of_not_mem otherIsNew]
    apply coupled_whileDescribing sameDescribing keeps isLinked
    rw [Run.Coupled, StateT.run_bind, StateT.run_bind, Run.run_force, Run.run_force]
    dsimp only [Option.bind_eq_bind, Option.bind_some]
    rw [← sameDelegate]
    exact described

/-- One step of description from linked memories is coupled, if the descriptions are coupled that
it goes on with. -/
theorem coupled_step :
    Run.Coupled linked (Describer.step definitions describe node)
      (Describer.step definitions describe node) memory changed := by
  have part {lower : Node} (member : lower ∈ node.parts) :
      Run.Coupled linked (describe lower) (describe lower) memory changed :=
    nested lower memory changed isLinked (.part member)
  cases shape : node.schema with simp only [Describer.step, shape]
  | leaf | choose | function | self | released => exact .pure isLinked
  | object fields => exact coupled_ownEntries isLinked nested (.inl shape)
  | closed fields => exact coupled_ownEntries isLinked nested (.inr shape)
  | array inner | setOf keys inner =>
      have below : node.child 0 inner ∈ node.parts := by simp [Node.parts, shape]
      apply (part below).bind
      intro _ _ _ _ linkedAfter
      exact .pure linkedAfter
  | oneOf alternatives =>
      have each : Run.Coupled linked ((node.children 0 alternatives).mapM describe)
          ((node.children 0 alternatives).mapM describe) memory changed :=
        coupled_ownParts isLinked nested (by simp [Node.parts, shape])
      apply each.bind
      intro _ _ _ _ linkedAfter
      exact .pure linkedAfter
  | thunk | reference =>
      apply coupled_ownThunk preserves sameDescribing keeps isLinked nested
      rw [Node.thunk?, shape]
  | supplied first later =>
      obtain ⟨sameSupply, linkedAfter⟩ :=
        preserves.request memory changed isLinked first later shape
      have supplied := nested _ _ _ linkedAfter (.part (Node.supply_mem_parts shape
        (memory.requests.count node.address)))
      rw [Run.Coupled, StateT.run_bind, StateT.run_bind, Run.run_request, Run.run_request]
      simp only [Option.bind_eq_bind, Option.bind_some]
      rw [← sameSupply]
      exact supplied
  | recursive | boxed => exact part (by simp [Node.parts, shape])

end Describer

end Extraction
