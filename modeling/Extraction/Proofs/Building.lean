import Extraction.Proofs.Creation
import Extraction.Proofs.Runs

/-!
# How thunks are built

While something is run, notes are left, supplied schemas are asked for, thunks begin and cease to
be described, and thunks are built.  In an orderly memory the thunks that have been built are
known: each was built once, its factory has run once, and it is what is held.  The thunks that have
come into being are those around which all thunks have been built.  Whatever happens, a memory
stays orderly.
-/

namespace Extraction

/-- The factory that an event shows to have run. -/
def Event.factory? : Event → Option String
  | .built factory => some factory
  | _ => none

namespace Memory

/-- All thunks around an address have been built. -/
def Opens (definitions : Definitions) (schema : Schema) (address : Address) (memory : Memory) :
    Prop :=
  ∀ outer : Thunk, outer.Stands definitions schema → outer.address <:+ address →
    outer.address ≠ address → memory.isBuilt outer.address = true

/-- One thing that happens while something is run, and the thunk that is built by it, if any. -/
inductive Step (definitions : Definitions) : Memory → Option Thunk → Memory → Prop where
  | noted (memory : Memory) (texts : List String) :
      Step definitions memory none (memory.record (texts.map .note))
  | requested (memory : Memory) (address : Address) :
      Step definitions memory none (memory.request address)
  | described (memory : Memory) (keys : List ThunkKey) :
      Step definitions memory none { memory with describing := keys }
  | built {memory : Memory} {thunk : Thunk} (created : thunk ∈ memory.created)
      (missing : memory.isBuilt thunk.address = false) :
      Step definitions memory (some thunk) (memory.build definitions thunk)

/-- What happens one after the other, and the thunks that are built by it, in order. -/
inductive Steps (definitions : Definitions) : Memory → List Thunk → Memory → Prop where
  | refl (memory : Memory) : Steps definitions memory [] memory
  | tail {memory between after : Memory} {built : List Thunk} {thunk? : Option Thunk}
      (earlier : Steps definitions memory built between)
      (step : Step definitions between thunk? after) :
      Steps definitions memory (built ++ thunk?.toList) after

/-- A memory that keeps account of the thunks that have been built, in order. -/
structure Orderly (definitions : Definitions) (schema : Schema) (built : List Thunk)
    (memory : Memory) : Prop where
  cells : memory.cells = (built.map fun thunk => (thunk.address, thunk.delegate)).reverse
  events : memory.log.filterMap Event.factory? = built.map Thunk.factory
  builtCreated : ∀ thunk ∈ built, thunk ∈ memory.created
  builtOnce : (built.map Thunk.address).Nodup
  created_iff : ∀ thunk, thunk ∈ memory.created ↔
    thunk.Stands definitions schema ∧ memory.Opens definitions schema thunk.address
  createdOnce : (memory.created.map Thunk.address).Nodup

variable {definitions : Definitions} {schema : Schema} {memory : Memory} {built : List Thunk}

namespace Orderly

variable (orderly : memory.Orderly definitions schema built)

include orderly

/-- What is held at an address was built by a thunk there. -/
theorem exists_of_cell? {address : Address} {node : Node}
    (held : memory.cell? address = some node) :
    ∃ thunk ∈ built, thunk.address = address ∧ thunk.delegate = node := by
  rw [cell?, orderly.cells, List.lookup_eq_some_iff] at held
  obtain ⟨before, later, split, _⟩ := held
  have member : (address, node) ∈ built.map fun thunk => (thunk.address, thunk.delegate) := by
    rw [← List.mem_reverse, split]
    exact List.mem_append_right _ (.head _)
  obtain ⟨thunk, isBuilt, same⟩ := List.mem_map.mp member
  cases same
  exact ⟨thunk, isBuilt, rfl, rfl⟩

theorem isBuilt_of_mem {thunk : Thunk} (isBuilt : thunk ∈ built) :
    memory.isBuilt thunk.address = true := by
  rw [Memory.isBuilt, cell?, orderly.cells]
  cases found : ((built.map fun thunk => (thunk.address, thunk.delegate)).reverse).lookup
      thunk.address with
  | some => rfl
  | none =>
      rw [List.lookup_eq_none_iff] at found
      have member : (thunk.address, thunk.delegate) ∈
          (built.map fun thunk => (thunk.address, thunk.delegate)).reverse :=
        List.mem_reverse.mpr (List.mem_map_of_mem isBuilt)
      simpa using found _ member

/-- What is built somewhere was built by a thunk there. -/
theorem exists_of_isBuilt {address : Address} (isBuilt : memory.isBuilt address = true) :
    ∃ thunk ∈ built, thunk.address = address := by
  obtain ⟨node, held⟩ := Option.isSome_iff_exists.mp isBuilt
  obtain ⟨thunk, member, isAddress, _⟩ := orderly.exists_of_cell? held
  exact ⟨thunk, member, isAddress⟩

/-- A thunk that has come into being counts as built if it is among those that were built. -/
theorem isBuilt_iff {thunk : Thunk} (created : thunk ∈ memory.created) :
    memory.isBuilt thunk.address = true ↔ thunk ∈ built := by
  constructor
  · intro isBuilt
    obtain ⟨other, member, same⟩ := orderly.exists_of_isBuilt isBuilt
    have sameThunk := List.inj_on_of_nodup_map orderly.createdOnce
      (orderly.builtCreated other member) created same
    exact sameThunk ▸ member
  · exact orderly.isBuilt_of_mem

/-- An orderly memory remembers nothing but what the schema itself says. -/
theorem sound : memory.Sound definitions schema memory.describing where
  created thunk member := ((orderly.created_iff thunk).mp member).1
  held thunk stands node held := by
    obtain ⟨other, member, same, isDelegate⟩ := orderly.exists_of_cell? held
    have otherStands := ((orderly.created_iff other).mp (orderly.builtCreated other member)).1
    rw [← isDelegate, otherStands.eq_of_address_eq stands same]
  describing := rfl

end Orderly

/-- At first no thunk has been built. -/
theorem orderly_initial (definitions : Definitions) (schema : Schema) :
    (Memory.initial ((Node.root schema).thunks definitions)).Orderly definitions schema [] where
  cells := rfl
  events := rfl
  builtCreated := List.forall_mem_nil _
  builtOnce := List.nodup_nil
  created_iff thunk := by
    have stands := Node.stands_root definitions schema
    show thunk ∈ (Node.root schema).thunks definitions ↔ _
    rw [stands.mem_thunks_iff]
    constructor
    · intro outermost
      refine ⟨outermost.stands, fun outer outerStands encloses different => ?_⟩
      have same := outermost.outermost outer outerStands (List.nil_suffix) encloses
      exact absurd (congrArg Thunk.address same) different
    · rintro ⟨thunkStands, opens⟩
      refine ⟨thunkStands, List.nil_suffix, fun outer outerStands _ encloses => ?_⟩
      by_cases same : outer.address = thunk.address
      · exact outerStands.eq_of_address_eq thunkStands same
      · have isBuilt := opens outer outerStands encloses same
        contradiction
  createdOnce := (Node.stands_root definitions schema).distinct_thunks

private theorem Orderly.of_same {after : Memory}
    (orderly : memory.Orderly definitions schema built) (created : after.created = memory.created)
    (cells : after.cells = memory.cells)
    (events : after.log.filterMap Event.factory? = memory.log.filterMap Event.factory?) :
    after.Orderly definitions schema built where
  cells := cells.trans orderly.cells
  events := events.trans orderly.events
  builtCreated := created ▸ orderly.builtCreated
  builtOnce := orderly.builtOnce
  created_iff thunk := by
    have sameOpens : after.Opens definitions schema thunk.address ↔
        memory.Opens definitions schema thunk.address := by
      simp only [Opens, isBuilt, cell?, cells]
    rw [created, sameOpens]
    exact orderly.created_iff thunk
  createdOnce := created ▸ orderly.createdOnce

theorem isBuilt_build_iff {thunk : Thunk} {address : Address} :
    (memory.build definitions thunk).isBuilt address = true ↔
      address = thunk.address ∨ memory.isBuilt address = true := by
  rw [isBuilt, cell?_build]
  by_cases same : address = thunk.address
  · simp [same]
  · simp [same, isBuilt]

section

variable {thunk other : Thunk} (orderly : memory.Orderly definitions schema built)
  (created : thunk ∈ memory.created) (missing : memory.isBuilt thunk.address = false)

include orderly missing

/-- Around what has come into being there is nothing that has not been built. -/
private theorem Orderly.eq_of_encloses (otherCreated : other ∈ memory.created)
    (encloses : thunk.address <:+ other.address) (stands : thunk.Stands definitions schema) :
    other.address = thunk.address := by
  by_contra different
  have opens := ((orderly.created_iff other).mp otherCreated).2
  rw [opens thunk stands encloses (Ne.symm different)] at missing
  contradiction

include created

omit missing in
/-- What comes into being when a thunk is built is properly below it, and around it there is then
nothing that has not been built. -/
private theorem Orderly.opens_of_mem_thunks (member : other ∈ thunk.delegate.thunks definitions) :
    (other.Stands definitions schema ∧
      (memory.build definitions thunk).Opens definitions schema other.address) ∧
      thunk.address <:+ other.address ∧ other.address ≠ thunk.address := by
  obtain ⟨stands, thunkOpens⟩ := (orderly.created_iff thunk).mp created
  rw [stands.delegate.mem_thunks_iff, stands.address_delegate] at member
  obtain ⟨otherStands, below, outermost⟩ := member
  have encloses : thunk.address <:+ other.address := (List.suffix_cons _ _).trans below
  have different : other.address ≠ thunk.address := by
    intro same
    have shorter := below.length_le
    rw [same, List.length_cons] at shorter
    omega
  refine ⟨⟨otherStands, fun outer outerStands around outerDifferent => ?_⟩, encloses, different⟩
  -- What encloses both is comparable with the delegate; below it nothing else is outermost.
  have notBelow : ¬ 0 :: thunk.address <:+ outer.address := by
    intro outerBelow
    exact outerDifferent (congrArg Thunk.address (outermost outer outerStands outerBelow around))
  have inside : outer.address <:+ 0 :: thunk.address :=
    (List.suffix_or_suffix_of_suffix around below).resolve_right notBelow
  rw [isBuilt_build_iff]
  rcases List.suffix_cons_iff.mp inside with same | inside
  · rw [same] at notBelow
    exact absurd (List.suffix_refl _) notBelow
  · by_cases same : outer.address = thunk.address
    · exact .inl same
    · exact .inr (thunkOpens outer outerStands inside same)

private theorem Orderly.mem_thunks_of_opens (otherStands : other.Stands definitions schema)
    (opens : (memory.build definitions thunk).Opens definitions schema other.address)
    (encloses : thunk.address <:+ other.address) (different : other.address ≠ thunk.address) :
    other ∈ thunk.delegate.thunks definitions := by
  have stands := ((orderly.created_iff thunk).mp created).1
  rw [stands.delegate.mem_thunks_iff, stands.address_delegate]
  refine ⟨otherStands, stands.suffix_of_encloses otherStands encloses different, ?_⟩
  intro outer outerStands outerBelow around
  by_contra outerDifferent
  have differentAddress : outer.address ≠ other.address :=
    fun same => outerDifferent (outerStands.eq_of_address_eq otherStands same)
  have longer := outerBelow.length_le
  have isBuilt := opens outer outerStands around differentAddress
  rcases isBuilt_build_iff.mp isBuilt with same | isBuilt
  · rw [same, List.length_cons] at longer
    omega
  -- Below a thunk that has not been built nothing has come into being, so nothing was built there.
  · obtain ⟨former, formerBuilt, same⟩ := orderly.exists_of_isBuilt isBuilt
    have formerCreated := orderly.builtCreated former formerBuilt
    have formerBelow : thunk.address <:+ former.address := by
      rw [same]
      exact (List.suffix_cons _ _).trans outerBelow
    have sameAddress := orderly.eq_of_encloses missing formerCreated formerBelow stands
    rw [← same, sameAddress, List.length_cons] at longer
    omega

private theorem Orderly.mem_created_build_iff :
    other ∈ (memory.build definitions thunk).created ↔ other.Stands definitions schema ∧
      (memory.build definitions thunk).Opens definitions schema other.address := by
  show other ∈ memory.created ++ thunk.delegate.thunks definitions ↔ _
  rw [List.mem_append]
  constructor
  · rintro (before | now)
    · obtain ⟨stands, opens⟩ := (orderly.created_iff other).mp before
      refine ⟨stands, fun outer outerStands around different => ?_⟩
      exact isBuilt_build_iff.mpr (.inr (opens outer outerStands around different))
    · exact (orderly.opens_of_mem_thunks created now).1
  · rintro ⟨stands, opens⟩
    by_cases inside : thunk.address <:+ other.address ∧ other.address ≠ thunk.address
    · exact .inr (orderly.mem_thunks_of_opens created missing stands opens inside.1 inside.2)
    · left
      rw [orderly.created_iff]
      refine ⟨stands, fun outer outerStands around different => ?_⟩
      rcases isBuilt_build_iff.mp (opens outer outerStands around different) with same | isBuilt
      · rw [same] at around different
        exact absurd ⟨around, Ne.symm different⟩ inside
      · exact isBuilt

/-- A memory stays orderly when a thunk is built that has not been built before. -/
theorem Orderly.build :
    (memory.build definitions thunk).Orderly definitions schema (built ++ [thunk]) where
  cells := by simp [Memory.build, orderly.cells]
  events := by simp [Memory.build, orderly.events, Event.factory?]
  builtCreated other member := by
    rcases List.mem_append.mp member with before | now
    · exact List.mem_append_left _ (orderly.builtCreated other before)
    · cases List.mem_singleton.mp now
      exact List.mem_append_left _ created
  builtOnce := by
    rw [List.map_append, List.nodup_append]
    refine ⟨orderly.builtOnce, List.nodup_singleton _, ?_⟩
    intro address before other now same
    obtain ⟨former, member, rfl⟩ := List.mem_map.mp before
    cases List.mem_singleton.mp now
    rw [← same, orderly.isBuilt_of_mem member] at missing
    contradiction
  created_iff _ := orderly.mem_created_build_iff created missing
  createdOnce := by
    have stands := ((orderly.created_iff thunk).mp created).1
    show ((memory.created ++ thunk.delegate.thunks definitions).map Thunk.address).Nodup
    rw [List.map_append, List.nodup_append]
    refine ⟨orderly.createdOnce, stands.delegate.distinct_thunks, ?_⟩
    intro address before other now same
    obtain ⟨former, member, rfl⟩ := List.mem_map.mp before
    obtain ⟨later, laterMember, rfl⟩ := List.mem_map.mp now
    obtain ⟨_, encloses, different⟩ := orderly.opens_of_mem_thunks created laterMember
    rw [← same] at encloses different
    exact different (orderly.eq_of_encloses missing member encloses stands)

end

/-- Whatever happens, a memory stays orderly. -/
theorem Orderly.step {after : Memory} {thunk? : Option Thunk}
    (orderly : memory.Orderly definitions schema built)
    (step : Step definitions memory thunk? after) :
    after.Orderly definitions schema (built ++ thunk?.toList) := by
  cases step with
  | noted texts =>
      rw [Option.toList_none, List.append_nil]
      apply orderly.of_same
      · rfl
      · rfl
      · simp [record, Event.factory?]
  | requested address =>
      rw [Option.toList_none, List.append_nil]
      apply orderly.of_same
      · rfl
      · rfl
      · simp [request, Event.factory?]
  | described keys =>
      rw [Option.toList_none, List.append_nil]
      exact orderly.of_same rfl rfl rfl
  | built created missing => exact orderly.build created missing

/-- A memory stays orderly all the time. -/
theorem Orderly.steps {after : Memory} {further : List Thunk}
    (orderly : memory.Orderly definitions schema built)
    (steps : Steps definitions memory further after) :
    after.Orderly definitions schema (built ++ further) := by
  induction steps with
  | refl =>
      rw [List.append_nil]
      exact orderly
  | tail _ step inductionHypothesis =>
      rw [← List.append_assoc]
      exact inductionHypothesis.step step

end Memory

end Extraction
