import Extraction.Proofs.Descent

/-!
# What answers do to the memory

Extraction and description do nothing to an orderly memory but what is known to happen while
something is run.  So whatever is asked of a session, one step leads to the other, from the memory
of the schema that has just been built to the memory that the session has now.
-/

namespace Extraction

namespace Memory

variable {definitions : Definitions} {schema : Schema} {start memory between after : Memory}
  {built further : List Thunk} {address : Address}

namespace Steps

theorem single {thunk? : Option Thunk} (step : Step definitions memory thunk? after) :
    Steps definitions memory thunk?.toList after :=
  .tail (.refl memory) step

theorem trans (earlier : Steps definitions memory built between)
    (later : Steps definitions between further after) :
    Steps definitions memory (built ++ further) after := by
  induction later with
  | refl =>
      rw [List.append_nil]
      exact earlier
  | tail _ step inductionHypothesis =>
      rw [← List.append_assoc]
      exact inductionHypothesis.tail step

/-- What has been built stays so. -/
theorem isBuilt (steps : Steps definitions memory built after)
    (before : memory.isBuilt address = true) : after.isBuilt address = true := by
  induction steps with
  | refl => exact before
  | tail _ step inductionHypothesis =>
      cases step with
      | noted | requested | described => exact inductionHypothesis
      | built => exact isBuilt_build_iff.mpr (.inr inductionHypothesis)

theorem opens (steps : Steps definitions memory built after)
    (before : memory.Opens definitions schema address) : after.Opens definitions schema address :=
  fun outer stands encloses different => steps.isBuilt (before outer stands encloses different)

end Steps

/-- A thunk that has come into being is built when it is first forced, and nothing happens when it
is forced again. -/
theorem exists_steps_force {thunk : Thunk} (created : thunk ∈ memory.created) :
    ∃ built, Steps definitions memory built (memory.force definitions thunk).2 := by
  cases isBuilt : memory.isBuilt thunk.address with
  | false =>
      rw [force_of_not_isBuilt isBuilt]
      exact ⟨_, .single (.built created isBuilt)⟩
  | true =>
      obtain ⟨node, held⟩ := Option.isSome_iff_exists.mp isBuilt
      rw [force_of_cell? held]
      exact ⟨_, .refl memory⟩

/-- One and the same memory, to which steps have led. -/
def Follows (definitions : Definitions) (start memory changed : Memory) : Prop :=
  memory = changed ∧ ∃ built, Steps definitions start built memory

theorem follows_refl (definitions : Definitions) (memory : Memory) :
    Follows definitions memory memory memory :=
  ⟨rfl, [], .refl memory⟩

theorem Follows.describe {changed : Memory} (follows : Follows definitions start memory changed)
    (keys : List ThunkKey) :
    Follows definitions start { memory with describing := keys }
      { changed with describing := keys } := by
  obtain ⟨rfl, built, steps⟩ := follows
  exact ⟨rfl, _, steps.tail (.described memory keys)⟩

/-- Where all thunks around a node have been built, one step on the node goes on in steps. -/
theorem preserves_follows {node : Node} (orderly : start.Orderly definitions schema built)
    (stands : node.Stands definitions schema)
    (opens : start.Opens definitions schema node.address) :
    Preserves definitions (Follows definitions start) node where
  notes := by
    rintro memory _ ⟨rfl, built, steps⟩ texts
    exact ⟨rfl, _, steps.tail (.noted memory texts)⟩
  force := by
    rintro memory _ ⟨rfl, further, steps⟩ thunk isThunk
    have created : thunk ∈ memory.created := by
      rw [(orderly.steps steps).created_iff, Node.address_of_thunk? isThunk]
      exact ⟨⟨node, stands, isThunk⟩, steps.opens opens⟩
    obtain ⟨now, forced⟩ := exists_steps_force created
    exact ⟨rfl, rfl, _, steps.trans forced⟩
  request := by
    rintro memory _ ⟨rfl, further, steps⟩ first later _
    exact ⟨rfl, rfl, _, steps.tail (.requested memory node.address)⟩

end Memory

open Memory (Steps Follows)

/-- From an orderly memory in which all thunks around a node have been built, what is run on the
node goes on in steps. -/
def Advances {α : Type} (definitions : Definitions) (schema : Schema) (run : Node → Run α) :
    Prop :=
  ∀ node memory built, node.Stands definitions schema → memory.Orderly definitions schema built →
    memory.Opens definitions schema node.address →
      Run.Coupled (Follows definitions memory) (run node) (run node) memory memory

namespace Advances

variable {α : Type} {definitions : Definitions} {schema : Schema} {run : Node → Run α}
  (advances : Advances definitions schema run)

include advances

/-- What has gone on in steps goes on in steps where a run enters another node. -/
theorem enters {node lower : Node} {memory between changed : Memory} {built : List Thunk}
    (stands : node.Stands definitions schema) (orderly : memory.Orderly definitions schema built)
    (opens : memory.Opens definitions schema node.address)
    (follows : Follows definitions memory between changed)
    (enters : node.Enters definitions between lower) :
    Run.Coupled (Follows definitions memory) (run lower) (run lower) between changed := by
  obtain ⟨rfl, further, steps⟩ := follows
  have sound := (orderly.steps steps).sound
  have coupled := advances lower between _ (enters.stands stands sound) (orderly.steps steps)
    (enters.opens stands sound (steps.opens opens))
  apply coupled.imp
  rintro last _ ⟨rfl, now, laterSteps⟩
  exact ⟨rfl, _, steps.trans laterSteps⟩

theorem exists_steps {node : Node} {memory after : Memory} {built : List Thunk} {result : α}
    (stands : node.Stands definitions schema) (orderly : memory.Orderly definitions schema built)
    (opens : memory.Opens definitions schema node.address)
    (ends : (run node).run memory = some (result, after)) :
    ∃ further, Steps definitions memory further after := by
  have coupled := advances node memory built stands orderly opens
  obtain ⟨_, _, _, steps⟩ := coupled.exists_ending ends
  exact steps

end Advances

section

variable {definitions : Definitions} {schema : Schema}

theorem extract_advances (depth : Nat) (path : Path) (value : Value) :
    Advances definitions schema (extract definitions depth · path value) := by
  induction depth generalizing path value with
  | zero =>
      intro node memory built stands orderly opens
      exact .exhausted
  -- A run is coupled with itself, and the link says where its memory comes from.
  | succ depth inductionHypothesis =>
      intro node memory built stands orderly opens
      apply Extractor.coupled_sameStep (Memory.preserves_follows orderly stands opens)
        (Memory.follows_refl definitions memory)
      intro lower place given between otherBetween follows calls
      exact (inductionHypothesis place given).enters stands orderly opens follows calls.enters

theorem describe_advances (depth : Nat) :
    Advances definitions schema (describe definitions depth) := by
  induction depth with
  | zero =>
      intro node memory built stands orderly opens
      exact .exhausted
  | succ depth inductionHypothesis =>
      intro node memory built stands orderly opens
      apply Describer.coupled_step (Memory.preserves_follows orderly stands opens)
      · intro between changed follows
        rw [follows.1]
      · intro between changed follows keys
        exact follows.describe keys
      · exact Memory.follows_refl definitions memory
      · intro lower between otherBetween follows enters
        exact inductionHypothesis.enters stands orderly opens follows enters

/-- A thunk that is built by its number has come into being, so all thunks around it have been
built. -/
theorem forceNumbered_steps {number : Nat} {memory after : Memory} {built : List Thunk}
    {delegate? : Option Node} (orderly : memory.Orderly definitions schema built)
    (ends : (Run.forceNumbered definitions number).run memory = some (delegate?, after)) :
    (∃ further, Steps definitions memory further after) ∧
      ∀ delegate, delegate? = some delegate →
        delegate.Stands definitions schema ∧ after.Opens definitions schema delegate.address := by
  cases found : memory.created[number]? with
  | none =>
      cases (Run.run_forceNumbered_of_none definitions found).symm.trans ends
      exact ⟨⟨[], .refl memory⟩, nofun⟩
  | some thunk =>
      cases (Run.run_forceNumbered_of_some definitions found).symm.trans ends
      have created := List.mem_of_getElem? found
      obtain ⟨⟨node, stands, isThunk⟩, opens⟩ := (orderly.created_iff thunk).mp created
      rw [Node.address_of_thunk? isThunk] at opens
      obtain ⟨now, forced⟩ : ∃ now, Steps definitions memory now
          (memory.force definitions thunk).2 := Memory.exists_steps_force created
      have enters : node.Enters definitions (memory.force definitions thunk).2
          (memory.force definitions thunk).1 :=
        .held isThunk (Memory.cell?_force definitions thunk memory)
      have sound := (orderly.steps forced).sound
      refine ⟨⟨now, forced⟩, ?_⟩
      intro delegate isHeld
      cases isHeld
      exact ⟨enters.stands stands sound, enters.opens stands sound (forced.opens opens)⟩

theorem numbered_steps {depth number : Nat} {memory after : Memory} {built : List Thunk}
    {text : String} (orderly : memory.Orderly definitions schema built)
    (ends : ((describe definitions depth).numbered definitions number).run memory =
      some (text, after)) :
    ∃ further, Steps definitions memory further after := by
  obtain ⟨⟨delegate?, between⟩, forces, rest⟩ := Option.bind_eq_some_iff.mp ends
  obtain ⟨⟨now, forced⟩, opened⟩ := forceNumbered_steps orderly forces
  cases delegate? with
  | none =>
      cases rest
      exact ⟨now, forced⟩
  | some delegate =>
      obtain ⟨stands, opens⟩ := opened delegate rfl
      obtain ⟨further, steps⟩ :=
        (describe_advances depth).exists_steps stands (orderly.steps forced) opens rest
      exact ⟨_, forced.trans steps⟩

end

namespace Session

/-- A session about a schema with an orderly memory. -/
structure Orderly (definitions : Definitions) (schema : Schema) (built : List Thunk)
    (session : Session) : Prop where
  definitions_eq : session.definitions = definitions
  root_eq : session.root = .root schema
  memory_orderly : session.memory.Orderly definitions schema built

variable {definitions : Definitions} {schema : Schema} {session : Session} {built : List Thunk}

theorem orderly_start (definitions : Definitions) (schema : Schema) :
    (Session.start definitions schema).Orderly definitions schema [] :=
  ⟨rfl, rfl, Memory.orderly_initial definitions schema⟩

/-- Nothing is around the root. -/
theorem opens_root (definitions : Definitions) (schema : Schema) (memory : Memory) :
    memory.Opens definitions schema (Node.root schema).address := by
  intro outer stands encloses different
  exact absurd (List.suffix_nil.mp encloses) different

/-- Every answer goes on in steps. -/
theorem Orderly.answer_steps {after : Session} {limit : Nat} {request : Request} {reply : Reply}
    (orderly : session.Orderly definitions schema built)
    (answered : session.answer limit request = some (reply, after)) :
    ∃ further, Steps definitions session.memory further after.memory ∧
      after.Orderly definitions schema (built ++ further) := by
  obtain ⟨⟨_, memory⟩, ends, same⟩ := Option.map_eq_some_iff.mp answered
  cases same
  rw [orderly.definitions_eq, orderly.root_eq] at ends
  have stands := Node.stands_root definitions schema
  have opens := opens_root definitions schema session.memory
  have goesOn : ∃ further, Steps definitions session.memory further memory := by
    cases request with
    | extract path value =>
        obtain ⟨⟨outcome, _⟩, runEnds, same⟩ := Option.bind_eq_some_iff.mp ends
        cases same
        exact (extract_advances limit path value).exists_steps stands orderly.memory_orderly opens
          runEnds
    | describe =>
        obtain ⟨⟨text, _⟩, runEnds, same⟩ := Option.bind_eq_some_iff.mp ends
        cases same
        exact (describe_advances limit).exists_steps stands orderly.memory_orderly opens runEnds
    | build number =>
        obtain ⟨⟨delegate?, _⟩, runEnds, same⟩ := Option.bind_eq_some_iff.mp ends
        cases same
        exact (forceNumbered_steps orderly.memory_orderly runEnds).1
    | force number =>
        obtain ⟨⟨text, _⟩, runEnds, same⟩ := Option.bind_eq_some_iff.mp ends
        cases same
        exact numbered_steps orderly.memory_orderly runEnds
  obtain ⟨further, steps⟩ := goesOn
  exact ⟨further, steps, orderly.definitions_eq, orderly.root_eq,
    orderly.memory_orderly.steps steps⟩

/-- One step after the other, from the schema that has just been built to the session as it is
now. -/
theorem History.exists_steps {exchanges : List Exchange}
    (history : History definitions schema exchanges session) :
    ∃ built, Steps definitions (Session.start definitions schema).memory built session.memory ∧
      session.Orderly definitions schema built := by
  induction history with
  | start => exact ⟨[], .refl _, orderly_start definitions schema⟩
  | step _ answered inductionHypothesis =>
      obtain ⟨built, steps, orderly⟩ := inductionHypothesis
      obtain ⟨further, laterSteps, orderlyAfter⟩ := orderly.answer_steps answered
      exact ⟨_, steps.trans laterSteps, orderlyAfter⟩

/-- Every request was answered at some time, and from then on one step follows the other. -/
theorem History.exists_answered {exchanges : List Exchange} {exchange : Exchange}
    (history : History definitions schema exchanges session) (member : exchange ∈ exchanges) :
    ∃ (former : List Exchange) (before reached : Session) (further : List Thunk),
      History definitions schema former before ∧
      before.answer exchange.limit exchange.request = some (exchange.reply, reached) ∧
      Steps definitions reached.memory further session.memory := by
  induction history with
  | start => contradiction
  | step earlier answered inductionHypothesis =>
      rcases List.mem_cons.mp member with rfl | isFormer
      · exact ⟨_, _, _, [], earlier, answered, .refl _⟩
      · obtain ⟨former, before, reached, further, formerly, answeredBefore, steps⟩ :=
          inductionHypothesis isFormer
        obtain ⟨built, _, orderly⟩ := earlier.exists_steps
        obtain ⟨now, laterSteps, _⟩ := orderly.answer_steps answered
        exact ⟨former, before, reached, _, formerly, answeredBefore, steps.trans laterSteps⟩

end Session

end Extraction
