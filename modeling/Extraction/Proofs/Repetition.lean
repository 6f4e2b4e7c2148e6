import Extraction.Proofs.Equivariance
import Extraction.Proofs.Progress

/-!
# Thunks are built once

The thunks that have been built are accounted for all along: each was built once, and it counts as
built from then on.  Where no supplied schema ever changes what it yields, a request that repeats
an earlier one goes the same way, whatever has been built meanwhile.  The two runs force the same
thunks, and all that the first one has left built is there, so the second one builds nothing.
-/

namespace Extraction

open Memory (Steps)

/-! ## Supplied schemas that do not change -/

/-- Nothing that stands in what is built from a schema is supplied with anything but the same,
however often it is asked for. -/
def Unchanging (definitions : Definitions) (schema : Schema) : Prop :=
  ∀ node : Node, node.Stands definitions schema → ∀ first later,
    node.schema = .supplied first later → ∀ count,
      node.supply first later count = node.supply first later 0

/-- A supplied schema that always yields the very same. -/
def Schema.Constant : Schema → Prop
  | supplied _ later => later = []
  | _ => True

theorem unchanging_of_constant {definitions : Definitions} {schema : Schema}
    (constant : schema.Throughout Schema.Constant)
    (definitionsConstant : definitions.Throughout Schema.Constant) :
    Unchanging definitions schema := by
  intro node stands first later shape count
  have holds := (stands.throughout (fun _ => trivial) constant definitionsConstant).schema.here
  have noLater : later = [] := by
    change node.schema.Constant at holds
    rwa [shape] at holds
  rw [noLater, Node.supply, Node.supply, List.length_nil, Nat.min_zero, Nat.min_zero]

/-! ## Two runs of the same -/

namespace Memory

/-- A memory and another one, in which has been built what is built in the first one and what is
built in a known one. -/
structure Joined (definitions : Definitions) (schema : Schema) (known memory joined : Memory) :
    Prop where
  exists_sound : ∃ keys,
    memory.Sound definitions schema keys ∧ joined.Sound definitions schema keys
  isBuilt : ∀ address, joined.isBuilt address = (known.isBuilt address || memory.isBuilt address)

variable {definitions : Definitions} {schema : Schema} {known memory joined : Memory}

theorem Joined.describing (isJoined : Joined definitions schema known memory joined) :
    memory.describing = joined.describing := by
  obtain ⟨keys, sound, joinedSound⟩ := isJoined.exists_sound
  rw [sound.describing, joinedSound.describing]

theorem Joined.describe (isJoined : Joined definitions schema known memory joined)
    (others : List ThunkKey) :
    Joined definitions schema known { memory with describing := others }
      { joined with describing := others } := by
  obtain ⟨keys, sound, joinedSound⟩ := isJoined.exists_sound
  exact ⟨⟨others, sound.describe others, joinedSound.describe others⟩, isJoined.isBuilt⟩

theorem isBuilt_or_eq
    (kept : ∀ address, memory.isBuilt address = true → known.isBuilt address = true)
    (address : Address) :
    (known.isBuilt address || memory.isBuilt address) = known.isBuilt address := by
  cases isBuilt : memory.isBuilt address with
  | false => rw [Bool.or_false]
  | true => rw [kept address isBuilt, Bool.or_true]

/-- A memory is joined with the known one itself, if all is built there that it has built. -/
theorem joined_known {keys : List ThunkKey} (sound : memory.Sound definitions schema keys)
    (knownSound : known.Sound definitions schema keys)
    (kept : ∀ address, memory.isBuilt address = true → known.isBuilt address = true) :
    Joined definitions schema known memory known where
  exists_sound := ⟨keys, sound, knownSound⟩
  isBuilt address := (isBuilt_or_eq kept address).symm

theorem Joined.isBuilt_known (isJoined : Joined definitions schema known memory joined)
    (kept : ∀ address, memory.isBuilt address = true → known.isBuilt address = true)
    (address : Address) : joined.isBuilt address = known.isBuilt address :=
  (isJoined.isBuilt address).trans (isBuilt_or_eq kept address)

/-- Such memories look the same to one step on what stands in what is built. -/
theorem preserves_joined {node : Node} (unchanging : Unchanging definitions schema)
    (stands : node.Stands definitions schema) :
    Preserves definitions (Joined definitions schema known) node where
  notes memory joined isJoined texts := by
    obtain ⟨keys, sound, joinedSound⟩ := isJoined.exists_sound
    exact ⟨⟨keys, sound.record _, joinedSound.record _⟩, isJoined.isBuilt⟩
  force memory joined isJoined thunk isThunk := by
    obtain ⟨keys, sound, joinedSound⟩ := isJoined.exists_sound
    obtain ⟨after, forced, soundAfter⟩ := sound.force ⟨node, stands, isThunk⟩
    obtain ⟨joinedAfter, joinedForced, joinedSoundAfter⟩ :=
      joinedSound.force ⟨node, stands, isThunk⟩
    have isBuilt (address : Address) : (joined.force definitions thunk).2.isBuilt address =
        (known.isBuilt address || (memory.force definitions thunk).2.isBuilt address) := by
      rw [isBuilt_force, isBuilt_force, isJoined.isBuilt, Bool.or_left_comm]
    rw [forced, joinedForced] at isBuilt ⊢
    exact ⟨rfl, ⟨keys, soundAfter, joinedSoundAfter⟩, isBuilt⟩
  request memory joined isJoined first later shape := by
    obtain ⟨keys, sound, joinedSound⟩ := isJoined.exists_sound
    constructor
    · have same := unchanging node stands first later shape
      exact (same _).trans (same _).symm
    · exact ⟨⟨keys, sound.request _, joinedSound.request _⟩, isJoined.isBuilt⟩

end Memory

section

variable {definitions : Definitions} {schema : Schema} {node : Node} {known memory joined : Memory}
  (unchanging : Unchanging definitions schema) (stands : node.Stands definitions schema)
  (isJoined : Memory.Joined definitions schema known memory joined)

include unchanging stands isJoined

theorem extract_joined (depth : Nat) (path : Path) (value : Value) :
    Run.Coupled (Memory.Joined definitions schema known)
      (extract definitions depth node path value) (extract definitions depth node path value)
      memory joined := by
  induction depth generalizing node path value memory joined with
  | zero => exact .exhausted
  | succ depth inductionHypothesis =>
      apply Extractor.coupled_sameStep (Memory.preserves_joined unchanging stands) isJoined
      intro lower place given between otherBetween joinedBetween calls
      obtain ⟨keys, sound, _⟩ := joinedBetween.exists_sound
      exact inductionHypothesis (calls.enters.stands stands sound) joinedBetween place given

theorem describe_joined (depth : Nat) :
    Run.Coupled (Memory.Joined definitions schema known) (describe definitions depth node)
      (describe definitions depth node) memory joined := by
  induction depth generalizing node memory joined with
  | zero => exact .exhausted
  | succ depth inductionHypothesis =>
      apply Describer.coupled_step (Memory.preserves_joined unchanging stands)
        (fun _ _ => Memory.Joined.describing) (fun _ _ => Memory.Joined.describe) isJoined
      intro lower between otherBetween joinedBetween enters
      obtain ⟨keys, sound, _⟩ := joinedBetween.exists_sound
      exact inductionHypothesis (enters.stands stands sound) joinedBetween

end

/-! ## Requests that repeat earlier ones -/

/-- What extraction does to the memory does not depend on the path. -/
theorem map_snd_run_extract (definitions : Definitions) (depth : Nat) (node : Node)
    (path other : Path) (value : Value) (memory : Memory) :
    ((extract definitions depth node path value).run memory).map Prod.snd =
      ((extract definitions depth node other value).run memory).map Prod.snd := by
  have atRoot (path : Path) :
      ((extract definitions depth node path value).run memory).map Prod.snd =
        ((extract definitions depth node .root value).run memory).map Prod.snd := by
    have equivariant := extract_equivariant definitions depth path node .root value
    rw [Path.append_root] at equivariant
    rw [equivariant, StateT.run_map]
    cases (extract definitions depth node .root value).run memory <;> rfl
  rw [atRoot path, atRoot other]

namespace Request

/-- A request repeats another one: the same input is extracted again, be it at another path, or the
schema is described again. -/
inductive Repeats : Request → Request → Prop where
  | extract (path other : Path) (value : Value) :
      Repeats (.extract path value) (.extract other value)
  | describe : Repeats .describe .describe

variable {definitions : Definitions} {schema : Schema} {root : Node} {limit larger : Nat}
  {request earlier : Request} {known memory joined : Memory}

/-- From the same memory both requests leave the same memory. -/
theorem Repeats.map_snd_run (repeats : request.Repeats earlier) :
    ((request.answer definitions limit root).run memory).map Prod.snd =
      ((earlier.answer definitions limit root).run memory).map Prod.snd := by
  cases repeats with
  | describe => rfl
  | extract path other value =>
      have same := map_snd_run_extract definitions limit root path other value memory
      have answers (path : Path) :
          (((Request.extract path value).answer definitions limit root).run memory).map Prod.snd =
            ((Extraction.extract definitions limit root path value).run memory).map Prod.snd := by
        rw [Request.answer, StateT.run_bind]
        cases (Extraction.extract definitions limit root path value).run memory <;> rfl
      rw [answers, answers, same]

/-- An answer stays the same with a larger bound. -/
theorem answer_refines (isLarger : limit ≤ larger) :
    Run.Refines (request.answer definitions limit root)
      (request.answer definitions larger root) := by
  cases request with
  | extract path value =>
      exact .bind (extract_refines isLarger root path value) fun _ => .refl _
  | describe => exact .bind (describe_refines isLarger root) fun _ => .refl _
  | build number => exact .refl _
  | force number =>
      apply Run.Refines.bind _ fun _ => .refl _
      apply Run.Refines.bind (.refl _)
      intro delegate?
      cases delegate? with
      | none => exact .refl _
      | some delegate => exact describe_refines isLarger delegate

/-- Where a request was answered, one that repeats it leaves the same memory. -/
theorem Repeats.exists_run {reply : Reply} {after : Memory} (repeats : request.Repeats earlier)
    (isLarger : limit ≤ larger)
    (ends : (earlier.answer definitions limit root).run memory = some (reply, after)) :
    ∃ other, (request.answer definitions larger root).run memory = some (other, after) := by
  have same : ((request.answer definitions larger root).run memory).map Prod.snd = some after := by
    rw [repeats.map_snd_run, answer_refines isLarger memory _ ends, Option.map_some]
  obtain ⟨⟨other, _⟩, otherEnds, rfl⟩ := Option.map_eq_some_iff.mp same
  exact ⟨other, otherEnds⟩

/-- A request that repeats another one is answered alike from joined memories. -/
theorem Repeats.answer_joined (repeats : request.Repeats earlier)
    (unchanging : Unchanging definitions schema)
    (isJoined : Memory.Joined definitions schema known memory joined) :
    Run.Coupled (Memory.Joined definitions schema known)
      (request.answer definitions limit (.root schema))
      (request.answer definitions limit (.root schema)) memory joined := by
  have stands := Node.stands_root definitions schema
  cases repeats with
  | extract path other value =>
      apply (extract_joined unchanging stands isJoined limit path value).bind
      intro _ _ _ _ joinedAfter
      exact .pure joinedAfter
  | describe =>
      apply (describe_joined unchanging stands isJoined limit).bind
      intro _ _ _ _ joinedAfter
      exact .pure joinedAfter

end Request

/-! ## Accounts -/

namespace Memory

/-- Account is kept of the thunks that have been built, in order: only their factories have run,
at distinct places, and only they count as built. -/
structure Accounts (built : List Thunk) (memory : Memory) : Prop where
  factories : memory.log.filterMap Event.factory? = built.map Thunk.factory
  once : (built.map Thunk.address).Nodup
  created : ∀ thunk ∈ built, thunk ∈ memory.created
  distinct : (memory.created.map Thunk.address).Nodup
  isBuilt_iff : ∀ thunk ∈ memory.created, memory.isBuilt thunk.address = true ↔ thunk ∈ built

/-- No factory has run in between, and nothing has come into being. -/
structure BuildsNothing (memory after : Memory) : Prop where
  factories : after.log.filterMap Event.factory? = memory.log.filterMap Event.factory?
  created : after.created = memory.created
  cells : after.cells = memory.cells

variable {definitions : Definitions} {schema : Schema} {memory after : Memory}
  {built further : List Thunk}

theorem Orderly.accounts (orderly : memory.Orderly definitions schema built) :
    memory.Accounts built where
  factories := orderly.events
  once := orderly.builtOnce
  created := orderly.builtCreated
  distinct := orderly.createdOnce
  isBuilt_iff _ created := orderly.isBuilt_iff created

theorem Steps.buildsNothing (steps : Steps definitions memory [] after) :
    memory.BuildsNothing after := by
  generalize isEmpty : ([] : List Thunk) = built at steps
  induction steps with
  | refl => exact ⟨rfl, rfl, rfl⟩
  | tail _ step inductionHypothesis =>
      obtain ⟨noneBefore, noneNow⟩ := List.append_eq_nil_iff.mp isEmpty.symm
      obtain ⟨factories, created, cells⟩ := inductionHypothesis noneBefore.symm
      cases step with
      | noted texts => exact ⟨by simp [record, Event.factory?, factories], created, cells⟩
      | requested address => exact ⟨by simp [request, Event.factory?, factories], created, cells⟩
      | described => exact ⟨factories, created, cells⟩
      | built => contradiction

/-- Nothing is built in steps after which the same counts as built. -/
theorem Orderly.further_eq_nil (orderly : memory.Orderly definitions schema built)
    (steps : Steps definitions memory further after)
    (same : ∀ address, after.isBuilt address = memory.isBuilt address) : further = [] := by
  have orderlyAfter := orderly.steps steps
  have once := orderlyAfter.builtOnce
  rw [List.map_append, List.nodup_append] at once
  apply List.eq_nil_iff_forall_not_mem.mpr
  intro thunk member
  have isBuilt := orderlyAfter.isBuilt_of_mem (List.mem_append_right built member)
  rw [same] at isBuilt
  obtain ⟨former, formerMember, sameAddress⟩ := orderly.exists_of_isBuilt isBuilt
  exact once.2.2 _ (List.mem_map_of_mem formerMember) _ (List.mem_map_of_mem member) sameAddress

end Memory

namespace Session

variable {definitions : Definitions} {schema : Schema} {session before reached later : Session}
  {limit larger : Nat} {request earlier : Request} {reply : Reply}

/-- A session answers in the same way with a larger bound. -/
theorem answer_of_le (isLarger : limit ≤ larger)
    (answered : session.answer limit request = some (reply, later)) :
    session.answer larger request = some (reply, later) := by
  obtain ⟨ending, ends, same⟩ := Option.map_eq_some_iff.mp answered
  rw [Session.answer, Session.run, Request.answer_refines isLarger _ _ ends, Option.map_some, same]

/-- A request that repeats an earlier one is answered by every session in which all is built that
the earlier answer has left built, and nothing is built for it. -/
theorem Orderly.answer_repeated {built : List Thunk} {former : List Exchange}
    (orderly : later.Orderly definitions schema built) (quiet : later.memory.describing = [])
    (unchanging : Unchanging definitions schema)
    (history : History definitions schema former before)
    (answered : before.answer limit earlier = some (reply, reached))
    (kept : ∀ address, reached.memory.isBuilt address = true →
      later.memory.isBuilt address = true)
    (repeats : request.Repeats earlier) (isLarger : limit ≤ larger) :
    ∃ reply last, later.answer larger request = some (reply, last) ∧
      later.memory.BuildsNothing last.memory := by
  have sound := history.staysSound
  obtain ⟨formerBuilt, _, orderlyBefore⟩ := history.exists_steps
  obtain ⟨_, stepsReached, _⟩ := orderlyBefore.answer_steps answered
  obtain ⟨⟨_, memory⟩, ends, same⟩ := Option.map_eq_some_iff.mp answered
  cases same
  rw [sound.definitions_eq, sound.root_eq] at ends
  -- The new request is first run at the former time, and then from both memories side by side.
  obtain ⟨reply, formerlyEnds⟩ := repeats.exists_run isLarger ends
  have laterSound : later.memory.Sound definitions schema [] :=
    quiet ▸ orderly.memory_orderly.sound
  have isJoined := Memory.joined_known sound.memory_sound laterSound
    fun address isBuilt => kept address (stepsReached.isBuilt isBuilt)
  have coupled : Run.Coupled (Memory.Joined definitions schema later.memory)
      (request.answer definitions larger (.root schema))
      (request.answer definitions larger (.root schema)) before.memory later.memory :=
    repeats.answer_joined unchanging isJoined
  obtain ⟨last, laterEnds, joinedLast⟩ := coupled.exists_ending formerlyEnds
  have laterAnswered : later.answer larger request =
      some (reply, { later with memory := last }) := by
    rw [Session.answer, Session.run, orderly.definitions_eq, orderly.root_eq, laterEnds]
    rfl
  obtain ⟨further, steps, _⟩ := orderly.answer_steps laterAnswered
  -- All that is built at the end was built before, so the steps in between have built nothing.
  have nothing : further = [] :=
    orderly.memory_orderly.further_eq_nil steps (joinedLast.isBuilt_known kept)
  rw [nothing] at steps
  exact ⟨reply, _, laterAnswered, steps.buildsNothing⟩

/-- Every factory runs at most once, and account is kept of it from then on; if no supplied
schema changes what it yields, a request that is repeated builds nothing. -/
theorem History.builds_once {exchanges : List Exchange}
    (history : History definitions schema exchanges session) :
    (∃ built, Steps definitions (Session.start definitions schema).memory built session.memory) ∧
    (∀ built memory, Steps definitions (Session.start definitions schema).memory built memory →
      memory.Accounts built ∧ ∀ further after, Steps definitions memory further after →
        after.Accounts (built ++ further)) ∧
    (Unchanging definitions schema → ∀ exchange ∈ exchanges, ∀ request : Request,
      request.Repeats exchange.request → ∀ further memory,
        Steps definitions session.memory further memory → memory.describing = [] →
          (∀ larger, exchange.limit ≤ larger → ∃ reply after,
            Session.answer { session with memory } larger request = some (reply, after)) ∧
          ∀ limit reply after,
            Session.answer { session with memory } limit request = some (reply, after) →
              memory.BuildsNothing after.memory) := by
  obtain ⟨built, steps, orderly⟩ := history.exists_steps
  refine ⟨⟨built, steps⟩, ?_, ?_⟩
  · intro built memory steps
    have orderlyThen := (Memory.orderly_initial definitions schema).steps steps
    constructor
    · exact orderlyThen.accounts
    · intro further after laterSteps
      exact (orderlyThen.steps laterSteps).accounts
  · intro unchanging exchange member request repeats further memory laterSteps quiet
    obtain ⟨former, before, reached, _, formerly, answered, between⟩ :=
      history.exists_answered member
    have kept (address : Address) (isBuilt : reached.memory.isBuilt address = true) :
        memory.isBuilt address = true :=
      laterSteps.isBuilt (between.isBuilt isBuilt)
    have later : Session.Orderly definitions schema (built ++ further) { session with memory } :=
      ⟨orderly.definitions_eq, orderly.root_eq, orderly.memory_orderly.steps laterSteps⟩
    constructor
    · intro larger isLarger
      obtain ⟨reply, after, ends, _⟩ :=
        later.answer_repeated quiet unchanging formerly answered kept repeats isLarger
      exact ⟨reply, after, ends⟩
    · intro limit reply after ends
      obtain ⟨_, _, largerEnds, nothing⟩ :=
        later.answer_repeated quiet unchanging formerly answered kept repeats
          (Nat.le_max_left exchange.limit limit)
      rw [answer_of_le (Nat.le_max_right exchange.limit limit) ends] at largerEnds
      cases largerEnds
      exact nothing

/-- A supplied schema that yields a copy when it is asked again: the thunk in the copy is another
one, and it is built as well. -/
example :
    ((Session.start [] (.supplied (.thunk 0 "name" .string) [.thunk 0 "name" .string])).answer 4
      (.extract .root .null)).bind (fun ending => (ending.2.answer 4 (.extract .root .null)).map
        (·.2.memory.log.filterMap Event.factory?)) = some ["name", "name"] :=
  rfl

/-- A name, or a tree, which is fetched anew every time but is always the same. -/
def nameOrTree : Schema :=
  .oneOf [.thunk 0 "name" .string, .supplied tree []]

theorem unchanging_nameOrTree : Unchanging treeDefinitions nameOrTree := by
  have ofTree : tree.Throughout Schema.Constant :=
    Schema.throughout_iff.mpr ⟨trivial, List.forall_mem_nil _⟩
  have ofString : Schema.string.Throughout Schema.Constant :=
    Schema.throughout_iff.mpr ⟨trivial, List.forall_mem_nil _⟩
  have ofThunk : (Schema.thunk 0 "name" .string).Throughout Schema.Constant :=
    Schema.throughout_iff.mpr ⟨trivial, List.forall_mem_singleton.mpr ofString⟩
  have ofSupplied : (Schema.supplied tree []).Throughout Schema.Constant :=
    Schema.throughout_iff.mpr ⟨rfl, List.forall_mem_singleton.mpr ofTree⟩
  apply unchanging_of_constant
  · exact Schema.throughout_iff.mpr
      ⟨trivial, List.forall_mem_cons.mpr ⟨ofThunk, List.forall_mem_singleton.mpr ofSupplied⟩⟩
  · intro definition member
    cases List.mem_singleton.mp member
    exact Schema.throughout_iff.mpr ⟨trivial, List.forall_mem_singleton.mpr ofTree⟩

/-- A tree is extracted, whereby the thunk of the name is built in vain; then a thunk is built by
its number, and all is described.  When the tree is extracted again, nothing is built. -/
theorem builds_once_nameOrTree :
    ∃ (session : Session) (built : List Thunk),
      Steps treeDefinitions (Session.start treeDefinitions nameOrTree).memory built
        session.memory ∧ session.memory.Accounts built ∧
      ∃ reply after, session.answer 9 (.extract (.ofField "again") (.array [.array []])) =
        some (reply, after) ∧ session.memory.BuildsNothing after.memory := by
  have extracted := History.step .start
    (show (Session.start treeDefinitions nameOrTree).answer 9
      (.extract .root (.array [.array []])) = some (_, _) from rfl)
  have built := History.step extracted
    (show Session.answer _ 4 (.build 1) = some (_, _) from rfl)
  have described := History.step built
    (show Session.answer _ 9 .describe = some (_, _) from rfl)
  obtain ⟨⟨built, steps⟩, accounts, repeated⟩ := History.builds_once described
  have quiet := described.staysSound.memory_sound.describing
  obtain ⟨ends, nothing⟩ := repeated unchanging_nameOrTree _ (.tail _ (.tail _ (.head _)))
    (.extract (.ofField "again") (.array [.array []])) (.extract _ _ _) [] _ (.refl _) quiet
  obtain ⟨reply, after, answered⟩ := ends 9 (Nat.le_refl 9)
  exact ⟨_, built, steps, (accounts built _ steps).1, reply, after, answered,
    nothing 9 reply after answered⟩

end Session

end Extraction
