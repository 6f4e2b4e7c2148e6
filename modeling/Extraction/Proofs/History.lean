import Extraction.Proofs.Descriptions
import Extraction.Session

/-!
# Histories of sessions

A session answers one request after the other.  Where all supplied schemas are steady, no request
leaves anything behind that a later answer shows: every extraction and every description is
answered as by a session that has just been started.
-/

namespace Extraction

/-- What can be asked of a session. -/
inductive Request where
  /-- To extract from a value found at a path. -/
  | extract (path : Path) (value : Value)
  /-- To describe the schema. -/
  | describe
  /-- To build a thunk by its number. -/
  | build (number : Nat)
  /-- To build a thunk by its number and describe what it holds. -/
  | force (number : Nat)

/-- What a session answers. -/
inductive Reply where
  | outcome (outcome : Outcome Value)
  | text (text : String)
  /-- What a thunk holds does not show. -/
  | done

namespace Request

/-- Whether a request asks for a thunk by its number, which depends on what has been built. -/
def isForce : Request → Bool
  | build _ | force _ => true
  | _ => false

/-- The run that answers a request about a schema and nests at most `limit` deep. -/
def answer (definitions : Definitions) (limit : Nat) (root : Node) : Request → Run Reply
  | extract path value => return .outcome (← Extraction.extract definitions limit root path value)
  | describe => return .text (← Extraction.describe definitions limit root)
  | build number => do
      let _ ← Run.forceNumbered definitions number
      return .done
  | force number =>
      return .text (← (Extraction.describe definitions limit).numbered definitions number)

end Request

/-- A request that was answered. -/
structure Exchange where
  request : Request
  limit : Nat
  reply : Reply

namespace Session

/-- Answers a request in a run that nests at most `limit` deep. -/
def answer (session : Session) (limit : Nat) (request : Request) : Option (Reply × Session) :=
  session.run (request.answer session.definitions limit session.root)

/-- An extraction answers with its outcome, and only the memory changes. -/
theorem answer_extract (session : Session) (limit : Nat) (path : Path) (value : Value) :
    session.answer limit (.extract path value) =
      ((Extraction.extract session.definitions limit session.root path value).run
        session.memory).map fun (outcome, memory) =>
          (.outcome outcome, { session with memory }) := by
  simp only [Session.answer, Session.run, Request.answer, StateT.run_bind, StateT.run_pure]
  cases (Extraction.extract session.definitions limit session.root path value).run
    session.memory <;> rfl

/-- What has been asked of a schema since it was built, the latest exchange first, and the session
as it is now. -/
inductive History (definitions : Definitions) (schema : Schema) :
    List Exchange → Session → Prop where
  | start : History definitions schema [] (Session.start definitions schema)
  | step {exchanges : List Exchange} {session after : Session} {request : Request} {limit : Nat}
      {reply : Reply} (earlier : History definitions schema exchanges session)
      (answered : session.answer limit request = some (reply, after)) :
      History definitions schema (⟨request, limit, reply⟩ :: exchanges) after

/-- A session that some requests lead to. -/
def Reachable (definitions : Definitions) (schema : Schema) (session : Session) : Prop :=
  ∃ exchanges, History definitions schema exchanges session

/-- A session about a schema that remembers only what the schema itself says. -/
structure Sound (definitions : Definitions) (schema : Schema) (session : Session) : Prop where
  definitions_eq : session.definitions = definitions
  root_eq : session.root = .root schema
  memory_sound : session.memory.Sound definitions schema []

section

variable {definitions : Definitions} {schema : Schema} {session : Session}

theorem sound_start (definitions : Definitions) (schema : Schema) :
    (Session.start definitions schema).Sound definitions schema :=
  ⟨rfl, rfl, Memory.sound_initial definitions schema⟩

private theorem answer_ensures (limit : Nat) (request : Request) :
    Run.Ensures (Memory.Sound definitions schema [])
      (request.answer definitions limit (.root schema)) fun _ => True := by
  have stands := Node.stands_root definitions schema
  cases request with
  | extract path value => exact .bind (extract_ensures stands) fun _ _ => .pure trivial
  | describe => exact .bind (describe_ensures stands) fun _ _ => .pure trivial
  | build number => exact .bind forceNumbered_ensures fun _ _ => .pure trivial
  | force number => exact .bind numbered_ensures fun _ _ => .pure trivial

/-- Answering a request keeps a session sound. -/
theorem Sound.answer {after : Session} {limit : Nat} {request : Request} {reply : Reply}
    (sound : session.Sound definitions schema)
    (answered : session.answer limit request = some (reply, after)) :
    after.Sound definitions schema := by
  rcases Option.map_eq_some_iff.mp answered with ⟨⟨_, memory⟩, ends, same⟩
  cases same
  rw [sound.definitions_eq, sound.root_eq] at ends
  obtain ⟨_, memorySound⟩ := answer_ensures limit request _ sound.memory_sound _ _ ends
  exact ⟨sound.definitions_eq, sound.root_eq, memorySound⟩

/-- Whatever is asked of a session, it stays sound. -/
theorem History.staysSound {exchanges : List Exchange}
    (history : History definitions schema exchanges session) :
    session.Sound definitions schema := by
  induction history with
  | start => exact sound_start definitions schema
  | step _ answered inductionHypothesis => exact inductionHypothesis.answer answered

theorem Reachable.staysSound (reachable : session.Reachable definitions schema) :
    session.Sound definitions schema := by
  rcases reachable with ⟨exchanges, history⟩
  exact history.staysSound

/-- What a session answers to an extraction is among what extraction means, within as many
steps. -/
theorem Reachable.yieldsWithin {after : Session} {limit : Nat} {path : Path} {value : Value}
    {outcome : Outcome Value} (reachable : session.Reachable definitions schema)
    (answered : session.answer limit (.extract path value) = some (.outcome outcome, after)) :
    YieldsWithin definitions limit ⟨schema, []⟩ path value outcome := by
  have sound := reachable.staysSound
  rw [answer_extract, sound.definitions_eq, sound.root_eq] at answered
  rcases Option.map_eq_some_iff.mp answered with ⟨⟨_, memory⟩, ends, same⟩
  cases same
  exact (extract_ensures (Node.stands_root definitions schema) _ sound.memory_sound _ _ ends).1

variable (steady : schema.Throughout Schema.Steady)
  (definitionsSteady : definitions.Throughout Schema.Steady)

include steady definitionsSteady

/-- An answer that does not ask for a thunk by its number is the same from every sound memory. -/
private theorem exists_answer_settles (limit : Nat) {request : Request}
    (unnumbered : request.isForce = false) :
    ∃ reply?, Run.Settles (Memory.Sound definitions schema [])
      (request.answer definitions limit (.root schema)) reply? := by
  have stands := Node.stands_root definitions schema
  cases request with
  | extract path value =>
      rcases exists_extract_settles steady definitionsSteady stands with ⟨outcome?, settles⟩
      exact ⟨_, settles.bind fun outcome _ => .pure (Reply.outcome outcome)⟩
  | describe =>
      exact ⟨_, (describe_settles steady definitionsSteady stands).bind fun text _ =>
        .pure (Reply.text text)⟩
  | build | force => contradiction

/-- A sound session answers an extraction with exactly what extraction means. -/
theorem Sound.answer_extract_iff {limit : Nat} {path : Path} {value : Value}
    {outcome : Outcome Value} (sound : session.Sound definitions schema) :
    (∃ after, session.answer limit (.extract path value) = some (.outcome outcome, after)) ↔
      YieldsWithin definitions limit ⟨schema, []⟩ path value outcome := by
  have stands := Node.stands_root definitions schema
  rw [answer_extract, sound.definitions_eq, sound.root_eq]
  constructor
  · rintro ⟨_, answered⟩
    rcases Option.map_eq_some_iff.mp answered with ⟨⟨_, after⟩, ends, same⟩
    cases same
    exact (extract_ensures stands _ sound.memory_sound _ _ ends).1
  · intro yields
    obtain ⟨after, ends, _⟩ := extract_settles steady definitionsSteady stands yields _
      sound.memory_sound
    exact ⟨_, by rw [ends, Option.map_some]⟩

/-- What extraction means is what it ends with in a session, if its bound on nesting is large
enough. -/
theorem Reachable.extract_ends_iff {path : Path} {value : Value} {outcome : Outcome Value}
    (reachable : session.Reachable definitions schema) :
    (∃ limit after, session.answer limit (.extract path value) = some (.outcome outcome, after)) ↔
      Yields definitions ⟨schema, []⟩ path value outcome := by
  have sound := reachable.staysSound
  exact exists_congr fun limit => sound.answer_extract_iff steady definitionsSteady

/-- Sound sessions give the same answers, unless they are asked for a thunk by its number. -/
theorem Sound.map_fst_answer {other : Session} (sound : session.Sound definitions schema)
    (otherSound : other.Sound definitions schema) (limit : Nat) {request : Request}
    (unnumbered : request.isForce = false) :
    (session.answer limit request).map Prod.fst = (other.answer limit request).map Prod.fst := by
  rcases exists_answer_settles steady definitionsSteady limit unnumbered with ⟨reply?, settles⟩
  have answers {session : Session} (sound : session.Sound definitions schema) :
      (session.answer limit request).map Prod.fst = reply? := by
    rw [Session.answer, Session.run, sound.definitions_eq, sound.root_eq, Option.map_map]
    exact settles.map_fst sound.memory_sound
  rw [answers sound, answers otherSound]

/-- No hidden state: every extraction and every description is answered as by a session that has
just been started, whatever was asked before, and whichever thunks that has built. -/
theorem reply_eq_first_reply {exchanges : List Exchange}
    (history : History definitions schema exchanges session) :
    ∀ exchange ∈ exchanges, exchange.request.isForce = false →
      ((Session.start definitions schema).answer exchange.limit exchange.request).map Prod.fst =
        some exchange.reply := by
  induction history with
  | start => simp
  | step earlier answered inductionHypothesis =>
      intro exchange member unnumbered
      rcases List.mem_cons.mp member with rfl | before
      · have sound := earlier.staysSound
        rw [← sound.map_fst_answer steady definitionsSteady (sound_start definitions schema) _
          unnumbered, answered, Option.map_some]
      · exact inductionHypothesis exchange before unnumbered

end

/-! ## Trees -/

/-- A definition that refers to itself: arrays of arrays, however deep. -/
def treeDefinitions : Definitions :=
  [("tree", .array (.reference "tree" "tree"))]

/-- The schema of `treeDefinitions`. -/
def tree : Schema :=
  .reference "tree" "tree"

theorem steady_tree : tree.Throughout Schema.Steady :=
  Schema.throughout_iff.mpr ⟨trivial, by simp [tree, Schema.nested]⟩

theorem steady_treeDefinitions : treeDefinitions.Throughout Schema.Steady := by
  intro definition member
  cases List.mem_singleton.mp member
  exact Schema.throughout_iff.mpr ⟨trivial, List.forall_mem_singleton.mpr steady_tree⟩

/-- After an extraction that builds thunks two levels deep and a thunk that is built by its number,
a tree is described as at first. -/
theorem reply_eq_first_reply_tree :
    ((Session.start treeDefinitions tree).answer 4 .describe).map Prod.fst =
      some (.text "array(thunk(tree))") := by
  have extracted := History.step .start
    (show (Session.start treeDefinitions tree).answer 9
      (.extract .root (.array [.array [], .array [.array []]])) = some (_, _) from rfl)
  have forced := History.step extracted
    (show Session.answer _ 4 (.force 1) = some (_, _) from rfl)
  have described := History.step forced
    (show Session.answer _ 4 .describe = some (_, _) from rfl)
  exact reply_eq_first_reply steady_tree steady_treeDefinitions described _ (.head _) rfl

end Session

end Extraction
