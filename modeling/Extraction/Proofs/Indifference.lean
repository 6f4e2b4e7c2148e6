import Extraction.Proofs.History
import Extraction.Proofs.KeyOrder
import Extraction.Schema.Fields

/-!
# Runs on values up to the order of keys

A run in which every choice goes by a plain value goes on where a run that gives up at any other
choice goes on.  What such a run yields for a value, extraction means for every value that is equal
up to the order of keys, so sessions answer alike.
-/

namespace Extraction

/-- Functions are compared symmetrically, and functions that are alike stay so when they are
limited. -/
structure Callable.Likeness (alike : Callable → Callable → Prop) : Prop where
  symm : ∀ callable other, alike callable other → alike other callable
  limited : ∀ callable other, alike callable other → ∀ arity retriever,
    alike (.limited callable arity retriever) (.limited other arity retriever)

/-- Two functions answer the same to all arguments. -/
def Callable.SameAnswers (host : Host) (callable other : Callable) : Prop :=
  ∀ arguments, callable.call host arguments = other.call host arguments

theorem Callable.likeness_eq : Likeness Eq where
  symm _ _ same := same.symm
  limited _ _ same _ _ := same ▸ rfl

theorem Callable.likeness_sameAnswers (host : Host) : Likeness (SameAnswers host) where
  symm _ _ same arguments := (same arguments).symm
  limited _ _ same arity _ arguments := by
    rw [call_limited, call_limited, same (arguments.take arity)]

/-! ## Plain choices -/

/-- Every choice that a run leads to goes by a plain value. -/
def Visit.ChoosesPlainly (definitions : Definitions) (depth : Nat) (visit : Visit) : Prop :=
  ∀ last, RunsInto definitions depth visit last →
    last.node.schema.choosesPlainly last.value = true

/-- The outcomes that the rules give in at most so many steps, where every choice goes by a plain
value. -/
def PlainlyWithin (definitions : Definitions) : Nat → Judgement
  | 0 => fun _ _ _ _ => False
  | depth + 1 => fun closure path value outcome =>
      closure.schema.choosesPlainly value = true ∧
        Semantics.Rule definitions (PlainlyWithin definitions depth) closure path value outcome

/-- Extraction that gives up where a choice does not go by a plain value. -/
def extractPlainly (definitions : Definitions) : Nat → Extractor
  | 0 => fun _ _ _ => Run.exhausted
  | depth + 1 => fun node path value =>
      if node.schema.choosesPlainly value then
        Extractor.step definitions (extractPlainly definitions depth) node path value
      else Run.exhausted

section

variable {definitions : Definitions} {schema : Schema}

theorem PlainlyWithin.yieldsWithin {depth : Nat} {closure : Closure} {path : Path} {value : Value}
    {outcome : Outcome Value}
    (plainly : PlainlyWithin definitions depth closure path value outcome) :
    YieldsWithin definitions depth closure path value outcome := by
  induction depth generalizing closure path value outcome with
  | zero => exact plainly.elim
  | succ depth inductionHypothesis =>
      exact plainly.2.imp fun _ nested => inductionHypothesis nested

/-- What is meant for a value, by plain choices only, is meant up to the order of keys for every
other value that is equal up to it. -/
theorem PlainlyWithin.carries {alike : Callable → Callable → Prop}
    (likeness : Callable.Likeness alike) {depth : Nat} {closure : Closure}
    (respects : closure.Throughout (Schema.Respects alike))
    (definitionsRespect : definitions.Throughout (Schema.Respects alike)) :
    Semantics.Carries alike (PlainlyWithin definitions depth) (PlainlyWithin definitions depth)
      closure := by
  induction depth generalizing closure with
  | zero =>
      intro path value other outcome same plainly
      exact plainly.elim
  | succ depth inductionHypothesis =>
      rintro path value other outcome same ⟨plain, rule⟩
      have nested : ∀ next, closure.Leads definitions next → Semantics.Carries alike
          (PlainlyWithin definitions depth) (PlainlyWithin definitions depth) next :=
        fun next leads => inductionHypothesis
          (respects.leads (fun _ => trivial) definitionsRespect leads)
      obtain ⟨otherOutcome, otherRule, similar⟩ :=
        rule.reordered likeness.limited respects.schema.here nested plain same
      rw [same.choosesPlainly_eq] at plain
      exact ⟨otherOutcome, ⟨plain, otherRule⟩, similar⟩

/-- A run that does not give up goes as without giving up. -/
theorem extractPlainly_coupled {depth : Nat} {node : Node} {path : Path} {value : Value}
    {memory : Memory}
    (plain : Visit.ChoosesPlainly definitions depth ⟨node, path, value, memory⟩) :
    Run.Coupled Eq (extract definitions depth node path value)
      (extractPlainly definitions depth node path value) memory memory := by
  induction depth generalizing node path value memory with
  | zero => exact .exhausted
  | succ depth inductionHypothesis =>
      have here : node.schema.choosesPlainly value = true := plain _ (.here depth _)
      simp only [extractPlainly, if_pos here]
      apply Extractor.coupled_sameStep (Memory.preserves_eq definitions node) rfl
      rintro lower place given between _ rfl calls
      exact inductionHypothesis fun last runs => plain last (.further calls runs)

theorem extractPlainly_ensures {keys : List ThunkKey} {depth : Nat} {node : Node} {path : Path}
    {value : Value} (stands : node.Stands definitions schema) :
    Run.Ensures (Memory.Sound definitions schema keys)
      (extractPlainly definitions depth node path value)
      (PlainlyWithin definitions depth node.closure path value) := by
  induction depth generalizing node path value with
  | zero => exact .exhausted
  | succ depth inductionHypothesis =>
      by_cases plain : node.schema.choosesPlainly value = true
      · simp only [extractPlainly, if_pos plain]
        have step : Run.Ensures (Memory.Sound definitions schema keys)
            (Extractor.step definitions (extractPlainly definitions depth) node path value)
            (Semantics.Rule definitions (PlainlyWithin definitions depth) node.closure path
              value) :=
          Extractor.ensures_step (fun lower path value => inductionHypothesis) node value stands
        exact step.imp fun outcome rule => ⟨plain, rule⟩
      · simp only [extractPlainly, if_neg plain]
        exact .exhausted

/-- Where a run chooses plainly, what it ends with is meant by plain choices only. -/
theorem plainlyWithin_of_run {depth : Nat} {node : Node} {path : Path} {value : Value}
    {keys : List ThunkKey} {memory after : Memory} {outcome : Outcome Value}
    (stands : node.Stands definitions schema) (sound : memory.Sound definitions schema keys)
    (plain : Visit.ChoosesPlainly definitions depth ⟨node, path, value, memory⟩)
    (ends : (extract definitions depth node path value).run memory = some (outcome, after)) :
    PlainlyWithin definitions depth node.closure path value outcome := by
  have coupled := extractPlainly_coupled plain
  obtain ⟨_, endsPlainly, _⟩ := coupled.exists_ending ends
  exact (extractPlainly_ensures stands memory sound _ _ endsPlainly).1

end

/-! ## Sessions -/

namespace Session

/-- Every choice of an extraction goes by a plain value. -/
def ChoosesPlainly (session : Session) (limit : Nat) (path : Path) (value : Value) : Prop :=
  Visit.ChoosesPlainly session.definitions limit ⟨session.root, path, value, session.memory⟩

private theorem exists_outcome_of_answer {session after : Session} {limit : Nat} {path : Path}
    {value : Value} {reply : Reply}
    (answered : session.answer limit (.extract path value) = some (reply, after)) :
    ∃ outcome, reply = .outcome outcome := by
  rw [answer_extract] at answered
  obtain ⟨⟨outcome, _⟩, _, isAnswer⟩ := Option.map_eq_some_iff.mp answered
  cases isAnswer
  exact ⟨outcome, rfl⟩

section

variable {definitions : Definitions} {schema : Schema} {alike : Callable → Callable → Prop}
  {session another : Session} {limit : Nat} {path : Path} {value other : Value}
  (steady : schema.Throughout Schema.Steady)
  (definitionsSteady : definitions.Throughout Schema.Steady)
  (likeness : Callable.Likeness alike) (respects : schema.Throughout (Schema.Respects alike))
  (definitionsRespect : definitions.Throughout (Schema.Respects alike))
  (sound : session.Sound definitions schema) (anotherSound : another.Sound definitions schema)
  (same : value.Reordered alike other)

include steady definitionsSteady likeness respects definitionsRespect sound anotherSound same

/-- What a session answers for a value, by plain choices only, any other one answers up to the
order of keys for every value that is equal up to it. -/
private theorem exists_similar_answer (plain : session.ChoosesPlainly limit path value)
    {outcome : Outcome Value} {after : Session}
    (answered : session.answer limit (.extract path value) = some (.outcome outcome, after)) :
    ∃ otherOutcome otherAfter,
      another.answer limit (.extract path other) = some (.outcome otherOutcome, otherAfter) ∧
        outcome.Similar (Value.Reordered alike) otherOutcome := by
  have stands := Node.stands_root definitions schema
  rw [answer_extract, sound.definitions_eq, sound.root_eq] at answered
  obtain ⟨⟨_, memory⟩, ends, isAnswer⟩ := Option.map_eq_some_iff.mp answered
  cases isAnswer
  unfold ChoosesPlainly at plain
  rw [sound.definitions_eq, sound.root_eq] at plain
  have plainly := plainlyWithin_of_run stands sound.memory_sound plain ends
  have respectsRoot : Closure.Throughout (Schema.Respects alike) ⟨schema, []⟩ :=
    ⟨respects, fun _ member => nomatch member⟩
  obtain ⟨otherOutcome, otherPlainly, similar⟩ :=
    PlainlyWithin.carries likeness respectsRoot definitionsRespect _ _ _ _ same plainly
  obtain ⟨otherAfter, otherAnswered⟩ :=
    (anotherSound.answer_extract_iff steady definitionsSteady).mpr otherPlainly.yieldsWithin
  exact ⟨otherOutcome, otherAfter, otherAnswered, similar⟩

/-- Where all choices of an extraction go by plain values, the order of keys decides nothing:
there are results equal up to this order, or as many faults of each kind. -/
theorem extract_reordered (plain : session.ChoosesPlainly limit path value) :
    (∀ outcome after, session.answer limit (.extract path value) = some (.outcome outcome, after) →
      ∃ otherOutcome otherAfter,
        another.answer limit (.extract path other) = some (.outcome otherOutcome, otherAfter) ∧
          outcome.Similar (Value.Reordered alike) otherOutcome) ∧
    (another.ChoosesPlainly limit path other →
      Option.Rel (fun (reply, _) (otherReply, _) => ∃ outcome otherOutcome,
          reply = .outcome outcome ∧ otherReply = .outcome otherOutcome ∧
            outcome.Similar (Value.Reordered alike) otherOutcome)
        (session.answer limit (.extract path value))
        (another.answer limit (.extract path other))) := by
  have answersAlike : ∀ outcome after,
      session.answer limit (.extract path value) = some (.outcome outcome, after) →
      ∃ otherOutcome otherAfter,
        another.answer limit (.extract path other) = some (.outcome otherOutcome, otherAfter) ∧
          outcome.Similar (Value.Reordered alike) otherOutcome :=
    fun outcome after => exists_similar_answer steady definitionsSteady likeness respects
      definitionsRespect sound anotherSound same plain
  constructor
  · exact answersAlike
  · intro otherPlain
    cases answered : session.answer limit (.extract path value) with
    | some answer =>
        obtain ⟨reply, after⟩ := answer
        obtain ⟨outcome, rfl⟩ := exists_outcome_of_answer answered
        obtain ⟨otherOutcome, otherAfter, otherAnswered, similar⟩ :=
          answersAlike outcome after answered
        rw [otherAnswered]
        exact .some ⟨outcome, otherOutcome, rfl, rfl, similar⟩
    | none =>
        cases otherAnswered : another.answer limit (.extract path other) with
        | none => exact .none
        | some otherAnswer =>
            obtain ⟨otherReply, otherAfter⟩ := otherAnswer
            obtain ⟨otherOutcome, rfl⟩ := exists_outcome_of_answer otherAnswered
            obtain ⟨_, _, isAnswered, _⟩ := exists_similar_answer steady definitionsSteady likeness
              respects definitionsRespect anotherSound sound (same.symm likeness.symm) otherPlain
              otherAnswered
            rw [answered] at isAnswered
            contradiction

end

end Session

/-! ## Points and labels -/

/-- A point or labels, as its kind says. -/
def mark : Schema :=
  .choose "kind" [("point", .object [.strictNumber "x", .strictNumber "y"]),
    ("labels", .setOf .acceptAny .string)]

private theorem throughout_mark {property : Schema → Prop} (ofMark : property mark)
    (ofPoint : property (.object [.strictNumber "x", .strictNumber "y"]))
    (ofLabels : property (.setOf .acceptAny .string)) (ofNumber : property .number)
    (ofString : property .string) : mark.Throughout property := by
  have ofLeaf {validator : Validator} (holds : property (.leaf validator)) :
      (Schema.leaf validator).Throughout property :=
    Schema.throughout_iff.mpr ⟨holds, List.forall_mem_nil _⟩
  have point : (Schema.object [.strictNumber "x", .strictNumber "y"]).Throughout property :=
    Schema.throughout_iff.mpr ⟨ofPoint, List.forall_mem_cons.mpr
      ⟨ofLeaf ofNumber, List.forall_mem_singleton.mpr (ofLeaf ofNumber)⟩⟩
  have labels : (Schema.setOf .acceptAny .string).Throughout property :=
    Schema.throughout_iff.mpr ⟨ofLabels, List.forall_mem_singleton.mpr (ofLeaf ofString)⟩
  exact Schema.throughout_iff.mpr ⟨ofMark, List.forall_mem_cons.mpr
    ⟨point, List.forall_mem_singleton.mpr labels⟩⟩

private theorem schema_of_runsInto_labels {limit : Nat} {visit last : Visit}
    (isLabels : visit.node.schema = .setOf .acceptAny .string)
    (runs : RunsInto [] limit visit last) :
    last.node.schema = .setOf .acceptAny .string ∨ last.node.schema = .string := by
  cases runs with
  | here => exact .inl isLabels
  | further calls rest =>
      cases calls with
      | @member node _ _ _ _ _ _ _ names shape _ entry =>
          cases isLabels.symm.trans shape
          generalize isFields : (names.map fun name => Field.read name name .strict
            (node.child 0 .string)) = fields at entry
          cases entry with
          | @intro front back key outputKey presence lower =>
              have member : Field.read key outputKey presence lower ∈ names.map fun name =>
                  .read name name .strict (node.child 0 .string) := by
                rw [isFields]
                exact List.mem_append_right _ (.head _)
              obtain ⟨name, _, isField⟩ := List.mem_map.mp member
              cases isField
              cases rest with
              | here => exact .inr rfl
              | further calls => exact absurd rfl (calls.schema_ne_leaf _)
      | field reads =>
          rw [isLabels] at reads
          contradiction
      | thunk isThunk =>
          rw [Node.thunk?] at isThunk
          split at isThunk
          · next shape => cases isLabels.symm.trans shape
          · next shape => cases isLabels.symm.trans shape
          · contradiction
      | item shape | alternative shape | branch shape | supplied shape | recursive shape
      | handle shape | boxed shape => cases isLabels.symm.trans shape

private theorem choosesPlainly_mark {value : Value}
    (isLabels : value.get? "kind" = some (.string "labels")) :
    (Session.start [] mark).ChoosesPlainly 9 .root value := by
  intro last runs
  cases runs with
  | here => simp [mark, Session.start, Node.root, Schema.choosesPlainly, isLabels, Value.isPlain]
  | further calls rest =>
      cases calls with
      | branch shape found known =>
          cases shape
          cases isLabels.symm.trans found
          cases known
          rcases schema_of_runsInto_labels rfl rest with shape | shape
          · rw [shape]
            rfl
          · rw [shape]
            rfl
      | field reads => contradiction
      | _ => contradiction

/-- The order in which labels are given makes no difference. -/
theorem Session.extract_reordered_mark :
    Option.Rel (fun (reply, _) (otherReply, _) => ∃ outcome otherOutcome,
        reply = .outcome outcome ∧ otherReply = .outcome otherOutcome ∧
          outcome.Similar (Value.Reordered Eq) otherOutcome)
      ((Session.start [] mark).answer 9
        (.extract .root (.object [("kind", .string "labels"), ("size", .string "small")])))
      ((Session.start [] mark).answer 9
        (.extract .root (.object [("size", .string "small"), ("kind", .string "labels")]))) := by
  have steady : mark.Throughout Schema.Steady :=
    throughout_mark trivial trivial trivial trivial trivial
  have ofPoint : Schema.Respects Eq (.object [.strictNumber "x", .strictNumber "y"]) :=
    List.forall_mem_cons.mpr ⟨trivial, List.forall_mem_singleton.mpr trivial⟩
  have respects : mark.Throughout (Schema.Respects Eq) :=
    throughout_mark trivial ofPoint trivial (Validator.respects_expectType "number")
      (Validator.respects_expectType "string")
  have noDefinitions {property : Schema → Prop} : Definitions.Throughout property [] :=
    List.forall_mem_nil _
  have sound := sound_start [] mark
  have same : Value.Reordered Eq
      (.object [("kind", .string "labels"), ("size", .string "small")])
      (.object [("size", .string "small"), ("kind", .string "labels")]) := by
    apply Value.Reordered.object_of_perm (by decide) (.swap _ _ _)
    exact List.forall_mem_cons.mpr ⟨.string _, List.forall_mem_singleton.mpr (.string _)⟩
  obtain ⟨_, alike⟩ := extract_reordered steady noDefinitions Callable.likeness_eq respects
    noDefinitions sound sound same (choosesPlainly_mark rfl)
  exact alike (choosesPlainly_mark rfl)

end Extraction
