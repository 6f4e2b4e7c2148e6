import Mathlib.Data.Set.Card
import Extraction.Proofs.History
import Extraction.Proofs.Stock
import Extraction.Schema.Fields

/-!
# Descriptions end

A schema is described by what is nested in it, and a thunk by what it builds, which may be as large
as anything that the schema leads to.  But a thunk is only entered while none of the same site and
label is being described, and there are finitely many sites and labels, so every description ends.
The thunks that are being described are distinct all the time, and they are the same at the end.
-/

namespace Extraction

/-! ## Conditions that hold all the time -/

namespace Run

variable {α β : Type}

/-- Runs out of its bound where a condition does not hold of the memory. -/
def require (condition : Memory → Prop) [DecidablePred condition] : Run Unit := fun memory =>
  if condition memory then some ((), memory) else none

/-- What is required before and after a run does not change it. -/
theorem Refines.of_require {condition : Memory → Prop} [DecidablePred condition]
    {run other : Run α} (refines : Refines run other) :
    Refines (do
      require condition
      let result ← run
      require condition
      return result) other := by
  have unchanged {memory after : Memory}
      (ends : (require condition).run memory = some ((), after)) : after = memory := by
    obtain ⟨_, same⟩ := Option.ite_none_right_eq_some.mp ends
    cases same
    rfl
  intro memory answer ends
  obtain ⟨⟨_, before⟩, required, rest⟩ := Option.bind_eq_some_iff.mp ends
  obtain ⟨⟨result, between⟩, runEnds, rest⟩ := Option.bind_eq_some_iff.mp rest
  obtain ⟨⟨_, after⟩, requiredAfter, same⟩ := Option.bind_eq_some_iff.mp rest
  cases same
  cases unchanged required
  cases unchanged requiredAfter
  exact refines memory _ runEnds

/-- Where the condition holds a run that requires it goes on. -/
theorem finishes_require {condition : Memory → Prop} [DecidablePred condition]
    {invariant : Memory → Prop} (holds : ∀ memory, invariant memory → condition memory) :
    Finishes invariant (require condition) fun _ => True :=
  fun memory kept => ⟨(), memory, if_pos (holds memory kept), trivial, kept⟩

end Run

/-- Description that runs out of its bound if a condition does not hold of the memory whenever a
schema begins or ends to be described. -/
def describeWhile (condition : Memory → Prop) [DecidablePred condition]
    (definitions : Definitions) : Nat → Describer
  | 0 => fun _ => Run.exhausted
  | depth + 1 => fun node => do
      Run.require condition
      let text ← Describer.step definitions (describeWhile condition definitions depth) node
      Run.require condition
      return text

namespace Describer

variable {definitions : Definitions} {schema : Schema} {keys : List ThunkKey}
  {describe other : Describer}

/-- One step of a describer refines a step of another one, if this is so for what is nested. -/
theorem refines_step (nested : ∀ node, Run.Refines (describe node) (other node)) (node : Node) :
    Run.Refines (Describer.step definitions describe node)
      (Describer.step definitions other node) := by
  have ofEntry (field : Field Node) : Run.Refines (describe.entry field) (other.entry field) := by
    cases field with
    | read key outputKey presence node => exact .bind (nested node) fun _ => .refl _
    | state => exact .refl _
  have ofFields (fields : List (Field Node)) :
      Run.Refines (describe.object fields) (other.object fields) :=
    .bind (.mapM fun field _ => ofEntry field) fun _ => .refl _
  have ofThunk (thunk : Thunk) :
      Run.Refines (describe.thunk definitions thunk) (other.thunk definitions thunk) := by
    refine .bind (.refl _) fun memory => ?_
    split
    · exact .refl _
    · exact .bind (.refl _) fun _ => .bind (.refl _) fun delegate =>
        .bind (nested delegate) fun _ => .refl _
  rcases node with ⟨written, address, scope⟩
  cases written with
  | leaf | choose | function | self | released => exact .refl _
  | object | closed => exact ofFields _
  | array | setOf => exact .bind (nested _) fun _ => .refl _
  | oneOf => exact .bind (.mapM fun node _ => nested node) fun _ => .refl _
  | thunk | reference => exact ofThunk _
  | supplied => exact .bind (.refl _) fun count => nested _
  | recursive | boxed => exact nested _

end Describer

/-- A description that ends goes in the same way with a larger bound. -/
theorem describe_refines {definitions : Definitions} {depth larger : Nat}
    (isLarger : depth ≤ larger) (node : Node) :
    Run.Refines (describe definitions depth node) (describe definitions larger node) := by
  induction depth generalizing larger node with
  | zero =>
      intro _ _ ends
      contradiction
  | succ depth inductionHypothesis =>
      cases larger with
      | zero => contradiction
      | succ larger =>
          exact Describer.refines_step (inductionHypothesis (Nat.le_of_succ_le_succ isLarger)) node

/-- Where description that requires a condition ends, description ends in the same way. -/
theorem describeWhile_refines (condition : Memory → Prop) [DecidablePred condition]
    (definitions : Definitions) (depth : Nat) (node : Node) :
    Run.Refines (describeWhile condition definitions depth node)
      (describe definitions depth node) := by
  induction depth generalizing node with
  | zero =>
      intro _ _ ends
      contradiction
  | succ depth inductionHypothesis =>
      exact .of_require (Describer.refines_step inductionHypothesis node)

/-! ## Thunks that are not being described -/

/-- What tells the thunk that a closure is from others when they are described. -/
def Closure.key? (closure : Closure) : Option ThunkKey :=
  match closure.schema with
  | .thunk site label _ => some ⟨.inline site, label⟩
  | .reference label _ => some ⟨.definition, label⟩
  | _ => none

theorem Node.key?_closure {definitions : Definitions} {node : Node} {thunk : Thunk}
    (isThunk : node.thunk? definitions = some thunk) : node.closure.key? = some thunk.key := by
  rcases node with ⟨written, address, scope⟩
  cases written with
  | thunk | reference =>
      cases isThunk
      rfl
  | _ => contradiction

/-- The sites and labels of thunks that a schema leads to and that are not being described. -/
def pending (definitions : Definitions) (schema : Schema) (keys : List ThunkKey) : Set ThunkKey :=
  {key | key ∉ keys ∧ ∃ closure, Relation.ReflTransGen (Closure.Leads definitions) ⟨schema, []⟩
    closure ∧ closure.key? = some key}

theorem finite_pending (definitions : Definitions) (schema : Schema) (keys : List ThunkKey) :
    (pending definitions schema keys).Finite := by
  have finite := (Closure.finite_leads definitions schema).image Closure.key?
  apply (finite.preimage (Option.some_injective ThunkKey).injOn).subset
  rintro key ⟨_, closure, leadsTo, isKey⟩
  exact ⟨closure, leadsTo, isKey⟩

/-- Fewer thunks are left while one more is being described. -/
theorem ncard_pending_lt {definitions : Definitions} {schema : Schema} {keys : List ThunkKey}
    {node : Node} {thunk : Thunk} (stands : node.Stands definitions schema)
    (isThunk : node.thunk? definitions = some thunk) (isNew : thunk.key ∉ keys) :
    (pending definitions schema (thunk.key :: keys)).ncard <
      (pending definitions schema keys).ncard := by
  have isPending : thunk.key ∈ pending definitions schema keys :=
    ⟨isNew, node.closure, stands.leadsTo, node.key?_closure isThunk⟩
  have fewer : pending definitions schema (thunk.key :: keys) ⊂
      pending definitions schema keys := by
    refine (Set.ssubset_iff_of_subset ?_).mpr ⟨thunk.key, isPending, ?_⟩
    · rintro key ⟨isOther, leadsTo⟩
      exact ⟨fun member => isOther (.tail _ member), leadsTo⟩
    · exact fun stillPending => stillPending.1 (.head _)
  exact Set.ncard_lt_ncard fewer (finite_pending definitions schema keys)

/-- All schemas that a schema leads to are of bounded size. -/
theorem exists_sizeOf_le (definitions : Definitions) (schema : Schema) :
    ∃ bound, ∀ node : Node, node.Stands definitions schema → sizeOf node.schema ≤ bound := by
  have finite := Closure.finite_leads definitions schema
  obtain ⟨bound, isBound⟩ := (finite.image fun closure => sizeOf closure.schema).bddAbove
  exact ⟨bound, fun node stands => isBound ⟨node.closure, stands.leadsTo, rfl⟩⟩

/-! ## Descriptions end -/

namespace Describer

variable {definitions : Definitions} {schema : Schema} {keys : List ThunkKey}
  {describe : Describer}

private theorem finishes_object {fields : List (Field Node)}
    (nested : ∀ field ∈ fields, ∀ node, field.schema? = some node →
      Run.Finishes (Memory.Sound definitions schema keys) (describe node) fun _ => True) :
    Run.Finishes (Memory.Sound definitions schema keys) (describe.object fields)
      fun _ => True := by
  have each : ∀ field ∈ fields, Run.Finishes (Memory.Sound definitions schema keys)
      (describe.entry field) fun _ => True := by
    intro field member
    cases field with
    | state => exact .pure trivial
    | read key outputKey presence node =>
        exact .bind (nested _ member node rfl) fun _ _ => .pure trivial
  exact .bind (.mapM each) fun _ _ => .pure trivial

private theorem finishes_thunk {thunk : Thunk} (stands : thunk.Stands definitions schema)
    (nested : thunk.key ∉ keys →
      Run.Finishes (Memory.Sound definitions schema (thunk.key :: keys))
        (describe thunk.delegate) fun _ => True) :
    Run.Finishes (Memory.Sound definitions schema keys) (describe.thunk definitions thunk)
      fun _ => True := by
  intro memory sound
  by_cases isDescribed : thunk.key ∈ memory.describing
  · exact ⟨_, memory, run_thunk_of_mem isDescribed, trivial, sound⟩
  · have described : Run.Finishes (Memory.Sound definitions schema (thunk.key :: keys))
        (Run.force definitions thunk >>= describe) fun _ => True := by
      refine .bind (Run.settles_force stands).finishes fun delegate same => ?_
      rw [same]
      exact nested (sound.describing ▸ isDescribed)
    obtain ⟨text, after, ends, holds⟩ := Run.finishes_describing described memory sound
    exact ⟨text, after, by rw [run_thunk_of_not_mem isDescribed, ends], holds⟩

/-- One step of the describer finishes, if this is so for what is nested, and for what a thunk
builds that is not being described. -/
theorem finishes_step {node : Node} (stands : node.Stands definitions schema)
    (nested : ∀ lower : Node, lower.Stands definitions schema →
      lower.schema ∈ node.schema.nested →
        Run.Finishes (Memory.Sound definitions schema keys) (describe lower) fun _ => True)
    (delegated : ∀ thunk, node.thunk? definitions = some thunk → thunk.key ∉ keys →
      Run.Finishes (Memory.Sound definitions schema (thunk.key :: keys))
        (describe thunk.delegate) fun _ => True) :
    Run.Finishes (Memory.Sound definitions schema keys) (Describer.step definitions describe node)
      fun _ => True := by
  have ofFields {fields : List (Field Schema)}
      (shape : node.schema = .object fields ∨ node.schema = .closed fields) :
      Run.Finishes (Memory.Sound definitions schema keys)
        (describe.object (node.fields 0 fields)) fun _ => True := by
    refine finishes_object fun field member lower inside =>
      nested lower (stands.fields shape member inside) ?_
    have isWritten := Node.schema_mem_of_mem_fields member inside
    rcases shape with shape | shape <;> rwa [shape]
  rcases node with ⟨written, address, scope⟩
  cases written with
  | leaf | choose | function | self | released => exact .pure trivial
  | object => exact ofFields (.inl rfl)
  | closed => exact ofFields (.inr rfl)
  | array | setOf =>
      exact .bind (nested _ (stands.below 0 rfl) (.head _)) fun _ _ => .pure trivial
  | oneOf alternatives =>
      refine .bind (.mapM fun lower member => nested lower ?_ ?_) fun _ _ => .pure trivial
      · exact stands.alternatives rfl member
      · exact Node.schema_mem_of_mem_children member
  | thunk site label body =>
      exact finishes_thunk ⟨_, stands, rfl⟩ (delegated _ rfl)
  | reference label name =>
      exact finishes_thunk ⟨_, stands, rfl⟩ (delegated _ rfl)
  | supplied first later =>
      refine .bind (Run.finishes_request _) fun count _ => nested _ (stands.supply rfl count) ?_
      obtain ⟨_, part, found, supplied⟩ := Node.exists_supply_eq ⟨.supplied first later, address,
        scope⟩ first later count
      rw [supplied]
      exact List.mem_of_getElem? found
  | recursive | boxed => exact nested _ (stands.below 0 rfl) (.head _)

end Describer

private theorem sizeOf_pos (schema : Schema) : 0 < sizeOf schema := by
  cases schema <;> simp +arith

/-- A description ends, and all the time the thunks that are being described are distinct, if its
bound leaves room for every thunk that is not being described yet, each as large as any schema. -/
theorem describeWhile_finishes {definitions : Definitions} {schema : Schema} {bound depth : Nat}
    {keys : List ThunkKey} {node : Node}
    (isBound : ∀ node : Node, node.Stands definitions schema → sizeOf node.schema ≤ bound)
    (stands : node.Stands definitions schema) (distinct : keys.Nodup)
    (room : (pending definitions schema keys).ncard * bound + sizeOf node.schema ≤ depth) :
    Run.Finishes (Memory.Sound definitions schema keys)
      (describeWhile (fun memory => memory.describing.Nodup) definitions depth node)
      fun _ => True := by
  induction depth generalizing keys node with
  | zero =>
      have positive := sizeOf_pos node.schema
      omega
  | succ depth inductionHypothesis =>
      have required : Run.Finishes (Memory.Sound definitions schema keys)
          (Run.require fun memory => memory.describing.Nodup) fun _ => True :=
        Run.finishes_require fun memory sound => sound.describing ▸ distinct
      refine .bind required fun _ _ => .bind (Describer.finishes_step stands ?_ ?_) fun _ _ =>
        .bind required fun _ _ => .pure trivial
      · intro lower lowerStands inside
        have smaller := Schema.sizeOf_lt_of_mem_nested inside
        exact inductionHypothesis lowerStands distinct (by omega)
      · intro thunk isThunk isNew
        have thunkStands : thunk.Stands definitions schema := ⟨node, stands, isThunk⟩
        have positive := sizeOf_pos node.schema
        have fewer := Nat.mul_le_mul_right bound (ncard_pending_lt stands isThunk isNew)
        rw [Nat.succ_mul] at fewer
        have size := isBound thunk.delegate thunkStands.delegate
        exact inductionHypothesis thunkStands.delegate (List.nodup_cons.mpr ⟨isNew, distinct⟩)
          (by omega)

/-- There is a bound on nesting that is enough for every list of thunks that are being
described. -/
theorem exists_describeWhile_finishes (definitions : Definitions) (schema : Schema) :
    ∃ limit, ∀ larger, limit ≤ larger → ∀ keys : List ThunkKey, keys.Nodup →
      Run.Finishes (Memory.Sound definitions schema keys)
        (describeWhile (fun memory => memory.describing.Nodup) definitions larger (.root schema))
        fun _ => True := by
  obtain ⟨bound, isBound⟩ := exists_sizeOf_le definitions schema
  have stands := Node.stands_root definitions schema
  refine ⟨(pending definitions schema []).ncard * bound + bound, ?_⟩
  intro larger isLarger keys distinct
  apply describeWhile_finishes isBound stands distinct
  have fewer : pending definitions schema keys ⊆ pending definitions schema [] :=
    fun key isPending => ⟨List.not_mem_nil, isPending.2⟩
  have fewerKeys := Nat.mul_le_mul_right bound
    (Set.ncard_le_ncard fewer (finite_pending definitions schema []))
  have size := isBound (.root schema) stands
  omega

namespace Session

/-- The session while thunks are being described. -/
def describing (keys : List ThunkKey) (session : Session) : Session :=
  { session with memory := { session.memory with describing := keys } }

/-- A description answers with its text, and only the memory changes. -/
theorem answer_describe (session : Session) (limit : Nat) :
    session.answer limit .describe =
      ((Extraction.describe session.definitions limit session.root).run
        session.memory).map fun (text, memory) => (.text text, { session with memory }) := by
  simp only [Session.answer, Session.run, Request.answer, StateT.run_bind, StateT.run_pure]
  cases (Extraction.describe session.definitions limit session.root).run session.memory <;> rfl

/-- A description ends, whatever was asked before and whichever thunks are being described; these
stay distinct throughout and are only named. -/
theorem describe_terminates (definitions : Definitions) (schema : Schema) :
    (∃ limit, ∀ larger, limit ≤ larger → ∀ session : Session,
      session.Reachable definitions schema → ∀ keys : List ThunkKey, keys.Nodup →
        ∃ text after,
          (session.describing keys).answer larger .describe = some (.text text, after) ∧
          (session.describing keys).run (describeWhile (fun memory => memory.describing.Nodup)
            session.definitions larger session.root) = some (text, after) ∧
          after.memory.describing = keys) ∧
      ∀ depth (node : Node) (thunk : Thunk) (memory : Memory),
        node.thunk? definitions = some thunk → thunk.key ∈ memory.describing →
          (Extraction.describe definitions (depth + 1) node).run memory =
            some ("thunk(" ++ thunk.key.label ++ ")", memory) := by
  constructor
  · obtain ⟨limit, finishes⟩ := exists_describeWhile_finishes definitions schema
    refine ⟨limit, fun larger isLarger session reachable keys distinct => ?_⟩
    have sound := reachable.staysSound
    obtain ⟨text, memory, ends, _, memorySound⟩ :=
      finishes larger isLarger keys distinct _ (sound.memory_sound.describe keys)
    rw [← sound.definitions_eq, ← sound.root_eq] at ends
    have describeEnds := describeWhile_refines _ _ _ _ _ _ ends
    refine ⟨text, { session with memory }, ?_, congrArg (Option.map _) ends,
      memorySound.describing⟩
    rw [answer_describe]
    exact congrArg (Option.map _) describeEnds
  · intro depth node thunk memory isThunk isDescribed
    rcases node with ⟨written, address, scope⟩
    cases written with
    | thunk | reference =>
        cases isThunk
        exact Describer.run_thunk_of_mem isDescribed
    | _ => contradiction

/-- Shelves hold books, and a book may be taken for a shelf of further books at first. -/
def shelfDefinitions : Definitions :=
  [("shelf", .object [.optionOf "books" (.array (.reference "book" "book"))]),
    ("book", .supplied (.reference "shelf" "shelf")
      [.recursive "book" (.object [.optionOf "sequel" (.self "book")])])]

/-- The schema of `shelfDefinitions`. -/
def shelf : Schema :=
  .reference "shelf" "shelf"

/-- A shelf is described while a book is, and then the book still is.  While a shelf is being
described, a shelf is only named. -/
theorem describe_terminates_shelf :
    (∃ limit text after, ((Session.start shelfDefinitions shelf).describing
        [⟨.definition, "book"⟩]).answer limit .describe = some (.text text, after) ∧
      after.memory.describing = [⟨.definition, "book"⟩]) ∧
      (Extraction.describe shelfDefinitions 1 (.root shelf)).run
          ⟨[], [], [], [⟨.definition, "shelf"⟩], []⟩ =
        some ("thunk(shelf)", ⟨[], [], [], [⟨.definition, "shelf"⟩], []⟩) := by
  obtain ⟨⟨limit, terminates⟩, named⟩ := describe_terminates shelfDefinitions shelf
  obtain ⟨text, after, answered, _, same⟩ := terminates limit (Nat.le_refl limit) _
    ⟨[], .start⟩ [⟨.definition, "book"⟩] (by simp)
  have shelfNamed := named 0 (.root shelf)
    (Node.definedThunk shelfDefinitions (.root shelf) "shelf" "shelf")
    ⟨[], [], [], [⟨.definition, "shelf"⟩], []⟩ rfl (.head _)
  exact ⟨⟨limit, text, after, answered, same⟩, shelfNamed⟩

end Session

end Extraction
