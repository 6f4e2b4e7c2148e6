import Extraction.Proofs.Contexts
import Extraction.Proofs.Correspondence
import Extraction.Proofs.History

/-!
# Two ways to refer to oneself

A recursive schema refers to itself by its label.  The same can be written as a definition that
looks itself up by name, which unrolls into a chain of thunks without end.  The two extract the
same.
-/

namespace Extraction

namespace Closure

/-- No recursive schema inside binds the label. -/
def LeavesFree (label : String) (schema : Schema) : Prop :=
  ∀ body, ¬ Schema.Part (.recursive label body) schema

/-- Two closures are the same, or the first one stands inside a recursive schema with the body and
the second one has, in the place of every reference to it, a reference to a definition. -/
inductive Tied (label name : String) (body : Schema) : Closure → Closure → Prop where
  | same (closure : Closure) : Tied label name body closure closure
  | inside {context : Schema} {bindings : Bindings} (free : LeavesFree label context)
      (bound : ∀ binding ∈ bindings, binding.1 ≠ label ∧ LeavesFree label binding.2) :
      Tied label name body ⟨context, bindings ++ [(label, body)]⟩
        ⟨.fill label (.reference label name) context,
          bindings.map (Prod.map id (.fill label (.reference label name)))⟩

namespace Tied

variable {label name : String} {body : Schema} {definitions : Definitions}

theorem outermost (free : LeavesFree label body) :
    Tied label name body ⟨body, [(label, body)]⟩
      ⟨.fill label (.reference label name) body, []⟩ := by
  have tied : Tied label name body ⟨body, [] ++ [(label, body)]⟩
      ⟨.fill label (.reference label name) body, _⟩ :=
    .inside free fun _ member => by contradiction
  exact tied

private theorem find?_owner {bindings : Bindings}
    (bound : ∀ binding ∈ bindings, binding.1 ≠ label ∧ LeavesFree label binding.2) :
    Bindings.find? label (bindings ++ [(label, body)]) = some ⟨body, [(label, body)]⟩ := by
  induction bindings with
  | nil => simp [Bindings.find?]
  | cons binding bindings inductionHypothesis =>
      rw [List.cons_append, Bindings.find?, if_neg (bound binding (.head _)).1]
      exact inductionHypothesis fun other member => bound other (.tail _ member)

private theorem find?_tied {other : String} (differs : other ≠ label) {bindings : Bindings}
    (bound : ∀ binding ∈ bindings, binding.1 ≠ label ∧ LeavesFree label binding.2) :
    Option.Rel (Tied label name body) (Bindings.find? other (bindings ++ [(label, body)]))
      (Bindings.find? other
        (bindings.map (Prod.map id (.fill label (.reference label name))))) := by
  induction bindings with
  | nil =>
      rw [List.nil_append, Bindings.find?, if_neg differs.symm]
      exact .none
  | cons binding bindings inductionHypothesis =>
      rcases binding with ⟨opened, inner⟩
      rw [List.cons_append, List.map_cons, Bindings.find?]
      by_cases same : opened = other
      · subst same
        simp only [Prod.map_apply, Bindings.find?, if_true, id_eq]
        exact .some (.inside (bound _ (.head _)).2 bound)
      · simp only [Prod.map_apply, Bindings.find?, if_neg same, id_eq]
        exact inductionHypothesis fun other member => bound other (.tail _ member)

private theorem delegate?_tied {context : Schema} (notHole : context ≠ .self label)
    (free : LeavesFree label context) {bindings : Bindings}
    (bound : ∀ binding ∈ bindings, binding.1 ≠ label ∧ LeavesFree label binding.2) :
    Option.Rel (Tied label name body)
      (delegate? definitions ⟨context, bindings ++ [(label, body)]⟩)
      (delegate? definitions ⟨context.mapNested (.fill label (.reference label name)),
        bindings.map (Prod.map id (.fill label (.reference label name)))⟩) := by
  have freeNested {part : Schema} (member : part ∈ context.nested) : LeavesFree label part :=
    fun inner inside => free inner (.inside member inside)
  cases context with
  | thunk | boxed => exact .some (.inside (freeNested (.head _)) bound)
  | reference => exact .some (.same _)
  | recursive opened inner =>
      have differs : opened ≠ label := by
        rintro rfl
        exact free inner .whole
      have innerFree := freeNested (.head _)
      have extended : ∀ binding ∈ (opened, inner) :: bindings,
          binding.1 ≠ label ∧ LeavesFree label binding.2 :=
        List.forall_mem_cons.mpr ⟨⟨differs, innerFree⟩, bound⟩
      exact .some (.inside innerFree extended)
  | self other =>
      have differs : other ≠ label := by
        rintro rfl
        exact notHole rfl
      exact find?_tied differs bound
  | _ => exact .none

/-- Inside a recursive schema, and where its definition is unrolled, one step does the same. -/
theorem corresponds {left right : Closure} (bodyFree : LeavesFree label body)
    (defined : definitions.find name = .fill label (.reference label name) body)
    (tied : Tied label name body left right) :
    left.Corresponds definitions definitions (Tied label name body) right := by
  cases tied with
  | same => exact corresponds_self .same _
  | @inside context bindings free bound =>
      by_cases isHole : context = .self label
      · subst isHole
        have unrolled : delegate? definitions
            ⟨.reference label name,
              bindings.map (Prod.map id (.fill label (.reference label name)))⟩ =
              some ⟨.fill label (.reference label name) body, []⟩ := by
          rw [← defined]
          rfl
        rw [Schema.fill_hole]
        exact .delegate (find?_owner bound) unrolled (.outermost bodyFree)
      · rw [Schema.fill_eq_mapNested isHole]
        refine corresponds_of_rel (delegate?_tied isHole free bound) ?_
        refine Schema.alike_mapNested_self context fun part member => .inside ?_ bound
        exact fun inner inside => free inner (.inside member inside)

/-- A recursive schema and the reference to its definition yield the same in as many steps. -/
theorem yieldsWithin_iff (bodyFree : LeavesFree label body)
    (defined : definitions.find name = .fill label (.reference label name) body) {depth : Nat}
    {path : Path} {value : Value} {outcome : Outcome Value} :
    YieldsWithin definitions depth ⟨.recursive label body, []⟩ path value outcome ↔
      YieldsWithin definitions depth ⟨.reference label name, []⟩ path value outcome := by
  have correspond (left right : Closure) (tied : Tied label name body left right) :=
    tied.corresponds bodyFree defined
  have correspondBack (left right : Closure) (tied : Tied label name body right left) :
      left.Corresponds definitions definitions (fun left right => Tied label name body right left)
        right :=
    (correspond right left tied).swap
  have unrolled : delegate? definitions ⟨.reference label name, []⟩ =
      some ⟨.fill label (.reference label name) body, []⟩ := by
    rw [← defined]
    rfl
  cases depth with
  | zero => exact Iff.rfl
  | succ depth =>
      constructor
      · intro yields
        have inside := Semantics.Rule.of_delegate rfl yields
        exact .delegate unrolled (YieldsWithin.carry correspond (outermost bodyFree) inside)
      · intro yields
        have inside := Semantics.Rule.of_delegate unrolled yields
        exact .delegate rfl (YieldsWithin.carry correspondBack (outermost bodyFree) inside)

end Tied

end Closure

/-- A recursive schema and the definition that refers to itself by name extract the same within
the same bound on nesting, whatever was asked of either before. -/
theorem Session.extract_recursive_iff_extract_reference {label name : String} {body : Schema}
    {definitions : Definitions} (free : Closure.LeavesFree label body)
    (defined : definitions.find name = .fill label (.reference label name) body)
    (bodySteady : body.Throughout Schema.Steady)
    (definitionsSteady : definitions.Throughout Schema.Steady) {tied unrolled : Session}
    (tiedReachable : tied.Reachable definitions (.recursive label body))
    (unrolledReachable : unrolled.Reachable definitions (.reference label name))
    (path : Path) (value : Value) :
    (∀ limit outcome,
      (∃ after, tied.answer limit (.extract path value) = some (.outcome outcome, after)) ↔
        ∃ after, unrolled.answer limit (.extract path value) = some (.outcome outcome, after)) ∧
    ∀ limit otherLimit outcome otherOutcome after otherAfter,
      tied.answer limit (.extract path value) = some (.outcome outcome, after) →
        unrolled.answer otherLimit (.extract path value) =
          some (.outcome otherOutcome, otherAfter) → outcome = otherOutcome := by
  have tiedSteady : Schema.Throughout Schema.Steady (.recursive label body) :=
    Schema.throughout_iff.mpr ⟨trivial, List.forall_mem_singleton.mpr bodySteady⟩
  have unrolledSteady : Schema.Throughout Schema.Steady (.reference label name) :=
    Schema.throughout_iff.mpr ⟨trivial, fun _ member => by contradiction⟩
  have tiedSound := tiedReachable.staysSound
  have unrolledSound := unrolledReachable.staysSound
  have sameOutcomes (limit : Nat) (outcome : Outcome Value) :
      (∃ after, tied.answer limit (.extract path value) = some (.outcome outcome, after)) ↔
        ∃ after, unrolled.answer limit (.extract path value) = some (.outcome outcome, after) := by
    rw [tiedSound.answer_extract_iff tiedSteady definitionsSteady,
      unrolledSound.answer_extract_iff unrolledSteady definitionsSteady]
    exact Closure.Tied.yieldsWithin_iff free defined
  constructor
  · exact sameOutcomes
  · intro limit otherLimit outcome otherOutcome after otherAfter answered otherAnswered
    have first := (tiedSound.answer_extract_iff tiedSteady definitionsSteady).mp ⟨after, answered⟩
    have second := (tiedSound.answer_extract_iff tiedSteady definitionsSteady).mp
      ((sameOutcomes otherLimit otherOutcome).mpr ⟨otherAfter, otherAnswered⟩)
    exact Yields.unique tiedSteady definitionsSteady (Node.stands_root definitions _)
      ⟨limit, first⟩ ⟨otherLimit, second⟩

/-! ## Trees -/

/-- One level of a tree, whose elements are trees themselves. -/
def treeLevel : Schema :=
  .array (.self "tree")

/-- What the recursive schema of trees extracts, the definition of trees extracts as well. -/
theorem Session.extract_recursive_iff_extract_reference_tree :
    ∃ after, (Session.start treeDefinitions tree).answer 9
        (.extract .root (.array [.array [], .array [.array []]])) =
      some (.outcome (.ok (.array [.array [], .array [.array []]])), after) := by
  have free : Closure.LeavesFree "tree" treeLevel := by
    intro body inside
    cases inside with
    | inside member rest =>
        cases List.mem_singleton.mp member
        cases rest with
        | inside member => contradiction
  have levelSteady : treeLevel.Throughout Schema.Steady := by
    refine Schema.throughout_iff.mpr ⟨trivial, List.forall_mem_singleton.mpr ?_⟩
    exact Schema.throughout_iff.mpr ⟨trivial, fun _ member => by contradiction⟩
  have tiedEnds : ∃ after, (Session.start treeDefinitions (.recursive "tree" treeLevel)).answer 9
        (.extract .root (.array [.array [], .array [.array []]])) =
      some (.outcome (.ok (.array [.array [], .array [.array []]])), after) :=
    ⟨_, rfl⟩
  exact ((extract_recursive_iff_extract_reference free rfl levelSteady steady_treeDefinitions
    ⟨_, .start⟩ ⟨_, .start⟩ _ _).1 9 _).mp tiedEnds

end Extraction
