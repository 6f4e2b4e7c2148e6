import Extraction.Proofs.Contexts
import Extraction.Proofs.Correspondence
import Extraction.Proofs.History

/-!
# Wrapping schemas

A schema may be built lazily, be supplied at each use, stand behind an indirection, or be made
recursive without referring to itself.  None of this changes what is extracted, wherever in a
schema or in its definitions it happens, and however often that place is met in one run.
-/

namespace Extraction

/-- One schema wraps another if it only delays it, passes it on, or binds a label that it does not
use. -/
inductive Schema.Wraps (inner : Schema) : Schema → Prop where
  | thunk (site : Nat) (label : String) : Wraps inner (.thunk site label inner)
  | supplied (count : Nat) : Wraps inner (.supplied inner (List.replicate count inner))
  | boxed : Wraps inner (.boxed inner)
  | recursive (label : String) (unused : ¬ Part (.self label) inner) :
      Wraps inner (.recursive label inner)

namespace Closure

/-! ## Labels that are not used -/

/-- The second closure is the first one without a binding that nothing in it refers to. -/
inductive Trimmed (label : String) (body : Schema) : Closure → Closure → Prop where
  | same (closure : Closure) : Trimmed label body closure closure
  | unused {schema : Schema} {front back : Bindings} (unused : ¬ Schema.Part (.self label) schema)
      (unusedFront : ∀ binding ∈ front, ¬ Schema.Part (.self label) binding.2) :
      Trimmed label body ⟨schema, front ++ (label, body) :: back⟩ ⟨schema, front ++ back⟩

theorem Trimmed.head {label : String} {body schema : Schema} {bindings : Bindings}
    (unused : ¬ Schema.Part (.self label) schema) :
    Trimmed label body ⟨schema, (label, body) :: bindings⟩ ⟨schema, bindings⟩ := by
  rw [← List.nil_append ((label, body) :: bindings), ← List.nil_append bindings]
  exact .unused unused fun _ member => by contradiction

section

variable {label : String} {body : Schema} {definitions : Definitions}

private theorem find?_trimmed {other : String} (differs : label ≠ other) {front back : Bindings}
    (unusedFront : ∀ binding ∈ front, ¬ Schema.Part (.self label) binding.2) :
    Option.Rel (Trimmed label body) (Bindings.find? other (front ++ (label, body) :: back))
      (Bindings.find? other (front ++ back)) := by
  induction front with
  | nil =>
      rw [List.nil_append, List.nil_append, Bindings.find?, if_neg differs]
      cases Bindings.find? other back with
      | none => exact .none
      | some found => exact .some (.same found)
  | cons binding front inductionHypothesis =>
      rcases binding with ⟨bound, boundBody⟩
      rw [List.cons_append, List.cons_append, Bindings.find?, Bindings.find?]
      by_cases same : bound = other
      · rw [if_pos same, if_pos same]
        exact .some (.unused (unusedFront _ (.head _)) unusedFront)
      · rw [if_neg same, if_neg same]
        exact inductionHypothesis fun binding member => unusedFront binding (.tail _ member)

private theorem delegate?_trimmed {schema : Schema} {front back : Bindings}
    (unused : ¬ Schema.Part (.self label) schema)
    (unusedFront : ∀ binding ∈ front, ¬ Schema.Part (.self label) binding.2) :
    Option.Rel (Trimmed label body)
      (delegate? definitions ⟨schema, front ++ (label, body) :: back⟩)
      (delegate? definitions ⟨schema, front ++ back⟩) := by
  have unusedNested {part : Schema} (member : part ∈ schema.nested) :
      ¬ Schema.Part (.self label) part :=
    fun inside => unused (.inside member inside)
  cases schema with
  | thunk | boxed => exact .some (.unused (unusedNested (.head _)) unusedFront)
  | reference => exact .some (.same _)
  | recursive other inner =>
      have unusedInner := unusedNested (.head _)
      have bound : Trimmed label body ⟨inner, ((other, inner) :: front) ++ (label, body) :: back⟩
          ⟨inner, ((other, inner) :: front) ++ back⟩ :=
        .unused unusedInner (List.forall_mem_cons.mpr ⟨unusedInner, unusedFront⟩)
      exact .some bound
  | self other =>
      have differs : label ≠ other := by
        rintro rfl
        exact unused .whole
      exact find?_trimmed differs unusedFront
  | _ => exact .none

/-- Closures that differ in a binding that nothing refers to correspond. -/
theorem Trimmed.corresponds {left right : Closure} (trimmed : Trimmed label body left right) :
    left.Corresponds definitions definitions (Trimmed label body) right := by
  cases trimmed with
  | same => exact corresponds_self .same _
  | unused unused unusedFront =>
      refine corresponds_of_rel (delegate?_trimmed unused unusedFront) ?_
      refine Schema.alike_self _ fun part member => .unused ?_ unusedFront
      exact fun inside => unused (.inside member inside)

/-- A binding that nothing refers to does not matter. -/
theorem Trimmed.yieldsWithin_iff {left right : Closure} (trimmed : Trimmed label body left right)
    {depth : Nat} {path : Path} {value : Value} {outcome : Outcome Value} :
    YieldsWithin definitions depth left path value outcome ↔
      YieldsWithin definitions depth right path value outcome := by
  have correspondBack (left right : Closure) (trimmed : Trimmed label body right left) :
      left.Corresponds definitions definitions (fun left right => Trimmed label body right left)
        right :=
    trimmed.corresponds.swap
  constructor
  · exact YieldsWithin.carry (fun _ _ trimmed => trimmed.corresponds) trimmed
  · exact YieldsWithin.carry correspondBack trimmed

end

end Closure

namespace Schema.Wraps

variable {inner wrapper : Schema} {definitions : Definitions} {bindings : Bindings} {path : Path}
  {value : Value} {outcome : Outcome Value}

/-- What a wrapper yields, the wrapped schema yields in no more steps. -/
theorem yieldsWithin (wraps : inner.Wraps wrapper) {depth : Nat}
    (yields : YieldsWithin definitions depth ⟨wrapper, bindings⟩ path value outcome) :
    YieldsWithin definitions depth ⟨inner, bindings⟩ path value outcome := by
  cases depth with
  | zero => exact yields.elim
  | succ depth =>
      apply YieldsWithin.succ
      cases wraps with
      | thunk => exact Semantics.Rule.of_delegate rfl yields
      | boxed => exact Semantics.Rule.of_delegate rfl yields
      | supplied count =>
          cases yields with
          | supplied member nested =>
              rcases List.mem_cons.mp member with rfl | inLater
              · exact nested
              · rw [← List.eq_of_mem_replicate inLater]
                exact nested
          | delegate delegates => contradiction
      | recursive label unused =>
          have delegate := Semantics.Rule.of_delegate rfl yields
          exact (Closure.Trimmed.head unused).yieldsWithin_iff.mp delegate

/-- What a schema yields, a wrapper around it yields in one step more. -/
theorem yieldsWithin_succ (wraps : inner.Wraps wrapper) {depth : Nat}
    (yields : YieldsWithin definitions depth ⟨inner, bindings⟩ path value outcome) :
    YieldsWithin definitions (depth + 1) ⟨wrapper, bindings⟩ path value outcome := by
  cases wraps with
  | thunk => exact .delegate rfl yields
  | boxed => exact .delegate rfl yields
  | supplied count => exact .supplied (.head _) yields
  | recursive label unused =>
      apply Semantics.Rule.delegate rfl
      exact (Closure.Trimmed.head unused).yieldsWithin_iff.mpr yields

theorem steady (wraps : inner.Wraps wrapper) (innerSteady : inner.Throughout Schema.Steady) :
    wrapper.Throughout Schema.Steady := by
  rw [throughout_iff]
  cases wraps with
  | supplied count =>
      constructor
      · intro schema member
        exact List.eq_of_mem_replicate member
      · rintro schema (_ | ⟨_, member⟩)
        · exact innerSteady
        · rw [List.eq_of_mem_replicate member]
          exact innerSteady
  | thunk | boxed | recursive => exact ⟨trivial, List.forall_mem_singleton.mpr innerSteady⟩

end Schema.Wraps

/-! ## Filling a context in two ways -/

/-- Two schemas are the same, or one context filled with a schema and with a wrapper around it. -/
inductive Schema.Filled (hole : String) (inner wrapper : Schema) : Schema → Schema → Prop where
  | same (schema : Schema) : Filled hole inner wrapper schema schema
  | fill (context : Schema) :
      Filled hole inner wrapper (fill hole inner context) (fill hole wrapper context)

/-- Two closures whose schemas, and whose bindings, are the same or filled contexts. -/
structure Closure.Filled (hole : String) (inner wrapper : Schema) (left right : Closure) :
    Prop where
  schema : Schema.Filled hole inner wrapper left.schema right.schema
  bindings : List.Forall₂ (Schema.NamedAlike (Schema.Filled hole inner wrapper)) left.bindings
    right.bindings

namespace Closure.Filled

variable {hole : String} {inner wrapper : Schema} {definitions : Definitions}
  {left right : Bindings}

private theorem find?_rel (label : String)
    (bindings : List.Forall₂ (Schema.NamedAlike (Schema.Filled hole inner wrapper)) left right) :
    Option.Rel (Closure.Filled hole inner wrapper) (Bindings.find? label left)
      (Bindings.find? label right) := by
  induction bindings with
  | nil => exact .none
  | cons alike outer inductionHypothesis =>
      cases alike with
      | @intro name schema other filled =>
          rw [Bindings.find?, Bindings.find?]
          by_cases same : name = label
          · rw [if_pos same, if_pos same]
            exact .some ⟨filled, .cons (.intro filled) outer⟩
          · rw [if_neg same, if_neg same]
            exact inductionHypothesis

private theorem filled_find (name : String) :
    Schema.Filled hole inner wrapper ((definitions.fill hole inner).find name)
      ((definitions.fill hole wrapper).find name) := by
  rw [Definitions.find_fill, Definitions.find_fill]
  exact .fill _

private theorem corresponds_mapNested {change other : Schema → Schema} (schema : Schema)
    (nested : ∀ part ∈ schema.nested, Schema.Filled hole inner wrapper (change part) (other part))
    (bindings : List.Forall₂ (Schema.NamedAlike (Schema.Filled hole inner wrapper)) left right) :
    Closure.Corresponds (definitions.fill hole inner) (definitions.fill hole wrapper)
      (Closure.Filled hole inner wrapper) ⟨schema.mapNested change, left⟩
      ⟨schema.mapNested other, right⟩ := by
  apply corresponds_of_rel
  · cases schema with
    | thunk | boxed => exact .some ⟨nested _ (.head _), bindings⟩
    | reference => exact .some ⟨filled_find _, .nil⟩
    | recursive label body =>
        have filled := nested body (.head _)
        exact .some ⟨filled, .cons (.intro filled) bindings⟩
    | self label => exact find?_rel label bindings
    | _ => exact .none
  · exact Schema.alike_mapNested schema fun part member => ⟨nested part member, bindings⟩

/-- The same schema, under bindings that are filled in two ways, corresponds to itself. -/
theorem corresponds_same (schema : Schema)
    (bindings : List.Forall₂ (Schema.NamedAlike (Schema.Filled hole inner wrapper)) left right) :
    Closure.Corresponds (definitions.fill hole inner) (definitions.fill hole wrapper)
      (Closure.Filled hole inner wrapper) ⟨schema, left⟩ ⟨schema, right⟩ := by
  rw [← Schema.mapNested_id schema]
  exact corresponds_mapNested schema (fun _ _ => .same _) bindings

/-- Closures that are filled in two ways correspond, unless they are the hole itself. -/
theorem corresponds_or_hole {left right : Closure}
    (filled : Closure.Filled hole inner wrapper left right) :
    left.Corresponds (definitions.fill hole inner) (definitions.fill hole wrapper)
        (Closure.Filled hole inner wrapper) right ∨
      left.schema = inner ∧ right.schema = wrapper := by
  rcases left with ⟨leftSchema, leftBindings⟩
  rcases right with ⟨rightSchema, rightBindings⟩
  rcases filled with ⟨filledSchema, bindings⟩
  cases filledSchema with
  | same => exact .inl (corresponds_same _ bindings)
  | fill context =>
      by_cases isHole : context = .self hole
      · subst isHole
        exact .inr ⟨Schema.fill_hole hole inner, Schema.fill_hole hole wrapper⟩
      · rw [Schema.fill_eq_mapNested isHole, Schema.fill_eq_mapNested isHole]
        exact .inl (corresponds_mapNested context (fun _ _ => .fill _) bindings)

variable (wraps : inner.Wraps wrapper) {left right : Closure} {path : Path} {value : Value}
  {outcome : Outcome Value}

include wraps

private theorem yields_right {depth : Nat} (filled : Closure.Filled hole inner wrapper left right)
    (yields : YieldsWithin (definitions.fill hole inner) depth left path value outcome) :
    Yields (definitions.fill hole wrapper) right path value outcome := by
  induction depth generalizing left right path value outcome with
  | zero => exact yields.elim
  | succ depth inductionHypothesis =>
      rcases corresponds_or_hole filled with corresponds | ⟨rfl, rfl⟩
      · refine Yields.of_rule (Semantics.Rule.carry ?_ corresponds yields)
        exact fun _ _ filled _ _ _ => inductionHypothesis filled
      · -- At the hole, the inner schema stands below the wrapper as it does alone.
        have unwrapped : Yields (definitions.fill hole right.schema)
            ⟨left.schema, right.bindings⟩ path value outcome := by
          refine Yields.of_rule
            (Semantics.Rule.carry ?_ (corresponds_same _ filled.bindings) yields)
          exact fun _ _ filled _ _ _ => inductionHypothesis filled
        rcases unwrapped with ⟨innerDepth, within⟩
        exact ⟨innerDepth + 1, wraps.yieldsWithin_succ within⟩

private theorem yields_left {depth : Nat} (filled : Closure.Filled hole inner wrapper left right)
    (yields : YieldsWithin (definitions.fill hole wrapper) depth right path value outcome) :
    Yields (definitions.fill hole inner) left path value outcome := by
  induction depth generalizing left right path value outcome with
  | zero => exact yields.elim
  | succ depth inductionHypothesis =>
      rcases corresponds_or_hole filled with corresponds | ⟨rfl, rfl⟩
      · refine Yields.of_rule (Semantics.Rule.carry ?_ corresponds.swap yields)
        exact fun _ _ filled _ _ _ => inductionHypothesis filled
      · have unwrapped := wraps.yieldsWithin yields
        refine Yields.of_rule
          (Semantics.Rule.carry ?_ (corresponds_same _ filled.bindings).swap unwrapped)
        exact fun _ _ filled _ _ _ => inductionHypothesis filled

/-- Filling the holes with a schema or with a wrapper around it means the same. -/
theorem yields_iff (filled : Closure.Filled hole inner wrapper left right) :
    Yields (definitions.fill hole inner) left path value outcome ↔
      Yields (definitions.fill hole wrapper) right path value outcome := by
  constructor
  · rintro ⟨depth, within⟩
    exact yields_right wraps filled within
  · rintro ⟨depth, within⟩
    exact yields_left wraps filled within

end Closure.Filled

/-! ## Sessions -/

theorem Schema.Steady.mapNested (change : Schema → Schema) (schema : Schema)
    (steady : schema.Steady) : (schema.mapNested change).Steady := by
  cases schema with
  | supplied first later =>
      intro changed member
      rcases List.mem_map.mp member with ⟨schema, inLater, rfl⟩
      rw [steady schema inLater]
  | _ => trivial

/-- Wherever the holes are, and whatever was asked before, to fill them with a schema or with a
wrapper around it gives the same extractions. -/
theorem Session.extract_fill_iff_extract_fill_wrapper {hole : String}
    {context inner wrapper : Schema} {definitions : Definitions} (wraps : inner.Wraps wrapper)
    (contextSteady : context.Throughout Schema.Steady)
    (definitionsSteady : definitions.Throughout Schema.Steady)
    (innerSteady : inner.Throughout Schema.Steady) {plain wrapped : Session}
    (plainReachable : plain.Reachable (definitions.fill hole inner) (.fill hole inner context))
    (wrappedReachable : wrapped.Reachable (definitions.fill hole wrapper)
      (.fill hole wrapper context))
    (path : Path) (value : Value) (outcome : Outcome Value) :
    (∃ limit after, plain.answer limit (.extract path value) = some (.outcome outcome, after)) ↔
      ∃ limit after,
        wrapped.answer limit (.extract path value) = some (.outcome outcome, after) := by
  have stable := Schema.Steady.mapNested
  have wrapperSteady := wraps.steady innerSteady
  rw [plainReachable.extract_ends_iff (contextSteady.fill stable innerSteady)
      (definitionsSteady.fill stable innerSteady),
    wrappedReachable.extract_ends_iff (contextSteady.fill stable wrapperSteady)
      (definitionsSteady.fill stable wrapperSteady)]
  exact Closure.Filled.yields_iff wraps ⟨.fill context, .nil⟩

/-! ## Trees with a hole -/

/-- An array with a hole for its elements. -/
def branching : Schema :=
  .array (.self "hole")

/-- Trees whose levels are arrays with a hole. -/
def branchingDefinitions : Definitions :=
  [("tree", branching)]

private theorem steady_branching : branching.Throughout Schema.Steady := by
  refine Schema.throughout_iff.mpr ⟨trivial, List.forall_mem_singleton.mpr ?_⟩
  exact Schema.throughout_iff.mpr ⟨trivial, by simp [Schema.nested]⟩

/-- Trees are also trees where the reference to them is made recursive under a label that it does
not use, at the root and at every level below. -/
theorem Session.extract_fill_iff_extract_fill_wrapper_tree :
    ∃ limit after,
      (Session.start (branchingDefinitions.fill "hole" (.recursive "outer" tree))
        (.fill "hole" (.recursive "outer" tree) branching)).answer limit
          (.extract .root (.array [.array []])) =
        some (.outcome (.ok (.array [.array []])), after) := by
  have unused : ¬ Schema.Part (.self "outer") tree := by
    intro inside
    cases inside with
    | inside member => contradiction
  have steadyDefinitions : branchingDefinitions.Throughout Schema.Steady :=
    List.forall_mem_singleton.mpr steady_branching
  have plainEnds : ∃ limit after,
      (Session.start (branchingDefinitions.fill "hole" tree) (.fill "hole" tree branching)).answer
          limit (.extract .root (.array [.array []])) =
        some (.outcome (.ok (.array [.array []])), after) :=
    ⟨9, _, rfl⟩
  exact (extract_fill_iff_extract_fill_wrapper (.recursive "outer" unused) steady_branching
    steadyDefinitions steady_tree ⟨_, .start⟩ ⟨_, .start⟩ _ _ _).mp plainEnds

end Extraction
