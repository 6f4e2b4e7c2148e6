import Mathlib.Order.Filter.AtTopBot.Basic
import Mathlib.Order.Filter.Finite
import Extraction.Proofs.Guards
import Extraction.Schema.Fields

/-!
# Termination

An extraction ends if its bound on nesting is large enough for what it visits.  Where recursion is
guarded visits do not go on forever, and each extraction visits only finitely much directly, so
there always is such a bound.
-/

namespace Extraction

/-- A run ends from every sound memory, and leaves a sound one. -/
abbrev Run.Halts {α : Type} (definitions : Definitions) (schema : Schema) (keys : List ThunkKey)
    (run : Run α) : Prop :=
  Finishes (Memory.Sound definitions schema keys) run fun _ => True

namespace Extractor

open Semantics

variable {definitions : Definitions} {schema : Schema} {keys : List ThunkKey}
  {extract : Extractor} {path : Path} {value : Value}

private theorem halts_entry {field : Field Node}
    (nested : ∀ {key outputKey presence node given}, field = .read key outputKey presence node →
      (presence.resolve value key).value.given? = some given → ∀ path,
        Run.Halts definitions schema keys (extract node path given)) :
    Run.Halts definitions schema keys (extract.entry path value field) := by
  cases field with
  | state outputKey generator =>
      exact .bind (Run.settles_perform _).finishes fun _ _ => .pure trivial
  | read key outputKey presence node =>
      have extracted : Run.Halts definitions schema keys
          (extract.field presence path value key node) := by
        apply Run.Finishes.bind (Run.settles_perform _).finishes
        rintro resolution rfl
        split
        · exact .pure trivial
        · exact .pure trivial
        · next given resolved => exact nested rfl (by rw [resolved]; rfl) _
        · next given resolved =>
            exact .bind (nested rfl (by rw [resolved]; rfl) _) fun _ _ => .pure trivial
      exact .bind extracted fun _ _ => .pure trivial

private theorem halts_object {fields : List (Field Node)}
    (nested : ∀ {key outputKey presence node given}, .read key outputKey presence node ∈ fields →
      (presence.resolve value key).value.given? = some given → ∀ path,
        Run.Halts definitions schema keys (extract node path given)) :
    Run.Halts definitions schema keys (extract.object path fields value) := by
  have each : ∀ field ∈ fields,
      Run.Halts definitions schema keys (extract.entry path value field) := by
    intro field member
    apply halts_entry
    rintro key outputKey presence node given rfl
    exact nested member
  exact .bind (.mapM each) fun _ _ => .pure trivial

private theorem halts_items {node : Node} {items : List Value}
    (nested : ∀ {position : Nat} {given}, items[position]? = some given → ∀ path,
      Run.Halts definitions schema keys (extract node path given)) :
    Run.Halts definitions schema keys (extract.items path node items) := by
  have each : ∀ item ∈ items.zipIdx,
      Run.Halts definitions schema keys (extract node (path.pushIndex item.2) item.1) := by
    intro item member
    exact nested (List.mk_mem_zipIdx_iff_getElem?.mp member) _
  exact .bind (.mapM each) fun _ _ => .pure trivial

private theorem halts_oneOf {earlier : List Fault} {nodes : List Node}
    (nested : ∀ node ∈ nodes,
      Run.Halts definitions schema keys (extract node path value)) :
    Run.Halts definitions schema keys (extract.oneOf path value earlier nodes) := by
  induction nodes generalizing earlier with
  | nil =>
      rw [Extractor.oneOf]
      split <;> exact .pure trivial
  | cons node nodes inductionHypothesis =>
      apply Run.Finishes.bind (nested node (.head _))
      intro outcome _
      cases outcome with
      | ok result => exact .pure trivial
      | error faults => exact inductionHypothesis fun other member => nested other (.tail _ member)

private theorem halts_setOf {validator : Validator} {node : Node}
    (nested : ∀ {name given}, validator.Names value name → value.get? name = some given → ∀ path,
      Run.Halts definitions schema keys (extract node path given)) :
    Run.Halts definitions schema keys (extract.setOf validator path node value) := by
  apply Run.Finishes.bind (settles_keys validator _).finishes
  intro verdict same
  cases verdict with
  | error faults => exact .pure trivial
  | ok names =>
      refine halts_object fun member asked => ?_
      rcases List.mem_map.mp member with ⟨name, nameMem, isRead⟩
      cases isRead
      rw [Presence.given?_strict] at asked
      exact nested (names_of_keysVerdict same.symm nameMem) asked

private theorem halts_choose {key : String} {branches : List (String × Schema)} {node : Node}
    (nested : ∀ {chosen branch lower}, value.get? key = some chosen →
      Schema.branch? (branchName chosen) branches = some branch →
      Schema.branch? (branchName chosen) (node.branches 0 branches) = some lower →
      lower.closure = ⟨branch, node.closure.bindings⟩ → ∀ path,
        Run.Halts definitions schema keys (extract lower path value)) :
    Run.Halts definitions schema keys
      (extract.choose path key (node.branches 0 branches) value) := by
  unfold Extractor.choose
  split
  · exact .pure trivial
  · next chosen found =>
      have known := node.branch?_branches (branchName chosen) branches
      dsimp only
      cases isBranch : Schema.branch? (branchName chosen) (node.branches 0 branches) with
      | none => exact .pure trivial
      | some lower =>
          rw [isBranch] at known
          rcases Option.map_eq_some_iff.mp known.symm with ⟨branch, isWritten, same⟩
          exact nested found isWritten isBranch same.symm _

private theorem halts_thunk {thunk : Thunk} (stands : thunk.Stands definitions schema)
    (nested : Run.Halts definitions schema keys (extract thunk.delegate path value)) :
    Run.Halts definitions schema keys (extract.thunk definitions thunk path value) := by
  apply Run.Finishes.bind (Run.settles_force stands).finishes
  rintro delegate rfl
  exact nested

section

variable {node : Node} (stands : node.Stands definitions schema)
  (nested : ∀ {step lower next given}, lower.Stands definitions schema → lower.closure = next →
    Visits definitions node.closure value step next given → ∀ path,
      Run.Halts definitions schema keys (extract lower path given))

include stands nested

private theorem halts_fields {fields : List (Field Schema)}
    (reads : node.schema.Reads value fields)
    (shape : node.schema = .object fields ∨ node.schema = .closed fields) :
    Run.Halts definitions schema keys (extract.object path (node.fields 0 fields) value) := by
  refine halts_object fun {key outputKey presence lower given} member asked => ?_
  have isWritten := List.mem_map_of_mem (f := Field.map Node.closure) member
  rw [Node.map_closure_fields] at isWritten
  rcases List.mem_map.mp isWritten with ⟨field, written, same⟩
  cases field with
  | state => contradiction
  | read otherKey otherOutputKey otherPresence part =>
      obtain ⟨rfl, rfl, rfl, closureEq⟩ := Field.read.inj same
      exact nested (stands.fields shape member rfl) closureEq.symm (.field reads written asked)

private theorem halts_alternatives {alternatives : List Schema}
    (shape : node.schema = .oneOf alternatives) :
    Run.Halts definitions schema keys
      (extract.oneOf path value [] (node.children 0 alternatives)) := by
  rcases node with ⟨written, address, scope⟩
  cases shape
  refine halts_oneOf fun lower member => ?_
  have isWritten := List.mem_map_of_mem (f := Node.closure) member
  rw [Node.map_closure_children] at isWritten
  rcases List.mem_map.mp isWritten with ⟨alternative, written, same⟩
  exact nested (stands.alternatives rfl member) same.symm (.alternative written) _

private theorem halts_delegate {thunk : Thunk} (isThunk : node.thunk? definitions = some thunk) :
    Run.Halts definitions schema keys (extract.thunk definitions thunk path value) := by
  have thunkStands : thunk.Stands definitions schema := ⟨node, stands, isThunk⟩
  exact halts_thunk thunkStands
    (nested thunkStands.delegate rfl (.delegate (Node.delegate?_of_thunk? isThunk)) _)

private theorem halts_supplied {first : Schema} {later : List Schema}
    (shape : node.schema = .supplied first later) (count : Nat) :
    Run.Halts definitions schema keys (extract (node.supply first later count) path value) := by
  rcases node with ⟨written, address, scope⟩
  cases shape
  obtain ⟨position, part, found, supplied⟩ :=
    Node.exists_supply_eq ⟨.supplied first later, address, scope⟩ first later count
  have standsBelow := stands.supply rfl count
  rw [supplied] at standsBelow ⊢
  exact nested standsBelow rfl (.supplied (List.mem_of_getElem? found)) _

/-- One step of extraction halts if whatever it visits does. -/
theorem halts_step :
    Run.Halts definitions schema keys (Extractor.step definitions extract node path value) := by
  rcases node with ⟨written, address, scope⟩
  cases written with
  | leaf validator => exact .bind (Run.settles_perform _).finishes fun _ _ => .pure trivial
  | object fields => exact halts_fields stands nested .object (.inl rfl)
  | closed fields =>
      simp only [Extractor.step]
      split
      · next supported => exact halts_fields stands nested (.closed supported) (.inr rfl)
      · exact .pure trivial
  | array element =>
      cases value with
      | array items =>
          have each : Run.Halts definitions schema keys (extract.items path _ items) :=
            halts_items fun found => nested (stands.below 0 rfl) rfl (.item found)
          exact .bind each fun _ _ => .pure trivial
      | _ => exact .pure trivial
  | oneOf alternatives => exact halts_alternatives stands nested rfl
  | setOf validator values =>
      exact halts_setOf fun named found => nested (stands.below 0 rfl) rfl (.member named found)
  | choose key branches =>
      refine halts_choose fun found known isBranch same => ?_
      have branchStands := stands.branches rfl (Schema.branch?_mem isBranch)
      exact nested branchStands same (.branch found known)
  | function parameters retriever =>
      cases value <;> exact .pure trivial
  | thunk | reference => exact halts_delegate stands nested rfl
  | supplied first later =>
      exact .bind (Run.finishes_request _) fun count _ => halts_supplied stands nested rfl count
  | self label =>
      simp only [Extractor.step]
      cases found : Scope.find? label scope with
      | none => exact .pure trivial
      | some target =>
          exact nested (stands.owner found) rfl (.delegate (Node.delegate?_of_find? rfl found)) _
  | released label => exact .pure trivial
  | recursive | boxed => exact nested (stands.below 0 rfl) rfl (.delegate rfl) _

end

end Extractor

/-! ## Bounds -/

/-- The fields of an object schema. -/
def Schema.fields : Schema → List (Field Schema)
  | object fields | closed fields => fields
  | _ => []

/-- The value that a field of an object gives to its nested schema, if that is run. -/
def Field.given? {σ : Type} (object : Value) : Field σ → Option Value
  | read key _ presence _ => (presence.resolve object key).value.given?
  | state .. => none

/-- The values that visits of a closure on a value may be given: the value itself, what is in it,
and what the policies of its fields put in its place. -/
def Closure.givens (closure : Closure) (value : Value) : List Value :=
  value :: (value.asArray?.getD [] ++ value.entries.map Prod.snd ++
    closure.schema.fields.filterMap (Field.given? value))

section

variable {definitions : Definitions} {closure next : Closure} {value given : Value} {step : Path}

theorem Visits.mem_givens (visits : Visits definitions closure value step next given) :
    given ∈ closure.givens value := by
  cases visits with
  | field reads written asked =>
      apply List.mem_cons_of_mem
      apply List.mem_append_right
      cases reads <;> exact List.mem_filterMap.mpr ⟨_, written, asked⟩
  | item found =>
      apply List.mem_cons_of_mem
      exact List.mem_append_left _ (List.mem_append_left _ (List.mem_of_getElem? found))
  | member _ found =>
      apply List.mem_cons_of_mem
      have held := List.mem_map_of_mem (f := Prod.snd) (Value.mem_entries_of_get? found)
      exact List.mem_append_left _ (List.mem_append_right _ held)
  | alternative | branch | supplied | delegate => exact .head _

/-- A closure leads to finitely many closures directly. -/
theorem Closure.finite_next (definitions : Definitions) (closure : Closure) :
    {next | closure.Leads definitions next}.Finite := by
  have nested := List.finite_toSet (closure.schema.nested.map (Closure.mk · closure.bindings))
  have delegate := List.finite_toSet (closure.delegate? definitions).toList
  apply (nested.union delegate).subset
  rintro next (member | delegates)
  · exact .inl (List.mem_map_of_mem (f := (Closure.mk · _)) member)
  · exact .inr (Option.mem_toList.mpr delegates)

/-- Only finitely much is visited directly. -/
theorem finite_visitedFrom (definitions : Definitions) (closure : Closure) (value : Value) :
    {visited | VisitedFrom definitions visited (closure, value)}.Finite := by
  have given := List.finite_toSet (closure.givens value)
  apply ((closure.finite_next definitions).prod given).subset
  rintro ⟨next, given⟩ ⟨step, visits⟩
  exact ⟨visits.leads, visits.mem_givens⟩

end

private theorem exists_common_limit {α : Type} {items : Set α} (finite : items.Finite)
    {holds : α → Nat → Prop}
    (each : ∀ item ∈ items, ∃ limit, ∀ larger, limit ≤ larger → holds item larger) :
    ∃ limit, ∀ larger, limit ≤ larger → ∀ item ∈ items, holds item larger := by
  simp only [← Filter.eventually_atTop] at each ⊢
  exact (Filter.eventually_all_finite finite).mpr each

/-- From some bound on nesting on, all runs on the value of nodes with the closure halt. -/
def Terminates (definitions : Definitions) (schema : Schema) (closure : Closure) (value : Value) :
    Prop :=
  ∃ limit, ∀ larger, limit ≤ larger → ∀ node : Node, node.Stands definitions schema →
    node.closure = closure → ∀ path,
      Run.Halts definitions schema [] (extract definitions larger node path value)

section

variable {definitions : Definitions} {schema : Schema} {closure : Closure} {value : Value}

/-- An extraction terminates if all that it visits does. -/
theorem Terminates.of_visited
    (each : ∀ visited, VisitedFrom definitions visited (closure, value) →
      Terminates definitions schema visited.1 visited.2) :
    Terminates definitions schema closure value := by
  obtain ⟨limit, nested⟩ :=
    exists_common_limit (finite_visitedFrom definitions closure value) each
  exists limit + 1
  rintro larger isLarger node stands rfl path
  obtain ⟨depth, rfl⟩ := Nat.exists_eq_add_of_le' isLarger
  exact Extractor.halts_step stands fun lowerStands sameClosure visits path =>
    nested _ (Nat.le_add_left _ _) (_, _) ⟨_, visits⟩ _ lowerStands sameClosure path

/-- An extraction terminates if its visits do not go on forever. -/
theorem Terminates.of_acc {visit : Closure × Value} (ends : Acc (VisitedFrom definitions) visit) :
    Terminates definitions schema visit.1 visit.2 := by
  induction ends with
  | intro visit _ inductionHypothesis => exact .of_visited inductionHypothesis

/-- Where recursion is guarded every extraction terminates: for every value some bound on nesting
is enough for all sessions and paths. -/
theorem Session.extract_terminates (guarded : Guarded definitions ⟨schema, []⟩) (value : Value) :
    ∃ limit, ∀ larger, limit ≤ larger → ∀ (path : Path) (session : Session),
      session.Reachable definitions schema → ∃ outcome after,
        session.answer larger (.extract path value) = some (.outcome outcome, after) := by
  obtain ⟨limit, finishes⟩ : Terminates definitions schema ⟨schema, []⟩ value :=
    .of_acc (guarded.acc_visitedFrom (finite_reach definitions schema) value)
  exists limit
  intro larger isLarger path session reachable
  have sound := reachable.staysSound
  obtain ⟨outcome, memory, ends, _⟩ := finishes larger isLarger (.root schema)
    (Node.stands_root definitions schema) rfl path session.memory sound.memory_sound
  exists outcome, { session with memory }
  rw [answer_extract, sound.definitions_eq, sound.root_eq, ends, Option.map_some]

end

/-! ## Outlines -/

/-- The fields of a section: its title, the sections below it, if any, and perhaps one after it. -/
def sectionFields : List (Field Schema) :=
  [.strictString "title", .defaultedBoolean "numbered" false,
    .defaultedArrayOf "sections" [] (.reference "section" "section"),
    .optionOf "next" (.reference "section" "section")]

/-- Sections of sections, however deep. -/
def outlineDefinitions : Definitions :=
  [("section", .object sectionFields)]

/-- The schema of `outlineDefinitions`. -/
def outline : Schema :=
  .reference "section" "section"

/-- What an outline leads to. -/
inductive InOutline : Closure → Prop where
  | reference : InOutline ⟨outline, []⟩
  | object : InOutline ⟨.object sectionFields, []⟩
  | array : InOutline ⟨.array outline, []⟩
  | leaf {validator : Validator} : InOutline ⟨.leaf validator, []⟩

namespace InOutline

/-- Only leaves are not led back from. -/
private def level (closure : Closure) : Nat :=
  match closure.schema with
  | .leaf _ => 0
  | _ => 1

private theorem level_le_one (closure : Closure) : level closure ≤ 1 := by
  unfold level
  split <;> simp

/-- Only references pass a value on. -/
private def rank (closure : Closure) : Nat :=
  match closure.schema with
  | .reference .. => 1
  | _ => 0

private theorem of_read {key outputKey : String} {presence : Presence} {part : Schema}
    (written : .read key outputKey presence part ∈ sectionFields) :
    InOutline ⟨part, []⟩ ∧ (presence.Consumes part ∨ level ⟨part, []⟩ = 0) := by
  simp only [sectionFields, List.mem_cons, List.not_mem_nil, or_false] at written
  rcases written with isTitle | isNumbered | isSections | isNext
  · cases isTitle
    exact ⟨.leaf, .inr rfl⟩
  · cases isNumbered
    exact ⟨.leaf, .inr rfl⟩
  · cases isSections
    exact ⟨.array, .inl (.defaulted fun _ => rfl)⟩
  · cases isNext
    exact ⟨.reference, .inl .option⟩

private theorem ranking : Ranking outlineDefinitions InOutline level rank := by
  intro closure next grade isInside edge
  cases isInside with
  | reference =>
      cases edge with
      | consumed shape | replaced shape => rcases shape with shape | shape <;> contradiction
      | delegate delegates =>
          cases delegates
          exact ⟨.object, Nat.le_refl _, Nat.zero_lt_one⟩
  | object =>
      cases edge with
      | consumed shape written =>
          rcases shape with same | same
          · cases same
            exact ⟨(of_read written).1, level_le_one _⟩
          · contradiction
      | replaced shape written replaces =>
          rcases shape with same | same
          · cases same
            obtain ⟨isInside, consumes | isLeaf⟩ := of_read written
            · exact absurd consumes replaces
            · constructor
              · exact isInside
              · rw [Grade.Descends, isLeaf]
                exact Nat.zero_lt_one
          · contradiction
      | delegate => contradiction
  | array =>
      cases edge with
      | consumed shape | replaced shape => rcases shape with shape | shape <;> contradiction
      | element => exact ⟨.reference, Nat.le_refl _⟩
      | delegate => contradiction
  | leaf =>
      cases edge with
      | consumed shape | replaced shape => rcases shape with shape | shape <;> contradiction
      | delegate => contradiction

end InOutline

theorem guarded_outline : Guarded outlineDefinitions ⟨outline, []⟩ :=
  .of_ranking InOutline.ranking .reference

/-- A section with another one below it and one after it, which has no title, is answered. -/
theorem Session.extract_terminates_outline :
    Guarded outlineDefinitions ⟨outline, []⟩ ∧
      ∃ limit, ∀ larger, limit ≤ larger → ∀ (path : Path) (session : Session),
        session.Reachable outlineDefinitions outline → ∃ outcome after,
          session.answer larger (.extract path (.object [("title", .string "Sets"), ("sections",
            .array [.object [("title", .string "Subsets")]]), ("next", .object [])])) =
              some (.outcome outcome, after) :=
  ⟨guarded_outline, extract_terminates guarded_outline _⟩

end Extraction
