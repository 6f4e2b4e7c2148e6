import Extraction.Proofs.Runs
import Extraction.Proofs.Semantics

/-!
# Runs of extraction and what extraction means

A run of extraction that ends has an outcome that extraction means, whatever was run before.  Where
all supplied schemas are steady the converse holds as well: each outcome that extraction means is
the outcome of every run with the same bound on nesting.
-/

namespace Extraction

/-- A supplied schema is steady if all its answers are the same; other schemas always are. -/
def Schema.Steady : Schema → Prop
  | .supplied first later => ∀ schema ∈ later, schema = first
  | _ => True

namespace Schema.Steady

variable {first : Schema} {later : List Schema} (steady : (Schema.supplied first later).Steady)

include steady

/-- The schemas of a steady supplied schema are one. -/
theorem eq_first {schema : Schema} (member : schema ∈ first :: later) : schema = first := by
  rcases List.mem_cons.mp member with rfl | inLater
  · rfl
  · exact steady schema inLater

/-- A steady supplied schema always yields its first schema. -/
theorem closure_supply (node : Node) (count : Nat) :
    (node.supply first later count).closure = ⟨first, node.closure.bindings⟩ := by
  rcases Node.exists_supply_eq node first later count with ⟨position, part, found, supplied⟩
  rw [supplied, Node.closure_child, steady.eq_first (List.mem_of_getElem? found)]

end Schema.Steady

namespace Extractor

open Semantics

section Ensures

variable {definitions : Definitions} {schema : Schema} {keys : List ThunkKey}
  {extract : Extractor} {yields : Judgement} {path : Path}

private theorem ensures_entry {object : Value} {field : Field Node}
    (nested : ∀ node, field.schema? = some node → ∀ path value,
      Run.Ensures (Memory.Sound definitions schema keys) (extract node path value)
        (yields node.closure path value)) :
    Run.Ensures (Memory.Sound definitions schema keys) (extract.entry path object field)
      (EntryRule yields path object (field.map Node.closure)) := by
  cases field with
  | state outputKey generator =>
      apply Run.Ensures.bind (Run.settles_perform _).ensures
      intro result same
      apply Run.Ensures.pure
      rw [same]
      exact .state
  | read key outputKey presence node =>
      have extracted : Run.Ensures (Memory.Sound definitions schema keys)
          (extract.field presence path object key node) fun outcome =>
            EntryRule yields path object (.read key outputKey presence node.closure)
              (outcome.map (outputKey, ·)) := by
        apply Run.Ensures.bind (Run.settles_perform _).ensures
        intro resolution same
        cases resolution with
        | missing => exact .pure (.missing same.symm)
        | skipped => exact .pure (.skipped same.symm)
        | plain value =>
            exact (nested node rfl _ _).imp fun outcome holds => .plain same.symm holds
        | optional value =>
            exact .bind (nested node rfl _ _) fun outcome holds =>
              .pure (.optional same.symm holds)
      exact .bind extracted fun outcome rule => .pure rule

private theorem ensures_object {value : Value} {fields : List (Field Node)}
    (nested : ∀ field ∈ fields, ∀ node, field.schema? = some node → ∀ path value,
      Run.Ensures (Memory.Sound definitions schema keys) (extract node path value)
        (yields node.closure path value)) :
    Run.Ensures (Memory.Sound definitions schema keys) (extract.object path fields value)
      fun outcome => ∃ results, outcome = gather results ∧
        List.Forall₂ (EntryRule yields path value) (fields.map (Field.map Node.closure))
          results := by
  refine .bind (.mapM fun field member => ensures_entry (nested field member)) ?_
  intro results entries
  exact .pure ⟨results, rfl, List.forall₂_map_left_iff.mpr entries⟩

private theorem ensures_items {node : Node} {items : List Value}
    (nested : ∀ path value,
      Run.Ensures (Memory.Sound definitions schema keys) (extract node path value)
        (yields node.closure path value)) :
    Run.Ensures (Memory.Sound definitions schema keys) (extract.items path node items)
      fun outcome => ∃ outcomes, outcome = Outcome.consolidate outcomes ∧
        List.Forall₂ (fun (item : Value × Nat) outcome =>
          yields node.closure (path.pushIndex item.2) item.1 outcome) items.zipIdx outcomes := by
  refine .bind (.mapM fun entry _ => nested _ _) ?_
  exact fun outcomes elements => .pure ⟨outcomes, rfl, elements⟩

private theorem ensures_oneOf {value : Value} {earlier : List Fault} {nodes : List Node}
    (nested : ∀ node ∈ nodes,
      Run.Ensures (Memory.Sound definitions schema keys) (extract node path value)
        (yields node.closure path value)) :
    Run.Ensures (Memory.Sound definitions schema keys) (extract.oneOf path value earlier nodes)
      (AlternativesRule (fun closure outcome => yields closure path value outcome) earlier
        (nodes.map Node.closure)) := by
  induction nodes generalizing earlier with
  | nil =>
      rw [Extractor.oneOf]
      cases collected : Faults.ofList? earlier with
      | some faults => exact .pure (.exhausted collected)
      | none =>
          have empty : earlier = [] := by
            cases earlier with
            | nil => rfl
            | cons fault rest => simp [Faults.ofList?] at collected
          subst empty
          exact .pure .none
  | cons node nodes inductionHypothesis =>
      apply Run.Ensures.bind (nested node (.head _))
      intro outcome first
      cases outcome with
      | ok result => exact .pure (.success first)
      | error faults =>
          apply (inductionHypothesis fun other member => nested other (.tail _ member)).imp
          exact fun outcome tried => .failure first tried

private theorem run_mapM_of_notes {α β : Type} {step : α → Run β} {judge : α → β}
    {texts : α → List String}
    (each : ∀ item memory,
      (step item).run memory = some (judge item, memory.record ((texts item).map .note)))
    (items : List α) (memory : Memory) : (items.mapM step).run memory =
      some (items.map judge, memory.record ((items.flatMap texts).map .note)) := by
  induction items generalizing memory with
  | nil =>
      rw [List.mapM_nil]
      simp
  | cons item items inductionHypothesis => simp [each, inductionHypothesis, Memory.record]

/-- To judge keys does nothing but leave the notes of the validator, which is asked about each key
in order, and the verdict does not depend on the memory. -/
theorem run_keys (validator : Validator) (path : Path) (names : List String) (memory : Memory) :
    (Extractor.keys validator path names).run memory =
      some (keysVerdict validator path names,
        memory.record
          ((names.flatMap fun name => (validator (.string name)).notes).map .note)) := by
  let judge (entry : String × Nat) : Run (Outcome String) := do
    let verdict ← Run.perform (validator (.string entry.1))
    return (Outcome.lift verdict (path.pushIndex entry.2)).map fun accepted =>
      accepted.asString?.getD entry.1
  have each (entry : String × Nat) (memory : Memory) : (judge entry).run memory =
      some (keyVerdict validator path entry,
        memory.record ((validator (.string entry.1)).notes.map .note)) :=
    rfl
  have sameNotes : (names.zipIdx.flatMap fun entry => (validator (.string entry.1)).notes) =
      names.flatMap fun name => (validator (.string name)).notes := by
    conv_rhs => rw [← List.zipIdx_map_fst 0 names, List.flatMap_map]
  rw [Extractor.keys, StateT.run_bind, run_mapM_of_notes each, sameNotes]
  rfl

theorem exists_run_keys (validator : Validator) (path : Path) (names : List String) :
    ∃ texts : List String, ∀ memory, (Extractor.keys validator path names).run memory =
      some (keysVerdict validator path names, memory.record (texts.map .note)) :=
  ⟨_, run_keys validator path names⟩

theorem settles_keys (validator : Validator) (names : List String) :
    Run.Settles (Memory.Sound definitions schema keys) (Extractor.keys validator path names)
      (some (keysVerdict validator path names)) := by
  obtain ⟨texts, runs⟩ := exists_run_keys validator path names
  exact fun memory sound => ⟨_, runs memory, sound.record _⟩

private theorem ensures_setOf {validator : Validator} {node : Node} {value : Value}
    (nested : ∀ path value,
      Run.Ensures (Memory.Sound definitions schema keys) (extract node path value)
        (yields node.closure path value)) :
    Run.Ensures (Memory.Sound definitions schema keys) (extract.setOf validator path node value)
      fun outcome =>
        (∃ faults, keysVerdict validator path value.entries.keys = .error faults ∧
          outcome = .error faults) ∨
        ∃ names results, keysVerdict validator path value.entries.keys = .ok names ∧
          outcome = gather results ∧
          List.Forall₂ (EntryRule yields path value)
            (names.map fun name => .read name name .strict node.closure) results := by
  apply Run.Ensures.bind (settles_keys validator _).ensures
  intro verdict same
  cases verdict with
  | error faults => exact .pure (.inl ⟨faults, same.symm, rfl⟩)
  | ok names =>
      have each : ∀ field ∈ names.map fun name => Field.read name name .strict node,
          ∀ lower, field.schema? = some lower → ∀ path value,
            Run.Ensures (Memory.Sound definitions schema keys) (extract lower path value)
              (yields lower.closure path value) := by
        intro field member lower inside
        rcases List.mem_map.mp member with ⟨name, _, rfl⟩
        cases inside
        exact nested
      apply (ensures_object each).imp
      rintro _ ⟨results, rfl, entries⟩
      rw [List.map_map] at entries
      exact .inr ⟨names, results, same.symm, rfl, entries⟩

private theorem ensures_thunk {thunk : Thunk} {value : Value}
    (stands : thunk.Stands definitions schema)
    (nested : Run.Ensures (Memory.Sound definitions schema keys)
      (extract thunk.delegate path value) (yields thunk.delegate.closure path value)) :
    Run.Ensures (Memory.Sound definitions schema keys)
      (extract.thunk definitions thunk path value)
      (yields thunk.delegate.closure path value) := by
  apply Run.Ensures.bind (Run.settles_force stands).ensures
  intro delegate same
  rw [same]
  exact nested

private theorem ensures_choose {value : Value} {key : String} {branches : List (String × Schema)}
    {node : Node} (shape : node.schema = .choose key branches)
    (nested : ∀ branch ∈ node.branches 0 branches, ∀ path,
      Run.Ensures (Memory.Sound definitions schema keys) (extract branch.2 path value)
        (yields branch.2.closure path value)) :
    Run.Ensures (Memory.Sound definitions schema keys)
      (extract.choose path key (node.branches 0 branches) value)
      (Rule definitions yields node.closure path value) := by
  have closureEq : node.closure = ⟨.choose key branches, node.closure.bindings⟩ := by
    rw [← shape]
    rfl
  rw [closureEq]
  unfold Extractor.choose
  split
  · next missing => exact .pure (.missingKey missing)
  · next chosen found =>
      have known := node.branch?_branches (branchName chosen) branches
      dsimp only
      cases isBranch : Schema.branch? (branchName chosen) (node.branches 0 branches) with
      | none =>
          rw [isBranch] at known
          rw [Node.branchNames_branches]
          exact .pure (.missingBranch found (Option.map_eq_none_iff.mp known.symm))
      | some branch =>
          rw [isBranch] at known
          rcases Option.map_eq_some_iff.mp known.symm with ⟨written, isWritten, same⟩
          refine (nested _ (Schema.branch?_mem isBranch) _).imp fun outcome holds => ?_
          rw [← same] at holds
          exact .choose found isWritten holds

section

variable {node : Node} {value : Value}
  (nested : ∀ node path value, node.Stands definitions schema →
    Run.Ensures (Memory.Sound definitions schema keys) (extract node path value)
      (yields node.closure path value))
  (stands : node.Stands definitions schema)

include nested stands

private theorem ensures_fields {fields : List (Field Schema)}
    (shape : node.schema = .object fields ∨ node.schema = .closed fields) :
    Run.Ensures (Memory.Sound definitions schema keys)
      (extract.object path (node.fields 0 fields) value) fun outcome =>
        ∃ results, outcome = gather results ∧
          List.Forall₂ (EntryRule yields path value)
            (fields.map (Field.map (Closure.mk · node.closure.bindings))) results := by
  rw [← Node.map_closure_fields node 0]
  exact ensures_object fun field member lower inside path value =>
    nested lower path value (stands.fields shape member inside)

private theorem ensures_delegate {thunk : Thunk}
    (isThunk : node.thunk? definitions = some thunk) :
    Run.Ensures (Memory.Sound definitions schema keys)
      (extract.thunk definitions thunk path value)
      (Rule definitions yields node.closure path value) := by
  have thunkStands : thunk.Stands definitions schema := ⟨node, stands, isThunk⟩
  apply (ensures_thunk thunkStands (nested _ path value thunkStands.delegate)).imp
  exact fun outcome holds => .delegate (Node.delegate?_of_thunk? isThunk) holds

private theorem ensures_supplied {first : Schema} {later : List Schema}
    (shape : node.schema = .supplied first later) (count : Nat) :
    Run.Ensures (Memory.Sound definitions schema keys)
      (extract (node.supply first later count) path value)
      (Rule definitions yields node.closure path value) := by
  obtain ⟨position, part, found, supplied⟩ := Node.exists_supply_eq node first later count
  apply (nested _ path value (stands.supply shape count)).imp
  intro outcome holds
  rw [supplied] at holds
  rcases node with ⟨written, address, scope⟩
  cases shape
  exact .supplied (List.mem_of_getElem? found) holds

private theorem ensures_self {label : String} (shape : node.schema = .self label) :
    Run.Ensures (Memory.Sound definitions schema keys)
      (match node.scope.find? label with
        | some target => extract target path value
        | none => return Outcome.fail (unavailable path label))
      (Rule definitions yields node.closure path value) := by
  cases found : node.scope.find? label with
  | none =>
      rcases node with ⟨written, address, scope⟩
      cases shape
      have known := Scope.find?_bindings label scope
      rw [found] at known
      exact .pure (.unbound known)
  | some target =>
      apply (nested _ path value (stands.owner found)).imp
      exact fun outcome holds => .delegate (Node.delegate?_of_find? shape found) holds

end

/-- What one step of extraction yields, if what is nested yields what it means. -/
theorem ensures_step
    (nested : ∀ node path value, node.Stands definitions schema →
      Run.Ensures (Memory.Sound definitions schema keys) (extract node path value)
        (yields node.closure path value))
    (node : Node) (value : Value) (stands : node.Stands definitions schema) :
    Run.Ensures (Memory.Sound definitions schema keys)
      (Extractor.step definitions extract node path value)
      (Rule definitions yields node.closure path value) := by
  rcases node with ⟨written, address, scope⟩
  cases written with
  | leaf validator =>
      apply Run.Ensures.bind (Run.settles_perform _).ensures
      intro verdict same
      apply Run.Ensures.pure
      rw [same]
      exact .leaf
  | object fields =>
      apply (ensures_fields nested stands (.inl rfl)).imp
      rintro _ ⟨results, rfl, entries⟩
      exact .object entries
  | closed fields =>
      simp only [Extractor.step]
      split
      · next supported =>
          apply (ensures_fields nested stands (.inr rfl)).imp
          rintro _ ⟨results, rfl, entries⟩
          exact .closed supported entries
      · next found => exact .pure (.unsupported found)
  | array element =>
      cases value with
      | array items =>
          have each := fun path value => nested _ path value (stands.below 0 rfl)
          apply (ensures_items each).bind
          rintro _ ⟨outcomes, rfl, elements⟩
          exact .pure (.array elements)
      | _ => exact .pure (.notArray rfl)
  | oneOf alternatives =>
      apply (ensures_oneOf fun lower member =>
        nested lower path value (stands.alternatives rfl member)).imp
      intro outcome tried
      rw [Node.map_closure_children] at tried
      exact .oneOf tried
  | setOf validator values =>
      have each := fun path value => nested _ path value (stands.below 0 rfl)
      apply (ensures_setOf each).imp
      rintro _ (⟨faults, rejected, rfl⟩ | ⟨names, results, accepted, rfl, entries⟩)
      · exact .rejectedKeys rejected
      · exact .setOf accepted entries
  | choose key branches =>
      exact ensures_choose rfl fun branch member path =>
        nested branch.2 path value (stands.branches rfl member)
  | function parameters retriever =>
      cases value with
      | function callable => exact .pure .function
      | _ => exact .pure (.notFunction rfl)
  | thunk | reference => exact ensures_delegate nested stands rfl
  | supplied =>
      exact .bind (Run.ensures_request _) fun count _ => ensures_supplied nested stands rfl count
  | self => exact ensures_self nested stands rfl
  | released => exact .pure .released
  | recursive | boxed =>
      exact (nested _ path value (stands.below 0 rfl)).imp fun outcome holds => .delegate rfl holds

end Ensures

section Settles

variable {definitions : Definitions} {schema : Schema} {keys : List ThunkKey}
  {extract : Extractor} {yields : Judgement} {path : Path}

private theorem settles_entry {object : Value} {field : Field Node}
    {result : Outcome (String × Value)}
    (nested : ∀ node, field.schema? = some node → ∀ path value outcome,
      yields node.closure path value outcome →
        Run.Settles (Memory.Sound definitions schema keys) (extract node path value)
          (some outcome))
    (rule : EntryRule yields path object (field.map Node.closure) result) :
    Run.Settles (Memory.Sound definitions schema keys) (extract.entry path object field)
      (some result) := by
  cases field with
  | state outputKey generator =>
      cases rule
      exact .andThen (Run.settles_perform _) (.pure _)
  | read key outputKey presence node =>
      cases rule with
      | missing resolved =>
          have extracted : Run.Settles (Memory.Sound definitions schema keys)
              (extract.field presence path object key node)
              (some (.fail ⟨path.pushField key, .missingStrict key object⟩)) := by
            apply Run.Settles.andThen (Run.settles_perform _)
            rw [resolved]
            exact .pure _
          exact .andThen extracted (.pure _)
      | skipped resolved =>
          have extracted : Run.Settles (Memory.Sound definitions schema keys)
              (extract.field presence path object key node) (some (.ok .absent)) := by
            apply Run.Settles.andThen (Run.settles_perform _)
            rw [resolved]
            exact .pure _
          exact .andThen extracted (.pure _)
      | plain resolved holds =>
          refine .andThen (.andThen (Run.settles_perform _) ?_) (.pure _)
          rw [resolved]
          exact nested node rfl _ _ _ holds
      | optional resolved holds =>
          refine .andThen (.andThen (Run.settles_perform _) ?_) (.pure _)
          rw [resolved]
          exact .andThen (nested node rfl _ _ _ holds) (.pure _)

private theorem settles_object {value : Value} {fields : List (Field Node)}
    {results : List (Outcome (String × Value))}
    (nested : ∀ field ∈ fields, ∀ node, field.schema? = some node → ∀ path value outcome,
      yields node.closure path value outcome →
        Run.Settles (Memory.Sound definitions schema keys) (extract node path value)
          (some outcome))
    (entries : List.Forall₂ (EntryRule yields path value)
      (fields.map (Field.map Node.closure)) results) :
    Run.Settles (Memory.Sound definitions schema keys) (extract.object path fields value)
      (some (gather results)) := by
  refine .andThen (.mapM_some ?_) (.pure _)
  apply forall₂_imp_of_mem (List.forall₂_map_left_iff.mp entries)
  exact fun field member result rule => settles_entry (nested field member) rule

private theorem settles_oneOf {value : Value} {earlier : List Fault} {nodes : List Node}
    {outcome : Outcome Value}
    (nested : ∀ node ∈ nodes, ∀ outcome, yields node.closure path value outcome →
      Run.Settles (Memory.Sound definitions schema keys) (extract node path value)
        (some outcome))
    (tried : AlternativesRule (fun closure outcome => yields closure path value outcome) earlier
      (nodes.map Node.closure) outcome) :
    Run.Settles (Memory.Sound definitions schema keys) (extract.oneOf path value earlier nodes)
      (some outcome) := by
  induction nodes generalizing earlier with
  | nil =>
      cases tried with
      | none => exact .pure _
      | exhausted collected =>
          rw [Extractor.oneOf, collected]
          exact .pure _
  | cons node nodes inductionHypothesis =>
      cases tried with
      | success first => exact .andThen (nested node (.head _) _ first) (.pure _)
      | failure first rest =>
          apply Run.Settles.andThen (nested node (.head _) _ first)
          exact inductionHypothesis (fun other member => nested other (.tail _ member)) rest

private theorem settles_setOf {validator : Validator} {node : Node} {value : Value}
    {names : List String} {results : List (Outcome (String × Value))}
    (nested : ∀ path value outcome, yields node.closure path value outcome →
      Run.Settles (Memory.Sound definitions schema keys) (extract node path value)
        (some outcome))
    (accepted : keysVerdict validator path value.entries.keys = .ok names)
    (entries : List.Forall₂ (EntryRule yields path value)
      (names.map fun name => .read name name .strict node.closure) results) :
    Run.Settles (Memory.Sound definitions schema keys) (extract.setOf validator path node value)
      (some (gather results)) := by
  have each : ∀ field ∈ names.map fun name => Field.read name name .strict node,
      ∀ lower, field.schema? = some lower → ∀ path value outcome,
        yields lower.closure path value outcome →
          Run.Settles (Memory.Sound definitions schema keys) (extract lower path value)
            (some outcome) := by
    intro field member lower inside
    rcases List.mem_map.mp member with ⟨name, _, rfl⟩
    cases inside
    exact nested
  apply Run.Settles.andThen (settles_keys _ _)
  rw [accepted]
  apply settles_object each
  rw [List.map_map]
  exact entries

private theorem settles_thunk {thunk : Thunk} {value : Value} {outcome : Outcome Value}
    (stands : thunk.Stands definitions schema)
    (nested : Run.Settles (Memory.Sound definitions schema keys)
      (extract thunk.delegate path value) (some outcome)) :
    Run.Settles (Memory.Sound definitions schema keys)
      (extract.thunk definitions thunk path value) (some outcome) :=
  .andThen (Run.settles_force stands) nested

section

variable {node : Node} {value : Value} {outcome : Outcome Value}
  (nested : ∀ node path value outcome, node.Stands definitions schema →
    yields node.closure path value outcome →
      Run.Settles (Memory.Sound definitions schema keys) (extract node path value)
        (some outcome))
  (stands : node.Stands definitions schema)

include nested stands

private theorem settles_fields {fields : List (Field Schema)}
    {results : List (Outcome (String × Value))}
    (shape : node.schema = .object fields ∨ node.schema = .closed fields)
    (entries : List.Forall₂ (EntryRule yields path value)
      (fields.map (Field.map (Closure.mk · node.closure.bindings))) results) :
    Run.Settles (Memory.Sound definitions schema keys)
      (extract.object path (node.fields 0 fields) value) (some (gather results)) := by
  rw [← Node.map_closure_fields node 0] at entries
  exact settles_object (fun field member lower inside path value outcome =>
    nested lower path value outcome (stands.fields shape member inside)) entries

private theorem settles_items {element : Schema} {items : List Value}
    {outcomes : List (Outcome Value)} (shape : node.schema = .array element)
    (elements : List.Forall₂ (fun (item : Value × Nat) outcome =>
      yields ⟨element, node.closure.bindings⟩ (path.pushIndex item.2) item.1 outcome)
      items.zipIdx outcomes) :
    Run.Settles (Memory.Sound definitions schema keys)
      (extract.items path (node.child 0 element) items) (some (Outcome.consolidate outcomes)) := by
  rcases node with ⟨written, address, scope⟩
  cases shape
  refine .andThen (.mapM_some ?_) (.pure _)
  exact elements.imp fun item outcome holds => nested _ _ _ _ (stands.below 0 rfl) holds

private theorem settles_branch {key : String} {branches : List (String × Schema)} {chosen : Value}
    {branch : Schema} (shape : node.schema = .choose key branches)
    (found : value.get? key = some chosen)
    (known : Schema.branch? (branchName chosen) branches = some branch)
    (holds : yields ⟨branch, node.closure.bindings⟩
      (path.pushField ("branch: " ++ branchName chosen)) value outcome) :
    Run.Settles (Memory.Sound definitions schema keys)
      (extract.choose path key (node.branches 0 branches) value) (some outcome) := by
  have isBranch := node.branch?_branches (branchName chosen) branches
  rw [known, Option.map_some, Option.map_eq_some_iff] at isBranch
  obtain ⟨lower, lowerFound, same⟩ := isBranch
  simp only [Extractor.choose, found, lowerFound]
  apply nested _ _ value outcome (stands.branches shape (Schema.branch?_mem lowerFound))
  rw [same]
  exact holds

private theorem settles_delegate {delegate : Closure}
    (delegates : node.closure.delegate? definitions = some delegate)
    (holds : yields delegate path value outcome) :
    Run.Settles (Memory.Sound definitions schema keys)
      (Extractor.step definitions extract node path value) (some outcome) := by
  have ofThunk {thunk : Thunk} (isThunk : node.thunk? definitions = some thunk)
      (same : thunk.delegate.closure = delegate) :
      Run.Settles (Memory.Sound definitions schema keys)
        (extract.thunk definitions thunk path value) (some outcome) := by
    have thunkStands : thunk.Stands definitions schema := ⟨node, stands, isThunk⟩
    have settles := nested _ path value outcome thunkStands.delegate (same ▸ holds)
    exact settles_thunk thunkStands settles
  rcases node with ⟨written, address, scope⟩
  cases written with
  | thunk | reference =>
      cases delegates
      exact ofThunk rfl rfl
  | recursive | boxed =>
      cases delegates
      exact nested _ path value outcome (stands.below 0 rfl) holds
  | self label =>
      obtain ⟨target, found, rfl⟩ :=
        Option.map_eq_some_iff.mp ((Scope.find?_bindings label scope).symm.trans delegates)
      simp only [Extractor.step, found]
      exact nested target path value outcome (stands.owner found) holds
  | _ => contradiction

/-- What one step of extraction means, it yields from every sound memory, if this is so for what is
nested. -/
theorem settles_step (steady : node.schema.Steady)
    (rule : Rule definitions yields node.closure path value outcome) :
    Run.Settles (Memory.Sound definitions schema keys)
      (Extractor.step definitions extract node path value) (some outcome) := by
  rcases node with ⟨written, address, scope⟩
  cases rule with
  | leaf => exact .andThen (Run.settles_perform _) (.pure _)
  | object entries => exact settles_fields nested stands (.inl rfl) entries
  | closed supported entries =>
      simp only [Extractor.step, supported]
      exact settles_fields nested stands (.inr rfl) entries
  | unsupported found =>
      simp only [Extractor.step]
      exact .pure _
  | array elements => exact .andThen (settles_items nested stands rfl elements) (.pure _)
  | notArray other =>
      cases value with
      | array => contradiction
      | _ => exact .pure _
  | oneOf tried =>
      apply settles_oneOf fun lower member outcome =>
        nested lower path value outcome (stands.alternatives rfl member)
      rw [Node.map_closure_children]
      exact tried
  | rejectedKeys rejected =>
      apply Run.Settles.andThen (settles_keys _ _)
      rw [rejected]
      exact .pure _
  | setOf accepted entries =>
      have each := fun path value outcome => nested _ path value outcome (stands.below 0 rfl)
      exact settles_setOf each accepted entries
  | missingKey missing =>
      simp only [Extractor.step, Extractor.choose, missing]
      exact .pure _
  | @missingBranch key branches _ _ _ chosen found unknown =>
      have known := Node.branch?_branches ⟨.choose key branches, address, scope⟩
        (branchName chosen) branches
      rw [unknown, Option.map_none, Option.map_eq_none_iff] at known
      simp only [Extractor.step, Extractor.choose, found, known, Node.branchNames_branches]
      exact .pure _
  | choose found known holds => exact settles_branch nested stands rfl found known holds
  | function => exact .pure _
  | notFunction other =>
      cases value with
      | function => contradiction
      | _ => exact .pure _
  | unbound missing =>
      rw [Scope.find?_bindings, Option.map_eq_none_iff] at missing
      simp only [Extractor.step, missing]
      exact .pure _
  | released => exact .pure _
  | supplied member holds =>
      apply Run.settles_request
      intro count
      apply nested _ path value outcome (stands.supply rfl count)
      rw [steady.closure_supply, ← steady.eq_first member]
      exact holds
  | delegate delegates holds => exact settles_delegate nested stands delegates holds

end

end Settles

end Extractor

section

variable {definitions : Definitions} {schema : Schema} {keys : List ThunkKey} {depth : Nat}
  {node : Node} {path : Path} {value : Value}

/-- A run of extraction that ends has an outcome that extraction means, within as many steps. -/
theorem extract_ensures (stands : node.Stands definitions schema) :
    Run.Ensures (Memory.Sound definitions schema keys) (extract definitions depth node path value)
      (YieldsWithin definitions depth node.closure path value) := by
  induction depth generalizing node path value with
  | zero => exact .exhausted
  | succ depth inductionHypothesis =>
      exact Extractor.ensures_step (fun lower path value => inductionHypothesis) node value stands

variable (steady : schema.Throughout Schema.Steady)
  (definitionsSteady : definitions.Throughout Schema.Steady)

include steady definitionsSteady

/-- An outcome that extraction means within so many steps is that of every run. -/
theorem extract_settles {outcome : Outcome Value} (stands : node.Stands definitions schema)
    (yields : YieldsWithin definitions depth node.closure path value outcome) :
    Run.Settles (Memory.Sound definitions schema keys)
      (extract definitions depth node path value) (some outcome) := by
  induction depth generalizing node path value outcome with
  | zero => exact yields.elim
  | succ depth inductionHypothesis =>
      have nodeSteady := stands.throughout (fun _ => trivial) steady definitionsSteady
      exact Extractor.settles_step (fun lower path value outcome => inductionHypothesis) stands
        nodeSteady.schema.here yields

/-- What a run of extraction yields does not depend on the sound memory that it starts from. -/
theorem exists_extract_settles (stands : node.Stands definitions schema) :
    ∃ outcome?, Run.Settles (Memory.Sound definitions schema keys)
      (extract definitions depth node path value) outcome? := by
  by_cases ends : ∃ outcome, YieldsWithin definitions depth node.closure path value outcome
  · rcases ends with ⟨outcome, yields⟩
    exact ⟨some outcome, extract_settles steady definitionsSteady stands yields⟩
  · refine ⟨none, fun memory sound => ?_⟩
    cases found : (extract definitions depth node path value).run memory with
    | none => rfl
    | some answer =>
        rcases answer with ⟨outcome, after⟩
        exact absurd ⟨outcome, (extract_ensures stands memory sound outcome after found).1⟩ ends

/-- A run from a sound memory ends with exactly the outcomes that extraction means. -/
theorem extract_ends_iff {memory : Memory} {outcome : Outcome Value}
    (sound : memory.Sound definitions schema keys) (stands : node.Stands definitions schema) :
    (∃ after, (extract definitions depth node path value).run memory = some (outcome, after)) ↔
      YieldsWithin definitions depth node.closure path value outcome := by
  constructor
  · rintro ⟨after, ends⟩
    exact (extract_ensures stands memory sound outcome after ends).1
  · intro yields
    obtain ⟨after, ends, _⟩ :=
      extract_settles steady definitionsSteady stands yields memory sound
    exact ⟨after, ends⟩

/-- Extraction means one outcome at most. -/
theorem Yields.unique {first second : Outcome Value} (stands : node.Stands definitions schema)
    (firstYields : Yields definitions node.closure path value first)
    (secondYields : Yields definitions node.closure path value second) : first = second := by
  rcases firstYields with ⟨firstDepth, firstWithin⟩
  rcases secondYields with ⟨secondDepth, secondWithin⟩
  have sound := Memory.sound_initial definitions schema
  obtain ⟨_, firstEnds, _⟩ := extract_settles steady definitionsSteady stands
    (firstWithin.mono (Nat.le_max_left firstDepth secondDepth)) _ sound
  obtain ⟨_, secondEnds, _⟩ := extract_settles steady definitionsSteady stands
    (secondWithin.mono (Nat.le_max_right firstDepth secondDepth)) _ sound
  rw [firstEnds] at secondEnds
  cases secondEnds
  rfl

end

end Extraction
