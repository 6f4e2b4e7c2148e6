import Extraction.Proofs.Adequacy
import Extraction.Schema.Describe

/-!
# What descriptions say

A description can be computed without any memory, from the schema, from what encloses it, and from
the thunks that are being described.  Runs of the describer give that text from every sound memory,
where all supplied schemas are steady.
-/

namespace Extraction

namespace Description

/-- The text of one entry of an object schema. -/
def entry (describe : Closure → Option String) : Field Closure → Option String
  | .read key _ _ closure => return key ++ " -> " ++ (← describe closure)
  | .state outputKey _ => return "state(" ++ outputKey ++ ")"

/-- The text of an object schema. -/
def object (describe : Closure → Option String) (fields : List (Field Closure)) :
    Option String := do
  let lines ← fields.mapM (entry describe)
  return "obj\x7b\n" ++ "\n".intercalate lines ++ "\x7d"

/-- The text of a thunk, given the thunks that are being described. -/
def thunk (describe : List ThunkKey → Closure → Option String) (keys : List ThunkKey)
    (key : ThunkKey) (delegate : Closure) : Option String :=
  if key ∈ keys then return "thunk(" ++ key.label ++ ")" else describe (key :: keys) delegate

/-- The text of a schema, given the texts of what is nested in it. -/
def step (definitions : Definitions) (describe : List ThunkKey → Closure → Option String)
    (keys : List ThunkKey) : Closure → Option String
  | ⟨schema, bindings⟩ =>
    match schema with
    | .leaf _ => return "val"
    | .object fields | .closed fields =>
        object (describe keys) (fields.map (Field.map (Closure.mk · bindings)))
    | .array element => return "array(" ++ (← describe keys ⟨element, bindings⟩) ++ ")"
    | .oneOf alternatives => do
        let parts ← (alternatives.map (Closure.mk · bindings)).mapM (describe keys)
        return "oneOf(" ++ ", ".intercalate parts ++ ")"
    | .setOf _ values => return "setOf(" ++ (← describe keys ⟨values, bindings⟩) ++ ")"
    | .choose key branches =>
        return "chooseOn(" ++ key ++ "). Possible values: [" ++
          ", ".intercalate (Schema.branchNames branches) ++ "]"
    | .function _ _ => return "function"
    | .thunk site label body => thunk describe keys ⟨.inline site, label⟩ ⟨body, bindings⟩
    | .reference label name =>
        thunk describe keys ⟨.definition, label⟩ ⟨definitions.find name, []⟩
    | .supplied first _ => describe keys ⟨first, bindings⟩
    | .recursive label body => describe keys ⟨body, (label, body) :: bindings⟩
    | .self label | .released label => return Describer.recursiveName label
    | .boxed inner => describe keys ⟨inner, bindings⟩

end Description

/-- The text that describes a closure in at most so many steps below each other. -/
def described (definitions : Definitions) : Nat → List ThunkKey → Closure → Option String
  | 0 => fun _ _ => none
  | depth + 1 => Description.step definitions (described definitions depth)

namespace Describer

variable {definitions : Definitions} {schema : Schema} {keys : List ThunkKey}
  {describe : Describer}

private theorem settles_entry {meaning : Closure → Option String} {field : Field Node}
    (nested : ∀ node, field.schema? = some node →
      Run.Settles (Memory.Sound definitions schema keys) (describe node) (meaning node.closure)) :
    Run.Settles (Memory.Sound definitions schema keys) (describe.entry field)
      (Description.entry meaning (field.map Node.closure)) := by
  cases field with
  | state => exact .pure _
  | read key outputKey presence node =>
      exact .bind (nested node rfl) fun _ _ => .pure _

private theorem settles_object {meaning : Closure → Option String} {fields : List (Field Node)}
    (nested : ∀ field ∈ fields, ∀ node, field.schema? = some node →
      Run.Settles (Memory.Sound definitions schema keys) (describe node) (meaning node.closure)) :
    Run.Settles (Memory.Sound definitions schema keys) (describe.object fields)
      (Description.object meaning (fields.map (Field.map Node.closure))) := by
  unfold Description.object
  rw [List.mapM_map]
  exact .bind (.mapM fun field member => settles_entry (nested field member)) fun _ _ => .pure _

/-- A thunk that is being described is only named; nothing is built or remembered. -/
theorem run_thunk_of_mem {thunk : Thunk} {memory : Memory}
    (isDescribed : thunk.key ∈ memory.describing) :
    (describe.thunk definitions thunk).run memory =
      some ("thunk(" ++ thunk.key.label ++ ")", memory) := by
  simp [Describer.thunk, isDescribed]

/-- A thunk that is not being described yet is built, and what it holds is described while it
is. -/
theorem run_thunk_of_not_mem {thunk : Thunk} {memory : Memory}
    (isNew : thunk.key ∉ memory.describing) :
    (describe.thunk definitions thunk).run memory =
      (Run.whileDescribing thunk.key (Run.force definitions thunk >>= describe)).run memory := by
  simp [Describer.thunk, Run.whileDescribing, isNew]

/-- While a thunk is described, its key is kept with those that are being described. -/
private theorem settles_thunk {meaning : List ThunkKey → Closure → Option String} {thunk : Thunk}
    (stands : thunk.Stands definitions schema)
    (nested : ∀ keys, Run.Settles (Memory.Sound definitions schema keys)
      (describe thunk.delegate) (meaning keys thunk.delegate.closure)) :
    Run.Settles (Memory.Sound definitions schema keys) (describe.thunk definitions thunk)
      (Description.thunk meaning keys thunk.key thunk.delegate.closure) := by
  by_cases isDescribed : thunk.key ∈ keys
  · rw [Description.thunk, if_pos isDescribed]
    refine Run.Settles.of_run_eq (.pure _) fun memory sound => ?_
    exact run_thunk_of_mem (sound.describing ▸ isDescribed)
  · rw [Description.thunk, if_neg isDescribed]
    have inside := Run.Settles.andThen (Run.settles_force stands) (nested (thunk.key :: keys))
    refine Run.Settles.of_run_eq (Run.settles_describing inside) ?_
    exact fun memory sound => run_thunk_of_not_mem (sound.describing ▸ isDescribed)

/-- One step of the describer gives its text from every sound memory, if this is so for what is
nested. -/
theorem settles_step {meaning : List ThunkKey → Closure → Option String}
    (nested : ∀ keys node, node.Stands definitions schema →
      Run.Settles (Memory.Sound definitions schema keys) (describe node)
        (meaning keys node.closure))
    {node : Node} (stands : node.Stands definitions schema) (steady : node.schema.Steady) :
    Run.Settles (Memory.Sound definitions schema keys) (Describer.step definitions describe node)
      (Description.step definitions meaning keys node.closure) := by
  have ofFields {fields : List (Field Schema)}
      (shape : node.schema = .object fields ∨ node.schema = .closed fields) :
      Run.Settles (Memory.Sound definitions schema keys) (describe.object (node.fields 0 fields))
        (Description.object (meaning keys)
          (fields.map (Field.map (Closure.mk · node.closure.bindings)))) := by
    rw [← Node.map_closure_fields node 0]
    exact settles_object fun field member lower inside =>
      nested keys lower (stands.fields shape member inside)
  have ofAlternatives {alternatives : List Schema} (shape : node.schema = .oneOf alternatives) :
      Run.Settles (Memory.Sound definitions schema keys)
        ((node.children 0 alternatives).mapM describe)
        ((alternatives.map (Closure.mk · node.closure.bindings)).mapM (meaning keys)) := by
    rw [← Node.map_closure_children node 0, List.mapM_map]
    exact .mapM fun lower member => nested keys lower (stands.alternatives shape member)
  rcases node with ⟨written, address, scope⟩
  cases written with
  | leaf | choose | function | self | released => exact .pure _
  | object => exact ofFields (.inl rfl)
  | closed => exact ofFields (.inr rfl)
  | array | setOf => exact .bind (nested keys _ (stands.below 0 rfl)) fun _ _ => .pure _
  | oneOf alternatives =>
      refine .bind (ofAlternatives rfl) fun _ _ => .pure _
  | thunk site label body =>
      have isThunk : Thunk.Stands definitions schema
          (Node.inlineThunk ⟨.thunk site label body, address, scope⟩ site label body) :=
        ⟨_, stands, rfl⟩
      exact settles_thunk isThunk fun keys => nested keys _ isThunk.delegate
  | reference label name =>
      have isThunk : Thunk.Stands definitions schema
          (Node.definedThunk definitions ⟨.reference label name, address, scope⟩ label name) :=
        ⟨_, stands, rfl⟩
      exact settles_thunk isThunk fun keys => nested keys _ isThunk.delegate
  | supplied first later =>
      refine Run.settles_request fun count => ?_
      have settles := nested keys _ (stands.supply rfl count)
      rw [steady.closure_supply] at settles
      exact settles
  | recursive | boxed => exact nested keys _ (stands.below 0 rfl)

end Describer

variable {definitions : Definitions} {schema : Schema}

/-- A description is the same text from every sound memory. -/
theorem describe_settles {keys : List ThunkKey} {depth : Nat} {node : Node}
    (steady : schema.Throughout Schema.Steady)
    (definitionsSteady : definitions.Throughout Schema.Steady)
    (stands : node.Stands definitions schema) :
    Run.Settles (Memory.Sound definitions schema keys) (describe definitions depth node)
      (described definitions depth keys node.closure) := by
  induction depth generalizing keys node with
  | zero => exact .exhausted
  | succ depth inductionHypothesis =>
      have nodeSteady := stands.throughout (fun _ => trivial) steady definitionsSteady
      exact Describer.settles_step (fun keys lower => inductionHypothesis) stands
        nodeSteady.schema.here

namespace Describer

variable {keys : List ThunkKey} {describe : Describer}

private theorem ensures_object {fields : List (Field Node)}
    (nested : ∀ field ∈ fields, ∀ node, field.schema? = some node →
      Run.Ensures (Memory.Sound definitions schema keys) (describe node) fun _ => True) :
    Run.Ensures (Memory.Sound definitions schema keys) (describe.object fields)
      fun _ => True := by
  have each : ∀ field ∈ fields, Run.Ensures (Memory.Sound definitions schema keys)
      (describe.entry field) fun _ => True := by
    intro field member
    cases field with
    | state => exact .pure trivial
    | read key outputKey presence node =>
        exact .bind (nested _ member node rfl) fun _ _ => .pure trivial
  exact .bind (.mapM each) fun _ _ => .pure trivial

private theorem ensures_thunk {thunk : Thunk} (stands : thunk.Stands definitions schema)
    (nested : ∀ keys, Run.Ensures (Memory.Sound definitions schema keys)
      (describe thunk.delegate) fun _ => True) :
    Run.Ensures (Memory.Sound definitions schema keys) (describe.thunk definitions thunk)
      fun _ => True := by
  have described : Run.Ensures (Memory.Sound definitions schema (thunk.key :: keys))
      (Run.force definitions thunk >>= describe) fun _ => True := by
    refine .bind (Run.settles_force stands).ensures fun delegate same => ?_
    rw [same]
    exact nested _
  intro memory sound text after ends
  by_cases isDescribed : thunk.key ∈ memory.describing
  · cases (run_thunk_of_mem isDescribed).symm.trans ends
    exact ⟨trivial, sound⟩
  · rw [run_thunk_of_not_mem isDescribed] at ends
    exact Run.ensures_describing described memory sound text after ends

/-- One step of the describer keeps the memory sound, if this is so for what is nested. -/
theorem ensures_step
    (nested : ∀ keys node, node.Stands definitions schema →
      Run.Ensures (Memory.Sound definitions schema keys) (describe node) fun _ => True)
    {node : Node} (stands : node.Stands definitions schema) :
    Run.Ensures (Memory.Sound definitions schema keys) (Describer.step definitions describe node)
      fun _ => True := by
  have ofFields {fields : List (Field Schema)}
      (shape : node.schema = .object fields ∨ node.schema = .closed fields) :
      Run.Ensures (Memory.Sound definitions schema keys)
        (describe.object (node.fields 0 fields)) fun _ => True :=
    ensures_object fun field member lower inside =>
      nested keys lower (stands.fields shape member inside)
  rcases node with ⟨written, address, scope⟩
  cases written with
  | leaf | choose | function | self | released => exact .pure trivial
  | object => exact ofFields (.inl rfl)
  | closed => exact ofFields (.inr rfl)
  | array | setOf =>
      exact .bind (nested keys _ (stands.below 0 rfl)) fun _ _ => .pure trivial
  | oneOf alternatives =>
      refine .bind (.mapM fun lower member => nested keys lower ?_) fun _ _ => .pure trivial
      exact stands.alternatives rfl member
  | thunk site label body =>
      have isThunk : Thunk.Stands definitions schema
          (Node.inlineThunk ⟨.thunk site label body, address, scope⟩ site label body) :=
        ⟨_, stands, rfl⟩
      exact ensures_thunk isThunk fun keys => nested keys _ isThunk.delegate
  | reference label name =>
      have isThunk : Thunk.Stands definitions schema
          (Node.definedThunk definitions ⟨.reference label name, address, scope⟩ label name) :=
        ⟨_, stands, rfl⟩
      exact ensures_thunk isThunk fun keys => nested keys _ isThunk.delegate
  | supplied first later =>
      exact .bind (Run.ensures_request _) fun count _ => nested keys _ (stands.supply rfl count)
  | recursive | boxed => exact nested keys _ (stands.below 0 rfl)

end Describer

variable {keys : List ThunkKey} {depth : Nat}

/-- A description keeps the memory sound, also where supplied schemas change. -/
theorem describe_ensures {node : Node} (stands : node.Stands definitions schema) :
    Run.Ensures (Memory.Sound definitions schema keys) (describe definitions depth node)
      fun _ => True := by
  induction depth generalizing keys node with
  | zero => exact .exhausted
  | succ depth inductionHypothesis =>
      exact Describer.ensures_step (fun keys lower => inductionHypothesis) stands

/-- To build a thunk by its number keeps the memory sound. -/
theorem forceNumbered_ensures {number : Nat} :
    Run.Ensures (Memory.Sound definitions schema keys) (Run.forceNumbered definitions number)
      fun delegate? => ∀ delegate, delegate? = some delegate →
        delegate.Stands definitions schema := by
  intro memory sound delegate? after ends
  cases found : memory.created[number]? with
  | none =>
      cases (Run.run_forceNumbered_of_none definitions found).symm.trans ends
      exact ⟨nofun, sound⟩
  | some thunk =>
      have stands := sound.created thunk (List.mem_of_getElem? found)
      obtain ⟨forcedMemory, forced, soundAfter⟩ := sound.force stands
      have run := Run.run_forceNumbered_of_some definitions found
      rw [forced] at run
      cases run.symm.trans ends
      refine ⟨?_, soundAfter⟩
      intro delegate isHeld
      cases isHeld
      exact stands.delegate

/-- So does to describe then what the thunk holds. -/
theorem numbered_ensures {number : Nat} :
    Run.Ensures (Memory.Sound definitions schema keys)
      ((describe definitions depth).numbered definitions number) fun _ => True := by
  apply forceNumbered_ensures.bind
  intro delegate? stands
  cases delegate? with
  | none => exact .pure trivial
  | some delegate => exact describe_ensures (stands delegate rfl)

end Extraction
