import Extraction.Proofs.Visits
import Extraction.Session

/-!
# What a run calls

A run of a schema calls others, one after the other, and each is run from the memory that the calls
before it have left.  Which calls a run makes is said here for one step of extraction at a time,
and from it which runs take place at all, also where a run never ends.  A nested schema is not
selected in a run if there is a reason why the run does not call it.
-/

namespace Extraction

/-- A run of extraction: a node, the place and the value that it is run on, and the memory that it
is run from. -/
structure Visit where
  node : Node
  path : Path
  value : Value
  memory : Memory

/-- The calls of the entries of an object schema: each comes after the entries before it, and after
the fallback of its own field. -/
inductive CallsEntry (extract : Extractor) (path : Path) (value : Value) (memory : Memory) :
    List (Field Node) → Visit → Prop where
  | intro {front back : List (Field Node)} {key outputKey : String} {presence : Presence}
      {lower : Node} {results : List (Outcome (String × Value))} {between : Memory} {given : Value}
      (before : (front.mapM (extract.entry path value)).run memory = some (results, between))
      (asked : (presence.resolve value key).value.given? = some given) :
      CallsEntry extract path value memory (front ++ .read key outputKey presence lower :: back)
        ⟨lower, path.pushField key, given,
          between.record ((presence.resolve value key).notes.map .note)⟩

/-- The first run calls the second one, if nested schemas are extracted by `extract`. -/
inductive Calls (definitions : Definitions) (extract : Extractor) : Visit → Visit → Prop where
  | field {node : Node} {path : Path} {value : Value} {memory : Memory} {next : Visit}
      {fields : List (Field Schema)} (reads : node.schema.Reads value fields)
      (entry : CallsEntry extract path value memory (node.fields 0 fields) next) :
      Calls definitions extract ⟨node, path, value, memory⟩ next
  | item {node : Node} {path : Path} {memory between : Memory} {element : Schema}
      {front back : List Value} {given : Value} {results : List (Outcome Value)}
      (shape : node.schema = .array element)
      (before : (front.zipIdx.mapM fun (item, index) =>
        extract (node.child 0 element) (path.pushIndex index) item).run memory =
          some (results, between)) :
      Calls definitions extract ⟨node, path, .array (front ++ given :: back), memory⟩
        ⟨node.child 0 element, path.pushIndex front.length, given, between⟩
  | alternative {node lower : Node} {path : Path} {value : Value} {memory between : Memory}
      {alternatives : List Schema} {front back : List Node} {results : List (Outcome Value)}
      (shape : node.schema = .oneOf alternatives)
      (split : node.children 0 alternatives = front ++ lower :: back)
      (before : (front.mapM (extract · path value)).run memory = some (results, between))
      (failed : ∀ result ∈ results, ¬ result.Succeeds) :
      Calls definitions extract ⟨node, path, value, memory⟩ ⟨lower, path, value, between⟩
  | member {node : Node} {path : Path} {value : Value} {memory judged : Memory} {next : Visit}
      {keys : Validator} {values : Schema} {names : List String}
      (shape : node.schema = .setOf keys values)
      (accepted : (Extractor.keys keys path value.entries.keys).run memory =
        some (.ok names, judged))
      (entry : CallsEntry extract path value judged
        (names.map fun name => .read name name .strict (node.child 0 values)) next) :
      Calls definitions extract ⟨node, path, value, memory⟩ next
  | branch {node lower : Node} {path : Path} {value chosen : Value} {memory : Memory}
      {key : String} {branches : List (String × Schema)}
      (shape : node.schema = .choose key branches) (found : value.get? key = some chosen)
      (known : Schema.branch? (Extractor.branchName chosen) (node.branches 0 branches) =
        some lower) :
      Calls definitions extract ⟨node, path, value, memory⟩
        ⟨lower, path.pushField ("branch: " ++ Extractor.branchName chosen), value, memory⟩
  | thunk {node : Node} {path : Path} {value : Value} {memory : Memory} {thunk : Thunk}
      (isThunk : node.thunk? definitions = some thunk) :
      Calls definitions extract ⟨node, path, value, memory⟩
        ⟨(memory.force definitions thunk).1, path, value, (memory.force definitions thunk).2⟩
  | supplied {node : Node} {path : Path} {value : Value} {memory : Memory} {first : Schema}
      {later : List Schema} (shape : node.schema = .supplied first later) :
      Calls definitions extract ⟨node, path, value, memory⟩
        ⟨node.supply first later (memory.requests.count node.address), path, value,
          memory.request node.address⟩
  | recursive {node : Node} {path : Path} {value : Value} {memory : Memory} {label : String}
      {body : Schema} (shape : node.schema = .recursive label body) :
      Calls definitions extract ⟨node, path, value, memory⟩
        ⟨node.recursiveBody label body, path, value, memory⟩
  | handle {node target : Node} {path : Path} {value : Value} {memory : Memory} {label : String}
      (shape : node.schema = .self label) (found : node.scope.find? label = some target) :
      Calls definitions extract ⟨node, path, value, memory⟩ ⟨target, path, value, memory⟩
  | boxed {node : Node} {path : Path} {value : Value} {memory : Memory} {inner : Schema}
      (shape : node.schema = .boxed inner) :
      Calls definitions extract ⟨node, path, value, memory⟩
        ⟨node.child 0 inner, path, value, memory⟩

/-- A run of a leaf calls nothing. -/
theorem Calls.schema_ne_leaf {definitions : Definitions} {extract : Extractor}
    {visit next : Visit} (calls : Calls definitions extract visit next) (validator : Validator) :
    visit.node.schema ≠ .leaf validator := by
  intro isLeaf
  cases calls with
  | field reads =>
      rw [isLeaf] at reads
      contradiction
  | @thunk node _ _ _ _ isThunk =>
      rcases node with ⟨schema, address, scope⟩
      cases isLeaf
      contradiction
  | item shape | alternative shape | member shape | branch shape | supplied shape
  | recursive shape | handle shape | boxed shape =>
      rw [isLeaf] at shape
      contradiction

/-- A run that nests at most so deep leads to another one, which nests less deep. -/
inductive RunsInto (definitions : Definitions) : Nat → Visit → Visit → Prop where
  | here (depth : Nat) (visit : Visit) : RunsInto definitions (depth + 1) visit visit
  | further {depth : Nat} {visit next last : Visit}
      (calls : Calls definitions (extract definitions depth) visit next)
      (rest : RunsInto definitions depth next last) :
      RunsInto definitions (depth + 1) visit last

/-- The nested schema at a position is not selected in a run: there is a reason why it is not
called. -/
inductive Unselected (definitions : Definitions) : Visit → Nat → Prop where
  | laterAlternative {node : Node} {path : Path} {value result : Value} {memory after : Memory}
      {alternatives : List Schema} {position bound : Nat}
      (shape : node.schema = .oneOf alternatives) (given : alternatives.take position ≠ [])
      (succeeds : ((extract definitions bound).oneOf path value []
        (node.children 0 (alternatives.take position))).run memory = some (.ok result, after)) :
      Unselected definitions ⟨node, path, value, memory⟩ position
  | otherBranch {node : Node} {path : Path} {value : Value} {memory : Memory} {key : String}
      {branches : List (String × Schema)} {position : Nat}
      (shape : node.schema = .choose key branches)
      (differs : ∀ chosen, value.get? key = some chosen → ∀ branch,
        Schema.branch? (Extractor.branchName chosen) (node.branches 0 branches) = some branch →
          branch.address ≠ position :: node.address) :
      Unselected definitions ⟨node, path, value, memory⟩ position
  | missingField {node : Node} {path : Path} {value : Value} {memory : Memory}
      {fields : List (Field Schema)} {position : Nat} {key outputKey : String}
      {presence : Presence} {part : Schema}
      (shape : node.schema = .object fields ∨ node.schema = .closed fields)
      (written : fields[position]? = some (.read key outputKey presence part))
      (needless : presence = .strict ∨ presence.isOptional = true) (lacks : value.Lacks key) :
      Unselected definitions ⟨node, path, value, memory⟩ position
  | unsupported {node : Node} {path : Path} {value : Value} {memory : Memory}
      {fields : List (Field Schema)} {position : Nat} {key : String}
      (shape : node.schema = .closed fields) (given : key ∈ value.setKeys)
      (undeclared : key ∉ fields.filterMap Field.sourceKey?) :
      Unselected definitions ⟨node, path, value, memory⟩ position
  | rejectedKey {node : Node} {path : Path} {value : Value} {memory : Memory} {keys : Validator}
      {values : Schema} {position : Nat} {key message : String}
      (shape : node.schema = .setOf keys values) (found : key ∈ value.entries.keys)
      (rejected : (keys (.string key)).value = .error message) :
      Unselected definitions ⟨node, path, value, memory⟩ position
  | noKeys {node : Node} {path : Path} {value : Value} {memory : Memory} {keys : Validator}
      {values : Schema} {position : Nat} (shape : node.schema = .setOf keys values)
      (empty : value.entries = []) :
      Unselected definitions ⟨node, path, value, memory⟩ position
  | notArray {node : Node} {path : Path} {value : Value} {memory : Memory} {element : Schema}
      {position : Nat} (shape : node.schema = .array element) (other : value.asArray? = none) :
      Unselected definitions ⟨node, path, value, memory⟩ position
  | emptyArray {node : Node} {path : Path} {value : Value} {memory : Memory} {element : Schema}
      {position : Nat} (shape : node.schema = .array element) (empty : value.asArray? = some []) :
      Unselected definitions ⟨node, path, value, memory⟩ position

/-- A schema that may leave out what is nested in it. -/
def Schema.Selects : Schema → Prop
  | object _ | closed _ | array _ | oneOf _ | setOf .. | choose .. => True
  | _ => False

/-- Only schemas that may leave out what is nested in them do so. -/
theorem Unselected.selects {definitions : Definitions} {visit : Visit} {position : Nat}
    (unselected : Unselected definitions visit position) : visit.node.schema.Selects := by
  cases unselected with
  | missingField shape => rcases shape with shape | shape <;> (rw [shape]; trivial)
  | laterAlternative shape | otherBranch shape | unsupported shape | rejectedKey shape
  | noKeys shape | notArray shape | emptyArray shape =>
      rw [shape]
      trivial

/-! ## Larger bounds -/

namespace Extractor

variable {extract other : Extractor}

/-- The alternatives of one extractor are tried as those of another one that refines it. -/
theorem refines_oneOf (nested : ∀ node path value, Run.Refines (extract node path value)
    (other node path value)) (path : Path) (value : Value) (earlier : List Fault)
    (nodes : List Node) :
    Run.Refines (extract.oneOf path value earlier nodes)
      (other.oneOf path value earlier nodes) := by
  induction nodes generalizing earlier with
  | nil => exact .refl _
  | cons node nodes inductionHypothesis =>
      refine .bind (nested node path value) fun outcome => ?_
      cases outcome with
      | ok result => exact .refl _
      | error faults => exact inductionHypothesis _

private theorem refines_entry (nested : ∀ node path value, Run.Refines (extract node path value)
    (other node path value)) (path : Path) (value : Value) (field : Field Node) :
    Run.Refines (extract.entry path value field) (other.entry path value field) := by
  cases field with
  | state => exact .refl _
  | read key outputKey presence lower =>
      refine .bind (.bind (.refl _) fun resolution => ?_) fun _ => .refl _
      cases resolution with
      | missing | skipped => exact .refl _
      | plain given => exact nested _ _ _
      | optional given => exact .bind (nested _ _ _) fun _ => .refl _

private theorem refines_object (nested : ∀ node path value, Run.Refines (extract node path value)
    (other node path value)) (path : Path) (value : Value) (fields : List (Field Node)) :
    Run.Refines (extract.object path fields value) (other.object path fields value) :=
  .bind (.mapM fun field _ => refines_entry nested path value field) fun _ => .refl _

/-- One step of an extractor refines a step of another one, if this is so for what is nested. -/
theorem refines_step (definitions : Definitions) (nested : ∀ node path value,
    Run.Refines (extract node path value) (other node path value)) (node : Node) (path : Path)
    (value : Value) :
    Run.Refines (Extractor.step definitions extract node path value)
      (Extractor.step definitions other node path value) := by
  rcases node with ⟨written, address, scope⟩
  cases written with
  | leaf | function | released => exact .refl _
  | object fields => exact refines_object nested path value _
  | closed fields =>
      simp only [Extractor.step]
      split
      · exact refines_object nested path value _
      · exact .refl _
  | array element =>
      cases value with
      | array items =>
          exact .bind (.bind (.mapM fun _ _ => nested _ _ _) fun _ => .refl _) fun _ => .refl _
      | _ => exact .refl _
  | oneOf alternatives => exact refines_oneOf nested path value [] _
  | setOf keys values =>
      refine .bind (.refl _) fun verdict => ?_
      cases verdict with
      | error faults => exact .refl _
      | ok names => exact refines_object nested path value _
  | choose key branches =>
      simp only [Extractor.step, Extractor.choose]
      split
      · exact .refl _
      · split
        · exact nested _ _ _
        · exact .refl _
  | thunk | reference => exact .bind (.refl _) fun delegate => nested delegate path value
  | supplied => exact .bind (.refl _) fun count => nested _ path value
  | self label =>
      simp only [Extractor.step]
      split
      · exact nested _ path value
      · exact .refl _
  | recursive | boxed => exact nested _ path value

end Extractor

/-- A run that ends goes in the same way with a larger bound. -/
theorem extract_refines {definitions : Definitions} {depth larger : Nat}
    (isLarger : depth ≤ larger) (node : Node) (path : Path) (value : Value) :
    Run.Refines (extract definitions depth node path value)
      (extract definitions larger node path value) := by
  induction depth generalizing larger node path value with
  | zero =>
      intro _ _ ends
      contradiction
  | succ depth inductionHypothesis =>
      cases larger with
      | zero => omega
      | succ larger =>
          exact Extractor.refines_step definitions
            (inductionHypothesis (Nat.le_of_succ_le_succ isLarger)) node path value

/-! ## What is not selected is not called -/

namespace Presence

/-- A strict or an optional field that is missing gives nothing to the nested schema. -/
theorem given?_of_lacks {presence : Presence} {object : Value} {key : String}
    (needless : presence = .strict ∨ presence.isOptional = true) (lacks : object.Lacks key) :
    (presence.resolve object key).value.given? = none := by
  have missing := Value.get?_eq_none_iff.mpr lacks
  cases presence with
  | strict => rw [given?_strict, missing]
  | option => rw [given?_option, missing]
  | defaultedOption => simp [resolve, missing, Resolution.given?]
  | defaulted | merged => simp [isOptional] at needless

end Presence

/-- Where all of some alternatives have failed, trying them fails. -/
theorem Extractor.oneOf_of_failed {extract : Extractor} {path : Path} {value : Value}
    {earlier : List Fault} {nodes : List Node} {results : List (Outcome Value)}
    {memory between : Memory}
    (ran : (nodes.mapM (extract · path value)).run memory = some (results, between))
    (failed : ∀ result ∈ results, ¬ result.Succeeds) (given : earlier ≠ [] ∨ nodes ≠ []) :
    ∃ faults, (extract.oneOf path value earlier nodes).run memory =
      some (.error faults, between) := by
  induction nodes generalizing earlier results memory with
  | nil =>
      cases ran
      cases earlier with
      | nil => simp at given
      | cons fault rest => exact ⟨_, rfl⟩
  | cons node nodes inductionHypothesis =>
      rw [List.mapM_cons, StateT.run_bind] at ran
      obtain ⟨⟨first, middle⟩, firstEnds, ran⟩ := Option.bind_eq_some_iff.mp ran
      rw [StateT.run_bind] at ran
      obtain ⟨⟨rest, _⟩, restEnds, same⟩ := Option.bind_eq_some_iff.mp ran
      cases same
      cases first with
      | ok result => exact absurd (Outcome.succeeds_ok result) (failed _ (.head _))
      | error faults =>
          obtain ⟨all, ends⟩ := inductionHypothesis restEnds
            (fun result member => failed result (.tail _ member))
            (.inl (List.append_ne_nil_of_right_ne_nil earlier (List.cons_ne_nil _ _)))
          refine ⟨all, ?_⟩
          rw [Extractor.oneOf, StateT.run_bind, firstEnds]
          exact ends

namespace Unselected

variable {definitions : Definitions} {depth position : Nat} {node : Node} {path : Path}
  {value : Value} {memory : Memory} {next : Visit}

/-- A field that is not selected although the object is read is one that may be missing, and is. -/
private theorem lacks_of_reads {fields : List (Field Schema)}
    (unselected : Unselected definitions ⟨node, path, value, memory⟩ position)
    (reads : node.schema.Reads value fields) :
    ∃ key outputKey presence part, fields[position]? = some (.read key outputKey presence part) ∧
      (presence = .strict ∨ presence.isOptional = true) ∧ value.Lacks key := by
  rcases node with ⟨schema, address, scope⟩
  cases reads with
  | object =>
      cases unselected with
      | missingField shape written needless lacks =>
          rcases shape with shape | shape
          · cases shape
            exact ⟨_, _, _, _, written, needless, lacks⟩
          · contradiction
      | _ => contradiction
  | closed supported =>
      cases unselected with
      | missingField shape written needless lacks =>
          rcases shape with shape | shape
          · contradiction
          · cases shape
            exact ⟨_, _, _, _, written, needless, lacks⟩
      | unsupported shape given undeclared =>
          cases shape
          exact absurd (Semantics.unsupportedKeys_eq_nil_iff.mp supported _ given) undeclared
      | _ => contradiction

private theorem not_called_field {fields : List (Field Schema)}
    (unselected : Unselected definitions ⟨node, path, value, memory⟩ position)
    (reads : node.schema.Reads value fields) {extract : Extractor}
    (entry : CallsEntry extract path value memory (node.fields 0 fields) next) :
    next.node.address ≠ position :: node.address := by
  obtain ⟨key, outputKey, presence, part, written, needless, lacks⟩ :=
    unselected.lacks_of_reads reads
  generalize entriesAre : node.fields 0 fields = entries at entry
  cases entry with
  | @intro front back _ _ _ lower _ _ _ before asked =>
      intro same
      have found := node.getElem?_fields fields front.length
      rw [entriesAre, List.getElem?_append_right (Nat.le_refl _), Nat.sub_self,
        List.getElem?_cons_zero] at found
      obtain ⟨field, fieldAt, isField⟩ := Option.map_eq_some_iff.mp found.symm
      cases field with
      | state => contradiction
      | read =>
          cases isField
          cases same
          cases written.symm.trans fieldAt
          rw [Presence.given?_of_lacks needless lacks] at asked
          contradiction

private theorem succeeds_of_oneOf {alternatives : List Schema}
    (unselected : Unselected definitions ⟨node, path, value, memory⟩ position)
    (shape : node.schema = .oneOf alternatives) :
    alternatives.take position ≠ [] ∧ ∃ bound result after,
      ((extract definitions bound).oneOf path value []
        (node.children 0 (alternatives.take position))).run memory = some (.ok result, after) := by
  rcases node with ⟨schema, address, scope⟩
  cases shape
  cases unselected with
  | missingField shape => rcases shape with shape | shape <;> contradiction
  | laterAlternative shape given succeeds =>
      cases shape
      exact ⟨given, _, _, _, succeeds⟩
  | _ => contradiction

private theorem not_called_alternative {alternatives : List Schema} {front back : List Node}
    {lower : Node} {results : List (Outcome Value)} {between : Memory}
    (unselected : Unselected definitions ⟨node, path, value, memory⟩ position)
    (shape : node.schema = .oneOf alternatives)
    (split : node.children 0 alternatives = front ++ lower :: back)
    (before : (front.mapM (extract definitions depth · path value)).run memory =
      some (results, between)) (failed : ∀ result ∈ results, ¬ result.Succeeds) :
    lower.address ≠ position :: node.address := by
  intro same
  have found := node.getElem?_children alternatives front.length
  rw [split, List.getElem?_append_right (Nat.le_refl _), Nat.sub_self,
    List.getElem?_cons_zero] at found
  obtain ⟨written, _, rfl⟩ := Option.map_eq_some_iff.mp found.symm
  cases same
  obtain ⟨given, bound, result, after, succeeds⟩ := unselected.succeeds_of_oneOf shape
  rw [Node.children_take, split, List.take_left] at succeeds
  have notEmpty : front ≠ [] := by
    rintro rfl
    contradiction
  obtain ⟨faults, fails⟩ := Extractor.oneOf_of_failed before failed (.inr notEmpty)
  -- With a bound that is large enough for both, the alternatives would fail and succeed.
  have failsLater := Extractor.refines_oneOf
    (extract_refines (Nat.le_max_left depth bound)) path value [] front _ _ fails
  have succeedsLater := Extractor.refines_oneOf
    (extract_refines (Nat.le_max_right depth bound)) path value [] front _ _ succeeds
  simp [failsLater] at succeedsLater

private theorem names_eq_nil {keys : Validator} {values : Schema} {names : List String}
    {judged : Memory} (unselected : Unselected definitions ⟨node, path, value, memory⟩ position)
    (shape : node.schema = .setOf keys values)
    (accepted : (Extractor.keys keys path value.entries.keys).run memory =
      some (.ok names, judged)) : names = [] := by
  obtain ⟨texts, runs⟩ := Extractor.exists_run_keys keys path value.entries.keys
  rw [runs] at accepted
  have verdict : Semantics.keysVerdict keys path value.entries.keys = .ok names :=
    congrArg Prod.fst (Option.some.inj accepted)
  rcases node with ⟨schema, address, scope⟩
  cases shape
  cases unselected with
  | missingField shape => rcases shape with shape | shape <;> contradiction
  | rejectedKey shape found rejected =>
      cases shape
      have allAccepted := Semantics.succeeds_keysVerdict_iff.mp
        (verdict ▸ Outcome.succeeds_ok names)
      obtain ⟨result, isAccepted⟩ := allAccepted _ found
      rw [rejected] at isAccepted
      contradiction
  | noKeys shape empty =>
      rw [empty] at verdict
      exact (Except.ok.inj verdict).symm
  | _ => contradiction

private theorem false_of_item {element : Schema} {front back : List Value} {given : Value}
    (shape : node.schema = .array element)
    (unselected : Unselected definitions ⟨node, path, .array (front ++ given :: back), memory⟩
      position) : False := by
  rcases node with ⟨schema, address, scope⟩
  cases shape
  cases unselected with
  | missingField shape => rcases shape with shape | shape <;> contradiction
  | notArray _ other => contradiction
  | emptyArray _ empty => simp [Value.asArray?] at empty
  | _ => contradiction

/-- What is not selected in a run is not called by it. -/
theorem not_called {visit : Visit} (unselected : Unselected definitions visit position)
    (calls : Calls definitions (extract definitions depth) visit next) :
    next.node.address ≠ position :: visit.node.address := by
  cases calls with
  | field reads entry => exact unselected.not_called_field reads entry
  | item shape before => exact (unselected.false_of_item shape).elim
  | alternative shape split before failed =>
      exact unselected.not_called_alternative shape split before failed
  | member shape accepted entry =>
      rw [unselected.names_eq_nil shape accepted] at entry
      generalize entriesAre : ([] : List String).map _ = entries at entry
      cases entry with
      | intro => simp at entriesAre
  | @branch node _ _ _ _ _ _ _ shape found known =>
      rcases node with ⟨schema, address, scope⟩
      cases shape
      cases unselected with
      | missingField shape => rcases shape with shape | shape <;> contradiction
      | otherBranch shape differs =>
          cases shape
          exact differs _ found _ known
      | _ => contradiction
  | @thunk node =>
      have selects := unselected.selects
      rcases node with ⟨schema, address, scope⟩
      cases schema <;> contradiction
  | supplied shape | recursive shape | handle shape | boxed shape =>
      have selects := unselected.selects
      rw [shape] at selects
      contradiction

end Unselected

end Extraction
