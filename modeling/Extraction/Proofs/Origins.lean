import Extraction.Proofs.Visits

/-!
# Where faults come from

Every fault of an extraction is raised by one schema on one value that the extraction visits, and
its path spells the way there.  What a schema may raise itself, on which values and why, is said by
one relation; the faults of a run are those and no others, however they are collected.
-/

namespace Extraction

/-- What a closure itself raises on a value, and where: a fault of its own, not one of the closures
that it visits. -/
inductive Raises : Closure → Value → Path → Cause → Prop where
  | rejected {validator : Validator} {bindings : Bindings} {value : Value} {message : String}
      (verdict : (validator value).value = .error message) :
      Raises ⟨.leaf validator, bindings⟩ value .root (.custom message)
  | missing {schema part : Schema} {bindings : Bindings} {value : Value}
      {fields : List (Field Schema)} {key outputKey : String} (reads : schema.Reads value fields)
      (written : .read key outputKey .strict part ∈ fields) (lacks : value.Lacks key) :
      Raises ⟨schema, bindings⟩ value (.ofField key) (.missingStrict key value)
  | unsupported {fields : List (Field Schema)} {bindings : Bindings} {value : Value} {key : String}
      (given : key ∈ value.setKeys) (undeclared : key ∉ fields.filterMap Field.sourceKey?) :
      Raises ⟨.closed fields, bindings⟩ value .root
        (.unsupportedFields (Extractor.unsupportedKeys (Schema.permittedKeys fields) value))
  | notArray {element : Schema} {bindings : Bindings} {value : Value}
      (other : value.asArray? = none) :
      Raises ⟨.array element, bindings⟩ value .root
        (.custom ("Expected array but got: " ++ value.typeName))
  | rejectedKey {keys : Validator} {values : Schema} {bindings : Bindings} {value : Value}
      {position : Nat} {key message : String} (found : value.entries.keys[position]? = some key)
      (verdict : (keys (.string key)).value = .error message) :
      Raises ⟨.setOf keys values, bindings⟩ value (Path.root.pushIndex position) (.custom message)
  | missingMember {keys : Validator} {values : Schema} {bindings : Bindings} {value : Value}
      {name : String} (named : keys.Names value name) (lacks : value.Lacks name) :
      Raises ⟨.setOf keys values, bindings⟩ value (.ofField name) (.missingStrict name value)
  | missingKey {key : String} {branches : List (String × Schema)} {bindings : Bindings}
      {value : Value} (lacks : value.Lacks key) :
      Raises ⟨.choose key branches, bindings⟩ value .root (.missingKey key)
  | missingBranch {key : String} {branches : List (String × Schema)} {bindings : Bindings}
      {value chosen : Value} (found : value.get? key = some chosen)
      (unknown : Schema.branch? (Extractor.branchName chosen) branches = none) :
      Raises ⟨.choose key branches, bindings⟩ value .root
        (.missingBranch (.array ((Schema.branchNames branches).map .string))
          (Extractor.branchName chosen))
  | notFunction {parameters : List String} {retriever : Nat} {bindings : Bindings} {value : Value}
      (other : value.asFunction? = none) :
      Raises ⟨.function parameters retriever, bindings⟩ value .root (.custom "Not a function")
  | unbound {label : String} {bindings : Bindings} {value : Value}
      (missing : Bindings.find? label bindings = none) :
      Raises ⟨.self label, bindings⟩ value .root
        (.custom ("Recursive schema \"" ++ label ++ "\" is no longer available"))
  | released {label : String} {bindings : Bindings} {value : Value} :
      Raises ⟨.released label, bindings⟩ value .root
        (.custom ("Recursive schema \"" ++ label ++ "\" is no longer available"))

/-- A fault of a closure on a value found at a path has an origin: a closure that the closure
reaches raises it, and its path continues the given one by the way there. -/
def HasOrigin (definitions : Definitions) (closure : Closure) (path : Path) (value : Value)
    (fault : Fault) : Prop :=
  ∃ walked last found raised, Reaches definitions closure value walked last found ∧
    Raises last found raised fault.cause ∧ fault.path = path ++ (walked ++ raised)

namespace HasOrigin

variable {definitions : Definitions} {closure next : Closure} {path step : Path}
  {value given : Value} {fault : Fault}

/-- What a closure raises itself has its origin there. -/
theorem here {raised : Path} (raises : Raises closure value raised fault.cause)
    (isAt : fault.path = path ++ raised) : HasOrigin definitions closure path value fault :=
  ⟨.root, closure, value, raised, .here closure value, raises, isAt⟩

/-- A failure at the place itself has its origin there. -/
theorem of_fail {cause : Cause} (raises : Raises closure value .root cause)
    (member : fault ∈ (Outcome.fail ⟨path, cause⟩ : Outcome Value).faults) :
    HasOrigin definitions closure path value fault := by
  cases List.mem_singleton.mp member
  exact .here raises (Path.append_root path).symm

/-- What has an origin in a closure that is visited has the same origin further up. -/
theorem further (visits : Visits definitions closure value step next given)
    (origin : HasOrigin definitions next (path ++ step) given fault) :
    HasOrigin definitions closure path value fault := by
  obtain ⟨walked, last, found, raised, reaches, raises, isAt⟩ := origin
  have isFurther : fault.path = path ++ ((step ++ walked) ++ raised) := by
    rw [isAt, Path.append_assoc, Path.append_assoc]
  exact ⟨step ++ walked, last, found, raised, .further visits reaches, raises, isFurther⟩

end HasOrigin

namespace Outcome

variable {α β : Type}

@[simp]
theorem faults_ok (value : α) : faults (.ok value) = [] :=
  rfl

@[simp]
theorem faults_error (faults : Faults) :
    Outcome.faults (.error faults : Outcome α) = faults.toList :=
  rfl

@[simp]
theorem faults_map (change : α → β) (outcome : Outcome α) :
    faults (outcome.map change) = outcome.faults := by
  cases outcome <;> rfl

/-- The faults of siblings together are the faults of each of them in order. -/
theorem faults_consolidate (outcomes : List (Outcome α)) :
    faults (consolidate outcomes) = outcomes.flatMap faults := by
  induction outcomes with
  | nil => rfl
  | cons outcome outcomes inductionHypothesis =>
      rw [List.flatMap_cons, ← inductionHypothesis, consolidate_cons]
      cases outcome <;> cases consolidate outcomes <;> simp [prepend]

end Outcome

namespace Semantics

variable {definitions : Definitions} {yields : Judgement} {path : Path}

/-- The faults of an object are those of its entries in order. -/
theorem faults_gather (results : List (Outcome (String × Value))) :
    (gather results).faults = results.flatMap Outcome.faults := by
  rw [gather, Outcome.faults_map, Outcome.faults_consolidate]

private theorem exists_of_mem_consolidate {α β : Type} {related : α → Outcome β → Prop}
    {items : List α} {outcomes : List (Outcome β)} {fault : Fault}
    (each : List.Forall₂ related items outcomes)
    (member : fault ∈ (Outcome.consolidate outcomes).faults) :
    ∃ item ∈ items, ∃ outcome, related item outcome ∧ fault ∈ outcome.faults := by
  rw [Outcome.faults_consolidate] at member
  rcases List.mem_flatMap.mp member with ⟨outcome, outcomeMem, inside⟩
  have flipped : List.Forall₂ (fun outcome item => related item outcome) outcomes items :=
    each.flip
  rcases exists_of_forall₂_of_mem flipped outcomeMem with ⟨item, itemMem, isRelated⟩
  exact ⟨item, itemMem, outcome, isRelated, inside⟩

private theorem exists_of_mem_alternatives {yields : Closure → Outcome Value → Prop}
    {earlier : List Fault} {closures : List Closure} {outcome : Outcome Value} {fault : Fault}
    (rule : AlternativesRule yields earlier closures outcome) (member : fault ∈ outcome.faults) :
    fault ∈ earlier ∨ ∃ closure ∈ closures, ∃ faults : Faults,
      yields closure (.error faults) ∧ fault ∈ faults.toList := by
  induction rule with
  | none | success => contradiction
  | exhausted collected =>
      rw [Faults.ofList?_eq_some_iff.mp collected]
      exact .inl member
  | failure first _ inductionHypothesis =>
      rcases inductionHypothesis member with before | ⟨closure, closureMem, faults, holds, inside⟩
      · rcases List.mem_append.mp before with earlier | here
        · exact .inl earlier
        · exact .inr ⟨_, .head _, _, first, here⟩
      · exact .inr ⟨closure, .tail _ closureMem, faults, holds, inside⟩

private theorem origin_of_rejectedKeys {keys : Validator} {values : Schema} {bindings : Bindings}
    {value : Value} {fault : Fault}
    (member : fault ∈ (keysVerdict keys path value.entries.keys).faults) :
    HasOrigin definitions ⟨.setOf keys values, bindings⟩ path value fault := by
  rw [keysVerdict, Outcome.faults_consolidate] at member
  rcases List.mem_flatMap.mp member with ⟨_, verdictMem, inside⟩
  rcases List.mem_map.mp verdictMem with ⟨⟨key, position⟩, entryMem, rfl⟩
  rw [List.mk_mem_zipIdx_iff_getElem?] at entryMem
  rw [keyVerdict, Outcome.faults_map] at inside
  cases verdict : (keys (.string key)).value with
  | ok result =>
      rw [verdict] at inside
      contradiction
  | error message =>
      rw [verdict] at inside
      cases List.mem_singleton.mp inside
      exact .here (.rejectedKey entryMem verdict) rfl

private theorem origin_of_entry {closure : Closure} {object : Value} {field : Field Closure}
    {result : Outcome (String × Value)} {fault : Fault}
    (rule : EntryRule yields path object field result) (member : fault ∈ result.faults)
    (missing : ∀ {key outputKey part}, field = .read key outputKey .strict part →
      object.Lacks key → Raises closure object (.ofField key) (.missingStrict key object))
    (nested : ∀ {key outputKey presence part given outcome},
      field = .read key outputKey presence part →
      (presence.resolve object key).value.given? = some given →
      yields part (path.pushField key) given outcome → fault ∈ outcome.faults →
        HasOrigin definitions closure path object fault) :
    HasOrigin definitions closure path object fault := by
  cases rule with
  | missing resolved =>
      obtain ⟨rfl, lacks⟩ := Presence.resolve_cases resolved
      cases List.mem_singleton.mp member
      exact .here (missing rfl lacks) rfl
  | skipped | state => contradiction
  | plain resolved holds =>
      rw [Outcome.faults_map] at member
      exact nested rfl (by rw [resolved]; rfl) holds member
  | optional resolved holds =>
      rw [Outcome.faults_map, Outcome.faults_map] at member
      exact nested rfl (by rw [resolved]; rfl) holds member

/-- The fault, wherever it is found in what the closure visits, has its origin in the closure. -/
private def OriginatesBelow (definitions : Definitions) (yields : Judgement) (closure : Closure)
    (path : Path) (value : Value) (fault : Fault) : Prop :=
  ∀ {step : Path} {next : Closure} {given : Value} {outcome : Outcome Value},
    Visits definitions closure value step next given → yields next (path ++ step) given outcome →
      fault ∈ outcome.faults → HasOrigin definitions closure path value fault

section

variable {bindings : Bindings} {value : Value} {fault : Fault}

private theorem origin_of_leaf {validator : Validator}
    (member : fault ∈ (Outcome.lift (validator value).value path).faults) :
    HasOrigin definitions ⟨.leaf validator, bindings⟩ path value fault := by
  cases verdict : (validator value).value with
  | ok result =>
      rw [verdict] at member
      contradiction
  | error message =>
      rw [verdict] at member
      exact .of_fail (.rejected verdict) member

private theorem origin_of_fields {schema : Schema} {fields : List (Field Schema)}
    {results : List (Outcome (String × Value))} (reads : schema.Reads value fields)
    (below : OriginatesBelow definitions yields ⟨schema, bindings⟩ path value fault)
    (entries : List.Forall₂ (EntryRule yields path value)
      (fields.map (Field.map (Closure.mk · bindings))) results)
    (member : fault ∈ (gather results).faults) :
    HasOrigin definitions ⟨schema, bindings⟩ path value fault := by
  rw [gather, Outcome.faults_map] at member
  obtain ⟨field, fieldMem, result, entry, inside⟩ := exists_of_mem_consolidate entries member
  rcases List.mem_map.mp fieldMem with ⟨written, writtenMem, rfl⟩
  cases written with
  | state => cases entry; contradiction
  | read key outputKey presence part =>
      apply origin_of_entry entry inside
      · rintro _ _ _ ⟨⟩ lacks
        exact .missing reads writtenMem lacks
      · rintro _ _ _ _ given outcome ⟨⟩ asked holds inside
        exact below (.field reads writtenMem asked) holds inside

private theorem origin_of_unsupported {fields : List (Field Schema)}
    (found : Extractor.unsupportedKeys (Schema.permittedKeys fields) value ≠ [])
    (member : fault ∈ (Outcome.fail ⟨path, .unsupportedFields
      (Extractor.unsupportedKeys (Schema.permittedKeys fields) value)⟩ : Outcome Value).faults) :
    HasOrigin definitions ⟨.closed fields, bindings⟩ path value fault := by
  rw [ne_eq, unsupportedKeys_eq_nil_iff, not_forall] at found
  obtain ⟨key, isUnsupported⟩ := found
  obtain ⟨given, undeclared⟩ := Classical.not_imp.mp isUnsupported
  exact .of_fail (.unsupported given undeclared) member

private theorem origin_of_elements {element : Schema} {items : List Value}
    {outcomes : List (Outcome Value)}
    (below : OriginatesBelow definitions yields ⟨.array element, bindings⟩ path (.array items)
      fault)
    (elements : List.Forall₂ (fun (item : Value × Nat) outcome =>
      yields ⟨element, bindings⟩ (path.pushIndex item.2) item.1 outcome) items.zipIdx outcomes)
    (member : fault ∈ Outcome.faults ((Outcome.consolidate outcomes).map Value.array)) :
    HasOrigin definitions ⟨.array element, bindings⟩ path (.array items) fault := by
  rw [Outcome.faults_map] at member
  obtain ⟨⟨item, position⟩, itemMem, outcome, holds, inside⟩ :=
    exists_of_mem_consolidate elements member
  rw [List.mk_mem_zipIdx_iff_getElem?] at itemMem
  exact below (.item itemMem) holds inside

private theorem origin_of_alternatives {alternatives : List Schema} {outcome : Outcome Value}
    (below : OriginatesBelow definitions yields ⟨.oneOf alternatives, bindings⟩ path value fault)
    (tried : AlternativesRule (fun closure outcome => yields closure path value outcome) []
      (alternatives.map (Closure.mk · bindings)) outcome)
    (member : fault ∈ outcome.faults) :
    HasOrigin definitions ⟨.oneOf alternatives, bindings⟩ path value fault := by
  rcases exists_of_mem_alternatives tried member with before | ⟨_, closureMem, _, holds, inside⟩
  · contradiction
  · rcases List.mem_map.mp closureMem with ⟨alternative, written, rfl⟩
    rw [← Path.append_root path] at holds
    exact below (.alternative written) holds inside

private theorem origin_of_members {keys : Validator} {values : Schema} {names : List String}
    {results : List (Outcome (String × Value))}
    (below : OriginatesBelow definitions yields ⟨.setOf keys values, bindings⟩ path value fault)
    (accepted : keysVerdict keys path value.entries.keys = .ok names)
    (entries : List.Forall₂ (EntryRule yields path value)
      (names.map fun name => .read name name .strict ⟨values, bindings⟩) results)
    (member : fault ∈ (gather results).faults) :
    HasOrigin definitions ⟨.setOf keys values, bindings⟩ path value fault := by
  rw [gather, Outcome.faults_map] at member
  obtain ⟨field, fieldMem, result, entry, inside⟩ := exists_of_mem_consolidate entries member
  rcases List.mem_map.mp fieldMem with ⟨name, nameMem, rfl⟩
  have named := names_of_keysVerdict accepted nameMem
  apply origin_of_entry entry inside
  · rintro _ _ _ ⟨⟩ lacks
    exact .missingMember named lacks
  · rintro _ _ _ _ given outcome ⟨⟩ asked holds inside
    rw [Presence.given?_strict] at asked
    exact below (.member named asked) holds inside

end

/-- The faults of one step have their origin in the closure, if those of what it visits have theirs
there. -/
private theorem origin_of_rule {closure : Closure} {value : Value} {outcome : Outcome Value}
    {fault : Fault} (rule : Rule definitions yields closure path value outcome)
    (member : fault ∈ outcome.faults)
    (nested : ∀ {step next given outcome}, Visits definitions closure value step next given →
      yields next (path ++ step) given outcome → fault ∈ outcome.faults →
        HasOrigin definitions next (path ++ step) given fault) :
    HasOrigin definitions closure path value fault := by
  have below : OriginatesBelow definitions yields closure path value fault :=
    fun visits holds member => .further visits (nested visits holds member)
  cases rule with
  | leaf => exact origin_of_leaf member
  | object entries => exact origin_of_fields .object below entries member
  | closed supported entries => exact origin_of_fields (.closed supported) below entries member
  | unsupported found => exact origin_of_unsupported found member
  | array elements => exact origin_of_elements below elements member
  | notArray other => exact .of_fail (.notArray other) member
  | oneOf tried => exact origin_of_alternatives below tried member
  | rejectedKeys rejected =>
      apply origin_of_rejectedKeys
      rw [rejected]
      exact member
  | setOf accepted entries => exact origin_of_members below accepted entries member
  | missingKey missing => exact .of_fail (.missingKey (Value.get?_eq_none_iff.mp missing)) member
  | missingBranch found unknown => exact .of_fail (.missingBranch found unknown) member
  | choose found known holds => exact below (.branch found known) holds member
  | function => contradiction
  | notFunction other => exact .of_fail (.notFunction other) member
  | unbound missing => exact .of_fail (.unbound missing) member
  | released => exact .of_fail .released member
  | supplied isOne holds =>
      rw [← Path.append_root path] at holds
      exact below (.supplied isOne) holds member
  | delegate delegates holds =>
      rw [← Path.append_root path] at holds
      exact below (.delegate delegates) holds member

end Semantics

/-- Every fault of an outcome that extraction means has an origin. -/
theorem YieldsWithin.hasOrigin {definitions : Definitions} {depth : Nat} {closure : Closure}
    {path : Path} {value : Value} {outcome : Outcome Value} {fault : Fault}
    (yields : YieldsWithin definitions depth closure path value outcome)
    (member : fault ∈ outcome.faults) : HasOrigin definitions closure path value fault := by
  induction depth generalizing closure path value outcome with
  | zero => exact yields.elim
  | succ depth inductionHypothesis =>
      exact Semantics.origin_of_rule yields member fun _ holds inside =>
        inductionHypothesis holds inside

namespace Session

/-- Every fault that a session reports for a value, whatever was asked before, is raised by a
schema on a value that the schema of the session leads to, and its path spells the way there. -/
theorem fault_hasOrigin {definitions : Definitions} {schema : Schema} {session after : Session}
    {limit : Nat} {path : Path} {value : Value} {faults : Faults}
    (reachable : session.Reachable definitions schema)
    (answered : session.answer limit (.extract path value) =
      some (.outcome (.error faults), after)) :
    ∀ fault ∈ faults.toList, HasOrigin definitions ⟨schema, []⟩ path value fault :=
  fun _ member => (reachable.yieldsWithin answered).hasOrigin member

/-- Two folders in a folder: one lacks what a key should hold, the other holds no array under its
key. -/
def brokenFolder : Value :=
  .object [("a", .array [.object [("b", .null)], .object [("c", .bool true)]])]

/-- Also in a session that has built thunks before, both faults of a broken folder are reported,
and each has its origin. -/
theorem fault_hasOrigin_folder :
    HasOrigin folderDefinitions ⟨folder, []⟩ (.ofField "root") brokenFolder
        ⟨⟨[.field "root", .field "a", .index 0, .field "b"]⟩,
          .missingStrict "b" (.object [("b", .null)])⟩ ∧
      HasOrigin folderDefinitions ⟨folder, []⟩ (.ofField "root") brokenFolder
        ⟨⟨[.field "root", .field "a", .index 1, .field "c"]⟩,
          .custom "Expected array but got: boolean"⟩ := by
  have earlier := History.step .start
    (show (Session.start folderDefinitions folder).answer 9
      (.extract .root (.object [("a", .array [.object []])])) = some (_, _) from rfl)
  have origins := fault_hasOrigin ⟨_, earlier⟩
    (show Session.answer _ 9 (.extract (.ofField "root") brokenFolder) =
      some (.outcome (.error ⟨_, [_]⟩), _) from rfl)
  exact ⟨origins _ (.head _), origins _ (.tail _ (.head _))⟩

end Session

end Extraction
