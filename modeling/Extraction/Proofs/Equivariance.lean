import Extraction.Session

/-!
# Extraction further down

A run of extraction at a longer path is the run at the shorter one, step for step: it asks the same
of the host and leaves the same memory, and its faults are the same but for their paths, which
start with what was put in front.
-/

namespace Extraction

namespace Outcome

variable {α β : Type}

/-- An outcome as seen from further up: the paths of its faults are continued by `lead` in
front. -/
def under (lead : Path) (outcome : Outcome α) : Outcome α :=
  outcome.mapError (Faults.map (Fault.under lead))

variable (lead : Path)

@[simp]
theorem under_ok (value : α) : under lead (.ok value) = .ok value :=
  rfl

@[simp]
theorem under_error (faults : Faults) :
    under lead (.error faults : Outcome α) = .error (faults.map (Fault.under lead)) :=
  rfl

@[simp]
theorem under_fail (fault : Fault) :
    under lead (fail fault : Outcome α) = fail (fault.under lead) :=
  rfl

theorem under_map (change : α → β) (outcome : Outcome α) :
    under lead (outcome.map change) = (outcome.under lead).map change := by
  cases outcome <;> rfl

theorem lift_append (verdict : Except String α) (path : Path) :
    lift verdict (lead ++ path) = (lift verdict path).under lead := by
  cases verdict <;> rfl

@[simp]
theorem mapError_ok (change : Faults → Faults) (value : α) :
    Except.mapError change (.ok value : Outcome α) = .ok value :=
  rfl

@[simp]
theorem mapError_error (change : Faults → Faults) (faults : Faults) :
    Except.mapError change (.error faults : Outcome α) = .error (change faults) :=
  rfl

/-- Siblings may be consolidated before or after a change of their faults. -/
theorem consolidate_map_mapError (change : Fault → Fault) (outcomes : List (Outcome α)) :
    consolidate (outcomes.map (Except.mapError (Faults.map change))) =
      (consolidate outcomes).mapError (Faults.map change) := by
  induction outcomes with
  | nil => rfl
  | cons outcome outcomes inductionHypothesis =>
      rw [List.map_cons, consolidate_cons, consolidate_cons, inductionHypothesis]
      cases outcome <;> cases consolidate outcomes <;>
        simp [prepend, Faults.map, Faults.combine, Faults.toList]

theorem consolidate_map_under (outcomes : List (Outcome α)) :
    consolidate (outcomes.map (under lead)) = (consolidate outcomes).under lead :=
  consolidate_map_mapError (Fault.under lead) outcomes

end Outcome

theorem Faults.ofList?_map (change : Fault → Fault) (list : List Fault) :
    Faults.ofList? (list.map change) = (Faults.ofList? list).map (Faults.map change) := by
  cases list <;> rfl

private theorem mapM_append {α β γ : Type} {lead : Path} {first second : α → Run (Outcome β)}
    {finish : List (Outcome β) → Outcome γ} (items : List α)
    (each : ∀ item, first item = Outcome.under lead <$> second item)
    (finishes : ∀ results,
      finish (results.map (Outcome.under lead)) = (finish results).under lead) :
    (do return finish (← items.mapM first)) =
      Outcome.under lead <$> do return finish (← items.mapM second) := by
  have collected : items.mapM first = List.map (Outcome.under lead) <$> items.mapM second := by
    induction items with
    | nil => simp
    | cons item items inductionHypothesis =>
        simp [List.mapM_cons, each, inductionHypothesis]
  simp only [collected, bind_map_left, map_bind, map_pure, finishes]

namespace Extractor

/-- An extractor is equivariant if a longer path shows in the paths of faults only. -/
def Equivariant (lead : Path) (extract : Extractor) : Prop :=
  ∀ node path value,
    extract node (lead ++ path) value = Outcome.under lead <$> extract node path value

variable {lead : Path} {extract : Extractor}

private theorem keys_append (validator : Validator) (path : Path) (names : List String) :
    Extractor.keys validator (lead ++ path) names =
      Outcome.under lead <$> Extractor.keys validator path names := by
  refine mapM_append names.zipIdx (fun entry => ?_) (Outcome.consolidate_map_under lead)
  simp [Outcome.lift_append, Outcome.under_map]

section

variable (equivariant : extract.Equivariant lead)

include equivariant

private theorem field_append (presence : Presence) (path : Path) (object : Value) (key : String)
    (node : Node) :
    extract.field presence (lead ++ path) object key node =
      Outcome.under lead <$> extract.field presence path object key node := by
  simp only [Extractor.field, Path.append_pushField, map_bind]
  congr 1
  funext resolution
  cases resolution with
  | missing => rfl
  | skipped => rfl
  | plain value => exact equivariant node _ value
  | optional value => simp [equivariant node _ value, Outcome.under_map]

private theorem entry_append (path : Path) (object : Value) (field : Field Node) :
    extract.entry (lead ++ path) object field =
      Outcome.under lead <$> extract.entry path object field := by
  cases field with
  | read key outputKey presence node =>
      simp [Extractor.entry, field_append equivariant, Outcome.under_map]
  | state outputKey generator => simp [Extractor.entry]

private theorem object_append (path : Path) (fields : List (Field Node)) (value : Value) :
    extract.object (lead ++ path) fields value =
      Outcome.under lead <$> extract.object path fields value := by
  refine mapM_append fields (entry_append equivariant path value) fun results => ?_
  rw [Outcome.consolidate_map_under, Outcome.under_map]

private theorem items_append (path : Path) (element : Node) (values : List Value) :
    extract.items (lead ++ path) element values =
      Outcome.under lead <$> extract.items path element values := by
  refine mapM_append values.zipIdx (fun entry => ?_) (Outcome.consolidate_map_under lead)
  simp only [Path.append_pushIndex, equivariant element]

private theorem oneOf_append (path : Path) (value : Value) (earlier : List Fault)
    (nodes : List Node) :
    extract.oneOf (lead ++ path) value (earlier.map (Fault.under lead)) nodes =
      Outcome.under lead <$> extract.oneOf path value earlier nodes := by
  induction nodes generalizing earlier with
  | nil =>
      simp only [Extractor.oneOf, Faults.ofList?_map]
      cases Faults.ofList? earlier <;> rfl
  | cons node nodes inductionHypothesis =>
      simp only [Extractor.oneOf, equivariant node path value, bind_map_left, map_bind]
      congr 1
      funext outcome
      cases outcome with
      | ok result => rfl
      | error faults =>
          have collected : earlier.map (Fault.under lead) ++
              (faults.map (Fault.under lead)).toList =
                (earlier ++ faults.toList).map (Fault.under lead) := by
            simp
          simp only [Outcome.under_error, collected, inductionHypothesis]

private theorem setOf_append (validator : Validator) (path : Path) (values : Node)
    (value : Value) :
    extract.setOf validator (lead ++ path) values value =
      Outcome.under lead <$> extract.setOf validator path values value := by
  simp only [Extractor.setOf, keys_append, bind_map_left, map_bind]
  congr 1
  funext verdict
  cases verdict with
  | error faults => rfl
  | ok names => exact object_append equivariant path _ value

private theorem choose_append (path : Path) (key : String) (branches : List (String × Node))
    (value : Value) :
    extract.choose (lead ++ path) key branches value =
      Outcome.under lead <$> extract.choose path key branches value := by
  unfold Extractor.choose
  cases value.get? key with
  | none => rfl
  | some chosen =>
      cases found : Schema.branch? (branchName chosen) branches with
      | none => simp only [found]; rfl
      | some branch =>
          simp only [found, Path.append_pushField]
          exact equivariant branch _ value

private theorem thunk_append (definitions : Definitions) (thunk : Thunk) (path : Path)
    (value : Value) :
    extract.thunk definitions thunk (lead ++ path) value =
      Outcome.under lead <$> extract.thunk definitions thunk path value := by
  simp only [Extractor.thunk, equivariant _ path value, map_bind]

/-- One step of extraction is equivariant if extraction of what is nested is. -/
theorem Equivariant.step (definitions : Definitions) :
    (Extractor.step definitions extract).Equivariant lead := by
  intro node path value
  rcases node with ⟨written, address, scope⟩
  cases written with
  | leaf validator => simp [Extractor.step, Outcome.lift_append]
  | object fields => exact object_append equivariant path _ value
  | closed fields =>
      simp only [Extractor.step]
      split
      · exact object_append equivariant path _ value
      · rfl
  | array element =>
      cases value with
      | array items =>
          simp [Extractor.step, items_append equivariant, Outcome.under_map]
      | _ => rfl
  | oneOf alternatives => exact oneOf_append equivariant path value [] _
  | setOf validator values => exact setOf_append equivariant validator path _ value
  | choose key branches => exact choose_append equivariant path key _ value
  | function parameters retriever => cases value <;> rfl
  | thunk site label body => exact thunk_append equivariant definitions _ path value
  | reference label name => exact thunk_append equivariant definitions _ path value
  | supplied first later => simp only [Extractor.step, equivariant _ path value, map_bind]
  | recursive label body => exact equivariant _ path value
  | self label =>
      simp only [Extractor.step]
      cases scope.find? label with
      | none => rfl
      | some target => exact equivariant target path value
  | released label => rfl
  | boxed inner => exact equivariant _ path value

end

end Extractor

/-- Extraction is equivariant in the path, however deep its runs may nest. -/
theorem extract_equivariant (definitions : Definitions) (depth : Nat) (lead : Path) :
    (extract definitions depth).Equivariant lead := by
  induction depth with
  | zero =>
      intro node path value
      rfl
  | succ depth inductionHypothesis => exact inductionHypothesis.step definitions

/-- What a failure for good reports: its faults and the input. -/
def Failure.report (failure : Failure) : Faults × Value :=
  (failure.faults, failure.input)

namespace Session

private theorem run_extract_append (definitions : Definitions) (depth : Nat) (node : Node)
    (lead path : Path) (value : Value) (memory : Memory) :
    (Extraction.extract definitions depth node (lead ++ path) value).run memory =
      ((Extraction.extract definitions depth node path value).run memory).map
        fun (outcome, after) => (outcome.under lead, after) := by
  rw [extract_equivariant definitions depth lead node path value, StateT.run_map]
  rfl

private theorem extractAs_eq (session : Session) (label : String) (value : Value) :
    session.extractAs label value =
      (session.extract value).map fun (outcome, after) =>
        (outcome.under (.ofField label), after) := by
  have labelled := run_extract_append session.definitions nestingLimit session.root
    (.ofField label) .root value session.memory
  rw [Path.append_root] at labelled
  simp only [Session.extractAs, Session.extract, Session.extractAt, Session.run,
    Session.extractor, labelled, Option.map_map]
  rfl

private theorem extractOrFail_eq (session : Session) (label : String) (value : Value) :
    (session.extractOrFail label value).map (fun answer => answer.1.mapError Failure.report) =
      (session.extractAs label value).map fun answer =>
        answer.1.mapError fun faults => (faults, value) := by
  simp only [Session.extractOrFail, Session.extractAs, Session.extractAt, Session.run,
    StateT.run_bind]
  cases (session.extractor session.root (.ofField label) value).run session.memory with
  | none => rfl
  | some answer =>
      rcases answer with ⟨outcome, after⟩
      cases outcome <;> rfl

/-- A run of extraction at a longer path is the run at the shorter one, whatever is remembered:
only the paths of faults differ, by what was put in front. -/
theorem extract_append :
    (∀ (definitions : Definitions) (depth : Nat) (node : Node) (lead path : Path) (value : Value)
      (memory : Memory),
      (Extraction.extract definitions depth node (lead ++ path) value).run memory =
        ((Extraction.extract definitions depth node path value).run memory).map
          fun (outcome, after) => (outcome.under lead, after)) ∧
    (∀ (session : Session) (label : String) (value : Value),
      session.extractAs label value =
        (session.extract value).map fun (outcome, after) =>
          (outcome.under (.ofField label), after)) ∧
    ∀ (session : Session) (label : String) (value : Value),
      (session.extractOrFail label value).map (fun answer => answer.1.mapError Failure.report) =
        (session.extract value).map fun answer =>
          answer.1.mapError fun faults => (faults.map (Fault.under (.ofField label)), value) := by
  refine ⟨run_extract_append, extractAs_eq, fun session label value => ?_⟩
  rw [extractOrFail_eq, extractAs_eq, Option.map_map]
  congr 1
  funext answer
  rcases answer with ⟨outcome, after⟩
  cases outcome <;> rfl

end Session

end Extraction
