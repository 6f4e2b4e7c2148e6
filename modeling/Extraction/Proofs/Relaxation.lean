import Mathlib.Logic.Relation
import Extraction.Proofs.Visits
import Extraction.Proofs.Wrapping
import Extraction.Schema.Fields

/-!
# Relaxing schemas

A schema can be relaxed at any place inside it or inside its definitions: alternatives and branches
are added, fields no longer have to be there, closed objects are opened or given another optional
field.  What a schema accepts, it still accepts then, although it may be extracted in another way.
-/

namespace Extraction

/-- A policy for fields that need not be there, under which a field that is there is given to the
nested schema as it is. -/
inductive Presence.Relaxed : Presence → Prop where
  | option : Relaxed .option
  | defaulted (fallback : Fallback) : Relaxed (.defaulted fallback)

/-- One schema becomes another one by a single edit that lets it accept more. -/
inductive Schema.Relaxes : Schema → Schema → Prop where
  | appended {alternatives : List Schema} (given : alternatives ≠ []) (further : List Schema) :
      Relaxes (.oneOf alternatives) (.oneOf (alternatives ++ further))
  | field (front back : List (Field Schema)) (key outputKey : String) (part : Schema)
      {presence : Presence} (relaxed : presence.Relaxed) :
      Relaxes (.object (front ++ .read key outputKey .strict part :: back))
        (.object (front ++ .read key outputKey presence part :: back))
  | closedField (front back : List (Field Schema)) (key outputKey : String) (part : Schema)
      {presence : Presence} (relaxed : presence.Relaxed) :
      Relaxes (.closed (front ++ .read key outputKey .strict part :: back))
        (.closed (front ++ .read key outputKey presence part :: back))
  | opened (fields : List (Field Schema)) : Relaxes (.closed fields) (.object fields)
  | addedField {front back : List (Field Schema)} {key : String}
      (undeclared : key ∉ (front ++ back).filterMap Field.sourceKey?) (outputKey : String)
      (part : Schema) :
      Relaxes (.closed (front ++ back))
        (.closed (front ++ .read key outputKey .option part :: back))
  | addedBranch {key name : String} {front back : List (String × Schema)}
      (fresh : name ∉ (front ++ back).map Prod.fst) (branch : Schema) :
      Relaxes (.choose key (front ++ back)) (.choose key (front ++ (name, branch) :: back))

/-- A schema with its definitions becomes another one by a single edit that lets it accept more,
made at a place inside, or by another definition. -/
inductive Schema.RelaxesInside : Definitions × Schema → Definitions × Schema → Prop where
  | edited {inner relaxed : Schema} (relaxes : inner.Relaxes relaxed) (hole : String)
      (definitions : Definitions) (context : Schema) :
      RelaxesInside (definitions.fill hole inner, Schema.fill hole inner context)
        (definitions.fill hole relaxed, Schema.fill hole relaxed context)
  | defined {definitions : Definitions} {name : String}
      (fresh : name ∉ definitions.map Prod.fst) (body schema : Schema) :
      RelaxesInside (definitions, schema) ((name, body) :: definitions, schema)

/-! ## Values that are admitted -/

namespace Semantics

/-- Successes of what is admitted; failures are not asked about. -/
abbrev Admitting (admits : Closure → Path → Value → Prop) : Judgement :=
  fun closure path value outcome => outcome.Succeeds → admits closure path value

end Semantics

/-- The rules give a success in at most so many steps below each other, where whatever need not
succeed may fail in any way. -/
def AdmitsWithin (definitions : Definitions) : Nat → Closure → Path → Value → Prop
  | 0 => fun _ _ _ => False
  | depth + 1 => fun closure path value => ∃ outcome : Outcome Value, outcome.Succeeds ∧
      Semantics.Rule definitions (Semantics.Admitting (AdmitsWithin definitions depth)) closure
        path value outcome

/-- What extraction succeeds on is admitted. -/
theorem YieldsWithin.admitsWithin {definitions : Definitions} {depth : Nat} {closure : Closure}
    {path : Path} {value : Value} {outcome : Outcome Value}
    (yields : YieldsWithin definitions depth closure path value outcome)
    (succeeds : outcome.Succeeds) : AdmitsWithin definitions depth closure path value := by
  induction depth generalizing closure path value outcome with
  | zero => exact yields.elim
  | succ depth inductionHypothesis =>
      have rule := Semantics.Rule.imp yields fun _ nested => inductionHypothesis nested
      exact ⟨outcome, succeeds, rule⟩

namespace Semantics

theorem succeeds_gather {results : List (Outcome (String × Value))} :
    (gather results).Succeeds ↔ ∀ result ∈ results, result.Succeeds := by
  rw [gather, Outcome.succeeds_map, Outcome.succeeds_consolidate]

/-! ## One edit -/

section

variable {definitions : Definitions} {admits : Closure → Path → Value → Prop} {path : Path}
  {value : Value} {bindings : Bindings}

private theorem relaxed_entry {presence : Presence} (relaxed : presence.Relaxed)
    {key outputKey : String} {closure : Closure} {result : Outcome (String × Value)}
    (rule : EntryRule (Admitting admits) path value (.read key outputKey .strict closure) result)
    (succeeds : result.Succeeds) :
    ∃ other, EntryRule (Admitting admits) path value (.read key outputKey presence closure) other ∧
      other.Succeeds := by
  cases rule with
  | missing => exact absurd succeeds (Outcome.not_succeeds_fail _)
  | skipped resolved => cases (Presence.resolve_cases resolved).1
  | optional resolved => cases Presence.resolve_cases resolved
  | plain resolved nested =>
      have found := (Presence.given?_strict value key).symm
      rw [resolved, Resolution.given?] at found
      rw [Outcome.succeeds_map] at succeeds
      cases relaxed with
      | option =>
          exact ⟨_, .optional (by simp [Presence.resolve, found]) nested, by simpa⟩
      | defaulted fallback =>
          exact ⟨_, .plain (by simp [Presence.resolve, found]) nested, by simpa⟩

private theorem relaxed_entries {presence : Presence} (relaxed : presence.Relaxed)
    {front back : List (Field Schema)} {key outputKey : String} {part : Schema}
    {results : List (Outcome (String × Value))}
    (entries : List.Forall₂ (EntryRule (Admitting admits) path value)
      ((front ++ .read key outputKey .strict part :: back).map
        (Field.map (Closure.mk · bindings))) results)
    (succeeds : (gather results).Succeeds) :
    ∃ others, (gather others).Succeeds ∧
      List.Forall₂ (EntryRule (Admitting admits) path value)
        ((front ++ .read key outputKey presence part :: back).map
          (Field.map (Closure.mk · bindings))) others := by
  rw [List.map_append, List.map_cons] at entries
  obtain ⟨before, result, later, rfl, inFront, here, inBack⟩ :=
    exists_of_forall₂_append_cons entries
  rw [succeeds_gather, List.forall_mem_append, List.forall_mem_cons] at succeeds
  obtain ⟨frontSucceeds, hereSucceeds, backSucceeds⟩ := succeeds
  obtain ⟨other, otherRule, otherSucceeds⟩ := relaxed_entry relaxed here hereSucceeds
  refine ⟨before ++ other :: later, ?_, ?_⟩
  · rw [succeeds_gather, List.forall_mem_append, List.forall_mem_cons]
    exact ⟨frontSucceeds, otherSucceeds, backSucceeds⟩
  · rw [List.map_append, List.map_cons]
    exact forall₂_append_cons inFront otherRule inBack

private theorem lacks_of_undeclared {fields : List (Field Schema)} {key : String}
    (supported : Extractor.unsupportedKeys (Schema.permittedKeys fields) value = [])
    (undeclared : key ∉ fields.filterMap Field.sourceKey?) : value.get? key = none := by
  rw [unsupportedKeys_eq_nil_iff] at supported
  rw [Option.eq_none_iff_forall_ne_some]
  intro given found
  obtain ⟨isHeld, isSet⟩ := Value.get?_eq_some_iff.mp found
  apply undeclared (supported key ?_)
  refine List.mem_map.mpr
    ⟨(key, given), List.mem_filter.mpr ⟨Entries.mem_of_find? isHeld, ?_⟩, rfl⟩
  cases given with
  | null => contradiction
  | _ => rfl

private theorem added_entries {front back : List (Field Schema)} {key outputKey : String}
    {part : Schema} {results : List (Outcome (String × Value))} (lacks : value.get? key = none)
    (entries : List.Forall₂ (EntryRule (Admitting admits) path value)
      ((front ++ back).map (Field.map (Closure.mk · bindings))) results)
    (succeeds : (gather results).Succeeds) :
    ∃ others, (gather others).Succeeds ∧
      List.Forall₂ (EntryRule (Admitting admits) path value)
        ((front ++ .read key outputKey .option part :: back).map
          (Field.map (Closure.mk · bindings))) others := by
  rw [List.map_append] at entries
  obtain ⟨before, later, rfl, inFront, inBack⟩ := exists_of_forall₂_append entries
  have skipped : EntryRule (Admitting admits) path value
      (.read key outputKey .option ⟨part, bindings⟩) (.ok (outputKey, .absent)) :=
    .skipped (by simp [Presence.resolve, lacks])
  refine ⟨before ++ .ok (outputKey, .absent) :: later, ?_, ?_⟩
  · rw [succeeds_gather, List.forall_mem_append] at succeeds
    rw [succeeds_gather, List.forall_mem_append, List.forall_mem_cons]
    exact ⟨succeeds.1, Outcome.succeeds_ok _, succeeds.2⟩
  · rw [List.map_append, List.map_cons]
    exact forall₂_append_cons inFront skipped inBack

private theorem supported_addedField {front back : List (Field Schema)} {key outputKey : String}
    {part : Schema}
    (supported : Extractor.unsupportedKeys (Schema.permittedKeys (front ++ back)) value = []) :
    Extractor.unsupportedKeys
      (Schema.permittedKeys (front ++ .read key outputKey .option part :: back)) value = [] := by
  rw [unsupportedKeys_eq_nil_iff] at supported ⊢
  intro other isHeld
  have isRead := supported other isHeld
  rw [List.filterMap_append, List.mem_append] at isRead ⊢
  exact isRead.imp_right fun inBack => List.mem_cons_of_mem key inBack

private theorem alternatives_append {yields : Closure → Outcome Value → Prop}
    {earlier : List Fault} {closures : List Closure} {outcome : Outcome Value}
    (tried : AlternativesRule yields earlier closures outcome) (succeeds : outcome.Succeeds)
    (given : closures ≠ [] ∨ earlier ≠ []) (further : List Closure) :
    AlternativesRule yields earlier (closures ++ further) outcome := by
  induction tried with
  | none => simp at given
  | exhausted => exact absurd succeeds (Outcome.not_succeeds_error _)
  | success first => exact .success first
  | @failure _ _ _ faults _ first _ inductionHypothesis =>
      exact .failure first (inductionHypothesis succeeds (.inr (by simp [Faults.toList])))

private theorem branch?_append_cons {name other : String} (different : other ≠ name)
    (front back : List (String × Schema)) (branch : Schema) :
    Schema.branch? name (front ++ (other, branch) :: back) =
      Schema.branch? name (front ++ back) := by
  induction front with
  | nil => simp [Schema.branch?, different]
  | cons entry front inductionHypothesis =>
      simp only [List.cons_append, Schema.branch?, inductionHypothesis]

/-- Where a schema succeeds, a schema that relaxes it succeeds as well. -/
theorem Rule.relaxed {inner relaxed : Schema} {outcome : Outcome Value}
    (relaxes : inner.Relaxes relaxed)
    (rule : Rule definitions (Admitting admits) ⟨inner, bindings⟩ path value outcome)
    (succeeds : outcome.Succeeds) :
    ∃ other, other.Succeeds ∧
      Rule definitions (Admitting admits) ⟨relaxed, bindings⟩ path value other := by
  cases relaxes with
  | appended given further =>
      cases rule with
      | oneOf tried =>
          refine ⟨outcome, succeeds, .oneOf ?_⟩
          rw [List.map_append]
          exact alternatives_append tried succeeds (.inl (by simpa using given)) _
      | delegate delegates => contradiction
  | field front back key outputKey part isRelaxed =>
      cases rule with
      | object entries =>
          obtain ⟨others, othersSucceed, others⟩ := relaxed_entries isRelaxed entries succeeds
          exact ⟨_, othersSucceed, .object others⟩
      | delegate delegates => contradiction
  | closedField front back key outputKey part isRelaxed =>
      cases rule with
      | closed supported entries =>
          obtain ⟨others, othersSucceed, others⟩ := relaxed_entries isRelaxed entries succeeds
          refine ⟨_, othersSucceed, .closed ?_ others⟩
          rw [unsupportedKeys_eq_nil_iff] at supported ⊢
          simpa [Field.sourceKey?] using supported
      | unsupported => exact absurd succeeds (Outcome.not_succeeds_fail _)
      | delegate delegates => contradiction
  | opened fields =>
      cases rule with
      | closed supported entries => exact ⟨_, succeeds, .object entries⟩
      | unsupported => exact absurd succeeds (Outcome.not_succeeds_fail _)
      | delegate delegates => contradiction
  | @addedField front back key undeclared outputKey part =>
      cases rule with
      | closed supported entries =>
          obtain ⟨others, othersSucceed, others⟩ :=
            added_entries (lacks_of_undeclared supported undeclared) entries succeeds
          exact ⟨_, othersSucceed, .closed (supported_addedField supported) others⟩
      | unsupported => exact absurd succeeds (Outcome.not_succeeds_fail _)
      | delegate delegates => contradiction
  | @addedBranch key name front back fresh branch =>
      cases rule with
      | missingKey | missingBranch => exact absurd succeeds (Outcome.not_succeeds_fail _)
      | choose found known nested =>
          refine ⟨outcome, succeeds, .choose found ?_ nested⟩
          rw [branch?_append_cons ?_ front back branch]
          · exact known
          · rintro rfl
            exact fresh (List.mem_map_of_mem (f := Prod.fst) (Schema.branch?_mem known))
      | delegate delegates => contradiction

end

/-! ## What is admitted succeeds -/

section

variable {definitions : Definitions} {admits : Closure → Path → Value → Prop} {yields : Judgement}
  {path : Path} {value : Value}

private theorem forall_succeeds_of_forall₂ {α β : Type} {admitting yielding : α → Outcome β → Prop}
    {items : List α} {admitted results : List (Outcome β)}
    (each : ∀ item ∈ items, ∀ first second, admitting item first → first.Succeeds →
      yielding item second → second.Succeeds)
    (admits : List.Forall₂ admitting items admitted)
    (succeed : ∀ outcome ∈ admitted, outcome.Succeeds)
    (yields : List.Forall₂ yielding items results) : ∀ outcome ∈ results, outcome.Succeeds := by
  induction admits generalizing results with
  | nil =>
      cases yields
      simp
  | cons first _ inductionHypothesis =>
      cases yields with
      | cons second rest =>
          rw [List.forall_mem_cons] at each succeed ⊢
          exact ⟨each.1 _ _ first succeed.1 second, inductionHypothesis each.2 succeed.2 rest⟩

private theorem succeeds_of_entry {field : Field Closure}
    {admitted result : Outcome (String × Value)}
    (nested : ∀ next, field.schema? = some next → ∀ path value outcome, admits next path value →
      yields next path value outcome → outcome.Succeeds)
    (first : EntryRule (Admitting admits) path value field admitted)
    (succeeds : admitted.Succeeds) (second : EntryRule yields path value field result) :
    result.Succeeds := by
  cases first with
  | missing => exact absurd succeeds (Outcome.not_succeeds_fail _)
  | skipped resolved =>
      cases second with
      | skipped => exact Outcome.succeeds_ok _
      | missing other | plain other | optional other => cases resolved.symm.trans other
  | plain resolved admitting =>
      cases second with
      | plain other holds =>
          cases resolved.symm.trans other
          rw [Outcome.succeeds_map] at succeeds ⊢
          exact nested _ rfl _ _ _ (admitting succeeds) holds
      | missing other | skipped other | optional other => cases resolved.symm.trans other
  | optional resolved admitting =>
      cases second with
      | optional other holds =>
          cases resolved.symm.trans other
          rw [Outcome.succeeds_map, Outcome.succeeds_map] at succeeds ⊢
          exact nested _ rfl _ _ _ (admitting succeeds) holds
      | missing other | skipped other | plain other => cases resolved.symm.trans other
  | state =>
      cases second
      exact Outcome.succeeds_ok _

private theorem exists_admitted_alternative {admits : Closure → Prop} {earlier : List Fault}
    {closures : List Closure} {outcome : Outcome Value}
    (tried : AlternativesRule (fun closure outcome => outcome.Succeeds → admits closure) earlier
      closures outcome) (succeeds : outcome.Succeeds) :
    closures = [] ∧ earlier = [] ∨ ∃ closure ∈ closures, admits closure := by
  induction tried with
  | none => exact .inl ⟨rfl, rfl⟩
  | exhausted => exact absurd succeeds (Outcome.not_succeeds_error _)
  | success first => exact .inr ⟨_, .head _, first succeeds⟩
  | failure _ _ inductionHypothesis =>
      rcases inductionHypothesis succeeds with ⟨_, none⟩ | ⟨closure, member, admitted⟩
      · simp [Faults.toList] at none
      · exact .inr ⟨closure, .tail _ member, admitted⟩

private theorem alternatives_fail {yields : Closure → Outcome Value → Prop} {earlier : List Fault}
    {closures : List Closure} {outcome : Outcome Value}
    (tried : AlternativesRule yields earlier closures outcome) (fails : ¬ outcome.Succeeds) :
    ∀ closure ∈ closures, ∃ faults, yields closure (.error faults) := by
  induction tried with
  | none | exhausted => simp
  | success => exact absurd (Outcome.succeeds_ok _) fails
  | failure first _ inductionHypothesis =>
      exact List.forall_mem_cons.mpr ⟨⟨_, first⟩, inductionHypothesis fails⟩

private theorem succeeds_of_entries {fields : List (Field Closure)}
    {admitted results : List (Outcome (String × Value))}
    (nested : ∀ next ∈ fields.filterMap Field.schema?, ∀ path value outcome,
      admits next path value → yields next path value outcome → outcome.Succeeds)
    (first : List.Forall₂ (EntryRule (Admitting admits) path value) fields admitted)
    (succeed : (gather admitted).Succeeds)
    (second : List.Forall₂ (EntryRule yields path value) fields results) :
    (gather results).Succeeds := by
  rw [succeeds_gather] at succeed ⊢
  refine forall_succeeds_of_forall₂ ?_ first succeed second
  exact fun field member _ _ => succeeds_of_entry fun next inside =>
    nested next (List.mem_filterMap.mpr ⟨field, member, inside⟩)

section

variable {bindings : Bindings}

private theorem succeeds_of_fields {fields : List (Field Schema)}
    {admitted results : List (Outcome (String × Value))}
    (nested : ∀ schema ∈ fields.filterMap Field.schema?, ∀ path value outcome,
      admits ⟨schema, bindings⟩ path value → yields ⟨schema, bindings⟩ path value outcome →
        outcome.Succeeds)
    (first : List.Forall₂ (EntryRule (Admitting admits) path value)
      (fields.map (Field.map (Closure.mk · bindings))) admitted)
    (succeed : (gather admitted).Succeeds)
    (second : List.Forall₂ (EntryRule yields path value)
      (fields.map (Field.map (Closure.mk · bindings))) results) : (gather results).Succeeds := by
  refine succeeds_of_entries ?_ first succeed second
  rw [Schema.filterMap_schema?_map]
  exact List.forall_mem_map.mpr nested

private theorem succeeds_of_elements {element : Schema} {items : List Value}
    {admitted results : List (Outcome Value)}
    (nested : ∀ path value outcome, admits ⟨element, bindings⟩ path value →
      yields ⟨element, bindings⟩ path value outcome → outcome.Succeeds)
    (first : List.Forall₂ (fun (item : Value × Nat) outcome =>
      Admitting admits ⟨element, bindings⟩ (path.pushIndex item.2) item.1 outcome)
      items.zipIdx admitted)
    (succeed : Outcome.Succeeds ((Outcome.consolidate admitted).map Value.array))
    (second : List.Forall₂ (fun (item : Value × Nat) outcome =>
      yields ⟨element, bindings⟩ (path.pushIndex item.2) item.1 outcome) items.zipIdx results) :
    Outcome.Succeeds ((Outcome.consolidate results).map Value.array) := by
  rw [Outcome.succeeds_map, Outcome.succeeds_consolidate] at succeed ⊢
  refine forall_succeeds_of_forall₂ ?_ first succeed second
  exact fun _ _ _ _ admitting succeeds holds => nested _ _ _ (admitting succeeds) holds

private theorem succeeds_of_alternatives {alternatives : List Schema}
    {admitted outcome : Outcome Value}
    (nested : ∀ schema ∈ alternatives, ∀ outcome, admits ⟨schema, bindings⟩ path value →
      yields ⟨schema, bindings⟩ path value outcome → outcome.Succeeds)
    (first : AlternativesRule
      (fun closure outcome => Admitting admits closure path value outcome) []
      (alternatives.map (Closure.mk · bindings)) admitted)
    (succeeds : admitted.Succeeds)
    (second : AlternativesRule (fun closure outcome => yields closure path value outcome) []
      (alternatives.map (Closure.mk · bindings)) outcome) : outcome.Succeeds := by
  by_contra fails
  rcases exists_admitted_alternative first succeeds with ⟨none, _⟩ | ⟨closure, member, admitted⟩
  · rw [none] at second
    cases second with
    | none => exact fails (Outcome.succeeds_ok _)
    | exhausted collected => contradiction
  · obtain ⟨faults, holds⟩ := alternatives_fail second fails closure member
    rcases List.mem_map.mp member with ⟨alternative, written, rfl⟩
    exact Outcome.not_succeeds_error faults (nested _ written _ admitted holds)

private theorem succeeds_of_names {names : List String} {values : Schema}
    {admitted results : List (Outcome (String × Value))}
    (nested : ∀ path value outcome, admits ⟨values, bindings⟩ path value →
      yields ⟨values, bindings⟩ path value outcome → outcome.Succeeds)
    (first : List.Forall₂ (EntryRule (Admitting admits) path value)
      (names.map fun name => .read name name .strict ⟨values, bindings⟩) admitted)
    (succeed : (gather admitted).Succeeds)
    (second : List.Forall₂ (EntryRule yields path value)
      (names.map fun name => .read name name .strict ⟨values, bindings⟩) results) :
    (gather results).Succeeds := by
  rw [← Field.map_members (Closure.mk · bindings)] at first second
  refine succeeds_of_fields ?_ first succeed second
  intro part member
  cases Schema.eq_of_mem_members member
  exact nested

private theorem succeeds_of_choose {key : String} {branches : List (String × Schema)}
    {chosen : Value} {branch : Schema} {outcome : Outcome Value}
    (nested : ∀ path outcome, admits ⟨branch, bindings⟩ path value →
      yields ⟨branch, bindings⟩ path value outcome → outcome.Succeeds)
    (found : value.get? key = some chosen)
    (known : Schema.branch? (Extractor.branchName chosen) branches = some branch)
    (admitted : admits ⟨branch, bindings⟩
      (path.pushField ("branch: " ++ Extractor.branchName chosen)) value)
    (second : Rule definitions yields ⟨.choose key branches, bindings⟩ path value outcome) :
    outcome.Succeeds := by
  cases second with
  | missingKey missing => cases found.symm.trans missing
  | missingBranch otherFound unknown =>
      cases found.symm.trans otherFound
      cases known.symm.trans unknown
  | choose otherFound otherKnown holds =>
      cases found.symm.trans otherFound
      cases known.symm.trans otherKnown
      exact nested _ _ admitted holds
  | delegate delegates => contradiction

end

/-- One step succeeds on what is admitted, if what it leads to does. -/
private theorem succeeds_of_rule {closure : Closure} {admitted outcome : Outcome Value}
    (steady : closure.schema.Steady)
    (nested : ∀ next, closure.Leads definitions next → ∀ path value outcome,
      admits next path value → yields next path value outcome → outcome.Succeeds)
    (first : Rule definitions (Admitting admits) closure path value admitted)
    (succeeds : admitted.Succeeds)
    (second : Rule definitions yields closure path value outcome) : outcome.Succeeds := by
  cases first with
  | leaf =>
      cases second with
      | leaf => exact succeeds
      | delegate delegates => contradiction
  | object admittedEntries =>
      cases second with
      | object entries =>
          exact succeeds_of_fields (fun _ member => nested _ (.nested member)) admittedEntries
            succeeds entries
      | delegate delegates => contradiction
  | closed supported admittedEntries =>
      cases second with
      | closed _ entries =>
          exact succeeds_of_fields (fun _ member => nested _ (.nested member)) admittedEntries
            succeeds entries
      | unsupported found => contradiction
      | delegate delegates => contradiction
  | array admittedElements =>
      cases second with
      | array elements =>
          exact succeeds_of_elements (nested _ (.nested (.head _))) admittedElements succeeds
            elements
      | notArray other => contradiction
      | delegate delegates => contradiction
  | oneOf admittedTried =>
      cases second with
      | oneOf tried =>
          exact succeeds_of_alternatives (fun _ written => nested _ (.nested written) _ _)
            admittedTried succeeds tried
      | delegate delegates => contradiction
  | setOf accepted admittedEntries =>
      cases second with
      | rejectedKeys rejected => cases accepted.symm.trans rejected
      | setOf otherAccepted entries =>
          cases accepted.symm.trans otherAccepted
          exact succeeds_of_names (nested _ (.nested (.head _))) admittedEntries succeeds entries
      | delegate delegates => contradiction
  | choose found known admitting =>
      have leads := Schema.branch?_mem known
      exact succeeds_of_choose
        (fun _ => nested _ (.nested (List.mem_map_of_mem leads)) _ _) found known
        (admitting succeeds) second
  | function =>
      cases second with
      | function => exact Outcome.succeeds_ok _
      | notFunction other => contradiction
      | delegate delegates => contradiction
  | supplied member admitting =>
      cases second with
      | supplied otherMember holds =>
          rw [steady.eq_first member] at admitting
          rw [steady.eq_first otherMember] at holds
          exact nested _ (.nested (.head _)) _ _ _ (admitting succeeds) holds
      | delegate delegates => contradiction
  | delegate delegates admitting =>
      exact nested _ (.delegate delegates) _ _ _ (admitting succeeds)
        (second.of_delegate delegates)
  | rejectedKeys => exact absurd succeeds (Outcome.not_succeeds_error _)
  | _ => exact absurd succeeds (Outcome.not_succeeds_fail _)

end

end Semantics

namespace AdmitsWithin

variable {definitions : Definitions} {depth : Nat} {closure : Closure} {path : Path}
  {value : Value}

/-- Extraction succeeds on what is admitted, if it ends and no supplied schema changes. -/
theorem succeeds (admits : AdmitsWithin definitions depth closure path value)
    (steady : closure.Throughout Schema.Steady)
    (definitionsSteady : definitions.Throughout Schema.Steady) {bound : Nat}
    {outcome : Outcome Value}
    (yields : YieldsWithin definitions bound closure path value outcome) : outcome.Succeeds := by
  induction depth generalizing closure path value bound outcome with
  | zero => exact admits.elim
  | succ depth inductionHypothesis =>
      cases bound with
      | zero => exact yields.elim
      | succ bound =>
          obtain ⟨admitted, admittedSucceeds, rule⟩ := admits
          refine Semantics.succeeds_of_rule steady.schema.here ?_ rule admittedSucceeds yields
          intro next leads path value outcome nextAdmits nextYields
          have nextSteady := steady.leads (fun _ => trivial) definitionsSteady leads
          exact inductionHypothesis nextAdmits nextSteady nextYields

/-- What is admitted where holes are filled is admitted where they are filled with a relaxed
schema. -/
theorem fill {hole : String} {inner relaxed : Schema} (relaxes : inner.Relaxes relaxed)
    {left right : Closure} (filled : Closure.Filled hole inner relaxed left right)
    (admits : AdmitsWithin (definitions.fill hole inner) depth left path value) :
    AdmitsWithin (definitions.fill hole relaxed) depth right path value := by
  induction depth generalizing left right path value with
  | zero => exact admits.elim
  | succ depth inductionHypothesis =>
      obtain ⟨outcome, succeeds, rule⟩ := admits
      have carries (left right : Closure) (filled : Closure.Filled hole inner relaxed left right)
          (path : Path) (value : Value) (outcome : Outcome Value)
          (admitting : Semantics.Admitting (AdmitsWithin (definitions.fill hole inner) depth)
            left path value outcome) :
          Semantics.Admitting (AdmitsWithin (definitions.fill hole relaxed) depth) right path
            value outcome :=
        fun succeeds => inductionHypothesis filled (admitting succeeds)
      rcases Closure.Filled.corresponds_or_hole filled with corresponds | ⟨rfl, rfl⟩
      · exact ⟨outcome, succeeds, rule.carry carries corresponds⟩
      · have unedited := rule.carry carries
          (Closure.Filled.corresponds_same left.schema filled.bindings)
        exact unedited.relaxed relaxes succeeds

private theorem not_released {label : String} {bindings : Bindings} :
    ¬ AdmitsWithin definitions depth ⟨.released label, bindings⟩ path value := by
  intro admits
  cases depth with
  | zero => exact admits
  | succ depth =>
      obtain ⟨_, succeeds, rule⟩ := admits
      cases rule with
      | released => exact absurd succeeds (Outcome.not_succeeds_fail _)
      | delegate delegates => contradiction

/-- What is admitted is admitted with a further definition: a reference to a name that is not
defined admits nothing. -/
theorem define {name : String} (fresh : name ∉ definitions.map Prod.fst) (body : Schema)
    (admits : AdmitsWithin definitions depth closure path value) :
    AdmitsWithin ((name, body) :: definitions) depth closure path value := by
  induction depth generalizing closure path value with
  | zero => exact admits.elim
  | succ depth inductionHypothesis =>
      obtain ⟨outcome, succeeds, rule⟩ := admits
      by_cases isName : ∃ label, closure.schema = .reference label name
      · rcases closure with ⟨schema, bindings⟩
        obtain ⟨label, rfl⟩ := isName
        have undefined : definitions.find name = .released name := by
          rw [Definitions.find, List.lookup_eq_none_iff.mpr ?_, Option.getD_none]
          rintro ⟨other, defined⟩ member
          rw [bne_iff_ne]
          rintro rfl
          exact fresh (List.mem_map_of_mem (f := Prod.fst) member)
        have admits := rule.of_delegate rfl succeeds
        rw [undefined] at admits
        exact absurd admits not_released
      · have same : closure.delegate? ((name, body) :: definitions) =
            closure.delegate? definitions := by
          rcases closure with ⟨schema, bindings⟩
          cases schema with
          | reference label other =>
              have different : other ≠ name := fun same => isName ⟨label, same ▸ rfl⟩
              simp [Closure.delegate?, Definitions.find, List.lookup_cons,
                beq_false_of_ne different]
          | _ => rfl
        have corresponds : closure.Corresponds definitions ((name, body) :: definitions) Eq
            closure := by
          have alike : Schema.Alike (fun schema other =>
              (⟨schema, closure.bindings⟩ : Closure) = ⟨other, closure.bindings⟩) closure.schema
              closure.schema := Schema.alike_self _ fun _ _ => rfl
          cases delegates : closure.delegate? definitions with
          | none => exact .alike delegates (same.trans delegates) alike
          | some delegate => exact .delegate delegates (same.trans delegates) rfl
        refine ⟨outcome, succeeds, rule.carry ?_ corresponds⟩
        rintro next _ rfl _ _ _ admitting succeeds
        exact inductionHypothesis (admitting succeeds)

/-- What a schema admits, it admits after any edits that relax it. -/
theorem relaxed {before after : Definitions × Schema}
    (edits : Relation.ReflTransGen Schema.RelaxesInside before after)
    (admits : AdmitsWithin before.1 depth ⟨before.2, []⟩ path value) :
    AdmitsWithin after.1 depth ⟨after.2, []⟩ path value := by
  induction edits with
  | refl => exact admits
  | tail _ edit inductionHypothesis =>
      cases edit with
      | edited relaxes hole definitions context =>
          exact fill relaxes ⟨.fill context, .nil⟩ inductionHypothesis
      | defined fresh body schema => exact define fresh body inductionHypothesis

end AdmitsWithin

/-! ## Sessions -/

namespace Session

/-- Relaxing never rejects what was accepted: where a value was extracted before any number of
edits, the answer after them is a value. -/
theorem extract_relaxed {definitions others : Definitions} {schema relaxed : Schema}
    {session after other otherAfter : Session} {limit otherLimit : Nat} {path : Path}
    {value result : Value} {outcome : Outcome Value}
    (edits : Relation.ReflTransGen Schema.RelaxesInside (definitions, schema) (others, relaxed))
    (steady : relaxed.Throughout Schema.Steady) (othersSteady : others.Throughout Schema.Steady)
    (reachable : session.Reachable definitions schema)
    (otherReachable : other.Reachable others relaxed)
    (accepted : session.answer limit (.extract path value) =
      some (.outcome (.ok result), after))
    (answered : other.answer otherLimit (.extract path value) =
      some (.outcome outcome, otherAfter)) : outcome.Succeeds := by
  have admits : AdmitsWithin definitions limit ⟨schema, []⟩ path value :=
    (reachable.yieldsWithin accepted).admitsWithin (Outcome.succeeds_ok result)
  have throughout : Closure.Throughout Schema.Steady ⟨relaxed, []⟩ := ⟨steady, by simp⟩
  exact (AdmitsWithin.relaxed edits admits).succeeds throughout othersSteady
    (otherReachable.yieldsWithin answered)

/-- People have a name and may have a parent. -/
def person (presence : Presence) : List (Field Schema) :=
  [.read "name" "name" presence .string, .optionOf "parent" (.reference "person" "person")]

/-- The schema of persons, under any definition of them. -/
def anyone : Schema :=
  .reference "person" "person"

private theorem steady_person {presence : Presence} :
    Definitions.Throughout Schema.Steady [("person", .object (person presence))] := by
  refine List.forall_mem_singleton.mpr (Schema.throughout_iff.mpr ⟨trivial, ?_⟩)
  have name : Schema.string.Throughout Schema.Steady :=
    Schema.throughout_iff.mpr ⟨trivial, by simp [Schema.string, Schema.typed, Schema.nested]⟩
  have parent : anyone.Throughout Schema.Steady :=
    Schema.throughout_iff.mpr ⟨trivial, by simp [anyone, Schema.nested]⟩
  exact List.forall_mem_cons.mpr ⟨name, List.forall_mem_singleton.mpr parent⟩

/-- The definition of persons is relaxed: they need not have a name, and they may have more. -/
theorem relaxesInside_person :
    Relation.ReflTransGen Schema.RelaxesInside
      ([("person", .closed (person .strict))], anyone)
      ([("person", .object (person .option))], anyone) := by
  have named := Schema.RelaxesInside.edited
    (.closedField [] [.optionOf "parent" anyone] "name" "name" .string .option) "hole"
    [("person", .self "hole")] anyone
  have opened := Schema.RelaxesInside.edited (.opened (person .option)) "hole"
    [("person", .self "hole")] anyone
  exact .tail (.single named) opened

/-- A person with a parent is still accepted after both edits. -/
theorem extract_relaxed_person :
    ∃ outcome limit after,
      (Session.start [("person", .object (person .option))] anyone).answer limit
        (.extract .root (.object [("name", .string "a"), ("parent",
          .object [("name", .string "b")])])) = some (.outcome outcome, after) ∧
      outcome.Succeeds := by
  have accepted : (Session.start [("person", .closed (person .strict))] anyone).answer 9
      (.extract .root (.object [("name", .string "a"), ("parent",
        .object [("name", .string "b")])])) = some (.outcome (.ok _), _) := rfl
  have answered : (Session.start [("person", .object (person .option))] anyone).answer 9
      (.extract .root (.object [("name", .string "a"), ("parent",
        .object [("name", .string "b")])])) = some (.outcome _, _) := rfl
  have steady : anyone.Throughout Schema.Steady :=
    Schema.throughout_iff.mpr ⟨trivial, by simp [anyone, Schema.nested]⟩
  exact ⟨_, 9, _, answered, extract_relaxed relaxesInside_person steady steady_person
    ⟨[], .start⟩ ⟨[], .start⟩ accepted answered⟩

end Session

end Extraction
