import Extraction.Proofs.Reordering
import Extraction.Proofs.Unread

/-!
# Closed and open objects

A closed object schema first looks for keys that hold something and that no field reads.  Where
there is one, it fails at once, asks nothing of the host and builds nothing.  Where there is none,
it is the open object schema with the same fields.  The open one, in turn, does not see such keys:
without them it gives the same, but for the object that is shown where a strict field is missing.
-/

namespace Extraction

section

variable {σ : Type} {fields : List (Field σ)} {value : Value}

/-- A key that holds something in a value and that no field reads. -/
def Value.Undeclared (fields : List (Field σ)) (value : Value) (key : String) : Prop :=
  value.get? key ≠ none ∧ ∀ field ∈ fields, field.sourceKey? ≠ some key

/-- An object without the entries under keys that no field reads; any other value as it is. -/
def Value.declared (fields : List (Field σ)) : Value → Value
  | .object entries =>
      .object (entries.filter fun entry =>
        fields.any fun field => field.sourceKey? == some entry.1)
  | other => other

/-- A fallback that gives the same value for every object. -/
def Fallback.IsConstant (fallback : Fallback) : Prop :=
  ∀ object other, (fallback object).value = (fallback other).value

/-- A policy whose fallback is constant, if it has one. -/
def Presence.IsConstant : Presence → Prop
  | strict | option => True
  | defaulted fallback | defaultedOption fallback | merged fallback => fallback.IsConstant

/-- A field whose fallback or generator is constant, if it has one. -/
def Field.IsConstant : Field σ → Prop
  | read _ _ presence _ => presence.IsConstant
  | state _ generator => generator.IsConstant

@[simp]
theorem Field.isConstant_map {τ : Type} (change : σ → τ) (field : Field σ) :
    (field.map change).IsConstant ↔ field.IsConstant := by
  cases field <;> rfl

/-- What is asked of the host about a constant field is answered alike for all objects. -/
theorem Field.IsConstant.sameAnswer {field : Field σ} (constant : field.IsConstant)
    {object : Value} {fallback : Fallback} (asks : field.Asks object fallback) (other : Value) :
    (fallback object).value = (fallback other).value := by
  cases asks with
  | state => exact constant object other
  | read asks => cases asks <;> exact constant object other

theorem Schema.mem_permittedKeys_iff {key : String} :
    key ∈ permittedKeys fields ↔ ∃ field ∈ fields, field.sourceKey? = some key := by
  rw [permittedKeys, List.mem_eraseDups, List.mem_filterMap]

namespace Extractor

/-- The keys that a closed object rejects are those that are undeclared. -/
theorem mem_unsupportedKeys_iff (distinct : value.entries.keys.Nodup) {key : String} :
    key ∈ unsupportedKeys (Schema.permittedKeys fields) value ↔ value.Undeclared fields key := by
  have isDeclared : (!(Schema.permittedKeys fields).contains key) = true ↔
      ∀ field ∈ fields, field.sourceKey? ≠ some key := by
    simp [Schema.mem_permittedKeys_iff]
  rw [unsupportedKeys, List.mem_filter, Value.mem_setKeys_iff distinct, isDeclared,
    Option.isSome_iff_ne_none, Value.Undeclared]

/-- They are in the order of the object. -/
theorem unsupportedKeys_sublist (permitted : List String) (value : Value) :
    (unsupportedKeys permitted value).Sublist value.entries.keys := by
  have setKeys : value.setKeys.Sublist value.entries.keys := List.filter_sublist.map Prod.fst
  exact List.filter_sublist.trans setKeys

end Extractor

namespace Entries

/-- Entries that are kept for their keys are found as before. -/
theorem find?_filter_of_key (keep : String → Bool) {key : String} (kept : keep key = true)
    (entries : Entries) :
    find? key (entries.filter fun entry => keep entry.1) = find? key entries := by
  induction entries with
  | nil => rfl
  | cons entry entries inductionHypothesis =>
      obtain ⟨other, held⟩ := entry
      by_cases same : other = key
      · simp [find?, same, kept]
      · by_cases keptOther : keep other = true
        · simp [find?, same, keptOther, inductionHypothesis]
        · simp [find?, same, keptOther, inductionHypothesis]

end Entries

namespace Value

/-- What fields read is the same with and without the entries that no field reads. -/
theorem get?_declared {field : Field σ} (member : field ∈ fields) {key : String}
    (isSource : field.sourceKey? = some key) :
    (value.declared fields).get? key = value.get? key := by
  have isRead : (fields.any fun field => field.sourceKey? == some key) = true :=
    List.any_eq_true.mpr ⟨field, member, by simp [isSource]⟩
  cases value with
  | object entries =>
      simp only [declared, get?, Value.entries]
      rw [Entries.find?_filter_of_key (fun key => fields.any (·.sourceKey? == some key)) isRead]
  | _ => rfl

/-- Nothing is left to reject once the entries are gone that no field reads. -/
theorem unsupportedKeys_declared (fields : List (Field σ)) (value : Value) :
    Extractor.unsupportedKeys (Schema.permittedKeys fields) (value.declared fields) = [] := by
  cases value with
  | object entries =>
      rw [Extractor.unsupportedKeys, List.filter_eq_nil_iff]
      intro key isSet
      obtain ⟨⟨_, held⟩, member, rfl⟩ := List.mem_map.mp isSet
      have isRead := (List.mem_filter.mp (List.mem_filter.mp member).1).2
      simpa [Schema.mem_permittedKeys_iff] using isRead
  | _ => rfl

end Value

end

section

variable {fields : List (Field Schema)} {address : Address} {scope : Scope} {value : Value}

private theorem extract_closed_of_supported (definitions : Definitions) (limit : Nat) (path : Path)
    (supported : Extractor.unsupportedKeys (Schema.permittedKeys fields) value = []) :
    extract definitions limit ⟨.closed fields, address, scope⟩ path value =
      extract definitions limit ⟨.object fields, address, scope⟩ path value := by
  cases limit with
  | zero => rfl
  | succ limit =>
      have sameFields : Node.fields ⟨.closed fields, address, scope⟩ 0 fields =
          Node.fields ⟨.object fields, address, scope⟩ 0 fields := by
        rw [Node.fields_eq_map, Node.fields_eq_map]
        rfl
      simp only [extract_succ, Extractor.step, supported, sameFields]

private theorem run_extract_closed (definitions : Definitions) (limit : Nat) (path : Path)
    (memory : Memory)
    (found : Extractor.unsupportedKeys (Schema.permittedKeys fields) value ≠ []) :
    (extract definitions (limit + 1) ⟨.closed fields, address, scope⟩ path value).run memory =
      some (.fail ⟨path, .unsupportedFields
        (Extractor.unsupportedKeys (Schema.permittedKeys fields) value)⟩, memory) := by
  simp only [extract_succ, Extractor.step]
  rfl

/-- If nothing that the host is asked depends on the object, an open object schema does not see the
entries that no field reads. -/
private theorem paired_declared (definitions : Definitions) (limit : Nat) (path : Path)
    (constant : ∀ field ∈ fields, field.IsConstant) (memory : Memory) :
    Run.Paired (Outcome.SameButShown value (value.declared fields)) Memory.SameButNotes
      (extract definitions limit ⟨.object fields, address, scope⟩ path value)
      (extract definitions limit ⟨.object fields, address, scope⟩ path (value.declared fields))
      memory memory := by
  cases limit with
  | zero => exact .exhausted
  | succ limit =>
      apply Extractor.paired_object
      · intro node place given before changed same
        exact extract_coupled (Memory.SameButNotes.preserves definitions) limit node place given
          same
      · exact .refl memory
      · intro field member key isSource
        obtain ⟨written, isWritten, position, rfl⟩ := exists_written_field member
        rw [Field.sourceKey?_map] at isSource
        exact (Value.get?_declared isWritten isSource).symm
      · intro field member fallback asks
        obtain ⟨written, isWritten, position, rfl⟩ := exists_written_field member
        exact (constant written isWritten).sameAnswer asks.of_map _

end

/-- A closed object schema fails at undeclared keys and names all of them, in order; where there
are none, it is run like the open one, which takes no notice of them. -/
theorem extract_closed (definitions : Definitions) (fields : List (Field Schema))
    (address : Address) (scope : Scope) (path : Path) (value : Value)
    (distinct : value.entries.keys.Nodup) :
    let closed : Node := ⟨.closed fields, address, scope⟩
    let opened : Node := ⟨.object fields, address, scope⟩
    (∀ key, value.Undeclared fields key → ∃ keys : List String,
      (∀ other, other ∈ keys ↔ value.Undeclared fields other) ∧ keys.Nodup ∧
      keys.Sublist value.entries.keys ∧
      Cause.explain (.unsupportedFields keys) =
        pure ("There are unsupported fields: [" ++ ", ".intercalate keys ++ "] specified") ∧
      ∀ limit memory, (extract definitions (limit + 1) closed path value).run memory =
        some (.fail ⟨path, .unsupportedFields keys⟩, memory)) ∧
    ((∀ key, ¬ value.Undeclared fields key) → ∀ limit,
      extract definitions limit closed path value = extract definitions limit opened path value) ∧
    ((∀ field ∈ fields, field.IsConstant) → ∀ limit memory,
      Run.Paired (Outcome.SameButShown value (value.declared fields)) Memory.SameButNotes
        (extract definitions limit opened path value)
        (extract definitions limit closed path (value.declared fields)) memory memory) := by
  refine ⟨?_, ?_, ?_⟩
  · intro key undeclared
    have found : Extractor.unsupportedKeys (Schema.permittedKeys fields) value ≠ [] := by
      have member := (Extractor.mem_unsupportedKeys_iff distinct).mpr undeclared
      exact List.ne_nil_of_mem member
    have inOrder := Extractor.unsupportedKeys_sublist (Schema.permittedKeys fields) value
    exact ⟨_, fun other => Extractor.mem_unsupportedKeys_iff distinct, inOrder.nodup distinct,
      inOrder, rfl, fun limit memory => run_extract_closed definitions limit path memory found⟩
  · intro declared limit
    apply extract_closed_of_supported
    apply List.eq_nil_iff_forall_not_mem.mpr
    intro key member
    exact declared key ((Extractor.mem_unsupportedKeys_iff distinct).mp member)
  · intro constant limit memory
    rw [extract_closed_of_supported definitions limit path
      (Value.unsupportedKeys_declared fields value)]
    exact paired_declared definitions limit path constant memory

/-! ## Badges -/

/-- A number that is stored under another key, and a kind that is not read at all. -/
def badge : List (Field Schema) :=
  [.read "id" "number" .strict .string, .output "kind" (.string "badge")]

/-- An object with two keys that `badge` does not read, one of which is the key of a generated
field, and with an undeclared key that holds nothing. -/
def visitor : Value :=
  .object [("kind", .string "visitor"), ("note", .null), ("id", .string "7"), ("desk", .bool true)]

/-- A visitor is rejected for its kind and its desk, and accepted without them; an object that
lacks its number has the same fault whether or not it has a desk, but for the object that is
shown. -/
theorem extract_closed_badge :
    (∃ keys : List String, "kind" ∈ keys ∧ "note" ∉ keys ∧
      (extract [] 2 ⟨.closed badge, [], []⟩ .root visitor).run (.initial []) =
        some (.fail ⟨.root, .unsupportedFields keys⟩, .initial [])) ∧
    extract [] 2 ⟨.closed badge, [], []⟩ .root (visitor.declared badge) =
      extract [] 2 ⟨.object badge, [], []⟩ .root (visitor.declared badge) ∧
    Run.Paired (Outcome.SameButShown (.object [("desk", .bool true)]) .emptyObject)
      Memory.SameButNotes
      (extract [] 2 ⟨.object badge, [], []⟩ .root (.object [("desk", .bool true)]))
      (extract [] 2 ⟨.closed badge, [], []⟩ .root .emptyObject) (.initial []) (.initial []) := by
  obtain ⟨rejected, _, _⟩ := extract_closed [] badge [] [] .root visitor (by decide)
  obtain ⟨_, accepted, _⟩ := extract_closed [] badge [] [] .root (visitor.declared badge)
    (by decide)
  obtain ⟨_, _, unseen⟩ := extract_closed [] badge [] [] .root (.object [("desk", .bool true)])
    (by decide)
  refine ⟨?_, ?_, ?_⟩
  · have undeclared : visitor.Undeclared badge "kind" := by
      constructor
      · simp [visitor, Value.get?, Value.entries, Entries.find?]
      · simp [badge, Field.sourceKey?, Field.output]
    have holdsNothing : ¬ visitor.Undeclared badge "note" := fun undeclared => undeclared.1 rfl
    obtain ⟨keys, areUndeclared, _, _, _, fails⟩ := rejected "kind" undeclared
    exact ⟨keys, (areUndeclared "kind").mpr undeclared,
      fun member => holdsNothing ((areUndeclared "note").mp member), fails 1 _⟩
  · apply accepted
    intro key undeclared
    have member := (Extractor.mem_unsupportedKeys_iff (by decide)).mpr undeclared
    rw [Value.unsupportedKeys_declared] at member
    contradiction
  · apply unseen
    intro field member
    rcases List.mem_pair.mp member with rfl | rfl
    · trivial
    · intro object other
      rfl

end Extraction
