import Extraction.Proofs.Entries

/-!
# Values along keys

A value can be followed along a list of keys, each of which leads from an object to what it holds
there.  Where a key is missing, or where there is no object, the way breaks off.  Unlike the lookup
of fields, following keys does not take null for missing.
-/

namespace Extraction

/-! ## Distinct keys -/

namespace Value

mutual

/-- Whether no object in a value, at any depth, has a key twice. -/
def keysDistinct : Value → Bool
  | array items => keysDistinctInItems items
  | object entries => decide (Entries.keys entries).Nodup && keysDistinctInEntries entries
  | present value => keysDistinct value
  | _ => true

/-- Whether no object in some items has a key twice. -/
def keysDistinctInItems : List Value → Bool
  | [] => true
  | item :: items => keysDistinct item && keysDistinctInItems items

/-- Whether no object in what stands in some entries has a key twice. -/
def keysDistinctInEntries : List (String × Value) → Bool
  | [] => true
  | (_, value) :: entries => keysDistinct value && keysDistinctInEntries entries

end

variable {value held : Value} {key : String}

theorem keysDistinctInEntries_iff {entries : Entries} :
    keysDistinctInEntries entries = true ↔ ∀ entry ∈ entries, entry.2.keysDistinct = true := by
  induction entries with
  | nil => simp [keysDistinctInEntries]
  | cons entry entries inductionHypothesis =>
      obtain ⟨key, value⟩ := entry
      rw [keysDistinctInEntries, Bool.and_eq_true, List.forall_mem_cons, inductionHypothesis]

theorem keysDistinct_object_iff {entries : Entries} :
    (object entries).keysDistinct = true ↔
      entries.keys.Nodup ∧ ∀ entry ∈ entries, entry.2.keysDistinct = true := by
  rw [keysDistinct, Bool.and_eq_true, decide_eq_true_iff, keysDistinctInEntries_iff]

theorem nodup_keys (distinct : value.keysDistinct = true) : value.entries.keys.Nodup := by
  cases value with
  | object entries => exact (keysDistinct_object_iff.mp distinct).1
  | _ => exact Entries.keys_nodup_nil

theorem keysDistinct_of_find? (distinct : value.keysDistinct = true)
    (found : value.entries.find? key = some held) : held.keysDistinct = true := by
  cases value with
  | object entries => exact (keysDistinct_object_iff.mp distinct).2 _ (Entries.mem_of_find? found)
  | _ => contradiction

/-! ## Following keys -/

/-- What is at the end of some keys, each of which leads from an object to what it holds there. -/
def follow? : Value → List String → Option Value
  | value, [] => some value
  | value, key :: keys =>
      match value.entries.find? key with
      | some held => held.follow? keys
      | none => none

/-- Whether a value is an object all along some keys up to one that is missing in it. -/
def breaksOff : Value → List String → Bool
  | object entries, key :: keys =>
      match Entries.find? key entries with
      | some held => held.breaksOff keys
      | none => true
  | _, _ => false

@[simp]
theorem follow?_nil (value : Value) : value.follow? [] = some value := by
  rw [follow?]

theorem follow?_cons (value : Value) (key : String) (keys : List String) :
    value.follow? (key :: keys) = (value.entries.find? key).bind (follow? · keys) := by
  rw [follow?]
  cases value.entries.find? key <;> rfl

@[simp]
theorem follow?_singleton (value : Value) (key : String) :
    value.follow? [key] = value.entries.find? key := by
  rw [follow?_cons]
  cases value.entries.find? key <;> simp

theorem keysDistinct_of_follow? {keys : List String} (distinct : value.keysDistinct = true)
    (found : value.follow? keys = some held) : held.keysDistinct = true := by
  induction keys generalizing value with
  | nil =>
      rw [follow?_nil] at found
      cases found
      exact distinct
  | cons key keys inductionHypothesis =>
      rw [follow?_cons] at found
      rcases Option.bind_eq_some_iff.mp found with ⟨inner, innerFound, heldFound⟩
      exact inductionHypothesis (keysDistinct_of_find? distinct innerFound) heldFound

/-- No key leads on from a value that is no object. -/
theorem follow?_of_asObject?_eq_none (isOther : value.asObject? = none) {keys : List String}
    (further : keys ≠ []) : value.follow? keys = none := by
  cases keys with
  | nil => contradiction
  | cons key keys =>
      cases value with
      | object => contradiction
      | _ => rfl

@[simp]
theorem breaksOff_nil (value : Value) : value.breaksOff [] = false := by
  cases value <;> simp [breaksOff]

theorem breaksOff_of_asObject?_eq_none (isOther : value.asObject? = none) (keys : List String) :
    value.breaksOff keys = false := by
  cases value with
  | object => contradiction
  | _ => simp [breaksOff]

theorem breaksOff_of_find? (found : value.entries.find? key = some held) (keys : List String) :
    value.breaksOff (key :: keys) = held.breaksOff keys := by
  cases value with
  | object inner =>
      rw [entries] at found
      rw [breaksOff, found]
  | _ => contradiction

/-- Where a key is missing there is no object, or the way breaks off. -/
theorem asObject?_eq_none_or_breaksOff (missing : value.entries.find? key = none)
    (keys : List String) :
    value.asObject? = none ∨ value.breaksOff (key :: keys) = true := by
  cases value with
  | object inner =>
      rw [entries] at missing
      right
      rw [breaksOff, missing]
  | _ => exact .inl rfl

/-! ## Induction over nested objects -/

theorem sizeOf_lt_of_find? (found : value.entries.find? key = some held) :
    sizeOf held < sizeOf value := by
  cases value with
  | object entries =>
      have member : (key, held) ∈ entries := Entries.mem_of_find? found
      have smaller := List.sizeOf_lt_of_mem member
      simp only [Prod.mk.sizeOf_spec] at smaller
      simp only [object.sizeOf_spec]
      omega
  | _ => contradiction

/-- What holds of a value whenever it holds of all that the value holds under its keys, holds of
every value. -/
@[elab_as_elim]
theorem induction_on_entries {motive : Value → Prop}
    (step : ∀ value, (∀ key held, value.entries.find? key = some held → motive held) →
      motive value) (value : Value) : motive value :=
  step value fun _ held found =>
    have : sizeOf held < sizeOf value := sizeOf_lt_of_find? found
    induction_on_entries step held
termination_by value

end Value

end Extraction
