import Mathlib.Data.List.Forall2
import Extraction.Proofs.Entries
import Extraction.Proofs.Visits

/-!
# Values up to the order of keys

Two values are equal up to the order of keys if they differ, at any depth, in the order of the
entries of objects only.  Functions are compared by a relation that is left open: they may be the
same, or give the same answers.  Whatever schemas do with a value, looking up keys, merging, and
storing what they have extracted, they do it up to the order of keys.
-/

namespace Extraction

/-- Two values are equal up to the order of the keys of their objects at every depth, and up to
functions that are alike.  No object has a key twice. -/
inductive Value.Reordered (alike : Callable → Callable → Prop) : Value → Value → Prop where
  | null : Reordered alike .null .null
  | bool (value : Bool) : Reordered alike (.bool value) (.bool value)
  | number (value : Number) : Reordered alike (.number value) (.number value)
  | string (value : String) : Reordered alike (.string value) (.string value)
  | array {items others : List Value} (sameLength : items.length = others.length)
      (each : ∀ (position : Nat) item other, items[position]? = some item →
        others[position]? = some other → Reordered alike item other) :
      Reordered alike (.array items) (.array others)
  | object {entries others : Entries} (distinct : entries.keys.Nodup)
      (otherDistinct : others.keys.Nodup)
      (sameKeys : ∀ key, entries.find? key = none ↔ others.find? key = none)
      (each : ∀ key value other, entries.find? key = some value → others.find? key = some other →
        Reordered alike value other) :
      Reordered alike (.object entries) (.object others)
  | function {callable other : Callable} (same : alike callable other) :
      Reordered alike (.function callable) (.function other)
  | absent : Reordered alike .absent .absent
  | present {value other : Value} (same : Reordered alike value other) :
      Reordered alike (.present value) (.present other)

/-- Two entries hold related values under one key. -/
def Entries.SamePlace (related : Value → Value → Prop) (left right : String × Value) : Prop :=
  left.1 = right.1 ∧ related left.2 right.2

/-- Two lists of entries hold related values under the same keys, each key once. -/
structure Entries.Reordered (related : Value → Value → Prop) (entries others : Entries) :
    Prop where
  distinct : entries.keys.Nodup
  otherDistinct : others.keys.Nodup
  related : ∀ key, Option.Rel related (entries.find? key) (others.find? key)

namespace Value.Reordered

variable {alike : Callable → Callable → Prop} {value other : Value}

theorem symm (symmetric : ∀ callable other, alike callable other → alike other callable)
    (same : value.Reordered alike other) : other.Reordered alike value := by
  induction same with
  | null => exact .null
  | bool => exact .bool _
  | number => exact .number _
  | string => exact .string _
  | array sameLength _ inductionHypothesis =>
      exact .array sameLength.symm fun position item other found otherFound =>
        inductionHypothesis position other item otherFound found
  | object distinct otherDistinct sameKeys _ inductionHypothesis =>
      exact .object otherDistinct distinct (fun key => (sameKeys key).symm)
        fun key value other found otherFound =>
          inductionHypothesis key other value otherFound found
  | function same => exact .function (symmetric _ _ same)
  | absent => exact .absent
  | present _ inductionHypothesis => exact .present inductionHypothesis

theorem array_iff {items others : List Value} :
    (Value.array items).Reordered alike (.array others) ↔
      List.Forall₂ (Value.Reordered alike) items others := by
  rw [List.forall₂_iff_get]
  constructor
  · intro same
    cases same with
    | array sameLength each =>
        refine ⟨sameLength, fun position bound otherBound => ?_⟩
        exact each position _ _ (List.getElem?_eq_getElem bound)
          (List.getElem?_eq_getElem otherBound)
  · rintro ⟨sameLength, each⟩
    apply Reordered.array sameLength
    intro position item other found otherFound
    obtain ⟨bound, rfl⟩ := List.getElem?_eq_some_iff.mp found
    obtain ⟨otherBound, rfl⟩ := List.getElem?_eq_some_iff.mp otherFound
    exact each position bound otherBound

theorem object_of_entries {entries others : Entries}
    (same : entries.Reordered (Value.Reordered alike) others) :
    (Value.object entries).Reordered alike (.object others) := by
  apply Reordered.object same.distinct same.otherDistinct
  · intro key
    have related := same.related key
    generalize entries.find? key = found, others.find? key = otherFound at related
    cases related <;> simp
  · intro key value other found otherFound
    have related := same.related key
    rw [found, otherFound] at related
    cases related with
    | some related => exact related

/-- Entries may be permuted. -/
theorem object_of_perm {entries others : Entries} (distinct : entries.keys.Nodup)
    (sameEntries : entries.Perm others)
    (each : ∀ entry ∈ entries, entry.2.Reordered alike entry.2) :
    (Value.object entries).Reordered alike (.object others) := by
  have otherDistinct : others.keys.Nodup := (sameEntries.map Prod.fst).nodup_iff.mp distinct
  have sameKey := Entries.find?_perm distinct sameEntries
  apply Reordered.object distinct otherDistinct
  · intro key
    rw [sameKey]
  · intro key value other found otherFound
    rw [← sameKey, found] at otherFound
    cases otherFound
    exact each _ (Entries.mem_of_find? found)

theorem entries (same : value.Reordered alike other) :
    value.entries.Reordered (Value.Reordered alike) other.entries := by
  cases same with
  | @object entries others distinct otherDistinct sameKeys each =>
      refine ⟨distinct, otherDistinct, fun key => ?_⟩
      show Option.Rel _ (entries.find? key) (others.find? key)
      cases found : entries.find? key with
      | none =>
          rw [(sameKeys key).mp found]
          exact .none
      | some value =>
          cases otherFound : others.find? key with
          | none =>
              rw [(sameKeys key).mpr otherFound] at found
              contradiction
          | some other => exact .some (each key value other found otherFound)
  | _ => exact ⟨Entries.keys_nodup_nil, Entries.keys_nodup_nil, fun _ => .none⟩

/-- What stands under a key is the same up to the order of keys. -/
theorem get? (same : value.Reordered alike other) (key : String) :
    Option.Rel (Value.Reordered alike) (value.get? key) (other.get? key) := by
  have related := same.entries.related key
  unfold Value.get?
  generalize value.entries.find? key = found, other.entries.find? key = otherFound at related
  cases related with
  | none => exact .none
  | some related =>
      cases related with
      | null => exact .none
      | bool | number | string => exact .some (by constructor)
      | array sameLength each => exact .some (.array sameLength each)
      | object distinct otherDistinct sameKeys each =>
          exact .some (.object distinct otherDistinct sameKeys each)
      | function same => exact .some (.function same)
      | absent => exact .some .absent
      | present same => exact .some (.present same)

theorem get?_eq_none (same : value.Reordered alike other) {key : String}
    (missing : value.get? key = none) : other.get? key = none := by
  have sameKey := same.get? key
  rw [missing] at sameKey
  generalize other.get? key = found at sameKey ⊢
  cases sameKey
  rfl

theorem exists_get? (same : value.Reordered alike other) {key : String} {given : Value}
    (found : value.get? key = some given) :
    ∃ otherGiven, other.get? key = some otherGiven ∧ given.Reordered alike otherGiven := by
  have sameKey := same.get? key
  rw [found] at sameKey
  generalize other.get? key = otherFound at sameKey ⊢
  cases sameKey with
  | some sameGiven => exact ⟨_, rfl, sameGiven⟩

end Value.Reordered

namespace Entries.Reordered

variable {related : Value → Value → Prop} {entries others : Entries}

theorem nil : Entries.Reordered related [] [] :=
  ⟨keys_nodup_nil, keys_nodup_nil, fun _ => .none⟩

theorem mem_keys_iff (same : entries.Reordered related others) (key : String) :
    key ∈ entries.keys ↔ key ∈ others.keys := by
  have sameKey := same.related key
  rw [← not_iff_not, ← find?_eq_none_iff, ← find?_eq_none_iff]
  generalize entries.find? key = found, others.find? key = otherFound at sameKey
  cases sameKey <;> simp

theorem keys_perm (same : entries.Reordered related others) : entries.keys.Perm others.keys :=
  (List.perm_ext_iff_of_nodup same.distinct same.otherDistinct).mpr same.mem_keys_iff

theorem insert (same : entries.Reordered related others) (key : String) {value other : Value}
    (here : related value other) :
    (entries.insert key value).Reordered related (others.insert key other) := by
  refine ⟨keys_nodup_insert same.distinct key value,
    keys_nodup_insert same.otherDistinct key other, fun sought => ?_⟩
  rw [find?_insert, find?_insert]
  by_cases isKey : sought = key
  · rw [if_pos isKey, if_pos isKey]
    exact .some here
  · rw [if_neg isKey, if_neg isKey]
    exact same.related sought

theorem insertAll {first second : List (String × Value)}
    (same : entries.Reordered related others)
    (pairs : List.Forall₂ (SamePlace related) first second) :
    (entries.insertAll first).Reordered related (others.insertAll second) := by
  induction pairs generalizing entries others with
  | nil => exact same
  | @cons left right _ _ here _ inductionHypothesis =>
      obtain ⟨key, value⟩ := left
      obtain ⟨_, other⟩ := right
      obtain ⟨rfl, here⟩ := here
      exact inductionHypothesis (same.insert key here)

/-- What is stored under the same keys in the same order is stored alike. -/
theorem ofList {first second : List (String × Value)}
    (pairs : List.Forall₂ (SamePlace related) first second) :
    (Entries.ofList first).Reordered related (Entries.ofList second) :=
  nil.insertAll pairs

/-- Overlays that are alike are merged alike onto bases that are, if the values under each key are
merged alike. -/
theorem merge {bases otherBases : Entries} (same : bases.Reordered related otherBases)
    (overlay : entries.Reordered related others)
    (each : ∀ key value other, entries.find? key = some value → others.find? key = some other →
      related (Value.mergeOnto (bases.find? key) value)
        (Value.mergeOnto (otherBases.find? key) other)) :
    (bases.merge entries).Reordered related (otherBases.merge others) := by
  refine ⟨keys_nodup_merge same.distinct entries, keys_nodup_merge same.otherDistinct others,
    fun key => ?_⟩
  rw [find?_merge overlay.distinct, find?_merge overlay.otherDistinct]
  have overlaid := overlay.related key
  have merged := each key
  generalize entries.find? key = found, others.find? key = otherFound at overlaid merged ⊢
  cases overlaid with
  | none => exact same.related key
  | some => exact .some (merged _ _ rfl rfl)

end Entries.Reordered

/-- The keys that are set are those under which something is found. -/
theorem Value.mem_setKeys_iff {value : Value} (distinct : value.entries.keys.Nodup)
    {key : String} :
    key ∈ value.setKeys ↔ (value.get? key).isSome = true := by
  rw [Option.isSome_iff_exists]
  simp only [Value.setKeys, List.mem_map, List.mem_filter, Value.get?_eq_some_iff,
    Entries.find?_eq_some_iff distinct]
  constructor
  · rintro ⟨⟨held, given⟩, ⟨member, isSet⟩, rfl⟩
    refine ⟨given, member, ?_⟩
    rintro rfl
    contradiction
  · rintro ⟨given, member, isSet⟩
    refine ⟨(key, given), ⟨member, ?_⟩, rfl⟩
    cases given <;> first | contradiction | rfl

namespace Value.Reordered

variable {alike : Callable → Callable → Prop} {value other : Value}

private theorem mergeOnto {existing otherExisting : Option Value}
    (same : value.Reordered alike other)
    (base : Option.Rel (Value.Reordered alike) existing otherExisting) :
    (Value.mergeOnto existing value).Reordered alike (Value.mergeOnto otherExisting other) := by
  induction same generalizing existing otherExisting with
  | null => exact .null
  | bool => exact .bool _
  | number => exact .number _
  | string => exact .string _
  | array sameLength each => exact .array sameLength each
  | function same => exact .function same
  | absent => exact .absent
  | present same => exact .present same
  | @object entries others distinct otherDistinct sameKeys each inductionHypothesis =>
      have overlay : entries.Reordered (Value.Reordered alike) others :=
        (Reordered.object distinct otherDistinct sameKeys each).entries
      cases base with
      | none => exact object_of_entries overlay
      | some base =>
          cases base with
          | @object bases otherBases baseDistinct otherBaseDistinct baseKeys baseEach =>
              have sameBase : bases.Reordered (Value.Reordered alike) otherBases :=
                (Reordered.object baseDistinct otherBaseDistinct baseKeys baseEach).entries
              simp only [Value.mergeOnto]
              apply object_of_entries
              apply sameBase.merge overlay
              intro key value other found otherFound
              exact inductionHypothesis key value other found otherFound (sameBase.related key)
          | _ => exact object_of_entries overlay

/-- Merging keeps the equality up to the order of keys. -/
theorem merge {base otherBase : Value} (same : base.Reordered alike otherBase)
    (overlay : value.Reordered alike other) :
    (base.merge value).Reordered alike (otherBase.merge other) := by
  apply object_of_entries
  apply same.entries.merge overlay.entries
  intro key held otherHeld found otherFound
  have sameHeld := overlay.entries.related key
  rw [found, otherFound] at sameHeld
  cases sameHeld with
  | some sameHeld => exact sameHeld.mergeOnto (same.entries.related key)

theorem setKeys_iff (same : value.Reordered alike other) (key : String) :
    key ∈ value.setKeys ↔ key ∈ other.setKeys := by
  rw [mem_setKeys_iff same.entries.distinct, mem_setKeys_iff same.entries.otherDistinct]
  have sameKey := same.get? key
  generalize value.get? key = found, other.get? key = otherFound at sameKey
  cases sameKey <;> simp

end Value.Reordered

end Extraction
