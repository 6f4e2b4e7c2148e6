import Mathlib.Data.List.Perm.Subperm
import Extraction.Proofs.ExactNumbers
import Extraction.Proofs.KeyPaths
import Extraction.Proofs.Reordering
import Extraction.Value.Equality

/-!
# The laws of equality

Equality of values is symmetric and transitive, and a value is equal to itself exactly if the
undefined number is nowhere inside it.  The comparison of objects looks up the entries of one
object in the other one, so its symmetry rests on the keys: as many distinct keys, all of which are
found, are all the keys that there are.
-/

namespace Extraction

/-! ## Numbers -/

namespace Number

variable {left middle right : Number}

theorem equals_symm (same : left.equals right = true) : right.equals left = true := by
  cases left with
  | undefined => contradiction
  | infinite negative =>
      cases right with
      | infinite otherNegative => exact beq_iff_eq.mpr (beq_iff_eq.mp same).symm
      | undefined | finite => contradiction
  | finite number =>
      cases right with
      | finite other =>
          rw [equals, FiniteNumber.equals_iff_toRat_eq] at same ⊢
          exact same.symm
      | undefined | infinite => contradiction

theorem equals_trans (first : left.equals middle = true) (second : middle.equals right = true) :
    left.equals right = true := by
  cases middle with
  | undefined => cases left <;> contradiction
  | infinite negative =>
      cases left with
      | infinite leftNegative =>
          cases beq_iff_eq.mp first
          exact second
      | undefined | finite => contradiction
  | finite number =>
      cases left with
      | finite leftNumber =>
          cases right with
          | finite rightNumber =>
              rw [equals, FiniteNumber.equals_iff_toRat_eq] at first second ⊢
              exact first.trans second
          | undefined | infinite => contradiction
      | undefined | infinite => contradiction

/-- Only the undefined number is not equal to itself. -/
theorem equals_self_iff : left.equals left = true ↔ left ≠ undefined := by
  cases left with
  | undefined => decide
  | infinite negative => simp [equals]
  | finite number => simp [equals, FiniteNumber.equals_iff_toRat_eq]

end Number

/-! ## Keys -/

namespace Entries

/-- Of as many entries with distinct keys, which are all found, none is missing. -/
theorem mem_keys_of_subset {entries others : Entries} (distinct : entries.keys.Nodup)
    (sameLength : entries.length = others.length)
    (isThere : ∀ key ∈ entries.keys, key ∈ others.keys) {key : String}
    (member : key ∈ others.keys) : key ∈ entries.keys := by
  have fewer : others.keys.length ≤ entries.keys.length := by
    rw [keys, keys, List.length_map, List.length_map, sameLength]
  have sameKeys : entries.keys.Perm others.keys :=
    (distinct.subperm isThere).perm_of_length_le fewer
  exact sameKeys.mem_iff.mpr member

end Entries

namespace Value

/-! ## Parts of values -/

/-- The values that stand directly inside a value. -/
def parts : Value → List Value
  | array items => items
  | object entries => entries.map Prod.snd
  | present value => [value]
  | _ => []

theorem mem_parts_object {entries : Entries} {key : String} {held : Value}
    (member : (key, held) ∈ entries) : held ∈ (object entries).parts :=
  List.mem_map_of_mem member

theorem sizeOf_lt_of_mem_parts {part whole : Value} (inside : part ∈ whole.parts) :
    sizeOf part < sizeOf whole := by
  cases whole with
  | array items =>
      have bound := List.sizeOf_lt_of_mem (show part ∈ items from inside)
      rw [array.sizeOf_spec]
      omega
  | object entries =>
      obtain ⟨⟨key, held⟩, member, rfl⟩ := List.mem_map.mp inside
      have bound := List.sizeOf_lt_of_mem member
      rw [Prod.mk.sizeOf_spec] at bound
      change sizeOf held < sizeOf (object entries)
      rw [object.sizeOf_spec]
      omega
  | present value =>
      cases List.mem_singleton.mp inside
      rw [present.sizeOf_spec]
      omega
  | _ => contradiction

/-- What holds of a value whenever it holds of the values directly inside it holds of every
value. -/
@[elab_as_elim]
theorem parts_induction {motive : Value → Prop}
    (step : ∀ value, (∀ part ∈ value.parts, motive part) → motive value) (value : Value) :
    motive value :=
  step value fun part inside =>
    have _smaller : sizeOf part < sizeOf value := sizeOf_lt_of_mem_parts inside
    parts_induction step part
termination_by value

/-- A part of a value is the value itself or stands somewhere inside it. -/
inductive Part (part : Value) : Value → Prop where
  | whole : Part part part
  | inside {whole direct : Value} (member : direct ∈ whole.parts) (rest : Part part direct) :
      Part part whole

/-- A property holds throughout a value if it holds of all its parts. -/
def Throughout (property : Value → Prop) (value : Value) : Prop :=
  ∀ part, Part part value → property part

variable {value other further : Value}

theorem throughout_iff {property : Value → Prop} :
    value.Throughout property ↔
      property value ∧ ∀ part ∈ value.parts, part.Throughout property := by
  constructor
  · intro holds
    exact ⟨holds value .whole, fun direct member part rest => holds part (.inside member rest)⟩
  · rintro ⟨here, below⟩ part isPart
    cases isPart with
    | whole => exact here
    | inside member rest => exact below _ member part rest

theorem keysDistinctInItems_iff {items : List Value} :
    keysDistinctInItems items = true ↔ ∀ item ∈ items, item.keysDistinct = true := by
  induction items with
  | nil => simp [keysDistinctInItems]
  | cons item items inductionHypothesis =>
      rw [keysDistinctInItems, Bool.and_eq_true, List.forall_mem_cons, inductionHypothesis]

theorem keysDistinct_of_mem_parts (distinct : value.keysDistinct = true) {part : Value}
    (inside : part ∈ value.parts) : part.keysDistinct = true := by
  cases value with
  | array items =>
      rw [keysDistinct, keysDistinctInItems_iff] at distinct
      exact distinct part inside
  | object entries =>
      obtain ⟨entry, member, rfl⟩ := List.mem_map.mp inside
      exact (keysDistinct_object_iff.mp distinct).2 entry member
  | present value =>
      cases List.mem_singleton.mp inside
      rwa [keysDistinct] at distinct
  | _ => contradiction

/-! ## One level of the comparison -/

/-- Two values match if they are of one kind and related values stand inside them in the same
places.  Numbers are compared as numbers, and objects have as many entries. -/
inductive Matches (related : Value → Value → Prop) : Value → Value → Prop where
  | null : Matches related null null
  | bool (value : Bool) : Matches related (bool value) (bool value)
  | number {left right : Number} (same : left.equals right = true) :
      Matches related (number left) (number right)
  | string (value : String) : Matches related (string value) (string value)
  | array {items others : List Value} (each : List.Forall₂ related items others) :
      Matches related (array items) (array others)
  | object {entries others : Entries} (sameLength : entries.length = others.length)
      (each : ∀ key held, (key, held) ∈ entries →
        ∃ other, others.find? key = some other ∧ related held other) :
      Matches related (object entries) (object others)
  | function (callable : Callable) : Matches related (function callable) (function callable)
  | absent : Matches related absent absent
  | present {value other : Value} (same : related value other) :
      Matches related (present value) (present other)

theorem equalsItems_iff {items others : List Value} :
    equalsItems items others = true ↔
      List.Forall₂ (fun item other => item.equals other = true) items others := by
  induction items generalizing others with
  | nil => cases others <;> simp [equalsItems]
  | cons item items inductionHypothesis =>
      cases others with
      | nil => simp [equalsItems]
      | cons other others =>
          rw [equalsItems, Bool.and_eq_true, List.forall₂_cons, inductionHypothesis]

theorem equalsEntries_iff {entries others : Entries} :
    equalsEntries entries others = true ↔ ∀ key held, (key, held) ∈ entries →
      ∃ other, others.find? key = some other ∧ held.equals other = true := by
  induction entries with
  | nil => simp [equalsEntries]
  | cons entry entries inductionHypothesis =>
      obtain ⟨first, value⟩ := entry
      rw [equalsEntries, Bool.and_eq_true, inductionHypothesis]
      cases found : others.find? first <;> simp [found, or_imp, forall_and]

/-- Two values are equal exactly if they match and the values inside them are equal. -/
theorem equals_iff_matches :
    value.equals other = true ↔
      value.Matches (fun left right => left.equals right = true) other := by
  constructor
  · fun_cases equals value other with
    | case1 => exact fun _ => .null
    | case2 left right => exact fun same => beq_iff_eq.mp same ▸ .bool _
    | case3 left right => exact .number
    | case4 left right => exact fun same => beq_iff_eq.mp same ▸ .string _
    | case5 lefts rights => exact fun same => .array (equalsItems_iff.mp same)
    | case6 lefts rights =>
        intro same
        rw [Bool.and_eq_true, beq_iff_eq] at same
        exact .object same.1 (equalsEntries_iff.mp same.2)
    | case7 left right => exact fun same => beq_iff_eq.mp same ▸ .function _
    | case8 => exact fun _ => .absent
    | case9 left right => exact fun same => .present same
    | case10 => nofun
  · intro matching
    cases matching with
    | null | absent => rw [equals]
    | bool | string | function => rw [equals, beq_iff_eq]
    | number same => exact same
    | array each => exact equalsItems_iff.mpr each
    | object sameLength each =>
        rw [equals, Bool.and_eq_true, beq_iff_eq]
        exact ⟨sameLength, equalsEntries_iff.mpr each⟩
    | present same => exact same

/-! ## Symmetry and transitivity -/

/-- Objects match the other way round if their keys are distinct. -/
theorem Matches.swap_object {related swapped : Value → Value → Prop} {entries others : Entries}
    (distinct : entries.keys.Nodup) (otherDistinct : others.keys.Nodup)
    (sameLength : entries.length = others.length)
    (each : ∀ key held, (key, held) ∈ entries →
      ∃ other, others.find? key = some other ∧ related held other)
    (swaps : ∀ key held other, (key, held) ∈ entries → (key, other) ∈ others →
      related held other → swapped other held) :
    Matches swapped (.object others) (.object entries) := by
  apply Matches.object sameLength.symm
  intro key other otherMember
  have isThere (key : String) (member : key ∈ entries.keys) : key ∈ others.keys := by
    obtain ⟨⟨_, held⟩, entryMember, rfl⟩ := List.mem_map.mp member
    obtain ⟨other, found, _⟩ := each _ held entryMember
    exact List.mem_map.mpr ⟨_, Entries.mem_of_find? found, rfl⟩
  -- The comparison only says where the first keys are; that there are no others is counted.
  have keyMember : key ∈ entries.keys :=
    Entries.mem_keys_of_subset distinct sameLength isThere (List.mem_map_of_mem otherMember)
  obtain ⟨⟨_, held⟩, member, rfl⟩ := List.mem_map.mp keyMember
  obtain ⟨found, isFound, same⟩ := each _ held member
  rw [(Entries.find?_eq_some_iff otherDistinct).mpr otherMember] at isFound
  cases isFound
  exact ⟨held, (Entries.find?_eq_some_iff distinct).mpr member,
    swaps _ held other member otherMember same⟩

theorem equals_symm (distinct : value.keysDistinct = true)
    (otherDistinct : other.keysDistinct = true) (same : value.equals other = true) :
    other.equals value = true := by
  induction value using parts_induction generalizing other with
  | step value inductionHypothesis =>
      -- Distinct keys are handed down on both sides, since either side is looked up in.
      have swaps (part : Value) (inside : part ∈ value.parts) (otherPart : Value)
          (otherInside : otherPart ∈ other.parts) (samePart : part.equals otherPart = true) :
          otherPart.equals part = true :=
        inductionHypothesis part inside (keysDistinct_of_mem_parts distinct inside)
          (keysDistinct_of_mem_parts otherDistinct otherInside) samePart
      rw [equals_iff_matches] at same ⊢
      cases same with
      | null => exact .null
      | bool value => exact .bool value
      | number same => exact .number (Number.equals_symm same)
      | string value => exact .string value
      | array each =>
          apply Matches.array
          rw [List.forall₂_iff_get] at each ⊢
          refine ⟨each.1.symm, fun position otherBound bound => ?_⟩
          exact swaps _ (List.get_mem _ _) _ (List.get_mem _ _) (each.2 position bound otherBound)
      | object sameLength each =>
          apply Matches.swap_object (nodup_keys distinct) (nodup_keys otherDistinct) sameLength
            each
          intro key held other member otherMember
          exact swaps held (mem_parts_object member) other (mem_parts_object otherMember)
      | function callable => exact .function callable
      | absent => exact .absent
      | present same =>
          exact .present (swaps _ (List.mem_singleton_self _) _ (List.mem_singleton_self _) same)

theorem equals_trans (first : value.equals other = true) (second : other.equals further = true) :
    value.equals further = true := by
  induction value using parts_induction generalizing other further with
  | step value inductionHypothesis =>
      rw [equals_iff_matches] at first second ⊢
      cases first with
      | null | bool | string | function | absent => exact second
      | number same =>
          cases second with
          | number sameLater => exact .number (Number.equals_trans same sameLater)
      | array each =>
          cases second with
          | array eachLater =>
              apply Matches.array
              rw [List.forall₂_iff_get] at each eachLater ⊢
              refine ⟨each.1.trans eachLater.1, fun position bound laterBound => ?_⟩
              have middleBound : position < _ := each.1 ▸ bound
              exact inductionHypothesis _ (List.get_mem _ _) (each.2 position bound middleBound)
                (eachLater.2 position middleBound laterBound)
      | object sameLength each =>
          cases second with
          | object sameLaterLength eachLater =>
              apply Matches.object (sameLength.trans sameLaterLength)
              intro key held member
              obtain ⟨middle, middleFound, same⟩ := each key held member
              obtain ⟨last, lastFound, sameLater⟩ :=
                eachLater key middle (Entries.mem_of_find? middleFound)
              exact ⟨last, lastFound,
                inductionHypothesis held (mem_parts_object member) same sameLater⟩
      | present same =>
          cases second with
          | present sameLater =>
              exact .present (inductionHypothesis _ (List.mem_singleton_self _) same sameLater)

/-! ## Reflexivity -/

/-- A value whose objects have distinct keys is itself up to the order of keys. -/
theorem Reordered.refl (distinct : value.keysDistinct = true) : value.Reordered Eq value := by
  induction value using parts_induction with
  | step value inductionHypothesis =>
      have inside (part : Value) (member : part ∈ value.parts) : part.Reordered Eq part :=
        inductionHypothesis part member (keysDistinct_of_mem_parts distinct member)
      cases value with
      | null => exact .null
      | bool value => exact .bool value
      | number value => exact .number value
      | string value => exact .string value
      | array items => exact Reordered.array_iff.mpr (List.forall₂_same.mpr inside)
      | object entries =>
          exact Reordered.object_of_perm (nodup_keys distinct) (.refl entries)
            fun entry member => inside entry.2 (mem_parts_object member)
      | function callable => exact .function rfl
      | absent => exact .absent
      | present value => exact .present (inside value (List.mem_singleton_self value))

/-- A value in which the undefined number is nowhere is equal to what it is up to the order of
keys. -/
theorem equals_of_reordered (isDefined : value.Throughout (· ≠ .number .undefined))
    (reordered : value.Reordered Eq other) : value.equals other = true := by
  rw [equals_iff_matches]
  induction reordered with
  | null => exact .null
  | bool value => exact .bool value
  | number value =>
      have notUndefined : value ≠ .undefined := fun same =>
        (throughout_iff.mp isDefined).1 (congrArg number same)
      exact .number (Number.equals_self_iff.mpr notUndefined)
  | string value => exact .string value
  | @array items others sameLength each inductionHypothesis =>
      apply Matches.array
      rw [List.forall₂_iff_get]
      refine ⟨sameLength, fun position bound otherBound => ?_⟩
      have member := List.get_mem items ⟨position, bound⟩
      have definedInside := (throughout_iff.mp isDefined).2 _ member
      exact equals_iff_matches.mpr <| inductionHypothesis position _ _
        (List.getElem?_eq_getElem bound) (List.getElem?_eq_getElem otherBound) definedInside
  | @object entries others distinct otherDistinct sameKeys each inductionHypothesis =>
      have together : entries.Reordered (Value.Reordered Eq) others :=
        (Reordered.object distinct otherDistinct sameKeys each).entries
      have sameLength := together.keys_perm.length_eq
      rw [Entries.keys, Entries.keys, List.length_map, List.length_map] at sameLength
      apply Matches.object sameLength
      intro key held member
      have found := (Entries.find?_eq_some_iff distinct).mpr member
      have definedInside := (throughout_iff.mp isDefined).2 held (mem_parts_object member)
      cases otherFound : others.find? key with
      | none =>
          rw [(sameKeys key).mpr otherFound] at found
          contradiction
      | some other =>
          exact ⟨other, rfl, equals_iff_matches.mpr <|
            inductionHypothesis key held other found otherFound definedInside⟩
  | function same => exact same ▸ .function _
  | absent => exact .absent
  | present _ inductionHypothesis =>
      have definedInside := (throughout_iff.mp isDefined).2 _ (List.mem_singleton_self _)
      exact .present (equals_iff_matches.mpr (inductionHypothesis definedInside))

/-- In a value that is equal to itself the undefined number is nowhere. -/
theorem throughout_of_equals_self (distinct : value.keysDistinct = true)
    (same : value.equals value = true) : value.Throughout (· ≠ .number .undefined) := by
  induction value using parts_induction with
  | step value inductionHypothesis =>
      rw [equals_iff_matches] at same
      rw [throughout_iff]
      constructor
      · rintro rfl
        cases same with
        | number same => contradiction
      · intro part inside
        apply inductionHypothesis part inside (keysDistinct_of_mem_parts distinct inside)
        cases same with
        | null | bool | number | string | function | absent => contradiction
        | array each => exact List.forall₂_same.mp each part inside
        | object _ each =>
            obtain ⟨⟨key, held⟩, member, rfl⟩ := List.mem_map.mp inside
            obtain ⟨found, isFound, same⟩ := each key held member
            rw [(Entries.find?_eq_some_iff (keysDistinct_object_iff.mp distinct).1).mpr member]
              at isFound
            cases isFound
            exact same
        | present same =>
            cases List.mem_singleton.mp inside
            exact same

/-- Where no object has a key twice, equality is symmetric and transitive, and reflexive exactly
without the undefined number, also up to the order of keys. -/
theorem equals_laws (value other further : Value) (distinct : value.keysDistinct = true)
    (otherDistinct : other.keysDistinct = true) :
    (value.equals other = true → other.equals value = true) ∧
      (value.equals other = true → other.equals further = true → value.equals further = true) ∧
      (value.equals value = true ↔ value.Throughout (· ≠ .number .undefined)) ∧
      (value.Throughout (· ≠ .number .undefined) → ∀ reordered, value.Reordered Eq reordered →
        value.equals reordered = true) := by
  refine ⟨equals_symm distinct otherDistinct, equals_trans, ?_,
    fun isDefined _ reordered => equals_of_reordered isDefined reordered⟩
  constructor
  · exact throughout_of_equals_self distinct
  · intro isDefined
    exact equals_of_reordered isDefined (.refl distinct)

/-- The two zeros under two keys, in one order. -/
def zeros : Value :=
  object [("positive", number (.finite (.zero false))),
    ("negative", array [number (.finite (.zero true)), absent])]

/-- The two zeros under two keys, in the other order, and each in place of the other one. -/
def zerosSwapped : Value :=
  object [("negative", array [number (.finite (.zero false)), absent]),
    ("positive", number (.finite (.zero true)))]

theorem equals_laws_zeros :
    zeros.keysDistinct = true ∧ zerosSwapped.keysDistinct = true ∧
      zeros.equals zerosSwapped = true ∧ zerosSwapped.equals zeros = true ∧
      zeros.equals zeros = true := by
  have distinct : zeros.keysDistinct = true := by decide
  have swappedDistinct : zerosSwapped.keysDistinct = true := by decide
  have same : zeros.equals zerosSwapped = true := by decide
  obtain ⟨symmetric, transitive, _⟩ :=
    equals_laws zeros zerosSwapped zeros distinct swappedDistinct
  exact ⟨distinct, swappedDistinct, same, symmetric same, transitive same (symmetric same)⟩

end Value

end Extraction
