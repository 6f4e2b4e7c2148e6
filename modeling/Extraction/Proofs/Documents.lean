import Extraction.Proofs.Equality

/-!
# Equal documents

Documents are compared as values are: numerals as numbers, and objects without regard to the order
of their members; an integer and a float are never equal.  Equal values are shown as equal
documents.  Conversely, values that documents can hold are equal if they are shown as equal
documents, so that of such values nothing is lost.  The one number that is not written exactly is
not confused with another one, because the integer written in its place is not a number of the
format.
-/

namespace Extraction

/-! ## Numerals -/

namespace Numeral

/-- Whether two numerals are equal.  Integers and floats are kept apart. -/
def equals : Numeral → Numeral → Bool
  | integer left, integer right => left == right
  | float left, float right => left.equals right
  | _, _ => false

end Numeral

namespace Number

variable {number other : FiniteNumber}

/-- The largest integer of 64 bits has too many bits for a number. -/
theorem ne_largest_of_toRat_eq {integer : Int} (isInteger : number.toRat = integer) :
    integer ≠ 2 ^ 63 - 1 := by
  rintro rfl
  have bounded := FiniteNumber.natAbs_lt_of_odd (by decide) isInteger
  revert bounded
  decide

/-- Numerals that are written are equal exactly if the numbers are. -/
theorem Written.equals_iff {numeral otherNumeral : Numeral} (written : Written number numeral)
    (otherWritten : Written other otherNumeral) :
    numeral.equals otherNumeral = true ↔ number.equals other = true := by
  rw [FiniteNumber.equals_iff_toRat_eq]
  cases written with
  | @integer integer isInteger lower upper =>
      cases otherWritten with
      | @integer otherInteger otherIsInteger otherLower otherUpper =>
          have notLargest := ne_largest_of_toRat_eq isInteger
          have otherNotLargest := ne_largest_of_toRat_eq otherIsInteger
          -- Only the bound of the range is moved, and to where no number is.
          rw [isInteger, otherIsInteger, Int.cast_inj, Numeral.equals, beq_iff_eq]
          omega
      | float outside =>
          refine iff_of_false Bool.false_ne_true fun same => ?_
          have notInRange := outside integer (same ▸ isInteger)
          omega
  | float outside =>
      cases otherWritten with
      | @integer otherInteger otherIsInteger otherLower otherUpper =>
          refine iff_of_false Bool.false_ne_true fun same => ?_
          have notInRange := outside otherInteger (same ▸ otherIsInteger)
          omega
      | float => rw [Numeral.equals, FiniteNumber.equals_iff_toRat_eq]

end Number

/-! ## Documents -/

namespace Json

mutual

/-- Whether two documents are equal. -/
def equals : Json → Json → Bool
  | null, null => true
  | bool left, bool right => left == right
  | number left, number right => left.equals right
  | string left, string right => left == right
  | array left, array right => equalsItems left right
  | object left, object right => left.length == right.length && equalsMembers left right
  | _, _ => false

/-- Whether two lists have equal items in the same places. -/
def equalsItems : List Json → List Json → Bool
  | [], [] => true
  | left :: lefts, right :: rights => equals left right && equalsItems lefts rights
  | _, _ => false

/-- Whether every member has an equal one under the same key. -/
def equalsMembers : List (String × Json) → List (String × Json) → Bool
  | [], _ => true
  | (key, left) :: lefts, members =>
      (match members.lookup key with
        | some right => equals left right
        | none => false) && equalsMembers lefts members

end

theorem equalsItems_iff {items others : List Json} :
    equalsItems items others = true ↔
      List.Forall₂ (fun item other => item.equals other = true) items others := by
  induction items generalizing others with
  | nil => cases others <;> simp [equalsItems]
  | cons item items inductionHypothesis =>
      cases others with
      | nil => simp [equalsItems]
      | cons other others =>
          rw [equalsItems, Bool.and_eq_true, List.forall₂_cons, inductionHypothesis]

theorem equalsMembers_iff {members others : List (String × Json)} :
    equalsMembers members others = true ↔ ∀ key held, (key, held) ∈ members →
      ∃ other, others.lookup key = some other ∧ held.equals other = true := by
  induction members with
  | nil => simp [equalsMembers]
  | cons member members inductionHypothesis =>
      obtain ⟨first, document⟩ := member
      rw [equalsMembers, Bool.and_eq_true, inductionHypothesis]
      cases found : others.lookup first <;> simp [found, or_imp, forall_and]

end Json

/-! ## The documents that show values -/

namespace Value

variable {value other : Value}

theorem itemsToJson_eq_map (items : List Value) : itemsToJson items = items.map toJson := by
  induction items with
  | nil => rfl
  | cons item items inductionHypothesis =>
      rw [itemsToJson, List.map_cons, inductionHypothesis]

theorem entriesToJson_eq_map (entries : Entries) :
    entriesToJson entries = entries.map (Prod.map id toJson) := by
  induction entries with
  | nil => rfl
  | cons entry entries inductionHypothesis =>
      obtain ⟨key, value⟩ := entry
      rw [entriesToJson, List.map_cons, inductionHypothesis]
      rfl

/-- Under a key an object is shown with what it holds there. -/
theorem lookup_map_toJson (entries : Entries) (key : String) :
    (entries.map (Prod.map id toJson)).lookup key = (entries.find? key).map toJson := by
  induction entries with
  | nil => rfl
  | cons entry entries inductionHypothesis =>
      obtain ⟨first, value⟩ := entry
      by_cases same : first = key
      · simp [Entries.find?, same]
      · have differs : (key == first) = false := beq_eq_false_iff_ne.mpr (Ne.symm same)
        rw [List.map_cons, Prod.map_apply, id, List.lookup_cons, differs, Entries.find?,
          if_neg same]
        exact inductionHypothesis

/-- Arrays are shown as equal documents exactly if their items are. -/
theorem equalsItems_map_toJson_iff {items others : List Value} :
    Json.equalsItems (items.map toJson) (others.map toJson) = true ↔
      List.Forall₂ (fun item other => item.toJson.equals other.toJson = true) items others := by
  rw [Json.equalsItems_iff, List.forall₂_map_left_iff, List.forall₂_map_right_iff]

/-- The entries of an object are shown among the members of another one exactly if each is shown as
what stands there under its key. -/
theorem equalsMembers_map_toJson_iff {entries others : Entries} :
    Json.equalsMembers (entries.map (Prod.map id toJson))
        (others.map (Prod.map id toJson)) = true ↔
      ∀ key held, (key, held) ∈ entries →
        ∃ other, others.find? key = some other ∧ held.toJson.equals other.toJson = true := by
  rw [Json.equalsMembers_iff]
  simp only [lookup_map_toJson, Option.map_eq_some_iff]
  constructor
  · intro each key held member
    obtain ⟨_, ⟨other, found, rfl⟩, same⟩ := each key held.toJson (List.mem_map_of_mem member)
    exact ⟨other, found, same⟩
  · intro each key document member
    obtain ⟨⟨_, held⟩, entryMember, shown⟩ := List.mem_map.mp member
    cases shown
    obtain ⟨other, found, same⟩ := each _ held entryMember
    exact ⟨_, ⟨other, found, rfl⟩, same⟩

/-! ## Equal values are shown alike -/

theorem toJson_number_equals {left right : Number} (same : left.equals right = true) :
    left.toJson.equals right.toJson = true := by
  cases left with
  | undefined => contradiction
  | infinite negative =>
      cases right with
      | infinite otherNegative => rfl
      | undefined | finite => contradiction
  | finite number =>
      cases right with
      | finite other =>
          obtain ⟨numeral, isWritten, written⟩ := Number.exists_written number
          obtain ⟨otherNumeral, otherIsWritten, otherWritten⟩ := Number.exists_written other
          rw [isWritten, otherIsWritten, Json.equals, written.equals_iff otherWritten]
          exact same
      | undefined | infinite => contradiction

theorem toJson_equals (same : value.equals other = true) :
    value.toJson.equals other.toJson = true := by
  induction value using parts_induction generalizing other with
  | step value inductionHypothesis =>
      rw [equals_iff_matches] at same
      cases same with
      | null | function | absent => rfl
      | bool | string => exact beq_self_eq_true _
      | number same => exact toJson_number_equals same
      | array each =>
          rw [toJson, toJson, Json.equals, itemsToJson_eq_map, itemsToJson_eq_map,
            equalsItems_map_toJson_iff]
          rw [List.forall₂_iff_get] at each ⊢
          exact ⟨each.1, fun position bound otherBound =>
            inductionHypothesis _ (List.get_mem _ _) (each.2 position bound otherBound)⟩
      | object sameLength each =>
          rw [toJson, toJson, Json.equals, entriesToJson_eq_map, entriesToJson_eq_map,
            Bool.and_eq_true, beq_iff_eq, List.length_map, List.length_map,
            equalsMembers_map_toJson_iff]
          refine ⟨sameLength, fun key held member => ?_⟩
          obtain ⟨other, found, same⟩ := each key held member
          exact ⟨other, found, inductionHypothesis held (mem_parts_object member) same⟩
      | present same =>
          rw [toJson, toJson]
          exact inductionHypothesis _ (List.mem_singleton_self _) same

/-! ## Values shown alike are equal -/

/-- A value that a document can hold: neither a function nor an optional nor a number that is not
finite. -/
inductive Plain : Value → Prop where
  | null : Plain null
  | bool (value : Bool) : Plain (bool value)
  | number (value : FiniteNumber) : Plain (number (.finite value))
  | string (value : String) : Plain (string value)
  | array (items : List Value) : Plain (array items)
  | object (entries : Entries) : Plain (object entries)

/-- How a plain value is shown. -/
inductive Shows : Value → Json → Prop where
  | null : Shows null .null
  | bool (value : Bool) : Shows (bool value) (.bool value)
  | number {value : FiniteNumber} {numeral : Numeral} (written : Number.Written value numeral) :
      Shows (number (.finite value)) (.number numeral)
  | string (value : String) : Shows (string value) (.string value)
  | array (items : List Value) : Shows (array items) (.array (items.map toJson))
  | object (entries : Entries) :
      Shows (object entries) (.object (entries.map (Prod.map id toJson)))

theorem Plain.shows (isPlain : value.Plain) : value.Shows value.toJson := by
  cases isPlain with
  | null => exact .null
  | bool value => exact .bool value
  | number value =>
      obtain ⟨numeral, isWritten, written⟩ := Number.exists_written value
      rw [toJson, isWritten]
      exact .number written
  | string value => exact .string value
  | array items =>
      rw [toJson, itemsToJson_eq_map]
      exact .array items
  | object entries =>
      rw [toJson, entriesToJson_eq_map]
      exact .object entries

private theorem matches_items {items others : List Value}
    (each : ∀ item ∈ items, ∀ other ∈ others, item.toJson.equals other.toJson = true →
      item.equals other = true)
    (same : Json.equalsItems (items.map toJson) (others.map toJson) = true) :
    Matches (fun left right => left.equals right = true) (array items) (array others) := by
  rw [equalsItems_map_toJson_iff, List.forall₂_iff_get] at same
  apply Matches.array
  rw [List.forall₂_iff_get]
  refine ⟨same.1, fun position bound otherBound => ?_⟩
  exact each _ (List.get_mem items ⟨position, bound⟩) _
    (List.get_mem others ⟨position, otherBound⟩) (same.2 position bound otherBound)

private theorem matches_members {entries others : Entries}
    (each : ∀ held ∈ entries.map Prod.snd, ∀ other ∈ others.map Prod.snd,
      held.toJson.equals other.toJson = true → held.equals other = true)
    (same : (Json.object (entries.map (Prod.map id toJson))).equals
      (.object (others.map (Prod.map id toJson))) = true) :
    Matches (fun left right => left.equals right = true) (object entries) (object others) := by
  rw [Json.equals, Bool.and_eq_true, beq_iff_eq, List.length_map, List.length_map,
    equalsMembers_map_toJson_iff] at same
  apply Matches.object same.1
  intro key held member
  obtain ⟨other, found, sameHeld⟩ := same.2 key held member
  exact ⟨other, found, each held (List.mem_map_of_mem member) other
    (List.mem_map_of_mem (Entries.mem_of_find? found)) sameHeld⟩

theorem equals_of_toJson_equals (isPlain : value.Throughout Plain)
    (otherPlain : other.Throughout Plain) (same : value.toJson.equals other.toJson = true) :
    value.equals other = true := by
  induction value using parts_induction generalizing other with
  | step value inductionHypothesis =>
      obtain ⟨here, inside⟩ := throughout_iff.mp isPlain
      obtain ⟨otherHere, otherInside⟩ := throughout_iff.mp otherPlain
      have each : ∀ part ∈ value.parts, ∀ otherPart ∈ other.parts,
          part.toJson.equals otherPart.toJson = true → part.equals otherPart = true :=
        fun part member otherPart otherMember => inductionHypothesis part member
          (inside part member) (otherInside otherPart otherMember)
      have shown := here.shows
      have otherShown := otherHere.shows
      rw [equals_iff_matches]
      revert same
      -- The cases are those of the documents, and how they show values gives the values back.
      generalize value.toJson = document, other.toJson = otherDocument at shown otherShown
      fun_cases Json.equals document otherDocument with
      | case1 =>
          cases shown
          cases otherShown
          exact fun _ => .null
      | case2 left right =>
          cases shown
          cases otherShown
          exact fun same => beq_iff_eq.mp same ▸ .bool _
      | case3 left right =>
          cases shown with
          | number written =>
              cases otherShown with
              | number otherWritten =>
                  exact fun same => .number ((written.equals_iff otherWritten).mp same)
      | case4 left right =>
          cases shown
          cases otherShown
          exact fun same => beq_iff_eq.mp same ▸ .string _
      | case5 lefts rights =>
          cases shown
          cases otherShown
          exact matches_items each
      | case6 lefts rights =>
          cases shown
          cases otherShown
          intro same
          exact matches_members each (by rwa [Json.equals])
      | case7 => nofun

/-- Equal values are shown as equal documents, and values that documents can hold are equal if they
are shown as equal documents. -/
theorem toJson_agrees_with_equals (value other : Value) :
    (value.equals other = true → value.toJson.equals other.toJson = true) ∧
      (value.Throughout Plain → other.Throughout Plain →
        value.toJson.equals other.toJson = true → value.equals other = true) :=
  ⟨toJson_equals, equals_of_toJson_equals⟩

/-- An object with two numbers. -/
def twoNumbers (key other : String) (first second : FiniteNumber) : Value :=
  object [(key, number (.finite first)), (other, number (.finite second))]

theorem throughout_twoNumbers (key other : String) (first second : FiniteNumber) :
    (twoNumbers key other first second).Throughout Plain := by
  have plainNumber (value : FiniteNumber) : (number (.finite value)).Throughout Plain :=
    throughout_iff.mpr ⟨.number value, nofun⟩
  rw [throughout_iff]
  constructor
  · exact .object _
  · intro part inside
    rcases List.mem_cons.mp inside with rfl | later
    · exact plainNumber first
    · cases List.mem_singleton.mp later
      exact plainNumber second

theorem toJson_agrees_with_equals_twoNumbers :
    (twoNumbers "bound" "zero" Number.rangeBound (.zero false)).equals
        (twoNumbers "zero" "bound" (.zero true) Number.rangeBound) = true ∧
      (twoNumbers "bound" "zero" Number.rangeBound (.zero false)).toJson.equals
        (twoNumbers "zero" "bound" (.zero true) Number.rangeBound).toJson = true := by
  obtain ⟨shownAlike, isEqual⟩ := toJson_agrees_with_equals
    (twoNumbers "bound" "zero" Number.rangeBound (.zero false))
    (twoNumbers "zero" "bound" (.zero true) Number.rangeBound)
  have same := isEqual (throughout_twoNumbers _ _ _ _) (throughout_twoNumbers _ _ _ _)
    (by decide +kernel)
  exact ⟨same, shownAlike same⟩

end Value

end Extraction
