import Mathlib.Data.List.Infix
import Extraction.Fault.Collection

/-!
# Values with a part replaced

What is at a place in a value can be replaced, and nothing else changes by that.  Of the faults
found elsewhere only those look different that show an object around the place.
-/

namespace Extraction

namespace Path

/-- A path continues another one if it leads to the place of that one or to a place below it. -/
def Continues (path lead : Path) : Prop :=
  ∃ rest, path = lead ++ rest

/-- The way from a place to one below it. -/
def after? (lead path : Path) : Option Path :=
  (path.segments.dropPrefix? lead.segments).map Path.mk

variable {path lead rest : Path} {here there : Segment}

theorem after?_eq_some_iff : lead.after? path = some rest ↔ path = lead ++ rest := by
  constructor
  · intro isAfter
    rcases Option.map_eq_some_iff.mp isAfter with ⟨segments, dropped, rfl⟩
    rcases List.dropPrefix?_eq_some_iff.mp dropped with ⟨before, split, same⟩
    rw [eq_of_beq same] at split
    exact Path.ext split
  · rintro rfl
    refine Option.map_eq_some_iff.mpr ⟨rest.segments, ?_, rfl⟩
    exact List.dropPrefix?_eq_some_iff.mpr ⟨lead.segments, rfl, beq_self_eq_true _⟩

theorem continues_append (lead rest : Path) : (lead ++ rest).Continues lead :=
  ⟨rest, rfl⟩

theorem Continues.trans {first second third : Path} (upper : second.Continues first)
    (lower : third.Continues second) : third.Continues first := by
  obtain ⟨rest, rfl⟩ := upper
  obtain ⟨further, rfl⟩ := lower
  exact ⟨rest ++ further, append_assoc first rest further⟩

/-- What lies below one segment does not lie below another one. -/
theorem Continues.eq_of_push (first : path.Continues (lead.push here))
    (second : path.Continues (lead.push there)) : here = there := by
  obtain ⟨rest, rfl⟩ := first
  obtain ⟨further, same⟩ := second
  have segments := congrArg Path.segments same
  simp only [segments_append, segments_push, List.append_assoc, List.singleton_append,
    List.append_cancel_left_eq, List.cons.injEq] at segments
  exact segments.1

end Path

namespace Value

/-- The value in which what is at a place is replaced; a place that the value does not have is left
alone. -/
def replace (replacement : Value) : List Segment → Value → Value
  | [], _ => replacement
  | .field key :: rest, .object entries =>
      match Entries.find? key entries with
      | some inner => .object (Entries.insert entries key (replace replacement rest inner))
      | none => .object entries
  | .index position :: rest, .array items =>
      .array (items.modify position (replace replacement rest))
  | _, value => value

/-- The value in which what is at the end of a path is replaced. -/
def replaceAt (value : Value) (place : Path) (replacement : Value) : Value :=
  replace replacement place.segments value

variable {value given replacement : Value} {place : Path} {key other : String}

@[simp]
theorem replaceAt_root (value replacement : Value) :
    value.replaceAt .root replacement = replacement := by
  cases value <;> rfl

@[simp]
theorem replaceAt_index (items : List Value) (position : Nat) (place : Path)
    (replacement : Value) :
    (array items).replaceAt (Path.root.pushIndex position ++ place) replacement =
      .array (items.modify position (·.replaceAt place replacement)) :=
  rfl

/-- Nothing becomes null unless null is put in its place. -/
theorem replaceAt_ne_null (isSet : value ≠ .null) (replacementIsSet : replacement ≠ .null) :
    value.replaceAt place replacement ≠ .null := by
  rcases place with ⟨_ | ⟨segment, rest⟩⟩
  · rw [show value.replaceAt ⟨[]⟩ replacement = replacement from replaceAt_root value replacement]
    exact replacementIsSet
  · cases value with
    | null => contradiction
    | object entries =>
        cases segment with
        | field key =>
            cases found : Entries.find? key entries <;> simp [replaceAt, replace, found]
        | index => simp [replaceAt, replace]
    | array items => cases segment <;> simp [replaceAt, replace]
    | _ => simp [replaceAt, replace]

/-- A change below one key is seen under that key. -/
theorem get?_replaceAt (found : value.get? key = some given)
    (isSet : given.replaceAt place replacement ≠ .null) :
    (value.replaceAt (.ofField key ++ place) replacement).get? key =
      some (given.replaceAt place replacement) := by
  rw [get?_eq_some_iff] at found ⊢
  cases value with
  | object entries =>
      have replaced : (object entries).replaceAt (.ofField key ++ place) replacement =
          .object (Entries.insert entries key (given.replaceAt place replacement)) := by
        change replace _ (.field key :: place.segments) _ = _
        rw [replace, show Entries.find? key entries = some given from found.1]
        rfl
      rw [replaced]
      exact ⟨Entries.find?_insert_self .., isSet⟩
  | _ => exact absurd found.1 (by simp [entries])

/-- A change below one key is not seen under another one. -/
theorem get?_replaceAt_of_ne (different : other ≠ key) :
    (value.replaceAt (.ofField key ++ place) replacement).get? other = value.get? other := by
  cases value with
  | object entries =>
      change (replace _ (.field key :: place.segments) _).get? other = _
      rw [replace]
      cases found : Entries.find? key entries with
      | none => rfl
      | some inner => simp only [get?, Value.entries, Entries.find?_insert_of_ne _ _ different]
  | _ => rfl

end Value

namespace Fault

/-- A fault after a change of the value at a place: a fault that shows the object in which a field
is missing shows the changed object, if the place is in it. -/
def revise (place : Path) (replacement : Value) (fault : Fault) : Fault :=
  match fault.cause, fault.path.parent?.bind (·.after? place) with
  | .missingStrict key object, some rest =>
      { fault with cause := .missingStrict key (object.replaceAt rest replacement) }
  | _, _ => fault

@[simp]
theorem path_revise (place : Path) (replacement : Value) (fault : Fault) :
    (fault.revise place replacement).path = fault.path := by
  unfold revise
  split <;> rfl

@[simp]
theorem kind_revise (place : Path) (replacement : Value) (fault : Fault) :
    (fault.revise place replacement).kind = fault.kind := by
  unfold revise
  split
  · next isMissing _ => rw [kind, kind, isMissing]; rfl
  · rfl

/-- A fault of an object shows the object as it is after the change. -/
theorem revise_missingStrict (path rest : Path) (key : String) (object replacement : Value) :
    revise (path ++ rest) replacement ⟨path.pushField key, .missingStrict key object⟩ =
      ⟨path.pushField key, .missingStrict key (object.replaceAt rest replacement)⟩ := by
  have isAfter : path.after? (path ++ rest) = some rest := Path.after?_eq_some_iff.mpr rfl
  simp [revise, Path.pushField, isAfter]

/-- A fault that is not about an object around the place stays as it is. -/
theorem revise_eq_self {place : Path} {fault : Fault}
    (apart : ∀ key object outer, fault.cause = .missingStrict key object →
      fault.path.parent? = some outer → ¬ place.Continues outer) (replacement : Value) :
    fault.revise place replacement = fault := by
  unfold revise
  split
  · next key object rest isMissing isAfter =>
      rcases Option.bind_eq_some_iff.mp isAfter with ⟨outer, isOuter, isRest⟩
      exact absurd ⟨rest, Path.after?_eq_some_iff.mp isRest⟩
        (apart key object outer isMissing isOuter)
  · rfl

end Fault

end Extraction
