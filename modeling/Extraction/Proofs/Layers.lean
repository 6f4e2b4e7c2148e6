import Extraction.Proofs.Merging

/-!
# Overlays in layers

Overlays are merged onto a base one after the other.  They may be merged with each other first, as
long as none of them hides an object that a later one uncovers: once the object is hidden, what it
held is gone, but an overlay that was merged before does not tell.  An overlay that is merged again
changes nothing, and nor does one that holds nothing.
-/

namespace Extraction

namespace Value

variable {first middle last base overlay value : Value} {key : String}

/-! ## In either grouping -/

/-- Along no keys does the first value hold an object that the middle one hides under something
else and over which the last one holds an object again. -/
def NeverUncovers (first middle last : Value) : Prop :=
  ∀ keys, keys ≠ [] → ∀ (former latter : Entries) (hidden : Value),
    first.follow? keys = some (object former) → middle.follow? keys = some hidden →
      last.follow? keys = some (object latter) → ∃ entries, hidden = object entries

/-- Nothing is uncovered exactly if nothing is under any single key, neither there nor below. -/
theorem neverUncovers_iff :
    NeverUncovers first middle last ↔ ∀ key lower inner upper,
      first.entries.find? key = some lower → middle.entries.find? key = some inner →
        last.entries.find? key = some upper →
          (∀ former latter : Entries, lower = object former → upper = object latter →
            ∃ entries, inner = object entries) ∧ NeverUncovers lower inner upper := by
  constructor
  · intro covered key lower inner upper firstFound middleFound lastFound
    have along (keys : List String) (former latter : Entries) (hidden : Value)
        (lowerHolds : lower.follow? keys = some (object former))
        (innerHolds : inner.follow? keys = some hidden)
        (upperHolds : upper.follow? keys = some (object latter)) :
        ∃ entries, hidden = object entries := by
      apply covered (key :: keys) (List.cons_ne_nil key keys) former latter hidden
      · rwa [follow?_cons, firstFound]
      · rwa [follow?_cons, middleFound]
      · rwa [follow?_cons, lastFound]
    constructor
    · rintro former latter rfl rfl
      exact along [] former latter inner (follow?_nil _) (follow?_nil _) (follow?_nil _)
    · intro keys _
      exact along keys
  · intro each keys further former latter hidden firstHolds middleHolds lastHolds
    cases keys with
    | nil => contradiction
    | cons key keys =>
        rw [follow?_cons] at firstHolds middleHolds lastHolds
        rcases Option.bind_eq_some_iff.mp firstHolds with ⟨lower, firstFound, lowerHolds⟩
        rcases Option.bind_eq_some_iff.mp middleHolds with ⟨inner, middleFound, innerHolds⟩
        rcases Option.bind_eq_some_iff.mp lastHolds with ⟨upper, lastFound, upperHolds⟩
        rcases each key lower inner upper firstFound middleFound lastFound with ⟨here, below⟩
        cases keys with
        | nil =>
            rw [follow?_nil, Option.some.injEq] at lowerHolds innerHolds upperHolds
            rw [← innerHolds]
            exact here former latter lowerHolds upperHolds
        | cons next keys =>
            exact below (next :: keys) (List.cons_ne_nil next keys) former latter hidden lowerHolds
              innerHolds upperHolds

/-- Nothing is uncovered, neither here nor below, where the first or the last value is no
object. -/
theorem covered_of_asObject?_eq_none
    (isOther : first.asObject? = none ∨ last.asObject? = none) :
    (∀ former latter : Entries, first = object former → last = object latter →
      ∃ entries, middle = object entries) ∧ NeverUncovers first middle last := by
  constructor
  · rintro former latter rfl rfl
    rcases isOther with firstIsOther | lastIsOther <;> contradiction
  · intro keys further former latter hidden firstHolds _ lastHolds
    rcases isOther with firstIsOther | lastIsOther
    · rw [follow?_of_asObject?_eq_none firstIsOther further] at firstHolds
      contradiction
    · rw [follow?_of_asObject?_eq_none lastIsOther further] at lastHolds
      contradiction

private theorem mergeOnto_assoc {lower : Option Value} {inner upper : Value}
    (covered : ∀ former latter : Entries, lower = some (object former) → upper = object latter →
      ∃ entries, inner = object entries)
    (nested : ∀ former entries latter : Entries, lower = some (object former) →
      inner = object entries → upper = object latter →
      ((object former).merge (object entries)).merge (object latter) =
        (object former).merge ((object entries).merge (object latter))) :
    mergeOnto (some (mergeOnto lower inner)) upper =
      mergeOnto lower (mergeOnto (some inner) upper) := by
  rcases mergeOnto_cases lower upper with
    ⟨upperKind | below, _⟩ | ⟨former, latter, lowerIsObject, upperIsObject⟩
  · simp only [mergeOnto_of_asObject?_eq_none upperKind]
  · simp only [mergeOnto_of_bind_asObject?_eq_none below]
  · -- The object below would be uncovered if the layer between were no object.
    rcases covered former latter lowerIsObject upperIsObject with ⟨entries, rfl⟩
    rw [lowerIsObject, upperIsObject, mergeOnto_object, mergeOnto_object]
    exact nested former entries latter lowerIsObject rfl upperIsObject

private theorem overlaid_assoc {lower inner upper : Option Value}
    (covered : ∀ (former latter : Entries) (hidden : Value), lower = some (object former) →
      inner = some hidden → upper = some (object latter) → ∃ entries, hidden = object entries)
    (nested : ∀ former entries latter : Entries, lower = some (object former) →
      inner = some (object entries) → upper = some (object latter) →
      ((object former).merge (object entries)).merge (object latter) =
        (object former).merge ((object entries).merge (object latter))) :
    overlaid (overlaid lower inner) upper = overlaid lower (overlaid inner upper) := by
  cases upper with
  | none => rfl
  | some latest =>
      cases inner with
      | none =>
          have asItIs : mergeOnto none latest = latest :=
            mergeOnto_of_bind_asObject?_eq_none rfl latest
          simp only [overlaid, asItIs]
      | some hidden =>
          simp only [overlaid, Option.some.injEq]
          apply mergeOnto_assoc
          · rintro former latter lowerHolds rfl
            exact covered former latter hidden lowerHolds rfl rfl
          · rintro former entries latter lowerHolds rfl rfl
            exact nested former entries latter lowerHolds rfl rfl

end Value

namespace Entries

/-- The keys of three layers stand in the same order in either grouping. -/
theorem keys_merge_assoc {middle last : Entries} (middleDistinct : middle.keys.Nodup)
    (lastDistinct : last.keys.Nodup) (first : Entries) :
    ((first.merge middle).merge last).keys = (first.merge (middle.merge last)).keys := by
  have togetherDistinct : (middle.merge last).keys.Nodup := keys_nodup_merge middleDistinct last
  rw [keys_merge lastDistinct, keys_merge middleDistinct, keys_merge togetherDistinct,
    keys_merge lastDistinct, List.filter_append, List.filter_filter, List.append_assoc]
  have sameNew : (last.keys.filter fun key =>
        !(first.keys ++ middle.keys.filter fun key => !first.keys.contains key).contains key) =
      last.keys.filter fun key => !first.keys.contains key && !middle.keys.contains key := by
    apply List.filter_congr
    intro key _
    by_cases inFirst : key ∈ first.keys <;> simp [inFirst]
  rw [sameNew]

end Entries

namespace Value

variable {first middle last base overlay value : Value} {key : String}

/-- Layers may be merged in either grouping, the order of keys at every depth included, unless an
object of the first is hidden under something else by the middle one and uncovered by an object of
the last. -/
theorem merge_assoc (firstDistinct : first.keysDistinct = true)
    (middleDistinct : middle.keysDistinct = true) (lastDistinct : last.keysDistinct = true)
    (covered : NeverUncovers first middle last) :
    (first.merge middle).merge last = first.merge (middle.merge last) := by
  induction middle using induction_on_entries generalizing first last with
  | step middle inductionHypothesis =>
      have togetherDistinct : (middle.merge last).entries.keys.Nodup :=
        Entries.keys_nodup_merge (nodup_keys middleDistinct) last.entries
      have layersDistinct : ((first.merge middle).merge last).entries.keys.Nodup :=
        Entries.keys_nodup_merge (Entries.keys_nodup_merge (nodup_keys firstDistinct) _) _
      have sameKeys := Entries.keys_merge_assoc (nodup_keys middleDistinct)
        (nodup_keys lastDistinct) first.entries
      have same (key : String) : ((first.merge middle).merge last).entries.find? key =
          (first.merge (middle.merge last)).entries.find? key := by
        rw [find?_entries_merge (nodup_keys lastDistinct),
          find?_entries_merge (nodup_keys middleDistinct), find?_entries_merge togetherDistinct,
          find?_entries_merge (nodup_keys lastDistinct)]
        apply overlaid_assoc
        · rintro former latter hidden firstFound middleFound lastFound
          have here := neverUncovers_iff.mp covered key _ _ _ firstFound middleFound lastFound
          exact here.1 former latter rfl rfl
        · intro former entries latter firstFound middleFound lastFound
          have here := neverUncovers_iff.mp covered key _ _ _ firstFound middleFound lastFound
          exact inductionHypothesis key _ middleFound
            (keysDistinct_of_find? firstDistinct firstFound)
            (keysDistinct_of_find? middleDistinct middleFound)
            (keysDistinct_of_find? lastDistinct lastFound) here.2
      exact congrArg object (Entries.eq_of_find? layersDistinct sameKeys same)

/-- Later changes of the settings. -/
def revision : Value :=
  .object [("theme", .string "light"), ("language", .object [("menus", .string "fr")]),
    ("window", .object [("size", .object [("width", .string "full")]),
      ("title", .string "Final")])]

/-- Both changes may be merged before they are made, although the theme is hidden under null and
the language was no object before. -/
theorem merge_assoc_settings : NeverUncovers settings changes revision ∧
    (settings.merge changes).merge revision = settings.merge (changes.merge revision) := by
  have covered : NeverUncovers settings changes revision := by
    apply neverUncovers_iff.mpr
    intro key lower inner upper firstFound middleFound lastFound
    have member := Entries.mem_of_find? firstFound
    simp only [settings, entries, List.mem_cons, Prod.mk.injEq, List.not_mem_nil,
      or_false] at member
    rcases member with ⟨rfl, rfl⟩ | ⟨rfl, rfl⟩ | ⟨rfl, rfl⟩
    · -- The window is an object in all three, and neither its title nor its size is.
      cases middleFound
      constructor
      · intro former latter _ _
        exact ⟨_, rfl⟩
      · apply neverUncovers_iff.mpr
        intro key lower inner upper firstFound _ _
        have member := Entries.mem_of_find? firstFound
        simp only [entries, List.mem_cons, Prod.mk.injEq, List.not_mem_nil, or_false] at member
        rcases member with ⟨rfl, rfl⟩ | ⟨rfl, rfl⟩
        · exact covered_of_asObject?_eq_none (.inl rfl)
        · exact covered_of_asObject?_eq_none (.inl rfl)
    · -- The theme is hidden, but not uncovered.
      cases lastFound
      exact covered_of_asObject?_eq_none (.inr rfl)
    · exact covered_of_asObject?_eq_none (.inl rfl)
  exact ⟨covered, merge_assoc (by decide) (by decide) (by decide) covered⟩

/-- An object that is hidden by the second layer and uncovered by the third is lost, unless these
two are merged first. -/
example :
    let first := object [("theme", object [("name", string "dark")])]
    let middle := object [("theme", null)]
    let last := object [("theme", object [("size", string "large")])]
    ((first.merge middle).merge last).follow? ["theme", "name"] = none ∧
      (first.merge (middle.merge last)).follow? ["theme", "name"] = some (string "dark") :=
  ⟨rfl, rfl⟩

/-! ## Once more -/

private theorem merge_eq_self {entries : Entries} (distinct : overlay.entries.keys.Nodup)
    (absorbed : ∀ key held, overlay.entries.find? key = some held → ∃ former,
      entries.find? key = some former ∧ mergeOnto (some former) held = former) :
    (object entries).merge overlay = object entries := by
  apply congrArg object
  apply Entries.merge_eq_self
  intro entry member
  exact absorbed entry.1 entry.2 ((Entries.find?_eq_some_iff distinct).mpr member)

/-- A value is absorbed by itself. -/
theorem mergeOnto_self (distinct : value.keysDistinct = true) :
    mergeOnto (some value) value = value := by
  induction value using induction_on_entries with
  | step value inductionHypothesis =>
      rcases mergeOnto_cases (some value) value with ⟨_, replaces⟩ | ⟨_, entries, _, rfl⟩
      · exact replaces
      · rw [mergeOnto_object]
        apply merge_eq_self (nodup_keys distinct)
        intro key held found
        have heldDistinct := keysDistinct_of_find? distinct found
        exact ⟨held, found, inductionHypothesis key held found heldDistinct⟩

/-- A merge is not changed by the same overlay, if what it has made of each value absorbs that
value. -/
private theorem merge_merge_of_absorbed (distinct : overlay.entries.keys.Nodup)
    (absorbed : ∀ key held, overlay.entries.find? key = some held →
      mergeOnto (some (mergeOnto (base.entries.find? key) held)) held =
        mergeOnto (base.entries.find? key) held) :
    (base.merge overlay).merge overlay = base.merge overlay := by
  apply merge_eq_self distinct
  intro key held found
  refine ⟨mergeOnto (base.entries.find? key) held, ?_, absorbed key held found⟩
  rw [← entries_merge, find?_entries_merge distinct, found, overlaid]

/-- What a value was put onto absorbs it.  Where it has replaced what was there, it is put onto
itself the second time. -/
theorem mergeOnto_mergeOnto_self (distinct : value.keysDistinct = true) (existing : Option Value) :
    mergeOnto (some (mergeOnto existing value)) value = mergeOnto existing value := by
  induction value using induction_on_entries generalizing existing with
  | step value inductionHypothesis =>
      rcases mergeOnto_cases existing value with ⟨_, replaces⟩ | ⟨former, latter, rfl, rfl⟩
      · rw [replaces]
        exact mergeOnto_self distinct
      · have again : ((object former).merge (object latter)).merge (object latter) =
            (object former).merge (object latter) := by
          apply merge_merge_of_absorbed (nodup_keys distinct)
          intro key held found
          exact inductionHypothesis key held found (keysDistinct_of_find? distinct found) _
        rw [mergeOnto_object]
        exact (mergeOnto_object (former.merge latter) latter).trans again

end Value

/-- Onto nothing, entries are put as they are. -/
theorem Entries.nil_merge {overlay : Entries} (distinct : overlay.keys.Nodup) :
    Entries.merge [] overlay = overlay := by
  apply Entries.eq_of_find? (Entries.keys_nodup_merge Entries.keys_nodup_nil overlay)
  · rw [Entries.keys_merge distinct]
    exact List.filter_eq_self.mpr fun _ _ => rfl
  · intro key
    rw [Entries.find?_merge distinct]
    cases overlay.find? key with
    | none => rfl
    | some value => exact congrArg some (Value.mergeOnto_of_bind_asObject?_eq_none rfl value)

namespace Value

variable {layer : Value}

/-- To merge the same layer again changes nothing, the order of keys included, and blank layers
are neutral among objects. -/
theorem merge_again (base : Value) (distinct : layer.keysDistinct = true) :
    (base.merge layer).merge layer = base.merge layer ∧
    (∀ entries, layer = .object entries → layer.merge layer = layer) ∧
    ∀ blank : Value, blank = .emptyObject ∨ blank.asObject? = none →
      (∀ entries, layer = .object entries →
        blank.merge layer = layer ∧ layer.merge blank = layer) ∧
      (layer.asObject? = none →
        blank.merge layer = .emptyObject ∧ layer.merge blank = .emptyObject) := by
  constructor
  · apply merge_merge_of_absorbed (nodup_keys distinct)
    intro key held found
    exact mergeOnto_mergeOnto_self (keysDistinct_of_find? distinct found) _
  · constructor
    · rintro entries rfl
      rw [← mergeOnto_object]
      exact mergeOnto_self distinct
    · intro blank isBlank
      have noEntries : blank.entries = [] := by
        rcases isBlank with rfl | isOther
        · rfl
        · cases blank <;> first | rfl | contradiction
      have onto : blank.merge layer = object layer.entries := by
        rw [merge, noEntries, Entries.nil_merge (nodup_keys distinct)]
      have under : layer.merge blank = object layer.entries := by
        rw [merge, noEntries, Entries.merge_nil]
      rw [onto, under]
      constructor
      · rintro entries rfl
        exact ⟨rfl, rfl⟩
      · intro isOther
        cases layer <;> first | exact ⟨rfl, rfl⟩ | contradiction

/-- The changes of the settings may be made twice, and they stay as they are if they are merged
with themselves, with the empty object or with null. -/
theorem merge_again_settings :
    (settings.merge changes).merge changes = settings.merge changes ∧
    changes.merge changes = changes ∧
    emptyObject.merge changes = changes ∧ changes.merge null = changes := by
  have distinct : changes.keysDistinct = true := by decide
  rcases merge_again settings distinct with ⟨again, onItself, blank⟩
  refine ⟨again, onItself _ rfl, ?_, ?_⟩
  · exact ((blank emptyObject (.inl rfl)).1 _ rfl).1
  · exact ((blank null (.inr rfl)).1 _ rfl).2

end Value

end Extraction
