import Extraction.Proofs.KeyPaths

/-!
# Merged values

A merge is described key by key: under each key it holds what the overlay has there, put onto what
the base has, or else what the base has.  So it is known along every list of keys which of the two
sides decides, and in which order the keys of merged objects stand.
-/

namespace Extraction

/-! ## Entries -/

namespace Entries

/-- Storing what is stored already changes nothing. -/
theorem insert_eq_self {entries : Entries} {key : String} {value : Value}
    (found : entries.find? key = some value) : entries.insert key value = entries := by
  induction entries with
  | nil => contradiction
  | cons entry entries inductionHypothesis =>
      obtain ⟨first, held⟩ := entry
      by_cases same : first = key
      · rw [find?, if_pos same] at found
        cases found
        rw [insert, if_pos same, same]
      · rw [find?, if_neg same] at found
        rw [insert, if_neg same, inductionHypothesis found]

/-- Entries are known by their keys, in order, and by what is found under each of them. -/
theorem eq_of_find? {entries others : Entries} (distinct : entries.keys.Nodup)
    (sameKeys : entries.keys = others.keys)
    (same : ∀ key, entries.find? key = others.find? key) : entries = others := by
  induction entries generalizing others with
  | nil => exact (List.map_eq_nil_iff.mp sameKeys.symm).symm
  | cons entry entries inductionHypothesis =>
      obtain ⟨first, held⟩ := entry
      obtain ⟨isNew, distinctLater⟩ := List.nodup_cons.mp distinct
      cases others with
      | nil => contradiction
      | cons other others =>
          obtain ⟨second, otherHeld⟩ := other
          obtain ⟨rfl, sameLater⟩ := List.cons.inj sameKeys
          have sameHeld := same first
          simp only [find?, if_true, Option.some.injEq] at sameHeld
          have sameRest : entries = others := by
            apply inductionHypothesis distinctLater sameLater
            intro key
            by_cases isFirst : first = key
            · subst isFirst
              have isNewThere : first ∉ keys others := fun member => isNew (sameLater ▸ member)
              rw [find?_eq_none_iff.mpr isNew, find?_eq_none_iff.mpr isNewThere]
            · have sameKey := same key
              rwa [find?, if_neg isFirst, find?, if_neg isFirst] at sameKey
          rw [sameHeld, sameRest]

private theorem keys_merge_eq_keys_insertAll {base other : Entries}
    (sameKeys : base.keys = other.keys) (overlay : Entries) :
    (base.merge overlay).keys = (other.insertAll overlay).keys := by
  induction overlay generalizing base other with
  | nil => simpa [insertAll] using sameKeys
  | cons entry overlay inductionHypothesis =>
      obtain ⟨key, value⟩ := entry
      rw [merge_cons, insertAll]
      apply inductionHypothesis
      rw [keys_insert, keys_insert, sameKeys]

/-- A merge has the keys of the base in their order and then the keys that only the overlay has, in
theirs. -/
theorem keys_merge {overlay : Entries} (distinct : overlay.keys.Nodup) (base : Entries) :
    (base.merge overlay).keys =
      base.keys ++ overlay.keys.filter fun key => !base.keys.contains key := by
  rw [keys_merge_eq_keys_insertAll rfl, keys_insertAll_of_nodup distinct]

/-- An overlay changes nothing if each of its values is absorbed by what the base holds. -/
theorem merge_eq_self {base overlay : Entries}
    (absorbed : ∀ entry ∈ overlay, ∃ held,
      base.find? entry.1 = some held ∧ Value.mergeOnto (some held) entry.2 = held) :
    base.merge overlay = base := by
  induction overlay with
  | nil => exact merge_nil base
  | cons entry overlay inductionHypothesis =>
      obtain ⟨key, value⟩ := entry
      obtain ⟨held, found, isAbsorbed⟩ := absorbed (key, value) (.head _)
      rw [merge_cons, found, isAbsorbed, insert_eq_self found]
      exact inductionHypothesis fun other member => absorbed other (.tail _ member)

end Entries

namespace Value

/-! ## What stands under a key -/

variable {base overlay value leaf : Value} {existing : Option Value} {key : String}
  {keys : List String}

theorem asObject?_eq_some_iff {entries : Entries} :
    value.asObject? = some entries ↔ value = object entries := by
  cases value <;> simp [asObject?]

@[simp]
theorem mergeOnto_object (base overlay : Entries) :
    mergeOnto (some (object base)) (object overlay) = (object base).merge (object overlay) := by
  rw [mergeOnto, merge, entries, entries]

/-- What is no object replaces whatever was there. -/
theorem mergeOnto_of_asObject?_eq_none (isOther : value.asObject? = none)
    (existing : Option Value) :
    mergeOnto existing value = value := by
  cases value with
  | object => contradiction
  | _ => rw [mergeOnto]; nofun

/-- What is no object, or not there, is replaced by whatever is put onto it. -/
theorem mergeOnto_of_bind_asObject?_eq_none (isOther : existing.bind asObject? = none)
    (value : Value) : mergeOnto existing value = value := by
  cases kind : value.asObject? with
  | none => exact mergeOnto_of_asObject?_eq_none kind existing
  | some entries =>
      rw [asObject?_eq_some_iff.mp kind, mergeOnto]
      rintro former rfl
      contradiction

/-- A value replaces what it is put onto, unless both are objects, which are merged. -/
theorem mergeOnto_cases (existing : Option Value) (value : Value) :
    (value.asObject? = none ∨ existing.bind asObject? = none) ∧ mergeOnto existing value = value ∨
      ∃ former latter : Entries, existing = some (object former) ∧ value = object latter := by
  cases kind : value.asObject? with
  | none => exact .inl ⟨.inl rfl, mergeOnto_of_asObject?_eq_none kind existing⟩
  | some latter =>
      cases below : existing.bind asObject? with
      | none => exact .inl ⟨.inr rfl, mergeOnto_of_bind_asObject?_eq_none below value⟩
      | some former =>
          rcases Option.bind_eq_some_iff.mp below with ⟨inner, isThere, innerKind⟩
          rw [asObject?_eq_some_iff.mp innerKind] at isThere
          exact .inr ⟨former, latter, isThere, asObject?_eq_some_iff.mp kind⟩

/-- What a merge holds under a key, given what the base and the overlay hold there. -/
def overlaid (base overlay : Option Value) : Option Value :=
  match overlay with
  | some value => some (mergeOnto base value)
  | none => base

theorem find?_entries_merge (distinct : overlay.entries.keys.Nodup) (base : Value) (key : String) :
    (base.merge overlay).entries.find? key =
      overlaid (base.entries.find? key) (overlay.entries.find? key) := by
  rw [entries_merge, Entries.find?_merge distinct]
  rfl

/-! ## What a merge holds along keys -/

theorem exists_object_of_follow? {entries : Entries}
    (found : value.follow? keys = some (object entries)) : ∃ outer, value = object outer := by
  cases kind : value.asObject? with
  | some outer => exact ⟨outer, asObject?_eq_some_iff.mp kind⟩
  | none =>
      cases keys with
      | nil =>
          rw [follow?_nil] at found
          exact ⟨entries, Option.some.inj found⟩
      | cons key keys =>
          rw [follow?_of_asObject?_eq_none kind (List.cons_ne_nil key keys)] at found
          contradiction

/-- Where both sides hold an object, a merge holds the merge of the two. -/
theorem follow?_merge_objects (distinct : overlay.keysDistinct = true) {former latter : Entries}
    (baseHolds : base.follow? keys = some (object former))
    (overlayHolds : overlay.follow? keys = some (object latter)) :
    (base.merge overlay).follow? keys = some ((object former).merge (object latter)) := by
  induction keys generalizing base overlay with
  | nil =>
      rw [follow?_nil] at baseHolds overlayHolds ⊢
      rw [Option.some.inj baseHolds, Option.some.inj overlayHolds]
  | cons key keys inductionHypothesis =>
      rw [follow?_cons] at baseHolds overlayHolds
      rcases Option.bind_eq_some_iff.mp baseHolds with ⟨inner, found, innerHolds⟩
      rcases Option.bind_eq_some_iff.mp overlayHolds with ⟨upper, overlayFound, upperHolds⟩
      rcases exists_object_of_follow? innerHolds with ⟨innerEntries, rfl⟩
      rcases exists_object_of_follow? upperHolds with ⟨upperEntries, rfl⟩
      rw [follow?_cons, find?_entries_merge (nodup_keys distinct), found, overlayFound, overlaid,
        mergeOnto_object, Option.bind_some]
      exact inductionHypothesis (keysDistinct_of_find? distinct overlayFound) innerHolds upperHolds

/-- A merge puts something other than an object under a key only if the overlay has it there. -/
theorem mergeOnto_eq_iff (isOther : leaf.asObject? = none) :
    mergeOnto existing value = leaf ↔ value = leaf := by
  rcases mergeOnto_cases existing value with ⟨_, replaces⟩ | ⟨former, latter, rfl, rfl⟩
  · rw [replaces]
  · rw [mergeOnto_object]
    constructor
    · rintro rfl
      contradiction
    · rintro rfl
      contradiction

/-- Below a key, what the overlay holds there decides, or what the base holds where that of the
overlay breaks off. -/
private theorem follow?_mergeOnto_iff (further : keys ≠ [])
    (nested : ∀ former latter, existing = some (object former) → value = object latter →
      (((object former).merge (object latter)).follow? keys = some leaf ↔
        (object latter).follow? keys = some leaf ∨
          (object former).follow? keys = some leaf ∧ (object latter).breaksOff keys = true)) :
    (mergeOnto existing value).follow? keys = some leaf ↔
      value.follow? keys = some leaf ∨
        existing.bind (follow? · keys) = some leaf ∧ value.breaksOff keys = true := by
  rcases mergeOnto_cases existing value with
    ⟨kind | below, replaces⟩ | ⟨former, latter, rfl, rfl⟩
  · simp [replaces, breaksOff_of_asObject?_eq_none kind]
  · have missing : existing.bind (follow? · keys) = none := by
      cases existing with
      | none => rfl
      | some inner => exact follow?_of_asObject?_eq_none below further
    simp [replaces, missing]
  · rw [mergeOnto_object]
    exact nested former latter rfl rfl

/-- Along keys a merge holds something other than an object exactly where the overlay holds it, or
where the base holds it and the overlay is no object or breaks off. -/
theorem follow?_merge_iff (distinct : overlay.keysDistinct = true) (further : keys ≠ [])
    (isOther : leaf.asObject? = none) :
    (base.merge overlay).follow? keys = some leaf ↔
      overlay.follow? keys = some leaf ∨
        base.follow? keys = some leaf ∧
          (overlay.asObject? = none ∨ overlay.breaksOff keys = true) := by
  induction keys generalizing base overlay with
  | nil => contradiction
  | cons key keys inductionHypothesis =>
      rw [follow?_cons, find?_entries_merge (nodup_keys distinct), follow?_cons overlay,
        follow?_cons base]
      cases found : overlay.entries.find? key with
      | none => simp [overlaid, asObject?_eq_none_or_breaksOff found keys]
      | some held =>
          have isObject : overlay.asObject? ≠ none := by
            intro kind
            cases overlay <;> contradiction
          simp only [overlaid, Option.bind_some, breaksOff_of_find? found, isObject, false_or]
          cases keys with
          | nil => simp [mergeOnto_eq_iff isOther]
          | cons next keys =>
              apply follow?_mergeOnto_iff (List.cons_ne_nil next keys)
              rintro former latter _ rfl
              have step := @inductionHypothesis (object former) (object latter)
                (keysDistinct_of_find? distinct found) (List.cons_ne_nil next keys)
              simpa [asObject?] using step

/-- Along every list of keys a merge holds what the overlay holds, or what the base holds if the
overlay breaks off before, and objects on both sides are merged. -/
theorem merge_along_keys (base : Value) {overlay : Value}
    (distinct : overlay.keysDistinct = true) :
    (∀ keys leaf, keys ≠ [] → leaf.asObject? = none →
      ((base.merge overlay).follow? keys = some leaf ↔
        overlay.follow? keys = some leaf ∨
          base.follow? keys = some leaf ∧
            (overlay.asObject? = none ∨ overlay.breaksOff keys = true))) ∧
    (∀ keys (former latter : Entries), base.follow? keys = some (.object former) →
      overlay.follow? keys = some (.object latter) →
      ∃ merged : Entries, (base.merge overlay).follow? keys = some (.object merged) ∧
        merged.keys = former.keys ++ latter.keys.filter fun key => !former.keys.contains key) ∧
    ∃ entries, base.merge overlay = .object entries := by
  constructor
  · intro keys leaf further isOther
    exact follow?_merge_iff distinct further isOther
  · constructor
    · intro keys former latter baseHolds overlayHolds
      have latterDistinct : latter.keys.Nodup :=
        nodup_keys (keysDistinct_of_follow? distinct overlayHolds)
      exact ⟨former.merge latter, follow?_merge_objects distinct baseHolds overlayHolds,
        Entries.keys_merge latterDistinct former⟩
    · exact ⟨base.entries.merge overlay.entries, rfl⟩

/-- Settings of an editor. -/
def settings : Value :=
  .object [("window", .object [("title", .string "Notes"), ("size", .string "wide")]),
    ("theme", .object [("name", .string "dark")]), ("language", .string "en")]

/-- Changes of the settings. -/
def changes : Value :=
  .object [("language", .object [("menus", .string "de")]), ("theme", .null),
    ("window", .object [("place", .string "left"), ("title", .string "Draft")])]

/-- Of the window the title is changed, the size stays and the place comes last; nothing is left of
the theme, and an object takes the place of the language. -/
theorem merge_along_keys_settings :
    (settings.merge changes).follow? ["window", "title"] = some (.string "Draft") ∧
    (settings.merge changes).follow? ["window", "size"] = some (.string "wide") ∧
    (settings.merge changes).follow? ["theme", "name"] ≠ some (.string "dark") ∧
    (settings.merge changes).follow? ["language", "menus"] = some (.string "de") ∧
    ∃ window : Entries, (settings.merge changes).follow? ["window"] = some (.object window) ∧
      window.keys = ["title", "size", "place"] := by
  have distinct : changes.keysDistinct = true := by decide
  rcases merge_along_keys settings distinct with ⟨others, objects, _⟩
  refine ⟨?_, ?_, ?_, ?_, ?_⟩
  · exact (others _ _ (List.cons_ne_nil _ _) rfl).mpr (.inl rfl)
  · exact (others _ _ (List.cons_ne_nil _ _) rfl).mpr (.inr ⟨rfl, .inr rfl⟩)
  · intro remains
    rcases (others _ _ (List.cons_ne_nil _ _) rfl).mp remains with held | ⟨_, isOther | breaks⟩
    · contradiction
    · contradiction
    · contradiction
  · exact (others _ _ (List.cons_ne_nil _ _) rfl).mpr (.inl rfl)
  · exact objects ["window"] _ _ rfl rfl

end Value

end Extraction
