import Extraction.Value.Merge

/-!
# Storing entries

What inserting entries one after the other leaves: which keys in which order, what stands under
each of them, and in which parts the entries may be inserted.
-/

namespace Extraction

namespace Entries

theorem keys_nodup_nil : (keys []).Nodup :=
  List.nodup_nil

/-- Storing under a key that is there already replaces what was stored, and commutes with storing
under another key. -/
theorem insert_comm {entries : Entries} {key other : String} {value further : Value}
    (different : other ≠ key) (stored : key ∈ entries.keys) :
    (entries.insert key value).insert other further =
      (entries.insert other further).insert key value := by
  induction entries with
  | nil => simp [keys] at stored
  | cons entry entries inductionHypothesis =>
      obtain ⟨first, former⟩ := entry
      by_cases isKey : first = key
      · have isNotOther : first ≠ other := fun same => different (same.symm.trans isKey)
        simp [insert, isKey, different.symm]
      · have storedLater : key ∈ keys entries := by
          rcases List.mem_cons.mp stored with same | later
          · exact absurd same.symm isKey
          · exact later
        by_cases isOther : first = other
        · simp [insert, isOther, different]
        · simp [insert, isKey, isOther, inductionHypothesis storedLater]

@[simp]
theorem insert_insert_self (entries : Entries) (key : String) (former value : Value) :
    (entries.insert key former).insert key value = entries.insert key value := by
  induction entries with
  | nil => simp [insert]
  | cons entry entries inductionHypothesis =>
      obtain ⟨first, held⟩ := entry
      by_cases same : first = key
      · simp [insert, same]
      · simp [insert, same, inductionHypothesis]

/-- A key that is stored already takes its value before or after entries with other keys. -/
theorem insertAll_insert {entries later : Entries} {key : String} {value : Value}
    (stored : key ∈ entries.keys) (other : key ∉ later.keys) :
    (entries.insert key value).insertAll later = (entries.insertAll later).insert key value := by
  induction later generalizing entries with
  | nil => rfl
  | cons entry later inductionHypothesis =>
      obtain ⟨first, held⟩ := entry
      have different : first ≠ key := fun same => other (same ▸ .head _)
      have storedLater : key ∈ (entries.insert first held).keys := by
        rw [keys_insert]
        split
        · exact stored
        · exact List.mem_append_left _ stored
      rw [insertAll, insertAll, insert_comm different stored]
      exact inductionHypothesis storedLater fun found => other (.tail _ found)

/-- Entries with distinct keys may be completed by one more before or after they are inserted. -/
theorem insertAll_insert_right {entries later : Entries} (distinct : later.keys.Nodup)
    (key : String) (value : Value) :
    entries.insertAll (later.insert key value) = (entries.insertAll later).insert key value := by
  induction later generalizing entries with
  | nil => rfl
  | cons entry later inductionHypothesis =>
      obtain ⟨first, held⟩ := entry
      obtain ⟨isNew, distinctLater⟩ := List.nodup_cons.mp distinct
      by_cases same : first = key
      · subst same
        have stored : first ∈ (entries.insert first held).keys :=
          List.mem_map_of_mem (mem_of_find? (find?_insert_self entries first held))
        simp only [insert, if_true, insertAll]
        rw [← insertAll_insert stored isNew, insert_insert_self]
      · simp only [insert, if_neg same, insertAll]
        exact inductionHypothesis distinctLater

/-- Further pairs may be stored among entries with distinct keys before these are inserted. -/
theorem insertAll_insertAll {entries later : Entries} (distinct : later.keys.Nodup)
    (pairs : List (String × Value)) :
    entries.insertAll (later.insertAll pairs) = (entries.insertAll later).insertAll pairs := by
  induction pairs generalizing later with
  | nil => rfl
  | cons pair pairs inductionHypothesis =>
      obtain ⟨key, value⟩ := pair
      rw [insertAll, inductionHypothesis (keys_nodup_insert distinct key value),
        insertAll_insert_right distinct, insertAll]

theorem insertAll_append (entries : Entries) (first second : List (String × Value)) :
    entries.insertAll (first ++ second) = (entries.insertAll first).insertAll second := by
  induction first generalizing entries with
  | nil => rfl
  | cons pair first inductionHypothesis =>
      obtain ⟨key, value⟩ := pair
      exact inductionHypothesis (entries.insert key value)

/-- Pairs that are stored one after the other may be stored in two parts. -/
theorem ofList_append (first second : List (String × Value)) :
    ofList (first ++ second) = (ofList first).insertAll (ofList second) := by
  have together : (ofList first).insertAll (ofList second) = (ofList first).insertAll second :=
    insertAll_insertAll keys_nodup_nil second
  rw [together, ofList, insertAll_append]
  rfl

theorem keys_nodup_insertAll {entries : Entries} (distinct : entries.keys.Nodup)
    (pairs : List (String × Value)) : (entries.insertAll pairs).keys.Nodup := by
  induction pairs generalizing entries with
  | nil => exact distinct
  | cons pair pairs inductionHypothesis =>
      obtain ⟨key, value⟩ := pair
      exact inductionHypothesis (keys_nodup_insert distinct key value)

theorem keys_nodup_ofList (pairs : List (String × Value)) : (ofList pairs).keys.Nodup :=
  keys_nodup_insertAll keys_nodup_nil pairs

theorem mem_keys_ofList_iff {pairs : List (String × Value)} {key : String} :
    key ∈ (ofList pairs).keys ↔ key ∈ pairs.map Prod.fst := by
  rw [keys_ofList, List.mem_eraseDups]

/-- A key that is not found is not there. -/
theorem find?_eq_none_iff {entries : Entries} {key : String} :
    entries.find? key = none ↔ key ∉ entries.keys := by
  induction entries with
  | nil => simp [keys]
  | cons entry entries inductionHypothesis =>
      obtain ⟨first, held⟩ := entry
      by_cases same : first = key
      · simp [find?, keys, same]
      · simp only [keys] at inductionHypothesis
        simp [find?, keys, same, Ne.symm same, inductionHypothesis]

/-- Of entries with distinct keys, those that are there are found. -/
theorem find?_eq_some_iff {entries : Entries} (distinct : entries.keys.Nodup) {key : String}
    {value : Value} : entries.find? key = some value ↔ (key, value) ∈ entries := by
  constructor
  · exact mem_of_find?
  · intro member
    induction entries with
    | nil => contradiction
    | cons entry entries inductionHypothesis =>
        obtain ⟨first, held⟩ := entry
        obtain ⟨isNew, distinctLater⟩ := List.nodup_cons.mp distinct
        rcases List.mem_cons.mp member with here | later
        · cases here
          simp [find?]
        · have stored : key ∈ keys entries := List.mem_map_of_mem later
          have different : first ≠ key := fun same => isNew (same ▸ stored)
          simp [find?, different, inductionHypothesis distinctLater later]

/-- The order of entries with distinct keys does not decide what is found under a key. -/
theorem find?_perm {entries other : Entries} (distinct : entries.keys.Nodup)
    (sameEntries : entries.Perm other) (key : String) : entries.find? key = other.find? key := by
  have otherDistinct : other.keys.Nodup := (sameEntries.map Prod.fst).nodup_iff.mp distinct
  ext value
  rw [find?_eq_some_iff distinct, find?_eq_some_iff otherDistinct, sameEntries.mem_iff]

/-- Where entries with distinct keys are inserted, a key that is repeated takes the later value. -/
theorem find?_insertAll {entries later : Entries} (distinct : later.keys.Nodup) (key : String) :
    (entries.insertAll later).find? key = (later.find? key).or (entries.find? key) := by
  induction later generalizing entries with
  | nil => rfl
  | cons entry later inductionHypothesis =>
      obtain ⟨first, held⟩ := entry
      obtain ⟨isNew, distinctLater⟩ := List.nodup_cons.mp distinct
      rw [insertAll, inductionHypothesis distinctLater, find?]
      by_cases same : first = key
      · subst same
        have missing : find? first later = none := find?_eq_none_iff.mpr isNew
        simp [missing]
      · simp [same, find?_insert_of_ne entries held (Ne.symm same)]

/-- Where entries with distinct keys are inserted, a key that is repeated keeps its first place. -/
theorem keys_insertAll_of_nodup {entries later : Entries} (distinct : later.keys.Nodup) :
    (entries.insertAll later).keys =
      entries.keys ++ later.keys.filter fun key => !entries.keys.contains key := by
  induction later generalizing entries with
  | nil => simp [insertAll, keys]
  | cons entry later inductionHypothesis =>
      obtain ⟨first, held⟩ := entry
      obtain ⟨isNew, distinctLater⟩ := List.nodup_cons.mp distinct
      have laterKeys : keys ((first, held) :: later) = first :: keys later := rfl
      rw [insertAll, inductionHypothesis distinctLater, keys_insert, laterKeys]
      by_cases stored : first ∈ keys entries
      · simp [stored]
      · have others : (keys later).filter (fun key => !(keys entries ++ [first]).contains key) =
            (keys later).filter fun key => !(keys entries).contains key := by
          apply List.filter_congr
          intro key member
          have different : key ≠ first := fun same => isNew (same ▸ member)
          simp [different]
        rw [if_neg stored, others, List.filter_cons_of_pos (by simpa using stored)]
        simp

theorem find?_insert (entries : Entries) (key : String) (value : Value) (other : String) :
    (entries.insert key value).find? other =
      if other = key then some value else entries.find? other := by
  by_cases same : other = key
  · subst same
    simp
  · rw [find?_insert_of_ne entries value same, if_neg same]

/-- What is found where pairs were inserted is one of them, or it was there before. -/
theorem mem_of_find?_insertAll {entries : Entries} {pairs : List (String × Value)} {key : String}
    {value : Value} (found : (entries.insertAll pairs).find? key = some value) :
    (key, value) ∈ pairs ∨ entries.find? key = some value := by
  induction pairs generalizing entries with
  | nil => exact .inr found
  | cons pair pairs inductionHypothesis =>
      obtain ⟨first, held⟩ := pair
      rcases inductionHypothesis found with later | before
      · exact .inl (.tail _ later)
      · rw [find?_insert] at before
        split at before
        · next same =>
            cases before
            subst same
            exact .inl (.head _)
        · exact .inr before

theorem mem_of_find?_ofList {pairs : List (String × Value)} {key : String} {value : Value}
    (found : (ofList pairs).find? key = some value) : (key, value) ∈ pairs := by
  rcases mem_of_find?_insertAll found with member | before
  · exact member
  · contradiction

/-- What a function gives for each name is found under that name. -/
theorem find?_ofList_map (names : List String) (held : String → Value) (key : String) :
    (ofList (names.map fun name => (name, held name))).find? key =
      if key ∈ names then some (held key) else none := by
  have isName : key ∈ (ofList (names.map fun name => (name, held name))).keys ↔ key ∈ names := by
    simp [mem_keys_ofList_iff]
  cases found : (ofList (names.map fun name => (name, held name))).find? key with
  | none =>
      rw [find?_eq_none_iff, isName] at found
      rw [if_neg found]
  | some value =>
      obtain ⟨name, member, isHeld⟩ := List.mem_map.mp (mem_of_find?_ofList found)
      cases isHeld
      rw [if_pos member]

theorem keys_nodup_merge {base : Entries} (distinct : base.keys.Nodup)
    (overlay : List (String × Value)) : (base.merge overlay).keys.Nodup := by
  induction overlay generalizing base with
  | nil => simpa using distinct
  | cons entry overlay inductionHypothesis =>
      obtain ⟨key, value⟩ := entry
      rw [merge_cons]
      exact inductionHypothesis (keys_nodup_insert distinct key _)

/-- Where an overlay with distinct keys is merged onto a base, a key that the overlay holds takes
its value, merged onto that of the base, and any other keeps the value of the base. -/
theorem find?_merge {overlay : Entries} (distinct : overlay.keys.Nodup) (base : Entries)
    (key : String) :
    (base.merge overlay).find? key =
      match overlay.find? key with
      | some value => some (Value.mergeOnto (base.find? key) value)
      | none => base.find? key := by
  induction overlay generalizing base with
  | nil => simp
  | cons entry overlay inductionHypothesis =>
      obtain ⟨first, held⟩ := entry
      obtain ⟨isNew, distinctLater⟩ := List.nodup_cons.mp distinct
      rw [merge_cons, inductionHypothesis distinctLater, find?_insert]
      by_cases same : first = key
      · subst same
        have missing : find? first overlay = none := find?_eq_none_iff.mpr isNew
        simp [find?, missing]
      · have notFirst : key ≠ first := Ne.symm same
        simp [find?, same, notFirst]

/-- A key that is not there is added at the end. -/
theorem insert_of_not_mem {entries : Entries} {key : String} (isNew : key ∉ entries.keys)
    (value : Value) : entries.insert key value = entries ++ [(key, value)] := by
  induction entries with
  | nil => rfl
  | cons entry entries inductionHypothesis =>
      obtain ⟨other, held⟩ := entry
      have isNewLater : key ∉ keys entries := fun later => isNew (.tail _ later)
      have different : other ≠ key := fun same => isNew (same ▸ .head _)
      simp [insert, different, inductionHypothesis isNewLater]

theorem insertAll_of_nodup {entries later : Entries} (distinct : (keys (entries ++ later)).Nodup) :
    entries.insertAll later = entries ++ later := by
  induction later generalizing entries with
  | nil => rw [insertAll, List.append_nil]
  | cons entry later inductionHypothesis =>
      obtain ⟨key, value⟩ := entry
      have isNew : key ∉ keys entries := by
        intro stored
        rw [keys, List.map_append, List.nodup_append] at distinct
        exact distinct.2.2 key stored key (.head _) rfl
      have sameEntries :
          entries ++ (key, value) :: later = (entries ++ [(key, value)]) ++ later := by
        rw [List.append_assoc, List.singleton_append]
      rw [sameEntries] at distinct
      rw [insertAll, insert_of_not_mem isNew, inductionHypothesis distinct, sameEntries]

/-- Pairs with distinct keys are stored as they are. -/
theorem ofList_eq_self {pairs : List (String × Value)} (distinct : (keys pairs).Nodup) :
    ofList pairs = pairs :=
  insertAll_of_nodup distinct

/-- What stands under a key of an object with distinct keys, unless it is null. -/
theorem get?_of_mem {value : Value} {entry : String × Value} (distinct : value.entries.keys.Nodup)
    (member : entry ∈ value.entries) :
    value.get? entry.1 = if entry.2.isNull then none else some entry.2 := by
  obtain ⟨key, held⟩ := entry
  have found : value.entries.find? key = some held := (find?_eq_some_iff distinct).mpr member
  rw [Value.get?, found]
  cases held <;> rfl

end Entries

end Extraction
