import Extraction.Number.Rounding

/-!
# Values

The dynamic values that schemas are run on and produce: the shapes of a document, functions, and
optionals, which record whether an optional field was there.
-/

namespace Extraction

/-- A function of the host, known by its handle, or one that is limited to `arity` arguments and
passes its answers through a retriever, known by its parts and not by where it is allocated. -/
inductive Callable where
  | host (handle : Nat)
  | limited (inner : Callable) (arity : Nat) (retriever : Nat)
deriving DecidableEq, Repr

/-- A value.  The entries of an object are kept in the order in which their keys first came. -/
inductive Value where
  | null
  | bool (value : Bool)
  | number (value : Number)
  | string (value : String)
  | array (items : List Value)
  | object (entries : List (String × Value))
  | function (callable : Callable)
  | absent
  | present (value : Value)

/-- The entries of an object. -/
abbrev Entries := List (String × Value)

namespace Entries

/-- The value under a key. -/
def find? (key : String) : Entries → Option Value
  | [] => none
  | (other, value) :: entries => if other = key then some value else find? key entries

/-- Puts a value under a key: a key that is already there keeps its place. -/
def insert (entries : Entries) (key : String) (value : Value) : Entries :=
  match entries with
  | [] => [(key, value)]
  | (other, former) :: rest =>
      if other = key then (key, value) :: rest else (other, former) :: insert rest key value

/-- Inserts further entries one after the other. -/
def insertAll (entries : Entries) : List (String × Value) → Entries
  | [] => entries
  | (key, value) :: rest => insertAll (insert entries key value) rest

/-- The entries of a list of pairs: of a repeated key the last value counts and the first place. -/
def ofList (pairs : List (String × Value)) : Entries :=
  insertAll [] pairs

/-- The keys in order. -/
def keys (entries : Entries) : List String :=
  entries.map Prod.fst

@[simp]
theorem find?_nil (key : String) : find? key [] = none :=
  rfl

@[simp]
theorem find?_insert_self (entries : Entries) (key : String) (value : Value) :
    find? key (insert entries key value) = some value := by
  induction entries with
  | nil => simp [insert, find?]
  | cons entry entries inductionHypothesis =>
      obtain ⟨other, former⟩ := entry
      by_cases same : other = key <;> simp [insert, find?, same, inductionHypothesis]

theorem find?_insert_of_ne (entries : Entries) {key other : String} (value : Value)
    (different : other ≠ key) : find? other (insert entries key value) = find? other entries := by
  induction entries with
  | nil => simp [insert, find?, Ne.symm different]
  | cons entry entries inductionHypothesis =>
      obtain ⟨first, former⟩ := entry
      by_cases same : first = key
      · simp [insert, find?, same, Ne.symm different]
      · simp [insert, find?, same, inductionHypothesis]

theorem mem_of_find? {entries : Entries} {key : String} {value : Value}
    (found : find? key entries = some value) : (key, value) ∈ entries := by
  induction entries with
  | nil => contradiction
  | cons entry entries inductionHypothesis =>
      obtain ⟨other, held⟩ := entry
      rw [find?] at found
      split at found
      · next same =>
          cases found
          rw [same]
          exact .head _
      · exact .tail _ (inductionHypothesis found)

/-- Inserting adds the key at the end unless it is there already. -/
theorem keys_insert (entries : Entries) (key : String) (value : Value) :
    keys (insert entries key value) =
      if key ∈ keys entries then keys entries else keys entries ++ [key] := by
  induction entries with
  | nil => simp [insert, keys]
  | cons entry entries inductionHypothesis =>
      obtain ⟨other, former⟩ := entry
      by_cases same : other = key
      · simp [insert, keys, same]
      · simp only [insert, if_neg same]
        simp only [keys, List.map_cons, List.mem_cons] at inductionHypothesis ⊢
        rw [inductionHypothesis]
        by_cases found : key ∈ List.map Prod.fst entries <;> simp [found, Ne.symm same]

theorem keys_nodup_insert {entries : Entries} (distinct : (keys entries).Nodup)
    (key : String) (value : Value) : (keys (insert entries key value)).Nodup := by
  rw [keys_insert]
  split
  · exact distinct
  · next missing =>
      rw [List.nodup_append]
      refine ⟨distinct, by simp, ?_⟩
      intro other found last isLast same
      simp only [List.mem_singleton] at isLast
      exact missing (isLast ▸ same ▸ found)

/-- Inserting entries one after the other adds the keys that are new, in the order in which they
first come. -/
theorem keys_insertAll (entries : Entries) (pairs : List (String × Value)) :
    keys (insertAll entries pairs) =
      keys entries ++
        ((pairs.map Prod.fst).filter fun key => !(keys entries).contains key).eraseDups := by
  induction pairs generalizing entries with
  | nil => simp [insertAll]
  | cons pair pairs inductionHypothesis =>
      obtain ⟨key, value⟩ := pair
      rw [insertAll, inductionHypothesis, keys_insert]
      by_cases found : key ∈ keys entries
      · simp [found]
      · have others (other : String) : (!(keys entries ++ [key]).contains other) =
            (!other == key && !(keys entries).contains other) := by
          rw [List.contains_append, List.contains_cons, List.contains_nil, Bool.or_false,
            Bool.not_or, Bool.and_comm]
        simp only [others, if_neg found, List.map_cons, List.append_assoc, List.singleton_append]
        rw [List.filter_cons_of_pos (by simpa using found), List.eraseDups_cons,
          List.filter_filter]

/-- The keys of a list of pairs are stored in the order in which they first come. -/
theorem keys_ofList (pairs : List (String × Value)) :
    keys (ofList pairs) = (pairs.map Prod.fst).eraseDups := by
  rw [ofList, keys_insertAll]
  exact congrArg List.eraseDups (List.filter_eq_self.mpr fun _ _ => rfl)

end Entries

namespace Value

instance : Inhabited Value :=
  ⟨null⟩

/-- The object without entries. -/
def emptyObject : Value :=
  object []

/-- Whether the value is null. -/
def isNull : Value → Bool
  | null => true
  | _ => false

/-- The entries of an object; any other value has none. -/
def entries : Value → Entries
  | object entries => entries
  | _ => []

/-- The value under a key.  A null entry counts as missing, and so does everything in a value that
is not an object. -/
def get? (value : Value) (key : String) : Option Value :=
  match value.entries.find? key with
  | some null => none
  | found => found

/-- The keys that hold something other than null, in order. -/
def setKeys (value : Value) : List String :=
  (value.entries.filter fun entry => !entry.2.isNull).map Prod.fst

/-- The name of the value's type in messages. -/
def typeName : Value → String
  | null => "null"
  | bool _ => "boolean"
  | number _ => "number"
  | string _ => "string"
  | array _ => "array"
  | object _ => "object"
  | function _ => "function"
  | absent | present _ => "optional"

/-- The truth value, if the value is one. -/
def asBool? : Value → Option Bool
  | bool value => some value
  | _ => none

/-- The number, if the value is one. -/
def asNumber? : Value → Option Number
  | number value => some value
  | _ => none

/-- The text, if the value is a string. -/
def asString? : Value → Option String
  | string value => some value
  | _ => none

/-- The items, if the value is an array. -/
def asArray? : Value → Option (List Value)
  | array items => some items
  | _ => none

/-- The entries, if the value is an object. -/
def asObject? : Value → Option Entries
  | object entries => some entries
  | _ => none

/-- The function, if the value is one. -/
def asFunction? : Value → Option Callable
  | function callable => some callable
  | _ => none

/-- What an optional holds, if the value is an optional. -/
def asOptional? : Value → Option (Option Value)
  | absent => some none
  | present value => some (some value)
  | _ => none

@[simp]
theorem get?_of_entries_nil {value : Value} (empty : value.entries = []) (key : String) :
    value.get? key = none := by
  simp [get?, empty]

/-- What is under a key is held there, and it is not null. -/
theorem get?_eq_some_iff {value given : Value} {key : String} :
    value.get? key = some given ↔ value.entries.find? key = some given ∧ given ≠ .null := by
  unfold get?
  cases value.entries.find? key with
  | none => simp
  | some found =>
      cases found with
      | null => simp +contextual
      | _ => simp; rintro rfl; simp

end Value

/-- What the host offers: how its functions answer, and what its retrievers do with an answer. -/
structure Host where
  call : Nat → List Value → Value
  retrieve : Nat → Value → Value

namespace Callable

/-- The answer of a function to a list of arguments. -/
def call (host : Host) : Callable → List Value → Value
  | Callable.host handle, arguments => Host.call host handle arguments
  | limited inner arity retriever, arguments =>
      host.retrieve retriever (call host inner (arguments.take arity))

@[simp]
theorem call_limited (host : Host) (inner : Callable) (arity retriever : Nat)
    (arguments : List Value) :
    (limited inner arity retriever).call host arguments =
      host.retrieve retriever (inner.call host (arguments.take arity)) :=
  rfl

end Callable

end Extraction
