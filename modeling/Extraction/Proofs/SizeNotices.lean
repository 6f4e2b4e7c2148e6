import Extraction.Proofs.Documents
import Extraction.Proofs.PrintedObjects
import Extraction.Schema.Extract

/-!
# Large objects in messages

Messages show values.  An object with too many keys is not shown, and a notice stands in its place;
but only the value itself is looked at.  A large object that stands inside a value, or inside an
optional, is printed key by key.  So a value is shown with a notice in place of each of its large
objects exactly if it is a large object itself or has none inside it, and the messages that contain
the text of a value inherit what its text shows.
-/

namespace Extraction

namespace Value

/-- An object with more keys than are shown. -/
def IsLarge (value : Value) : Prop :=
  shownKeys < value.entries.length

instance (value : Value) : Decidable value.IsLarge :=
  inferInstanceAs (Decidable (_ < _))

/-- An object with more keys than are shown is printed key by key somewhere in a text. -/
def ShowsLarge (text : String) : Prop :=
  ∃ members, shownKeys < members.length ∧ (Json.object members).IsPrintedIn text

/-- The text of a value with the notice in place of each large object, wherever it stands. -/
def noticed (value : Value) : String :=
  value.toJson.cutAt (shownKeys < ·) 0

/-! ## Objects in values and in documents -/

variable {value part : Value} {text : String} {size : Nat}

theorem sizes_number (number : Number) : number.toJson.sizes Json.uncut = [] := by
  unfold Number.toJson
  split
  · split
    · rfl
    · split <;> rfl
  · split <;> rfl

/-- The objects in the document that shows a value are the value, if it is an object, and those in
its parts. -/
theorem mem_sizes_toJson : size ∈ value.toJson.sizes Json.uncut ↔
    (∃ entries, value = object entries ∧ entries.length = size) ∨
      ∃ part ∈ value.parts, size ∈ part.toJson.sizes Json.uncut := by
  cases value with
  | array items =>
      rw [toJson, itemsToJson_eq_map, Json.sizes_array, List.flatMap_map, List.mem_flatMap]
      simp [parts]
  | object entries =>
      rw [toJson, entriesToJson_eq_map, Json.sizes_uncut_object, List.flatMap_map, List.length_map,
        List.mem_append, List.mem_flatMap, List.mem_singleton, or_comm]
      refine or_congr (by simp [eq_comm]) ?_
      simp only [parts, List.mem_map, exists_exists_and_eq_and, Prod.map_snd]
  | number number => simp [toJson, parts, sizes_number]
  | present value => simp [toJson, parts]
  | _ => simp [toJson, Json.sizes, parts]

/-- The objects in the document that shows a value are as large as the objects in the value. -/
theorem mem_sizes_toJson_iff : size ∈ value.toJson.sizes Json.uncut ↔
    ∃ entries, Part (object entries) value ∧ entries.length = size := by
  induction value using parts_induction with
  | step value inductionHypothesis =>
      rw [mem_sizes_toJson]
      constructor
      · rintro (⟨entries, rfl, own⟩ | ⟨part, inside, member⟩)
        · exact ⟨entries, .whole, own⟩
        · obtain ⟨entries, isPart, own⟩ := (inductionHypothesis part inside).mp member
          exact ⟨entries, .inside inside isPart, own⟩
      · rintro ⟨entries, isPart, own⟩
        cases isPart with
        | whole => exact .inl ⟨entries, rfl, own⟩
        | inside member rest =>
            exact .inr ⟨_, member, (inductionHypothesis _ member).mpr ⟨entries, rest, own⟩⟩

theorem exists_isLarge_iff : (∃ part, Part part value ∧ part.IsLarge) ↔
    ∃ size ∈ value.toJson.sizes Json.uncut, shownKeys < size := by
  constructor
  · rintro ⟨part, isPart, isLarge⟩
    cases part with
    | object entries => exact ⟨_, mem_sizes_toJson_iff.mpr ⟨entries, isPart, rfl⟩, isLarge⟩
    | _ => contradiction
  · rintro ⟨size, member, isLarge⟩
    obtain ⟨entries, isPart, rfl⟩ := mem_sizes_toJson_iff.mp member
    exact ⟨object entries, isPart, isLarge⟩

/-! ## What the text of a value shows -/

theorem format_of_isLarge (isLarge : value.IsLarge) : value.format = sizeNotice := by
  cases value with
  | object entries => exact if_pos isLarge
  | _ => contradiction

theorem format_of_not_isLarge (isSmall : ¬value.IsLarge) : value.format = value.toJson.pretty := by
  cases value with
  | object entries => exact if_neg isSmall
  | _ => rfl

theorem noticed_of_isLarge (isLarge : value.IsLarge) : value.noticed = sizeNotice := by
  cases value with
  | object entries =>
      rw [noticed, toJson, entriesToJson_eq_map, Json.cutAt_object, List.length_map]
      exact if_pos (decide_eq_true isLarge)
  | _ => contradiction

/-- A large object that is shown is one of the objects of the document. -/
theorem ShowsLarge.exists_mem_sizes {document : Json} {cut : Nat → Bool} {level : Nat}
    (shows : ShowsLarge (document.cutAt cut level)) :
    ∃ size ∈ document.sizes cut, shownKeys < size := by
  obtain ⟨members, isLarge, isPrinted⟩ := shows
  have isFilled : members ≠ [] := List.ne_nil_of_length_pos (Nat.zero_lt_of_lt isLarge)
  exact ⟨_, Json.mem_sizes_of_isPrintedIn isFilled isPrinted, isLarge⟩

theorem not_showsLarge_noticed (value : Value) : ¬ShowsLarge value.noticed := by
  intro shows
  obtain ⟨size, member, isLarge⟩ := shows.exists_mem_sizes
  exact decide_eq_false_iff_not.mp (Json.not_cut_of_mem_sizes member) isLarge

/-- The document of a value shows a large object exactly if there is one in the value. -/
theorem showsLarge_pretty_iff :
    ShowsLarge value.toJson.pretty ↔ ∃ part, Part part value ∧ part.IsLarge := by
  rw [exists_isLarge_iff]
  constructor
  · intro shows
    rw [Json.pretty, Json.prettyAt_eq_cutAt_uncut] at shows
    exact shows.exists_mem_sizes
  · rintro ⟨size, member, isLarge⟩
    obtain ⟨members, rfl, isPrinted⟩ := Json.exists_isPrintedIn_of_mem_sizes 0 member
    exact ⟨members, isLarge, isPrinted⟩

/-- A large object is shown exactly if it stands inside a value that is not one itself. -/
theorem showsLarge_format_iff :
    ShowsLarge value.format ↔ ¬value.IsLarge ∧ ∃ part, Part part value ∧ part.IsLarge := by
  by_cases isLarge : value.IsLarge
  · rw [format_of_isLarge isLarge, ← noticed_of_isLarge isLarge]
    exact iff_of_false (not_showsLarge_noticed value) fun both => both.1 isLarge
  · rw [format_of_not_isLarge isLarge, showsLarge_pretty_iff]
    exact (and_iff_right isLarge).symm

/-- The notice stands in place of every large object exactly if none is shown. -/
theorem format_eq_noticed_iff : value.format = value.noticed ↔ ¬ShowsLarge value.format := by
  constructor
  · intro same
    rw [same]
    exact not_showsLarge_noticed value
  · intro showsNone
    by_cases isLarge : value.IsLarge
    · rw [format_of_isLarge isLarge, noticed_of_isLarge isLarge]
    · rw [format_of_not_isLarge isLarge, showsLarge_pretty_iff, exists_isLarge_iff] at showsNone
      rw [format_of_not_isLarge isLarge, noticed, Json.pretty, Json.cutAt_eq_prettyAt]
      intro size member
      exact decide_eq_false fun isLarge => showsNone ⟨size, member, isLarge⟩

/-- What a piece of a text shows, the text shows. -/
theorem ShowsLarge.of_isPiece {piece : String} (shows : ShowsLarge piece)
    (isPiece : IsPiece piece text) : ShowsLarge text := by
  obtain ⟨members, isLarge, level, isPrinted⟩ := shows
  exact ⟨members, isLarge, level, isPrinted.trans isPiece⟩

/-! ## Messages -/

/-- The messages that contain the text of a value: explanations that show it, and what is said of
an input and its faults when an extraction has failed for good. -/
inductive Message (value : Value) : String → Prop where
  | missingStrict (path : Path) (key : String) :
      Message value (Fault.explain ⟨path, .missingStrict key value⟩).value
  | missingBranch (path : Path) (branch : String) :
      Message value (Fault.explain ⟨path, .missingBranch value branch⟩).value
  | branchName (path : Path) (branches : Value) (isOther : value.asString? = none) :
      Message value
        (Fault.explain ⟨path, .missingBranch branches (Extractor.branchName value)⟩).value
  | failure (faults : Faults) : Message value (Failure.ofFaults faults value).value.message
  | fault {faults : Faults} {fault : Fault} (input : Value) (member : fault ∈ faults.toList)
      (explained : Message value fault.explain.value) :
      Message value (Failure.ofFaults faults input).value.message

theorem branchName_of_asString?_eq_none (isOther : value.asString? = none) :
    Extractor.branchName value = value.format := by
  cases value with
  | string => contradiction
  | _ => rfl

/-- The explanation of each fault is contained in what is said of all of them. -/
theorem isPiece_message {faults : Faults} {fault : Fault} (input : Value)
    (member : fault ∈ faults.toList) :
    IsPiece fault.explain.value (Failure.ofFaults faults input).value.message := by
  have line : IsPiece fault.explain.value fault.render.value := .append_right _ _
  have lines : faults.lines.value = faults.toList.map fun fault => fault.render.value :=
    Traced.value_mapM _ _
  have isLine : fault.render.value ∈ faults.lines.value := by
    rw [lines]
    exact List.mem_map_of_mem member
  have rendered : IsPiece fault.render.value faults.render.value := .intercalate "\n" isLine
  have message : IsPiece faults.render.value (Failure.ofFaults faults input).value.message :=
    (IsPiece.append_right _ _).trans ((IsPiece.append_left _ _).trans (IsPiece.append_left _ _))
  exact (line.trans rendered).trans message

/-- A message contains the text of its value. -/
theorem Message.isPiece (message : value.Message text) : IsPiece value.format text := by
  induction message with
  | missingStrict path key => exact .append_right _ _
  | missingBranch path branch => exact .append_right _ _
  | branchName path branches isOther =>
      rw [← branchName_of_asString?_eq_none isOther]
      exact (IsPiece.append_right _ _).trans
        ((IsPiece.append_left _ _).trans (IsPiece.append_left _ _))
  | failure faults => exact .append_right _ _
  | fault input member _ inductionHypothesis =>
      exact inductionHypothesis.trans (isPiece_message input member)

/-- The text of a value shows a large object exactly if there is one inside the value and the
value is not one itself, and so does every message with that text. -/
theorem format_showsLarge (value : Value) :
    (ShowsLarge value.format ↔ ¬value.IsLarge ∧ ∃ part, Part part value ∧ part.IsLarge) ∧
      (value.format = value.noticed ↔ ¬ShowsLarge value.format) ∧
      ∀ text, value.Message text →
        ∃ before after, text = before ++ value.format ++ after ∧
          (text = before ++ value.noticed ++ after ↔ ¬ShowsLarge value.format) ∧
          (ShowsLarge value.format → ShowsLarge text) := by
  refine ⟨showsLarge_format_iff, format_eq_noticed_iff, fun text message => ?_⟩
  obtain ⟨before, after, rfl⟩ := message.isPiece
  refine ⟨before, after, rfl, ?_, fun shows => shows.of_isPiece message.isPiece⟩
  rw [← format_eq_noticed_iff, String.append_left_inj, String.append_right_inj]

/-! ## A register -/

/-- An object with one key more than are shown. -/
def register : Value :=
  object ((List.range (shownKeys + 1)).map fun number => (Nat.repr number, null))

theorem isLarge_register : register.IsLarge := by
  have length : register.entries.length = shownKeys + 1 := by
    rw [register, entries, List.length_map, List.length_range]
  rw [IsLarge, length]
  exact Nat.lt_succ_self _

/-- Where an optional with a register in it is no function, the message of the failure shows the
register. -/
theorem format_showsLarge_register :
    let failure := (Failure.ofFaults (.single (.custom .root "Not a function"))
      (present register)).value
    (present register).Message failure.message ∧ ShowsLarge failure.message := by
  intro failure
  have message : (present register).Message failure.message := .failure _
  obtain ⟨shows, _, inMessages⟩ := format_showsLarge (present register)
  obtain ⟨_, _, _, _, inherits⟩ := inMessages failure.message message
  have isInside : Part register (present register) := .inside (.head _) .whole
  exact ⟨message, inherits (shows.mpr ⟨by decide, register, isInside, isLarge_register⟩)⟩

/-- A club, whose members are in a register. -/
def club : Value :=
  object [("members", register)]

/-- A club without a title is shown with all its members, and so it is where the title is found to
be missing, although the notice ought to stand in their place. -/
theorem showsLarge_club :
    ShowsLarge club.format ∧
      club.format ≠ club.noticed ∧
      club.noticed = "\x7b\n  \"members\":  removed due to size\n\x7d" ∧
      (extract [] 2 ⟨.object [.read "title" "title" .strict .anyValue], [], []⟩ .root club).run
        (.initial []) = some (.fail ⟨.ofField "title", .missingStrict "title" club⟩, .initial []) ∧
      ShowsLarge (Fault.explain ⟨.ofField "title", .missingStrict "title" club⟩).value := by
  have isInside : Part register club := .inside (.head _) .whole
  have shows : ShowsLarge club.format :=
    showsLarge_format_iff.mpr ⟨by decide, register, isInside, isLarge_register⟩
  have message :
      club.Message (Fault.explain ⟨.ofField "title", .missingStrict "title" club⟩).value :=
    .missingStrict (.ofField "title") "title"
  refine ⟨shows, fun same => format_eq_noticed_iff.mp same shows, by decide +kernel, rfl, ?_⟩
  exact shows.of_isPiece message.isPiece

end Value

end Extraction
