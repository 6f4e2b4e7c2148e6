import Mathlib.Tactic.SplitIfs
import Extraction.Proofs.CutDocuments

/-!
# Objects in printed documents

How many members the objects of a document have can be read off its text: strings are skipped,
brackets are matched, and colons are counted.  No string is printed with a line end in it, so a
brace at the end of a line never stands inside a string.  Hence whatever printed object is found as
a piece of the text, it is as large as one of the objects of the document.

What is read off a text from which objects have been cut are the sizes of those that are left.
-/

namespace Extraction

/-! ## Reading a text -/

/-- Where a reader of a text stands: outside of strings, in a string, behind a backslash in a
string, or behind the end of a line in a string, where no string goes on. -/
inductive Scan.Mode where
  | outside
  | quoted
  | escaped
  | broken
deriving DecidableEq

/-- What a reader has seen of a text: where he stands, how many colons he has met directly inside
each bracket that is open, the innermost first, and how many there were inside each brace that has
been closed. -/
structure Scan where
  mode : Scan.Mode
  unclosed : List Nat
  closed : List Nat

namespace Scan

/-- Outside of strings, brackets are opened and closed, and colons counted. -/
def stepOutside (unclosed closed : List Nat) (char : Char) : Scan :=
  match char, unclosed with
  | '"', _ => ⟨.quoted, unclosed, closed⟩
  | '[', _ | '\x7b', _ => ⟨.outside, 0 :: unclosed, closed⟩
  | ':', count :: outer => ⟨.outside, (count + 1) :: outer, closed⟩
  | ']', _ :: outer => ⟨.outside, outer, closed⟩
  | '\x7d', count :: outer => ⟨.outside, outer, closed ++ [count]⟩
  | _, _ => ⟨.outside, unclosed, closed⟩

/-- Reads one character. -/
def step (scan : Scan) (char : Char) : Scan :=
  match scan.mode with
  | .outside => stepOutside scan.unclosed scan.closed char
  | .quoted =>
      if char = '\n' then { scan with mode := .broken }
      else if char = '"' then { scan with mode := .outside }
      else if char = '\\' then { scan with mode := .escaped }
      else scan
  | .escaped => { scan with mode := .quoted }
  | .broken => scan

/-- Reads a text. -/
def read (scan : Scan) (text : String) : Scan :=
  text.toList.foldl step scan

/-- Before anything is read. -/
def start : Scan :=
  ⟨.outside, [], []⟩

variable {scan : Scan} {unclosed closed : List Nat}

@[simp]
theorem read_append (scan : Scan) (first second : String) :
    scan.read (first ++ second) = (scan.read first).read second := by
  simp only [read, String.toList_append, List.foldl_append]

theorem closed_prefix_step (scan : Scan) (char : Char) :
    scan.closed <+: (scan.step char).closed := by
  unfold step
  split
  · unfold stepOutside
    split <;> simp
  · split_ifs <;> simp
  · simp
  · simp

/-- What each step keeps, reading a text keeps. -/
theorem read_keeps (motive : Scan → Prop) {text : String} (begins : motive scan)
    (keeps : ∀ scan, motive scan → ∀ char ∈ text.toList, motive (scan.step char)) :
    motive (scan.read text) :=
  List.foldlRecOn text.toList step begins keeps

/-- What has been closed stays closed. -/
theorem closed_prefix_read (scan : Scan) (text : String) :
    scan.closed <+: (scan.read text).closed := by
  apply read_keeps (scan.closed <+: ·.closed) (List.prefix_refl _)
  intro later stays char _
  exact stays.trans (closed_prefix_step later char)

theorem mode_read_of_broken (isBroken : scan.mode = .broken) (text : String) :
    (scan.read text).mode = .broken := by
  apply read_keeps (·.mode = .broken) isBroken
  intro later stays char _
  rw [step, stays]
  exact stays

/-- A reader who is still well after a brace at the end of a line was outside of strings before
it. -/
theorem mode_eq_outside (text : String) (isWell : (scan.read ("\x7b\n" ++ text)).mode ≠ .broken) :
    scan.mode = .outside := by
  have opened : scan.read ("\x7b\n" ++ text) = ((scan.step '\x7b').step '\n').read text := by
    rw [read_append]
    rfl
  rw [opened] at isWell
  cases mode : scan.mode with
  | outside => rfl
  | _ =>
      -- A line end breaks a string, and nothing mends it.
      refine absurd (mode_read_of_broken ?_ text) isWell
      simp [step, mode]

/-! ### Texts without marks -/

/-- The characters that a reader heeds. -/
def marks : List Char :=
  ['"', '[', ']', '\x7b', '\x7d', ':']

/-- A text without marks. -/
def IsPlain (text : String) : Prop :=
  ∀ char ∈ text.toList, char ∉ marks

instance (text : String) : Decidable (IsPlain text) :=
  List.decidableBAll (· ∉ marks) text.toList

@[simp]
theorem isPlain_append {first second : String} :
    IsPlain (first ++ second) ↔ IsPlain first ∧ IsPlain second := by
  simp only [IsPlain, String.toList_append, List.mem_append, or_imp, forall_and]

theorem stepOutside_of_not_mem_marks {char : Char} (noMark : char ∉ marks) :
    stepOutside unclosed closed char = ⟨.outside, unclosed, closed⟩ := by
  simp only [marks, List.mem_cons, List.not_mem_nil, or_false, not_or] at noMark
  unfold stepOutside
  split <;> simp_all

theorem read_of_isPlain {text : String} (isPlain : IsPlain text) :
    read ⟨.outside, unclosed, closed⟩ text = ⟨.outside, unclosed, closed⟩ := by
  apply read_keeps (· = ⟨.outside, unclosed, closed⟩) rfl
  rintro _ rfl char isThere
  exact stepOutside_of_not_mem_marks (isPlain char isThere)

theorem isPlain_newline (level : Nat) : IsPlain (Json.newline level) := by
  rw [Json.newline, isPlain_append]
  refine ⟨by decide, fun char isThere => ?_⟩
  rw [String.toList_ofList] at isThere
  rw [List.eq_of_mem_replicate isThere]
  decide

/-! ### Numerals -/

theorem isPlain_of_digits {chars : List Char} (areDigits : ∀ char ∈ chars, char.isDigit = true) :
    IsPlain (String.ofList chars) := by
  intro char isThere isMark
  rw [String.toList_ofList] at isThere
  have noDigits : marks.all (!·.isDigit) = true := rfl
  have noDigit := List.all_eq_true.mp noDigits char isMark
  rw [areDigits char isThere] at noDigit
  contradiction

theorem isPlain_repr (number : Nat) : IsPlain (Nat.repr number) :=
  isPlain_of_digits fun _ => Nat.isDigit_of_mem_toDigits (by decide) (by decide)

theorem isDigit_of_mem_shortest {number : FiniteNumber} {tie : TieRule} {char : Char}
    (isThere : char ∈ (number.shortest tie).digits) : char.isDigit = true := by
  rw [FiniteNumber.shortest] at isThere
  have inReverse := List.mem_reverse.mp isThere
  have inDigits := List.mem_reverse.mp ((List.dropWhile_sublist _).subset inReverse)
  exact Nat.isDigit_of_mem_toDigits (by decide) (by decide) inDigits

theorem isPlain_positional {decimal : Decimal}
    (areDigits : ∀ char ∈ decimal.digits, char.isDigit = true) : IsPlain decimal.positional := by
  have zeros {count : Nat} : ∀ char ∈ List.replicate count '0', char.isDigit = true := by
    intro char isThere
    rw [List.eq_of_mem_replicate isThere]
    decide
  have whole {count : Nat} : ∀ char ∈ decimal.digits.take count, char.isDigit = true :=
    fun char isThere => areDigits char (List.mem_of_mem_take isThere)
  have fraction {count : Nat} : ∀ char ∈ decimal.digits.drop count, char.isDigit = true :=
    fun char isThere => areDigits char (List.mem_of_mem_drop isThere)
  unfold Decimal.positional
  split
  · exact isPlain_append.mpr ⟨by decide,
      isPlain_of_digits (List.forall_mem_append.mpr ⟨zeros, areDigits⟩)⟩
  · refine isPlain_append.mpr ⟨isPlain_append.mpr ⟨?_, by decide⟩, ?_⟩
    · exact isPlain_of_digits (List.forall_mem_append.mpr ⟨whole, zeros⟩)
    · split
      · decide
      · exact isPlain_of_digits fraction

theorem isPlain_scientific {decimal : Decimal} {plus : Bool}
    (areDigits : ∀ char ∈ decimal.digits, char.isDigit = true) :
    IsPlain (decimal.scientific plus) := by
  have whole : IsPlain (String.ofList (decimal.digits.take 1)) :=
    isPlain_of_digits fun char isThere => areDigits char (List.mem_of_mem_take isThere)
  have fraction : IsPlain (String.ofList (decimal.digits.drop 1)) :=
    isPlain_of_digits fun char isThere => areDigits char (List.mem_of_mem_drop isThere)
  unfold Decimal.scientific
  simp only [isPlain_append]
  refine ⟨⟨⟨⟨whole, ?_⟩, by decide⟩, ?_⟩, isPlain_repr _⟩
  · split
    · decide
    · exact isPlain_append.mpr ⟨by decide, fraction⟩
  · split_ifs <;> decide

theorem isPlain_render (layout : Layout) (number : FiniteNumber) :
    IsPlain (layout.render number) := by
  have sign : IsPlain (if number.negative then "-" else "") := by
    split <;> decide
  unfold Layout.render
  dsimp only
  split
  · rw [isPlain_append]
    exact ⟨sign, by decide⟩
  · rw [isPlain_append]
    refine ⟨sign, ?_⟩
    split
    · exact isPlain_positional fun _ => isDigit_of_mem_shortest
    · exact isPlain_scientific fun _ => isDigit_of_mem_shortest

theorem isPlain_numeral (numeral : Numeral) : IsPlain numeral.render := by
  cases numeral with
  | integer value =>
      cases value with
      | ofNat number => exact isPlain_repr number
      | negSucc number => exact isPlain_append.mpr ⟨by decide, isPlain_repr _⟩
  | float value => exact isPlain_render _ value

/-! ### Strings -/

theorem step_quoted {char : Char} (noLineEnd : char ≠ '\n') (noQuote : char ≠ '"')
    (noBackslash : char ≠ '\\') :
    step ⟨.quoted, unclosed, closed⟩ char = ⟨.quoted, unclosed, closed⟩ := by
  simp only [step, if_neg noLineEnd, if_neg noQuote, if_neg noBackslash]

theorem step_digitChar {digit : Nat} (small : digit < 16) :
    step ⟨.quoted, unclosed, closed⟩ (Nat.digitChar digit) = ⟨.quoted, unclosed, closed⟩ := by
  have noMark : ∀ digit < 16, Nat.digitChar digit ≠ '\n' ∧ Nat.digitChar digit ≠ '"' ∧
      Nat.digitChar digit ≠ '\\' := by decide
  obtain ⟨noLineEnd, noQuote, noBackslash⟩ := noMark digit small
  exact step_quoted noLineEnd noQuote noBackslash

/-- A character of a string is written so that the string goes on behind it. -/
theorem foldl_step_escapeChar (char : Char) :
    (Json.escapeChar char).foldl step ⟨.quoted, unclosed, closed⟩ =
      ⟨.quoted, unclosed, closed⟩ := by
  unfold Json.escapeChar
  split
  -- The marks and the control characters that have a letter are written as a backslash and another
  -- character.
  iterate 7 rfl
  next noQuote noBackslash _ _ noLineEnd _ _ =>
    split
    · next isControl =>
        have code : ['\\', 'u', '0', '0'].foldl step ⟨.quoted, unclosed, closed⟩ =
            ⟨.quoted, unclosed, closed⟩ := rfl
        change (['\\', 'u', '0', '0'] ++ [Nat.digitChar _, Nat.digitChar _]).foldl step _ = _
        rw [List.foldl_append, code, List.foldl_cons, step_digitChar (by omega), List.foldl_cons,
          step_digitChar (by omega), List.foldl_nil]
    · exact step_quoted noLineEnd noQuote noBackslash

/-- A string in quotes is passed over. -/
theorem read_quote (text : String) :
    read ⟨.outside, unclosed, closed⟩ (Json.quote text) = ⟨.outside, unclosed, closed⟩ := by
  have inside : read ⟨.quoted, unclosed, closed⟩
      (String.ofList (text.toList.flatMap Json.escapeChar)) = ⟨.quoted, unclosed, closed⟩ := by
    rw [read, String.toList_ofList]
    induction text.toList with
    | nil => rfl
    | cons char chars inductionHypothesis =>
        rw [List.flatMap_cons, List.foldl_append, foldl_step_escapeChar, inductionHypothesis]
  have opened : read ⟨.outside, unclosed, closed⟩ "\"" = ⟨.quoted, unclosed, closed⟩ := rfl
  rw [Json.quote, read_append, read_append, opened, inside]
  rfl

/-! ### Documents -/

/-- Reading a text inside a bracket adds to the count of the bracket and closes some objects. -/
def Adds (text : String) (count : Nat) (sizes : List Nat) : Prop :=
  ∀ before outer closed, read ⟨.outside, before :: outer, closed⟩ text =
    ⟨.outside, (before + count) :: outer, closed ++ sizes⟩

theorem Adds.append {first second : String} {count further : Nat} {sizes others : List Nat}
    (adds : Adds first count sizes) (addsFurther : Adds second further others) :
    Adds (first ++ second) (count + further) (sizes ++ others) := by
  intro before outer closed
  rw [read_append, adds, addsFurther, Nat.add_assoc, List.append_assoc]

theorem Adds.of_isPlain {text : String} (isPlain : IsPlain text) : Adds text 0 [] := by
  intro before outer closed
  rw [read_of_isPlain isPlain, Nat.add_zero, List.append_nil]

theorem Adds.intercalate {α : Type} {separator : String} (isPlain : IsPlain separator)
    {items : List α} {text : α → String} {count : Nat} {sizes : α → List Nat}
    (each : ∀ item ∈ items, Adds (text item) count (sizes item)) :
    Adds (separator.intercalate (items.map text)) (items.length * count)
      (items.flatMap sizes) := by
  induction items with
  | nil =>
      rw [List.map_nil, String.intercalate_nil, List.length_nil, Nat.zero_mul]
      exact of_isPlain (by decide)
  | cons item items inductionHypothesis =>
      rw [List.forall_mem_cons] at each
      cases items with
      | nil => simpa using each.1
      | cons next items =>
          have together :=
            (each.1.append (of_isPlain isPlain)).append (inductionHypothesis each.2)
          rw [Nat.add_zero, List.append_nil, Nat.add_comm, ← Nat.add_one_mul] at together
          rw [List.map_cons, List.map_cons, String.intercalate_cons_cons]
          exact together

/-- What stands in a bracket, each part on a line of its own, is read part by part. -/
theorem read_block {α : Type} (level : Nat) {left : String} (right : String) {items : List α}
    {text : α → String} {count : Nat} {sizes : α → List Nat}
    (opens : left = "[" ∨ left = "\x7b")
    (each : ∀ item ∈ items, Adds (text item) count (sizes item)) :
    read ⟨.outside, unclosed, closed⟩ (Json.block level left right (items.map text)) =
      read ⟨.outside, items.length * count :: unclosed, closed ++ items.flatMap sizes⟩ right := by
  have opened : read ⟨.outside, unclosed, closed⟩ left = ⟨.outside, 0 :: unclosed, closed⟩ := by
    rcases opens with rfl | rfl <;> rfl
  unfold Json.block
  split
  · next isEmpty =>
      rw [List.isEmpty_map, List.isEmpty_iff] at isEmpty
      subst isEmpty
      rw [read_append, opened, List.length_nil, Nat.zero_mul, List.flatMap_nil, List.append_nil]
  · have separator : IsPlain ("," ++ Json.newline (level + 1)) :=
      isPlain_append.mpr ⟨by decide, isPlain_newline _⟩
    have parts := Adds.intercalate separator each
    rw [read_append, read_append, read_append, read_append, opened,
      read_of_isPlain (isPlain_newline _), parts, read_of_isPlain (isPlain_newline _),
      Nat.zero_add]

/-- Reading a printed document leaves the reader where he was, with the sizes of its objects. -/
theorem read_cutAt (cut : Nat → Bool) (level : Nat) (document : Json)
    (unclosed closed : List Nat) :
    read ⟨.outside, unclosed, closed⟩ (document.cutAt cut level) =
      ⟨.outside, unclosed, closed ++ document.sizes cut⟩ := by
  induction document using Json.parts_induction generalizing level unclosed closed with
  | step document inductionHypothesis =>
      have adds (part : Json) (inside : part ∈ document.parts) :
          Adds (part.cutAt cut (level + 1)) 0 (part.sizes cut) := fun before outer closed =>
        inductionHypothesis part inside (level + 1) (before :: outer) closed
      cases document with
      | array items =>
          have addsItem : ∀ item ∈ items, Adds (item.cutAt cut (level + 1)) 0 (item.sizes cut) :=
            adds
          rw [Json.cutAt_array, Json.sizes_array, read_block level _ (.inl rfl) addsItem]
          rfl
      | object members =>
          rw [Json.cutAt_object, Json.sizes_object]
          split
          · rw [read_of_isPlain (by decide), List.append_nil]
          · have colon : Adds ": " 1 [] := fun before outer closed => by
              rw [List.append_nil]
              rfl
            have addsMember (member : String × Json) (isMember : member ∈ members) :
                Adds (Json.quote member.1 ++ ": " ++ member.2.cutAt cut (level + 1)) 1
                  (member.2.sizes cut) := by
              have key : Adds (Json.quote member.1) 0 [] := fun before outer closed => by
                rw [read_quote, Nat.add_zero, List.append_nil]
              exact (key.append colon).append (adds member.2 (List.mem_map_of_mem isMember))
            rw [read_block level _ (.inr rfl) addsMember, Nat.mul_one, ← List.append_assoc]
            rfl
      | null => rw [Json.cutAt, Json.sizes, List.append_nil, read_of_isPlain (by decide)]
      | bool value =>
          rw [Json.cutAt, Json.sizes, List.append_nil, read_of_isPlain]
          cases value <;> decide
      | number value =>
          rw [Json.cutAt, Json.sizes, List.append_nil]
          exact read_of_isPlain (isPlain_numeral value)
      | string value =>
          rw [Json.cutAt, Json.sizes, List.append_nil]
          exact read_quote value

end Scan

namespace Json

variable {cut : Nat → Bool} {level : Nat} {document : Json} {members : List (String × Json)}

/-- An object with members is printed with its first brace at the end of a line. -/
theorem exists_prettyAt_object (level : Nat) {members : List (String × Json)}
    (isFilled : members ≠ []) : ∃ rest, prettyAt level (object members) = "\x7b\n" ++ rest := by
  have opening : "\x7b\n" = "\x7b" ++ "\n" := rfl
  rw [prettyAt_object, block, List.isEmpty_map, List.isEmpty_eq_false_iff.mpr isFilled,
    if_neg Bool.false_ne_true, newline, opening]
  simp only [String.append_assoc]
  exact ⟨_, rfl⟩

/-- The sizes of the objects in a document can be read off its text. -/
theorem closed_read_cutAt (cut : Nat → Bool) (level : Nat) (document : Json) :
    Scan.start.read (document.cutAt cut level) = ⟨.outside, [], document.sizes cut⟩ :=
  Scan.read_cutAt cut level document [] []

-- A brace in a key is no bracket, although a line ends in front of it.
example :
    let inner := object [("\n\x7b", null)]
    (Scan.start.read (object [("first", object []), ("second", array [inner])]).pretty).closed =
      [0, 1, 2] := by
  decide

/-- An object that is found in the text of a document, from which others may have been cut, is as
large as one of the objects that are left. -/
theorem mem_sizes_of_isPrintedIn (isFilled : members ≠ [])
    (isPrinted : (object members).IsPrintedIn (document.cutAt cut level)) :
    members.length ∈ document.sizes cut := by
  obtain ⟨inner, before, after, same⟩ := isPrinted
  have whole := closed_read_cutAt cut level document
  rw [same, Scan.read_append, Scan.read_append] at whole
  obtain ⟨rest, opening⟩ := exists_prettyAt_object inner isFilled
  have isOutside : (Scan.start.read before).mode = .outside := by
    apply Scan.mode_eq_outside (rest ++ after)
    rw [← String.append_assoc, ← opening, Scan.read_append, whole]
    nofun
  have piece : (Scan.start.read before).read ((object members).prettyAt inner) =
      ⟨.outside, (Scan.start.read before).unclosed,
        (Scan.start.read before).closed ++ (object members).sizes uncut⟩ := by
    rw [prettyAt_eq_cutAt_uncut, ← Scan.read_cutAt, ← isOutside]
  have isClosed : members.length ∈
      ((Scan.start.read before).read ((object members).prettyAt inner)).closed := by
    rw [piece]
    exact List.mem_append_right _ (length_mem_sizes members)
  have stays := (Scan.closed_prefix_read _ after).subset isClosed
  rwa [whole] at stays

end Json

end Extraction
