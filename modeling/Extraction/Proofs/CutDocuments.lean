import Extraction.Value.Json

/-!
# Documents with objects cut out

A document is printed with a line for each item of an array and each member of an object.  It can
also be printed with a notice in place of some of its objects, depending on how many members they
have.  Where no object is cut, both texts are the same.

The text of what stands inside a document is a piece of the text of the document.  So the objects
that are not cut are all found there.
-/

namespace Extraction

universe u v

private theorem eq_map_of_cons {α : Type u} {β : Type v} (go : List α → List β) {each : α → β}
    (nil : go [] = []) (cons : ∀ item items, go (item :: items) = each item :: go items)
    (items : List α) : go items = items.map each := by
  induction items with
  | nil => exact nil
  | cons item items inductionHypothesis => rw [cons, List.map_cons, inductionHypothesis]

private theorem eq_flatMap_of_cons {α : Type u} {β : Type v} (go : List α → List β)
    {each : α → List β} (nil : go [] = [])
    (cons : ∀ item items, go (item :: items) = each item ++ go items) (items : List α) :
    go items = items.flatMap each := by
  induction items with
  | nil => exact nil
  | cons item items inductionHypothesis => rw [cons, List.flatMap_cons, inductionHypothesis]

/-! ## Pieces of texts -/

/-- A text that stands somewhere in another one. -/
def IsPiece (piece text : String) : Prop :=
  ∃ before after, text = before ++ piece ++ after

namespace IsPiece

theorem append_left (text after : String) : IsPiece text (text ++ after) :=
  ⟨"", after, by rw [String.empty_append]⟩

theorem append_right (before text : String) : IsPiece text (before ++ text) :=
  ⟨before, "", by rw [String.append_empty]⟩

theorem refl (text : String) : IsPiece text text :=
  ⟨"", "", by rw [String.empty_append, String.append_empty]⟩

theorem trans {first second third : String} (inner : IsPiece first second)
    (outer : IsPiece second third) : IsPiece first third := by
  obtain ⟨before, after, rfl⟩ := inner
  obtain ⟨further, later, rfl⟩ := outer
  exact ⟨further ++ before, after ++ later, by simp only [String.append_assoc]⟩

theorem intercalate {piece : String} {pieces : List String} (separator : String)
    (member : piece ∈ pieces) : IsPiece piece (separator.intercalate pieces) := by
  induction pieces with
  | nil => contradiction
  | cons first pieces inductionHypothesis =>
      cases pieces with
      | nil =>
          rw [List.mem_singleton.mp member, String.intercalate_singleton]
          exact refl first
      | cons second pieces =>
          rw [String.intercalate_cons_cons]
          rcases List.mem_cons.mp member with rfl | later
          · exact (append_left _ _).trans (append_left _ _)
          · exact (inductionHypothesis later).trans (append_right _ _)

end IsPiece

namespace Json

/-! ## Cut documents -/

mutual

/-- The document as it is printed at a level, with a notice in place of every object whose size is
cut. -/
def cutAt (cut : Nat → Bool) (level : Nat) : Json → String
  | array items => block level "[" "]" (cutItems cut (level + 1) items)
  | object members =>
      if cut members.length then Value.sizeNotice
      else block level "\x7b" "\x7d" (cutMembers cut (level + 1) members)
  | null => compact null
  | bool value => compact (bool value)
  | number value => compact (number value)
  | string value => compact (string value)

/-- The items of an array at a level. -/
def cutItems (cut : Nat → Bool) (level : Nat) : List Json → List String
  | [] => []
  | item :: items => cutAt cut level item :: cutItems cut level items

/-- The members of an object at a level. -/
def cutMembers (cut : Nat → Bool) (level : Nat) : List (String × Json) → List String
  | [] => []
  | (key, value) :: members =>
      (quote key ++ ": " ++ cutAt cut level value) :: cutMembers cut level members

end

/-- Where nothing is cut. -/
def uncut (_ : Nat) : Bool :=
  false

mutual

/-- The sizes of the objects that are printed, in the order in which they end. -/
def sizes (cut : Nat → Bool) : Json → List Nat
  | array items => sizesOfItems cut items
  | object members =>
      if cut members.length then [] else sizesOfMembers cut members ++ [members.length]
  | null | bool _ | number _ | string _ => []

/-- The sizes of the objects in some items. -/
def sizesOfItems (cut : Nat → Bool) : List Json → List Nat
  | [] => []
  | item :: items => sizes cut item ++ sizesOfItems cut items

/-- The sizes of the objects in what stands in some members. -/
def sizesOfMembers (cut : Nat → Bool) : List (String × Json) → List Nat
  | [] => []
  | (_, value) :: members => sizes cut value ++ sizesOfMembers cut members

end

/-- A document is printed in a text if its text at some level is a piece of it. -/
def IsPrintedIn (document : Json) (text : String) : Prop :=
  ∃ level, IsPiece (document.prettyAt level) text

/-! ## Parts of documents -/

/-- The documents that stand directly inside a document. -/
def parts : Json → List Json
  | array items => items
  | object members => members.map Prod.snd
  | _ => []

theorem sizeOf_lt_of_mem_parts {part whole : Json} (inside : part ∈ whole.parts) :
    sizeOf part < sizeOf whole := by
  cases whole with
  | array items =>
      have bound := List.sizeOf_lt_of_mem (show part ∈ items from inside)
      rw [array.sizeOf_spec]
      omega
  | object members =>
      obtain ⟨⟨key, held⟩, member, rfl⟩ := List.mem_map.mp inside
      have bound := List.sizeOf_lt_of_mem member
      rw [Prod.mk.sizeOf_spec] at bound
      change sizeOf held < sizeOf (object members)
      rw [object.sizeOf_spec]
      omega
  | _ => contradiction

/-- What holds of a document whenever it holds of the documents directly inside it holds of every
document. -/
@[elab_as_elim]
theorem parts_induction {motive : Json → Prop}
    (step : ∀ document, (∀ part ∈ document.parts, motive part) → motive document)
    (document : Json) : motive document :=
  step document fun part inside =>
    have _smaller : sizeOf part < sizeOf document := sizeOf_lt_of_mem_parts inside
    parts_induction step part
termination_by document

variable {cut : Nat → Bool} {level size : Nat} {document part : Json}

theorem cutAt_array (items : List Json) :
    cutAt cut level (array items) = block level "[" "]" (items.map (cutAt cut (level + 1))) := by
  rw [cutAt, eq_map_of_cons (cutItems cut (level + 1)) rfl fun _ _ => rfl]

theorem cutAt_object (members : List (String × Json)) :
    cutAt cut level (object members) =
      if cut members.length then Value.sizeNotice
      else block level "\x7b" "\x7d"
        (members.map fun member => quote member.1 ++ ": " ++ member.2.cutAt cut (level + 1)) := by
  rw [cutAt, eq_map_of_cons (cutMembers cut (level + 1)) rfl fun _ _ => rfl]

theorem prettyAt_array (items : List Json) :
    prettyAt level (array items) = block level "[" "]" (items.map (prettyAt (level + 1))) := by
  rw [prettyAt, eq_map_of_cons (prettyItems (level + 1)) rfl fun _ _ => rfl]

theorem prettyAt_object (members : List (String × Json)) :
    prettyAt level (object members) = block level "\x7b" "\x7d"
      (members.map fun member => quote member.1 ++ ": " ++ member.2.prettyAt (level + 1)) := by
  rw [prettyAt, eq_map_of_cons (prettyMembers (level + 1)) rfl fun _ _ => rfl]

theorem sizes_array (items : List Json) :
    sizes cut (array items) = items.flatMap (sizes cut) := by
  rw [sizes, eq_flatMap_of_cons (sizesOfItems cut) rfl fun _ _ => rfl]

theorem sizes_object (members : List (String × Json)) :
    sizes cut (object members) =
      if cut members.length then []
      else (members.flatMap fun member => member.2.sizes cut) ++ [members.length] := by
  rw [sizes, eq_flatMap_of_cons (sizesOfMembers cut) rfl fun _ _ => rfl]

/-! ### Sizes of objects -/

/-- An object that is printed is the document or stands in one of its parts. -/
theorem exists_of_mem_sizes (member : size ∈ document.sizes cut) :
    (∃ members, document = object members ∧ members.length = size ∧ cut size = false) ∨
      ∃ part ∈ document.parts, size ∈ part.sizes cut := by
  cases document with
  | array items =>
      rw [sizes_array] at member
      exact .inr (List.mem_flatMap.mp member)
  | object members =>
      rw [sizes_object] at member
      split at member
      · contradiction
      · next isLeft =>
          rcases List.mem_append.mp member with below | own
          · obtain ⟨held, isMember, inside⟩ := List.mem_flatMap.mp below
            exact .inr ⟨held.2, List.mem_map_of_mem isMember, inside⟩
          · rw [List.mem_singleton] at own
            exact .inl ⟨members, rfl, own.symm, own ▸ Bool.eq_false_iff.mpr isLeft⟩
  | _ => contradiction

theorem sizes_uncut_object (members : List (String × Json)) :
    (object members).sizes uncut =
      (members.flatMap fun member => member.2.sizes uncut) ++ [members.length] := by
  rw [sizes_object]
  exact if_neg Bool.false_ne_true

theorem length_mem_sizes (members : List (String × Json)) :
    members.length ∈ (object members).sizes uncut := by
  rw [sizes_uncut_object]
  exact List.mem_append_right _ (List.mem_singleton_self _)

theorem mem_sizes_of_mem_parts (inside : part ∈ document.parts)
    (member : size ∈ part.sizes uncut) : size ∈ document.sizes uncut := by
  cases document with
  | array items =>
      rw [sizes_array]
      exact List.mem_flatMap.mpr ⟨part, inside, member⟩
  | object members =>
      obtain ⟨held, isMember, rfl⟩ := List.mem_map.mp inside
      rw [sizes_uncut_object]
      exact List.mem_append_left _ (List.mem_flatMap.mpr ⟨held, isMember, member⟩)
  | _ => contradiction

/-- No object is printed whose size is cut. -/
theorem not_cut_of_mem_sizes (member : size ∈ document.sizes cut) : cut size = false := by
  induction document using parts_induction with
  | step document inductionHypothesis =>
      rcases exists_of_mem_sizes member with ⟨_, _, _, isLeft⟩ | ⟨part, inside, below⟩
      · exact isLeft
      · exact inductionHypothesis part inside below

/-- A document in which no object is cut is printed as it is. -/
theorem cutAt_eq_prettyAt (isWhole : ∀ size ∈ document.sizes uncut, cut size = false) :
    document.cutAt cut level = document.prettyAt level := by
  induction document using parts_induction generalizing level with
  | step document inductionHypothesis =>
      have same (part : Json) (inside : part ∈ document.parts) :
          part.cutAt cut (level + 1) = part.prettyAt (level + 1) :=
        inductionHypothesis part inside fun size member =>
          isWhole size (mem_sizes_of_mem_parts inside member)
      cases document with
      | array items =>
          rw [cutAt_array, prettyAt_array]
          exact congrArg _ (List.map_congr_left same)
      | object members =>
          rw [cutAt_object, prettyAt_object, isWhole _ (length_mem_sizes members),
            if_neg Bool.false_ne_true]
          refine congrArg _ (List.map_congr_left fun member isMember => ?_)
          rw [same member.2 (List.mem_map_of_mem isMember)]
      | _ => rfl

theorem prettyAt_eq_cutAt_uncut (level : Nat) (document : Json) :
    document.prettyAt level = document.cutAt uncut level :=
  (cutAt_eq_prettyAt fun _ _ => rfl).symm

/-! ### Pieces of printed documents -/

theorem isPiece_block (level : Nat) (left right : String) {text : String} {texts : List String}
    (isThere : text ∈ texts) : IsPiece text (block level left right texts) := by
  have isFilled : texts.isEmpty = false := List.isEmpty_eq_false_iff_exists_mem.mpr ⟨_, isThere⟩
  rw [block, isFilled, if_neg Bool.false_ne_true]
  exact (IsPiece.intercalate _ isThere).trans ((IsPiece.append_right _ _).trans
    ((IsPiece.append_left _ _).trans (IsPiece.append_left _ _)))

/-- Each part of a document is printed one level further in. -/
theorem isPiece_of_mem_parts (level : Nat) (inside : part ∈ document.parts) :
    IsPiece (part.prettyAt (level + 1)) (document.prettyAt level) := by
  cases document with
  | array items =>
      rw [prettyAt_array]
      exact isPiece_block _ _ _ (List.mem_map_of_mem inside)
  | object members =>
      obtain ⟨held, isMember, rfl⟩ := List.mem_map.mp inside
      rw [prettyAt_object]
      exact (IsPiece.append_right (quote held.1 ++ ": ") _).trans
        (isPiece_block _ _ _ (List.mem_map.mpr ⟨held, isMember, rfl⟩))
  | _ => contradiction

/-- An object of a document is found in its text. -/
theorem exists_isPrintedIn_of_mem_sizes (level : Nat) (member : size ∈ document.sizes uncut) :
    ∃ members, members.length = size ∧ (object members).IsPrintedIn (document.prettyAt level) := by
  induction document using parts_induction generalizing level with
  | step document inductionHypothesis =>
      rcases exists_of_mem_sizes member with ⟨members, rfl, own, _⟩ | ⟨part, inside, below⟩
      · exact ⟨members, own, level, .refl _⟩
      · obtain ⟨members, own, inner, isPiece⟩ := inductionHypothesis part inside (level + 1) below
        exact ⟨members, own, inner, isPiece.trans (isPiece_of_mem_parts level inside)⟩

end Json

end Extraction
