import Extraction.Value.Basic

/-!
# Deep merge

An overlay is merged onto a base key by key.  Where both hold an object, the objects are merged in
turn; anywhere else the overlay's value replaces the base's.
-/

namespace Extraction

mutual

/-- The overlay's entries put onto a base, in order. -/
def Entries.merge (base : Entries) : List (String × Value) → Entries
  | [] => base
  | (key, overlay) :: rest =>
      Entries.merge (base.insert key (Value.mergeOnto (base.find? key) overlay)) rest

/-- The value under a key that the overlay holds, given the one that the base holds. -/
def Value.mergeOnto (existing : Option Value) : Value → Value
  | .object overlay =>
      match existing with
      | some (.object base) => .object (Entries.merge base overlay)
      | _ => .object overlay
  | overlay => overlay

end

namespace Value

/-- Merges an overlay onto a base.  The result is always an object: a base that is no object
contributes no entries, and an overlay that is no object changes nothing. -/
def merge (base overlay : Value) : Value :=
  object (base.entries.merge overlay.entries)

@[simp]
theorem entries_merge (base overlay : Value) :
    (base.merge overlay).entries = base.entries.merge overlay.entries :=
  rfl

end Value

namespace Entries

@[simp]
theorem merge_nil (base : Entries) : base.merge [] = base := by
  simp [merge]

theorem merge_cons (base : Entries) (key : String) (overlay : Value)
    (rest : List (String × Value)) :
    base.merge ((key, overlay) :: rest) =
      (base.insert key (Value.mergeOnto (base.find? key) overlay)).merge rest := by
  simp [merge]

end Entries

end Extraction
