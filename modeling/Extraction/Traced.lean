/-!
# Traced results

The parts that a host supplies (validators, fallbacks, explanations) may leave notes when they
run.  A traced result carries the notes in the order in which they were left, so that it can be
seen what was run and when.
-/

namespace Extraction

universe u v

/-- A result and the notes left while it was computed. -/
structure Traced (α : Type u) where
  value : α
  notes : List String := []
deriving DecidableEq, Repr

namespace Traced

variable {α : Type u} {β : Type v}

/-- Leaves one note. -/
def note (text : String) : Traced PUnit.{u + 1} :=
  ⟨⟨⟩, [text]⟩

/-- Runs a computation after another one; the notes of the first come first. -/
protected def bind (first : Traced α) (next : α → Traced β) : Traced β :=
  let second := next first.value
  ⟨second.value, first.notes ++ second.notes⟩

instance : Monad Traced where
  pure value := ⟨value, []⟩
  bind := Traced.bind

@[simp]
theorem value_pure (value : α) : (pure value : Traced α).value = value :=
  rfl

@[simp]
theorem notes_pure (value : α) : (pure value : Traced α).notes = [] :=
  rfl

@[simp]
theorem value_bind {α β : Type u} (first : Traced α) (next : α → Traced β) :
    (first >>= next).value = (next first.value).value :=
  rfl

@[simp]
theorem notes_bind {α β : Type u} (first : Traced α) (next : α → Traced β) :
    (first >>= next).notes = first.notes ++ (next first.value).notes :=
  rfl

@[simp]
theorem value_map {α β : Type u} (change : α → β) (computation : Traced α) :
    (change <$> computation).value = change computation.value :=
  rfl

@[ext]
theorem ext {left right : Traced α} (values : left.value = right.value)
    (notes : left.notes = right.notes) : left = right := by
  cases left
  cases right
  simp_all

instance : LawfulMonad Traced :=
  LawfulMonad.mk' Traced
    (fun computation => by
      apply Traced.ext
      · rfl
      · exact List.append_nil _)
    (fun value next => by
      apply Traced.ext
      · rfl
      · exact List.nil_append _)
    (fun computation first second => by
      apply Traced.ext
      · rfl
      · exact List.append_assoc _ _ _)

@[simp]
theorem value_mapM {α β : Type u} (each : α → Traced β) (items : List α) :
    (items.mapM each).value = items.map fun item => (each item).value := by
  induction items with
  | nil => rfl
  | cons item items inductionHypothesis =>
      rw [List.mapM_cons, value_bind, value_bind, value_pure, inductionHypothesis, List.map_cons]

end Traced

end Extraction
