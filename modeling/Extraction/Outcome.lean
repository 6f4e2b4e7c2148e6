import Extraction.Fault.Collection

/-!
# Outcomes

An extraction ends with a value or with faults.  Binding outcomes stops at the first failure;
consolidating them keeps going and reports the faults of every failure.
-/

namespace Extraction

universe u v

/-- A value, or the faults that stand in its way. -/
abbrev Outcome (α : Type u) := Except Faults α

namespace Outcome

variable {α : Type u}

/-- A failure with a single fault. -/
def fail (fault : Fault) : Outcome α :=
  .error (.single fault)

/-- The verdict of a validator as an outcome: a message becomes a fault at `path`. -/
def lift (verdict : Except String α) (path : Path) : Outcome α :=
  match verdict with
  | .ok value => .ok value
  | .error message => fail (.custom path message)

/-- Collapses both cases into one value. -/
def either {β : Type v} (onFaults : Faults → β) (onValue : α → β) : Outcome α → β
  | .ok value => onValue value
  | .error faults => onFaults faults

/-- Replaces a failure; a success passes through. -/
def bindFailure (outcome : Outcome α) (next : Faults → Outcome α) : Outcome α :=
  outcome.either next .ok

/-- The faults of an outcome, none for a success. -/
def faults (outcome : Outcome α) : List Fault :=
  outcome.either Faults.toList fun _ => []

/-- Puts the outcome of one sibling in front of those of the others. -/
def prepend : Outcome α → Outcome (List α) → Outcome (List α)
  | .ok value, .ok values => .ok (value :: values)
  | .ok _, .error later => .error later
  | .error first, .ok _ => .error first
  | .error first, .error later => .error (first.combine later)

/-- The outcomes of siblings as one: all values in order, or else the faults of every failure in
order. -/
def consolidate : List (Outcome α) → Outcome (List α)
  | [] => .ok []
  | outcome :: outcomes => outcome.prepend (consolidate outcomes)

@[simp]
theorem consolidate_nil : consolidate ([] : List (Outcome α)) = .ok [] :=
  rfl

@[simp]
theorem consolidate_cons (outcome : Outcome α) (outcomes : List (Outcome α)) :
    consolidate (outcome :: outcomes) = outcome.prepend (consolidate outcomes) :=
  rfl

end Outcome

end Extraction
