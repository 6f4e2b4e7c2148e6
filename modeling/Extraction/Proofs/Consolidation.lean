import Extraction.Proofs.Composition

/-!
# Consolidation in one pass

Siblings are consolidated in one pass over their outcomes.  Values are kept as long as no sibling
has failed, and the faults of each failure are put behind those of earlier ones.  What has been
kept after some siblings is always their consolidated outcome, and one more sibling is one more
part of it.  So consolidation takes concatenation to concatenation: nothing is lost, doubled or
moved.
-/

namespace Extraction.Outcome

variable {α β : Type}

/-- What is kept of the siblings that have been met: their values, as long as none of them has
failed, and the faults of those that have. -/
structure Tally (α : Type) where
  values : List α
  faults : Option Faults

namespace Tally

/-- Before any sibling is met. -/
def empty : Tally α :=
  ⟨[], none⟩

/-- The faults of one more failure, behind those of earlier ones. -/
def further (earlier : Option Faults) (later : Faults) : Faults :=
  match earlier with
  | some earlier => earlier.combine later
  | none => later

/-- One more sibling.  Once there are faults, values are dropped. -/
def add (tally : Tally α) : Outcome α → Tally α
  | .ok value =>
      if tally.faults.isNone then { tally with values := tally.values ++ [value] } else tally
  | .error later => { tally with faults := some (further tally.faults later) }

/-- The outcome of the siblings that have been met. -/
def outcome (tally : Tally α) : Outcome (List α) :=
  match tally.faults with
  | some faults => .error faults
  | none => .ok tally.values

end Tally

/-! ## Parts of siblings -/

theorem both_assoc (combine : β → β → β)
    (associative : ∀ first second third, combine (combine first second) third =
      combine first (combine second third)) (first second third : Outcome β) :
    (first.both combine second).both combine third =
      first.both combine (second.both combine third) := by
  cases first <;> cases second <;> cases third <;>
    simp [both, associative, Faults.combine_assoc]

theorem both_ok_nil (outcome : Outcome (List α)) : outcome.both (· ++ ·) (.ok []) = outcome := by
  cases outcome <;> simp [both]

/-- A single sibling has its own outcome, with its value in a list. -/
theorem consolidate_singleton (outcome : Outcome α) :
    consolidate [outcome] = outcome.map fun value => [value] := by
  cases outcome <;> rfl

/-! ## One pass -/

/-- One more sibling is one more part of the outcome. -/
theorem outcome_add (tally : Tally α) (next : Outcome α) :
    (tally.add next).outcome = tally.outcome.both (· ++ ·) (consolidate [next]) := by
  obtain ⟨values, faults⟩ := tally
  rw [consolidate_singleton]
  cases next with
  | ok value => cases faults <;> rfl
  | error later => cases faults <;> rfl

/-- Further siblings are a further part of the outcome. -/
theorem outcome_foldl_add (tally : Tally α) (outcomes : List (Outcome α)) :
    (outcomes.foldl Tally.add tally).outcome =
      tally.outcome.both (· ++ ·) (consolidate outcomes) := by
  induction outcomes generalizing tally with
  | nil => exact (both_ok_nil tally.outcome).symm
  | cons next outcomes inductionHypothesis =>
      calc ((next :: outcomes).foldl Tally.add tally).outcome
          = (tally.add next).outcome.both (· ++ ·) (consolidate outcomes) :=
            inductionHypothesis (tally.add next)
        _ = (tally.outcome.both (· ++ ·) (consolidate [next])).both (· ++ ·)
              (consolidate outcomes) := by rw [outcome_add]
        _ = tally.outcome.both (· ++ ·)
              ((consolidate [next]).both (· ++ ·) (consolidate outcomes)) :=
            both_assoc _ List.append_assoc _ _ _
        _ = tally.outcome.both (· ++ ·) (consolidate (next :: outcomes)) := by
            rw [← consolidate_append, List.singleton_append]

/-- The pass ends with the consolidated outcome. -/
theorem consolidate_eq_foldl (outcomes : List (Outcome α)) :
    consolidate outcomes = (outcomes.foldl Tally.add .empty).outcome := by
  rw [outcome_foldl_add]
  cases consolidate outcomes <;> rfl

/-- Siblings fail together with some faults exactly if these are the faults of all of them in
order. -/
theorem consolidate_eq_error_iff {outcomes : List (Outcome α)} {faults : Faults} :
    consolidate outcomes = .error faults ↔ faults.toList = outcomes.flatMap Outcome.faults := by
  rw [← faults_consolidate]
  cases consolidate outcomes with
  | ok values => simp [Faults.toList]
  | error others =>
      constructor
      · intro same
        cases same
        rfl
      · intro same
        rw [Faults.toList_injective same]

/-- Consolidating takes concatenation to concatenation, in one pass: together siblings have all
their values, or else exactly all their faults, in order. -/
theorem consolidate_concatenates (first second outcomes : List (Outcome α)) (outcome : Outcome α) :
    consolidate (first ++ second) = (consolidate first).both (· ++ ·) (consolidate second) ∧
      (consolidate (first ++ second)).faults =
        (consolidate first).faults ++ (consolidate second).faults ∧
      consolidate [outcome] = outcome.map (fun value => [value]) ∧
      consolidate ([] : List (Outcome α)) = .ok [] ∧
      consolidate outcomes = (outcomes.foldl Tally.add .empty).outcome ∧
      (∀ values, consolidate outcomes = .ok values ↔ outcomes = values.map .ok) ∧
      (∀ faults : Faults, consolidate outcomes = .error faults ↔
        faults.toList = outcomes.flatMap Outcome.faults) ∧
      ((∃ faults, consolidate outcomes = .error faults) ↔
        outcomes.flatMap Outcome.faults ≠ []) := by
  refine ⟨consolidate_append first second, ?_, consolidate_singleton outcome, consolidate_nil,
    consolidate_eq_foldl outcomes, fun _ => consolidate_eq_ok_iff,
    fun _ => consolidate_eq_error_iff, ?_⟩
  · rw [consolidate_append, faults_both]
  · constructor
    · rintro ⟨faults, failed⟩
      exact consolidate_eq_error_iff.mp failed ▸ faults.toList_ne_nil
    · intro someFaults
      rw [← faults_consolidate] at someFaults
      cases together : consolidate outcomes with
      | ok values => exact absurd (together ▸ rfl) someFaults
      | error faults => exact ⟨faults, rfl⟩

end Extraction.Outcome
