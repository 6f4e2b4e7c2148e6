import Mathlib.Data.List.Forall2
import Extraction.Proofs.Places
import Extraction.Schema.Memory

/-!
# Runs from sound memories

A memory is sound if it remembers nothing but what the schema itself says: every thunk stands in
what is built from the schema, and what a thunk holds is what its factory builds.  Runs keep
memories sound, so that the runs that follow cannot tell what has been built before.
-/

namespace Extraction

namespace Run

variable {α β : Type} {invariant : Memory → Prop}

/-- From memories with the invariant, a run that ends keeps the invariant and has a result as
stated. -/
def Ensures (invariant : Memory → Prop) (run : Run α) (stated : α → Prop) : Prop :=
  ∀ memory, invariant memory → ∀ result after, run.run memory = some (result, after) →
    stated result ∧ invariant after

/-- From all memories with the invariant, a run has the same result and keeps the invariant, or it
runs out of its bound. -/
def Settles (invariant : Memory → Prop) (run : Run α) : Option α → Prop
  | none => ∀ memory, invariant memory → run.run memory = none
  | some result => ∀ memory, invariant memory →
      ∃ after, run.run memory = some (result, after) ∧ invariant after

/-- From memories with the invariant a run ends, keeps the invariant and has a result as stated. -/
def Finishes (invariant : Memory → Prop) (run : Run α) (stated : α → Prop) : Prop :=
  ∀ memory, invariant memory → ∃ result after, run.run memory = some (result, after) ∧
    stated result ∧ invariant after

namespace Ensures

variable {stated : α → Prop}

theorem pure {result : α} (holds : stated result) :
    Ensures invariant (Pure.pure result) stated := by
  intro memory kept _ _ ends
  cases ends
  exact ⟨holds, kept⟩

theorem exhausted : Ensures invariant (Run.exhausted : Run α) stated := by
  intro _ _ _ _ ends
  contradiction

theorem imp {run : Run α} {other : α → Prop} (ensures : Ensures invariant run stated)
    (implies : ∀ result, stated result → other result) : Ensures invariant run other := by
  intro memory kept result after ends
  rcases ensures memory kept result after ends with ⟨holds, keptAfter⟩
  exact ⟨implies result holds, keptAfter⟩

theorem bind {run : Run α} {next : α → Run β} {final : β → Prop}
    (first : Ensures invariant run stated)
    (later : ∀ result, stated result → Ensures invariant (next result) final) :
    Ensures invariant (run >>= next) final := by
  intro memory kept result after ends
  rw [StateT.run_bind] at ends
  rcases Option.bind_eq_some_iff.mp ends with ⟨⟨middle, between⟩, firstEnds, laterEnds⟩
  rcases first memory kept middle between firstEnds with ⟨holds, keptBetween⟩
  exact later middle holds between keptBetween result after laterEnds

/-- Steps for the items of a list have their results in order. -/
theorem mapM {step : α → Run β} {related : α → β → Prop} {items : List α}
    (each : ∀ item ∈ items, Ensures invariant (step item) (related item)) :
    Ensures invariant (items.mapM step) (List.Forall₂ related items) := by
  induction items with
  | nil =>
      rw [List.mapM_nil]
      exact .pure .nil
  | cons item items inductionHypothesis =>
      rw [List.mapM_cons]
      refine .bind (each item (.head _)) fun result holds => ?_
      refine .bind (inductionHypothesis fun other member => each other (.tail _ member)) ?_
      exact fun results rest => .pure (.cons holds rest)

end Ensures

/-- Steps for the items of a list have as many results as there are items. -/
theorem length_of_mapM {step : α → Run β} {items : List α} {memory after : Memory}
    {results : List β} (ends : (items.mapM step).run memory = some (results, after)) :
    results.length = items.length := by
  have each : Ensures (fun _ => True) (items.mapM step) (List.Forall₂ (fun _ _ => True) items) :=
    .mapM fun _ _ _ _ _ _ _ => ⟨trivial, trivial⟩
  exact (each memory trivial results after ends).1.length_eq.symm

namespace Finishes

variable {stated : α → Prop}

theorem pure {result : α} (holds : stated result) :
    Finishes invariant (Pure.pure result) stated :=
  fun memory kept => ⟨result, memory, rfl, holds, kept⟩

theorem bind {run : Run α} {next : α → Run β} {final : β → Prop}
    (first : Finishes invariant run stated)
    (later : ∀ result, stated result → Finishes invariant (next result) final) :
    Finishes invariant (run >>= next) final := by
  intro memory kept
  obtain ⟨middle, between, firstEnds, holds, keptBetween⟩ := first memory kept
  obtain ⟨result, after, laterEnds, isFinal, keptAfter⟩ := later middle holds between keptBetween
  have ends : (run >>= next).run memory = some (result, after) := by
    rw [StateT.run_bind, firstEnds]
    exact laterEnds
  exact ⟨result, after, ends, isFinal, keptAfter⟩

/-- Steps for the items of a list finish with their results in order. -/
theorem mapM {step : α → Run β} {related : α → β → Prop} {items : List α}
    (each : ∀ item ∈ items, Finishes invariant (step item) (related item)) :
    Finishes invariant (items.mapM step) (List.Forall₂ related items) := by
  induction items with
  | nil =>
      rw [List.mapM_nil]
      exact .pure .nil
  | cons item items inductionHypothesis =>
      rw [List.mapM_cons]
      apply bind (each item (.head _))
      intro result holds
      apply bind (inductionHypothesis fun other member => each other (.tail _ member))
      intro results rest
      exact .pure (.cons holds rest)

end Finishes

namespace Settles

theorem pure (result : α) : Settles invariant (Pure.pure result) (some result) :=
  fun memory kept => ⟨memory, rfl, kept⟩

theorem exhausted : Settles invariant (Run.exhausted : Run α) none :=
  fun _ _ => rfl

theorem bind {run : Run α} {next : α → Run β} {result? : Option α} {final? : α → Option β}
    (first : Settles invariant run result?)
    (later : ∀ result, result? = some result → Settles invariant (next result) (final? result)) :
    Settles invariant (run >>= next) (result?.bind final?) := by
  cases result? with
  | none =>
      intro memory kept
      rw [StateT.run_bind, first memory kept]
      rfl
  | some result =>
      rw [Option.bind_some]
      cases final : final? result with
      | none =>
          intro memory kept
          rcases first memory kept with ⟨between, firstEnds, keptBetween⟩
          have laterEnds := later result rfl
          rw [final] at laterEnds
          rw [StateT.run_bind, firstEnds]
          exact laterEnds between keptBetween
      | some answer =>
          intro memory kept
          rcases first memory kept with ⟨between, firstEnds, keptBetween⟩
          have laterEnds := later result rfl
          rw [final] at laterEnds
          rw [StateT.run_bind, firstEnds]
          exact laterEnds between keptBetween

/-- A change of the result of a run is a change of what it settles to. -/
theorem map {run : Run α} {result? : Option α} (settles : Settles invariant run result?)
    (change : α → β) : Settles invariant (change <$> run) (result?.map change) := by
  rw [map_eq_pure_bind, Option.map_eq_bind]
  exact settles.bind fun result _ => .pure (change result)

/-- A run goes on from the result of a run that always ends. -/
theorem andThen {run : Run α} {next : α → Run β} {result : α} {final? : Option β}
    (first : Settles invariant run (some result))
    (later : Settles invariant (next result) final?) :
    Settles invariant (run >>= next) final? := by
  have sequence : Settles invariant (run >>= next) ((some result).bind fun _ => final?) :=
    bind first fun other same => by
      cases same
      exact later
  exact sequence

theorem mapM {step : α → Run β} {meaning : α → Option β} {items : List α}
    (each : ∀ item ∈ items, Settles invariant (step item) (meaning item)) :
    Settles invariant (items.mapM step) (items.mapM meaning) := by
  induction items with
  | nil =>
      rw [List.mapM_nil, List.mapM_nil]
      exact .pure []
  | cons item items inductionHypothesis =>
      rw [List.mapM_cons, List.mapM_cons]
      refine .bind (each item (.head _)) fun result _ => ?_
      refine .bind (inductionHypothesis fun other member => each other (.tail _ member)) ?_
      exact fun results _ => .pure (result :: results)

/-- Steps that always end have their results in order. -/
theorem mapM_some {step : α → Run β} {items : List α} {results : List β}
    (each : List.Forall₂ (fun item result => Settles invariant (step item) (some result))
      items results) :
    Settles invariant (items.mapM step) (some results) := by
  induction each with
  | nil =>
      rw [List.mapM_nil]
      exact .pure []
  | cons first _ inductionHypothesis =>
      rw [List.mapM_cons]
      exact .andThen first (.andThen inductionHypothesis (.pure _))

theorem of_run_eq {run other : Run α} {result? : Option α}
    (settles : Settles invariant other result?)
    (same : ∀ memory, invariant memory → run.run memory = other.run memory) :
    Settles invariant run result? := by
  cases result? with
  | none => exact fun memory kept => (same memory kept).trans (settles memory kept)
  | some result =>
      intro memory kept
      rw [same memory kept]
      exact settles memory kept

/-- A settled run that ends from one memory ends with the same result from all. -/
theorem eq_some {run : Run α} {result? : Option α} {result : α} {memory after : Memory}
    (settles : Settles invariant run result?) (kept : invariant memory)
    (ends : run.run memory = some (result, after)) :
    result? = some result ∧ invariant after := by
  cases result? with
  | none => simp [settles memory kept] at ends
  | some other =>
      rcases settles memory kept with ⟨later, sameEnds, keptLater⟩
      rw [ends] at sameEnds
      cases sameEnds
      exact ⟨rfl, keptLater⟩

theorem ensures {run : Run α} {result : α} (settles : Settles invariant run (some result)) :
    Ensures invariant run (· = result) := by
  intro memory kept other after ends
  rcases settles.eq_some kept ends with ⟨same, keptAfter⟩
  exact ⟨(Option.some.inj same).symm, keptAfter⟩

theorem finishes {run : Run α} {result : α}
    (settles : Settles invariant run (some result)) : Finishes invariant run (· = result) := by
  intro memory kept
  rcases settles memory kept with ⟨after, ends, keptAfter⟩
  exact ⟨result, after, ends, rfl, keptAfter⟩

/-- What a settled run yields from a memory. -/
theorem map_fst {run : Run α} {result? : Option α} {memory : Memory}
    (settles : Settles invariant run result?) (kept : invariant memory) :
    (run.run memory).map Prod.fst = result? := by
  cases result? with
  | none => rw [settles memory kept, Option.map_none]
  | some result =>
      rcases settles memory kept with ⟨_, ends, _⟩
      rw [ends, Option.map_some]

end Settles

/-- One run does what another one does, unless it runs out of its bound. -/
def Refines (run other : Run α) : Prop :=
  ∀ memory answer, run.run memory = some answer → other.run memory = some answer

namespace Refines

theorem refl (run : Run α) : Refines run run :=
  fun _ _ ends => ends

theorem bind {run other : Run α} {next otherNext : α → Run β} (first : Refines run other)
    (later : ∀ result, Refines (next result) (otherNext result)) :
    Refines (run >>= next) (other >>= otherNext) := by
  intro memory answer ends
  rw [StateT.run_bind] at ends ⊢
  obtain ⟨⟨result, between⟩, firstEnds, laterEnds⟩ := Option.bind_eq_some_iff.mp ends
  rw [first memory _ firstEnds]
  exact later result between answer laterEnds

theorem mapM {step otherStep : α → Run β} {items : List α}
    (each : ∀ item ∈ items, Refines (step item) (otherStep item)) :
    Refines (items.mapM step) (items.mapM otherStep) := by
  induction items with
  | nil => exact .refl _
  | cons item items inductionHypothesis =>
      rw [List.mapM_cons, List.mapM_cons]
      refine .bind (each item (.head _)) fun _ => .bind ?_ fun _ => .refl _
      exact inductionHypothesis fun other member => each other (.tail _ member)

end Refines

/-- From two memories two runs end with related results and in linked memories, or neither of them
ends within its bound. -/
def Paired (related : α → β → Prop) (linked : Memory → Memory → Prop) (run : Run α) (other : Run β)
    (memory changed : Memory) : Prop :=
  Option.Rel (fun ending otherEnding => related ending.1 otherEnding.1 ∧
    linked ending.2 otherEnding.2) (run.run memory) (other.run changed)

namespace Paired

variable {γ δ : Type} {related : α → β → Prop} {linked : Memory → Memory → Prop}
  {memory changed : Memory}

theorem pure {result : α} {other : β} (holds : related result other)
    (isLinked : linked memory changed) :
    Paired related linked (Pure.pure result) (Pure.pure other) memory changed :=
  .some ⟨holds, isLinked⟩

theorem exhausted :
    Paired related linked (Run.exhausted : Run α) (Run.exhausted : Run β) memory changed :=
  .none

theorem imp {run : Run α} {other : Run β} {alike : α → β → Prop}
    {weaker : Memory → Memory → Prop} (paired : Paired related linked run other memory changed)
    (impliesAlike : ∀ result otherResult, related result otherResult → alike result otherResult)
    (implies : ∀ between otherBetween, linked between otherBetween →
      weaker between otherBetween) : Paired alike weaker run other memory changed := by
  unfold Paired at paired ⊢
  generalize run.run memory = ending, other.run changed = otherEnding at paired ⊢
  cases paired with
  | none => exact .none
  | some holds => exact .some ⟨impliesAlike _ _ holds.1, implies _ _ holds.2⟩

theorem bind {run : Run α} {other : Run β} {next : α → Run γ} {otherNext : β → Run δ}
    {final : γ → δ → Prop} (first : Paired related linked run other memory changed)
    (later : ∀ result otherResult between otherBetween,
      run.run memory = some (result, between) → related result otherResult →
      linked between otherBetween →
        Paired final linked (next result) (otherNext otherResult) between otherBetween) :
    Paired final linked (run >>= next) (other >>= otherNext) memory changed := by
  unfold Paired at first ⊢
  rw [StateT.run_bind, StateT.run_bind]
  generalize ends : run.run memory = ending, other.run changed = otherEnding at first
  cases first with
  | none => exact .none
  | @some ending otherEnding alike =>
      rcases ending with ⟨result, between⟩
      rcases otherEnding with ⟨otherResult, otherBetween⟩
      exact later result otherResult between otherBetween ends alike.1 alike.2

/-- Steps for the items of a list are paired if each is. -/
theorem mapM {ι : Type} {step : ι → Run α} {otherStep : ι → Run β} {items : List ι}
    (each : ∀ item ∈ items, ∀ between otherBetween, linked between otherBetween →
      Paired related linked (step item) (otherStep item) between otherBetween)
    (isLinked : linked memory changed) :
    Paired (List.Forall₂ related) linked (items.mapM step) (items.mapM otherStep) memory
      changed := by
  induction items generalizing memory changed with
  | nil => exact .pure .nil isLinked
  | cons item items inductionHypothesis =>
      rw [List.mapM_cons, List.mapM_cons]
      apply bind (each item (.head _) memory changed isLinked)
      intro result otherResult between otherBetween _ holds linkedBetween
      have later := inductionHypothesis
        (fun other member => each other (.tail _ member)) linkedBetween
      apply bind later
      intro results otherResults last otherLast _ rest linkedLast
      exact .pure (.cons holds rest) linkedLast

end Paired

/-- From two memories two runs end alike: with the same result and in linked memories, or neither
of them ends within its bound. -/
def Coupled (linked : Memory → Memory → Prop) (run other : Run α) (memory changed : Memory) :
    Prop :=
  Option.Rel (fun ending otherEnding => ending.1 = otherEnding.1 ∧ linked ending.2 otherEnding.2)
    (run.run memory) (other.run changed)

theorem coupled_iff_paired {linked : Memory → Memory → Prop} {run other : Run α}
    {memory changed : Memory} :
    Coupled linked run other memory changed ↔ Paired Eq linked run other memory changed :=
  Iff.rfl

namespace Coupled

variable {linked : Memory → Memory → Prop} {memory changed : Memory}

theorem pure {result : α} (isLinked : linked memory changed) :
    Coupled linked (Pure.pure result) (Pure.pure result) memory changed :=
  .some ⟨rfl, isLinked⟩

theorem exhausted : Coupled linked (Run.exhausted : Run α) Run.exhausted memory changed :=
  .none

theorem imp {run other : Run α} {weaker : Memory → Memory → Prop}
    (coupled : Coupled linked run other memory changed)
    (implies : ∀ between otherBetween, linked between otherBetween →
      weaker between otherBetween) :
    Coupled weaker run other memory changed := by
  rw [coupled_iff_paired] at coupled ⊢
  exact coupled.imp (fun _ _ same => same) implies

/-- If one of two coupled runs ends then the other one does. -/
theorem exists_ending {run other : Run α} {result : α} {after : Memory}
    (coupled : Coupled linked run other memory changed)
    (ends : run.run memory = some (result, after)) :
    ∃ otherAfter, other.run changed = some (result, otherAfter) ∧ linked after otherAfter := by
  unfold Coupled at coupled
  rw [ends] at coupled
  generalize other.run changed = ending at coupled ⊢
  cases coupled with
  | @some _ ending alike =>
      rcases ending with ⟨_, otherAfter⟩
      obtain ⟨rfl, isLinked⟩ := alike
      exact ⟨otherAfter, rfl, isLinked⟩

theorem bind {run other : Run α} {next otherNext : α → Run β}
    (first : Coupled linked run other memory changed)
    (later : ∀ result between otherBetween, run.run memory = some (result, between) →
      linked between otherBetween →
        Coupled linked (next result) (otherNext result) between otherBetween) :
    Coupled linked (run >>= next) (other >>= otherNext) memory changed := by
  rw [coupled_iff_paired] at first ⊢
  apply first.bind
  rintro result _ between otherBetween ends rfl isLinked
  exact later result between otherBetween ends isLinked

/-- Steps for the items of a list are coupled if each is, after those before it. -/
theorem mapM {step otherStep : α → Run β} {items : List α}
    (each : ∀ front item back, items = front ++ item :: back →
      ∀ results between otherBetween, (front.mapM step).run memory = some (results, between) →
        linked between otherBetween →
          Coupled linked (step item) (otherStep item) between otherBetween)
    (isLinked : linked memory changed) :
    Coupled linked (items.mapM step) (items.mapM otherStep) memory changed := by
  induction items generalizing memory changed with
  | nil => exact .pure isLinked
  | cons item items inductionHypothesis =>
      rw [List.mapM_cons, List.mapM_cons]
      have first := each [] item items rfl [] memory changed rfl isLinked
      refine first.bind fun result between otherBetween ends linkedBetween => ?_
      refine .bind (inductionHypothesis ?_ linkedBetween) fun _ _ _ _ linkedAfter =>
        .pure linkedAfter
      intro front other back split results last otherLast frontEnds
      have bothEnd : ((item :: front).mapM step).run memory = some (result :: results, last) := by
        simp [ends, frontEnds]
      exact each (item :: front) other back (by rw [split]; rfl) _ last otherLast bothEnd

end Coupled

theorem Paired.of_coupled {linked : Memory → Memory → Prop} {memory changed : Memory}
    {run other : Run α} {related : α → α → Prop} (reflexive : ∀ result, related result result)
    (coupled : Coupled linked run other memory changed) :
    Paired related linked run other memory changed := by
  rw [coupled_iff_paired] at coupled
  apply coupled.imp
  · rintro result _ rfl
    exact reflexive result
  · exact fun _ _ isLinked => isLinked

end Run

/-! ## Sound memories -/

/-- A memory that remembers of a schema only what the schema itself says, while thunks with the
keys are being described. -/
structure Memory.Sound (definitions : Definitions) (schema : Schema) (keys : List ThunkKey)
    (memory : Memory) : Prop where
  created : ∀ thunk ∈ memory.created, thunk.Stands definitions schema
  held : ∀ thunk : Thunk, thunk.Stands definitions schema →
    ∀ node, memory.cell? thunk.address = some node → node = thunk.delegate
  describing : memory.describing = keys

namespace Memory

variable {definitions : Definitions} {schema : Schema} {keys : List ThunkKey} {memory : Memory}

theorem sound_initial (definitions : Definitions) (schema : Schema) :
    (Memory.initial ((Node.root schema).thunks definitions)).Sound definitions schema [] where
  created := fun _ member => (Node.stands_root definitions schema).thunks member
  held := fun _ _ _ held => by contradiction
  describing := rfl

namespace Sound

theorem record (sound : memory.Sound definitions schema keys) (events : List Event) :
    (memory.record events).Sound definitions schema keys :=
  ⟨sound.created, sound.held, sound.describing⟩

theorem request (sound : memory.Sound definitions schema keys) (address : Address) :
    (memory.request address).Sound definitions schema keys :=
  ⟨sound.created, sound.held, sound.describing⟩

theorem describe (sound : memory.Sound definitions schema keys) (others : List ThunkKey) :
    Memory.Sound definitions schema others { memory with describing := others } :=
  ⟨sound.created, sound.held, rfl⟩

theorem push (sound : memory.Sound definitions schema keys) (key : ThunkKey) :
    Memory.Sound definitions schema (key :: keys)
      { memory with describing := key :: memory.describing } := by
  rw [sound.describing]
  exact sound.describe _

theorem pop {key : ThunkKey} (sound : memory.Sound definitions schema (key :: keys)) :
    Memory.Sound definitions schema keys
      { memory with describing := memory.describing.tail } := by
  rw [sound.describing]
  exact sound.describe _

theorem build (sound : memory.Sound definitions schema keys) {thunk : Thunk}
    (stands : thunk.Stands definitions schema) :
    (memory.build definitions thunk).Sound definitions schema keys where
  created := by
    intro other member
    rcases List.mem_append.mp member with before | built
    · exact sound.created other before
    · exact stands.delegate.thunks built
  held := by
    intro other otherStands node held
    rw [cell?_build] at held
    split at held
    · next same =>
        cases held
        rw [otherStands.eq_of_address_eq stands same]
    · exact sound.held other otherStands node held
  describing := sound.describing

/-- A standing thunk holds what its factory builds, whenever it was built. -/
theorem force (sound : memory.Sound definitions schema keys) {thunk : Thunk}
    (stands : thunk.Stands definitions schema) :
    ∃ after, memory.force definitions thunk = (thunk.delegate, after) ∧
      after.Sound definitions schema keys := by
  cases held : memory.cell? thunk.address with
  | none =>
      refine ⟨_, force_of_not_isBuilt ?_, sound.build stands⟩
      rw [isBuilt, held, Option.isSome_none]
  | some node =>
      rw [force_of_cell? held, sound.held thunk stands node held]
      exact ⟨memory, rfl, sound⟩

end Sound

end Memory

namespace Run

variable {α : Type} {definitions : Definitions} {schema : Schema} {keys : List ThunkKey}

theorem settles_perform (computation : Traced α) :
    Settles (Memory.Sound definitions schema keys) (perform computation)
      (some computation.value) :=
  fun _ sound => ⟨_, run_perform computation _, sound.record _⟩

theorem settles_force {thunk : Thunk} (stands : thunk.Stands definitions schema) :
    Settles (Memory.Sound definitions schema keys) (force definitions thunk)
      (some thunk.delegate) := by
  intro memory sound
  rcases sound.force stands with ⟨after, forced, soundAfter⟩
  exact ⟨after, by rw [run_force, forced], soundAfter⟩

/-- How often a supplied schema was asked for does not matter if every answer to it leads to the
same. -/
theorem settles_request {address : Address} {next : Nat → Run α} {final? : Option α}
    (later : ∀ count, Settles (Memory.Sound definitions schema keys) (next count) final?) :
    Settles (Memory.Sound definitions schema keys) (request address >>= next) final? := by
  cases final? with
  | none =>
      intro memory sound
      exact later _ _ (sound.request address)
  | some result =>
      intro memory sound
      exact later _ _ (sound.request address)

/-- A run during which a thunk is being described. -/
def whileDescribing (key : ThunkKey) (run : Run α) : Run α := do
  modify fun memory => { memory with describing := key :: memory.describing }
  let result ← run
  modify fun memory => { memory with describing := memory.describing.tail }
  return result

theorem run_whileDescribing (key : ThunkKey) (run : Run α) (memory : Memory) :
    (whileDescribing key run).run memory =
      (run.run { memory with describing := key :: memory.describing }).map fun ending =>
        (ending.1, { ending.2 with describing := ending.2.describing.tail }) := by
  rw [Option.map_eq_bind]
  rfl

/-- What is run while a thunk is being described, and then no longer. -/
theorem settles_describing {key : ThunkKey} {run : Run α} {result? : Option α}
    (settles : Settles (Memory.Sound definitions schema (key :: keys)) run result?) :
    Settles (Memory.Sound definitions schema keys) (whileDescribing key run) result? := by
  cases result? with
  | none =>
      intro memory sound
      rw [run_whileDescribing, settles _ (sound.push key), Option.map_none]
  | some result =>
      intro memory sound
      rcases settles _ (sound.push key) with ⟨after, ends, soundAfter⟩
      exact ⟨_, by rw [run_whileDescribing, ends, Option.map_some], soundAfter.pop⟩

/-- What is run while a thunk is being described leaves those that were described before. -/
theorem ensures_describing {key : ThunkKey} {run : Run α} {stated : α → Prop}
    (ensures : Ensures (Memory.Sound definitions schema (key :: keys)) run stated) :
    Ensures (Memory.Sound definitions schema keys) (whileDescribing key run) stated := by
  intro memory sound result after ends
  rw [run_whileDescribing] at ends
  rcases Option.map_eq_some_iff.mp ends with ⟨⟨_, between⟩, runEnds, popped⟩
  cases popped
  obtain ⟨holds, soundBetween⟩ := ensures _ (sound.push key) _ between runEnds
  exact ⟨holds, soundBetween.pop⟩

/-- What finishes while a thunk is being described finishes, and the thunk is described no
longer. -/
theorem finishes_describing {key : ThunkKey} {run : Run α} {stated : α → Prop}
    (finishes : Finishes (Memory.Sound definitions schema (key :: keys)) run stated) :
    Finishes (Memory.Sound definitions schema keys) (whileDescribing key run) stated := by
  intro memory sound
  obtain ⟨result, after, ends, holds, soundAfter⟩ := finishes _ (sound.push key)
  exact ⟨result, _, by rw [run_whileDescribing, ends, Option.map_some], holds, soundAfter.pop⟩

theorem finishes_request (address : Address) :
    Finishes (Memory.Sound definitions schema keys) (request address) fun _ => True :=
  fun memory sound => ⟨_, _, run_request address memory, trivial, sound.request address⟩

theorem ensures_request (address : Address) :
    Ensures (Memory.Sound definitions schema keys) (request address) fun _ => True := by
  intro memory sound count after ends
  cases ends
  exact ⟨trivial, sound.request address⟩

end Run

end Extraction
