import Extraction.Outcome
import Extraction.Schema.Node

/-!
# Runs and what they remember

Schemas are run in order, one step after the other.  A run remembers the thunks that have come into
being and those that have been built, how often each supplied schema was asked for, which thunks
are being described, and a log of what was called.
-/

namespace Extraction

/-- Something that can be seen from outside while a schema is run. -/
inductive Event where
  /-- A note left by a validator, a fallback or an explanation. -/
  | note (text : String)
  /-- A factory has run. -/
  | built (factory : String)
  /-- A supplied schema was asked for, after so many times before. -/
  | requested (count : Nat)
deriving DecidableEq, Repr

/-- What runs remember. -/
structure Memory where
  /-- All thunks in the order in which they came into being. -/
  created : List Thunk
  /-- What the thunks that have been built hold, each under its address. -/
  cells : List (Address × Node)
  /-- The address of a supplied schema, once for every request. -/
  requests : List Address
  /-- The thunks that are being described, the innermost first. -/
  describing : List ThunkKey
  /-- What was called, in order. -/
  log : List Event

namespace Memory

/-- The memory of a schema that has just been built. -/
def initial (created : List Thunk) : Memory :=
  ⟨created, [], [], [], []⟩

/-- Adds events to the log. -/
def record (memory : Memory) (events : List Event) : Memory :=
  { memory with log := memory.log ++ events }

/-- What the thunk at an address holds, if it has been built. -/
def cell? (memory : Memory) (address : Address) : Option Node :=
  memory.cells.lookup address

/-- Whether the thunk at an address has been built. -/
def isBuilt (memory : Memory) (address : Address) : Bool :=
  (memory.cell? address).isSome

/-- Runs the factory of a thunk and keeps what it has built. -/
def build (definitions : Definitions) (thunk : Thunk) (memory : Memory) : Memory :=
  { memory with
    created := memory.created ++ thunk.delegate.thunks definitions
    cells := (thunk.address, thunk.delegate) :: memory.cells
    log := memory.log ++ [.built thunk.factory] }

/-- What a thunk holds.  One that has been built before holds what was built then; any other is
built now. -/
def force (definitions : Definitions) (thunk : Thunk) (memory : Memory) : Node × Memory :=
  match memory.cell? thunk.address with
  | some delegate => (delegate, memory)
  | none => (thunk.delegate, memory.build definitions thunk)

/-- Asks for a supplied schema. -/
def request (address : Address) (memory : Memory) : Memory :=
  { memory with
    requests := address :: memory.requests
    log := memory.log ++ [.requested (memory.requests.count address)] }

@[simp]
theorem record_nil (memory : Memory) : memory.record [] = memory := by
  simp [record]

theorem force_of_cell? {definitions : Definitions} {thunk : Thunk} {memory : Memory}
    {delegate : Node} (held : memory.cell? thunk.address = some delegate) :
    memory.force definitions thunk = (delegate, memory) := by
  simp [force, held]

theorem force_of_not_isBuilt {definitions : Definitions} {thunk : Thunk} {memory : Memory}
    (missing : memory.isBuilt thunk.address = false) :
    memory.force definitions thunk = (thunk.delegate, memory.build definitions thunk) := by
  simp_all [force, isBuilt]

theorem cell?_build (definitions : Definitions) (thunk : Thunk) (memory : Memory)
    (address : Address) :
    (memory.build definitions thunk).cell? address =
      if address = thunk.address then some thunk.delegate else memory.cell? address := by
  by_cases same : address = thunk.address
  · simp [build, cell?, same]
  · simp [build, cell?, List.lookup_cons, same, beq_false_of_ne same]

@[simp]
theorem isBuilt_force (definitions : Definitions) (thunk : Thunk) (memory : Memory)
    (address : Address) :
    (memory.force definitions thunk).2.isBuilt address =
      (decide (address = thunk.address) || memory.isBuilt address) := by
  by_cases same : address = thunk.address
  · subst same
    cases held : memory.cell? thunk.address <;> simp [force, held, isBuilt, cell?_build]
  · cases held : memory.cell? thunk.address <;> simp [force, held, isBuilt, cell?_build, same]

end Memory

/-- A computation that changes the memory and may run out of its bound on nesting. -/
abbrev Run := StateT Memory Option

namespace Run

/-- Runs something that the host supplied and keeps its notes. -/
def perform {α : Type} (computation : Traced α) : Run α := do
  modify (·.record (computation.notes.map Event.note))
  return computation.value

/-- Gives what a thunk holds, which is built if it has not been. -/
def force (definitions : Definitions) (thunk : Thunk) : Run Node :=
  modifyGet (·.force definitions thunk)

/-- Gives what a thunk holds that is known by its number, counted in the order in which thunks come
into being; nothing if there is no such thunk. -/
def forceNumbered (definitions : Definitions) (number : Nat) : Run (Option Node) := do
  match (← get).created[number]? with
  | some thunk => return some (← force definitions thunk)
  | none => return none

/-- Asks for a supplied schema and tells how often it was asked for before. -/
def request (address : Address) : Run Nat := do
  let count := (← get).requests.count address
  modify (·.request address)
  return count

/-- Runs a computation that has run out of its bound. -/
def exhausted {α : Type} : Run α :=
  fun _ => none

@[simp]
theorem run_perform {α : Type} (computation : Traced α) (memory : Memory) :
    (perform computation).run memory =
      some (computation.value, memory.record (computation.notes.map Event.note)) :=
  rfl

@[simp]
theorem run_force (definitions : Definitions) (thunk : Thunk) (memory : Memory) :
    (force definitions thunk).run memory = some (memory.force definitions thunk) :=
  rfl

theorem run_forceNumbered_of_some (definitions : Definitions) {number : Nat} {memory : Memory}
    {thunk : Thunk} (found : memory.created[number]? = some thunk) :
    (forceNumbered definitions number).run memory =
      some (some (memory.force definitions thunk).1, (memory.force definitions thunk).2) := by
  simp [forceNumbered, found]

theorem run_forceNumbered_of_none (definitions : Definitions) {number : Nat} {memory : Memory}
    (missing : memory.created[number]? = none) :
    (forceNumbered definitions number).run memory = some (none, memory) := by
  simp [forceNumbered, missing]

@[simp]
theorem run_request (address : Address) (memory : Memory) :
    (request address).run memory =
      some (memory.requests.count address, memory.request address) :=
  rfl

end Run

end Extraction
