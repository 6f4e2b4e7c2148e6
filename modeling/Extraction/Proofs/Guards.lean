import Mathlib.Data.Prod.Lex
import Mathlib.Data.Set.Card
import Extraction.Proofs.Stock
import Extraction.Proofs.Visits

/-!
# Guarded recursion

A schema may lead back to itself.  Extraction by it ends if every way back makes the value smaller:
some step on it goes on to something inside the value, and no step replaces the value by another
one.  The ways are those between closures, of which a schema leads to finitely many.  The measure
is threefold: how much of the schema is still ahead, then the size of the value, then how far one
can go on without leaving the value.
-/

namespace Extraction

/-- What a step from one schema to another does to the value that is extracted from. -/
inductive Grade where
  /-- The value is left for something inside it. -/
  | consuming
  /-- The value may be replaced by any other one. -/
  | replacing
  /-- The value stays what it is. -/
  | passing

/-- A policy never passes on more than what an object holds: nothing else is put in place of a
missing field, or an empty array where arrays are expected. -/
inductive Presence.Consumes : Presence → Schema → Prop where
  | strict {part : Schema} : Consumes .strict part
  | option {part : Schema} : Consumes .option part
  | defaulted {fallback : Fallback} {element : Schema}
      (empty : ∀ object, (fallback object).value = .array []) :
      Consumes (.defaulted fallback) (.array element)

/-- The steps from closures to those that they lead to. -/
inductive Edge (definitions : Definitions) : Closure → Grade → Closure → Prop where
  | consumed {schema part : Schema} {bindings : Bindings} {fields : List (Field Schema)}
      {key outputKey : String} {presence : Presence}
      (shape : schema = .object fields ∨ schema = .closed fields)
      (written : .read key outputKey presence part ∈ fields) (consumes : presence.Consumes part) :
      Edge definitions ⟨schema, bindings⟩ .consuming ⟨part, bindings⟩
  | replaced {schema part : Schema} {bindings : Bindings} {fields : List (Field Schema)}
      {key outputKey : String} {presence : Presence}
      (shape : schema = .object fields ∨ schema = .closed fields)
      (written : .read key outputKey presence part ∈ fields)
      (replaces : ¬ presence.Consumes part) :
      Edge definitions ⟨schema, bindings⟩ .replacing ⟨part, bindings⟩
  | element {element : Schema} {bindings : Bindings} :
      Edge definitions ⟨.array element, bindings⟩ .consuming ⟨element, bindings⟩
  | member {keys : Validator} {values : Schema} {bindings : Bindings} :
      Edge definitions ⟨.setOf keys values, bindings⟩ .consuming ⟨values, bindings⟩
  | alternative {alternative : Schema} {alternatives : List Schema} {bindings : Bindings}
      (member : alternative ∈ alternatives) :
      Edge definitions ⟨.oneOf alternatives, bindings⟩ .passing ⟨alternative, bindings⟩
  | branch {key name : String} {branches : List (String × Schema)} {bindings : Bindings}
      {branch : Schema} (known : Schema.branch? name branches = some branch) :
      Edge definitions ⟨.choose key branches, bindings⟩ .passing ⟨branch, bindings⟩
  | supplied {first schema : Schema} {later : List Schema} {bindings : Bindings}
      (member : schema ∈ first :: later) :
      Edge definitions ⟨.supplied first later, bindings⟩ .passing ⟨schema, bindings⟩
  | delegate {closure delegate : Closure}
      (delegates : closure.delegate? definitions = some delegate) :
      Edge definitions closure .passing delegate

/-- Steps one after the other, with their grades. -/
inductive Walk (definitions : Definitions) : Closure → List Grade → Closure → Prop where
  | here {closure : Closure} : Walk definitions closure [] closure
  | step {closure next last : Closure} {grade : Grade} {grades : List Grade}
      (edge : Edge definitions closure grade next) (rest : Walk definitions next grades last) :
      Walk definitions closure (grade :: grades) last

/-- Recursion is guarded if every cycle that can be reached takes a consuming step, and none takes
a replacing one. -/
def Guarded (definitions : Definitions) (closure : Closure) : Prop :=
  ∀ reached before around, Walk definitions closure before reached →
    Walk definitions reached around reached → around ≠ [] →
      .consuming ∈ around ∧ .replacing ∉ around

section

variable {definitions : Definitions} {closure next middle last : Closure} {grade : Grade}
  {first second : List Grade}

theorem Edge.leads (edge : Edge definitions closure grade next) :
    closure.Leads definitions next := by
  cases edge with
  | consumed shape written | replaced shape written =>
      rcases shape with rfl | rfl <;> exact .nested (List.mem_filterMap.mpr ⟨_, written, rfl⟩)
  | element | member => exact .nested (.head _)
  | alternative member => exact .nested member
  | branch known => exact .nested (List.mem_map_of_mem (Schema.branch?_mem known))
  | supplied member => exact .nested member
  | delegate delegates => exact .delegate delegates

theorem Walk.append (walk : Walk definitions closure first middle)
    (further : Walk definitions middle second last) :
    Walk definitions closure (first ++ second) last := by
  induction walk with
  | here => exact further
  | step edge _ inductionHypothesis => exact .step edge (inductionHypothesis further)

theorem Walk.leadsTo {grades : List Grade} (walk : Walk definitions closure grades last) :
    Relation.ReflTransGen (Closure.Leads definitions) closure last := by
  induction walk with
  | here => exact .refl
  | step edge _ inductionHypothesis => exact .head edge.leads inductionHypothesis

/-- Guarded recursion is guarded from every step on. -/
theorem Guarded.further (guarded : Guarded definitions closure)
    (edge : Edge definitions closure grade next) : Guarded definitions next :=
  fun reached before around walk => guarded reached (grade :: before) around (.step edge walk)

end

/-! ## Levels and ranks -/

/-- What a step may do to levels and ranks: no step raises the level, a replacing one lowers it,
and one that passes the value on lowers the rank. -/
def Grade.Descends (level rank : Closure → Nat) (upper lower : Closure) : Grade → Prop
  | consuming => level lower ≤ level upper
  | replacing => level lower < level upper
  | passing => level lower ≤ level upper ∧ rank lower < rank upper

theorem Grade.Descends.level_le {level rank : Closure → Nat} {upper lower : Closure}
    {grade : Grade} (descends : grade.Descends level rank upper lower) :
    level lower ≤ level upper := by
  cases grade with
  | consuming => exact descends
  | replacing => exact Nat.le_of_lt descends
  | passing => exact descends.1

/-- Closures among which all steps stay, and down which they lead. -/
def Ranking (definitions : Definitions) (inside : Closure → Prop) (level rank : Closure → Nat) :
    Prop :=
  ∀ {closure next : Closure} {grade : Grade}, inside closure →
    Edge definitions closure grade next → inside next ∧ grade.Descends level rank closure next

section

variable {definitions : Definitions} {inside : Closure → Prop} {level rank : Closure → Nat}
  {closure last : Closure} {grades : List Grade}

private theorem Walk.staysInside (ranking : Ranking definitions inside level rank)
    (walk : Walk definitions closure grades last) (isInside : inside closure) : inside last := by
  induction walk with
  | here => exact isInside
  | step edge _ inductionHypothesis => exact inductionHypothesis (ranking isInside edge).1

private theorem Walk.level_le (ranking : Ranking definitions inside level rank)
    (walk : Walk definitions closure grades last) (isInside : inside closure) :
    level last ≤ level closure := by
  induction walk with
  | here => exact Nat.le_refl _
  | step edge _ inductionHypothesis =>
      obtain ⟨nextInside, descends⟩ := ranking isInside edge
      exact (inductionHypothesis nextInside).trans descends.level_le

private theorem Walk.level_lt (ranking : Ranking definitions inside level rank)
    (walk : Walk definitions closure grades last) (isInside : inside closure)
    (replaces : .replacing ∈ grades) : level last < level closure := by
  induction walk with
  | here => contradiction
  | step edge rest inductionHypothesis =>
      obtain ⟨nextInside, descends⟩ := ranking isInside edge
      rcases List.mem_cons.mp replaces with rfl | later
      · exact Nat.lt_of_le_of_lt (rest.level_le ranking nextInside) descends
      · exact Nat.lt_of_lt_of_le (inductionHypothesis nextInside later) descends.level_le

private theorem Walk.rank_add_length_le (ranking : Ranking definitions inside level rank)
    (walk : Walk definitions closure grades last) (isInside : inside closure)
    (passes : ∀ grade ∈ grades, grade = .passing) :
    rank last + grades.length ≤ rank closure := by
  induction walk with
  | here => simp
  | step edge _ inductionHypothesis =>
      cases passes _ (.head _)
      obtain ⟨nextInside, _, lower⟩ := ranking isInside edge
      have rest := inductionHypothesis nextInside fun other member => passes other (.tail _ member)
      rw [List.length_cons]
      omega

/-- Recursion is guarded if there are levels that no step raises and every replacing one lowers,
and ranks that every passing one lowers. -/
theorem Guarded.of_ranking (ranking : Ranking definitions inside level rank)
    (isInside : inside closure) : Guarded definitions closure := by
  intro reached before around walk cycle nonempty
  have reachedInside := walk.staysInside ranking isInside
  have keeps : .replacing ∉ around := fun replaces =>
    absurd (cycle.level_lt ranking reachedInside replaces) (Nat.lt_irrefl _)
  constructor
  · by_contra noConsuming
    have passes : ∀ grade ∈ around, grade = .passing := by
      intro grade member
      cases grade with
      | consuming => exact absurd member noConsuming
      | replacing => exact absurd member keeps
      | passing => rfl
    have bound := cycle.rank_add_length_le ranking reachedInside passes
    have longer := List.length_pos_iff.mpr nonempty
    omega
  · exact keeps

end

/-! ## What visits do to the value -/

namespace Value

/-- What is found under a key is held by the object. -/
theorem mem_entries_of_get? {value given : Value} {key : String}
    (found : value.get? key = some given) : (key, given) ∈ value.entries := by
  apply Entries.mem_of_find?
  unfold get? at found
  split at found
  · contradiction
  · exact found

/-- What an object holds is smaller than the object. -/
theorem sizeOf_lt_of_get? {value given : Value} {key : String}
    (found : value.get? key = some given) : sizeOf given < sizeOf value := by
  have held := mem_entries_of_get? found
  cases value with
  | object entries =>
      have smaller : sizeOf (key, given) < sizeOf entries := List.sizeOf_lt_of_mem held
      rw [Prod.mk.sizeOf_spec] at smaller
      rw [object.sizeOf_spec]
      omega
  | _ => contradiction

/-- An item of an array is smaller than the array. -/
theorem sizeOf_lt_of_getElem? {items : List Value} {position : Nat} {given : Value}
    (found : items[position]? = some given) : sizeOf given < sizeOf (array items) := by
  have smaller := List.sizeOf_lt_of_mem (List.mem_of_getElem? found)
  rw [array.sizeOf_spec]
  omega

end Value

/-- Where a policy consumes, a nested schema is run on something that the object holds or, if it is
a schema of arrays, on an empty one. -/
theorem Presence.Consumes.given {presence : Presence} {part : Schema} {object given : Value}
    {key : String} (consumes : presence.Consumes part)
    (asked : (presence.resolve object key).value.given? = some given) :
    object.get? key = some given ∨
      given = .array [] ∧ ∃ element, part = .array element := by
  cases consumes with
  | strict => exact .inl ((given?_strict object key).symm.trans asked)
  | option => exact .inl ((given?_option object key).symm.trans asked)
  | @defaulted fallback element empty =>
      rw [given?_defaulted, empty] at asked
      cases Option.some.inj asked
      cases object.get? key with
      | none => exact .inr ⟨rfl, element, rfl⟩
      | some value => exact .inl rfl

/-- Every visit takes a step: one that passes the value on leaves it as it is, and one that
consumes makes it smaller or gives an empty array to a schema of arrays. -/
theorem Visits.exists_edge {definitions : Definitions} {closure next : Closure}
    {value given : Value} {step : Path}
    (visits : Visits definitions closure value step next given) :
    ∃ grade, Edge definitions closure grade next ∧
      match grade with
      | .consuming => sizeOf given < sizeOf value ∨
          given = .array [] ∧ ∃ element, next.schema = .array element
      | .replacing => True
      | .passing => given = value := by
  cases visits with
  | @field schema part _ _ _ fields key outputKey presence reads written asked =>
      have shape : schema = .object fields ∨ schema = .closed fields := by
        cases reads
        · exact .inl rfl
        · exact .inr rfl
      by_cases consumes : presence.Consumes part
      · have smaller := (consumes.given asked).imp Value.sizeOf_lt_of_get? id
        exact ⟨.consuming, .consumed shape written consumes, smaller⟩
      · exact ⟨.replacing, .replaced shape written consumes, trivial⟩
  | item found => exact ⟨.consuming, .element, .inl (Value.sizeOf_lt_of_getElem? found)⟩
  | alternative member => exact ⟨.passing, .alternative member, rfl⟩
  | member _ found => exact ⟨.consuming, .member, .inl (Value.sizeOf_lt_of_get? found)⟩
  | branch _ known => exact ⟨.passing, .branch known, rfl⟩
  | supplied member => exact ⟨.passing, .supplied member, rfl⟩
  | delegate delegates => exact ⟨.passing, .delegate delegates, rfl⟩

/-- Nothing is visited in an empty array. -/
theorem not_visits_of_empty {definitions : Definitions} {closure next : Closure} {given : Value}
    {step : Path} {element : Schema} (isArray : closure.schema = .array element) :
    ¬ Visits definitions closure (.array []) step next given := by
  rcases closure with ⟨schema, bindings⟩
  cases isArray
  intro visits
  cases visits with
  | field reads => cases reads
  | item found => contradiction
  | delegate delegates => contradiction

/-! ## The measure -/

/-- The closures that walks lead to. -/
def reach (definitions : Definitions) (closure : Closure) : Set Closure :=
  {last | ∃ grades, Walk definitions closure grades last}

/-- The closures that one or more steps lead to without leaving the value. -/
def passed (definitions : Definitions) (closure : Closure) : Set Closure :=
  {last | ∃ count, Walk definitions closure (List.replicate (count + 1) .passing) last}

/-- How much is still ahead of an extraction: how many closures it may come to, how large the value
is, and how many closures it may come to with that value. -/
noncomputable def weight (definitions : Definitions) (closure : Closure) (value : Value) :
    Nat ×ₗ Nat ×ₗ Nat :=
  toLex ((reach definitions closure).ncard,
    toLex (sizeOf value, (passed definitions closure).ncard))

section

variable {definitions : Definitions} {closure next : Closure} {grade : Grade}
  {value given : Value}

theorem finite_reach (definitions : Definitions) (schema : Schema) :
    (reach definitions ⟨schema, []⟩).Finite := by
  apply (Closure.finite_leads definitions schema).subset
  rintro last ⟨grades, walk⟩
  exact walk.leadsTo

theorem passed_subset_reach (definitions : Definitions) (closure : Closure) :
    passed definitions closure ⊆ reach definitions closure :=
  fun _ ⟨_, walk⟩ => ⟨_, walk⟩

theorem reach_subset (edge : Edge definitions closure grade next) :
    reach definitions next ⊆ reach definitions closure :=
  fun _ ⟨grades, walk⟩ => ⟨grade :: grades, .step edge walk⟩

/-- A step from which there is no way back leaves a closure behind. -/
private theorem ncard_reach_lt (finite : (reach definitions closure).Finite)
    (edge : Edge definitions closure grade next) (noReturn : closure ∉ reach definitions next) :
    (reach definitions next).ncard < (reach definitions closure).ncard := by
  have fewer : reach definitions next ⊂ reach definitions closure := by
    constructor
    · exact reach_subset edge
    · intro all
      exact noReturn (all ⟨[], .here⟩)
  exact Set.ncard_lt_ncard fewer finite

private theorem reach_eq (edge : Edge definitions closure grade next)
    (returns : closure ∈ reach definitions next) :
    reach definitions next = reach definitions closure := by
  rcases returns with ⟨grades, back⟩
  apply (reach_subset edge).antisymm
  rintro last ⟨further, walk⟩
  exact ⟨grades ++ further, back.append walk⟩

private theorem ncard_passed_lt (finite : (reach definitions closure).Finite)
    (guarded : Guarded definitions closure) (edge : Edge definitions closure .passing next) :
    (passed definitions next).ncard < (passed definitions closure).ncard := by
  have leftBehind : next ∉ passed definitions next := by
    rintro ⟨count, cycle⟩
    have consumes := (guarded next [.passing] _ (.step edge .here) cycle (by simp)).1
    cases List.eq_of_mem_replicate consumes
  have fewer : passed definitions next ⊂ passed definitions closure := by
    constructor
    · rintro last ⟨count, walk⟩
      exact ⟨count + 1, .step edge walk⟩
    · intro all
      exact leftBehind (all ⟨0, .step edge .here⟩)
  exact Set.ncard_lt_ncard fewer (finite.subset (passed_subset_reach definitions closure))

/-- Where recursion is guarded every visit is lighter, but for that of an empty array by a schema
of arrays. -/
private theorem weight_lt_of_visits {step : Path} (guarded : Guarded definitions closure)
    (finite : (reach definitions closure).Finite)
    (visits : Visits definitions closure value step next given) :
    weight definitions next given < weight definitions closure value ∨
      given = .array [] ∧ ∃ element, next.schema = .array element := by
  obtain ⟨grade, edge, change⟩ := visits.exists_edge
  simp only [weight, Prod.Lex.toLex_lt_toLex]
  -- Without a way back less is ahead; on a cycle the grade tells which of the other two drops.
  by_cases returns : closure ∈ reach definitions next
  · rw [reach_eq edge returns]
    obtain ⟨grades, back⟩ := returns
    obtain ⟨-, keeps⟩ := guarded closure [] (grade :: grades) .here (.step edge back) (by simp)
    cases grade with
    | consuming =>
        rcases change with smaller | isEmpty
        · exact .inl (.inr ⟨rfl, .inl smaller⟩)
        · exact .inr isEmpty
    | replacing => exact absurd (.head _) keeps
    | passing =>
        cases change
        exact .inl (.inr ⟨rfl, .inr ⟨rfl, ncard_passed_lt finite guarded edge⟩⟩)
  · exact .inl (.inl (ncard_reach_lt finite edge returns))

/-- The closures and values that an extraction visits directly. -/
def VisitedFrom (definitions : Definitions) (visited current : Closure × Value) : Prop :=
  ∃ step, Visits definitions current.1 current.2 step visited.1 visited.2

/-- Where recursion is guarded, visits do not go on forever. -/
theorem Guarded.acc_visitedFrom (guarded : Guarded definitions closure)
    (finite : (reach definitions closure).Finite) (value : Value) :
    Acc (VisitedFrom definitions) (closure, value) := by
  induction measured : weight definitions closure value using WellFoundedLT.induction
    generalizing closure value with
  | ind bound inductionHypothesis =>
      subst measured
      constructor
      rintro ⟨next, given⟩ ⟨step, visits⟩
      rcases weight_lt_of_visits guarded finite visits with lighter | ⟨rfl, element, isArray⟩
      · obtain ⟨grade, edge, _⟩ := visits.exists_edge
        have finiteNext := finite.subset (reach_subset edge)
        exact inductionHypothesis _ lighter (guarded.further edge) finiteNext given rfl
      -- An empty array may replace a smaller value, but nothing is visited in it.
      · constructor
        rintro _ ⟨_, further⟩
        exact absurd further (not_visits_of_empty isArray)

end

end Extraction
