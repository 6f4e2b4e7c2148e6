import Extraction.Proofs.Describing

/-!
# Schemas written out

Thunks, references, supplied, recursive and indirect schemas stand for other schemas.  If each of
them is replaced by what it stands for, a schema is written out; this comes to an end wherever no
thunk is reached from inside one with the same site and label.  Then a description never meets a
thunk that is being described, and it is the description of the schema that is written out.
-/

namespace Extraction

/-! ## What schemas hold -/

namespace Schema

/-- What a lazily built, supplied, recursive or indirect schema stands for. -/
def standsFor? (definitions : Definitions) : Schema → Option Schema
  | thunk _ _ body => some body
  | reference _ name => some (definitions.find name)
  | supplied first _ => some first
  | recursive _ body => some body
  | boxed inner => some inner
  | _ => none

/-- What is written directly inside a schema and what it stands for. -/
def held (definitions : Definitions) (schema : Schema) : List Schema :=
  schema.nested ++ (schema.standsFor? definitions).toList

/-- One schema holds another one. -/
def Holds (definitions : Definitions) (outer inner : Schema) : Prop :=
  inner ∈ outer.held definitions

/-- The site and label of a schema that is a thunk. -/
def key? (schema : Schema) : Option ThunkKey :=
  Closure.key? ⟨schema, []⟩

/-- The sites and labels of the thunks that are reached from a schema, through nested schemas and
through what is built. -/
def thunkKeys (definitions : Definitions) (schema : Schema) : Set ThunkKey :=
  {key | ∃ inner, Relation.ReflTransGen (Holds definitions) schema inner ∧ inner.key? = some key}

/-- From inside a thunk no thunk with the same site and label is reached. -/
def NeverReenters (definitions : Definitions) (schema : Schema) : Prop :=
  ∀ outer inner key, Relation.ReflTransGen (Holds definitions) schema outer →
    Holds definitions outer inner → outer.key? = some key → key ∉ inner.thunkKeys definitions

/-- The second schema is the first one written out: whatever stands for something else is replaced
by what it stands for. -/
inductive Expands (definitions : Definitions) : Schema → Schema → Prop where
  | delegate {schema inner plain : Schema} (standsFor : schema.standsFor? definitions = some inner)
      (rest : Expands definitions inner plain) : Expands definitions schema plain
  | nested {schema : Schema} {change : Schema → Schema}
      (standsForItself : schema.standsFor? definitions = none)
      (each : ∀ part ∈ schema.nested, Expands definitions part (change part)) :
      Expands definitions schema (schema.mapNested change)

variable {definitions : Definitions} {schema inner plain other : Schema}

theorem holds_iff : schema.Holds definitions inner ↔
    inner ∈ schema.nested ∨ schema.standsFor? definitions = some inner := by
  rw [Holds, held, List.mem_append, Option.mem_toList]

theorem holds_of_mem_nested (inside : inner ∈ schema.nested) : schema.Holds definitions inner :=
  holds_iff.mpr (.inl inside)

theorem holds_of_standsFor? (standsFor : schema.standsFor? definitions = some inner) :
    schema.Holds definitions inner :=
  holds_iff.mpr (.inr standsFor)

theorem thunkKeys_subset (holds : schema.Holds definitions inner) :
    inner.thunkKeys definitions ⊆ schema.thunkKeys definitions := by
  rintro key ⟨innermost, reached, isKey⟩
  exact ⟨innermost, .head holds reached, isKey⟩

theorem mem_thunkKeys_self {key : ThunkKey} (isKey : schema.key? = some key) :
    key ∈ schema.thunkKeys definitions :=
  ⟨schema, .refl, isKey⟩

private theorem exists_leads (reached : Relation.ReflTransGen (Holds definitions) schema inner) :
    ∃ bindings, Relation.ReflTransGen (Closure.Leads definitions) ⟨schema, []⟩
      ⟨inner, bindings⟩ := by
  induction reached with
  | refl => exact ⟨[], .refl⟩
  | @tail outer inner _ holds inductionHypothesis =>
      obtain ⟨bindings, leadsTo⟩ := inductionHypothesis
      rcases holds_iff.mp holds with inside | standsFor
      · exact ⟨bindings, leadsTo.tail (.nested inside)⟩
      · cases outer with
        | reference =>
            cases standsFor
            exact ⟨[], leadsTo.tail (.delegate rfl)⟩
        | thunk | supplied | recursive | boxed =>
            cases standsFor
            exact ⟨bindings, leadsTo.tail (.nested (.head _))⟩
        | _ => contradiction

theorem finite_thunkKeys (definitions : Definitions) (schema : Schema) :
    (schema.thunkKeys definitions).Finite := by
  have finite := (Closure.finite_leads definitions schema).image Closure.key?
  apply (finite.preimage (Option.some_injective ThunkKey).injOn).subset
  rintro key ⟨inner, reached, isKey⟩
  obtain ⟨bindings, leadsTo⟩ := exists_leads reached
  exact ⟨⟨inner, bindings⟩, leadsTo, isKey⟩

/-- No thunk is reentered, and only thunks with some sites and labels are reached. -/
def EntersOnly (definitions : Definitions) (keys : List ThunkKey) (schema : Schema) : Prop :=
  schema.NeverReenters definitions ∧ ∀ key ∈ schema.thunkKeys definitions, key ∈ keys

/-- A schema enters what it holds enters, and itself if it is a thunk, but one that is not reached
from there. -/
theorem EntersOnly.of_held {keys : List ThunkKey}
    (each : ∀ inner ∈ schema.held definitions, inner.EntersOnly definitions keys)
    (isNew : ∀ key ∈ schema.key?, key ∉ keys) :
    schema.EntersOnly definitions (schema.key?.toList ++ keys) := by
  constructor
  · intro outer inner key reached holds isKey
    rcases Relation.ReflTransGen.cases_head reached with rfl | ⟨direct, directHeld, rest⟩
    · exact fun isInside => isNew key isKey ((each inner holds).2 key isInside)
    · exact (each direct directHeld).1 outer inner key rest holds isKey
  · rintro key ⟨inner, reached, isKey⟩
    rcases Relation.ReflTransGen.cases_head reached with rfl | ⟨direct, directHeld, rest⟩
    · exact List.mem_append_left _ (Option.mem_toList.mpr isKey)
    · exact List.mem_append_right _ ((each direct directHeld).2 key ⟨inner, rest, isKey⟩)

namespace NeverReenters

variable (never : schema.NeverReenters definitions)

include never

theorem inside (holds : schema.Holds definitions inner) : inner.NeverReenters definitions :=
  fun outer innermost key reached => never outer innermost key (.head holds reached)

/-- Fewer thunks are reached from inside a thunk. -/
theorem ncard_lt {key : ThunkKey} (holds : schema.Holds definitions inner)
    (isKey : schema.key? = some key) :
    (inner.thunkKeys definitions).ncard < (schema.thunkKeys definitions).ncard := by
  apply Set.ncard_lt_ncard _ (finite_thunkKeys definitions schema)
  rw [Set.ssubset_iff_of_subset (thunkKeys_subset holds)]
  exact ⟨key, mem_thunkKeys_self isKey, never schema inner key .refl holds isKey⟩

/-- What a schema holds is smaller, or fewer thunks are reached from it. -/
theorem decreases (holds : schema.Holds definitions inner) :
    Prod.Lex (· < ·) (· < ·) ((inner.thunkKeys definitions).ncard, sizeOf inner)
      ((schema.thunkKeys definitions).ncard, sizeOf schema) := by
  have notMore := Set.ncard_le_ncard (thunkKeys_subset holds)
    (finite_thunkKeys definitions schema)
  have ofNested (inside : inner ∈ schema.nested) :
      Prod.Lex (· < ·) (· < ·) ((inner.thunkKeys definitions).ncard, sizeOf inner)
        ((schema.thunkKeys definitions).ncard, sizeOf schema) := by
    rcases Nat.lt_or_eq_of_le notMore with fewer | asMany
    · exact .left _ _ fewer
    · rw [asMany]
      exact .right _ (sizeOf_lt_of_mem_nested inside)
  rcases holds_iff.mp holds with inside | standsFor
  · exact ofNested inside
  · cases schema with
    | reference label name => exact .left _ _ (never.ncard_lt holds rfl)
    | thunk | supplied | recursive | boxed =>
        cases standsFor
        exact ofNested (.head _)
    | _ => contradiction

end NeverReenters

/-- What a schema holds can be followed inwards only so far. -/
theorem NeverReenters.acc {schema : Schema} (never : schema.NeverReenters definitions) :
    Acc (Function.swap (Holds definitions)) schema :=
  .intro schema fun _ holds => (never.inside holds).acc
termination_by ((schema.thunkKeys definitions).ncard, sizeOf schema)
decreasing_by exact never.decreases holds

/-- Changes that agree on what is written directly inside a schema change it alike. -/
theorem mapNested_congr {change otherChange : Schema → Schema}
    (same : ∀ part ∈ schema.nested, change part = otherChange part) :
    schema.mapNested change = schema.mapNested otherChange := by
  have ofFields {fields : List (Field Schema)}
      (same : ∀ part ∈ fields.filterMap Field.schema?, change part = otherChange part) :
      fields.map (Field.map change) = fields.map (Field.map otherChange) := by
    apply List.map_congr_left
    intro field member
    cases field with
    | state => rfl
    | read key outputKey presence nested =>
        have sameNested := same nested (List.mem_filterMap.mpr ⟨_, member, rfl⟩)
        rw [Field.map, Field.map, sameNested]
  cases schema with
  | leaf | function | reference | self | released => rfl
  | object fields => exact congrArg object (ofFields same)
  | closed fields => exact congrArg closed (ofFields same)
  | oneOf alternatives => exact congrArg oneOf (List.map_congr_left same)
  | choose key branches =>
      apply congrArg (choose key)
      apply List.map_congr_left
      intro branch member
      exact Prod.ext rfl (same _ (List.mem_map_of_mem member))
  | supplied first later =>
      have sameFirst := same first (.head _)
      have sameLater := List.map_congr_left fun part member => same part (.tail _ member)
      simp only [mapNested, sameFirst, sameLater]
  | array | setOf | thunk | recursive | boxed =>
      simp only [mapNested, same _ (List.mem_singleton_self _)]

/-- What a schema stands for does not depend on what is written inside it. -/
theorem standsFor?_mapNested_eq_none (change : Schema → Schema)
    (standsForItself : schema.standsFor? definitions = none) :
    (schema.mapNested change).standsFor? definitions = none := by
  cases schema with
  | thunk | reference | supplied | recursive | boxed => contradiction
  | _ => rfl

namespace Expands

/-- A schema is written out in one way only. -/
theorem unique (expands : Expands definitions schema plain)
    (otherExpands : Expands definitions schema other) : plain = other := by
  induction expands generalizing other with
  | delegate standsFor _ inductionHypothesis =>
      cases otherExpands with
      | delegate otherStandsFor rest =>
          cases standsFor.symm.trans otherStandsFor
          exact inductionHypothesis rest
      | nested standsForItself _ => cases standsFor.symm.trans standsForItself
  | nested standsForItself _ inductionHypothesis =>
      cases otherExpands with
      | delegate standsFor _ => cases standsFor.symm.trans standsForItself
      | nested _ each =>
          exact mapNested_congr fun part inside =>
            inductionHypothesis part inside (each part inside)

/-- Nothing stands for something else in a schema that is written out. -/
theorem standsForItself (expands : Expands definitions schema plain) :
    plain.Throughout fun part => part.standsFor? definitions = none := by
  induction expands with
  | delegate _ _ inductionHypothesis => exact inductionHypothesis
  | @nested schema change standsForItself _ inductionHypothesis =>
      refine throughout_iff.mpr ⟨standsFor?_mapNested_eq_none change standsForItself, ?_⟩
      rw [nested_mapNested, List.forall_mem_map]
      exact inductionHypothesis

end Expands

/-- A schema that never reenters a thunk can be written out. -/
theorem NeverReenters.exists_expands (never : schema.NeverReenters definitions) :
    ∃ plain, Expands definitions schema plain := by
  induction never.acc with
  | intro schema _ inductionHypothesis =>
      cases standsFor : schema.standsFor? definitions with
      | some inner =>
          have holds := holds_of_standsFor? standsFor
          obtain ⟨plain, rest⟩ := inductionHypothesis inner holds (never.inside holds)
          exact ⟨plain, .delegate standsFor rest⟩
      | none =>
          have each : ∀ part ∈ schema.nested, ∃ plain, Expands definitions part plain := by
            intro part inside
            have holds : schema.Holds definitions part := holds_of_mem_nested inside
            exact inductionHypothesis part holds (never.inside holds)
          choose! change expands using each
          exact ⟨schema.mapNested change, .nested standsFor expands⟩

end Schema

/-! ## Descriptions -/

/-- Steps that agree on the items of a list agree on the list. -/
theorem mapM_congr {α β : Type} {step other : α → Option β} {items : List α}
    (same : ∀ item ∈ items, step item = other item) : items.mapM step = items.mapM other := by
  induction items with
  | nil => rfl
  | cons item items inductionHypothesis =>
      rw [List.mapM_cons, List.mapM_cons, same item (.head _),
        inductionHypothesis fun later member => same later (.tail _ member)]

namespace Description

open Schema

variable {definitions others : Definitions} {keys otherKeys : List ThunkKey}
  {describe otherDescribe : List ThunkKey → Closure → Option String}
  {bindings otherBindings : Bindings} {change : Schema → Schema}

/-- A schema that stands for itself has the text of a schema with other ones in the same places, if
these have the same texts. -/
theorem step_mapNested {schema : Schema}
    (standsForItself : schema.standsFor? definitions = none)
    (same : ∀ part ∈ schema.nested,
      describe keys ⟨part, bindings⟩ = otherDescribe otherKeys ⟨change part, otherBindings⟩) :
    step definitions describe keys ⟨schema, bindings⟩ =
      step others otherDescribe otherKeys ⟨schema.mapNested change, otherBindings⟩ := by
  have ofFields {fields : List (Field Schema)}
      (same : ∀ part ∈ fields.filterMap Field.schema?,
        describe keys ⟨part, bindings⟩ = otherDescribe otherKeys ⟨change part, otherBindings⟩) :
      object (describe keys) (fields.map (Field.map (Closure.mk · bindings))) =
        object (otherDescribe otherKeys)
          ((fields.map (Field.map change)).map (Field.map (Closure.mk · otherBindings))) := by
    have sameLines : (fields.map (Field.map (Closure.mk · bindings))).mapM
          (entry (describe keys)) =
        ((fields.map (Field.map change)).map (Field.map (Closure.mk · otherBindings))).mapM
          (entry (otherDescribe otherKeys)) := by
      rw [List.mapM_map, List.mapM_map, List.mapM_map]
      apply mapM_congr
      intro field member
      cases field with
      | state => rfl
      | read key outputKey presence nested =>
          have sameNested := same nested (List.mem_filterMap.mpr ⟨_, member, rfl⟩)
          simp only [Function.comp_apply, Field.map, entry, sameNested]
    rw [object, object, sameLines]
  cases schema with
  | leaf | function | self | released => rfl
  | object fields => exact ofFields same
  | closed fields => exact ofFields same
  | array | setOf => simp only [step, mapNested, same _ (List.mem_singleton_self _)]
  | oneOf alternatives =>
      have sameParts : (alternatives.map (Closure.mk · bindings)).mapM (describe keys) =
          ((alternatives.map change).map (Closure.mk · otherBindings)).mapM
            (otherDescribe otherKeys) := by
        rw [List.mapM_map, List.mapM_map, List.mapM_map]
        exact mapM_congr same
      simp only [step, mapNested, sameParts]
  | choose key branches =>
      simp only [step, mapNested, branchNames_map]
  | thunk | reference | supplied | recursive | boxed => contradiction

end Description

namespace Schema

variable {definitions : Definitions} {schema plain : Schema}

/-- Where no thunk is reentered, what stands for something else has the text of that, also while
other thunks are being described. -/
private theorem NeverReenters.exists_step_eq {inner : Schema} {keys : List ThunkKey}
    (never : schema.NeverReenters definitions)
    (standsFor : schema.standsFor? definitions = some inner)
    (apart : ∀ key ∈ keys, key ∉ schema.thunkKeys definitions) :
    ∃ innerKeys, (∀ key ∈ innerKeys, key ∉ inner.thunkKeys definitions) ∧
      ∀ describe bindings, ∃ innerBindings,
        Description.step definitions describe keys ⟨schema, bindings⟩ =
          describe innerKeys ⟨inner, innerBindings⟩ := by
  have holds : schema.Holds definitions inner := holds_of_standsFor? standsFor
  have apartInside : ∀ key ∈ keys, key ∉ inner.thunkKeys definitions :=
    fun key member reached => apart key member (thunkKeys_subset holds reached)
  have ofThunk {key : ThunkKey} (isKey : schema.key? = some key) :
      key ∉ keys ∧ ∀ other ∈ key :: keys, other ∉ inner.thunkKeys definitions := by
    refine ⟨fun member => apart key member (mem_thunkKeys_self isKey), ?_⟩
    rw [List.forall_mem_cons]
    exact ⟨never schema inner key .refl holds isKey, apartInside⟩
  cases schema with
  | thunk site label body =>
      cases standsFor
      obtain ⟨isNew, apartAll⟩ := ofThunk rfl
      exact ⟨_, apartAll, fun describe bindings => ⟨bindings, if_neg isNew⟩⟩
  | reference label name =>
      cases standsFor
      obtain ⟨isNew, apartAll⟩ := ofThunk rfl
      exact ⟨_, apartAll, fun describe bindings => ⟨[], if_neg isNew⟩⟩
  | supplied | boxed =>
      cases standsFor
      exact ⟨keys, apartInside, fun describe bindings => ⟨bindings, rfl⟩⟩
  | recursive label body =>
      cases standsFor
      exact ⟨keys, apartInside, fun describe bindings => ⟨(label, inner) :: bindings, rfl⟩⟩
  | _ => contradiction

/-- With bounds on nesting from some limit on, two schemas have the same text, in whatever
surroundings and whichever thunks other than those of the first are being described. -/
def DescribedAlike (definitions : Definitions) (schema plain : Schema) (limit : Nat) : Prop :=
  ∀ depth otherDepth, limit ≤ depth → limit ≤ otherDepth →
    ∀ keys : List ThunkKey, (∀ key ∈ keys, key ∉ schema.thunkKeys definitions) →
      ∀ bindings others otherKeys otherBindings,
        described definitions depth keys ⟨schema, bindings⟩ =
          described others otherDepth otherKeys ⟨plain, otherBindings⟩

/-- A schema has the text of what it is written out as. -/
theorem Expands.exists_describedAlike (expands : Expands definitions schema plain)
    (never : schema.NeverReenters definitions) :
    ∃ limit, schema.DescribedAlike definitions plain limit := by
  induction expands with
  | @delegate schema inner plain standsFor _ inductionHypothesis =>
      obtain ⟨limit, same⟩ := inductionHypothesis (never.inside (holds_of_standsFor? standsFor))
      refine ⟨limit + 1, fun depth otherDepth isLarger otherIsLarger keys apart bindings => ?_⟩
      obtain ⟨innerKeys, innerApart, stepEq⟩ := never.exists_step_eq standsFor apart
      cases depth with
      | zero => contradiction
      | succ depth =>
          obtain ⟨innerBindings, innerEq⟩ := stepEq (described definitions depth) bindings
          intro others otherKeys otherBindings
          exact innerEq.trans <| same depth otherDepth (Nat.le_of_succ_le_succ isLarger)
            (Nat.le_of_succ_le otherIsLarger) innerKeys innerApart innerBindings others otherKeys
            otherBindings
  | @nested schema change standsForItself _ inductionHypothesis =>
      have each : ∀ part ∈ schema.nested, ∃ limit,
          part.DescribedAlike definitions (change part) limit := fun part inside =>
        inductionHypothesis part inside (never.inside (holds_of_mem_nested inside))
      choose! limit same using each
      obtain ⟨bound, isBound⟩ := ((List.finite_toSet schema.nested).image limit).bddAbove
      refine ⟨bound + 1, fun depth otherDepth isLarger otherIsLarger keys apart => ?_⟩
      intro bindings others otherKeys otherBindings
      cases depth with
      | zero => contradiction
      | succ depth =>
          cases otherDepth with
          | zero => contradiction
          | succ otherDepth =>
              refine Description.step_mapNested standsForItself fun part inside => ?_
              have isLimit : limit part ≤ bound := isBound ⟨part, inside, rfl⟩
              have holds : schema.Holds definitions part := holds_of_mem_nested inside
              have partApart : ∀ key ∈ keys, key ∉ part.thunkKeys definitions :=
                fun key member reached => apart key member (thunkKeys_subset holds reached)
              exact same part inside depth otherDepth
                (isLimit.trans (Nat.le_of_succ_le_succ isLarger))
                (isLimit.trans (Nat.le_of_succ_le_succ otherIsLarger))
                keys partApart bindings others otherKeys otherBindings

end Schema

namespace Schema.Expands

variable {definitions : Definitions} {schema plain : Schema}

/-- Nothing is supplied in a schema that is written out. -/
theorem steady (expands : Expands definitions schema plain) : plain.Throughout Schema.Steady := by
  intro part isPart
  have standsForItself := expands.standsForItself part isPart
  cases part with
  | supplied => contradiction
  | _ => trivial

end Schema.Expands

namespace Session

variable {definitions : Definitions} {schema : Schema} {session : Session} {keys : List ThunkKey}

/-- While some thunks are being described, a sound session answers with the text of its schema. -/
theorem Sound.map_fst_answer_describe (sound : session.Sound definitions schema)
    (steady : schema.Throughout Schema.Steady)
    (definitionsSteady : definitions.Throughout Schema.Steady) (keys : List ThunkKey)
    (limit : Nat) :
    ((session.describing keys).answer limit .describe).map Prod.fst =
      (described definitions limit keys ⟨schema, []⟩).map Reply.text := by
  have settles : Run.Settles (Memory.Sound definitions schema keys)
      (Extraction.describe definitions limit (.root schema))
      (described definitions limit keys ⟨schema, []⟩) :=
    describe_settles steady definitionsSteady (Node.stands_root definitions schema)
  rw [answer_describe, describing, sound.definitions_eq, sound.root_eq,
    ← settles.map_fst (sound.memory_sound.describe keys), Option.map_map, Option.map_map]
  rfl

/-- From some bound on a description ends, whichever thunks are being described. -/
theorem exists_answer_describe (definitions : Definitions) (schema : Schema) :
    ∃ limit, ∀ larger, limit ≤ larger → ∀ session : Session, session.Sound definitions schema →
      ∀ keys : List ThunkKey, keys.Nodup → ∃ text after,
        (session.describing keys).answer larger .describe = some (.text text, after) := by
  obtain ⟨limit, finishes⟩ := exists_describeWhile_finishes definitions schema
  refine ⟨limit, fun larger isLarger session sound keys distinct => ?_⟩
  obtain ⟨text, memory, ends, _⟩ :=
    finishes larger isLarger keys distinct _ (sound.memory_sound.describe keys)
  rw [← sound.definitions_eq, ← sound.root_eq] at ends
  have describeEnds := describeWhile_refines _ _ _ _ _ _ ends
  refine ⟨text, { session with memory }, ?_⟩
  rw [answer_describe]
  exact congrArg (Option.map _) describeEnds

/-- Where no thunk is reached from inside one with the same site and label, a schema can be
written out in exactly one way, and it is described like what is written out. -/
theorem describe_expanded (steady : schema.Throughout Schema.Steady)
    (definitionsSteady : definitions.Throughout Schema.Steady)
    (never : schema.NeverReenters definitions) :
    ∃ plain, Schema.Expands definitions schema plain ∧
      (∀ other, Schema.Expands definitions schema other → other = plain) ∧
      (plain.Throughout fun part => part.standsFor? definitions = none) ∧
      ∃ limit, ∀ larger, limit ≤ larger → ∀ session other : Session,
        session.Reachable definitions schema → other.Reachable [] plain →
        ∀ keys : List ThunkKey, keys.Nodup → (∀ key ∈ keys, key ∉ schema.thunkKeys definitions) →
          ∃ text after otherAfter,
            (session.describing keys).answer larger .describe = some (.text text, after) ∧
            (other.describing keys).answer larger .describe = some (.text text, otherAfter) := by
  obtain ⟨plain, expands⟩ := never.exists_expands
  refine ⟨plain, expands, fun other otherExpands => otherExpands.unique expands,
    expands.standsForItself, ?_⟩
  obtain ⟨limit, same⟩ := expands.exists_describedAlike never
  obtain ⟨describedFrom, ends⟩ := exists_answer_describe definitions schema
  refine ⟨max limit describedFrom, ?_⟩
  intro larger isLarger session other reachable otherReachable keys distinct apart
  have sound := reachable.staysSound
  obtain ⟨text, after, answered⟩ :=
    ends larger (le_of_max_le_right isLarger) session sound keys distinct
  have largeEnough : limit ≤ larger := le_of_max_le_left isLarger
  have otherAnswered : ((other.describing keys).answer larger .describe).map Prod.fst =
      some (.text text) := by
    rw [otherReachable.staysSound.map_fst_answer_describe expands.steady nofun,
      ← same larger larger largeEnough largeEnough keys apart [] [] keys [],
      ← sound.map_fst_answer_describe steady definitionsSteady, answered, Option.map_some]
  obtain ⟨⟨_, otherAfter⟩, otherEnds, rfl⟩ := Option.map_eq_some_iff.mp otherAnswered
  exact ⟨text, after, otherAfter, answered, otherEnds⟩

/-! ## Sizes -/

/-- Sizes are arrays of numbers, which are built when they are needed, under the label of the sizes
themselves. -/
def sizeDefinitions : Definitions :=
  [("size", .array (.thunk 0 "size" .number))]

/-- Two sizes side by side. -/
def sizes : Schema :=
  .oneOf [.reference "size" "size", .reference "size" "size"]

theorem steady_sizeDefinitions : sizeDefinitions.Throughout Schema.Steady := by
  refine List.forall_mem_singleton.mpr (Schema.throughout_iff.mpr ⟨trivial, ?_⟩)
  refine List.forall_mem_singleton.mpr (Schema.throughout_iff.mpr ⟨trivial, ?_⟩)
  refine List.forall_mem_singleton.mpr (Schema.throughout_iff.mpr ⟨trivial, ?_⟩)
  simp [Schema.number, Schema.typed, Schema.nested]

theorem steady_sizes : sizes.Throughout Schema.Steady := by
  refine Schema.throughout_iff.mpr ⟨trivial, fun part inside => ?_⟩
  rcases List.mem_pair.mp inside with rfl | rfl
  · exact Schema.throughout_iff.mpr ⟨trivial, by simp [Schema.nested]⟩
  · exact Schema.throughout_iff.mpr ⟨trivial, by simp [Schema.nested]⟩

/-- A size is built inside a size, but not at the same site. -/
theorem neverReenters_sizes : sizes.NeverReenters sizeDefinitions := by
  have number : Schema.number.EntersOnly sizeDefinitions [] := .of_held nofun nofun
  have later : (Schema.thunk 0 "size" .number).EntersOnly sizeDefinitions [⟨.inline 0, "size"⟩] :=
    .of_held (List.forall_mem_cons.mpr ⟨number, List.forall_mem_singleton.mpr number⟩) nofun
  have array : (Schema.array (.thunk 0 "size" .number)).EntersOnly sizeDefinitions
      [⟨.inline 0, "size"⟩] :=
    .of_held (List.forall_mem_singleton.mpr later) nofun
  have size : (Schema.reference "size" "size").EntersOnly sizeDefinitions
      [⟨.definition, "size"⟩, ⟨.inline 0, "size"⟩] :=
    .of_held (List.forall_mem_singleton.mpr array) (by rintro _ ⟨⟩; decide)
  have both : sizes.EntersOnly sizeDefinitions [⟨.definition, "size"⟩, ⟨.inline 0, "size"⟩] :=
    .of_held (List.forall_mem_cons.mpr ⟨size, List.forall_mem_singleton.mpr size⟩) nofun
  exact both.1

/-- Two sizes are both described in full, as two arrays of numbers are. -/
theorem describe_expanded_sizes :
    ∃ limit after otherAfter,
      (Session.start sizeDefinitions sizes).answer limit .describe =
        some (.text "oneOf(array(val), array(val))", after) ∧
      (Session.start [] (.oneOf [.array .number, .array .number])).answer limit .describe =
        some (.text "oneOf(array(val), array(val))", otherAfter) := by
  obtain ⟨plain, expands, isOnly, _, limit, describes⟩ :=
    describe_expanded steady_sizes steady_sizeDefinitions neverReenters_sizes
  have number : Schema.Expands sizeDefinitions .number .number :=
    @Schema.Expands.nested sizeDefinitions .number id rfl nofun
  have size : Schema.Expands sizeDefinitions (.reference "size" "size") (.array .number) :=
    .delegate rfl <| @Schema.Expands.nested sizeDefinitions (.array (.thunk 0 "size" .number))
      (fun _ => .number) rfl (List.forall_mem_singleton.mpr (.delegate rfl number))
  have writtenOut : Schema.Expands sizeDefinitions sizes
      (.oneOf [.array .number, .array .number]) :=
    @Schema.Expands.nested sizeDefinitions sizes (fun _ => .array .number) rfl
      (List.forall_mem_cons.mpr ⟨size, List.forall_mem_singleton.mpr size⟩)
  cases isOnly _ writtenOut
  obtain ⟨text, after, otherAfter, answered, otherAnswered⟩ :=
    describes (max limit 3) (le_max_left limit 3) (.start sizeDefinitions sizes) (.start [] _)
      ⟨[], .start⟩ ⟨[], .start⟩ [] .nil nofun
  -- The text of the schema that is written out is plain to see.
  have seen := describe_refines (le_max_right limit 3) _ _ _
    (show (Extraction.describe [] 3 (.root (.oneOf [.array .number, .array .number]))).run
      (.initial []) = some ("oneOf(array(val), array(val))", .initial []) from rfl)
  have otherText := (answer_describe _ _).symm.trans otherAnswered
  cases (congrArg (Option.map _) seen).symm.trans otherText
  exact ⟨_, after, _, answered, otherAnswered⟩

end Session

end Extraction
