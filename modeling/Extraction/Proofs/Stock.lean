import Mathlib.Data.Set.Finite.Lattice
import Mathlib.Data.Set.Finite.Range
import Extraction.Proofs.Closures

/-!
# Schemas lead to finitely many closures

A schema that refers to itself unfolds without end, but only finitely many closures come up on the
way: those that are written in it and in the definitions, and what references look up.
-/

namespace Extraction

namespace Closure

/-- The closures that are written directly inside a closure; the body of a recursive schema is
counted with and without the schema around it. -/
def written (closure : Closure) : List Closure :=
  closure.schema.nested.map (Closure.mk · closure.bindings) ++
    match closure.schema with
    | .recursive label body => [⟨body, (label, body) :: closure.bindings⟩]
    | _ => []

/-- One closure is written in another one, at any depth. -/
def WrittenIn (whole part : Closure) : Prop :=
  Relation.ReflTransGen (fun upper lower => lower ∈ upper.written) whole part

variable {whole part : Closure}

private theorem sizeOf_lt_of_mem_written (member : part ∈ whole.written) :
    sizeOf part.schema < sizeOf whole.schema := by
  rcases whole with ⟨schema, bindings⟩
  rcases List.mem_append.mp member with direct | body
  · rcases List.mem_map.mp direct with ⟨inner, nested, rfl⟩
    exact Schema.sizeOf_lt_of_mem_nested nested
  · cases schema with
    | recursive label body =>
        cases List.mem_singleton.mp body
        exact Schema.sizeOf_lt_of_mem_nested (.head _)
    | _ => contradiction

/-- Only finitely many closures are written in one. -/
theorem finite_writtenIn (whole : Closure) : {part | WrittenIn whole part}.Finite := by
  have below : (⋃ direct ∈ {direct | direct ∈ whole.written},
      {part | WrittenIn direct part}).Finite :=
    Set.Finite.biUnion (List.finite_toSet whole.written) fun direct member =>
      have _smaller := sizeOf_lt_of_mem_written member
      finite_writtenIn direct
  apply (below.insert whole).subset
  intro part isWritten
  rcases Relation.ReflTransGen.cases_head isWritten with rfl | ⟨direct, member, rest⟩
  · exact .inl rfl
  · exact .inr (Set.mem_biUnion member rest)
termination_by sizeOf whole.schema

/-- The closures that are written in a schema or in one of the definitions. -/
def Stock (definitions : Definitions) (schema : Schema) (closure : Closure) : Prop :=
  ∃ root ∈ schema :: definitions.map Prod.snd, WrittenIn ⟨root, []⟩ closure

/-- What a reference looks up; any other closure stands for itself. -/
def lookup (definitions : Definitions) (closure : Closure) : Closure :=
  match closure.schema with
  | .reference _ name => ⟨definitions.find name, []⟩
  | _ => closure

variable {definitions : Definitions} {schema : Schema} {closure next : Closure}

theorem finite_stock (definitions : Definitions) (schema : Schema) :
    {closure | Stock definitions schema closure}.Finite := by
  have each : (⋃ root ∈ {root | root ∈ schema :: definitions.map Prod.snd},
      {closure | WrittenIn ⟨root, []⟩ closure}).Finite :=
    Set.Finite.biUnion (List.finite_toSet _) fun root _ => finite_writtenIn ⟨root, []⟩
  apply each.subset
  rintro closure ⟨root, member, isWritten⟩
  exact Set.mem_biUnion member isWritten

theorem Stock.written (inStock : Stock definitions schema closure)
    (member : next ∈ closure.written) : Stock definitions schema next := by
  rcases inStock with ⟨root, rootMem, isWritten⟩
  exact ⟨root, rootMem, isWritten.tail member⟩

private theorem Stock.owner {label : String} {owner : Closure}
    (inStock : Stock definitions schema closure)
    (found : Bindings.find? label closure.bindings = some owner) :
    Stock definitions schema owner := by
  rcases inStock with ⟨root, rootMem, isWritten⟩
  induction isWritten with
  | refl => contradiction
  | @tail upper lower outer member inductionHypothesis =>
      rcases upper with ⟨upperSchema, bindings⟩
      rcases List.mem_append.mp member with direct | body
      · rcases List.mem_map.mp direct with ⟨inner, _, rfl⟩
        exact inductionHypothesis found
      · cases upperSchema with
        | recursive other body =>
            cases List.mem_singleton.mp body
            rw [Bindings.find?] at found
            split at found
            · cases found
              exact ⟨root, rootMem, outer.tail member⟩
            · exact inductionHypothesis found
        | _ => contradiction

private theorem stock_or_released_lookup (inStock : Stock definitions schema closure) :
    Stock definitions schema (closure.lookup definitions) ∨
      ∃ label, (closure.lookup definitions).schema = .released label := by
  rcases closure with ⟨written, bindings⟩
  cases written with
  | reference label name =>
      simp only [lookup, Definitions.find]
      cases found : definitions.lookup name with
      | none => exact .inr ⟨name, rfl⟩
      | some defined =>
          rcases List.lookup_eq_some_iff.mp found with ⟨before, after, rfl, _⟩
          exact .inl ⟨defined, by simp, .refl⟩
  | _ => exact .inl inStock

private theorem Stock.leads (inStock : Stock definitions schema closure)
    (leads : closure.Leads definitions next) :
    Stock definitions schema next ∨ next = closure.lookup definitions := by
  cases leads with
  | nested member =>
      exact .inl (inStock.written (List.mem_append_left _ (List.mem_map_of_mem member)))
  | delegate delegates =>
      rcases closure with ⟨written, bindings⟩
      cases written with
      | thunk | boxed =>
          cases delegates
          exact .inl (inStock.written (.head _))
      | recursive label body =>
          cases delegates
          exact .inl (inStock.written (List.mem_append_right _ (.head _)))
      | self label => exact .inl (inStock.owner delegates)
      | reference label name =>
          cases delegates
          exact .inr rfl
      | _ => contradiction

private theorem not_leads_of_released {label : String}
    (isReleased : closure.schema = .released label) : ¬ Leads definitions closure next := by
  rcases closure with ⟨written, bindings⟩
  cases isReleased
  intro leads
  cases leads with
  | nested member => contradiction
  | delegate delegates => contradiction

/-- A schema leads to finitely many closures. -/
theorem finite_leads (definitions : Definitions) (schema : Schema) :
    {closure | Relation.ReflTransGen (Leads definitions) ⟨schema, []⟩ closure}.Finite := by
  have fromStock {closure next : Closure} (inStock : Stock definitions schema closure)
      (leads : closure.Leads definitions next) :
      next ∈ {closure | Stock definitions schema closure} ∪
        lookup definitions '' {closure | Stock definitions schema closure} := by
    rcases inStock.leads leads with nextInStock | rfl
    · exact .inl nextInStock
    · exact .inr ⟨closure, inStock, rfl⟩
  have finite := finite_stock definitions schema
  apply (finite.union (finite.image (lookup definitions))).subset
  intro closure leadsTo
  induction leadsTo with
  | refl => exact .inl ⟨schema, .head _, .refl⟩
  | tail _ leads inductionHypothesis =>
      rcases inductionHypothesis with inStock | ⟨reference, inStock, rfl⟩
      · exact fromStock inStock leads
      · rcases stock_or_released_lookup inStock with found | ⟨label, isReleased⟩
        · exact fromStock found leads
        -- A name that is not defined stands for a schema outside the stock, with nothing beyond
        -- it.
        · exact absurd leads (not_leads_of_released isReleased)

end Closure

end Extraction
