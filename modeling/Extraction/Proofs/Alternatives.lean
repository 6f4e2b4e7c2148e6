import Extraction.Proofs.Relocation

/-!
# Alternatives of alternatives

Alternatives are tried in order, each once, up to the first that succeeds; if all fail, the faults
of all of them are kept in order.  So alternatives that stand among others as one schema may as
well be written out among them.  Nothing else changes by that but the addresses.
-/

namespace Extraction

/-! ## The first success -/

namespace Extractor

/-- Alternatives are tried from a memory on, after others that have failed: some fail and the
next one succeeds, or all fail, each run once and in order. -/
inductive FirstSuccess (extract : Extractor) (path : Path) (value : Value) (earlier : List Fault)
    (memory : Memory) : List Node → Outcome Value → Memory → Prop where
  | success {front back : List Node} {node : Node} {failures : List Faults} {result : Value}
      {between after : Memory}
      (failed : (front.mapM (extract · path value)).run memory =
        some (failures.map .error, between))
      (succeeded : (extract node path value).run between = some (.ok result, after)) :
      FirstSuccess extract path value earlier memory (front ++ node :: back) (.ok result) after
  | failure {nodes : List Node} {failures : List Faults} {faults : Faults} {after : Memory}
      (failed : (nodes.mapM (extract · path value)).run memory = some (failures.map .error, after))
      (collected : faults.toList = earlier ++ failures.flatMap Faults.toList) :
      FirstSuccess extract path value earlier memory nodes (.error faults) after

variable {extract : Extractor} {path : Path} {value : Value} {earlier : List Fault}
  {memory between after : Memory} {nodes : List Node} {outcome : Outcome Value}

private theorem FirstSuccess.cons {node : Node} {faults : Faults}
    (fails : (extract node path value).run memory = some (.error faults, between))
    (rest : FirstSuccess extract path value (earlier ++ faults.toList) between nodes outcome
      after) :
    FirstSuccess extract path value earlier memory (node :: nodes) outcome after := by
  have bothFail {front : List Node} {failures : List Faults} {last : Memory}
      (failed : (front.mapM (extract · path value)).run between =
        some (failures.map .error, last)) :
      ((node :: front).mapM (extract · path value)).run memory =
        some ((faults :: failures).map .error, last) := by
    simp [fails, failed]
  cases rest with
  | success failed succeeded => exact .success (bothFail failed) succeeded
  | failure failed collected =>
      apply FirstSuccess.failure (bothFail failed)
      rw [collected, List.flatMap_cons, List.append_assoc]

private theorem run_oneOf_append {front back : List Node} {failures : List Faults}
    (failed : (front.mapM (extract · path value)).run memory =
      some (failures.map .error, between)) :
    (extract.oneOf path value earlier (front ++ back)).run memory =
      (extract.oneOf path value (earlier ++ failures.flatMap Faults.toList) back).run between := by
  induction front generalizing earlier memory failures with
  | nil =>
      obtain ⟨isEmpty, rfl⟩ := Prod.mk.inj (Option.some.inj failed)
      cases List.map_eq_nil_iff.mp isEmpty.symm
      rw [List.flatMap_nil, List.append_nil, List.nil_append]
  | cons node front inductionHypothesis =>
      rw [List.mapM_cons, StateT.run_bind] at failed
      obtain ⟨⟨first, middle⟩, firstEnds, failed⟩ := Option.bind_eq_some_iff.mp failed
      rw [StateT.run_bind] at failed
      obtain ⟨⟨rest, _⟩, restEnds, same⟩ := Option.bind_eq_some_iff.mp failed
      obtain ⟨split, rfl⟩ := Prod.mk.inj (Option.some.inj same)
      obtain ⟨faults, later, rfl, rfl, rfl⟩ := List.map_eq_cons_iff.mp split.symm
      rw [List.cons_append, Extractor.oneOf, StateT.run_bind, firstEnds, List.flatMap_cons,
        ← List.append_assoc]
      exact inductionHypothesis restEnds

/-- Alternatives, if there are any, are tried up to the first success. -/
theorem run_oneOf_iff (given : earlier ≠ [] ∨ nodes ≠ []) :
    (extract.oneOf path value earlier nodes).run memory = some (outcome, after) ↔
      FirstSuccess extract path value earlier memory nodes outcome after := by
  have nothing (memory : Memory) : (([] : List Node).mapM (extract · path value)).run memory =
      some (([] : List Faults).map .error, memory) := rfl
  constructor
  · intro ends
    induction nodes generalizing earlier memory with
    | nil =>
        -- Without alternatives and without faults the result would be an empty array.
        cases earlier with
        | nil => simp at given
        | cons fault rest =>
            cases ends
            exact .failure (nothing _) (List.append_nil _).symm
    | cons node nodes inductionHypothesis =>
        rw [Extractor.oneOf, StateT.run_bind] at ends
        obtain ⟨⟨first, middle⟩, firstEnds, ends⟩ := Option.bind_eq_some_iff.mp ends
        cases first with
        | ok result =>
            cases ends
            exact .success (nothing memory) firstEnds
        | error faults =>
            have collected : earlier ++ faults.toList ≠ [] :=
              List.append_ne_nil_of_right_ne_nil earlier faults.toList_ne_nil
            exact (inductionHypothesis (.inl collected) ends).cons firstEnds
  · intro tried
    cases tried with
    | success failed succeeded =>
        rw [run_oneOf_append failed, Extractor.oneOf, StateT.run_bind, succeeded]
        rfl
    | failure failed collected =>
        rw [← List.append_nil nodes, run_oneOf_append failed, ← collected, Extractor.oneOf,
          Faults.ofList?_toList]
        rfl

/-! ## Alternatives that are nested -/

private theorem oneOf_append_eq_bind (extract : Extractor) (path : Path) (value : Value)
    (earlier : List Fault) {front : List Node} (given : front ≠ []) (back : List Node) :
    extract.oneOf path value earlier (front ++ back) = (do
      match ← extract.oneOf path value [] front with
      | .ok result => return .ok result
      | .error faults => extract.oneOf path value (earlier ++ faults.toList) back) := by
  -- The faults that have been collected from the former are told apart from those before them.
  have collecting (collected : List Fault) (isGiven : collected ≠ [] ∨ front ≠ []) :
      extract.oneOf path value (earlier ++ collected) (front ++ back) = (do
        match ← extract.oneOf path value collected front with
        | .ok result => return .ok result
        | .error faults => extract.oneOf path value (earlier ++ faults.toList) back) := by
    clear given
    induction front generalizing collected with
    | nil =>
        cases collected with
        | nil => simp at isGiven
        | cons fault rest => rfl
    | cons node front inductionHypothesis =>
        simp only [List.cons_append, Extractor.oneOf, bind_assoc]
        congr 1
        funext outcome
        cases outcome with
        | ok result => rfl
        | error faults =>
            dsimp only
            rw [List.append_assoc]
            apply inductionHypothesis
            exact .inl (List.append_ne_nil_of_right_ne_nil collected faults.toList_ne_nil)
  have fromNone := collecting [] (.inr given)
  rw [List.append_nil] at fromNone
  exact fromNone

private theorem refines_oneOf_append {extract other : Extractor}
    (nested : ∀ node path value, Run.Refines (extract node path value) (other node path value))
    {back otherBack : List Node} (path : Path) (value : Value)
    (rest : ∀ earlier, Run.Refines (extract.oneOf path value earlier back)
      (other.oneOf path value earlier otherBack)) (earlier : List Fault) (front : List Node) :
    Run.Refines (extract.oneOf path value earlier (front ++ back))
      (other.oneOf path value earlier (front ++ otherBack)) := by
  induction front generalizing earlier with
  | nil => exact rest earlier
  | cons node front inductionHypothesis =>
      apply Run.Refines.bind (nested node path value)
      intro outcome
      cases outcome with
      | ok result => exact .refl _
      | error faults => exact inductionHypothesis _

end Extractor

theorem Node.children_ne_nil (node : Node) (start : Nat) {schemas : List Schema}
    (given : schemas ≠ []) : node.children start schemas ≠ [] := by
  cases schemas with
  | nil => contradiction
  | cons => exact List.cons_ne_nil _ _

section

variable {definitions : Definitions} {nested : Node} {inner : List Schema}
  (shape : nested.schema = .oneOf inner) (given : inner ≠ [])

include shape given

private theorem refines_nested (limit : Nat) (path : Path) (value : Value)
    (front back : List Node) :
    Run.Refines
      ((extract definitions limit).oneOf path value []
        (front ++ (nested.children 0 inner ++ back)))
      ((extract definitions (limit + 1)).oneOf path value [] (front ++ nested :: back)) := by
  have larger (node : Node) (path : Path) (value : Value) :
      Run.Refines (extract definitions limit node path value)
        (extract definitions (limit + 1) node path value) :=
    extract_refines (Nat.le_succ limit) node path value
  apply Extractor.refines_oneOf_append larger
  intro earlier
  have same : extract definitions (limit + 1) nested path value =
      (extract definitions limit).oneOf path value [] (nested.children 0 inner) := by
    simp only [extract_succ, Extractor.step, shape]
  rw [Extractor.oneOf_append_eq_bind _ path value earlier (nested.children_ne_nil 0 given),
    Extractor.oneOf, same]
  apply Run.Refines.bind (.refl _)
  intro outcome
  cases outcome with
  | ok result => exact .refl _
  | error faults => exact Extractor.refines_oneOf larger path value _ back

private theorem refines_flat (limit : Nat) (path : Path) (value : Value) (front back : List Node) :
    Run.Refines ((extract definitions limit).oneOf path value [] (front ++ nested :: back))
      ((extract definitions limit).oneOf path value []
        (front ++ (nested.children 0 inner ++ back))) := by
  apply Extractor.refines_oneOf_append fun _ _ _ => .refl _
  intro earlier
  rw [Extractor.oneOf_append_eq_bind _ path value earlier (nested.children_ne_nil 0 given),
    Extractor.oneOf]
  have tried : Run.Refines (extract definitions limit nested path value)
      ((extract definitions limit).oneOf path value [] (nested.children 0 inner)) := by
    cases limit with
    | zero =>
        intro _ _ ends
        contradiction
    | succ limit =>
        simp only [extract_succ definitions limit, Extractor.step, shape]
        exact Extractor.refines_oneOf (fun node => extract_refines (Nat.le_succ limit) node) path
          value [] _
  apply tried.bind
  intro outcome
  cases outcome with
  | ok result => exact .refl _
  | error faults => exact .refl _

end

/-! ## The addresses of nested alternatives -/

/-- The address of one of several alternatives of the root, if `inner` of them, after `front`
others, are nested as one schema. -/
def Address.ofNested (front inner position : Nat) : Address :=
  if position < front then [position]
  else if position < front + inner then [position - front, front]
  else [position - inner + 1]

/-- The address, where some alternatives of the root are nested, of what stands at this address
where they are written out. -/
def Address.nest (front inner : Nat) : Address → Address
  | [] => []
  | [position] => ofNested front inner position
  | position :: next :: outer => position :: nest front inner (next :: outer)

namespace Address

/-- The address, where alternatives are written out, of what stands at an address where some of
them are nested. -/
private def unnest (front inner : Nat) : Address → Address
  | [] => []
  | [position] => if position < front then [position] else [position + inner - 1]
  | [position, next] =>
      if next = front then [position + front] else position :: unnest front inner [next]
  | position :: next :: further :: outer =>
      position :: unnest front inner (next :: further :: outer)

private theorem nest_cons_ne (front inner position : Nat) (outer : Address) :
    nest front inner (position :: outer) ≠ [] ∧
      nest front inner (position :: outer) ≠ [front] := by
  cases outer with
  | nil =>
      simp only [nest, ofNested]
      split
      · next before => simp [Nat.ne_of_lt before]
      · split
        · simp
        · have after : position - inner + 1 ≠ front := by omega
          simp [after]
  | cons next outer =>
      have nonempty := (nest_cons_ne front inner next outer).1
      rw [nest]
      exact ⟨List.cons_ne_nil _ _, fun same => nonempty (List.cons.inj same).2⟩

private theorem unnest_nest (front inner : Nat) (address : Address) :
    unnest front inner (nest front inner address) = address := by
  induction address with
  | nil => rfl
  | cons position outer inductionHypothesis =>
      cases outer with
      | nil =>
          simp only [nest, ofNested]
          split
          · next before => simp [unnest, before]
          · split
            · simp only [unnest, if_pos, List.cons.injEq, and_true]
              omega
            · have after : ¬ position - inner + 1 < front := by omega
              simp only [unnest, if_neg after, List.cons.injEq, and_true]
              omega
      | cons next outer =>
          -- A first position is taken to be nested only if the position after it is that of the
          -- schema that is nested, and then nothing comes after that.
          obtain ⟨notRoot, notNested⟩ := nest_cons_ne front inner next outer
          rw [nest]
          cases moved : nest front inner (next :: outer) with
          | nil => contradiction
          | cons further rest =>
              rw [moved] at notNested inductionHypothesis
              rw [← inductionHypothesis]
              cases rest with
              | nil =>
                  have different : further ≠ front := fun same => notNested (same ▸ rfl)
                  exact if_neg different
              | cons => rfl

/-- Different occurrences stay different where alternatives are nested. -/
theorem nest_injective (front inner : Nat) : Function.Injective (nest front inner) :=
  Function.LeftInverse.injective (unnest_nest front inner)

/-- What is below an alternative moves together with it. -/
theorem movesBelow_nest (front inner position : Nat) (outer : Address) :
    MovesBelow (nest front inner) (position :: outer) := by
  intro below
  induction below with
  | nil => rfl
  | cons first below inductionHypothesis =>
      rw [List.cons_append, List.cons_append, ← inductionHypothesis]
      cases below <;> rfl

end Address

/-! ## Schemas -/

namespace Node

theorem children_append (node : Node) (start : Nat) (first second : List Schema) :
    node.children start (first ++ second) =
      node.children start first ++ node.children (start + first.length) second := by
  rw [children_eq_map, children_eq_map, children_eq_map, List.zipIdx_append, List.map_append]

private theorem children_relocate {move : Address → Address} {node other : Node}
    (sameScope : other.scope = node.scope.map (Owner.relocate move)) {schemas : List Schema}
    {start otherStart : Nat}
    (moves : ∀ offset < schemas.length,
      move ((start + offset) :: node.address) = (otherStart + offset) :: other.address) :
    other.children otherStart schemas =
      (node.children start schemas).map (Node.relocate move) := by
  induction schemas generalizing start otherStart with
  | nil => rfl
  | cons schema schemas inductionHypothesis =>
      have first : other.child otherStart schema = (node.child start schema).relocate move := by
        have here := moves 0 (Nat.succ_pos _)
        rw [Nat.add_zero, Nat.add_zero] at here
        simp only [Node.child, Node.relocate, here, sameScope]
      have rest : other.children (otherStart + 1) schemas =
          (node.children (start + 1) schemas).map (Node.relocate move) := by
        apply inductionHypothesis
        intro offset inside
        have here := moves (offset + 1) (Nat.succ_lt_succ inside)
        rw [Nat.add_assoc, Nat.add_assoc, Nat.add_comm 1 offset]
        exact here
      rw [children, children, List.map_cons, first, rest]

end Node

section

variable (first inner last : List Schema)

private theorem children_nested :
    let flat : Node := .root (.oneOf (first ++ inner ++ last))
    let nested : Node := .root (.oneOf (first ++ [.oneOf inner] ++ last))
    let move := Address.nest first.length inner.length
    ∃ front back,
      nested.children 0 (first ++ [.oneOf inner] ++ last) =
        front ++ nested.child first.length (.oneOf inner) :: back ∧
      (flat.children 0 (first ++ inner ++ last)).map (Node.relocate move) =
        front ++ ((nested.child first.length (.oneOf inner)).children 0 inner ++ back) := by
  intro flat nested move
  refine ⟨nested.children 0 first, nested.children (first.length + 1) last, ?_, ?_⟩
  · rw [List.append_assoc, Node.children_append, Node.children_append, Nat.zero_add]
    rfl
  · have atFront : nested.children 0 first = (flat.children 0 first).map (Node.relocate move) := by
      apply Node.children_relocate rfl
      intro offset inside
      rw [Nat.zero_add]
      exact if_pos inside
    have below : (nested.child first.length (.oneOf inner)).children 0 inner =
        (flat.children first.length inner).map (Node.relocate move) := by
      apply Node.children_relocate rfl
      intro offset inside
      have notBefore : ¬ first.length + offset < first.length := by omega
      have among : first.length + offset < first.length + inner.length := by omega
      simp only [move, flat, Node.root, Address.nest, Address.ofNested, if_neg notBefore,
        if_pos among, Nat.add_sub_cancel_left, Nat.zero_add]
      rfl
    have atBack : nested.children (first.length + 1) last =
        (flat.children (first.length + inner.length) last).map (Node.relocate move) := by
      apply Node.children_relocate rfl
      intro offset inside
      have notBefore : ¬ first.length + inner.length + offset < first.length := by omega
      have notAmong : ¬ first.length + inner.length + offset < first.length + inner.length := by
        omega
      have after : first.length + inner.length + offset - inner.length + 1 =
          first.length + 1 + offset := by omega
      simp only [move, flat, Node.root, Address.nest, Address.ofNested, if_neg notBefore,
        if_neg notAmong, after]
      rfl
    rw [Node.children_append, Node.children_append, List.map_append, List.map_append,
      List.length_append, Nat.zero_add, Nat.zero_add, List.append_assoc, atFront, below, atBack]

private theorem fits_nest (front count : Nat) {schema : Schema} {start : Nat}
    {schemas : List Schema} :
    ∀ node ∈ (Node.root schema).children start schemas, node.Fits (Address.nest front count) := by
  intro node member
  rw [Node.children_eq_map] at member
  obtain ⟨⟨written, position⟩, _, rfl⟩ := List.mem_map.mp member
  exact ⟨Address.movesBelow_nest front count position [], fun _ member => by contradiction⟩

private theorem thunks_nested (definitions : Definitions) :
    (Node.root (.oneOf (first ++ [.oneOf inner] ++ last))).thunks definitions =
      ((Node.root (.oneOf (first ++ inner ++ last))).thunks definitions).map
        (Thunk.relocate (Address.nest first.length inner.length)) := by
  obtain ⟨front, back, written, flat⟩ := children_nested first inner last
  have nestedThunks (node : Node) (schemas : List Schema) (shape : node.schema = .oneOf schemas) :
      node.thunks definitions = (node.children 0 schemas).flatMap (·.thunks definitions) := by
    rw [Node.thunks_eq]
    simp [Node.thunk?, Node.parts, shape]
  rw [nestedThunks _ _ rfl, nestedThunks _ _ rfl, written, List.flatMap_append, List.flatMap_cons,
    nestedThunks (Node.child _ _ _) inner rfl, ← List.flatMap_append, ← List.flatMap_append,
    ← flat, List.flatMap_map, List.map_flatMap]
  apply List.flatMap_congr
  intro node member
  exact Node.thunks_relocate (fits_nest _ _ node member).below

end

section

variable {definitions : Definitions} {first inner last : List Schema} {keys : List ThunkKey}
  {memory : Memory} (sound : memory.Sound definitions (.oneOf (first ++ inner ++ last)) keys)
  (path : Path) (value : Value)

include sound

private theorem run_flat (limit : Nat) :
    let flat := (Node.root (.oneOf (first ++ inner ++ last))).children 0 (first ++ inner ++ last)
    let move := Address.nest first.length inner.length
    ((extract definitions limit).oneOf path value [] (flat.map (Node.relocate move))).run
        (memory.relocate move) =
      (((extract definitions limit).oneOf path value [] flat).run memory).map
        (Prod.map id (Memory.relocate move)) := by
  have stands := Node.stands_root definitions (.oneOf (first ++ inner ++ last))
  apply run_oneOf_relocate (Address.nest_injective _ _) (fits_nest _ _) _ sound
  intro node member
  exact stands.alternatives rfl member

variable (given : inner ≠ []) {limit : Nat} {outcome : Outcome Value}

include given

private theorem run_nested {after : Memory}
    (ends : (extract definitions limit (.root (.oneOf (first ++ inner ++ last))) path value).run
      memory = some (outcome, after)) :
    (extract definitions (limit + 1) (.root (.oneOf (first ++ [.oneOf inner] ++ last))) path
        value).run (memory.relocate (Address.nest first.length inner.length)) =
      some (outcome, after.relocate (Address.nest first.length inner.length)) := by
  cases limit with
  | zero => contradiction
  | succ limit =>
      obtain ⟨front, back, written, moved⟩ := children_nested first inner last
      have tried : ((extract definitions limit).oneOf path value [] ((Node.root
          (.oneOf (first ++ inner ++ last))).children 0 (first ++ inner ++ last))).run memory =
            some (outcome, after) :=
        ends
      have runs := run_flat sound path value limit
      dsimp only at runs
      rw [tried, moved] at runs
      have nested := refines_nested rfl given limit path value front back _ _ runs
      rw [← written] at nested
      exact nested

private theorem exists_run_flat {changed : Memory}
    (ends : (extract definitions limit (.root (.oneOf (first ++ [.oneOf inner] ++ last))) path
        value).run (memory.relocate (Address.nest first.length inner.length)) =
      some (outcome, changed)) :
    ∃ after, (extract definitions limit (.root (.oneOf (first ++ inner ++ last))) path value).run
        memory = some (outcome, after) ∧
      changed = after.relocate (Address.nest first.length inner.length) := by
  cases limit with
  | zero => contradiction
  | succ limit =>
      obtain ⟨front, back, written, moved⟩ := children_nested first inner last
      have tried : ((extract definitions limit).oneOf path value []
          ((Node.root (.oneOf (first ++ [.oneOf inner] ++ last))).children 0
            (first ++ [.oneOf inner] ++ last))).run
          (memory.relocate (Address.nest first.length inner.length)) = some (outcome, changed) :=
        ends
      rw [written] at tried
      have runs := refines_flat rfl given limit path value front back _ _ tried
      rw [← moved, run_flat sound path value limit] at runs
      obtain ⟨⟨_, after⟩, flatEnds, same⟩ := Option.map_eq_some_iff.mp runs
      cases same
      exact ⟨after, flatEnds, rfl⟩

end

/-- Alternatives are tried in order up to the first success, or else the faults of all are kept;
and alternatives among others may be written out in their place. -/
theorem extract_oneOf (definitions : Definitions) (path : Path) (value : Value) :
    (∀ (alternatives : List Schema) (address : Address) (scope : Scope), alternatives ≠ [] →
      let node : Node := ⟨.oneOf alternatives, address, scope⟩
      ∀ limit memory outcome after,
        (extract definitions (limit + 1) node path value).run memory = some (outcome, after) ↔
          (extract definitions limit).FirstSuccess path value [] memory
            (node.children 0 alternatives) outcome after) ∧
    (∀ (first last : List Node) (nested : Node) (inner : List Schema),
      nested.schema = .oneOf inner → inner ≠ [] → ∀ limit,
        let flat := first ++ nested.children 0 inner ++ last
        Run.Refines ((extract definitions limit).oneOf path value [] flat)
          ((extract definitions (limit + 1)).oneOf path value [] (first ++ [nested] ++ last)) ∧
        Run.Refines ((extract definitions limit).oneOf path value [] (first ++ [nested] ++ last))
          ((extract definitions limit).oneOf path value [] flat)) ∧
    ∀ first inner last : List Schema, inner ≠ [] →
      let flat : Node := .root (.oneOf (first ++ inner ++ last))
      let nested : Node := .root (.oneOf (first ++ [.oneOf inner] ++ last))
      let move := Address.nest first.length inner.length
      Function.Injective move ∧
      Memory.initial (nested.thunks definitions) =
        (Memory.initial (flat.thunks definitions)).relocate move ∧
      ∀ keys memory, memory.Sound definitions flat.schema keys → ∀ limit outcome,
        (∀ after, (extract definitions limit flat path value).run memory = some (outcome, after) →
          (extract definitions (limit + 1) nested path value).run (memory.relocate move) =
            some (outcome, after.relocate move)) ∧
        ∀ changed, (extract definitions limit nested path value).run (memory.relocate move) =
            some (outcome, changed) →
          ∃ after, (extract definitions limit flat path value).run memory = some (outcome, after) ∧
            changed = after.relocate move ∧ changed.log = after.log := by
  refine ⟨?_, ?_, ?_⟩
  · intro alternatives address scope given node limit memory outcome after
    exact Extractor.run_oneOf_iff (.inr (node.children_ne_nil 0 given))
  · intro first last nested inner shape given limit flat
    simp only [flat, List.append_assoc, List.singleton_append]
    exact ⟨refines_nested shape given limit path value first last,
      refines_flat shape given limit path value first last⟩
  · intro first inner last given flat nested move
    have injective := Address.nest_injective first.length inner.length
    refine ⟨injective, ?_, ?_⟩
    · rw [Memory.initial, thunks_nested]
      rfl
    · intro keys memory sound limit outcome
      constructor
      · intro after ends
        exact run_nested sound path value given ends
      · intro changed ends
        obtain ⟨after, flatEnds, rfl⟩ := exists_run_flat sound path value given ends
        exact ⟨after, flatEnds, rfl, rfl⟩

/-! ## Digits, texts or other digits -/

/-- Null is none of four alternatives, of which two are nested and two are built when they are
tried.  All four faults are kept, the same fault of both numbers twice. -/
theorem extract_oneOf_null :
    let nested : Node := .root (.oneOf ([.boolean] ++
      [.oneOf [.thunk 0 "digits" .number, .string]] ++ [.thunk 1 "others" .number]))
    ∃ boolean number string after,
      (extract [] 4 nested .root .null).run (.initial (nested.thunks [])) =
        some (.error ⟨boolean, [number, string, number]⟩, after) ∧
      after.log = [.built "digits", .built "others"] := by
  intro nested
  obtain ⟨_, _, nests⟩ := extract_oneOf [] .root .null
  obtain ⟨_, start, runs⟩ := nests [.boolean] [.thunk 0 "digits" .number, .string]
    [.thunk 1 "others" .number] (List.cons_ne_nil _ _)
  obtain ⟨flatEnds, _⟩ := runs [] _ (Memory.sound_initial _ _) 3 _
  rw [start]
  exact ⟨_, _, _, _, flatEnds _ rfl, rfl⟩

end Extraction
