import PointerOrigins.Proofs.EnumerationOrder

/-!
Traces take no account of control flow. The blocks of a function may stand in any order, and so may the values
that flow into a phi or a select. Returns and call sites are then listed in another order, steps lead to the
same values in another order, and a trace finds the same: origins, number of values, and depth. This needs that
no name is defined twice, since of two definitions the one that stands last counts.
-/

namespace PointerOrigins

----------------------------------------------------------------------------------------------
-- Lists that are paired in any order
----------------------------------------------------------------------------------------------

/-- The entries of two lists are related one to one, in whatever order they stand. -/
def Reordered {α : Type} (related : α → α → Prop) (entries others : List α) : Prop :=
  ∃ paired, List.Forall₂ related entries paired ∧ others.Perm paired

namespace Reordered

variable {α β γ : Type} {related : α → α → Prop} {entries others : List α}

/-- Entries that are related as they stand are so in any order. -/
theorem of_pairs (pairs : List.Forall₂ related entries others)
    : Reordered related entries others :=
  ⟨others, pairs, .refl _⟩

/-- Reversing two lists keeps their entries related. -/
theorem reverse (reordered : Reordered related entries others)
    : Reordered related entries.reverse others.reverse := by
  obtain ⟨paired, pairs, order⟩ := reordered
  exact ⟨paired.reverse, List.rel_reverse pairs, List.reverse_perm'.2 (List.perm_reverse.2 order)⟩

/-- Entries that are made of the same parts, in any order, make lists of the same parts. -/
theorem flatMap_perm {f : α → List γ} (agree : ∀ {x y}, related x y → (f y).Perm (f x))
    (reordered : Reordered related entries others)
    : (others.flatMap f).Perm (entries.flatMap f) := by
  obtain ⟨paired, pairs, order⟩ := reordered
  exact (order.flatMap_right f).trans (flatMap_perm_of_pairs agree pairs)

/-- Entries whose parts are related in any order make lists whose parts are. Witness: the order in which the
entries stand carries over to their parts.
-/
theorem flatMap {partRelated : γ → γ → Prop} {f : α → List γ}
    (agree : ∀ {x y}, related x y → Reordered partRelated (f x) (f y))
    (reordered : Reordered related entries others)
    : Reordered partRelated (entries.flatMap f) (others.flatMap f) := by
  obtain ⟨paired, pairs, order⟩ := reordered
  suffices inPairs : Reordered partRelated (entries.flatMap f) (paired.flatMap f) by
    obtain ⟨parts, partPairs, partOrder⟩ := inPairs
    exact ⟨parts, partPairs, (order.flatMap_right f).trans partOrder⟩
  clear order
  induction pairs with
  | nil => exact ⟨[], .nil, .refl _⟩
  | cons same _ ih =>
      obtain ⟨headParts, headPairs, headOrder⟩ := agree same
      obtain ⟨restParts, restPairs, restOrder⟩ := ih
      rw [List.flatMap_cons, List.flatMap_cons]
      exact ⟨headParts ++ restParts, List.rel_append headPairs restPairs,
        headOrder.append restOrder⟩

/-- Where each key occurs once, looking it up finds nothing in both lists, or values that are related. -/
theorem lookup [BEq α] [LawfulBEq α] {related : α × β → α × β → Prop}
    {valueRelated : β → β → Prop} {entries others : List (α × β)}
    (sameKey : ∀ {x y}, related x y → y.1 = x.1)
    (values : ∀ {x y}, related x y → valueRelated x.2 y.2)
    (unique : (entries.map Prod.fst).Nodup) (reordered : Reordered related entries others)
    (key : α)
    : Option.Rel valueRelated (entries.lookup key) (others.lookup key) := by
  obtain ⟨paired, pairs, order⟩ := reordered
  have stillUnique : (paired.map Prod.fst).Nodup := by
    rw [map_eq_of_pairs (fun same => sameKey same) pairs]
    exact unique
  rw [lookup_eq_of_perm stillUnique order]
  rcases lookup_of_pairs sameKey pairs key with
    ⟨missing, stillMissing⟩ | ⟨x, y, found, otherFound, same⟩
  · rw [missing, stillMissing]
    exact .none
  · rw [found, otherFound]
    exact .some (values same)

end Reordered

----------------------------------------------------------------------------------------------
-- The change
----------------------------------------------------------------------------------------------

/-- An operation and the same one with the values that flow into it in another order. -/
inductive Opcode.Rearranged : Opcode → Opcode → Prop
  | same (opcode : Opcode) : Rearranged opcode opcode
  | phi {values others : List Operand} (reordered : others.Perm values)
    : Rearranged (.phi values) (.phi others)
  | select {condition whenTrue whenFalse : Operand}
    : Rearranged (.select condition whenTrue whenFalse) (.select condition whenFalse whenTrue)

/-- An instruction keeps its name and type when its operation is rearranged. -/
structure Instruction.Rearranged (i other : Instruction) : Prop where
  name : other.name = i.name
  opcode : i.opcode.Rearranged other.opcode
  ty : other.ty = i.ty

/-- The instructions of a block stay in their order, and its terminator stays as it is. -/
structure Block.Rearranged (b other : Block) : Prop where
  name : other.name = b.name
  instrs : List.Forall₂ Instruction.Rearranged b.instrs other.instrs
  terminator : other.terminator = b.terminator

/-- The blocks of a body may stand in any order. -/
structure FunctionDef.Rearranged (body other : FunctionDef) : Prop where
  parameters : other.parameters = body.parameters
  blocks : Reordered Block.Rearranged body.blocks other.blocks

/-- A function keeps its name when its body is rearranged. -/
structure FunctionDef.NamedRearranged (entry other : FunctionName × FunctionDef) : Prop where
  function : other.1 = entry.1
  body : entry.2.Rearranged other.2

/-- A definition and the same one with the values that flow into it in another order. -/
inductive Definition.Rearranged : Definition → Definition → Prop
  | instruction {opcode another : Opcode} (rearranged : opcode.Rearranged another)
    : Rearranged (.instruction opcode) (.instruction another)
  | terminator (opcode : TerminatorOpcode) : Rearranged (.terminator opcode) (.terminator opcode)

/-- A definition keeps its name when it is rearranged. -/
structure Definition.NamedRearranged (entry other : InstructionName × Definition) : Prop where
  name : other.1 = entry.1
  definition : entry.2.Rearranged other.2

/-- The functions of a module are rearranged one by one, and enumerated in any order. -/
def Module.Rearranged (m other : Module) : Prop :=
  Reordered FunctionDef.NamedRearranged m.functions other.functions

----------------------------------------------------------------------------------------------
-- Bodies
----------------------------------------------------------------------------------------------

namespace Block.Rearranged

variable {b other : Block}

/-- A rearranged block defines the same names in the same order. -/
theorem definitions (rearranged : b.Rearranged other)
    : List.Forall₂ Definition.NamedRearranged b.definitions other.definitions := by
  rw [Block.definitions, Block.definitions, rearranged.terminator]
  refine List.rel_append ?_ (.cons ⟨rfl, .terminator _⟩ .nil)
  refine List.rel_map ?_ rearranged.instrs
  exact fun _ _ same => ⟨same.name, .instruction same.opcode⟩

/-- A rearranged block makes the same calls in the same order. -/
theorem placedCalls_eq (rearranged : b.Rearranged other) : other.placedCalls = b.placedCalls := by
  have call : ∀ {i another : Instruction},
      i.Rearranged another → another.placedCall? = i.placedCall? := by
    rintro ⟨name, opcode, ty⟩ ⟨_, _, _⟩ ⟨rfl, same, rfl⟩
    cases same <;> rfl
  have calls : other.instrs.filterMap Instruction.placedCall?
      = b.instrs.filterMap Instruction.placedCall? :=
    filterMap_eq_of_pairs (fun same => call same) rearranged.instrs
  rw [Block.placedCalls, Block.placedCalls, rearranged.terminator, calls]

/-- A rearranged block returns the same. -/
theorem returned_eq (rearranged : b.Rearranged other) : other.returned? = b.returned? := by
  rw [returned?, returned?, rearranged.terminator]

end Block.Rearranged

namespace FunctionDef.Rearranged

variable {body other : FunctionDef}

/-- A rearranged body defines the same names. -/
theorem definitions (rearranged : body.Rearranged other)
    : Reordered Definition.NamedRearranged body.definitions other.definitions :=
  rearranged.blocks.flatMap fun same => .of_pairs same.definitions

/-- A rearranged body makes the same calls. -/
theorem placedCalls_perm (rearranged : body.Rearranged other)
    : other.placedCalls.Perm body.placedCalls :=
  rearranged.blocks.flatMap_perm fun same => .of_eq same.placedCalls_eq

/-- A rearranged body returns the same values. -/
theorem returned_perm (rearranged : body.Rearranged other)
    : other.returned.Perm body.returned := by
  rw [returned, returned, List.filterMap_eq_flatMap_toList, List.filterMap_eq_flatMap_toList]
  exact rearranged.blocks.flatMap_perm fun same => .of_eq (by rw [same.returned_eq])

end FunctionDef.Rearranged

----------------------------------------------------------------------------------------------
-- Modules
----------------------------------------------------------------------------------------------

/-- Listing the call sites of functions in another order leaves steps from parameters the same up to order. -/
theorem Graph.parameterStep_of_reordered {g other : Graph}
    (sites : ∀ f, (other.callGraph.callSites f).Perm (g.callGraph.callSites f)) (p : ParameterName)
    : (g.parameterStep p).SameUpToOrder (other.parameterStep p) := by
  have reordered := sites p.function
  refine ⟨?_, ?_⟩
  · rw [parameterStep_children, parameterStep_children]
    exact reordered.filterMap _
  · rw [Bool.eq_iff_iff, parameterStep_stops_iff, parameterStep_stops_iff,
      ← List.length_eq_zero_iff, ← List.length_eq_zero_iff, reordered.length_eq]
    simp only [reordered.mem_iff]

namespace Module.Rearranged

variable {m other : Module}

variable (rearranged : m.Rearranged other)

include rearranged

section Names

variable (names : m.DistinctNames)

include names

/-- Where names are distinct, a function has no body in both modules, or a rearranged one. -/
theorem body (f : FunctionName)
    : Option.Rel FunctionDef.Rearranged (m.body? f) (other.body? f) :=
  Reordered.lookup (fun same => same.function) (fun same => same.body) names rearranged f

/-- Functions keep the number of their parameters. -/
theorem arity_eq (f : FunctionName) : other.arity? f = m.arity? f := by
  have bodies := rearranged.body names f
  rw [arity?, arity?]
  generalize m.body? f = before, other.body? f = after at bodies
  cases bodies with
  | none => rfl
  | some same => rw [Option.map_some, Option.map_some, same.parameters]

/-- A function has the same call sites, in any order. -/
theorem callSites_perm (f : FunctionName)
    : ((CallGraph.ofModule other).callSites f).Perm ((CallGraph.ofModule m).callSites f) := by
  have calls : (other.sortedFunctions.flatMap fun entry => entry.2.placedCalls).Perm
      (m.sortedFunctions.flatMap fun entry => entry.2.placedCalls) := by
    refine (other.sortedFunctions_perm.flatMap_right _).trans ?_
    refine .trans ?_ (m.sortedFunctions_perm.symm.flatMap_right _)
    exact Reordered.flatMap_perm (fun same => same.body.placedCalls_perm) rearranged
  rw [callSites_eq, callSites_eq, rearranged.arity_eq names]
  cases m.arity? f with
  | none => exact .refl _
  | some count => exact calls.flatMap_right _

/-- A call leads to the same values in any order. -/
theorem callStep (callee : Callee)
    : ((Graph.ofModule m).callStep callee).SameUpToOrder
        ((Graph.ofModule other).callStep callee) := by
  simp only [Graph.callStep, Graph.calleeBody?, Graph.ofModule]
  cases callee.direct? with
  | none => exact .refl _
  | some f =>
      have bodies := rearranged.body names f
      simp only [Option.bind_some]
      generalize m.body? f = before, other.body? f = after at bodies
      cases bodies with
      | none => exact .refl _
      | some same => exact ⟨same.returned_perm, rfl⟩

/-- A definition leads to the same values in any order. -/
theorem definitionStep {d e : Definition} (same : d.Rearranged e)
    : ((Graph.ofModule m).definitionStep d).SameUpToOrder
        ((Graph.ofModule other).definitionStep e) := by
  have unchanged : ∀ d,
      ((Graph.ofModule m).definitionStep d).SameUpToOrder
        ((Graph.ofModule other).definitionStep d) := by
    intro d
    rw [Graph.definitionStep_eq, Graph.definitionStep_eq]
    cases d.call? with
    | none => exact .refl _
    | some c => exact rearranged.callStep names c.callee
  cases same with
  | terminator opcode => exact unchanged (.terminator opcode)
  | instruction same =>
      cases same with
      | same => exact unchanged _
      | phi reordered => exact ⟨reordered, rfl⟩
      | select => exact ⟨.swap _ _ _, rfl⟩

end Names

variable (once : m.DefinesOnce)

include once

/-- Where nothing is defined twice, an instruction has no definition in both modules, or a rearranged one. -/
theorem definition (name : InstructionName)
    : Option.Rel Definition.Rearranged ((Graph.ofModule m).definition? name)
        ((Graph.ofModule other).definition? name) := by
  have definitions : Reordered Definition.NamedRearranged m.definitions other.definitions :=
    Reordered.flatMap (fun same => same.body.definitions) rearranged
  exact definitions.reverse.lookup (fun same => same.name) (fun same => same.definition)
    once.reverse name

/-- The same casts stand in front of a value. -/
theorem canonicalize_eq
    : (Graph.ofModule other).canonicalize = (Graph.ofModule m).canonicalize := by
  refine Graph.canonicalize_eq_of_casts fun name => ?_
  have definitions := rearranged.definition once name
  generalize (Graph.ofModule m).definition? name = before,
    (Graph.ofModule other).definition? name = after at definitions
  cases definitions with
  | none => rfl
  | some same =>
      cases same with
      | terminator => rfl
      | instruction same => cases same <;> rfl

/-- A step back leads to the same values in any order. -/
theorem step (names : m.DistinctNames) (value : Operand)
    : ((Graph.ofModule m).step value).SameUpToOrder ((Graph.ofModule other).step value) := by
  refine Graph.step_related (.refl _) (fun p => ?_) (fun name => ?_) value
  · exact Graph.parameterStep_of_reordered (rearranged.callSites_perm names) p
  · have definitions := rearranged.definition once name
    generalize (Graph.ofModule m).definition? name = before,
      (Graph.ofModule other).definition? name = after at definitions
    cases definitions with
    | none => exact .none
    | some same => exact .some (rearranged.definitionStep names same)

end Module.Rearranged

/-- Where blocks and the values that flow into phis and selects stand makes no difference to a trace but for
the order of its origins, if no function and no instruction is defined twice.
-/
theorem Graph.trace_of_rearranged {m other : Module} (rearranged : m.Rearranged other)
    (names : m.DistinctNames) (once : m.DefinesOnce) (value : Operand)
    : let before := (Graph.ofModule m).trace value
      let after := (Graph.ofModule other).trace value
      after.origins.Perm before.origins
      ∧ after.visited.length = before.visited.length
      ∧ after.maxDepth = before.maxDepth := by
  have same : ((Graph.ofModule m).trace value).SameUpToOrder ((Graph.ofModule other).trace value) :=
    Graph.trace_sameUpToOrder (rearranged.canonicalize_eq once) (rearranged.step once names) value
  exact ⟨same.origins, same.visited.length_eq, same.maxDepth⟩

/-- A module whose main function chooses between a call, whose callee returns from two blocks, and the phi of
this call and null. Blocks and values stand in one of two orders.
-/
def choosing (swapped : Bool) : Module :=
  let pick : FunctionName := ⟨0, "pick"⟩
  let main : FunctionName := ⟨1, "main"⟩
  let arg : ParameterName := ⟨2, pick, "arg", 0⟩
  let left : BlockName := ⟨3, pick, "left"⟩
  let right : BlockName := ⟨4, pick, "right"⟩
  let entry : BlockName := ⟨5, main, "entry"⟩
  let made : InstructionName := ⟨6, right, 0⟩
  let called : InstructionName := ⟨7, entry, 0⟩
  let merged : InstructionName := ⟨8, entry, 1⟩
  let chosen : InstructionName := ⟨9, entry, 2⟩
  let returnsArg : Block := ⟨left, [], ⟨⟨10, left, 0⟩, .ret (some (.parameter arg)), .void⟩⟩
  let returnsMade : Block :=
    ⟨right, [⟨made, .alloca (.int 64 1), .pointer⟩],
      ⟨⟨11, right, 1⟩, .ret (some (.instruction made)), .void⟩⟩
  { name := "choosing"
    decls := []
    functions :=
      [ (pick, ⟨[arg], bif swapped then [returnsMade, returnsArg] else [returnsArg, returnsMade]⟩),
        (main,
          ⟨[],
            [ { name := entry
                instrs :=
                  [ ⟨called, .call ⟨.operand (.function pick), [.int 64 2], [.pointer]⟩, .pointer⟩,
                    ⟨merged,
                      .phi (bif swapped then [.null, .instruction called]
                        else [.instruction called, .null]),
                      .pointer⟩,
                    ⟨chosen,
                      bif swapped then .select (.int 1 1) (.instruction merged) (.instruction called)
                      else .select (.int 1 1) (.instruction called) (.instruction merged),
                      .pointer⟩ ]
                terminator := ⟨⟨12, entry, 3⟩, .ret (some (.instruction chosen)), .void⟩ } ]⟩) ]
    globals := [] }

/-- A block is a rearrangement of itself. -/
theorem Block.Rearranged.refl (b : Block) : b.Rearranged b :=
  ⟨rfl, List.forall₂_same.2 fun _ _ => ⟨rfl, .same _, rfl⟩, rfl⟩

/-- The chosen value has the same origins, at the same depth, in both orders. -/
theorem Graph.trace_of_rearranged_choosing
    : let chosen : Operand := .instruction ⟨9, ⟨5, ⟨1, "main"⟩, "entry"⟩, 2⟩
      let before := (Graph.ofModule (choosing false)).trace chosen
      let after := (Graph.ofModule (choosing true)).trace chosen
      (choosing false).Rearranged (choosing true)
      ∧ (choosing false).DistinctNames
      ∧ (choosing false).DefinesOnce
      ∧ (Graph.ofModule (choosing true)).step chosen ≠ (Graph.ofModule (choosing false)).step chosen
      ∧ after.origins.Perm before.origins
      ∧ after.visited.length = before.visited.length
      ∧ after.maxDepth = before.maxDepth := by
  intro chosen before after
  have rearranged : (choosing false).Rearranged (choosing true) := by
    refine .of_pairs (.cons ⟨rfl, rfl, ?_⟩ (.cons ⟨rfl, rfl, ?_⟩ .nil))
    · exact ⟨_, .cons (.refl _) (.cons (.refl _) .nil), .swap _ _ _⟩
    · refine .of_pairs (.cons ⟨rfl, .cons ?_ (.cons ?_ (.cons ?_ .nil)), rfl⟩ .nil)
      · exact ⟨rfl, .same _, rfl⟩
      · exact ⟨rfl, .phi (.swap _ _ _), rfl⟩
      · exact ⟨rfl, .select, rfl⟩
  have names : (choosing false).DistinctNames := by decide
  have once : (choosing false).DefinesOnce := by decide
  exact ⟨rearranged, names, once, by decide, Graph.trace_of_rearranged rearranged names once chosen⟩

/-- A trace has another outcome if the two blocks of a function that define an instruction change places: the last
one counts, so that first null is the origin and then the instruction itself.
-/
theorem Graph.trace_of_rearranged_changes
    : let f : FunctionName := ⟨0, "f"⟩
      let m := DefinedTwice.module [(f, [DefinedTwice.allocates f, DefinedTwice.loads f])]
      let other := DefinedTwice.module [(f, [DefinedTwice.loads f, DefinedTwice.allocates f])]
      let value : Operand := .instruction DefinedTwice.twice
      m.Rearranged other
      ∧ m.DistinctNames
      ∧ m.validate = .ok ()
      ∧ other.validate = .ok ()
      ∧ (Graph.ofModule m).trace value = ⟨[.null], 1, [.null, value]⟩
      ∧ (Graph.ofModule other).trace value = ⟨[value], 0, [value]⟩ := by
  intro f m other value
  have rearranged : m.Rearranged other :=
    .of_pairs (.cons ⟨rfl, rfl, _, .cons (.refl _) (.cons (.refl _) .nil), .swap _ _ _⟩ .nil)
  have names : m.DistinctNames := by decide
  exact ⟨rearranged, names, by decide, by decide, DefinedTwice.trace_loaded rfl,
    DefinedTwice.trace_allocated rfl⟩

end PointerOrigins
