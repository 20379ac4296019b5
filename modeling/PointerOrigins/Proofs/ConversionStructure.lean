import Mathlib.Data.List.Sigma
import PointerOrigins.Proofs.ConversionSuccess
import PointerOrigins.Proofs.EnumerationOrder

/-!
What a converted module keeps of its source. Everything stands in the same order and is named by its place,
so that no two names are the same. A local name stands for what defines it, wherever this is: names are
given to all results before any operand is converted, in the same order in which they are given to the
instructions.
-/

namespace PointerOrigins.Bitcode

----------------------------------------------------------------------------------------------
-- Definitions of local names
----------------------------------------------------------------------------------------------

/-- A local name is defined by a parameter, by an instruction or by an invoke. In the converted function,
that is what has the same place.
-/
inductive Function.Defines (f : Function) (body : FunctionDef) (id : LocalId) : Operand → Prop
  | parameter {position : Nat} {type : Ty} {p : ParameterName}
    (source : f.params[position]? = some (id, type)) (target : body.parameters[position]? = some p)
    : Defines f body id (.parameter p)
  | instruction {number index : Nat} {b : Block} {i : Instr} {converted : PointerOrigins.Block}
    {result : Instruction} (block : f.blocks[number]? = some b) (source : b.instrs[index]? = some i)
    (named : i.dest = some id) (convertedBlock : body.blocks[number]? = some converted)
    (target : converted.instrs[index]? = some result)
    : Defines f body id (.instruction result.name)
  | invoke {number : Nat} {b : Block} {converted : PointerOrigins.Block}
    (block : f.blocks[number]? = some b) (named : b.term.dest? = some id)
    (convertedBlock : body.blocks[number]? = some converted)
    : Defines f body id (.instruction converted.terminator.name)

/-- What a value means in a converted function. A local name means the one thing that defines it. -/
inductive Function.Means (f : Function) (symbols : Symbols) (body : FunctionDef) : Value → Operand → Prop
  | metadata : Means f symbols body .metadata .metadata
  | const {c : Const} {result : Constant} (converts : c.convert symbols = .ok result)
    : Means f symbols body (.const c) (.constant result)
  | defined {id : LocalId} {type : Ty} {x : Operand} (defines : f.Defines body id x)
    (only : ∀ y, f.Defines body id y → y = x)
    : Means f symbols body (.local id type) x

/-- Entries with the same index are paired. -/
theorem getElem?_of_pairs {α β : Type} {related : α → β → Prop} {entries : List α} {others : List β}
    (pairs : List.Forall₂ related entries others) {index : Nat} {a : α} (found : entries[index]? = some a)
    : ∃ b, others[index]? = some b ∧ related a b := by
  induction pairs generalizing index with
  | nil => cases found
  | @cons first other _ _ same _ ih =>
      cases index with
      | zero =>
          cases found
          exact ⟨other, rfl, same⟩
      | succ index => exact ih found

section Names

variable {refers : Value → Operand → Prop} {structs : Structs} {name : FunctionName} {f : Function}
  {body : FunctionDef}

/-- The blocks of a converted function are found under the same number. -/
theorem Function.Becomes.block (becomes : f.Becomes refers structs name body) {number : Nat} {b : Block}
    (found : f.blocks[number]? = some b)
    : ∃ converted,
        body.blocks[number]? = some converted ∧ Block.Becomes refers structs name (b, number) converted := by
  refine getElem?_of_pairs becomes.blocks ?_
  rw [List.getElem?_zipIdx, found, Nat.zero_add]
  rfl

/-- The instructions of a converted block are found under the same index. -/
theorem Block.Becomes.instr {entry : Block × Nat} {converted : PointerOrigins.Block}
    (becomes : Block.Becomes refers structs name entry converted) {index : Nat} {i : Instr}
    (found : entry.1.instrs[index]? = some i)
    : ∃ result, converted.instrs[index]? = some result
        ∧ Instr.Becomes refers structs converted.name (i, index) result := by
  refine getElem?_of_pairs becomes.instrs ?_
  rw [List.getElem?_zipIdx, found, Nat.zero_add]
  rfl

/-- The result with an index is that of an instruction, or that of the end behind the last one. -/
theorem Block.getElem?_results {b : Block} {index : Nat} {id : LocalId}
    : b.results[index]? = some (some id)
      ↔ (∃ i, b.instrs[index]? = some i ∧ i.dest = some id)
        ∨ index = b.instrs.length ∧ b.term.dest? = some id := by
  rcases Nat.lt_trichotomy index b.instrs.length with inside | last | behind
  · rw [results, List.getElem?_append_left (by rwa [List.length_map]), List.getElem?_map,
      Option.map_eq_some_iff]
    exact ⟨.inl, fun either => either.resolve_right fun last => by omega⟩
  · subst last
    simp [results]
  · have tooFar : b.results.length ≤ index := by
      rw [results, List.length_append, List.length_map, List.length_singleton]
      omega
    have other : index ≠ b.instrs.length := by omega
    simp [List.getElem?_eq_none tooFar, List.getElem?_eq_none behind.le, other]

/-- What stands for a local name is a parameter or a result, named by its place. -/
theorem Function.mem_locals_iff {id : LocalId} {x : Operand}
    : (id, x) ∈ f.locals name
      ↔ (∃ position type,
          f.params[position]? = some (id, type)
          ∧ .parameter (paramName name ((id, type), position)) = x)
        ∨ ∃ number b index,
            f.blocks[number]? = some b
            ∧ b.results[index]? = some (some id)
            ∧ .instruction (instrName (blockName name (b, number)) index) = x := by
  rw [locals, List.mem_reverse, List.mem_append]
  refine or_congr ?_ ?_
  · constructor
    · intro member
      obtain ⟨entry, inParams, same⟩ := List.mem_map.1 member
      cases same
      exact ⟨entry.2, entry.1.2, List.mem_zipIdx_iff_getElem?.1 inParams, rfl⟩
    · intro place
      obtain ⟨position, type, found, rfl⟩ := place
      exact List.mem_map.2 ⟨((id, type), position), List.mem_zipIdx_iff_getElem?.2 found, rfl⟩
  · constructor
    · intro member
      obtain ⟨entry, inBlocks, isLocal⟩ := List.mem_flatMap.1 member
      obtain ⟨result, inResults, found⟩ := List.mem_filterMap.1 isLocal
      obtain ⟨dest, isDest, same⟩ := Option.map_eq_some_iff.1 found
      cases same
      have place := List.mem_zipIdx_iff_getElem?.1 inResults
      rw [isDest] at place
      exact ⟨entry.2, entry.1, result.2, List.mem_zipIdx_iff_getElem?.1 inBlocks, place, rfl⟩
    · intro result
      obtain ⟨number, b, index, inBlocks, place, rfl⟩ := result
      refine List.mem_flatMap.2 ⟨(b, number), List.mem_zipIdx_iff_getElem?.2 inBlocks, ?_⟩
      exact List.mem_filterMap.2 ⟨(some id, index), List.mem_zipIdx_iff_getElem?.2 place, rfl⟩

/-- What stands for a local name is what defines it. -/
theorem Function.Becomes.defines_iff (becomes : f.Becomes refers structs name body) {id : LocalId}
    {x : Operand}
    : f.Defines body id x ↔ (id, x) ∈ f.locals name := by
  rw [Function.mem_locals_iff]
  constructor
  · intro defines
    cases defines with
    | @parameter position type p source target =>
        rw [becomes.parameters, List.getElem?_map, List.getElem?_zipIdx, source, Nat.zero_add] at target
        cases target
        exact .inl ⟨position, type, source, rfl⟩
    | @instruction number index b i converted result block source named convertedBlock target =>
        obtain ⟨same, found, becomesBlock⟩ := becomes.block block
        cases convertedBlock.symm.trans found
        obtain ⟨sameResult, foundResult, becomesInstr⟩ := becomesBlock.instr source
        cases target.symm.trans foundResult
        refine .inr ⟨number, b, index, block, Block.getElem?_results.2 (.inl ⟨i, source, named⟩), ?_⟩
        rw [becomesInstr.name, becomesBlock.name]
    | @invoke number b converted block named convertedBlock =>
        obtain ⟨same, found, becomesBlock⟩ := becomes.block block
        cases convertedBlock.symm.trans found
        refine .inr ⟨number, b, _, block, Block.getElem?_results.2 (.inr ⟨rfl, named⟩), ?_⟩
        rw [becomesBlock.terminator, becomesBlock.name]
  · intro stands
    rcases stands with ⟨position, type, source, rfl⟩ | ⟨number, b, index, block, place, rfl⟩
    · refine .parameter source ?_
      rw [becomes.parameters, List.getElem?_map, List.getElem?_zipIdx, source, Nat.zero_add]
      rfl
    · obtain ⟨converted, convertedBlock, becomesBlock⟩ := becomes.block block
      rcases Block.getElem?_results.1 place with ⟨i, source, named⟩ | ⟨rfl, named⟩
      · obtain ⟨result, target, becomesInstr⟩ := becomesBlock.instr source
        rw [← becomesBlock.name]
        have defined := Function.Defines.instruction block source named convertedBlock target
        rwa [becomesInstr.name] at defined
      · have defined := Function.Defines.invoke block named convertedBlock
        rwa [becomesBlock.terminator, becomesBlock.name] at defined

/-- Where local names are distinct, each of them means what is looked up for it. -/
theorem Function.Becomes.means (becomes : f.Becomes refers structs name body)
    (distinct : f.localNames.Nodup) {symbols : Symbols} {v : Value} {x : Operand}
    (isReference : Context.Refers ⟨symbols, structs, f.locals name⟩ v x)
    : f.Means symbols body v x := by
  cases v with
  | metadata =>
      cases isReference
      exact .metadata
  | «local» id type =>
      simp only [Context.Refers, Context.value] at isReference
      split at isReference
      · next found =>
          cases isReference
          have unique : ((f.locals name).map Prod.fst).Nodup := by
            rw [f.keys_locals]
            exact List.nodup_reverse.2 distinct
          refine .defined (becomes.defines_iff.2 (Graph.mem_of_lookup found)) fun y defines => ?_
          have sameKey := lookup_of_mem unique (becomes.defines_iff.1 defines)
          exact Option.some.inj (sameKey.symm.trans found)
      · cases isReference
  | const c =>
      obtain ⟨result, converts, rfl⟩ := map_eq_ok_iff.1 (lift_eq_ok_iff.1 isReference)
      exact .const converts

end Names

----------------------------------------------------------------------------------------------
-- Distinct names
----------------------------------------------------------------------------------------------

/-- What is put together from parts is distinct if each part is and everything tells which part it is of. -/
theorem nodup_flatMap_of_owner {α β γ : Type} {entries : List α} {parts : α → List β} (key : α → γ)
    (owner : β → γ) (distinct : (entries.map key).Nodup)
    (each : ∀ a ∈ entries, (parts a).Nodup ∧ ∀ b ∈ parts a, owner b = key a)
    : (entries.flatMap parts).Nodup := by
  refine List.nodup_flatMap.2 ⟨fun a member => (each a member).1, ?_⟩
  refine (List.pairwise_map.1 distinct).imp_of_mem fun {a b} isFirst isSecond differ x inFirst inSecond => ?_
  exact differ (((each a isFirst).2 x inFirst).symm.trans ((each b isSecond).2 x inSecond))

section Distinct

variable {refers : Value → Operand → Prop} {structs : Structs} {name : FunctionName} {f : Function}
  {body : FunctionDef}

/-- The parameters of a converted function are distinct and belong to it. -/
theorem Function.Becomes.distinct_parameters (becomes : f.Becomes refers structs name body)
    : body.parameters.Nodup ∧ ∀ p ∈ body.parameters, p.function = name := by
  rw [becomes.parameters]
  refine ⟨.of_map ParameterName.position ?_, ?_⟩
  · rw [List.map_map]
    exact List.nodup_zipIdx_map_snd f.params
  · intro p member
    obtain ⟨entry, _, rfl⟩ := List.mem_map.1 member
    rfl

/-- The blocks of a converted function have distinct names and belong to it. -/
theorem Function.Becomes.distinct_blocks (becomes : f.Becomes refers structs name body)
    : (body.blocks.map PointerOrigins.Block.name).Nodup
      ∧ ∀ b ∈ body.blocks.map PointerOrigins.Block.name, b.function = name := by
  have names : body.blocks.map PointerOrigins.Block.name = f.blocks.zipIdx.map (blockName name) :=
    map_eq_of_pairs (fun same => same.name) becomes.blocks
  rw [names]
  refine ⟨.of_map BlockName.id ?_, ?_⟩
  · rw [List.map_map]
    exact List.nodup_zipIdx_map_snd f.blocks
  · intro b member
    obtain ⟨entry, _, rfl⟩ := List.mem_map.1 member
    rfl

/-- The instructions and ends of a converted function have distinct names and belong to it. -/
theorem Function.Becomes.distinct_definitions (becomes : f.Becomes refers structs name body)
    : (body.definitions.map Prod.fst).Nodup
      ∧ ∀ i ∈ body.definitions.map Prod.fst, i.function = name := by
  obtain ⟨blocksDistinct, blocksOwned⟩ := becomes.distinct_blocks
  have places : ∀ b ∈ body.blocks,
      (b.definitions.map Prod.fst).Nodup ∧ ∀ i ∈ b.definitions.map Prod.fst, i.block = b.name := by
    intro b member
    obtain ⟨entry, _, same⟩ := exists_of_pairs becomes.blocks.flip member
    rw [same.names, same.name]
    refine ⟨.of_map InstructionName.index ?_, ?_⟩
    · rw [List.map_map]
      exact (List.map_id _).symm ▸ List.nodup_range
    · intro i isName
      obtain ⟨index, _, rfl⟩ := List.mem_map.1 isName
      rfl
  rw [FunctionDef.definitions, List.map_flatMap]
  refine ⟨?_, ?_⟩
  · exact nodup_flatMap_of_owner PointerOrigins.Block.name InstructionName.block blocksDistinct places
  · intro i isName
    obtain ⟨b, member, inBlock⟩ := List.mem_flatMap.1 isName
    rw [InstructionName.function, (places b member).2 i inBlock]
    exact blocksOwned b.name (List.mem_map_of_mem member)

end Distinct

----------------------------------------------------------------------------------------------
-- Modules
----------------------------------------------------------------------------------------------

namespace Module

variable {m : Module} {converted : PointerOrigins.Module}

/-- A module with distinct symbols and with distinct local names in each function is converted to one that
has its functions, declarations and globals in order, by symbol. Functions have the same parameters, blocks
and instructions in order, named by their places. Operations are the same, place by place: each argument has
its type beside it, and each local name that is converted stands for the one parameter, instruction or
invoke that defines it. No two functions, parameters, blocks or instructions of the module have the same
name.
-/
theorem convert_keeps_structure (distinct : m.DistinctSymbols)
    (distinctLocals : ∀ f ∈ m.functions, f.localNames.Nodup) (converts : m.convert = .ok converted)
    : (converted.functions.map fun entry => entry.1.symbol) = m.functions.map Function.name
      ∧ converted.decls.map FunctionName.symbol = m.decls
      ∧ converted.globals.map GlobalName.symbol = m.globals
      ∧ (∃ symbols,
          m.symbols = .ok symbols
          ∧ List.Forall₂
              (fun f entry => f.Becomes (f.Means symbols entry.2) m.structs entry.1 entry.2)
              m.functions converted.functions)
      ∧ (converted.functions.map Prod.fst ++ converted.decls).Nodup
      ∧ (converted.functions.flatMap fun entry => entry.2.parameters).Nodup
      ∧ (converted.functions.flatMap fun entry => entry.2.blocks.map PointerOrigins.Block.name).Nodup
      ∧ converted.DefinesOnce := by
  obtain ⟨symbols, resolved, becomes⟩ :=
    (convertUnchecked_eq_ok_iff distinct).1 ((convert_eq_ok_iff distinct).1 converts)
  have functionSymbols
      : (converted.functions.map fun entry => entry.1.symbol) = m.functions.map Function.name :=
    map_eq_of_pairs (fun pair => pair.named.2) becomes.functions
  have declSymbols : converted.decls.map FunctionName.symbol = m.decls := by
    rw [map_eq_of_pairs (f := id) (fun pair => pair.2) becomes.decls, List.map_id]
  have globalSymbols : converted.globals.map GlobalName.symbol = m.globals := by
    rw [← becomes.globals, List.map_map]
    exact List.map_id _
  have names : (converted.functions.map Prod.fst ++ converted.decls).Nodup := by
    refine .of_map FunctionName.symbol ?_
    rw [List.map_append, List.map_map, declSymbols]
    exact functionSymbols ▸ (List.nodup_append.1 (List.nodup_append.1 distinct).1).1
  have functionNames := (List.nodup_append.1 names).1
  have bodies : ∀ entry ∈ converted.functions, ∃ f, m.Converts symbols f entry := by
    intro entry member
    obtain ⟨f, _, pair⟩ := exists_of_pairs becomes.functions.flip member
    exact ⟨f, pair⟩
  refine ⟨functionSymbols, declSymbols, globalSymbols, ⟨symbols, resolved, ?_⟩, names, ?_, ?_, ?_⟩
  · refine ((List.forall₂_and_left _ _).2 ⟨distinctLocals, becomes.functions⟩).imp fun f entry pair => ?_
    exact pair.2.body.mono fun v x => pair.2.body.means pair.1
  · refine nodup_flatMap_of_owner Prod.fst ParameterName.function functionNames fun entry member => ?_
    obtain ⟨f, pair⟩ := bodies entry member
    exact pair.body.distinct_parameters
  · refine nodup_flatMap_of_owner Prod.fst BlockName.function functionNames fun entry member => ?_
    obtain ⟨f, pair⟩ := bodies entry member
    exact pair.body.distinct_blocks
  · rw [PointerOrigins.Module.DefinesOnce, PointerOrigins.Module.definitions, List.map_flatMap]
    refine nodup_flatMap_of_owner Prod.fst InstructionName.function functionNames fun entry member => ?_
    obtain ⟨f, pair⟩ := bodies entry member
    exact pair.body.distinct_definitions

/-- What the function that uses a value before its definition is converted to. -/
def usedBeforeConverted : PointerOrigins.Module :=
  let walk : FunctionName := ⟨0, "walk"⟩
  let start : ParameterName := ⟨0, walk, "start", 0⟩
  let entry : BlockName := ⟨0, walk, "entry"⟩
  let last : BlockName := ⟨1, walk, "4"⟩
  let phi : InstructionName := ⟨0, entry, 0⟩
  let next : InstructionName := ⟨1, entry, 1⟩
  let result : InstructionName := ⟨3, entry, 3⟩
  { name := "used before"
    decls := [⟨1, "stop"⟩]
    functions :=
      [ (walk,
          ⟨[start],
            [ { name := entry
                instrs :=
                  [ ⟨phi, .phi [.parameter start, .instruction next], .pointer⟩,
                    ⟨next, .getElementPtr (.instruction phi) [.int 64 1], .pointer⟩,
                    ⟨⟨2, entry, 2⟩, .other, .pointer⟩ ]
                terminator :=
                  ⟨result,
                    .invoke
                      ⟨.operand (.constant (.bitCast (.function walk))), [.instruction next], [.pointer]⟩,
                    .pointer⟩ },
              { name := last
                instrs := []
                terminator := ⟨⟨0, last, 0⟩, .ret (some (.instruction result)), .void⟩ } ]⟩) ]
    globals := [⟨"table"⟩] }

/-- The phi stands before what it takes, and the return behind the invoke; both refer to what they name. -/
theorem convert_keeps_structure_usedBefore
    : usedBefore.DistinctSymbols
      ∧ (∀ f ∈ usedBefore.functions, f.localNames.Nodup)
      ∧ usedBefore.convert = .ok usedBeforeConverted
      ∧ usedBeforeConverted.DefinesOnce
      ∧ ∃ symbols,
          usedBefore.symbols = .ok symbols
          ∧ List.Forall₂
              (fun f entry => f.Becomes (f.Means symbols entry.2) usedBefore.structs entry.1 entry.2)
              usedBefore.functions usedBeforeConverted.functions := by
  have distinct : usedBefore.DistinctSymbols := by
    rw [DistinctSymbols]
    decide
  have distinctLocals : ∀ f ∈ usedBefore.functions, f.localNames.Nodup := by decide
  have converts : usedBefore.convert = .ok usedBeforeConverted := by decide +kernel
  obtain ⟨_, _, _, functions, _, _, _, once⟩ :=
    convert_keeps_structure distinct distinctLocals converts
  exact ⟨distinct, distinctLocals, converts, once, functions⟩

end Module

end PointerOrigins.Bitcode
