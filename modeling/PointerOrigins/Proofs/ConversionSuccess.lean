import PointerOrigins.Proofs.ConvertedModules
import PointerOrigins.Proofs.ResolvedValues

/-!
When a module can be converted: if its aliases are known and every value that is converted is in scope. Once
it is converted it passes its check, since what a symbol stands for, aliases included, is made of functions
and globals that the module has.
-/

namespace PointerOrigins.Bitcode

----------------------------------------------------------------------------------------------
-- Values in scope
----------------------------------------------------------------------------------------------

/-- The names of the results of a block, its end included. -/
def Block.results (b : Block) : List (Option LocalId) :=
  b.instrs.map Instr.dest ++ [b.term.dest?]

/-- The names of the parameters of a function, and of the results of all its blocks. -/
def Function.localNames (f : Function) : List LocalId :=
  f.params.map Prod.fst ++ f.blocks.flatMap fun b => b.results.filterMap id

/-- The values that are converted in a function. -/
def Function.values (f : Function) : List Value :=
  f.blocks.flatMap fun b => b.instrs.flatMap (fun i => i.op.values) ++ b.term.values

/-- A value is in scope: a local name is defined somewhere in the function, and the symbols that a constant
refers to are there.
-/
def Value.InScope (m : Module) (f : Function) : Value → Prop
  | .metadata => True
  | .local name _ => name ∈ f.localNames
  | .const c => ∀ s ∈ c.references, s ∈ m.ownNames ++ m.aliases.map Prod.fst

instance (m : Module) (f : Function) : (v : Value) → Decidable (v.InScope m f)
  | .metadata => inferInstanceAs (Decidable True)
  | .local name _ => inferInstanceAs (Decidable (name ∈ f.localNames))
  | .const c => inferInstanceAs (Decidable (∀ s ∈ c.references, s ∈ m.ownNames ++ m.aliases.map Prod.fst))

/-- The types that a conversion asks for exist. -/
structure Block.Typed (structs : Structs) (b : Block) : Prop where
  instrs : ∀ i ∈ b.instrs, (i.op.type? structs).isSome
  instrArguments : ∀ i ∈ b.instrs, ∀ v ∈ i.op.arguments, (v.type? structs).isSome
  term : (b.term.type? structs).isSome
  termArguments : ∀ v ∈ b.term.arguments, (v.type? structs).isSome

instance (structs : Structs) (b : Block) : Decidable (b.Typed structs) :=
  decidable_of_iff
    ((∀ i ∈ b.instrs, (i.op.type? structs).isSome)
      ∧ (∀ i ∈ b.instrs, ∀ v ∈ i.op.arguments, (v.type? structs).isSome)
      ∧ (b.term.type? structs).isSome
      ∧ ∀ v ∈ b.term.arguments, (v.type? structs).isSome)
    ⟨fun ⟨instrs, instrArguments, term, termArguments⟩ => ⟨instrs, instrArguments, term, termArguments⟩,
      fun typed => ⟨typed.instrs, typed.instrArguments, typed.term, typed.termArguments⟩⟩

/-- All code of a module is well typed, as far as a conversion asks for it. -/
def Module.Typed (m : Module) : Prop :=
  ∀ f ∈ m.functions, ∀ b ∈ f.blocks, b.Typed m.structs

/-- The names that stand for a local value. -/
theorem Function.keys_locals (f : Function) (name : FunctionName)
    : (f.locals name).map Prod.fst = f.localNames.reverse := by
  have ofBlock : ∀ entry : Block × Nat,
      (blockLocals name entry).map Prod.fst = entry.1.results.filterMap id := by
    intro entry
    conv_rhs => rw [← List.zipIdx_map_fst 0 entry.1.results, List.filterMap_map]
    rw [blockLocals, List.map_filterMap]
    refine List.filterMap_congr fun result _ => ?_
    simp [Function.comp_def]
  have ofBlocks : f.blocks.zipIdx.flatMap (fun entry => entry.1.results.filterMap id)
      = f.blocks.flatMap fun b => b.results.filterMap id := by
    conv_rhs => rw [← List.zipIdx_map_fst 0 f.blocks, List.flatMap_map]
  have ofParams : f.params.zipIdx.map (fun entry => entry.1.1) = f.params.map Prod.fst := by
    conv_rhs => rw [← List.zipIdx_map_fst 0 f.params, List.map_map]
    rfl
  rw [locals, localNames, List.map_reverse, List.map_append, List.map_map, List.map_flatMap]
  simp only [ofBlock, ofBlocks, Function.comp_def, ofParams]

/-- A value refers to something if it is in scope. -/
theorem exists_refers_iff {m : Module} {symbols : Symbols} (resolved : m.symbols = .ok symbols)
    (f : Function) (name : FunctionName) (v : Value)
    : (∃ x, Context.Refers ⟨symbols, m.structs, f.locals name⟩ v x) ↔ v.InScope m f := by
  cases v with
  | metadata => exact ⟨fun _ => trivial, fun _ => ⟨_, rfl⟩⟩
  | «local» id type =>
      rw [Value.InScope, ← List.mem_reverse, ← f.keys_locals name, ← exists_lookup_iff]
      simp only [Context.Refers, Context.value]
      cases (f.locals name).lookup id <;> simp [lift, Except.mapError]
  | const c =>
      simp only [Value.InScope, ← Module.keys_symbols resolved, ← c.convert_ok_iff, Context.Refers,
        Context.value, lift_eq_ok_iff, exists_map_ok_iff]

----------------------------------------------------------------------------------------------
-- Bodies that can be converted
----------------------------------------------------------------------------------------------

section Bodies

variable {refers : Value → Operand → Prop} {structs : Structs} {name : FunctionName}

/-- The operands of a block that is converted are what its values refer to, in order. -/
theorem Block.Becomes.operands {entry : Block × Nat} {b : PointerOrigins.Block}
    (becomes : Block.Becomes refers structs name entry b)
    : List.Forall₂ refers (entry.1.instrs.flatMap (fun i => i.op.values) ++ entry.1.term.values)
        b.operands := by
  have instrs : List.Forall₂ refers (entry.1.instrs.zipIdx.flatMap fun e => e.1.op.values)
      (b.instrs.flatMap fun i => i.opcode.operands) :=
    List.rel_flatMap becomes.instrs fun _ _ same => same.opcode.operands
  have values : entry.1.instrs.zipIdx.flatMap (fun e => e.1.op.values)
      = entry.1.instrs.flatMap fun i => i.op.values := by
    conv_rhs => rw [← List.zipIdx_map_fst 0 entry.1.instrs, List.flatMap_map]
  have listed : b.operands
      = b.instrs.flatMap (fun i => i.opcode.operands) ++ b.terminator.opcode.operands := by
    rw [PointerOrigins.Block.operands, PointerOrigins.Block.definitions, List.flatMap_append,
      List.flatMap_map, List.flatMap_singleton]
    rfl
  rw [listed, ← values]
  exact List.rel_append instrs becomes.opcode.operands

/-- The operands of a function that is converted are what its values refer to, in order. -/
theorem Function.Becomes.operands {f : Function} {body : FunctionDef}
    (becomes : f.Becomes refers structs name body)
    : List.Forall₂ refers f.values body.operands := by
  have blocks := List.rel_flatMap becomes.blocks fun _ _ same => same.operands
  have values : f.values = f.blocks.zipIdx.flatMap fun entry =>
      entry.1.instrs.flatMap (fun i => i.op.values) ++ entry.1.term.values := by
    conv_lhs => rw [values, ← List.zipIdx_map_fst 0 f.blocks, List.flatMap_map]
  rw [values]
  exact blocks

/-- What stands for a local name is a local value of the converted function. -/
theorem Function.Becomes.locals {f : Function} {body : FunctionDef}
    (becomes : f.Becomes refers structs name body)
    : ∀ entry ∈ f.locals name, ∃ l ∈ body.locals, entry.2 = .local l := by
  intro entry member
  rcases List.mem_append.1 (List.mem_reverse.1 member) with isParam | isResult
  · obtain ⟨param, inParams, rfl⟩ := List.mem_map.1 isParam
    refine ⟨_, List.mem_append_left _ (List.mem_map_of_mem ?_), rfl⟩
    rw [becomes.parameters]
    exact List.mem_map_of_mem inParams
  · obtain ⟨source, inBlocks, isLocal⟩ := List.mem_flatMap.1 isResult
    obtain ⟨b, inBody, converted⟩ := exists_of_pairs becomes.blocks inBlocks
    obtain ⟨result, inResults, found⟩ := List.mem_filterMap.1 isLocal
    obtain ⟨dest, _, rfl⟩ := Option.map_eq_some_iff.1 found
    have named : instrName (blockName name source) result.2 ∈ b.definitions.map Prod.fst := by
      have index := List.snd_lt_of_mem_zipIdx inResults
      rw [List.length_append, List.length_map, List.length_singleton] at index
      rw [converted.names]
      exact List.mem_map_of_mem (List.mem_range.2 index)
    obtain ⟨d, inBlock, same⟩ := List.mem_map.1 named
    refine ⟨_, List.mem_append_right _ (List.mem_map.2 ⟨d, ?_, rfl⟩), by rw [same]; rfl⟩
    exact List.mem_flatMap.2 ⟨b, inBody, inBlock⟩

/-- A type that exists is given. -/
theorem exists_summary {type : Option Ty} (typed : type.isSome) : ∃ ty, type.map Ty.summary = some ty := by
  rwa [← Option.isSome_iff_exists, Option.isSome_map]

/-- Arguments that have a type are given it. -/
theorem exists_hasTy {args : List Value} (typed : ∀ v ∈ args, (v.type? structs).isSome)
    : ∀ v ∈ args, ∃ ty, v.HasTy structs ty := by
  intro v member
  simp only [Value.hasTy_iff]
  exact exists_summary (typed v member)

/-- A block can be converted if each value of it refers to something and the types exist. -/
theorem Block.exists_becomes {entry : Block × Nat} (typed : entry.1.Typed structs)
    (each : ∀ v ∈ entry.1.instrs.flatMap (fun i => i.op.values) ++ entry.1.term.values, ∃ x, refers v x)
    : ∃ b, Block.Becomes refers structs name entry b := by
  obtain ⟨inInstrs, inTerm⟩ := List.forall_mem_append.1 each
  obtain ⟨ty, hasTy⟩ := exists_summary typed.term
  obtain ⟨opcode, becomes⟩ := End.exists_becomes inTerm (exists_hasTy typed.termArguments)
  have instr : ∀ e ∈ entry.1.instrs.zipIdx,
      ∃ i, Instr.Becomes refers structs (blockName name entry) e i := by
    intro e member
    have inBlock := List.fst_mem_of_mem_zipIdx member
    obtain ⟨ty, hasTy⟩ := exists_summary (typed.instrs e.1 inBlock)
    obtain ⟨opcode, becomes⟩ := Op.exists_becomes
      (fun v isValue => inInstrs v (List.mem_flatMap.2 ⟨e.1, inBlock, isValue⟩))
      (exists_hasTy (typed.instrArguments e.1 inBlock))
    exact ⟨⟨_, opcode, ty⟩, rfl, becomes, hasTy⟩
  obtain ⟨instrs, converted⟩ := exists_forall₂ instr
  exact ⟨⟨blockName name entry, instrs, ⟨instrName (blockName name entry) entry.1.instrs.length, opcode, ty⟩⟩,
    rfl, converted, rfl, becomes, hasTy⟩

/-- A function can be converted if each value of it refers to something and the types exist. -/
theorem Function.exists_becomes {f : Function} (name : FunctionName)
    (typed : ∀ b ∈ f.blocks, b.Typed structs) (each : ∀ v ∈ f.values, ∃ x, refers v x)
    : ∃ body, f.Becomes refers structs name body := by
  have block : ∀ entry ∈ f.blocks.zipIdx, ∃ b, Block.Becomes refers structs name entry b := by
    intro entry member
    have inBody := List.fst_mem_of_mem_zipIdx member
    exact Block.exists_becomes (typed entry.1 inBody) fun v isValue =>
      each v (List.mem_flatMap.2 ⟨entry.1, inBody, isValue⟩)
  obtain ⟨blocks, converted⟩ := exists_forall₂ block
  exact ⟨⟨_, blocks⟩, rfl, converted⟩

end Bodies

----------------------------------------------------------------------------------------------
-- Modules that pass their check
----------------------------------------------------------------------------------------------

/-- A constant refers to a function that the module knows and addresses a global that it has, if any. -/
def ResolvesIn (converted : PointerOrigins.Module) (c : Constant) : Prop :=
  (∀ f, c.function? = some f → converted.knowsFunction f = true)
  ∧ ∀ g, c.global? = some g → g ∈ converted.globals

/-- A constant that refers to nothing resolves. -/
theorem resolvesIn_of_none {converted : PointerOrigins.Module} {c : Constant} (function : c.function? = none)
    (global : c.global? = none)
    : ResolvesIn converted c := by
  simp [ResolvesIn, function, global]

/-- What a constant is converted to resolves if what symbols stand for does. -/
theorem Const.convert_resolves {converted : PointerOrigins.Module} {symbols : Symbols}
    (resolves : ∀ entry ∈ symbols, ResolvesIn converted entry.2)
    : ∀ (c : Const) {result : Constant}, c.convert symbols = .ok result → ResolvesIn converted result := by
  intro c result converts
  cases c with
  | ref symbol type =>
      rw [convert] at converts
      split at converts
      · next found =>
          cases converts
          exact resolves _ (Graph.mem_of_lookup found)
      · cases converts
  | array element elements =>
      rw [convert] at converts
      split at converts
      · cases converts
        exact resolvesIn_of_none rfl rfl
      · obtain ⟨inner, _, rfl⟩ := map_eq_ok_iff.1 converts
        exact resolvesIn_of_none rfl rfl
  | struct fields =>
      obtain ⟨inner, _, rfl⟩ := map_eq_ok_iff.1 converts
      exact resolvesIn_of_none rfl rfl
  | cast kind value type =>
      cases kind with
      | trunc =>
          cases converts
          exact resolvesIn_of_none rfl rfl
      | addrSpaceCast =>
          obtain ⟨inner, converted, rfl⟩ := map_eq_ok_iff.1 converts
          have inside := Const.convert_resolves resolves value converted
          exact ⟨inside.1, inside.2⟩
      | bitCast =>
          obtain ⟨inner, converted, rfl⟩ := map_eq_ok_iff.1 converts
          have inside := Const.convert_resolves resolves value converted
          exact ⟨inside.1, inside.2⟩
      | _ =>
          obtain ⟨inner, _, rfl⟩ := map_eq_ok_iff.1 converts
          exact resolvesIn_of_none rfl rfl
  | getElementPtr address indices =>
      obtain ⟨inner, converted, rfl⟩ := map_eq_ok_iff.1 converts
      have inside := Const.convert_resolves resolves address converted
      exact ⟨fun _ same => (by cases same), inside.2⟩
  | _ =>
      cases converts
      exact resolvesIn_of_none rfl rfl

namespace Module

variable {m : Module} {symbols : Symbols} {converted : PointerOrigins.Module}

/-- A converted module knows all functions and declarations of its source. -/
theorem Becomes.knowsFunction (becomes : m.Becomes symbols converted) (distinct : m.DistinctSymbols)
    {f : FunctionName} (named : f ∈ m.functionNames)
    : converted.knowsFunction f = true := by
  have unique : (m.functionNames.map FunctionName.symbol).Nodup := by
    rw [m.symbols_functionNames]
    exact (List.nodup_append.1 (List.nodup_append.1 distinct).1).1
  have isFunction : f.symbol ∈ m.functions.map Function.name ++ m.decls := by
    rw [← m.symbols_functionNames]
    exact List.mem_map_of_mem named
  rw [PointerOrigins.Module.knowsFunction, Bool.or_eq_true]
  rcases List.mem_append.1 isFunction with defined | declared
  · obtain ⟨source, inSource, sameSymbol⟩ := List.mem_map.1 defined
    obtain ⟨entry, inConverted, converts⟩ := exists_of_pairs becomes.functions inSource
    obtain rfl := List.inj_on_of_nodup_map unique converts.named.1 named
      (converts.named.2.trans sameSymbol)
    exact .inl (List.lookup_isSome_iff.2 ⟨entry, inConverted, beq_self_eq_true _⟩)
  · obtain ⟨d, inConverted, isName, sameSymbol⟩ := exists_of_pairs becomes.decls declared
    obtain rfl := List.inj_on_of_nodup_map unique isName named sameSymbol
    exact .inr (List.contains_iff_mem.2 inConverted)

/-- What symbols stand for, aliases included, resolves in the converted module. -/
theorem Becomes.resolves (becomes : m.Becomes symbols converted) (distinct : m.DistinctSymbols)
    (resolved : m.symbols = .ok symbols)
    : ∀ entry ∈ symbols, ResolvesIn converted entry.2 := by
  have own : ∀ entry ∈ m.ownSymbols, ResolvesIn converted entry.2 := by
    intro entry member
    rcases List.mem_append.1 (List.mem_reverse.1 member) with isFunction | isGlobal
    · obtain ⟨f, named, rfl⟩ := List.mem_map.1 isFunction
      refine ⟨fun g same => ?_, fun _ same => (by cases same)⟩
      cases same
      exact becomes.knowsFunction distinct named
    · obtain ⟨symbol, has, rfl⟩ := List.mem_map.1 isGlobal
      refine ⟨fun _ same => (by cases same), fun g same => ?_⟩
      cases same
      rw [← becomes.globals]
      exact List.mem_map_of_mem has
  have resolutions := (resolveAliases_ok resolved).1
  clear resolved becomes
  induction resolutions with
  | refl => exact own
  | tail _ resolution ih =>
      cases resolution with
      | resolve _ converts => exact List.forall_mem_cons.2 ⟨Const.convert_resolves ih _ converts, ih⟩

/-- A module that is converted passes its check. -/
theorem Becomes.valid (becomes : m.Becomes symbols converted) (distinct : m.DistinctSymbols)
    (resolved : m.symbols = .ok symbols)
    : converted.validate = .ok () := by
  rw [PointerOrigins.Module.validate_eq_ok_iff]
  intro entry member op isOperand
  obtain ⟨f, _, converts⟩ := exists_of_pairs becomes.functions.flip member
  obtain ⟨v, _, refers⟩ := exists_of_pairs converts.body.operands.flip isOperand
  cases v with
  | metadata =>
      cases refers
      rfl
  | «local» id type =>
      simp only [Context.value] at refers
      split at refers
      · next found =>
          cases refers
          obtain ⟨l, isLocal, same⟩ := converts.body.locals _ (Graph.mem_of_lookup found)
          cases same
          exact if_pos (List.contains_iff_mem.2 isLocal)
      · cases refers
  | const c =>
      obtain ⟨result, converted, rfl⟩ := map_eq_ok_iff.1 (lift_eq_ok_iff.1 refers)
      exact PointerOrigins.Module.operandError_constant_iff.2
        (Const.convert_resolves (becomes.resolves distinct resolved) c converted)

/-- A module with distinct symbols can be converted if its aliases are known and what is converted in its
functions is in scope.
-/
theorem exists_becomes_iff (typed : m.Typed) (resolved : m.symbols = .ok symbols)
    : (∃ converted, m.Becomes symbols converted) ↔ ∀ f ∈ m.functions, ∀ v ∈ f.values, v.InScope m f := by
  constructor
  · intro succeeds f member v isValue
    obtain ⟨converted, becomes⟩ := succeeds
    obtain ⟨entry, _, converts⟩ := exists_of_pairs becomes.functions member
    obtain ⟨x, _, refers⟩ := exists_of_pairs converts.body.operands isValue
    exact (exists_refers_iff resolved f entry.1 v).1 ⟨x, refers⟩
  · intro inScope
    have named : ∀ symbol ∈ m.functions.map Function.name ++ m.decls,
        ∃ f, f ∈ m.functionNames ∧ f.symbol = symbol := by
      intro symbol isFunction
      rw [← m.symbols_functionNames] at isFunction
      exact List.mem_map.1 isFunction
    have function : ∀ f ∈ m.functions, ∃ entry, m.Converts symbols f entry := by
      intro f member
      obtain ⟨name, isName⟩ := named f.name (List.mem_append_left _ (List.mem_map_of_mem member))
      obtain ⟨body, becomes⟩ := Function.exists_becomes name (typed f member)
        fun v isValue => (exists_refers_iff resolved f name v).2 (inScope f member v isValue)
      exact ⟨(name, body), isName, becomes⟩
    obtain ⟨functions, converts⟩ := exists_forall₂ function
    obtain ⟨decls, declared⟩ :=
      exists_forall₂ fun symbol member => named symbol (List.mem_append_right _ member)
    exact ⟨⟨m.name, decls, functions, m.globals.map GlobalName.mk⟩, rfl, converts, declared, rfl⟩

/-- The check at the end rejects no module with distinct symbols that got so far. -/
theorem convert_eq_ok_iff (distinct : m.DistinctSymbols)
    : m.convert = .ok converted ↔ m.convertUnchecked = .ok converted := by
  simp only [convert, bind_eq_ok_iff, pure_eq_ok_iff, lift_eq_ok_iff]
  constructor
  · intro checked
    obtain ⟨other, unchecked, _, _, rfl⟩ := checked
    exact unchecked
  · intro unchecked
    obtain ⟨symbols, resolved, becomes⟩ := (convertUnchecked_eq_ok_iff distinct).1 unchecked
    exact ⟨converted, unchecked, (), becomes.valid distinct resolved, rfl⟩

/-- A module with distinct symbols, whose code is well typed, can be converted if and only if every alias
refers to known symbols only and every value that is converted is in scope. The check at the end rejects no
module that got so far.
-/
theorem convert_succeeds_iff (distinct : m.DistinctSymbols) (typed : m.Typed)
    : ((∃ converted, m.convert = .ok converted)
        ↔ m.AliasesKnown ∧ ∀ f ∈ m.functions, ∀ v ∈ f.values, v.InScope m f)
      ∧ ∀ converted, m.convertUnchecked = .ok converted → converted.validate = .ok () := by
  simp only [convert_eq_ok_iff distinct, convertUnchecked_eq_ok_iff distinct, ← symbols_ok_iff]
  refine ⟨⟨?_, ?_⟩, ?_⟩
  · intro succeeds
    obtain ⟨converted, symbols, resolved, becomes⟩ := succeeds
    exact ⟨⟨symbols, resolved⟩, (exists_becomes_iff typed resolved).1 ⟨converted, becomes⟩⟩
  · intro both
    obtain ⟨⟨symbols, resolved⟩, inScope⟩ := both
    obtain ⟨converted, becomes⟩ := (exists_becomes_iff typed resolved).2 inScope
    exact ⟨converted, symbols, resolved, becomes⟩
  · intro converted succeeds
    obtain ⟨symbols, resolved, becomes⟩ := succeeds
    exact becomes.valid distinct resolved

/-- A module whose first alias refers to the second one, and whose function uses a value before its
definition. What is frozen is not converted, so that it may be out of scope.
-/
def usedBefore : Module :=
  let pointer : Ty := .pointer 0 (.int 8)
  let walk : Ty := .function pointer [pointer]
  { name := "used before"
    functions :=
      [ { name := "walk"
          params := [(.text "start", pointer)]
          blocks :=
            [ { name := .text "entry"
                instrs :=
                  [ ⟨some (.number 0),
                      .phi [.local (.text "start") pointer, .local (.number 1) pointer] pointer⟩,
                    ⟨some (.number 1), .getElementPtr (.local (.number 0) pointer) [.const (.int 64 1)]⟩,
                    ⟨some (.number 2), .freeze (.local (.text "nowhere") pointer)⟩ ]
                term :=
                  .invoke (.number 3) (.value (.const (.ref "first" walk))) [.local (.number 1) pointer] },
              { name := .number 4, instrs := [], term := .ret (some (.local (.number 3) pointer)) } ] } ]
    decls := ["stop"]
    globals := ["table"]
    aliases :=
      [ ("first", .cast .bitCast (.ref "second" walk) (.pointer 0 walk)),
        ("second", .ref "walk" walk) ]
    structs := [] }

/-- This module can be converted, and passes its check. -/
theorem convert_succeeds_iff_usedBefore
    : usedBefore.DistinctSymbols
      ∧ usedBefore.Typed
      ∧ usedBefore.AliasesKnown
      ∧ ∃ converted, usedBefore.convert = .ok converted := by
  have distinct : usedBefore.DistinctSymbols := by
    rw [DistinctSymbols]
    decide
  have typed : usedBefore.Typed := by
    rw [Typed]
    decide
  have known : usedBefore.AliasesKnown := by
    have second : usedBefore.Known "second" :=
      .aliased (List.mem_cons_of_mem _ List.mem_cons_self)
        (List.forall_mem_singleton.2 (.own (by decide)))
    exact List.forall_mem_cons.2 ⟨List.forall_mem_singleton.2 second,
      List.forall_mem_singleton.2 (List.forall_mem_singleton.2 (.own (by decide)))⟩
  exact ⟨distinct, typed, known, (convert_succeeds_iff distinct typed).1.2 ⟨known, by decide⟩⟩

end Module

end PointerOrigins.Bitcode
