import PointerOrigins.Proofs.FlowInsensitivity

/-!
Operands that traces ignore. Through most operations one operand flows, and what else they are given is passed
over: indices, conditions, counts, what is stored. With calls it is not the operation that decides. Arguments
count where a parameter is bound to them, so it depends on the rest of the module which of them do. Modules
that differ only in what is ignored have the same call sites, the same steps and the same traces, unless the order
in which they enumerate their functions shows: through symbols that are shared, or names that are defined twice.
-/

namespace PointerOrigins

/-- Two calls bind the same arguments, as calls of a module: a broker is given the same ones, and a function that
the module defines is given the same ones for its parameters. All other arguments are free, and so are the
types of arguments.
-/
structure Call.BindsAlike (m : Module) (c other : Call) : Prop where
  callee : other.callee = c.callee
  broker
    : ∀ f,
        c.callee.direct? = some f
        → (Broker.ofSymbol? f.symbol).isSome
        → other.args = c.args
  defined
    : ∀ f body,
        c.callee.direct? = some f
        → m.body? f = some body
        → other.args.take body.parameters.length = c.args.take body.parameters.length

/-- The same operation, but for operands that are ignored. -/
inductive Opcode.SameFlow (m : Module) : Opcode → Opcode → Prop
  | same (opcode : Opcode) : SameFlow m opcode opcode
  | alloca {count other} : SameFlow m (.alloca count) (.alloca other)
  | call {c other} (alike : c.BindsAlike m other) : SameFlow m (.call c) (.call other)
  | getElementPtr {pointer indices others}
    : SameFlow m (.getElementPtr pointer indices) (.getElementPtr pointer others)
  | insertValue {aggregate element other}
    : SameFlow m (.insertValue aggregate element) (.insertValue aggregate other)
  | ptrToInt {pointer other} : SameFlow m (.ptrToInt pointer) (.ptrToInt other)
  | select {condition other whenTrue whenFalse}
    : SameFlow m (.select condition whenTrue whenFalse) (.select other whenTrue whenFalse)
  | store {value pointer otherValue otherPointer}
    : SameFlow m (.store value pointer) (.store otherValue otherPointer)

/-- The same end of a block, but for arguments that are ignored. -/
inductive TerminatorOpcode.SameFlow (m : Module) : TerminatorOpcode → TerminatorOpcode → Prop
  | same (opcode : TerminatorOpcode) : SameFlow m opcode opcode
  | invoke {c other} (alike : c.BindsAlike m other) : SameFlow m (.invoke c) (.invoke other)

/-- The type of the result is ignored too. -/
structure Instruction.SameFlow (m : Module) (i other : Instruction) : Prop where
  name : other.name = i.name
  opcode : i.opcode.SameFlow m other.opcode

/-- The type of the result is ignored too. -/
structure Terminator.SameFlow (m : Module) (t other : Terminator) : Prop where
  name : other.name = t.name
  opcode : t.opcode.SameFlow m other.opcode

/-- Blocks with the same instructions, but for what is ignored. -/
structure Block.SameFlow (m : Module) (b other : Block) : Prop where
  name : other.name = b.name
  instrs : List.Forall₂ (Instruction.SameFlow m) b.instrs other.instrs
  terminator : b.terminator.SameFlow m other.terminator

/-- Functions with the same parameters and blocks, but for what is ignored. -/
structure FunctionDef.SameFlow (m : Module) (entry other : FunctionName × FunctionDef) : Prop where
  function : other.1 = entry.1
  parameters : other.2.parameters = entry.2.parameters
  blocks : List.Forall₂ (Block.SameFlow m) entry.2.blocks other.2.blocks

/-- Modules with the same functions, but for what is ignored, enumerated in any order. -/
def Module.SameFlow (m other : Module) : Prop :=
  Reordered (FunctionDef.SameFlow m) m.functions other.functions

/-- The same definition of a name, but for what is ignored. -/
inductive Definition.SameFlow (m : Module)
    : InstructionName × Definition → InstructionName × Definition → Prop
  | instruction {name opcode another} (same : Opcode.SameFlow m opcode another)
    : SameFlow m (name, .instruction opcode) (name, .instruction another)
  | terminator {name opcode another} (same : TerminatorOpcode.SameFlow m opcode another)
    : SameFlow m (name, .terminator opcode) (name, .terminator another)

variable {m other : Module}

namespace Call.BindsAlike

variable {c d : Call}

/-- The same call, if any, binds alike. -/
theorem rel_refl (m : Module) (made : Option Call) : Option.Rel (BindsAlike m) made made := by
  cases made with
  | none => exact .none
  | some => exact .some ⟨rfl, fun _ _ _ => rfl, fun _ _ _ _ => rfl⟩

/-- Calls that bind alike make the same site at their target. -/
theorem directSite_eq (alike : c.BindsAlike m d) {f : FunctionName}
    (direct : c.callee.direct? = some f) (name : InstructionName)
    : m.directSite? name d f = m.directSite? name c f := by
  simp only [Module.directSite?, Module.arity?]
  cases defined : m.body? f with
  | none => rfl
  | some body =>
      have taken := alike.defined f body direct defined
      have bound : (List.range body.parameters.length).map (d.args[·]?)
          = (List.range body.parameters.length).map (c.args[·]?) := by
        refine List.map_congr_left fun position inRange => ?_
        have within := List.mem_range.1 inRange
        rw [← List.getElem?_take_of_lt within, taken, List.getElem?_take_of_lt within]
      simp only [Option.map_some, bound]

/-- Calls that bind alike make the same site at a callback. -/
theorem callbackSite_eq (alike : c.BindsAlike m d) {f : FunctionName}
    (direct : c.callee.direct? = some f) (name : InstructionName)
    : m.callbackSite? name d f = m.callbackSite? name c f := by
  cases known : Broker.ofSymbol? f.symbol with
  | none => simp [Module.callbackSite?, known]
  | some broker =>
      have args : d.args = c.args := alike.broker f direct (by simp [known])
      simp only [Module.callbackSite?, Module.callback?, args]

/-- Calls that bind alike make the same call sites. -/
theorem sitesOfCall_eq (alike : c.BindsAlike m d) (name : InstructionName)
    : m.sitesOfCall name d = m.sitesOfCall name c := by
  rw [Module.sitesOfCall, Module.sitesOfCall, alike.callee]
  cases direct : c.callee.direct? with
  | none => rfl
  | some f => simp only [alike.directSite_eq direct, alike.callbackSite_eq direct]

end Call.BindsAlike

----------------------------------------------------------------------------------------------
-- Definitions and functions
----------------------------------------------------------------------------------------------

namespace Definition.SameFlow

variable {entry another : InstructionName × Definition}

/-- The name is the same. -/
theorem name_eq (same : Definition.SameFlow m entry another) : another.1 = entry.1 := by
  cases same <;> rfl

/-- The same casts are made. -/
theorem cast_eq (same : Definition.SameFlow m entry another)
    : another.2.cast? = entry.2.cast? := by
  rcases same with same | same <;> cases same <;> rfl

/-- Calls are made by both or by neither, and bind alike. -/
theorem call (same : Definition.SameFlow m entry another)
    : Option.Rel (Call.BindsAlike m) entry.2.call? another.2.call? := by
  rcases same with same | same
  · cases same with
    | same => exact Call.BindsAlike.rel_refl m _
    | call alike => exact .some alike
    | _ => exact .none
  · cases same with
    | same => exact Call.BindsAlike.rel_refl m _
    | invoke alike => exact .some alike

/-- A step back leads to the same values. -/
theorem step_eq (same : Definition.SameFlow m entry another) (g : Graph)
    : g.definitionStep another.2 = g.definitionStep entry.2 := by
  rcases same with same | same
  · cases same with
    | call alike => simp only [Graph.definitionStep, Graph.opcodeStep, alike.callee]
    | _ => rfl
  · cases same with
    | same => rfl
    | invoke alike => simp only [Graph.definitionStep, alike.callee]

end Definition.SameFlow

/-- Blocks define the same names in the same order. -/
theorem Block.SameFlow.definitions {b another : Block} (same : b.SameFlow m another)
    : List.Forall₂ (Definition.SameFlow m) b.definitions another.definitions := by
  rw [Block.definitions, Block.definitions, same.terminator.name]
  refine List.rel_append ?_ (.cons (.terminator same.terminator.opcode) .nil)
  refine List.rel_map ?_ same.instrs
  rintro ⟨name, opcode, ty⟩ ⟨_, another, otherTy⟩ ⟨rfl, sameOpcode⟩
  exact .instruction sameOpcode

/-- Blocks return the same. -/
theorem Block.SameFlow.returned_eq {b another : Block} (same : b.SameFlow m another)
    : another.returned? = b.returned? := by
  have opcodes := same.terminator.opcode
  rw [returned?, returned?]
  generalize b.terminator.opcode = before, another.terminator.opcode = after at opcodes
  cases opcodes <;> rfl

namespace FunctionDef.SameFlow

variable {entry another : FunctionName × FunctionDef}

/-- Functions define the same names in the same order. -/
theorem definitions (same : FunctionDef.SameFlow m entry another)
    : List.Forall₂ (Definition.SameFlow m) entry.2.definitions another.2.definitions :=
  List.rel_flatMap same.blocks fun _ _ sameBlock => sameBlock.definitions

/-- Functions return the same values in the same order. -/
theorem returned_eq (same : FunctionDef.SameFlow m entry another)
    : another.2.returned = entry.2.returned :=
  filterMap_eq_of_pairs (fun sameBlock => sameBlock.returned_eq) same.blocks

/-- Functions make the same call sites in the same order. -/
theorem sites_eq (same : FunctionDef.SameFlow m entry another)
    (arity : ∀ f, other.arity? f = m.arity? f)
    : (another.2.calls.map fun call => other.sitesOfCall call.1 call.2.2)
      = entry.2.calls.map fun call => m.sitesOfCall call.1 call.2.2 := by
  have calls : List.Forall₂ (fun x y => y.1 = x.1 ∧ Call.BindsAlike m x.2.2 y.2.2) entry.2.calls
      another.2.calls := by
    rw [calls_eq, calls_eq]
    refine List.rel_filterMap ?_ same.definitions
    intro x y sameDefinition
    have name := sameDefinition.name_eq
    have call := sameDefinition.call
    change Option.Rel _ (x.2.call?.map _) (y.2.call?.map _)
    generalize x.2.call? = before, y.2.call? = after at call
    cases call with
    | none => exact .none
    | some alike => exact .some ⟨name, alike⟩
  refine map_eq_of_pairs (fun {x y} sameCall => ?_) calls
  rw [Module.sitesOfCall_congr arity, sameCall.1, sameCall.2.sitesOfCall_eq]

end FunctionDef.SameFlow

section Listed

variable (functions : List.Forall₂ (FunctionDef.SameFlow m) m.functions other.functions)

include functions

/-- Modules define the same names in the same order. -/
theorem Module.definitions_sameFlow
    : List.Forall₂ (Definition.SameFlow m) m.definitions other.definitions :=
  List.rel_flatMap functions fun _ _ same => same.definitions

/-- Modules have the same call sites in the same order. -/
theorem Module.callSites_sameFlow : other.callSites = m.callSites := by
  have arity := arity_eq_of_pairs (fun same => same.function) functions fun same => same.parameters
  exact callSites_eq_of_pairs (fun same => same.function) functions fun same => same.sites_eq arity

/-- An instruction has a definition in neither module, or definitions that differ in what is ignored. -/
theorem Graph.definition_sameFlow (name : InstructionName)
    : Option.Rel (fun d e => Definition.SameFlow m (name, d) (name, e))
        ((Graph.ofModule m).definition? name) ((Graph.ofModule other).definition? name) := by
  have definitions := List.rel_reverse (Module.definitions_sameFlow functions)
  rw [definition?, definition?]
  rcases lookup_of_pairs (fun same => same.name_eq) definitions name with
    ⟨missing, stillMissing⟩ | ⟨d, e, found, otherFound, same⟩
  · simp only [ofModule, missing, stillMissing]
    exact .none
  · simp only [ofModule, found, otherFound]
    exact .some same

/-- The same casts stand in front of a value. -/
theorem Graph.canonicalize_sameFlow
    : (Graph.ofModule other).canonicalize = (Graph.ofModule m).canonicalize := by
  refine canonicalize_eq_of_casts fun name => ?_
  have definitions := definition_sameFlow functions name
  generalize (Graph.ofModule m).definition? name = before,
    (Graph.ofModule other).definition? name = after at definitions
  cases definitions with
  | none => rfl
  | some same => exact same.cast_eq

/-- A step back leads to the same values. -/
theorem Graph.step_sameFlow : (Graph.ofModule other).step = (Graph.ofModule m).step := by
  have sites := CallGraph.ofModule_congr (Module.callSites_sameFlow functions)
  refine step_eq_of_definitions sites fun name => ?_
  have definitions := definition_sameFlow functions name
  generalize (Graph.ofModule m).definition? name = before,
    (Graph.ofModule other).definition? name = after at definitions
  cases definitions with
  | none => exact .none
  | some same =>
      refine .some ?_
      rw [← same.step_eq, definitionStep_eq, definitionStep_eq]
      simp only [Module.callStep_eq_of_pairs (fun same => same.function) functions
        fun same => same.returned_eq]

/-- No two functions share a symbol in the one module if this is so in the other. -/
theorem Module.DistinctSymbols.sameFlow (symbols : m.DistinctSymbols) : other.DistinctSymbols := by
  rw [DistinctSymbols,
    map_eq_of_pairs (fun same => congrArg FunctionName.symbol same.function) functions]
  exact symbols

/-- Nothing is defined twice in the one module if this is so in the other. -/
theorem Module.DefinesOnce.sameFlow (once : m.DefinesOnce) : other.DefinesOnce := by
  rw [DefinesOnce, map_eq_of_pairs (fun same => same.name_eq) (definitions_sameFlow functions)]
  exact once

end Listed

/-- What is ignored makes no difference: modules that differ in nothing else give the same traces of every value,
with the same origins in the same order. Their functions are enumerated in the same order; or in any, if no two
functions share a symbol and nothing is defined twice.
-/
theorem Graph.trace_of_sameFlow (same : m.SameFlow other)
    (order
      : List.Forall₂ (FunctionDef.SameFlow m) m.functions other.functions
        ∨ m.DistinctSymbols ∧ m.DefinesOnce)
    (value : Operand)
    : (Graph.ofModule other).trace value = (Graph.ofModule m).trace value := by
  rcases order with listed | ⟨symbols, once⟩
  · exact trace_congr (canonicalize_sameFlow listed) (step_sameFlow listed) value
  · obtain ⟨paired, pairs, order⟩ := same
    -- The other module with its functions in the order of this one comes between the two.
    let between : Module := { other with functions := paired }
    have contents : between.SameContents other := ⟨rfl, .refl _, order, .refl _⟩
    calc (Graph.ofModule other).trace value
      _ = (Graph.ofModule between).trace value :=
        contents.trace_eq (symbols.sameFlow pairs) (once.sameFlow pairs) value
      _ = (Graph.ofModule m).trace value :=
        trace_congr (canonicalize_sameFlow pairs) (step_sameFlow pairs) value

/-- Functions that are only enumerated in another order differ in nothing else. -/
theorem Module.SameFlow.of_perm (reordered : other.functions.Perm m.functions) : m.SameFlow other := by
  refine ⟨m.functions, List.forall₂_same.2 fun entry _ => ⟨rfl, rfl, ?_⟩, reordered⟩
  refine List.forall₂_same.2 fun b _ => ⟨rfl, ?_, rfl, .same _⟩
  exact List.forall₂_same.2 fun i _ => ⟨rfl, .same _⟩

/-- A module whose main function has a pointer copied, once by itself and once by a thread. One operand fills all
places that traces ignore, and one type all places for types.
-/
def copying (filler : Operand) (ty : Ty) : Module :=
  let copy : FunctionName := ⟨0, "copy"⟩
  let main : FunctionName := ⟨1, "main"⟩
  let body : BlockName := ⟨2, copy, "entry"⟩
  let entry : BlockName := ⟨3, main, "entry"⟩
  let source : ParameterName := ⟨4, copy, "source", 0⟩
  let slot : InstructionName := ⟨5, body, 0⟩
  let offset : InstructionName := ⟨6, body, 1⟩
  let chosen : InstructionName := ⟨7, body, 2⟩
  let filled : InstructionName := ⟨8, body, 3⟩
  let started : InstructionName := ⟨9, entry, 0⟩
  { name := "copying"
    decls := [⟨10, "puts"⟩, ⟨11, "pthread_create"⟩]
    functions :=
      [ (copy,
          ⟨[source],
            [ { name := body
                instrs :=
                  [ ⟨slot, .alloca filler, ty⟩,
                    ⟨offset, .getElementPtr (.parameter source) [filler], ty⟩,
                    ⟨chosen, .select filler (.instruction offset) (.instruction slot), ty⟩,
                    ⟨filled, .insertValue (.instruction chosen) filler, ty⟩,
                    ⟨⟨12, body, 4⟩, .ptrToInt filler, ty⟩,
                    ⟨⟨13, body, 5⟩, .store filler filler, ty⟩,
                    ⟨⟨14, body, 6⟩, .call ⟨.operand (.function ⟨10, "puts"⟩), [filler], [ty]⟩, ty⟩,
                    ⟨⟨15, body, 7⟩, .call ⟨.operand (.parameter source), [filler], [ty]⟩, ty⟩ ]
                terminator := ⟨⟨16, body, 8⟩, .ret (some (.instruction filled)), ty⟩ } ]⟩),
        (main,
          ⟨[],
            [ { name := entry
                instrs :=
                  [ ⟨started,
                      .call
                        ⟨.operand (.function ⟨11, "pthread_create"⟩),
                          [.null, .null, .function copy, .constant (.global ⟨"table"⟩)], [ty]⟩,
                      ty⟩ ]
                terminator :=
                  ⟨⟨17, entry, 1⟩, .invoke ⟨.operand (.function copy), [.null, filler], [ty, ty]⟩,
                    ty⟩ } ]⟩) ]
    globals := [⟨"table"⟩] }

/-- The places that are filled are ignored. -/
theorem copying_sameFlow (filler other : Operand) (ty otherTy : Ty)
    : List.Forall₂ (FunctionDef.SameFlow (copying filler ty)) (copying filler ty).functions
        (copying other otherTy).functions := by
  have undefined : (copying filler ty).body? ⟨10, "puts"⟩ = none := rfl
  refine .cons ⟨rfl, rfl, .cons ⟨rfl, ?_, ⟨rfl, .same _⟩⟩ .nil⟩
    (.cons ⟨rfl, rfl, .cons ⟨rfl, ?_, ⟨rfl, .invoke ⟨rfl, ?_, ?_⟩⟩⟩ .nil⟩ .nil)
  · refine .cons ⟨rfl, .alloca⟩ (.cons ⟨rfl, .getElementPtr⟩ (.cons ⟨rfl, .select⟩
      (.cons ⟨rfl, .insertValue⟩ (.cons ⟨rfl, .ptrToInt⟩ (.cons ⟨rfl, .store⟩
        (.cons ⟨rfl, .call ⟨rfl, ?_, ?_⟩⟩ (.cons ⟨rfl, .call ⟨rfl, ?_, ?_⟩⟩ .nil)))))))
    · rintro _ ⟨⟩ isBroker
      cases isBroker
    · rintro _ body ⟨⟩ isDefined
      cases undefined.symm.trans isDefined
    · rintro _ ⟨⟩
    · rintro _ _ ⟨⟩
  · exact .cons ⟨rfl, .call ⟨rfl, fun _ _ _ => rfl, fun _ _ _ _ => rfl⟩⟩ .nil
  · rintro _ ⟨⟩ isBroker
    cases isBroker
  · rintro _ body ⟨⟩ ⟨⟩
    rfl

/-- What is copied has the same origins if the places are filled with the slot instead of a number, and the
functions are enumerated from the end.
-/
theorem Graph.trace_of_sameFlow_copying
    : let body : BlockName := ⟨2, ⟨0, "copy"⟩, "entry"⟩
      let slot : Operand := .instruction ⟨5, body, 0⟩
      let filled : Operand := .instruction ⟨8, body, 3⟩
      let table : Operand := .constant (.global ⟨"table"⟩)
      let m := copying (.int 64 1) (.int 64)
      let other := (copying slot .pointer).reversed
      m.SameFlow other
      ∧ m.DistinctSymbols
      ∧ m.DefinesOnce
      ∧ (∀ origin ∈ [table, .null, slot], origin ∈ ((Graph.ofModule m).trace filled).origins)
      ∧ (Graph.ofModule other).trace filled = (Graph.ofModule m).trace filled := by
  intro body slot filled table m other
  have same : m.SameFlow other :=
    ⟨(copying slot .pointer).functions, copying_sameFlow _ _ _ _, List.reverse_perm _⟩
  have symbols : m.DistinctSymbols := by decide
  have once : m.DefinesOnce := by decide
  let chosen : Operand := .instruction ⟨7, body, 2⟩
  let offset : Operand := .instruction ⟨6, body, 1⟩
  let source : Operand := .parameter ⟨4, ⟨0, "copy"⟩, "source", 0⟩
  have toChosen : (Graph.ofModule m).Reaches filled chosen :=
    .single ⟨chosen, by decide, by decide⟩
  have toOffset : (Graph.ofModule m).Reaches filled offset :=
    toChosen.tail ⟨offset, by decide, by decide⟩
  have toSource : (Graph.ofModule m).Reaches filled source :=
    toOffset.tail ⟨source, by decide, by decide⟩
  have passed : ((Graph.ofModule m).step source).children = [table, .null] := by
    have sorted : m.sortedFunctions = m.functions :=
      m.sortedFunctions_inSymbolOrder.unique symbols ⟨.refl _, by decide⟩
    rw [Graph.ofModule, CallGraph.ofModule, Module.callSites, sorted]
    decide
  refine ⟨same, symbols, once, ?_, Graph.trace_of_sameFlow same (.inr ⟨symbols, once⟩) filled⟩
  simp only [List.forall_mem_cons, mem_origins_iff]
  refine ⟨⟨toSource.tail ⟨table, ?_, by decide⟩, by decide⟩,
    ⟨toSource.tail ⟨.null, ?_, by decide⟩, by decide⟩,
    ⟨toChosen.tail ⟨slot, by decide, by decide⟩, by decide⟩, ?_⟩
  · rw [passed]
    exact List.mem_cons_self
  · rw [passed]
    exact List.mem_cons_of_mem _ List.mem_cons_self
  · exact fun _ member => absurd member List.not_mem_nil

----------------------------------------------------------------------------------------------
-- Symbols that are shared
----------------------------------------------------------------------------------------------

namespace SharedSymbol

/-- The parameter of a function that is called twice. -/
def arg : ParameterName :=
  ⟨1, ⟨0, "target"⟩, "arg", 0⟩

/-- A function that passes on a value. All such functions have one symbol. -/
def caller (id : Nat) (passed : Operand) : FunctionName × FunctionDef :=
  let entry : BlockName := ⟨id + 1, ⟨id, "twin"⟩, "entry"⟩
  (⟨id, "twin"⟩,
    ⟨[],
      [ { name := entry
          instrs :=
            [⟨⟨id + 2, entry, 0⟩, .call ⟨.operand (.function ⟨0, "target"⟩), [passed], [.pointer]⟩, .void⟩]
          terminator := ⟨⟨id + 3, entry, 1⟩, .ret none, .void⟩ } ]⟩)

/-- A module in which two functions with one symbol pass on null and a global, enumerated in this order or in the
other one.
-/
def module (swapped : Bool) : Module where
  name := "shared symbol"
  decls := []
  functions :=
    (⟨0, "target"⟩, ⟨[arg], []⟩)
      :: bif swapped then [caller 6 (.constant (.global ⟨"table"⟩)), caller 2 .null]
        else [caller 2 .null, caller 6 (.constant (.global ⟨"table"⟩))]
  globals := [⟨"table"⟩]

/-- What is passed on, in the order in which the callers are enumerated. -/
def passed (swapped : Bool) : List Operand :=
  bif swapped then [.constant (.global ⟨"table"⟩), .null] else [.null, .constant (.global ⟨"table"⟩)]

/-- Sorting leaves functions that share a symbol as they are enumerated, and with them the origins of the parameter.
-/
theorem origins_eq (swapped : Bool)
    : ((Graph.ofModule (module swapped)).trace (.parameter arg)).origins = passed swapped := by
  have sorted : (module swapped).sortedFunctions = (module swapped).functions :=
    List.mergeSort_of_pairwise (by cases swapped <;> decide)
  have step : (Graph.ofModule (module swapped)).step (.parameter arg) = .through (passed swapped) := by
    rw [Graph.ofModule, CallGraph.ofModule, Module.callSites, sorted]
    cases swapped <;> decide
  generalize Graph.ofModule (module swapped) = g at step
  have ends : ∀ x ∈ passed swapped, g.canonicalize x = x ∧ g.step x = .origin := by
    have table : ∀ x ∈ [Operand.null, .constant (.global ⟨"table"⟩)],
        g.canonicalize x = x ∧ g.step x = .origin :=
      List.forall_mem_cons.2 ⟨⟨rfl, rfl⟩, List.forall_mem_singleton.2 ⟨rfl, rfl⟩⟩
    exact fun x member => table x (by cases swapped <;> simpa [passed, or_comm] using member)
  rw [Graph.trace_of_ends rfl (congrArg Step.children step) ends (by cases swapped <;> decide), step]
  rfl

end SharedSymbol

/-- The order of enumeration shows where functions share a symbol, in the order of origins, and where an instruction
is defined twice, in all of a trace. This is so even if nothing else differs.
-/
theorem Graph.trace_of_sameFlow_reordered
    : let sharing := SharedSymbol.module
      let arg : Operand := .parameter SharedSymbol.arg
      let table : Operand := .constant (.global ⟨"table"⟩)
      let defining := DefinedTwice.module [DefinedTwice.allocator, DefinedTwice.loader]
      let value : Operand := .instruction DefinedTwice.twice
      ((sharing false).SameFlow (sharing true)
        ∧ (sharing false).DefinesOnce
        ∧ ((Graph.ofModule (sharing false)).trace arg).origins = [.null, table]
        ∧ ((Graph.ofModule (sharing true)).trace arg).origins = [table, .null])
      ∧ defining.SameFlow defining.reversed
        ∧ defining.DistinctSymbols
        ∧ ((Graph.ofModule defining).trace value).origins = [.null]
        ∧ ((Graph.ofModule defining.reversed).trace value).origins = [value] := by
  intro sharing arg table defining value
  have once : (sharing false).DefinesOnce := by decide
  have symbols : defining.DistinctSymbols := by decide
  refine ⟨⟨?_, once, SharedSymbol.origins_eq false, SharedSymbol.origins_eq true⟩, ?_, symbols, ?_, ?_⟩
  · exact .of_perm (.cons _ (.swap _ _ _))
  · exact .of_perm (List.reverse_perm _)
  · rw [DefinedTwice.trace_loaded rfl]
  · rw [DefinedTwice.trace_allocated rfl]

end PointerOrigins
