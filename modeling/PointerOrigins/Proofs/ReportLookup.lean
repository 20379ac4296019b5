import PointerOrigins.Proofs.ConversionStructure
import PointerOrigins.Proofs.FailedCalls
import PointerOrigins.Proofs.ReportExactness

/-!
Origins can be looked up in the report that lists them. What a report says of an origin comes from the name of
the origin and from the index of definitions, while functions and calls are reported as they stand in the
module. The two agree in modules that were built or converted, however many symbols of the source clash: such a
module defines each name once, in the function that the name belongs to, and its functions have symbols of
their own.
-/

namespace PointerOrigins

/-- Names tell where they belong, and nothing that is used is missing. -/
structure Module.Consistent (m : Module) : Prop where
  valid : m.validate = .ok ()
  symbols : m.DistinctSymbols
  once : m.DefinesOnce
  owned : ∀ entry ∈ m.functions, ∀ name ∈ entry.2.locals, name.function = entry.1

/-- A module that was built by calls on a builder, or converted from bitcode. -/
inductive Module.Constructed : Module → Prop
  | built {title calls m} (builds : ((ModuleBuilder.new title).run calls).2.build = .ok m)
    : Constructed m
  | converted {m} {source : Bitcode.Module} (converts : source.convert = .ok m) : Constructed m

----------------------------------------------------------------------------------------------
-- Modules that were built
----------------------------------------------------------------------------------------------

/-- The locals of a well-formed body belong to its function. -/
theorem FunctionDef.WellFormed.owned {f : FunctionName} {body : FunctionDef}
    (wellFormed : body.WellFormed f)
    : ∀ name ∈ body.locals, name.function = f := by
  intro name isLocal
  rcases List.mem_append.1 isLocal with isParameter | isInstruction
  · obtain ⟨p, listed, rfl⟩ := List.mem_map.1 isParameter
    obtain ⟨position, found⟩ := List.getElem?_of_mem listed
    exact (wellFormed.parameters position p found).1
  · obtain ⟨entry, defined, rfl⟩ := List.mem_map.1 isInstruction
    obtain ⟨b, inBody, inBlock⟩ := List.mem_flatMap.1 defined
    have block := wellFormed.blocks b inBody
    have place : entry.1.block = b.name := by
      rcases List.mem_append.1 inBlock with isInstr | isEnd
      · obtain ⟨i, listed, rfl⟩ := List.mem_map.1 isInstr
        obtain ⟨index, found⟩ := List.getElem?_of_mem listed
        exact (block.instrs.places index i found).1
      · rw [List.mem_singleton.1 isEnd]
        exact block.terminator.1
    calc entry.1.block.function
      _ = b.name.function := by rw [place]
      _ = f := block.function

/-- What a well-formed builder builds is consistent. -/
theorem ModuleBuilder.WellFormed.consistent {b : ModuleBuilder} {m : Module}
    (wellFormed : b.WellFormed) (builds : b.build = .ok m)
    : m.Consistent := by
  obtain rfl := eq_of_build builds
  obtain ⟨_, valid, _⟩ := Bitcode.bind_eq_ok_iff.1 builds
  have symbols := wellFormed.toConsistent.nodup_symbols
  rw [List.map_append, List.map_map] at symbols
  refine ⟨valid, (List.nodup_append.1 symbols).2.1, wellFormed.definesOnce, fun entry isDefined => ?_⟩
  exact (wellFormed.bodies entry isDefined).owned

----------------------------------------------------------------------------------------------
-- Modules that were converted
----------------------------------------------------------------------------------------------

namespace Bitcode

/-- A constant becomes a function only as a reference to a symbol that stands for it. -/
theorem Const.lookup_of_convert {symbols : Symbols} {c : Const} {f : FunctionName}
    (converts : c.convert symbols = .ok (.function f))
    : ∃ symbol, symbols.lookup symbol = some (.function f) := by
  have notWrapped : ∀ {α : Type} {x : Except ModuleError α} {wrap : α → Constant},
      (∀ a, wrap a ≠ .function f) → x.map wrap ≠ .ok (.function f) := by
    intro α x wrap differs converts
    obtain ⟨a, _, same⟩ := map_eq_ok_iff.1 converts
    exact differs a same
  cases c with
  | ref symbol type =>
      rw [convert] at converts
      split at converts
      · next found =>
          cases converts
          exact ⟨symbol, found⟩
      · cases converts
  | array element elements =>
      rw [convert] at converts
      split at converts
      · cases converts
      · exact absurd converts (notWrapped (by simp))
  | struct fields =>
      rw [convert] at converts
      exact absurd converts (notWrapped (by simp))
  | cast kind value type =>
      cases kind with
      | trunc => simp [convert] at converts
      | _ =>
          simp only [convert] at converts
          exact absurd converts (notWrapped (by simp))
  | getElementPtr address indices =>
      rw [convert] at converts
      exact absurd converts (notWrapped (by simp))
  | _ => simp [convert] at converts

/-- Functions that are put one after the other into a map have distinct names, and each of them was put there. -/
theorem foldl_putFunction_spec (functions more : List (FunctionName × FunctionDef))
    (distinct : (functions.map Prod.fst).Nodup)
    : ((more.foldl putFunction functions).map Prod.fst).Nodup
      ∧ ∀ entry ∈ more.foldl putFunction functions, entry ∈ functions ∨ entry ∈ more := by
  induction more generalizing functions with
  | nil => exact ⟨distinct, fun _ member => .inl member⟩
  | cons first rest ih =>
      have kept : ((putFunction functions first).map Prod.fst).Nodup := by
        rw [putFunction, List.map_append, List.nodup_append]
        refine ⟨distinct.sublist (List.filter_sublist.map _), List.nodup_singleton _, ?_⟩
        rintro _ earlier _ isFirst rfl
        obtain ⟨other, left, same⟩ := List.mem_map.1 earlier
        have differs := (List.mem_filter.1 left).2
        rw [same, List.mem_singleton.1 isFirst] at differs
        simp at differs
      obtain ⟨unique, ofPut⟩ := ih _ kept
      refine ⟨unique, fun entry member => ?_⟩
      rcases ofPut entry member with put | inRest
      · rcases List.mem_append.1 put with earlier | isFirst
        · exact .inl (List.mem_filter.1 earlier).1
        · exact .inr (List.mem_singleton.1 isFirst ▸ List.mem_cons_self)
      · exact .inr (List.mem_cons_of_mem _ inRest)

namespace Module

variable {source : Module} {symbols : Symbols} {m : PointerOrigins.Module}

/-- A function that any symbol stands for is the one that its own symbol stands for in the module itself. Aliases
may hide it under that symbol, but give no other function the symbol.
-/
theorem lookup_own_of_function
    (resolutions : Relation.ReflTransGen (Resolution source.aliases) source.ownSymbols symbols)
    {symbol : String} {f : FunctionName} (found : symbols.lookup symbol = some (.function f))
    : source.ownSymbols.lookup f.symbol = some (.function f) := by
  induction resolutions generalizing symbol with
  | refl =>
      have own : symbol = f.symbol := by
        rcases List.mem_append.1 (List.mem_reverse.1 (Graph.mem_of_lookup found)) with ofFunction | ofGlobal
        · obtain ⟨_, _, same⟩ := List.mem_map.1 ofFunction
          cases same
          rfl
        · obtain ⟨_, _, same⟩ := List.mem_map.1 ofGlobal
          cases same
      exact own ▸ found
  | tail _ resolution ih =>
      cases resolution with
      | resolve _ converts =>
          rw [List.lookup_cons] at found
          split at found
          · cases found
            obtain ⟨_, earlier⟩ := Const.lookup_of_convert converts
            exact ih earlier
          · exact ih found

/-- A converted module has passed its check. Its functions have distinct names, and each of them was converted
under the name that its symbol stands for.
-/
theorem convert_spec (converts : source.convert = .ok m)
    : ∃ symbols,
        source.symbols = .ok symbols
        ∧ m.validate = .ok ()
        ∧ (m.functions.map Prod.fst).Nodup
        ∧ ∀ entry ∈ m.functions,
            ∃ (f : Function) (refers : Value → Operand → Prop),
              functionName symbols f.name = .ok entry.1
              ∧ f.Becomes refers source.structs entry.1 entry.2 := by
  simp only [convert, convertUnchecked, bind_eq_ok_iff, pure_eq_ok_iff, lift_eq_ok_iff, mapM_eq_ok_iff,
    Function.convert_eq_ok_iff] at converts
  obtain ⟨_, ⟨symbols, resolved, functions, areFunctions, _, _, _, _, rfl⟩, _, valid, rfl⟩ := converts
  obtain ⟨distinct, ofPut⟩ := foldl_putFunction_spec [] functions List.nodup_nil
  refine ⟨symbols, resolved, valid, distinct, fun entry member => ?_⟩
  have listed : entry ∈ functions := (ofPut entry member).resolve_left List.not_mem_nil
  obtain ⟨f, _, name, named, body, becomes, rfl⟩ := exists_of_pairs areFunctions.flip listed
  exact ⟨f, _, named, becomes⟩

/-- A converted module is consistent. -/
theorem consistent_of_convert (converts : source.convert = .ok m) : m.Consistent := by
  obtain ⟨symbols, resolved, valid, names, functions⟩ := convert_spec converts
  have resolutions := (resolveAliases_ok resolved).1
  refine ⟨valid, ?_, ?_, ?_⟩
  · have ofSymbol : ∀ entry ∈ m.functions,
        source.ownSymbols.lookup entry.1.symbol = some (.function entry.1) := by
      intro entry isDefined
      obtain ⟨f, _, named, _⟩ := functions entry isDefined
      rw [functionName] at named
      split at named
      · next found =>
          cases named
          exact lookup_own_of_function resolutions found
      · cases named
    have distinct : ((m.functions.map Prod.fst).map FunctionName.symbol).Nodup := by
      refine names.map_on fun f isName g isNameToo same => ?_
      obtain ⟨entry, isDefined, rfl⟩ := List.mem_map.1 isName
      obtain ⟨other, isDefinedToo, rfl⟩ := List.mem_map.1 isNameToo
      have found := ofSymbol entry isDefined
      rw [same, ofSymbol other isDefinedToo] at found
      exact (Constant.function.inj (Option.some.inj found)).symm
    rw [List.map_map] at distinct
    exact distinct
  · rw [PointerOrigins.Module.DefinesOnce, PointerOrigins.Module.definitions, List.map_flatMap]
    refine nodup_flatMap_of_owner Prod.fst InstructionName.function names fun entry isDefined => ?_
    obtain ⟨f, _, _, becomes⟩ := functions entry isDefined
    exact becomes.distinct_definitions
  · intro entry isDefined name isLocal
    obtain ⟨f, _, _, becomes⟩ := functions entry isDefined
    rcases List.mem_append.1 isLocal with isParameter | isInstruction
    · obtain ⟨p, listed, rfl⟩ := List.mem_map.1 isParameter
      exact becomes.distinct_parameters.2 p listed
    · obtain ⟨defined, listed, rfl⟩ := List.mem_map.1 isInstruction
      exact becomes.distinct_definitions.2 defined.1 (List.mem_map_of_mem listed)

end Module

end Bitcode

/-- A module that was built or converted is consistent. -/
theorem Module.Constructed.consistent {m : Module} (constructed : m.Constructed) : m.Consistent := by
  cases constructed with
  | @built title calls _ builds =>
      exact ((ModuleBuilder.wellFormed_new title).run calls).1.consistent builds
  | converted converts => exact Bitcode.Module.consistent_of_convert converts

----------------------------------------------------------------------------------------------
-- Origins and where they stand
----------------------------------------------------------------------------------------------

/-- A trace of some pointer that the module passes to a call ends at this value. -/
def Module.TracesTo (m : Module) (origin : Operand) : Prop :=
  ∃ arg, m.PassesPointer arg ∧ origin ∈ ((Graph.ofModule m).trace arg).origins

/-- A report lists an origin for some argument of some call. -/
def ModuleReport.Lists (report : ModuleReport) (o : OriginReport) : Prop :=
  ∃ f ∈ report.functions, ∃ a ∈ f.args, o ∈ a.origins

section

variable {m : Module}

/-- Pointers that are passed are used. -/
theorem Module.uses_of_passesPointer {arg : Operand} (passes : m.PassesPointer arg) : m.Uses arg := by
  obtain ⟨entry, isDefined, p, inBody, position, isArg, _⟩ := passes
  rw [← FunctionDef.map_calls] at inBody
  obtain ⟨⟨name, d, c⟩, listed, rfl⟩ := List.mem_map.1 inBody
  obtain ⟨defined, isCall⟩ := FunctionDef.mem_calls_iff.1 listed
  exact uses_of_definition isDefined defined
    (Definition.mem_operands_of_call isCall (List.mem_of_getElem? isArg))

/-- A local value behind the casts of a value that is used is used itself. Witness: stripping a cast leads from
constants to constants, and from an instruction to its operand.
-/
theorem Graph.uses_of_canonicalize {used : Operand} (uses : m.Uses used) {name : LocalName}
    (root : (Graph.ofModule m).canonicalize used = .local name)
    : m.Uses (.local name) := by
  refine canonicalize_induction (P := fun x => ∀ name, x = .local name → m.Uses (.local name))
    (fun _ strips name isLocal => ?_) (fun _ same => same ▸ uses) name root
  rcases strip_mem strips with ⟨_, _, _, _, rfl⟩ | stored
  · cases isLocal
  · exact isLocal ▸ uses_of_mem_operands stored

namespace Module.Consistent

variable (consistent : m.Consistent)

include consistent

/-- An origin that is a local value stands in the function that it belongs to. -/
theorem exists_owner {name : LocalName} (traced : m.TracesTo (.local name))
    : ∃ body, (name.function, body) ∈ m.functions := by
  obtain ⟨arg, passes, isOrigin⟩ := traced
  obtain ⟨used, uses, root⟩ :=
    Graph.uses_of_reaches (uses_of_passesPointer passes) (Graph.mem_origins_iff.1 isOrigin).1
  obtain ⟨⟨f, body⟩, isDefined, isLocal⟩ :=
    local_of_uses consistent.valid (Graph.uses_of_canonicalize uses root)
  obtain rfl := consistent.owned _ isDefined name isLocal
  exact ⟨body, isDefined⟩

/-- A call stands in the function that its name belongs to, and is found in the index under its name. -/
theorem call_of_hasCall {name : InstructionName} {c : Call} (hasCall : m.HasCall name c)
    {body : FunctionDef} (isDefined : (name.function, body) ∈ m.functions)
    : ∃ d,
        (name, d, c) ∈ body.calls
        ∧ (Graph.ofModule m).definition? name = some d
        ∧ d.call? = some c := by
  obtain ⟨⟨f, other⟩, otherDefined, d, listed⟩ := hasCall
  obtain ⟨defined, isCall⟩ := FunctionDef.mem_calls_iff.1 listed
  obtain ⟨block, inBlocks, inBlock⟩ := List.mem_flatMap.1 defined
  have isLocal : LocalName.instruction name ∈ other.locals :=
    List.mem_append_right _ (List.mem_map.2 ⟨_, defined, rfl⟩)
  have owner : name.function = f := consistent.owned _ otherDefined _ isLocal
  subst owner
  have sameEntry := List.inj_on_of_nodup_map consistent.symbols.names otherDefined isDefined rfl
  cases sameEntry
  exact ⟨d, listed, consistent.once.definition_eq isDefined inBlocks inBlock, isCall⟩

end Module.Consistent

/-- A call is written as an origin as it is written where it is reported. -/
theorem Graph.originText_of_call {g : Graph} {name : InstructionName} {d : Definition} {call : Call}
    (defined : g.definition? name = some d) (isCall : d.call? = some call)
    : g.originText (.instruction name) = callText name d.mnemonic call.callee := by
  simp only [originText, Operand.instruction?, defined, isCall]

namespace Classifier

variable (c : Classifier)

/-- The origins that a report lists are those of the pointers that the module passes. -/
theorem lists_iff {o : OriginReport}
    : (c.reportModule m false).Lists o
      ↔ ∃ origin, m.TracesTo origin ∧ c.reportOrigin (Graph.ofModule m) origin = o := by
  have inArgs : (c.reportModule m false).Lists o
      ↔ ∃ a ∈ c.reportArgs (Graph.ofModule m) m, o ∈ a.origins := by
    simp only [reportArgs, List.mem_flatMap]
    constructor
    · rintro ⟨f, reported, a, isArg, listed⟩
      exact ⟨a, ⟨f, reported, isArg⟩, listed⟩
    · rintro ⟨a, ⟨f, reported, isArg⟩, listed⟩
      exact ⟨f, reported, a, isArg, listed⟩
  rw [inArgs]
  constructor
  · rintro ⟨a, reported, listed⟩
    obtain ⟨entry, isDefined, p, inBody, position, arg, passes, rfl⟩ :=
      (c.mem_reportArgs_iff _).1 reported
    obtain ⟨origin, isOrigin, rfl⟩ := List.mem_map.1 listed
    exact ⟨origin, ⟨arg, ⟨entry, isDefined, p, inBody, position, passes⟩, isOrigin⟩, rfl⟩
  · rintro ⟨origin, ⟨arg, ⟨entry, isDefined, p, inBody, position, passes⟩, isOrigin⟩, rfl⟩
    refine ⟨_, (c.mem_reportArgs_iff _).2 ⟨entry, isDefined, p, inBody, position, arg, passes, rfl⟩, ?_⟩
    exact List.mem_map_of_mem isOrigin

/-- Where functions have symbols of their own, the name of a report on a function tells which one it is. -/
theorem reportFunction_of_name (distinct : m.DistinctSymbols) {f : FunctionName} {body : FunctionDef}
    (isDefined : (f, body) ∈ m.functions)
    : c.reportFunction (Graph.ofModule m) f body ∈ (c.reportModule m false).functions
      ∧ ∀ other ∈ (c.reportModule m false).functions,
          other.name = f.symbol → other = c.reportFunction (Graph.ofModule m) f body := by
  have sorted := m.sortedFunctions_perm
  refine ⟨List.mem_map.2 ⟨(f, body), sorted.mem_iff.2 isDefined, rfl⟩, fun other reported same => ?_⟩
  obtain ⟨entry, listed, rfl⟩ := List.mem_map.1 reported
  have sameEntry := List.inj_on_of_nodup_map distinct (sorted.mem_iff.1 listed) isDefined same
  rw [sameEntry]

/-- In a module that was built or converted, a report lists the origins of the pointers that are passed, and
those that are local values can be looked up in it. The function of such an origin has a report under its name,
and no other function has; and where the origin is a call or invoke, this report has one on a call with the
text of the origin and with the symbol of its direct callee, if it has one.
-/
theorem reportModule_locates (constructed : m.Constructed)
    : let g := Graph.ofModule m
      let report := c.reportModule m false
      (∀ o, report.Lists o ↔ ∃ origin, m.TracesTo origin ∧ c.reportOrigin g origin = o)
      ∧ ∀ name : LocalName,
          m.TracesTo (.local name)
          → ∃ f ∈ report.functions,
              (c.reportOrigin g (.local name)).function = some f.name
              ∧ (∀ other ∈ report.functions, other.name = f.name → other = f)
              ∧ ∀ i call,
                  name = .instruction i
                  → m.HasCall i call
                  → ∃ r ∈ f.calls,
                      r.instruction = (c.reportOrigin g (.local name)).origin
                      ∧ r.callee = call.callee.direct?.map FunctionName.symbol := by
  intro g report
  have consistent := constructed.consistent
  refine ⟨fun o => c.lists_iff, fun name traced => ?_⟩
  obtain ⟨body, isDefined⟩ := consistent.exists_owner traced
  obtain ⟨reported, unique⟩ := c.reportFunction_of_name consistent.symbols isDefined
  refine ⟨c.reportFunction g name.function body, reported, rfl, unique, ?_⟩
  rintro i call rfl hasCall
  obtain ⟨d, listed, defined, isCall⟩ := consistent.call_of_hasCall hasCall isDefined
  refine ⟨c.reportCall g (i, d, call), List.mem_map_of_mem listed, ?_, rfl⟩
  exact (Graph.originText_of_call defined isCall).symm

end Classifier

end

/-- Calls that build two functions: one returns what it gets from an allocator, the other has it freed. -/
def allocatingCalls : List ModuleCall :=
  let make : FunctionName := ⟨2, "make"⟩
  let main : FunctionName := ⟨7, "main"⟩
  let made : Operand := .instruction ⟨4, ⟨3, make, "bb0"⟩, 0⟩
  let held : Operand := .instruction ⟨9, ⟨8, main, "bb0"⟩, 0⟩
  [ .declare "malloc",
    .declare "free",
    .function "make" []
      [ .terminate (.invoke (.function ⟨0, "malloc"⟩) [(.int 64 8, .int 64)] .pointer),
        .terminate (.ret (some made)) ]
      true,
    .function "main" []
      [ .add (.call (.function make) [] .pointer),
        .add (.call (.function ⟨1, "free"⟩) [(held, .pointer)] .void) ]
      true ]

/-- What is freed in one function comes from an invoke in the other one, and is found in the report on that one. -/
theorem Classifier.reportModule_locates_allocating
    : let b := ((ModuleBuilder.new "allocating").run allocatingCalls).2
      let m := b.toModule
      let made : InstructionName := ⟨4, ⟨3, ⟨2, "make"⟩, "bb0"⟩, 0⟩
      let call : Call := ⟨.operand (.function ⟨0, "malloc"⟩), [.int 64 8], [.int 64]⟩
      m.Constructed
      ∧ m.TracesTo (.instruction made)
      ∧ m.HasCall made call
      ∧ ∀ c : Classifier,
          ∃ f ∈ (c.reportModule m false).functions,
            f.name = "make"
            ∧ ∃ r ∈ f.calls,
                r.instruction = "make:bb0:0 = invoke @malloc" ∧ r.callee = some "malloc" := by
  intro b m made call
  have constructed : m.Constructed := .built (by decide : b.build = .ok m)
  have hasCall : m.HasCall made call :=
    ⟨_, List.mem_cons_self, .terminator (.invoke call), by decide⟩
  have traced : m.TracesTo (.instruction made) := by
    let main : FunctionName := ⟨7, "main"⟩
    let held : Operand := .instruction ⟨9, ⟨8, main, "bb0"⟩, 0⟩
    let freed : PlacedCall :=
      ⟨⟨10, ⟨8, main, "bb0"⟩, 1⟩, "call", ⟨.operand (.function ⟨1, "free"⟩), [held], [.pointer]⟩⟩
    refine ⟨held, ⟨_, List.mem_cons_of_mem _ List.mem_cons_self, freed, by decide, 0, rfl, rfl⟩, ?_⟩
    exact Graph.mem_origins_iff.2 ⟨.single ⟨.instruction made, by decide, by decide⟩, by decide⟩
  refine ⟨constructed, traced, hasCall, fun c => ?_⟩
  obtain ⟨_, located⟩ := c.reportModule_locates constructed
  obtain ⟨f, reported, function, _, calls⟩ := located _ traced
  obtain ⟨r, listed, text, callee⟩ := calls made call rfl hasCall
  have isText : (Graph.ofModule m).originText (.instruction made) = "make:bb0:0 = invoke @malloc" := by
    decide
  exact ⟨f, reported, (Option.some.inj function).symm, r, listed, text.trans isText, callee⟩

end PointerOrigins
