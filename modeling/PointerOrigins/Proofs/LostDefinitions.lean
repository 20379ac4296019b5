import Mathlib.Data.List.Dedup
import PointerOrigins.Proofs.ConversionStructure
import PointerOrigins.Proofs.ReportLookup

/-!
What a conversion keeps. Functions are put into a map, and declarations and globals into sets, under what
their symbols stand for; entries that stand for the same are lost without an error. So a converted module has
as many of each kind as their symbols stand for different things, and nothing is lost exactly if no two symbols
of the module stand for the same.
-/

namespace PointerOrigins.Bitcode

variable {α : Type} {symbols : Symbols}

theorem nodup_eraseDups [BEq α] [LawfulBEq α] (entries : List α) : entries.eraseDups.Nodup := by
  induction length : entries.length using Nat.strong_induction_on generalizing entries with
  | _ count ih =>
      cases entries with
      | nil => exact List.nodup_nil
      | cons first rest =>
          have shorter : (rest.filter fun b => !b == first).length < count := by
            rw [← length, List.length_cons]
            exact Nat.lt_succ_of_le (List.length_filter_le _ _)
          rw [List.eraseDups_cons, List.nodup_cons, List.mem_eraseDups]
          exact ⟨by simp, ih _ shorter _ rfl⟩

/-- The names in a map of functions are those that were put there. -/
theorem mem_keys_foldl_putFunction (functions more : List (FunctionName × FunctionDef)) (f : FunctionName)
    : f ∈ (more.foldl putFunction functions).map Prod.fst
      ↔ f ∈ functions.map Prod.fst ∨ f ∈ more.map Prod.fst := by
  induction more generalizing functions with
  | nil => simp
  | cons first rest ih =>
      have put : f ∈ (putFunction functions first).map Prod.fst
          ↔ f ∈ functions.map Prod.fst ∨ f = first.1 := by
        by_cases isFirst : f = first.1
        · simp [putFunction, isFirst]
        · simp only [putFunction, List.map_append, List.mem_append, List.mem_map, List.mem_filter, bne_iff_ne]
          grind
      rw [List.foldl_cons, ih, put, List.map_cons, List.mem_cons, or_assoc]

theorem functionName_ok_iff {symbol : String} {f : FunctionName}
    : functionName symbols symbol = .ok f ↔ symbols.lookup symbol = some (.function f) := by
  rw [functionName]
  split
  · next found => simp [found]
  · next other => simpa using other f

theorem globalName_ok_iff {symbol : String} {g : GlobalName}
    : globalName symbols symbol = .ok g ↔ symbols.lookup symbol = some (.global g) := by
  rw [globalName]
  split
  · next found => simp [found]
  · next other => simpa using other g

/-- A list has everything that some symbols stand for, and nothing else, each once. -/
structure Enumerates (symbols : Symbols) (constant : α → Constant) (sources : List String) (kept : List α)
    : Prop where
  distinct : kept.Nodup
  stands : ∀ s ∈ sources, ∃ a ∈ kept, symbols.lookup s = some (constant a)
  named : ∀ a ∈ kept, ∃ s ∈ sources, symbols.lookup s = some (constant a)

namespace Enumerates

variable {constant : α → Constant} {sources : List String} {kept : List α}

/-- Distinct entries that are those of a list enumerate what the list was looked up for. -/
theorem of_pairs {results : List α}
    (pairs : List.Forall₂ (fun s a => symbols.lookup s = some (constant a)) sources results)
    (distinct : kept.Nodup) (same : ∀ a, a ∈ kept ↔ a ∈ results)
    : Enumerates symbols constant sources kept := by
  refine ⟨distinct, fun s isSource => ?_, fun a isKept => ?_⟩
  · obtain ⟨a, isResult, found⟩ := exists_of_pairs pairs isSource
    exact ⟨a, (same a).2 isResult, found⟩
  · exact exists_of_pairs pairs.flip ((same a).1 isKept)

/-- A constant is looked up for one of the symbols exactly if it is that of an entry. -/
theorem mem_iff (enumerates : Enumerates symbols constant sources kept) {found : Option Constant}
    : found ∈ sources.map (fun s => symbols.lookup s) ↔ ∃ a ∈ kept, found = some (constant a) := by
  rw [List.mem_map]
  constructor
  · intro lookedUp
    obtain ⟨s, isSource, rfl⟩ := lookedUp
    exact enumerates.stands s isSource
  · intro isConstant
    obtain ⟨a, isKept, rfl⟩ := isConstant
    exact enumerates.named a isKept

/-- There are as many entries as the symbols stand for different things. -/
theorem length_eq (enumerates : Enumerates symbols constant sources kept)
    (injective : Function.Injective constant)
    : kept.length = (sources.map fun s => symbols.lookup s).dedup.length := by
  have distinct : (kept.map fun a => some (constant a)).Nodup :=
    enumerates.distinct.map fun _ _ same => injective (Option.some.inj same)
  have permutes : (kept.map fun a => some (constant a)).Perm (sources.map fun s => symbols.lookup s).dedup := by
    refine (List.perm_ext_iff_of_nodup distinct (List.nodup_dedup _)).2 fun found => ?_
    rw [List.mem_dedup, enumerates.mem_iff, List.mem_map]
    simp only [eq_comm]
  rw [← permutes.length_eq, List.length_map]

/-- No entry is missing exactly if the symbols stand for different things. -/
theorem length_eq_iff (enumerates : Enumerates symbols constant sources kept)
    (injective : Function.Injective constant)
    : kept.length = sources.length ↔ (sources.map fun s => symbols.lookup s).Nodup := by
  have all : sources.length = (sources.map fun s => symbols.lookup s).length := by rw [List.length_map]
  rw [enumerates.length_eq injective, all, (List.dedup_sublist _).length_eq, List.dedup_eq_self]

end Enumerates

namespace Module

variable {source : Module} {m : PointerOrigins.Module}

/-- A converted module has what the symbols of each kind stand for. -/
theorem convert_enumerates (converts : source.convert = .ok m)
    : ∃ symbols,
        source.symbols = .ok symbols
        ∧ Enumerates symbols .function (source.functions.map Function.name) (m.functions.map Prod.fst)
        ∧ Enumerates symbols .function source.decls m.decls
        ∧ Enumerates symbols .global source.globals m.globals := by
  simp only [convert, convertUnchecked, bind_eq_ok_iff, pure_eq_ok_iff, lift_eq_ok_iff, mapM_eq_ok_iff,
    functionName_ok_iff, globalName_ok_iff] at converts
  obtain ⟨_, ⟨symbols, resolved, made⟩, _, _, rfl⟩ := converts
  obtain ⟨functions, areFunctions, decls, areDecls, globals, areGlobals, rfl⟩ := made
  refine ⟨symbols, resolved, ?_, ?_, ?_⟩
  · have pairs : List.Forall₂ (fun s f => symbols.lookup s = some (.function f))
        (source.functions.map Function.name) (functions.map Prod.fst) := by
      rw [List.forall₂_map_left_iff, List.forall₂_map_right_iff]
      refine areFunctions.imp fun f entry converted => ?_
      obtain ⟨name, found, _, _, rfl⟩ := converted
      exact found
    refine .of_pairs pairs (foldl_putFunction_spec [] functions List.nodup_nil).1 fun f => ?_
    rw [mem_keys_foldl_putFunction]
    simp
  · exact .of_pairs areDecls (nodup_eraseDups _) fun _ => List.mem_eraseDups
  · exact .of_pairs areGlobals (nodup_eraseDups _) fun _ => List.mem_eraseDups

/-- Nothing of a module is lost in another one: it has as many functions, declarations and globals, and no
function is both defined and declared.
-/
structure KeptBy (source : Module) (m : PointerOrigins.Module) : Prop where
  functions : m.functions.length = source.functions.length
  decls : m.decls.length = source.decls.length
  globals : m.globals.length = source.globals.length
  apart : ∀ f body, (f, body) ∈ m.functions → f ∉ m.decls

/-- Where symbols are distinct nothing is lost. -/
theorem DistinctSymbols.keptBy (distinct : source.DistinctSymbols) (converts : source.convert = .ok m)
    : source.KeptBy m := by
  simp only [convert, bind_eq_ok_iff, pure_eq_ok_iff, convertUnchecked_eq_ok_iff distinct] at converts
  obtain ⟨_, ⟨symbols, _, becomes⟩, _, _, rfl⟩ := converts
  refine ⟨becomes.functions.length_eq.symm, becomes.decls.length_eq.symm, ?_, ?_⟩
  · rw [← becomes.globals, List.length_map]
  · intro f body defined declared
    obtain ⟨function, isFunction, converted⟩ := exists_of_pairs becomes.functions.flip defined
    obtain ⟨symbol, isDeclared, _, rfl⟩ := exists_of_pairs becomes.decls.flip declared
    obtain ⟨_, _, apart⟩ := List.nodup_append.1 (List.nodup_append.1 (List.nodup_append.1 distinct).1).1
    exact apart _ (List.mem_map_of_mem isFunction) _ isDeclared converted.named.2.symm

/-- Functions and declarations are apart exactly if their symbols stand for different things. -/
theorem apart_iff {symbols : Symbols}
    (functions : Enumerates symbols .function (source.functions.map Function.name) (m.functions.map Prod.fst))
    (decls : Enumerates symbols .function source.decls m.decls)
    : (∀ f body, (f, body) ∈ m.functions → f ∉ m.decls)
      ↔ List.Disjoint ((source.functions.map Function.name).map fun s => symbols.lookup s)
          (source.decls.map fun s => symbols.lookup s) := by
  constructor
  · intro apart found ofFunction ofDecl
    obtain ⟨f, isKept, rfl⟩ := functions.mem_iff.1 ofFunction
    obtain ⟨d, isDeclared, same⟩ := decls.mem_iff.1 ofDecl
    obtain rfl : f = d := Constant.function.inj (Option.some.inj same)
    obtain ⟨⟨_, body⟩, isDefined, rfl⟩ := List.mem_map.1 isKept
    exact apart _ body isDefined isDeclared
  · intro disjoint f body isDefined isDeclared
    exact disjoint (functions.mem_iff.2 ⟨f, List.mem_map_of_mem isDefined, rfl⟩)
      (decls.mem_iff.2 ⟨f, isDeclared, rfl⟩)

/-- Nothing is lost exactly if no two symbols of the module stand for the same. -/
theorem keptBy_iff {symbols : Symbols}
    (functions : Enumerates symbols .function (source.functions.map Function.name) (m.functions.map Prod.fst))
    (decls : Enumerates symbols .function source.decls m.decls)
    (globals : Enumerates symbols .global source.globals m.globals)
    : source.KeptBy m ↔ (source.ownNames.map fun s => symbols.lookup s).Nodup := by
  have functionsKept := functions.length_eq_iff fun _ _ => Constant.function.inj
  have declsKept := decls.length_eq_iff fun _ _ => Constant.function.inj
  have globalsKept := globals.length_eq_iff fun _ _ => Constant.global.inj
  have apartIff := apart_iff functions decls
  rw [List.length_map, List.length_map] at functionsKept
  -- A global is no function, so that these two are always apart.
  have globalsApart : List.Disjoint
      (((source.functions.map Function.name).map fun s => symbols.lookup s)
        ++ source.decls.map fun s => symbols.lookup s)
      (source.globals.map fun s => symbols.lookup s) := by
    rw [List.disjoint_append_left]
    constructor
    · intro found ofFunction ofGlobal
      obtain ⟨f, _, rfl⟩ := functions.mem_iff.1 ofFunction
      obtain ⟨g, _, same⟩ := globals.mem_iff.1 ofGlobal
      cases same
    · intro found ofDecl ofGlobal
      obtain ⟨d, _, rfl⟩ := decls.mem_iff.1 ofDecl
      obtain ⟨g, _, same⟩ := globals.mem_iff.1 ofGlobal
      cases same
  rw [ownNames, List.map_append, List.nodup_append', List.map_append, List.nodup_append', ← functionsKept,
    ← declsKept, ← globalsKept, ← apartIff]
  constructor
  · intro kept
    exact ⟨⟨kept.functions, kept.decls, kept.apart⟩, kept.globals, globalsApart⟩
  · intro distinct
    obtain ⟨⟨functions, decls, apart⟩, globals, _⟩ := distinct
    exact ⟨functions, decls, globals, apart⟩

/-- A converted module has as many functions, declarations and globals as their symbols stand for different
things. So nothing is lost exactly if all these symbols stand for different things. For that no two of them may
be the same, and it is enough that no alias has one of them either.
-/
theorem convert_keeps_iff (converts : source.convert = .ok m)
    : ∃ symbols,
        source.symbols = .ok symbols
        ∧ m.functions.length = (source.functions.map fun f => symbols.lookup f.name).dedup.length
        ∧ m.decls.length = (source.decls.map fun s => symbols.lookup s).dedup.length
        ∧ m.globals.length = (source.globals.map fun s => symbols.lookup s).dedup.length
        ∧ (source.KeptBy m ↔ (source.ownNames.map fun s => symbols.lookup s).Nodup)
        ∧ (source.KeptBy m → source.ownNames.Nodup)
        ∧ (source.DistinctSymbols → source.KeptBy m) := by
  obtain ⟨symbols, resolved, functions, decls, globals⟩ := convert_enumerates converts
  have functionCount := functions.length_eq fun _ _ => Constant.function.inj
  rw [List.length_map, List.map_map] at functionCount
  have kept := keptBy_iff functions decls globals
  refine ⟨symbols, resolved, functionCount, decls.length_eq fun _ _ => Constant.function.inj,
    globals.length_eq fun _ _ => Constant.global.inj, kept, fun keeps => (kept.1 keeps).of_map,
    fun distinct => distinct.keptBy converts⟩

/-- Nothing is lost of a module whose aliases both stand for its function. -/
theorem convert_keeps_iff_usedBefore
    : usedBefore.DistinctSymbols
      ∧ usedBefore.convert = .ok usedBeforeConverted
      ∧ usedBefore.ownNames.Nodup
      ∧ usedBefore.KeptBy usedBeforeConverted := by
  have distinct : usedBefore.DistinctSymbols := by
    rw [DistinctSymbols]
    decide
  have converts : usedBefore.convert = .ok usedBeforeConverted := by decide +kernel
  obtain ⟨_, _, _, _, _, _, distinctOwn, keeps⟩ := convert_keeps_iff converts
  exact ⟨distinct, converts, distinctOwn (keeps distinct), keeps distinct⟩

/-- Two functions with one symbol. -/
def definedTwice : Module :=
  let pointer : Ty := .pointer 0 (.int 8)
  { name := "m"
    functions :=
      [ { name := "f", params := [], blocks := [{ name := .text "a", instrs := [], term := .ret none }] },
        { name := "f"
          params := [(.text "p", pointer)]
          blocks := [{ name := .text "b", instrs := [], term := .ret (some (.local (.text "p") pointer)) }] } ]
    decls := []
    globals := []
    aliases := []
    structs := [] }

/-- What is left of the two functions. -/
def definedTwiceConverted : PointerOrigins.Module :=
  let second : FunctionName := ⟨1, "f"⟩
  let p : ParameterName := ⟨0, second, "p", 0⟩
  let b : BlockName := ⟨0, second, "b"⟩
  { name := "m"
    decls := []
    functions := [(second, ⟨[p], [⟨b, [], ⟨⟨0, b, 0⟩, .ret (some (.parameter p)), .void⟩⟩]⟩)]
    globals := [] }

/-- A function that is also declared. -/
def definedAndDeclared : Module :=
  { name := "m"
    functions :=
      [{ name := "f", params := [], blocks := [{ name := .text "a", instrs := [], term := .ret none }] }]
    decls := ["f"]
    globals := []
    aliases := []
    structs := [] }

/-- The name of the declaration is given to both. -/
def definedAndDeclaredConverted : PointerOrigins.Module :=
  let f : FunctionName := ⟨1, "f"⟩
  let a : BlockName := ⟨0, f, "a"⟩
  { name := "m"
    decls := [f]
    functions := [(f, ⟨[], [⟨a, [], ⟨⟨0, a, 0⟩, .ret none, .void⟩⟩]⟩)]
    globals := [] }

/-- The first of two functions with one symbol is lost, and a function that is also declared is both in the
result.
-/
theorem convert_loses_duplicates
    : definedTwice.convert = .ok definedTwiceConverted
      ∧ definedTwiceConverted.functions.length < definedTwice.functions.length
      ∧ definedAndDeclared.convert = .ok definedAndDeclaredConverted
      ∧ ∃ f body,
          (f, body) ∈ definedAndDeclaredConverted.functions
          ∧ f ∈ definedAndDeclaredConverted.decls := by
  have lost : definedTwice.convert = .ok definedTwiceConverted := by decide +kernel
  have both : definedAndDeclared.convert = .ok definedAndDeclaredConverted := by decide +kernel
  exact ⟨lost, by decide, both, _, _, List.mem_cons_self, List.mem_cons_self⟩

end Module

end PointerOrigins.Bitcode
