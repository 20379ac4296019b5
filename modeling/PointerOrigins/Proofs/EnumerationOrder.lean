import PointerOrigins.Report
import PointerOrigins.Proofs.ModuleExtension

/-!
The order in which a module enumerates its functions, declarations and globals makes no difference. The
functions are sorted before their calls are looked at, which is one order only if symbols are distinct;
definitions are collected as they are enumerated, which is harmless if none of them hides another one. From
this on everything is the same, down to the order of origins in a report.
-/

namespace PointerOrigins

namespace Module

/-- Two modules have the same contents, enumerated in any order. -/
structure SameContents (m other : Module) : Prop where
  title : other.name = m.name
  decls : other.decls.Perm m.decls
  functions : other.functions.Perm m.functions
  globals : other.globals.Perm m.globals

namespace SameContents

variable {m other : Module} (same : m.SameContents other)

include same

/-- Where nothing is defined twice, instructions and terminators have the same definitions. -/
theorem definition_eq (once : m.DefinesOnce) (name : InstructionName)
    : (Graph.ofModule other).definition? name = (Graph.ofModule m).definition? name :=
  once.definition_eq_of_perm same.functions name

/-- The same casts stand in front of a value. -/
theorem canonicalize_eq (once : m.DefinesOnce)
    : (Graph.ofModule other).canonicalize = (Graph.ofModule m).canonicalize := by
  refine Graph.canonicalize_eq_of_casts fun name => ?_
  rw [same.definition_eq once]

variable (distinct : m.DistinctSymbols)

include distinct

/-- Where symbols are distinct, sorting leaves nothing of the order of enumeration. -/
theorem sortedFunctions_eq : other.sortedFunctions = m.sortedFunctions := by
  have sorted := other.sortedFunctions_inSymbolOrder
  have alsoSorted : m.InSymbolOrder other.sortedFunctions :=
    ⟨sorted.complete.trans same.functions, sorted.ordered⟩
  exact alsoSorted.unique distinct m.sortedFunctions_inSymbolOrder

/-- Functions have the same bodies. -/
theorem body_eq : other.body? = m.body? :=
  funext (distinct.names.body_eq same.functions)

/-- The same call sites are listed in the same order. -/
theorem callGraph_eq : CallGraph.ofModule other = CallGraph.ofModule m := by
  have arity : ∀ f, other.arity? f = m.arity? f := by
    intro f
    rw [arity?, arity?, same.body_eq distinct]
  simp only [CallGraph.ofModule, callSites, same.sortedFunctions_eq distinct,
    sitesOfCall_congr arity]

variable (once : m.DefinesOnce)

include once

/-- A step back leads to the same values in the same order. -/
theorem step_eq : (Graph.ofModule other).step = (Graph.ofModule m).step := by
  have definitionStep : (Graph.ofModule other).definitionStep = (Graph.ofModule m).definitionStep := by
    funext d
    simp only [Graph.definitionStep_eq, Graph.callStep, Graph.calleeBody?, Graph.ofModule,
      same.body_eq distinct]
  refine Graph.step_eq_of_definitions (same.callGraph_eq distinct) fun name => ?_
  rw [same.definition_eq once, definitionStep]
  cases (Graph.ofModule m).definition? name with
  | none => exact .none
  | some d => exact .some rfl

/-- A trace has the same outcome, with its origins in the same order. -/
theorem trace_eq (value : Operand)
    : (Graph.ofModule other).trace value = (Graph.ofModule m).trace value :=
  Graph.trace_congr (same.canonicalize_eq once) (same.step_eq distinct once) value

end SameContents

end Module

/-- A function is reported the same by graphs with the same definitions and traces. -/
theorem Classifier.reportFunction_congr (c : Classifier) {g other : Graph}
    (definitions : ∀ name, other.definition? name = g.definition? name)
    (traces : ∀ value, other.trace value = g.trace value)
    : c.reportFunction other = c.reportFunction g := by
  have origins : c.reportOrigin other = c.reportOrigin g := by
    funext origin
    rcases origin with _ | (_ | name) | _
    · rfl
    · rfl
    · simp only [reportOrigin, Graph.originText, Operand.instruction?, classify, definitions]
    · rfl
  have args : c.reportArg other = c.reportArg g := by
    funext position arg
    simp only [reportArg, traces, origins]
  have calls : c.reportCall other = c.reportCall g := by
    funext entry
    simp only [reportCall, args]
  funext name f
  simp only [reportFunction, calls]

/-- Where no two functions share a symbol and nothing is defined twice, definitions, call sites, traces and
reports do not depend on the order in which the module is enumerated.
-/
theorem Module.results_of_sameContents {m other : Module} (same : m.SameContents other)
    (distinct : m.DistinctSymbols) (once : m.DefinesOnce)
    : (∀ name, (Graph.ofModule other).definition? name = (Graph.ofModule m).definition? name)
      ∧ (∀ f, (CallGraph.ofModule other).callSites f = (CallGraph.ofModule m).callSites f)
      ∧ (∀ value, (Graph.ofModule other).trace value = (Graph.ofModule m).trace value)
      ∧ ∀ (c : Classifier) onlyUnresolved,
          c.reportModule other onlyUnresolved = c.reportModule m onlyUnresolved := by
  have definitions := same.definition_eq once
  have traces := same.trace_eq distinct once
  refine ⟨definitions, fun f => ?_, traces, fun c onlyUnresolved => ?_⟩
  · rw [same.callGraph_eq distinct]
  · simp only [Classifier.reportModule, same.title, same.sortedFunctions_eq distinct,
      c.reportFunction_congr definitions traces]

/-- A module that is enumerated from the end. -/
def Module.reversed (m : Module) : Module :=
  { m with
    decls := m.decls.reverse
    functions := m.functions.reverse
    globals := m.globals.reverse }

/-- The parameter of the worker has the same origins in the same order, and the two call sites are listed in the
same order, also if the module is enumerated from the end.
-/
theorem Module.results_of_sameContents_startedTwice
    : let other := startedTwice.reversed
      let worker : FunctionName := ⟨1, "worker"⟩
      let arg : Operand := .parameter ⟨5, worker, "arg", 0⟩
      startedTwice.SameContents other
      ∧ startedTwice.DistinctSymbols
      ∧ startedTwice.DefinesOnce
      ∧ other.functions ≠ startedTwice.functions
      ∧ (CallGraph.ofModule other).callSites worker = (CallGraph.ofModule startedTwice).callSites worker
      ∧ (Graph.ofModule other).trace arg = (Graph.ofModule startedTwice).trace arg
      ∧ ∀ (c : Classifier) onlyUnresolved,
          c.reportModule other onlyUnresolved = c.reportModule startedTwice onlyUnresolved := by
  intro other worker arg
  have same : startedTwice.SameContents other :=
    ⟨rfl, List.reverse_perm _, List.reverse_perm _, List.reverse_perm _⟩
  have distinct : startedTwice.DistinctSymbols := by decide
  have once : startedTwice.DefinesOnce := by decide
  obtain ⟨_, callSites, traces, reports⟩ := Module.results_of_sameContents same distinct once
  exact ⟨same, distinct, once, by decide, callSites worker, traces arg, reports⟩

end PointerOrigins
