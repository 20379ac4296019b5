import Mathlib.Algebra.Order.BigOperators.Group.Finset
import PointerOrigins.Proofs.CallSites
import PointerOrigins.Proofs.TraceDepth

/-!
Origins as the solution of equations. Each trace cuts off cycles at a place of its own; nevertheless
the origins of a value are the union of the origins of what flows into it, also along cycles. What
can be reached from each other has the same origins.
-/

namespace PointerOrigins

/-- The operands that an instruction passes on: those that its result may be, may be loaded from, or
may point into.
-/
def Definition.followed? : Definition → Option (List Operand)
  | .instruction (.load pointer) => some [pointer]
  | .instruction (.getElementPtr pointer _) => some [pointer]
  | .instruction (.extractValue aggregate) => some [aggregate]
  | .instruction (.insertValue aggregate _) => some [aggregate]
  | .instruction (.intToPtr int) => some [int]
  | .instruction (.phi values) => some values
  | .instruction (.select _ whenTrue whenFalse) => some [whenTrue, whenFalse]
  | _ => none

/-- Calls pass no operands on: their arguments are bound to parameters. -/
theorem Definition.call_of_followed {d : Definition} {operands : List Operand}
    (follows : d.followed? = some operands)
    : d.call? = none := by
  rcases d with opcode | opcode <;> cases opcode <;> simp_all [followed?, call?]

namespace Graph

variable {g : Graph} {value other : Operand}

/-- The origins of a value, without their order. -/
def originSet (g : Graph) (value : Operand) : Set Operand :=
  {o | o ∈ (g.trace value).origins}

----------------------------------------------------------------------------------------------
-- Equations by steps
----------------------------------------------------------------------------------------------

/-- The origins of a value are those of the children of its root, and the root itself if a step from
it ends there. Witness: a path from the root is empty or starts with a step to a child.
-/
theorem originSet_eq (g : Graph) (value : Operand)
    : g.originSet value
      = {o | o = g.canonicalize value ∧ (g.step (g.canonicalize value)).stops = true}
        ∪ ⋃ child ∈ (g.step (g.canonicalize value)).children, g.originSet child := by
  ext o
  simp only [originSet, Set.mem_ofPred_eq, Set.mem_union, Set.mem_iUnion, mem_origins_iff,
    exists_prop]
  constructor
  · rintro ⟨path, stops⟩
    rcases path.cases_head with here | ⟨middle, ⟨child, isChild, rfl⟩, rest⟩
    · subst here
      exact .inl ⟨rfl, stops⟩
    · exact .inr ⟨child, isChild, rest, stops⟩
  · rintro (⟨rfl, stops⟩ | ⟨child, isChild, rest, stops⟩)
    · exact ⟨.refl, stops⟩
    · exact ⟨.head ⟨child, isChild, rfl⟩ rest, stops⟩

/-- Where a step only passes values on, the origins are those of the values passed on. -/
theorem originSet_of_through {children : List Operand}
    (stepped : g.step (g.canonicalize value) = .through children)
    : g.originSet value = ⋃ child ∈ children, g.originSet child := by
  rw [originSet_eq, stepped]
  simp [Step.stops, Step.children]

/-- Where a step goes nowhere, the root is the only origin. -/
theorem originSet_of_origin (stepped : g.step (g.canonicalize value) = .origin)
    : g.originSet value = {g.canonicalize value} := by
  rw [originSet_eq, stepped]
  simp [Step.stops, Step.children]

----------------------------------------------------------------------------------------------
-- Steps by definitions
----------------------------------------------------------------------------------------------

/-- The definition of a value, if it is the result of an instruction or terminator. -/
def definitionOf? (g : Graph) (value : Operand) : Option Definition :=
  value.instruction?.bind g.definition?

/-- The body that a call or invoke enters: the one of its direct callee. -/
def calledBody? (g : Graph) (value : Operand) : Option FunctionDef :=
  (g.definitionOf? value).bind fun d => d.call?.bind fun c => g.calleeBody? c.callee

/-- The operands that the instruction which defines a value passes on. -/
def followed? (g : Graph) (value : Operand) : Option (List Operand) :=
  (g.definitionOf? value).bind Definition.followed?

/-- A step from a definition enters the callee of a call, and follows the operands passed on. -/
theorem definitionStep_eq (g : Graph) (d : Definition)
    : g.definitionStep d
      = ((d.call?.map fun c => g.callStep c.callee).or (d.followed?.map .through)).getD
          .origin := by
  rcases d with opcode | opcode <;> cases opcode <;> rfl

/-- A step from a value that is defined goes by its definition. -/
theorem step_of_definition {d : Definition} (isDefined : g.definitionOf? value = some d)
    : g.step value = g.definitionStep d := by
  rcases value with _ | (_ | name) | _
  · cases isDefined
  · cases isDefined
  · have found : g.definition? name = some d := isDefined
    simp only [step, found]
  · cases isDefined

/-- A step from a value without a definition goes nowhere, but for parameters. -/
theorem step_of_undefined (undefined : g.definitionOf? value = none)
    (noParameter : ∀ p, value ≠ .parameter p)
    : g.step value = .origin := by
  rcases value with _ | (p | name) | _
  · rfl
  · exact absurd rfl (noParameter p)
  · have missing : g.definition? name = none := undefined
    simp only [step, missing]
  · rfl

/-- A step from a call leads to what the callee returns. -/
theorem step_of_calledBody {body : FunctionDef} (called : g.calledBody? value = some body)
    : g.step value = .through body.returned := by
  obtain ⟨d, isDefined, enters⟩ := Option.bind_eq_some_iff.1 called
  obtain ⟨c, isCall, entered⟩ := Option.bind_eq_some_iff.1 enters
  rw [step_of_definition isDefined, definitionStep_eq, isCall]
  simp [callStep, entered]

/-- A step from an instruction that passes operands on leads to these. -/
theorem step_of_followed {operands : List Operand} (follows : g.followed? value = some operands)
    : g.step value = .through operands := by
  obtain ⟨d, isDefined, passes⟩ := Option.bind_eq_some_iff.1 follows
  rw [step_of_definition isDefined, definitionStep_eq, Definition.call_of_followed passes, passes]
  rfl

/-- A step from anything else goes nowhere, but for parameters. -/
theorem step_of_neither (notCalled : g.calledBody? value = none)
    (notFollowed : g.followed? value = none) (noParameter : ∀ p, value ≠ .parameter p)
    : g.step value = .origin := by
  cases isDefined : g.definitionOf? value with
  | none => exact step_of_undefined isDefined noParameter
  | some d =>
      simp only [calledBody?, followed?, isDefined, Option.bind_some] at notCalled notFollowed
      rw [step_of_definition isDefined, definitionStep_eq, notFollowed]
      cases isCall : d.call? with
      | none => rfl
      | some c =>
          have noBody : g.calleeBody? c.callee = none := by simpa [isCall] using notCalled
          simp [callStep, noBody]

/-- A step from a parameter leads to what its call sites bind to it. -/
theorem parameterStep_children (g : Graph) (p : ParameterName)
    : (g.parameterStep p).children
      = (g.callGraph.callSites p.function).filterMap fun site => site.argument? p.position := by
  rw [parameterStep]
  split
  · rfl
  · split
    · next noArgument => exact (List.isEmpty_iff.1 noArgument).symm
    · rfl

/-- A step from a parameter ends there if it has no call site, or one that leaves it unbound. -/
theorem parameterStep_stops_iff (g : Graph) (p : ParameterName)
    : (g.parameterStep p).stops = true
      ↔ g.callGraph.callSites p.function = []
        ∨ ∃ site ∈ g.callGraph.callSites p.function, site.argument? p.position = none := by
  have complete
      : (!(g.callGraph.callSites p.function).isEmpty
          && (g.callGraph.callSites p.function).all
            fun site => (site.argument? p.position).isSome) = true
        ↔ ¬ (g.callGraph.callSites p.function = []
            ∨ ∃ site ∈ g.callGraph.callSites p.function, site.argument? p.position = none) := by
    simp [Option.isSome_iff_ne_none]
  rw [parameterStep]
  split
  · next bound =>
      exact iff_of_false (by simp [Step.stops]) (complete.1 bound)
  · next unbound =>
      have missing := not_not.1 (mt complete.2 unbound)
      split
      · exact iff_of_true rfl missing
      · exact iff_of_true rfl missing

/-- The origins of a parameter, from what the call sites of the module bind to it. -/
theorem originSet_of_parameter {m : Module} {p : ParameterName}
    (isParameter : (Graph.ofModule m).canonicalize value = .parameter p)
    : (Graph.ofModule m).originSet value
      = {o | o = .parameter p
          ∧ ((∀ bound, ¬ m.BindsAt p.function p.position bound)
            ∨ m.BindsAt p.function p.position none)}
        ∪ ⋃ arg ∈ {arg | m.BindsAt p.function p.position (some arg)},
            (Graph.ofModule m).originSet arg := by
  have noSite : (∀ bound, ¬ m.BindsAt p.function p.position bound)
      ↔ (CallGraph.ofModule m).callSites p.function = [] := by
    simp only [Module.bindsAt_iff, List.eq_nil_iff_forall_not_mem]
    constructor
    · intro unbound site isSite
      exact unbound _ ⟨site, isSite, rfl⟩
    · rintro none _ ⟨site, isSite, _⟩
      exact none site isSite
  have stops : ((Graph.ofModule m).parameterStep p).stops = true
      ↔ (∀ bound, ¬ m.BindsAt p.function p.position bound)
        ∨ m.BindsAt p.function p.position none := by
    rw [parameterStep_stops_iff, noSite, Module.bindsAt_iff]
    rfl
  have children : ∀ arg, arg ∈ ((Graph.ofModule m).parameterStep p).children
      ↔ m.BindsAt p.function p.position (some arg) := by
    intro arg
    rw [parameterStep_children, List.mem_filterMap, Module.bindsAt_iff]
    rfl
  rw [originSet_eq, isParameter]
  simp only [step, stops, children, Set.mem_ofPred_eq]

----------------------------------------------------------------------------------------------
-- Values that reach each other
----------------------------------------------------------------------------------------------

/-- What can be reached has no other origins. -/
theorem originSet_subset (path : g.Reaches (g.canonicalize value) (g.canonicalize other))
    : g.originSet other ⊆ g.originSet value := by
  intro o isOrigin
  have found := mem_origins_iff.1 isOrigin
  exact mem_origins_iff.2 ⟨path.trans found.1, found.2⟩

/-- A trace looks at what a trace from a value that it can reach looks at. -/
theorem visited_subset (path : g.Reaches (g.canonicalize value) (g.canonicalize other))
    : (g.trace other).visited ⊆ (g.trace value).visited := by
  intro x looked
  exact mem_visited_iff.2 (path.trans (mem_visited_iff.1 looked))

/-- A trace from a value that can be reached looks at no more values. -/
theorem visited_length_mono (path : g.Reaches (g.canonicalize value) (g.canonicalize other))
    : (g.trace other).visited.length ≤ (g.trace value).visited.length :=
  (g.nodup_visited other).length_le_of_subset (visited_subset path)

/-- A trace from a value that can be reached is not deeper. -/
theorem maxDepth_mono (path : g.Reaches (g.canonicalize value) (g.canonicalize other))
    : (g.trace other).maxDepth ≤ (g.trace value).maxDepth := by
  rw [maxDepth_eq, maxDepth_eq]
  apply Finset.sum_le_sum_of_subset
  intro x looked
  rw [List.mem_toFinset] at looked ⊢
  exact visited_subset path looked

/-- The origins of a value are those of what flows into it: of what the callee returns, for a call
into the module; of what call sites bind to it, for a parameter, which is an origin itself if it has
no call site or one that leaves it unbound; of the operands passed on, for other instructions. All
else is its own only origin. A value has all origins of the values that it can reach, and no smaller
trace; so values that reach each other agree in all three.
-/
theorem origins_transfer (m : Module) (value : Operand)
    : let g := Graph.ofModule m
      let root := g.canonicalize value
      (∀ body,
        g.calledBody? root = some body
        → g.originSet value = ⋃ returned ∈ body.returned, g.originSet returned)
      ∧ (∀ p,
          root = .parameter p
          → g.originSet value
            = {o | o = root
                ∧ ((∀ bound, ¬ m.BindsAt p.function p.position bound)
                  ∨ m.BindsAt p.function p.position none)}
              ∪ ⋃ arg ∈ {arg | m.BindsAt p.function p.position (some arg)}, g.originSet arg)
      ∧ (∀ operands,
          g.followed? root = some operands
          → g.originSet value = ⋃ operand ∈ operands, g.originSet operand)
      ∧ (g.calledBody? root = none
          → g.followed? root = none
          → (∀ p, root ≠ .parameter p)
          → g.originSet value = {root})
      ∧ (∀ other,
          g.Reaches root (g.canonicalize other)
          → g.originSet other ⊆ g.originSet value
            ∧ (g.trace other).visited.length ≤ (g.trace value).visited.length
            ∧ (g.trace other).maxDepth ≤ (g.trace value).maxDepth)
      ∧ ∀ other,
          g.Reaches root (g.canonicalize other)
          → g.Reaches (g.canonicalize other) root
          → g.originSet other = g.originSet value
            ∧ (g.trace other).visited.length = (g.trace value).visited.length
            ∧ (g.trace other).maxDepth = (g.trace value).maxDepth := by
  intro g root
  refine ⟨?_, ?_, ?_, ?_, ?_, ?_⟩
  · intro body called
    exact originSet_of_through (step_of_calledBody called)
  · intro p isParameter
    rw [isParameter]
    exact originSet_of_parameter isParameter
  · intro operands follows
    exact originSet_of_through (step_of_followed follows)
  · intro notCalled notFollowed noParameter
    exact originSet_of_origin (step_of_neither notCalled notFollowed noParameter)
  · intro other path
    exact ⟨originSet_subset path, visited_length_mono path, maxDepth_mono path⟩
  · intro other path back
    refine ⟨?_, ?_, ?_⟩
    · exact (originSet_subset path).antisymm (originSet_subset back)
    · exact (visited_length_mono path).antisymm (visited_length_mono back)
    · exact (maxDepth_mono path).antisymm (maxDepth_mono back)

end Graph

end PointerOrigins
