import PointerOrigins.Proofs.TraceDepth

/-!
When two graphs agree. What stands behind casts depends on the casts alone, and a trace on the roots and
steps alone. So graphs of different modules give the same traces if their casts are the same and their steps
are; and where steps differ in the order of children, traces differ in the order of what they find.
-/

namespace PointerOrigins

----------------------------------------------------------------------------------------------
-- Roots
----------------------------------------------------------------------------------------------

/-- The operand in front of a cast instruction. -/
def Definition.cast? : Definition → Option Operand
  | .instruction (.bitCast pointer) => some pointer
  | .instruction (.addrSpaceCast pointer) => some pointer
  | _ => none

namespace Graph

variable {g other : Graph} {value : Operand}

/-- A value that is no cast stands behind itself. -/
theorem canonicalize_of_bare (bare : g.strip? value = none) : g.canonicalize value = value := by
  simp [canonicalize, maxLookThrough, stripUpTo, bare]

/-- What holds of a value and is kept by stripping one cast holds of the value behind all casts. -/
theorem canonicalize_induction {P : Operand → Prop}
    (closed : ∀ {x y}, P x → g.strip? x = some y → P y) (start : P value)
    : P (g.canonicalize value) := by
  rw [canonicalize]
  generalize maxLookThrough = bound
  induction bound generalizing value with
  | zero => exact start
  | succ bound ih =>
      rw [stripUpTo]
      cases inner : g.strip? value with
      | none => exact start
      | some next => exact ih (closed start inner)

/-- Two graphs have the same value behind the casts of a value, if they strip the same from every value that
is met on the way.
-/
theorem canonicalize_congr {P : Operand → Prop}
    (closed : ∀ {x y}, P x → g.strip? x = some y → P y)
    (same : ∀ {x}, P x → other.strip? x = g.strip? x) (start : P value)
    : other.canonicalize value = g.canonicalize value := by
  rw [canonicalize, canonicalize]
  generalize maxLookThrough = bound
  induction bound generalizing value with
  | zero => rfl
  | succ bound ih =>
      rw [stripUpTo, stripUpTo, same start]
      cases inner : g.strip? value with
      | none => rfl
      | some next => exact ih (closed start inner)

/-- An instruction is stripped if it is a cast. -/
theorem strip_instruction (g : Graph) (name : InstructionName)
    : g.strip? (.local (.instruction name)) = (g.definition? name).bind Definition.cast? := by
  simp only [strip?]
  rcases g.definition? name with _ | (opcode | opcode)
  · rfl
  · cases opcode <;> rfl
  · rfl

/-- Graphs with the same cast instructions have the same roots. -/
theorem canonicalize_eq_of_casts
    (casts : ∀ name,
      (other.definition? name).bind Definition.cast? = (g.definition? name).bind Definition.cast?)
    : other.canonicalize = g.canonicalize := by
  have strips : ∀ x, other.strip? x = g.strip? x := by
    intro x
    rcases x with _ | (_ | name) | _
    · rfl
    · rfl
    · rw [strip_instruction, strip_instruction, casts]
    · rfl
  funext value
  exact canonicalize_congr (fun _ _ => trivial) (fun _ => strips _) trivial

----------------------------------------------------------------------------------------------
-- Steps
----------------------------------------------------------------------------------------------

/-- Steps in two graphs are related, if those from each parameter are, and those from the definitions that
each instruction has in the two.
-/
theorem step_related {related : Step → Step → Prop} (ends : related .origin .origin)
    (parameters : ∀ p, related (g.parameterStep p) (other.parameterStep p))
    (definitions : ∀ name,
      Option.Rel (fun d e => related (g.definitionStep d) (other.definitionStep e))
        (g.definition? name) (other.definition? name))
    (value : Operand)
    : related (g.step value) (other.step value) := by
  rcases value with _ | (p | name) | _
  · exact ends
  · exact parameters p
  · have steps := definitions name
    simp only [step]
    generalize g.definition? name = before, other.definition? name = after at steps
    cases steps with
    | none => exact ends
    | some steps => exact steps
  · exact ends

/-- Graphs with the same call sites have the same steps, if each instruction has definitions in the two from which
steps are the same.
-/
theorem step_eq_of_definitions (sites : other.callGraph = g.callGraph)
    (definitions : ∀ name,
      Option.Rel (fun d e => g.definitionStep d = other.definitionStep e) (g.definition? name)
        (other.definition? name))
    : other.step = g.step := by
  funext value
  refine (step_related rfl (fun p => ?_) definitions value).symm
  simp only [parameterStep, sites]

----------------------------------------------------------------------------------------------
-- Traces
----------------------------------------------------------------------------------------------

/-- Graphs with the same roots and the same steps give the same traces. -/
theorem trace_congr (roots : other.canonicalize = g.canonicalize) (steps : other.step = g.step)
    (value : Operand)
    : other.trace value = g.trace value := by
  obtain ⟨news, walk, outcome⟩ := g.trace_spec value
  rw [← roots, ← steps] at walk
  rw [trace_of_depthFirst walk, steps, outcome]

end Graph

/-- Steps that lead to the same values, in any order, and end both or neither. -/
structure Step.SameUpToOrder (step other : Step) : Prop where
  children : other.children.Perm step.children
  stops : other.stops = step.stops

/-- A step leads where it leads. -/
theorem Step.SameUpToOrder.refl (step : Step) : step.SameUpToOrder step :=
  ⟨.refl _, rfl⟩

/-- Traces that find the same, in any order. -/
structure Trace.SameUpToOrder (trace other : Trace) : Prop where
  origins : other.origins.Perm trace.origins
  visited : other.visited.Perm trace.visited
  maxDepth : other.maxDepth = trace.maxDepth

/-- Graphs with the same roots, whose steps lead to the same values in any order, give traces that find the
same in any order.
-/
theorem Graph.trace_sameUpToOrder {g other : Graph} (roots : other.canonicalize = g.canonicalize)
    (steps : ∀ x, (g.step x).SameUpToOrder (other.step x)) (value : Operand)
    : (g.trace value).SameUpToOrder (other.trace value) := by
  obtain ⟨news, walk, outcome⟩ := g.trace_spec value
  obtain ⟨others, another, otherOutcome⟩ := other.trace_spec value
  rw [roots] at another
  have reordered : ∀ x, (other.step x).children.Perm (g.step x).children :=
    fun x => (steps x).children
  have same : others.Perm news := walk.perm_of_reordered reordered another
  have stops : ∀ x, (other.step x).stops = (g.step x).stops := fun x => (steps x).stops
  rw [outcome, otherOutcome]
  refine ⟨?_, ?_, childCount_of_reordered reordered same⟩
  · simp only [stops]
    exact same.filter _
  · exact List.reverse_perm'.2 (List.perm_reverse.2 same)

end PointerOrigins
