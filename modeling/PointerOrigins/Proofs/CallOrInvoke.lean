import PointerOrigins.Classifier
import PointerOrigins.Proofs.ProgramOrder
import PointerOrigins.Proofs.UsedValues

/-!
An invoke in place of a call. A block may be split at a call instruction: its first part then ends in an
invoke with the name, callee and arguments of the call, and a block of its own follows with the rest.
Bodies before and after have the same parameters and returns, and the same definitions in the same order
but for the one that is an invoke now. From this alone it follows that steps, roots, call sites and kinds
are the same, and that both modules pass their check or neither does.
-/

namespace PointerOrigins

----------------------------------------------------------------------------------------------
-- The change
----------------------------------------------------------------------------------------------

/-- A block is split at a call instruction, which becomes the invoke that ends the first part. -/
inductive Block.SplitsAtCall (name : InstructionName) (c : Call) : Block → Block → Block → Prop
  | intro {block rest : BlockName} {preceding following : List Instruction} {ty invokeTy : Ty}
    {terminator : Terminator}
    : SplitsAtCall name c
        ⟨block, preceding ++ ⟨name, .call c, ty⟩ :: following, terminator⟩
        ⟨block, preceding, ⟨name, .invoke c, invokeTy⟩⟩
        ⟨rest, following, terminator⟩

/-- One block of a body is split at a call instruction. -/
inductive FunctionDef.InvokesInstead (name : InstructionName) (c : Call)
    : FunctionDef → FunctionDef → Prop
  | intro {parameters : List ParameterName} {before after : List Block} {block first rest : Block}
    (splits : block.SplitsAtCall name c first rest)
    : InvokesInstead name c ⟨parameters, before ++ block :: after⟩
        ⟨parameters, before ++ first :: rest :: after⟩

/-- One call instruction of a module becomes an invoke. -/
inductive Module.InvokesInstead (name : InstructionName) (c : Call) : Module → Module → Prop
  | intro {title : String} {decls : List FunctionName} {globals : List GlobalName}
    {before after : List (FunctionName × FunctionDef)} {f : FunctionName}
    {body changed : FunctionDef} (changes : body.InvokesInstead name c changed)
    : InvokesInstead name c ⟨title, decls, before ++ (f, body) :: after, globals⟩
        ⟨title, decls, before ++ (f, changed) :: after, globals⟩

----------------------------------------------------------------------------------------------
-- What the change leaves alone
----------------------------------------------------------------------------------------------

/-- A definition and the one in its place: the same, or an invoke in place of one call. -/
inductive Definition.Alike (name : InstructionName) (c : Call)
    : InstructionName × Definition → InstructionName × Definition → Prop
  | same (entry : InstructionName × Definition) : Definition.Alike name c entry entry
  | invoke : Definition.Alike name c (name, .instruction (.call c)) (name, .terminator (.invoke c))

/-- A body and the one in its place. -/
structure FunctionDef.Alike (name : InstructionName) (c : Call) (body other : FunctionDef)
    : Prop where
  parameters : other.parameters = body.parameters
  returned : other.returned = body.returned
  definitions : List.Forall₂ (Definition.Alike name c) body.definitions other.definitions

/-- A function and the one in its place. -/
structure FunctionDef.NamedAlike (name : InstructionName) (c : Call)
    (entry other : FunctionName × FunctionDef)
    : Prop where
  function : other.1 = entry.1
  body : entry.2.Alike name c other.2

/-- A module and the one in its place. -/
structure Module.Alike (name : InstructionName) (c : Call) (m other : Module) : Prop where
  title : other.name = m.name
  decls : other.decls = m.decls
  globals : other.globals = m.globals
  functions : List.Forall₂ (FunctionDef.NamedAlike name c) m.functions other.functions

variable {name : InstructionName} {c : Call}

/-- A body is like itself. -/
theorem FunctionDef.Alike.refl (body : FunctionDef) : body.Alike name c body :=
  ⟨rfl, rfl, List.forall₂_same.2 fun entry _ => .same entry⟩

/-- Splitting a block leaves the parameters and returns of its function alone, and all definitions but
one. Witness: neither the call nor the invoke returns anything, and both stand between the same
definitions.
-/
theorem FunctionDef.InvokesInstead.alike {body changed : FunctionDef}
    (changes : body.InvokesInstead name c changed)
    : body.Alike name c changed := by
  obtain ⟨splits⟩ := changes
  obtain ⟨⟩ := splits
  refine ⟨rfl, ?_, ?_⟩
  · simp [returned, Block.returned?, List.filterMap_cons]
  · have kept : ∀ entries, List.Forall₂ (Definition.Alike name c) entries entries :=
      fun entries => List.forall₂_same.2 fun entry _ => .same entry
    simp only [definitions, Block.definitions, List.flatMap_append, List.flatMap_cons,
      List.map_append, List.map_cons, List.append_assoc, List.cons_append, List.nil_append]
    exact List.rel_append (kept _) (List.rel_append (kept _) (.cons .invoke (kept _)))

/-- One changed function makes the module another one that is like it. -/
theorem Module.InvokesInstead.alike {m other : Module} (changes : m.InvokesInstead name c other)
    : m.Alike name c other := by
  obtain ⟨inBody⟩ := changes
  have kept : ∀ entries, List.Forall₂ (FunctionDef.NamedAlike name c) entries entries :=
    fun entries => List.forall₂_same.2 fun entry _ => ⟨rfl, .refl entry.2⟩
  exact ⟨rfl, rfl, rfl, List.rel_append (kept _) (.cons ⟨rfl, inBody.alike⟩ (kept _))⟩

namespace Definition.Alike

variable {entry other : InstructionName × Definition}

/-- Definitions that are alike have the same name. -/
theorem name_eq (alike : Definition.Alike name c entry other) : other.1 = entry.1 := by
  cases alike <;> rfl

/-- Definitions that are alike make the same call. -/
theorem call_eq (alike : Definition.Alike name c entry other) : other.2.call? = entry.2.call? := by
  cases alike <;> rfl

/-- Definitions that are alike use the same operands. A call lists its callee first, and an invoke
last.
-/
theorem operands_perm (alike : Definition.Alike name c entry other)
    : other.2.operands.Perm entry.2.operands := by
  cases alike with
  | same => exact .refl _
  | invoke => exact List.perm_append_comm

/-- One step back from definitions that are alike is the same. -/
theorem step_eq (alike : Definition.Alike name c entry other) (g : Graph)
    : g.definitionStep other.2 = g.definitionStep entry.2 := by
  cases alike <;> rfl

/-- Definitions that are alike have the same kind. -/
theorem kind_eq (alike : Definition.Alike name c entry other) (classifier : Classifier)
    : classifier.definition (some other.2) = classifier.definition (some entry.2) := by
  cases alike <;> rfl

end Definition.Alike

/-- A listed call and the one in its place. -/
structure Definition.CallsAlike (name : InstructionName) (c : Call)
    (entry other : InstructionName × Definition × Call)
    : Prop where
  definition : Definition.Alike name c (entry.1, entry.2.1) (other.1, other.2.1)
  isCall : entry.2.1.call? = some entry.2.2
  call : other.2.2 = entry.2.2

namespace FunctionDef.Alike

variable {body other : FunctionDef}

/-- Bodies that are alike make the same calls in the same order. -/
theorem calls (alike : body.Alike name c other)
    : List.Forall₂ (Definition.CallsAlike name c) body.calls other.calls := by
  rw [calls_eq, calls_eq]
  refine List.rel_filterMap ?_ alike.definitions
  intro entry other same
  change Option.Rel _ (entry.2.call?.map _) (other.2.call?.map _)
  rw [same.call_eq]
  cases isCall : entry.2.call? with
  | none => exact .none
  | some call => exact .some ⟨same, isCall, rfl⟩

/-- Bodies that are alike have the same locals. -/
theorem locals_eq (alike : body.Alike name c other) : other.locals = body.locals := by
  rw [locals, locals, alike.parameters,
    map_eq_of_pairs (fun same => congrArg LocalName.instruction same.name_eq) alike.definitions]

/-- Bodies that are alike use the same operands. -/
theorem operands_perm (alike : body.Alike name c other)
    : other.operands.Perm body.operands := by
  rw [operands_eq, operands_eq]
  exact flatMap_perm_of_pairs (fun same => same.operands_perm) alike.definitions

end FunctionDef.Alike

----------------------------------------------------------------------------------------------
-- Modules that are alike
----------------------------------------------------------------------------------------------

namespace Module.Alike

variable {m other : Module}

/-- Functions have as many parameters in one module as in the other. -/
theorem arity_eq (alike : m.Alike name c other) (f : FunctionName)
    : other.arity? f = m.arity? f :=
  arity_eq_of_pairs (fun same => same.function) alike.functions (fun same => same.body.parameters) f

/-- Both modules know the same functions. -/
theorem knowsFunction_eq (alike : m.Alike name c other) (f : FunctionName)
    : other.knowsFunction f = m.knowsFunction f := by
  have defined : (other.body? f).isSome = (m.body? f).isSome := by
    simpa [arity?] using congrArg Option.isSome (alike.arity_eq f)
  rw [knowsFunction, knowsFunction, defined, alike.decls]

/-- Both modules list their functions in the same order. -/
theorem sortedFunctions (alike : m.Alike name c other)
    : List.Forall₂ (FunctionDef.NamedAlike name c) m.sortedFunctions other.sortedFunctions :=
  sortedFunctions_pairs (fun same => same.function) alike.functions

/-- Both modules have the same call sites. -/
theorem callSites_eq (alike : m.Alike name c other) : other.callSites = m.callSites := by
  refine callSites_eq_of_pairs (fun same => same.function) alike.functions fun same => ?_
  refine map_eq_of_pairs (fun callsAlike => ?_) same.body.calls
  rw [sitesOfCall_congr alike.arity_eq, callsAlike.definition.name_eq, callsAlike.call]

/-- Both modules pass their check or neither does. -/
theorem validate_iff (alike : m.Alike name c other)
    : other.validate = .ok () ↔ m.validate = .ok () := by
  have faults : ∀ user locals op,
      other.operandError? user locals op = m.operandError? user locals op := by
    intro user locals op
    rcases op with k | _ | _
    · simp only [operandError?, alike.knowsFunction_eq, knowsGlobal, alike.globals]
      rfl
    · rfl
    · rfl
  rw [validate_eq_ok_iff, validate_eq_ok_iff]
  refine forall_mem_iff_of_pairs (fun same => ?_) alike.functions
  simp only [same.function, same.body.locals_eq, same.body.operands_perm.mem_iff, faults]

/-- An instruction has a definition in neither module, or definitions that are alike. -/
theorem definition (alike : m.Alike name c other) (i : InstructionName)
    : (Graph.ofModule m).definition? i = none ∧ (Graph.ofModule other).definition? i = none
      ∨ ∃ before after,
          (Graph.ofModule m).definition? i = some before
          ∧ (Graph.ofModule other).definition? i = some after
          ∧ Definition.Alike name c (i, before) (i, after) := by
  refine lookup_of_pairs (fun same => same.name_eq) ?_ i
  refine List.rel_reverse (List.rel_flatMap alike.functions ?_)
  exact fun _ _ same => same.body.definitions

----------------------------------------------------------------------------------------------
-- Traces and kinds
----------------------------------------------------------------------------------------------

/-- A call leads to the same values in both modules. -/
theorem callStep_eq (alike : m.Alike name c other) (callee : Callee)
    : (Graph.ofModule other).callStep callee = (Graph.ofModule m).callStep callee :=
  callStep_eq_of_pairs (fun same => same.function) alike.functions (fun same => same.body.returned)
    callee

/-- A step back leads to the same values in both modules. -/
theorem step_eq (alike : m.Alike name c other)
    : (Graph.ofModule other).step = (Graph.ofModule m).step := by
  have ofDefinition : ∀ d,
      (Graph.ofModule other).definitionStep d = (Graph.ofModule m).definitionStep d := by
    intro d
    simp only [Graph.definitionStep_eq, alike.callStep_eq]
  refine Graph.step_eq_of_definitions (CallGraph.ofModule_congr alike.callSites_eq) fun i => ?_
  rcases alike.definition i with ⟨missing, stillMissing⟩ | ⟨before, after, found, otherFound, same⟩
  · rw [missing, stillMissing]
    exact .none
  · rw [found, otherFound]
    exact .some ((same.step_eq _).symm.trans (ofDefinition after).symm)

/-- The same casts stand in front of a value in both modules. -/
theorem canonicalize_eq (alike : m.Alike name c other)
    : (Graph.ofModule other).canonicalize = (Graph.ofModule m).canonicalize := by
  refine Graph.canonicalize_eq_of_casts fun i => ?_
  rcases alike.definition i with ⟨missing, stillMissing⟩ | ⟨before, after, found, otherFound, same⟩
  · rw [missing, stillMissing]
  · rw [found, otherFound]
    cases same <;> rfl

/-- A trace has the same outcome in both modules. -/
theorem trace_eq (alike : m.Alike name c other) (value : Operand)
    : (Graph.ofModule other).trace value = (Graph.ofModule m).trace value :=
  Graph.trace_congr alike.canonicalize_eq alike.step_eq value

/-- A value has the same kind in both modules. -/
theorem classify_eq (alike : m.Alike name c other) (classifier : Classifier) (value : Operand)
    : classifier.classify (Graph.ofModule other) value
      = classifier.classify (Graph.ofModule m) value := by
  rcases value with _ | (p | i) | _
  · rfl
  · rfl
  · simp only [Classifier.classify]
    rcases alike.definition i with ⟨missing, stillMissing⟩ | ⟨before, after, found, otherFound, same⟩
    · rw [missing, stillMissing]
    · rw [found, otherFound, same.kind_eq]
  · rfl

end Module.Alike

end PointerOrigins
