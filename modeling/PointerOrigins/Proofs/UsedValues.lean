import PointerOrigins.Proofs.GraphAgreement
import PointerOrigins.Proofs.ProgramOrder
import PointerOrigins.Proofs.TransferEquations

/-!
The values that functions use. A trace is led only to operands that some function of the module uses; and
a module that passes its check defines every instruction that is used in it, so that such a trace never
meets an instruction without a definition.
-/

namespace PointerOrigins

/-- The operands of a body are those of its definitions. -/
theorem FunctionDef.operands_eq (f : FunctionDef)
    : f.operands = f.definitions.flatMap fun entry => entry.2.operands := by
  rw [operands, definitions, List.flatMap_assoc]
  rfl

/-- The calls of a body are those of its definitions. -/
theorem FunctionDef.calls_eq (f : FunctionDef)
    : f.calls
      = f.definitions.filterMap fun entry => entry.2.call?.map fun c => (entry.1, entry.2, c) := by
  rw [calls, definitions, List.filterMap_flatMap]
  rfl

/-- A call of a body is a definition that makes a call. -/
theorem FunctionDef.mem_calls_iff {f : FunctionDef} {name : InstructionName} {d : Definition} {c : Call}
    : (name, d, c) ∈ f.calls ↔ (name, d) ∈ f.definitions ∧ d.call? = some c := by
  rw [calls_eq, List.mem_filterMap]
  constructor
  · rintro ⟨⟨i, e⟩, defined, isCall⟩
    obtain ⟨made, isMade, same⟩ := Option.map_eq_some_iff.1 isCall
    simp only [Prod.mk.injEq] at same
    obtain ⟨rfl, rfl, rfl⟩ := same
    exact ⟨defined, isMade⟩
  · rintro ⟨defined, isCall⟩
    exact ⟨(name, d), defined, by simp [isCall]⟩

/-- The arguments of a call are operands of its definition. -/
theorem Definition.mem_operands_of_call {d : Definition} {c : Call} {arg : Operand}
    (isCall : d.call? = some c) (isArg : arg ∈ c.args)
    : arg ∈ d.operands := by
  rcases d with opcode | opcode
  · cases opcode <;> cases isCall
    exact List.mem_append_right _ isArg
  · cases opcode <;> cases isCall
    exact List.mem_append_left _ isArg

namespace Module

variable {m : Module} {value : Operand}

/-- Some function of the module has this operand. -/
def Uses (m : Module) (value : Operand) : Prop :=
  ∃ entry ∈ m.functions, value ∈ entry.2.operands

/-- The operands of definitions are used. -/
theorem uses_of_definition {entry : FunctionName × FunctionDef} (isDefined : entry ∈ m.functions)
    {name : InstructionName} {d : Definition} (inBody : (name, d) ∈ entry.2.definitions)
    (isOperand : value ∈ d.operands)
    : m.Uses value := by
  refine ⟨entry, isDefined, ?_⟩
  rw [FunctionDef.operands_eq]
  exact List.mem_flatMap.2 ⟨(name, d), inBody, isOperand⟩

/-- Returned values are used, by the terminators that return them. -/
theorem uses_of_returned {entry : FunctionName × FunctionDef} (isDefined : entry ∈ m.functions)
    (isReturned : value ∈ entry.2.returned)
    : m.Uses value := by
  obtain ⟨block, inBody, returns⟩ := List.mem_filterMap.1 isReturned
  refine uses_of_definition isDefined
    (List.mem_flatMap.2 ⟨block, inBody, List.mem_append_right _ (List.mem_singleton.2 rfl)⟩) ?_
  rw [Block.returned?] at returns
  split at returns
  · next ret =>
      subst returns
      simp [Definition.operands, TerminatorOpcode.operands, ret]
  · cases returns

/-- What call sites bind is used, by the calls that make the sites. -/
theorem uses_of_bound {f : FunctionName} {position : Nat}
    (binds : m.BindsAt f position (some value))
    : m.Uses value := by
  have ofCall : ∀ {name : InstructionName} {c : Call}, m.HasCall name c → value ∈ c.args
      → m.Uses value := by
    rintro name c ⟨entry, isDefined, d, inBody⟩ isArg
    obtain ⟨isDefinition, isCall⟩ := FunctionDef.mem_calls_iff.1 inBody
    exact uses_of_definition isDefined isDefinition (Definition.mem_operands_of_call isCall isArg)
  generalize bound : some value = arg at binds
  cases binds with
  | direct inModule _ _ =>
      split at bound
      · exact ofCall inModule (List.mem_of_getElem? bound.symm)
      · cases bound
  | callback inModule _ _ _ _ =>
      split at bound
      · obtain ⟨_, _, found⟩ := Option.bind_eq_some_iff.1 bound.symm
        exact ofCall inModule (List.mem_of_getElem? found)
      · cases bound

/-- A module passes its check if no operand of its functions is at fault. -/
theorem validate_eq_ok_iff
    : m.validate = .ok ()
      ↔ ∀ entry ∈ m.functions,
          ∀ op ∈ entry.2.operands, m.operandError? entry.1 entry.2.locals op = none := by
  have noFault : m.functions.findSome? m.functionError? = none
      ↔ ∀ entry ∈ m.functions,
          ∀ op ∈ entry.2.operands, m.operandError? entry.1 entry.2.locals op = none := by
    simp only [List.findSome?_eq_none_iff, functionError?]
  rw [← noFault, validate]
  split
  · next fault => simp [fault]
  · next none => simp [none]

/-- In a module that passes its check, the locals that are used belong to functions of the module. -/
theorem local_of_uses (valid : m.validate = .ok ()) {name : LocalName} (uses : m.Uses (.local name))
    : ∃ entry ∈ m.functions, name ∈ entry.2.locals := by
  obtain ⟨entry, isDefined, isOperand⟩ := uses
  have noFault := validate_eq_ok_iff.1 valid entry isDefined _ isOperand
  exact ⟨entry, isDefined, by simpa [operandError?] using noFault⟩

/-- A module that passes its check defines the instructions that it uses. -/
theorem defined_of_uses (valid : m.validate = .ok ()) {name : InstructionName}
    (uses : m.Uses (.instruction name))
    : ∃ d, (name, d) ∈ m.definitions := by
  obtain ⟨entry, isDefined, isLocal⟩ := local_of_uses valid uses
  rcases List.mem_append.1 isLocal with isParameter | isInstruction
  · simp at isParameter
  · obtain ⟨⟨_, d⟩, inBody, same⟩ := List.mem_map.1 isInstruction
    cases same
    exact ⟨d, List.mem_flatMap.2 ⟨entry, isDefined, inBody⟩⟩

end Module

----------------------------------------------------------------------------------------------
-- Values that traces meet
----------------------------------------------------------------------------------------------

namespace Graph

variable {m : Module} {value other : Operand}

/-- The operands that a graph holds are used by functions of the module. -/
theorem uses_of_mem_operands (stored : value ∈ (Graph.ofModule m).operands) : m.Uses value := by
  rcases List.mem_append.1 stored with ofDefinition | ofSiteOrReturn
  · obtain ⟨⟨name, d⟩, inModule, isOperand⟩ := List.mem_flatMap.1 ofDefinition
    obtain ⟨entry, isDefined, inBody⟩ := List.mem_flatMap.1 (List.mem_reverse.1 inModule)
    exact Module.uses_of_definition isDefined inBody isOperand
  · rcases List.mem_append.1 ofSiteOrReturn with ofSite | ofReturn
    · obtain ⟨⟨f, sites⟩, isTarget, ofTarget⟩ := List.mem_flatMap.1 ofSite
      obtain ⟨site, isSite, bound⟩ := List.mem_flatMap.1 ofTarget
      obtain ⟨_, member, rfl⟩ := List.mem_filterMap.1 bound
      obtain ⟨position, found⟩ := List.getElem?_of_mem member
      have listed : site ∈ (CallGraph.ofModule m).callSites f := by
        rw [CallGraph.callSites, lookup_of_mem (CallGraph.indexes_ofModule m).distinct isTarget]
        exact isSite
      have binds : site.argument? position = some value := by
        simp [CallSite.argument?, found]
      exact Module.uses_of_bound (Module.bindsAt_iff.2 ⟨site, listed, binds⟩)
    · obtain ⟨entry, isDefined, isReturned⟩ := List.mem_flatMap.1 ofReturn
      exact Module.uses_of_returned isDefined isReturned

/-- A value that is no instruction, or one with a definition. -/
def Knows (g : Graph) (value : Operand) : Prop :=
  ∀ name, value = .instruction name → ∃ d, g.definition? name = some d

/-- An instruction with a definition in the module is known. -/
theorem definition_of_mem {name : InstructionName} {d : Definition}
    (inModule : (name, d) ∈ m.definitions)
    : ∃ found, (Graph.ofModule m).definition? name = some found := by
  rw [← Option.isSome_iff_exists, Option.isSome_iff_ne_none]
  intro missing
  have absent := List.lookup_eq_none_iff.1 missing (name, d) (List.mem_reverse.2 inModule)
  simp at absent

/-- In a module that passes its check, what is used is known. -/
theorem knows_of_uses (valid : m.validate = .ok ()) (uses : m.Uses value)
    : (Graph.ofModule m).Knows value := by
  rintro name rfl
  obtain ⟨d, inModule⟩ := Module.defined_of_uses valid uses
  exact definition_of_mem inModule

/-- What stands in front of a cast is the inner part of a constant, or an operand that the graph holds. -/
theorem strip_mem {g : Graph} (strips : g.strip? value = some other)
    : (∃ c inner, value = .constant c ∧ c.inner? = some inner ∧ other = .constant inner)
      ∨ other ∈ g.operands := by
  have ofDefinition : ∀ {name : InstructionName} {d : Definition}, g.definition? name = some d
      → other ∈ d.operands → other ∈ g.operands := by
    intro name d found isOperand
    exact List.mem_append_left _ (List.mem_flatMap.2 ⟨_, mem_of_lookup found, isOperand⟩)
  rcases value with c | (p | name) | _
  · obtain ⟨inner, isInner, rfl⟩ := Option.map_eq_some_iff.1 strips
    exact .inl ⟨c, inner, rfl, isInner, rfl⟩
  · cases strips
  · right
    simp only [strip?] at strips
    split at strips
    · next found =>
        cases strips
        exact ofDefinition found (List.mem_singleton.2 rfl)
    · next found =>
        cases strips
        exact ofDefinition found (List.mem_singleton.2 rfl)
    · cases strips
  · cases strips

/-- In a module that passes its check, what stands in front of a cast is known. -/
theorem knows_of_strip (valid : m.validate = .ok ())
    (strips : (Graph.ofModule m).strip? value = some other)
    : (Graph.ofModule m).Knows other := by
  rcases strip_mem strips with ⟨_, _, _, _, rfl⟩ | stored
  · rintro _ ⟨⟩
  · exact knows_of_uses valid (uses_of_mem_operands stored)

/-- In a module that passes its check, the value behind the casts of a known one is known. -/
theorem knows_canonicalize (valid : m.validate = .ok ()) (known : (Graph.ofModule m).Knows value)
    : (Graph.ofModule m).Knows ((Graph.ofModule m).canonicalize value) :=
  canonicalize_induction (fun _ strips => knows_of_strip valid strips) known

end Graph

end PointerOrigins
