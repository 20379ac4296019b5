import PointerOrigins.Proofs.UsedValues

/-!
What the check of a module is good for. It looks at the operands of one function after the other, while a
trace goes from function to function, by calls, returns and casts. Still a trace in a checked module meets
only values that the module has a place for, since each of them stands behind the casts of some operand that
was looked at.
-/

namespace PointerOrigins

----------------------------------------------------------------------------------------------
-- Operands in their places
----------------------------------------------------------------------------------------------

/-- An operation has this operand in one of its places. -/
inductive Opcode.HasOperand : Opcode → Operand → Prop
  | count {op} : HasOperand (.alloca op) op
  | addrSpaceCast {op} : HasOperand (.addrSpaceCast op) op
  | bitCast {op} : HasOperand (.bitCast op) op
  | callee {op c} (called : c.callee = .operand op) : HasOperand (.call c) op
  | argument {op c} (passed : op ∈ c.args) : HasOperand (.call c) op
  | extractedFrom {op} : HasOperand (.extractValue op) op
  | base {op indices} : HasOperand (.getElementPtr op indices) op
  | index {op pointer indices} (isIndex : op ∈ indices)
    : HasOperand (.getElementPtr pointer indices) op
  | insertedInto {op element} : HasOperand (.insertValue op element) op
  | element {op aggregate} : HasOperand (.insertValue aggregate op) op
  | intToPtr {op} : HasOperand (.intToPtr op) op
  | loadedFrom {op} : HasOperand (.load op) op
  | incoming {op values} (isValue : op ∈ values) : HasOperand (.phi values) op
  | ptrToInt {op} : HasOperand (.ptrToInt op) op
  | condition {op whenTrue whenFalse} : HasOperand (.select op whenTrue whenFalse) op
  | whenTrue {op condition whenFalse} : HasOperand (.select condition op whenFalse) op
  | whenFalse {op condition whenTrue} : HasOperand (.select condition whenTrue op) op
  | stored {op pointer} : HasOperand (.store op pointer) op
  | storedTo {op value} : HasOperand (.store value op) op

/-- The end of a block has this operand in one of its places. -/
inductive TerminatorOpcode.HasOperand : TerminatorOpcode → Operand → Prop
  | callee {op c} (called : c.callee = .operand op) : HasOperand (.invoke c) op
  | argument {op c} (passed : op ∈ c.args) : HasOperand (.invoke c) op
  | returned {op} : HasOperand (.ret (some op)) op

/-- Some instruction or terminator in a body of the module has this operand. -/
def Module.HasOperand (m : Module) (op : Operand) : Prop :=
  ∃ entry ∈ m.functions,
    ∃ b ∈ entry.2.blocks,
      (∃ i ∈ b.instrs, i.opcode.HasOperand op) ∨ b.terminator.opcode.HasOperand op

variable {op : Operand}

/-- A callee lists the operand that is called. -/
theorem Callee.mem_operands_iff {callee : Callee} : op ∈ callee.operands ↔ callee = .operand op := by
  cases callee <;> simp [operands, eq_comm]

/-- The operands that are listed for an operation are those in its places. -/
theorem Opcode.mem_operands_iff {opcode : Opcode}
    : op ∈ opcode.operands ↔ opcode.HasOperand op := by
  constructor
  · intro listed
    cases opcode <;>
      simp only [operands, List.mem_cons, List.mem_append, List.not_mem_nil, or_false,
        Callee.mem_operands_iff] at listed
    case alloca => exact listed ▸ .count
    case addrSpaceCast => exact listed ▸ .addrSpaceCast
    case bitCast => exact listed ▸ .bitCast
    case call => exact listed.elim .callee .argument
    case extractValue => exact listed ▸ .extractedFrom
    case getElementPtr => exact listed.elim (fun same => same ▸ .base) .index
    case insertValue =>
        exact listed.elim (fun same => same ▸ .insertedInto) fun same => same ▸ .element
    case intToPtr => exact listed ▸ .intToPtr
    case load => exact listed ▸ .loadedFrom
    case phi => exact .incoming listed
    case ptrToInt => exact listed ▸ .ptrToInt
    case select =>
        rcases listed with same | same | same
        · exact same ▸ .condition
        · exact same ▸ .whenTrue
        · exact same ▸ .whenFalse
    case store => exact listed.elim (fun same => same ▸ .stored) fun same => same ▸ .storedTo
  · intro placed
    cases placed <;> simp_all [operands, Callee.operands]

/-- The operands that are listed for the end of a block are those in its places. -/
theorem TerminatorOpcode.mem_operands_iff {opcode : TerminatorOpcode}
    : op ∈ opcode.operands ↔ opcode.HasOperand op := by
  constructor
  · intro listed
    cases opcode <;>
      simp only [operands, List.mem_append, List.not_mem_nil, Option.mem_toList,
        Callee.mem_operands_iff] at listed
    case invoke => exact listed.elim .argument .callee
    case ret => exact listed ▸ .returned
  · intro placed
    cases placed <;> simp_all [operands, Callee.operands]

/-- The operands that are listed for a block are those of its instructions and of its end. -/
theorem Block.mem_operands_iff {b : Block}
    : op ∈ b.operands
      ↔ (∃ i ∈ b.instrs, i.opcode.HasOperand op) ∨ b.terminator.opcode.HasOperand op := by
  simp [operands, definitions, Definition.operands, Opcode.mem_operands_iff,
    TerminatorOpcode.mem_operands_iff]

/-- The operands that a module uses are those in the places of its instructions and terminators. -/
theorem Module.uses_iff_hasOperand {m : Module} : m.Uses op ↔ m.HasOperand op := by
  simp only [Uses, HasOperand, FunctionDef.operands, List.mem_flatMap, Block.mem_operands_iff]

----------------------------------------------------------------------------------------------
-- Values with a place in the module
----------------------------------------------------------------------------------------------

/-- The global that a constant addresses is the same in front of a cast. -/
theorem Constant.global_of_inner {c inner : Constant} (isInner : c.inner? = some inner)
    : c.global? = inner.global? := by
  cases c <;> cases isInner <;> rfl

namespace Module

variable {m : Module} {value other : Operand}

/-- The module has a place for a value: an instruction has a definition in it, a parameter is in the list of
some function, and a constant addresses no global but those of the module.
-/
structure Resolves (m : Module) (value : Operand) : Prop where
  instruction
    : ∀ name,
        value = .instruction name
        → ∃ d, (name, d) ∈ m.definitions ∧ (Graph.ofModule m).definition? name = some d
  parameter : ∀ p, value = .parameter p → ∃ entry ∈ m.functions, p ∈ entry.2.parameters
  global : ∀ c g, value = .constant c → c.global? = some g → g ∈ m.globals

/-- In a module that passes its check, the parameters that are used are those of functions of the module. -/
theorem parameter_of_uses (valid : m.validate = .ok ()) {p : ParameterName}
    (uses : m.Uses (.parameter p))
    : ∃ entry ∈ m.functions, p ∈ entry.2.parameters := by
  obtain ⟨entry, isDefined, isLocal⟩ := local_of_uses valid uses
  exact ⟨entry, isDefined, by simpa [FunctionDef.locals] using isLocal⟩

/-- A constant is not at fault if the module knows the function that it refers to and has the global that it
addresses.
-/
theorem operandError_constant_iff {user : FunctionName} {locals : List LocalName} {c : Constant}
    : m.operandError? user locals (.constant c) = none
      ↔ (∀ f, c.function? = some f → m.knowsFunction f = true)
        ∧ ∀ g, c.global? = some g → g ∈ m.globals := by
  simp [operandError?, knowsGlobal]

/-- In a module that passes its check, the globals that are used are those of the module. -/
theorem global_of_uses (valid : m.validate = .ok ()) {c : Constant} {g : GlobalName}
    (uses : m.Uses (.constant c)) (addresses : c.global? = some g)
    : g ∈ m.globals := by
  obtain ⟨entry, isDefined, isOperand⟩ := uses
  have noFault := validate_eq_ok_iff.1 valid entry isDefined _ isOperand
  exact (operandError_constant_iff.1 noFault).2 g addresses

/-- In a module that passes its check, there is a place for everything that is used. -/
theorem resolves_of_uses (valid : m.validate = .ok ()) (uses : m.Uses value) : m.Resolves value where
  instruction := by
    intro name same
    obtain ⟨d, found⟩ := Graph.knows_of_uses valid uses name same
    exact ⟨d, List.mem_reverse.1 (Graph.mem_of_lookup found), found⟩
  parameter := by
    rintro p rfl
    exact parameter_of_uses valid uses
  global := by
    rintro c g rfl addresses
    exact global_of_uses valid uses addresses

/-- In a module that passes its check, there is a place for what stands in front of a cast. -/
theorem resolves_of_strip (valid : m.validate = .ok ()) (resolves : m.Resolves value)
    (strips : (Graph.ofModule m).strip? value = some other)
    : m.Resolves other := by
  rcases Graph.strip_mem strips with ⟨c, inner, rfl, isInner, rfl⟩ | stored
  · refine ⟨fun _ same => (by cases same), fun _ same => (by cases same), ?_⟩
    rintro _ g ⟨⟩ addresses
    exact resolves.global c g rfl (Constant.global_of_inner isInner ▸ addresses)
  · exact resolves_of_uses valid (Graph.uses_of_mem_operands stored)

end Module

----------------------------------------------------------------------------------------------
-- Traces in checked modules
----------------------------------------------------------------------------------------------

namespace Graph

variable {m : Module} {value x : Operand}

/-- What can be reached from an operand that is used stands behind the casts of one that is used. Witness:
the last step of a path leads to such an operand.
-/
theorem uses_of_reaches (uses : m.Uses value)
    (path : (Graph.ofModule m).Reaches ((Graph.ofModule m).canonicalize value) x)
    : ∃ used, m.Uses used ∧ (Graph.ofModule m).canonicalize used = x := by
  rcases path.cases_tail with here | ⟨_, _, child, isChild, root⟩
  · exact ⟨value, uses, here.symm⟩
  · exact ⟨child, uses_of_mem_operands (step_children_mem isChild), root⟩

/-- A notice about a missing definition is about an instruction without one. -/
theorem definition_of_notice {g : Graph} {name : InstructionName}
    (told : g.notice? x = some (.noDefinition name))
    : x = .instruction name ∧ g.definition? name = none := by
  rcases x with _ | (_ | i) | _
  · cases told
  · cases told
  · simp only [notice?] at told
    split at told
    · next missing =>
        cases told
        exact ⟨rfl, missing⟩
    · obtain ⟨c, _, aboutCall⟩ := Option.bind_eq_some_iff.1 told
      split at aboutCall
      · cases aboutCall
      · split at aboutCall <;> cases aboutCall
  · cases told

/-- In a module that passes its check, a trace of an operand that an instruction or terminator has meets only
values that the module has a place for, and never tells of an instruction without a definition.
-/
theorem trace_resolves (valid : m.validate = .ok ()) (operand : m.HasOperand value)
    : let looked := ((Graph.ofModule m).trace value).visited
      (∀ x ∈ looked, m.Resolves x)
      ∧ ∀ name, .noDefinition name ∉ (Graph.ofModule m).notices looked := by
  intro looked
  have uses := Module.uses_iff_hasOperand.2 operand
  have resolved : ∀ x ∈ looked, m.Resolves x := by
    intro x member
    obtain ⟨used, isUsed, rfl⟩ := uses_of_reaches uses (mem_visited_iff.1 member)
    exact canonicalize_induction (fun resolves => Module.resolves_of_strip valid resolves)
      (Module.resolves_of_uses valid isUsed)
  refine ⟨resolved, ?_⟩
  intro name told
  obtain ⟨x, member, notice⟩ := List.mem_filterMap.1 told
  obtain ⟨same, missing⟩ := definition_of_notice notice
  obtain ⟨d, _, found⟩ := (resolved x (List.mem_reverse.1 member)).instruction name same
  rw [missing] at found
  cases found

end Graph

/-- A module whose main function starts a thread on a table. The thread returns what it loads from there. -/
def threadOnTable : Module :=
  let main : FunctionName := ⟨0, "main"⟩
  let worker : FunctionName := ⟨1, "worker"⟩
  let create : FunctionName := ⟨2, "pthread_create"⟩
  let entry : BlockName := ⟨3, main, "entry"⟩
  let body : BlockName := ⟨4, worker, "entry"⟩
  let arg : ParameterName := ⟨5, worker, "arg", 0⟩
  let loaded : InstructionName := ⟨6, body, 0⟩
  { name := "thread on a table"
    decls := [create]
    functions :=
      [ (worker,
          ⟨[arg],
            [ { name := body
                instrs := [⟨loaded, .load (.parameter arg), .pointer⟩]
                terminator := ⟨⟨7, body, 1⟩, .ret (some (.instruction loaded)), .void⟩ } ]⟩),
        (main,
          ⟨[],
            [ { name := entry
                instrs :=
                  [ ⟨⟨8, entry, 0⟩,
                      .call
                        ⟨.operand (.function create),
                          [.null, .null, .function worker,
                            .constant (.bitCast (.global ⟨"table"⟩))],
                          [.pointer, .pointer, .pointer, .pointer]⟩,
                      .int 32⟩ ]
                terminator := ⟨⟨9, entry, 1⟩, .ret none, .void⟩ } ]⟩) ]
    globals := [⟨"table"⟩] }

/-- From what the thread returns, a trace goes by the parameter of the thread to the table. -/
theorem Graph.trace_resolves_threadOnTable
    : let worker : FunctionName := ⟨1, "worker"⟩
      let loaded : Operand := .instruction ⟨6, ⟨4, worker, "entry"⟩, 0⟩
      let arg : Operand := .parameter ⟨5, worker, "arg", 0⟩
      let table : Operand := .constant (.global ⟨"table"⟩)
      let looked := ((Graph.ofModule threadOnTable).trace loaded).visited
      threadOnTable.validate = .ok ()
      ∧ threadOnTable.HasOperand loaded
      ∧ loaded ∈ looked
      ∧ arg ∈ looked
      ∧ table ∈ looked
      ∧ (∀ x ∈ looked, threadOnTable.Resolves x)
      ∧ ∀ name, .noDefinition name ∉ (Graph.ofModule threadOnTable).notices looked := by
  intro worker loaded arg table looked
  have valid : threadOnTable.validate = .ok () := by decide
  have operand : threadOnTable.HasOperand loaded :=
    ⟨_, List.mem_cons_self, _, List.mem_singleton.2 rfl, .inr .returned⟩
  have toLoaded : (Graph.ofModule threadOnTable).Reaches
      ((Graph.ofModule threadOnTable).canonicalize loaded) loaded := .refl
  have toArg := toLoaded.tail (c := arg) ⟨arg, by decide, by decide⟩
  have sorted : threadOnTable.sortedFunctions = threadOnTable.functions.reverse :=
    threadOnTable.sortedFunctions_inSymbolOrder.unique (by decide)
      ⟨List.reverse_perm _, by decide⟩
  have passed : .constant (.bitCast (.global ⟨"table"⟩))
      ∈ ((Graph.ofModule threadOnTable).step arg).children := by
    rw [Graph.ofModule, CallGraph.ofModule, Module.callSites, sorted]
    decide
  have toTable := toArg.tail (c := table) ⟨_, passed, by decide⟩
  exact ⟨valid, operand, mem_visited_iff.2 toLoaded, mem_visited_iff.2 toArg,
    mem_visited_iff.2 toTable, Graph.trace_resolves valid operand⟩

end PointerOrigins
