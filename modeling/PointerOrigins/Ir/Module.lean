import PointerOrigins.Ir.Instruction

/-!
Modules: defined functions, declarations and globals, and the check that a module refers only to
what it knows.
-/

namespace PointerOrigins

----------------------------------------------------------------------------------------------
-- Functions
----------------------------------------------------------------------------------------------

/-- A basic block. -/
structure Block where
  name : BlockName
  instrs : List Instruction
  terminator : Terminator
deriving DecidableEq, Repr, Inhabited

namespace Block

/-- What a block defines, in order: its instructions, then its terminator. -/
def definitions (b : Block) : List (InstructionName × Definition) :=
  b.instrs.map (fun i => (i.name, .instruction i.opcode)) ++
    [(b.terminator.name, .terminator b.terminator.opcode)]

/-- The calls of a block in order, an invoke last. -/
def calls (b : Block) : List (InstructionName × Definition × Call) :=
  b.definitions.filterMap fun (name, d) => d.call?.map fun c => (name, d, c)

/-- The operands that a block uses, in order. -/
def operands (b : Block) : List Operand :=
  b.definitions.flatMap fun entry => entry.2.operands

/-- The value that a block returns, if it ends in a return with a value. -/
def returned? (b : Block) : Option Operand :=
  match b.terminator.opcode with
  | .ret value => value
  | _ => none

end Block

/-- The definition of a function. -/
structure FunctionDef where
  parameters : List ParameterName
  blocks : List Block
deriving DecidableEq, Repr, Inhabited

namespace FunctionDef

/-- What the body defines, in block order. -/
def definitions (f : FunctionDef) : List (InstructionName × Definition) :=
  f.blocks.flatMap Block.definitions

/-- The calls and invokes of the body, in block order. -/
def calls (f : FunctionDef) : List (InstructionName × Definition × Call) :=
  f.blocks.flatMap Block.calls

/-- The operands that the body uses, in block order. -/
def operands (f : FunctionDef) : List Operand :=
  f.blocks.flatMap Block.operands

/-- The values that the body returns, in block order. -/
def returned (f : FunctionDef) : List Operand :=
  f.blocks.filterMap Block.returned?

/-- The local values of a function: its parameters and what its body defines. -/
def locals (f : FunctionDef) : List LocalName :=
  f.parameters.map .parameter ++ f.definitions.map fun entry => .instruction entry.1

end FunctionDef

----------------------------------------------------------------------------------------------
-- Modules
----------------------------------------------------------------------------------------------

/-- A module. The lists enumerate a map and two sets, so their order carries no meaning and a name
occurs in each of them at most once.
-/
structure Module where
  name : String
  /-- Functions without a body. -/
  decls : List FunctionName
  functions : List (FunctionName × FunctionDef)
  globals : List GlobalName
deriving DecidableEq, Repr, Inhabited

namespace Module

/-- The body of a function, if the module defines it. -/
def body? (m : Module) (f : FunctionName) : Option FunctionDef :=
  m.functions.lookup f

/-- A function that the module defines or declares. -/
def knowsFunction (m : Module) (f : FunctionName) : Bool :=
  (m.body? f).isSome || m.decls.contains f

/-- A global that the module has. -/
def knowsGlobal (m : Module) (g : GlobalName) : Bool :=
  m.globals.contains g

/-- Whether the symbol of a function comes before that of another one, or is the same. -/
def symbolLe (one other : FunctionName × FunctionDef) : Bool :=
  one.1.symbol ≤ other.1.symbol

/-- The defined functions, sorted by symbol. -/
def sortedFunctions (m : Module) : List (FunctionName × FunctionDef) :=
  m.functions.mergeSort symbolLe

/-- What the functions of a module define. -/
def definitions (m : Module) : List (InstructionName × Definition) :=
  m.functions.flatMap fun entry => entry.2.definitions

end Module

----------------------------------------------------------------------------------------------
-- Validation
----------------------------------------------------------------------------------------------

/-- What can be wrong with a module, or with a step of building one. -/
inductive ModuleError where
  | undefinedLocal (user : FunctionName) (name : LocalName)
  | unknownFunction (user target : FunctionName)
  | unknownGlobal (user : FunctionName) (target : GlobalName)
  | duplicateDefinition (name : FunctionName)
  | notAnInstruction (value : Operand)
  | notAPhi (value : Operand)
  | noSuchInstruction (value : Operand) (function : FunctionName)
  | unresolvedAlias (symbol : String)
  | noSuchFunction (symbol : String)
  | noSuchGlobal (symbol : String)
  | globalNotFound (symbol : String)
  | badLocal (name : String)
deriving DecidableEq, Repr, Inhabited

/-- The cause of an error in words. -/
def ModuleError.cause : ModuleError → String
  | .undefinedLocal user name => user.text ++ " uses undefined local " ++ name.text
  | .unknownFunction user target => user.text ++ " refers to unknown function " ++ target.text
  | .unknownGlobal user target => user.text ++ " refers to unknown global " ++ target.text
  | .duplicateDefinition name => "duplicate definition of " ++ name.text
  | .notAnInstruction value => value.text ++ " is not an instruction"
  | .notAPhi value => value.text ++ " is not a phi"
  | .noSuchInstruction value function => "no instruction " ++ value.text ++ " in " ++ function.text
  | .unresolvedAlias symbol => "Couldn't resolve alias " ++ symbol
  | .noSuchFunction symbol => "No such function: " ++ symbol
  | .noSuchGlobal symbol => "No such global: " ++ symbol
  | .globalNotFound symbol => "Couldn't find global " ++ symbol
  | .badLocal name => "Bad local: %" ++ name

/-- The text of an error. -/
def ModuleError.message (e : ModuleError) : String :=
  "Malformed LLVM module: " ++ e.cause

namespace Module

/-- The first fault of one operand that a function uses. A constant is asked for the function it
refers to first, then for the global.
-/
def operandError? (m : Module) (user : FunctionName) (locals : List LocalName)
    : Operand → Option ModuleError
  | .local name => if locals.contains name then none else some (.undefinedLocal user name)
  | .constant c =>
      let function := c.function?.bind fun g =>
        if m.knowsFunction g then none else some (.unknownFunction user g)
      let global := c.global?.bind fun g =>
        if m.knowsGlobal g then none else some (.unknownGlobal user g)
      function <|> global
  | .metadata => none

/-- The first fault of one function. -/
def functionError? (m : Module) (entry : FunctionName × FunctionDef) : Option ModuleError :=
  entry.2.operands.findSome? (m.operandError? entry.1 entry.2.locals)

/-- Checks that every local operand is defined in the function that uses it, and that every
function and global that an operand refers to belongs to the module.
-/
def validate (m : Module) : Except ModuleError Unit :=
  match m.functions.findSome? m.functionError? with
  | some e => .error e
  | none => .ok ()

end Module

end PointerOrigins
