import PointerOrigins.Ir.Module

/-!
Building modules step by step.

A module builder hands out one name per function symbol and collects declarations, definitions and
globals. A function builder works on top of a module builder: it fills one block at a time, opens a
block when an instruction needs one, and closes the open block when a terminator, a new label or the
end of the function asks for it.

A step that can fail gives its result beside the builder that is left, so what a failing step keeps
can be stated.
-/

namespace PointerOrigins

----------------------------------------------------------------------------------------------
-- Modules
----------------------------------------------------------------------------------------------

/-- A module under construction. Serial numbers below `nextId` have been handed out. -/
structure ModuleBuilder where
  name : String
  nextId : Nat
  /-- The function names handed out so far, one per symbol. -/
  names : List FunctionName
  decls : List FunctionName
  functions : List (FunctionName × FunctionDef)
  globals : List GlobalName
deriving DecidableEq, Repr, Inhabited

namespace ModuleBuilder

/-- An empty module. -/
def new (name : String) : ModuleBuilder :=
  ⟨name, 0, [], [], [], []⟩

/-- The name that a symbol was given earlier. -/
def name? (b : ModuleBuilder) (symbol : String) : Option FunctionName :=
  b.names.find? fun f => f.symbol == symbol

/-- The one name of a function, which may be declared or defined later or never. -/
def functionName (b : ModuleBuilder) (symbol : String) : FunctionName × ModuleBuilder :=
  match b.name? symbol with
  | some f => (f, b)
  | none =>
      let f : FunctionName := ⟨b.nextId, symbol⟩
      (f, { b with nextId := b.nextId + 1, names := b.names ++ [f] })

/-- A name that is neither declared nor defined. -/
def isFresh (b : ModuleBuilder) (f : FunctionName) : Bool :=
  !((b.functions.lookup f).isSome || b.decls.contains f)

/-- Declares a function without a body. -/
def declare (b : ModuleBuilder) (symbol : String)
    : Except ModuleError FunctionName × ModuleBuilder :=
  let (f, b) := b.functionName symbol
  if b.isFresh f then (.ok f, { b with decls := b.decls ++ [f] })
  else (.error (.duplicateDefinition f), b)

/-- Defines a global and gives its address. Defining it again changes nothing. -/
def global (b : ModuleBuilder) (symbol : String) : Operand × ModuleBuilder :=
  let g : GlobalName := ⟨symbol⟩
  let globals := if b.globals.contains g then b.globals else b.globals ++ [g]
  (.constant (.global g), { b with globals })

/-- The module as it stands. -/
def toModule (b : ModuleBuilder) : Module :=
  { name := b.name, decls := b.decls, functions := b.functions, globals := b.globals }

/-- The finished module, if it refers only to what it knows. -/
def build (b : ModuleBuilder) : Except ModuleError Module := do
  b.toModule.validate
  return b.toModule

end ModuleBuilder

----------------------------------------------------------------------------------------------
-- Functions
----------------------------------------------------------------------------------------------

/-- A block that has no terminator yet. -/
structure OpenBlock where
  name : BlockName
  instrs : List Instruction
deriving DecidableEq, Repr, Inhabited

/-- A function under construction, on top of the module that it belongs to. -/
structure FunctionBuilder where
  module : ModuleBuilder
  name : FunctionName
  parameters : List ParameterName
  blocks : List Block
  current : Option OpenBlock
deriving DecidableEq, Repr, Inhabited

/-- Asking for a parameter that a function does not have. -/
structure ParameterError where
  count : Nat
  position : Nat
deriving DecidableEq, Repr, Inhabited

/-- The text of the error. -/
def ParameterError.message (e : ParameterError) : String :=
  "index out of bounds: the len is " ++ toString e.count ++ " but the index is " ++
    toString e.position

/-- Starts the definition of a function. -/
def ModuleBuilder.function (b : ModuleBuilder) (symbol : String) (parameters : List String)
    : FunctionBuilder :=
  let (f, b) := b.functionName symbol
  let names := parameters.zipIdx.map fun (p, i) => (⟨b.nextId + i, f, p, i⟩ : ParameterName)
  { module := { b with nextId := b.nextId + parameters.length }
    name := f
    parameters := names
    blocks := []
    current := none }

namespace FunctionBuilder

/-- The parameter at a position. -/
def param (b : FunctionBuilder) (position : Nat) : Except ParameterError Operand :=
  match b.parameters[position]? with
  | some p => .ok (.parameter p)
  | none => .error ⟨b.parameters.length, position⟩

/-- The address of a function of the module, defined or not. -/
def functionRef (b : FunctionBuilder) (symbol : String) : Operand × FunctionBuilder :=
  let (f, module) := b.module.functionName symbol
  (.function f, { b with module })

/-- A serial number that was not handed out before. -/
def fresh (b : FunctionBuilder) : Nat × FunctionBuilder :=
  (b.module.nextId, { b with module := { b.module with nextId := b.module.nextId + 1 } })

----------------------------------------------------------------------------------------------
-- Blocks
----------------------------------------------------------------------------------------------

/-- Ends a given open block, and gives the value of its terminator. -/
def complete (b : FunctionBuilder) (block : OpenBlock) (opcode : TerminatorOpcode) (ty : Ty)
    : Operand × FunctionBuilder :=
  let (id, b) := b.fresh
  let name : InstructionName := ⟨id, block.name, block.instrs.length⟩
  let done : Block := ⟨block.name, block.instrs, ⟨name, opcode, ty⟩⟩
  (.instruction name, { b with blocks := b.blocks ++ [done], current := none })

/-- Ends the open block, if there is one. -/
def close (b : FunctionBuilder) (opcode : TerminatorOpcode) (ty : Ty) : FunctionBuilder :=
  match b.current with
  | some block => (b.complete block opcode ty).2
  | none => b

/-- Starts a block. A block that is still open ends in an unconditional branch. -/
def block (b : FunctionBuilder) (label : String) : FunctionBuilder :=
  let b := b.close .other .void
  let (id, b) := b.fresh
  { b with current := some ⟨⟨id, b.name, label⟩, []⟩ }

/-- The open block, started under a label of its own if there was none. -/
def ensureOpen (b : FunctionBuilder) : OpenBlock × FunctionBuilder :=
  match b.current with
  | some block => (block, b)
  | none =>
      let (id, b) := b.fresh
      let block : OpenBlock := ⟨⟨id, b.name, "bb" ++ toString b.blocks.length⟩, []⟩
      (block, { b with current := some block })

/-- Adds an instruction to the open block, and gives its value. -/
def push (b : FunctionBuilder) (opcode : Opcode) (ty : Ty) : Operand × FunctionBuilder :=
  let (block, b) := b.ensureOpen
  let (id, b) := b.fresh
  let name : InstructionName := ⟨id, block.name, block.instrs.length⟩
  let block := { block with instrs := block.instrs ++ [⟨name, opcode, ty⟩] }
  (.instruction name, { b with current := some block })

/-- Ends the open block, or an empty new one, with a terminator. -/
def terminate (b : FunctionBuilder) (opcode : TerminatorOpcode) (ty : Ty)
    : Operand × FunctionBuilder :=
  let (block, b) := b.ensureOpen
  b.complete block opcode ty

----------------------------------------------------------------------------------------------
-- Instructions
----------------------------------------------------------------------------------------------

/-- A callee with typed arguments. -/
def callOf (callee : Callee) (args : List (Operand × Ty)) : Call :=
  ⟨callee, args.map (·.1), args.map (·.2)⟩

def alloca (b : FunctionBuilder) : Operand × FunctionBuilder :=
  b.push (.alloca (.int 32 1)) .pointer

def addrSpaceCast (b : FunctionBuilder) (pointer : Operand) : Operand × FunctionBuilder :=
  b.push (.addrSpaceCast pointer) .pointer

def bitCast (b : FunctionBuilder) (pointer : Operand) : Operand × FunctionBuilder :=
  b.push (.bitCast pointer) .pointer

def call (b : FunctionBuilder) (callee : Operand) (args : List (Operand × Ty)) (ty : Ty)
    : Operand × FunctionBuilder :=
  b.push (.call (callOf (.operand callee) args)) ty

def callAsm (b : FunctionBuilder) (args : List (Operand × Ty)) (ty : Ty)
    : Operand × FunctionBuilder :=
  b.push (.call (callOf .asm args)) ty

def extractValue (b : FunctionBuilder) (aggregate : Operand) (ty : Ty)
    : Operand × FunctionBuilder :=
  b.push (.extractValue aggregate) ty

def getElementPtr (b : FunctionBuilder) (pointer : Operand) (indices : List Operand)
    : Operand × FunctionBuilder :=
  b.push (.getElementPtr pointer indices) .pointer

def insertValue (b : FunctionBuilder) (aggregate element : Operand)
    : Operand × FunctionBuilder :=
  b.push (.insertValue aggregate element) .aggregate

def intToPtr (b : FunctionBuilder) (int : Operand) : Operand × FunctionBuilder :=
  b.push (.intToPtr int) .pointer

def landingPad (b : FunctionBuilder) : Operand × FunctionBuilder :=
  b.push .landingPad .aggregate

def load (b : FunctionBuilder) (pointer : Operand) (ty : Ty) : Operand × FunctionBuilder :=
  b.push (.load pointer) ty

def phi (b : FunctionBuilder) (values : List Operand) (ty : Ty) : Operand × FunctionBuilder :=
  b.push (.phi values) ty

def ptrToInt (b : FunctionBuilder) (pointer : Operand) : Operand × FunctionBuilder :=
  b.push (.ptrToInt pointer) (.int 64)

def select (b : FunctionBuilder) (condition whenTrue whenFalse : Operand) (ty : Ty)
    : Operand × FunctionBuilder :=
  b.push (.select condition whenTrue whenFalse) ty

def store (b : FunctionBuilder) (value pointer : Operand) : Operand × FunctionBuilder :=
  b.push (.store value pointer) .void

/-- Any instruction that is not traced in a way of its own. -/
def other (b : FunctionBuilder) (ty : Ty) : Operand × FunctionBuilder :=
  b.push .other ty

----------------------------------------------------------------------------------------------
-- Phis
----------------------------------------------------------------------------------------------

/-- Looks for an instruction and adds a value to it: nothing if it is not in the list, no new list
if it is there and not a phi.
-/
def appendIncoming (target : InstructionName) (value : Operand)
    : List Instruction → Option (Option (List Instruction))
  | [] => none
  | i :: rest =>
      if i.name = target then
        match i.opcode with
        | .phi values => some (some ({ i with opcode := .phi (values ++ [value]) } :: rest))
        | _ => some none
      else (appendIncoming target value rest).map fun found => found.map (i :: ·)

/-- The same in the blocks that are closed. -/
def appendIncomingBlocks (target : InstructionName) (value : Operand)
    : List Block → Option (Option (List Block))
  | [] => none
  | block :: rest =>
      match appendIncoming target value block.instrs with
      | some found => some (found.map fun instrs => { block with instrs } :: rest)
      | none => (appendIncomingBlocks target value rest).map fun found => found.map (block :: ·)

/-- Adds an incoming value to a phi of this function, for instance one that is defined later in a
loop.
-/
def addIncoming (b : FunctionBuilder) (phi value : Operand)
    : Except ModuleError Unit × FunctionBuilder :=
  match phi.instruction? with
  | none => (.error (.notAnInstruction phi), b)
  | some target =>
      match appendIncomingBlocks target value b.blocks with
      | some (some blocks) => (.ok (), { b with blocks })
      | some none => (.error (.notAPhi phi), b)
      | none =>
          let opened := b.current.bind fun block =>
            (appendIncoming target value block.instrs).map fun found => (block, found)
          match opened with
          | some (block, some instrs) =>
              (.ok (), { b with current := some { block with instrs } })
          | some (_, none) => (.error (.notAPhi phi), b)
          | none => (.error (.noSuchInstruction phi b.name), b)

----------------------------------------------------------------------------------------------
-- Terminators
----------------------------------------------------------------------------------------------

/-- Returns from the function. -/
def ret (b : FunctionBuilder) (value : Option Operand) : FunctionBuilder :=
  (b.terminate (.ret value) .void).2

/-- Ends the block with a call that may unwind. What is added later goes to a new block. -/
def invoke (b : FunctionBuilder) (callee : Operand) (args : List (Operand × Ty)) (ty : Ty)
    : Operand × FunctionBuilder :=
  b.terminate (.invoke (callOf (.operand callee) args)) ty

/-- Adds the function to its module. -/
def finish (b : FunctionBuilder) : Except ModuleError FunctionName × ModuleBuilder :=
  let b := b.close .other .void
  if b.module.isFresh b.name then
    let entry := (b.name, (⟨b.parameters, b.blocks⟩ : FunctionDef))
    (.ok b.name, { b.module with functions := b.module.functions ++ [entry] })
  else (.error (.duplicateDefinition b.name), b.module)

end FunctionBuilder

end PointerOrigins
