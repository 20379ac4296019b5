import PointerOrigins.Ir.Module

/-!
Changes to a finished module. None of them validates the result: a value that was removed may still
be used, and is then a value without a definition.

Each change is a function on the part that it concerns. `Edit` lists them, and `Module.edit?` carries
one out if there is something to change.
-/

namespace PointerOrigins

namespace Module

/-- Changes the module's name. -/
def rename (m : Module) (name : String) : Module :=
  { m with name }

/-- Removes the body of a function. -/
def dropFunction (m : Module) (f : FunctionName) : Module :=
  { m with functions := m.functions.filter fun entry => entry.1 ≠ f }

/-- Removes a declaration. -/
def dropDecl (m : Module) (f : FunctionName) : Module :=
  { m with decls := m.decls.filter (· ≠ f) }

/-- Removes a global. -/
def dropGlobal (m : Module) (g : GlobalName) : Module :=
  { m with globals := m.globals.filter (· ≠ g) }

/-- Changes the body of a function. -/
def modifyFunction (m : Module) (f : FunctionName) (change : FunctionDef → FunctionDef) : Module :=
  { m with
    functions := m.functions.map fun entry =>
      if entry.1 = f then (entry.1, change entry.2) else entry }

end Module

namespace FunctionDef

/-- Removes the last parameter. -/
def dropParameter (f : FunctionDef) : FunctionDef :=
  { f with parameters := f.parameters.dropLast }

/-- Removes a block. -/
def dropBlock (f : FunctionDef) (block : Nat) : FunctionDef :=
  { f with blocks := f.blocks.eraseIdx block }

/-- Changes a block. -/
def modifyBlock (f : FunctionDef) (block : Nat) (change : Block → Block) : FunctionDef :=
  { f with blocks := f.blocks.modify block change }

end FunctionDef

namespace Block

/-- Removes an instruction. The others keep their names. -/
def dropInstr (b : Block) (index : Nat) : Block :=
  { b with instrs := b.instrs.eraseIdx index }

/-- Replaces the operation of the terminator. Its name and type stay. -/
def setTerminator (b : Block) (opcode : TerminatorOpcode) : Block :=
  { b with terminator := { b.terminator with opcode } }

/-- Changes the operation of an instruction. -/
def modifyOpcode (b : Block) (index : Nat) (change : Opcode → Opcode) : Block :=
  { b with instrs := b.instrs.modify index fun i => { i with opcode := change i.opcode } }

/-- Changes the call at an index. The number of instructions is the index of the terminator. -/
def modifyCall (b : Block) (index : Nat) (change : Call → Call) : Block :=
  if index = b.instrs.length then
    match b.terminator.opcode with
    | .invoke c => b.setTerminator (.invoke (change c))
    | _ => b
  else
    b.modifyOpcode index fun
      | .call c => .call (change c)
      | opcode => opcode

/-- Changes the element count of an alloca. -/
def setCount (b : Block) (index : Nat) (count : Operand) : Block :=
  b.modifyOpcode index fun
    | .alloca _ => .alloca count
    | opcode => opcode

/-- The call at an index, which may be the terminator's. -/
def call? (b : Block) (index : Nat) : Option Call :=
  if index = b.instrs.length then (Definition.terminator b.terminator.opcode).call?
  else b.instrs[index]?.bind fun i => (Definition.instruction i.opcode).call?

/-- Whether an alloca stands at an index. -/
def isAlloca (b : Block) (index : Nat) : Bool :=
  match b.instrs[index]? with
  | some ⟨_, .alloca _, _⟩ => true
  | _ => false

end Block

----------------------------------------------------------------------------------------------
-- Edits
----------------------------------------------------------------------------------------------

/-- A change inside a block. -/
inductive BlockEdit where
  | dropInstr (index : Nat)
  | setTerminator (opcode : TerminatorOpcode)
  | setCallee (index : Nat) (callee : Callee)
  | setArgTys (index : Nat) (argTys : List Ty)
  | setCount (index : Nat) (count : Operand)
deriving DecidableEq, Repr, Inhabited

/-- A change inside a function. -/
inductive FunctionEdit where
  | dropParameter
  | dropBlock (block : Nat)
  | inBlock (block : Nat) (change : BlockEdit)
deriving DecidableEq, Repr, Inhabited

/-- A change of a module. -/
inductive Edit where
  | rename (name : String)
  | dropFunction (f : FunctionName)
  | dropDecl (f : FunctionName)
  | dropGlobal (g : GlobalName)
  | inFunction (f : FunctionName) (change : FunctionEdit)
deriving DecidableEq, Repr, Inhabited

/-- The block after a change, if there is something to change. -/
def Block.edit? (b : Block) : BlockEdit → Option Block
  | .dropInstr index => if index < b.instrs.length then some (b.dropInstr index) else none
  | .setTerminator opcode => some (b.setTerminator opcode)
  | .setCallee index callee =>
      (b.call? index).map fun _ => b.modifyCall index fun c => { c with callee }
  | .setArgTys index argTys =>
      (b.call? index).map fun _ => b.modifyCall index fun c => { c with argTys }
  | .setCount index count => if b.isAlloca index then some (b.setCount index count) else none

/-- The function after a change, if there is something to change. -/
def FunctionDef.edit? (f : FunctionDef) : FunctionEdit → Option FunctionDef
  | .dropParameter => if f.parameters.isEmpty then none else some f.dropParameter
  | .dropBlock block => if block < f.blocks.length then some (f.dropBlock block) else none
  | .inBlock block change => do
      let changed ← (← f.blocks[block]?).edit? change
      return f.modifyBlock block fun _ => changed

/-- The module after a change, if there is something to change. -/
def Module.edit? (m : Module) : Edit → Option Module
  | .rename name => some (m.rename name)
  | .dropFunction f => (m.body? f).map fun _ => m.dropFunction f
  | .dropDecl f => if m.decls.contains f then some (m.dropDecl f) else none
  | .dropGlobal g => if m.globals.contains g then some (m.dropGlobal g) else none
  | .inFunction f change => do
      let changed ← (← m.body? f).edit? change
      return m.modifyFunction f fun _ => changed

end PointerOrigins
