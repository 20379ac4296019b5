import PointerOrigins.Ir.Operand

/-!
Instructions and terminators, with the operands that each of them uses.
-/

namespace PointerOrigins

/-- Types, as far as pointers have to be told from everything else. -/
inductive Ty where
  | pointer
  | int (bits : UInt32)
  | aggregate
  | void
  | other
deriving DecidableEq, Repr, Inhabited

/-- Only pointers are pointers. -/
def Ty.isPointer : Ty → Bool
  | .pointer => true
  | _ => false

----------------------------------------------------------------------------------------------
-- Calls
----------------------------------------------------------------------------------------------

/-- What calls and invokes have in common: a callee, and arguments with their types. -/
structure Call where
  callee : Callee
  args : List Operand
  /-- Stands beside the arguments, and may be shorter or longer. -/
  argTys : List Ty
deriving DecidableEq, Repr, Inhabited

/-- The arguments of pointer type, with their positions. -/
def Call.pointerArgs (c : Call) : List (Nat × Operand) :=
  ((c.args.zip c.argTys).zipIdx.filter fun entry => entry.1.2.isPointer).map
    fun entry => (entry.2, entry.1.1)

----------------------------------------------------------------------------------------------
-- Operations
----------------------------------------------------------------------------------------------

/-- The operation of an instruction. -/
inductive Opcode where
  | alloca (count : Operand)
  | addrSpaceCast (pointer : Operand)
  | bitCast (pointer : Operand)
  | call (call : Call)
  | extractValue (aggregate : Operand)
  | getElementPtr (pointer : Operand) (indices : List Operand)
  | insertValue (aggregate element : Operand)
  | intToPtr (int : Operand)
  | landingPad
  | load (pointer : Operand)
  | phi (values : List Operand)
  | ptrToInt (pointer : Operand)
  | select (condition whenTrue whenFalse : Operand)
  | store (value pointer : Operand)
  | other
deriving DecidableEq, Repr, Inhabited

/-- The word that an instruction is written with. -/
def Opcode.mnemonic : Opcode → String
  | .alloca _ => "alloca"
  | .addrSpaceCast _ => "addrspacecast"
  | .bitCast _ => "bitcast"
  | .call _ => "call"
  | .extractValue _ => "extractvalue"
  | .getElementPtr _ _ => "getelementptr"
  | .insertValue _ _ => "insertvalue"
  | .intToPtr _ => "inttoptr"
  | .landingPad => "landingpad"
  | .load _ => "load"
  | .phi _ => "phi"
  | .ptrToInt _ => "ptrtoint"
  | .select _ _ _ => "select"
  | .store _ _ => "store"
  | .other => "<other>"

/-- The operands of an instruction, in the order in which they are checked. A call lists its callee
before its arguments.
-/
def Opcode.operands : Opcode → List Operand
  | .alloca count => [count]
  | .addrSpaceCast pointer => [pointer]
  | .bitCast pointer => [pointer]
  | .call c => c.callee.operands ++ c.args
  | .extractValue aggregate => [aggregate]
  | .getElementPtr pointer indices => pointer :: indices
  | .insertValue aggregate element => [aggregate, element]
  | .intToPtr int => [int]
  | .landingPad => []
  | .load pointer => [pointer]
  | .phi values => values
  | .ptrToInt pointer => [pointer]
  | .select condition whenTrue whenFalse => [condition, whenTrue, whenFalse]
  | .store value pointer => [value, pointer]
  | .other => []

/-- The operation that ends a block. An invoke is a call with an unwind edge. -/
inductive TerminatorOpcode where
  | invoke (call : Call)
  | ret (value : Option Operand)
  | other
deriving DecidableEq, Repr, Inhabited

/-- The word that a terminator is written with. -/
def TerminatorOpcode.mnemonic : TerminatorOpcode → String
  | .invoke _ => "invoke"
  | .ret _ => "ret"
  | .other => "<other terminator>"

/-- The operands of a terminator, in the order in which they are checked. An invoke lists its
callee after its arguments.
-/
def TerminatorOpcode.operands : TerminatorOpcode → List Operand
  | .invoke c => c.args ++ c.callee.operands
  | .ret value => value.toList
  | .other => []

----------------------------------------------------------------------------------------------
-- Instructions
----------------------------------------------------------------------------------------------

/-- An operation with its name and the type of its result. -/
structure Instruction where
  name : InstructionName
  opcode : Opcode
  ty : Ty
deriving DecidableEq, Repr, Inhabited

/-- The end of a block. -/
structure Terminator where
  name : InstructionName
  opcode : TerminatorOpcode
  ty : Ty
deriving DecidableEq, Repr, Inhabited

/-- The operation that defines a local value. -/
inductive Definition where
  | instruction (opcode : Opcode)
  | terminator (opcode : TerminatorOpcode)
deriving DecidableEq, Repr, Inhabited

namespace Definition

/-- The word that a definition is written with. -/
def mnemonic : Definition → String
  | .instruction opcode => opcode.mnemonic
  | .terminator opcode => opcode.mnemonic

/-- The operands that a definition uses. -/
def operands : Definition → List Operand
  | .instruction opcode => opcode.operands
  | .terminator opcode => opcode.operands

/-- The call that a definition makes, if it is a call or an invoke. -/
def call? : Definition → Option Call
  | .instruction (.call c) => some c
  | .terminator (.invoke c) => some c
  | _ => none

end Definition

end PointerOrigins
