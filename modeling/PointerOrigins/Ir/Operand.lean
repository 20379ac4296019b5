import PointerOrigins.Ir.Constant

/-!
Uses of values, and what a call calls.
-/

namespace PointerOrigins

/-- A use of a value. Locals are equal when they name the same parameter or instruction, constants
when they are structurally equal.
-/
inductive Operand where
  | constant (c : Constant)
  | local (name : LocalName)
  | metadata
deriving DecidableEq, Repr, Inhabited

namespace Operand

/-- The value of an instruction or terminator. -/
@[match_pattern]
def instruction (i : InstructionName) : Operand :=
  .local (.instruction i)

/-- The value of a parameter. -/
@[match_pattern]
def parameter (p : ParameterName) : Operand :=
  .local (.parameter p)

/-- The address of a function. -/
def function (f : FunctionName) : Operand :=
  .constant (.function f)

/-- The null pointer. -/
def null : Operand :=
  .constant .null

/-- An integer constant. -/
def int (bits : UInt32) (value : UInt64) : Operand :=
  .constant (.int bits value)

/-- Operands as they are written in reports. -/
def text : Operand → String
  | .constant c => c.text
  | .local name => name.text
  | .metadata => "<metadata>"

/-- The instruction that an operand names. -/
def instruction? : Operand → Option InstructionName
  | .instruction i => some i
  | _ => none

/-- The function whose body defines an operand, if it is a local. -/
def function? : Operand → Option FunctionName
  | .local name => some name.function
  | _ => none

end Operand

/-- What a call calls: the value of an operand, or inline assembly. -/
inductive Callee where
  | operand (op : Operand)
  | asm
deriving DecidableEq, Repr, Inhabited

namespace Callee

/-- The target that is known from the text of the call, seen through pointer casts. -/
def direct? : Callee → Option FunctionName
  | .operand (.constant c) => c.function?
  | _ => none

/-- The operand that is called. -/
def operands : Callee → List Operand
  | .operand op => [op]
  | .asm => []

/-- Callees as they are written in reports. -/
def text : Callee → String
  | .operand op => op.text
  | .asm => "asm"

end Callee

end PointerOrigins
