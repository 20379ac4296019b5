/-!
Names of the things that a module defines.

Functions, blocks, instructions and parameters each carry a serial number, so that two of them
with equal text in different places of a module are still different values. Globals have no serial
number: two references to one symbol are the same value.
-/

namespace PointerOrigins

----------------------------------------------------------------------------------------------
-- Symbols
----------------------------------------------------------------------------------------------

/-- The (mangled) symbol of a function. Within one module a symbol is given one serial number. -/
structure FunctionName where
  id : Nat
  symbol : String
deriving DecidableEq, Repr, Inhabited

/-- The symbol of a global variable. -/
structure GlobalName where
  symbol : String
deriving DecidableEq, Repr, Inhabited

/-- Functions are written with a leading at sign. -/
def FunctionName.text (f : FunctionName) : String :=
  "@" ++ f.symbol

/-- Globals are written like functions. -/
def GlobalName.text (g : GlobalName) : String :=
  "@" ++ g.symbol

/-- Functions are in the order of their symbols. -/
def FunctionName.order (f g : FunctionName) : Ordering :=
  compare f.symbol g.symbol

/-- Globals are in the order of their symbols. -/
def GlobalName.order (g h : GlobalName) : Ordering :=
  compare g.symbol h.symbol

----------------------------------------------------------------------------------------------
-- Places inside a function
----------------------------------------------------------------------------------------------

/-- A basic block of a function. -/
structure BlockName where
  id : Nat
  function : FunctionName
  label : String
deriving DecidableEq, Repr, Inhabited

/-- The place of an instruction or terminator in its block. A terminator has the number of the
block's instructions as its index.
-/
structure InstructionName where
  id : Nat
  block : BlockName
  index : Nat
deriving DecidableEq, Repr, Inhabited

/-- A parameter, with its zero-based position in the parameter list. -/
structure ParameterName where
  id : Nat
  function : FunctionName
  name : String
  position : Nat
deriving DecidableEq, Repr, Inhabited

/-- A value that belongs to one function. -/
inductive LocalName where
  | parameter (name : ParameterName)
  | instruction (name : InstructionName)
deriving DecidableEq, Repr, Inhabited

/-- Blocks are written as function and label. -/
def BlockName.text (b : BlockName) : String :=
  b.function.symbol ++ ":" ++ b.label

/-- The function that an instruction belongs to. -/
def InstructionName.function (i : InstructionName) : FunctionName :=
  i.block.function

/-- Instructions are written as block and index. -/
def InstructionName.text (i : InstructionName) : String :=
  i.block.text ++ ":" ++ toString i.index

/-- Parameters are written as function and name. -/
def ParameterName.text (p : ParameterName) : String :=
  p.function.symbol ++ ":%" ++ p.name

/-- The function that a local value belongs to. -/
def LocalName.function : LocalName → FunctionName
  | .parameter p => p.function
  | .instruction i => i.function

/-- Locals are written like the parameter or instruction they name. -/
def LocalName.text : LocalName → String
  | .parameter p => p.text
  | .instruction i => i.text

end PointerOrigins
