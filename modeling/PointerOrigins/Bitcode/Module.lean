/-!
Modules as a bitcode reader gives them: fully typed, with symbols and local names instead of
references.
-/

namespace PointerOrigins.Bitcode

----------------------------------------------------------------------------------------------
-- Types
----------------------------------------------------------------------------------------------

/-- A type. -/
inductive Ty where
  | void
  | int (bits : UInt32)
  | half
  | double
  | metadata
  | label
  | token
  | pointer (space : Nat) (pointee : Ty)
  | array (count : Nat) (element : Ty)
  | vector (count : Nat) (element : Ty)
  | struct (fields : List Ty)
  | named (name : String)
  | function (result : Ty) (params : List Ty)
deriving Repr, Inhabited

namespace Ty

mutual

/-- Whether two types are the same. -/
def same : Ty → Ty → Bool
  | .void, .void | .half, .half | .double, .double | .metadata, .metadata | .label, .label
  | .token, .token => true
  | .int a, .int b => a = b
  | .pointer s a, .pointer t b => s = t && a.same b
  | .array n a, .array m b => n = m && a.same b
  | .vector n a, .vector m b => n = m && a.same b
  | .struct as, .struct bs => sameAll as bs
  | .named a, .named b => a = b
  | .function a as, .function b bs => a.same b && sameAll as bs
  | _, _ => false

/-- Whether two lists hold the same types. -/
def sameAll : List Ty → List Ty → Bool
  | [], [] => true
  | a :: as, b :: bs => a.same b && sameAll as bs
  | _, _ => false

end

end Ty

----------------------------------------------------------------------------------------------
-- Values
----------------------------------------------------------------------------------------------

/-- The name of a local value. A number is never equal to a text. -/
inductive LocalId where
  | text (name : String)
  | number (n : Nat)
deriving DecidableEq, Repr, Inhabited

/-- A local name as it is written. -/
def LocalId.string : LocalId → String
  | .text name => name
  | .number n => toString n

/-- The constant expressions that change the type of a constant. -/
inductive CastKind where
  | addrSpaceCast
  | bitCast
  | intToPtr
  | ptrToInt
  | trunc
deriving DecidableEq, Repr, Inhabited

/-- A constant. -/
inductive Const where
  | ref (symbol : String) (type : Ty)
  | int (bits : UInt32) (value : UInt64)
  | null (type : Ty)
  | undef (type : Ty)
  | poison (type : Ty)
  | zero (type : Ty)
  | array (element : Ty) (elements : List Const)
  | struct (fields : List Const)
  | vector (elements : List Const)
  | cast (kind : CastKind) (value : Const) (type : Ty)
  | getElementPtr (address : Const) (indices : List Const)
  | add (left right : Const)
  | icmp (left right : Const)
  | half
  | blockAddress
  | tokenNone
  /-- Any other constant with its type, if it has one. -/
  | other (type : Option Ty)
deriving Repr, Inhabited

/-- A use of a value. -/
inductive Value where
  | metadata
  | local (name : LocalId) (type : Ty)
  | const (c : Const)
deriving Repr, Inhabited

/-- What is called. -/
inductive Target where
  | value (v : Value)
  | asm (type : Ty)
deriving Repr, Inhabited

----------------------------------------------------------------------------------------------
-- Instructions
----------------------------------------------------------------------------------------------

/-- An operation. -/
inductive Op where
  | alloca (type : Ty) (count : Value)
  | cast (kind : CastKind) (value : Value) (type : Ty)
  | zext (type : Ty)
  | vaArg (type : Ty)
  | freeze (value : Value)
  | add (left right : Value)
  | icmp (left right : Value)
  | call (target : Target) (args : List Value)
  | extractValue (aggregate : Value) (indices : List Nat)
  | insertValue (aggregate element : Value)
  | getElementPtr (address : Value) (indices : List Value)
  | landingPad (type : Ty)
  | phi (values : List Value) (type : Ty)
  | load (address : Value)
  | atomicRmw (address : Value)
  | select (condition whenTrue whenFalse : Value)
  | store (address value : Value)
  | fence
  /-- Any other operation with the type of its result, if it has one. -/
  | other (type : Option Ty)
deriving Repr, Inhabited

/-- An operation with the name of its result. -/
structure Instr where
  dest : Option LocalId
  op : Op
deriving Repr, Inhabited

/-- The operation that ends a block. -/
inductive End where
  | ret (value : Option Value)
  | invoke (dest : LocalId) (target : Target) (args : List Value)
  /-- A jump, a resume, an unreachable end or any other, which may have a result. -/
  | other (dest : Option LocalId) (type : Ty)
deriving Repr, Inhabited

/-- The name of the result of an end. -/
def End.dest? : End → Option LocalId
  | .invoke dest _ _ => some dest
  | .other dest _ => dest
  | .ret _ => none

/-- A block. -/
structure Block where
  name : LocalId
  instrs : List Instr
  term : End
deriving Repr, Inhabited

/-- A function with a body. -/
structure Function where
  name : String
  params : List (LocalId × Ty)
  blocks : List Block
deriving Repr, Inhabited

/-- A module. -/
structure Module where
  name : String
  functions : List Function
  decls : List String
  globals : List String
  aliases : List (String × Const)
  /-- The definitions of named types. -/
  structs : List (String × Ty)
deriving Repr, Inhabited

end PointerOrigins.Bitcode
