import PointerOrigins.Ir.Name

/-!
Constants and constant expressions. They are compared structurally: two nulls are the same value,
as are two references to one global.
-/

namespace PointerOrigins

/-- Constants and constant expressions. -/
inductive Constant where
  | function (name : FunctionName)
  | global (name : GlobalName)
  | int (bits : UInt32) (value : UInt64)
  | null
  | undef
  | poison
  | zero
  /-- An array of plain data elements, such as a string literal. -/
  | data (elements : List UInt64)
  | array (elements : List Constant)
  | struct (fields : List Constant)
  | addrSpaceCast (inner : Constant)
  | bitCast (inner : Constant)
  | getElementPtr (inner : Constant)
  | intToPtr (inner : Constant)
  | ptrToInt (inner : Constant)
  | other
deriving Repr, Inhabited

namespace Constant

----------------------------------------------------------------------------------------------
-- Equality
----------------------------------------------------------------------------------------------

mutual

/-- Structural comparison. -/
def same : Constant → Constant → Bool
  | .function f, .function g => decide (f = g)
  | .global f, .global g => decide (f = g)
  | .int b v, .int c w => decide (b = c) && decide (v = w)
  | .null, .null => true
  | .undef, .undef => true
  | .poison, .poison => true
  | .zero, .zero => true
  | .data xs, .data ys => decide (xs = ys)
  | .array xs, .array ys => sameAll xs ys
  | .struct xs, .struct ys => sameAll xs ys
  | .addrSpaceCast c, .addrSpaceCast d => same c d
  | .bitCast c, .bitCast d => same c d
  | .getElementPtr c, .getElementPtr d => same c d
  | .intToPtr c, .intToPtr d => same c d
  | .ptrToInt c, .ptrToInt d => same c d
  | .other, .other => true
  | _, _ => false

/-- Structural comparison of two lists. -/
def sameAll : List Constant → List Constant → Bool
  | [], [] => true
  | x :: xs, y :: ys => same x y && sameAll xs ys
  | _, _ => false

end

mutual

/-- Comparison decides equality. -/
theorem same_iff : ∀ a b : Constant, same a b = true ↔ a = b := by
  intro a b
  cases a <;> cases b <;>
    simp only [same, decide_eq_true_eq, Bool.and_eq_true, Constant.function.injEq,
      Constant.global.injEq, Constant.int.injEq, Constant.data.injEq, Constant.array.injEq,
      Constant.struct.injEq, Constant.addrSpaceCast.injEq, Constant.bitCast.injEq,
      Constant.getElementPtr.injEq, Constant.intToPtr.injEq, Constant.ptrToInt.injEq,
      reduceCtorEq, Bool.false_eq_true]
  case array.array xs ys => exact sameAll_iff xs ys
  case struct.struct xs ys => exact sameAll_iff xs ys
  case addrSpaceCast.addrSpaceCast c d => exact same_iff c d
  case bitCast.bitCast c d => exact same_iff c d
  case getElementPtr.getElementPtr c d => exact same_iff c d
  case intToPtr.intToPtr c d => exact same_iff c d
  case ptrToInt.ptrToInt c d => exact same_iff c d

/-- Comparison of lists decides equality. -/
theorem sameAll_iff : ∀ xs ys : List Constant, sameAll xs ys = true ↔ xs = ys := by
  intro xs ys
  cases xs <;> cases ys <;>
    simp only [sameAll, Bool.and_eq_true, List.cons.injEq, reduceCtorEq, Bool.false_eq_true]
  case cons.cons x xs y ys => rw [same_iff x y, sameAll_iff xs ys]

end

instance : DecidableEq Constant := fun a b => decidable_of_iff _ (same_iff a b)

----------------------------------------------------------------------------------------------
-- Views
----------------------------------------------------------------------------------------------

/-- The operand of an expression that yields the address of its operand, up to a constant offset:
a pointer cast or an element address.
-/
def inner? : Constant → Option Constant
  | .addrSpaceCast c | .bitCast c | .getElementPtr c => some c
  | _ => none

/-- The function that a constant refers to, seen through pointer casts. -/
def function? : Constant → Option FunctionName
  | .function f => some f
  | .bitCast c | .addrSpaceCast c => c.function?
  | _ => none

/-- The global that a constant addresses, seen through pointer casts and element addresses. -/
def global? : Constant → Option GlobalName
  | .global g => some g
  | .addrSpaceCast c | .bitCast c | .getElementPtr c => c.global?
  | _ => none

----------------------------------------------------------------------------------------------
-- Text
----------------------------------------------------------------------------------------------

mutual

/-- Constants as they are written in reports. -/
def text : Constant → String
  | .function f => f.text
  | .global g => g.text
  | .int bits value => "i" ++ toString bits.toNat ++ " " ++ toString value.toNat
  | .null => "null"
  | .undef => "undef"
  | .poison => "poison"
  | .zero => "zeroinitializer"
  | .data elements => "<data array of " ++ toString elements.length ++ ">"
  | .array elements => "[ " ++ ", ".intercalate (texts elements) ++ " ]"
  | .struct fields => "\x7b " ++ ", ".intercalate (texts fields) ++ " \x7d"
  | .addrSpaceCast c => "addrspacecast(" ++ c.text ++ ")"
  | .bitCast c => "bitcast(" ++ c.text ++ ")"
  | .getElementPtr c => "getelementptr(" ++ c.text ++ ")"
  | .intToPtr c => "inttoptr(" ++ c.text ++ ")"
  | .ptrToInt c => "ptrtoint(" ++ c.text ++ ")"
  | .other => "<some constant>"

/-- The texts of several constants. -/
def texts : List Constant → List String
  | [] => []
  | c :: cs => c.text :: texts cs

end

end Constant

end PointerOrigins
