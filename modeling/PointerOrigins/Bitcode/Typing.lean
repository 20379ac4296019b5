import PointerOrigins.Bitcode.Module

/-!
The types of values and operations. There is none where the code is ill typed.
-/

namespace PointerOrigins.Bitcode

/-- The definitions of named types. -/
abbrev Structs := List (String × Ty)

namespace Ty

/-- What a pointer points to. -/
def pointee? : Ty → Option Ty
  | .pointer _ pointee => some pointee
  | _ => none

/-- What a pointer to a function returns. -/
def result? : Ty → Option Ty
  | .pointer _ (.function result _) => some result
  | _ => none

/-- The definition behind a named type. A name may stand for another one, so that the number of
definitions bounds the way.
-/
def define? (structs : Structs) : Nat → Ty → Option Ty
  | 0, _ => none
  | bound + 1, .named name => (structs.lookup name).bind (define? structs bound)
  | _ + 1, type => some type

/-- The type one index further inside. Only the index into a struct has to be known. -/
def step? (structs : Structs) (type : Ty) (index : Option Nat) : Option Ty := do
  match ← define? structs (structs.length + 1) type with
  | .pointer _ pointee => some pointee
  | .array _ element => some element
  | .vector _ element => some element
  | .struct fields => index.bind fun i => fields[i]?
  | _ => none

/-- The type some indices further inside. -/
def steps? (structs : Structs) : Ty → List (Option Nat) → Option Ty
  | type, [] => some type
  | type, index :: rest => (step? structs type index).bind fun inner => steps? structs inner rest

/-- The type of a part of an aggregate. Arrays are not asked for their length, and named types are
not looked into.
-/
def part? : Ty → List Nat → Option Ty
  | type, [] => some type
  | .array _ element, _ :: rest => part? element rest
  | .struct fields, index :: rest => fields[index]?.bind fun field => part? field rest
  | _, _ :: _ => none

end Ty

/-- The index that a constant stands for. -/
def Const.index? : Const → Option Nat
  | .int _ value => some value.toNat
  | _ => none

/-- The index that a value stands for. -/
def Value.index? : Value → Option Nat
  | .const c => c.index?
  | _ => none

mutual

/-- The type of a constant. -/
def Const.type? (structs : Structs) : Const → Option Ty
  | .ref _ type => some (.pointer 0 type)
  | .int bits _ => some (.int bits)
  | .null type | .undef type | .poison type | .zero type => some type
  | .array element elements => some (.array elements.length element)
  | .struct fields => (Const.types? structs fields).map .struct
  | .vector [] => none
  | .vector (first :: rest) => (first.type? structs).map (.vector (rest.length + 1))
  | .cast _ _ type => some type
  | .getElementPtr address indices =>
      (address.type? structs).bind fun type =>
        (type.steps? structs (indices.map Const.index?)).map (.pointer 0)
  | .add left _ => left.type? structs
  | .icmp _ _ => some (.int 1)
  | .half => some .half
  | .blockAddress => some .label
  | .tokenNone => some .token
  | .other type => type

/-- The types of constants. -/
def Const.types? (structs : Structs) : List Const → Option (List Ty)
  | [] => some []
  | c :: rest => do
      let type ← c.type? structs
      let types ← Const.types? structs rest
      some (type :: types)

end

/-- The type of a value. -/
def Value.type? (structs : Structs) : Value → Option Ty
  | .metadata => some .metadata
  | .local _ type => some type
  | .const c => c.type? structs

/-- What a call returns. -/
def Target.result? (structs : Structs) : Target → Option Ty
  | .value v => (v.type? structs).bind Ty.result?
  | .asm type => type.result?

/-- The type of two values that must have the same one. -/
def commonType? (structs : Structs) (left right : Value) : Option Ty := do
  let type ← left.type? structs
  let other ← right.type? structs
  if type.same other then some type else none

/-- The type of the result of an operation. -/
def Op.type? (structs : Structs) : Op → Option Ty
  | .alloca type _ => some (.pointer 0 type)
  | .cast _ _ type | .zext type | .vaArg type | .landingPad type | .phi _ type => some type
  | .freeze value => value.type? structs
  | .add left right => commonType? structs left right
  | .icmp left right =>
      (commonType? structs left right).map fun
        | .vector count _ => .vector count (.int 1)
        | _ => .int 1
  | .call target _ => target.result? structs
  | .extractValue aggregate indices => (aggregate.type? structs).bind (·.part? indices)
  | .insertValue aggregate _ => aggregate.type? structs
  | .getElementPtr address indices => do
      let type ← address.type? structs
      let reached ← type.steps? structs (indices.map Value.index?)
      -- A named type that is reached has to have a definition.
      let reached ← reached.define? structs (structs.length + 1)
      some (.pointer 0 reached)
  | .load address | .atomicRmw address => (address.type? structs).bind Ty.pointee?
  | .select _ whenTrue whenFalse => commonType? structs whenTrue whenFalse
  | .store _ _ | .fence => some .void
  | .other type => type

/-- The type of the result of an end. -/
def End.type? (structs : Structs) : End → Option Ty
  | .invoke _ target _ => target.result? structs
  | .ret _ => some .void
  | .other _ type => some type

end PointerOrigins.Bitcode
