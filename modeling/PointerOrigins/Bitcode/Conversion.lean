import PointerOrigins.Bitcode.Typing
import PointerOrigins.Ir.Module

/-!
From bitcode modules to modules with resolved references.

First all symbols are given a constant: functions and declarations a name of their own, globals their
symbol, aliases the constant that they stand for. Then the bodies are converted with the local names of
each function, and the result is validated.
-/

namespace PointerOrigins.Bitcode

/-- Why a module cannot be converted. -/
inductive ConversionError where
  | malformed (e : ModuleError)
  /-- A type was asked for that does not exist. -/
  | illTyped
deriving DecidableEq, Repr, Inhabited

/-- What symbols stand for, the latest first. -/
abbrev Symbols := List (String × PointerOrigins.Constant)

/-- What the local names of a function stand for, the latest first. -/
abbrev Locals := List (LocalId × PointerOrigins.Operand)

/-- A type, as far as pointers have to be told from everything else. -/
def Ty.summary : Ty → PointerOrigins.Ty
  | .pointer _ _ => .pointer
  | .int bits => .int bits
  | .array _ _ | .vector _ _ | .struct _ | .named _ => .aggregate
  | .void => .void
  | _ => .other

----------------------------------------------------------------------------------------------
-- Constants
----------------------------------------------------------------------------------------------

/-- The value of an integer constant. -/
def Const.value? : Const → Option UInt64
  | .int _ value => some value
  | _ => none

/-- The values of an array that holds integers only, and at least one. -/
def integers? (elements : List Const) : Option (List UInt64) :=
  if elements.isEmpty then none else elements.mapM Const.value?

mutual

/-- Converts a constant. An array of integers becomes plain data. -/
def Const.convert (symbols : Symbols) : Const → Except ModuleError PointerOrigins.Constant
  | .ref symbol _ =>
      match symbols.lookup symbol with
      | some c => .ok c
      | none => .error (.globalNotFound symbol)
  | .int bits value => .ok (.int bits value)
  | .null _ => .ok .null
  | .undef _ => .ok .undef
  | .poison _ => .ok .poison
  | .zero _ => .ok .zero
  | .array _ elements =>
      match integers? elements with
      | some values => .ok (.data values)
      | none => (Const.convertAll symbols elements).map .array
  | .struct fields => (Const.convertAll symbols fields).map .struct
  | .cast .addrSpaceCast value _ => (value.convert symbols).map .addrSpaceCast
  | .cast .bitCast value _ => (value.convert symbols).map .bitCast
  | .cast .intToPtr value _ => (value.convert symbols).map .intToPtr
  | .cast .ptrToInt value _ => (value.convert symbols).map .ptrToInt
  | .getElementPtr address _ => (address.convert symbols).map .getElementPtr
  | .cast .trunc _ _ | .vector _ | .add _ _ | .icmp _ _ | .half | .blockAddress | .tokenNone | .other _ =>
      .ok .other

/-- Converts constants. -/
def Const.convertAll (symbols : Symbols) : List Const → Except ModuleError (List PointerOrigins.Constant)
  | [] => .ok []
  | c :: rest => do
      let c ← c.convert symbols
      let rest ← Const.convertAll symbols rest
      return c :: rest

end

----------------------------------------------------------------------------------------------
-- Symbols
----------------------------------------------------------------------------------------------

/-- One round over aliases that wait. An alias whose constant is known is resolved at once, so that the
ones after it can use it. Gives those that still wait.
-/
def resolveRound : List (String × Const) → Symbols → List (String × Const) × Symbols
  | [], symbols => ([], symbols)
  | (name, aliasee) :: rest, symbols =>
      match aliasee.convert symbols with
      | .ok c => resolveRound rest ((name, c) :: symbols)
      | .error _ =>
          let (waiting, symbols) := resolveRound rest symbols
          ((name, aliasee) :: waiting, symbols)

/-- A round leaves no more aliases than there were. -/
theorem resolveRound_length_le (pending : List (String × Const)) (symbols : Symbols)
    : (resolveRound pending symbols).1.length ≤ pending.length := by
  induction pending generalizing symbols with
  | nil => exact Nat.le_refl _
  | cons entry rest ih =>
      obtain ⟨name, aliasee⟩ := entry
      rw [resolveRound]
      split
      · exact Nat.le_succ_of_le (ih _)
      · exact Nat.succ_le_succ (ih _)

/-- Resolves aliases in rounds, until all are known or a round resolves none. -/
def resolveAliases (pending : List (String × Const)) (symbols : Symbols)
    : Except ModuleError Symbols :=
  match pending with
  | [] => .ok symbols
  | first :: others =>
      if (resolveRound (first :: others) symbols).1.length = others.length + 1 then
        .error (.unresolvedAlias first.1)
      else
        resolveAliases (resolveRound (first :: others) symbols).1
          (resolveRound (first :: others) symbols).2
termination_by pending.length
decreasing_by
  have le := resolveRound_length_le (first :: others) symbols
  simp only [List.length_cons] at le ⊢
  omega

/-- The names of the functions with a body and of the declared ones, in that order. -/
def Module.functionNames (m : Module) : List PointerOrigins.FunctionName :=
  (m.functions.map Function.name ++ m.decls).zipIdx.map fun (symbol, id) => ⟨id, symbol⟩

/-- What the symbols of a module stand for before its aliases are known. -/
def Module.ownSymbols (m : Module) : Symbols :=
  ((m.functionNames.map fun name => (name.symbol, PointerOrigins.Constant.function name)) ++
    m.globals.map fun symbol => (symbol, PointerOrigins.Constant.global ⟨symbol⟩)).reverse

/-- What the symbols of a module stand for. -/
def Module.symbols (m : Module) : Except ModuleError Symbols :=
  resolveAliases m.aliases m.ownSymbols

/-- The function that a symbol stands for. -/
def functionName (symbols : Symbols) (symbol : String)
    : Except ModuleError PointerOrigins.FunctionName :=
  match symbols.lookup symbol with
  | some (.function name) => .ok name
  | _ => .error (.noSuchFunction symbol)

/-- The global that a symbol stands for. -/
def globalName (symbols : Symbols) (symbol : String) : Except ModuleError PointerOrigins.GlobalName :=
  match symbols.lookup symbol with
  | some (.global name) => .ok name
  | _ => .error (.noSuchGlobal symbol)

----------------------------------------------------------------------------------------------
-- Bodies
----------------------------------------------------------------------------------------------

/-- What a body is converted with. -/
structure Context where
  symbols : Symbols
  structs : Structs
  locals : Locals

/-- An error of the module as an error of its conversion. -/
def lift {α : Type} (result : Except ModuleError α) : Except ConversionError α :=
  result.mapError .malformed

/-- A type that is asked for. -/
def demand (type : Option Ty) : Except ConversionError PointerOrigins.Ty :=
  match type with
  | some type => .ok type.summary
  | none => .error .illTyped

namespace Context

/-- Converts a use of a value. -/
def value (ctx : Context) : Value → Except ConversionError PointerOrigins.Operand
  | .metadata => .ok .metadata
  | .const c => lift ((c.convert ctx.symbols).map .constant)
  | .local name _ =>
      match ctx.locals.lookup name with
      | some op => .ok op
      | none => lift (.error (.badLocal name.string))

/-- Converts what is called. -/
def target (ctx : Context) : Target → Except ConversionError PointerOrigins.Callee
  | .value v => (ctx.value v).map .operand
  | .asm _ => .ok .asm

/-- Converts an argument and asks for its type. -/
def arg (ctx : Context) (v : Value)
    : Except ConversionError (PointerOrigins.Operand × PointerOrigins.Ty) := do
  let op ← ctx.value v
  let type ← demand (v.type? ctx.structs)
  return (op, type)

/-- Converts a call: the arguments with their types, then the callee. -/
def call (ctx : Context) (t : Target) (args : List Value)
    : Except ConversionError PointerOrigins.Call := do
  let args ← args.mapM ctx.arg
  let callee ← ctx.target t
  return ⟨callee, args.map Prod.fst, args.map Prod.snd⟩

/-- Converts an operation. -/
def op (ctx : Context) : Op → Except ConversionError PointerOrigins.Opcode
  | .alloca _ count => return .alloca (← ctx.value count)
  | .cast .addrSpaceCast value _ => return .addrSpaceCast (← ctx.value value)
  | .cast .bitCast value _ => return .bitCast (← ctx.value value)
  | .cast .intToPtr value _ => return .intToPtr (← ctx.value value)
  | .cast .ptrToInt value _ => return .ptrToInt (← ctx.value value)
  | .call target args => return .call (← ctx.call target args)
  | .extractValue aggregate _ => return .extractValue (← ctx.value aggregate)
  | .insertValue aggregate element => do
      let aggregate ← ctx.value aggregate
      return .insertValue aggregate (← ctx.value element)
  | .getElementPtr address indices => do
      let address ← ctx.value address
      return .getElementPtr address (← indices.mapM ctx.value)
  | .landingPad _ => return .landingPad
  | .phi values _ => return .phi (← values.mapM ctx.value)
  | .load address => return .load (← ctx.value address)
  | .select condition whenTrue whenFalse => do
      let condition ← ctx.value condition
      let whenTrue ← ctx.value whenTrue
      return .select condition whenTrue (← ctx.value whenFalse)
  | .store address value => do
      let value ← ctx.value value
      return .store value (← ctx.value address)
  | .cast .trunc _ _ | .zext _ | .vaArg _ | .freeze _ | .add _ _ | .icmp _ _ | .atomicRmw _ | .fence
  | .other _ =>
      return .other

/-- Converts the end of a block. -/
def term (ctx : Context) : End → Except ConversionError PointerOrigins.TerminatorOpcode
  | .ret none => return .ret none
  | .ret (some value) => return .ret (some (← ctx.value value))
  | .invoke _ target args => return .invoke (← ctx.call target args)
  | .other _ _ => return .other

end Context

/-- The name of a parameter. -/
def paramName (f : PointerOrigins.FunctionName) (entry : (LocalId × Ty) × Nat)
    : PointerOrigins.ParameterName :=
  ⟨entry.2, f, entry.1.1.string, entry.2⟩

/-- The name of a block. -/
def blockName (f : PointerOrigins.FunctionName) (entry : Block × Nat) : PointerOrigins.BlockName :=
  ⟨entry.2, f, entry.1.name.string⟩

/-- The name of an instruction, or of the end of a block. -/
def instrName (b : PointerOrigins.BlockName) (index : Nat) : PointerOrigins.InstructionName :=
  ⟨index, b, index⟩

/-- The local names that a block defines, in order. -/
def blockLocals (f : PointerOrigins.FunctionName) (entry : Block × Nat) : Locals :=
  let b := blockName f entry
  let results := entry.1.instrs.map Instr.dest ++ [entry.1.term.dest?]
  results.zipIdx.filterMap fun (dest, index) =>
    dest.map fun dest => (dest, .instruction (instrName b index))

/-- What the local names of a function stand for. All are known before the body is converted, since a
value may be used before its definition.
-/
def Function.locals (f : Function) (name : PointerOrigins.FunctionName) : Locals :=
  ((f.params.zipIdx.map fun entry => (entry.1.1, PointerOrigins.Operand.parameter (paramName name entry))) ++
    f.blocks.zipIdx.flatMap (blockLocals name)).reverse

/-- Converts an instruction: its operands, then its type. -/
def Context.instr (ctx : Context) (b : PointerOrigins.BlockName) (entry : Instr × Nat)
    : Except ConversionError PointerOrigins.Instruction := do
  let opcode ← ctx.op entry.1.op
  let type ← demand (entry.1.op.type? ctx.structs)
  return ⟨instrName b entry.2, opcode, type⟩

/-- Converts a block. -/
def Context.block (ctx : Context) (f : PointerOrigins.FunctionName) (entry : Block × Nat)
    : Except ConversionError PointerOrigins.Block := do
  let b := blockName f entry
  let instrs ← entry.1.instrs.zipIdx.mapM (ctx.instr b)
  let opcode ← ctx.term entry.1.term
  let type ← demand (entry.1.term.type? ctx.structs)
  return ⟨b, instrs, ⟨instrName b entry.1.instrs.length, opcode, type⟩⟩

/-- Converts a function. -/
def Function.convert (f : Function) (symbols : Symbols) (structs : Structs)
    (name : PointerOrigins.FunctionName) : Except ConversionError PointerOrigins.FunctionDef := do
  let ctx : Context := ⟨symbols, structs, f.locals name⟩
  let blocks ← f.blocks.zipIdx.mapM (ctx.block name)
  return ⟨f.params.zipIdx.map (paramName name), blocks⟩

----------------------------------------------------------------------------------------------
-- Modules
----------------------------------------------------------------------------------------------

/-- Puts a function into a map; an entry with the same name is replaced. -/
def putFunction (functions : List (PointerOrigins.FunctionName × PointerOrigins.FunctionDef))
    (entry : PointerOrigins.FunctionName × PointerOrigins.FunctionDef)
    : List (PointerOrigins.FunctionName × PointerOrigins.FunctionDef) :=
  functions.filter (fun other => other.1 != entry.1) ++ [entry]

/-- Converts a module without validating it. -/
def Module.convertUnchecked (m : Module) : Except ConversionError PointerOrigins.Module := do
  let symbols ← lift m.symbols
  let functions ← m.functions.mapM fun f => do
    let name ← lift (functionName symbols f.name)
    let body ← f.convert symbols m.structs name
    return (name, body)
  let decls ← m.decls.mapM fun symbol => lift (functionName symbols symbol)
  let globals ← m.globals.mapM fun symbol => lift (globalName symbols symbol)
  return {
    name := m.name
    decls := decls.eraseDups
    functions := functions.foldl putFunction []
    globals := globals.eraseDups }

/-- Converts a module. -/
def Module.convert (m : Module) : Except ConversionError PointerOrigins.Module := do
  let converted ← m.convertUnchecked
  lift converted.validate
  return converted

end PointerOrigins.Bitcode
