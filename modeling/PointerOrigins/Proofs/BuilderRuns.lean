import PointerOrigins.Ir.Builder

/-!
Calls on builders, one after another, with what they answer. While a function is under construction its
builder holds the module, so the calls on it stand together, and in the end it is finished or dropped.

Instructions and terminators need an open block. A run that takes this block from the builder, and gives up
where there is none, never gives up.
-/

namespace PointerOrigins

----------------------------------------------------------------------------------------------
-- Instructions and terminators that are asked for
----------------------------------------------------------------------------------------------

/-- An instruction that a function builder is asked to add. -/
inductive Addition where
  | alloca
  | addrSpaceCast (pointer : Operand)
  | bitCast (pointer : Operand)
  | call (callee : Operand) (args : List (Operand × Ty)) (ty : Ty)
  | callAsm (args : List (Operand × Ty)) (ty : Ty)
  | extractValue (aggregate : Operand) (ty : Ty)
  | getElementPtr (pointer : Operand) (indices : List Operand)
  | insertValue (aggregate element : Operand)
  | intToPtr (int : Operand)
  | landingPad
  | load (pointer : Operand) (ty : Ty)
  | phi (values : List Operand) (ty : Ty)
  | ptrToInt (pointer : Operand)
  | select (condition whenTrue whenFalse : Operand) (ty : Ty)
  | store (value pointer : Operand)
  | other (ty : Ty)
deriving DecidableEq, Repr

namespace Addition

/-- The operation that is asked for. Only an alloca has an operand that is not given: it has one element. -/
def opcode : Addition → Opcode
  | .alloca => .alloca (.int 32 1)
  | .addrSpaceCast pointer => .addrSpaceCast pointer
  | .bitCast pointer => .bitCast pointer
  | .call callee args _ => .call ⟨.operand callee, args.map Prod.fst, args.map Prod.snd⟩
  | .callAsm args _ => .call ⟨.asm, args.map Prod.fst, args.map Prod.snd⟩
  | .extractValue aggregate _ => .extractValue aggregate
  | .getElementPtr pointer indices => .getElementPtr pointer indices
  | .insertValue aggregate element => .insertValue aggregate element
  | .intToPtr int => .intToPtr int
  | .landingPad => .landingPad
  | .load pointer _ => .load pointer
  | .phi values _ => .phi values
  | .ptrToInt pointer => .ptrToInt pointer
  | .select condition whenTrue whenFalse _ => .select condition whenTrue whenFalse
  | .store value pointer => .store value pointer
  | .other _ => .other

/-- The type of the result, where it is not given by the operation. -/
def ty : Addition → Ty
  | .call _ _ ty | .callAsm _ ty | .extractValue _ ty | .load _ ty | .phi _ ty | .select _ _ _ ty
  | .other ty => ty
  | .alloca | .addrSpaceCast _ | .bitCast _ | .getElementPtr _ _ | .intToPtr _ => .pointer
  | .insertValue _ _ | .landingPad => .aggregate
  | .ptrToInt _ => .int 64
  | .store _ _ => .void

/-- Adds the instruction. -/
def run (b : FunctionBuilder) : Addition → Operand × FunctionBuilder
  | .alloca => b.alloca
  | .addrSpaceCast pointer => b.addrSpaceCast pointer
  | .bitCast pointer => b.bitCast pointer
  | .call callee args ty => b.call callee args ty
  | .callAsm args ty => b.callAsm args ty
  | .extractValue aggregate ty => b.extractValue aggregate ty
  | .getElementPtr pointer indices => b.getElementPtr pointer indices
  | .insertValue aggregate element => b.insertValue aggregate element
  | .intToPtr int => b.intToPtr int
  | .landingPad => b.landingPad
  | .load pointer ty => b.load pointer ty
  | .phi values ty => b.phi values ty
  | .ptrToInt pointer => b.ptrToInt pointer
  | .select condition whenTrue whenFalse ty => b.select condition whenTrue whenFalse ty
  | .store value pointer => b.store value pointer
  | .other ty => b.other ty

/-- Each call that adds an instruction pushes its operation. -/
theorem run_eq_push (b : FunctionBuilder) (i : Addition) : i.run b = b.push i.opcode i.ty := by
  cases i <;> rfl

end Addition

/-- A terminator that a function builder is asked for. -/
inductive Ending where
  | ret (value : Option Operand)
  | invoke (callee : Operand) (args : List (Operand × Ty)) (ty : Ty)
deriving DecidableEq, Repr

namespace Ending

/-- The operation that is asked for. -/
def opcode : Ending → TerminatorOpcode
  | .ret value => .ret value
  | .invoke callee args _ => .invoke ⟨.operand callee, args.map Prod.fst, args.map Prod.snd⟩

/-- The type of the result. A return has none. -/
def ty : Ending → Ty
  | .ret _ => .void
  | .invoke _ _ ty => ty

/-- The operation that a block ends with. Where none is asked for, it is an unconditional branch. -/
def opcodeOf (e : Option Ending) : TerminatorOpcode :=
  e.elim .other opcode

/-- The type of what a block ends with. -/
def tyOf (e : Option Ending) : Ty :=
  e.elim .void ty

end Ending

----------------------------------------------------------------------------------------------
-- Calls and answers
----------------------------------------------------------------------------------------------

/-- What a call on a builder answers. -/
inductive Answer where
  | done
  | name (f : FunctionName)
  | operand (value : Operand)
  | noParameter (e : ParameterError)
  | error (e : ModuleError)
deriving DecidableEq, Repr

namespace Answer

/-- The answer to a call that gives a name or fails. -/
def ofName : Except ModuleError FunctionName → Answer
  | .ok f => .name f
  | .error e => .error e

/-- The answer to a call that gives nothing or fails. -/
def ofUnit : Except ModuleError Unit → Answer
  | .ok () => .done
  | .error e => .error e

/-- The answer to a call that asks for a parameter. -/
def ofParameter : Except ParameterError Operand → Answer
  | .ok value => .operand value
  | .error e => .noParameter e

/-- The function names that an answer hands out: one on its own, one as an operand, or that of the function
which a local value belongs to.
-/
def names : Answer → List FunctionName
  | .name f => [f]
  | .operand (.constant (.function f)) => [f]
  | .operand (.local value) => [value.function]
  | _ => []

end Answer

/-- A call on a function builder. -/
inductive FunctionCall where
  | name
  | param (position : Nat)
  | functionRef (symbol : String)
  | block (label : String)
  | add (i : Addition)
  | addIncoming (phi value : Operand)
  | terminate (e : Ending)
deriving DecidableEq, Repr

/-- Ends the block as it is asked for. A return answers nothing. -/
def Ending.run (b : FunctionBuilder) : Ending → Answer × FunctionBuilder
  | .ret value => (.done, b.ret value)
  | .invoke callee args ty => (.operand (b.invoke callee args ty).1, (b.invoke callee args ty).2)

/-- Carries out a call on a function builder. -/
def FunctionCall.run (b : FunctionBuilder) : FunctionCall → Answer × FunctionBuilder
  | .name => (.name b.name, b)
  | .param position => (.ofParameter (b.param position), b)
  | .functionRef symbol => (.operand (b.functionRef symbol).1, (b.functionRef symbol).2)
  | .block label => (.done, b.block label)
  | .add i => (.operand (i.run b).1, (i.run b).2)
  | .addIncoming phi value => (.ofUnit (b.addIncoming phi value).1, (b.addIncoming phi value).2)
  | .terminate e => e.run b

/-- Carries out calls on a function builder, and gives each of them with its answer. -/
def FunctionBuilder.run (b : FunctionBuilder)
    : List FunctionCall → List (FunctionCall × Answer) × FunctionBuilder
  | [] => ([], b)
  | call :: rest =>
      let after := FunctionBuilder.run (call.run b).2 rest
      ((call, (call.run b).1) :: after.1, after.2)

/-- A call on a module builder. A function stands for all calls on its builder. -/
inductive ModuleCall where
  | functionName (symbol : String)
  | declare (symbol : String)
  | global (symbol : String)
  | function (symbol : String) (parameters : List String) (calls : List FunctionCall) (finished : Bool)
deriving DecidableEq, Repr

/-- Carries out a call on a module builder. A function builder that is not finished is dropped. -/
def ModuleCall.run (b : ModuleBuilder) : ModuleCall → List Answer × ModuleBuilder
  | .functionName symbol => ([.name (b.functionName symbol).1], (b.functionName symbol).2)
  | .declare symbol => ([.ofName (b.declare symbol).1], (b.declare symbol).2)
  | .global symbol => ([.operand (b.global symbol).1], (b.global symbol).2)
  | .function symbol parameters calls finished =>
      let after := (b.function symbol parameters).run calls
      if finished then
        (after.1.map Prod.snd ++ [.ofName after.2.finish.1], after.2.finish.2)
      else (after.1.map Prod.snd, after.2.module)

/-- Carries out calls on a module builder, and gives all answers in order. -/
def ModuleBuilder.run (b : ModuleBuilder) : List ModuleCall → List Answer × ModuleBuilder
  | [] => ([], b)
  | call :: rest =>
      let after := ModuleBuilder.run (call.run b).2 rest
      ((call.run b).1 ++ after.1, after.2)

----------------------------------------------------------------------------------------------
-- Changes of a function builder
----------------------------------------------------------------------------------------------

namespace FunctionBuilder

variable {b : FunctionBuilder}

/-- The name of what is added to a block next. -/
def nextName (b : FunctionBuilder) (block : OpenBlock) : InstructionName :=
  ⟨b.module.nextId, block.name, block.instrs.length⟩

/-- The builder with a new block open. -/
def start (b : FunctionBuilder) (label : String) : FunctionBuilder :=
  { b.fresh.2 with current := some ⟨⟨b.module.nextId, b.name, label⟩, []⟩ }

/-- The builder with one more instruction in its open block. -/
def append (b : FunctionBuilder) (block : OpenBlock) (opcode : Opcode) (ty : Ty) : FunctionBuilder :=
  { b.fresh.2 with
    current := some { block with instrs := block.instrs ++ [⟨b.nextName block, opcode, ty⟩] } }

/-- The builder with its open block at an end. -/
def endBlock (b : FunctionBuilder) (block : OpenBlock) (opcode : TerminatorOpcode) (ty : Ty)
    : FunctionBuilder :=
  { b.fresh.2 with
    blocks := b.blocks ++ [⟨block.name, block.instrs, ⟨b.nextName block, opcode, ty⟩⟩]
    current := none }

/-- Where no block is open, closing does nothing. -/
theorem close_of_none (idle : b.current = none) (opcode : TerminatorOpcode) (ty : Ty)
    : b.close opcode ty = b := by
  simp only [close, idle]

/-- Closing ends the open block. -/
theorem close_of_some {block : OpenBlock} (isOpen : b.current = some block)
    (opcode : TerminatorOpcode) (ty : Ty)
    : b.close opcode ty = b.endBlock block opcode ty := by
  simp only [close, isOpen]
  rfl

/-- A new block is started behind the one that was open. -/
theorem block_eq (label : String) : b.block label = (b.close .other .void).start label := rfl

/-- A block that is open stays open. -/
theorem ensureOpen_of_some {block : OpenBlock} (isOpen : b.current = some block)
    : b.ensureOpen = (block, b) := by
  simp only [ensureOpen, isOpen]

/-- Where no block is open, one is started under a label of its own. -/
theorem ensureOpen_of_none (idle : b.current = none)
    : b.ensureOpen
      = (⟨⟨b.module.nextId, b.name, "bb" ++ toString b.blocks.length⟩, []⟩,
          b.start ("bb" ++ toString b.blocks.length)) := by
  simp only [ensureOpen, idle]
  rfl

/-- The block that has been made sure of is open. -/
theorem current_ensureOpen (b : FunctionBuilder)
    : b.ensureOpen.2.current = some b.ensureOpen.1 := by
  cases isOpen : b.current with
  | none =>
      rw [ensureOpen_of_none isOpen]
      rfl
  | some block => rw [ensureOpen_of_some isOpen, isOpen]

/-- An instruction is added to the block that is open then. -/
theorem push_eq (opcode : Opcode) (ty : Ty)
    : b.push opcode ty
      = (.instruction (b.ensureOpen.2.nextName b.ensureOpen.1),
          b.ensureOpen.2.append b.ensureOpen.1 opcode ty) := rfl

/-- A terminator ends the block that is open then. -/
theorem terminate_eq (opcode : TerminatorOpcode) (ty : Ty)
    : b.terminate opcode ty
      = (.instruction (b.ensureOpen.2.nextName b.ensureOpen.1),
          b.ensureOpen.2.endBlock b.ensureOpen.1 opcode ty) := rfl

end FunctionBuilder

/-- Each call that ends a block does it with the operation that is asked for. -/
theorem Ending.run_eq_terminate (b : FunctionBuilder) (e : Ending)
    : (e.run b).2 = (b.terminate e.opcode e.ty).2 := by
  cases e <;> rfl

----------------------------------------------------------------------------------------------
-- Blocks that have to be open
----------------------------------------------------------------------------------------------

namespace FunctionBuilder

/-- The block that is open once one was started where there was none, as the builder itself tells it:
nothing if no block is open even then.
-/
def opened? (b : FunctionBuilder) : Option (OpenBlock × FunctionBuilder) :=
  let started := if b.current.isNone then b.block ("bb" ++ toString b.blocks.length) else b
  started.current.map fun block => (block, started)

/-- Adds an instruction to the block that is open then: nothing if there is none. -/
def push? (b : FunctionBuilder) (opcode : Opcode) (ty : Ty) : Option (Operand × FunctionBuilder) :=
  b.opened?.map fun opened =>
    (.instruction (opened.2.nextName opened.1), opened.2.append opened.1 opcode ty)

/-- Ends the open block and gives the value of its terminator: nothing if no block is open. -/
def close? (b : FunctionBuilder) (opcode : TerminatorOpcode) (ty : Ty)
    : Option (Operand × FunctionBuilder) :=
  b.current.map fun block => b.complete block opcode ty

/-- The open block is not missed. -/
theorem opened_eq (b : FunctionBuilder) : b.opened? = some b.ensureOpen := by
  cases current : b.current with
  | none =>
      rw [ensureOpen_of_none current, opened?, current, block_eq, close_of_none current]
      rfl
  | some block => simp [opened?, current, ensureOpen_of_some current]

/-- No instruction is added without a block. -/
theorem push?_eq (b : FunctionBuilder) (opcode : Opcode) (ty : Ty)
    : b.push? opcode ty = some (b.push opcode ty) := by
  rw [push?, opened_eq, push_eq]
  rfl

/-- Where a block was made sure of, its terminator has a value. -/
theorem close?_ensureOpen (b : FunctionBuilder) (opcode : TerminatorOpcode) (ty : Ty)
    : b.ensureOpen.2.close? opcode ty = some (b.terminate opcode ty) := by
  rw [close?, current_ensureOpen]
  rfl

end FunctionBuilder

/-- Carries out a call that takes the open block from the builder: nothing if a block that it relies on is
missing.
-/
def FunctionCall.run? (b : FunctionBuilder) : FunctionCall → Option (Answer × FunctionBuilder)
  | .add i => (b.push? i.opcode i.ty).map fun added => (.operand added.1, added.2)
  | .terminate (.ret value) => b.opened?.map fun opened => (.done, opened.2.close (.ret value) .void)
  | .terminate (.invoke callee args ty) => do
      let opened ← b.opened?
      let closed ← opened.2.close? (Ending.invoke callee args ty).opcode ty
      return (.operand closed.1, closed.2)
  | call => some (call.run b)

/-- Carries out calls on a function builder, as long as no block is missing. -/
def FunctionBuilder.run? (b : FunctionBuilder)
    : List FunctionCall → Option (List (FunctionCall × Answer) × FunctionBuilder)
  | [] => some ([], b)
  | call :: rest => do
      let next ← call.run? b
      let after ← FunctionBuilder.run? next.2 rest
      return ((call, next.1) :: after.1, after.2)

/-- Carries out a call on a module builder, as long as no block is missing. -/
def ModuleCall.run? (b : ModuleBuilder) : ModuleCall → Option (List Answer × ModuleBuilder)
  | .function symbol parameters calls finished => do
      let after ← (b.function symbol parameters).run? calls
      if finished then
        return (after.1.map Prod.snd ++ [.ofName after.2.finish.1], after.2.finish.2)
      else return (after.1.map Prod.snd, after.2.module)
  | call => some (call.run b)

/-- Carries out calls on a module builder, as long as no block is missing. -/
def ModuleBuilder.run? (b : ModuleBuilder) : List ModuleCall → Option (List Answer × ModuleBuilder)
  | [] => some ([], b)
  | call :: rest => do
      let next ← call.run? b
      let after ← ModuleBuilder.run? next.2 rest
      return (next.1 ++ after.1, after.2)

/-- No call on a function builder misses a block. -/
theorem FunctionCall.run?_eq (b : FunctionBuilder) (call : FunctionCall)
    : call.run? b = some (call.run b) := by
  cases call with
  | add i =>
      simp only [run?, run, FunctionBuilder.push?_eq, Addition.run_eq_push, Option.map_some]
  | terminate e =>
      cases e with
      | ret value =>
          simp only [run?, FunctionBuilder.opened_eq, Option.map_some,
            FunctionBuilder.close_of_some b.current_ensureOpen]
          rfl
      | invoke callee args ty =>
          simp only [run?, FunctionBuilder.opened_eq, Option.bind_eq_bind, Option.bind_some,
            FunctionBuilder.close?_ensureOpen]
          rfl
  | _ => rfl

/-- No run of calls on a function builder misses a block. -/
theorem FunctionBuilder.run?_eq (b : FunctionBuilder) (calls : List FunctionCall)
    : b.run? calls = some (b.run calls) := by
  induction calls generalizing b with
  | nil => rfl
  | cons call rest ih =>
      simp only [run?, FunctionCall.run?_eq, Option.bind_eq_bind, Option.bind_some, ih]
      rfl

/-- No run of calls on a module builder misses a block. -/
theorem ModuleBuilder.run?_eq (b : ModuleBuilder) (calls : List ModuleCall)
    : b.run? calls = some (b.run calls) := by
  have step : ∀ (b : ModuleBuilder) (call : ModuleCall), call.run? b = some (call.run b) := by
    intro b call
    cases call with
    | function symbol parameters calls finished =>
        simp only [ModuleCall.run?, FunctionBuilder.run?_eq, Option.bind_eq_bind, Option.bind_some]
        cases finished <;> rfl
    | _ => rfl
  induction calls generalizing b with
  | nil => rfl
  | cons call rest ih =>
      simp only [run?, step, Option.bind_eq_bind, Option.bind_some, ih]
      rfl

end PointerOrigins
