import Mathlib.Data.List.Nodup
import Mathlib.Logic.Relation
import PointerOrigins.Proofs.BuilderRuns

/-!
What a call can do to a function under construction. Most calls add something at the end. Only a value that
comes in to a phi changes what was there before; it is looked for by name, so that names have to be distinct
for exactly one instruction to be changed.
-/

namespace PointerOrigins

----------------------------------------------------------------------------------------------
-- Values that come in later
----------------------------------------------------------------------------------------------

/-- Whether an operation is a phi. -/
def Opcode.isPhi : Opcode → Bool
  | .phi _ => true
  | _ => false

/-- An operation with more values coming in, if it is a phi. -/
def Opcode.withIncoming : Opcode → List Operand → Opcode
  | .phi values, more => .phi (values ++ more)
  | opcode, _ => opcode

/-- An instruction with one more value coming in, if it is the phi of this name. -/
def Instruction.receive (target : InstructionName) (value : Operand) (i : Instruction) : Instruction :=
  if i.name = target then { i with opcode := i.opcode.withIncoming [value] } else i

/-- A block with one more value coming in to the phi of this name. -/
def Block.receive (target : InstructionName) (value : Operand) (block : Block) : Block :=
  { block with instrs := block.instrs.map (Instruction.receive target value) }

/-- An open block with one more value coming in to the phi of this name. -/
def OpenBlock.receive (target : InstructionName) (value : Operand) (block : OpenBlock) : OpenBlock :=
  { block with instrs := block.instrs.map (Instruction.receive target value) }

/-- No values coming in make no difference. -/
@[simp]
theorem Opcode.withIncoming_nil (opcode : Opcode) : opcode.withIncoming [] = opcode := by
  cases opcode <;> simp [withIncoming]

/-- Values that come in one after the other come in together. -/
theorem Opcode.withIncoming_append (opcode : Opcode) (first later : List Operand)
    : opcode.withIncoming (first ++ later) = (opcode.withIncoming first).withIncoming later := by
  cases opcode <;> simp [withIncoming]

namespace Instruction

variable {target : InstructionName} {value : Operand}

@[simp]
theorem name_receive (i : Instruction) : (i.receive target value).name = i.name := by
  rw [receive]
  split <;> rfl

@[simp]
theorem ty_receive (i : Instruction) : (i.receive target value).ty = i.ty := by
  rw [receive]
  split <;> rfl

/-- Only the phi of this name is changed. -/
theorem receive_of_ne {i : Instruction} (other : i.name ≠ target) : i.receive target value = i :=
  if_neg other

/-- Where the name does not occur, nothing is changed. -/
theorem map_receive_of_absent {instrs : List Instruction} (absent : ∀ i ∈ instrs, i.name ≠ target)
    : instrs.map (receive target value) = instrs := by
  conv => rhs; rw [← List.map_id instrs]
  exact List.map_congr_left fun i member => receive_of_ne (absent i member)

end Instruction

namespace FunctionBuilder

variable {b : FunctionBuilder} {target : InstructionName} {value : Operand}

/-- The instructions of all blocks, the open one last. -/
def instrs (b : FunctionBuilder) : List Instruction :=
  b.blocks.flatMap Block.instrs ++ b.current.toList.flatMap OpenBlock.instrs

/-- The builder with one more value coming in to the phi of this name. -/
def receive (b : FunctionBuilder) (target : InstructionName) (value : Operand) : FunctionBuilder :=
  { b with
    blocks := b.blocks.map (Block.receive target value)
    current := b.current.map (OpenBlock.receive target value) }

/-- Starting a block adds no instruction. -/
theorem instrs_start (idle : b.current = none) (label : String) : (b.start label).instrs = b.instrs := by
  simp [instrs, start, fresh, idle]

/-- An instruction is added behind all others. -/
theorem instrs_append {block : OpenBlock} (isOpen : b.current = some block) (opcode : Opcode) (ty : Ty)
    : (b.append block opcode ty).instrs = b.instrs ++ [⟨b.nextName block, opcode, ty⟩] := by
  simp [instrs, append, fresh, isOpen]

/-- Ending a block adds no instruction. -/
theorem instrs_endBlock {block : OpenBlock} (isOpen : b.current = some block)
    (opcode : TerminatorOpcode) (ty : Ty)
    : (b.endBlock block opcode ty).instrs = b.instrs := by
  simp [instrs, endBlock, fresh, isOpen]

/-- A value comes in to the instruction that is looked for, wherever it is. -/
theorem instrs_receive (b : FunctionBuilder) (target : InstructionName) (value : Operand)
    : (b.receive target value).instrs = b.instrs.map (Instruction.receive target value) := by
  rw [instrs, instrs, List.map_append, List.map_flatMap, List.map_flatMap, receive]
  congr 1
  · rw [List.flatMap_map]
    rfl
  · cases b.current <;> simp [OpenBlock.receive]

/-- Looking for an instruction in a list of distinct ones: it is not there, it is there and no phi, or the
value comes in to it and nothing else is changed.
-/
theorem appendIncoming_cases (target : InstructionName) (value : Operand) {instrs : List Instruction}
    (distinct : (instrs.map Instruction.name).Nodup)
    : (∀ i ∈ instrs, i.name ≠ target) ∧ appendIncoming target value instrs = none
      ∨ ∃ i ∈ instrs,
          i.name = target
          ∧ appendIncoming target value instrs
            = some
                (if i.opcode.isPhi then some (instrs.map (Instruction.receive target value))
                else none) := by
  induction instrs with
  | nil => exact .inl ⟨by simp, rfl⟩
  | cons first rest ih =>
      obtain ⟨firstNew, restDistinct⟩ := List.nodup_cons.1 distinct
      by_cases found : first.name = target
      · refine .inr ⟨first, List.mem_cons_self, found, ?_⟩
        have absent : ∀ i ∈ rest, i.name ≠ target := by
          intro i member same
          subst same
          exact firstNew (found ▸ List.mem_map_of_mem member)
        rw [List.map_cons, Instruction.map_receive_of_absent absent]
        subst found
        rcases first with ⟨name, opcode, ty⟩
        cases opcode <;>
          simp [appendIncoming, Opcode.isPhi, Instruction.receive, Opcode.withIncoming]
      · rcases ih restDistinct with ⟨absent, result⟩ | ⟨i, member, isTarget, result⟩
        · refine .inl ⟨?_, by simp [appendIncoming, found, result]⟩
          exact List.forall_mem_cons.2 ⟨found, absent⟩
        · refine .inr ⟨i, List.mem_cons_of_mem _ member, isTarget, ?_⟩
          cases isPhi : i.opcode.isPhi <;>
            simp [appendIncoming, found, result, isPhi, Instruction.receive_of_ne found]

/-- A block in which the name does not occur is not changed. -/
theorem map_receive_blocks_of_absent {blocks : List Block}
    (absent : ∀ i ∈ blocks.flatMap Block.instrs, i.name ≠ target)
    : blocks.map (Block.receive target value) = blocks := by
  conv => rhs; rw [← List.map_id blocks]
  refine List.map_congr_left fun block member => ?_
  have absentHere : ∀ i ∈ block.instrs, i.name ≠ target :=
    fun i inBlock => absent i (List.mem_flatMap.2 ⟨block, member, inBlock⟩)
  rw [Block.receive, Instruction.map_receive_of_absent absentHere]
  rfl

/-- An open block in which the name does not occur is not changed. -/
theorem map_receive_current_of_absent {current : Option OpenBlock}
    (absent : ∀ i ∈ current.toList.flatMap OpenBlock.instrs, i.name ≠ target)
    : current.map (OpenBlock.receive target value) = current := by
  cases current with
  | none => rfl
  | some block =>
      rw [Option.toList_some, List.flatMap_singleton] at absent
      rw [Option.map_some, OpenBlock.receive, Instruction.map_receive_of_absent absent]

/-- The same in closed blocks. -/
theorem appendIncomingBlocks_cases (target : InstructionName) (value : Operand) {blocks : List Block}
    (distinct : ((blocks.flatMap Block.instrs).map Instruction.name).Nodup)
    : (∀ i ∈ blocks.flatMap Block.instrs, i.name ≠ target)
          ∧ appendIncomingBlocks target value blocks = none
      ∨ ∃ i ∈ blocks.flatMap Block.instrs,
          i.name = target
          ∧ appendIncomingBlocks target value blocks
            = some
                (if i.opcode.isPhi then some (blocks.map (Block.receive target value)) else none) := by
  induction blocks with
  | nil => exact .inl ⟨by simp, rfl⟩
  | cons block rest ih =>
      rw [List.flatMap_cons, List.map_append, List.nodup_append] at distinct
      obtain ⟨blockDistinct, restDistinct, apart⟩ := distinct
      simp only [List.flatMap_cons, List.mem_append]
      rcases appendIncoming_cases target value blockDistinct with
        ⟨absent, result⟩ | ⟨i, member, isTarget, result⟩
      · have sameBlock : block.receive target value = block := by
          rw [Block.receive, Instruction.map_receive_of_absent absent]
        rcases ih restDistinct with ⟨restAbsent, restResult⟩ | ⟨i, member, isTarget, restResult⟩
        · refine .inl ⟨?_, by simp [appendIncomingBlocks, result, restResult]⟩
          intro i member
          rcases member with inBlock | inRest
          · exact absent i inBlock
          · exact restAbsent i inRest
        · refine .inr ⟨i, .inr member, isTarget, ?_⟩
          cases isPhi : i.opcode.isPhi <;>
            simp [appendIncomingBlocks, result, restResult, isPhi, sameBlock]
      · refine .inr ⟨i, .inl member, isTarget, ?_⟩
        have restAbsent : ∀ j ∈ rest.flatMap Block.instrs, j.name ≠ target := by
          intro j inRest same
          subst same
          exact apart _ (List.mem_map_of_mem member) _ (List.mem_map_of_mem inRest) isTarget
        rw [List.map_cons, map_receive_blocks_of_absent restAbsent]
        cases isPhi : i.opcode.isPhi <;>
          simp [appendIncomingBlocks, result, isPhi, Block.receive]

/-- The same in all blocks of a builder, the open one included. -/
theorem addIncoming_instruction_cases (distinct : (b.instrs.map Instruction.name).Nodup)
    (target : InstructionName) (value : Operand)
    : (∀ i ∈ b.instrs, i.name ≠ target)
          ∧ b.addIncoming (.instruction target) value
            = (.error (.noSuchInstruction (.instruction target) b.name), b)
      ∨ ∃ i ∈ b.instrs,
          i.name = target
          ∧ b.addIncoming (.instruction target) value
            = if i.opcode.isPhi then (.ok (), b.receive target value)
              else (.error (.notAPhi (.instruction target)), b) := by
  have isInstruction : (Operand.instruction target).instruction? = some target := rfl
  rw [instrs, List.map_append, List.nodup_append] at distinct
  obtain ⟨closedDistinct, openDistinct, apart⟩ := distinct
  simp only [instrs, List.mem_append]
  rcases appendIncomingBlocks_cases target value closedDistinct with
    ⟨absent, result⟩ | ⟨i, member, isTarget, result⟩
  · have sameBlocks : b.blocks.map (Block.receive target value) = b.blocks :=
      map_receive_blocks_of_absent absent
    cases current : b.current with
    | none =>
        refine .inl ⟨?_, by simp only [addIncoming, isInstruction, result, current, Option.bind_none]⟩
        intro i member
        rcases member with closed | opened
        · exact absent i closed
        · cases opened
    | some block =>
        simp only [current, Option.toList_some, List.flatMap_singleton] at openDistinct ⊢
        rcases appendIncoming_cases target value openDistinct with
          ⟨openAbsent, openResult⟩ | ⟨i, member, isTarget, openResult⟩
        · refine .inl ⟨?_, by simp [addIncoming, isInstruction, result, current, openResult]⟩
          intro i member
          rcases member with closed | opened
          · exact absent i closed
          · exact openAbsent i opened
        · refine .inr ⟨i, .inr member, isTarget, ?_⟩
          cases isPhi : i.opcode.isPhi <;>
            simp [addIncoming, isInstruction, result, current, openResult, isPhi, receive,
              OpenBlock.receive, sameBlocks]
  · refine .inr ⟨i, .inl member, isTarget, ?_⟩
    have sameCurrent : b.current.map (OpenBlock.receive target value) = b.current := by
      refine map_receive_current_of_absent fun j opened same => ?_
      subst same
      exact apart _ (List.mem_map_of_mem member) _ (List.mem_map_of_mem opened) isTarget
    cases isPhi : i.opcode.isPhi <;>
      simp [addIncoming, isInstruction, result, isPhi, receive, sameCurrent]

/-- In a builder whose instructions have distinct names, a value comes in to a phi of this function and
nothing else is changed; with any other operand the call fails and nothing is changed.
-/
theorem addIncoming_cases (distinct : (b.instrs.map Instruction.name).Nodup) (phi value : Operand)
    : (∃ i ∈ b.instrs,
          phi = .instruction i.name
          ∧ i.opcode.isPhi = true
          ∧ b.addIncoming phi value = (.ok (), b.receive i.name value))
      ∨ (∀ i ∈ b.instrs, phi = .instruction i.name → i.opcode.isPhi = false)
        ∧ ∃ e, b.addIncoming phi value = (.error e, b) := by
  cases isInstruction : phi.instruction? with
  | none =>
      refine .inr ⟨?_, _, by simp only [addIncoming, isInstruction]; rfl⟩
      intro i _ same
      subst same
      cases isInstruction
  | some target =>
      obtain rfl : phi = .instruction target := by
        rcases phi with _ | (_ | _) | _ <;> cases isInstruction
        rfl
      rcases addIncoming_instruction_cases distinct target value with
        ⟨absent, result⟩ | ⟨i, member, rfl, result⟩
      · refine .inr ⟨?_, _, result⟩
        intro i member same
        cases same
        exact absurd rfl (absent i member)
      · cases isPhi : i.opcode.isPhi with
        | true => exact .inl ⟨i, member, rfl, isPhi, by rw [result, if_pos isPhi]⟩
        | false =>
            refine .inr ⟨?_, _, by rw [result, isPhi]; rfl⟩
            intro j inBody same
            have sameName := LocalName.instruction.inj (Operand.local.inj same)
            obtain rfl := List.inj_on_of_nodup_map distinct inBody member sameName.symm
            exact isPhi

end FunctionBuilder

----------------------------------------------------------------------------------------------
-- What a call can do
----------------------------------------------------------------------------------------------

/-- One change of a function builder: a function name is asked for, a block is started where none is open,
an instruction is added to the open block, the open block is ended, or a value comes in to a phi.
-/
inductive FunctionBuilder.Change (b : FunctionBuilder) : FunctionBuilder → Prop
  | intern (symbol : String) : Change b (b.functionRef symbol).2
  | start (idle : b.current = none) (label : String) : Change b (b.start label)
  | append {block : OpenBlock} (isOpen : b.current = some block) (i : Addition)
    : Change b (b.append block i.opcode i.ty)
  | endBlock {block : OpenBlock} (isOpen : b.current = some block) (e : Option Ending)
    : Change b (b.endBlock block (Ending.opcodeOf e) (Ending.tyOf e))
  | receive (target : InstructionName) (value : Operand) : Change b (b.receive target value)

namespace FunctionBuilder

variable {b : FunctionBuilder}

/-- Closing ends the open block or changes nothing. -/
theorem close_changes (b : FunctionBuilder)
    : Relation.ReflTransGen Change b (b.close .other .void)
      ∧ (b.close .other .void).current = none := by
  cases isOpen : b.current with
  | none =>
      rw [close_of_none isOpen]
      exact ⟨.refl, isOpen⟩
  | some block =>
      rw [close_of_some isOpen]
      exact ⟨.single (.endBlock isOpen none), rfl⟩

/-- Making sure of a block starts one or changes nothing. -/
theorem ensureOpen_changes (b : FunctionBuilder)
    : Relation.ReflTransGen Change b b.ensureOpen.2 := by
  cases isOpen : b.current with
  | none =>
      rw [ensureOpen_of_none isOpen]
      exact .single (.start isOpen _)
  | some block =>
      rw [ensureOpen_of_some isOpen]

end FunctionBuilder

/-- In a builder whose instructions have distinct names, a call does nothing but these changes. -/
theorem FunctionCall.changes {b : FunctionBuilder} (distinct : (b.instrs.map Instruction.name).Nodup)
    (call : FunctionCall)
    : Relation.ReflTransGen FunctionBuilder.Change b (call.run b).2 := by
  cases call with
  | name => exact .refl
  | param position => exact .refl
  | functionRef symbol => exact .single (.intern symbol)
  | block label =>
      obtain ⟨closes, idle⟩ := b.close_changes
      exact closes.tail (.start idle label)
  | add i =>
      rw [run, Addition.run_eq_push]
      exact b.ensureOpen_changes.tail (.append b.current_ensureOpen i)
  | addIncoming phi value =>
      rw [run]
      rcases FunctionBuilder.addIncoming_cases distinct phi value with
        ⟨i, _, _, _, result⟩ | ⟨_, e, result⟩
      · rw [result]
        exact .single (.receive i.name value)
      · rw [result]
  | terminate e =>
      rw [run, Ending.run_eq_terminate]
      exact b.ensureOpen_changes.tail (.endBlock b.current_ensureOpen (some e))

end PointerOrigins
