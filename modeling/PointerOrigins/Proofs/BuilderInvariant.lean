import PointerOrigins.Proofs.BuilderChanges

/-!
What holds of a builder after any calls. A symbol has one function name, what is declared is not defined,
and whatever is defined has a serial number of its own and a name that tells its place. Instructions are
named when they are added and terminators when their block ends, so that the open block is part of the
invariant.
-/

namespace PointerOrigins

----------------------------------------------------------------------------------------------
-- Serial numbers
----------------------------------------------------------------------------------------------

/-- Serial numbers that have been handed out: no two are the same, and the next one is greater. -/
structure Numbered (serials : List Nat) (next : Nat) : Prop where
  nodup : serials.Nodup
  below : ∀ n ∈ serials, n < next

namespace Numbered

variable {serials more : List Nat} {next : Nat}

/-- The order of serial numbers makes no difference. -/
theorem of_perm (numbered : Numbered serials next) (reordered : more.Perm serials)
    : Numbered more next :=
  ⟨reordered.nodup_iff.2 numbered.nodup, fun n member =>
    numbered.below n (reordered.mem_iff.1 member)⟩

/-- Serial numbers that are left out make no difference. -/
theorem of_sublist (numbered : Numbered serials next) (left : more.Sublist serials)
    : Numbered more next :=
  ⟨numbered.nodup.sublist left, fun n member => numbered.below n (left.subset member)⟩

/-- Handing out the next serial numbers. -/
theorem append_range (numbered : Numbered serials next) (count : Nat)
    : Numbered (serials ++ List.range' next count) (next + count) := by
  refine ⟨List.nodup_append.2 ⟨numbered.nodup, List.nodup_range', ?_⟩, ?_⟩
  · intro n old m new same
    have below := numbered.below n old
    have above := (List.mem_range'_1.1 new).1
    omega
  · intro n member
    rcases List.mem_append.1 member with old | new
    · have below := numbered.below n old
      omega
    · exact (List.mem_range'_1.1 new).2

/-- Handing out the next serial number. -/
theorem next_of_perm (numbered : Numbered serials next) (reordered : more.Perm (next :: serials))
    : Numbered more (next + 1) :=
  (numbered.append_range 1).of_perm (reordered.trans (List.perm_append_singleton next serials).symm)

end Numbered

/-- The serial numbers of the parameters, blocks, instructions and terminators of a function. -/
def FunctionDef.serials (f : FunctionDef) : List Nat :=
  f.parameters.map ParameterName.id ++ f.blocks.map (fun block => block.name.id)
    ++ f.definitions.map fun entry => entry.1.id

/-- The serial numbers in a block that is open. -/
def OpenBlock.serials (block : OpenBlock) : List Nat :=
  block.name.id :: block.instrs.map fun i => i.name.id

/-- The serial numbers of function names, and of what is in the functions that are defined. -/
def ModuleBuilder.serials (b : ModuleBuilder) : List Nat :=
  b.names.map FunctionName.id ++ b.functions.flatMap fun entry => entry.2.serials

/-- The function as it would be finished without the open block. -/
def FunctionBuilder.body (b : FunctionBuilder) : FunctionDef :=
  ⟨b.parameters, b.blocks⟩

/-- The serial numbers in a module and in the function that is under construction. -/
def FunctionBuilder.serials (b : FunctionBuilder) : List Nat :=
  b.module.serials ++ b.body.serials ++ b.current.toList.flatMap OpenBlock.serials

----------------------------------------------------------------------------------------------
-- Names that tell a place
----------------------------------------------------------------------------------------------

/-- Instructions are named by their block and their index, and calls have a type for each argument. -/
structure InstrsWellFormed (block : BlockName) (instrs : List Instruction) : Prop where
  places
    : ∀ (index : Nat) (i : Instruction),
        instrs[index]? = some i → i.name.block = block ∧ i.name.index = index
  typed : ∀ i ∈ instrs, ∀ c, i.opcode = .call c → c.argTys.length = c.args.length

/-- A block of a function, its terminator being named by the number of its instructions. -/
structure Block.WellFormed (f : FunctionName) (b : Block) : Prop where
  function : b.name.function = f
  instrs : InstrsWellFormed b.name b.instrs
  terminator : b.terminator.name.block = b.name ∧ b.terminator.name.index = b.instrs.length
  typed : ∀ c, b.terminator.opcode = .invoke c → c.argTys.length = c.args.length

/-- The body of a function, parameters being named by their position. -/
structure FunctionDef.WellFormed (f : FunctionName) (body : FunctionDef) : Prop where
  parameters
    : ∀ (position : Nat) (p : ParameterName),
        body.parameters[position]? = some p → p.function = f ∧ p.position = position
  blocks : ∀ b ∈ body.blocks, b.WellFormed f

/-- A block that is open in a function. -/
structure OpenBlock.WellFormed (f : FunctionName) (block : OpenBlock) : Prop where
  function : block.name.function = f
  instrs : InstrsWellFormed block.name block.instrs

namespace InstrsWellFormed

variable {block : BlockName} {instrs : List Instruction}

/-- One more instruction, named by the number of those before it. -/
theorem snoc (wellFormed : InstrsWellFormed block instrs) {i : Instruction}
    (place : i.name.block = block ∧ i.name.index = instrs.length)
    (typed : ∀ c, i.opcode = .call c → c.argTys.length = c.args.length)
    : InstrsWellFormed block (instrs ++ [i]) where
  places := by
    intro index j found
    rw [List.getElem?_append] at found
    split at found
    · exact wellFormed.places index j found
    · next atEnd =>
        rw [List.getElem?_singleton] at found
        split at found
        · cases found
          exact ⟨place.1, by omega⟩
        · cases found
  typed := by
    simp only [List.forall_mem_append, List.forall_mem_singleton]
    exact ⟨wellFormed.typed, typed⟩

/-- A value that comes in to a phi leaves places and calls alone. -/
theorem receive (wellFormed : InstrsWellFormed block instrs) (target : InstructionName) (value : Operand)
    : InstrsWellFormed block (instrs.map (Instruction.receive target value)) where
  places := by
    intro index j found
    rw [List.getElem?_map] at found
    obtain ⟨i, old, rfl⟩ := Option.map_eq_some_iff.1 found
    rw [Instruction.name_receive]
    exact wellFormed.places index i old
  typed := by
    intro j member c isCall
    obtain ⟨i, old, rfl⟩ := List.mem_map.1 member
    refine wellFormed.typed i old c ?_
    rw [Instruction.receive] at isCall
    split at isCall
    · rcases i with ⟨name, opcode, ty⟩
      cases opcode <;> cases isCall
      rfl
    · exact isCall

end InstrsWellFormed

----------------------------------------------------------------------------------------------
-- Well-formed builders
----------------------------------------------------------------------------------------------

/-- What holds of a module builder, serial numbers apart: a symbol has one name, and what is declared or
defined has a name that was handed out and is declared or defined once.
-/
structure ModuleBuilder.Consistent (b : ModuleBuilder) : Prop where
  symbols : (b.names.map FunctionName.symbol).Nodup
  interned : ∀ f ∈ b.decls ++ b.functions.map Prod.fst, f ∈ b.names
  once : (b.decls ++ b.functions.map Prod.fst).Nodup
  bodies : ∀ entry ∈ b.functions, entry.2.WellFormed entry.1

/-- What holds of a module builder between two calls. -/
structure ModuleBuilder.WellFormed (b : ModuleBuilder) : Prop extends b.Consistent where
  numbered : Numbered b.serials b.nextId

/-- What holds of a function builder between two calls. -/
structure FunctionBuilder.WellFormed (b : FunctionBuilder) : Prop where
  module : b.module.Consistent
  named : b.name ∈ b.module.names
  numbered : Numbered b.serials b.module.nextId
  body : b.body.WellFormed b.name
  opened : ∀ block, b.current = some block → block.WellFormed b.name

namespace ModuleBuilder

variable {b : ModuleBuilder}

/-- A symbol that has a name keeps it, any other symbol is given a new one. -/
theorem functionName_cases (b : ModuleBuilder) (symbol : String)
    : (∃ f ∈ b.names, f.symbol = symbol ∧ b.functionName symbol = (f, b))
      ∨ (∀ f ∈ b.names, f.symbol ≠ symbol)
        ∧ b.functionName symbol
          = (⟨b.nextId, symbol⟩,
              { b with nextId := b.nextId + 1, names := b.names ++ [⟨b.nextId, symbol⟩] }) := by
  cases found : b.name? symbol with
  | some f =>
      have isName : f.symbol = symbol := by simpa using List.find?_some found
      refine .inl ⟨f, List.mem_of_find?_eq_some found, isName, ?_⟩
      simp only [functionName, found]
  | none =>
      refine .inr ⟨?_, by simp only [functionName, found]⟩
      simpa [name?] using found

/-- The name of a symbol has been handed out, and so have all that were before. -/
theorem functionName_mem (b : ModuleBuilder) (symbol : String)
    : (b.functionName symbol).1 ∈ (b.functionName symbol).2.names
      ∧ b.names ⊆ (b.functionName symbol).2.names := by
  rcases b.functionName_cases symbol with ⟨f, member, _, result⟩ | ⟨_, result⟩
  · rw [result]
    exact ⟨member, List.Subset.refl _⟩
  · rw [result]
    exact ⟨List.mem_append_right _ (List.mem_singleton.2 rfl), List.subset_append_left _ _⟩

/-- Asking for a name keeps the module consistent. -/
theorem Consistent.functionName (consistent : b.Consistent) (symbol : String)
    : (b.functionName symbol).2.Consistent := by
  rcases b.functionName_cases symbol with ⟨f, _, _, result⟩ | ⟨new, result⟩
  · rw [result]
    exact consistent
  · rw [result]
    refine ⟨?_, ?_, consistent.once, consistent.bodies⟩
    · rw [List.map_append, List.nodup_append]
      refine ⟨consistent.symbols, List.nodup_singleton _, ?_⟩
      simpa using new
    · intro f known
      exact List.mem_append_left _ (consistent.interned f known)

/-- Asking for a name hands out one serial number at most, whatever else has been handed out. -/
theorem numbered_functionName (symbol : String) {others : List Nat}
    (numbered : Numbered (b.serials ++ others) b.nextId)
    : Numbered ((b.functionName symbol).2.serials ++ others) (b.functionName symbol).2.nextId := by
  rcases b.functionName_cases symbol with ⟨f, _, _, result⟩ | ⟨_, result⟩
  · rw [result]
    exact numbered
  · rw [result]
    refine numbered.next_of_perm (List.perm_iff_count.2 fun n => ?_)
    simp only [serials, List.map_append, List.map_cons, List.map_nil, List.count_append,
      List.count_cons, List.count_nil]
    omega

end ModuleBuilder

----------------------------------------------------------------------------------------------
-- Changes of a function builder
----------------------------------------------------------------------------------------------

/-- Calls and invokes that are asked for have a type for each argument. -/
theorem Addition.typed (i : Addition) {c : Call} (isCall : i.opcode = .call c)
    : c.argTys.length = c.args.length := by
  cases i <;> cases isCall <;> simp

theorem Ending.typed (e : Option Ending) {c : Call} (isCall : Ending.opcodeOf e = .invoke c)
    : c.argTys.length = c.args.length := by
  rcases e with _ | e
  · cases isCall
  · cases e <;> cases isCall
    simp

namespace FunctionBuilder

variable {b after : FunctionBuilder} {block : OpenBlock}

/-- The serial numbers of a builder with an open block. -/
theorem serials_of_open (isOpen : b.current = some block)
    : b.serials = b.module.serials ++ b.body.serials ++ block.serials := by
  rw [serials, isOpen, Option.toList_some, List.flatMap_singleton]

/-- Starting a block hands out one serial number. -/
theorem serials_start (idle : b.current = none) (label : String)
    : (b.start label).serials.Perm (b.module.nextId :: b.serials) := by
  have old : b.serials = b.module.serials ++ b.body.serials := by
    rw [serials, idle, Option.toList_none, List.flatMap_nil, List.append_nil]
  rw [old]
  exact List.perm_append_singleton _ _

/-- Adding an instruction hands out one serial number. -/
theorem serials_append (isOpen : b.current = some block) (opcode : Opcode) (ty : Ty)
    : (b.append block opcode ty).serials.Perm (b.module.nextId :: b.serials) := by
  have new : (b.append block opcode ty).serials = b.serials ++ [b.module.nextId] := by
    rw [serials_of_open isOpen, serials_of_open (b := b.append block opcode ty) rfl, OpenBlock.serials,
      List.map_append]
    simp [OpenBlock.serials, append, nextName, fresh, body, ModuleBuilder.serials]
  rw [new]
  exact List.perm_append_singleton _ _

/-- Ending a block hands out one serial number. -/
theorem serials_endBlock (isOpen : b.current = some block) (opcode : TerminatorOpcode) (ty : Ty)
    : (b.endBlock block opcode ty).serials.Perm (b.module.nextId :: b.serials) := by
  rw [serials_of_open isOpen, List.perm_iff_count]
  intro n
  simp only [serials, endBlock, fresh, nextName, body, FunctionDef.serials, FunctionDef.definitions,
    Block.definitions, OpenBlock.serials, ModuleBuilder.serials, Option.toList_none, List.flatMap_nil,
    List.flatMap_append, List.flatMap_singleton, List.map_append, List.map_map, List.map_cons,
    List.map_nil, List.count_append, List.count_cons, List.count_nil, Function.comp_def]
  omega

/-- A value that comes in to a phi hands out none. -/
theorem serials_receive (target : InstructionName) (value : Operand)
    : (b.receive target value).serials = b.serials := by
  have opened : (b.current.map (OpenBlock.receive target value)).toList.flatMap OpenBlock.serials
      = b.current.toList.flatMap OpenBlock.serials := by
    cases b.current <;> simp [OpenBlock.serials, OpenBlock.receive]
  have definitions : (b.receive target value).body.definitions.map (fun entry => entry.1.id)
      = b.body.definitions.map fun entry => entry.1.id := by
    simp [body, receive, FunctionDef.definitions, List.flatMap_map, List.map_flatMap,
      Block.definitions, Block.receive, Function.comp_def]
  have blocks : (b.receive target value).body.blocks.map (fun block => block.name.id)
      = b.body.blocks.map fun block => block.name.id := by
    simp [body, receive, Block.receive, Function.comp_def]
  rw [serials, FunctionDef.serials, definitions, blocks]
  exact congrArg _ opened

/-- The serial numbers of instructions are among those that have been handed out. -/
theorem instrs_sublist (b : FunctionBuilder)
    : ((b.instrs.map Instruction.name).map InstructionName.id).Sublist b.serials := by
  have closed : ∀ blocks : List Block,
      ((blocks.flatMap Block.instrs).map fun i => i.name.id).Sublist
        ((blocks.flatMap Block.definitions).map fun entry => entry.1.id) := by
    intro blocks
    induction blocks with
    | nil => exact .slnil
    | cons block rest ih =>
        simp only [List.flatMap_cons, List.map_append, Block.definitions, List.map_map]
        exact (List.sublist_append_left _ _).append ih
  have opened : ((b.current.toList.flatMap OpenBlock.instrs).map fun i => i.name.id).Sublist
      (b.current.toList.flatMap OpenBlock.serials) := by
    cases b.current with
    | none => exact .slnil
    | some block =>
        simp only [Option.toList_some, List.flatMap_singleton, OpenBlock.serials]
        exact List.sublist_cons_self _ _
  rw [List.map_map, instrs, List.map_append, serials]
  refine .append ?_ opened
  exact (closed b.blocks).trans ((List.sublist_append_right _ _).trans
    (List.sublist_append_right _ _))

namespace WellFormed

/-- Asking for a function name. -/
theorem intern (wellFormed : b.WellFormed) (symbol : String) : (b.functionRef symbol).2.WellFormed where
  module := wellFormed.module.functionName symbol
  named := (b.module.functionName_mem symbol).2 wellFormed.named
  numbered := by
    have numbered := wellFormed.numbered
    rw [serials, List.append_assoc] at numbered ⊢
    exact ModuleBuilder.numbered_functionName symbol numbered
  body := wellFormed.body
  opened := wellFormed.opened

/-- Starting a block. -/
theorem start (wellFormed : b.WellFormed) (idle : b.current = none) (label : String)
    : (b.start label).WellFormed where
  module := ⟨wellFormed.module.symbols, wellFormed.module.interned, wellFormed.module.once,
    wellFormed.module.bodies⟩
  named := wellFormed.named
  numbered := wellFormed.numbered.next_of_perm (serials_start idle label)
  body := wellFormed.body
  opened := by
    intro opened isOpen
    cases isOpen
    exact ⟨rfl, by simp, by simp⟩

/-- Adding an instruction to the open block. -/
theorem append (wellFormed : b.WellFormed) (isOpen : b.current = some block) (i : Addition)
    : (b.append block i.opcode i.ty).WellFormed where
  module := ⟨wellFormed.module.symbols, wellFormed.module.interned, wellFormed.module.once,
    wellFormed.module.bodies⟩
  named := wellFormed.named
  numbered := wellFormed.numbered.next_of_perm (serials_append isOpen i.opcode i.ty)
  body := wellFormed.body
  opened := by
    intro opened isOpen
    cases isOpen
    have opened := wellFormed.opened block isOpen
    exact ⟨opened.function, opened.instrs.snoc ⟨rfl, rfl⟩ fun c isCall => i.typed isCall⟩

/-- Ending the open block. -/
theorem endBlock (wellFormed : b.WellFormed) (isOpen : b.current = some block) (e : Option Ending)
    : (b.endBlock block (Ending.opcodeOf e) (Ending.tyOf e)).WellFormed where
  module := ⟨wellFormed.module.symbols, wellFormed.module.interned, wellFormed.module.once,
    wellFormed.module.bodies⟩
  named := wellFormed.named
  numbered := wellFormed.numbered.next_of_perm (serials_endBlock isOpen _ _)
  body := by
    have opened := wellFormed.opened block isOpen
    refine ⟨wellFormed.body.parameters, List.forall_mem_append.2 ⟨wellFormed.body.blocks, ?_⟩⟩
    rw [List.forall_mem_singleton]
    exact ⟨opened.function, opened.instrs, ⟨rfl, rfl⟩, fun c isCall => Ending.typed e isCall⟩
  opened := fun _ isOpen => (by cases isOpen)

/-- A value that comes in to a phi. -/
theorem receive (wellFormed : b.WellFormed) (target : InstructionName) (value : Operand)
    : (b.receive target value).WellFormed where
  module := wellFormed.module
  named := wellFormed.named
  numbered := (serials_receive target value).symm ▸ wellFormed.numbered
  body := by
    refine ⟨wellFormed.body.parameters, ?_⟩
    intro block member
    obtain ⟨old, inBody, rfl⟩ := List.mem_map.1 member
    have before := wellFormed.body.blocks old inBody
    refine ⟨before.function, before.instrs.receive target value, ?_, before.typed⟩
    rw [Block.receive, List.length_map]
    exact before.terminator
  opened := by
    intro block isOpen
    obtain ⟨old, wasOpen, rfl⟩ := Option.map_eq_some_iff.1 isOpen
    have before := wellFormed.opened old wasOpen
    exact ⟨before.function, before.instrs.receive target value⟩

/-- The instructions of a well-formed builder have distinct names, since their serial numbers are. -/
theorem distinct (wellFormed : b.WellFormed) : (b.instrs.map Instruction.name).Nodup :=
  .of_map InstructionName.id (wellFormed.numbered.of_sublist b.instrs_sublist).nodup

/-- What is added next has a name that no instruction has. -/
theorem nextName_new (wellFormed : b.WellFormed) (block : OpenBlock)
    : b.nextName block ∉ b.instrs.map Instruction.name := by
  intro taken
  have handedOut : b.module.nextId ∈ b.serials :=
    b.instrs_sublist.subset (List.mem_map_of_mem (f := InstructionName.id) taken)
  exact Nat.lt_irrefl _ (wellFormed.numbered.below _ handedOut)

/-- Every change keeps a builder well formed. -/
theorem of_change (wellFormed : b.WellFormed) (change : b.Change after) : after.WellFormed := by
  cases change with
  | intern symbol => exact wellFormed.intern symbol
  | start idle label => exact wellFormed.start idle label
  | append isOpen i => exact wellFormed.append isOpen i
  | endBlock isOpen e => exact wellFormed.endBlock isOpen e
  | receive target value => exact wellFormed.receive target value

/-- So do changes one after another. -/
theorem of_changes (wellFormed : b.WellFormed) (changes : Relation.ReflTransGen Change b after)
    : after.WellFormed := by
  induction changes with
  | refl => exact wellFormed
  | tail _ change ih => exact ih.of_change change

end WellFormed

/-- What two builders have in common if the second one comes from the first one: it is for the same function
with the same parameters in a module with the same contents, and names that were handed out are kept.
-/
structure Extends (b after : FunctionBuilder) : Prop where
  name : after.name = b.name
  parameters : after.parameters = b.parameters
  decls : after.module.decls = b.module.decls
  functions : after.module.functions = b.module.functions
  names : b.module.names ⊆ after.module.names

/-- Asking for a name leaves the contents of the module alone. -/
theorem extends_intern (b : FunctionBuilder) (symbol : String) : b.Extends (b.functionRef symbol).2 := by
  have names := (b.module.functionName_mem symbol).2
  rcases b.module.functionName_cases symbol with ⟨f, _, _, result⟩ | ⟨_, result⟩
  · exact ⟨rfl, rfl, by rw [functionRef, result], by rw [functionRef, result], names⟩
  · exact ⟨rfl, rfl, by rw [functionRef, result], by rw [functionRef, result], names⟩

/-- Changes one after another leave the contents of the module alone. -/
theorem extends_of_changes (changes : Relation.ReflTransGen Change b after) : b.Extends after := by
  induction changes with
  | refl => exact ⟨rfl, rfl, rfl, rfl, List.Subset.refl _⟩
  | @tail middle later _ change ih =>
      have last : middle.Extends later := by
        cases change with
        | intern symbol => exact middle.extends_intern symbol
        | _ => exact ⟨rfl, rfl, rfl, rfl, List.Subset.refl _⟩
      exact ⟨last.name.trans ih.name, last.parameters.trans ih.parameters,
        last.decls.trans ih.decls, last.functions.trans ih.functions,
        List.Subset.trans ih.names last.names⟩

end FunctionBuilder

----------------------------------------------------------------------------------------------
-- Runs
----------------------------------------------------------------------------------------------

namespace FunctionBuilder

variable {b : FunctionBuilder}

/-- What a well-formed builder adds next belongs to its function. -/
theorem WellFormed.nextName_function (wellFormed : b.WellFormed)
    : (b.ensureOpen.2.nextName b.ensureOpen.1).function = b.name := by
  have opened := (wellFormed.of_changes b.ensureOpen_changes).opened _ b.current_ensureOpen
  exact opened.function.trans (extends_of_changes b.ensureOpen_changes).name

/-- The function names that a call answers have been handed out. Witness: a local value that is answered
belongs to the function under construction.
-/
theorem WellFormed.answer_names (wellFormed : b.WellFormed) (call : FunctionCall)
    : ∀ f ∈ (call.run b).1.names, f ∈ (call.run b).2.module.names := by
  have own : b.name ∈ (call.run b).2.module.names :=
    (extends_of_changes (call.changes wellFormed.distinct)).names wellFormed.named
  intro f answered
  cases call with
  | name =>
      cases List.mem_singleton.1 answered
      exact own
  | param position =>
      rw [FunctionCall.run, param] at answered
      split at answered
      · next p found =>
          obtain rfl : f = b.name :=
            (List.mem_singleton.1 answered).trans (wellFormed.body.parameters position p found).1
          exact own
      · cases answered
  | functionRef symbol =>
      cases List.mem_singleton.1 answered
      exact (b.module.functionName_mem symbol).1
  | block label => cases answered
  | add i =>
      rw [FunctionCall.run, Addition.run_eq_push] at answered
      obtain rfl : f = b.name := (List.mem_singleton.1 answered).trans wellFormed.nextName_function
      exact own
  | addIncoming phi value =>
      rw [FunctionCall.run] at answered
      cases result : (b.addIncoming phi value).1 <;> rw [result] at answered <;> cases answered
  | terminate e =>
      cases e with
      | ret value => cases answered
      | invoke callee args ty =>
          obtain rfl : f = b.name := (List.mem_singleton.1 answered).trans wellFormed.nextName_function
          exact own

/-- A run of calls is a run of changes. Witness: induction on the calls; a builder that stays well formed
has distinct names, which each call relies on.
-/
theorem WellFormed.run_changes (wellFormed : b.WellFormed) (calls : List FunctionCall)
    : Relation.ReflTransGen Change b (b.run calls).2 := by
  induction calls generalizing b with
  | nil => exact .refl
  | cons call rest ih =>
      have first := call.changes wellFormed.distinct
      exact first.trans (ih (wellFormed.of_changes first))

/-- The function names that calls answer have been handed out. -/
theorem WellFormed.run_names (wellFormed : b.WellFormed) (calls : List FunctionCall)
    : ∀ f ∈ (b.run calls).1.flatMap (fun entry => entry.2.names), f ∈ (b.run calls).2.module.names := by
  induction calls generalizing b with
  | nil => simp [run]
  | cons call rest ih =>
      have next := wellFormed.of_changes (call.changes wellFormed.distinct)
      intro f answered
      rcases List.mem_append.1 answered with first | later
      · exact (extends_of_changes (next.run_changes rest)).names (wellFormed.answer_names call f first)
      · exact ih next f later

end FunctionBuilder

namespace ModuleBuilder

variable {b : ModuleBuilder}

/-- A name is fresh if it is neither defined nor declared. -/
theorem isFresh_iff {f : FunctionName}
    : b.isFresh f = true ↔ f ∉ b.decls ++ b.functions.map Prod.fst := by
  simp only [isFresh, Bool.not_eq_true', Bool.or_eq_false_iff, List.mem_append, not_or]
  rw [and_comm, Bool.eq_false_iff, Bool.eq_false_iff, Ne, Ne, List.lookup_isSome_iff]
  simp

/-- Serial numbers that are given by position are the next ones. -/
theorem map_add_zipIdx {α : Type} (next : Nat) (entries : List α)
    : entries.zipIdx.map (fun entry => next + entry.2) = List.range' next entries.length := by
  have positions : entries.zipIdx.map (fun entry => next + entry.2)
      = (entries.zipIdx.map Prod.snd).map (next + ·) := by
    rw [List.map_map]
    rfl
  rw [positions, List.zipIdx_map_snd, List.map_add_range', Nat.add_zero]

/-- A builder with a new name for a symbol is well formed. -/
theorem WellFormed.functionName (wellFormed : b.WellFormed) (symbol : String)
    : (b.functionName symbol).2.WellFormed where
  toConsistent := wellFormed.toConsistent.functionName symbol
  numbered := by
    have numbered := wellFormed.numbered
    rw [← List.append_nil b.serials] at numbered
    simpa using numbered_functionName symbol numbered

/-- A function builder that has just been started is well formed. -/
theorem WellFormed.function (wellFormed : b.WellFormed) (symbol : String) (parameters : List String)
    : (b.function symbol parameters).WellFormed where
  module := by
    have consistent := wellFormed.toConsistent.functionName symbol
    exact ⟨consistent.symbols, consistent.interned, consistent.once, consistent.bodies⟩
  named := (b.functionName_mem symbol).1
  numbered := by
    have numbered := (wellFormed.functionName symbol).numbered.append_range parameters.length
    have serials : (b.function symbol parameters).serials
        = (b.functionName symbol).2.serials
          ++ List.range' (b.functionName symbol).2.nextId parameters.length := by
      simp only [ModuleBuilder.function, FunctionBuilder.serials, FunctionBuilder.body,
        FunctionDef.serials, FunctionDef.definitions, List.map_nil, List.flatMap_nil, List.append_nil,
        Option.toList_none, List.map_map, Function.comp_def, map_add_zipIdx]
      rfl
    rw [serials]
    exact numbered
  body := by
    refine ⟨?_, by simp [ModuleBuilder.function, FunctionBuilder.body]⟩
    intro position p found
    simp only [ModuleBuilder.function, FunctionBuilder.body, List.getElem?_map,
      List.getElem?_zipIdx, Nat.zero_add, Option.map_map, Option.map_eq_some_iff] at found
    obtain ⟨name, _, rfl⟩ := found
    exact ⟨rfl, rfl⟩
  opened := fun _ isOpen => (by cases isOpen)

/-- A function is declared if its name is neither declared nor defined. -/
theorem declare_cases (b : ModuleBuilder) (symbol : String)
    : let f := (b.functionName symbol).1
      let named := (b.functionName symbol).2
      f ∉ named.decls ++ named.functions.map Prod.fst
          ∧ b.declare symbol = (.ok f, { named with decls := named.decls ++ [f] })
      ∨ f ∈ named.decls ++ named.functions.map Prod.fst
        ∧ b.declare symbol = (.error (.duplicateDefinition f), named) := by
  intro f named
  by_cases fresh : named.isFresh f = true
  · exact .inl ⟨isFresh_iff.1 fresh, if_pos fresh⟩
  · exact .inr ⟨not_not.1 (isFresh_iff.not.1 fresh), if_neg fresh⟩

/-- Declaring a function keeps a builder well formed, also where it fails. -/
theorem WellFormed.declare (wellFormed : b.WellFormed) (symbol : String)
    : (b.declare symbol).2.WellFormed := by
  have named := wellFormed.functionName symbol
  rcases b.declare_cases symbol with ⟨fresh, result⟩ | ⟨_, result⟩
  · rw [result]
    refine ⟨⟨named.symbols, ?_, ?_, named.bodies⟩, named.numbered⟩
    · intro g declared
      rw [List.append_assoc, List.mem_append, List.mem_append, List.mem_singleton] at declared
      rcases declared with old | rfl | defined
      · exact named.interned g (List.mem_append_left _ old)
      · exact (b.functionName_mem symbol).1
      · exact named.interned g (List.mem_append_right _ defined)
    · rw [List.append_assoc, List.singleton_append, List.nodup_middle]
      exact List.nodup_cons.2 ⟨fresh, named.once⟩
  · rw [result]
    exact named

end ModuleBuilder

namespace FunctionBuilder

variable {b : FunctionBuilder}

/-- A function is defined, its last block closed, if its name is neither declared nor defined. -/
theorem finish_cases (b : FunctionBuilder)
    : let closed := b.close .other .void
      closed.name ∉ closed.module.decls ++ closed.module.functions.map Prod.fst
          ∧ b.finish
            = (.ok closed.name,
                { closed.module with
                  functions := closed.module.functions ++ [(closed.name, closed.body)] })
      ∨ closed.name ∈ closed.module.decls ++ closed.module.functions.map Prod.fst
        ∧ b.finish = (.error (.duplicateDefinition closed.name), closed.module) := by
  intro closed
  by_cases fresh : closed.module.isFresh closed.name = true
  · exact .inl ⟨ModuleBuilder.isFresh_iff.1 fresh, if_pos fresh⟩
  · exact .inr ⟨not_not.1 (ModuleBuilder.isFresh_iff.not.1 fresh), if_neg fresh⟩

/-- A module whose function builder was dropped is well formed. -/
theorem WellFormed.dropped (wellFormed : b.WellFormed) : b.module.WellFormed where
  toConsistent := wellFormed.module
  numbered := by
    refine wellFormed.numbered.of_sublist ?_
    rw [serials, List.append_assoc]
    exact List.sublist_append_left _ _

/-- A module whose function builder was finished is well formed, also where finishing fails. -/
theorem WellFormed.finish (wellFormed : b.WellFormed) : b.finish.2.WellFormed := by
  obtain ⟨changes, idle⟩ := b.close_changes
  have closed := wellFormed.of_changes changes
  rcases b.finish_cases with ⟨fresh, result⟩ | ⟨_, result⟩
  · rw [result]
    refine ⟨⟨closed.module.symbols, ?_, ?_, ?_⟩, ?_⟩
    · rw [List.map_append, ← List.append_assoc]
      exact List.forall_mem_append.2 ⟨closed.module.interned, List.forall_mem_singleton.2 closed.named⟩
    · rw [List.map_append, ← List.append_assoc]
      exact (List.perm_append_singleton _ _).nodup_iff.2 (List.nodup_cons.2 ⟨fresh, closed.module.once⟩)
    · exact List.forall_mem_append.2 ⟨closed.module.bodies, List.forall_mem_singleton.2 closed.body⟩
    · have numbered := closed.numbered
      rw [serials, idle, Option.toList_none, List.flatMap_nil, List.append_nil] at numbered
      simpa [ModuleBuilder.serials] using numbered
  · rw [result]
    exact closed.dropped

/-- Finishing a function keeps the names that were handed out, and answers with one of them or fails. -/
theorem WellFormed.finish_names (wellFormed : b.WellFormed)
    : b.module.names ⊆ b.finish.2.names
      ∧ ∀ f ∈ (Answer.ofName b.finish.1).names, f ∈ b.finish.2.names := by
  obtain ⟨changes, _⟩ := b.close_changes
  have kept := (extends_of_changes changes).names
  have named := (wellFormed.of_changes changes).named
  rcases b.finish_cases with ⟨_, result⟩ | ⟨_, result⟩
  · rw [result]
    refine ⟨kept, fun f answered => ?_⟩
    cases List.mem_singleton.1 answered
    exact named
  · rw [result]
    exact ⟨kept, fun _ answered => (by cases answered)⟩

end FunctionBuilder

namespace ModuleBuilder

variable {b : ModuleBuilder}

/-- A call on a module builder keeps it well formed. -/
theorem WellFormed.call (wellFormed : b.WellFormed) (call : ModuleCall) : (call.run b).2.WellFormed := by
  cases call with
  | functionName symbol => exact wellFormed.functionName symbol
  | declare symbol => exact wellFormed.declare symbol
  | global symbol =>
      exact ⟨⟨wellFormed.symbols, wellFormed.interned, wellFormed.once, wellFormed.bodies⟩,
        wellFormed.numbered⟩
  | function symbol parameters calls finished =>
      have started := wellFormed.function symbol parameters
      have ran := started.of_changes (started.run_changes calls)
      cases finished with
      | true => exact ran.finish
      | false => exact ran.dropped

/-- Names that were handed out are kept by a call, and those that it answers have been handed out. -/
theorem WellFormed.call_names (wellFormed : b.WellFormed) (call : ModuleCall)
    : b.names ⊆ (call.run b).2.names
      ∧ ∀ f ∈ (call.run b).1.flatMap Answer.names, f ∈ (call.run b).2.names := by
  cases call with
  | functionName symbol =>
      obtain ⟨named, kept⟩ := b.functionName_mem symbol
      refine ⟨kept, fun f answered => ?_⟩
      cases List.mem_singleton.1 answered
      exact named
  | declare symbol =>
      obtain ⟨named, kept⟩ := b.functionName_mem symbol
      rw [ModuleCall.run]
      rcases b.declare_cases symbol with ⟨_, result⟩ | ⟨_, result⟩
      · rw [result]
        refine ⟨kept, fun f answered => ?_⟩
        cases List.mem_singleton.1 answered
        exact named
      · rw [result]
        exact ⟨kept, fun _ answered => (by cases answered)⟩
  | global symbol =>
      exact ⟨List.Subset.refl _, by simp [ModuleCall.run, ModuleBuilder.global, Answer.names]⟩
  | function symbol parameters calls finished =>
      have started := wellFormed.function symbol parameters
      have changes := started.run_changes calls
      have kept := List.Subset.trans (b.functionName_mem symbol).2
        (FunctionBuilder.extends_of_changes changes).names
      have answered := started.run_names calls
      cases finished with
      | true =>
          obtain ⟨finishKept, finishNamed⟩ := (started.of_changes changes).finish_names
          refine ⟨List.Subset.trans kept finishKept, ?_⟩
          simp only [ModuleCall.run, if_true, List.flatMap_append, List.flatMap_map,
            List.flatMap_singleton]
          exact List.forall_mem_append.2 ⟨fun f named => finishKept (answered f named), finishNamed⟩
      | false =>
          refine ⟨kept, ?_⟩
          simpa only [ModuleCall.run, Bool.false_eq_true, if_false, List.flatMap_map] using answered

/-- An empty module is well formed. -/
theorem wellFormed_new (title : String) : (new title).WellFormed :=
  ⟨⟨List.nodup_nil, by simp [new], List.nodup_nil, by simp [new]⟩, List.nodup_nil, by simp [new, serials]⟩

/-- A run of calls keeps a builder well formed, and all function names that are answered have been handed
out. Witness: induction on the calls; names are kept by those that follow.
-/
theorem WellFormed.run (wellFormed : b.WellFormed) (calls : List ModuleCall)
    : (b.run calls).2.WellFormed
      ∧ b.names ⊆ (b.run calls).2.names
      ∧ ∀ f ∈ (b.run calls).1.flatMap Answer.names, f ∈ (b.run calls).2.names := by
  induction calls generalizing b with
  | nil => exact ⟨wellFormed, List.Subset.refl _, by simp [ModuleBuilder.run]⟩
  | cons call rest ih =>
      obtain ⟨kept, answered⟩ := wellFormed.call_names call
      obtain ⟨last, keptLater, answeredLater⟩ := ih (wellFormed.call call)
      refine ⟨last, List.Subset.trans kept keptLater, ?_⟩
      simp only [ModuleBuilder.run, List.flatMap_append]
      exact List.forall_mem_append.2 ⟨fun f named => keptLater (answered f named), answeredLater⟩

/-- In a well-formed builder, two names have the same serial number if they have the same symbol. -/
theorem WellFormed.same_name_iff (wellFormed : b.WellFormed) {f g : FunctionName}
    (handedOut : f ∈ b.names) (alsoHandedOut : g ∈ b.names)
    : f.id = g.id ↔ f.symbol = g.symbol := by
  have ids : (b.names.map FunctionName.id).Nodup :=
    (wellFormed.numbered.of_sublist (List.sublist_append_left _ _)).nodup
  constructor
  · intro same
    rw [List.inj_on_of_nodup_map ids handedOut alsoHandedOut same]
  · intro same
    rw [List.inj_on_of_nodup_map wellFormed.symbols handedOut alsoHandedOut same]

/-- A name that was handed out is the one that its symbol has. -/
theorem WellFormed.name_of_mem (wellFormed : b.WellFormed) {f : FunctionName} (handedOut : f ∈ b.names)
    : b.name? f.symbol = some f := by
  cases found : b.name? f.symbol with
  | none =>
      have absent := List.find?_eq_none.1 found f handedOut
      simp at absent
  | some g =>
      have same : g.symbol = f.symbol := by simpa using List.find?_some found
      rw [List.inj_on_of_nodup_map wellFormed.symbols (List.mem_of_find?_eq_some found) handedOut same]

/-- After any calls on builders, failing ones and dropped functions included: function names that were
answered have one serial number for each symbol; declared and defined names are apart, and each of them is
the one that its symbol has; the parameters, blocks, instructions and terminators of all defined functions
have serial numbers of their own and names that tell their places; calls and invokes have a type for each
argument. No call on the way has missed the open block that it relies on.
-/
theorem run_invariant (title : String) (calls : List ModuleCall)
    : let answers := ((new title).run calls).1
      let b := ((new title).run calls).2
      (∀ f ∈ answers.flatMap Answer.names,
        ∀ g ∈ answers.flatMap Answer.names, f.id = g.id ↔ f.symbol = g.symbol)
      ∧ b.decls.Disjoint (b.functions.map Prod.fst)
      ∧ (∀ f ∈ b.decls ++ b.functions.map Prod.fst, b.name? f.symbol = some f)
      ∧ (b.functions.flatMap fun entry => entry.2.serials).Nodup
      ∧ (∀ entry ∈ b.functions, entry.2.WellFormed entry.1)
      ∧ (new title).run? calls = some (answers, b) := by
  intro answers b
  obtain ⟨wellFormed, _, handedOut⟩ := (wellFormed_new title).run calls
  refine ⟨?_, ?_, ?_, ?_, wellFormed.bodies, run?_eq _ calls⟩
  · exact fun f isAnswer g isAnswerToo =>
      wellFormed.same_name_iff (handedOut f isAnswer) (handedOut g isAnswerToo)
  · exact List.disjoint_of_nodup_append wellFormed.once
  · exact fun f known => wellFormed.name_of_mem (wellFormed.interned f known)
  · exact (wellFormed.numbered.of_sublist (List.sublist_append_right _ _)).nodup

end ModuleBuilder

end PointerOrigins
