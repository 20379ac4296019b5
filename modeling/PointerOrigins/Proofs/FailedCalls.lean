import PointerOrigins.Proofs.BuilderFidelity

/-!
Calls on builders that fail, and what is recorded by those that succeed. A declaration asks for the name of its symbol, and a function closes its last
block, before either of them looks whether the name is taken. Nothing of this is left where it is: a symbol
that is taken has had its name before, and the block that was closed is dropped with its builder. A value
that comes in is given to one phi and to nothing else, since no two instructions have the same name.
-/

namespace PointerOrigins

----------------------------------------------------------------------------------------------
-- Symbols that are taken
----------------------------------------------------------------------------------------------

namespace ModuleBuilder

/-- A function without a body has this symbol. -/
def Declares (b : ModuleBuilder) (symbol : String) : Prop :=
  ∃ f ∈ b.decls, f.symbol = symbol

/-- A function with a body has this symbol. -/
def Defines (b : ModuleBuilder) (symbol : String) : Prop :=
  ∃ entry ∈ b.functions, entry.1.symbol = symbol

/-- One function is declared behind those that were declared before. Its name was handed out, or is so now, and all
else is the same.
-/
structure AddsDecl (b : ModuleBuilder) (f : FunctionName) (after : ModuleBuilder) : Prop where
  title : after.name = b.name
  names : f ∈ b.names ∧ after.names = b.names ∨ f ∉ b.names ∧ after.names = b.names ++ [f]
  decls : after.decls = b.decls ++ [f]
  functions : after.functions = b.functions
  globals : after.globals = b.globals

variable {b : ModuleBuilder} {symbol : String}

/-- A symbol is taken if some name with this symbol is declared or defined. -/
theorem exists_known_iff
    : (∃ f ∈ b.decls ++ b.functions.map Prod.fst, f.symbol = symbol)
      ↔ b.Declares symbol ∨ b.Defines symbol := by
  simp only [Declares, Defines, List.mem_append, or_and_right, exists_or, List.mem_map,
    exists_exists_and_eq_and]

/-- A name that was handed out is declared or defined if its symbol is taken. Witness: what is declared or
defined has a name that was handed out too, and a symbol has one name.
-/
theorem Consistent.known_iff (consistent : b.Consistent) {f : FunctionName} (handedOut : f ∈ b.names)
    : f ∈ b.decls ++ b.functions.map Prod.fst ↔ b.Declares f.symbol ∨ b.Defines f.symbol := by
  rw [← exists_known_iff]
  constructor
  · intro known
    exact ⟨f, known, rfl⟩
  · intro taken
    obtain ⟨g, known, same⟩ := taken
    have isName := consistent.interned g known
    obtain rfl := List.inj_on_of_nodup_map consistent.symbols isName handedOut same
    exact known

/-- No symbol is declared or defined twice. -/
theorem Consistent.nodup_symbols (consistent : b.Consistent)
    : ((b.decls ++ b.functions.map Prod.fst).map FunctionName.symbol).Nodup := by
  refine consistent.once.map_on fun f isKnown g isKnownToo same => ?_
  exact List.inj_on_of_nodup_map consistent.symbols (consistent.interned f isKnown)
    (consistent.interned g isKnownToo) same

/-- A symbol that is taken has its name already. -/
theorem Consistent.functionName_of_taken (consistent : b.Consistent)
    (taken : b.Declares symbol ∨ b.Defines symbol)
    : (b.functionName symbol).2 = b := by
  obtain ⟨f, known, isSymbol⟩ := exists_known_iff.2 taken
  rcases b.functionName_cases symbol with ⟨_, _, _, result⟩ | ⟨new, _⟩
  · rw [result]
  · exact absurd isSymbol (new f (consistent.interned f known))

/-- The name of a symbol has this symbol, and was handed out before or is so now. Nothing else changes. -/
theorem functionName_spec (b : ModuleBuilder) (symbol : String)
    : let f := (b.functionName symbol).1
      let after := (b.functionName symbol).2
      f.symbol = symbol
      ∧ (f ∈ b.names ∧ after.names = b.names ∨ f ∉ b.names ∧ after.names = b.names ++ [f])
      ∧ after.name = b.name
      ∧ after.decls = b.decls
      ∧ after.functions = b.functions
      ∧ after.globals = b.globals := by
  rcases b.functionName_cases symbol with ⟨g, handedOut, isSymbol, result⟩ | ⟨new, result⟩
  · rw [result]
    exact ⟨isSymbol, .inl ⟨handedOut, rfl⟩, rfl, rfl, rfl, rfl⟩
  · rw [result]
    exact ⟨rfl, .inr ⟨fun handedOut => new _ handedOut rfl, rfl⟩, rfl, rfl, rfl, rfl⟩

/-- A declaration fails if the symbol is taken, and then nothing has changed; otherwise it succeeds, and exactly a
function with this symbol has been declared.
-/
theorem WellFormed.declare_iff (wellFormed : b.WellFormed) (symbol : String)
    : ((∃ e, (b.declare symbol).1 = .error e) ↔ b.Declares symbol ∨ b.Defines symbol)
      ∧ (∀ e, (b.declare symbol).1 = .error e → (b.declare symbol).2 = b)
      ∧ ∀ f,
          (b.declare symbol).1 = .ok f
          → f.symbol = symbol ∧ b.AddsDecl f (b.declare symbol).2 := by
  obtain ⟨isSymbol, names, title, decls, functions, globals⟩ := b.functionName_spec symbol
  have named := (wellFormed.functionName symbol).toConsistent.known_iff (b.functionName_mem symbol).1
  rw [isSymbol, Declares, Defines, decls, functions] at named
  rcases b.declare_cases symbol with ⟨fresh, result⟩ | ⟨known, result⟩
  · rw [result]
    rw [decls, functions] at fresh
    refine ⟨⟨fun fails => (by cases fails.choose_spec), fun taken => absurd (named.2 taken) fresh⟩,
      fun _ fails => (by cases fails), fun f succeeds => ?_⟩
    cases succeeds
    exact ⟨isSymbol, title, names, congrArg (· ++ _) decls, functions, globals⟩
  · rw [result]
    rw [decls, functions] at known
    have taken : b.Declares symbol ∨ b.Defines symbol := named.1 known
    exact ⟨⟨fun _ => taken, fun _ => ⟨_, rfl⟩⟩,
      fun _ _ => wellFormed.toConsistent.functionName_of_taken taken,
      fun _ succeeds => (by cases succeeds)⟩

end ModuleBuilder

----------------------------------------------------------------------------------------------
-- Functions that are finished
----------------------------------------------------------------------------------------------

/-- A block that is closed as it stands: it ends in an unconditional branch. -/
structure OpenBlock.ClosesAs (block : OpenBlock) (closed : Block) : Prop where
  name : closed.name = block.name
  instrs : closed.instrs = block.instrs
  opcode : closed.terminator.opcode = .other
  ty : closed.terminator.ty = .void

namespace FunctionBuilder

variable {b : FunctionBuilder}

/-- One function is defined behind those that were defined before. It has the blocks of its builder, with the open
one closed, and all else is the same.
-/
structure AddsFunction (b : FunctionBuilder) (after : ModuleBuilder) : Prop where
  title : after.name = b.module.name
  names : after.names = b.module.names
  decls : after.decls = b.module.decls
  functions
    : ∃ closed,
        List.Forall₂ OpenBlock.ClosesAs b.current.toList closed
        ∧ after.functions = b.module.functions ++ [(b.name, ⟨b.parameters, b.blocks ++ closed⟩)]
  globals : after.globals = b.module.globals

/-- Closing the open block puts it behind the others, and leaves all else alone but for the serial number that it
takes.
-/
theorem close_spec (b : FunctionBuilder)
    : ∃ next closed,
        List.Forall₂ OpenBlock.ClosesAs b.current.toList closed
        ∧ b.close .other .void
          = { b with
              module := { b.module with nextId := next }, blocks := b.blocks ++ closed, current := none } := by
  cases isOpen : b.current with
  | none =>
      refine ⟨b.module.nextId, [], .nil, ?_⟩
      rw [close_of_none isOpen, List.append_nil]
      obtain ⟨_, _, _, _, _⟩ := b
      cases isOpen
      rfl
  | some block =>
      rw [close_of_some isOpen]
      exact ⟨b.module.nextId + 1, _, .cons ⟨rfl, rfl, rfl, rfl⟩ .nil, rfl⟩

/-- Finishing a function fails if its symbol is taken, and then names, declarations, definitions and globals
are the same; otherwise it succeeds, and exactly this function has been defined.
-/
theorem WellFormed.finish_iff (wellFormed : b.WellFormed)
    : ((∃ e, b.finish.1 = .error e) ↔ b.module.Declares b.name.symbol ∨ b.module.Defines b.name.symbol)
      ∧ (∀ e,
          b.finish.1 = .error e
          → b.finish.2.names = b.module.names
            ∧ b.finish.2.decls = b.module.decls
            ∧ b.finish.2.functions = b.module.functions
            ∧ b.finish.2.globals = b.module.globals)
      ∧ ∀ f, b.finish.1 = .ok f → f = b.name ∧ b.AddsFunction b.finish.2 := by
  have known := wellFormed.module.known_iff wellFormed.named
  obtain ⟨next, closed, closes, isClosed⟩ := b.close_spec
  rcases b.finish_cases with ⟨fresh, result⟩ | ⟨taken, result⟩
  · rw [result]
    rw [isClosed] at fresh
    refine ⟨⟨fun fails => (by cases fails.choose_spec), fun taken => absurd (known.2 taken) fresh⟩,
      fun _ fails => (by cases fails), fun f succeeds => ?_⟩
    rw [isClosed] at succeeds ⊢
    cases succeeds
    exact ⟨rfl, rfl, rfl, rfl, ⟨closed, closes, rfl⟩, rfl⟩
  · rw [result, isClosed]
    rw [isClosed] at taken
    exact ⟨⟨fun _ => known.1 taken, fun _ => ⟨_, rfl⟩⟩, fun _ _ => ⟨rfl, rfl, rfl, rfl⟩,
      fun _ succeeds => (by cases succeeds)⟩

----------------------------------------------------------------------------------------------
-- Values that come in
----------------------------------------------------------------------------------------------

/-- One phi, in a closed block or in the open one, has one more value behind the ones that it had, and all
else is the same.
-/
inductive Receives (target : InstructionName) (value : Operand) (b : FunctionBuilder)
    : FunctionBuilder → Prop
  | closed {before after : List Block} {name : BlockName} {terminator : Terminator}
    {earlier later : List Instruction} {values : List Operand} {ty : Ty}
    (place
      : b.blocks
        = before ++ ⟨name, earlier ++ ⟨target, .phi values, ty⟩ :: later, terminator⟩ :: after)
    : Receives target value b
        { b with
          blocks :=
            before
              ++ ⟨name, earlier ++ ⟨target, .phi (values ++ [value]), ty⟩ :: later, terminator⟩ :: after }
  | opened {name : BlockName} {earlier later : List Instruction} {values : List Operand} {ty : Ty}
    (place : b.current = some ⟨name, earlier ++ ⟨target, .phi values, ty⟩ :: later⟩)
    : Receives target value b
        { b with current := some ⟨name, earlier ++ ⟨target, .phi (values ++ [value]), ty⟩ :: later⟩ }

/-- Where names are distinct, no other instruction has the name of this one. -/
theorem absent_around {earlier later : List Instruction} {i : Instruction}
    (distinct : ((earlier ++ i :: later).map Instruction.name).Nodup)
    : ∀ j ∈ earlier ++ later, j.name ≠ i.name := by
  rw [List.map_append, List.map_cons, List.nodup_middle, List.nodup_cons, ← List.map_append] at distinct
  intro j member same
  exact distinct.1 (same ▸ List.mem_map_of_mem member)

/-- A value comes in to the one phi that has the name. -/
theorem map_receive_at {earlier later : List Instruction} {target : InstructionName}
    (absent : ∀ j ∈ earlier ++ later, j.name ≠ target) (values : List Operand) (ty : Ty) (value : Operand)
    : (earlier ++ ⟨target, .phi values, ty⟩ :: later).map (Instruction.receive target value)
      = earlier ++ ⟨target, .phi (values ++ [value]), ty⟩ :: later := by
  obtain ⟨before, behind⟩ := List.forall_mem_append.1 absent
  rw [List.map_append, List.map_cons, Instruction.map_receive_of_absent before,
    Instruction.map_receive_of_absent behind, Instruction.receive, if_pos rfl]
  rfl

/-- In a builder whose instructions have distinct names, a value that comes in to a phi comes in to no other
one.
-/
theorem receives_receive (distinct : (b.instrs.map Instruction.name).Nodup) {target : InstructionName}
    {values : List Operand} {ty : Ty} (member : ⟨target, .phi values, ty⟩ ∈ b.instrs) (value : Operand)
    : b.Receives target value (b.receive target value) := by
  rw [instrs] at distinct member
  rcases List.mem_append.1 member with inClosed | inOpen
  · obtain ⟨⟨name, instrs, terminator⟩, inBlocks, inBlock⟩ := List.mem_flatMap.1 inClosed
    obtain ⟨before, after, place⟩ := List.append_of_mem inBlocks
    obtain ⟨earlier, later, rfl⟩ := List.append_of_mem inBlock
    simp only [place, List.flatMap_append, List.flatMap_cons, List.append_assoc, List.cons_append]
      at distinct
    rw [← List.append_assoc] at distinct
    have absent := absent_around distinct
    simp only [List.forall_mem_append] at absent
    obtain ⟨⟨inBefore, inEarlier⟩, inLater, inAfter, inCurrent⟩ := absent
    have received : b.Receives target value _ := .closed place
    have blocks : b.blocks.map (Block.receive target value)
        = before
          ++ ⟨name, earlier ++ ⟨target, .phi (values ++ [value]), ty⟩ :: later, terminator⟩ :: after := by
      rw [place, List.map_append, List.map_cons, map_receive_blocks_of_absent inBefore,
        map_receive_blocks_of_absent inAfter, Block.receive,
        map_receive_at (List.forall_mem_append.2 ⟨inEarlier, inLater⟩)]
    rwa [← blocks, ← map_receive_current_of_absent inCurrent] at received
  · obtain ⟨⟨name, instrs⟩, isOpen, inBlock⟩ := List.mem_flatMap.1 inOpen
    rw [Option.mem_toList] at isOpen
    obtain ⟨earlier, later, rfl⟩ := List.append_of_mem inBlock
    rw [isOpen, Option.toList_some, List.flatMap_singleton, ← List.append_assoc] at distinct
    have absent := absent_around distinct
    rw [List.append_assoc] at absent
    obtain ⟨inBlocks, around⟩ := List.forall_mem_append.1 absent
    have received : b.Receives target value _ := .opened isOpen
    have current : b.current.map (OpenBlock.receive target value)
        = some ⟨name, earlier ++ ⟨target, .phi (values ++ [value]), ty⟩ :: later⟩ := by
      rw [isOpen, Option.map_some, OpenBlock.receive, map_receive_at around]
    rwa [← current, ← map_receive_blocks_of_absent inBlocks] at received

/-- A phi of this builder, in a closed block or in the open one. -/
def HasPhi (b : FunctionBuilder) (phi : Operand) : Prop :=
  ∃ target values ty, phi = .instruction target ∧ ⟨target, .phi values, ty⟩ ∈ b.instrs

/-- A value comes in to one phi of this function, if it is given one, and otherwise nothing has changed. -/
theorem WellFormed.addIncoming_iff (wellFormed : b.WellFormed) (phi value : Operand)
    : ((b.addIncoming phi value).1 = .ok () ↔ b.HasPhi phi)
      ∧ ((b.addIncoming phi value).1 = .ok ()
        → ∃ target, phi = .instruction target ∧ b.Receives target value (b.addIncoming phi value).2)
      ∧ ∀ e, (b.addIncoming phi value).1 = .error e → (b.addIncoming phi value).2 = b := by
  rcases addIncoming_cases wellFormed.distinct phi value with
    ⟨⟨target, opcode, ty⟩, member, rfl, isPhi, result⟩ | ⟨noPhi, e, result⟩
  · cases opcode <;> cases isPhi
    rw [result]
    refine ⟨⟨fun _ => ⟨_, _, _, rfl, member⟩, fun _ => rfl⟩, fun _ => ⟨target, rfl, ?_⟩, ?_⟩
    · exact receives_receive wellFormed.distinct member value
    · exact fun _ fails => (by cases fails)
  · rw [result]
    refine ⟨⟨fun succeeds => (by cases succeeds), ?_⟩, fun succeeds => (by cases succeeds), fun _ _ => rfl⟩
    rintro ⟨target, values, ty, rfl, member⟩
    cases noPhi _ member rfl

end FunctionBuilder

namespace ModuleBuilder

/-- After any calls on builders: a declaration fails if and only if its symbol is declared or defined, and
then the builder is the same; otherwise exactly one function with this symbol is declared. Finishing a function
fails if and only if its symbol is declared or defined, and then names, declarations, definitions and globals
are the same; otherwise exactly this function is defined. A value comes in if and only if it is given a phi of
a closed block or of the open one, which then has it behind the values that it had, all else being the same;
otherwise the builder is the same. Whatever calls follow, what is declared or defined stays as it is, and no
symbol is declared or defined twice.
-/
theorem calls_succeed_or_keep (title : String) (calls : List ModuleCall)
    : let b := ((new title).run calls).2
      (∀ symbol,
        ((∃ e, (b.declare symbol).1 = .error e) ↔ b.Declares symbol ∨ b.Defines symbol)
        ∧ (∀ e, (b.declare symbol).1 = .error e → (b.declare symbol).2 = b)
        ∧ ∀ f,
            (b.declare symbol).1 = .ok f
            → f.symbol = symbol ∧ b.AddsDecl f (b.declare symbol).2)
      ∧ (∀ symbol parameters functionCalls,
          let f := ((b.function symbol parameters).run functionCalls).2
          (((∃ e, f.finish.1 = .error e)
              ↔ f.module.Declares f.name.symbol ∨ f.module.Defines f.name.symbol)
            ∧ (∀ e,
                f.finish.1 = .error e
                → f.finish.2.names = f.module.names
                  ∧ f.finish.2.decls = f.module.decls
                  ∧ f.finish.2.functions = f.module.functions
                  ∧ f.finish.2.globals = f.module.globals)
            ∧ ∀ name, f.finish.1 = .ok name → name = f.name ∧ f.AddsFunction f.finish.2)
          ∧ ∀ phi value,
              ((f.addIncoming phi value).1 = .ok () ↔ f.HasPhi phi)
              ∧ ((f.addIncoming phi value).1 = .ok ()
                → ∃ target,
                    phi = .instruction target ∧ f.Receives target value (f.addIncoming phi value).2)
              ∧ ∀ e, (f.addIncoming phi value).1 = .error e → (f.addIncoming phi value).2 = f)
      ∧ ∀ later,
          let after := (b.run later).2
          b.decls <+: after.decls
          ∧ b.functions <+: after.functions
          ∧ ((after.decls ++ after.functions.map Prod.fst).map FunctionName.symbol).Nodup := by
  intro b
  have wellFormed := ((wellFormed_new title).run calls).1
  refine ⟨wellFormed.declare_iff, fun symbol parameters functionCalls => ?_, fun later => ?_⟩
  · have started := wellFormed.function symbol parameters
    have ran := started.of_changes (started.run_changes functionCalls)
    exact ⟨ran.finish_iff, ran.addIncoming_iff⟩
  · have kept := keeps_run wellFormed later
    exact ⟨kept.decls, kept.functions, (wellFormed.run later).1.toConsistent.nodup_symbols⟩

/-- A function is declared, and neither declared nor defined again: the second declaration changes nothing, and the
function that is given a body then is not recorded. Another one is.
-/
theorem calls_succeed_or_keep_declaredTwice
    : let empty := ModuleBuilder.new "m"
      let b := (empty.run [.declare "f"]).2
      let again := (b.function "f" []).finish
      let other := (b.function "g" ["p"]).finish
      empty.AddsDecl ⟨0, "f"⟩ b
      ∧ (∃ e, (b.declare "f").1 = .error e)
      ∧ (b.declare "f").2 = b
      ∧ (∃ e, again.1 = .error e)
      ∧ again.2.decls = b.decls
      ∧ again.2.functions = []
      ∧ (b.function "g" ["p"]).AddsFunction other.2 := by
  intro empty b again other
  obtain ⟨declares, _⟩ := calls_succeed_or_keep "m" []
  obtain ⟨redeclares, defines, _⟩ := calls_succeed_or_keep "m" [.declare "f"]
  have taken : b.Declares "f" := ⟨⟨0, "f"⟩, by decide, rfl⟩
  obtain ⟨redeclaration, unchanged, _⟩ := redeclares "f"
  obtain ⟨⟨redefinition, kept, _⟩, _⟩ := defines "f" [] []
  obtain ⟨⟨_, _, defined⟩, _⟩ := defines "g" ["p"] []
  obtain ⟨e, fails⟩ := redeclaration.2 (.inl taken)
  obtain ⟨d, failsToo⟩ := redefinition.2 (.inl taken)
  obtain ⟨_, decls, functions, _⟩ := kept d failsToo
  exact ⟨((declares "f").2.2 _ rfl).2, ⟨e, fails⟩, unchanged e fails, ⟨d, failsToo⟩, decls, functions,
    (defined _ rfl).2⟩

end ModuleBuilder

end PointerOrigins
