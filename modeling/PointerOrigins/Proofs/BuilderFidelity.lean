import Mathlib.Data.List.Chain
import PointerOrigins.Proofs.BuilderInvariant
import PointerOrigins.Proofs.EnumerationOrder

/-!
A finished function is what its builder was asked for. The calls that make blocks are cut into sections, one
for each block: a section starts at a label, or where something is added and no block is open, and it ends
at a terminator or where the next label is. Instructions stand in the order of the calls that add them, and
a phi has the values that have come in to it since then.
-/

namespace PointerOrigins

----------------------------------------------------------------------------------------------
-- Sections of calls
----------------------------------------------------------------------------------------------

/-- A call on a function builder with its answer. -/
abbrev Exchange := FunctionCall × Answer

/-- Calls that make blocks. The others leave all blocks as they are, but for values that come in to phis. -/
def FunctionCall.makesBlocks : FunctionCall → Bool
  | .block _ | .add _ | .terminate _ => true
  | .name | .param _ | .functionRef _ | .addIncoming _ _ => false

/-- The instruction that a call asks for. -/
def FunctionCall.addition? : FunctionCall → Option Addition
  | .add i => some i
  | _ => none

/-- What one block is made from: the label that starts it, the instructions that are added to it, and the
terminator that ends it.
-/
structure Section where
  label : Option String
  additions : List (Addition × Answer)
  ending : Option (Ending × Answer)
deriving DecidableEq, Repr

namespace Section

/-- The calls of a section with their answers. -/
def exchanges (s : Section) : List Exchange :=
  (s.label.map fun label => (.block label, .done)).toList
    ++ s.additions.map (fun added => (.add added.1, added.2))
    ++ (s.ending.map fun ended => (.terminate ended.1, ended.2)).toList

/-- A section starts with some call. -/
def Started (s : Section) : Prop :=
  s.label.isSome ∨ s.additions ≠ [] ∨ s.ending.isSome

/-- One section ends where the other one starts. -/
def Apart (s t : Section) : Prop :=
  s.ending.isSome ∨ t.label.isSome

end Section

/-- The calls of a history that make blocks. -/
def making (history : List Exchange) : List Exchange :=
  history.filter fun entry => entry.1.makesBlocks

/-- The calls of a history that make blocks, cut into sections. -/
structure Sections (history : List Exchange) (parts : List Section) : Prop where
  complete : parts.flatMap Section.exchanges = making history
  started : ∀ s ∈ parts, s.Started
  apart : parts.IsChain Section.Apart

namespace Section

/-- Puts a call in front of sections. It belongs to the first one, unless that starts with a label or the call
ends a block.
-/
def put (entry : Exchange) (parts : List Section) : List Section :=
  match entry, parts with
  | (.block label, _), ⟨none, additions, ending⟩ :: rest => ⟨some label, additions, ending⟩ :: rest
  | (.block label, _), rest => ⟨some label, [], none⟩ :: rest
  | (.add i, answer), ⟨none, additions, ending⟩ :: rest => ⟨none, (i, answer) :: additions, ending⟩ :: rest
  | (.add i, answer), rest => ⟨none, [(i, answer)], none⟩ :: rest
  | (.terminate e, answer), rest => ⟨none, [], some (e, answer)⟩ :: rest
  | _, rest => rest

/-- A call that does not end a block starts a section if there is none in front of which it could stand. -/
theorem put_of_labelled {parts : List Section} (labelled : ∀ s ∈ parts.head?, s.label.isSome)
    : (∀ label answer, put (.block label, answer) parts = ⟨some label, [], none⟩ :: parts)
      ∧ ∀ i answer, put (.add i, answer) parts = ⟨none, [(i, answer)], none⟩ :: parts := by
  cases parts with
  | nil => exact ⟨fun _ _ => rfl, fun _ _ => rfl⟩
  | cons s rest =>
      obtain ⟨label, additions, ending⟩ := s
      cases label with
      | none => cases labelled _ rfl
      | some label => exact ⟨fun _ _ => rfl, fun _ _ => rfl⟩

/-- Instructions are put in front of those of a section without a label. -/
theorem foldr_put_additions (additions more : List (Addition × Answer)) (ending : Option (Ending × Answer))
    (rest : List Section)
    : (additions.map fun added => ((.add added.1, added.2) : Exchange)).foldr put (⟨none, more, ending⟩ :: rest)
      = ⟨none, additions ++ more, ending⟩ :: rest := by
  induction additions with
  | nil => rfl
  | cons first later ih =>
      rw [List.map_cons, List.foldr_cons, ih]
      rfl

/-- The calls of a section make up this section again. -/
theorem foldr_put_exchanges {s : Section} {rest : List Section} (started : s.Started)
    (apart : ∀ t ∈ rest.head?, s.Apart t)
    : s.exchanges.foldr put rest = s :: rest := by
  obtain ⟨label, additions, ending⟩ := s
  rw [exchanges, List.foldr_append, List.foldr_append]
  cases ending with
  | some ended =>
      have ends : ((some ended).map fun e => ((.terminate e.1, e.2) : Exchange)).toList.foldr put rest
          = ⟨none, [], some ended⟩ :: rest := rfl
      rw [ends, foldr_put_additions, List.append_nil]
      cases label <;> rfl
  | none =>
      have labelled : ∀ t ∈ rest.head?, t.label.isSome := fun t first =>
        (apart t first).resolve_left Bool.false_ne_true
      obtain ⟨startBlock, startAdding⟩ := put_of_labelled labelled
      rw [Option.map_none, Option.toList_none, List.foldr_nil]
      rcases List.eq_nil_or_concat additions with rfl | ⟨earlier, last, rfl⟩
      · cases label with
        | none => simp [Started] at started
        | some label => exact startBlock label .done
      · rw [List.concat_eq_append, List.map_append, List.foldr_append, List.map_singleton,
          List.foldr_cons, List.foldr_nil, startAdding, foldr_put_additions]
        cases label <;> rfl

end Section

/-- There is one way to cut a history into sections. -/
theorem Sections.unique {history : List Exchange} {parts others : List Section} (cut : Sections history parts)
    (cutToo : Sections history others)
    : others = parts := by
  have again : ∀ parts : List Section, (∀ s ∈ parts, s.Started) → parts.IsChain Section.Apart
      → (parts.flatMap Section.exchanges).foldr Section.put [] = parts := by
    intro parts started apart
    induction parts with
    | nil => rfl
    | cons s rest ih =>
        obtain ⟨sApart, restApart⟩ := List.isChain_cons.1 apart
        obtain ⟨sStarted, restStarted⟩ := List.forall_mem_cons.1 started
        rw [List.flatMap_cons, List.foldr_append, ih restStarted restApart]
        exact Section.foldr_put_exchanges sStarted sApart
  rw [← again parts cut.started cut.apart, ← again others cutToo.started cutToo.apart, cut.complete,
    cutToo.complete]

----------------------------------------------------------------------------------------------
-- What sections make
----------------------------------------------------------------------------------------------

/-- The value that a call has brought to a phi, if it has succeeded. -/
def Exchange.incoming? (phi : InstructionName) (entry : Exchange) : Option Operand :=
  match entry with
  | (.addIncoming target value, .done) => if target = .instruction phi then some value else none
  | _ => none

/-- The instructions that a history asks for, in the order of the calls. -/
def additions (history : List Exchange) : List (Addition × Answer) :=
  history.filterMap fun entry => entry.1.addition?.map fun i => (i, entry.2)

/-- The values that have come in to a phi, in the order of the calls. -/
def incoming (history : List Exchange) (phi : InstructionName) : List Operand :=
  history.filterMap (Exchange.incoming? phi)

/-- An instruction is what was asked for and answered, with the values that have come in to it. -/
structure Addition.Makes (values : InstructionName → List Operand) (added : Addition × Answer)
    (i : Instruction) : Prop where
  answer : added.2 = .operand (.instruction i.name)
  opcode : i.opcode = added.1.opcode.withIncoming (values i.name)
  ty : i.ty = added.1.ty

/-- What the end of a block answers: an invoke gives its value, a return gives none. -/
def Ending.answer (name : InstructionName) : Ending → Answer
  | .ret _ => .done
  | .invoke _ _ _ => .operand (.instruction name)

/-- A block is what a section asks for. Without a label it is named by its number, without a terminator it
ends in an unconditional branch.
-/
structure Section.Makes (values : InstructionName → List Operand) (entry : Section × Nat)
    (block : Block) : Prop where
  label : block.name.label = entry.1.label.getD ("bb" ++ toString entry.2)
  instrs : List.Forall₂ (Addition.Makes values) entry.1.additions block.instrs
  opcode : block.terminator.opcode = Ending.opcodeOf (entry.1.ending.map Prod.fst)
  ty : block.terminator.ty = Ending.tyOf (entry.1.ending.map Prod.fst)
  answer : ∀ ended ∈ entry.1.ending, ended.2 = ended.1.answer block.terminator.name

/-- An open block is what a section asks for that has not ended yet. -/
structure Section.Opens (values : InstructionName → List Operand) (number : Nat) (s : Section)
    (block : OpenBlock) : Prop where
  label : block.name.label = s.label.getD ("bb" ++ toString number)
  instrs : List.Forall₂ (Addition.Makes values) s.additions block.instrs
  unended : s.ending = none

/-- A function builder has a block for each section that is closed, and an open one for the open section. -/
structure FunctionBuilder.Layout (made : List Exchange) (values : InstructionName → List Operand)
    (b : FunctionBuilder) (closed : List Section) (opened : Option Section) : Prop where
  complete : (closed ++ opened.toList).flatMap Section.exchanges = made
  started : ∀ s ∈ closed, s.Started
  apart : (closed ++ opened.toList).IsChain Section.Apart
  blocks : List.Forall₂ (Section.Makes values) closed.zipIdx b.blocks
  current : Option.Rel (Section.Opens values closed.length) opened b.current
  known : ∀ name, values name ≠ [] → name ∈ b.instrs.map Instruction.name

namespace FunctionBuilder

variable {b : FunctionBuilder} {made : List Exchange} {values : InstructionName → List Operand}
  {closed : List Section} {opened : Option Section} {block : OpenBlock}

namespace Layout

/-- Where no section is open, no block is. -/
theorem idle (layout : b.Layout made values closed none) : b.current = none := by
  cases current : b.current with
  | none => rfl
  | some block =>
      have absurd := layout.current
      rw [current] at absurd
      cases absurd

/-- Where a section is open, a block is. -/
theorem exists_open {s : Section} (layout : b.Layout made values closed (some s))
    : ∃ block, b.current = some block := by
  cases current : b.current with
  | some block => exact ⟨block, rfl⟩
  | none =>
      have absurd := layout.current
      rw [current] at absurd
      cases absurd

/-- The block that is open is what the open section asks for. -/
theorem opens {s : Section} (layout : b.Layout made values closed (some s))
    (isOpen : b.current = some block)
    : s.Opens values closed.length block := by
  have current := layout.current
  rw [isOpen] at current
  cases current with
  | some opens => exact opens

/-- The closed sections of a builder without an open one, and what they are made from. -/
theorem complete_of_idle (layout : b.Layout made values closed none)
    : closed.flatMap Section.exchanges = made ∧ closed.IsChain Section.Apart := by
  simpa using And.intro layout.complete layout.apart

/-- Where a section ends and the next one starts is told by labels and terminators alone. -/
theorem apart_of_label {s t : Section} (layout : b.Layout made values closed (some s))
    (label : t.label = s.label)
    : (closed ++ [t]).IsChain Section.Apart := by
  obtain ⟨closedApart, _, apart⟩ := List.isChain_append.1 layout.apart
  refine List.isChain_append.2 ⟨closedApart, List.isChain_singleton _, ?_⟩
  intro last isLast next isNext
  cases isNext
  have before := apart last isLast s rfl
  rwa [Section.Apart, label]

/-- A new section is opened: under a label, or behind one that has a terminator. -/
theorem start (layout : b.Layout made values closed none) (s : Section) (label : String)
    (empty : s.additions = [] ∧ s.ending = none)
    (named : s.label.getD ("bb" ++ toString closed.length) = label)
    (apart : ∀ last ∈ closed.getLast?, last.Apart s)
    : (b.start label).Layout (made ++ s.exchanges) values closed (some s) := by
  obtain ⟨complete, closedApart⟩ := layout.complete_of_idle
  refine ⟨?_, layout.started, ?_, layout.blocks, ?_, ?_⟩
  · rw [Option.toList_some, List.flatMap_append, complete, List.flatMap_singleton]
  · refine List.isChain_append.2 ⟨closedApart, List.isChain_singleton _, ?_⟩
    intro last isLast next isNext
    cases isNext
    exact apart last isLast
  · exact .some ⟨named.symm, empty.1 ▸ .nil, empty.2⟩
  · rw [instrs_start layout.idle]
    exact layout.known

/-- An instruction is added to the open section. -/
theorem append {s : Section} (layout : b.Layout made values closed (some s))
    (isOpen : b.current = some block) (i : Addition) (new : values (b.nextName block) = [])
    : (b.append block i.opcode i.ty).Layout
        (made ++ [(.add i, .operand (.instruction (b.nextName block)))]) values closed
        (some { s with
          additions := s.additions ++ [(i, .operand (.instruction (b.nextName block)))] }) := by
  have opens := layout.opens isOpen
  refine ⟨?_, layout.started, ?_, layout.blocks, ?_, ?_⟩
  · rw [← layout.complete]
    simp [Section.exchanges, opens.unended]
  · exact layout.apart_of_label rfl
  · refine .some ⟨opens.label, ?_, opens.unended⟩
    refine List.rel_append opens.instrs (.cons ⟨rfl, ?_, rfl⟩ .nil)
    rw [new, Opcode.withIncoming_nil]
  · intro name came
    rw [instrs_append isOpen, List.map_append]
    exact List.mem_append_left _ (layout.known name came)

/-- The open section ends, with a terminator or without. -/
theorem endBlock {s : Section} (layout : b.Layout made values closed (some s))
    (isOpen : b.current = some block) (ended : Option (Ending × Answer))
    (answer : ∀ e ∈ ended, e.2 = e.1.answer (b.nextName block))
    (started : { s with ending := ended }.Started)
    : (b.endBlock block (Ending.opcodeOf (ended.map Prod.fst)) (Ending.tyOf (ended.map Prod.fst))).Layout
        (made ++ (ended.map fun e => (.terminate e.1, e.2)).toList) values
        (closed ++ [{ s with ending := ended }]) none := by
  have opens := layout.opens isOpen
  refine ⟨?_, ?_, ?_, ?_, .none, ?_⟩
  · rw [← layout.complete]
    simp [Section.exchanges, opens.unended]
  · exact List.forall_mem_append.2 ⟨layout.started, List.forall_mem_singleton.2 started⟩
  · rw [Option.toList_none, List.append_nil]
    exact layout.apart_of_label rfl
  · rw [List.zipIdx_append]
    refine List.rel_append layout.blocks (.cons ⟨?_, opens.instrs, rfl, rfl, answer⟩ .nil)
    rw [Nat.zero_add]
    exact opens.label
  · rw [instrs_endBlock isOpen]
    exact layout.known

/-- A value comes in to a phi. -/
theorem receive (layout : b.Layout made values closed opened) {target : InstructionName}
    (isTarget : target ∈ b.instrs.map Instruction.name) (value : Operand)
    : (b.receive target value).Layout made
        (fun name => values name ++ if name = target then [value] else []) closed opened := by
  have makes : ∀ added i, Addition.Makes values added i
      → Addition.Makes (fun name => values name ++ if name = target then [value] else []) added
          (i.receive target value) := by
    intro added i makes
    refine ⟨?_, ?_, ?_⟩
    · rw [Instruction.name_receive]
      exact makes.answer
    · rw [Instruction.name_receive, Instruction.receive]
      split
      · rw [Opcode.withIncoming_append, ← makes.opcode]
      · rw [List.append_nil]
        exact makes.opcode
    · rw [Instruction.ty_receive]
      exact makes.ty
  refine ⟨layout.complete, layout.started, layout.apart, ?_, ?_, ?_⟩
  · refine List.forall₂_map_right_iff.2 (layout.blocks.imp ?_)
    intro entry block before
    refine ⟨before.label, ?_, before.opcode, before.ty, before.answer⟩
    exact List.forall₂_map_right_iff.2 (before.instrs.imp makes)
  · have current := layout.current
    rw [FunctionBuilder.receive]
    generalize b.current = current at *
    cases current with
    | none => exact .none
    | some before =>
        exact .some ⟨before.label, List.forall₂_map_right_iff.2 (before.instrs.imp makes), before.unended⟩
  · intro name came
    have names : (b.receive target value).instrs.map Instruction.name = b.instrs.map Instruction.name := by
      simp [instrs_receive, Function.comp_def]
    rw [names]
    by_cases same : name = target
    · exact same ▸ isTarget
    · exact layout.known name (by simpa [same] using came)

end Layout

----------------------------------------------------------------------------------------------
-- Runs
----------------------------------------------------------------------------------------------

/-- A function builder is what a history of calls asks for. An open section has a label or an instruction,
and where none is open the last one has ended in a terminator: a section ends without one only at the next
label.
-/
structure Built (history : List Exchange) (b : FunctionBuilder) (closed : List Section)
    (opened : Option Section) : Prop where
  layout : b.Layout (making history) (incoming history) closed opened
  nonempty : ∀ s ∈ opened, s.label.isSome ∨ s.additions ≠ []
  ended : opened = none → ∀ last ∈ closed.getLast?, last.ending.isSome

variable {history : List Exchange}

/-- A block has been made sure of. Where there was none, a section without a label is opened. -/
theorem Built.ensureOpen (built : b.Built history closed opened)
    : ∃ s, b.ensureOpen.2.Layout (making history) (incoming history) closed (some s) := by
  cases opened with
  | some s =>
      obtain ⟨block, isOpen⟩ := built.layout.exists_open
      rw [ensureOpen_of_some isOpen]
      exact ⟨s, built.layout⟩
  | none =>
      refine ⟨⟨none, [], none⟩, ?_⟩
      have blocks : b.blocks.length = closed.length := by
        rw [← built.layout.blocks.length_eq, List.length_zipIdx]
      rw [ensureOpen_of_none built.layout.idle, blocks]
      have started := built.layout.start ⟨none, [], none⟩ _ ⟨rfl, rfl⟩ rfl
        fun last isLast => .inl (built.ended rfl last isLast)
      have unasked : Section.exchanges ⟨none, [], none⟩ = [] := rfl
      rwa [unasked, List.append_nil] at started

/-- The open block is closed without a terminator. -/
theorem Built.close (built : b.Built history closed opened)
    : ∃ parts, (b.close .other .void).Layout (making history) (incoming history) parts none := by
  cases opened with
  | none =>
      rw [close_of_none built.layout.idle]
      exact ⟨closed, built.layout⟩
  | some s =>
      obtain ⟨block, isOpen⟩ := built.layout.exists_open
      have started : { s with ending := none }.Started :=
        (built.nonempty s rfl).elim .inl fun some => .inr (.inl some)
      have ended := built.layout.endBlock isOpen none (by simp) started
      rw [Option.map_none, Option.toList_none, List.append_nil] at ended
      rw [close_of_some isOpen]
      exact ⟨_, ended⟩

/-- Calls that neither make blocks nor bring a value to a phi. -/
theorem Built.other (built : b.Built history closed opened) {after : FunctionBuilder} {call : FunctionCall}
    {answer : Answer} (blocks : after.blocks = b.blocks) (current : after.current = b.current)
    (makes : call.makesBlocks = false) (brings : ∀ name, Exchange.incoming? name (call, answer) = none)
    : after.Built (history ++ [(call, answer)]) closed opened := by
  have sameValues : incoming (history ++ [(call, answer)]) = incoming history := by
    funext name
    simp [incoming, brings]
  have sameInstrs : after.instrs = b.instrs := by rw [instrs, instrs, blocks, current]
  have layout := built.layout
  refine ⟨?_, built.nonempty, built.ended⟩
  have sameMaking : making (history ++ [(call, answer)]) = making history := by
    simp [making, makes]
  rw [sameMaking, sameValues]
  refine ⟨layout.complete, layout.started, layout.apart, ?_, ?_, ?_⟩
  · exact blocks ▸ layout.blocks
  · exact current ▸ layout.current
  · exact sameInstrs ▸ layout.known

/-- What is asked for by one more call that makes blocks. -/
theorem making_append (history : List Exchange) (call : FunctionCall) (answer : Answer)
    (makes : call.makesBlocks = true)
    : making (history ++ [(call, answer)]) = making history ++ [(call, answer)]
      ∧ incoming (history ++ [(call, answer)]) = incoming history := by
  refine ⟨by simp [making, makes], ?_⟩
  funext name
  cases call <;> simp_all [incoming, Exchange.incoming?, FunctionCall.makesBlocks]

/-- A new block is started behind those that are closed. -/
theorem Built.startBlock (built : b.Built history closed opened) (label : String)
    : ∃ closed' opened', (b.block label).Built (history ++ [(.block label, .done)]) closed' opened' := by
  obtain ⟨parts, ended⟩ := built.close
  obtain ⟨asked, values⟩ := making_append history (.block label) .done rfl
  have started := ended.start ⟨some label, [], none⟩ label ⟨rfl, rfl⟩ rfl fun _ _ => .inr rfl
  refine ⟨parts, some ⟨some label, [], none⟩, ?_, ?_, by simp⟩
  · rw [asked, values]
    exact started
  · intro s isOpen
    cases isOpen
    exact .inl rfl

/-- An instruction is added to the open block. -/
theorem Built.add (built : b.Built history closed opened) (wellFormed : b.WellFormed) (i : Addition)
    : ∃ closed' opened',
        (i.run b).2.Built (history ++ [(.add i, .operand (i.run b).1)]) closed' opened' := by
  obtain ⟨s, ready⟩ := built.ensureOpen
  have readyWellFormed := wellFormed.of_changes b.ensureOpen_changes
  have new : incoming history (b.ensureOpen.2.nextName b.ensureOpen.1) = [] := by
    by_contra came
    exact readyWellFormed.nextName_new b.ensureOpen.1 (ready.known _ came)
  have added := ready.append b.current_ensureOpen i new
  obtain ⟨asked, values⟩ := making_append history (.add i) (.operand (i.run b).1) rfl
  rw [Addition.run_eq_push, push_eq] at asked values ⊢
  rw [← asked, ← values] at added
  refine ⟨closed, _, added, ?_, by simp⟩
  intro s isOpen
  cases isOpen
  exact .inr (by simp)

/-- The open block is ended by a terminator. -/
theorem Built.terminate (built : b.Built history closed opened) (e : Ending)
    : ∃ closed' opened',
        (e.run b).2.Built (history ++ [(.terminate e, (e.run b).1)]) closed' opened' := by
  obtain ⟨s, ready⟩ := built.ensureOpen
  obtain ⟨asked, values⟩ := making_append history (.terminate e) (e.run b).1 rfl
  have answer : (e.run b).1 = e.answer (b.ensureOpen.2.nextName b.ensureOpen.1) := by
    cases e <;> rfl
  refine ⟨closed ++ [{ s with ending := some (e, (e.run b).1) }], none, ?_, by simp, by simp⟩
  rw [asked, values, Ending.run_eq_terminate, terminate_eq]
  refine ready.endBlock b.current_ensureOpen (some (e, (e.run b).1)) ?_ (.inr (.inr rfl))
  intro ended isEnded
  cases isEnded
  exact answer

/-- A value comes in to a phi, or nothing is changed. -/
theorem Built.addIncoming (built : b.Built history closed opened) (wellFormed : b.WellFormed)
    (phi value : Operand)
    : (b.addIncoming phi value).2.Built
        (history ++ [(.addIncoming phi value, .ofUnit (b.addIncoming phi value).1)]) closed opened := by
  rcases addIncoming_cases wellFormed.distinct phi value with
    ⟨i, member, isTarget, _, result⟩ | ⟨_, e, result⟩
  · subst isTarget
    rw [result]
    have values : incoming (history ++ [(.addIncoming (.instruction i.name) value, .done)])
        = fun name => incoming history name ++ if name = i.name then [value] else [] := by
      funext name
      rw [incoming, List.filterMap_append]
      by_cases same : name = i.name
      · simp [incoming, Exchange.incoming?, same]
      · have other : Operand.instruction i.name ≠ .instruction name := fun equal =>
          same (LocalName.instruction.inj (Operand.local.inj equal)).symm
        simp [incoming, Exchange.incoming?, same, other]
    have layout := built.layout.receive (List.mem_map_of_mem member) value
    refine ⟨?_, built.nonempty, built.ended⟩
    rw [Answer.ofUnit, values]
    simpa [making, FunctionCall.makesBlocks] using layout
  · rw [result]
    exact built.other rfl rfl rfl fun _ => rfl

/-- Each call on a builder does what it asks for. -/
theorem Built.call (built : b.Built history closed opened) (wellFormed : b.WellFormed) (call : FunctionCall)
    : ∃ closed' opened', (call.run b).2.Built (history ++ [(call, (call.run b).1)]) closed' opened' := by
  cases call with
  | name => exact ⟨closed, opened, built.other rfl rfl rfl fun _ => rfl⟩
  | param position => exact ⟨closed, opened, built.other rfl rfl rfl fun _ => rfl⟩
  | functionRef symbol => exact ⟨closed, opened, built.other rfl rfl rfl fun _ => rfl⟩
  | block label => exact built.startBlock label
  | add i => exact built.add wellFormed i
  | addIncoming phi value => exact ⟨closed, opened, built.addIncoming wellFormed phi value⟩
  | terminate e => exact built.terminate e

/-- So does a run of calls. Witness: induction on the calls, with the history of those before them. -/
theorem Built.run (built : b.Built history closed opened) (wellFormed : b.WellFormed)
    (calls : List FunctionCall)
    : ∃ closed' opened', (b.run calls).2.Built (history ++ (b.run calls).1) closed' opened' := by
  induction calls generalizing b history closed opened with
  | nil =>
      rw [FunctionBuilder.run, List.append_nil]
      exact ⟨closed, opened, built⟩
  | cons call rest ih =>
      obtain ⟨nextClosed, nextOpened, next⟩ := built.call wellFormed call
      have last := ih next (wellFormed.of_changes (call.changes wellFormed.distinct))
      rwa [List.append_assoc] at last

/-- The calls of a run, as they stand in its history. -/
theorem map_fst_run (b : FunctionBuilder) (calls : List FunctionCall)
    : (b.run calls).1.map Prod.fst = calls := by
  induction calls generalizing b with
  | nil => rfl
  | cons call rest ih => rw [FunctionBuilder.run, List.map_cons, ih]

/-- A function builder that has just been started is what nobody has asked anything for. -/
theorem built_function (b : ModuleBuilder) (symbol : String) (parameters : List String)
    : (b.function symbol parameters).Built [] [] none :=
  ⟨⟨rfl, by simp, by simp, .nil, .none, by simp [incoming]⟩, by simp, by simp⟩

/-- The blocks of a function that is finished are what its calls ask for. -/
theorem finish_sections (b : ModuleBuilder) (wellFormed : b.WellFormed) (symbol : String)
    (parameters : List String) (calls : List FunctionCall)
    : let ran := (b.function symbol parameters).run calls
      ∃ parts,
        Sections ran.1 parts
        ∧ List.Forall₂ (Section.Makes (incoming ran.1)) parts.zipIdx (ran.2.close .other .void).blocks := by
  intro ran
  obtain ⟨closed, opened, built⟩ :=
    (built_function b symbol parameters).run (wellFormed.function symbol parameters) calls
  obtain ⟨parts, layout⟩ := built.close
  obtain ⟨complete, apart⟩ := layout.complete_of_idle
  exact ⟨parts, ⟨complete, layout.started, apart⟩, layout.blocks⟩

end FunctionBuilder

----------------------------------------------------------------------------------------------
-- What sections tell about a function
----------------------------------------------------------------------------------------------

namespace Sections

variable {history : List Exchange} {parts : List Section} {blocks : List Block}

/-- The instructions that are asked for are those of the sections. -/
theorem additions_eq (cut : Sections history parts)
    : additions history = parts.flatMap Section.additions := by
  have ofMaking : additions history = additions (making history) := by
    rw [additions, additions, making, List.filterMap_filter]
    refine List.filterMap_congr fun entry _ => ?_
    obtain ⟨call, answer⟩ := entry
    cases call <;> rfl
  have ofSection : ∀ s : Section, additions s.exchanges = s.additions := by
    intro s
    obtain ⟨label, added, ending⟩ := s
    cases label <;> cases ending <;>
      simp [additions, Section.exchanges, FunctionCall.addition?]
  rw [ofMaking, ← cut.complete, additions, List.filterMap_flatMap]
  exact List.flatMap_congr fun s _ => ofSection s

/-- Blocks that sections ask for hold one instruction for each call that asks for one. -/
theorem instrs (cut : Sections history parts)
    (makes : List.Forall₂ (Section.Makes (incoming history)) parts.zipIdx blocks)
    : List.Forall₂ (Addition.Makes (incoming history)) (additions history)
        (blocks.flatMap Block.instrs) := by
  have each : List.Forall₂ (Addition.Makes (incoming history))
      (parts.zipIdx.flatMap fun entry => entry.1.additions) (blocks.flatMap Block.instrs) :=
    List.rel_flatMap makes fun _ _ made => made.instrs
  have unnumbered : parts.zipIdx.flatMap (fun entry => entry.1.additions)
      = parts.flatMap Section.additions := by
    conv_rhs => rw [← List.zipIdx_map_fst 0 parts, List.flatMap_map]
  rwa [unnumbered, ← cut.additions_eq] at each

/-- A terminator that is asked for ends one of the blocks. -/
theorem ending (cut : Sections history parts)
    (makes : List.Forall₂ (Section.Makes (incoming history)) parts.zipIdx blocks)
    {e : Ending} {answer : Answer} (asked : (.terminate e, answer) ∈ history)
    : ∃ block ∈ blocks,
        answer = e.answer block.terminator.name ∧ block.terminator.opcode = e.opcode := by
  have made : (FunctionCall.terminate e, answer) ∈ making history := List.mem_filter.2 ⟨asked, rfl⟩
  rw [← cut.complete, List.mem_flatMap] at made
  obtain ⟨s, inParts, inSection⟩ := made
  have ended : s.ending = some (e, answer) := by
    simpa [Section.exchanges, Option.mem_toList] using inSection
  obtain ⟨number, found⟩ := List.mem_iff_getElem?.1 inParts
  obtain ⟨block, inBlocks, makesBlock⟩ :=
    exists_of_pairs makes (List.mem_zipIdx_iff_getElem?.2 found : (s, number) ∈ parts.zipIdx)
  refine ⟨block, inBlocks, makesBlock.answer _ ended, ?_⟩
  rw [makesBlock.opcode, ended]
  rfl

end Sections

----------------------------------------------------------------------------------------------
-- Functions of a finished module
----------------------------------------------------------------------------------------------

/-- What is declared or defined in a module stays as it is, and what comes later stands behind it. -/
structure ModuleBuilder.Keeps (b after : ModuleBuilder) : Prop where
  decls : b.decls <+: after.decls
  functions : b.functions <+: after.functions

namespace ModuleBuilder.Keeps

variable {b middle after : ModuleBuilder}

/-- A module with the same contents keeps them. -/
theorem of_eq (decls : after.decls = b.decls) (functions : after.functions = b.functions)
    : b.Keeps after :=
  ⟨decls ▸ List.prefix_rfl, functions ▸ List.prefix_rfl⟩

/-- What is kept by one change and then by another one is kept by both. -/
theorem trans (first : b.Keeps middle) (later : middle.Keeps after) : b.Keeps after :=
  ⟨first.decls.trans later.decls, first.functions.trans later.functions⟩

end ModuleBuilder.Keeps

/-- Changes of a function builder leave the contents of the module alone. -/
theorem FunctionBuilder.Extends.keeps {b after : FunctionBuilder} (extended : b.Extends after)
    : b.module.Keeps after.module :=
  .of_eq extended.decls extended.functions

/-- Finishing a function leaves what is declared or defined alone, also where it fails. -/
theorem FunctionBuilder.keeps_finish (b : FunctionBuilder) : b.module.Keeps b.finish.2 := by
  have closed := (extends_of_changes b.close_changes.1).keeps
  rcases b.finish_cases with ⟨_, result⟩ | ⟨_, result⟩
  · rw [result]
    exact closed.trans ⟨List.prefix_rfl, List.prefix_append _ _⟩
  · rw [result]
    exact closed

/-- A function that was finished is defined, its last block closed. -/
theorem FunctionBuilder.mem_functions_of_finish {b : FunctionBuilder} {f : FunctionName}
    (finished : b.finish.1 = .ok f)
    : (f, (b.close .other .void).body) ∈ b.finish.2.functions := by
  rcases b.finish_cases with ⟨_, result⟩ | ⟨_, result⟩
  · rw [result] at finished ⊢
    cases finished
    exact List.mem_append_right _ (List.mem_singleton.2 rfl)
  · rw [result] at finished
    cases finished

namespace ModuleBuilder

variable {b : ModuleBuilder}

/-- Asking for a name leaves what is declared or defined alone. -/
theorem keeps_functionName (b : ModuleBuilder) (symbol : String) : b.Keeps (b.functionName symbol).2 := by
  rcases b.functionName_cases symbol with ⟨f, _, _, result⟩ | ⟨_, result⟩ <;> rw [result] <;>
    exact .of_eq rfl rfl

/-- A call on a module builder leaves what is declared or defined alone. -/
theorem keeps_call (wellFormed : b.WellFormed) (call : ModuleCall) : b.Keeps (call.run b).2 := by
  cases call with
  | functionName symbol => exact b.keeps_functionName symbol
  | declare symbol =>
      refine (b.keeps_functionName symbol).trans ?_
      rw [ModuleCall.run]
      rcases b.declare_cases symbol with ⟨_, result⟩ | ⟨_, result⟩ <;> rw [result]
      · exact ⟨List.prefix_append _ _, List.prefix_rfl⟩
      · exact .of_eq rfl rfl
  | global symbol => exact .of_eq rfl rfl
  | function symbol parameters calls finished =>
      have started := wellFormed.function symbol parameters
      have named : b.Keeps (b.function symbol parameters).module :=
        (b.keeps_functionName symbol).trans (.of_eq rfl rfl)
      have ran := named.trans (FunctionBuilder.extends_of_changes (started.run_changes calls)).keeps
      cases finished with
      | true => exact ran.trans (FunctionBuilder.keeps_finish _)
      | false => exact ran

/-- So does a run of calls. -/
theorem keeps_run (wellFormed : b.WellFormed) (calls : List ModuleCall) : b.Keeps (b.run calls).2 := by
  induction calls generalizing b with
  | nil => exact .of_eq rfl rfl
  | cons call rest ih => exact (keeps_call wellFormed call).trans (ih (wellFormed.call call))

/-- The functions that are defined are defined after a run of calls. -/
theorem functions_run (wellFormed : b.WellFormed) (calls : List ModuleCall)
    : b.functions ⊆ (b.run calls).2.functions :=
  (keeps_run wellFormed calls).functions.subset

/-- A well-formed builder makes modules that define nothing twice. -/
theorem WellFormed.definesOnce (wellFormed : b.WellFormed) : b.toModule.DefinesOnce := by
  have inSerials : ((b.toModule.definitions.map Prod.fst).map InstructionName.id).Sublist b.serials := by
    rw [List.map_map, Module.definitions, List.map_flatMap]
    refine .trans (List.Sublist.flatMap_right _ fun entry _ => ?_) (List.sublist_append_right _ _)
    exact List.sublist_append_right _ _
  exact .of_map InstructionName.id (wellFormed.numbered.of_sublist inSerials).nodup

/-- A module that was built is the one that has been put together. -/
theorem eq_of_build {m : Module} (built : b.build = .ok m) : m = b.toModule := by
  rw [build] at built
  cases valid : b.toModule.validate with
  | error e =>
      rw [valid] at built
      cases built
  | ok _ =>
      rw [valid] at built
      cases built
      rfl

end ModuleBuilder

/-- In a module that defines nothing twice, what a block defines is found under its name. -/
theorem Module.DefinesOnce.definition_eq {m : Module} (once : m.DefinesOnce) {f : FunctionName}
    {body : FunctionDef} (defined : (f, body) ∈ m.functions) {block : Block} (inBody : block ∈ body.blocks)
    {name : InstructionName} {d : Definition} (inBlock : (name, d) ∈ block.definitions)
    : (Graph.ofModule m).definition? name = some d := by
  have inModule : (name, d) ∈ m.definitions :=
    List.mem_flatMap.2 ⟨(f, body), defined, List.mem_flatMap.2 ⟨block, inBody, inBlock⟩⟩
  exact lookup_of_mem once.reverse (List.mem_reverse.2 inModule)

namespace ModuleBuilder

/-- A function that was finished, in a module that was built: there is one instruction for each call that
adds one, in the order of the calls. The calls that make blocks are cut into sections, in the only way there
is, and the blocks are what these ask for. What a call was answered when it added an instruction or an invoke
is defined by what it was given, a phi having the values that have come in to it.
-/
theorem finish_faithful (title : String) (earlier : List ModuleCall) (symbol : String)
    (parameters : List String) (calls : List FunctionCall) (later : List ModuleCall) {f : FunctionName}
    {m : Module}
    : let ran := (((new title).run earlier).2.function symbol parameters).run calls
      let values := incoming ran.1
      ran.2.finish.1 = .ok f
      → (ran.2.finish.2.run later).2.build = .ok m
      → ran.1.map Prod.fst = calls
        ∧ ∃ body parts,
            m.body? f = some body
            ∧ List.Forall₂ (Addition.Makes values) (additions ran.1) (body.blocks.flatMap Block.instrs)
            ∧ Sections ran.1 parts
            ∧ (∀ others, Sections ran.1 others → others = parts)
            ∧ List.Forall₂ (Section.Makes values) parts.zipIdx body.blocks
            ∧ (∀ i answer,
                (.add i, answer) ∈ ran.1
                → ∃ name,
                    answer = .operand (.instruction name)
                    ∧ (Graph.ofModule m).definition? name
                      = some (.instruction (i.opcode.withIncoming (values name))))
            ∧ ∀ callee args ty answer,
                (.terminate (.invoke callee args ty), answer) ∈ ran.1
                → ∃ name,
                    answer = .operand (.instruction name)
                    ∧ (Graph.ofModule m).definition? name
                      = some
                          (.terminator
                            (.invoke ⟨.operand callee, args.map Prod.fst, args.map Prod.snd⟩)) := by
  intro ran values finished built
  have before := ((wellFormed_new title).run earlier).1
  have started := before.function symbol parameters
  have after := (started.of_changes (started.run_changes calls)).finish
  have last := (after.run later).1
  obtain rfl := eq_of_build built
  obtain ⟨parts, cut, makes⟩ := FunctionBuilder.finish_sections _ before symbol parameters calls
  have instrs := cut.instrs makes
  have defined : (f, (ran.2.close .other .void).body) ∈ (ran.2.finish.2.run later).2.functions :=
    functions_run after later (FunctionBuilder.mem_functions_of_finish finished)
  have once := (List.nodup_append.1 last.once).2.1
  refine ⟨FunctionBuilder.map_fst_run _ calls, (ran.2.close .other .void).body, parts,
    lookup_of_mem once defined, instrs, cut, fun _ => cut.unique, makes, ?_, ?_⟩
  · intro i answer asked
    have added : (i, answer) ∈ additions ran.1 := List.mem_filterMap.2 ⟨_, asked, rfl⟩
    obtain ⟨made, inBlocks, makesIt⟩ := exists_of_pairs instrs added
    obtain ⟨block, inBody, inBlock⟩ := List.mem_flatMap.1 inBlocks
    refine ⟨made.name, makesIt.answer, ?_⟩
    rw [← makesIt.opcode]
    exact last.definesOnce.definition_eq defined inBody
      (List.mem_append_left _ (List.mem_map.2 ⟨made, inBlock, rfl⟩))
  · intro callee args ty answer asked
    obtain ⟨block, inBody, isAnswer, opcode⟩ := cut.ending makes asked
    refine ⟨block.terminator.name, isAnswer, last.definesOnce.definition_eq defined inBody ?_⟩
    refine List.mem_append_right _ (List.mem_singleton.2 ?_)
    rw [opcode]
    rfl

/-- Calls that build a loop: its phi takes a value that is added later, in the next block, and the return
behind the invoke stands in a block of its own.
-/
def loopCalls : List FunctionCall :=
  let f : FunctionName := ⟨0, "f"⟩
  let start : Operand := .parameter ⟨1, f, "start", 0⟩
  let phi : Operand := .instruction ⟨4, ⟨3, f, "bb0"⟩, 0⟩
  let next : Operand := .instruction ⟨7, ⟨6, f, "loop"⟩, 0⟩
  [ .functionRef "g",
    .add (.phi [start] .pointer),
    .block "loop",
    .add (.getElementPtr phi []),
    .addIncoming phi next,
    .addIncoming next phi,
    .terminate (.invoke (.function ⟨2, "g"⟩) [(next, .pointer)] .pointer),
    .terminate (.ret (some phi)) ]

/-- The phi of the loop has both values, and the invoke is what was asked for. -/
theorem finish_faithful_loop
    : let ran := (((new "loop").run [.global "table"]).2.function "f" ["start"]).run loopCalls
      let b := (ran.2.finish.2.run [.declare "g"]).2
      let f : FunctionName := ⟨0, "f"⟩
      let phi : InstructionName := ⟨4, ⟨3, f, "bb0"⟩, 0⟩
      let next : InstructionName := ⟨7, ⟨6, f, "loop"⟩, 0⟩
      let result : InstructionName := ⟨8, ⟨6, f, "loop"⟩, 1⟩
      let start : Operand := .parameter ⟨1, f, "start", 0⟩
      let g : Operand := .function ⟨2, "g"⟩
      ran.2.finish.1 = .ok f
      ∧ b.build = .ok b.toModule
      ∧ ran.1.map Prod.fst = loopCalls
      ∧ (Graph.ofModule b.toModule).definition? phi = some (.instruction (.phi [start, .instruction next]))
      ∧ (Graph.ofModule b.toModule).definition? result
        = some (.terminator (.invoke ⟨.operand g, [.instruction next], [.pointer]⟩)) := by
  intro ran b f phi next result start g
  have finished : ran.2.finish.1 = .ok f := by decide
  have built : b.build = .ok b.toModule := by decide
  obtain ⟨complete, _, _, _, _, _, _, _, added, invoked⟩ :=
    finish_faithful "loop" [.global "table"] "f" ["start"] loopCalls [.declare "g"] finished built
  refine ⟨finished, built, complete, ?_, ?_⟩
  · obtain ⟨name, same, found⟩ := added (.phi [start] .pointer) (.operand (.instruction phi)) (by decide)
    cases same
    have values : incoming ran.1 phi = [.instruction next] := by decide
    rw [values] at found
    exact found
  · obtain ⟨name, same, found⟩ :=
      invoked g [(.instruction next, .pointer)] .pointer (.operand (.instruction result)) (by decide)
    cases same
    exact found

end ModuleBuilder

end PointerOrigins
