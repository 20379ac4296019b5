import PointerOrigins.Classifier
import PointerOrigins.Proofs.TransferEquations

/-!
What the kind of an origin means. Kinds are told from definitions alone, while a walk ends by what bodies and
call sites the module has. At the origins of a trace the two agree: a call is an origin where it cannot be
entered, a parameter where it is not bound throughout, and of the other instructions only those that pass no
operand on. A cast is among them only where six casts were stripped in front of it.
-/

namespace PointerOrigins

----------------------------------------------------------------------------------------------
-- Stripped casts
----------------------------------------------------------------------------------------------

namespace Graph

/-- Stripping exactly so many casts leads from a value to another one. -/
inductive Strips (g : Graph) : Nat → Operand → Operand → Prop
  | done {value} : Strips g 0 value value
  | cast {count value inner root} (strips : g.strip? value = some inner)
    (rest : Strips g count inner root)
    : Strips g (count + 1) value root

variable {g : Graph} {value x : Operand}

/-- As many casts are stripped as the bound allows, or there is none left. -/
theorem stripUpTo_strips (g : Graph) (bound : Nat) (value : Operand)
    : ∃ count ≤ bound,
        g.Strips count value (g.stripUpTo bound value)
        ∧ (count < bound → g.strip? (g.stripUpTo bound value) = none) := by
  induction bound generalizing value with
  | zero => exact ⟨0, Nat.le_refl _, .done, fun less => absurd less (Nat.lt_irrefl _)⟩
  | succ bound ih =>
      rw [stripUpTo]
      cases strips : g.strip? value with
      | none => exact ⟨0, Nat.zero_le _, .done, fun _ => strips⟩
      | some inner =>
          obtain ⟨count, within, rest, ends⟩ := ih inner
          exact ⟨count + 1, Nat.succ_le_succ within, .cast strips rest,
            fun less => ends (Nat.lt_of_succ_lt_succ less)⟩

/-- Where a cast is left, six casts have been stripped. -/
theorem strips_of_cast {inner : Operand} (strips : g.strip? (g.canonicalize value) = some inner)
    : g.Strips 6 value (g.canonicalize value) := by
  obtain ⟨count, within, stripped, ends⟩ := g.stripUpTo_strips maxLookThrough value
  rcases Nat.lt_or_eq_of_le within with less | rfl
  · rw [canonicalize, ends less] at strips
    cases strips
  · exact stripped

/-- A walk from a value looks at an operand: at the value itself, or at what a step from something that can be
reached leads to.
-/
def LooksAt (g : Graph) (value operand : Operand) : Prop :=
  operand = value ∨ ∃ x, g.Reaches (g.canonicalize value) x ∧ operand ∈ (g.step x).children

/-- What can be reached stands behind the casts of an operand that the walk looks at. -/
theorem exists_looksAt (path : g.Reaches (g.canonicalize value) x)
    : ∃ operand, g.LooksAt value operand ∧ g.canonicalize operand = x := by
  rcases path.cases_tail with here | ⟨middle, before, child, isChild, root⟩
  · exact ⟨value, .inl rfl, here.symm⟩
  · exact ⟨child, .inr ⟨middle, before, isChild⟩, root⟩

----------------------------------------------------------------------------------------------
-- Where walks end
----------------------------------------------------------------------------------------------

/-- A value is the result of this call or invoke. -/
def IsCall (g : Graph) (value : Operand) (call : Call) : Prop :=
  (g.definitionOf? value).bind Definition.call? = some call

/-- A walk from a value ends at an instruction or terminator that passes nothing on: at one without a
definition, at one that yields no pointer, or at a cast behind six others.
-/
inductive DeadEnd (g : Graph) (value : Operand) : Operand → Prop
  | undefined {name} (missing : g.definition? name = none) : DeadEnd g value (.instruction name)
  | ptrToInt {name pointer} (found : g.definition? name = some (.instruction (.ptrToInt pointer)))
    : DeadEnd g value (.instruction name)
  | store {name stored pointer} (found : g.definition? name = some (.instruction (.store stored pointer)))
    : DeadEnd g value (.instruction name)
  | other {name} (found : g.definition? name = some (.instruction .other))
    : DeadEnd g value (.instruction name)
  | ret {name returned} (found : g.definition? name = some (.terminator (.ret returned)))
    : DeadEnd g value (.instruction name)
  | otherEnd {name} (found : g.definition? name = some (.terminator .other))
    : DeadEnd g value (.instruction name)
  | bitCast {name pointer operand} (found : g.definition? name = some (.instruction (.bitCast pointer)))
    (met : g.LooksAt value operand) (strips : g.Strips 6 operand (.instruction name))
    : DeadEnd g value (.instruction name)
  | addrSpaceCast {name pointer operand}
    (found : g.definition? name = some (.instruction (.addrSpaceCast pointer)))
    (met : g.LooksAt value operand) (strips : g.Strips 6 operand (.instruction name))
    : DeadEnd g value (.instruction name)

/-- A step from a call ends there if the callee has no body. -/
theorem calleeBody_of_stops {call : Call} (isCall : g.IsCall x call) (stops : (g.step x).stops = true)
    : g.calleeBody? call.callee = none := by
  obtain ⟨d, isDefined, calls⟩ := Option.bind_eq_some_iff.1 isCall
  cases called : g.calleeBody? call.callee with
  | none => rfl
  | some body =>
      have enters : g.calledBody? x = some body := by simp [calledBody?, isDefined, calls, called]
      rw [step_of_calledBody enters] at stops
      cases stops

/-- Where a step ends, no operand is passed on. -/
theorem followed_of_stops (stops : (g.step x).stops = true) : g.followed? x = none := by
  cases follows : g.followed? x with
  | none => rfl
  | some operands =>
      rw [step_of_followed follows] at stops
      cases stops

end Graph

----------------------------------------------------------------------------------------------
-- Kinds
----------------------------------------------------------------------------------------------

/-- The kinds of calls with a direct callee. -/
def OriginKind.isDirectCall : OriginKind → Bool
  | .allocator _ | .signature _ | .stdCall | .externalCall => true
  | _ => false

namespace Classifier

/-- How a value comes by its kind. -/
inductive Classified (g : Graph) : Operand → OriginKind → Prop
  | directCall {x call f kind} (isCall : g.IsCall x call) (direct : call.callee.direct? = some f)
    (isDirect : kind.isDirectCall = true)
    : Classified g x kind
  | unresolvedCall {x call} (isCall : g.IsCall x call) (indirect : call.callee.direct? = none)
    : Classified g x .unresolvedCall
  | parameter {p} : Classified g (.parameter p) .argument
  | alloca {x count} (isDefined : g.definitionOf? x = some (.instruction (.alloca count)))
    : Classified g x .stack
  | landingPad {x} (isDefined : g.definitionOf? x = some (.instruction .landingPad))
    : Classified g x .landingPad
  | undefined {name} (missing : g.definition? name = none) : Classified g (.instruction name) .instruction
  | defined {name d} (found : g.definition? name = some d) (noCall : d.call? = none)
    (noAlloca : ∀ count, d ≠ .instruction (.alloca count)) (noLandingPad : d ≠ .instruction .landingPad)
    : Classified g (.instruction name) .instruction
  | constant {value} : Classified g (.constant value) (constant value)
  | metadata : Classified g .metadata .constant

variable (c : Classifier) {g : Graph} {value x : Operand}

/-- A function is of one of the kinds for direct callees. -/
theorem isDirectCall_symbol (symbol : String) : (c.symbol symbol).isDirectCall = true := by
  rw [Classifier.symbol]
  split
  · rfl
  · split
    · rfl
    · split <;> rfl

/-- The kind of a call tells whether it has a direct callee. -/
theorem call_cases (callee : Callee)
    : ((c.call callee).isDirectCall = true ∧ ∃ f, callee.direct? = some f)
      ∨ (c.call callee = .unresolvedCall ∧ callee.direct? = none) := by
  rw [Classifier.call]
  split
  · next f direct => exact .inl ⟨c.isDirectCall_symbol f.symbol, f, direct⟩
  · next indirect => exact .inr ⟨rfl, indirect⟩

/-- Calls are classified by their callees. -/
theorem classified_call {call : Call} (isCall : g.IsCall x call)
    : Classified g x (c.call call.callee) := by
  rcases c.call_cases call.callee with ⟨isDirect, f, direct⟩ | ⟨unresolved, indirect⟩
  · exact .directCall isCall direct isDirect
  · rw [unresolved]
    exact .unresolvedCall isCall indirect

/-- Every value comes by its kind in one of these ways. -/
theorem classified (g : Graph) (x : Operand) : Classified g x (c.classify g x) := by
  rcases x with value | (p | name) | _
  · exact .constant
  · exact .parameter
  · rw [classify]
    cases found : g.definition? name with
    | none => exact .undefined found
    | some d =>
        rcases d with opcode | opcode <;> cases opcode
        case instruction.alloca => exact .alloca found
        case instruction.landingPad => exact .landingPad found
        case instruction.call => exact c.classified_call (Option.bind_eq_some_iff.2 ⟨_, found, rfl⟩)
        case terminator.invoke => exact c.classified_call (Option.bind_eq_some_iff.2 ⟨_, found, rfl⟩)
        all_goals exact .defined found rfl (by simp) (by simp)
  · exact .metadata

/-- An origin of a kind for direct callees is a call whose callee has no body. -/
theorem external_of_origin (stops : (g.step x).stops = true) (isDirect : (c.classify g x).isDirectCall = true)
    : ∃ call f,
        g.IsCall x call ∧ call.callee.direct? = some f ∧ ∀ body, (f, body) ∉ g.module.functions := by
  have view := c.classified g x
  generalize c.classify g x = kind at view isDirect
  cases view with
  | @directCall _ call f _ isCall direct _ =>
      have noBody := Graph.calleeBody_of_stops isCall stops
      rw [Graph.calleeBody?, direct] at noBody
      refine ⟨call, f, isCall, direct, fun body defined => ?_⟩
      simpa using List.lookup_eq_none_iff.1 noBody _ defined
  | @constant value => cases value <;> cases isDirect
  | _ => cases isDirect

/-- What is classified as an unresolved call is a call without a direct callee. -/
theorem indirect_of_classify (isKind : c.classify g x = .unresolvedCall)
    : ∃ call, g.IsCall x call ∧ call.callee.direct? = none := by
  have view := c.classified g x
  generalize c.classify g x = kind at view isKind
  cases view with
  | directCall _ _ isDirect =>
      subst isKind
      cases isDirect
  | unresolvedCall isCall indirect => exact ⟨_, isCall, indirect⟩
  | @constant value => cases value <;> cases isKind
  | _ => cases isKind

/-- What is classified as an argument is a parameter. -/
theorem parameter_of_classify (isKind : c.classify g x = .argument) : ∃ p, x = .parameter p := by
  have view := c.classified g x
  generalize c.classify g x = kind at view isKind
  cases view with
  | directCall _ _ isDirect =>
      subst isKind
      cases isDirect
  | @parameter p => exact ⟨p, rfl⟩
  | @constant value => cases value <;> cases isKind
  | _ => cases isKind

/-- An origin that is classified as an instruction is a dead end of the walk. Witness: the walk ends at none
that passes an operand on, and at a cast only if no more of them are stripped.
-/
theorem deadEnd_of_origin (path : g.Reaches (g.canonicalize value) x) (stops : (g.step x).stops = true)
    (isKind : c.classify g x = .instruction)
    : g.DeadEnd value x := by
  have stripped : ∀ inner, g.strip? x = some inner
      → ∃ operand, g.LooksAt value operand ∧ g.Strips 6 operand x := by
    intro inner strips
    obtain ⟨operand, met, rfl⟩ := Graph.exists_looksAt path
    exact ⟨operand, met, Graph.strips_of_cast strips⟩
  have passesNothing := Graph.followed_of_stops stops
  have view := c.classified g x
  generalize c.classify g x = kind at view isKind
  cases view with
  | directCall _ _ isDirect =>
      subst isKind
      cases isDirect
  | @constant value => cases value <;> cases isKind
  | undefined missing => exact .undefined missing
  | @defined name d found noCall noAlloca noLandingPad =>
      have keeps : d.followed? = none := by
        simpa [Graph.followed?, show g.definitionOf? (.instruction name) = some d from found] using passesNothing
      rcases d with opcode | opcode <;> cases opcode
      case instruction.ptrToInt => exact .ptrToInt found
      case instruction.store => exact .store found
      case instruction.other => exact .other found
      case terminator.ret => exact .ret found
      case terminator.other => exact .otherEnd found
      case instruction.bitCast pointer =>
          obtain ⟨operand, met, strips⟩ := stripped pointer (by simp [Graph.strip?, found])
          exact .bitCast found met strips
      case instruction.addrSpaceCast pointer =>
          obtain ⟨operand, met, strips⟩ := stripped pointer (by simp [Graph.strip?, found])
          exact .addrSpaceCast found met strips
      case instruction.alloca count => exact absurd rfl (noAlloca count)
      case instruction.landingPad => exact absurd rfl noLandingPad
      case instruction.call => cases noCall
      case terminator.invoke => cases noCall
      all_goals cases keeps
  | _ => cases isKind

/-- What the kinds of the origins of a value mean. One of the kinds for direct callees: a call or invoke, with a
direct callee that has no body in the module. An unresolved call: a call or invoke without a direct callee. An
argument: a parameter of a function that has no call site, or one that leaves the parameter unbound. An
instruction: a dead end, and none that passes operands on.
-/
theorem classify_of_origin (m : Module) (value : Operand)
    : let g := Graph.ofModule m
      ∀ o ∈ (g.trace value).origins,
        ((c.classify g o).isDirectCall = true
          → ∃ call f,
              g.IsCall o call ∧ call.callee.direct? = some f ∧ ∀ body, (f, body) ∉ m.functions)
        ∧ (c.classify g o = .unresolvedCall → ∃ call, g.IsCall o call ∧ call.callee.direct? = none)
        ∧ (c.classify g o = .argument
            → ∃ p,
                o = .parameter p
                ∧ (g.callGraph.callSites p.function = []
                  ∨ ∃ site ∈ g.callGraph.callSites p.function, site.argument? p.position = none))
        ∧ (c.classify g o = .instruction → g.DeadEnd value o ∧ g.followed? o = none) := by
  intro g o isOrigin
  obtain ⟨path, stops⟩ := Graph.mem_origins_iff.1 isOrigin
  refine ⟨c.external_of_origin stops, c.indirect_of_classify, ?_, ?_⟩
  · intro isArgument
    obtain ⟨p, rfl⟩ := c.parameter_of_classify isArgument
    exact ⟨p, rfl, (g.parameterStep_stops_iff p).1 stops⟩
  · intro isInstruction
    exact ⟨c.deadEnd_of_origin path stops isInstruction, Graph.followed_of_stops stops⟩

end Classifier

/-- The instructions of a chain of casts. -/
def castName (index : Nat) : InstructionName :=
  ⟨index, ⟨8, ⟨9, "main"⟩, "entry"⟩, index⟩

/-- A module with a stack slot behind seven casts. -/
def castChain : Module :=
  let slot : Instruction := ⟨castName 0, .alloca (.int 32 1), .pointer⟩
  let casts := (List.range 7).map fun index =>
    ⟨castName (index + 1), .bitCast (.instruction (castName index)), .pointer⟩
  { name := "cast chain"
    decls := []
    functions :=
      [ ((castName 0).block.function,
          ⟨[], [⟨(castName 0).block, slot :: casts, ⟨⟨10, (castName 0).block, 8⟩, .ret none, .void⟩⟩]⟩) ]
    globals := [] }

/-- A walk from the last cast ends at the first one, six casts behind it, and not at the stack slot. -/
theorem Classifier.classify_of_origin_castChain
    : let g := Graph.ofModule castChain
      let last : Operand := .instruction (castName 7)
      let first : Operand := .instruction (castName 1)
      first ∈ (g.trace last).origins
      ∧ ∀ c : Classifier,
          c.classify g first = .instruction ∧ g.DeadEnd last first ∧ g.followed? first = none := by
  intro g last first
  have isOrigin : first ∈ (g.trace last).origins := by
    have root : g.canonicalize last = first := by decide
    exact Graph.mem_origins_iff.2 ⟨root ▸ .refl, by decide⟩
  refine ⟨isOrigin, fun c => ?_⟩
  have found : g.definition? (castName 1) = some (.instruction (.bitCast (.instruction (castName 0)))) := by
    decide
  have kind : c.classify g first = .instruction := by
    simp only [classify, first, found, definition]
  exact ⟨kind, (c.classify_of_origin castChain last first isOrigin).2.2.2 kind⟩

end PointerOrigins
