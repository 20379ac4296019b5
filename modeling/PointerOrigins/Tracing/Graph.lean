import PointerOrigins.Tracing.CallSite

/-!
The value graph of a module: what a value is defined by, which casts stand in front of it, and which
values it may have come from in one step.
-/

namespace PointerOrigins

/-- A module, indexed for tracing. -/
structure Graph where
  module : Module
  /-- What the module defines, the latest definition of a name first. -/
  definitions : List (InstructionName × Definition)
  callGraph : CallGraph
deriving Repr, Inhabited

/-- The value graph of a module. -/
def Graph.ofModule (m : Module) : Graph :=
  ⟨m, m.definitions.reverse, .ofModule m⟩

/-- What one step back from a value leads to. -/
inductive Step where
  /-- The value comes from nowhere else. -/
  | origin
  /-- The value is one of these. -/
  | through (children : List Operand)
  /-- The value is one of these or comes from elsewhere. -/
  | partly (children : List Operand)
deriving DecidableEq, Repr, Inhabited

namespace Step

/-- The values that a step leads to. -/
def children : Step → List Operand
  | .origin => []
  | .through children => children
  | .partly children => children

/-- Whether the walk ends here, fully or in part. -/
def stops : Step → Bool
  | .origin => true
  | .through _ => false
  | .partly _ => true

end Step

/-- What is worth telling about a step. -/
inductive Notice where
  | callWithoutBody (target : FunctionName)
  | unresolvedCallee
  | noDefinition (name : InstructionName)
deriving DecidableEq, Repr, Inhabited

/-- The text of a notice. -/
def Notice.text : Notice → String
  | .callWithoutBody target => "Call to " ++ target.text ++ " without body"
  | .unresolvedCallee => "Unresolved callee"
  | .noDefinition name => "No definition for " ++ name.text

namespace Graph

/-- The operation that defines an instruction or terminator. -/
def definition? (g : Graph) (name : InstructionName) : Option Definition :=
  g.definitions.lookup name

/-- The body of the direct callee. -/
def calleeBody? (g : Graph) (callee : Callee) : Option FunctionDef :=
  callee.direct?.bind g.module.body?

----------------------------------------------------------------------------------------------
-- Casts
----------------------------------------------------------------------------------------------

/-- The value in front of a pointer cast. Data flow is not followed. -/
def strip? (g : Graph) : Operand → Option Operand
  | .constant c => c.inner?.map .constant
  | .instruction i =>
      match g.definition? i with
      | some (.instruction (.bitCast pointer)) => some pointer
      | some (.instruction (.addrSpaceCast pointer)) => some pointer
      | _ => none
  | .parameter _ => none
  | .metadata => none

/-- Strips at most so many casts. -/
def stripUpTo (g : Graph) : Nat → Operand → Operand
  | 0, value => value
  | bound + 1, value =>
      match g.strip? value with
      | some inner => g.stripUpTo bound inner
      | none => value

/-- The greatest number of casts that are looked through. -/
def maxLookThrough : Nat := 6

/-- The value behind the casts of an operand. -/
def canonicalize (g : Graph) (value : Operand) : Operand :=
  g.stripUpTo maxLookThrough value

----------------------------------------------------------------------------------------------
-- Steps
----------------------------------------------------------------------------------------------

/-- A call comes from what its callee returns, if the callee has a body. -/
def callStep (g : Graph) (callee : Callee) : Step :=
  match g.calleeBody? callee with
  | some body => .through body.returned
  | none => .origin

/-- A parameter comes from the arguments bound to it. It comes from elsewhere too if it has no call
site, or one that binds nothing to it.
-/
def parameterStep (g : Graph) (p : ParameterName) : Step :=
  let sites := g.callGraph.callSites p.function
  let args := sites.filterMap fun site => site.argument? p.position
  if !sites.isEmpty && sites.all (fun site => (site.argument? p.position).isSome) then
    .through args
  else if args.isEmpty then .origin
  else .partly args

/-- One step back from an instruction. -/
def opcodeStep (g : Graph) : Opcode → Step
  | .call c => g.callStep c.callee
  | .load pointer => .through [pointer]
  | .getElementPtr pointer _ => .through [pointer]
  | .extractValue aggregate => .through [aggregate]
  | .insertValue aggregate _ => .through [aggregate]
  | .intToPtr int => .through [int]
  | .phi values => .through values
  | .select _ whenTrue whenFalse => .through [whenTrue, whenFalse]
  | .alloca _ | .addrSpaceCast _ | .bitCast _ | .landingPad | .ptrToInt _ | .store _ _ | .other =>
      .origin

/-- One step back from what a definition defines. -/
def definitionStep (g : Graph) : Definition → Step
  | .instruction opcode => g.opcodeStep opcode
  | .terminator (.invoke c) => g.callStep c.callee
  | .terminator (.ret _) | .terminator .other => .origin

/-- One step back from a value that stands behind no cast. -/
def step (g : Graph) : Operand → Step
  | .instruction i =>
      match g.definition? i with
      | some d => g.definitionStep d
      | none => .origin
  | .parameter p => g.parameterStep p
  | .constant _ => .origin
  | .metadata => .origin

/-- What is told about the step back from a value. -/
def notice? (g : Graph) : Operand → Option Notice
  | .instruction i =>
      match g.definition? i with
      | none => some (.noDefinition i)
      | some d =>
          d.call?.bind fun c =>
            if (g.calleeBody? c.callee).isSome then none
            else
              match c.callee.direct? with
              | some target => some (.callWithoutBody target)
              | none => some .unresolvedCallee
  | _ => none

----------------------------------------------------------------------------------------------
-- Stored operands
----------------------------------------------------------------------------------------------

/-- All operands that a graph holds: those of definitions, those bound at call sites, and those
that functions return. Every step leads into this list.
-/
def operands (g : Graph) : List Operand :=
  g.definitions.flatMap (fun entry => entry.2.operands) ++
    (g.callGraph.sites.flatMap (fun entry => entry.2.flatMap fun site => site.bound.filterMap id) ++
      g.module.functions.flatMap fun entry => entry.2.returned)

/-- A list that is looked up by key holds what is found in it. -/
theorem mem_of_lookup {α β : Type} [BEq α] [LawfulBEq α] {key : α} {value : β} {entries : List (α × β)}
    (found : entries.lookup key = some value)
    : (key, value) ∈ entries := by
  obtain ⟨before, after, rfl, _⟩ := List.lookup_eq_some_iff.1 found
  exact List.mem_append_right _ List.mem_cons_self

/-- What a call leads to is returned by a function of the module. -/
theorem callStep_children_mem {g : Graph} {callee : Callee} {child : Operand}
    (member : child ∈ (g.callStep callee).children)
    : child ∈ g.operands := by
  rw [callStep] at member
  split at member
  · next body found =>
      obtain ⟨f, _, inModule⟩ := Option.bind_eq_some_iff.1 found
      exact List.mem_append_right _ (List.mem_append_right _
        (List.mem_flatMap.2 ⟨_, mem_of_lookup inModule, member⟩))
  · exact absurd member List.not_mem_nil

/-- An argument bound to a parameter is bound at a call site. -/
theorem argument_mem {g : Graph} {f : FunctionName} {position : Nat} {arg : Operand}
    (member : arg ∈ (g.callGraph.callSites f).filterMap fun site => site.argument? position)
    : arg ∈ g.operands := by
  obtain ⟨site, ofTarget, bound⟩ := List.mem_filterMap.1 member
  rw [CallSite.argument?, Option.join_eq_some_iff] at bound
  have isBound : arg ∈ site.bound.filterMap id :=
    List.mem_filterMap.2 ⟨_, List.mem_of_getElem? bound, rfl⟩
  rw [CallGraph.callSites] at ofTarget
  cases found : g.callGraph.sites.lookup f with
  | none => rw [found] at ofTarget; exact absurd ofTarget List.not_mem_nil
  | some sites =>
      rw [found] at ofTarget
      exact List.mem_append_right _ (List.mem_append_left _
        (List.mem_flatMap.2 ⟨_, mem_of_lookup found, List.mem_flatMap.2 ⟨site, ofTarget, isBound⟩⟩))

/-- What a parameter leads to is bound at a call site. -/
theorem parameterStep_children_mem {g : Graph} {p : ParameterName} {child : Operand}
    (member : child ∈ (g.parameterStep p).children)
    : child ∈ g.operands := by
  rw [parameterStep] at member
  split at member
  · exact argument_mem member
  · split at member
    · exact absurd member List.not_mem_nil
    · exact argument_mem member

/-- What a definition leads to is one of its operands or returned by its callee. -/
theorem definitionStep_children_mem {g : Graph} {d : Definition} {child : Operand}
    (member : child ∈ (g.definitionStep d).children)
    : child ∈ d.operands ∨ child ∈ g.operands := by
  match d, member with
  | .instruction (.call _), member => exact .inr (callStep_children_mem member)
  | .terminator (.invoke _), member => exact .inr (callStep_children_mem member)
  | .instruction (.load _), member => exact .inl member
  | .instruction (.getElementPtr _ _), member =>
      exact .inl (List.mem_singleton.1 member ▸ List.mem_cons_self)
  | .instruction (.extractValue _), member => exact .inl member
  | .instruction (.insertValue _ _), member =>
      exact .inl (List.mem_singleton.1 member ▸ List.mem_cons_self)
  | .instruction (.intToPtr _), member => exact .inl member
  | .instruction (.phi _), member => exact .inl member
  | .instruction (.select _ _ _), member => exact .inl (List.mem_cons_of_mem _ member)

/-- Every value that a step leads to is stored in the graph. -/
theorem step_children_mem {g : Graph} {value child : Operand}
    (member : child ∈ (g.step value).children)
    : child ∈ g.operands := by
  match value, member with
  | .instruction i, member =>
      simp only [step] at member
      split at member
      · next d found =>
          rcases definitionStep_children_mem member with own | stored
          · exact List.mem_append_left _
              (List.mem_flatMap.2 ⟨_, mem_of_lookup found, own⟩)
          · exact stored
      · exact absurd member List.not_mem_nil
  | .parameter _, member => exact parameterStep_children_mem member

end Graph

end PointerOrigins
