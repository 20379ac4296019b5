import PointerOrigins.Proofs.CallOrInvoke
import PointerOrigins.Proofs.ReportExactness

/-!
Reports before and after a call becomes an invoke. They list the same functions, calls, arguments and
origins with the same numbers; only the word for that one instruction is another.
-/

namespace PointerOrigins

----------------------------------------------------------------------------------------------
-- Another word
----------------------------------------------------------------------------------------------

/-- A text and the one in its place: the same, or a call that is now written as an invoke. -/
inductive Reworded (name : InstructionName) (callee : Callee) : String → String → Prop
  | same (text : String) : Reworded name callee text text
  | invoke : Reworded name callee (callText name "call" callee) (callText name "invoke" callee)

/-- Reports on an origin that differ in the word for one instruction. -/
structure OriginReport.SameBut (name : InstructionName) (callee : Callee)
    (report other : OriginReport)
    : Prop where
  origin : Reworded name callee report.origin other.origin
  function : other.function = report.function
  kind : other.kind = report.kind

/-- Reports on an argument that differ in the word for one instruction. -/
structure ArgReport.SameBut (name : InstructionName) (callee : Callee) (report other : ArgReport)
    : Prop where
  position : other.position = report.position
  arg : other.arg = report.arg
  maxDepth : other.maxDepth = report.maxDepth
  indirections : other.indirections = report.indirections
  origins : List.Forall₂ (OriginReport.SameBut name callee) report.origins other.origins

/-- Reports on a call that differ in the word for one instruction. -/
structure CallReport.SameBut (name : InstructionName) (callee : Callee) (report other : CallReport)
    : Prop where
  instruction : Reworded name callee report.instruction other.instruction
  target : other.callee = report.callee
  args : List.Forall₂ (ArgReport.SameBut name callee) report.args other.args

/-- Reports on a function that differ in the word for one instruction. -/
structure FunctionReport.SameBut (name : InstructionName) (callee : Callee)
    (report other : FunctionReport)
    : Prop where
  function : other.name = report.name
  calls : List.Forall₂ (CallReport.SameBut name callee) report.calls other.calls

/-- Reports on a module that differ in the word for one instruction. -/
structure ModuleReport.SameBut (name : InstructionName) (callee : Callee)
    (report other : ModuleReport)
    : Prop where
  title : other.name = report.name
  functions : List.Forall₂ (FunctionReport.SameBut name callee) report.functions other.functions
  summary : other.summary = report.summary

----------------------------------------------------------------------------------------------
-- Numbers
----------------------------------------------------------------------------------------------

variable {name : InstructionName} {callee : Callee}

/-- An argument is unresolved in both reports or in neither. -/
theorem ArgReport.SameBut.isUnresolved_eq {report other : ArgReport}
    (same : report.SameBut name callee other)
    : other.isUnresolved = report.isUnresolved := by
  have kinds : other.origins.map OriginReport.allocating
      = report.origins.map OriginReport.allocating :=
    map_eq_of_pairs (fun pair => congrArg OriginKind.isAllocating pair.kind) same.origins
  have counts : ∀ a : ArgReport,
      a.nonAllocOrigins = (a.origins.map OriginReport.allocating).countP (!·) := by
    intro a
    rw [List.countP_map]
    rfl
  rw [isUnresolved, isUnresolved, counts, counts, kinds]

/-- Both reports cover the same arguments. -/
theorem FunctionReport.SameBut.args {report other : FunctionReport}
    (same : report.SameBut name callee other)
    : List.Forall₂ (ArgReport.SameBut name callee) report.args other.args :=
  List.rel_flatMap same.calls fun _ _ pair => pair.args

/-- The counts are the same. -/
theorem Summary.ofFunctions_eq {reports others : List FunctionReport}
    (pairs : List.Forall₂ (FunctionReport.SameBut name callee) reports others)
    : Summary.ofFunctions others = Summary.ofFunctions reports := by
  have calls := List.rel_flatMap pairs fun _ _ pair => pair.calls
  have args := List.rel_flatMap pairs fun _ _ pair => pair.args
  have unresolved := map_eq_of_pairs (fun pair => pair.isUnresolved_eq) args
  have indirections := map_eq_of_pairs (fun pair => pair.indirections) args
  have counts : ∀ reports : List ArgReport,
      reports.countP ArgReport.isUnresolved = (reports.map ArgReport.isUnresolved).countP id := by
    intro reports
    rw [List.countP_map]
    rfl
  have greatest : ∀ reports : List ArgReport,
      reports.foldl (fun most a => max most a.indirections) 0
        = (reports.map ArgReport.indirections).foldl max 0 := by
    intro reports
    rw [List.foldl_map]
  simp only [ofFunctions, counts, greatest, unresolved, indirections, pairs.length_eq,
    calls.length_eq, args.length_eq]

/-- Leaving out what is resolved leaves out the same calls and arguments in both reports. -/
theorem ModuleReport.onlyUnresolved_sameBut {reports others : List FunctionReport}
    (pairs : List.Forall₂ (FunctionReport.SameBut name callee) reports others)
    : List.Forall₂ (FunctionReport.SameBut name callee) (onlyUnresolved reports)
        (onlyUnresolved others) := by
  refine List.rel_filterMap ?_ pairs
  intro report other same
  have calls : List.Forall₂ (CallReport.SameBut name callee)
      (report.calls.filterMap fun c =>
        let args := c.args.filter ArgReport.isUnresolved
        if args.isEmpty then none else some { c with args })
      (other.calls.filterMap fun c =>
        let args := c.args.filter ArgReport.isUnresolved
        if args.isEmpty then none else some { c with args }) := by
    refine List.rel_filterMap ?_ same.calls
    intro call another alike
    have args : List.Forall₂ (ArgReport.SameBut name callee)
        (call.args.filter ArgReport.isUnresolved) (another.args.filter ArgReport.isUnresolved) :=
      List.rel_filter (fun _ _ pair => by simp only [pair.isUnresolved_eq]) alike.args
    simp only [isEmpty_eq_of_pairs args]
    split
    · exact .none
    · exact .some ⟨alike.instruction, alike.target, args⟩
  simp only [isEmpty_eq_of_pairs calls]
  split
  · exact .none
  · exact .some ⟨same.function, calls⟩

----------------------------------------------------------------------------------------------
-- Reports on modules that are alike
----------------------------------------------------------------------------------------------

/-- A listed call is written the same, but for the one that is an invoke now. -/
theorem Definition.CallsAlike.reworded {c : Call} {entry another : InstructionName × Definition × Call}
    (same : Definition.CallsAlike name c entry another)
    : Reworded name c.callee (callText entry.1 entry.2.1.mnemonic entry.2.2.callee)
        (callText another.1 another.2.1.mnemonic another.2.2.callee) := by
  obtain ⟨i, d, call⟩ := entry
  obtain ⟨j, e, anotherCall⟩ := another
  obtain ⟨definition, isCall, sameCall⟩ := same
  dsimp only at definition sameCall isCall
  subst sameCall
  cases definition with
  | same => exact .same _
  | invoke =>
      cases isCall
      exact .invoke

namespace Module.Alike

variable {c : Call} {m other : Module}

/-- An origin is written the same, but for the call that is an invoke now. -/
theorem originText_reworded (alike : m.Alike name c other) (origin : Operand)
    : Reworded name c.callee ((Graph.ofModule m).originText origin)
        ((Graph.ofModule other).originText origin) := by
  rcases origin with _ | (p | i) | _
  · exact .same _
  · exact .same _
  · simp only [Graph.originText, Operand.instruction?]
    rcases alike.definition i with ⟨missing, stillMissing⟩ | ⟨d, e, found, otherFound, same⟩
    · rw [missing, stillMissing]
      exact .same _
    · rw [found, otherFound]
      cases same with
      | same => exact .same _
      | invoke => exact .invoke
  · exact .same _

/-- A trace of an argument is reported the same, but for the word. -/
theorem reportArg_sameBut (alike : m.Alike name c other) (classifier : Classifier) (position : Nat)
    (arg : Operand)
    : (classifier.reportArg (Graph.ofModule m) position arg).SameBut name c.callee
        (classifier.reportArg (Graph.ofModule other) position arg) := by
  simp only [Classifier.reportArg, alike.trace_eq]
  refine ⟨rfl, rfl, rfl, rfl, ?_⟩
  refine List.forall₂_map_left_iff.2 (List.forall₂_map_right_iff.2 ?_)
  refine List.forall₂_same.2 fun origin _ => ⟨alike.originText_reworded origin, rfl, ?_⟩
  exact alike.classify_eq classifier origin

/-- A call is reported the same, but for the word. -/
theorem reportCall_sameBut (alike : m.Alike name c other) (classifier : Classifier)
    {entry another : InstructionName × Definition × Call}
    (same : Definition.CallsAlike name c entry another)
    : (classifier.reportCall (Graph.ofModule m) entry).SameBut name c.callee
        (classifier.reportCall (Graph.ofModule other) another) := by
  refine ⟨same.reworded, ?_, ?_⟩
  · simp only [Classifier.reportCall, same.call]
  · simp only [Classifier.reportCall, same.call]
    refine List.forall₂_map_left_iff.2 (List.forall₂_map_right_iff.2 ?_)
    exact List.forall₂_same.2 fun entry _ => alike.reportArg_sameBut classifier entry.1 entry.2

/-- A report on the module is the same, but for the word. -/
theorem reportModule_sameBut (alike : m.Alike name c other) (classifier : Classifier)
    (onlyUnresolved : Bool)
    : (classifier.reportModule m onlyUnresolved).SameBut name c.callee
        (classifier.reportModule other onlyUnresolved) := by
  have functions : List.Forall₂ (FunctionReport.SameBut name c.callee)
      (classifier.reportFunctions (Graph.ofModule m) m)
      (classifier.reportFunctions (Graph.ofModule other) other) := by
    refine List.rel_map ?_ alike.sortedFunctions
    intro entry another same
    refine ⟨congrArg FunctionName.symbol same.function, ?_⟩
    exact List.rel_map (fun _ _ calls => alike.reportCall_sameBut classifier calls) same.body.calls
  refine ⟨alike.title, ?_, Summary.ofFunctions_eq functions⟩
  cases onlyUnresolved with
  | false => exact functions
  | true => exact ModuleReport.onlyUnresolved_sameBut functions

end Module.Alike

----------------------------------------------------------------------------------------------
-- Where the word changes
----------------------------------------------------------------------------------------------

/-- The calls of a report as they are written, function by function. -/
def ModuleReport.callTexts (r : ModuleReport) : List (List String) :=
  r.functions.map fun f => f.calls.map CallReport.instruction

/-- The calls of a body as they are written. -/
def FunctionDef.callTexts (body : FunctionDef) : List String :=
  body.placedCalls.map fun p => callText p.name p.mnemonic p.call.callee

/-- A full report writes the calls as they stand in the functions, in symbol order. -/
theorem Classifier.callTexts_eq (classifier : Classifier) (m : Module)
    : (classifier.reportModule m false).callTexts
      = m.sortedFunctions.map fun entry => entry.2.callTexts := by
  simp only [ModuleReport.callTexts, reportModule, Bool.false_eq_true, if_false, List.map_map]
  refine List.map_congr_left fun entry _ => ?_
  rw [FunctionDef.callTexts, ← FunctionDef.map_calls, List.map_map]
  simp only [Function.comp, reportFunction, List.map_map]
  rfl

/-- In a body, one text changes from call to invoke, and the others are the same. -/
theorem FunctionDef.InvokesInstead.callTexts {c : Call} {body changed : FunctionDef}
    (changes : body.InvokesInstead name c changed)
    : ∃ before after,
        body.callTexts = before ++ callText name "call" c.callee :: after
        ∧ changed.callTexts = before ++ callText name "invoke" c.callee :: after := by
  obtain @⟨_, earlier, later, _, _, _, splits⟩ := changes
  obtain @⟨_, _, preceding, following, _, _, terminator⟩ := splits
  let text : PlacedCall → String := fun p => callText p.name p.mnemonic p.call.callee
  refine ⟨(earlier.flatMap Block.placedCalls
      ++ preceding.filterMap Instruction.placedCall?).map text,
    (following.filterMap Instruction.placedCall? ++ terminator.placedCall?.toList
      ++ later.flatMap Block.placedCalls).map text, ?_, ?_⟩
  · simp [FunctionDef.callTexts, FunctionDef.placedCalls, Block.placedCalls,
      Instruction.placedCall?, text]
  · simp [FunctionDef.callTexts, FunctionDef.placedCalls, Block.placedCalls,
      Terminator.placedCall?, text]

/-- Among the calls of a full report, one text changes from call to invoke, and the others are the same.
-/
theorem Module.InvokesInstead.callTexts {c : Call} {m other : Module}
    (changes : m.InvokesInstead name c other) (classifier : Classifier)
    : ∃ earlier before after later,
        (classifier.reportModule m false).callTexts
          = earlier ++ (before ++ callText name "call" c.callee :: after) :: later
        ∧ (classifier.reportModule other false).callTexts
          = earlier ++ (before ++ callText name "invoke" c.callee :: after) :: later := by
  obtain @⟨_, _, _, preceding, following, f, body, changed, inBody⟩ := changes
  obtain ⟨earlier, later, place, samePlace⟩ := sortedFunctions_at f body changed preceding following
  obtain ⟨before, after, calls, changedCalls⟩ := inBody.callTexts
  refine ⟨earlier.map fun entry => entry.2.callTexts, before, after,
    later.map fun entry => entry.2.callTexts, ?_, ?_⟩
  · rw [Classifier.callTexts_eq, sortedFunctions, place, List.map_append, List.map_cons, calls]
  · rw [Classifier.callTexts_eq, sortedFunctions, samePlace, List.map_append, List.map_cons,
      changedCalls]

----------------------------------------------------------------------------------------------
-- An invoke behaves like a call
----------------------------------------------------------------------------------------------

/-- Nothing tells two modules apart but the word for one instruction. -/
structure Module.SameBut (name : InstructionName) (c : Call) (m other : Module) : Prop where
  traces : ∀ value, (Graph.ofModule other).trace value = (Graph.ofModule m).trace value
  callSites
    : ∀ f, (CallGraph.ofModule other).callSites f = (CallGraph.ofModule m).callSites f
  checks : other.validate = .ok () ↔ m.validate = .ok ()
  kinds
    : ∀ (classifier : Classifier) value,
        classifier.classify (Graph.ofModule other) value
        = classifier.classify (Graph.ofModule m) value
  /-- Whether all arguments are listed or only the unresolved ones. -/
  reports
    : ∀ (classifier : Classifier) onlyUnresolved,
        (classifier.reportModule m onlyUnresolved).SameBut name c.callee
          (classifier.reportModule other onlyUnresolved)
  /-- The word changes at one place among the calls of a full report. -/
  callTexts
    : ∀ classifier : Classifier,
        ∃ earlier before after later,
          (classifier.reportModule m false).callTexts
            = earlier ++ (before ++ callText name "call" c.callee :: after) :: later
          ∧ (classifier.reportModule other false).callTexts
            = earlier ++ (before ++ callText name "invoke" c.callee :: after) :: later

/-- If a block is split at a call, and the call becomes the invoke that ends its first part, then all
traces, call sites and kinds stay as they are, the module passes its check as before, and reports differ
only in the word for that instruction.
-/
theorem Module.sameBut_of_invokesInstead {c : Call} {m other : Module}
    (changes : m.InvokesInstead name c other)
    : m.SameBut name c other := by
  have alike := changes.alike
  exact
    { traces := alike.trace_eq
      callSites := fun f => by rw [CallGraph.ofModule_congr alike.callSites_eq]
      checks := alike.validate_iff
      kinds := alike.classify_eq
      reports := alike.reportModule_sameBut
      callTexts := changes.callTexts }

/-- A module whose main function has some blocks, and with it a function that returns its parameter. -/
def withIdentity (blocks : List Block) : Module :=
  let main : FunctionName := ⟨0, "main"⟩
  let identity : FunctionName := ⟨1, "identity"⟩
  let body : BlockName := ⟨2, identity, "entry"⟩
  let arg : ParameterName := ⟨3, identity, "arg", 0⟩
  { name := "with identity"
    decls := []
    functions :=
      [ (main, ⟨[], blocks⟩),
        (identity, ⟨[arg], [⟨body, [], ⟨⟨4, body, 0⟩, .ret (some (.parameter arg)), .void⟩⟩]⟩) ]
    globals := [] }

/-- A slot on the stack is passed through the identity, then loaded and returned. The call in the middle
may be an invoke.
-/
theorem Module.sameBut_of_invokesInstead_withIdentity
    : let entry : BlockName := ⟨5, ⟨0, "main"⟩, "entry"⟩
      let slot : InstructionName := ⟨6, entry, 0⟩
      let passed : InstructionName := ⟨7, entry, 1⟩
      let loaded : InstructionName := ⟨8, entry, 2⟩
      let c : Call := ⟨.operand (.function ⟨1, "identity"⟩), [.instruction slot], [.pointer]⟩
      let allocates : Instruction := ⟨slot, .alloca (.int 64 1), .pointer⟩
      let loads : Instruction := ⟨loaded, .load (.instruction passed), .pointer⟩
      let returns : Terminator := ⟨⟨9, entry, 3⟩, .ret (some (.instruction loaded)), .void⟩
      let m := withIdentity [⟨entry, [allocates, ⟨passed, .call c, .pointer⟩, loads], returns⟩]
      let other :=
        withIdentity
          [ ⟨entry, [allocates], ⟨passed, .invoke c, .pointer⟩⟩,
            ⟨⟨10, ⟨0, "main"⟩, "rest"⟩, [loads], returns⟩ ]
      m.InvokesInstead passed c other ∧ m.SameBut passed c other := by
  intro entry slot passed loaded c allocates loads returns m other
  have splits : Block.SplitsAtCall passed c
      ⟨entry, [allocates] ++ ⟨passed, .call c, .pointer⟩ :: [loads], returns⟩
      ⟨entry, [allocates], ⟨passed, .invoke c, .pointer⟩⟩
      ⟨⟨10, ⟨0, "main"⟩, "rest"⟩, [loads], returns⟩ := .intro
  have inBody := @FunctionDef.InvokesInstead.intro passed c [] [] [] _ _ _ splits
  have changes : m.InvokesInstead passed c other :=
    @Module.InvokesInstead.intro passed c _ _ _ [] _ _ _ _ inBody
  exact ⟨changes, Module.sameBut_of_invokesInstead changes⟩

end PointerOrigins
