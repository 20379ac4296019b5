import PointerOrigins.Classifier

/-!
Reports on the pointers that a module passes to calls.

Every argument of pointer type of every call is traced afresh, and its origins are classified.
-/

namespace PointerOrigins

----------------------------------------------------------------------------------------------
-- Reports
----------------------------------------------------------------------------------------------

/-- An origin of an argument. -/
structure OriginReport where
  origin : String
  /-- The function that contains the origin, if it is a local value. -/
  function : Option String
  kind : OriginKind
deriving DecidableEq, Repr, Inhabited

/-- An argument of a call. -/
structure ArgReport where
  position : Nat
  arg : String
  maxDepth : Nat
  /-- The number of values looked at. -/
  indirections : Nat
  origins : List OriginReport
deriving DecidableEq, Repr, Inhabited

/-- A call. -/
structure CallReport where
  instruction : String
  /-- The symbol of the direct callee. -/
  callee : Option String
  args : List ArgReport
deriving DecidableEq, Repr, Inhabited

/-- The calls of a function. -/
structure FunctionReport where
  name : String
  calls : List CallReport
deriving DecidableEq, Repr, Inhabited

/-- Counts over a whole module. -/
structure Summary where
  functions : Nat
  calls : Nat
  pointerArgs : Nat
  /-- The number of arguments with an origin that does not allocate. -/
  unresolvedArgs : Nat
  /-- The greatest number of values that a single trace looked at. -/
  maxIndirections : Nat
deriving DecidableEq, Repr, Inhabited

/-- The functions of a module in the order of their symbols. -/
structure ModuleReport where
  name : String
  functions : List FunctionReport
  summary : Summary
deriving DecidableEq, Repr, Inhabited

/-- Whether an origin allocates. -/
def OriginReport.allocating (o : OriginReport) : Bool :=
  o.kind.isAllocating

namespace ArgReport

/-- The number of origins that do not allocate. -/
def nonAllocOrigins (a : ArgReport) : Nat :=
  a.origins.countP fun o => !o.allocating

/-- Whether some origin does not allocate. -/
def isUnresolved (a : ArgReport) : Bool :=
  0 < a.nonAllocOrigins

end ArgReport

----------------------------------------------------------------------------------------------
-- Making reports
----------------------------------------------------------------------------------------------

/-- A call as it is written. -/
def callText (name : InstructionName) (mnemonic : String) (callee : Callee) : String :=
  name.text ++ " = " ++ mnemonic ++ " " ++ callee.text

/-- An origin as it is written: with its operation, and for a call with its callee. -/
def Graph.originText (g : Graph) (origin : Operand) : String :=
  match origin.instruction? with
  | none => origin.text
  | some name =>
      match g.definition? name with
      | none => name.text
      | some d =>
          match d.call? with
          | some c => callText name d.mnemonic c.callee
          | none => name.text ++ " = " ++ d.mnemonic

/-- The report on an origin. -/
def Classifier.reportOrigin (c : Classifier) (g : Graph) (origin : Operand) : OriginReport :=
  ⟨g.originText origin, origin.function?.map FunctionName.symbol, c.classify g origin⟩

/-- The report on an argument. -/
def Classifier.reportArg (c : Classifier) (g : Graph) (position : Nat) (arg : Operand) : ArgReport :=
  let t := g.trace arg
  ⟨position, arg.text, t.maxDepth, t.visited.length, t.origins.map (c.reportOrigin g)⟩

/-- The report on a call. -/
def Classifier.reportCall (c : Classifier) (g : Graph)
    (entry : InstructionName × Definition × Call) : CallReport :=
  let (name, d, call) := entry
  ⟨callText name d.mnemonic call.callee, call.callee.direct?.map FunctionName.symbol,
    call.pointerArgs.map fun (position, arg) => c.reportArg g position arg⟩

/-- The report on a function: its calls in block order. -/
def Classifier.reportFunction (c : Classifier) (g : Graph) (name : FunctionName) (f : FunctionDef)
    : FunctionReport :=
  ⟨name.symbol, f.calls.map (c.reportCall g)⟩

/-- The arguments that a function report covers. -/
def FunctionReport.args (f : FunctionReport) : List ArgReport :=
  f.calls.flatMap CallReport.args

/-- The counts over function reports. -/
def Summary.ofFunctions (functions : List FunctionReport) : Summary :=
  let args := functions.flatMap FunctionReport.args
  { functions := functions.length
    calls := (functions.flatMap FunctionReport.calls).length
    pointerArgs := args.length
    unresolvedArgs := args.countP ArgReport.isUnresolved
    maxIndirections := args.foldl (fun most a => max most a.indirections) 0 }

/-- Keeps the arguments with an origin that does not allocate, and what holds any of them. -/
def ModuleReport.onlyUnresolved (functions : List FunctionReport) : List FunctionReport :=
  functions.filterMap fun f =>
    let calls := f.calls.filterMap fun c =>
      let args := c.args.filter ArgReport.isUnresolved
      if args.isEmpty then none else some { c with args }
    if calls.isEmpty then none else some { f with calls }

/-- The report on a module. The counts cover all arguments, also where only those with an unresolved
origin are listed.
-/
def Classifier.reportModule (c : Classifier) (m : Module) (onlyUnresolved : Bool) : ModuleReport :=
  let g := Graph.ofModule m
  let functions := m.sortedFunctions.map fun (name, f) => c.reportFunction g name f
  { name := m.name
    functions := if onlyUnresolved then ModuleReport.onlyUnresolved functions else functions
    summary := .ofFunctions functions }

----------------------------------------------------------------------------------------------
-- Text
----------------------------------------------------------------------------------------------

/-- The line of an origin. -/
def OriginReport.line (o : OriginReport) : String :=
  match o.function with
  | some function => "      " ++ o.origin ++ " (in " ++ function ++ ") [" ++ o.kind.text ++ "]"
  | none => "      " ++ o.origin ++ " [" ++ o.kind.text ++ "]"

/-- The lines of an argument. -/
def ArgReport.lines (a : ArgReport) : List String :=
  ("    arg " ++ toString a.position ++ " (" ++ a.arg ++ "): max depth " ++ toString a.maxDepth ++
    ", indirections " ++ toString a.indirections ++ ", non-allocating origins " ++
    toString a.nonAllocOrigins) :: a.origins.map OriginReport.line

/-- The lines of a call. -/
def CallReport.lines (c : CallReport) : List String :=
  ("  " ++ c.instruction) :: c.args.flatMap ArgReport.lines

/-- The lines of a function. -/
def FunctionReport.lines (f : FunctionReport) : List String :=
  f.name :: f.calls.flatMap CallReport.lines

/-- The lines of the counts. -/
def Summary.lines (s : Summary) : List String :=
  [ "functions: " ++ toString s.functions,
    "calls: " ++ toString s.calls,
    "pointer arguments: " ++ toString s.pointerArgs,
    "unresolved arguments: " ++ toString s.unresolvedArgs,
    "max indirections: " ++ toString s.maxIndirections ]

/-- The text of a report. Each line ends in a newline. -/
def ModuleReport.text (r : ModuleReport) : String :=
  let lines := ("module: " ++ r.name) :: r.functions.flatMap FunctionReport.lines ++ "" :: r.summary.lines
  String.join (lines.map (· ++ "\n"))

end PointerOrigins
