import PointerOrigins.Report

/-!
What an analysis tells while it runs.

Events are worked out from the results: each value that is looked at for the first time may have
something to tell, and reports are made within named spans.
-/

namespace PointerOrigins

/-- A stretch of work. -/
inductive Span where
  | analysis
  | function
  | argument
deriving DecidableEq, Repr, Inhabited

/-- The name of a span. -/
def Span.name : Span → String
  | .analysis => "analysis"
  | .function => "function"
  | .argument => "argument"

/-- Something that is told. -/
inductive Event where
  | enter (span : Span)
  | exit (span : Span)
  | debug (text : String)
  | info (text : String)
deriving DecidableEq, Repr, Inhabited

/-- The events of a stretch of work. -/
def Span.around (span : Span) (events : List Event) : List Event :=
  .enter span :: events ++ [.exit span]

namespace Graph

/-- The events of looking at values, given the latest first. -/
def visitEvents (g : Graph) (visited : List Operand) : List Event :=
  (g.notices visited).map fun notice => .debug notice.text

/-- The events of a trace that starts afresh. -/
def traceEvents (g : Graph) (value : Operand) : List Event :=
  g.visitEvents (g.trace value).visited

/-- The events of a report on an argument. -/
def argEvents (g : Graph) (arg : Operand) : List Event :=
  Span.argument.around (g.traceEvents arg)

/-- The events of a report on a function. -/
def functionEvents (g : Graph) (f : FunctionDef) : List Event :=
  Span.function.around <|
    f.calls.flatMap fun (_, _, call) => call.pointerArgs.flatMap fun (_, arg) => g.argEvents arg

end Graph

/-- The last word of an analysis. -/
def Summary.event (s : Summary) : Event :=
  .info ("Traced " ++ toString s.pointerArgs ++ " arguments of " ++ toString s.calls ++ " calls, " ++
    toString s.unresolvedArgs ++ " unresolved")

/-- The events of a report on a module. -/
def Classifier.moduleEvents (c : Classifier) (m : Module) : List Event :=
  let g := Graph.ofModule m
  Span.analysis.around <|
    (m.sortedFunctions.flatMap fun (_, f) => g.functionEvents f) ++
      [(c.reportModule m false).summary.event]

end PointerOrigins
