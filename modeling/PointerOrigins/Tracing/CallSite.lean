import PointerOrigins.Ir.Module

/-!
Call sites: for every defined function, the calls that reach it, with the argument that each of
them binds to each parameter. Besides direct calls there are callbacks: calls of a broker, such as
the start of a thread, that will call one of its arguments. Other uses of a function's address make
no call site.
-/

namespace PointerOrigins

----------------------------------------------------------------------------------------------
-- Brokers
----------------------------------------------------------------------------------------------

/-- A function that calls one of its arguments. -/
structure Broker where
  name : String
  /-- The position of the callback among the arguments. -/
  callee : Nat
  /-- The argument bound to each of the callback's first parameters, if it is known. -/
  params : List (Option Nat)
  /-- Later parameters are bound to the arguments from this position on. -/
  variadic : Option Nat
deriving DecidableEq, Repr, Inhabited

namespace Broker

/-- Starts a thread. -/
def pthreadCreate : Broker :=
  ⟨"pthread_create", 2, [some 3], none⟩

/-- Starts a parallel region. The runtime supplies the two thread numbers that come first. -/
def kmpcForkCall : Broker :=
  ⟨"__kmpc_fork_call", 2, [none, none], some 3⟩

/-- Starts a league of teams, like a parallel region. -/
def kmpcForkTeams : Broker :=
  ⟨"__kmpc_fork_teams", 2, [none, none], some 3⟩

/-- All known brokers. -/
def all : List Broker :=
  [pthreadCreate, kmpcForkCall, kmpcForkTeams]

/-- The broker with a symbol. -/
def ofSymbol? (symbol : String) : Option Broker :=
  all.find? fun b => b.name == symbol

/-- The position of the argument that is bound to a parameter of the callback. -/
def position? (b : Broker) (parameter : Nat) : Option Nat :=
  match b.params[parameter]? with
  | some position => position
  | none => b.variadic.map fun first => first + (parameter - b.params.length)

/-- The arguments bound to the parameters of a callback with so many parameters. -/
def bind (b : Broker) (args : List Operand) (count : Nat) : List (Option Operand) :=
  (List.range count).map fun parameter => (b.position? parameter).bind (args[·]?)

end Broker

----------------------------------------------------------------------------------------------
-- Call sites
----------------------------------------------------------------------------------------------

/-- A call or invoke that reaches a function. -/
structure CallSite where
  instruction : InstructionName
  /-- Set for callbacks. -/
  broker : Option Broker
  /-- One entry per parameter of the target. -/
  bound : List (Option Operand)
deriving DecidableEq, Repr, Inhabited

/-- The argument bound to the parameter at a position. There is none if the call passes fewer
arguments, or if the broker does not say.
-/
def CallSite.argument? (s : CallSite) (position : Nat) : Option Operand :=
  s.bound[position]?.join

namespace Module

/-- The number of parameters of a defined function. -/
def arity? (m : Module) (f : FunctionName) : Option Nat :=
  (m.body? f).map fun body => body.parameters.length

/-- The site that a call makes at its own target. -/
def directSite? (m : Module) (name : InstructionName) (c : Call) (target : FunctionName)
    : Option (FunctionName × CallSite) :=
  (m.arity? target).map fun count =>
    (target, ⟨name, none, (List.range count).map (c.args[·]?)⟩)

/-- The constant function that a broker is given to call. -/
def callback? (b : Broker) (c : Call) : Option FunctionName :=
  match c.args[b.callee]? with
  | some (.constant k) => k.function?
  | _ => none

/-- The site that a call of a broker makes at the callback. -/
def callbackSite? (m : Module) (name : InstructionName) (c : Call) (target : FunctionName)
    : Option (FunctionName × CallSite) := do
  let broker ← Broker.ofSymbol? target.symbol
  let callback ← callback? broker c
  let count ← m.arity? callback
  return (callback, ⟨name, some broker, broker.bind c.args count⟩)

/-- The sites that one call makes: at its direct target, then at its callback. -/
def sitesOfCall (m : Module) (name : InstructionName) (c : Call) : List (FunctionName × CallSite) :=
  match c.callee.direct? with
  | some target => (m.directSite? name c target).toList ++ (m.callbackSite? name c target).toList
  | none => []

/-- The call sites of a module with their targets: functions in symbol order, blocks in order. -/
def callSites (m : Module) : List (FunctionName × CallSite) :=
  m.sortedFunctions.flatMap fun entry =>
    entry.2.calls.flatMap fun (name, _, c) => m.sitesOfCall name c

end Module

----------------------------------------------------------------------------------------------
-- Index
----------------------------------------------------------------------------------------------

/-- The call sites of a module by their targets. -/
structure CallGraph where
  sites : List (FunctionName × List CallSite)
deriving DecidableEq, Repr, Inhabited

namespace CallGraph

/-- Adds a site behind those of its target; the first one of a target makes an entry for it. -/
def push (target : FunctionName) (site : CallSite)
    : List (FunctionName × List CallSite) → List (FunctionName × List CallSite)
  | [] => [(target, [site])]
  | (f, sites) :: rest =>
      if f = target then (f, sites ++ [site]) :: rest else (f, sites) :: push target site rest

/-- The call sites of a module, added one after the other. -/
def ofModule (m : Module) : CallGraph :=
  ⟨m.callSites.foldl (fun sites entry => push entry.1 entry.2 sites) []⟩

/-- The sites that reach a function, in module order. -/
def callSites (g : CallGraph) (f : FunctionName) : List CallSite :=
  (g.sites.lookup f).getD []

/-- The number of call edges. -/
def size (g : CallGraph) : Nat :=
  g.sites.foldr (fun entry count => entry.2.length + count) 0

/-- Whether there is no call edge at all. -/
def isEmpty (g : CallGraph) : Bool :=
  g.sites.isEmpty

end CallGraph

end PointerOrigins
