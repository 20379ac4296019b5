import Mathlib.Algebra.BigOperators.Group.Finset.Basic
import PointerOrigins.Proofs.ProgramOrder

/-!
The index of call sites is exact. For a function with a body, it lists what a walk over the calls of the
module makes there, in the order of the walk: a call makes a site at its own target, and after it one
at the callback that it passes to a broker.
-/

namespace PointerOrigins

----------------------------------------------------------------------------------------------
-- Functions behind casts
----------------------------------------------------------------------------------------------

/-- A constant is a function behind some number of pointer casts. -/
inductive Constant.Peels : Constant → FunctionName → Prop
  | function {f} : Peels (.function f) f
  | bitCast {c f} (inner : Peels c f) : Peels (.bitCast c) f
  | addrSpaceCast {c f} (inner : Peels c f) : Peels (.addrSpaceCast c) f

/-- An operand is a constant of this kind. -/
def Operand.Peels (value : Operand) (f : FunctionName) : Prop :=
  ∃ c, value = .constant c ∧ c.Peels f

/-- A callee is an operand of this kind. -/
def Callee.Peels (callee : Callee) (f : FunctionName) : Prop :=
  ∃ value, callee = .operand value ∧ value.Peels f

/-- The function that a constant refers to is the one behind its casts. -/
theorem Constant.peels_iff {c : Constant} {f : FunctionName}
    : c.Peels f ↔ c.function? = some f := by
  constructor
  · intro peels
    induction peels with
    | function => rfl
    | bitCast _ ih => exact ih
    | addrSpaceCast _ ih => exact ih
  · intro refers
    fun_induction Constant.function? c with
    | case1 g =>
        obtain rfl := Option.some.inj refers
        exact .function
    | case2 c ih => exact .bitCast (ih refers)
    | case3 c ih => exact .addrSpaceCast (ih refers)
    | case4 => cases refers

/-- The direct target of a callee is the function behind its casts. -/
theorem Callee.peels_iff {callee : Callee} {f : FunctionName}
    : callee.Peels f ↔ callee.direct? = some f := by
  simp only [Callee.Peels, Operand.Peels, Constant.peels_iff]
  rcases callee with (c | name | _) | _ <;> simp [Callee.direct?]

/-- A broker is known by its name. -/
theorem Broker.ofSymbol_eq_some_iff {symbol : String} {broker : Broker}
    : Broker.ofSymbol? symbol = some broker ↔ broker ∈ Broker.all ∧ symbol = broker.name := by
  constructor
  · intro known
    have named : broker.name = symbol := by simpa using List.find?_some known
    exact ⟨List.mem_of_find?_eq_some known, named.symm⟩
  · rintro ⟨member, rfl⟩
    simp only [Broker.all, List.mem_cons, List.not_mem_nil, or_false] at member
    rcases member with rfl | rfl | rfl <;> decide

----------------------------------------------------------------------------------------------
-- What one call makes
----------------------------------------------------------------------------------------------

namespace PlacedCall

/-- A call of a broker passes a function to it as the callback. -/
structure PassesTo (p : PlacedCall) (broker : Broker) (f : FunctionName) : Prop where
  known : broker ∈ Broker.all
  called : ∃ target, p.call.callee.Peels target ∧ target.symbol = broker.name
  passed : ∃ arg, p.call.args[broker.callee]? = some arg ∧ arg.Peels f

/-- The site of a call at its own target: each parameter is bound to the argument at its position, if
there is one.
-/
structure IsDirectSite (p : PlacedCall) (count : Nat) (site : CallSite) : Prop where
  instruction : site.instruction = p.name
  noBroker : site.broker = none
  length : site.bound.length = count
  bound : ∀ parameter < count, site.argument? parameter = p.call.args[parameter]?

/-- The site of a call at a callback: the first parameters are bound to the arguments that the broker
names for them, and later ones to the variadic arguments in order. A parameter is left unbound where the
broker names no argument, or the call does not pass it.
-/
structure IsCallbackSite (p : PlacedCall) (broker : Broker) (count : Nat) (site : CallSite)
    : Prop where
  instruction : site.instruction = p.name
  byBroker : site.broker = some broker
  length : site.bound.length = count
  named
    : ∀ parameter < count,
        ∀ position?,
          broker.params[parameter]? = some position?
          → site.argument? parameter = position?.bind (p.call.args[·]?)
  variadic
    : ∀ parameter < count,
        broker.params.length ≤ parameter
        → site.argument? parameter
          = broker.variadic.bind fun first =>
              p.call.args[first + parameter - broker.params.length]?

/-- The sites of a call at a function, as a direct one. -/
inductive DirectSites (p : PlacedCall) (f : FunctionName) (count : Nat) : List CallSite → Prop
  | made {site} (target : p.call.callee.Peels f) (isSite : p.IsDirectSite count site)
    : DirectSites p f count [site]
  | none (noTarget : ¬ p.call.callee.Peels f) : DirectSites p f count []

/-- The sites of a call at a function, as one of a broker. -/
inductive CallbackSites (p : PlacedCall) (f : FunctionName) (count : Nat) : List CallSite → Prop
  | made {broker site} (passes : p.PassesTo broker f)
    (isSite : p.IsCallbackSite broker count site)
    : CallbackSites p f count [site]
  | none (notPassed : ∀ broker, ¬ p.PassesTo broker f) : CallbackSites p f count []

/-- The sites that calls make at a function with so many parameters, in the order of the calls. -/
inductive SitesOf (f : FunctionName) (count : Nat) : List PlacedCall → List CallSite → Prop
  | nil : SitesOf f count [] []
  | cons {p calls direct callback others} (asDirect : p.DirectSites f count direct)
    (asCallback : p.CallbackSites f count callback) (later : SitesOf f count calls others)
    : SitesOf f count (p :: calls) (direct ++ callback ++ others)

----------------------------------------------------------------------------------------------
-- What one call makes, computed
----------------------------------------------------------------------------------------------

variable {p : PlacedCall} {f : FunctionName} {broker : Broker} {count : Nat} {site : CallSite}
  {sites : List CallSite}

/-- The broker that a call calls, with the function passed to it. -/
def callback? (p : PlacedCall) : Option (Broker × FunctionName) := do
  let target ← p.call.callee.direct?
  let broker ← Broker.ofSymbol? target.symbol
  let f ← Module.callback? broker p.call
  return (broker, f)

/-- The site that a call makes at its target. -/
def directSite (p : PlacedCall) (count : Nat) : CallSite :=
  ⟨p.name, none, (List.range count).map (p.call.args[·]?)⟩

/-- The site that a call makes at a callback. -/
def callbackSite (p : PlacedCall) (broker : Broker) (count : Nat) : CallSite :=
  ⟨p.name, some broker, broker.bind p.call.args count⟩

/-- The sites at a function that a call makes as a direct one. -/
def directSitesAt (p : PlacedCall) (f : FunctionName) (count : Nat) : List CallSite :=
  if p.call.callee.direct? = some f then [p.directSite count] else []

/-- The sites at a function that a call makes as one of a broker. -/
def callbackSitesAt (p : PlacedCall) (f : FunctionName) (count : Nat) : List CallSite :=
  match p.callback? with
  | some (broker, target) => if target = f then [p.callbackSite broker count] else []
  | none => []

/-- The sites that a call makes at a function with so many parameters. -/
def sitesAt (p : PlacedCall) (f : FunctionName) (count : Nat) : List CallSite :=
  p.directSitesAt f count ++ p.callbackSitesAt f count

/-- What is bound to so many parameters is known from what is bound to each. -/
theorem bound_eq_iff {bound : Nat → Option Operand}
    : site.bound = (List.range count).map bound
      ↔ site.bound.length = count
        ∧ ∀ parameter < count, site.argument? parameter = bound parameter := by
  constructor
  · intro same
    refine ⟨by simp [same], fun parameter inRange => ?_⟩
    simp [CallSite.argument?, same, inRange]
  · rintro ⟨length, same⟩
    refine List.ext_getElem (by simp [length]) fun parameter inSite _ => ?_
    simpa [CallSite.argument?, inSite] using same parameter (length ▸ inSite)

/-- There is one site of a call at its target. -/
theorem isDirectSite_iff : p.IsDirectSite count site ↔ site = p.directSite count := by
  constructor
  · rintro ⟨instruction, noBroker, length, bound⟩
    have same := bound_eq_iff.2 ⟨length, bound⟩
    rcases site with ⟨_, _, _⟩
    simp_all [directSite]
  · rintro rfl
    obtain ⟨length, bound⟩ := bound_eq_iff.1 (Eq.refl (p.directSite count).bound)
    exact ⟨rfl, rfl, length, bound⟩

/-- There is one site of a call at a callback. Witness: a broker lists a position for the parameter, or
the parameter is one of the later ones.
-/
theorem isCallbackSite_iff
    : p.IsCallbackSite broker count site ↔ site = p.callbackSite broker count := by
  have later : ∀ parameter, broker.params.length ≤ parameter
      → (broker.position? parameter).bind (p.call.args[·]?)
        = broker.variadic.bind fun first =>
            p.call.args[first + parameter - broker.params.length]? := by
    intro parameter isLater
    rw [Broker.position?, List.getElem?_eq_none_iff.2 isLater]
    cases broker.variadic with
    | none => rfl
    | some first => simp [Nat.add_sub_assoc isLater]
  constructor
  · rintro ⟨instruction, byBroker, length, named, variadic⟩
    have same : site.bound = broker.bind p.call.args count := by
      refine bound_eq_iff.2 ⟨length, fun parameter inRange => ?_⟩
      by_cases isLater : broker.params.length ≤ parameter
      · rw [variadic parameter inRange isLater, later parameter isLater]
      · have listed := List.getElem?_eq_getElem (Nat.lt_of_not_le isLater)
        rw [named parameter inRange _ listed, Broker.position?, listed]
    rcases site with ⟨_, _, _⟩
    simp_all [callbackSite]
  · rintro rfl
    obtain ⟨length, bound⟩ := bound_eq_iff.1 (Eq.refl (p.callbackSite broker count).bound)
    refine ⟨rfl, rfl, length, ?_, ?_⟩
    · intro parameter inRange position? listed
      rw [bound parameter inRange, Broker.position?, listed]
    · intro parameter inRange isLater
      rw [bound parameter inRange, later parameter isLater]

/-- The function passed to a broker is the callback of the call. -/
theorem passesTo_iff : p.PassesTo broker f ↔ p.callback? = some (broker, f) := by
  have passed : (∃ arg, p.call.args[broker.callee]? = some arg ∧ arg.Peels f)
      ↔ Module.callback? broker p.call = some f := by
    simp only [Operand.Peels, Constant.peels_iff, Module.callback?]
    rcases p.call.args[broker.callee]? with _ | (c | name | _) <;> simp
  simp only [callback?, Option.bind_eq_bind, Option.bind_eq_some_iff, Option.pure_def,
    Option.some.injEq, Prod.mk.injEq, Broker.ofSymbol_eq_some_iff]
  constructor
  · rintro ⟨known, ⟨target, called, symbol⟩, isPassed⟩
    exact ⟨target, Callee.peels_iff.1 called, broker, ⟨known, symbol⟩, f, passed.1 isPassed,
      rfl, rfl⟩
  · rintro ⟨target, called, _, ⟨known, symbol⟩, _, isPassed, rfl, rfl⟩
    exact ⟨known, ⟨target, Callee.peels_iff.2 called, symbol⟩, passed.2 isPassed⟩

/-- The direct sites of a call, computed. -/
theorem directSites_iff : p.DirectSites f count sites ↔ sites = p.directSitesAt f count := by
  rw [directSitesAt]
  constructor
  · intro makes
    cases makes with
    | made target isSite => rw [if_pos (Callee.peels_iff.1 target), isDirectSite_iff.1 isSite]
    | none noTarget => rw [if_neg fun target => noTarget (Callee.peels_iff.2 target)]
  · rintro rfl
    split
    · next target => exact .made (Callee.peels_iff.2 target) (isDirectSite_iff.2 rfl)
    · next noTarget => exact .none fun target => noTarget (Callee.peels_iff.1 target)

/-- The callback sites of a call, computed. -/
theorem callbackSites_iff : p.CallbackSites f count sites ↔ sites = p.callbackSitesAt f count := by
  constructor
  · intro makes
    cases makes with
    | made passes isSite =>
        simp [callbackSitesAt, passesTo_iff.1 passes, isCallbackSite_iff.1 isSite]
    | none notPassed =>
        rw [callbackSitesAt]
        split
        · next broker target passes =>
            rw [if_neg]
            rintro rfl
            exact notPassed broker (passesTo_iff.2 passes)
        · rfl
  · rintro rfl
    rw [callbackSitesAt]
    split
    · next broker target passes =>
        split
        · next same =>
            subst same
            exact .made (passesTo_iff.2 passes) (isCallbackSite_iff.2 rfl)
        · next other =>
            refine .none fun another passesOther => other ?_
            have same := passes.symm.trans (passesTo_iff.1 passesOther)
            exact congrArg Prod.snd (Option.some.inj same)
    · next noCallback =>
        refine .none fun broker passes => ?_
        exact absurd (passesTo_iff.1 passes) (by simp [noCallback])

/-- The sites of several calls, computed. -/
theorem sitesOf_iff {calls : List PlacedCall}
    : SitesOf f count calls sites ↔ sites = calls.flatMap fun p => p.sitesAt f count := by
  induction calls generalizing sites with
  | nil =>
      constructor
      · intro makes
        cases makes
        rfl
      · rintro rfl
        exact .nil
  | cons p calls ih =>
      constructor
      · intro makes
        cases makes with
        | cons asDirect asCallback later =>
            rw [directSites_iff.1 asDirect, callbackSites_iff.1 asCallback, ih.1 later]
            rfl
      · rintro rfl
        exact .cons (directSites_iff.2 rfl) (callbackSites_iff.2 rfl) (ih.2 rfl)

/-- Each site of a call has an entry for each parameter. -/
theorem length_bound_of_mem (member : site ∈ p.sitesAt f count) : site.bound.length = count := by
  rcases List.mem_append.1 member with direct | callback
  · rw [directSitesAt] at direct
    split at direct
    · exact (isDirectSite_iff.2 (List.mem_singleton.1 direct)).length
    · cases direct
  · rw [callbackSitesAt] at callback
    split at callback
    · split at callback
      · exact (isCallbackSite_iff.2 (List.mem_singleton.1 callback)).length
      · cases callback
    · cases callback

end PlacedCall

----------------------------------------------------------------------------------------------
-- What the index lists
----------------------------------------------------------------------------------------------

namespace Module

variable {m : Module} {f : FunctionName}

/-- The direct site of a call, if it is one at this function. -/
theorem directSite_at (m : Module) {p : PlacedCall} {target : FunctionName}
    (called : p.call.callee.direct? = some target) (f : FunctionName)
    : (m.directSite? p.name p.call target).toList.filterMap
          (fun entry => if entry.1 = f then some entry.2 else none)
      = (m.arity? f).elim [] (p.directSitesAt f) := by
  by_cases same : target = f
  · subst same
    cases arity : m.arity? target <;>
      simp [directSite?, arity, PlacedCall.directSitesAt, PlacedCall.directSite, called]
  · cases m.arity? target <;> cases m.arity? f <;>
      simp_all [directSite?, PlacedCall.directSitesAt]

/-- The callback site of a call, if it is one at this function. -/
theorem callbackSite_at (m : Module) {p : PlacedCall} {target : FunctionName}
    (called : p.call.callee.direct? = some target) (f : FunctionName)
    : (m.callbackSite? p.name p.call target).toList.filterMap
          (fun entry => if entry.1 = f then some entry.2 else none)
      = (m.arity? f).elim [] (p.callbackSitesAt f) := by
  have made : m.callbackSite? p.name p.call target
      = p.callback?.bind fun passed =>
          (m.arity? passed.2).map fun count => (passed.2, p.callbackSite passed.1 count) := by
    simp only [callbackSite?, PlacedCall.callback?, called, Option.bind_eq_bind, Option.bind_some,
      Option.bind_assoc, Option.pure_def, Option.map_eq_bind, PlacedCall.callbackSite]
    rfl
  rw [made]
  cases passes : p.callback? with
  | none => cases m.arity? f <;> simp [PlacedCall.callbackSitesAt, passes]
  | some passed =>
      by_cases same : passed.2 = f
      · subst same
        cases arity : m.arity? passed.2 <;> simp [PlacedCall.callbackSitesAt, passes, arity]
      · cases arity : m.arity? passed.2 <;> cases m.arity? f <;>
          simp_all [PlacedCall.callbackSitesAt]

/-- Of the sites that a call makes, those at one function. Functions without a body have no parameters
to bind, and get no sites.
-/
theorem sitesOfCall_at (m : Module) (p : PlacedCall) (f : FunctionName)
    : (m.sitesOfCall p.name p.call).filterMap
          (fun entry => if entry.1 = f then some entry.2 else none)
      = (m.arity? f).elim [] (p.sitesAt f) := by
  cases called : p.call.callee.direct? with
  | none =>
      cases m.arity? f <;>
        simp [sitesOfCall, PlacedCall.sitesAt, PlacedCall.directSitesAt,
          PlacedCall.callbackSitesAt, PlacedCall.callback?, called]
  | some target =>
      simp only [sitesOfCall, called, List.filterMap_append, m.directSite_at called f,
        m.callbackSite_at called f]
      cases m.arity? f <;> rfl

/-- The sites at a function, in the order of a walk over the module. -/
theorem callSites_eq (m : Module) (f : FunctionName)
    : (CallGraph.ofModule m).callSites f
      = (m.arity? f).elim [] fun count =>
          (m.sortedFunctions.flatMap fun entry => entry.2.placedCalls).flatMap
            fun p => p.sitesAt f count := by
  have walked : m.callSites
      = m.sortedFunctions.flatMap fun entry =>
          entry.2.placedCalls.flatMap fun p => m.sitesOfCall p.name p.call := by
    refine List.flatMap_congr fun entry _ => ?_
    rw [← FunctionDef.map_calls, List.flatMap_map]
    rfl
  simp only [(CallGraph.indexes_ofModule m).callSites, walked, List.filterMap_flatMap, sitesOfCall_at]
  cases m.arity? f with
  | none => simp
  | some count => simp [List.flatMap_assoc]

/-- The number of parameters of a function with a name of its own. -/
theorem arity_of_mem (unique : (m.functions.map Prod.fst).Nodup) {body : FunctionDef}
    (isDefined : (f, body) ∈ m.functions)
    : m.arity? f = some body.parameters.length := by
  rw [arity?, body?, lookup_of_mem unique isDefined, Option.map_some]

/-- A function that the module does not define has no number of parameters. -/
theorem arity_of_undefined (undefined : f ∉ m.functions.map Prod.fst) : m.arity? f = none := by
  rw [arity?, Option.map_eq_none_iff, body?, List.lookup_eq_none_iff]
  intro entry member
  have other : entry.1 ≠ f := fun same => undefined (same ▸ List.mem_map_of_mem member)
  simpa using other.symm

/-- Every site is one at a function of the module. -/
theorem target_mem {site : CallSite} (member : (f, site) ∈ m.callSites)
    : f ∈ m.functions.map Prod.fst := by
  by_contra undefined
  have listed : site ∈ (CallGraph.ofModule m).callSites f := by
    rw [(CallGraph.indexes_ofModule m).callSites]
    exact List.mem_filterMap.2 ⟨(f, site), member, by simp⟩
  rw [callSites_eq, arity_of_undefined undefined] at listed
  cases listed

/-- The sites are as many as there are at all functions of the module together. Witness: each site has
one target, and this is a function of the module.
-/
theorem size_eq_sum (m : Module)
    : (CallGraph.ofModule m).size
      = ∑ f ∈ (m.functions.map Prod.fst).toFinset,
          ((CallGraph.ofModule m).callSites f).length := by
  have counted : ∀ f, ((CallGraph.ofModule m).callSites f).length
      = Multiset.count f (m.callSites.map Prod.fst : List FunctionName) := by
    intro f
    rw [Multiset.coe_count, List.count_eq_countP, List.countP_map, (CallGraph.indexes_ofModule m).callSites,
      List.length_filterMap_eq_countP]
    refine List.countP_congr fun entry _ => ?_
    by_cases same : entry.1 = f <;> simp [same]
  simp only [counted]
  rw [Multiset.sum_count_eq_card, Multiset.coe_card, List.length_map]
  · exact (CallGraph.indexes_ofModule m).size
  · intro f isTarget
    obtain ⟨entry, member, rfl⟩ := List.mem_map.1 (Multiset.mem_coe.1 isTarget)
    exact List.mem_toFinset.2 (target_mem member)

end Module

/-- Where no two functions share a symbol, there is one order of walking them. At a function with a body,
the index lists what the calls of this walk make there, and each site has an entry for each parameter.
Other functions have no sites. The index is as large as there are sites, and empty only if there are none.
-/
theorem CallGraph.ofModule_exact (m : Module) (distinct : m.DistinctSymbols)
    : let index := CallGraph.ofModule m
      (∃ walked,
        (∀ other, m.InSymbolOrder other ↔ other = walked)
        ∧ ∀ f body,
            (f, body) ∈ m.functions
            → ∀ sites,
                PlacedCall.SitesOf f body.parameters.length
                  (walked.flatMap fun entry => entry.2.placedCalls) sites
                ↔ sites = index.callSites f)
      ∧ (∀ f body,
          (f, body) ∈ m.functions
          → ∀ site ∈ index.callSites f, site.bound.length = body.parameters.length)
      ∧ (∀ f, f ∉ m.functions.map Prod.fst → index.callSites f = [])
      ∧ index.size = ∑ f ∈ (m.functions.map Prod.fst).toFinset, (index.callSites f).length
      ∧ (index.isEmpty = true ↔ index.size = 0) := by
  intro index
  have sorted := m.sortedFunctions_inSymbolOrder
  refine ⟨⟨m.sortedFunctions, ?_, ?_⟩, ?_, ?_, m.size_eq_sum, (indexes_ofModule m).isEmpty_iff⟩
  · intro other
    constructor
    · exact fun order => order.unique distinct sorted
    · rintro rfl
      exact sorted
  · intro f body isDefined sites
    rw [PlacedCall.sitesOf_iff, m.callSites_eq, Module.arity_of_mem distinct.names isDefined]
    rfl
  · intro f body isDefined site isSite
    rw [m.callSites_eq, Module.arity_of_mem distinct.names isDefined] at isSite
    obtain ⟨p, _, made⟩ := List.mem_flatMap.1 isSite
    exact PlacedCall.length_bound_of_mem made
  · intro f undefined
    rw [m.callSites_eq, Module.arity_of_undefined undefined]
    rfl

/-- A module whose main function calls a function with one parameter, and then starts a thread with it.
-/
def startedTwice : Module :=
  let main : FunctionName := ⟨0, "main"⟩
  let worker : FunctionName := ⟨1, "worker"⟩
  let create : FunctionName := ⟨2, "pthread_create"⟩
  let entry : BlockName := ⟨3, main, "entry"⟩
  let body : BlockName := ⟨4, worker, "entry"⟩
  { name := "started twice"
    decls := [create]
    functions :=
      [ (worker, ⟨[⟨5, worker, "arg", 0⟩], [⟨body, [], ⟨⟨6, body, 0⟩, .ret none, .void⟩⟩]⟩),
        (main,
          ⟨[],
            [ { name := entry
                instrs :=
                  [ ⟨⟨7, entry, 0⟩,
                      .call ⟨.operand (.function worker), [.int 64 1], [.pointer]⟩, .void⟩ ]
                terminator :=
                  ⟨⟨8, entry, 1⟩,
                    .invoke
                      ⟨.operand (.constant (.bitCast (.function create))),
                        [.null, .null, .function worker, .int 64 2],
                        [.pointer, .pointer, .pointer, .pointer]⟩,
                    .int 32⟩ } ]⟩) ]
    globals := [] }

/-- The worker has a direct site and a callback site, in this order. -/
theorem CallGraph.ofModule_exact_startedTwice
    : startedTwice.DistinctSymbols
      ∧ ∃ walked,
          startedTwice.InSymbolOrder walked
          ∧ PlacedCall.SitesOf ⟨1, "worker"⟩ 1
              (walked.flatMap fun entry => entry.2.placedCalls)
              [ ⟨⟨7, ⟨3, ⟨0, "main"⟩, "entry"⟩, 0⟩, none, [some (.int 64 1)]⟩,
                ⟨⟨8, ⟨3, ⟨0, "main"⟩, "entry"⟩, 1⟩, some .pthreadCreate,
                  [some (.int 64 2)]⟩ ] := by
  have distinct : startedTwice.DistinctSymbols := by decide
  obtain ⟨⟨walked, order, sites⟩, _⟩ := CallGraph.ofModule_exact startedTwice distinct
  refine ⟨distinct, walked, (order walked).2 rfl, ?_⟩
  have sorted : startedTwice.sortedFunctions = startedTwice.functions.reverse :=
    startedTwice.sortedFunctions_inSymbolOrder.unique distinct ⟨List.reverse_perm _, by decide⟩
  refine (sites ⟨1, "worker"⟩ _ List.mem_cons_self _).2 ?_
  rw [startedTwice.callSites_eq, sorted]
  decide

end PointerOrigins
