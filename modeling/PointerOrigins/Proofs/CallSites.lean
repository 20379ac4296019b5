import Mathlib.Data.List.Induction
import PointerOrigins.Tracing.Graph

/-!
What the call sites of a module bind to parameters, read off the calls of the module without regard
to the index of sites: a call binds its own arguments at its target, and a call of a broker binds
some of them at the callback.
-/

namespace PointerOrigins

----------------------------------------------------------------------------------------------
-- Functions in symbol order
----------------------------------------------------------------------------------------------

/-- Sorting keeps the functions of a module. -/
theorem Module.sortedFunctions_perm (m : Module) : m.sortedFunctions.Perm m.functions :=
  List.mergeSort_perm m.functions symbolLe

----------------------------------------------------------------------------------------------
-- The index
----------------------------------------------------------------------------------------------

namespace CallGraph

/-- An index holds exactly these sites: at each function those that have it for their target, in this order.
Every function in the index has one entry, and at least one site there.
-/
structure Indexes (index : CallGraph) (sites : List (FunctionName × CallSite)) : Prop where
  callSites (f : FunctionName)
    : index.callSites f = sites.filterMap fun entry => if entry.1 = f then some entry.2 else none
  size : index.size = sites.length
  distinct : (index.sites.map Prod.fst).Nodup
  filled : ∀ entry ∈ index.sites, entry.2 ≠ []

variable {target : FunctionName} {site : CallSite} {index : List (FunctionName × List CallSite)}
  {sites : List (FunctionName × CallSite)}

/-- The sites at a function are those of its entry, which is looked for from the front. -/
theorem callSites_cons (g f : FunctionName) (own : List CallSite) (rest : List (FunctionName × List CallSite))
    : callSites ⟨(g, own) :: rest⟩ f = if f = g then own else callSites ⟨rest⟩ f := by
  rw [callSites, List.lookup_cons]
  by_cases same : f = g
  · simp [same]
  · simp [same, beq_eq_false_iff_ne.2 same, callSites]

/-- A site that is added is the last one at its target, and changes nothing elsewhere. -/
theorem callSites_push (index : List (FunctionName × List CallSite)) (f : FunctionName)
    : callSites ⟨push target site index⟩ f
      = callSites ⟨index⟩ f ++ if f = target then [site] else [] := by
  induction index with
  | nil => rw [push, callSites_cons]; rfl
  | cons entry rest ih =>
      obtain ⟨g, own⟩ := entry
      rw [push]
      split
      · next isTarget =>
          subst isTarget
          by_cases same : f = g <;> simp [callSites_cons, same]
      · next other =>
          by_cases same : f = g <;> simp [callSites_cons, same, other, ih]

/-- A site that is added is one more. -/
theorem size_push (index : List (FunctionName × List CallSite))
    : size ⟨push target site index⟩ = size ⟨index⟩ + 1 := by
  simp only [size]
  induction index with
  | nil => rfl
  | cons entry rest ih =>
      obtain ⟨g, sites⟩ := entry
      rw [push]
      split
      · simp only [List.foldr_cons, List.length_append, List.length_singleton]
        omega
      · simp only [List.foldr_cons, ih]
        omega

/-- A site that is added makes an entry for its target, unless there is one. -/
theorem targets_push (index : List (FunctionName × List CallSite))
    : (push target site index).map Prod.fst
      = if (index.map Prod.fst).contains target then index.map Prod.fst
        else index.map Prod.fst ++ [target] := by
  induction index with
  | nil => rfl
  | cons entry rest ih =>
      obtain ⟨g, own⟩ := entry
      rw [push]
      split
      · next isTarget => simp [isTarget]
      · next other =>
          rw [List.map_cons, ih, List.map_cons, List.contains_cons, beq_eq_false_iff_ne.2 (Ne.symm other),
            Bool.false_or]
          split <;> rfl

/-- A site that is added leaves no target without sites. -/
theorem filled_push (filled : ∀ entry ∈ index, entry.2 ≠ [])
    : ∀ entry ∈ push target site index, entry.2 ≠ [] := by
  induction index with
  | nil => simp [push]
  | cons entry rest ih =>
      obtain ⟨headFilled, restFilled⟩ := List.forall_mem_cons.1 filled
      rw [push]
      split
      · exact List.forall_mem_cons.2 ⟨by simp, restFilled⟩
      · exact List.forall_mem_cons.2 ⟨headFilled, ih restFilled⟩

/-- An index holds a site once it has been added. -/
theorem Indexes.push (holds : Indexes ⟨index⟩ sites)
    : Indexes ⟨push target site index⟩ (sites ++ [(target, site)]) where
  callSites f := by
    rw [callSites_push, holds.callSites, List.filterMap_append]
    by_cases same : f = target
    · simp [same]
    · simp [same, Ne.symm same]
  size := by rw [size_push, holds.size, List.length_append, List.length_singleton]
  distinct := by
    rw [targets_push]
    split
    · exact holds.distinct
    · next new => exact List.nodup_append.2 ⟨holds.distinct, List.pairwise_singleton _ _, by grind⟩
  filled := filled_push holds.filled

/-- The index of a module holds its sites. Witness: induction on the sites that have been added. -/
theorem indexes_ofModule (m : Module) : Indexes (ofModule m) m.callSites := by
  rw [ofModule]
  induction m.callSites using List.reverseRecOn with
  | nil => exact ⟨fun _ => rfl, rfl, List.nodup_nil, by simp⟩
  | append_singleton earlier entry ih =>
      rw [List.foldl_append]
      exact ih.push

/-- Modules with the same sites have the same index. -/
theorem ofModule_congr {m other : Module} (same : other.callSites = m.callSites)
    : ofModule other = ofModule m := by
  rw [ofModule, ofModule, same]

/-- An index without sites has no targets either. -/
theorem Indexes.isEmpty_iff {index : CallGraph} (holds : Indexes index sites)
    : index.isEmpty = true ↔ index.size = 0 := by
  obtain ⟨entries⟩ := index
  rw [isEmpty, List.isEmpty_iff, CallGraph.size]
  cases entries with
  | nil => simp
  | cons entry rest =>
      have some : 0 < entry.2.length := List.length_pos_iff.2 (holds.filled entry List.mem_cons_self)
      simp only [List.foldr_cons, reduceCtorEq, false_iff]
      omega

end CallGraph

namespace Module

----------------------------------------------------------------------------------------------
-- Sites of calls
----------------------------------------------------------------------------------------------

/-- A call or invoke stands in a body of the module. -/
def HasCall (m : Module) (name : InstructionName) (c : Call) : Prop :=
  ∃ entry ∈ m.functions, ∃ d, (name, d, c) ∈ entry.2.calls

/-- Some call site of a function in the module binds this to the parameter at a position; a site
that leaves the parameter unbound binds `none`. A function without a body has no call sites.
-/
inductive BindsAt (m : Module) (f : FunctionName) (position : Nat) : Option Operand → Prop
  | direct {name c body} (inModule : m.HasCall name c) (target : c.callee.direct? = some f)
    (defined : m.body? f = some body)
    : m.BindsAt f position
        (if position < body.parameters.length then c.args[position]? else none)
  | callback {name c target broker body} (inModule : m.HasCall name c)
    (called : c.callee.direct? = some target)
    (known : Broker.ofSymbol? target.symbol = some broker)
    (passed : callback? broker c = some f) (defined : m.body? f = some body)
    : m.BindsAt f position
        (if position < body.parameters.length then (broker.position? position).bind (c.args[·]?)
          else none)

variable {m : Module} {f : FunctionName} {site : CallSite}

/-- The sites of the index are those that the calls of the module make. -/
theorem mem_callSites_iff
    : site ∈ (CallGraph.ofModule m).callSites f
      ↔ ∃ name c, m.HasCall name c ∧ (f, site) ∈ m.sitesOfCall name c := by
  have inIndex : site ∈ (CallGraph.ofModule m).callSites f ↔ (f, site) ∈ m.callSites := by
    simp only [(CallGraph.indexes_ofModule m).callSites, List.mem_filterMap]
    constructor
    · rintro ⟨⟨target, other⟩, member, kept⟩
      split at kept
      · next same =>
          obtain rfl := Option.some.inj kept
          exact same ▸ member
      · cases kept
    · intro member
      exact ⟨(f, site), member, by simp⟩
  rw [inIndex]
  simp only [callSites, List.mem_flatMap, (m.sortedFunctions_perm).mem_iff, HasCall]
  constructor
  · rintro ⟨entry, isDefined, ⟨name, d, c⟩, isCall, isSite⟩
    exact ⟨name, c, ⟨entry, isDefined, d, isCall⟩, isSite⟩
  · rintro ⟨name, c, ⟨entry, isDefined, d, isCall⟩, isSite⟩
    exact ⟨entry, isDefined, (name, d, c), isCall, isSite⟩

/-- A call makes a site at its target, if this is defined, and a broker one at the callback. -/
theorem mem_sitesOfCall_iff {name : InstructionName} {c : Call}
    : (f, site) ∈ m.sitesOfCall name c
      ↔ ∃ target,
          c.callee.direct? = some target
          ∧ (m.directSite? name c target = some (f, site)
            ∨ m.callbackSite? name c target = some (f, site)) := by
  rw [sitesOfCall]
  cases c.callee.direct? with
  | none => simp
  | some target => simp

/-- The sites that a call makes depend on the module only by the numbers of parameters in it. -/
theorem sitesOfCall_congr {other : Module} (arity : ∀ f, other.arity? f = m.arity? f)
    (name : InstructionName) (c : Call)
    : other.sitesOfCall name c = m.sitesOfCall name c := by
  simp only [sitesOfCall, directSite?, callbackSite?, arity]

/-- What a list with one entry per parameter binds at a position. -/
theorem argument_of_range {name : InstructionName} {broker : Option Broker} {count position : Nat}
    {bound : Nat → Option Operand}
    : (CallSite.mk name broker ((List.range count).map bound)).argument? position
      = if position < count then bound position else none := by
  rw [CallSite.argument?, List.getElem?_map]
  by_cases inRange : position < count <;> simp [inRange]

/-- What call sites bind, read off the calls of the module, is what the index says. Witness: each
way of binding belongs to one of the two kinds of sites that a call makes.
-/
theorem bindsAt_iff {position : Nat} {bound : Option Operand}
    : m.BindsAt f position bound
      ↔ ∃ site ∈ (CallGraph.ofModule m).callSites f, site.argument? position = bound := by
  constructor
  · intro binds
    cases binds with
    | @direct name c body inModule target defined =>
        refine ⟨⟨name, none, (List.range body.parameters.length).map (c.args[·]?)⟩, ?_,
          argument_of_range⟩
        refine mem_callSites_iff.2 ⟨name, c, inModule, mem_sitesOfCall_iff.2 ⟨f, target, .inl ?_⟩⟩
        simp [directSite?, arity?, defined]
    | @callback name c target broker body inModule called known passed defined =>
        refine ⟨⟨name, some broker, broker.bind c.args body.parameters.length⟩, ?_,
          argument_of_range⟩
        refine mem_callSites_iff.2
          ⟨name, c, inModule, mem_sitesOfCall_iff.2 ⟨target, called, .inr ?_⟩⟩
        simp [callbackSite?, known, passed, arity?, defined]
  · rintro ⟨site, isSite, rfl⟩
    obtain ⟨name, c, inModule, made⟩ := mem_callSites_iff.1 isSite
    obtain ⟨target, called, direct | callback⟩ := mem_sitesOfCall_iff.1 made
    · simp only [directSite?, arity?, Option.map_eq_some_iff, Prod.mk.injEq] at direct
      obtain ⟨_, ⟨body, defined, rfl⟩, rfl, rfl⟩ := direct
      rw [argument_of_range]
      exact .direct inModule called defined
    · simp only [callbackSite?, arity?, Option.bind_eq_bind, Option.bind_eq_some_iff,
        Option.map_eq_some_iff, Option.pure_def, Option.some.injEq, Prod.mk.injEq] at callback
      obtain ⟨broker, known, _, passed, _, ⟨body, defined, rfl⟩, rfl, rfl⟩ := callback
      rw [Broker.bind, argument_of_range]
      exact .callback inModule called known passed defined

end Module

end PointerOrigins
