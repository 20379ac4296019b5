import Mathlib.Data.List.Perm.Subperm
import PointerOrigins.Proofs.CallSiteIndex
import PointerOrigins.Proofs.UsedValues

/-!
Traces in a larger module. More functions make calls transparent that ended before, and bind more
arguments to parameters, so that a trace sees more. What it saw before it still sees. An origin is lost
only where a call gets a body to enter, or a parameter its first call site. This holds as long as names keep
what they stand for: it fails where an instruction is defined twice and the larger module enumerates its
definitions in another order.
-/

namespace PointerOrigins

----------------------------------------------------------------------------------------------
-- Larger modules
----------------------------------------------------------------------------------------------

namespace Module

/-- A module without the functions that another one does not define. -/
def restrictedTo (larger m : Module) : Module :=
  { larger with functions := larger.functions.filter fun entry => (m.body? entry.1).isSome }

/-- A module has all functions of another one, unchanged, in whatever order it enumerates them. It may define
more functions, under names that the other one does not define, with locals that occur in no function of
the other one.
-/
structure Extends (larger m : Module) : Prop where
  unchanged : (larger.restrictedTo m).functions.Perm m.functions
  fresh
    : ∀ added ∈ larger.functions,
        m.body? added.1 = none
        → ∀ old ∈ m.functions, ∀ name ∈ added.2.locals, name ∉ old.2.locals

variable {m larger : Module} {f : FunctionName} {name : InstructionName}

/-- Looking up a name passes over the functions with other names. -/
theorem lookup_filter {functions : List (FunctionName × FunctionDef)}
    {kept : FunctionName × FunctionDef → Bool}
    (keeps : ∀ entry ∈ functions, entry.1 = f → kept entry = true)
    : (functions.filter kept).lookup f = functions.lookup f := by
  induction functions with
  | nil => rfl
  | cons head rest ih =>
      have restKeeps := ih fun entry member => keeps entry (List.mem_cons_of_mem _ member)
      by_cases same : head.1 = f
      · rw [List.filter_cons_of_pos (keeps head List.mem_cons_self same), List.lookup_cons,
          List.lookup_cons, restKeeps]
      · have other : (f == head.1) = false := by simpa using Ne.symm same
        by_cases isKept : kept head = true
        · rw [List.filter_cons_of_pos isKept, List.lookup_cons, List.lookup_cons, restKeeps]
        · rw [List.filter_cons_of_neg isKept, List.lookup_cons, other, restKeeps]

/-- Looking up a definition passes over the functions that do not define it. -/
theorem lookup_definitions_filter {functions : List (FunctionName × FunctionDef)}
    {kept : FunctionName × FunctionDef → Bool}
    (keeps
      : ∀ entry ∈ functions, ∀ d, (name, d) ∈ entry.2.definitions → kept entry = true)
    : ((functions.filter kept).flatMap fun entry => entry.2.definitions).reverse.lookup name
      = (functions.flatMap fun entry => entry.2.definitions).reverse.lookup name := by
  induction functions with
  | nil => rfl
  | cons head rest ih =>
      have restKeeps := ih fun entry member => keeps entry (List.mem_cons_of_mem _ member)
      by_cases isKept : kept head = true
      · simp only [List.filter_cons_of_pos isKept, List.flatMap_cons, List.reverse_append,
          List.lookup_append, restKeeps]
      · have elsewhere : head.2.definitions.reverse.lookup name = none := by
          rw [List.lookup_eq_none_iff]
          rintro ⟨other, d⟩ member
          have different : name ≠ other := by
            rintro rfl
            exact isKept (keeps head List.mem_cons_self d (List.mem_reverse.1 member))
          simpa using different
        simp only [List.filter_cons_of_neg isKept, List.flatMap_cons, List.reverse_append,
          List.lookup_append, restKeeps, elsewhere, Option.or_none]

/-- What a body defines is a local of it. -/
theorem mem_locals_of_definition {body : FunctionDef} {d : Definition}
    (inBody : (name, d) ∈ body.definitions)
    : LocalName.instruction name ∈ body.locals :=
  List.mem_append_right _ (List.mem_map.2 ⟨(name, d), inBody, rfl⟩)

/-- What traces see of a module is there in another one, too: bodies, definitions, and call sites with possibly
others between them.
-/
structure Keeps (larger m : Module) : Prop where
  body : ∀ {f body}, m.body? f = some body → larger.body? f = some body
  definition
    : ∀ {name d},
        (Graph.ofModule m).definition? name = some d
        → (Graph.ofModule larger).definition? name = some d
  callSites
    : ∀ f,
        ((CallGraph.ofModule m).callSites f).Subperm ((CallGraph.ofModule larger).callSites f)

namespace Extends

variable (grows : larger.Extends m)

include grows

/-- A larger module lists the functions of the smaller one, with others between them. -/
theorem sortedFunctions : m.sortedFunctions.Subperm larger.sortedFunctions := by
  have kept : (larger.restrictedTo m).functions.Subperm larger.functions :=
    List.filter_sublist.subperm
  have old : m.sortedFunctions.Perm (larger.restrictedTo m).functions :=
    m.sortedFunctions_perm.trans grows.unchanged.symm
  exact old.subperm.trans (kept.trans larger.sortedFunctions_perm.symm.subperm)

variable
  (order
    : (larger.restrictedTo m).functions = m.functions ∨ m.DistinctNames ∧ m.DefinesOnce)

include order

/-- A larger module has the bodies of the smaller one. -/
theorem body {body : FunctionDef} (defined : m.body? f = some body)
    : larger.body? f = some body := by
  have keeps : (larger.restrictedTo m).body? f = larger.body? f := by
    refine lookup_filter fun entry _ same => ?_
    simp [same, defined]
  have unchanged : (larger.restrictedTo m).body? f = m.body? f := by
    rcases order with listed | ⟨names, _⟩
    · rw [body?, body?, listed]
    · exact names.body_eq grows.unchanged f
  rw [← keeps, unchanged, defined]

/-- A larger module has the definitions of the smaller one. Witness: the functions that are passed over
define other instructions.
-/
theorem definition {d : Definition} (defined : (Graph.ofModule m).definition? name = some d)
    : (Graph.ofModule larger).definition? name = some d := by
  obtain ⟨old, isOld, inOld⟩ :=
    List.mem_flatMap.1 (List.mem_reverse.1 (Graph.mem_of_lookup defined))
  have keeps : (Graph.ofModule (larger.restrictedTo m)).definition? name
      = (Graph.ofModule larger).definition? name := by
    refine lookup_definitions_filter fun entry isDefined other inBody => ?_
    by_contra added
    have undefined : m.body? entry.1 = none := by simpa using added
    exact grows.fresh entry isDefined undefined old isOld _ (mem_locals_of_definition inBody)
      (mem_locals_of_definition inOld)
  have unchanged : (Graph.ofModule (larger.restrictedTo m)).definition? name
      = (Graph.ofModule m).definition? name := by
    rcases order with listed | ⟨_, once⟩
    · simp only [Graph.definition?, Graph.ofModule, definitions, listed]
    · exact once.definition_eq_of_perm grows.unchanged name
  rw [← keeps, unchanged, defined]

/-- A larger module has the call sites of the smaller one, and possibly others between them. -/
theorem callSites (f : FunctionName)
    : ((CallGraph.ofModule m).callSites f).Subperm ((CallGraph.ofModule larger).callSites f) := by
  rw [callSites_eq]
  cases arity : m.arity? f with
  | none => exact List.nil_subperm
  | some count =>
      obtain ⟨body, defined, rfl⟩ := Option.map_eq_some_iff.1 arity
      have sameArity : larger.arity? f = some body.parameters.length := by
        simp [arity?, grows.body order defined]
      rw [callSites_eq, sameArity]
      obtain ⟨walked, reordered, between⟩ := grows.sortedFunctions
      refine ⟨_, (reordered.flatMap_right _).flatMap_right _, ?_⟩
      exact (between.flatMap _).flatMap _

/-- A larger module keeps what traces see of the smaller one, if it enumerates old functions in the same order, or
if no name stands for two things in the smaller one.
-/
theorem keeps : larger.Keeps m :=
  ⟨grows.body order, grows.definition order, grows.callSites order⟩

end Extends

end Module

----------------------------------------------------------------------------------------------
-- Steps in larger modules
----------------------------------------------------------------------------------------------

namespace Graph

variable {m larger : Module} {value other : Operand}

/-- The casts of a known value are the same in a larger module. Witness: in front of a cast there is a known
value again.
-/
theorem canonicalize_of_keeps (keeps : larger.Keeps m) (valid : m.validate = .ok ())
    (known : (Graph.ofModule m).Knows value)
    : (Graph.ofModule larger).canonicalize value = (Graph.ofModule m).canonicalize value := by
  have strips : ∀ {value : Operand}, (Graph.ofModule m).Knows value
      → (Graph.ofModule larger).strip? value = (Graph.ofModule m).strip? value := by
    intro value known
    rcases value with c | (p | name) | _
    · rfl
    · rfl
    · obtain ⟨d, defined⟩ := known name rfl
      simp only [strip?, defined, keeps.definition defined]
    · rfl
  exact canonicalize_congr (fun _ inner => knows_of_strip valid inner) strips known

/-- A callee with a body has the same body in a larger module. -/
theorem calleeBody_of_keeps (keeps : larger.Keeps m) {callee : Callee} {body : FunctionDef}
    (entered : (Graph.ofModule m).calleeBody? callee = some body)
    : (Graph.ofModule larger).calleeBody? callee = some body := by
  obtain ⟨f, target, defined⟩ := Option.bind_eq_some_iff.1 entered
  exact Option.bind_eq_some_iff.2 ⟨f, target, keeps.body defined⟩

/-- A definition leads to at least as many values in a larger module: a call may get a body to enter, and
nothing else changes.
-/
theorem definitionStep_of_keeps (keeps : larger.Keeps m) (d : Definition)
    : (Graph.ofModule larger).definitionStep d = (Graph.ofModule m).definitionStep d
      ∨ (Graph.ofModule m).definitionStep d = .origin
        ∧ ∃ c f,
            d.call? = some c
            ∧ c.callee.direct? = some f
            ∧ m.body? f = none
            ∧ (larger.body? f).isSome = true := by
  rw [definitionStep_eq, definitionStep_eq]
  cases isCall : d.call? with
  | none => exact .inl rfl
  | some c =>
      cases before : (Graph.ofModule m).calleeBody? c.callee with
      | some body =>
          left
          simp [callStep, before, calleeBody_of_keeps keeps before]
      | none =>
          cases after : (Graph.ofModule larger).calleeBody? c.callee with
          | none =>
              left
              simp [callStep, before, after]
          | some body =>
              right
              obtain ⟨f, target, defined⟩ := Option.bind_eq_some_iff.1 after
              rw [calleeBody?, target, Option.bind_some] at before
              refine ⟨?_, c, f, rfl, target, before, ?_⟩
              · simp [callStep, calleeBody?, target, before]
              · exact Option.isSome_iff_exists.2 ⟨body, defined⟩

/-- A step from an instruction goes by its definition, also in a larger module. -/
theorem step_of_keeps (keeps : larger.Keeps m) {name : InstructionName} {d : Definition}
    (defined : (Graph.ofModule m).definition? name = some d)
    : (Graph.ofModule m).step (.local (.instruction name)) = (Graph.ofModule m).definitionStep d
      ∧ (Graph.ofModule larger).step (.local (.instruction name))
        = (Graph.ofModule larger).definitionStep d :=
  ⟨step_of_definition defined, step_of_definition (keeps.definition defined)⟩

/-- A step from a known value leads to at least as many values in a larger module. -/
theorem step_children_of_keeps (keeps : larger.Keeps m)
    (known : (Graph.ofModule m).Knows value)
    : ((Graph.ofModule m).step value).children.Subperm
        ((Graph.ofModule larger).step value).children := by
  rcases value with c | (p | name) | _
  · exact List.nil_subperm
  · obtain ⟨sites, reordered, between⟩ := keeps.callSites p.function
    simp only [step, parameterStep_children]
    exact ⟨_, reordered.filterMap _, between.filterMap _⟩
  · obtain ⟨d, defined⟩ := known name rfl
    obtain ⟨before, after⟩ := step_of_keeps keeps defined
    rw [before, after]
    rcases definitionStep_of_keeps keeps d with same | ⟨ends, _⟩
    · rw [same]
    · rw [ends]
      exact List.nil_subperm
  · exact List.nil_subperm

/-- A call or invoke whose direct callee has a body only in the larger module. -/
def GainsBody (m larger : Module) (value : Operand) : Prop :=
  ∃ d c f,
    (Graph.ofModule m).definitionOf? value = some d
    ∧ d.call? = some c
    ∧ c.callee.direct? = some f
    ∧ m.body? f = none
    ∧ (larger.body? f).isSome = true

/-- A parameter of a function without a call site. -/
def LacksCallers (m : Module) (value : Operand) : Prop :=
  ∃ p, value = .parameter p ∧ (CallGraph.ofModule m).callSites p.function = []

/-- Where a step from a known value ends, it still ends in a larger module, unless a call gets a body or
the parameter had no call site.
-/
theorem step_stops_of_keeps (keeps : larger.Keeps m) (known : (Graph.ofModule m).Knows value)
    (stops : ((Graph.ofModule m).step value).stops = true)
    : ((Graph.ofModule larger).step value).stops = true
      ∨ GainsBody m larger value
      ∨ LacksCallers m value := by
  rcases value with c | (p | name) | _
  · exact .inl rfl
  · rcases ((Graph.ofModule m).parameterStep_stops_iff p).1 stops with noSite | unbound
    · exact .inr (.inr ⟨p, rfl, noSite⟩)
    · obtain ⟨site, isSite, bindsNothing⟩ := unbound
      refine .inl (((Graph.ofModule larger).parameterStep_stops_iff p).2 (.inr ?_))
      exact ⟨site, (keeps.callSites p.function).subset isSite, bindsNothing⟩
  · obtain ⟨d, defined⟩ := known name rfl
    obtain ⟨before, after⟩ := step_of_keeps keeps defined
    rcases definitionStep_of_keeps keeps d with same | ⟨_, c, f, isCall, target, undefined, gets⟩
    · rw [before, ← same, ← after] at stops
      exact .inl stops
    · exact .inr (.inl ⟨d, c, f, defined, isCall, target, undefined, gets⟩)
  · exact .inl rfl

----------------------------------------------------------------------------------------------
-- Traces in larger modules
----------------------------------------------------------------------------------------------

/-- What can be reached from a known value is known, and can be reached in a larger module. Witness:
induction on the path; the next value is the root of an operand that is used.
-/
theorem reaches_of_keeps (keeps : larger.Keeps m) (valid : m.validate = .ok ())
    (known : (Graph.ofModule m).Knows value) (path : (Graph.ofModule m).Reaches value other)
    : (Graph.ofModule m).Knows other ∧ (Graph.ofModule larger).Reaches value other := by
  induction path with
  | refl => exact ⟨known, .refl⟩
  | tail _ edge ih =>
      obtain ⟨child, isChild, rfl⟩ := edge
      have uses : m.Uses child := uses_of_mem_operands (step_children_mem isChild)
      have childKnown := knows_of_uses valid uses
      refine ⟨knows_canonicalize valid childKnown, ih.2.tail ⟨child, ?_, ?_⟩⟩
      · exact (step_children_of_keeps keeps ih.1).subset isChild
      · exact canonicalize_of_keeps keeps valid childKnown

/-- In a module that passes its check, a trace of an operand that is used sees no less if functions are
added. An origin is lost only if it is a call whose direct callee gets a body, or a parameter of a
function that had no call site. Old functions are enumerated in the same order; or in any, if no name stands
for two things.
-/
theorem trace_of_extends (grows : larger.Extends m)
    (order
      : (larger.restrictedTo m).functions = m.functions ∨ m.DistinctNames ∧ m.DefinesOnce)
    (valid : m.validate = .ok ()) (uses : m.Uses value)
    : let before := (Graph.ofModule m).trace value
      let after := (Graph.ofModule larger).trace value
      (∀ x ∈ before.visited, x ∈ after.visited)
      ∧ before.visited.length ≤ after.visited.length
      ∧ before.maxDepth ≤ after.maxDepth
      ∧ ∀ origin ∈ before.origins,
          origin ∈ after.origins ∨ GainsBody m larger origin ∨ LacksCallers m origin := by
  intro before after
  have keeps := grows.keeps order
  have known := knows_of_uses valid uses
  have rootKnown := knows_canonicalize valid known
  have sameRoot := canonicalize_of_keeps keeps valid known
  have reached : ∀ x ∈ before.visited, (Graph.ofModule m).Knows x ∧ x ∈ after.visited := by
    intro x looked
    obtain ⟨isKnown, path⟩ := reaches_of_keeps keeps valid rootKnown (mem_visited_iff.1 looked)
    exact ⟨isKnown, mem_visited_iff.2 (sameRoot ▸ path)⟩
  have included : before.visited ⊆ after.visited := fun x looked => (reached x looked).2
  refine ⟨included, ?_, ?_, ?_⟩
  · exact ((Graph.ofModule m).nodup_visited value).length_le_of_subset included
  · calc before.maxDepth
        = ∑ x ∈ before.visited.toFinset, ((Graph.ofModule m).step x).children.length :=
          maxDepth_eq _ _
      _ ≤ ∑ x ∈ before.visited.toFinset, ((Graph.ofModule larger).step x).children.length := by
          refine Finset.sum_le_sum fun x looked => ?_
          have isKnown := (reached x (List.mem_toFinset.1 looked)).1
          exact (step_children_of_keeps keeps isKnown).length_le
      _ ≤ ∑ x ∈ after.visited.toFinset, ((Graph.ofModule larger).step x).children.length := by
          refine Finset.sum_le_sum_of_subset fun x looked => ?_
          exact List.mem_toFinset.2 (included (List.mem_toFinset.1 looked))
      _ = after.maxDepth := (maxDepth_eq _ _).symm
  · intro origin isOrigin
    obtain ⟨path, stops⟩ := mem_origins_iff.1 isOrigin
    obtain ⟨isKnown, looked⟩ := reached origin (mem_visited_iff.2 path)
    refine (step_stops_of_keeps keeps isKnown stops).imp_left fun stillStops => ?_
    exact mem_origins_iff.2 ⟨mem_visited_iff.1 looked, stillStops⟩

end Graph

/-- A module whose main function returns the result of a function that it declares, with functions added
to it.
-/
def returnsResult (added : List (FunctionName × FunctionDef)) : Module :=
  let main : FunctionName := ⟨0, "main"⟩
  let source : FunctionName := ⟨1, "source"⟩
  let entry : BlockName := ⟨2, main, "entry"⟩
  let result : InstructionName := ⟨3, entry, 0⟩
  { name := "returns a result"
    decls := [source]
    functions :=
      added ++
        [ (main,
            ⟨[],
              [ { name := entry
                  instrs := [⟨result, .call ⟨.operand (.function source), [], []⟩, .pointer⟩]
                  terminator := ⟨⟨4, entry, 1⟩, .ret (some (.instruction result)), .void⟩ } ]⟩) ]
    globals := [] }

/-- A body for the declared function, which returns null. -/
def nullSource : FunctionName × FunctionDef :=
  let source : FunctionName := ⟨1, "source"⟩
  let entry : BlockName := ⟨5, source, "entry"⟩
  (source, ⟨[], [⟨entry, [], ⟨⟨6, entry, 0⟩, .ret (some .null), .void⟩⟩]⟩)

/-- The call of the declared function gains a body where one is added. -/
theorem Graph.trace_of_extends_nullSource
    : let m := returnsResult []
      let larger := returnsResult [nullSource]
      let result : Operand := .instruction ⟨3, ⟨2, ⟨0, "main"⟩, "entry"⟩, 0⟩
      larger.Extends m
      ∧ m.DistinctNames
      ∧ m.DefinesOnce
      ∧ m.validate = .ok ()
      ∧ m.Uses result
      ∧ ((Graph.ofModule m).trace result).visited.length
        ≤ ((Graph.ofModule larger).trace result).visited.length
      ∧ GainsBody m larger result
      ∧ ∀ origin ∈ ((Graph.ofModule m).trace result).origins,
          origin ∈ ((Graph.ofModule larger).trace result).origins
          ∨ GainsBody m larger origin
          ∨ LacksCallers m origin := by
  intro m larger result
  have grows : larger.Extends m := ⟨.refl _, by decide⟩
  have names : m.DistinctNames := by decide
  have once : m.DefinesOnce := by decide
  have valid : m.validate = .ok () := by decide
  have uses : m.Uses result := ⟨_, List.mem_singleton.2 rfl, by decide⟩
  obtain ⟨_, length, _, origins⟩ := Graph.trace_of_extends grows (.inr ⟨names, once⟩) valid uses
  exact ⟨grows, names, once, valid, uses, length, ⟨_, _, _, rfl, rfl, rfl, rfl, rfl⟩, origins⟩

----------------------------------------------------------------------------------------------
-- Names that stand for two things
----------------------------------------------------------------------------------------------

namespace DefinedTwice

/-- An instruction with two definitions. -/
def twice : InstructionName :=
  ⟨2, ⟨1, ⟨0, "f"⟩, "entry"⟩, 0⟩

/-- A block of a function that allocates under this name. -/
def allocates (f : FunctionName) : Block where
  name := ⟨3, f, "allocates"⟩
  instrs := [⟨twice, .alloca (.int 64 1), .pointer⟩]
  terminator := ⟨⟨4, ⟨3, f, "allocates"⟩, 1⟩, .other, .void⟩

/-- A block of a function that loads from null under this name, and returns what it has loaded. -/
def loads (f : FunctionName) : Block where
  name := ⟨5, f, "loads"⟩
  instrs := [⟨twice, .load .null, .pointer⟩]
  terminator := ⟨⟨6, ⟨5, f, "loads"⟩, 1⟩, .ret (some (.instruction twice)), .void⟩

/-- A module with these functions, which have no parameters. -/
def module (functions : List (FunctionName × List Block)) : Module where
  name := "defined twice"
  decls := []
  functions := functions.map fun entry => (entry.1, ⟨[], entry.2⟩)
  globals := []

/-- The function that allocates. -/
def allocator : FunctionName × List Block :=
  (⟨0, "f"⟩, [allocates ⟨0, "f"⟩])

/-- The function that loads. -/
def loader : FunctionName × List Block :=
  (⟨7, "g"⟩, [loads ⟨7, "g"⟩])

variable {g : Graph}

/-- What is allocated is its own origin. -/
theorem trace_allocated
    (defined : g.definition? twice = some (.instruction (.alloca (.int 64 1))))
    : g.trace (.instruction twice) = ⟨[.instruction twice], 0, [.instruction twice]⟩ := by
  have root : g.canonicalize (.instruction twice) = .instruction twice :=
    Graph.canonicalize_of_bare (by simp only [Graph.strip?, defined])
  have step : g.step (.instruction twice) = .origin := by
    simp only [Graph.step, defined]
    rfl
  rw [Graph.trace_of_ends root (congrArg Step.children step) (by simp [Step.children]) (by decide), step]
  rfl

/-- What is loaded from null has null as its origin. -/
theorem trace_loaded (defined : g.definition? twice = some (.instruction (.load .null)))
    : g.trace (.instruction twice) = ⟨[.null], 1, [.null, .instruction twice]⟩ := by
  have root : g.canonicalize (.instruction twice) = .instruction twice :=
    Graph.canonicalize_of_bare (by simp only [Graph.strip?, defined])
  have step : g.step (.instruction twice) = .through [.null] := by
    simp only [Graph.step, defined]
    rfl
  have ends : ∀ x ∈ [Operand.null], g.canonicalize x = x ∧ g.step x = .origin :=
    List.forall_mem_singleton.2 ⟨rfl, rfl⟩
  rw [Graph.trace_of_ends root (congrArg Step.children step) ends (by decide), step]
  rfl

end DefinedTwice

/-- A trace sees less in a larger module that enumerates the two functions which define an instruction the other
way round: the last one counts, so that null is no longer reached.
-/
theorem Graph.trace_of_extends_loses_null
    : let m := DefinedTwice.module [DefinedTwice.allocator, DefinedTwice.loader]
      let larger := DefinedTwice.module
        [DefinedTwice.loader, DefinedTwice.allocator, (⟨8, "h"⟩, [])]
      let value : Operand := .instruction DefinedTwice.twice
      larger.Extends m
      ∧ m.DistinctNames
      ∧ m.validate = .ok ()
      ∧ m.Uses value
      ∧ ((Graph.ofModule m).trace value).visited = [.null, value]
      ∧ ((Graph.ofModule larger).trace value).visited = [value] := by
  intro m larger value
  have grows : larger.Extends m := ⟨.swap _ _ _, by decide⟩
  have names : m.DistinctNames := by decide
  have uses : m.Uses value :=
    ⟨_, List.mem_cons_of_mem _ List.mem_cons_self, by decide⟩
  refine ⟨grows, names, by decide, uses, ?_, ?_⟩
  · rw [DefinedTwice.trace_loaded rfl]
  · rw [DefinedTwice.trace_allocated rfl]

end PointerOrigins
