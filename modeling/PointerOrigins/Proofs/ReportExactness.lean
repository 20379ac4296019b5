import Mathlib.Algebra.BigOperators.Ring.Finset
import Mathlib.Data.ENat.Lattice
import PointerOrigins.Report
import PointerOrigins.Proofs.ProgramOrder
import PointerOrigins.Proofs.TraceExactness

/-!
A report is complete and exact. It covers the functions of a module in symbol order, their calls as they
stand, and the pointer arguments of each call by position. What it says about an argument, and what it
counts, is said here by what can be reached from arguments, without traces.
-/

namespace PointerOrigins

----------------------------------------------------------------------------------------------
-- What a report is about
----------------------------------------------------------------------------------------------

/-- A call has an argument at a position, and the type there is that of pointers. -/
def Call.PassesPointer (c : Call) (position : Nat) (arg : Operand) : Prop :=
  c.args[position]? = some arg ∧ c.argTys[position]? = some .pointer

/-- The values that can be reached from an operand, casts stripped. -/
def Graph.reachable (g : Graph) (value : Operand) : Set Operand :=
  {x | g.Reaches (g.canonicalize value) x}

/-- The values that can be reached from an operand, where a step ends, fully or in part, and which are not
of an allocating kind.
-/
def Classifier.unresolved (c : Classifier) (g : Graph) (value : Operand) : Set Operand :=
  {o | o ∈ g.reachable value ∧ (g.step o).stops = true ∧ (c.classify g o).isAllocating = false}

/-- Some call of a module passes this pointer. -/
def Module.PassesPointer (m : Module) (arg : Operand) : Prop :=
  ∃ entry ∈ m.functions, ∃ p ∈ entry.2.placedCalls, ∃ position, p.call.PassesPointer position arg

/-- The number of pointer arguments of some sort in all calls of a module. -/
noncomputable def Module.pointerArgCount (m : Module) (sort : Operand → Prop) : ℕ∞ :=
  (m.functions.map fun entry =>
    (entry.2.placedCalls.map fun p =>
      {position | ∃ arg, p.call.PassesPointer position arg ∧ sort arg}.encard).sum).sum

/-- A report on an argument says where it stands, and how much can be reached from it. -/
structure ArgReport.Covers (c : Classifier) (g : Graph) (position : Nat) (arg : Operand)
    (report : ArgReport)
    : Prop where
  position : report.position = position
  text : report.arg = arg.text
  indirections : (g.reachable arg).encard = report.indirections
  nonAllocOrigins : (c.unresolved g arg).encard = report.nonAllocOrigins

/-- A report on a call has one report for each of the pointer arguments, by increasing position. -/
structure CallReport.Covers (c : Classifier) (g : Graph) (p : PlacedCall) (report : CallReport)
    : Prop where
  instruction : report.instruction = callText p.name p.mnemonic p.call.callee
  callee : report.callee = p.call.callee.direct?.map FunctionName.symbol
  increasing : report.args.Pairwise fun earlier later => earlier.position < later.position
  complete
    : ∀ position arg,
        p.call.PassesPointer position arg → ∃ a ∈ report.args, a.Covers c g position arg
  sound
    : ∀ a ∈ report.args, ∃ arg, p.call.PassesPointer a.position arg ∧ a.Covers c g a.position arg

/-- A report on a function has one report for each of its calls, as they stand. -/
structure FunctionReport.Covers (c : Classifier) (g : Graph) (entry : FunctionName × FunctionDef)
    (report : FunctionReport)
    : Prop where
  name : report.name = entry.1.symbol
  calls : List.Forall₂ (CallReport.Covers c g) entry.2.placedCalls report.calls

----------------------------------------------------------------------------------------------
-- Counting
----------------------------------------------------------------------------------------------

/-- A list without repetitions is as long as there are values in it. -/
theorem encard_of_nodup {α : Type} {values : List α} {s : Set α} (unique : values.Nodup)
    (listed : ∀ x, x ∈ s ↔ x ∈ values)
    : s.encard = values.length := by
  classical
  have same : s = values.toFinset := by
    ext x
    simp [listed]
  rw [same, Set.encard_coe_eq_coe_finsetCard, List.toFinset_card_of_nodup unique]

/-- A trace looks at as many values as can be reached. -/
theorem Graph.encard_reachable (g : Graph) (value : Operand)
    : (g.reachable value).encard = (g.trace value).visited.length :=
  encard_of_nodup (g.nodup_visited value) fun _ => Graph.mem_visited_iff.symm

/-- The greatest measure of some values, or the start if this is greater. -/
theorem isGreatest_foldl {α : Type} (measure : α → Nat) (values : List α) (start : Nat)
    : IsGreatest (insert start {n | ∃ value ∈ values, measure value = n})
        (values.foldl (fun most value => max most (measure value)) start) := by
  induction values generalizing start with
  | nil => simp
  | cons value rest ih =>
      obtain ⟨reached, bound⟩ := ih (max start (measure value))
      have startLe := bound (Set.mem_insert _ _)
      constructor
      · rcases reached with here | ⟨other, inRest, eq⟩
        · rcases max_choice start (measure value) with isStart | isValue
          · exact .inl (here.trans isStart)
          · exact .inr ⟨value, List.mem_cons_self, (here.trans isValue).symm⟩
        · exact .inr ⟨other, List.mem_cons_of_mem _ inRest, eq⟩
      · rintro n (rfl | ⟨other, member, rfl⟩)
        · exact (le_max_left _ _).trans startLe
        · rcases List.mem_cons.1 member with rfl | inRest
          · exact (le_max_right _ _).trans startLe
          · exact bound (.inr ⟨other, inRest, rfl⟩)

----------------------------------------------------------------------------------------------
-- Pointer arguments
----------------------------------------------------------------------------------------------

namespace Call

variable {c : Call}

/-- The listed pointer arguments are those that the call passes. -/
theorem mem_pointerArgs_iff {position : Nat} {arg : Operand}
    : (position, arg) ∈ c.pointerArgs ↔ c.PassesPointer position arg := by
  have isPointer : ∀ ty : Ty, ty.isPointer = true ↔ ty = .pointer := by
    intro ty
    cases ty <;> simp [Ty.isPointer]
  simp only [pointerArgs, PassesPointer, List.mem_map, List.mem_filter, isPointer, Prod.mk.injEq]
  constructor
  · rintro ⟨⟨⟨_, _⟩, _⟩, ⟨member, rfl⟩, rfl, rfl⟩
    exact List.getElem?_zip_eq_some.1 (List.mk_mem_zipIdx_iff_getElem?.1 member)
  · intro passes
    refine ⟨((arg, .pointer), position), ⟨?_, rfl⟩, rfl, rfl⟩
    exact List.mk_mem_zipIdx_iff_getElem?.2 (List.getElem?_zip_eq_some.2 passes)

/-- Pointer arguments are listed by increasing position. -/
theorem pointerArgs_increasing (c : Call)
    : c.pointerArgs.Pairwise fun earlier later => earlier.1 < later.1 := by
  have places : (c.args.zip c.argTys).zipIdx.Pairwise fun earlier later => earlier.2 < later.2 := by
    rw [← List.pairwise_map, List.zipIdx_map_snd]
    exact List.pairwise_lt_range' 1
  rw [pointerArgs, List.pairwise_map]
  exact places.filter _

/-- The positions of the pointer arguments of some sort, counted. -/
theorem encard_positions (c : Call) {sort : Operand → Prop} {decides : Nat × Operand → Bool}
    (decided : ∀ entry, decides entry = true ↔ sort entry.2)
    : {position | ∃ arg, c.PassesPointer position arg ∧ sort arg}.encard
      = c.pointerArgs.countP decides := by
  have unique : ((c.pointerArgs.filter decides).map Prod.fst).Nodup := by
    rw [List.nodup_iff_pairwise_ne, List.pairwise_map]
    exact (c.pointerArgs_increasing.filter decides).imp Nat.ne_of_lt
  rw [encard_of_nodup unique, List.length_map, List.countP_eq_length_filter]
  intro position
  simp [mem_pointerArgs_iff, decided]

end Call

----------------------------------------------------------------------------------------------
-- Reports on arguments, calls and functions
----------------------------------------------------------------------------------------------

namespace Classifier

variable (c : Classifier) (g : Graph)

/-- The origins that are reported as not allocating are those that can be reached. -/
theorem encard_unresolved (position : Nat) (arg : Operand)
    : (c.unresolved g arg).encard = (c.reportArg g position arg).nonAllocOrigins := by
  have counted : (c.reportArg g position arg).nonAllocOrigins
      = ((g.trace arg).origins.filter fun o => !(c.classify g o).isAllocating).length := by
    rw [ArgReport.nonAllocOrigins, reportArg, List.countP_map, List.countP_eq_length_filter]
    rfl
  rw [counted]
  refine encard_of_nodup ((g.nodup_origins arg).filter _) fun o => ?_
  rw [List.mem_filter, Graph.mem_origins_iff]
  simp [unresolved, Graph.reachable, and_assoc]

/-- An argument is reported as unresolved if an origin that does not allocate can be reached. -/
theorem isUnresolved_iff (position : Nat) (arg : Operand)
    : (c.reportArg g position arg).isUnresolved = true ↔ (c.unresolved g arg).Nonempty := by
  rw [← Set.encard_pos, c.encard_unresolved g position arg, ArgReport.isUnresolved,
    decide_eq_true_iff]
  exact_mod_cast Iff.rfl

/-- Reports on arguments cover them. -/
theorem reportArg_covers (position : Nat) (arg : Operand)
    : (c.reportArg g position arg).Covers c g position arg where
  position := rfl
  text := rfl
  indirections := g.encard_reachable arg
  nonAllocOrigins := c.encard_unresolved g position arg

/-- Reports on calls cover them. -/
theorem reportCall_covers (entry : InstructionName × Definition × Call)
    : (c.reportCall g entry).Covers c g (.ofEntry entry) where
  instruction := rfl
  callee := rfl
  increasing := List.pairwise_map.2 entry.2.2.pointerArgs_increasing
  complete := by
    intro position arg passes
    exact ⟨c.reportArg g position arg,
      List.mem_map.2 ⟨(position, arg), Call.mem_pointerArgs_iff.2 passes, rfl⟩,
      c.reportArg_covers g position arg⟩
  sound := by
    intro report reported
    obtain ⟨⟨position, arg⟩, member, rfl⟩ := List.mem_map.1 reported
    exact ⟨arg, Call.mem_pointerArgs_iff.1 member, c.reportArg_covers g position arg⟩

/-- Reports on functions cover them. -/
theorem reportFunction_covers (entry : FunctionName × FunctionDef)
    : (c.reportFunction g entry.1 entry.2).Covers c g entry where
  name := rfl
  calls := by
    rw [← FunctionDef.map_calls, reportFunction, List.forall₂_map_left_iff,
      List.forall₂_map_right_iff, List.forall₂_same]
    exact fun entry _ => c.reportCall_covers g entry

----------------------------------------------------------------------------------------------
-- Counts
----------------------------------------------------------------------------------------------

/-- The reports on the functions of a module, in symbol order. -/
def reportFunctions (m : Module) : List FunctionReport :=
  m.sortedFunctions.map fun entry => c.reportFunction g entry.1 entry.2

/-- The reports on arguments in all reports on functions. -/
def reportArgs (m : Module) : List ArgReport :=
  (c.reportFunctions g m).flatMap FunctionReport.args

/-- The reports on arguments are those on the pointers that calls of the module pass. -/
theorem mem_reportArgs_iff {m : Module} {report : ArgReport}
    : report ∈ c.reportArgs g m
      ↔ ∃ entry ∈ m.functions,
          ∃ p ∈ entry.2.placedCalls,
            ∃ position arg,
              p.call.PassesPointer position arg ∧ c.reportArg g position arg = report := by
  simp only [reportArgs, reportFunctions, List.mem_flatMap, List.mem_map, FunctionReport.args]
  constructor
  · rintro ⟨_, ⟨entry, isDefined, rfl⟩, _, isCall, reported⟩
    obtain ⟨call, inBody, rfl⟩ := List.mem_map.1 isCall
    obtain ⟨⟨position, arg⟩, passes, rfl⟩ := List.mem_map.1 reported
    refine ⟨entry, m.sortedFunctions_perm.mem_iff.1 isDefined, .ofEntry call, ?_, position, arg,
      Call.mem_pointerArgs_iff.1 passes, rfl⟩
    exact FunctionDef.map_calls entry.2 ▸ List.mem_map_of_mem inBody
  · rintro ⟨entry, isDefined, p, inBody, position, arg, passes, rfl⟩
    rw [← FunctionDef.map_calls] at inBody
    obtain ⟨call, isCall, rfl⟩ := List.mem_map.1 inBody
    refine ⟨_, ⟨entry, m.sortedFunctions_perm.mem_iff.2 isDefined, rfl⟩, _,
      List.mem_map_of_mem isCall, ?_⟩
    exact List.mem_map.2 ⟨(position, arg), Call.mem_pointerArgs_iff.2 passes, rfl⟩

/-- The reported arguments of some sort are as many as the calls of the module pass. -/
theorem pointerArgCount_eq (m : Module) {sort : Operand → Prop} (decides : ArgReport → Bool)
    (decided : ∀ position arg, decides (c.reportArg g position arg) = true ↔ sort arg)
    : m.pointerArgCount sort = (c.reportArgs g m).countP decides := by
  have ofCall : ∀ entry : InstructionName × Definition × Call,
      {position | ∃ arg, entry.2.2.PassesPointer position arg ∧ sort arg}.encard
        = ((c.reportCall g entry).args.countP decides : ℕ∞) := by
    intro entry
    rw [entry.2.2.encard_positions fun arg => decided arg.1 arg.2, reportCall, List.countP_map]
    rfl
  have ofFunction : ∀ entry : FunctionName × FunctionDef,
      (entry.2.placedCalls.map fun p =>
          {position | ∃ arg, p.call.PassesPointer position arg ∧ sort arg}.encard).sum
        = ((c.reportFunction g entry.1 entry.2).args.countP decides : ℕ∞) := by
    intro entry
    rw [← FunctionDef.map_calls, List.map_map, FunctionReport.args, reportFunction,
      List.countP_flatMap, Nat.cast_list_sum, List.map_map, List.map_map]
    exact congrArg List.sum (List.map_congr_left fun call _ => ofCall call)
  rw [Module.pointerArgCount, ← (m.sortedFunctions_perm.map _).sum_eq, reportArgs,
    reportFunctions, List.countP_flatMap, Nat.cast_list_sum, List.map_map, List.map_map]
  exact congrArg List.sum (List.map_congr_left fun entry _ => ofFunction entry)

/-- A report covers each function of the module once, in symbol order. Its counts are those of functions,
calls, pointer arguments, and pointer arguments from which an origin that does not allocate can be
reached; the last one is the greatest number of values that can be reached from a pointer argument.
An argument without a type of its own counts as no pointer.
-/
theorem reportModule_exact (m : Module)
    : let graph := Graph.ofModule m
      let report := c.reportModule m false
      (∃ walked,
        m.InSymbolOrder walked
        ∧ List.Forall₂ (FunctionReport.Covers c graph) walked report.functions)
      ∧ report.summary.functions = m.functions.length
      ∧ report.summary.calls = (m.functions.map fun entry => entry.2.placedCalls.length).sum
      ∧ (m.pointerArgCount fun _ => True) = report.summary.pointerArgs
      ∧ (m.pointerArgCount fun arg => (c.unresolved graph arg).Nonempty)
        = report.summary.unresolvedArgs
      ∧ IsGreatest
          (insert 0 {n : ℕ | ∃ arg, m.PassesPointer arg ∧ (graph.reachable arg).encard = n})
          report.summary.maxIndirections := by
  intro graph report
  have functions : report.functions = c.reportFunctions graph m := rfl
  have summary : report.summary = .ofFunctions (c.reportFunctions graph m) := rfl
  refine ⟨⟨m.sortedFunctions, m.sortedFunctions_inSymbolOrder, ?_⟩, ?_, ?_, ?_, ?_, ?_⟩
  · rw [functions, reportFunctions, List.forall₂_map_right_iff, List.forall₂_same]
    exact fun entry _ => c.reportFunction_covers graph entry
  · rw [summary, Summary.ofFunctions, reportFunctions, List.length_map,
      m.sortedFunctions_perm.length_eq]
  · rw [summary, ← (m.sortedFunctions_perm.map _).sum_eq]
    simp [Summary.ofFunctions, reportFunctions, reportFunction, List.length_flatMap,
      Function.comp_def, ← FunctionDef.map_calls]
  · rw [c.pointerArgCount_eq graph m (fun _ => true) fun _ _ => by simp, List.countP_true]
    rfl
  · rw [c.pointerArgCount_eq graph m ArgReport.isUnresolved (c.isUnresolved_iff graph)]
    rfl
  · have measured : {n | ∃ a ∈ c.reportArgs graph m, a.indirections = n}
        = {n : ℕ | ∃ arg, m.PassesPointer arg ∧ (graph.reachable arg).encard = n} := by
      ext n
      simp only [Set.mem_ofPred_eq, mem_reportArgs_iff, Module.PassesPointer,
        Graph.encard_reachable, Nat.cast_inj]
      constructor
      · rintro ⟨_, ⟨entry, isDefined, p, inBody, position, arg, passes, rfl⟩, rfl⟩
        exact ⟨arg, ⟨entry, isDefined, p, inBody, position, passes⟩, rfl⟩
      · rintro ⟨arg, ⟨entry, isDefined, p, inBody, position, passes⟩, rfl⟩
        exact ⟨_, ⟨entry, isDefined, p, inBody, position, arg, passes, rfl⟩, rfl⟩
    rw [← measured]
    exact isGreatest_foldl ArgReport.indirections (c.reportArgs graph m) 0

end Classifier

end PointerOrigins
