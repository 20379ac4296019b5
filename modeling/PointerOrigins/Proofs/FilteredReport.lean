import PointerOrigins.Report

/-!
Reports on unresolved arguments only. Such a report is the full one, without the arguments all of whose
origins allocate, the calls that have no argument left, and the functions that have no call left. What is
left is unchanged and in order, and as much as the full report counts.
-/

namespace PointerOrigins

----------------------------------------------------------------------------------------------
-- Keeping and dropping
----------------------------------------------------------------------------------------------

/-- Of a list, some entries are kept in their order, each as something that may stand for it, and the others
are dropped.
-/
inductive Retains {α : Type} (keeps : α → α → Prop) (drops : α → Prop) : List α → List α → Prop
  | nil : Retains keeps drops [] []
  | keep {x y xs ys} (kept : keeps x y) (rest : Retains keeps drops xs ys)
    : Retains keeps drops (x :: xs) (y :: ys)
  | drop {x xs ys} (dropped : drops x) (rest : Retains keeps drops xs ys)
    : Retains keeps drops (x :: xs) ys

namespace Retains

variable {α β : Type} {keeps : α → α → Prop} {drops : α → Prop} {xs ys : List α}

/-- Entries are kept and dropped as a partial function tells. -/
theorem of_filterMap {f : α → Option α} (kept : ∀ x y, f x = some y → keeps x y)
    (dropped : ∀ x, f x = none → drops x) (xs : List α)
    : Retains keeps drops xs (xs.filterMap f) := by
  induction xs with
  | nil => exact .nil
  | cons x xs ih =>
      cases told : f x with
      | none =>
          rw [List.filterMap_cons_none told]
          exact .drop (dropped x told) ih
      | some y =>
          rw [List.filterMap_cons_some told]
          exact .keep (kept x y told) ih

/-- What is true of everything that stands for an entry is true of all that is left. -/
theorem forall_left {property : α → Prop} (retains : Retains keeps drops xs ys)
    (kept : ∀ x y, keeps x y → property y)
    : ∀ y ∈ ys, property y := by
  induction retains with
  | nil => simp
  | keep keepsIt _ ih => exact List.forall_mem_cons.2 ⟨kept _ _ keepsIt, ih⟩
  | drop _ _ ih => exact ih

/-- Where entries that are kept list what is wanted, and entries that are dropped list nothing of it, all
that is wanted is listed in the end.
-/
theorem flatMap_eq (lists : α → List β) (wanted : β → Bool) (retains : Retains keeps drops xs ys)
    (kept : ∀ x y, keeps x y → lists y = (lists x).filter wanted)
    (dropped : ∀ x, drops x → (lists x).filter wanted = [])
    : ys.flatMap lists = (xs.flatMap lists).filter wanted := by
  induction retains with
  | nil => rfl
  | keep keepsIt _ ih =>
      rw [List.flatMap_cons, List.flatMap_cons, List.filter_append, ih, kept _ _ keepsIt]
  | drop dropsIt _ ih =>
      rw [List.flatMap_cons, List.filter_append, dropped _ dropsIt, ih, List.nil_append]

end Retains

----------------------------------------------------------------------------------------------
-- What is kept of a report
----------------------------------------------------------------------------------------------

/-- An argument is kept as it is, if some of its origins do not allocate. -/
structure ArgReport.Keeps (full kept : ArgReport) : Prop where
  same : kept = full
  unresolved : 0 < full.nonAllocOrigins

/-- All origins of an argument allocate. -/
def ArgReport.Resolved (full : ArgReport) : Prop :=
  full.nonAllocOrigins = 0

/-- A call is kept with the arguments that are, if there is one. -/
structure CallReport.Keeps (full kept : CallReport) : Prop where
  instruction : kept.instruction = full.instruction
  callee : kept.callee = full.callee
  args : Retains ArgReport.Keeps ArgReport.Resolved full.args kept.args
  nonempty : kept.args ≠ []

/-- No argument of a call is kept. -/
def CallReport.Resolved (full : CallReport) : Prop :=
  ∀ a ∈ full.args, a.Resolved

/-- A function is kept with the calls that are, if there is one. -/
structure FunctionReport.Keeps (full kept : FunctionReport) : Prop where
  name : kept.name = full.name
  calls : Retains CallReport.Keeps CallReport.Resolved full.calls kept.calls
  nonempty : kept.calls ≠ []

/-- No call of a function is kept. -/
def FunctionReport.Resolved (full : FunctionReport) : Prop :=
  ∀ c ∈ full.calls, c.Resolved

----------------------------------------------------------------------------------------------
-- Filtering
----------------------------------------------------------------------------------------------

namespace ArgReport

/-- An argument is resolved, or else unresolved. -/
theorem isUnresolved_eq_false_iff {a : ArgReport} : a.isUnresolved = false ↔ a.Resolved := by
  simp [isUnresolved, Resolved]

/-- The unresolved arguments are kept. -/
theorem retains_filter (args : List ArgReport) : Retains Keeps Resolved args (args.filter isUnresolved) := by
  rw [← List.filterMap_eq_filter]
  refine Retains.of_filterMap (fun x y told => ?_) (fun x told => ?_) args
  · obtain ⟨rfl, unresolved⟩ := Option.guard_eq_some_iff.1 told
    exact ⟨rfl, of_decide_eq_true unresolved⟩
  · exact isUnresolved_eq_false_iff.1 (by simpa using told)

/-- Arguments that are kept are the unresolved ones. -/
theorem eq_filter_of_retains {args kept : List ArgReport} (retains : Retains Keeps Resolved args kept)
    : kept = args.filter isUnresolved := by
  have listed := retains.flatMap_eq (fun a => [a]) isUnresolved
    (fun x y keeps => by simp [keeps.same, isUnresolved, keeps.unresolved])
    (fun x resolved => by simp [isUnresolved_eq_false_iff.2 resolved])
  simpa using listed

end ArgReport

namespace CallReport

/-- What is left of a call: its unresolved arguments, if there are any. -/
def unresolved? (full : CallReport) : Option CallReport :=
  let args := full.args.filter ArgReport.isUnresolved
  if args.isEmpty then none else some { full with args }

/-- What is left of a call is what should be kept. -/
theorem keeps_of_left {full kept : CallReport} (left : full.unresolved? = some kept) : full.Keeps kept := by
  simp only [unresolved?] at left
  split at left
  · cases left
  · next nonempty =>
      cases left
      exact ⟨rfl, rfl, ArgReport.retains_filter full.args, mt List.isEmpty_iff.2 nonempty⟩

/-- A call has no unresolved arguments exactly if all of them are resolved. -/
theorem filter_eq_nil_iff {full : CallReport}
    : full.args.filter ArgReport.isUnresolved = [] ↔ full.Resolved := by
  simp only [List.filter_eq_nil_iff, Bool.not_eq_true, ArgReport.isUnresolved_eq_false_iff, Resolved]

/-- Where nothing is left of a call, all its arguments are resolved. -/
theorem resolved_of_left {full : CallReport} (nothing : full.unresolved? = none) : full.Resolved := by
  simp only [unresolved?] at nothing
  split at nothing
  · next empty => exact filter_eq_nil_iff.1 (List.isEmpty_iff.1 empty)
  · cases nothing

end CallReport

namespace FunctionReport

/-- What is left of a function: what is left of its calls, if there is anything. -/
def unresolved? (full : FunctionReport) : Option FunctionReport :=
  let calls := full.calls.filterMap CallReport.unresolved?
  if calls.isEmpty then none else some { full with calls }

/-- What is left of a function is what should be kept. -/
theorem keeps_of_left {full kept : FunctionReport} (left : full.unresolved? = some kept)
    : full.Keeps kept := by
  simp only [unresolved?] at left
  split at left
  · cases left
  · next nonempty =>
      cases left
      refine ⟨rfl, ?_, mt List.isEmpty_iff.2 nonempty⟩
      exact Retains.of_filterMap (fun _ _ => CallReport.keeps_of_left)
        (fun _ => CallReport.resolved_of_left) full.calls

/-- Where nothing is left of a function, all arguments of its calls are resolved. -/
theorem resolved_of_left {full : FunctionReport} (nothing : full.unresolved? = none) : full.Resolved := by
  simp only [unresolved?] at nothing
  split at nothing
  · next empty =>
      intro c member
      exact CallReport.resolved_of_left (List.filterMap_eq_nil_iff.1 (List.isEmpty_iff.1 empty) c member)
  · cases nothing

/-- A function that is kept lists its unresolved arguments. -/
theorem Keeps.args_eq {full kept : FunctionReport} (keeps : full.Keeps kept)
    : kept.args = full.args.filter ArgReport.isUnresolved :=
  keeps.calls.flatMap_eq CallReport.args ArgReport.isUnresolved
    (fun _ _ keepsCall => ArgReport.eq_filter_of_retains keepsCall.args)
    (fun _ resolved => CallReport.filter_eq_nil_iff.2 resolved)

/-- A function that is dropped has no unresolved arguments. -/
theorem Resolved.args_eq {full : FunctionReport} (resolved : full.Resolved)
    : full.args.filter ArgReport.isUnresolved = [] := by
  rw [FunctionReport.args, List.filter_flatMap, List.flatMap_eq_nil_iff]
  exact fun c member => CallReport.filter_eq_nil_iff.2 (resolved c member)

end FunctionReport

/-- Filtering keeps what should be kept of a report. -/
theorem ModuleReport.retains_onlyUnresolved (functions : List FunctionReport)
    : Retains FunctionReport.Keeps FunctionReport.Resolved functions (onlyUnresolved functions) :=
  Retains.of_filterMap (fun _ _ => FunctionReport.keeps_of_left) (fun _ => FunctionReport.resolved_of_left)
    functions

/-- The arguments that are left are the unresolved ones of the full report, in order. -/
theorem ModuleReport.args_of_retains {functions left : List FunctionReport}
    (retains : Retains FunctionReport.Keeps FunctionReport.Resolved functions left)
    : left.flatMap FunctionReport.args
      = (functions.flatMap FunctionReport.args).filter ArgReport.isUnresolved :=
  retains.flatMap_eq FunctionReport.args ArgReport.isUnresolved (fun _ _ keeps => keeps.args_eq)
    (fun _ resolved => resolved.args_eq)

/-- A report on unresolved arguments has the name and the counts of the full report. Its functions, calls and
arguments are those of the full report in the same order, with every argument unchanged: the arguments with an
origin that does not allocate, the calls that still have an argument, the functions that still have a call.
There are as many arguments in it as it counts, and it has no empty call or function.
-/
theorem Classifier.reportModule_onlyUnresolved (c : Classifier) (m : Module)
    : let full := c.reportModule m false
      let left := c.reportModule m true
      left.name = full.name
      ∧ left.summary = full.summary
      ∧ Retains FunctionReport.Keeps FunctionReport.Resolved full.functions left.functions
      ∧ (left.functions.flatMap FunctionReport.args).length = left.summary.unresolvedArgs
      ∧ ∀ f ∈ left.functions, f.calls ≠ [] ∧ ∀ call ∈ f.calls, call.args ≠ [] := by
  intro full left
  have retains : Retains FunctionReport.Keeps FunctionReport.Resolved full.functions left.functions :=
    ModuleReport.retains_onlyUnresolved full.functions
  refine ⟨rfl, rfl, retains, ?_, ?_⟩
  · rw [ModuleReport.args_of_retains retains, ← List.countP_eq_length_filter]
    rfl
  · refine retains.forall_left fun _ f keeps => ⟨keeps.nonempty, ?_⟩
    exact keeps.calls.forall_left fun _ call keepsCall => keepsCall.nonempty

end PointerOrigins
