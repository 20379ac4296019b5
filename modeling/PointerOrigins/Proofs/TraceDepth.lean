import Mathlib.Algebra.BigOperators.Group.Finset.Sigma
import PointerOrigins.Proofs.RecursiveTrace
import PointerOrigins.Proofs.TraceExactness

/-!
The depth of a trace in closed form. Each child takes up one level, be it new or not, and a running
depth never falls, so that the depth reached is a number of edges and no length of a path.
-/

namespace PointerOrigins

----------------------------------------------------------------------------------------------
-- Order of children
----------------------------------------------------------------------------------------------

/-- Paths do not depend on the order of children. -/
theorem LeadsBy.congr {root : Operand → Operand} {step other : Operand → Step}
    (reordered : ∀ x, (other x).children.Perm (step x).children)
    : LeadsBy root other = LeadsBy root step := by
  funext value source
  simp only [LeadsBy, (reordered value).mem_iff]

/-- Two walks from one operand that visit children in different orders look at the same values, in
different orders.
-/
theorem DepthFirst.perm_of_reordered {root : Operand → Operand} {step other : Operand → Step}
    {avoided news others : List Operand} {value : Operand}
    (reordered : ∀ x, (other x).children.Perm (step x).children)
    (walk : DepthFirst root step avoided [value] news)
    (another : DepthFirst root other avoided [value] others)
    : others.Perm news := by
  rw [List.perm_ext_iff_of_nodup another.nodup walk.nodup]
  intro x
  rw [walk.mem_iff_of_singleton, another.mem_iff_of_singleton, LeadsBy.congr reordered]

/-- The number of children does not depend on their order, or on the order of their parents. -/
theorem childCount_of_reordered {step other : Operand → Step} {news others : List Operand}
    (reordered : ∀ x, (other x).children.Perm (step x).children) (same : others.Perm news)
    : childCount other others = childCount step news := by
  have lengths : ∀ x, (other x).children.length = (step x).children.length :=
    fun x => (reordered x).length_eq
  simp only [childCount_eq_sum, lengths]
  exact (same.map _).sum_eq

namespace Graph

/-- The depth of a trace is the number of children of the values looked at. -/
theorem maxDepth_eq (g : Graph) (value : Operand)
    : (g.trace value).maxDepth
      = ∑ x ∈ (g.trace value).visited.toFinset, (g.step x).children.length := by
  rw [List.sum_toFinset _ (g.nodup_visited value)]
  obtain ⟨news, _, outcome⟩ := g.trace_spec value
  simp [outcome, childCount_eq_sum, List.sum_reverse]

end Graph

end PointerOrigins
