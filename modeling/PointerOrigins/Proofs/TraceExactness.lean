import Mathlib.Data.Set.Card
import PointerOrigins.Proofs.StackRun

/-!
A trace sees exactly what it can reach. The values that it adds are those on paths around the values
seen before it, each of them once, and its origins are the ones among them where a step ends, fully
or in part. Cutting off cycles loses nothing, since what is cut off has been seen.
-/

namespace PointerOrigins

namespace Graph

variable {δ : Type} [Level δ] {g : Graph} {value x : Operand}

/-- One step back leads from a value to another one, casts stripped. -/
def Leads (g : Graph) : Operand → Operand → Prop :=
  LeadsBy g.canonicalize g.step

/-- Some number of steps back leads from a value to another one, casts stripped. -/
def Reaches (g : Graph) : Operand → Operand → Prop :=
  Relation.ReflTransGen g.Leads

----------------------------------------------------------------------------------------------
-- Traces that start afresh
----------------------------------------------------------------------------------------------

/-- The outcome of a trace that starts afresh, from the values in depth-first order. -/
theorem trace_of_depthFirst {news : List Operand}
    (walk : DepthFirst g.canonicalize g.step [] [value] news)
    : g.trace value
      = ⟨news.filter fun x => (g.step x).stops, childCount g.step news, news.reverse⟩ := by
  have fromEmpty : DepthFirst g.canonicalize g.step Seen.empty.visited [value] news := walk
  obtain ⟨level, outcome, rises⟩ := traceWith_of_depthFirst fromEmpty (0 : Nat)
  have reached : level = childCount g.step news := (rises trivial).trans (Nat.zero_add _)
  rw [trace, outcome, reached]
  simp [Seen.after, Seen.empty]

/-- The outcome of a trace of a value whose children are ends. -/
theorem trace_of_ends {children : List Operand} (bare : g.canonicalize value = value)
    (leads : (g.step value).children = children)
    (ends : ∀ x ∈ children, g.canonicalize x = x ∧ g.step x = .origin)
    (distinct : (value :: children).Nodup)
    : g.trace value
      = ⟨(bif (g.step value).stops then [value] else []) ++ children, children.length,
          (value :: children).reverse⟩ := by
  have noChildren : ∀ x ∈ children, (g.step x).children = [] := by
    intro x member
    rw [(ends x member).2]
    rfl
  have below : DepthFirst g.canonicalize g.step [value] children children := by
    refine .of_ends (fun x member => (ends x member).1) noChildren (fun x member same => ?_)
      (List.nodup_cons.1 distinct).2
    exact (List.nodup_cons.1 distinct).1 (List.mem_singleton.1 same ▸ member)
  have walk : DepthFirst g.canonicalize g.step [] [value] (value :: children) := by
    have visits : DepthFirst g.canonicalize g.step [] [value]
        (g.canonicalize value :: (children ++ [])) :=
      .visit List.not_mem_nil (by rw [bare, leads]; exact below) .done
    rwa [bare, List.append_nil] at visits
  have stops : children.filter (fun x => (g.step x).stops) = children :=
    List.filter_eq_self.2 fun x member => by rw [(ends x member).2]; rfl
  have count : childCount g.step children = 0 := by
    rw [childCount_eq_sum, List.map_congr_left fun x member => congrArg List.length (noChildren x member)]
    simp
  rw [trace_of_depthFirst walk, childCount, count, leads, List.filter_cons, stops]
  cases (g.step value).stops <;> rfl

/-- Every trace that starts afresh has an outcome of this form. -/
theorem trace_spec (g : Graph) (value : Operand)
    : ∃ news,
        DepthFirst g.canonicalize g.step [] [value] news
        ∧ g.trace value
          = ⟨news.filter fun x => (g.step x).stops, childCount g.step news, news.reverse⟩ := by
  obtain ⟨news, walk⟩ := g.exists_depthFirst (fun _ _ member => member) [] value
  exact ⟨news, walk, trace_of_depthFirst walk⟩

/-- A trace looks at exactly the values that it can reach. -/
theorem mem_visited_iff : x ∈ (g.trace value).visited ↔ g.Reaches (g.canonicalize value) x := by
  obtain ⟨news, walk, outcome⟩ := g.trace_spec value
  rw [outcome, List.mem_reverse, walk.mem_iff_of_singleton, PathOutside.nil_iff]
  rfl

/-- A trace looks at each value once. -/
theorem nodup_visited (g : Graph) (value : Operand) : (g.trace value).visited.Nodup := by
  obtain ⟨news, walk, outcome⟩ := g.trace_spec value
  rw [outcome]
  exact List.nodup_reverse.2 walk.nodup

/-- The origins are the values looked at where a step ends, in the order of the walk. -/
theorem origins_eq (g : Graph) (value : Operand)
    : (g.trace value).origins
      = (g.trace value).visited.reverse.filter fun x => (g.step x).stops := by
  obtain ⟨news, _, outcome⟩ := g.trace_spec value
  rw [outcome, List.reverse_reverse]

/-- A trace gives exactly the origins that it can reach. -/
theorem mem_origins_iff
    : x ∈ (g.trace value).origins
      ↔ g.Reaches (g.canonicalize value) x ∧ (g.step x).stops = true := by
  rw [origins_eq, List.mem_filter, List.mem_reverse, mem_visited_iff]

/-- A trace gives each origin once. -/
theorem nodup_origins (g : Graph) (value : Operand) : (g.trace value).origins.Nodup := by
  rw [origins_eq]
  exact (List.nodup_reverse.2 (g.nodup_visited value)).filter _

end Graph

end PointerOrigins
