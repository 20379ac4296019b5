import Mathlib.Logic.Relation
import PointerOrigins.Tracing.Trace

/-!
Depth-first order, apart from the stack that produces it. A walk over pending operands looks at the
value behind each of them, then at what this value leads to, then at the operands that follow. The
main result is that the values looked at are exactly those on paths around the avoided ones.
-/

namespace PointerOrigins

----------------------------------------------------------------------------------------------
-- Paths
----------------------------------------------------------------------------------------------

/-- One step leads from a value to the root of one of its children. -/
def LeadsBy (root : Operand → Operand) (step : Operand → Step) (value source : Operand)
    : Prop :=
  ∃ child ∈ (step value).children, root child = source

/-- There is a path between two values, and all of its values, the first and the last included, are
outside `avoided`.
-/
inductive PathOutside (leads : Operand → Operand → Prop) (avoided : List Operand)
    : Operand → Operand → Prop
  | here {value} (fresh : value ∉ avoided) : PathOutside leads avoided value value
  | step {value middle target} (fresh : value ∉ avoided) (edge : leads value middle)
    (rest : PathOutside leads avoided middle target)
    : PathOutside leads avoided value target

namespace PathOutside

variable {leads : Operand → Operand → Prop} {avoided fewer : List Operand}
  {value target : Operand}

/-- A path starts at a value that is not avoided. -/
theorem fresh_start (path : PathOutside leads avoided value target) : value ∉ avoided := by
  cases path with
  | here fresh => exact fresh
  | step fresh _ _ => exact fresh

/-- A path around some values is a path around fewer of them. -/
theorem mono (subset : ∀ x ∈ fewer, x ∈ avoided) (path : PathOutside leads avoided value target)
    : PathOutside leads fewer value target := by
  induction path with
  | here fresh => exact .here fun member => fresh (subset _ member)
  | step fresh edge _ ih => exact .step (fun member => fresh (subset _ member)) edge ih

/-- A set of values that every step stays in, unless it meets an avoided value, holds each path that
starts in it.
-/
theorem mem_of_closed {news : List Operand}
    (closed : ∀ x ∈ news, ∀ y, leads x y → y ∈ avoided ∨ y ∈ news)
    (path : PathOutside leads avoided value target) (start : value ∈ news)
    : target ∈ news := by
  induction path with
  | here _ => exact start
  | step _ edge rest ih =>
      rcases closed _ start _ edge with old | inside
      · exact absurd old rest.fresh_start
      · exact ih inside

/-- Where nothing is avoided, paths are just sequences of steps. -/
theorem nil_iff
    : PathOutside leads [] value target ↔ Relation.ReflTransGen leads value target := by
  constructor
  · intro path
    induction path with
    | here _ => exact .refl
    | step _ edge _ ih => exact .head edge ih
  · intro path
    induction path using Relation.ReflTransGen.head_induction_on with
    | refl => exact .here List.not_mem_nil
    | head edge _ ih => exact .step List.not_mem_nil edge ih

end PathOutside

----------------------------------------------------------------------------------------------
-- Walks
----------------------------------------------------------------------------------------------

/-- The number of children of some values, each child counted as often as it occurs. -/
@[simp]
def childCount (step : Operand → Step) : List Operand → Nat
  | [] => 0
  | value :: rest => (step value).children.length + childCount step rest

/-- The children of two lists of values are counted separately. -/
@[simp]
theorem childCount_append (step : Operand → Step) (first second : List Operand)
    : childCount step (first ++ second) = childCount step first + childCount step second := by
  induction first with
  | nil => simp
  | cons value rest ih => simp [ih, Nat.add_assoc]

/-- A depth-first walk over the `pending` operands, which skips the values that are `avoided`, looks
at the values `news` in this order.
-/
inductive DepthFirst (root : Operand → Operand) (step : Operand → Step)
    : (avoided pending news : List Operand) → Prop
  | done {avoided} : DepthFirst root step avoided [] []
  | skip {avoided child pending news} (old : root child ∈ avoided)
    (later : DepthFirst root step avoided pending news)
    : DepthFirst root step avoided (child :: pending) news
  | visit {avoided child pending inner outer} (new : root child ∉ avoided)
    (below : DepthFirst root step (root child :: avoided) (step (root child)).children inner)
    (later : DepthFirst root step (inner.reverse ++ root child :: avoided) pending outer)
    : DepthFirst root step avoided (child :: pending) (root child :: (inner ++ outer))

namespace DepthFirst

variable {root : Operand → Operand} {step : Operand → Step}
  {avoided pending news : List Operand}

/-- Values that lead nowhere are looked at as they stand. -/
theorem of_ends (bare : ∀ x ∈ pending, root x = x) (ends : ∀ x ∈ pending, (step x).children = [])
    (new : ∀ x ∈ pending, x ∉ avoided) (distinct : pending.Nodup)
    : DepthFirst root step avoided pending pending := by
  induction pending generalizing avoided with
  | nil => exact .done
  | cons first rest ih =>
      simp only [List.forall_mem_cons] at bare ends new
      obtain ⟨elsewhere, restDistinct⟩ := List.nodup_cons.1 distinct
      have below : DepthFirst root step (root first :: avoided) (step (root first)).children [] := by
        rw [bare.1, ends.1]
        exact .done
      have later : DepthFirst root step ([].reverse ++ root first :: avoided) rest rest := by
        refine ih bare.2 ends.2 (fun x member old => ?_) restDistinct
        rcases List.mem_cons.1 old with same | old
        · exact elsewhere (bare.1 ▸ same ▸ member)
        · exact new.2 x member old
      have visits := DepthFirst.visit (bare.1.symm ▸ new.1) below later
      rwa [bare.1] at visits

/-- A walk looks at no value that it avoids. -/
theorem fresh (walk : DepthFirst root step avoided pending news) : ∀ x ∈ news, x ∉ avoided := by
  induction walk with
  | done => simp
  | skip _ _ ih => exact ih
  | visit new _ _ belowFresh laterFresh =>
      intro x member old
      simp only [List.mem_cons, List.mem_append] at member
      rcases member with same | inner | outer
      · exact new (same ▸ old)
      · exact belowFresh x inner (List.mem_cons_of_mem _ old)
      · exact laterFresh x outer (by simp [old])

/-- A walk looks at no value twice. Witness: what is below a value avoids this value, and what
follows avoids both.
-/
theorem nodup (walk : DepthFirst root step avoided pending news) : news.Nodup := by
  induction walk with
  | done => exact List.nodup_nil
  | skip _ _ ih => exact ih
  | visit new below later belowUnique laterUnique =>
      rw [List.nodup_cons, List.mem_append, not_or, List.nodup_append]
      refine ⟨⟨?_, ?_⟩, belowUnique, laterUnique, ?_⟩
      · intro again
        exact below.fresh _ again List.mem_cons_self
      · intro again
        exact later.fresh _ again (by simp)
      · intro x inner y outer same
        subst same
        exact later.fresh _ outer (by simp [inner])

/-- A walk has its pending values behind it: they were avoided, or it looked at them. -/
theorem covers (walk : DepthFirst root step avoided pending news)
    : ∀ child ∈ pending, root child ∈ avoided ∨ root child ∈ news := by
  induction walk with
  | done => simp
  | skip old _ ih =>
      intro child member
      rcases List.mem_cons.1 member with same | rest
      · exact .inl (same ▸ old)
      · exact ih child rest
  | visit _ _ _ _ laterCovers =>
      intro child member
      rcases List.mem_cons.1 member with same | rest
      · exact .inr (by simp [same])
      · have covered := laterCovers child rest
        simp only [List.mem_append, List.mem_cons, List.mem_reverse] at covered ⊢
        grind

/-- No step leaves what a walk looked at, but for steps to avoided values. This holds only at the
end of a walk: while something is pending, steps may lead to it.
-/
theorem closed (walk : DepthFirst root step avoided pending news)
    : ∀ x ∈ news, ∀ y, LeadsBy root step x y → y ∈ avoided ∨ y ∈ news := by
  induction walk with
  | done => simp
  | skip _ _ ih => exact ih
  | visit _ below _ belowClosed laterClosed =>
      intro x member y leads
      simp only [List.mem_cons, List.mem_append] at member ⊢
      rcases member with same | inner | outer
      · obtain ⟨child, isChild, rfl⟩ := leads
        have covered := below.covers child (same ▸ isChild)
        simp only [List.mem_cons] at covered
        grind
      · have covered := belowClosed x inner y leads
        simp only [List.mem_cons] at covered
        grind
      · have covered := laterClosed x outer y leads
        simp only [List.mem_append, List.mem_cons, List.mem_reverse] at covered
        grind

/-- Every value that a walk looks at is on a path around the avoided values from something pending.
-/
theorem provenance (walk : DepthFirst root step avoided pending news)
    : ∀ x ∈ news,
        ∃ child ∈ pending, PathOutside (LeadsBy root step) avoided (root child) x := by
  induction walk with
  | done => simp
  | skip _ _ ih =>
      intro x member
      obtain ⟨child, isPending, path⟩ := ih x member
      exact ⟨child, List.mem_cons_of_mem _ isPending, path⟩
  | @visit avoided first rest inner outer new _ _ belowFrom laterFrom =>
      intro x member
      simp only [List.mem_cons, List.mem_append] at member
      rcases member with same | inside | behind
      · subst same
        exact ⟨first, List.mem_cons_self, .here new⟩
      · obtain ⟨child, isChild, path⟩ := belowFrom x inside
        have around := path.mono fun _ old => List.mem_cons_of_mem (root first) old
        exact ⟨first, List.mem_cons_self, .step new ⟨child, isChild, rfl⟩ around⟩
      · obtain ⟨child, isPending, path⟩ := laterFrom x behind
        exact ⟨child, List.mem_cons_of_mem _ isPending, path.mono fun _ old => by simp [old]⟩

/-- The values that a walk looks at are exactly those on paths around the avoided values. -/
theorem mem_iff (walk : DepthFirst root step avoided pending news) {x : Operand}
    : x ∈ news
      ↔ ∃ child ∈ pending, PathOutside (LeadsBy root step) avoided (root child) x := by
  constructor
  · exact walk.provenance x
  · rintro ⟨child, isPending, path⟩
    rcases walk.covers child isPending with old | start
    · exact absurd old path.fresh_start
    · exact path.mem_of_closed walk.closed start

/-- A walk from one operand looks at exactly the values on paths from the root of this operand. -/
theorem mem_iff_of_singleton {value x : Operand} (walk : DepthFirst root step avoided [value] news)
    : x ∈ news ↔ PathOutside (LeadsBy root step) avoided (root value) x := by
  simp [walk.mem_iff]

/-- A walk looks at no more values than are pending or are children of values looked at. -/
theorem length_le (walk : DepthFirst root step avoided pending news)
    : news.length ≤ pending.length + childCount step news := by
  induction walk with
  | done => simp
  | skip _ _ ih =>
      rw [List.length_cons]
      omega
  | visit _ _ _ belowLe laterLe =>
      simp only [List.length_cons, List.length_append, childCount, childCount_append]
      omega

/-- There is a walk over all operands whose roots are in a finite list that no step leaves.
Witness: induction on the number of values of this list that are not avoided, and on the pending
operands. What a visit avoids is more, for the operands below as for those that follow.
-/
theorem exists_of_stored {roots : List Operand}
    (stored : ∀ value, ∀ child ∈ (step value).children, root child ∈ roots)
    : ∀ (avoided pending : List Operand), (∀ child ∈ pending, root child ∈ roots)
      → ∃ news, DepthFirst root step avoided pending news := by
  intro avoided
  induction size : (roots.filter fun r => !avoided.contains r).length
    using Nat.strongRecOn generalizing avoided with
  | ind size0 smaller =>
      intro pending
      induction pending with
      | nil => exact fun _ => ⟨[], .done⟩
      | cons child pending ih =>
          intro inRoots
          have laterInRoots : ∀ c ∈ pending, root c ∈ roots :=
            fun c member => inRoots c (List.mem_cons_of_mem _ member)
          by_cases old : root child ∈ avoided
          · obtain ⟨news, later⟩ := ih laterInRoots
            exact ⟨news, .skip old later⟩
          · have fewer := length_filter_unvisited_lt old (inRoots child List.mem_cons_self)
            obtain ⟨inner, below⟩ := smaller _ (size ▸ fewer) _ rfl _ (stored (root child))
            have fewerLater
                : (roots.filter
                    fun r => !(inner.reverse ++ root child :: avoided).contains r).length
                  ≤ (roots.filter fun r => !(root child :: avoided).contains r).length := by
              rw [← List.countP_eq_length_filter, ← List.countP_eq_length_filter]
              refine List.countP_mono_left fun r _ unseen => ?_
              simp only [List.contains_eq_mem, List.mem_append, Bool.not_eq_true',
                decide_eq_false_iff_not, not_or] at unseen ⊢
              exact unseen.2
            obtain ⟨outer, later⟩ :=
              smaller _ (size ▸ Nat.lt_of_le_of_lt fewerLater fewer) _ rfl pending laterInRoots
            exact ⟨_, .visit old below later⟩

end DepthFirst

end PointerOrigins
