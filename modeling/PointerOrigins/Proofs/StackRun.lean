import Mathlib.Algebra.BigOperators.Group.Finset.Basic
import Mathlib.Algebra.GroupWithZero.Nat
import PointerOrigins.Proofs.DepthFirst

/-!
The walk with a stack of frames looks at values in depth-first order. A frame is worked off without
regard to the frames under it, so the outcome of a trace is a function of the values looked at: they
are added to what was seen, and the level rises by one for each of their children, as long as levels do
not run out.
-/

namespace PointerOrigins

----------------------------------------------------------------------------------------------
-- Rising levels
----------------------------------------------------------------------------------------------

/-- One level is so many above another, unless levels run out on the way. -/
def Level.RisesBy {δ : Type} [Level δ] (rise : Nat) (low high : δ) : Prop :=
  Fits δ (toNat low + rise) → toNat high = toNat low + rise

namespace Level.RisesBy

variable {δ : Type} [Level δ] {low middle high : δ} {rise more : Nat}

/-- A level is not above itself. -/
theorem refl (level : δ) : RisesBy 0 level level :=
  fun _ => rfl

/-- The next level is one above. -/
theorem next (level : δ) : RisesBy 1 level (Level.next level) :=
  toNat_next level

/-- Rises add up. -/
theorem trans (first : RisesBy rise low middle) (second : RisesBy more middle high)
    : RisesBy (rise + more) low high := by
  intro fits
  have reached : toNat middle = toNat low + rise := first (fits_of_le (by omega) fits)
  have fitsToo : Fits δ (toNat middle + more) := by rwa [reached, Nat.add_assoc]
  rw [second fitsToo, reached, Nat.add_assoc]

/-- The greater one of two levels is the one that has risen. -/
theorem max (rises : RisesBy rise low high) : RisesBy rise low (Max.max low high) := by
  intro fits
  rw [toNat_max, rises fits]
  omega

/-- What has risen above the greater one of a level and itself has risen above the level. -/
theorem of_max_self (rises : RisesBy rise (Max.max low low) high) : RisesBy rise low high := by
  simpa using (refl low).max.trans rises

end Level.RisesBy

----------------------------------------------------------------------------------------------
-- What looking at values leaves behind
----------------------------------------------------------------------------------------------

/-- What has been seen once some more values have been looked at, in this order. -/
def Seen.after (step : Operand → Step) (seen : Seen) (news : List Operand) : Seen :=
  ⟨news.reverse ++ seen.visited, seen.origins ++ news.filter fun value => (step value).stops⟩

section

variable (step : Operand → Step) (seen : Seen) (first second : List Operand)

/-- Looking at nothing changes nothing. -/
@[simp]
theorem Seen.after_nil : seen.after step [] = seen := by
  simp [Seen.after]

/-- Looking at values in two goes is looking at all of them. -/
@[simp]
theorem Seen.after_after
    : (seen.after step first).after step second = seen.after step (first ++ second) := by
  simp [Seen.after]

/-- The values looked at come before those seen earlier. -/
@[simp]
theorem Seen.after_visited : (seen.after step first).visited = first.reverse ++ seen.visited :=
  rfl

end

/-- A visit to a value that was seen does nothing. -/
theorem Graph.visit_old {g : Graph} {value : Operand} {seen : Seen}
    (old : g.canonicalize value ∈ seen.visited)
    : g.visit value seen = (none, seen) := by
  simp [Graph.visit, old]

/-- A visit to a new value that is an origin gives no children. -/
theorem Graph.visit_origin {g : Graph} {value : Operand} {seen : Seen}
    (new : g.canonicalize value ∉ seen.visited)
    (isOrigin : g.step (g.canonicalize value) = .origin)
    : g.visit value seen = (none, seen.after g.step [g.canonicalize value]) := by
  simp [Graph.visit, new, isOrigin, Seen.after, Step.stops]

/-- A visit to any other new value gives its children, even where there are none. -/
theorem Graph.visit_inner {g : Graph} {value : Operand} {seen : Seen}
    (new : g.canonicalize value ∉ seen.visited)
    (goesOn : g.step (g.canonicalize value) ≠ .origin)
    : g.visit value seen
      = (some (g.step (g.canonicalize value)).children,
          seen.after g.step [g.canonicalize value]) := by
  cases stepped : g.step (g.canonicalize value) with
  | origin => exact absurd stepped goesOn
  | through _ => simp [Graph.visit, new, stepped, Seen.after, Step.stops, Step.children]
  | partly _ => simp [Graph.visit, new, stepped, Seen.after, Step.stops, Step.children]

/-- A visit to a new value looks at this value alone. It gives no children where there are none,
and may give none as an empty list.
-/
theorem Graph.visit_new {g : Graph} {value : Operand} {seen : Seen}
    (new : g.canonicalize value ∉ seen.visited)
    : g.visit value seen
        = (some (g.step (g.canonicalize value)).children, seen.after g.step [g.canonicalize value])
      ∨ g.visit value seen = (none, seen.after g.step [g.canonicalize value])
        ∧ (g.step (g.canonicalize value)).children = [] := by
  by_cases isOrigin : g.step (g.canonicalize value) = .origin
  · exact .inr ⟨Graph.visit_origin new isOrigin, by rw [isOrigin]; rfl⟩
  · exact .inl (Graph.visit_inner new isOrigin)

----------------------------------------------------------------------------------------------
-- Runs
----------------------------------------------------------------------------------------------

variable {δ : Type} [Level δ]

/-- A walk gets from one state to another in some number of steps. -/
def Walk.Runs (g : Graph) : Walk δ → Walk δ → Prop :=
  Relation.ReflTransGen fun w after => w.next? g = some after

/-- A walk finishes in the state with an empty stack that it runs to. -/
theorem Walk.finish_of_runs {g : Graph} {w last : Walk δ} (runs : Walk.Runs g w last)
    (done : last.stack = []) (stored : ∀ child ∈ w.pending, child ∈ g.operands)
    : w.finish g stored = last := by
  induction runs using Relation.ReflTransGen.head_induction_on with
  | refl =>
      have stuck : last.next? g = none := by simp [Walk.next?, done]
      rw [Walk.finish]
      split
      · rfl
      · next step => rw [stuck] at step; cases step
  | head step _ ih =>
      rw [Walk.finish]
      split
      · next stuck => rw [stuck] at step; cases step
      · next after stepped =>
          obtain rfl := Option.some.inj (step.symm.trans stepped)
          exact ih _

variable {g : Graph} {seen : Seen} {child : Operand}

/-- A frame without children goes away. -/
theorem Walk.next_pop {rest : List (Frame δ)} {depth reached : δ}
    : (Walk.mk (⟨[], depth⟩ :: rest) reached seen).next? g
      = some ⟨rest, max depth reached, seen⟩ :=
  rfl

/-- A child that was seen before only takes up a level. -/
theorem Walk.next_old {rest : List (Frame δ)} {children : List Operand} {depth reached : δ}
    (old : g.canonicalize child ∈ seen.visited)
    : (Walk.mk (⟨child :: children, depth⟩ :: rest) reached seen).next? g
      = some ⟨⟨children, max depth reached⟩ :: rest, Level.next (max depth reached), seen⟩ := by
  simp [Walk.next?, Graph.visit_old old]

/-- A new child is looked at. Its own children are worked off in a frame above, or there are none
of them and no frame.
-/
theorem Walk.next_new (rest : List (Frame δ)) (children : List Operand) (depth reached : δ)
    (new : g.canonicalize child ∉ seen.visited)
    : let after : Walk δ :=
        ⟨⟨children, max depth reached⟩ :: rest, Level.next (max depth reached),
          seen.after g.step [g.canonicalize child]⟩
      let inner := (g.step (g.canonicalize child)).children
      (Walk.mk (⟨child :: children, depth⟩ :: rest) reached seen).next? g
          = some { after with stack := ⟨inner, after.reached⟩ :: after.stack }
        ∨ (Walk.mk (⟨child :: children, depth⟩ :: rest) reached seen).next? g = some after
          ∧ inner = [] := by
  rcases Graph.visit_new new with visits | ⟨visits, noChildren⟩
  · exact .inl (by simp [Walk.next?, visits])
  · exact .inr ⟨by simp [Walk.next?, visits], noChildren⟩

/-- The frame on top of the stack is worked off in depth-first order, whatever is under it.
Witness: induction on the depth-first walk. The level that the frame has reached is the greater one
of its own and the last one; both rise by one with each child, and by what is below the child.
-/
theorem DepthFirst.runs {avoided pending news : List Operand}
    (walk : DepthFirst g.canonicalize g.step avoided pending news)
    (rest : List (Frame δ)) (depth reached : δ) (seen : Seen) (visited : seen.visited = avoided)
    : ∃ level,
        Walk.Runs g ⟨⟨pending, depth⟩ :: rest, reached, seen⟩ ⟨rest, level, seen.after g.step news⟩
        ∧ Level.RisesBy (pending.length + childCount g.step news) (max depth reached) level := by
  induction walk generalizing rest depth reached seen with
  | done => exact ⟨_, .single (by simp [Walk.next_pop]), .refl _⟩
  | @skip _ first later news old _ ih =>
      let level := max depth reached
      obtain ⟨last, run, rises⟩ := ih rest level (Level.next level) seen visited
      refine ⟨last, .head (Walk.next_old (visited ▸ old)) run, ?_⟩
      have total := (Level.RisesBy.next level).max.trans rises
      rwa [← Nat.add_assoc, Nat.add_comm 1] at total
  | @visit _ first later inner outer new below _ belowRuns laterRuns =>
      let root := g.canonicalize first
      let level := max depth reached
      have isNew : root ∉ seen.visited := visited ▸ new
      -- Both ways of visiting lead here: nothing is left of the child's own frame.
      obtain ⟨levelBelow, throughChild, risesBelow⟩
          : ∃ levelBelow,
              Walk.Runs g ⟨⟨first :: later, depth⟩ :: rest, reached, seen⟩
                ⟨⟨later, level⟩ :: rest, levelBelow, seen.after g.step (root :: inner)⟩
              ∧ Level.RisesBy (1 + ((g.step root).children.length + childCount g.step inner)) level
                  levelBelow := by
        rcases Walk.next_new rest later depth reached isNew with pushes | ⟨stays, noChildren⟩
        · obtain ⟨levelBelow, run, rises⟩ := belowRuns (⟨later, level⟩ :: rest) (Level.next level)
            (Level.next level) (seen.after g.step [root]) (by simp [visited, root])
          rw [Seen.after_after] at run
          refine ⟨levelBelow, .head pushes run, ?_⟩
          exact (Level.RisesBy.next level).trans rises.of_max_self
        · have noInner : inner = [] := by
            rw [noChildren] at below
            cases below
            rfl
          refine ⟨Level.next level, .single ?_, ?_⟩
          · simp [stays, noInner, root, level]
          · simpa [noInner, noChildren, root] using Level.RisesBy.next level
      obtain ⟨last, run, rises⟩ := laterRuns rest level levelBelow
        (seen.after g.step (root :: inner)) (by simp [visited, root])
      rw [Seen.after_after] at run
      refine ⟨last, throughChild.trans run, ?_⟩
      have total := risesBelow.max.trans rises
      have count : 1 + ((g.step root).children.length + childCount g.step inner)
            + (later.length + childCount g.step outer)
          = (first :: later).length + childCount g.step (root :: (inner ++ outer)) := by
        simp only [List.length_cons, childCount, childCount_append]
        omega
      rwa [count] at total

----------------------------------------------------------------------------------------------
-- Outcomes
----------------------------------------------------------------------------------------------

/-- A trace ends at once if its visit gives no children. -/
theorem Graph.traceWith_of_visit_none {value : Operand} {after : Seen} {depth : δ}
    (visits : g.visit value seen = (none, after))
    : g.traceWith value depth seen = (depth, after) := by
  simp only [Graph.traceWith]
  split
  · next none =>
      obtain ⟨_, rfl⟩ := Prod.mk.inj (visits.symm.trans none)
      rfl
  · next some => cases visits.symm.trans some

/-- A trace ends where the walk over the children that its visit gives ends. -/
theorem Graph.traceWith_of_visit_some {value : Operand} {children : List Operand} {after : Seen}
    {depth : δ} {last : Walk δ} (visits : g.visit value seen = (some children, after))
    (runs : Walk.Runs g (.start children depth after) last) (done : last.stack = [])
    : g.traceWith value depth seen = (last.reached, last.seen) := by
  simp only [Graph.traceWith]
  split
  · next none => cases visits.symm.trans none
  · next some =>
      cases visits.symm.trans some
      rw [Walk.finish_of_runs runs done]

/-- The outcome of a trace, from the values in depth-first order. -/
theorem Graph.traceWith_of_depthFirst {value : Operand} {news : List Operand}
    (walk : DepthFirst g.canonicalize g.step seen.visited [value] news) (depth : δ)
    : ∃ level,
        g.traceWith value depth seen = (level, seen.after g.step news)
        ∧ Level.RisesBy (childCount g.step news) depth level := by
  cases walk with
  | skip old later =>
      cases later
      exact ⟨depth, by simp [Graph.traceWith_of_visit_none (Graph.visit_old old)], .refl _⟩
  | visit new below later =>
      cases later
      rcases Graph.visit_new new with visits | ⟨visits, noChildren⟩
      · obtain ⟨level, run, rises⟩ :=
          below.runs [] depth depth (seen.after g.step [g.canonicalize value]) (by simp)
        refine ⟨level, ?_, ?_⟩
        · rw [Graph.traceWith_of_visit_some visits run rfl]
          simp
        · simpa using rises.of_max_self
      · rw [noChildren] at below
        cases below
        refine ⟨depth, by simp [Graph.traceWith_of_visit_none visits], ?_⟩
        simpa [noChildren] using Level.RisesBy.refl depth

/-- Every step leads into the finite list of stored operands, whatever their order. -/
theorem Graph.exists_depthFirst (g : Graph) {step : Operand → Step}
    (reordered : ∀ value, ∀ child ∈ (step value).children, child ∈ (g.step value).children)
    (avoided : List Operand) (value : Operand)
    : ∃ news, DepthFirst g.canonicalize step avoided [value] news := by
  let roots := g.canonicalize value :: g.operands.map g.canonicalize
  have stored : ∀ x, ∀ child ∈ (step x).children, g.canonicalize child ∈ roots := by
    intro x child isChild
    have inGraph : child ∈ g.operands := step_children_mem (reordered x child isChild)
    exact List.mem_cons_of_mem _ (List.mem_map_of_mem inGraph)
  exact DepthFirst.exists_of_stored stored avoided [value] (by simp [roots])

/-- The number of children of some values is a sum over them. -/
theorem childCount_eq_sum (step : Operand → Step) (values : List Operand)
    : childCount step values = (values.map fun x => (step x).children.length).sum := by
  induction values with
  | nil => rfl
  | cons value rest ih => rw [childCount, ih, List.map_cons, List.sum_cons]

end PointerOrigins
