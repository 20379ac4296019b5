import PointerOrigins.Tracing.Graph

/-!
Tracing a value back to its origins.

The walk is depth first, with children in operand order and an explicit stack of frames. Each value
behind casts is looked at once; a value that was seen before contributes nothing, so cycles are cut
off. The walk is given one step at a time (`Walk.next?`); it ends because every step sees a new value
of a finite list, or uses up pending work.

Levels are counted in natural numbers where a trace starts at level zero, and in machine words where its
depth is given. Words wrap around; a walk is the same for both but for its levels.
-/

namespace PointerOrigins

----------------------------------------------------------------------------------------------
-- Levels
----------------------------------------------------------------------------------------------

/-- Numbers that can count the levels of a walk. They may run out: the level after a level has the next number
only if that number fits.
-/
class Level (δ : Type) extends Max δ where
  next : δ → δ
  toNat : δ → Nat
  Fits : Nat → Prop
  toNat_max (a b : δ) : toNat (max a b) = Max.max (toNat a) (toNat b)
  toNat_next (a : δ) : Fits (toNat a + 1) → toNat (next a) = toNat a + 1
  fits_of_le {few many : Nat} : few ≤ many → Fits many → Fits few

/-- Natural numbers never run out. -/
instance : Level Nat where
  next n := n + 1
  toNat n := n
  Fits _ := True
  toNat_max _ _ := rfl
  toNat_next _ _ := rfl
  fits_of_le _ _ := trivial

/-- Words start again at zero after the last one. -/
instance : Level UInt64 where
  next word := word + 1
  toNat := UInt64.toNat
  Fits n := n < UInt64.size
  toNat_max a b := by
    rw [Nat.max_def]
    exact apply_ite UInt64.toNat (a ≤ b) b a
  toNat_next word fits := by
    rw [UInt64.toNat_add]
    exact Nat.mod_eq_of_lt fits
  fits_of_le := Nat.lt_of_le_of_lt

----------------------------------------------------------------------------------------------
-- State
----------------------------------------------------------------------------------------------

/-- What walks have seen so far. -/
structure Seen where
  /-- The values looked at, the latest first. -/
  visited : List Operand
  /-- The origins found, in the order in which they were found. -/
  origins : List Operand
deriving DecidableEq, Repr, Inhabited

/-- Nothing has been seen. -/
def Seen.empty : Seen :=
  ⟨[], []⟩

/-- Values that are taken as seen from the start, each of them once. -/
def Seen.ofList (values : List Operand) : Seen :=
  ⟨values.foldl (fun visited value => if visited.contains value then visited else value :: visited) [], []⟩

/-- A value whose children are being walked. -/
structure Frame (δ : Type) where
  children : List Operand
  depth : δ
deriving DecidableEq, Repr, Inhabited

/-- A walk under way: the frames from the innermost outwards, and the level reached last. -/
structure Walk (δ : Type) where
  stack : List (Frame δ)
  reached : δ
  seen : Seen
deriving DecidableEq, Repr, Inhabited

----------------------------------------------------------------------------------------------
-- One step
----------------------------------------------------------------------------------------------

/-- Looks at the value behind the casts of an operand. Gives the values to walk next, if the value
is new and leads to any.
-/
def Graph.visit (g : Graph) (value : Operand) (seen : Seen) : Option (List Operand) × Seen :=
  let root := g.canonicalize value
  if seen.visited.contains root then (none, seen)
  else
    match g.step root with
    | .origin => (none, ⟨root :: seen.visited, seen.origins ++ [root]⟩)
    | .through children => (some children, ⟨root :: seen.visited, seen.origins⟩)
    | .partly children => (some children, ⟨root :: seen.visited, seen.origins ++ [root]⟩)

namespace Walk

variable {δ : Type} [Level δ]

/-- The next state of a walk: the innermost frame loses a child or goes away. Siblings share a
running depth, each child being one level below what its parent and earlier siblings reached.
-/
def next? (g : Graph) (w : Walk δ) : Option (Walk δ) :=
  match w.stack with
  | [] => none
  | frame :: rest =>
      let depth := max frame.depth w.reached
      match frame.children with
      | [] => some ⟨rest, depth, w.seen⟩
      | child :: children =>
          match g.visit child w.seen with
          | (some inner, seen) =>
              some ⟨⟨inner, Level.next depth⟩ :: ⟨children, depth⟩ :: rest, Level.next depth, seen⟩
          | (none, seen) => some ⟨⟨children, depth⟩ :: rest, Level.next depth, seen⟩

/-- The values still to be walked. -/
def pending (w : Walk δ) : List Operand :=
  w.stack.flatMap Frame.children

/-- The work on the stack: one unit per frame and one per pending child. -/
def work (w : Walk δ) : Nat :=
  w.stack.length + w.pending.length

end Walk

----------------------------------------------------------------------------------------------
-- Termination
----------------------------------------------------------------------------------------------

variable {δ : Type} [Level δ]

/-- How many stored values, behind their casts, have not been visited. -/
def Graph.unvisited (g : Graph) (visited : List Operand) : Nat :=
  ((g.operands.map g.canonicalize).filter fun root => !visited.contains root).length

/-- Visiting one more value of a list leaves fewer of its values unvisited. -/
theorem length_filter_unvisited_lt {root : Operand} {visited : List Operand}
    (new : root ∉ visited)
    : ∀ {roots : List Operand}, root ∈ roots →
      (roots.filter fun r => !(root :: visited).contains r).length <
        (roots.filter fun r => !visited.contains r).length := by
  have le : ∀ roots : List Operand,
      (roots.filter fun r => !(root :: visited).contains r).length ≤
        (roots.filter fun r => !visited.contains r).length := by
    intro roots
    rw [← List.countP_eq_length_filter, ← List.countP_eq_length_filter]
    refine List.countP_mono_left fun r _ unseen => ?_
    simp only [List.contains_cons, Bool.not_or, Bool.and_eq_true] at unseen
    exact unseen.2
  intro roots member
  induction roots with
  | nil => exact absurd member List.not_mem_nil
  | cons head tail ih =>
      have tailLe := le tail
      by_cases same : head = root
      · subst same
        rw [List.filter_cons_of_neg (by simp), List.filter_cons_of_pos (by simp [new])]
        exact Nat.lt_succ_of_le tailLe
      · have inTail : root ∈ tail := by
          rcases List.mem_cons.1 member with eq | inTail
          · exact absurd eq.symm same
          · exact inTail
        have tailLt := ih inTail
        by_cases old : head ∈ visited <;> simp_all

/-- A visit either leaves what was seen alone, or adds the value behind the casts. -/
theorem Graph.visit_visited (g : Graph) (value : Operand) (seen : Seen)
    : g.visit value seen = (none, seen) ∨
      (g.canonicalize value ∉ seen.visited ∧
        (g.visit value seen).2.visited = g.canonicalize value :: seen.visited ∧
        ∀ children, (g.visit value seen).1 = some children →
          ∀ child ∈ children, child ∈ g.operands) := by
  rw [visit]
  by_cases old : g.canonicalize value ∈ seen.visited
  · left
    simp [old]
  · right
    refine ⟨old, ?_⟩
    simp only [List.contains_eq_mem, old, decide_false, Bool.false_eq_true, if_false]
    have stored : ∀ child ∈ (g.step (g.canonicalize value)).children, child ∈ g.operands :=
      fun _ member => step_children_mem member
    split <;> rename_i eq <;> rw [eq] at stored <;>
      simp only [Option.some.injEq, reduceCtorEq, false_implies, implies_true, true_and, and_true]
    all_goals
      intro children same
      subst same
      exact stored

/-- A step keeps the pending values among the stored ones. -/
theorem Walk.pending_next {g : Graph} {w after : Walk δ}
    (stored : ∀ child ∈ w.pending, child ∈ g.operands) (step : w.next? g = some after)
    : ∀ child ∈ after.pending, child ∈ g.operands := by
  obtain ⟨stack, reached, seen⟩ := w
  match stack, step, stored with
  | ⟨[], _⟩ :: rest, step, stored =>
      obtain rfl := Option.some.inj step
      exact stored
  | ⟨head :: children, depth⟩ :: rest, step, stored =>
      have restStored : ∀ child ∈ children ++ rest.flatMap Frame.children, child ∈ g.operands :=
        fun child member => stored child (List.mem_cons_of_mem _ member)
      simp only [next?] at step
      split at step
      · next inner _ visits =>
          obtain rfl := Option.some.inj step
          rcases g.visit_visited head seen with same | ⟨_, _, into⟩
          · rw [same] at visits
            exact absurd (congrArg Prod.fst visits) (by simp)
          · intro child member
            rcases List.mem_append.1 member with own | other
            · exact into inner (by rw [visits]) child own
            · exact restStored child other
      · obtain rfl := Option.some.inj step
        exact restStored

/-- A step visits a stored value that is new, or uses up work. -/
theorem Walk.next_decreases {g : Graph} {w after : Walk δ}
    (stored : ∀ child ∈ w.pending, child ∈ g.operands) (step : w.next? g = some after)
    : Prod.Lex (· < ·) (· < ·)
        (g.unvisited after.seen.visited, after.work) (g.unvisited w.seen.visited, w.work) := by
  obtain ⟨stack, reached, seen⟩ := w
  match stack, step, stored with
  | ⟨[], _⟩ :: rest, step, _ =>
      obtain rfl := Option.some.inj step
      exact Prod.Lex.right _ (by simp [work, pending])
  | ⟨head :: children, depth⟩ :: rest, step, stored =>
      have headStored : head ∈ g.operands := stored head List.mem_cons_self
      have sees : after.seen = (g.visit head seen).2 ∧
          (g.visit head seen = (none, seen) →
            after.work < (Walk.mk (⟨head :: children, depth⟩ :: rest) reached seen).work) := by
        simp only [next?] at step
        split at step
        · next visits =>
            obtain rfl := Option.some.inj step
            refine ⟨by rw [visits], fun same => ?_⟩
            rw [same] at visits
            exact absurd (congrArg Prod.fst visits) (by simp)
        · next visits =>
            obtain rfl := Option.some.inj step
            exact ⟨by rw [visits], fun _ => by simp [work, pending]⟩
      rcases g.visit_visited head seen with same | ⟨new, adds, _⟩
      · have eq : after.seen = seen := by rw [sees.1, same]
        rw [eq]
        exact Prod.Lex.right _ (sees.2 same)
      · refine Prod.Lex.left _ _ ?_
        rw [sees.1, adds]
        exact length_filter_unvisited_lt new (List.mem_map.2 ⟨head, headStored, rfl⟩)

----------------------------------------------------------------------------------------------
-- The whole walk
----------------------------------------------------------------------------------------------

/-- Walks until nothing is pending. -/
def Walk.finish (g : Graph) (w : Walk δ) (stored : ∀ child ∈ w.pending, child ∈ g.operands) : Walk δ :=
  match step : w.next? g with
  | none => w
  | some after => after.finish g (pending_next stored step)
termination_by (g.unvisited w.seen.visited, w.work)
decreasing_by exact next_decreases stored step

/-- The walk from the children of one value, at a given depth. -/
def Walk.start (children : List Operand) (depth : δ) (seen : Seen) : Walk δ :=
  ⟨[⟨children, depth⟩], depth, seen⟩

/-- The outcome of a trace that starts afresh. -/
structure Trace where
  /-- Without duplicates, in the order in which they were found. -/
  origins : List Operand
  /-- The deepest level of the walk, where the traced value is at level zero. It is a natural number: no walk
  from level zero gets to the end of the words before it has taken `2 ^ 64` children. -/
  maxDepth : Nat
  /-- The values looked at, the latest first. -/
  visited : List Operand
deriving DecidableEq, Repr, Inhabited

namespace Graph

/-- Traces a value found at some depth of an enclosing walk. What was seen before contributes
nothing. Gives the deepest level reached.
-/
def traceWith (g : Graph) (value : Operand) (depth : δ) (seen : Seen) : δ × Seen :=
  match visits : g.visit value seen with
  | (none, seen) => (depth, seen)
  | (some children, after) =>
      let w := (Walk.start children depth after).finish g (by
        rcases g.visit_visited value seen with same | ⟨_, _, into⟩
        · rw [same] at visits
          exact absurd (congrArg Prod.fst visits) (by simp)
        · intro child member
          refine into children (by rw [visits]) child ?_
          simpa [Walk.pending, Walk.start] using member)
      (w.reached, w.seen)

/-- Traces a value with nothing seen before. -/
def trace (g : Graph) (value : Operand) : Trace :=
  let (reached, seen) := g.traceWith value (0 : Nat) .empty
  ⟨seen.origins, reached, seen.visited⟩

/-- What is told while values are looked at, given the latest first. -/
def notices (g : Graph) (visited : List Operand) : List Notice :=
  visited.reverse.filterMap g.notice?

end Graph

end PointerOrigins
