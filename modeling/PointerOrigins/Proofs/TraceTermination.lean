import Mathlib.Data.Finite.Prod
import PointerOrigins.Proofs.OriginKinds
import PointerOrigins.Proofs.ResolvedValues

/-!
Traces end, on every module. The stack of a walk and its pending children both grow on the way, and neither a
check of the module nor its call graph keeps a walk from going round in circles. It ends since each value
behind casts is visited once. What a visit adds to the work is worked off one unit an iteration, so the number
of iterations is what the visited values add up to; and the values there are to visit stand behind at most six
casts of operands that the module has.
-/

namespace PointerOrigins

/-- One iteration of the loop. The frame on top goes away if it has no children left; otherwise it loses its
next child. Only a child with a new value behind its casts, which then is seen, has a frame put on top.
-/
inductive Walk.Iterates {δ : Type} [Level δ] (g : Graph) : Walk δ → Walk δ → Prop
  | pops {rest depth reached seen}
    : Iterates g ⟨⟨[], depth⟩ :: rest, reached, seen⟩ ⟨rest, max depth reached, seen⟩
  | skips {child children rest depth reached seen} (old : g.canonicalize child ∈ seen.visited)
    : Iterates g ⟨⟨child :: children, depth⟩ :: rest, reached, seen⟩
        ⟨⟨children, max depth reached⟩ :: rest, Level.next (max depth reached), seen⟩
  | ends {child children rest depth reached seen} (new : g.canonicalize child ∉ seen.visited)
    (isOrigin : g.step (g.canonicalize child) = .origin)
    : Iterates g ⟨⟨child :: children, depth⟩ :: rest, reached, seen⟩
        ⟨⟨children, max depth reached⟩ :: rest, Level.next (max depth reached),
          seen.after g.step [g.canonicalize child]⟩
  | pushes {child children rest depth reached seen} (new : g.canonicalize child ∉ seen.visited)
    (goesOn : g.step (g.canonicalize child) ≠ .origin)
    : Iterates g ⟨⟨child :: children, depth⟩ :: rest, reached, seen⟩
        ⟨⟨(g.step (g.canonicalize child)).children, Level.next (max depth reached)⟩
            :: ⟨children, max depth reached⟩ :: rest,
          Level.next (max depth reached), seen.after g.step [g.canonicalize child]⟩

/-- A walk gets from one state to another in exactly so many iterations. -/
inductive Walk.RunsIn {δ : Type} [Level δ] (g : Graph) : Nat → Walk δ → Walk δ → Prop
  | done {w} : RunsIn g 0 w w
  | next {count w after last} (iterates : w.next? g = some after) (rest : RunsIn g count after last)
    : RunsIn g (count + 1) w last

/-- The iterations that a visit to a new value adds: one for its frame and one for each of its children, where
a frame is made for it.
-/
def Graph.iterations (g : Graph) (value : Operand) : Nat :=
  match g.step value with
  | .origin => 0
  | .through children => children.length + 1
  | .partly children => children.length + 1

/-- A value that is no origin adds its frame and its children. -/
theorem Graph.iterations_of_inner {g : Graph} {value : Operand} (goesOn : g.step value ≠ .origin)
    : g.iterations value = (g.step value).children.length + 1 := by
  cases stepped : g.step value with
  | origin => exact absurd stepped goesOn
  | through _ => simp [iterations, stepped, Step.children]
  | partly _ => simp [iterations, stepped, Step.children]

namespace Walk

variable {δ : Type} [Level δ] {g : Graph} {w after last : Walk δ}

/-- The loop goes on for as long as there are frames. -/
theorem next_eq_none_iff : w.next? g = none ↔ w.stack = [] := by
  rcases w with ⟨_ | ⟨⟨_ | ⟨child, children⟩, depth⟩, rest⟩, reached, seen⟩
  · simp [next?]
  · simp [next?]
  · simp only [next?, reduceCtorEq, iff_false]
    split <;> simp

/-- The next state of a walk is what an iteration makes of it. -/
theorem next_eq_some_iff : w.next? g = some after ↔ Iterates g w after := by
  constructor
  · intro next
    rcases w with ⟨_ | ⟨⟨_ | ⟨child, children⟩, depth⟩, rest⟩, reached, seen⟩
    · cases next
    · obtain rfl := Option.some.inj next
      exact .pops
    · by_cases old : g.canonicalize child ∈ seen.visited
      · obtain rfl := Option.some.inj ((next_old old).symm.trans next)
        exact .skips old
      · by_cases isOrigin : g.step (g.canonicalize child) = .origin
        · simp only [next?, Graph.visit_origin old isOrigin, Option.some.injEq] at next
          subst next
          exact .ends old isOrigin
        · simp only [next?, Graph.visit_inner old isOrigin, Option.some.injEq] at next
          subst next
          exact .pushes old isOrigin
  · intro iterates
    cases iterates with
    | pops => exact next_pop
    | skips old => exact next_old old
    | ends new isOrigin => simp [next?, Graph.visit_origin new isOrigin]
    | pushes new goesOn => simp [next?, Graph.visit_inner new goesOn]

end Walk

----------------------------------------------------------------------------------------------
-- Counting iterations
----------------------------------------------------------------------------------------------

/-- What so many iterations have done: they visited the values `news`, each of which stands behind the casts of
a stored operand, and worked off one unit each.
-/
structure Walk.Account {δ : Type} (g : Graph) (count : Nat) (w last : Walk δ) (news : List Operand)
    : Prop where
  seen : last.seen = w.seen.after g.step news
  work : count + last.work = w.work + (news.map g.iterations).sum
  nodup : news.Nodup
  fresh : ∀ x ∈ news, x ∉ w.seen.visited
  stored : ∀ x ∈ news, ∃ op ∈ g.operands, g.canonicalize op = x

namespace Walk

variable {δ : Type} {g : Graph} {w middle after last : Walk δ} {count more : Nat}
  {first second : List Operand}

/-- Iterations that visit nothing are accounted for by the work they do. -/
theorem Account.of_seen (seen : last.seen = w.seen) (work : count + last.work = w.work)
    : Account g count w last [] :=
  ⟨by simp [seen], by simp [work], List.nodup_nil, by simp, by simp⟩

/-- The accounts of two runs add up. -/
theorem Account.trans (earlier : Account g count w middle first)
    (later : Account g more middle last second)
    : Account g (count + more) w last (first ++ second) where
  seen := by rw [later.seen, earlier.seen, Seen.after_after]
  work := by
    have ofEarlier := earlier.work
    have ofLater := later.work
    rw [List.map_append, List.sum_append]
    omega
  nodup := by
    refine List.nodup_append.2 ⟨earlier.nodup, later.nodup, ?_⟩
    rintro x inFirst _ inSecond rfl
    refine later.fresh x inSecond ?_
    rw [earlier.seen, Seen.after_visited]
    exact List.mem_append_left _ (List.mem_reverse.2 inFirst)
  fresh := by
    intro x member old
    rcases List.mem_append.1 member with inFirst | inSecond
    · exact earlier.fresh x inFirst old
    · refine later.fresh x inSecond ?_
      rw [earlier.seen, Seen.after_visited]
      exact List.mem_append_right _ old
  stored := by
    intro x member
    rcases List.mem_append.1 member with inFirst | inSecond
    · exact earlier.stored x inFirst
    · exact later.stored x inSecond

variable [Level δ]

/-- One iteration works off one unit, and adds the iterations of the value that it visits. -/
theorem Iterates.account (iterates : Iterates g w after)
    (stored : ∀ child ∈ w.pending, child ∈ g.operands)
    : ∃ news, Account g 1 w after news := by
  cases iterates with
  | pops => exact ⟨[], .of_seen rfl (by simp [work, pending]; omega)⟩
  | skips => exact ⟨[], .of_seen rfl (by simp [work, pending]; omega)⟩
  | @ends child _ _ _ _ _ new isOrigin =>
      have isStored : child ∈ g.operands := stored child (by simp [pending])
      refine ⟨[g.canonicalize child], rfl, ?_, List.nodup_singleton _, by simpa using new, ?_⟩
      · simp [work, pending, Graph.iterations, isOrigin]
        omega
      · simpa using ⟨child, isStored, rfl⟩
  | @pushes child _ _ _ _ _ new goesOn =>
      have isStored : child ∈ g.operands := stored child (by simp [pending])
      have adds := Graph.iterations_of_inner goesOn
      refine ⟨[g.canonicalize child], rfl, ?_, List.nodup_singleton _, by simpa using new, ?_⟩
      · simp [work, pending, adds]
        omega
      · simpa using ⟨child, isStored, rfl⟩

/-- A run is accounted for. Witness: induction on the run, with the pending children among the stored operands.
-/
theorem RunsIn.account (run : RunsIn g count w last)
    (stored : ∀ child ∈ w.pending, child ∈ g.operands)
    : ∃ news, Account g count w last news := by
  induction run with
  | done => exact ⟨[], .of_seen rfl (Nat.zero_add _)⟩
  | @next count _ _ _ next _ ih =>
      obtain ⟨first, ofStep⟩ := (next_eq_some_iff.1 next).account stored
      obtain ⟨second, ofRest⟩ := ih (pending_next stored next)
      rw [Nat.add_comm count]
      exact ⟨_, ofStep.trans ofRest⟩

/-- No run is longer than one that ends without frames. -/
theorem RunsIn.le_of_done (run : RunsIn g count w last) (done : last.stack = [])
    (other : RunsIn g more w after)
    : more ≤ count := by
  induction run generalizing more with
  | done =>
      cases other with
      | done => exact Nat.le_refl _
      | next iterates => rw [next_eq_none_iff.2 done] at iterates; cases iterates
  | next iterates _ ih =>
      cases other with
      | done => exact Nat.zero_le _
      | next again rest =>
          obtain rfl := Option.some.inj (iterates.symm.trans again)
          exact Nat.succ_le_succ (ih done rest)

/-- A counted run is a run. -/
theorem RunsIn.runs (run : RunsIn g count w last) : Runs g w last := by
  induction run with
  | done => exact .refl
  | next iterates _ ih => exact .head iterates ih

/-- Every walk over stored operands runs out of frames. Witness: the recursion of the loop, in which each
iteration visits one of finitely many values or uses up work.
-/
theorem exists_done (g : Graph) (w : Walk δ) (stored : ∀ child ∈ w.pending, child ∈ g.operands)
    : ∃ count last, RunsIn g count w last ∧ last.stack = [] := by
  induction w, stored using finish.induct with
  | case1 w stored ends => exact ⟨0, w, .done, next_eq_none_iff.1 ends⟩
  | case2 w stored after iterates ih =>
      obtain ⟨count, last, run, done⟩ := ih
      exact ⟨count + 1, last, .next iterates run, done⟩

end Walk

----------------------------------------------------------------------------------------------
-- The values there are to visit
----------------------------------------------------------------------------------------------

namespace Graph

variable {δ : Type} {g : Graph} {m : Module} {value x : Operand} {count : Nat}
  {seen after : Seen} {children : List Operand}

/-- What so many stripped casts lead to is what stripping finds. -/
theorem Strips.eq_stripUpTo (strips : g.Strips count value x) : g.stripUpTo count value = x := by
  induction strips with
  | done => rfl
  | cast isCast _ ih => simp only [stripUpTo, isCast, ih]

/-- At most six casts in front of the value, there is an operand that the module has. -/
def BehindOperand (m : Module) (x : Operand) : Prop :=
  ∃ op, m.HasOperand op ∧ ∃ count ≤ 6, (Graph.ofModule m).Strips count op x

/-- The value behind the casts of a stored operand stands at most six casts behind it. -/
theorem behindOperand_of_stored (stored : value ∈ (Graph.ofModule m).operands)
    : BehindOperand m ((Graph.ofModule m).canonicalize value) := by
  have isOperand := Module.uses_iff_hasOperand.1 (uses_of_mem_operands stored)
  obtain ⟨count, within, strips, _⟩ := (Graph.ofModule m).stripUpTo_strips maxLookThrough value
  exact ⟨value, isOperand, count, within, strips⟩

/-- There are finitely many values behind the operands of a module. -/
theorem finite_behindOperand (m : Module) : {x | BehindOperand m x}.Finite := by
  let listed := m.functions.flatMap fun entry => entry.2.operands
  have pairs := (List.finite_toSet listed).prod (Set.finite_le_nat 6)
  refine (pairs.image fun pair => (Graph.ofModule m).stripUpTo pair.2 pair.1).subset ?_
  rintro x ⟨op, isOperand, count, within, strips⟩
  obtain ⟨entry, isDefined, uses⟩ := Module.uses_iff_hasOperand.2 isOperand
  exact ⟨(op, count), ⟨List.mem_flatMap.2 ⟨entry, isDefined, uses⟩, within⟩, strips.eq_stripUpTo⟩

/-- A visit that gives children has seen a new value, and they are worked off in as many iterations as this
value adds.
-/
theorem visit_eq_some (visits : g.visit value seen = (some children, after)) (depth : δ)
    : g.canonicalize value ∉ seen.visited
      ∧ after = seen.after g.step [g.canonicalize value]
      ∧ (∀ child ∈ (Walk.start children depth after).pending, child ∈ g.operands)
      ∧ (Walk.start children depth after).work = g.iterations (g.canonicalize value) := by
  by_cases old : g.canonicalize value ∈ seen.visited
  · cases (visit_old old).symm.trans visits
  · by_cases isOrigin : g.step (g.canonicalize value) = .origin
    · cases (visit_origin old isOrigin).symm.trans visits
    · cases (visit_inner old isOrigin).symm.trans visits
      refine ⟨old, rfl, ?_, ?_⟩
      · intro child member
        exact step_children_mem (by simpa [Walk.start, Walk.pending] using member)
      · rw [iterations_of_inner isOrigin]
        simp [Walk.start, Walk.work, Walk.pending, Nat.add_comm]

/-- A visit that gives no children has seen at most the value itself. -/
theorem visit_eq_none (visits : g.visit value seen = (none, after))
    : after = seen
      ∨ g.canonicalize value ∉ seen.visited
        ∧ after = seen.after g.step [g.canonicalize value] := by
  by_cases old : g.canonicalize value ∈ seen.visited
  · cases (visit_old old).symm.trans visits
    exact .inl rfl
  · by_cases isOrigin : g.step (g.canonicalize value) = .origin
    · cases (visit_origin old isOrigin).symm.trans visits
      exact .inr ⟨old, rfl⟩
    · cases (visit_inner old isOrigin).symm.trans visits

variable [Level δ]

/-- The children that a visit gives are worked off in as many iterations as the visited values add. -/
theorem exists_run_of_visit (visits : g.visit value seen = (some children, after)) (depth : δ)
    : ∃ news last,
        Walk.RunsIn g (news.map g.iterations).sum (.start children depth after) last
        ∧ last.stack = []
        ∧ last.seen = seen.after g.step news
        ∧ news.Nodup
        ∧ ∀ x ∈ news,
            x ∉ seen.visited
            ∧ (x = g.canonicalize value ∨ ∃ op ∈ g.operands, g.canonicalize op = x) := by
  obtain ⟨new, rfl, stored, startWork⟩ := visit_eq_some visits depth
  obtain ⟨count, last, run, done⟩ := Walk.exists_done g _ stored
  obtain ⟨below, account⟩ := run.account stored
  have avoids : ∀ x ∈ below, x ≠ g.canonicalize value ∧ x ∉ seen.visited := by
    intro x member
    simpa [Walk.start, Seen.after] using account.fresh x member
  have total : count = ((g.canonicalize value :: below).map g.iterations).sum := by
    have worked := account.work
    have noWork : last.work = 0 := by simp [Walk.work, Walk.pending, done]
    rw [startWork, noWork] at worked
    simpa using worked
  subst total
  refine ⟨_, last, run, done, ?_, ?_, ?_⟩
  · rw [account.seen]
    simp [Walk.start]
  · exact List.nodup_cons.2 ⟨fun again => (avoids _ again).1 rfl, account.nodup⟩
  · intro x member
    rcases List.mem_cons.1 member with rfl | inBelow
    · exact ⟨new, .inl rfl⟩
    · exact ⟨(avoids x inBelow).2, .inr (account.stored x inBelow)⟩

/-- Every trace ends, whatever the module, the value, the depth and what was seen before. Each iteration takes a
frame away or the next child of one, and makes a frame only for a value that was not visited before; apart from
the traced one, the values that are visited are among finitely many, each at most six casts behind an operand of
the module. So the loop runs out of frames, after as many iterations as the visited values add and no more.
-/
theorem traceWith_terminates (m : Module) (value : Operand) (depth : δ) (seen : Seen)
    : let g := Graph.ofModule m
      (∀ w : Walk δ, w.next? g = none ↔ w.stack = [])
      ∧ (∀ w after : Walk δ, w.next? g = some after ↔ Walk.Iterates g w after)
      ∧ {x | BehindOperand m x}.Finite
      ∧ ∃ news : List Operand,
          (g.traceWith value depth seen).2 = seen.after g.step news
          ∧ news.Nodup
          ∧ (∀ x ∈ news, x ∉ seen.visited ∧ (x = g.canonicalize value ∨ BehindOperand m x))
          ∧ (∀ after,
              g.visit value seen = (none, after) → g.traceWith value depth seen = (depth, after))
          ∧ ∀ children after,
              g.visit value seen = (some children, after)
              → ∃ last,
                  Walk.RunsIn g (news.map g.iterations).sum (.start children depth after) last
                  ∧ last.stack = []
                  ∧ g.traceWith value depth seen = (last.reached, last.seen)
                  ∧ ∀ count w,
                      Walk.RunsIn g count (.start children depth after) w
                      → count ≤ (news.map g.iterations).sum := by
  intro g
  refine ⟨fun _ => Walk.next_eq_none_iff, fun _ _ => Walk.next_eq_some_iff, finite_behindOperand m, ?_⟩
  rcases visits : g.visit value seen with ⟨_ | children, after⟩
  · have result : g.traceWith value depth seen = (depth, after) := traceWith_of_visit_none visits
    obtain ⟨news, sees, nodup, fresh⟩
        : ∃ news,
            after = seen.after g.step news
            ∧ news.Nodup
            ∧ ∀ x ∈ news, x ∉ seen.visited ∧ x = g.canonicalize value := by
      rcases visit_eq_none visits with rfl | ⟨new, rfl⟩
      · exact ⟨[], by simp⟩
      · exact ⟨[g.canonicalize value], by simp [new]⟩
    refine ⟨news, by rw [result, sees], nodup, fun x member => ?_, ?_, fun _ _ same => (by cases same)⟩
    · exact ⟨(fresh x member).1, .inl (fresh x member).2⟩
    · rintro _ ⟨⟩
      exact result
  · obtain ⟨news, last, run, done, sees, nodup, met⟩ := exists_run_of_visit visits depth
    have result := traceWith_of_visit_some visits run.runs done
    refine ⟨news, by rw [result, sees], nodup, fun x member => ?_, fun _ same => (by cases same), ?_⟩
    · obtain ⟨fresh, isTraced | ⟨op, stored, rfl⟩⟩ := met x member
      · exact ⟨fresh, .inl isTraced⟩
      · exact ⟨fresh, .inr (behindOperand_of_stored stored)⟩
    · rintro _ _ ⟨⟩
      exact ⟨last, run, done, result, fun _ _ other => run.le_of_done done other⟩

end Graph

end PointerOrigins
