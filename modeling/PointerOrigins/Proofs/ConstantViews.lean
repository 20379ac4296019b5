import PointerOrigins.Proofs.CastChains
import PointerOrigins.Proofs.HiddenReferences

/-!
Three views of one constant. Calls and checks see the function or global inside any number of wrappers, while a
trace looks through six of them. So up to six wrappers the views agree, and behind more of them a trace ends at
what is left of the constant, although calls and checks still see through it.
-/

namespace PointerOrigins

/-- A value behind whose casts a constant stands has this constant for its only origin. -/
theorem Graph.origins_of_constant {g : Graph} {value : Operand} {c : Constant}
    (root : g.canonicalize value = .constant c)
    : (g.trace value).origins = [.constant c] := by
  have isOrigin : g.step (g.canonicalize value) = .origin := by
    rw [root]
    rfl
  rw [trace, traceWith_of_visit_none (visit_origin (by simp [Seen.empty]) isOrigin), root]
  simp [Seen.after, Seen.empty, step, Step.stops]

namespace Constant

variable {target c : Constant} {path : List Wrapper} {f : FunctionName} {v : GlobalName}

/-- The outermost wrapper of an occurrence, if it keeps the address, is one that is stripped. -/
theorem Occurs.uncons {w : Wrapper} (occurs : Occurs target (w :: path) c) (keeps : w.keepsAddress = true)
    : ∃ inner,
        c.inner? = some inner
        ∧ Occurs target path inner
        ∧ ∀ {part others}, Occurs part others inner → Occurs part (w :: others) c := by
  cases occurs with
  | addrSpaceCast inside => exact ⟨_, rfl, inside, .addrSpaceCast⟩
  | bitCast inside => exact ⟨_, rfl, inside, .bitCast⟩
  | getElementPtr inside => exact ⟨_, rfl, inside, .getElementPtr⟩
  | _ => cases keeps

/-- Stripping so many wrappers leads to what stands inside them, by induction on their number. -/
theorem Occurs.strips (occurs : Occurs target path c) (keeps : ∀ w ∈ path, w.keepsAddress = true) {count : Nat}
    (within : count ≤ path.length)
    : ∃ middle,
        Occurs middle (path.take count) c
        ∧ Occurs target (path.drop count) middle
        ∧ ∀ g : Graph, g.Strips count (.constant c) (.constant middle) := by
  induction count generalizing path c with
  | zero => exact ⟨c, .here, occurs, fun _ => .done⟩
  | succ count ih =>
      cases path with
      | nil => simp at within
      | cons w path =>
          obtain ⟨isKept, keepsRest⟩ := List.forall_mem_cons.1 keeps
          obtain ⟨inner, isInner, inside, around⟩ := occurs.uncons isKept
          obtain ⟨middle, outer, rest, strips⟩ := ih inside keepsRest (Nat.le_of_succ_le_succ within)
          refine ⟨middle, around outer, rest, fun g => .cast ?_ (strips g)⟩
          simp [Graph.strip?, isInner]

/-- What a trace of a constant finds that holds another one inside these wrappers. Up to six wrappers it finds
the constant inside, of an allocating kind; inside more of them, it finds the constant without its six outermost
ones, which is of no such kind.
-/
structure TracedAs (c target : Constant) (path : List Wrapper) (kind : OriginKind) : Prop where
  near
    : path.length ≤ 6
      → ∀ (g : Graph) (classifier : Classifier),
          (g.trace (.constant c)).origins = [.constant target]
          ∧ classifier.classify g (.constant target) = kind
          ∧ kind.isAllocating = true
  far
    : 6 < path.length
      → ∃ rest,
          Occurs rest (path.take 6) c
          ∧ Occurs target (path.drop 6) rest
          ∧ ∀ (g : Graph) (classifier : Classifier),
              (g.trace (.constant c)).origins = [.constant rest]
              ∧ classifier.classify g (.constant rest) = .constant
              ∧ OriginKind.constant.isAllocating = false

/-- Traces find a constant that is no wrapper itself inside up to six wrappers. -/
theorem Occurs.tracedAs (occurs : Occurs target path c) (keeps : ∀ w ∈ path, w.keepsAddress = true)
    (bare : target.inner? = none) (allocating : (Classifier.constant target).isAllocating = true)
    : c.TracedAs target path (Classifier.constant target) where
  near := by
    intro short g classifier
    obtain ⟨middle, _, inside, strips⟩ := occurs.strips keeps le_rfl
    rw [List.drop_length] at inside
    cases inside
    have ends : g.strip? (.constant target) = none := by simp [Graph.strip?, bare]
    have length : g.chainLength (.constant c) ≤ path.length := by
      rw [Graph.chainLength_le_iff, (strips g).eq_stripUpTo, ends]
    have root : g.canonicalize (.constant c) = .constant target := by
      apply (Graph.chainEnds_iff (length.trans (by exact_mod_cast short))).1
      exact ⟨⟨_, strips g⟩, Graph.strip_eq_none_iff.1 ends⟩
    exact ⟨Graph.origins_of_constant root, rfl, allocating⟩
  far := by
    intro long
    obtain ⟨rest, outer, inside, strips⟩ := occurs.strips keeps long.le
    have kind : Classifier.constant rest = .constant := by
      obtain ⟨w, others, left⟩ := List.exists_cons_of_length_pos (l := path.drop 6) (by simpa using long)
      have isKept := keeps w (List.mem_of_mem_drop (left ▸ List.mem_cons_self))
      obtain ⟨inner, isInner, _⟩ := (left ▸ inside).uncons isKept
      cases rest <;> cases isInner <;> rfl
    exact ⟨rest, outer, inside, fun g _ =>
      ⟨Graph.origins_of_constant (strips g).eq_stripUpTo, kind, rfl⟩⟩

theorem Wrapper.keepsAddress_of_isCast {w : Wrapper} (isCast : w.isCast = true) : w.keepsAddress = true := by
  cases w with
  | addrSpaceCast => rfl
  | bitCast => rfl
  | _ => cases isCast

/-- A constant that refers to a function addresses no global. -/
theorem global_of_function (refers : c.function? = some f) : c.global? = none := by
  induction peels_iff.2 refers with
  | function => rfl
  | bitCast inner ih => exact ih (peels_iff.1 inner)
  | addrSpaceCast inner ih => exact ih (peels_iff.1 inner)

/-- A constant refers to a function exactly if it is this function inside casts, and addresses a global exactly
if it is this global inside casts and element addresses; it never does both. Up to six wrappers, whatever their
mix, a trace of the constant finds the function or global and nothing else. Inside more of them it finds what is
left without the outermost six, of a kind that is not allocating. A call of the constant and the check of a module
see the function or global either way.
-/
theorem views_agree (c : Constant)
    : (∀ f,
        c.function? = some f
        ↔ ∃ path, Occurs (.function f) path c ∧ ∀ w ∈ path, w.isCast = true)
      ∧ (∀ v,
          c.global? = some v
          ↔ ∃ path, Occurs (.global v) path c ∧ ∀ w ∈ path, w.keepsAddress = true)
      ∧ (c.function? = none ∨ c.global? = none)
      ∧ (∀ f path,
          Occurs (.function f) path c
          → (∀ w ∈ path, w.isCast = true)
          → c.TracedAs (.function f) path .function
            ∧ (Callee.operand (.constant c)).direct? = some f
            ∧ ∀ (m : Module) user locals,
                m.operandError? user locals (.constant c)
                = if m.knowsFunction f then none else some (.unknownFunction user f))
      ∧ ∀ v path,
          Occurs (.global v) path c
          → (∀ w ∈ path, w.keepsAddress = true)
          → c.TracedAs (.global v) path .global
            ∧ ∀ (m : Module) user locals,
                m.operandError? user locals (.constant c)
                = if m.knowsGlobal v then none else some (.unknownGlobal user v) := by
  have apart : c.function? = none ∨ c.global? = none := by
    cases refers : c.function? with
    | none => exact .inl rfl
    | some f => exact .inr (global_of_function refers)
  refine ⟨fun _ => function_eq_some_iff, fun _ => global_eq_some_iff, apart, ?_, ?_⟩
  · intro f path occurs casts
    have refers : c.function? = some f := function_eq_some_iff.2 ⟨path, occurs, casts⟩
    have keeps := fun w member => Wrapper.keepsAddress_of_isCast (casts w member)
    refine ⟨occurs.tracedAs keeps rfl rfl, refers, fun m user locals => ?_⟩
    simp [Module.operandError?, refers, global_of_function refers]
  · intro v path occurs keeps
    have addresses : c.global? = some v := global_eq_some_iff.2 ⟨path, occurs, keeps⟩
    have noFunction : c.function? = none := apart.resolve_right (by simp [addresses])
    refine ⟨occurs.tracedAs keeps rfl rfl, fun m user locals => ?_⟩
    simp [Module.operandError?, addresses, noFunction]

/-- Seven casts around a function, one more than a trace looks through, and six wrappers around a global. -/
theorem views_agree_deep
    : let main : Constant := .function ⟨0, "main"⟩
      let seven : Constant :=
        .bitCast (.addrSpaceCast (.bitCast (.bitCast (.addrSpaceCast (.bitCast (.addrSpaceCast main))))))
      let casts : List Wrapper :=
        [.bitCast, .addrSpaceCast, .bitCast, .bitCast, .addrSpaceCast, .bitCast, .addrSpaceCast]
      let table : Constant := .global ⟨"table"⟩
      let six : Constant :=
        .getElementPtr (.bitCast (.getElementPtr (.addrSpaceCast (.bitCast (.getElementPtr table)))))
      let wrappers : List Wrapper :=
        [.getElementPtr, .bitCast, .getElementPtr, .addrSpaceCast, .bitCast, .getElementPtr]
      (Occurs main casts seven ∧ ∀ w ∈ casts, w.isCast = true)
      ∧ (Occurs table wrappers six ∧ ∀ w ∈ wrappers, w.keepsAddress = true)
      ∧ (Callee.operand (.constant seven)).direct? = some ⟨0, "main"⟩
      ∧ ∀ g : Graph,
          (g.trace (.constant seven)).origins = [.constant (.addrSpaceCast main)]
          ∧ (g.trace (.constant six)).origins = [.constant table] := by
  intro main seven casts table six wrappers
  have inSeven : Occurs main casts seven :=
    .bitCast (.addrSpaceCast (.bitCast (.bitCast (.addrSpaceCast (.bitCast (.addrSpaceCast .here))))))
  have inSix : Occurs table wrappers six :=
    .getElementPtr (.bitCast (.getElementPtr (.addrSpaceCast (.bitCast (.getElementPtr .here)))))
  have areCasts : ∀ w ∈ casts, w.isCast = true := by decide
  have keep : ∀ w ∈ wrappers, w.keepsAddress = true := by decide
  obtain ⟨_, _, _, function, _⟩ := views_agree seven
  obtain ⟨_, _, _, _, global⟩ := views_agree six
  obtain ⟨tracedFar, direct, _⟩ := function ⟨0, "main"⟩ casts inSeven areCasts
  obtain ⟨tracedNear, _⟩ := global ⟨"table"⟩ wrappers inSix keep
  obtain ⟨rest, _, inside, found⟩ := tracedFar.far (by decide)
  have left : rest = .addrSpaceCast main := by
    cases inside with
    | addrSpaceCast inside =>
        cases inside
        rfl
  refine ⟨⟨inSeven, areCasts⟩, ⟨inSix, keep⟩, direct, fun g => ⟨?_, ?_⟩⟩
  · exact left ▸ (found g (.ofSignatures .empty)).1
  · exact (tracedNear.near (by decide) g (.ofSignatures .empty)).1

end Constant

end PointerOrigins
