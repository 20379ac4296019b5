import Mathlib.Data.ENat.Lattice
import Mathlib.Order.CompletePartialOrder
import PointerOrigins.Proofs.TraceTermination

/-!
How far casts are looked through. The casts in front of a value form a chain, which goes from instructions to
their operands and from constants to their inner parts, and comes back on itself where casts are cyclic. Exactly
the first six casts of a chain are stripped. So nothing is left of chains that are no longer than that, and
where a module has no others, roots are final and no trace ends at a cast.
-/

namespace PointerOrigins

namespace Graph

variable {g : Graph} {value inner x y : Operand} {count more bound : Nat}

/-- A cast, and the value in front of it. Element addresses count among constants only. -/
inductive CastOf (g : Graph) : Operand → Operand → Prop
  | bitCast {name pointer} (found : g.definition? name = some (.instruction (.bitCast pointer)))
    : CastOf g (.instruction name) pointer
  | addrSpaceCast {name pointer} (found : g.definition? name = some (.instruction (.addrSpaceCast pointer)))
    : CastOf g (.instruction name) pointer
  | constantBitCast {c} : CastOf g (.constant (.bitCast c)) (.constant c)
  | constantAddrSpaceCast {c} : CastOf g (.constant (.addrSpaceCast c)) (.constant c)
  | constantGetElementPtr {c} : CastOf g (.constant (.getElementPtr c)) (.constant c)

/-- Stripping leads from a cast to the value in front of it, and from nothing else. -/
theorem strip_eq_some_iff : g.strip? value = some inner ↔ g.CastOf value inner := by
  constructor
  · intro strips
    rcases value with c | (p | name) | _
    · cases c <;> cases strips
      · exact .constantAddrSpaceCast
      · exact .constantBitCast
      · exact .constantGetElementPtr
    · cases strips
    · simp only [strip?] at strips
      split at strips
      · next found =>
          cases strips
          exact .bitCast found
      · next found =>
          cases strips
          exact .addrSpaceCast found
      · cases strips
    · cases strips
  · intro isCast
    cases isCast with
    | bitCast found => simp [strip?, found]
    | addrSpaceCast found => simp [strip?, found]
    | _ => rfl

theorem strip_eq_none_iff : g.strip? value = none ↔ ∀ inner, ¬ g.CastOf value inner := by
  simp [Option.eq_none_iff_forall_ne_some, strip_eq_some_iff]

theorem Strips.trans (first : g.Strips count value x) (rest : g.Strips more x y)
    : g.Strips (count + more) value y := by
  induction first with
  | done => simpa using rest
  | cast strips _ ih =>
      rw [Nat.succ_add]
      exact .cast strips (ih rest)

/-- A chain passes a value after any smaller number of casts. -/
theorem Strips.split (strips : g.Strips (count + more) value y)
    : ∃ x, g.Strips count value x ∧ g.Strips more x y := by
  induction count generalizing value with
  | zero => exact ⟨value, .done, by simpa using strips⟩
  | succ count ih =>
      rw [Nat.succ_add] at strips
      cases strips with
      | cast isCast rest =>
          obtain ⟨x, first, last⟩ := ih rest
          exact ⟨x, .cast isCast first, last⟩

/-- A chain that goes on starts at a cast. -/
theorem Strips.castOf (strips : g.Strips (count + 1) value x) : ∃ inner, g.CastOf value inner := by
  cases strips with
  | cast isCast _ => exact ⟨_, strip_eq_some_iff.1 isCast⟩

theorem Strips.snoc (strips : g.Strips count value x) (isCast : g.strip? x = some y)
    : g.Strips (count + 1) value y :=
  strips.trans (.cast isCast .done)

/-- The number of casts in the longest chain that starts at a value. -/
noncomputable def chainLength (g : Graph) (value : Operand) : ℕ∞ :=
  ⨆ (count : ℕ) (_ : ∃ x, g.Strips count value x), (count : ℕ∞)

/-- A chain is so long if so many casts can be stripped. -/
theorem le_chainLength_iff : (count : ℕ∞) ≤ g.chainLength value ↔ ∃ x, g.Strips count value x := by
  constructor
  · intro long
    by_contra none
    have shorter : ∀ n, (∃ x, g.Strips n value x) → n < count := by
      intro n some
      obtain ⟨x, strips⟩ := some
      by_contra notLess
      obtain ⟨rest, rfl⟩ := Nat.exists_eq_add_of_le (Nat.le_of_not_lt notLess)
      obtain ⟨y, first, _⟩ := strips.split
      exact none ⟨y, first⟩
    have positive : 0 < count := shorter 0 ⟨value, .done⟩
    have bounded : g.chainLength value ≤ (count - 1 : ℕ) := by
      refine iSup₂_le fun n strips => Nat.cast_le.2 ?_
      have := shorter n strips
      omega
    have impossible := Nat.cast_le.1 (long.trans bounded)
    omega
  · intro strips
    exact le_iSup₂_of_le count strips le_rfl

/-- A chain is no longer than a bound if nothing is left to strip at the bound. -/
theorem chainLength_le_iff : g.chainLength value ≤ bound ↔ g.strip? (g.stripUpTo bound value) = none := by
  obtain ⟨count, within, strips, ends⟩ := g.stripUpTo_strips bound value
  constructor
  · intro short
    by_contra left
    obtain ⟨inner, isCast⟩ := Option.ne_none_iff_exists'.1 left
    have full : count = bound := by
      by_contra other
      exact left (ends (by omega))
    have long := le_chainLength_iff.2 ⟨inner, strips.snoc isCast⟩
    have impossible := Nat.cast_le.1 (long.trans short)
    omega
  · intro stripped
    by_contra long
    have more : ((bound + 1 : ℕ) : ℕ∞) ≤ g.chainLength value := by
      simpa using Order.add_one_le_of_lt (not_le.1 long)
    obtain ⟨x, longer⟩ := le_chainLength_iff.1 more
    obtain ⟨y, first, last⟩ := longer.split
    obtain ⟨inner, isCast⟩ := last.castOf
    rw [first.eq_stripUpTo] at stripped
    exact strip_eq_none_iff.1 stripped inner isCast

/-- As many casts are stripped as the chain has, and six at most. -/
theorem canonicalize_strips (g : Graph) (value : Operand)
    : ∃ count : ℕ,
        (count : ℕ∞) = min 6 (g.chainLength value) ∧ g.Strips count value (g.canonicalize value) := by
  obtain ⟨count, within, strips, ends⟩ := g.stripUpTo_strips maxLookThrough value
  refine ⟨count, le_antisymm (le_min ?_ (le_chainLength_iff.2 ⟨_, strips⟩)) ?_, strips⟩
  · exact_mod_cast within
  · rcases Nat.lt_or_eq_of_le within with less | rfl
    · refine (min_le_right _ _).trans (chainLength_le_iff.2 ?_)
      rw [strips.eq_stripUpTo]
      exact ends less
    · exact min_le_left _ _

/-- The chain of a value comes to a cast that it has met before. -/
def MeetsCycle (g : Graph) (value : Operand) : Prop :=
  ∃ x before length, g.Strips before value x ∧ g.Strips (length + 1) x x

/-- The chain of a constant ends, by induction over its wrappers. -/
theorem exists_end_of_constant (g : Graph)
    : ∀ c : Constant, ∃ count x, g.Strips count (.constant c) x ∧ g.strip? x = none := by
  intro c
  have around : ∀ {inner : Constant}, c.inner? = some inner
      → (∃ count x, g.Strips count (.constant inner) x ∧ g.strip? x = none)
      → ∃ count x, g.Strips count (.constant c) x ∧ g.strip? x = none := by
    intro inner isInner innerEnds
    obtain ⟨count, x, strips, ends⟩ := innerEnds
    exact ⟨count + 1, x, .cast (by simp [strip?, isInner]) strips, ends⟩
  cases c with
  | addrSpaceCast inner => exact around rfl (g.exists_end_of_constant inner)
  | bitCast inner => exact around rfl (g.exists_end_of_constant inner)
  | getElementPtr inner => exact around rfl (g.exists_end_of_constant inner)
  | _ => exact ⟨0, _, .done, rfl⟩

/-- Any number of casts can be stripped. -/
def Endless (g : Graph) (value : Operand) : Prop :=
  ∀ count, ∃ x, g.Strips count value x

theorem Endless.after (endless : g.Endless value) (strips : g.Strips count value x) : g.Endless x := by
  intro more
  obtain ⟨y, longer⟩ := endless (count + more)
  obtain ⟨z, first, last⟩ := longer.split
  obtain rfl := first.eq_stripUpTo.symm.trans strips.eq_stripUpTo
  exact ⟨y, last⟩

/-- An endless chain starts at an instruction with a definition, since the chains of constants end. -/
theorem Endless.defined (endless : g.Endless value)
    : value ∈ g.definitions.map fun entry => Operand.instruction entry.1 := by
  have notConstant : ∀ c, value ≠ .constant c := by
    intro c isConstant
    subst isConstant
    obtain ⟨count, last, toEnd, ends⟩ := g.exists_end_of_constant c
    obtain ⟨x, next⟩ := endless.after toEnd 1
    obtain ⟨inner, isCast⟩ := next.castOf
    exact strip_eq_none_iff.1 ends inner isCast
  obtain ⟨x, strips⟩ := endless 1
  obtain ⟨inner, isCast⟩ := strips.castOf
  cases isCast with
  | bitCast found => exact List.mem_map.2 ⟨_, mem_of_lookup found, rfl⟩
  | addrSpaceCast found => exact List.mem_map.2 ⟨_, mem_of_lookup found, rfl⟩
  | _ => exact absurd rfl (notConstant _)

/-- An endless chain meets a cycle, since there are finitely many definitions. -/
theorem Endless.meetsCycle (endless : g.Endless value) : g.MeetsCycle value := by
  have strips : ∀ n, g.Strips n value (g.stripUpTo n value) := by
    intro n
    obtain ⟨x, strips⟩ := endless n
    rwa [strips.eq_stripUpTo]
  have repeats : ∀ {i j : ℕ}, i < j → g.stripUpTo i value = g.stripUpTo j value
      → g.MeetsCycle value := by
    intro i j less same
    obtain ⟨rest, rfl⟩ := Nat.exists_eq_add_of_lt less
    rw [Nat.add_assoc] at same
    obtain ⟨x, first, last⟩ := (strips (i + (rest + 1))).split
    obtain rfl := first.eq_stripUpTo
    exact ⟨_, i, rest, first, by rwa [← same] at last⟩
  obtain ⟨i, _, j, _, differ, same⟩ :=
    Set.infinite_univ.exists_ne_map_eq_of_mapsTo (fun n _ => (endless.after (strips n)).defined)
      (List.finite_toSet _)
  rcases Nat.lt_or_gt_of_ne differ with less | greater
  · exact repeats less same
  · exact repeats greater same.symm

/-- Going round a cycle strips any number of casts. -/
theorem MeetsCycle.endless (meets : g.MeetsCycle value) : g.Endless value := by
  obtain ⟨x, before, length, strips, cycle⟩ := meets
  have around : ∀ rounds, g.Strips (rounds * (length + 1)) x x := by
    intro rounds
    induction rounds with
    | zero => simpa using Strips.done
    | succ rounds ih =>
        rw [Nat.succ_mul]
        exact ih.trans cycle
  intro n
  have enough : n ≤ before + n * (length + 1) :=
    (Nat.le_mul_of_pos_right n length.succ_pos).trans (Nat.le_add_left _ _)
  obtain ⟨rest, total⟩ := Nat.exists_eq_add_of_le enough
  obtain ⟨y, first, _⟩ := (total ▸ strips.trans (around n)).split
  exact ⟨y, first⟩

/-- Chains are infinite exactly where they meet a cycle. -/
theorem chainLength_eq_top_iff : g.chainLength value = ⊤ ↔ g.MeetsCycle value := by
  rw [ENat.eq_top_iff_forall_ge]
  simp only [le_chainLength_iff]
  exact ⟨Endless.meetsCycle, MeetsCycle.endless⟩

/-- The chain of a value ends at another one, which is no cast. -/
def ChainEnds (g : Graph) (value last : Operand) : Prop :=
  (∃ count, g.Strips count value last) ∧ ∀ inner, ¬ g.CastOf last inner

/-- Of a chain that is no longer than six casts nothing is left. -/
theorem strip_canonicalize (short : g.chainLength value ≤ 6) : g.strip? (g.canonicalize value) = none :=
  chainLength_le_iff.1 (by exact_mod_cast short)

/-- A chain ends at one value only. Witness: of two chains from one value the shorter one starts the longer
one.
-/
theorem ChainEnds.unique (ends : g.ChainEnds value x) (endsToo : g.ChainEnds value y) : x = y := by
  have same : ∀ {count more : ℕ} {x y}, g.Strips count value x → (∀ inner, ¬ g.CastOf x inner)
      → g.Strips (count + more) value y → x = y := by
    intro count more x y strips bare longer
    obtain ⟨z, first, last⟩ := longer.split
    obtain rfl := first.eq_stripUpTo.symm.trans strips.eq_stripUpTo
    cases last with
    | done => rfl
    | cast isCast _ => exact absurd (strip_eq_some_iff.1 isCast) (bare _)
  obtain ⟨⟨count, strips⟩, bare⟩ := ends
  obtain ⟨⟨other, stripsToo⟩, bareToo⟩ := endsToo
  rcases Nat.le_total count other with le | le
  · obtain ⟨more, rfl⟩ := Nat.exists_eq_add_of_le le
    exact same strips bare stripsToo
  · obtain ⟨more, rfl⟩ := Nat.exists_eq_add_of_le le
    exact (same stripsToo bareToo strips).symm

/-- A chain that is no longer than six casts ends at the root, and at nothing else. -/
theorem chainEnds_iff (short : g.chainLength value ≤ 6)
    : g.ChainEnds value x ↔ g.canonicalize value = x := by
  have ends : g.ChainEnds value (g.canonicalize value) := by
    obtain ⟨count, _, strips⟩ := g.canonicalize_strips value
    exact ⟨⟨count, strips⟩, strip_eq_none_iff.1 (strip_canonicalize short)⟩
  constructor
  · intro endsToo
    exact ends.unique endsToo
  · intro isRoot
    exact isRoot ▸ ends

/-- Casts are stripped one by one, as many as the longest chain of a value has and six at most; the chain is
infinite where it meets a cycle. So in a module whose operands have no longer chains than that, roots are final,
operands have the same root exactly if their chains end at the same value, and a trace of an operand never
ends at a cast.
-/
theorem canonicalize_exact (m : Module)
    : let g := Graph.ofModule m
      (∀ value inner, g.strip? value = some inner ↔ g.CastOf value inner)
      ∧ (∀ value,
          ∃ count : ℕ,
            (count : ℕ∞) = min 6 (g.chainLength value) ∧ g.Strips count value (g.canonicalize value))
      ∧ (∀ value, g.chainLength value = ⊤ ↔ g.MeetsCycle value)
      ∧ ((∀ value, m.HasOperand value → g.chainLength value ≤ 6)
          → (∀ value, m.HasOperand value → g.canonicalize (g.canonicalize value) = g.canonicalize value)
            ∧ (∀ left right,
                m.HasOperand left
                → m.HasOperand right
                → (g.canonicalize left = g.canonicalize right
                  ↔ ∃ last, g.ChainEnds left last ∧ g.ChainEnds right last))
            ∧ ∀ value,
                m.HasOperand value → ∀ o ∈ (g.trace value).origins, ∀ inner, ¬ g.CastOf o inner) := by
  intro g
  refine ⟨fun _ _ => strip_eq_some_iff, g.canonicalize_strips, fun _ => chainLength_eq_top_iff, ?_⟩
  intro short
  refine ⟨fun value operand => ?_, fun left right isLeft isRight => ?_, fun value operand o isOrigin => ?_⟩
  · exact canonicalize_of_bare (strip_canonicalize (short value operand))
  · simp only [chainEnds_iff (short left isLeft), chainEnds_iff (short right isRight)]
    constructor
    · intro same
      exact ⟨_, same, rfl⟩
    · intro ends
      obtain ⟨last, isRoot, isRootToo⟩ := ends
      exact isRoot.trans isRootToo.symm
  · obtain ⟨used, uses, rfl⟩ :=
      uses_of_reaches (Module.uses_iff_hasOperand.2 operand) (mem_origins_iff.1 isOrigin).1
    exact strip_eq_none_iff.1 (strip_canonicalize (short used (Module.uses_iff_hasOperand.1 uses)))

end Graph

/-- A module that returns a table behind six casts: three instructions, and three constants inside the first. -/
def deepCasts : Module :=
  let table : Constant := .getElementPtr (.bitCast (.addrSpaceCast (.global ⟨"table"⟩)))
  let casts : List Instruction :=
    [ ⟨castName 0, .bitCast (.constant table), .pointer⟩,
      ⟨castName 1, .addrSpaceCast (.instruction (castName 0)), .pointer⟩,
      ⟨castName 2, .bitCast (.instruction (castName 1)), .pointer⟩ ]
  let returns : Terminator := ⟨castName 3, .ret (some (.instruction (castName 2))), .void⟩
  { name := "deep casts"
    decls := []
    functions :=
      [((castName 0).block.function, ⟨[], [⟨(castName 0).block, casts, returns⟩]⟩)]
    globals := [⟨"table"⟩] }

/-- The last cast and the constant in front of the first one both end at the table, and so does a trace. -/
theorem Graph.canonicalize_exact_deepCasts
    : let g := Graph.ofModule deepCasts
      let last : Operand := .instruction (castName 2)
      let address : Operand := .constant (.getElementPtr (.bitCast (.addrSpaceCast (.global ⟨"table"⟩))))
      let table : Operand := .constant (.global ⟨"table"⟩)
      (∀ value, deepCasts.HasOperand value → g.chainLength value ≤ 6)
      ∧ g.Strips 6 last table
      ∧ g.canonicalize (g.canonicalize last) = g.canonicalize last
      ∧ (∃ bottom, g.ChainEnds last bottom ∧ g.ChainEnds address bottom)
      ∧ table ∈ (g.trace last).origins
      ∧ ∀ o ∈ (g.trace last).origins, ∀ inner, ¬ g.CastOf o inner := by
  intro g last address table
  have short : ∀ value, deepCasts.HasOperand value → g.chainLength value ≤ 6 := by
    intro value operand
    obtain ⟨entry, isDefined, uses⟩ := Module.uses_iff_hasOperand.2 operand
    have stripped : ∀ entry ∈ deepCasts.functions, ∀ value ∈ entry.2.operands,
        g.strip? (g.stripUpTo 6 value) = none := by
      decide
    exact_mod_cast chainLength_le_iff.2 (stripped entry isDefined value uses)
  have returned : deepCasts.HasOperand last :=
    ⟨_, List.mem_cons_self, _, List.mem_cons_self, .inr .returned⟩
  have casted : deepCasts.HasOperand address :=
    ⟨_, List.mem_cons_self, _, List.mem_cons_self, .inl ⟨_, List.mem_cons_self, .bitCast⟩⟩
  have root : g.canonicalize last = table := by decide
  obtain ⟨_, _, _, consequences⟩ := canonicalize_exact deepCasts
  obtain ⟨idempotent, sameRoot, noCast⟩ := consequences short
  have fromLast : g.strip? last = some (.instruction (castName 1)) := by decide
  have fromSecond : g.strip? (.instruction (castName 1)) = some (.instruction (castName 0)) := by decide
  have fromFirst : g.strip? (.instruction (castName 0)) = some address := by decide
  have stripped : g.Strips 6 last table :=
    .cast fromLast (.cast fromSecond (.cast fromFirst (.cast rfl (.cast rfl (.cast rfl .done)))))
  refine ⟨short, stripped, idempotent last returned, ?_, ?_, noCast last returned⟩
  · exact (sameRoot last address returned casted).1 (by decide)
  · exact mem_origins_iff.2 ⟨root ▸ .refl, by decide⟩

end PointerOrigins
