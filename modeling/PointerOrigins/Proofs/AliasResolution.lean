import Mathlib.Logic.Relation
import PointerOrigins.Bitcode.Conversion

/-!
Which aliases can be resolved. Whether a constant can be converted depends on the symbols that it refers to
and on nothing else. So the rounds over the aliases stop at the symbols that are known in the end: those of
the module itself, and of each alias that refers to known symbols only.
-/

namespace PointerOrigins.Bitcode

----------------------------------------------------------------------------------------------
-- References of constants
----------------------------------------------------------------------------------------------

mutual

/-- The symbols that a constant refers to, where it is converted. Indices of an element address, parts of a
vector and operands of arithmetic are not.
-/
def Const.references : Const → List String
  | .ref symbol _ => [symbol]
  | .array _ elements => Const.referencesAll elements
  | .struct fields => Const.referencesAll fields
  | .cast .trunc _ _ => []
  | .cast _ value _ => value.references
  | .getElementPtr address _ => address.references
  | _ => []

/-- The symbols that constants refer to. -/
def Const.referencesAll : List Const → List String
  | [] => []
  | c :: rest => c.references ++ Const.referencesAll rest

end

/-- A key is looked up with success if it is one of those that stand for something. -/
theorem exists_lookup_iff {α β : Type} [BEq α] [LawfulBEq α] {entries : List (α × β)} {key : α}
    : (∃ value, entries.lookup key = some value) ↔ key ∈ entries.map Prod.fst := by
  rw [← Option.isSome_iff_exists, List.lookup_isSome_iff]
  simp

/-- A result that is wrapped is there if the result is. -/
theorem exists_map_ok_iff {ε α β : Type} {f : α → β} {x : Except ε α}
    : (∃ result, x.map f = .ok result) ↔ ∃ result, x = .ok result := by
  cases x <;> simp [Except.map]

/-- Integers refer to nothing. -/
theorem referencesAll_of_integers {elements : List Const} {values : List UInt64}
    (integers : elements.mapM Const.value? = some values)
    : Const.referencesAll elements = [] := by
  induction elements generalizing values with
  | nil => rfl
  | cons c rest ih =>
      simp only [List.mapM_cons, Option.bind_eq_bind, Option.bind_eq_some_iff] at integers
      obtain ⟨value, isInteger, others, areIntegers, _⟩ := integers
      rw [Const.referencesAll, ih areIntegers]
      cases c <;> cases isInteger
      rfl

mutual

/-- A constant can be converted if all symbols that it refers to stand for something. -/
theorem Const.convert_ok_iff (symbols : Symbols)
    : ∀ c : Const,
        (∃ result, c.convert symbols = .ok result) ↔ ∀ s ∈ c.references, s ∈ symbols.map Prod.fst := by
  intro c
  cases c with
  | ref symbol type =>
      rw [references, List.forall_mem_singleton, ← exists_lookup_iff, convert]
      cases symbols.lookup symbol <;> simp
  | array element elements =>
      rw [references, convert]
      cases integers : integers? elements with
      | none =>
          rw [exists_map_ok_iff]
          exact Const.convertAll_ok_iff symbols elements
      | some values =>
          rw [integers?] at integers
          split at integers
          · cases integers
          · simp [referencesAll_of_integers integers]
  | struct fields =>
      rw [references, convert, exists_map_ok_iff]
      exact Const.convertAll_ok_iff symbols fields
  | cast kind value type =>
      cases kind with
      | trunc => simp [references, convert]
      | _ =>
          rw [references, convert, exists_map_ok_iff]
          · exact Const.convert_ok_iff symbols value
          · simp
  | getElementPtr address indices =>
      rw [references, convert, exists_map_ok_iff]
      exact Const.convert_ok_iff symbols address
  | _ => simp [references, convert]

/-- Constants can be converted if each of them can. -/
theorem Const.convertAll_ok_iff (symbols : Symbols)
    : ∀ cs : List Const,
        (∃ results, Const.convertAll symbols cs = .ok results)
        ↔ ∀ s ∈ Const.referencesAll cs, s ∈ symbols.map Prod.fst := by
  intro cs
  cases cs with
  | nil => simp [convertAll, referencesAll]
  | cons c rest =>
      rw [referencesAll, List.forall_mem_append, ← Const.convert_ok_iff symbols c,
        ← Const.convertAll_ok_iff symbols rest, convertAll]
      cases c.convert symbols with
      | error e => simp [bind, Except.bind]
      | ok first => cases Const.convertAll symbols rest <;> simp [bind, Except.bind, pure, Except.pure]

end

----------------------------------------------------------------------------------------------
-- Rounds
----------------------------------------------------------------------------------------------

/-- One of these aliases is given the constant that it stands for. -/
inductive Resolution (aliases : List (String × Const)) (symbols : Symbols) : Symbols → Prop
  | resolve {name : String} {aliasee : Const} {c : PointerOrigins.Constant}
    (member : (name, aliasee) ∈ aliases) (converted : aliasee.convert symbols = .ok c)
    : Resolution aliases symbols ((name, c) :: symbols)

/-- Where one alias after another is given its constant, symbols keep standing for something. -/
theorem keys_of_resolutions {aliases : List (String × Const)} {symbols after : Symbols}
    (resolutions : Relation.ReflTransGen (Resolution aliases) symbols after)
    : symbols.map Prod.fst ⊆ after.map Prod.fst := by
  induction resolutions with
  | refl => exact List.Subset.refl _
  | tail _ resolution ih =>
      cases resolution with
      | resolve member converted => exact List.Subset.trans ih (List.subset_cons_self _ _)

/-- Symbols that are no aliases keep standing for the same. -/
theorem lookup_of_resolutions {aliases : List (String × Const)} {symbols after : Symbols} {s : String}
    (resolutions : Relation.ReflTransGen (Resolution aliases) symbols after)
    (noAlias : s ∉ aliases.map Prod.fst)
    : after.lookup s = symbols.lookup s := by
  induction resolutions with
  | refl => rfl
  | tail _ resolution ih =>
      cases resolution with
      | resolve member _ =>
          have other := ne_of_mem_of_not_mem (List.mem_map_of_mem member) noAlias
          rw [List.lookup_cons, beq_false_of_ne other.symm]
          exact ih

/-- More aliases allow the same resolutions. -/
theorem resolutions_of_subset {aliases others : List (String × Const)} {symbols after : Symbols}
    (subset : aliases ⊆ others) (resolutions : Relation.ReflTransGen (Resolution aliases) symbols after)
    : Relation.ReflTransGen (Resolution others) symbols after := by
  refine Relation.ReflTransGen.mono (fun before next resolution => ?_) _ _ resolutions
  cases resolution with
  | resolve member converted => exact .resolve (subset member) converted

/-- An alias that is settled: it stands for something, and so does every symbol that it refers to. -/
def Settled (symbols : Symbols) (entry : String × Const) : Prop :=
  entry.1 ∈ symbols.map Prod.fst ∧ ∀ s ∈ entry.2.references, s ∈ symbols.map Prod.fst

/-- What is settled stays so. -/
theorem Settled.of_resolutions {aliases : List (String × Const)} {symbols after : Symbols}
    {entry : String × Const} (settled : Settled symbols entry)
    (resolutions : Relation.ReflTransGen (Resolution aliases) symbols after)
    : Settled after entry :=
  ⟨keys_of_resolutions resolutions settled.1, fun s refers =>
    keys_of_resolutions resolutions (settled.2 s refers)⟩

/-- An alias whose constant can be converted is settled once it is resolved. -/
theorem settled_of_converted {symbols : Symbols} {name : String} {aliasee : Const}
    {c : PointerOrigins.Constant} (converted : aliasee.convert symbols = .ok c)
    : Settled ((name, c) :: symbols) (name, aliasee) := by
  have ready := (aliasee.convert_ok_iff symbols).1 ⟨c, converted⟩
  exact ⟨List.mem_cons_self, fun s refers => List.mem_cons_of_mem _ (ready s refers)⟩

/-- A round resolves aliases one after another, and every alias still waits or is settled. -/
theorem resolveRound_spec (pending : List (String × Const)) (symbols : Symbols)
    : Relation.ReflTransGen (Resolution pending) symbols (resolveRound pending symbols).2
      ∧ (resolveRound pending symbols).1 ⊆ pending
      ∧ ∀ entry ∈ pending,
          entry ∈ (resolveRound pending symbols).1 ∨ Settled (resolveRound pending symbols).2 entry := by
  induction pending generalizing symbols with
  | nil => exact ⟨.refl, List.Subset.refl _, by simp⟩
  | cons first rest ih =>
      obtain ⟨name, aliasee⟩ := first
      have more : rest ⊆ (name, aliasee) :: rest := List.subset_cons_self _ _
      cases converted : aliasee.convert symbols with
      | ok c =>
          obtain ⟨resolutions, waiting, settled⟩ := ih ((name, c) :: symbols)
          simp only [resolveRound, converted]
          have later := resolutions_of_subset more resolutions
          refine ⟨later.head (.resolve List.mem_cons_self converted),
            List.Subset.trans waiting more, List.forall_mem_cons.2 ⟨.inr ?_, settled⟩⟩
          exact (settled_of_converted converted).of_resolutions resolutions
      | error e =>
          obtain ⟨resolutions, waiting, settled⟩ := ih symbols
          simp only [resolveRound, converted]
          refine ⟨resolutions_of_subset more resolutions, List.cons_subset_cons _ waiting,
            List.forall_mem_cons.2 ⟨.inl List.mem_cons_self, fun entry member => ?_⟩⟩
          exact (settled entry member).imp_left (List.mem_cons_of_mem _)

/-- A round keeps the order of the aliases that wait: of those in front of one that is left, each is left
in front of it too, or settled.
-/
theorem resolveRound_split {pending before after : List (String × Const)} {symbols : Symbols}
    {left : String × Const} (waiting : (resolveRound pending symbols).1 = before ++ left :: after)
    : ∃ earlier later,
        pending = earlier ++ left :: later
        ∧ ∀ entry ∈ earlier, entry ∈ before ∨ Settled (resolveRound pending symbols).2 entry := by
  induction pending generalizing symbols before with
  | nil => simp [resolveRound] at waiting
  | cons first rest ih =>
      obtain ⟨name, aliasee⟩ := first
      cases converted : aliasee.convert symbols with
      | ok c =>
          simp only [resolveRound, converted] at waiting ⊢
          obtain ⟨earlier, later, rfl, settled⟩ := ih waiting
          refine ⟨(name, aliasee) :: earlier, later, rfl, List.forall_mem_cons.2 ⟨.inr ?_, settled⟩⟩
          exact (settled_of_converted converted).of_resolutions (resolveRound_spec _ _).1
      | error e =>
          simp only [resolveRound, converted] at waiting ⊢
          cases before with
          | nil =>
              obtain ⟨rfl, _⟩ := List.cons.inj waiting
              exact ⟨[], rest, rfl, by simp⟩
          | cons other before =>
              obtain ⟨rfl, others⟩ := List.cons.inj waiting
              obtain ⟨earlier, later, rfl, settled⟩ := ih others
              refine ⟨(name, aliasee) :: earlier, later, rfl,
                List.forall_mem_cons.2 ⟨.inl List.mem_cons_self, fun entry member => ?_⟩⟩
              exact (settled entry member).imp_left (List.mem_cons_of_mem _)

/-- A round that resolves no alias has met none that could be. -/
theorem resolveRound_stuck {pending : List (String × Const)} {symbols : Symbols}
    (stuck : (resolveRound pending symbols).1.length = pending.length)
    : ∀ entry ∈ pending, ¬ ∃ c, entry.2.convert symbols = .ok c := by
  induction pending with
  | nil => simp
  | cons first rest ih =>
      obtain ⟨name, aliasee⟩ := first
      cases converted : aliasee.convert symbols with
      | ok c =>
          simp only [resolveRound, converted, List.length_cons] at stuck
          have fewer := resolveRound_length_le rest ((name, c) :: symbols)
          omega
      | error e =>
          simp only [resolveRound, converted, List.length_cons, Nat.add_right_cancel_iff] at stuck
          refine List.forall_mem_cons.2 ⟨?_, ih stuck⟩
          simp [converted]

/-- Once all aliases are resolved, all of them are settled. -/
theorem resolveAliases_ok {pending : List (String × Const)} {symbols final : Symbols}
    (resolved : resolveAliases pending symbols = .ok final)
    : Relation.ReflTransGen (Resolution pending) symbols final ∧ ∀ entry ∈ pending, Settled final entry := by
  fun_induction resolveAliases pending symbols with
  | case1 symbols =>
      cases resolved
      exact ⟨.refl, by simp⟩
  | case2 symbols first others stuck => cases resolved
  | case3 symbols first others progress ih =>
      obtain ⟨round, waiting, settled⟩ := resolveRound_spec (first :: others) symbols
      obtain ⟨later, rest⟩ := ih resolved
      refine ⟨round.trans (resolutions_of_subset waiting later), fun entry member => ?_⟩
      rcases settled entry member with waits | done
      · exact rest entry waits
      · exact done.of_resolutions later

/-- Where aliases cannot be resolved, one is left whose constant cannot be converted, and the first such alias
is named. Those in front of it are settled.
-/
theorem resolveAliases_error {pending : List (String × Const)} {symbols : Symbols} {e : ModuleError}
    (failed : resolveAliases pending symbols = .error e)
    : ∃ reached before left after,
        Relation.ReflTransGen (Resolution pending) symbols reached
        ∧ pending = before ++ left :: after
        ∧ e = .unresolvedAlias left.1
        ∧ (¬ ∃ c, left.2.convert reached = .ok c)
        ∧ (∀ entry ∈ before, Settled reached entry)
        ∧ ∀ entry ∈ pending, Settled reached entry ∨ ¬ ∃ c, entry.2.convert reached = .ok c := by
  fun_induction resolveAliases pending symbols with
  | case1 symbols => cases failed
  | case2 symbols first others stuck =>
      cases failed
      have none := resolveRound_stuck stuck
      exact ⟨symbols, [], first, others, .refl, rfl, rfl, none first List.mem_cons_self, by simp,
        fun entry member => .inr (none entry member)⟩
  | case3 symbols first others progress ih =>
      obtain ⟨round, waiting, settled⟩ := resolveRound_spec (first :: others) symbols
      obtain ⟨reached, before, left, after, later, split, named, fails, front, rest⟩ := ih failed
      obtain ⟨earlier, others, place, moved⟩ := resolveRound_split split
      refine ⟨reached, earlier, left, others, round.trans (resolutions_of_subset waiting later), place,
        named, fails, fun entry member => ?_, fun entry member => ?_⟩
      · rcases moved entry member with waits | done
        · exact front entry waits
        · exact done.of_resolutions later
      · rcases settled entry member with waits | done
        · exact rest entry waits
        · exact .inl (done.of_resolutions later)

----------------------------------------------------------------------------------------------
-- Known symbols
----------------------------------------------------------------------------------------------

namespace Module

variable {m : Module}

/-- The symbols of functions, declarations and globals. -/
def ownNames (m : Module) : List String :=
  m.functions.map Function.name ++ m.decls ++ m.globals

/-- A symbol that the module has, or that is an alias of something known. -/
inductive Known (m : Module) : String → Prop
  | own {symbol : String} (has : symbol ∈ m.ownNames) : Known m symbol
  | aliased {name : String} {aliasee : Const} (member : (name, aliasee) ∈ m.aliases)
    (known : ∀ s ∈ aliasee.references, Known m s)
    : Known m name

/-- Every alias refers to known symbols only. -/
def AliasesKnown (m : Module) : Prop :=
  ∀ entry ∈ m.aliases, ∀ s ∈ entry.2.references, m.Known s

/-- The functions of a module have names with their symbols. -/
theorem symbols_functionNames (m : Module)
    : m.functionNames.map PointerOrigins.FunctionName.symbol = m.functions.map Function.name ++ m.decls := by
  rw [functionNames, List.map_map]
  exact List.zipIdx_map_fst 0 _

/-- The symbols that stand for something before the aliases are known. -/
theorem keys_ownSymbols (m : Module) : m.ownSymbols.map Prod.fst = m.ownNames.reverse := by
  have functions := m.symbols_functionNames
  rw [ownSymbols, ownNames, ← functions, List.map_reverse, List.map_append, List.map_map, List.map_map]
  simp [Function.comp_def]

/-- Symbols that are resolved one after another are known. -/
theorem known_of_resolutions {symbols : Symbols}
    (resolutions : Relation.ReflTransGen (Resolution m.aliases) m.ownSymbols symbols)
    : ∀ s ∈ symbols.map Prod.fst, m.Known s := by
  induction resolutions with
  | refl => exact fun s own => .own (List.mem_reverse.1 (m.keys_ownSymbols ▸ own))
  | tail _ resolution ih =>
      cases resolution with
      | @resolve name aliasee c member converted =>
          have ready := (aliasee.convert_ok_iff _).1 ⟨c, converted⟩
          exact List.forall_mem_cons.2 ⟨.aliased member fun s refers => ih s (ready s refers), ih⟩

/-- Where every alias that is not settled cannot be converted, all known symbols stand for something, by
induction over known symbols.
-/
theorem mem_keys_of_known {reached : Symbols}
    (resolutions : Relation.ReflTransGen (Resolution m.aliases) m.ownSymbols reached)
    (done : ∀ entry ∈ m.aliases, Settled reached entry ∨ ¬ ∃ c, entry.2.convert reached = .ok c)
    {s : String} (known : m.Known s)
    : s ∈ reached.map Prod.fst := by
  induction known with
  | own has =>
      have isOwn := List.mem_reverse.2 has
      rw [← m.keys_ownSymbols] at isOwn
      exact keys_of_resolutions resolutions isOwn
  | aliased member _ ih =>
      rcases done _ member with settled | fails
      · exact settled.1
      · exact absurd ((Const.convert_ok_iff reached _).2 ih) fails

/-- The symbols of a module can be told if every alias refers to known symbols only. Witness: an alias that
is left would refer to symbols that stand for something, so that it could be converted.
-/
theorem symbols_ok_iff : (∃ symbols, m.symbols = .ok symbols) ↔ m.AliasesKnown := by
  constructor
  · intro succeeds entry member s refers
    obtain ⟨symbols, resolved⟩ := succeeds
    obtain ⟨resolutions, settled⟩ := resolveAliases_ok resolved
    exact known_of_resolutions resolutions s ((settled entry member).2 s refers)
  · intro known
    cases result : m.symbols with
    | ok symbols => exact ⟨symbols, rfl⟩
    | error e =>
        obtain ⟨reached, before, left, after, resolutions, place, _, fails, _, done⟩ :=
          resolveAliases_error result
        have isLeft : left ∈ m.aliases := place ▸ List.mem_append_right _ List.mem_cons_self
        have ready : ∀ s ∈ left.2.references, s ∈ reached.map Prod.fst :=
          fun s refers => mem_keys_of_known resolutions done (known left isLeft s refers)
        exact absurd ((Const.convert_ok_iff reached _).2 ready) fails

/-- What stands for something once the aliases are known. -/
theorem keys_symbols {symbols : Symbols} (resolved : m.symbols = .ok symbols)
    (s : String)
    : s ∈ symbols.map Prod.fst ↔ s ∈ m.ownNames ++ m.aliases.map Prod.fst := by
  obtain ⟨resolutions, settled⟩ := resolveAliases_ok resolved
  constructor
  · intro has
    rcases known_of_resolutions resolutions s has with own | ⟨member, _⟩
    · exact List.mem_append_left _ own
    · exact List.mem_append_right _ (List.mem_map_of_mem member)
  · intro has
    rcases List.mem_append.1 has with own | isAlias
    · rw [← List.mem_reverse, ← m.keys_ownSymbols] at own
      exact keys_of_resolutions resolutions own
    · obtain ⟨entry, member, rfl⟩ := List.mem_map.1 isAlias
      exact (settled entry member).1

end Module

end PointerOrigins.Bitcode
