import Mathlib.Data.Fintype.Card
import Mathlib.Data.Set.Finite.Basic
import PointerOrigins.Proofs.AliasResolution

/-!
What the aliases of a module are resolved to. The rounds compute the one table in which every alias stands
for its own constant, read in that same table. They find it if and only if aliases do not mention each other
in a circle and mention nothing that the module lacks. So the order of the aliases matters for nothing but
which of those that cannot be resolved is named.
-/

namespace PointerOrigins.Bitcode

----------------------------------------------------------------------------------------------
-- Rounds
----------------------------------------------------------------------------------------------

/-- One round, from the aliases that wait and the symbols told so far to those after it. -/
def aliasRound (state : List (String × Const) × Symbols) : List (String × Const) × Symbols :=
  resolveRound state.1 state.2

/-- A round in which no alias can be converted changes nothing. -/
theorem resolveRound_eq_self {pending : List (String × Const)} {symbols : Symbols}
    (fails : ∀ entry ∈ pending, ¬ ∃ c, entry.2.convert symbols = .ok c)
    : resolveRound pending symbols = (pending, symbols) := by
  induction pending with
  | nil => rfl
  | cons first rest ih =>
      obtain ⟨name, aliasee⟩ := first
      obtain ⟨firstFails, restFails⟩ := List.forall_mem_cons.1 fails
      cases converted : aliasee.convert symbols with
      | ok c => exact absurd ⟨c, converted⟩ firstFails
      | error e => simp only [resolveRound, converted, ih restFails]

/-- After no more rounds than there are aliases, none of them waits, or a round changes nothing. -/
theorem resolveAliases_rounds (pending : List (String × Const)) (symbols : Symbols)
    : ∃ count ≤ pending.length,
        (∃ final,
          aliasRound^[count] (pending, symbols) = ([], final)
          ∧ resolveAliases pending symbols = .ok final)
        ∨ ∃ first others reached,
            aliasRound^[count] (pending, symbols) = (first :: others, reached)
            ∧ aliasRound (first :: others, reached) = (first :: others, reached)
            ∧ resolveAliases pending symbols = .error (.unresolvedAlias first.1) := by
  fun_induction resolveAliases pending symbols with
  | case1 symbols => exact ⟨0, Nat.le_refl _, .inl ⟨symbols, rfl, rfl⟩⟩
  | case2 symbols first others stuck =>
      exact ⟨0, Nat.zero_le _, .inr ⟨first, others, symbols, rfl,
        resolveRound_eq_self (resolveRound_stuck stuck), rfl⟩⟩
  | case3 symbols first others progress ih =>
      obtain ⟨count, few, outcome⟩ := ih
      have fewer := resolveRound_length_le (first :: others) symbols
      refine ⟨count + 1, ?_, outcome⟩
      simp only [List.length_cons] at fewer ⊢
      omega

----------------------------------------------------------------------------------------------
-- Constants in larger tables
----------------------------------------------------------------------------------------------

mutual

/-- A constant is converted to the same where the symbols that it refers to stand for the same. -/
theorem Const.convert_congr {symbols other : Symbols}
    : ∀ c : Const,
        (∀ s ∈ c.references, other.lookup s = symbols.lookup s) → c.convert other = c.convert symbols := by
  intro c same
  cases c with
  | ref symbol type =>
      rw [convert, convert, same symbol (List.mem_singleton.2 rfl)]
  | array element elements =>
      rw [convert, convert, Const.convertAll_congr elements same]
  | struct fields =>
      rw [convert, convert, Const.convertAll_congr fields same]
  | cast kind value type =>
      cases kind with
      | trunc => rfl
      | _ => rw [convert, convert, Const.convert_congr value same]
  | getElementPtr address indices =>
      rw [convert, convert, Const.convert_congr address same]
  | _ => rfl

/-- Constants are converted to the same where the symbols that they refer to stand for the same. -/
theorem Const.convertAll_congr {symbols other : Symbols}
    : ∀ cs : List Const,
        (∀ s ∈ Const.referencesAll cs, other.lookup s = symbols.lookup s)
        → Const.convertAll other cs = Const.convertAll symbols cs := by
  intro cs same
  cases cs with
  | nil => rfl
  | cons c rest =>
      obtain ⟨first, others⟩ := List.forall_mem_append.1 same
      rw [convertAll, convertAll, Const.convert_congr c first, Const.convertAll_congr rest others]

end

/-- Whatever stands for something goes on to do so. -/
def Extends (symbols after : Symbols) : Prop :=
  ∀ s c, symbols.lookup s = some c → after.lookup s = some c

/-- A constant that is converted is converted to the same in a larger table. -/
theorem convert_of_extends {symbols after : Symbols} (larger : Extends symbols after) {aliasee : Const}
    {c : PointerOrigins.Constant} (converted : aliasee.convert symbols = .ok c)
    : aliasee.convert after = .ok c := by
  have ready := (aliasee.convert_ok_iff symbols).1 ⟨c, converted⟩
  rw [← converted]
  refine Const.convert_congr aliasee fun s refers => ?_
  obtain ⟨found, isFound⟩ := exists_lookup_iff.2 (ready s refers)
  rw [isFound, larger s found isFound]

----------------------------------------------------------------------------------------------
-- Solutions
----------------------------------------------------------------------------------------------

namespace Module

variable {m : Module} {symbols after : Symbols} {s : String}

/-- The symbols of aliases. -/
def aliasNames (m : Module) : List String :=
  m.aliases.map Prod.fst

/-- Aliases have symbols of their own. Those of functions, declarations and globals may coincide. -/
structure DistinctAliases (m : Module) : Prop where
  nodup : m.aliasNames.Nodup
  apart : ∀ name ∈ m.aliasNames, name ∉ m.ownNames

/-- A table in which every alias stands for its constant, read in the table itself, and every other symbol
for what the module has under it.
-/
structure Solves (m : Module) (symbols : Symbols) : Prop where
  own : ∀ s, s ∉ m.aliasNames → symbols.lookup s = m.ownSymbols.lookup s
  aliased : ∀ entry ∈ m.aliases, ∃ c, symbols.lookup entry.1 = some c ∧ entry.2.convert symbols = .ok c

/-- A table in which the aliases that are there stand for their constants. -/
def Agrees (m : Module) (symbols : Symbols) : Prop :=
  ∀ entry ∈ m.aliases, ∀ c, symbols.lookup entry.1 = some c → entry.2.convert symbols = .ok c

namespace DistinctAliases

variable (distinct : m.DistinctAliases)

include distinct

/-- An alias has one constant. -/
theorem aliasee_eq {name : String} {aliasee other : Const} (member : (name, aliasee) ∈ m.aliases)
    (again : (name, other) ∈ m.aliases)
    : other = aliasee :=
  congrArg Prod.snd (List.inj_on_of_nodup_map distinct.nodup again member rfl)

/-- Before the first round, no alias stands for anything. -/
theorem agrees_own : m.Agrees m.ownSymbols := by
  intro entry member c found
  have isOwn : entry.1 ∈ m.ownNames := by
    rw [← List.mem_reverse, ← m.keys_ownSymbols]
    exact exists_lookup_iff.1 ⟨c, found⟩
  exact absurd isOwn (distinct.apart _ (List.mem_map_of_mem member))

/-- Resolving one alias only adds to a table, and what it adds agrees with it. Witness: an alias that is
resolved again is converted to what it already stands for.
-/
theorem agrees_of_resolution (agrees : m.Agrees symbols)
    (resolution : Resolution m.aliases symbols after)
    : Extends symbols after ∧ m.Agrees after := by
  cases resolution with
  | @resolve name aliasee c member converted =>
      have larger : Extends symbols ((name, c) :: symbols) := by
        intro s found isFound
        rw [List.lookup_cons]
        split
        · next same =>
            obtain rfl := eq_of_beq same
            have again := agrees (s, aliasee) member found isFound
            rw [converted] at again
            rw [Except.ok.inj again]
        · exact isFound
      refine ⟨larger, fun entry isAlias found isFound => ?_⟩
      rw [List.lookup_cons] at isFound
      split at isFound
      · next same =>
          obtain ⟨other, otherAliasee⟩ := entry
          obtain rfl : other = name := eq_of_beq same
          obtain rfl := Option.some.inj isFound
          rw [distinct.aliasee_eq member isAlias]
          exact convert_of_extends larger converted
      · exact convert_of_extends larger (agrees entry isAlias found isFound)

/-- Resolving one alias after another gives tables that agree with the aliases. -/
theorem agrees_of_resolutions
    (resolutions : Relation.ReflTransGen (Resolution m.aliases) m.ownSymbols symbols)
    : m.Agrees symbols := by
  induction resolutions with
  | refl => exact distinct.agrees_own
  | tail _ resolution ih => exact (distinct.agrees_of_resolution ih resolution).2

/-- The table that the rounds end with is a solution. -/
theorem solves (resolved : m.symbols = .ok symbols) : m.Solves symbols := by
  obtain ⟨resolutions, settled⟩ := resolveAliases_ok resolved
  refine ⟨fun s noAlias => lookup_of_resolutions resolutions noAlias, fun entry member => ?_⟩
  obtain ⟨c, found⟩ := exists_lookup_iff.2 (settled entry member).1
  exact ⟨c, found, distinct.agrees_of_resolutions resolutions entry member c found⟩

/-- What is known stands for the same in all solutions, by induction over known symbols. -/
theorem lookup_eq_of_known {other : Symbols} (solution : m.Solves symbols) (another : m.Solves other)
    (known : m.Known s)
    : other.lookup s = symbols.lookup s := by
  induction known with
  | own has =>
      have noAlias := fun isAlias => distinct.apart _ isAlias has
      rw [another.own _ noAlias, solution.own _ noAlias]
  | aliased member _ ih =>
      obtain ⟨c, found, converted⟩ := solution.aliased _ member
      obtain ⟨d, otherFound, otherConverted⟩ := another.aliased _ member
      rw [Const.convert_congr _ ih, converted] at otherConverted
      rw [found, otherFound, Except.ok.inj otherConverted]

/-- All solutions are the one that the rounds find, if they find one. -/
theorem lookup_eq_of_solves {other : Symbols} (resolved : m.symbols = .ok symbols)
    (another : m.Solves other) (s : String)
    : other.lookup s = symbols.lookup s := by
  have known := symbols_ok_iff.1 ⟨symbols, resolved⟩
  have solution := distinct.solves resolved
  by_cases isAlias : s ∈ m.aliasNames
  · obtain ⟨⟨name, aliasee⟩, member, rfl⟩ := List.mem_map.1 isAlias
    exact distinct.lookup_eq_of_known solution another (.aliased member (known _ member))
  · rw [another.own s isAlias, solution.own s isAlias]

end DistinctAliases

/-- An alias of another symbol itself, without an expression around it. -/
def IsAliasOf (m : Module) (name target : String) : Prop :=
  ∃ type, (name, .ref target type) ∈ m.aliases

/-- In a solution, the aliases of a chain stand for what the chain ends in. -/
theorem Solves.lookup_of_chain (solution : m.Solves symbols) {name target : String}
    (chain : Relation.ReflTransGen m.IsAliasOf name target)
    : symbols.lookup name = symbols.lookup target := by
  induction chain using Relation.ReflTransGen.head_induction_on with
  | refl => rfl
  | head link _ ih =>
      obtain ⟨type, member⟩ := link
      obtain ⟨c, found, converted⟩ := solution.aliased _ member
      rw [← ih, found]
      rw [Const.convert] at converted
      split at converted
      · next isFound =>
          rw [isFound, Except.ok.inj converted]
      · cases converted

----------------------------------------------------------------------------------------------
-- Circles
----------------------------------------------------------------------------------------------

/-- The constant of an alias mentions a symbol, where it is converted. -/
def Mentions (m : Module) (name target : String) : Prop :=
  ∃ aliasee, (name, aliasee) ∈ m.aliases ∧ target ∈ aliasee.references

/-- What a symbol mentions, and what that mentions in turn, comes to a symbol that the module lacks or runs
in a circle.
-/
def Unresolvable (m : Module) (s : String) : Prop :=
  ∃ target,
    Relation.ReflTransGen m.Mentions s target
    ∧ (target ∉ m.ownNames ++ m.aliasNames ∨ Relation.TransGen m.Mentions target target)

/-- A symbol can be resolved if all that can be reached from it is there and on no circle. -/
theorem not_unresolvable_iff
    : ¬ m.Unresolvable s
      ↔ ∀ target,
          Relation.ReflTransGen m.Mentions s target
          → target ∈ m.ownNames ++ m.aliasNames ∧ ¬ Relation.TransGen m.Mentions target target := by
  simp only [Unresolvable, not_exists, not_and, not_or, not_not]

/-- The aliases that can be reached from a symbol. -/
def Reached (m : Module) (s : String) : Type :=
  {name : String // name ∈ m.aliasNames ∧ Relation.ReflTransGen m.Mentions s name}

/-- There are finitely many of them. So mentions come to an end, where none of them is on a circle. -/
theorem wellFounded_mentions
    (noCircle : ∀ name : m.Reached s, ¬ Relation.TransGen m.Mentions name.1 name.1)
    : WellFounded fun later earlier : m.Reached s => Relation.TransGen m.Mentions earlier.1 later.1 := by
  have : Finite (m.Reached s) := (m.aliasNames.finite_toSet.subset fun _ reached => reached.1).to_subtype
  have : IsTrans (m.Reached s) fun later earlier => Relation.TransGen m.Mentions earlier.1 later.1 :=
    ⟨fun _ _ _ first second => second.trans first⟩
  have : Std.Irrefl fun later earlier : m.Reached s => Relation.TransGen m.Mentions earlier.1 later.1 :=
    ⟨noCircle⟩
  exact Finite.wellFounded_of_trans_of_irrefl _

/-- What can be reached from a symbol that can be resolved is known, by induction along mentions. -/
theorem known_of_reached (resolvable : ¬ m.Unresolvable s) (name : m.Reached s) : m.Known name.1 := by
  have fine := not_unresolvable_iff.1 resolvable
  have ends := wellFounded_mentions fun name : m.Reached s => (fine _ name.2.2).2
  induction name using ends.induction with
  | _ name ih =>
      obtain ⟨⟨_, aliasee⟩, member, same⟩ := List.mem_map.1 name.2.1
      obtain rfl := same
      refine .aliased member fun target refers => ?_
      have mentions : m.Mentions name.1 target := ⟨aliasee, member, refers⟩
      have path := name.2.2.tail mentions
      rcases List.mem_append.1 (fine target path).1 with own | isAlias
      · exact .own own
      · exact ih ⟨target, isAlias, path⟩ (.single mentions)

/-- A known symbol is one of the module. -/
theorem Known.mem_names (known : m.Known s) : s ∈ m.ownNames ++ m.aliasNames := by
  cases known with
  | own has => exact List.mem_append_left _ has
  | aliased member _ => exact List.mem_append_right _ (List.mem_map_of_mem member)

namespace DistinctAliases

variable (distinct : m.DistinctAliases)

include distinct

/-- What a known symbol mentions is known. -/
theorem known_of_mentions {target : String} (known : m.Known s) (mentions : m.Mentions s target)
    : m.Known target := by
  obtain ⟨aliasee, member, refers⟩ := mentions
  cases known with
  | own has => exact absurd has (distinct.apart _ (List.mem_map_of_mem member))
  | aliased again known => exact known _ (distinct.aliasee_eq again member ▸ refers)

/-- What can be reached from a known symbol is known. -/
theorem known_of_path {target : String} (known : m.Known s)
    (path : Relation.ReflTransGen m.Mentions s target)
    : m.Known target := by
  induction path with
  | refl => exact known
  | tail _ mentions ih => exact distinct.known_of_mentions ih mentions

/-- A known symbol is on no circle, by induction over known symbols: a circle could be started one symbol
later.
-/
theorem not_circular_of_known (known : m.Known s) : ¬ Relation.TransGen m.Mentions s s := by
  induction known with
  | own has =>
      intro circle
      obtain ⟨_, ⟨_, member, _⟩, _⟩ := Relation.TransGen.head'_iff.1 circle
      exact distinct.apart _ (List.mem_map_of_mem member) has
  | aliased member _ ih =>
      intro circle
      obtain ⟨target, mentions, back⟩ := Relation.TransGen.head'_iff.1 circle
      obtain ⟨_, again, refers⟩ := mentions
      exact ih target (distinct.aliasee_eq member again ▸ refers) (.tail' back ⟨_, again, refers⟩)

/-- A symbol is known if and only if it can be resolved. -/
theorem known_iff : m.Known s ↔ ¬ m.Unresolvable s := by
  constructor
  · intro known
    refine not_unresolvable_iff.2 fun target path => ?_
    have targetKnown := distinct.known_of_path known path
    exact ⟨targetKnown.mem_names, distinct.not_circular_of_known targetKnown⟩
  · intro resolvable
    rcases List.mem_append.1 (not_unresolvable_iff.1 resolvable s .refl).1 with own | isAlias
    · exact .own own
    · exact known_of_reached resolvable ⟨s, isAlias, .refl⟩

/-- Aliases refer to known symbols only, if and only if none of them is on a circle and none mentions a symbol
that the module lacks.
-/
theorem aliasesKnown_iff
    : m.AliasesKnown
      ↔ (∀ name, ¬ Relation.TransGen m.Mentions name name)
        ∧ ∀ name target, m.Mentions name target → target ∈ m.ownNames ++ m.aliasNames := by
  constructor
  · intro known
    constructor
    · intro name circle
      obtain ⟨_, ⟨aliasee, member, _⟩, _⟩ := Relation.TransGen.head'_iff.1 circle
      exact distinct.not_circular_of_known (.aliased member (known _ member)) circle
    · rintro name target ⟨aliasee, member, refers⟩
      exact (known _ member target refers).mem_names
  · rintro ⟨noCircle, complete⟩ entry member s refers
    rw [distinct.known_iff, not_unresolvable_iff]
    intro target path
    refine ⟨?_, noCircle target⟩
    rcases path.cases_tail with rfl | ⟨_, _, mentions⟩
    · exact complete entry.1 _ ⟨entry.2, member, refers⟩
    · exact complete _ _ mentions

/-- Where the rounds fail, they name the first alias that cannot be resolved. -/
theorem first_of_error {e : ModuleError} (failed : m.symbols = .error e)
    : ∃ before left after,
        m.aliases = before ++ left :: after
        ∧ e = .unresolvedAlias left.1
        ∧ m.Unresolvable left.1
        ∧ ∀ entry ∈ before, ¬ m.Unresolvable entry.1 := by
  obtain ⟨reached, before, left, after, resolutions, place, named, fails, settled, done⟩ :=
    resolveAliases_error failed
  refine ⟨before, left, after, place, named, ?_, fun entry member => ?_⟩
  · by_contra resolvable
    have known := distinct.known_iff.2 resolvable
    have isLeft : left ∈ m.aliases := place ▸ List.mem_append_right _ List.mem_cons_self
    have ready : ∀ s ∈ left.2.references, s ∈ reached.map Prod.fst := by
      intro s refers
      exact mem_keys_of_known resolutions done (distinct.known_of_mentions known ⟨left.2, isLeft, refers⟩)
    exact fails ((Const.convert_ok_iff reached _).2 ready)
  · exact distinct.known_iff.1 (known_of_resolutions resolutions _ (settled entry member).1)

/-- In another order of the aliases, the rounds succeed as well, with the same table. -/
theorem symbols_of_perm {order : List (String × Const)} (reordered : order.Perm m.aliases)
    : let other := { m with aliases := order }
      ((∃ symbols, other.symbols = .ok symbols) ↔ ∃ symbols, m.symbols = .ok symbols)
      ∧ ∀ symbols again,
          m.symbols = .ok symbols → other.symbols = .ok again → ∀ s, again.lookup s = symbols.lookup s := by
  intro other
  have names : other.aliasNames.Perm m.aliasNames := reordered.map Prod.fst
  have otherDistinct : other.DistinctAliases :=
    ⟨names.nodup_iff.2 distinct.nodup, fun name isAlias => distinct.apart name (names.mem_iff.1 isAlias)⟩
  have mentions : other.Mentions = m.Mentions := by
    funext name target
    simp only [Mentions, other, reordered.mem_iff]
  have complete : ∀ s, s ∈ other.ownNames ++ other.aliasNames ↔ s ∈ m.ownNames ++ m.aliasNames := by
    intro s
    rw [List.mem_append, List.mem_append, names.mem_iff]
    rfl
  constructor
  · simp only [symbols_ok_iff, otherDistinct.aliasesKnown_iff, distinct.aliasesKnown_iff, mentions, complete]
  · intro symbols again resolved resolvedAgain s
    obtain ⟨own, aliased⟩ := otherDistinct.solves resolvedAgain
    refine distinct.lookup_eq_of_solves resolved ⟨fun s noAlias => ?_, fun entry member => ?_⟩ s
    · exact own s fun isAlias => noAlias (names.mem_iff.1 isAlias)
    · exact aliased entry (reordered.mem_iff.2 member)

end DistinctAliases

/-- Aliases are resolved to the one solution of their equations, in any order. The rounds end after no more of
them than there are aliases. They succeed if and only if no alias is on a circle of aliases that mention each
other, and none mentions a symbol that the module lacks. The table that they end with is a solution, and any
other is the same; so a chain of aliases that ends in a function or global stands for it. Another order gives
the same. Where the rounds fail, they name the first alias that cannot be resolved.
-/
theorem symbols_unique_solution (distinct : m.DistinctAliases)
    : (∃ count ≤ m.aliases.length,
        (∃ final, aliasRound^[count] (m.aliases, m.ownSymbols) = ([], final) ∧ m.symbols = .ok final)
        ∨ ∃ first others reached,
            aliasRound^[count] (m.aliases, m.ownSymbols) = (first :: others, reached)
            ∧ aliasRound (first :: others, reached) = (first :: others, reached)
            ∧ m.symbols = .error (.unresolvedAlias first.1))
      ∧ ((∃ symbols, m.symbols = .ok symbols)
          ↔ (∀ name, ¬ Relation.TransGen m.Mentions name name)
            ∧ ∀ name target, m.Mentions name target → target ∈ m.ownNames ++ m.aliasNames)
      ∧ (∀ symbols,
          m.symbols = .ok symbols
          → m.Solves symbols
            ∧ (∀ other, m.Solves other → ∀ s, other.lookup s = symbols.lookup s)
            ∧ ∀ name target,
                Relation.ReflTransGen m.IsAliasOf name target
                → target ∈ m.ownNames
                → symbols.lookup name = m.ownSymbols.lookup target)
      ∧ (∀ order : List (String × Const),
          order.Perm m.aliases
          → let other := { m with aliases := order }
            ((∃ symbols, other.symbols = .ok symbols) ↔ ∃ symbols, m.symbols = .ok symbols)
            ∧ ∀ symbols again,
                m.symbols = .ok symbols
                → other.symbols = .ok again
                → ∀ s, again.lookup s = symbols.lookup s)
      ∧ ∀ e,
          m.symbols = .error e
          → ∃ before left after,
              m.aliases = before ++ left :: after
              ∧ e = .unresolvedAlias left.1
              ∧ m.Unresolvable left.1
              ∧ ∀ entry ∈ before, ¬ m.Unresolvable entry.1 := by
  refine ⟨resolveAliases_rounds m.aliases m.ownSymbols, ?_, ?_, ?_, ?_⟩
  · rw [symbols_ok_iff, distinct.aliasesKnown_iff]
  · intro symbols resolved
    have solution := distinct.solves resolved
    refine ⟨solution, fun other another => distinct.lookup_eq_of_solves resolved another, ?_⟩
    intro name target chain isOwn
    rw [solution.lookup_of_chain chain]
    exact solution.own target fun isAlias => distinct.apart target isAlias isOwn
  · intro order reordered
    exact distinct.symbols_of_perm reordered
  · intro e failed
    exact distinct.first_of_error failed

/-- A module whose aliases are listed before those that they mention. -/
def chained : Module :=
  let walk : Ty := .function .void []
  { name := "chained"
    functions := [⟨"walk", [], [⟨.text "entry", [], .ret none⟩]⟩]
    decls := []
    globals := ["table"]
    aliases :=
      [ ("both", .struct [.ref "front" walk, .cast .bitCast (.ref "table" (.int 8)) (.pointer 0 .void)]),
        ("front", .ref "middle" walk),
        ("middle", .ref "back" walk),
        ("back", .ref "walk" walk) ]
    structs := [] }

/-- The equations of these aliases are solved, and the chain of three stands for the function at its end. -/
theorem symbols_unique_solution_chained
    : let walk : PointerOrigins.Constant := .function ⟨0, "walk"⟩
      let table : PointerOrigins.Constant := .global ⟨"table"⟩
      let symbols : Symbols :=
        [ ("both", .struct [walk, .bitCast table]), ("front", walk), ("middle", walk), ("back", walk),
          ("table", table), ("walk", walk) ]
      chained.DistinctAliases
      ∧ chained.symbols = .ok symbols
      ∧ chained.Solves symbols
      ∧ (∀ other, chained.Solves other → ∀ s, other.lookup s = symbols.lookup s)
      ∧ symbols.lookup "front" = some walk := by
  intro walk table symbols
  have distinct : chained.DistinctAliases := ⟨by decide, by decide⟩
  have resolved : chained.symbols = .ok symbols := by decide +kernel
  obtain ⟨_, _, onSuccess, _⟩ := symbols_unique_solution distinct
  obtain ⟨solution, unique, chains⟩ := onSuccess symbols resolved
  have chain : Relation.ReflTransGen chained.IsAliasOf "front" "walk" := by
    refine .head (b := "middle") ⟨.function .void [], by simp [chained]⟩ ?_
    refine .head (b := "back") ⟨.function .void [], by simp [chained]⟩ ?_
    exact .single ⟨.function .void [], by simp [chained]⟩
  exact ⟨distinct, resolved, solution, unique, chains "front" "walk" chain (by decide)⟩

end Module

end PointerOrigins.Bitcode
