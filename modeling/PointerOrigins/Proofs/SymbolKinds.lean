import Mathlib.Data.List.Sort
import PointerOrigins.Classifier
import PointerOrigins.Proofs.ProgramOrder

/-!
The kinds of calls by their symbols. What signatures say about a symbol is told from the map alone: its
patterns that match, the order of their texts, and their lists. The sorted patterns and what they match are
aligned with the map, so that every position that matches leads to a list. Nothing is asked of the way in which
patterns are read and matched, and of a demangler only that it knows the standard library by its names.
-/

namespace PointerOrigins

/-- A list is read if each of its entries is. -/
theorem mapM_eq_some_iff {α β : Type} {f : α → Option β} {entries : List α} {results : List β}
    : entries.mapM f = some results ↔ List.Forall₂ (fun a b => f a = some b) entries results := by
  induction entries generalizing results with
  | nil => simp [eq_comm]
  | cons first rest ih =>
      simp only [List.mapM_cons, Option.bind_eq_bind, Option.bind_eq_some_iff, Option.pure_def,
        Option.some.injEq, List.forall₂_cons_left_iff, ih]
      constructor
      · intro read
        obtain ⟨b, isFirst, others, areRest, rfl⟩ := read
        exact ⟨b, others, isFirst, areRest, rfl⟩
      · intro paired
        obtain ⟨b, others, isFirst, areRest, rfl⟩ := paired
        exact ⟨b, isFirst, others, areRest, rfl⟩

/-- In a list that decreases, the first key with a value is the greatest one that has any. -/
theorem findSome_eq_some_iff_of_descending {β : Type} {f : String → Option β} {keys : List String} {b : β}
    (descending : keys.Pairwise (· ≥ ·))
    : keys.findSome? f = some b
      ↔ ∃ key ∈ keys, f key = some b ∧ ∀ other ∈ keys, f other ≠ none → other ≤ key := by
  induction keys with
  | nil => simp
  | cons head rest ih =>
      obtain ⟨headGreatest, restDescending⟩ := List.pairwise_cons.1 descending
      cases isHead : f head with
      | none => simp [isHead, ih restDescending]
      | some value =>
          rw [List.findSome?_cons, isHead]
          constructor
          · intro found
            refine ⟨head, List.mem_cons_self, isHead.trans found, fun other member _ => ?_⟩
            rcases List.mem_cons.1 member with same | behind
            · exact same ▸ String.le_refl _
            · exact headGreatest other behind
          · intro greatest
            obtain ⟨key, member, found, others⟩ := greatest
            have above : head ≤ key := others head List.mem_cons_self (by simp [isHead])
            have same : key = head := by
              rcases List.mem_cons.1 member with same | behind
              · exact same
              · exact String.le_antisymm (headGreatest key behind) above
            rw [← found, same, isHead]

/-- Whether a text is a pattern that matches a symbol. -/
def PatternEngine.hits (engine : PatternEngine) (source symbol : String) : Bool :=
  (engine.parse? source).any fun p => engine.accepts p symbol

namespace SignatureMap

/-- A pattern of the map matches a symbol, and has this list. -/
def Applies (m : SignatureMap) (engine : PatternEngine) (symbol source : String) (list : List Signature)
    : Prop :=
  (source, list) ∈ m.entries ∧ engine.hits source symbol = true

/-- No pattern that matches a symbol has any signatures. -/
def Silent (m : SignatureMap) (engine : PatternEngine) (symbol : String) : Prop :=
  ∀ source list, m.Applies engine symbol source list → list = []

/-- What the signatures of a map say about the pointer that a function returns. If any of them says `top`, it is
that; otherwise it is what the last one says of the greatest pattern that has any.
-/
inductive Says (m : SignatureMap) (engine : PatternEngine) (symbol : String) : AllocType → Prop
  | top {source list} (applies : m.Applies engine symbol source list) (isTop : .returnAlloc .top ∈ list)
    : Says m engine symbol .top
  | last {source list type}
    (noTop : ∀ other otherList, m.Applies engine symbol other otherList → .returnAlloc .top ∉ otherList)
    (applies : m.Applies engine symbol source list) (isLast : list.getLast? = some (.returnAlloc type))
    (greatest : ∀ other otherList, m.Applies engine symbol other otherList → otherList ≠ [] → other ≤ source)
    : Says m engine symbol type

variable {m other : SignatureMap} {symbol source : String} {list : List Signature}

theorem get_of_mem (member : (source, list) ∈ m.entries) : m.get? source = some list :=
  lookup_of_mem m.distinct member

theorem get_of_perm (reordered : other.entries.Perm m.entries) : other.get? source = m.get? source :=
  lookup_eq_of_perm m.distinct reordered

end SignatureMap

namespace Signatures

variable {engine : PatternEngine} {m other : SignatureMap} {s : Signatures} {symbol source : String}
  {list : List Signature} {position : Nat} {type : AllocType}

/-- The parts of signatures belong together: the patterns are those of the map, in order, and their tests are what
the engine reads.
-/
structure Aligned (s : Signatures) (engine : PatternEngine) (m : SignatureMap) : Prop where
  map : s.map = m
  complete : s.sources.Perm m.sources
  ordered : s.sources.Pairwise (· ≤ ·)
  read
    : List.Forall₂ (fun source test => ∃ p, engine.parse? source = some p ∧ test = engine.accepts p) s.sources
        s.set

/-- The patterns that match a symbol, in order. -/
def hitting (s : Signatures) (engine : PatternEngine) (symbol : String) : List String :=
  s.sources.filter fun source => engine.hits source symbol

/-- Sorted patterns are in order. -/
theorem pairwise_mergeSort_sources (sources : List String)
    : (sources.mergeSort (· ≤ ·)).Pairwise (· ≤ ·) := by
  have sorted := @List.pairwise_mergeSort String (fun one other => decide (one ≤ other))
    (fun _ _ _ before behind => by
      simp only [decide_eq_true_eq] at before behind ⊢
      exact String.le_trans before behind)
    (fun one other => by simpa using String.le_total one other) sources
  exact sorted.imp of_decide_eq_true

/-- A map is accepted if its patterns can be read, in order and together. -/
theorem ofMapBy_eq_ok_iff
    : ofMapBy engine m = .ok s
      ↔ s.map = m
        ∧ s.sources = m.sources.mergeSort (· ≤ ·)
        ∧ ∃ patterns,
            s.sources.mapM engine.parse? = some patterns
            ∧ engine.fits patterns = true
            ∧ s.set = patterns.map engine.accepts := by
  obtain ⟨map, sources, set⟩ := s
  rw [ofMapBy]
  cases read : (m.sources.mergeSort (· ≤ ·)).mapM engine.parse? with
  | none => grind
  | some found => grind

/-- The parts of accepted signatures belong together. -/
theorem aligned_of_ofMapBy (accepted : ofMapBy engine m = .ok s) : s.Aligned engine m := by
  obtain ⟨isMap, sorted, patterns, read, _, tests⟩ := ofMapBy_eq_ok_iff.1 accepted
  refine ⟨isMap, sorted ▸ List.mergeSort_perm _ _, sorted ▸ pairwise_mergeSort_sources _, ?_⟩
  rw [tests, List.forall₂_map_right_iff]
  exact (mapM_eq_some_iff.1 read).imp fun _ p isRead => ⟨p, isRead, rfl⟩

/-- Signatures say `top` if any of them does, and otherwise what the last one does. -/
theorem combine_eq_some_iff {result : Option AllocType} {signatures : List Signature}
    : combine result signatures = some type
      ↔ (type = .top ∧ .returnAlloc .top ∈ signatures)
        ∨ (.returnAlloc .top ∉ signatures
          ∧ (signatures.getLast? = some (.returnAlloc type) ∨ (signatures = [] ∧ result = some type))) := by
  fun_induction combine result signatures with
  | case1 result => simp
  | case2 result rest => simpa using eq_comm
  | case3 result said rest notTop ih =>
      rw [ih]
      cases rest with
      | nil => cases said <;> simp_all
      | cons next later => cases said <;> simp_all

theorem combine_eq_none_iff {result : Option AllocType} {signatures : List Signature}
    : combine result signatures = none ↔ signatures = [] ∧ result = none := by
  fun_induction combine result signatures with
  | case1 result => simp
  | case2 result rest => simp
  | case3 result said rest notTop ih => simp [ih]

theorem returnAlloc_eq : s.returnAlloc? symbol = combine none ((s.find? symbol).getD []) := by
  rw [returnAlloc?]
  cases s.find? symbol with
  | none => rfl
  | some signatures => rfl

namespace Aligned

variable (aligned : s.Aligned engine m)

include aligned

/-- The positions that match are those of the patterns that match, in order. -/
theorem matching_pairs (symbol : String)
    : List.Forall₂ (fun position source => s.sources[position]? = some source) (s.matching symbol)
        (s.hitting engine symbol) := by
  have placed : List.Forall₂
      (fun entry source =>
        s.sources[entry.2]? = some source
        ∧ ∃ p, engine.parse? source = some p ∧ entry.1 = engine.accepts p)
      s.set.zipIdx s.sources := by
    obtain ⟨sameLength, read⟩ := List.forall₂_iff_get.1 aligned.read
    refine List.forall₂_iff_get.2 ⟨by rw [List.length_zipIdx, sameLength], fun i inZip inSources => ?_⟩
    simp only [List.get_eq_getElem, List.getElem_zipIdx, Nat.zero_add]
    exact ⟨List.getElem?_eq_getElem inSources, read i inSources (by simpa using inZip)⟩
  rw [matching, List.forall₂_map_left_iff]
  refine (List.rel_filter ?_ placed).imp fun _ _ both => both.1
  intro entry source both
  obtain ⟨_, p, isRead, test⟩ := both
  simp [PatternEngine.hits, isRead, test]

/-- A position of a pattern leads to its list. -/
theorem signaturesAt_of_mem (placed : s.sources[position]? = some source) (member : (source, list) ∈ m.entries)
    : s.signaturesAt? position = some list := by
  rw [signaturesAt?, placed, aligned.map]
  exact SignatureMap.get_of_mem member

/-- The patterns that match are those that apply with some list. -/
theorem mem_hitting_iff : source ∈ s.hitting engine symbol ↔ ∃ list, m.Applies engine symbol source list := by
  rw [hitting, List.mem_filter, aligned.complete.mem_iff, SignatureMap.sources, List.mem_map]
  constructor
  · intro both
    obtain ⟨⟨⟨_, list⟩, member, rfl⟩, hits⟩ := both
    exact ⟨list, member, hits⟩
  · intro some
    obtain ⟨list, member, hits⟩ := some
    exact ⟨⟨(source, list), member, rfl⟩, hits⟩

/-- Each position that matches is that of a pattern that applies, and leads to its list. -/
theorem applies_of_matching (isMatch : position ∈ s.matching symbol)
    : ∃ source list,
        s.sources[position]? = some source
        ∧ m.Applies engine symbol source list
        ∧ s.signaturesAt? position = some list := by
  obtain ⟨source, isHit, placed⟩ := exists_of_pairs (aligned.matching_pairs symbol) isMatch
  obtain ⟨list, applies⟩ := aligned.mem_hitting_iff.1 isHit
  exact ⟨source, list, placed, applies, aligned.signaturesAt_of_mem placed applies.1⟩

/-- A pattern that applies has a position that matches. -/
theorem matching_of_applies (applies : m.Applies engine symbol source list)
    : ∃ position ∈ s.matching symbol,
        s.sources[position]? = some source ∧ s.signaturesAt? position = some list := by
  obtain ⟨position, isMatch, placed⟩ :=
    exists_of_pairs (aligned.matching_pairs symbol).flip (aligned.mem_hitting_iff.2 ⟨list, applies⟩)
  exact ⟨position, isMatch, placed, aligned.signaturesAt_of_mem placed applies.1⟩

/-- The signatures that are found are those of the patterns that match, in order. -/
theorem find_eq (symbol : String)
    : (s.find? symbol).getD []
      = (s.hitting engine symbol).flatMap fun source => (m.get? source).getD [] := by
  have found : (s.find? symbol).getD []
      = (s.matching symbol).flatMap fun position => (s.signaturesAt? position).getD [] := by
    rw [find?]
    split
    · next none => rw [none]; rfl
    · rfl
  have lists := map_eq_of_pairs (f := fun position => (s.signaturesAt? position).getD [])
    (g := fun source => (m.get? source).getD [])
    (fun placed => by rw [signaturesAt?, placed, aligned.map]; rfl) (aligned.matching_pairs symbol)
  rw [found, List.flatMap_def, List.flatMap_def, lists]

theorem mem_find_iff {signature : Signature}
    : signature ∈ (s.find? symbol).getD []
      ↔ ∃ source list, m.Applies engine symbol source list ∧ signature ∈ list := by
  rw [aligned.find_eq, List.mem_flatMap]
  constructor
  · intro said
    obtain ⟨source, isHit, inList⟩ := said
    obtain ⟨list, applies⟩ := aligned.mem_hitting_iff.1 isHit
    rw [SignatureMap.get_of_mem applies.1] at inList
    exact ⟨source, list, applies, inList⟩
  · intro said
    obtain ⟨source, list, applies, inList⟩ := said
    refine ⟨source, aligned.mem_hitting_iff.2 ⟨list, applies⟩, ?_⟩
    rwa [SignatureMap.get_of_mem applies.1]

/-- The last signature that is found is the last one of the greatest pattern that has any. -/
theorem getLast_find_iff {signature : Signature}
    : ((s.find? symbol).getD []).getLast? = some signature
      ↔ ∃ source list,
          m.Applies engine symbol source list
          ∧ list.getLast? = some signature
          ∧ ∀ other otherList, m.Applies engine symbol other otherList → otherList ≠ [] → other ≤ source := by
  -- The last one is searched for through the patterns from the greatest one down.
  have descending : (s.hitting engine symbol).reverse.Pairwise (· ≥ ·) :=
    List.pairwise_reverse.2 (aligned.ordered.filter _)
  rw [aligned.find_eq, List.getLast?_flatMap, findSome_eq_some_iff_of_descending descending]
  simp only [List.mem_reverse, aligned.mem_hitting_iff]
  constructor
  · intro found
    obtain ⟨source, ⟨list, applies⟩, isLast, greatest⟩ := found
    rw [SignatureMap.get_of_mem applies.1] at isLast
    refine ⟨source, list, applies, isLast, fun other otherList alsoApplies saysAny => ?_⟩
    apply greatest other ⟨otherList, alsoApplies⟩
    simpa [SignatureMap.get_of_mem alsoApplies.1] using saysAny
  · intro said
    obtain ⟨source, list, applies, isLast, greatest⟩ := said
    refine ⟨source, ⟨list, applies⟩, by rwa [SignatureMap.get_of_mem applies.1], fun other isHit saysAny => ?_⟩
    obtain ⟨otherList, alsoApplies⟩ := isHit
    apply greatest other otherList alsoApplies
    simpa [SignatureMap.get_of_mem alsoApplies.1] using saysAny

/-- What is said about a symbol can be told from the map. -/
theorem returnAlloc_eq_some_iff : s.returnAlloc? symbol = some type ↔ m.Says engine symbol type := by
  rw [returnAlloc_eq, combine_eq_some_iff, aligned.mem_find_iff, aligned.getLast_find_iff]
  constructor
  · intro said
    rcases said with isTop | isLast
    · obtain ⟨rfl, source, list, applies, inList⟩ := isTop
      exact .top applies inList
    · obtain ⟨noTop, last | empty⟩ := isLast
      · obtain ⟨source, list, applies, isLast, greatest⟩ := last
        exact .last (fun other otherList alsoApplies isTop => noTop ⟨other, otherList, alsoApplies, isTop⟩)
          applies isLast greatest
      · cases empty.2
  · intro said
    cases said with
    | top applies isTop => exact .inl ⟨rfl, _, _, applies, isTop⟩
    | last noTop applies isLast greatest =>
        refine .inr ⟨?_, .inl ⟨_, _, applies, isLast, greatest⟩⟩
        intro isTop
        obtain ⟨other, otherList, alsoApplies, inList⟩ := isTop
        exact noTop other otherList alsoApplies inList

/-- Nothing is said about a symbol if only empty lists apply. -/
theorem returnAlloc_eq_none_iff : s.returnAlloc? symbol = none ↔ m.Silent engine symbol := by
  rw [returnAlloc_eq, combine_eq_none_iff, List.eq_nil_iff_forall_not_mem]
  constructor
  · intro nothing source list applies
    refine List.eq_nil_iff_forall_not_mem.2 fun signature inList => ?_
    exact nothing.1 signature (aligned.mem_find_iff.2 ⟨source, list, applies, inList⟩)
  · intro silent
    refine ⟨fun signature isFound => ?_, rfl⟩
    obtain ⟨source, list, applies, inList⟩ := aligned.mem_find_iff.1 isFound
    rw [silent source list applies] at inList
    cases inList

end Aligned

/-- A map with the same entries in another order is accepted too, and finds the same signatures. -/
theorem ofMapBy_of_perm (accepted : ofMapBy engine m = .ok s) (reordered : other.entries.Perm m.entries)
    : ∃ t, ofMapBy engine other = .ok t ∧ ∀ symbol, t.find? symbol = s.find? symbol := by
  obtain ⟨rfl, sorted, read⟩ := ofMapBy_eq_ok_iff.1 accepted
  have sameSources : s.sources = other.sources.mergeSort (· ≤ ·) := by
    rw [sorted]
    refine List.Perm.eq_of_pairwise (fun _ _ _ _ => String.le_antisymm) (pairwise_mergeSort_sources _)
      (pairwise_mergeSort_sources _) ?_
    exact (List.mergeSort_perm _ _).trans ((reordered.symm.map _).trans (List.mergeSort_perm _ _).symm)
  have sameLists : ∀ position, signaturesAt? ⟨other, s.sources, s.set⟩ position
      = s.signaturesAt? position := by
    intro position
    have same : other.get? = s.map.get? := funext fun source => SignatureMap.get_of_perm reordered
    rw [signaturesAt?, signaturesAt?, same]
  refine ⟨⟨other, s.sources, s.set⟩, ofMapBy_eq_ok_iff.2 ⟨rfl, sameSources, read⟩, fun symbol => ?_⟩
  simp only [find?, matching, sameLists]

end Signatures

----------------------------------------------------------------------------------------------
-- Names of the standard library
----------------------------------------------------------------------------------------------

namespace Demangler

/-- The readable name of a symbol is one of the standard library. -/
def InStd (d : Demangler) (symbol : String) : Prop :=
  ∃ name, d.demangle? symbol = some name ∧ "std::".toList <+: name.toList

/-- The demangler says of a symbol that it belongs to the standard library exactly if its readable name does. -/
def Lawful (d : Demangler) : Prop :=
  ∀ symbol, d.isStd symbol = true ↔ d.InStd symbol

/-- Looking at the start of the readable names is lawful, whatever the names. -/
theorem lawful_ofNames (demangle? : String → Option String) : (ofNames demangle?).Lawful := by
  intro symbol
  simp only [ofNames, InStd]
  rw [Mangling.isStd, Option.any_eq_true]
  exact exists_congr fun name => and_congr_right fun _ => String.startsWith_string_iff

end Demangler

----------------------------------------------------------------------------------------------
-- Kinds
----------------------------------------------------------------------------------------------

namespace Classifier

variable {engine : PatternEngine} {m : SignatureMap} {s : Signatures} {demangler : Demangler}
  {symbol : String}

/-- The kind of a call by the symbol of its target. Well-known functions come first, then what signatures say,
then the readable name.
-/
inductive SymbolKind (engine : PatternEngine) (m : SignatureMap) (demangler : Demangler) (symbol : String)
    : OriginKind → Prop
  | allocator {kind} (known : AllocKind.ofSymbol? symbol = some kind)
    : SymbolKind engine m demangler symbol (.allocator kind)
  | signature {type} (unknown : AllocKind.ofSymbol? symbol = none) (said : m.Says engine symbol type)
    : SymbolKind engine m demangler symbol (.signature type)
  | stdCall (unknown : AllocKind.ofSymbol? symbol = none) (silent : m.Silent engine symbol)
    (inStd : demangler.InStd symbol)
    : SymbolKind engine m demangler symbol .stdCall
  | externalCall (unknown : AllocKind.ofSymbol? symbol = none) (silent : m.Silent engine symbol)
    (notInStd : ¬ demangler.InStd symbol)
    : SymbolKind engine m demangler symbol .externalCall

/-- A symbol has exactly the kind that it is given. -/
theorem symbol_eq_iff_symbolKind (aligned : s.Aligned engine m) (lawful : demangler.Lawful)
    {kind : OriginKind}
    : (Classifier.mk s demangler).symbol symbol = kind ↔ SymbolKind engine m demangler symbol kind := by
  constructor
  · intro isKind
    subst isKind
    rw [Classifier.symbol]
    split
    · next known => exact .allocator known
    · next unknown =>
        split
        · next said => exact .signature unknown (aligned.returnAlloc_eq_some_iff.1 said)
        · next silent =>
            have nothing := aligned.returnAlloc_eq_none_iff.1 silent
            split
            · next isStd => exact .stdCall unknown nothing ((lawful symbol).1 isStd)
            · next notStd => exact .externalCall unknown nothing (mt (lawful symbol).2 notStd)
  · intro isKind
    cases isKind with
    | allocator known => simp [Classifier.symbol, known]
    | signature unknown said =>
        simp [Classifier.symbol, unknown, aligned.returnAlloc_eq_some_iff.2 said]
    | stdCall unknown silent inStd =>
        simp [Classifier.symbol, unknown, aligned.returnAlloc_eq_none_iff.2 silent, (lawful symbol).2 inStd]
    | externalCall unknown silent notInStd =>
        simp [Classifier.symbol, unknown, aligned.returnAlloc_eq_none_iff.2 silent,
          mt (lawful symbol).1 notInStd]

/-- With signatures that are accepted, the kind of a call is told from the symbol, the map and the readable name,
however patterns are read and matched and whichever lawful demangler is used. Every position that matches leads to
the list of a pattern that applies, and every such pattern has a position. A map with the same entries in another
order is accepted too, and gives the same kinds.
-/
theorem symbol_exact (accepted : Signatures.ofMapBy engine m = .ok s) (lawful : demangler.Lawful)
    (symbol : String)
    : (∀ kind,
        (Classifier.mk s demangler).symbol symbol = kind ↔ SymbolKind engine m demangler symbol kind)
      ∧ (∀ position ∈ s.matching symbol,
          ∃ source list,
            s.sources[position]? = some source
            ∧ m.Applies engine symbol source list
            ∧ s.signaturesAt? position = some list)
      ∧ (∀ source list,
          m.Applies engine symbol source list
          → ∃ position ∈ s.matching symbol,
              s.sources[position]? = some source ∧ s.signaturesAt? position = some list)
      ∧ ∀ other : SignatureMap,
          other.entries.Perm m.entries
          → ∃ t,
              Signatures.ofMapBy engine other = .ok t
              ∧ t.find? symbol = s.find? symbol
              ∧ (Classifier.mk t demangler).symbol symbol = (Classifier.mk s demangler).symbol symbol := by
  have aligned := Signatures.aligned_of_ofMapBy accepted
  refine ⟨fun kind => symbol_eq_iff_symbolKind aligned lawful, fun _ => aligned.applies_of_matching,
    fun _ _ => aligned.matching_of_applies, fun other reordered => ?_⟩
  obtain ⟨t, alsoAccepted, sameFound⟩ := Signatures.ofMapBy_of_perm accepted reordered
  refine ⟨t, alsoAccepted, sameFound symbol, ?_⟩
  simp only [Classifier.symbol, Signatures.returnAlloc?, sameFound]

/-- Three patterns that match `xmalloc`, the greatest of them without signatures. -/
def overlapping : SignatureMap where
  entries :=
    [ ("xm", []),
      ("lloc$", [.returnAlloc .heap, .returnAlloc .stack]),
      ("^x", [.returnAlloc .heap]) ]
  distinct := by decide

/-- The last signature of the second pattern wins, in either order of the map. -/
theorem symbol_exact_overlapping
    : ∃ s,
        Signatures.ofMap overlapping = .ok s
        ∧ (Classifier.ofSignatures s).symbol "xmalloc" = .signature .stack
        ∧ (∃ position ∈ s.matching "xmalloc", s.sources[position]? = some "lloc$")
        ∧ ∃ t,
            Signatures.ofMap (overlapping.insert "xm" []) = .ok t
            ∧ (Classifier.ofSignatures t).symbol "xmalloc" = .signature .stack := by
  have sorted : overlapping.sources.mergeSort (· ≤ ·) = ["^x", "lloc$", "xm"] :=
    List.Perm.eq_of_pairwise (fun _ _ _ _ => String.le_antisymm) (Signatures.pairwise_mergeSort_sources _)
      (by decide +kernel) ((List.mergeSort_perm _ _).trans (by decide +kernel))
  obtain ⟨patterns, read, fits⟩ : ∃ patterns,
      ["^x", "lloc$", "xm"].mapM PatternEngine.regex.parse? = some patterns
      ∧ PatternEngine.regex.fits patterns = true :=
    (Option.any_eq_true _ _).1 (by decide +kernel)
  have accepted : Signatures.ofMap overlapping
      = .ok ⟨overlapping, ["^x", "lloc$", "xm"], patterns.map PatternEngine.regex.accepts⟩ :=
    Signatures.ofMapBy_eq_ok_iff.2 ⟨rfl, sorted.symm, patterns, read, fits, rfl⟩
  have applies : overlapping.Applies .regex "xmalloc" "lloc$" [.returnAlloc .heap, .returnAlloc .stack] :=
    ⟨by decide, by decide +kernel⟩
  have others : ∀ entry ∈ overlapping.entries,
      .returnAlloc .top ∉ entry.2 ∧ (entry.2 ≠ [] → entry.1 ≤ "lloc$") := by
    decide +kernel
  have said : overlapping.Says .regex "xmalloc" .stack :=
    .last (fun _ _ applies => (others _ applies.1).1) applies rfl fun _ _ applies => (others _ applies.1).2
  obtain ⟨kinds, _, positions, reordered⟩ :=
    symbol_exact accepted (Demangler.lawful_ofNames Mangling.demangle?) "xmalloc"
  have isStack := (kinds (.signature .stack)).2 (.signature (by decide) said)
  obtain ⟨position, isMatch, placed, _⟩ := positions _ _ applies
  obtain ⟨t, alsoAccepted, _, same⟩ := reordered (overlapping.insert "xm" []) (by decide)
  exact ⟨_, accepted, isStack, ⟨position, isMatch, placed⟩, t, alsoAccepted, same.trans isStack⟩

end Classifier

end PointerOrigins
