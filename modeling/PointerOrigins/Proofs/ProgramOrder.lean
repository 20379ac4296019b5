import Mathlib.Data.List.Forall2
import Mathlib.Data.List.Sort
import PointerOrigins.Proofs.CallSites

/-!
The order in which a module is walked, said without regard to how the walk is made: functions by their
symbols, then blocks as they stand, and in each block the call instructions before the invoke that may
end it.
-/

namespace PointerOrigins

----------------------------------------------------------------------------------------------
-- Keys that occur once
----------------------------------------------------------------------------------------------

section Lookup

variable {α β : Type} [BEq α] [LawfulBEq α] {key : α} {entries others : List (α × β)}

/-- An entry with a key of its own is found by this key. -/
theorem lookup_of_mem {value : β} (unique : (entries.map Prod.fst).Nodup)
    (member : (key, value) ∈ entries)
    : entries.lookup key = some value := by
  obtain ⟨before, after, split⟩ := List.append_of_mem member
  rw [split, List.map_append, List.nodup_append] at unique
  refine List.lookup_eq_some_iff.2 ⟨before, after, split, ?_⟩
  intro entry earlier
  have other : entry.1 ≠ key :=
    unique.2.2 entry.1 (List.mem_map_of_mem earlier) key (by simp)
  simpa using other.symm

/-- Where each key occurs once, what is found by it does not depend on the order of the entries. -/
theorem lookup_eq_of_perm (unique : (entries.map Prod.fst).Nodup) (reordered : others.Perm entries)
    : others.lookup key = entries.lookup key := by
  cases found : entries.lookup key with
  | none =>
      rw [List.lookup_eq_none_iff] at found ⊢
      exact fun entry member => found entry (reordered.mem_iff.1 member)
  | some value =>
      have stillUnique : (others.map Prod.fst).Nodup := (reordered.map _).nodup_iff.2 unique
      exact lookup_of_mem stillUnique (reordered.mem_iff.2 (Graph.mem_of_lookup found))

end Lookup

----------------------------------------------------------------------------------------------
-- Lists whose entries are paired
----------------------------------------------------------------------------------------------

section Pairs

variable {α β γ : Type} {related : α → α → Prop} {entries others : List α}

/-- What entries that are paired agree on, their lists agree on. -/
theorem map_eq_of_pairs {related : α → β → Prop} {entries : List α} {others : List β} {f : α → γ}
    {g : β → γ} (agree : ∀ {x y}, related x y → g y = f x) (pairs : List.Forall₂ related entries others)
    : others.map g = entries.map f := by
  induction pairs with
  | nil => rfl
  | cons same _ ih => rw [List.map_cons, List.map_cons, agree same, ih]

/-- What entries that are paired agree on, where there is anything, their lists agree on. -/
theorem filterMap_eq_of_pairs {f : α → Option γ} (agree : ∀ {x y}, related x y → f y = f x)
    (pairs : List.Forall₂ related entries others)
    : others.filterMap f = entries.filterMap f := by
  induction pairs with
  | nil => rfl
  | cons same _ ih => rw [List.filterMap_cons, List.filterMap_cons, agree same, ih]

/-- Lists that are paired are both empty or both not. -/
theorem isEmpty_eq_of_pairs (pairs : List.Forall₂ related entries others)
    : others.isEmpty = entries.isEmpty := by
  cases pairs <;> rfl

/-- A property of each entry carries over to the entries they are paired with. -/
theorem forall_mem_iff_of_pairs {P Q : α → Prop} (agree : ∀ {x y}, related x y → (Q y ↔ P x))
    (pairs : List.Forall₂ related entries others)
    : (∀ y ∈ others, Q y) ↔ ∀ x ∈ entries, P x := by
  induction pairs with
  | nil => simp
  | cons same _ ih => rw [List.forall_mem_cons, List.forall_mem_cons, agree same, ih]

/-- What is put together from reordered parts is reordered. -/
theorem flatMap_perm_of_pairs {f : α → List γ} (agree : ∀ {x y}, related x y → (f y).Perm (f x))
    (pairs : List.Forall₂ related entries others)
    : (others.flatMap f).Perm (entries.flatMap f) := by
  induction pairs with
  | nil => exact .refl _
  | cons same _ ih =>
      rw [List.flatMap_cons, List.flatMap_cons]
      exact (agree same).append ih

/-- Looking a key up in lists that are paired finds nothing in both, or values that are paired. -/
theorem lookup_of_pairs [BEq α] [LawfulBEq α] {related : α × β → α × β → Prop}
    {entries others : List (α × β)} (sameKey : ∀ {x y}, related x y → y.1 = x.1)
    (pairs : List.Forall₂ related entries others) (key : α)
    : entries.lookup key = none ∧ others.lookup key = none
      ∨ ∃ x y,
          entries.lookup key = some x
          ∧ others.lookup key = some y
          ∧ related (key, x) (key, y) := by
  induction pairs with
  | nil => exact .inl ⟨rfl, rfl⟩
  | @cons x y _ _ same _ ih =>
      obtain ⟨first, value⟩ := x
      obtain ⟨second, otherValue⟩ := y
      obtain rfl : second = first := sameKey same
      rw [List.lookup_cons, List.lookup_cons]
      split
      · next found =>
          obtain rfl := eq_of_beq found
          exact .inr ⟨value, otherValue, rfl, rfl, same⟩
      · exact ih

/-- Every entry is paired with one of the others. -/
theorem exists_of_pairs {related : α → β → Prop} {entries : List α} {others : List β} {x : α}
    (pairs : List.Forall₂ related entries others) (member : x ∈ entries)
    : ∃ y ∈ others, related x y := by
  induction pairs with
  | nil => cases member
  | @cons first other _ _ same _ ih =>
      rcases List.mem_cons.1 member with rfl | later
      · exact ⟨other, List.mem_cons_self, same⟩
      · obtain ⟨y, inRest, related⟩ := ih later
        exact ⟨y, List.mem_cons_of_mem _ inRest, related⟩

end Pairs

----------------------------------------------------------------------------------------------
-- Functions by symbol
----------------------------------------------------------------------------------------------

namespace Module

variable {m : Module} {walked : List (FunctionName × FunctionDef)}

/-- Each function of a module stands in the list once, and symbols never decrease along it. -/
structure InSymbolOrder (m : Module) (walked : List (FunctionName × FunctionDef)) : Prop where
  complete : walked.Perm m.functions
  ordered : walked.Pairwise fun earlier later => earlier.1.symbol ≤ later.1.symbol

/-- No two functions of a module have the same symbol. -/
def DistinctSymbols (m : Module) : Prop :=
  (m.functions.map fun entry => entry.1.symbol).Nodup

/-- No two functions of a module have the same name. -/
def DistinctNames (m : Module) : Prop :=
  (m.functions.map Prod.fst).Nodup

/-- No instruction or terminator of a module is defined twice. -/
def DefinesOnce (m : Module) : Prop :=
  (m.definitions.map Prod.fst).Nodup

instance (m : Module) : Decidable m.DistinctSymbols :=
  inferInstanceAs (Decidable (List.Nodup _))

instance (m : Module) : Decidable m.DistinctNames :=
  inferInstanceAs (Decidable (List.Nodup _))

instance (m : Module) : Decidable m.DefinesOnce :=
  inferInstanceAs (Decidable (List.Nodup _))

/-- The sorted functions of a module are in the order of their symbols. -/
theorem sortedFunctions_inSymbolOrder (m : Module) : m.InSymbolOrder m.sortedFunctions := by
  have sorted : m.sortedFunctions.Pairwise fun earlier later => symbolLe earlier later = true := by
    refine List.pairwise_mergeSort ?_ ?_ m.functions
    · intro _ _ _ before behind
      simp only [symbolLe, decide_eq_true_eq] at before behind ⊢
      exact String.le_trans before behind
    · intro one other
      simpa [symbolLe] using String.le_total one.1.symbol other.1.symbol
  exact ⟨m.sortedFunctions_perm, sorted.imp of_decide_eq_true⟩

/-- Where symbols are distinct, there is one order of the functions by their symbols. -/
theorem InSymbolOrder.unique {another : List (FunctionName × FunctionDef)}
    (distinct : m.DistinctSymbols) (order : m.InSymbolOrder walked)
    (same : m.InSymbolOrder another)
    : walked = another := by
  refine List.Perm.eq_of_pairwise ?_ order.ordered same.ordered
    (order.complete.trans same.complete.symm)
  intro first second inWalked inAnother before behind
  exact List.inj_on_of_nodup_map distinct (order.complete.mem_iff.1 inWalked)
    (same.complete.mem_iff.1 inAnother) (String.le_antisymm before behind)

/-- Functions that are paired by their names are sorted together. -/
theorem sort_pairs {pairs : List ((FunctionName × FunctionDef) × (FunctionName × FunctionDef))}
    (sameName : ∀ pair ∈ pairs, pair.2.1 = pair.1.1)
    : ∃ sorted : List ((FunctionName × FunctionDef) × (FunctionName × FunctionDef)),
        sorted.Perm pairs
        ∧ (pairs.map Prod.fst).mergeSort symbolLe = sorted.map Prod.fst
        ∧ (pairs.map Prod.snd).mergeSort symbolLe = sorted.map Prod.snd := by
  refine ⟨pairs.mergeSort fun x y => symbolLe x.1 y.1, List.mergeSort_perm _ _, ?_, ?_⟩
  · exact (List.map_mergeSort (f := Prod.fst) fun _ _ _ _ => rfl).symm
  · refine (List.map_mergeSort fun x isPair y isOther => ?_).symm
    rw [symbolLe, symbolLe, sameName x isPair, sameName y isOther]

/-- The place of a function among the sorted ones does not depend on its body. Witness: all other functions are
paired with themselves.
-/
theorem sortedFunctions_at (f : FunctionName) (body changed : FunctionDef)
    (before after : List (FunctionName × FunctionDef))
    : ∃ earlier later,
        (before ++ (f, body) :: after).mergeSort symbolLe = earlier ++ (f, body) :: later
        ∧ (before ++ (f, changed) :: after).mergeSort symbolLe
          = earlier ++ (f, changed) :: later := by
  let twice (entries : List (FunctionName × FunctionDef)) := entries.map fun entry => (entry, entry)
  let place : (FunctionName × FunctionDef) × (FunctionName × FunctionDef) := ((f, body), (f, changed))
  have sameName : ∀ pair ∈ twice before ++ place :: twice after, pair.2.1 = pair.1.1 := by
    grind
  obtain ⟨sorted, reordered, isFirst, isSecond⟩ := sort_pairs sameName
  obtain ⟨front, back, rfl⟩ := List.append_of_mem (reordered.mem_iff.2 (by simp : place ∈ _))
  have others : (front ++ back).Perm (twice (before ++ after)) := by
    have around := List.perm_middle.symm.trans (reordered.trans List.perm_middle)
    simpa [twice] using around.cons_inv
  have sameTwice : ∀ pair ∈ front ++ back, pair.2 = pair.1 := by
    intro pair isOther
    obtain ⟨entry, _, rfl⟩ := List.mem_map.1 (others.mem_iff.1 isOther)
    rfl
  refine ⟨front.map Prod.fst, back.map Prod.fst, ?_, ?_⟩
  · simpa [twice, place, Function.comp_def] using isFirst
  · have sameFront : front.map Prod.snd = front.map Prod.fst :=
      List.map_congr_left fun pair member => sameTwice pair (List.mem_append_left _ member)
    have sameBack : back.map Prod.snd = back.map Prod.fst :=
      List.map_congr_left fun pair member => sameTwice pair (List.mem_append_right _ member)
    simpa [twice, place, Function.comp_def, sameFront, sameBack] using isSecond

/-- Functions with distinct symbols have distinct names. -/
theorem DistinctSymbols.names (distinct : m.DistinctSymbols) : m.DistinctNames := by
  refine List.Nodup.of_map FunctionName.symbol ?_
  rw [List.map_map]
  exact distinct

/-- Names are defined once also from the end, where the index of definitions starts. -/
theorem DefinesOnce.reverse (once : m.DefinesOnce) : (m.definitions.reverse.map Prod.fst).Nodup := by
  rw [List.map_reverse]
  exact List.nodup_reverse.2 once

/-- Where names are distinct, functions have the same bodies in whatever order they are enumerated. -/
theorem DistinctNames.body_eq {other : Module} (names : m.DistinctNames)
    (reordered : other.functions.Perm m.functions) (f : FunctionName)
    : other.body? f = m.body? f :=
  lookup_eq_of_perm names reordered

/-- Where nothing is defined twice, instructions and terminators have the same definitions in whatever order
functions are enumerated.
-/
theorem DefinesOnce.definition_eq_of_perm {other : Module} (once : m.DefinesOnce)
    (reordered : other.functions.Perm m.functions) (name : InstructionName)
    : (Graph.ofModule other).definition? name = (Graph.ofModule m).definition? name := by
  have definitions : other.definitions.Perm m.definitions := reordered.flatMap_right _
  exact lookup_eq_of_perm once.reverse
    ((List.reverse_perm _).trans (definitions.trans (List.reverse_perm _).symm))

----------------------------------------------------------------------------------------------
-- Modules whose functions are paired
----------------------------------------------------------------------------------------------

section Pairs

variable {other : Module}
  {related : FunctionName × FunctionDef → FunctionName × FunctionDef → Prop}
  (sameName : ∀ {x y}, related x y → y.1 = x.1)

include sameName

variable (pairs : List.Forall₂ related m.functions other.functions)

include pairs

/-- Sorted functions stay paired. -/
theorem sortedFunctions_pairs
    : List.Forall₂ related m.sortedFunctions other.sortedFunctions := by
  obtain ⟨sameLength, paired⟩ := List.forall₂_iff_zip.1 pairs
  have sameNames : ∀ pair ∈ m.functions.zip other.functions, pair.2.1 = pair.1.1 :=
    fun _ isPair => sameName (paired isPair)
  obtain ⟨sorted, reordered, isFirst, isSecond⟩ := sort_pairs sameNames
  rw [List.map_fst_zip sameLength.le] at isFirst
  rw [List.map_snd_zip sameLength.ge] at isSecond
  rw [sortedFunctions, sortedFunctions, isFirst, isSecond, List.forall₂_map_left_iff,
    List.forall₂_map_right_iff, List.forall₂_same]
  exact fun _ isPair => paired (reordered.mem_iff.1 isPair)

/-- Functions have as many parameters as those they are paired with. -/
theorem arity_eq_of_pairs
    (sameParameters : ∀ {x y}, related x y → y.2.parameters = x.2.parameters) (f : FunctionName)
    : other.arity? f = m.arity? f := by
  rw [arity?, arity?, body?, body?]
  rcases lookup_of_pairs sameName pairs f with
    ⟨missing, stillMissing⟩ | ⟨before, after, found, otherFound, same⟩
  · rw [missing, stillMissing]
  · rw [found, otherFound, Option.map_some, Option.map_some, sameParameters same]

/-- Modules have the same call sites if functions that are paired make the same ones. -/
theorem callSites_eq_of_pairs
    (sameSites : ∀ {x y}, related x y →
      (y.2.calls.map fun call => other.sitesOfCall call.1 call.2.2)
        = x.2.calls.map fun call => m.sitesOfCall call.1 call.2.2)
    : other.callSites = m.callSites := by
  rw [callSites, callSites, List.flatMap_def, List.flatMap_def]
  congr 1
  refine map_eq_of_pairs (fun same => ?_) (sortedFunctions_pairs sameName pairs)
  exact congrArg List.flatten (sameSites same)

/-- Calls lead to the same values if functions that are paired return the same. -/
theorem callStep_eq_of_pairs
    (sameReturned : ∀ {x y}, related x y → y.2.returned = x.2.returned) (callee : Callee)
    : (Graph.ofModule other).callStep callee = (Graph.ofModule m).callStep callee := by
  simp only [Graph.callStep, Graph.calleeBody?, Graph.ofModule]
  cases callee.direct? with
  | none => rfl
  | some f =>
      simp only [Option.bind_some, body?]
      rcases lookup_of_pairs sameName pairs f with
        ⟨missing, stillMissing⟩ | ⟨before, after, found, otherFound, same⟩
      · simp only [missing, stillMissing]
      · simp only [found, otherFound, sameReturned same]

end Pairs

end Module

----------------------------------------------------------------------------------------------
-- Calls as they stand
----------------------------------------------------------------------------------------------

/-- A call or invoke as it stands in a body. -/
structure PlacedCall where
  name : InstructionName
  /-- The word that it is written with. -/
  mnemonic : String
  call : Call
deriving DecidableEq, Repr

/-- The call that an instruction makes. -/
def Instruction.placedCall? (i : Instruction) : Option PlacedCall :=
  match i.opcode with
  | .call c => some ⟨i.name, "call", c⟩
  | _ => none

/-- The call that a block ends with. -/
def Terminator.placedCall? (t : Terminator) : Option PlacedCall :=
  match t.opcode with
  | .invoke c => some ⟨t.name, "invoke", c⟩
  | _ => none

/-- The calls of a block: first those of its instructions, then the invoke that it may end with. -/
def Block.placedCalls (b : Block) : List PlacedCall :=
  b.instrs.filterMap Instruction.placedCall? ++ b.terminator.placedCall?.toList

/-- The calls of a body, block after block. -/
def FunctionDef.placedCalls (f : FunctionDef) : List PlacedCall :=
  f.blocks.flatMap Block.placedCalls

/-- A listed call, with the word that its definition is written with. -/
def PlacedCall.ofEntry (entry : InstructionName × Definition × Call) : PlacedCall :=
  ⟨entry.1, entry.2.1.mnemonic, entry.2.2⟩

/-- The calls that are read off the definitions of a block are those that stand in it. -/
theorem Block.map_calls (b : Block) : b.calls.map PlacedCall.ofEntry = b.placedCalls := by
  rw [calls, definitions, placedCalls, List.filterMap_append, List.map_append]
  congr 1
  · rw [List.filterMap_map, List.map_filterMap]
    refine List.filterMap_congr fun i _ => ?_
    rcases i with ⟨name, opcode, ty⟩
    cases opcode <;> rfl
  · rcases b.terminator with ⟨name, opcode, ty⟩
    cases opcode <;> rfl

/-- The calls that are read off the definitions of a body are those that stand in it. -/
theorem FunctionDef.map_calls (f : FunctionDef)
    : f.calls.map PlacedCall.ofEntry = f.placedCalls := by
  simp only [calls, placedCalls, List.map_flatMap, Block.map_calls]

end PointerOrigins
