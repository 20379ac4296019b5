import PointerOrigins.Proofs.AliasResolution
import PointerOrigins.Proofs.ProgramOrder

/-!
What modules are converted to, place by place. The relations on bodies take what a value refers to as a
parameter. With the look-up of the conversion they say exactly when it succeeds and with what; with another
reading of local names they say what the result means.
-/

namespace PointerOrigins.Bitcode

----------------------------------------------------------------------------------------------
-- Results
----------------------------------------------------------------------------------------------

section Results

variable {ε α β γ : Type} {x : Except ε α} {f : α → Except ε β} {b : β}

theorem bind_eq_ok_iff : (x >>= f) = .ok b ↔ ∃ a, x = .ok a ∧ f a = .ok b := by
  cases x <;> simp [bind, Except.bind]

theorem pure_eq_ok_iff {c : β} : (pure b : Except ε β) = .ok c ↔ b = c := by
  simp [pure, Except.pure]

theorem map_eq_ok_iff {g : α → β} : x.map g = .ok b ↔ ∃ a, x = .ok a ∧ g a = b := by
  cases x <;> simp [Except.map]

/-- A list is converted if each of its entries is. -/
theorem mapM_eq_ok_iff {entries : List α} {results : List β}
    : entries.mapM f = .ok results ↔ List.Forall₂ (fun a b => f a = .ok b) entries results := by
  induction entries generalizing results with
  | nil =>
      rw [List.mapM_nil, pure_eq_ok_iff, List.forall₂_nil_left_iff, eq_comm]
  | cons first rest ih =>
      simp only [List.mapM_cons, bind_eq_ok_iff, pure_eq_ok_iff, List.forall₂_cons_left_iff, ih]
      constructor
      · intro mapped
        obtain ⟨b, isFirst, others, areRest, rfl⟩ := mapped
        exact ⟨b, others, isFirst, areRest, rfl⟩
      · intro paired
        obtain ⟨b, others, isFirst, areRest, rfl⟩ := paired
        exact ⟨b, isFirst, others, areRest, rfl⟩

/-- Two lists that are paired with the same one are paired with it together. -/
theorem forall₂_zip {first : α → β → Prop} {second : α → γ → Prop} {entries : List α} {others : List β}
    {more : List γ} (pairs : List.Forall₂ first entries others) (morePairs : List.Forall₂ second entries more)
    : List.Forall₂ (fun a r => first a r.1 ∧ second a r.2) entries (others.zip more) := by
  induction pairs generalizing more with
  | nil => exact .nil
  | cons same _ ih =>
      cases morePairs with
      | cons alsoSame rest => exact .cons ⟨same, alsoSame⟩ (ih rest)

/-- Relations that agree on the entries of a list pair it with the same ones. -/
theorem forall₂_congr {related other : α → β → Prop} {entries : List α} {others : List β}
    (agree : ∀ a ∈ entries, ∀ b, related a b ↔ other a b)
    : List.Forall₂ related entries others ↔ List.Forall₂ other entries others := by
  induction entries generalizing others with
  | nil => rw [List.forall₂_nil_left_iff, List.forall₂_nil_left_iff]
  | cons first rest ih =>
      obtain ⟨here, later⟩ := List.forall_mem_cons.1 agree
      simp only [List.forall₂_cons_left_iff, here, ih later]

/-- A list is paired with some other one if each of its entries is paired with something. -/
theorem exists_forall₂ {related : α → β → Prop} {entries : List α}
    (each : ∀ a ∈ entries, ∃ b, related a b)
    : ∃ others, List.Forall₂ related entries others := by
  induction entries with
  | nil => exact ⟨[], .nil⟩
  | cons first rest ih =>
      obtain ⟨b, same⟩ := each first List.mem_cons_self
      obtain ⟨others, pairs⟩ := ih fun a member => each a (List.mem_cons_of_mem _ member)
      exact ⟨b :: others, .cons same pairs⟩

end Results

/-- A type that exists is given as far as it matters. -/
theorem demand_eq_ok_iff {type : Option Ty} {ty : PointerOrigins.Ty}
    : demand type = .ok ty ↔ type.map Ty.summary = some ty := by
  cases type <;> simp [demand]

----------------------------------------------------------------------------------------------
-- Operations
----------------------------------------------------------------------------------------------

/-- A value has this type, as far as it matters. It is a pointer exactly if the value has a pointer type. -/
structure Value.HasTy (structs : Structs) (v : Value) (ty : PointerOrigins.Ty) : Prop where
  summary : (v.type? structs).map Ty.summary = some ty
  pointer : ty = .pointer ↔ ∃ space pointee, v.type? structs = some (.pointer space pointee)

/-- Only pointer types are given as pointers. -/
theorem Ty.summary_eq_pointer_iff {type : Ty}
    : type.summary = .pointer ↔ ∃ space pointee, type = .pointer space pointee := by
  cases type <;> simp [summary]

theorem Value.hasTy_iff {structs : Structs} {v : Value} {ty : PointerOrigins.Ty}
    : v.HasTy structs ty ↔ (v.type? structs).map Ty.summary = some ty := by
  refine ⟨HasTy.summary, fun typed => ⟨typed, ?_⟩⟩
  obtain ⟨type, isType, rfl⟩ := Option.map_eq_some_iff.1 typed
  simp only [isType, Option.some.injEq, Ty.summary_eq_pointer_iff]

/-- What is called is converted. -/
inductive Target.Becomes (refers : Value → Operand → Prop) : Target → Callee → Prop
  | value {v x} (same : refers v x) : Becomes refers (.value v) (.operand x)
  | asm {type} : Becomes refers (.asm type) .asm

/-- A call is converted: its callee, and each argument with its type. -/
structure CallBecomes (refers : Value → Operand → Prop) (structs : Structs) (target : Target)
    (args : List Value) (c : Call) : Prop where
  callee : target.Becomes refers c.callee
  arguments : List.Forall₂ refers args c.args
  types : List.Forall₂ (Value.HasTy structs) args c.argTys

/-- Operations whose operands are not converted. -/
def Op.isSkipped : Op → Bool
  | .cast .trunc _ _ | .zext _ | .vaArg _ | .freeze _ | .add _ _ | .icmp _ _ | .atomicRmw _ | .fence
  | .other _ => true
  | _ => false

/-- An operation is converted to the one of the same kind, each operand to what it refers to. -/
inductive Op.Becomes (refers : Value → Operand → Prop) (structs : Structs) : Op → Opcode → Prop
  | alloca {type count x} (same : refers count x) : Becomes refers structs (.alloca type count) (.alloca x)
  | addrSpaceCast {value type x} (same : refers value x)
    : Becomes refers structs (.cast .addrSpaceCast value type) (.addrSpaceCast x)
  | bitCast {value type x} (same : refers value x)
    : Becomes refers structs (.cast .bitCast value type) (.bitCast x)
  | intToPtr {value type x} (same : refers value x)
    : Becomes refers structs (.cast .intToPtr value type) (.intToPtr x)
  | ptrToInt {value type x} (same : refers value x)
    : Becomes refers structs (.cast .ptrToInt value type) (.ptrToInt x)
  | call {target args c} (same : CallBecomes refers structs target args c)
    : Becomes refers structs (.call target args) (.call c)
  | extractValue {aggregate indices x} (same : refers aggregate x)
    : Becomes refers structs (.extractValue aggregate indices) (.extractValue x)
  | insertValue {aggregate element x y} (same : refers aggregate x) (sameElement : refers element y)
    : Becomes refers structs (.insertValue aggregate element) (.insertValue x y)
  | getElementPtr {address indices x ys} (same : refers address x)
    (sameIndices : List.Forall₂ refers indices ys)
    : Becomes refers structs (.getElementPtr address indices) (.getElementPtr x ys)
  | landingPad {type} : Becomes refers structs (.landingPad type) .landingPad
  | phi {values type xs} (same : List.Forall₂ refers values xs)
    : Becomes refers structs (.phi values type) (.phi xs)
  | load {address x} (same : refers address x) : Becomes refers structs (.load address) (.load x)
  | select {condition whenTrue whenFalse x y z} (same : refers condition x)
    (sameTrue : refers whenTrue y) (sameFalse : refers whenFalse z)
    : Becomes refers structs (.select condition whenTrue whenFalse) (.select x y z)
  | store {address value x y} (same : refers address x) (sameValue : refers value y)
    : Becomes refers structs (.store address value) (.store y x)
  | other {op} (skipped : op.isSkipped = true) : Becomes refers structs op .other

/-- The end of a block is converted. -/
inductive End.Becomes (refers : Value → Operand → Prop) (structs : Structs) : End → TerminatorOpcode → Prop
  | retVoid : Becomes refers structs (.ret none) (.ret none)
  | ret {value x} (same : refers value x) : Becomes refers structs (.ret (some value)) (.ret (some x))
  | invoke {dest target args c} (same : CallBecomes refers structs target args c)
    : Becomes refers structs (.invoke dest target args) (.invoke c)
  | other {dest type} : Becomes refers structs (.other dest type) .other

----------------------------------------------------------------------------------------------
-- Values that are converted
----------------------------------------------------------------------------------------------

/-- The value that is called. -/
def Target.values : Target → List Value
  | .value v => [v]
  | .asm _ => []

/-- The values in the places of an operation that are converted. -/
def Op.values : Op → List Value
  | .alloca _ count => [count]
  | .cast .trunc _ _ => []
  | .cast _ value _ => [value]
  | .call target args => target.values ++ args
  | .extractValue aggregate _ => [aggregate]
  | .insertValue aggregate element => [aggregate, element]
  | .getElementPtr address indices => address :: indices
  | .phi values _ => values
  | .load address => [address]
  | .select condition whenTrue whenFalse => [condition, whenTrue, whenFalse]
  | .store address value => [value, address]
  | .zext _ | .vaArg _ | .freeze _ | .add _ _ | .icmp _ _ | .landingPad _ | .atomicRmw _ | .fence
  | .other _ => []

/-- The arguments of a call, which are asked for their types. -/
def Op.arguments : Op → List Value
  | .call _ args => args
  | _ => []

/-- The values in the places of the end of a block that are converted. -/
def End.values : End → List Value
  | .ret value => value.toList
  | .invoke _ target args => args ++ target.values
  | .other _ _ => []

/-- The arguments of an invoke, which are asked for their types. -/
def End.arguments : End → List Value
  | .invoke _ _ args => args
  | _ => []

section Values

variable {refers other : Value → Operand → Prop} {structs : Structs}

theorem Target.Becomes.mono {t : Target} {callee : Callee} (becomes : t.Becomes refers callee)
    (weaker : ∀ v x, refers v x → other v x)
    : t.Becomes other callee := by
  cases becomes with
  | value same => exact .value (weaker _ _ same)
  | asm => exact .asm

theorem CallBecomes.mono {t : Target} {args : List Value} {c : Call}
    (becomes : CallBecomes refers structs t args c) (weaker : ∀ v x, refers v x → other v x)
    : CallBecomes other structs t args c :=
  ⟨becomes.callee.mono weaker, becomes.arguments.imp weaker, becomes.types⟩

/-- An operation is converted in the same way if values refer to the same in another sense. -/
theorem Op.Becomes.mono {o : Op} {opcode : Opcode} (becomes : o.Becomes refers structs opcode)
    (weaker : ∀ v x, refers v x → other v x)
    : o.Becomes other structs opcode := by
  cases becomes with
  | alloca same => exact .alloca (weaker _ _ same)
  | addrSpaceCast same => exact .addrSpaceCast (weaker _ _ same)
  | bitCast same => exact .bitCast (weaker _ _ same)
  | intToPtr same => exact .intToPtr (weaker _ _ same)
  | ptrToInt same => exact .ptrToInt (weaker _ _ same)
  | call same => exact .call (same.mono weaker)
  | extractValue same => exact .extractValue (weaker _ _ same)
  | insertValue same sameElement => exact .insertValue (weaker _ _ same) (weaker _ _ sameElement)
  | getElementPtr same sameIndices => exact .getElementPtr (weaker _ _ same) (sameIndices.imp weaker)
  | landingPad => exact .landingPad
  | phi same => exact .phi (same.imp weaker)
  | load same => exact .load (weaker _ _ same)
  | select same sameTrue sameFalse =>
      exact .select (weaker _ _ same) (weaker _ _ sameTrue) (weaker _ _ sameFalse)
  | store same sameValue => exact .store (weaker _ _ same) (weaker _ _ sameValue)
  | other skipped => exact .other skipped

theorem End.Becomes.mono {e : End} {opcode : TerminatorOpcode} (becomes : e.Becomes refers structs opcode)
    (weaker : ∀ v x, refers v x → other v x)
    : e.Becomes other structs opcode := by
  cases becomes with
  | retVoid => exact .retVoid
  | ret same => exact .ret (weaker _ _ same)
  | invoke same => exact .invoke (same.mono weaker)
  | other => exact .other

theorem Target.Becomes.operands {t : Target} {callee : Callee} (becomes : t.Becomes refers callee)
    : List.Forall₂ refers t.values callee.operands := by
  cases becomes with
  | value same => exact .cons same .nil
  | asm => exact .nil

theorem Target.exists_becomes {t : Target} (each : ∀ v ∈ t.values, ∃ x, refers v x)
    : ∃ callee, t.Becomes refers callee := by
  cases t with
  | value v =>
      obtain ⟨x, same⟩ := each v List.mem_cons_self
      exact ⟨_, .value same⟩
  | asm type => exact ⟨_, .asm⟩

/-- The operands that an operation is converted to are those that its values refer to, in order. -/
theorem Op.Becomes.operands {o : Op} {opcode : Opcode} (becomes : o.Becomes refers structs opcode)
    : List.Forall₂ refers o.values opcode.operands := by
  cases becomes with
  | call same => exact List.rel_append same.callee.operands same.arguments
  | insertValue same sameElement => exact .cons same (.cons sameElement .nil)
  | getElementPtr same sameIndices => exact .cons same sameIndices
  | landingPad => exact .nil
  | phi same => exact same
  | select same sameTrue sameFalse => exact .cons same (.cons sameTrue (.cons sameFalse .nil))
  | store same sameValue => exact .cons sameValue (.cons same .nil)
  | other skipped =>
      unfold Op.isSkipped at skipped
      split at skipped
      case h_10 => cases skipped
      all_goals exact .nil
  | _ same => exact .cons same .nil

/-- A call can be converted if each value of it refers to something and each argument has a type. -/
theorem exists_callBecomes {t : Target} {args : List Value} (callee : ∀ v ∈ t.values, ∃ x, refers v x)
    (each : ∀ v ∈ args, ∃ x, refers v x) (typed : ∀ v ∈ args, ∃ ty, v.HasTy structs ty)
    : ∃ c, CallBecomes refers structs t args c := by
  obtain ⟨callee, called⟩ := Target.exists_becomes callee
  obtain ⟨xs, same⟩ := exists_forall₂ each
  obtain ⟨tys, haveTys⟩ := exists_forall₂ typed
  exact ⟨⟨callee, xs, tys⟩, called, same, haveTys⟩

/-- An operation can be converted if each value of it refers to something and each argument has a type. -/
theorem Op.exists_becomes {o : Op} (each : ∀ v ∈ o.values, ∃ x, refers v x)
    (typed : ∀ v ∈ o.arguments, ∃ ty, v.HasTy structs ty)
    : ∃ opcode, o.Becomes refers structs opcode := by
  cases o with
  | alloca type count =>
      obtain ⟨x, same⟩ := List.forall_mem_singleton.1 each
      exact ⟨_, .alloca same⟩
  | cast kind value type =>
      cases kind with
      | trunc => exact ⟨_, .other rfl⟩
      | addrSpaceCast =>
          obtain ⟨x, same⟩ := List.forall_mem_singleton.1 each
          exact ⟨_, .addrSpaceCast same⟩
      | bitCast =>
          obtain ⟨x, same⟩ := List.forall_mem_singleton.1 each
          exact ⟨_, .bitCast same⟩
      | intToPtr =>
          obtain ⟨x, same⟩ := List.forall_mem_singleton.1 each
          exact ⟨_, .intToPtr same⟩
      | ptrToInt =>
          obtain ⟨x, same⟩ := List.forall_mem_singleton.1 each
          exact ⟨_, .ptrToInt same⟩
  | call target args =>
      obtain ⟨callee, eachArg⟩ := List.forall_mem_append.1 each
      obtain ⟨c, same⟩ := exists_callBecomes callee eachArg typed
      exact ⟨_, .call same⟩
  | extractValue aggregate indices =>
      obtain ⟨x, same⟩ := List.forall_mem_singleton.1 each
      exact ⟨_, .extractValue same⟩
  | insertValue aggregate element =>
      obtain ⟨⟨x, same⟩, others⟩ := List.forall_mem_cons.1 each
      obtain ⟨y, sameElement⟩ := List.forall_mem_singleton.1 others
      exact ⟨_, .insertValue same sameElement⟩
  | getElementPtr address indices =>
      obtain ⟨⟨x, same⟩, others⟩ := List.forall_mem_cons.1 each
      obtain ⟨ys, sameIndices⟩ := exists_forall₂ others
      exact ⟨_, .getElementPtr same sameIndices⟩
  | landingPad type => exact ⟨_, .landingPad⟩
  | phi values type =>
      obtain ⟨xs, same⟩ := exists_forall₂ each
      exact ⟨_, .phi same⟩
  | load address =>
      obtain ⟨x, same⟩ := List.forall_mem_singleton.1 each
      exact ⟨_, .load same⟩
  | select condition whenTrue whenFalse =>
      obtain ⟨⟨x, same⟩, others⟩ := List.forall_mem_cons.1 each
      obtain ⟨⟨y, sameTrue⟩, last⟩ := List.forall_mem_cons.1 others
      obtain ⟨z, sameFalse⟩ := List.forall_mem_singleton.1 last
      exact ⟨_, .select same sameTrue sameFalse⟩
  | store address value =>
      obtain ⟨⟨y, sameValue⟩, others⟩ := List.forall_mem_cons.1 each
      obtain ⟨x, same⟩ := List.forall_mem_singleton.1 others
      exact ⟨_, .store same sameValue⟩
  | _ => exact ⟨_, .other rfl⟩

/-- The operands that the end of a block is converted to are those that its values refer to, in order. -/
theorem End.Becomes.operands {e : End} {opcode : TerminatorOpcode} (becomes : e.Becomes refers structs opcode)
    : List.Forall₂ refers e.values opcode.operands := by
  cases becomes with
  | retVoid => exact .nil
  | ret same => exact .cons same .nil
  | invoke same => exact List.rel_append same.arguments same.callee.operands
  | other => exact .nil

/-- The end of a block can be converted under the same conditions. -/
theorem End.exists_becomes {e : End} (each : ∀ v ∈ e.values, ∃ x, refers v x)
    (typed : ∀ v ∈ e.arguments, ∃ ty, v.HasTy structs ty)
    : ∃ opcode, e.Becomes refers structs opcode := by
  cases e with
  | ret value =>
      cases value with
      | none => exact ⟨_, .retVoid⟩
      | some value =>
          obtain ⟨x, same⟩ := each value (List.mem_singleton.2 rfl)
          exact ⟨_, .ret same⟩
  | invoke dest target args =>
      obtain ⟨eachArg, callee⟩ := List.forall_mem_append.1 each
      obtain ⟨c, same⟩ := exists_callBecomes callee eachArg typed
      exact ⟨_, .invoke same⟩
  | other dest type => exact ⟨_, .other⟩

end Values

----------------------------------------------------------------------------------------------
-- The conversion of operations
----------------------------------------------------------------------------------------------

namespace Context

variable (ctx : Context)

/-- What a value refers to, as the conversion looks it up. -/
def Refers (v : Value) (x : Operand) : Prop :=
  ctx.value v = .ok x

theorem target_eq_ok_iff {t : Target} {callee : Callee}
    : ctx.target t = .ok callee ↔ t.Becomes ctx.Refers callee := by
  cases t with
  | value v =>
      rw [target, map_eq_ok_iff]
      constructor
      · intro converted
        obtain ⟨x, same, rfl⟩ := converted
        exact .value same
      · intro becomes
        obtain ⟨same⟩ := becomes
        exact ⟨_, same, rfl⟩
  | asm type =>
      rw [target, Except.ok.injEq]
      constructor
      · intro same
        cases same
        exact .asm
      · intro becomes
        cases becomes
        rfl

/-- An argument is converted and asked for its type. -/
theorem arg_eq_ok_iff {v : Value} {result : Operand × PointerOrigins.Ty}
    : ctx.arg v = .ok result ↔ ctx.Refers v result.1 ∧ v.HasTy ctx.structs result.2 := by
  simp only [arg, bind_eq_ok_iff, pure_eq_ok_iff, demand_eq_ok_iff, ← Value.hasTy_iff]
  constructor
  · intro converted
    obtain ⟨x, same, ty, typed, rfl⟩ := converted
    exact ⟨same, typed⟩
  · intro both
    obtain ⟨same, typed⟩ := both
    exact ⟨_, same, _, typed, rfl⟩

/-- A call is converted to what it should be, or not at all. -/
theorem call_eq_ok_iff {t : Target} {args : List Value} {c : Call}
    : ctx.call t args = .ok c ↔ CallBecomes ctx.Refers ctx.structs t args c := by
  simp only [call, bind_eq_ok_iff, pure_eq_ok_iff, mapM_eq_ok_iff, arg_eq_ok_iff, target_eq_ok_iff]
  constructor
  · intro made
    obtain ⟨results, converted, callee, called, rfl⟩ := made
    exact ⟨called, List.forall₂_map_right_iff.2 (converted.imp fun _ _ both => both.1),
      List.forall₂_map_right_iff.2 (converted.imp fun _ _ both => both.2)⟩
  · intro becomes
    obtain ⟨called, same, typed⟩ := becomes
    have lengths := same.length_eq.symm.trans typed.length_eq
    refine ⟨c.args.zip c.argTys, forall₂_zip same typed, c.callee, called, ?_⟩
    rw [List.map_fst_zip (Nat.le_of_eq lengths), List.map_snd_zip (Nat.le_of_eq lengths.symm)]

/-- An operation is converted to what it should be, or not at all. -/
theorem op_eq_ok_iff {o : Op} {opcode : Opcode}
    : ctx.op o = .ok opcode ↔ o.Becomes ctx.Refers ctx.structs opcode := by
  constructor
  · intro converted
    cases o with
    | cast kind value type =>
        cases kind <;> simp only [op, bind_eq_ok_iff, pure_eq_ok_iff] at converted
        · obtain ⟨x, same, rfl⟩ := converted
          exact .addrSpaceCast same
        · obtain ⟨x, same, rfl⟩ := converted
          exact .bitCast same
        · obtain ⟨x, same, rfl⟩ := converted
          exact .intToPtr same
        · obtain ⟨x, same, rfl⟩ := converted
          exact .ptrToInt same
        · cases converted
          exact .other rfl
    | alloca type count =>
        simp only [op, bind_eq_ok_iff, pure_eq_ok_iff] at converted
        obtain ⟨x, same, rfl⟩ := converted
        exact .alloca same
    | call target args =>
        simp only [op, bind_eq_ok_iff, pure_eq_ok_iff, call_eq_ok_iff] at converted
        obtain ⟨c, same, rfl⟩ := converted
        exact .call same
    | extractValue aggregate indices =>
        simp only [op, bind_eq_ok_iff, pure_eq_ok_iff] at converted
        obtain ⟨x, same, rfl⟩ := converted
        exact .extractValue same
    | insertValue aggregate element =>
        simp only [op, bind_eq_ok_iff, pure_eq_ok_iff] at converted
        obtain ⟨x, same, y, sameElement, rfl⟩ := converted
        exact .insertValue same sameElement
    | getElementPtr address indices =>
        simp only [op, bind_eq_ok_iff, pure_eq_ok_iff, mapM_eq_ok_iff] at converted
        obtain ⟨x, same, ys, sameIndices, rfl⟩ := converted
        exact .getElementPtr same sameIndices
    | landingPad type =>
        cases converted
        exact .landingPad
    | phi values type =>
        simp only [op, bind_eq_ok_iff, pure_eq_ok_iff, mapM_eq_ok_iff] at converted
        obtain ⟨xs, same, rfl⟩ := converted
        exact .phi same
    | load address =>
        simp only [op, bind_eq_ok_iff, pure_eq_ok_iff] at converted
        obtain ⟨x, same, rfl⟩ := converted
        exact .load same
    | select condition whenTrue whenFalse =>
        simp only [op, bind_eq_ok_iff, pure_eq_ok_iff] at converted
        obtain ⟨x, same, y, sameTrue, z, sameFalse, rfl⟩ := converted
        exact .select same sameTrue sameFalse
    | store address value =>
        simp only [op, bind_eq_ok_iff, pure_eq_ok_iff] at converted
        obtain ⟨y, sameValue, x, same, rfl⟩ := converted
        exact .store same sameValue
    | _ =>
        cases converted
        exact .other rfl
  · intro becomes
    cases becomes with
    | call same =>
        simp only [op, bind_eq_ok_iff, pure_eq_ok_iff, call_eq_ok_iff]
        exact ⟨_, same, rfl⟩
    | getElementPtr same sameIndices =>
        simp only [op, bind_eq_ok_iff, pure_eq_ok_iff, mapM_eq_ok_iff]
        exact ⟨_, same, _, sameIndices, rfl⟩
    | phi same =>
        simp only [op, bind_eq_ok_iff, pure_eq_ok_iff, mapM_eq_ok_iff]
        exact ⟨_, same, rfl⟩
    | other skipped =>
        unfold Op.isSkipped at skipped
        split at skipped
        case h_10 => cases skipped
        all_goals rfl
    | _ => simp_all [op, Refers, bind_eq_ok_iff, pure_eq_ok_iff]

/-- The end of a block is converted to what it should be, or not at all. -/
theorem term_eq_ok_iff {e : End} {opcode : TerminatorOpcode}
    : ctx.term e = .ok opcode ↔ e.Becomes ctx.Refers ctx.structs opcode := by
  constructor
  · intro converted
    cases e with
    | ret value =>
        cases value with
        | none =>
            cases converted
            exact .retVoid
        | some value =>
            simp only [term, bind_eq_ok_iff, pure_eq_ok_iff] at converted
            obtain ⟨x, same, rfl⟩ := converted
            exact .ret same
    | invoke dest target args =>
        simp only [term, bind_eq_ok_iff, pure_eq_ok_iff, call_eq_ok_iff] at converted
        obtain ⟨c, same, rfl⟩ := converted
        exact .invoke same
    | other dest type =>
        cases converted
        exact .other
  · intro becomes
    cases becomes with
    | retVoid => rfl
    | ret same =>
        simp only [term, bind_eq_ok_iff, pure_eq_ok_iff]
        exact ⟨_, same, rfl⟩
    | invoke same =>
        simp only [term, bind_eq_ok_iff, pure_eq_ok_iff, call_eq_ok_iff]
        exact ⟨_, same, rfl⟩
    | other => rfl

end Context

----------------------------------------------------------------------------------------------
-- Blocks and functions
----------------------------------------------------------------------------------------------

/-- An instruction is converted: it is named by its block and its index. -/
structure Instr.Becomes (refers : Value → Operand → Prop) (structs : Structs) (block : BlockName)
    (entry : Instr × Nat) (i : Instruction) : Prop where
  name : i.name = instrName block entry.2
  opcode : entry.1.op.Becomes refers structs i.opcode
  ty : (entry.1.op.type? structs).map Ty.summary = some i.ty

/-- A block is converted: its instructions in order, then its end, which is named by their number. -/
structure Block.Becomes (refers : Value → Operand → Prop) (structs : Structs) (f : FunctionName)
    (entry : Block × Nat) (b : PointerOrigins.Block) : Prop where
  name : b.name = blockName f entry
  instrs : List.Forall₂ (Instr.Becomes refers structs b.name) entry.1.instrs.zipIdx b.instrs
  terminator : b.terminator.name = instrName b.name entry.1.instrs.length
  opcode : entry.1.term.Becomes refers structs b.terminator.opcode
  ty : (entry.1.term.type? structs).map Ty.summary = some b.terminator.ty

/-- A function is converted: its parameters in order, then its blocks in order. -/
structure Function.Becomes (refers : Value → Operand → Prop) (structs : Structs) (f : Function)
    (name : FunctionName) (body : FunctionDef) : Prop where
  parameters : body.parameters = f.params.zipIdx.map (paramName name)
  blocks : List.Forall₂ (Block.Becomes refers structs name) f.blocks.zipIdx body.blocks

/-- A function is converted in the same way if values refer to the same in another sense. -/
theorem Function.Becomes.mono {refers other : Value → Operand → Prop} {structs : Structs} {f : Function}
    {name : FunctionName} {body : FunctionDef} (becomes : f.Becomes refers structs name body)
    (weaker : ∀ v x, refers v x → other v x)
    : f.Becomes other structs name body := by
  refine ⟨becomes.parameters, becomes.blocks.imp fun _ _ block => ?_⟩
  refine ⟨block.name, block.instrs.imp fun _ _ instr => ?_, block.terminator,
    block.opcode.mono weaker, block.ty⟩
  exact ⟨instr.name, instr.opcode.mono weaker, instr.ty⟩

/-- The instructions and the end of a block are named one after the other. -/
theorem Block.Becomes.names {refers : Value → Operand → Prop} {structs : Structs} {f : FunctionName}
    {entry : Block × Nat} {b : PointerOrigins.Block} (becomes : Block.Becomes refers structs f entry b)
    : b.definitions.map Prod.fst
      = (List.range (entry.1.instrs.length + 1)).map (instrName (blockName f entry)) := by
  have instrs : b.instrs.map Instruction.name
      = (List.range entry.1.instrs.length).map (instrName (blockName f entry)) := by
    rw [List.range_eq_range', ← List.zipIdx_map_snd 0 entry.1.instrs, List.map_map, ← becomes.name]
    exact map_eq_of_pairs (fun same => same.name) becomes.instrs
  rw [PointerOrigins.Block.definitions, List.map_append, List.map_map, List.range_succ, List.map_append,
    ← instrs, List.map_singleton, List.map_singleton, becomes.terminator, becomes.name]
  rfl

/-- An instruction is converted to what it should be, or not at all. -/
theorem Context.instr_eq_ok_iff (ctx : Context) {block : BlockName} {entry : Instr × Nat} {i : Instruction}
    : ctx.instr block entry = .ok i ↔ Instr.Becomes ctx.Refers ctx.structs block entry i := by
  simp only [instr, bind_eq_ok_iff, pure_eq_ok_iff, op_eq_ok_iff, demand_eq_ok_iff]
  constructor
  · intro converted
    obtain ⟨opcode, becomes, ty, typed, rfl⟩ := converted
    exact ⟨rfl, becomes, typed⟩
  · intro becomesIt
    obtain ⟨name, becomes, typed⟩ := becomesIt
    exact ⟨_, becomes, _, typed, by rw [← name]⟩

/-- A block is converted to what it should be, or not at all. -/
theorem Context.block_eq_ok_iff (ctx : Context) {f : FunctionName} {entry : Block × Nat}
    {b : PointerOrigins.Block}
    : ctx.block f entry = .ok b ↔ Block.Becomes ctx.Refers ctx.structs f entry b := by
  simp only [block, bind_eq_ok_iff, pure_eq_ok_iff, mapM_eq_ok_iff, instr_eq_ok_iff, term_eq_ok_iff,
    demand_eq_ok_iff]
  constructor
  · intro made
    obtain ⟨instrs, converted, opcode, becomes, ty, typed, rfl⟩ := made
    exact ⟨rfl, converted, rfl, becomes, typed⟩
  · intro becomesIt
    obtain ⟨name, converted, terminator, becomes, typed⟩ := becomesIt
    exact ⟨_, name ▸ converted, _, becomes, _, typed, by rw [← name, ← terminator]⟩

/-- A function is converted to what it should be, or not at all. -/
theorem Function.convert_eq_ok_iff {f : Function} {symbols : Symbols} {structs : Structs}
    {name : FunctionName} {body : FunctionDef}
    : f.convert symbols structs name = .ok body
      ↔ f.Becomes (Context.Refers ⟨symbols, structs, f.locals name⟩) structs name body := by
  simp only [convert, bind_eq_ok_iff, pure_eq_ok_iff, mapM_eq_ok_iff, Context.block_eq_ok_iff]
  constructor
  · intro made
    obtain ⟨blocks, converted, rfl⟩ := made
    exact ⟨rfl, converted⟩
  · intro becomes
    obtain ⟨parameters, converted⟩ := becomes
    exact ⟨_, converted, by rw [← parameters]⟩

----------------------------------------------------------------------------------------------
-- Modules
----------------------------------------------------------------------------------------------

/-- Functions that have distinct names are put one behind the other. -/
theorem foldl_putFunction {functions more : List (FunctionName × FunctionDef)}
    (distinct : ((functions ++ more).map Prod.fst).Nodup)
    : more.foldl putFunction functions = functions ++ more := by
  induction more generalizing functions with
  | nil => simp
  | cons entry rest ih =>
      have new : putFunction functions entry = functions ++ [entry] := by
        rw [putFunction, List.filter_eq_self.2]
        intro other earlier
        rw [List.map_append, List.map_cons, List.nodup_append] at distinct
        exact bne_iff_ne.2 (distinct.2.2 _ (List.mem_map_of_mem earlier) _ List.mem_cons_self)
      rw [List.foldl_cons, new, ih, List.append_assoc, List.singleton_append]
      rwa [List.append_assoc, List.singleton_append]

/-- Nothing is dropped from a list without duplicates. -/
theorem eraseDups_of_nodup {α : Type} [BEq α] [LawfulBEq α] {entries : List α} (distinct : entries.Nodup)
    : entries.eraseDups = entries := by
  induction entries with
  | nil => rfl
  | cons first rest ih =>
      obtain ⟨absent, restDistinct⟩ := List.nodup_cons.1 distinct
      have kept : rest.filter (fun b => !b == first) = rest := by
        refine List.filter_eq_self.2 fun b member => ?_
        rw [Bool.not_eq_true', beq_eq_false_iff_ne]
        exact fun same => absent (same ▸ member)
      rw [List.eraseDups_cons, kept, ih restDistinct]

theorem lift_eq_ok_iff {α : Type} {x : Except ModuleError α} {a : α} : lift x = .ok a ↔ x = .ok a := by
  cases x <;> simp [lift, Except.mapError]

namespace Module

variable {m : Module} {symbols : Symbols} {converted : PointerOrigins.Module}

/-- No two functions, declarations, globals and aliases have the same symbol. -/
def DistinctSymbols (m : Module) : Prop :=
  (m.ownNames ++ m.aliases.map Prod.fst).Nodup

namespace DistinctSymbols

variable (distinct : m.DistinctSymbols)

include distinct

/-- Aliases leave what the module itself has alone. -/
theorem lookup_own (resolved : m.symbols = .ok symbols) {symbol : String} {c : Constant}
    (own : (symbol, c) ∈ m.ownSymbols)
    : symbols.lookup symbol = some c := by
  obtain ⟨ownDistinct, _, apart⟩ := List.nodup_append.1 distinct
  have key : symbol ∈ m.ownNames := by
    rw [← List.mem_reverse, ← m.keys_ownSymbols]
    exact List.mem_map_of_mem own
  have keys : (m.ownSymbols.map Prod.fst).Nodup := by
    rw [m.keys_ownSymbols]
    exact List.nodup_reverse.2 ownDistinct
  have untouched : symbols.lookup symbol = m.ownSymbols.lookup symbol :=
    lookup_of_resolutions (resolveAliases_ok resolved).1 fun isAlias => apart _ key _ isAlias rfl
  rw [untouched]
  exact lookup_of_mem keys own

/-- A function of the module is the one with its symbol. -/
theorem functionName_eq_ok_iff (resolved : m.symbols = .ok symbols) {symbol : String} {name : FunctionName}
    (isFunction : symbol ∈ m.functions.map Function.name ++ m.decls)
    : functionName symbols symbol = .ok name ↔ name ∈ m.functionNames ∧ name.symbol = symbol := by
  have unique : (m.functionNames.map FunctionName.symbol).Nodup := by
    rw [m.symbols_functionNames]
    exact (List.nodup_append.1 (List.nodup_append.1 distinct).1).1
  have found : ∀ f ∈ m.functionNames, functionName symbols f.symbol = .ok f := by
    intro f member
    have own : (f.symbol, Constant.function f) ∈ m.ownSymbols :=
      List.mem_reverse.2 (List.mem_append_left _ (List.mem_map.2 ⟨f, member, rfl⟩))
    rw [functionName, distinct.lookup_own resolved own]
  constructor
  · intro named
    rw [← m.symbols_functionNames] at isFunction
    obtain ⟨f, member, rfl⟩ := List.mem_map.1 isFunction
    rw [found f member] at named
    cases named
    exact ⟨member, rfl⟩
  · intro both
    obtain ⟨member, rfl⟩ := both
    exact found name member

/-- A global of the module is the one with its symbol. -/
theorem globalName_eq_ok_iff (resolved : m.symbols = .ok symbols) {symbol : String} {name : GlobalName}
    (isGlobal : symbol ∈ m.globals)
    : globalName symbols symbol = .ok name ↔ ⟨symbol⟩ = name := by
  have own : (symbol, Constant.global ⟨symbol⟩) ∈ m.ownSymbols :=
    List.mem_reverse.2 (List.mem_append_right _ (List.mem_map.2 ⟨symbol, isGlobal, rfl⟩))
  rw [globalName, distinct.lookup_own resolved own, Except.ok.injEq]

end DistinctSymbols

/-- A function of the module is converted under the name that its symbol has. -/
structure Converts (m : Module) (symbols : Symbols) (f : Function) (entry : FunctionName × FunctionDef)
    : Prop where
  named : entry.1 ∈ m.functionNames ∧ entry.1.symbol = f.name
  body : f.Becomes (Context.Refers ⟨symbols, m.structs, f.locals entry.1⟩) m.structs entry.1 entry.2

/-- A module is converted: functions, declarations and globals in order, under the names of their symbols. -/
structure Becomes (m : Module) (symbols : Symbols) (converted : PointerOrigins.Module) : Prop where
  title : converted.name = m.name
  functions : List.Forall₂ (m.Converts symbols) m.functions converted.functions
  decls : List.Forall₂ (fun symbol d => d ∈ m.functionNames ∧ d.symbol = symbol) m.decls converted.decls
  globals : m.globals.map GlobalName.mk = converted.globals

/-- Names with distinct symbols are distinct. -/
theorem nodup_of_symbols {α β : Type} {related : α → β → Prop} {entries : List α} {others : List β}
    (symbol : α → String) (name : β → FunctionName) (named : ∀ x y, related x y → (name y).symbol = symbol x)
    (pairs : List.Forall₂ related entries others) (distinct : (entries.map symbol).Nodup)
    : (others.map name).Nodup := by
  have symbols : others.map (FunctionName.symbol ∘ name) = entries.map symbol :=
    map_eq_of_pairs (f := symbol) (g := FunctionName.symbol ∘ name) (fun same => named _ _ same) pairs
  refine .of_map FunctionName.symbol ?_
  rw [List.map_map, symbols]
  exact distinct

/-- Where symbols are distinct, a module is converted to what it should be, or not at all. -/
theorem convertUnchecked_eq_ok_iff (distinct : m.DistinctSymbols)
    : m.convertUnchecked = .ok converted
      ↔ ∃ symbols, m.symbols = .ok symbols ∧ m.Becomes symbols converted := by
  obtain ⟨functionsDistinct, globalsDistinct, _⟩ :=
    List.nodup_append.1 (List.nodup_append.1 distinct).1
  obtain ⟨bodiesDistinct, declsDistinct, _⟩ := List.nodup_append.1 functionsDistinct
  simp only [convertUnchecked, bind_eq_ok_iff, pure_eq_ok_iff, lift_eq_ok_iff, mapM_eq_ok_iff,
    Function.convert_eq_ok_iff]
  refine exists_congr fun symbols => and_congr_right fun resolved => ?_
  have convertsIff : ∀ f ∈ m.functions, ∀ entry,
      (∃ name, functionName symbols f.name = .ok name
        ∧ ∃ body, f.Becomes (Context.Refers ⟨symbols, m.structs, f.locals name⟩) m.structs name body
          ∧ (name, body) = entry)
      ↔ m.Converts symbols f entry := by
    intro f member entry
    have named : ∀ name, functionName symbols f.name = .ok name
        ↔ name ∈ m.functionNames ∧ name.symbol = f.name :=
      fun _ => distinct.functionName_eq_ok_iff resolved
        (List.mem_append_left _ (List.mem_map_of_mem member))
    constructor
    · intro found
      obtain ⟨name, isName, body, becomes, rfl⟩ := found
      exact ⟨(named name).1 isName, becomes⟩
    · intro converts
      exact ⟨_, (named _).2 converts.named, _, converts.body, rfl⟩
  have declaredIff : ∀ symbol ∈ m.decls, ∀ d,
      functionName symbols symbol = .ok d ↔ d ∈ m.functionNames ∧ d.symbol = symbol :=
    fun _ member _ => distinct.functionName_eq_ok_iff resolved (List.mem_append_right _ member)
  have globalIff : ∀ symbol ∈ m.globals, ∀ g, globalName symbols symbol = .ok g ↔ ⟨symbol⟩ = g :=
    fun _ member _ => distinct.globalName_eq_ok_iff resolved member
  simp only [forall₂_congr convertsIff, forall₂_congr declaredIff, forall₂_congr globalIff,
    ← List.forall₂_map_left_iff (f := GlobalName.mk), List.forall₂_eq_eq_eq]
  have globalsKept : (m.globals.map GlobalName.mk).eraseDups = m.globals.map GlobalName.mk :=
    eraseDups_of_nodup (globalsDistinct.map fun _ _ same => GlobalName.mk.inj same)
  have declsKept : ∀ decls : List FunctionName,
      List.Forall₂ (fun symbol d => d ∈ m.functionNames ∧ d.symbol = symbol) m.decls decls
      → decls.eraseDups = decls := by
    intro decls declared
    refine eraseDups_of_nodup ?_
    have names := nodup_of_symbols id id (fun _ _ both => both.2) declared (by rwa [List.map_id])
    rwa [List.map_id] at names
  have functionsKept : ∀ functions, List.Forall₂ (m.Converts symbols) m.functions functions
      → functions.foldl putFunction [] = functions :=
    fun functions converts =>
      foldl_putFunction
        (nodup_of_symbols Function.name Prod.fst (fun _ _ pair => pair.named.2) converts bodiesDistinct)
  constructor
  · intro made
    obtain ⟨functions, areFunctions, decls, areDecls, globals, rfl, rfl⟩ := made
    rw [functionsKept functions areFunctions, declsKept decls areDecls, globalsKept]
    exact ⟨rfl, areFunctions, areDecls, rfl⟩
  · intro becomes
    obtain ⟨title, functions, decls, globals⟩ := becomes
    refine ⟨converted.functions, functions, converted.decls, decls, converted.globals, globals, ?_⟩
    rw [functionsKept _ functions, declsKept _ decls, ← globals, globalsKept, globals, ← title]

end Module

end PointerOrigins.Bitcode
