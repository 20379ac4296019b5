import PointerOrigins.Proofs.CallSiteIndex
import PointerOrigins.Proofs.ResolvedValues

/-!
Which references the check of a module sees. A constant is asked for the function behind its casts and for
the global behind its casts and element addresses. So the check vouches for functions and globals in these
places, and for no others: what stands inside an aggregate or an integer cast, or a function inside an
element address, is not looked at and may be missing from a module that passes.
-/

namespace PointerOrigins

----------------------------------------------------------------------------------------------
-- Occurrences
----------------------------------------------------------------------------------------------

/-- What stands around a part of a constant. -/
inductive Constant.Wrapper where
  | addrSpaceCast
  | bitCast
  | getElementPtr
  | intToPtr
  | ptrToInt
  | array
  | struct
deriving DecidableEq, Repr

namespace Constant

/-- Pointer casts. -/
def Wrapper.isCast : Wrapper → Bool
  | .addrSpaceCast | .bitCast => true
  | _ => false

/-- Pointer casts and element addresses. -/
def Wrapper.keepsAddress : Wrapper → Bool
  | .addrSpaceCast | .bitCast | .getElementPtr => true
  | _ => false

/-- A constant occurs in another one, inside these wrappers, the outermost first. -/
inductive Occurs (part : Constant) : List Wrapper → Constant → Prop
  | here : Occurs part [] part
  | addrSpaceCast {path c} (inside : Occurs part path c)
    : Occurs part (.addrSpaceCast :: path) (.addrSpaceCast c)
  | bitCast {path c} (inside : Occurs part path c) : Occurs part (.bitCast :: path) (.bitCast c)
  | getElementPtr {path c} (inside : Occurs part path c)
    : Occurs part (.getElementPtr :: path) (.getElementPtr c)
  | intToPtr {path c} (inside : Occurs part path c) : Occurs part (.intToPtr :: path) (.intToPtr c)
  | ptrToInt {path c} (inside : Occurs part path c) : Occurs part (.ptrToInt :: path) (.ptrToInt c)
  | array {path c elements} (member : c ∈ elements) (inside : Occurs part path c)
    : Occurs part (.array :: path) (.array elements)
  | struct {path c fields} (member : c ∈ fields) (inside : Occurs part path c)
    : Occurs part (.struct :: path) (.struct fields)

/-- The function that a constant refers to is the one inside nothing but casts. -/
theorem function_eq_some_iff {c : Constant} {f : FunctionName}
    : c.function? = some f ↔ ∃ path, Occurs (.function f) path c ∧ ∀ w ∈ path, w.isCast = true := by
  rw [← peels_iff]
  constructor
  · intro peels
    induction peels with
    | function => exact ⟨[], .here, by simp⟩
    | bitCast _ ih =>
        obtain ⟨path, occurs, casts⟩ := ih
        exact ⟨_, .bitCast occurs, List.forall_mem_cons.2 ⟨rfl, casts⟩⟩
    | addrSpaceCast _ ih =>
        obtain ⟨path, occurs, casts⟩ := ih
        exact ⟨_, .addrSpaceCast occurs, List.forall_mem_cons.2 ⟨rfl, casts⟩⟩
  · rintro ⟨path, occurs, casts⟩
    induction occurs with
    | here => exact .function
    | bitCast _ ih => exact .bitCast (ih (List.forall_mem_cons.1 casts).2)
    | addrSpaceCast _ ih => exact .addrSpaceCast (ih (List.forall_mem_cons.1 casts).2)
    | _ => cases (List.forall_mem_cons.1 casts).1

/-- The global that a constant addresses is the one inside nothing but casts and element addresses. -/
theorem global_eq_some_iff {c : Constant} {g : GlobalName}
    : c.global? = some g ↔ ∃ path, Occurs (.global g) path c ∧ ∀ w ∈ path, w.keepsAddress = true := by
  constructor
  · intro addresses
    fun_induction global? c with
    | case1 name =>
        obtain rfl := Option.some.inj addresses
        exact ⟨[], .here, by simp⟩
    | case2 c ih =>
        obtain ⟨path, occurs, keeps⟩ := ih addresses
        exact ⟨_, .addrSpaceCast occurs, List.forall_mem_cons.2 ⟨rfl, keeps⟩⟩
    | case3 c ih =>
        obtain ⟨path, occurs, keeps⟩ := ih addresses
        exact ⟨_, .bitCast occurs, List.forall_mem_cons.2 ⟨rfl, keeps⟩⟩
    | case4 c ih =>
        obtain ⟨path, occurs, keeps⟩ := ih addresses
        exact ⟨_, .getElementPtr occurs, List.forall_mem_cons.2 ⟨rfl, keeps⟩⟩
    | case5 => cases addresses
  · rintro ⟨path, occurs, keeps⟩
    induction occurs with
    | here => rfl
    | addrSpaceCast _ ih => exact ih (List.forall_mem_cons.1 keeps).2
    | bitCast _ ih => exact ih (List.forall_mem_cons.1 keeps).2
    | getElementPtr _ ih => exact ih (List.forall_mem_cons.1 keeps).2
    | _ => cases (List.forall_mem_cons.1 keeps).1

end Constant

----------------------------------------------------------------------------------------------
-- What a module has
----------------------------------------------------------------------------------------------

namespace Module

variable {m : Module}

/-- The functions and globals that occur in the constants of instructions and terminators belong to the
module, where the wrappers around them are of a given sort.
-/
structure HasReferences (m : Module) (functionIn globalIn : List Constant.Wrapper → Prop) : Prop where
  function
    : ∀ c f path,
        m.HasOperand (.constant c)
        → Constant.Occurs (.function f) path c
        → functionIn path
        → (∃ body, (f, body) ∈ m.functions) ∨ f ∈ m.decls
  global
    : ∀ c g path,
        m.HasOperand (.constant c) → Constant.Occurs (.global g) path c → globalIn path → g ∈ m.globals

/-- All functions and globals that occur belong to the module, at any depth. -/
def HasAllReferences (m : Module) : Prop :=
  m.HasReferences (fun _ => True) fun _ => True

/-- Functions that occur inside casts only belong to the module, and globals that occur inside casts and
element addresses only.
-/
def HasSeenReferences (m : Module) : Prop :=
  m.HasReferences (fun path => ∀ w ∈ path, w.isCast = true) fun path => ∀ w ∈ path, w.keepsAddress = true

/-- Functions that occur inside anything but casts belong to the module, and globals that occur inside
anything but casts and element addresses.
-/
def HasHiddenReferences (m : Module) : Prop :=
  m.HasReferences (fun path => ∃ w ∈ path, w.isCast = false) fun path => ∃ w ∈ path, w.keepsAddress = false

/-- Fewer places of references hold less. -/
theorem HasReferences.mono {functionIn globalIn functionOf globalOf : List Constant.Wrapper → Prop}
    (has : m.HasReferences functionIn globalIn) (functions : ∀ path, functionOf path → functionIn path)
    (globals : ∀ path, globalOf path → globalIn path)
    : m.HasReferences functionOf globalOf :=
  ⟨fun c f path operand occurs sort => has.function c f path operand occurs (functions path sort),
    fun c g path operand occurs sort => has.global c g path operand occurs (globals path sort)⟩

/-- A function is known if it is defined or declared. -/
theorem knowsFunction_iff {f : FunctionName}
    : m.knowsFunction f = true ↔ (∃ body, (f, body) ∈ m.functions) ∨ f ∈ m.decls := by
  simp [knowsFunction, body?, List.lookup_isSome_iff]

/-- A module passes its check if and only if each function defines the locals that it uses, and the module
has the references that are seen.
-/
theorem validate_ok_iff_seen
    : m.validate = .ok ()
      ↔ (∀ entry ∈ m.functions, ∀ name, .local name ∈ entry.2.operands → name ∈ entry.2.locals)
        ∧ m.HasSeenReferences := by
  rw [validate_eq_ok_iff]
  constructor
  · intro noFault
    have constants : ∀ c, m.HasOperand (.constant c)
        → (∀ f, c.function? = some f → m.knowsFunction f = true)
          ∧ ∀ g, c.global? = some g → g ∈ m.globals := by
      intro c operand
      obtain ⟨entry, isDefined, isOperand⟩ := uses_iff_hasOperand.2 operand
      exact operandError_constant_iff.1 (noFault entry isDefined _ isOperand)
    refine ⟨fun entry isDefined name isOperand => ?_, fun c f path operand occurs casts => ?_,
      fun c g path operand occurs keeps => ?_⟩
    · simpa [operandError?] using noFault entry isDefined _ isOperand
    · exact knowsFunction_iff.1
        ((constants c operand).1 f (Constant.function_eq_some_iff.2 ⟨path, occurs, casts⟩))
    · exact (constants c operand).2 g (Constant.global_eq_some_iff.2 ⟨path, occurs, keeps⟩)
  · rintro ⟨locals, seen⟩ entry isDefined op isOperand
    cases op with
    | constant c =>
        have operand := uses_iff_hasOperand.1 ⟨entry, isDefined, isOperand⟩
        refine operandError_constant_iff.2 ⟨fun f refers => ?_, fun g addresses => ?_⟩
        · obtain ⟨path, occurs, casts⟩ := Constant.function_eq_some_iff.1 refers
          exact knowsFunction_iff.2 (seen.function c f path operand occurs casts)
        · obtain ⟨path, occurs, keeps⟩ := Constant.global_eq_some_iff.1 addresses
          exact seen.global c g path operand occurs keeps
    | «local» name => exact if_pos (List.contains_iff_mem.2 (locals entry isDefined name isOperand))
    | metadata => rfl

/-- All references are those that are seen and those that are hidden. -/
theorem hasAllReferences_iff
    : m.HasAllReferences ↔ m.HasSeenReferences ∧ m.HasHiddenReferences := by
  constructor
  · intro all
    exact ⟨all.mono (fun _ _ => trivial) (fun _ _ => trivial),
      all.mono (fun _ _ => trivial) (fun _ _ => trivial)⟩
  · rintro ⟨seen, hidden⟩
    refine ⟨fun c f path operand occurs _ => ?_, fun c g path operand occurs _ => ?_⟩
    · by_cases casts : ∀ w ∈ path, w.isCast = true
      · exact seen.function c f path operand occurs casts
      · exact hidden.function c f path operand occurs (by simpa using casts)
    · by_cases keeps : ∀ w ∈ path, w.keepsAddress = true
      · exact seen.global c g path operand occurs keeps
      · exact hidden.global c g path operand occurs (by simpa using keeps)

/-- The check of a module is about locals and the references that are seen, and about nothing else. So a module
that passes has all references, at any depth, if and only if it has those that are hidden.
-/
theorem validate_sees_exactly (m : Module)
    : (m.validate = .ok ()
        ↔ (∀ entry ∈ m.functions, ∀ name, .local name ∈ entry.2.operands → name ∈ entry.2.locals)
          ∧ m.HasSeenReferences)
      ∧ (m.validate = .ok () → (m.HasAllReferences ↔ m.HasHiddenReferences)) := by
  refine ⟨validate_ok_iff_seen, fun valid => ?_⟩
  have seen := (validate_ok_iff_seen.1 valid).2
  rw [hasAllReferences_iff, and_iff_right seen]

/-- A module with one global, whose only function returns a constant. -/
def returning (value : Constant) : Module :=
  let main : FunctionName := ⟨0, "main"⟩
  let entry : BlockName := ⟨1, main, "entry"⟩
  { name := "returning"
    decls := []
    functions := [(main, ⟨[], [⟨entry, [], ⟨⟨2, entry, 0⟩, .ret (some (.constant value)), .void⟩⟩]⟩)]
    globals := [⟨"table"⟩] }

/-- This constant is the only operand. -/
theorem hasOperand_returning {value : Constant} {op : Operand}
    : (returning value).HasOperand op ↔ op = .constant value := by
  constructor
  · rintro ⟨entry, isDefined, b, inBody, ⟨i, inBlock, _⟩ | atEnd⟩
    · obtain rfl := List.mem_singleton.1 isDefined
      obtain rfl := List.mem_singleton.1 inBody
      cases inBlock
    · obtain rfl := List.mem_singleton.1 isDefined
      obtain rfl := List.mem_singleton.1 inBody
      cases atEnd
      rfl
  · rintro rfl
    exact ⟨_, List.mem_singleton.2 rfl, _, List.mem_singleton.2 rfl, .inr .returned⟩

/-- A structure with a function and a global, both hidden. -/
def table : Constant :=
  .struct [.getElementPtr (.function ⟨0, "main"⟩), .ptrToInt (.global ⟨"table"⟩)]

/-- What occurs in the structure. -/
theorem mem_of_occurs_table {part : Constant} {path : List Constant.Wrapper}
    (occurs : Constant.Occurs part path table)
    : part
      ∈ [ table, .getElementPtr (.function ⟨0, "main"⟩), .function ⟨0, "main"⟩,
          .ptrToInt (.global ⟨"table"⟩), .global ⟨"table"⟩ ] := by
  cases occurs with
  | here => exact List.mem_cons_self
  | struct member inside =>
      rcases List.mem_cons.1 member with rfl | inRest
      · cases inside with
        | here => simp
        | getElementPtr inside =>
            cases inside
            simp
      · obtain rfl := List.mem_singleton.1 inRest
        cases inside with
        | here => simp
        | ptrToInt inside =>
            cases inside
            simp

/-- A module that returns it passes the check without a look at the two references. It has both, and so it has
all.
-/
theorem validate_sees_exactly_table
    : (returning table).validate = .ok ()
      ∧ (returning table).HasHiddenReferences
      ∧ (returning table).HasAllReferences := by
  have valid : (returning table).validate = .ok () := by decide
  have hidden : (returning table).HasHiddenReferences := by
    refine ⟨fun c f path operand occurs _ => ?_, fun c g path operand occurs _ => ?_⟩
    · cases hasOperand_returning.1 operand
      have isMain : f = ⟨0, "main"⟩ := by simpa [table] using mem_of_occurs_table occurs
      exact .inl ⟨_, List.mem_singleton.2 (congrArg (·, _) isMain)⟩
    · cases hasOperand_returning.1 operand
      have isTable : g = ⟨"table"⟩ := by simpa [table] using mem_of_occurs_table occurs
      exact List.mem_singleton.2 isTable
  exact ⟨valid, hidden, ((validate_sees_exactly _).2 valid).2 hidden⟩

/-- A module passes its check although it returns an element address of a function that it does not have, and
one that returns a structure with a global that it does not have.
-/
theorem validate_misses_references
    : let function : Constant := .getElementPtr (.function ⟨3, "missing"⟩)
      let global : Constant := .struct [.global ⟨"missing"⟩]
      ((returning function).validate = .ok () ∧ ¬ (returning function).HasAllReferences)
      ∧ (returning global).validate = .ok ()
      ∧ ¬ (returning global).HasAllReferences := by
  intro function global
  refine ⟨⟨by decide, fun all => ?_⟩, by decide, fun all => ?_⟩
  · have known := all.function function ⟨3, "missing"⟩ [.getElementPtr] (hasOperand_returning.2 rfl)
      (.getElementPtr .here) trivial
    simp [returning] at known
  · have known := all.global global ⟨"missing"⟩ [.struct] (hasOperand_returning.2 rfl)
      (.struct List.mem_cons_self .here) trivial
    simp [returning] at known

end Module

end PointerOrigins
