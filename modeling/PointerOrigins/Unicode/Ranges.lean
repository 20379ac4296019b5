/-!
Tables of code points: ranges and runs, and how they are written.

A range is written `41-5A`, or `AA` for a single code point. A run is written `41:Lu`: the code points
from its start on, up to the start of the next run, have its value.
-/

namespace PointerOrigins.Unicode

/-- The code points from `lo` to `hi`, both included. -/
structure Range where
  lo : Nat
  hi : Nat
deriving DecidableEq, Repr, Inhabited

/-- The code points from `start` on have a value, up to the start of the next run. -/
structure Run where
  start : Nat
  value : String
deriving DecidableEq, Repr, Inhabited

/-- The greatest code point. -/
def maxCode : Nat := 0x10FFFF

/-- The value of a hexadecimal digit. -/
def hexDigit? (c : Char) : Option Nat :=
  if '0' ≤ c ∧ c ≤ '9' then some (c.toNat - 48)
  else if 'a' ≤ c ∧ c ≤ 'f' then some (c.toNat - 87)
  else if 'A' ≤ c ∧ c ≤ 'F' then some (c.toNat - 55)
  else none

/-- The number that hexadecimal digits stand for. -/
def hex (digits : String) : Nat :=
  digits.toList.foldl (fun n c => 16 * n + (hexDigit? c).getD 0) 0

/-- Whether a code point lies in a range. -/
def Range.contains (r : Range) (code : Nat) : Bool :=
  r.lo ≤ code && code ≤ r.hi

/-- The words of the lines of a table. -/
def tableWords (lines : List String) : List String :=
  lines.flatMap fun line => line.splitOn " "

/-- Reads a table of ranges. -/
def ranges (lines : List String) : List Range :=
  (tableWords lines).map fun word =>
    match word.splitOn "-" with
    | [lo, hi] => ⟨hex lo, hex hi⟩
    | _ => ⟨hex word, hex word⟩

/-- Reads a table of runs. -/
def runs (lines : List String) : List Run :=
  (tableWords lines).filterMap fun word =>
    match word.splitOn ":" with
    | [start, value] => some ⟨hex start, value⟩
    | _ => none

/-- The code that stands first in a line of names, by one of the names behind it. -/
def codeOf? (lines : List String) (name : String) : Option String :=
  lines.findSome? fun line =>
    match line.splitOn " " with
    | code :: names => if names.contains name then some code else none
    | [] => none

/-- The value at a code point: that of the last run that starts at or before it. -/
def valueAt : List Run → Nat → String
  | [], _ => ""
  | [run], code => if run.start ≤ code then run.value else ""
  | run :: next :: rest, code =>
      if code < next.start then (if run.start ≤ code then run.value else "")
      else valueAt (next :: rest) code

/-- The ranges of the runs with a chosen value. -/
def select : List Run → (String → Bool) → List Range
  | [], _ => []
  | [run], chosen => if chosen run.value then [⟨run.start, maxCode⟩] else []
  | run :: next :: rest, chosen =>
      if chosen run.value then ⟨run.start, next.start - 1⟩ :: select (next :: rest) chosen
      else select (next :: rest) chosen

/-- Joins neighbouring ranges of a list that is ordered by the lower ends. -/
def joinNeighbours : List Range → List Range
  | [] => []
  | r :: rest =>
      match joinNeighbours rest with
      | [] => [r]
      | next :: others =>
          if next.lo ≤ r.hi + 1 then ⟨r.lo, max r.hi next.hi⟩ :: others else r :: next :: others

/-- The same code points, in ranges that are ordered and apart. -/
def normalize (rs : List Range) : List Range :=
  joinNeighbours (rs.mergeSort fun left right => left.lo ≤ right.lo)

end PointerOrigins.Unicode
