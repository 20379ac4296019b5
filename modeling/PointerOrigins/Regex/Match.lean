import PointerOrigins.Regex.Pattern

/-!
What patterns match.

Matching marks boundaries of the subject: from the boundaries that are marked before, a pattern leads
to those where a match may end.
-/

namespace PointerOrigins.Regex

/-- Whether there is a character and it belongs to a word. -/
def isWord (unicode : Bool) (c : Option Char) : Bool :=
  c.any fun c => (LetterClass.ranges unicode .word).any fun r => r.contains c.toNat

/-- Whether a condition holds between two neighbours. -/
def Look.holds (l : Look) (before after : Option Char) : Bool :=
  match l with
  | .startText => before.isNone
  | .endText => after.isNone
  | .startLine => before.all (· = '\n')
  | .endLine => after.all (· = '\n')
  | .startLineCrlf => before.all (· = '\n') || (before = some '\r' && after != some '\n')
  | .endLineCrlf => after.all (· = '\r') || (after = some '\n' && before != some '\r')
  | .boundary unicode => isWord unicode before != isWord unicode after
  | .notBoundary unicode => isWord unicode before == isWord unicode after
  | .wordStart unicode => !isWord unicode before && isWord unicode after
  | .wordEnd unicode => isWord unicode before && !isWord unicode after
  | .wordStartHalf unicode => !isWord unicode before
  | .wordEndHalf unicode => !isWord unicode after

/-- A text to be searched. -/
structure Subject where
  chars : List Char
  /-- The neighbours of each boundary, one more than there are characters. -/
  boundaries : List (Option Char × Option Char)
deriving Repr, Inhabited

/-- The neighbours of each boundary, where `before` stands in front. -/
def boundariesFrom (before : Option Char) : List Char → List (Option Char × Option Char)
  | [] => [(before, none)]
  | c :: rest => (before, some c) :: boundariesFrom (some c) rest

/-- A text as a subject. -/
def Subject.ofText (text : String) : Subject :=
  ⟨text.toList, boundariesFrom none text.toList⟩

/-- One mark per boundary of the subject. -/
abbrev Marks := List Bool

/-- The marks of both. -/
def Marks.union (left right : Marks) : Marks :=
  List.zipWith (· || ·) left right

/-- The boundaries that lie one accepted character behind a marked one. -/
def Subject.advance (s : Subject) (accepts : Char → Bool) (marks : Marks) : Marks :=
  false :: List.zipWith (fun mark c => mark && accepts c) marks s.chars

/-- Applies a function so many times. It stops early where nothing changes any more. -/
def iterate (f : Marks → Marks) : Nat → Marks → Marks
  | 0, marks => marks
  | n + 1, marks =>
      let next := f marks
      if next = marks then marks else iterate f n next

/-- Collects what at most so many applications reach. It stops early where nothing is added. -/
def collect (f : Marks → Marks) : Nat → Marks → Marks
  | 0, marks => marks
  | n + 1, marks =>
      let next := Marks.union marks (f marks)
      if next = marks then marks else collect f n next

mutual

/-- The boundaries that a pattern leads to from marked ones. -/
def Pattern.reach (s : Subject) : Pattern → Marks → Marks
  | .empty, marks => marks
  | .literal cs, marks => cs.foldl (fun marks c => s.advance (· = c) marks) marks
  | .set chars, marks => s.advance chars.contains marks
  | .look l, marks => List.zipWith (fun mark (before, after) => mark && l.holds before after) marks s.boundaries
  | .seq ps, marks => Pattern.reachSeq s ps marks
  | .alt ps, marks => Pattern.reachAlt s ps marks
  | .repeat least most p, marks =>
      let start := iterate (fun marks => p.reach s marks) least marks
      -- Each round that adds anything marks one more boundary, so their number bounds the rounds.
      let rounds := match most with
        | some most => min (most - least) s.boundaries.length
        | none => s.boundaries.length
      collect (fun marks => p.reach s marks) rounds start
  | .group p, marks => p.reach s marks

/-- The boundaries that patterns in a row lead to. -/
def Pattern.reachSeq (s : Subject) : List Pattern → Marks → Marks
  | [], marks => marks
  | p :: rest, marks => Pattern.reachSeq s rest (p.reach s marks)

/-- The boundaries that any of some patterns leads to. -/
def Pattern.reachAlt (s : Subject) : List Pattern → Marks → Marks
  | [], marks => marks.map fun _ => false
  | p :: rest, marks => Marks.union (p.reach s marks) (Pattern.reachAlt s rest marks)

end

/-- Whether a pattern matches anywhere in a text. -/
def Pattern.matches (p : Pattern) (text : String) : Bool :=
  let s := Subject.ofText text
  (p.reach s (s.boundaries.map fun _ => true)).any id

end PointerOrigins.Regex
