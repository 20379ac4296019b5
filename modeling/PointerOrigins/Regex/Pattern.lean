import PointerOrigins.Regex.CharSet

/-!
Patterns: regular expressions whose flags have been worked in.

Patterns are made by functions that simplify. They join what stands in a row, merge single characters
to choose from into a set, and leave out repetitions that change nothing.
-/

namespace PointerOrigins.Regex

/-- A condition on the characters around a boundary. -/
inductive Look where
  | startText
  | endText
  | startLine
  | endLine
  /-- Like `startLine`, where a return and a newline end a line together or alone. -/
  | startLineCrlf
  | endLineCrlf
  | boundary (unicode : Bool)
  | notBoundary (unicode : Bool)
  | wordStart (unicode : Bool)
  | wordEnd (unicode : Bool)
  | wordStartHalf (unicode : Bool)
  | wordEndHalf (unicode : Bool)
deriving DecidableEq, Repr, Inhabited

/-- A pattern. -/
inductive Pattern where
  | empty
  /-- Characters in a row, of which there is at least one. -/
  | literal (cs : List Char)
  | set (chars : CharSet)
  | look (l : Look)
  | seq (ps : List Pattern)
  | alt (ps : List Pattern)
  | repeat (least : Nat) (most : Option Nat) (p : Pattern)
  /-- A pattern whose match is kept apart. -/
  | group (p : Pattern)
deriving Repr, Inhabited

namespace Pattern

----------------------------------------------------------------------------------------------
-- Lengths
----------------------------------------------------------------------------------------------

mutual

/-- The least number of bytes that a pattern matches, if it can match at all. -/
def minLength? : Pattern → Option Nat
  | .empty => some 0
  | .literal cs => some (String.ofList cs).utf8ByteSize
  | .set chars => chars.ranges.head?.map fun r => (Char.ofNat r.lo).utf8Size
  | .look _ => some 0
  | .seq ps => minLengthSeq? ps
  | .alt ps => minLengthAlt? ps
  | .repeat least _ p => p.minLength?.map (· * least)
  | .group p => p.minLength?

/-- The least number of bytes that patterns in a row match. -/
def minLengthSeq? : List Pattern → Option Nat
  | [] => some 0
  | p :: rest => do
      let length ← p.minLength?
      let others ← minLengthSeq? rest
      some (length + others)

/-- The least number of bytes that one of some patterns matches, if each of them can match. -/
def minLengthAlt? : List Pattern → Option Nat
  | [] => none
  | [p] => p.minLength?
  | p :: rest => do
      let length ← p.minLength?
      let others ← minLengthAlt? rest
      some (min length others)

end

mutual

/-- Whether a pattern matches nothing but the empty text. -/
def isShort : Pattern → Bool
  | .empty => true
  | .literal _ => false
  | .set _ => false
  | .look _ => true
  | .seq ps => areShort ps
  | .alt ps => areShort ps
  | .repeat _ most p => most.isSome && p.isShort
  | .group p => p.isShort

/-- Whether some patterns match nothing but the empty text. -/
def areShort : List Pattern → Bool
  | [] => true
  | p :: rest => p.isShort && areShort rest

end

----------------------------------------------------------------------------------------------
-- Anchors
----------------------------------------------------------------------------------------------

mutual

/-- Whether a match has to start where the text starts. -/
def startsText : Pattern → Bool
  | .look l => l = .startText
  | .seq ps => startsTextSeq ps
  | .alt ps => !ps.isEmpty && startsTextAlt ps
  | .repeat least _ p => 0 < least && p.startsText
  | .group p => p.startsText
  | _ => false

/-- Whether a match of patterns in a row has to start where the text starts. -/
def startsTextSeq : List Pattern → Bool
  | [] => false
  | p :: rest => p.startsText || (p.isShort && startsTextSeq rest)

/-- Whether a match of any of some patterns has to start where the text starts. -/
def startsTextAlt : List Pattern → Bool
  | [] => true
  | p :: rest => p.startsText && startsTextAlt rest

end

mutual

/-- Whether a match has to end where the text ends. -/
def endsText : Pattern → Bool
  | .look l => l = .endText
  | .seq ps => endsTextSeq ps
  | .alt ps => !ps.isEmpty && endsTextAlt ps
  | .repeat least _ p => 0 < least && p.endsText
  | .group p => p.endsText
  | _ => false

/-- Whether a match of patterns in a row has to end where the text ends. -/
def endsTextSeq : List Pattern → Bool
  | [] => false
  | p :: rest => endsTextSeq rest || (areShort rest && p.endsText)

/-- Whether a match of any of some patterns has to end where the text ends. -/
def endsTextAlt : List Pattern → Bool
  | [] => true
  | p :: rest => p.endsText && endsTextAlt rest

end

----------------------------------------------------------------------------------------------
-- Simplifying
----------------------------------------------------------------------------------------------

mutual

/-- Whether two patterns are the same. Groups never are, since each keeps a match of its own. -/
def same : Pattern → Pattern → Bool
  | .empty, .empty => true
  | .literal left, .literal right => left = right
  | .set left, .set right => left = right
  | .look left, .look right => left = right
  | .seq left, .seq right => sameAll left right
  | .alt left, .alt right => sameAll left right
  | .repeat least most p, .repeat least' most' p' => least = least' && most = most' && p.same p'
  | _, _ => false

/-- Whether patterns are the same one by one. -/
def sameAll : List Pattern → List Pattern → Bool
  | [], [] => true
  | p :: ps, q :: qs => p.same q && sameAll ps qs
  | _, _ => false

end

/-- The pattern of a set; a single character is a literal. -/
def ofSet (chars : CharSet) : Pattern :=
  match chars.single? with
  | some c => .literal [c]
  | none => .set chars

/-- A repetition. What matches the empty text only is repeated at most once. -/
def ofRepeat (least : Nat) (most : Option Nat) (p : Pattern) : Pattern :=
  let (least, most) :=
    if p.isShort then (min least 1, some ((most.map (min · 1)).getD 1)) else (least, most)
  if most = some 0 then .empty
  else if least = 1 ∧ most = some 1 then p
  else .repeat least most p

/-- The patterns that a pattern in a row stands for. -/
def seqParts : Pattern → List Pattern
  | .empty => []
  | .seq ps => ps
  | p => [p]

/-- Joins neighbouring literals. -/
def joinLiterals : List Pattern → List Pattern
  | [] => []
  | p :: rest =>
      match p, joinLiterals rest with
      | .literal cs, .literal ds :: others => .literal (cs ++ ds) :: others
      | p, others => p :: others

/-- Patterns in a row. -/
def ofSeq (ps : List Pattern) : Pattern :=
  match joinLiterals (ps.flatMap seqParts) with
  | [] => .empty
  | [p] => p
  | ps => .seq ps

/-- The patterns that a pattern to choose from stands for. -/
def altParts : Pattern → List Pattern
  | .alt ps => ps
  | p => [p]

/-- The character of a pattern that is just one. -/
def char? : Pattern → Option Char
  | .literal [c] => some c
  | _ => none

/-- The set of a pattern that is one. -/
def set? : Pattern → Option CharSet
  | .set chars => some chars
  | _ => none

/-- The parts of a row. -/
def row? : Pattern → Option (List Pattern)
  | .seq ps => some ps
  | _ => none

/-- The number of patterns with which both lists start. -/
def sharedLength : List Pattern → List Pattern → Nat
  | p :: ps, q :: qs => if p.same q then sharedLength ps qs + 1 else 0
  | _, _ => 0

/-- The number of patterns with which all lists start. -/
def sharedStart : List (List Pattern) → Nat
  | [] => 0
  | first :: others => others.foldl (fun n row => min n (sharedLength first row)) first.length

/-- Patterns to choose from, with nothing taken out in front. Characters become a set, and so do sets. -/
def merge (ps : List Pattern) : Pattern :=
  match ps with
  | [p] => p
  | ps =>
      match ps.mapM char?, ps.mapM set? with
      | some cs, _ => ofSet (.ofRanges (cs.map fun c => ⟨c.toNat, c.toNat⟩))
      | none, some sets => ofSet (.ofRanges (sets.flatMap CharSet.ranges))
      | none, none => .alt ps

/-- Patterns to choose from. What all of them start with is taken out in front; what is left starts with
nothing in common.
-/
def ofAlt (ps : List Pattern) : Pattern :=
  let ps := ps.flatMap altParts
  match ps.mapM row? with
  | some (first :: second :: others) =>
      let rows := first :: second :: others
      match sharedStart rows with
      | 0 => .alt ps
      | n => ofSeq (first.take n ++ [merge ((rows.map fun row => ofSeq (row.drop n)).flatMap altParts)])
  | _ => merge ps

end Pattern

end PointerOrigins.Regex
