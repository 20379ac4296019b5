import PointerOrigins.Regex.Syntax
import PointerOrigins.Unicode.Property
import PointerOrigins.Unicode.Category
import PointerOrigins.Unicode.Script
import PointerOrigins.Unicode.CaseFolding
import PointerOrigins.Unicode.Age
import PointerOrigins.Unicode.Segmentation

/-!
Sets of characters, as ranges of code points that are ordered and apart.

No character lies between `0xD7FF` and `0xE000`. A range may lead over that gap, and two ranges on its
sides are neighbours.
-/

namespace PointerOrigins.Regex

open Unicode (Range)

----------------------------------------------------------------------------------------------
-- Ranges
----------------------------------------------------------------------------------------------

/-- The part of a range that consists of characters. -/
def charParts (r : Range) : List Range :=
  [⟨r.lo, min r.hi 0xD7FF⟩, ⟨max r.lo 0xE000, r.hi⟩].filter fun part => part.lo ≤ part.hi

/-- The code point of the next character. -/
def nextCode (code : Nat) : Nat :=
  if code = 0xD7FF then 0xE000 else code + 1

/-- The code point of the character before. -/
def previousCode (code : Nat) : Nat :=
  if code = 0xE000 then 0xD7FF else code - 1

/-- Joins neighbouring ranges of a list that is ordered by the lower ends. -/
def joinRanges : List Range → List Range
  | [] => []
  | r :: rest =>
      match joinRanges rest with
      | [] => [r]
      | next :: others =>
          if next.lo ≤ nextCode r.hi then ⟨r.lo, max r.hi next.hi⟩ :: others else r :: next :: others

/-- The ranges between ordered ranges, from a code point on. -/
def gaps (start : Nat) : List Range → List Range
  | [] => if start ≤ Unicode.maxCode then [⟨start, Unicode.maxCode⟩] else []
  | r :: rest =>
      (if start < r.lo then [⟨start, previousCode r.lo⟩] else []) ++ gaps (nextCode r.hi) rest

----------------------------------------------------------------------------------------------
-- Sets
----------------------------------------------------------------------------------------------

/-- A set of characters. -/
structure CharSet where
  ranges : List Range
deriving DecidableEq, Repr, Inhabited

namespace CharSet

/-- The characters of some ranges. -/
def ofRanges (rs : List Range) : CharSet :=
  ⟨joinRanges ((rs.flatMap charParts).mergeSort fun left right => left.lo ≤ right.lo)⟩

/-- Whether a set contains a code point. -/
def containsCode (set : CharSet) (code : Nat) : Bool :=
  set.ranges.any fun r => r.contains code

/-- Whether a set contains a character. -/
def contains (set : CharSet) (c : Char) : Bool :=
  set.containsCode c.toNat

/-- No character. -/
def empty : CharSet :=
  ⟨[]⟩

/-- A single character. -/
def single (c : Char) : CharSet :=
  ⟨[⟨c.toNat, c.toNat⟩]⟩

/-- The characters in one of two sets. -/
def union (left right : CharSet) : CharSet :=
  ⟨joinRanges (left.ranges.merge right.ranges fun left right => left.lo ≤ right.lo)⟩

/-- The characters that are not in a set. -/
def complement (set : CharSet) : CharSet :=
  ⟨gaps 0 set.ranges⟩

/-- The characters in both of two sets. -/
def inter (left right : CharSet) : CharSet :=
  (left.complement.union right.complement).complement

/-- The characters in the first of two sets, but not in the second. -/
def diff (left right : CharSet) : CharSet :=
  (left.complement.union right).complement

/-- The characters in one of two sets, but not in both. -/
def symDiff (left right : CharSet) : CharSet :=
  (left.diff right).union (right.diff left)

/-- Adds all members of the classes that have a member in the set. -/
def close (classes : List (List Nat)) (set : CharSet) : CharSet :=
  let touched := classes.filter fun members => members.any set.containsCode
  ofRanges (set.ranges ++ touched.flatten.map fun code => ⟨code, code⟩)

/-- Adds the characters that differ from a member in case only. -/
def caseless (set : CharSet) : CharSet :=
  set.close Unicode.caseClasses

/-- The letters below 128, each with its counterpart. -/
def asciiCaseClasses : List (List Nat) :=
  (List.range 26).map fun i => [65 + i, 97 + i]

/-- The same, but only the letters below 128 have a case. -/
def asciiCaseless (set : CharSet) : CharSet :=
  set.close asciiCaseClasses

/-- The only character of a set, if there is just one. -/
def single? (set : CharSet) : Option Char :=
  match set.ranges with
  | [r] => if r.lo = r.hi then some (Char.ofNat r.lo) else none
  | _ => none

/-- Whether all characters of a set are below 128. -/
def isAscii (set : CharSet) : Bool :=
  set.ranges.all fun r => r.hi < 128

end CharSet

----------------------------------------------------------------------------------------------
-- Classes
----------------------------------------------------------------------------------------------

/-- The characters of words: letters in the wide sense, marks, decimal digits, connectors and joiners. -/
def wordRanges : List Range :=
  Unicode.normalize <|
    Unicode.ranges Unicode.alphabetic ++
      Unicode.select Unicode.categoryRuns (["Mc", "Me", "Mn", "Nd", "Pc"].contains ·) ++
      Unicode.ranges Unicode.joinControl

/-- The decimal digits. -/
def digitRanges : List Range :=
  Unicode.select Unicode.categoryRuns (· = "Nd")

/-- The blanks. -/
def spaceRanges : List Range :=
  Unicode.ranges Unicode.whiteSpace

/-- The ranges between pairs of characters. -/
def between (pairs : List (Char × Char)) : List Range :=
  pairs.map fun (lo, hi) => ⟨lo.toNat, hi.toNat⟩

/-- The characters of a named class. -/
def NamedClass.ranges : NamedClass → List Range
  | .alnum => between [('0', '9'), ('A', 'Z'), ('a', 'z')]
  | .alpha => between [('A', 'Z'), ('a', 'z')]
  | .ascii => [⟨0, 127⟩]
  | .blank => between [('\t', '\t'), (' ', ' ')]
  | .cntrl => [⟨0, 31⟩, ⟨127, 127⟩]
  | .digit => between [('0', '9')]
  | .graph => between [('!', '~')]
  | .lower => between [('a', 'z')]
  | .print => between [(' ', '~')]
  | .punct => between [('!', '/'), (':', '@'), ('[', '\x60'), ('\x7b', '~')]
  | .space => between [('\t', '\r'), (' ', ' ')]
  | .upper => between [('A', 'Z')]
  | .word => between [('0', '9'), ('A', 'Z'), ('_', '_'), ('a', 'z')]
  | .xdigit => between [('0', '9'), ('A', 'F'), ('a', 'f')]

/-- The characters of a class with a letter. -/
def LetterClass.ranges (unicode : Bool) : LetterClass → List Range
  | .digit => if unicode then digitRanges else NamedClass.ranges .digit
  | .space => if unicode then spaceRanges else NamedClass.ranges .space
  | .word => if unicode then wordRanges else NamedClass.ranges .word

/-- The form in which names of properties are compared: small letters, without blanks, hyphens and
underscores, and without the word "is" in front.
-/
def looseName (name : String) : String :=
  let chars := name.toList
  let start := chars.take 2
  let hasIs := start.map Char.toLower = ['i', 's']
  let body := if hasIs then chars.drop 2 else chars
  let loose := (body.filter fun c => c.toNat < 128 && c != ' ' && c != '_' && c != '-').map Char.toLower
  if hasIs ∧ loose = ['c'] then "isc" else .ofList loose

/-- The characters of a general category, or of one of the wide classes beside them. -/
def categoryRanges? : String → Option (List Range)
  | "any" => some [⟨0, Unicode.maxCode⟩]
  | "ascii" => some [⟨0, 127⟩]
  | "assigned" => some (Unicode.select Unicode.categoryRuns (· != "Cn"))
  | name => Unicode.categoryRanges? name

/-- The names that stand for a category although a property has the name, too. -/
def categoryFirst : List String :=
  ["cf", "sc", "lc"]

/-- The characters that a question about properties is true of. -/
def PropertyQuery.ranges? : PropertyQuery → Option (List Range)
  | .byName name =>
      let name := looseName name
      let property := if categoryFirst.contains name then none else Unicode.propertyRanges? name
      (property.or (categoryRanges? name)).or (Unicode.scriptRanges? name)
  | .byValue property value =>
      let value := looseName value
      match looseName property with
      | "gc" | "generalcategory" => categoryRanges? value
      | "sc" | "script" => Unicode.scriptRanges? value
      | "scx" | "scriptextensions" => Unicode.scriptExtensionRanges? value
      | "age" => Unicode.ageRanges? value
      | "gcb" | "graphemeclusterbreak" => Unicode.clusterBreakRanges? value
      | "wb" | "wordbreak" => Unicode.wordBreakRanges? value
      | "sb" | "sentencebreak" => Unicode.sentenceBreakRanges? value
      | _ => none

end PointerOrigins.Regex
