import PointerOrigins.Regex.Parser
import PointerOrigins.Regex.Size

/-!
From expressions to patterns: what an expression means where the flags are as they are.
-/

namespace PointerOrigins.Regex

/-- The flags that are on at some place of an expression. -/
structure Flags where
  caseless : Bool
  multiLine : Bool
  dotMatchesNewline : Bool
  unicode : Bool
  crlf : Bool
deriving DecidableEq, Repr, Inhabited

namespace Flags

/-- The flags at the start of an expression. -/
def initial : Flags :=
  ⟨false, false, false, true, false⟩

/-- Turns one flag on or off. Flags that change nothing about whether there is a match are ignored. -/
def set (f : Flags) : Flag × Bool → Flags
  | (.caseless, on) => { f with caseless := on }
  | (.multiLine, on) => { f with multiLine := on }
  | (.dotMatchesNewline, on) => { f with dotMatchesNewline := on }
  | (.unicode, on) => { f with unicode := on }
  | (.crlf, on) => { f with crlf := on }
  | (.swapGreed, _) | (.verbose, _) => f

/-- Applies a change. -/
def change (f : Flags) (c : FlagChange) : Flags :=
  c.foldl set f

end Flags

/-- Adds what differs in case only, if case does not count. -/
def foldCase (f : Flags) (set : CharSet) : CharSet :=
  if f.caseless then (if f.unicode then set.caseless else set.asciiCaseless) else set

/-- Folds the case of a set and turns it around. Without Unicode a set must stay below 128, so that it
cannot be turned around.
-/
def foldAndNegate (f : Flags) (negated : Bool) (set : CharSet) : Option CharSet :=
  if negated then (if f.unicode then some (foldCase f set).complement else none)
  else some (foldCase f set)

/-- The character that a literal stands for. Without Unicode, two hexadecimal digits stand for a byte,
which has to be below 128.
-/
def literalChar? (f : Flags) (l : Literal) : Option Char :=
  if !f.unicode && l.byte && 128 ≤ l.char.toNat then none else some l.char

/-- The character that a literal stands for in a set. Without Unicode it has to be below 128. -/
def setChar? (f : Flags) (l : Literal) : Option Char :=
  if !f.unicode && 128 ≤ l.char.toNat then none else some l.char

/-- The characters of a class with a letter. -/
def letterSet? (f : Flags) (c : LetterClass) (negated : Bool) : Option CharSet :=
  let set := CharSet.ofRanges (c.ranges f.unicode)
  if negated then (if f.unicode then some set.complement else none) else some set

/-- The characters with a property. Without Unicode there are no properties. -/
def propertySet? (f : Flags) (query : PropertyQuery) (negated : Bool) : Option CharSet := do
  if !f.unicode then none
  else
    let rs ← query.ranges?
    foldAndNegate f negated (.ofRanges rs)

/-- The result of an operation on sets. Case is folded on both sides first. -/
def SetOp.apply (f : Flags) (op : SetOp) (left right : CharSet) : CharSet :=
  let left := foldCase f left
  let right := foldCase f right
  match op with
  | .intersection => left.inter right
  | .difference => left.diff right
  | .symmetricDifference => left.symDiff right

mutual

/-- The characters of what stands between brackets. -/
def SetExpr.charSet? (f : Flags) : SetExpr → Option CharSet
  | .literal l => (setChar? f l).map .single
  | .range lo hi => do
      let lo ← setChar? f lo
      let hi ← setChar? f hi
      some (.ofRanges [⟨lo.toNat, hi.toNat⟩])
  | .named c negated => foldAndNegate f negated (.ofRanges c.ranges)
  | .letter c negated => letterSet? f c negated
  | .property query negated => propertySet? f query negated
  | .bracketed negated set => (set.charSet? f).bind (foldAndNegate f negated)
  | .union sets => SetExpr.unionSet? f sets
  | .combine op left right => do
      let left ← left.charSet? f
      let right ← right.charSet? f
      some (op.apply f left right)

/-- The characters of any of some sets. -/
def SetExpr.unionSet? (f : Flags) : List SetExpr → Option CharSet
  | [] => some .empty
  | set :: rest => do
      let set ← set.charSet? f
      let rest ← SetExpr.unionSet? f rest
      some (set.union rest)

end

/-- The condition that an assertion stands for. -/
def Assertion.look (f : Flags) : Assertion → Look
  | .startLine => if f.multiLine then (if f.crlf then .startLineCrlf else .startLine) else .startText
  | .endLine => if f.multiLine then (if f.crlf then .endLineCrlf else .endLine) else .endText
  | .startText => .startText
  | .endText => .endText
  | .wordBoundary => .boundary f.unicode
  | .notWordBoundary => .notBoundary f.unicode
  | .wordStart => .wordStart f.unicode
  | .wordEnd => .wordEnd f.unicode
  | .wordStartHalf => .wordStartHalf f.unicode
  | .wordEndHalf => .wordEndHalf f.unicode

/-- The characters that a dot stands for. -/
def dotSet (f : Flags) : CharSet :=
  if f.dotMatchesNewline then .ofRanges [⟨0, Unicode.maxCode⟩]
  else if f.crlf then (CharSet.ofRanges (between [('\n', '\n'), ('\r', '\r')])).complement
  else (CharSet.single '\n').complement

mutual

/-- The pattern of an expression, and the flags that are on after it. -/
def Expr.pattern? (f : Flags) : Expr → Option (Pattern × Flags)
  | .empty => some (.empty, f)
  | .flags change => some (.empty, f.change change)
  | .literal l => (literalChar? f l).map fun c => (.ofSet (foldCase f (.single c)), f)
  | .dot => if f.unicode then some (.ofSet (dotSet f), f) else none
  | .assertion a => some (.look (a.look f), f)
  | .letter c negated => (letterSet? f c negated).map fun set => (.ofSet set, f)
  | .property query negated => (propertySet? f query negated).map fun set => (.ofSet set, f)
  | .bracketed negated set =>
      ((set.charSet? f).bind (foldAndNegate f negated)).map fun set => (.ofSet set, f)
  | .repetition least most e => (e.pattern? f).map fun (p, after) => (.ofRepeat least most p, after)
  | .group change e => (e.pattern? (f.change change)).map fun (p, _) => (p, f)
  | .capture e => (e.pattern? f).map fun (p, _) => (.group p, f)
  | .alternation es => (Expr.patterns? f es).map fun (ps, after) => (.ofAlt ps, after)
  | .concat es => (Expr.patterns? f es).map fun (ps, after) => (.ofSeq ps, after)

/-- The patterns of expressions that stand one after the other. -/
def Expr.patterns? (f : Flags) : List Expr → Option (List Pattern × Flags)
  | [] => some ([], f)
  | e :: rest => do
      let (p, f) ← e.pattern? f
      let (ps, f) ← Expr.patterns? f rest
      some (p :: ps, f)

end

/-- Reads a pattern. -/
def Pattern.parse? (text : String) : Option Pattern := do
  let e ← Expr.parse? text
  let (p, _) ← e.pattern? .initial
  some p

/-- Whether the patterns of a set do not take too much room together. -/
def Pattern.fitTogether (ps : List Pattern) : Bool :=
  fits .forward ps && fits .backward ps

end PointerOrigins.Regex
