/-!
The syntax of regular expressions, as it is written.
-/

namespace PointerOrigins.Regex

/-- A character as it is written in an expression. -/
structure Literal where
  char : Char
  /-- Whether it is written with two hexadecimal digits, and so may stand for a byte. -/
  byte : Bool
deriving DecidableEq, Repr, Inhabited

/-- The classes that have a letter of their own. -/
inductive LetterClass where
  | digit
  | space
  | word
deriving DecidableEq, Repr, Inhabited

/-- The classes of characters below 128 that have a name. -/
inductive NamedClass where
  | alnum | alpha | ascii | blank | cntrl | digit | graph
  | lower | print | punct | space | upper | word | xdigit
deriving DecidableEq, Repr, Inhabited

/-- A question about a property of characters. -/
inductive PropertyQuery where
  | byName (name : String)
  | byValue (property value : String)
deriving DecidableEq, Repr, Inhabited

/-- An operation on two sets of characters. -/
inductive SetOp where
  | intersection
  | difference
  | symmetricDifference
deriving DecidableEq, Repr, Inhabited

/-- What stands between brackets. -/
inductive SetExpr where
  | literal (l : Literal)
  | range (lo hi : Literal)
  | named (c : NamedClass) (negated : Bool)
  | letter (c : LetterClass) (negated : Bool)
  | property (query : PropertyQuery) (negated : Bool)
  | bracketed (negated : Bool) (set : SetExpr)
  | union (sets : List SetExpr)
  | combine (op : SetOp) (left right : SetExpr)
deriving Repr, Inhabited

/-- An assertion about a place between characters, as it is written. -/
inductive Assertion where
  | startLine
  | endLine
  | startText
  | endText
  | wordBoundary
  | notWordBoundary
  | wordStart
  | wordEnd
  | wordStartHalf
  | wordEndHalf
deriving DecidableEq, Repr, Inhabited

/-- The flags of an expression. -/
inductive Flag where
  | caseless
  | multiLine
  | dotMatchesNewline
  | swapGreed
  | unicode
  | crlf
  | verbose
deriving DecidableEq, Repr, Inhabited

/-- Flags that are turned on or off. -/
abbrev FlagChange := List (Flag × Bool)

/-- A regular expression. -/
inductive Expr where
  | empty
  | flags (change : FlagChange)
  | literal (l : Literal)
  | dot
  | assertion (a : Assertion)
  | letter (c : LetterClass) (negated : Bool)
  | property (query : PropertyQuery) (negated : Bool)
  | bracketed (negated : Bool) (set : SetExpr)
  | repetition (least : Nat) (most : Option Nat) (e : Expr)
  | group (change : FlagChange) (e : Expr)
  /-- A group whose match is kept apart. -/
  | capture (e : Expr)
  | alternation (es : List Expr)
  | concat (es : List Expr)
deriving Repr, Inhabited

----------------------------------------------------------------------------------------------
-- Nesting
----------------------------------------------------------------------------------------------

mutual

/-- How deep a set nests, a single item being at depth zero. -/
def SetExpr.depth : SetExpr → Nat
  | .bracketed _ set => set.depth + 1
  | .union sets => if sets.isEmpty then 0 else SetExpr.depths sets + 1
  | .combine _ left right => max left.depth right.depth + 1
  | _ => 0

/-- The greatest depth of some sets. -/
def SetExpr.depths : List SetExpr → Nat
  | [] => 0
  | set :: rest => max set.depth (SetExpr.depths rest)

end

mutual

/-- How deep an expression nests, a single item being at depth zero. -/
def Expr.depth : Expr → Nat
  | .bracketed _ set => set.depth + 1
  | .repetition _ _ e => e.depth + 1
  | .group _ e => e.depth + 1
  | .capture e => e.depth + 1
  | .alternation es => Expr.depths es + 1
  | .concat es => Expr.depths es + 1
  | _ => 0

/-- The greatest depth of some expressions. -/
def Expr.depths : List Expr → Nat
  | [] => 0
  | e :: rest => max e.depth (Expr.depths rest)

end

/-- The greatest depth that is accepted. -/
def maxDepth : Nat := 250

/-- Expressions in a row; a single one stands for itself. -/
def Expr.ofConcat : List Expr → Expr
  | [] => .empty
  | [e] => e
  | es => .concat es

/-- Expressions to choose from; a single one stands for itself. -/
def Expr.ofAlternation : List Expr → Expr
  | [] => .empty
  | [e] => e
  | es => .alternation es

/-- Sets joined; a single one stands for itself. -/
def SetExpr.ofUnion : List SetExpr → SetExpr
  | [set] => set
  | sets => .union sets

end PointerOrigins.Regex
