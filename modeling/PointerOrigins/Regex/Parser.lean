import PointerOrigins.Regex.Syntax
import PointerOrigins.Unicode.Property
import PointerOrigins.Unicode.Latest

/-!
Reading regular expressions.

An expression is read from left to right, one item at a time, with a stack of the groups that are
open. A set between brackets is read the same way, with a stack of the brackets and operations that
are open. In a verbose expression blanks and comments between items are skipped.
-/

namespace PointerOrigins.Regex

----------------------------------------------------------------------------------------------
-- Characters
----------------------------------------------------------------------------------------------

/-- The code points that are blanks. -/
def blankRanges : List Unicode.Range :=
  Unicode.ranges Unicode.whiteSpace

/-- Whether a character is a blank. -/
def isBlank (c : Char) : Bool :=
  blankRanges.any fun r => r.contains c.toNat

/-- Whether a character is a letter in the wide sense. -/
def isAlphabetic (c : Char) : Bool :=
  Unicode.latestAlphabetic.any fun r => r.contains c.toNat

/-- Whether a character is a number of some kind. -/
def isNumeric (c : Char) : Bool :=
  ["Nd", "Nl", "No"].contains (Unicode.latestCategory c.toNat)

/-- Whether a character may stand in the name of a group. -/
def isNameChar (first : Bool) (c : Char) : Bool :=
  if first then c = '_' || isAlphabetic c
  else c = '_' || c = '.' || c = '[' || c = ']' || isAlphabetic c || isNumeric c

/-- The characters that mean something unless a backslash stands before them. -/
def isMeta (c : Char) : Bool :=
  "\\.+*?()|[]\x7b\x7d^$#&-~".toList.contains c

/-- Whether a character may have a backslash before it that changes nothing. -/
def isEscapable (c : Char) : Bool :=
  isMeta c || (c.toNat < 128 && !c.isAlphanum && c != '<' && c != '>')

----------------------------------------------------------------------------------------------
-- Blanks and comments
----------------------------------------------------------------------------------------------

/-- Drops blanks and comments. -/
def dropBlank (inComment : Bool) : List Char → List Char
  | [] => []
  | c :: rest =>
      if inComment then dropBlank (c != '\n') rest
      else if isBlank c then dropBlank false rest
      else if c = '#' then dropBlank true rest
      else c :: rest

/-- Drops blanks and comments of a verbose expression. -/
def skipBlank (verbose : Bool) (cs : List Char) : List Char :=
  if verbose then dropBlank false cs else cs

/-- Drops one character, and then blanks and comments of a verbose expression. -/
def skipOne (verbose : Bool) (cs : List Char) : List Char :=
  skipBlank verbose cs.tail

/-- The first character that is no blank. At most one mark of a comment is skipped. -/
def firstVisible? (inComment : Bool) : List Char → Option Char
  | [] => none
  | c :: rest =>
      if isBlank c then firstVisible? inComment rest
      else if !inComment && c = '#' then firstVisible? true rest
      else some c

/-- The character after the one at hand, looking past blanks in a verbose expression. -/
def peek? (verbose : Bool) (cs : List Char) : Option Char :=
  if verbose then (firstVisible? false cs.tail).or cs.tail.head? else cs.tail.head?

----------------------------------------------------------------------------------------------
-- Escapes
----------------------------------------------------------------------------------------------

/-- A single item outside or inside of brackets. -/
inductive Primitive where
  | literal (l : Literal)
  | dot
  | assertion (a : Assertion)
  | letter (c : LetterClass) (negated : Bool)
  | property (query : PropertyQuery) (negated : Bool)
deriving DecidableEq, Repr, Inhabited

/-- The expression of a single item. -/
def Primitive.expr : Primitive → Expr
  | .literal l => .literal l
  | .dot => .dot
  | .assertion a => .assertion a
  | .letter c negated => .letter c negated
  | .property query negated => .property query negated

/-- The set of a single item; assertions have none. -/
def Primitive.set? : Primitive → Option SetExpr
  | .literal l => some (.literal l)
  | .letter c negated => some (.letter c negated)
  | .property query negated => some (.property query negated)
  | .dot | .assertion _ => none

/-- The literal of a single item. -/
def Primitive.literal? : Primitive → Option Literal
  | .literal l => some l
  | _ => none

/-- The character of a code point. -/
def char? (code : Nat) : Option Char :=
  if code < 0xD800 ∨ (0xDFFF < code ∧ code ≤ Unicode.maxCode) then some (Char.ofNat code) else none

/-- Reads so many hexadecimal digits. -/
def hexDigits (verbose : Bool) : Nat → Nat → List Char → Option (Nat × List Char)
  | 0, value, cs => some (value, cs)
  | count + 1, value, cs =>
      match cs with
      | [] => none
      | c :: _ =>
          match Unicode.hexDigit? c with
          | some d => hexDigits verbose count (16 * value + d) (skipOne verbose cs)
          | none => none

/-- Reads characters up to a closing brace. The bound is the length of the text. -/
def untilBrace (verbose : Bool) : Nat → List Char → List Char → Option (List Char × List Char)
  | 0, _, _ => none
  | bound + 1, read, cs =>
      match skipOne verbose cs with
      | [] => none
      | '\x7d' :: rest => some (read.reverse, rest)
      | c :: rest => untilBrace verbose bound (c :: read) (c :: rest)

/-- Reads a code point in hexadecimal, after its letter. -/
def hexEscape (verbose : Bool) (letter : Char) (cs : List Char) : Option (Primitive × List Char) :=
  let digits := if letter = 'x' then 2 else if letter = 'u' then 4 else 8
  match skipBlank verbose cs with
  | '\x7b' :: rest => do
      let (text, rest) ← untilBrace verbose (rest.length + 1) [] ('\x7b' :: rest)
      if text.isEmpty then none
      else
        let values ← text.mapM Unicode.hexDigit?
        let c ← char? (values.foldl (fun n d => 16 * n + d) 0)
        some (.literal ⟨c, false⟩, skipBlank verbose rest)
  | cs => do
      let (code, rest) ← hexDigits verbose digits 0 cs
      let c ← char? code
      some (.literal ⟨c, letter = 'x'⟩, rest)

/-- Cuts a list at the first place where a list of characters stands. -/
def cutAt (mark : List Char) : List Char → Option (List Char × List Char)
  | [] => none
  | c :: rest =>
      if mark.isPrefixOf (c :: rest) then some ([], (c :: rest).drop mark.length)
      else (cutAt mark rest).map fun (before, after) => (c :: before, after)

/-- The question that the text between braces asks, and whether it is turned around. -/
def propertyQuery (text : List Char) : PropertyQuery × Bool :=
  match cutAt ['!', '='] text with
  | some (property, value) => (.byValue (.ofList property) (.ofList value), true)
  | none =>
      match (cutAt [':'] text).or (cutAt ['='] text) with
      | some (property, value) => (.byValue (.ofList property) (.ofList value), false)
      | none => (.byName (.ofList text), false)

/-- Reads the name of a property, after its letter. -/
def propertyEscape (verbose : Bool) (negated : Bool) (cs : List Char)
    : Option (Primitive × List Char) :=
  match skipBlank verbose cs with
  | [] => none
  | '\x7b' :: rest => do
      let (text, rest) ← untilBrace verbose (rest.length + 1) [] ('\x7b' :: rest)
      let (query, turned) := propertyQuery text
      some (.property query (negated != turned), rest)
  | '\\' :: _ => none
  | c :: rest => some (.property (.byName (String.ofList [c])) negated, skipBlank verbose rest)

/-- Whether a character may stand in the name of a special word boundary. -/
def isBoundaryChar (c : Char) : Bool :=
  c.isAlpha || c = '-'

/-- Reads the name of a special word boundary. The bound is the length of the text. -/
def boundaryName (verbose : Bool) : Nat → List Char → List Char → List Char × List Char
  | 0, read, cs => (read.reverse, cs)
  | bound + 1, read, cs =>
      match cs with
      | [] => (read.reverse, [])
      | c :: _ =>
          if isBoundaryChar c then boundaryName verbose bound (c :: read) (skipOne verbose cs)
          else (read.reverse, cs)

/-- Reads the braces that may follow a word boundary. Braces that hold no name are left alone. -/
def boundaryEscape (verbose : Bool) (cs : List Char) : Option (Assertion × List Char) :=
  match cs with
  | '\x7b' :: rest =>
      match skipBlank verbose rest with
      | [] => none
      | c :: inner =>
          if !isBoundaryChar c then some (.wordBoundary, cs)
          else
            match boundaryName verbose rest.length [] (c :: inner) with
            | (name, '\x7d' :: rest) =>
                match String.ofList name with
                | "start" => some (.wordStart, rest)
                | "end" => some (.wordEnd, rest)
                | "start-half" => some (.wordStartHalf, rest)
                | "end-half" => some (.wordEndHalf, rest)
                | _ => none
            | _ => none
  | cs => some (.wordBoundary, cs)

/-- Reads what follows a backslash. -/
def escape (verbose : Bool) : List Char → Option (Primitive × List Char)
  | [] => none
  | c :: rest =>
      let plain (value : Char) : Option (Primitive × List Char) := some (.literal ⟨value, false⟩, rest)
      if c.isDigit then none
      else if c = 'x' ∨ c = 'u' ∨ c = 'U' then hexEscape verbose c rest
      else if c = 'p' then propertyEscape verbose false rest
      else if c = 'P' then propertyEscape verbose true rest
      else if isEscapable c then plain c
      else
        match c with
        | 'd' => some (.letter .digit false, rest)
        | 'D' => some (.letter .digit true, rest)
        | 's' => some (.letter .space false, rest)
        | 'S' => some (.letter .space true, rest)
        | 'w' => some (.letter .word false, rest)
        | 'W' => some (.letter .word true, rest)
        | 'a' => plain '\x07'
        | 'f' => plain '\x0c'
        | 't' => plain '\t'
        | 'n' => plain '\n'
        | 'r' => plain '\r'
        | 'v' => plain '\x0b'
        | 'A' => some (.assertion .startText, rest)
        | 'z' => some (.assertion .endText, rest)
        | 'b' => (boundaryEscape verbose rest).map fun (a, rest) => (.assertion a, rest)
        | 'B' => some (.assertion .notWordBoundary, rest)
        | '<' => some (.assertion .wordStart, rest)
        | '>' => some (.assertion .wordEnd, rest)
        | _ => none

----------------------------------------------------------------------------------------------
-- Sets
----------------------------------------------------------------------------------------------

/-- What is open while a set is read. Items are kept with the latest first. -/
inductive SetFrame where
  /-- A bracket, with the items read before it. -/
  | bracket (negated : Bool) (outer : List SetExpr)
  /-- An operation, with its left side. -/
  | op (op : SetOp) (left : SetExpr)
deriving Repr, Inhabited

/-- A set that has been read in part. -/
structure SetState where
  items : List SetExpr
  stack : List SetFrame
  rest : List Char
deriving Repr, Inhabited

/-- Reads one item inside brackets. -/
def setItem (verbose : Bool) : List Char → Option (Primitive × List Char)
  | [] => none
  | '\\' :: rest => escape verbose rest
  | c :: rest => some (.literal ⟨c, false⟩, rest)

/-- Reads one item or range inside brackets. A hyphen before a bracket or hyphen makes no range. -/
def setRange (verbose : Bool) (cs : List Char) : Option (SetExpr × List Char) := do
  let (first, rest) ← setItem verbose cs
  match skipBlank verbose rest with
  | [] => none
  | '-' :: rest =>
      let next := peek? verbose ('-' :: rest)
      if next = some ']' ∨ next = some '-' then
        let set ← first.set?
        some (set, '-' :: rest)
      else
        let (second, rest) ← setItem verbose (skipBlank verbose rest)
        let lo ← first.literal?
        let hi ← second.literal?
        if lo.char.toNat ≤ hi.char.toNat then some (.range lo hi, rest) else none
  | rest =>
      let set ← first.set?
      some (set, rest)

/-- The named class with a name. -/
def namedClass? : String → Option NamedClass
  | "alnum" => some .alnum
  | "alpha" => some .alpha
  | "ascii" => some .ascii
  | "blank" => some .blank
  | "cntrl" => some .cntrl
  | "digit" => some .digit
  | "graph" => some .graph
  | "lower" => some .lower
  | "print" => some .print
  | "punct" => some .punct
  | "space" => some .space
  | "upper" => some .upper
  | "word" => some .word
  | "xdigit" => some .xdigit
  | _ => none

/-- Reads a named class such as `[:alpha:]`, after its bracket. -/
def namedSet? : List Char → Option (SetExpr × List Char)
  | ':' :: rest =>
      let negated := rest.head? = some '^'
      let rest := if negated then rest.tail else rest
      match rest.dropWhile (· != ':') with
      | ':' :: ']' :: after =>
          (namedClass? (String.ofList (rest.takeWhile (· != ':')))).map fun c => (.named c negated, after)
      | _ => none
  | _ => none

/-- Reads the hyphens that stand first in a set. The bound is the length of the text. -/
def leadingHyphens (verbose : Bool) : Nat → List SetExpr → List Char → List SetExpr × List Char
  | 0, items, cs => (items, cs)
  | bound + 1, items, cs =>
      match cs with
      | '-' :: _ => leadingHyphens verbose bound (.literal ⟨'-', false⟩ :: items) (skipOne verbose cs)
      | _ => (items, cs)

/-- Opens a bracket. A closing bracket that stands first is an item. -/
def openSet (verbose : Bool) (outer : List SetExpr) (stack : List SetFrame) (cs : List Char)
    : Option SetState :=
  let cs := skipOne verbose cs
  let negated := cs.head? = some '^'
  let cs := if negated then skipOne verbose cs else cs
  let (items, cs) := leadingHyphens verbose cs.length [] cs
  let (items, cs) :=
    if items.isEmpty ∧ cs.head? = some ']' then ([.literal ⟨']', false⟩], skipOne verbose cs)
    else (items, cs)
  if cs.isEmpty then none else some ⟨items, .bracket negated outer :: stack, cs⟩

/-- Finishes the operation that is open, if there is one. -/
def closeOp (items : List SetExpr) (stack : List SetFrame) : SetExpr × List SetFrame :=
  let set := SetExpr.ofUnion items.reverse
  match stack with
  | .op op left :: stack => (.combine op left set, stack)
  | stack => (set, stack)

/-- Starts an operation, whose left side is what was read since the bracket. -/
def startOp (s : SetState) (op : SetOp) (rest : List Char) : SetState :=
  let (left, stack) := closeOp s.items s.stack
  ⟨[], .op op left :: stack, rest⟩

/-- Reads one part of a set: either more of it is to come, or the set is complete. -/
def setStep (verbose : Bool) (s : SetState) : Option (SetState ⊕ (Expr × List Char)) :=
  match skipBlank verbose s.rest with
  | [] => none
  | '[' :: rest =>
      match namedSet? rest with
      | some (set, rest) => some (.inl { s with items := set :: s.items, rest })
      | none => (openSet verbose s.items s.stack ('[' :: rest)).map .inl
  | ']' :: rest =>
      match closeOp s.items s.stack with
      | (set, [.bracket negated _]) => some (.inr (.bracketed negated set, rest))
      | (set, .bracket negated outer :: stack) => some (.inl ⟨.bracketed negated set :: outer, stack, rest⟩)
      | _ => none
  | '&' :: '&' :: rest => some (.inl (startOp s .intersection rest))
  | '-' :: '-' :: rest => some (.inl (startOp s .difference rest))
  | '~' :: '~' :: rest => some (.inl (startOp s .symmetricDifference rest))
  | cs => (setRange verbose cs).map fun (set, rest) => .inl { s with items := set :: s.items, rest }

/-- Reads parts of a set until it is complete. Each part takes a character. -/
def setLoop (verbose : Bool) : Nat → SetState → Option (Expr × List Char)
  | 0, _ => none
  | bound + 1, s =>
      match setStep verbose s with
      | none => none
      | some (.inl s) => setLoop verbose bound s
      | some (.inr result) => some result

/-- Reads a set, from its opening bracket on. -/
def bracketed (verbose : Bool) (cs : List Char) : Option (Expr × List Char) := do
  let s ← openSet verbose [] [] cs
  setLoop verbose (s.rest.length + 1) s

----------------------------------------------------------------------------------------------
-- Repetition
----------------------------------------------------------------------------------------------

/-- The greatest count that can be written. -/
def maxCount : Nat := 4294967295

/-- Reads the digits of a count. The bound is the length of the text. -/
def countDigits (verbose : Bool) : Nat → List Char → List Char → List Char × List Char
  | 0, read, cs => (read.reverse, cs)
  | bound + 1, read, cs =>
      match cs with
      | [] => (read.reverse, [])
      | c :: _ =>
          if c.isDigit then countDigits verbose bound (c :: read) (skipOne verbose cs)
          else (read.reverse, cs)

/-- Drops blanks one by one. The bound is the length of the text. -/
def countBlanks (verbose : Bool) : Nat → List Char → List Char
  | 0, cs => cs
  | bound + 1, cs =>
      match cs with
      | [] => []
      | c :: _ => if isBlank c then countBlanks verbose bound (skipOne verbose cs) else cs

/-- Reads a count, with blanks around it. The count is missing if it has no digits or too many. -/
def count (verbose : Bool) (cs : List Char) : Option Nat × List Char :=
  let (digits, rest) := countDigits verbose cs.length [] (cs.dropWhile isBlank)
  let value := digits.foldl (fun n c => 10 * n + (c.toNat - 48)) 0
  (if digits.isEmpty ∨ maxCount < value then none else some value,
    countBlanks verbose rest.length rest)

/-- Drops the mark of a lazy repetition. -/
def dropLazy : List Char → List Char
  | '?' :: rest => rest
  | cs => cs

/-- Reads the counts of a repetition, from its brace on. -/
def counted (verbose : Bool) (cs : List Char) : Option (Nat × Option Nat × List Char) := do
  let cs := skipOne verbose cs
  if cs.isEmpty then none
  else
    let (least, rest) := count verbose cs
    let (least, most, rest) ←
      (match rest with
        | ',' :: rest =>
            match skipBlank verbose rest with
            | [] => none
            | '\x7d' :: rest => do
                let least ← least
                some (least, none, '\x7d' :: rest)
            | rest => do
                let least ← least
                let (most, rest) := count verbose rest
                let most ← most
                some (least, some most, rest)
        | rest => do
            let least ← least
            some (least, some least, rest))
    match rest with
    | '\x7d' :: rest =>
        if most.all (least ≤ ·) then some (least, most, dropLazy (skipBlank verbose rest)) else none
    | _ => none

----------------------------------------------------------------------------------------------
-- Groups
----------------------------------------------------------------------------------------------

/-- The flag with a letter. -/
def flag? : Char → Option Flag
  | 'i' => some .caseless
  | 'm' => some .multiLine
  | 's' => some .dotMatchesNewline
  | 'U' => some .swapGreed
  | 'u' => some .unicode
  | 'R' => some .crlf
  | 'x' => some .verbose
  | _ => none

/-- Reads flags up to a colon or closing parenthesis. A flag stands at most once; a minus stands at
most once and before a flag.
-/
def flagChange (read : FlagChange) (minus : Option Bool)
    : List Char → Option (FlagChange × List Char)
  | [] => none
  | c :: rest =>
      if c = ':' ∨ c = ')' then
        if minus = some true then none else some (read.reverse, c :: rest)
      else if c = '-' then
        if minus.isSome then none else flagChange read (some true) rest
      else
        match flag? c with
        | some flag =>
            if read.any (·.1 = flag) then none
            else flagChange ((flag, minus.isNone) :: read) (minus.map fun _ => false) rest
        | none => none

/-- Reads the name of a group up to its closing angle bracket. -/
def groupName (read : List Char) : List Char → Option (String × List Char)
  | [] => none
  | '>' :: rest => if read.isEmpty then none else some (.ofList read.reverse, rest)
  | c :: rest => if isNameChar read.isEmpty c then groupName (c :: read) rest else none

/-- How a group starts. -/
inductive GroupStart where
  /-- Flags for what follows. -/
  | flags (change : FlagChange)
  | group (change : FlagChange)
  | capture (name : Option String)
deriving DecidableEq, Repr, Inhabited

/-- The group with such a start around an expression. -/
def GroupStart.around (e : Expr) : GroupStart → Expr
  | .flags _ => e
  | .group change => .group change e
  | .capture _ => .capture e

/-- Reads flags and what ends them. -/
def flagGroup (cs : List Char) : Option (GroupStart × List Char) :=
  match flagChange [] none cs with
  | some (change, ':' :: rest) => some (.group change, rest)
  | some (change, _ :: rest) =>
      if change.isEmpty then none else some (.flags change, rest)
  | _ => none

/-- Reads the start of a group, after its parenthesis. There is no looking around. -/
def groupStart (verbose : Bool) (cs : List Char) : Option (GroupStart × List Char) :=
  match skipBlank verbose cs with
  | '?' :: '=' :: _ | '?' :: '!' :: _ | '?' :: '<' :: '=' :: _ | '?' :: '<' :: '!' :: _ => none
  | '?' :: 'P' :: '<' :: rest | '?' :: '<' :: rest =>
      (groupName [] rest).map fun (name, rest) => (.capture (some name), rest)
  | '?' :: rest => flagGroup rest
  | cs => some (.capture none, cs)

----------------------------------------------------------------------------------------------
-- Expressions
----------------------------------------------------------------------------------------------

/-- What stands to the left within one group, with the latest first. -/
structure Level where
  branches : List Expr
  items : List Expr
deriving Repr, Inhabited

/-- A group that is open. -/
structure GroupFrame where
  start : GroupStart
  outer : Level
  /-- Whether the expression around the group is verbose. -/
  verbose : Bool
deriving Repr, Inhabited

/-- An expression that has been read in part. -/
structure State where
  level : Level
  stack : List GroupFrame
  verbose : Bool
  names : List String
  rest : List Char
deriving Repr, Inhabited

/-- The expression of a level. -/
def Level.expr (l : Level) : Expr :=
  .ofAlternation (Expr.ofConcat l.items.reverse :: l.branches).reverse

/-- Adds an item to a level. -/
def Level.add (l : Level) (e : Expr) : Level :=
  { l with items := e :: l.items }

/-- Repeats the last item of a level. There has to be one, and it has to be more than flags. -/
def Level.repeat? (l : Level) (least : Nat) (most : Option Nat) : Option Level :=
  match l.items with
  | [] | .empty :: _ | .flags _ :: _ => none
  | e :: items => some { l with items := .repetition least most e :: items }

/-- Whether the expression is verbose after a change of flags. -/
def verboseAfter (verbose : Bool) (change : FlagChange) : Bool :=
  (change.lookup .verbose).getD verbose

/-- Reads one item of an expression, which has at least one character left. -/
def step (s : State) : Option State :=
  match s.rest with
  | [] => none
  | '(' :: rest => do
      let (start, rest) ← groupStart s.verbose rest
      match start with
      | .flags change =>
          some { s with
            level := s.level.add (.flags change), verbose := verboseAfter s.verbose change, rest }
      | .group change =>
          some { s with
            level := ⟨[], []⟩, stack := ⟨start, s.level, s.verbose⟩ :: s.stack,
            verbose := verboseAfter s.verbose change, rest }
      | .capture name =>
          if name.any s.names.contains then none
          else some { s with
            level := ⟨[], []⟩, stack := ⟨start, s.level, s.verbose⟩ :: s.stack,
            names := name.toList ++ s.names, rest }
  | ')' :: rest =>
      match s.stack with
      | frame :: stack =>
          some { s with
            level := frame.outer.add (frame.start.around s.level.expr),
            stack, verbose := frame.verbose, rest }
      | [] => none
  | '|' :: rest =>
      some { s with level := ⟨Expr.ofConcat s.level.items.reverse :: s.level.branches, []⟩, rest }
  | '[' :: rest => do
      let (e, rest) ← bracketed s.verbose ('[' :: rest)
      some { s with level := s.level.add e, rest }
  | '?' :: rest => do
      let level ← s.level.repeat? 0 (some 1)
      some { s with level, rest := dropLazy rest }
  | '*' :: rest => do
      let level ← s.level.repeat? 0 none
      some { s with level, rest := dropLazy rest }
  | '+' :: rest => do
      let level ← s.level.repeat? 1 none
      some { s with level, rest := dropLazy rest }
  | '\x7b' :: rest => do
      let (least, most, rest) ← counted s.verbose ('\x7b' :: rest)
      let level ← s.level.repeat? least most
      some { s with level, rest }
  | '.' :: rest => some { s with level := s.level.add .dot, rest }
  | '^' :: rest => some { s with level := s.level.add (.assertion .startLine), rest }
  | '$' :: rest => some { s with level := s.level.add (.assertion .endLine), rest }
  | '\\' :: rest => do
      let (item, rest) ← escape s.verbose rest
      some { s with level := s.level.add item.expr, rest }
  | c :: rest => some { s with level := s.level.add (.literal ⟨c, false⟩), rest }

/-- Reads items until the text ends. Each item takes a character, so the length of the text bounds
their number.
-/
def loop : Nat → State → Option State
  | bound, s =>
      match skipBlank s.verbose s.rest with
      | [] => some { s with rest := [] }
      | rest =>
          match bound with
          | 0 => none
          | bound + 1 =>
              match step { s with rest } with
              | some s => loop bound s
              | none => none

/-- Reads an expression. -/
def Expr.parse? (text : String) : Option Expr := do
  let s ← loop text.toList.length ⟨⟨[], []⟩, [], false, [], text.toList⟩
  if s.stack.isEmpty ∧ s.level.expr.depth ≤ maxDepth then some s.level.expr else none

end PointerOrigins.Regex
