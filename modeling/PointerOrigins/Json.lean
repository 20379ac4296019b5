import PointerOrigins.Unicode.Ranges

/-!
JSON texts.

A text is cut into tokens, and the tokens are put together with a stack of the containers that are
open. Numbers are only recognised, since nothing that is read here depends on their values. A string
is kept as `none` if an escape in it stands for half of a surrogate pair: such a text is well formed,
but the string has no value.
-/

namespace PointerOrigins

/-- A JSON value. -/
inductive Json where
  | null
  | bool (value : Bool)
  | number
  | string (value : Option String)
  | array (elements : List Json)
  | object (members : List (Option String × Json))
deriving Repr, Inhabited

namespace Json

----------------------------------------------------------------------------------------------
-- Tokens
----------------------------------------------------------------------------------------------

/-- A token of a JSON text. -/
inductive Token where
  | openArray
  | closeArray
  | openObject
  | closeObject
  | comma
  | colon
  /-- A value that is no container. -/
  | scalar (value : Json)
deriving Repr, Inhabited

/-- Reads four hexadecimal digits. -/
def hex4? (a b c d : Char) : Option Nat := do
  let a ← Unicode.hexDigit? a
  let b ← Unicode.hexDigit? b
  let c ← Unicode.hexDigit? c
  let d ← Unicode.hexDigit? d
  some (((a * 16 + b) * 16 + c) * 16 + d)

/-- What a letter after a backslash stands for. -/
def escape? : Char → Option Char
  | '"' => some '"'
  | '\\' => some '\\'
  | '/' => some '/'
  | 'b' => some '\x08'
  | 'f' => some '\x0c'
  | 'n' => some '\n'
  | 'r' => some '\r'
  | 't' => some '\t'
  | _ => none

/-- One unit of a string: a character, or a surrogate that an escape stands for. -/
inductive Unit16 where
  | char (c : Char)
  | surrogate (code : Nat)
deriving DecidableEq, Repr, Inhabited

/-- Reads the rest of a string after its opening quote. -/
def scanString (read : List Unit16) : List Char → Option (List Unit16 × List Char)
  | '"' :: rest => some (read.reverse, rest)
  | '\\' :: 'u' :: a :: b :: c :: d :: rest =>
      match hex4? a b c d with
      | some code =>
          if 0xD800 ≤ code ∧ code ≤ 0xDFFF then scanString (.surrogate code :: read) rest
          else scanString (.char (Char.ofNat code) :: read) rest
      | none => none
  | '\\' :: c :: rest =>
      match escape? c with
      | some value => scanString (.char value :: read) rest
      | none => none
  | c :: rest => if c.toNat < 0x20 then none else scanString (.char c :: read) rest
  | [] => none

/-- Joins surrogate pairs. A surrogate that is not part of a pair has no value. -/
def joinUnits : List Unit16 → Option (List Char)
  | [] => some []
  | .char c :: rest => (joinUnits rest).map (c :: ·)
  | .surrogate high :: .surrogate low :: rest =>
      if high < 0xDC00 ∧ 0xDC00 ≤ low then
        (joinUnits rest).map (Char.ofNat (0x10000 + (high - 0xD800) * 0x400 + (low - 0xDC00)) :: ·)
      else none
  | .surrogate _ :: _ => none

/-- Drops the digits in front; there has to be one. -/
def skipDigits? : List Char → Option (List Char)
  | c :: rest => if c.isDigit then some (rest.dropWhile Char.isDigit) else none
  | [] => none

/-- Drops the whole part of a number: a zero, or digits without a leading zero. -/
def skipWhole? : List Char → Option (List Char)
  | '0' :: rest => if rest.head?.any Char.isDigit then none else some rest
  | cs => skipDigits? cs

/-- Drops a fraction, if there is one. -/
def skipFraction? : List Char → Option (List Char)
  | '.' :: rest => skipDigits? rest
  | cs => some cs

/-- Drops an exponent, if there is one. -/
def skipExponent? : List Char → Option (List Char)
  | e :: rest =>
      if e = 'e' ∨ e = 'E' then
        match rest with
        | sign :: digits => if sign = '+' ∨ sign = '-' then skipDigits? digits else skipDigits? rest
        | [] => none
      else some (e :: rest)
  | [] => some []

/-- Drops a number. -/
def skipNumber? (cs : List Char) : Option (List Char) :=
  let unsigned := if cs.head? = some '-' then cs.tail else cs
  ((skipWhole? unsigned).bind skipFraction?).bind skipExponent?

/-- Reads one token off a text that starts with no blank. -/
def scanToken : List Char → Option (Token × List Char)
  | '[' :: rest => some (.openArray, rest)
  | ']' :: rest => some (.closeArray, rest)
  | '\x7b' :: rest => some (.openObject, rest)
  | '\x7d' :: rest => some (.closeObject, rest)
  | ',' :: rest => some (.comma, rest)
  | ':' :: rest => some (.colon, rest)
  | '"' :: rest =>
      (scanString [] rest).map fun (units, rest) =>
        (.scalar (.string ((joinUnits units).map String.ofList)), rest)
  | 'n' :: 'u' :: 'l' :: 'l' :: rest => some (.scalar .null, rest)
  | 't' :: 'r' :: 'u' :: 'e' :: rest => some (.scalar (.bool true), rest)
  | 'f' :: 'a' :: 'l' :: 's' :: 'e' :: rest => some (.scalar (.bool false), rest)
  | cs => (skipNumber? cs).map fun rest => (.scalar .number, rest)

/-- Whether a character is a blank between tokens. -/
def isBlank (c : Char) : Bool :=
  c = ' ' || c = '\n' || c = '\t' || c = '\r'

/-- Cuts a text into tokens. A token is never empty, so the length of the text bounds their number. -/
def scan (text : List Char) : Option (List Token) :=
  go text.length text
where
  /-- Reads tokens until the text ends. -/
  go : Nat → List Char → Option (List Token)
    | bound, cs =>
        match cs.dropWhile isBlank with
        | [] => some []
        | cs =>
            match bound with
            | 0 => none
            | bound + 1 =>
                match scanToken cs with
                | some (token, rest) => (go bound rest).map (token :: ·)
                | none => none

----------------------------------------------------------------------------------------------
-- Values
----------------------------------------------------------------------------------------------

/-- A container that is open. What it holds already is kept with the latest first. -/
inductive Open where
  | array (elements : List Json)
  | object (members : List (Option String × Json))
  /-- An object that waits for the value of its last key. -/
  | member (members : List (Option String × Json)) (key : Option String)
deriving Repr, Inhabited

/-- What may come next. -/
inductive Expect where
  /-- A value. -/
  | value
  /-- A value, or the end of the array that was just opened. -/
  | firstElement
  /-- A key, or the end of the object that was just opened. -/
  | firstKey
  | key
  | colon
  /-- A comma, or the end of the innermost container. -/
  | separator
deriving DecidableEq, Repr, Inhabited

/-- A text read in part: the open containers from the innermost outwards, or the finished value. -/
structure Partial where
  stack : List Open
  expect : Expect
  result : Option Json
deriving Repr, Inhabited

/-- Puts a finished value where it belongs. -/
def Partial.put (stack : List Open) (value : Json) : Option Partial :=
  match stack with
  | [] => some ⟨[], .separator, some value⟩
  | .array elements :: outer => some ⟨.array (value :: elements) :: outer, .separator, none⟩
  | .member members key :: outer => some ⟨.object ((key, value) :: members) :: outer, .separator, none⟩
  | .object _ :: _ => none

/-- Takes in one token. -/
def Partial.feed (p : Partial) (token : Token) : Option Partial :=
  match p.result, p.expect, token, p.stack with
  | some _, _, _, _ => none
  | none, .firstElement, .closeArray, .array elements :: outer => put outer (.array elements.reverse)
  | none, .separator, .closeArray, .array elements :: outer => put outer (.array elements.reverse)
  | none, .separator, .comma, .array elements :: outer => some ⟨.array elements :: outer, .value, none⟩
  | none, .firstKey, .closeObject, .object members :: outer => put outer (.object members.reverse)
  | none, .separator, .closeObject, .object members :: outer => put outer (.object members.reverse)
  | none, .separator, .comma, .object members :: outer => some ⟨.object members :: outer, .key, none⟩
  | none, .firstKey, .scalar (.string key), .object members :: outer =>
      some ⟨.member members key :: outer, .colon, none⟩
  | none, .key, .scalar (.string key), .object members :: outer =>
      some ⟨.member members key :: outer, .colon, none⟩
  | none, .colon, .colon, stack => some ⟨stack, .value, none⟩
  | none, .value, token, stack | none, .firstElement, token, stack =>
      match token with
      | .scalar value => put stack value
      | .openArray => some ⟨.array [] :: stack, .firstElement, none⟩
      | .openObject => some ⟨.object [] :: stack, .firstKey, none⟩
      | _ => none
  | _, _, _, _ => none

/-- Puts tokens together to one value. -/
def ofTokens? (tokens : List Token) : Option Json := do
  let p ← tokens.foldlM Partial.feed ⟨[], .value, none⟩
  p.result

/-- Reads a JSON text. -/
def parse? (text : String) : Option Json :=
  (scan text.toList).bind ofTokens?

end Json

end PointerOrigins
