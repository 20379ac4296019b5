import PointerOrigins.Mangling.Node

/-!
Reading mangled names.

The grammar is given by one rule per kind of part. Rules refer to each other through a parameter, and
`parse` ties them together: each use of a rule goes one level deeper, and there is a greatest depth.
A name is read byte by byte. What it may refer back to is kept in a table, also when the alternative
that put it there fails.
-/

namespace PointerOrigins.Mangling

----------------------------------------------------------------------------------------------
-- Parsers
----------------------------------------------------------------------------------------------

/-- What is kept while a name is read. -/
structure Memory where
  /-- The parts that can be referred back to. -/
  table : Array Node
  /-- The number of the next list of template arguments. -/
  nextId : Nat
  /-- Whether the type of a conversion is being read. -/
  inConversion : Bool
deriving Inhabited

/-- What a parser comes to. -/
inductive Outcome (α : Type) where
  | done (value : α) (rest : List Char)
  | failed
  /-- The name nests too deeply. No other alternative is tried. -/
  | tooDeep
deriving Inhabited

/-- A parser. -/
def Parser (α : Type) : Type :=
  List Char → Memory → Outcome α × Memory

namespace Parser

/-- Reads nothing. -/
def pure {α : Type} (value : α) : Parser α :=
  fun cs m => (.done value cs, m)

/-- Reads one thing after the other. -/
def bind {α β : Type} (p : Parser α) (f : α → Parser β) : Parser β :=
  fun cs m =>
    match p cs m with
    | (.done value rest, m) => f value rest m
    | (.failed, m) => (.failed, m)
    | (.tooDeep, m) => (.tooDeep, m)

instance : Monad Parser where
  pure := Parser.pure
  bind := Parser.bind

/-- Fails. -/
def fail {α : Type} : Parser α :=
  fun _ m => (.failed, m)

/-- Reads something that may be missing. -/
def optional {α : Type} (p : Parser α) : Parser (Option α) :=
  fun cs m =>
    match p cs m with
    | (.done value rest, m) => (.done (some value) rest, m)
    | (.failed, m) => (.done none cs, m)
    | (.tooDeep, m) => (.tooDeep, m)

/-- Reads the second if the first fails. -/
def orElse {α : Type} (p : Parser α) (q : Parser α) : Parser α :=
  fun cs m =>
    match p cs m with
    | (.failed, m) => q cs m
    | result => result

/-- Reads things until one fails. Each takes a character, so that the length of the text bounds them. -/
def many {α : Type} (p : Parser α) : Parser (List α) :=
  fun cs m => go (cs.length + 1) [] cs m
where
  /-- Reads more, after some that have been read. -/
  go : Nat → List α → Parser (List α)
    | 0, read => fun cs m => (.done read.reverse cs, m)
    | bound + 1, read => fun cs m =>
        match p cs m with
        | (.done value rest, m) => go bound (value :: read) rest m
        | (.failed, m) => (.done read.reverse cs, m)
        | (.tooDeep, m) => (.tooDeep, m)

/-- Reads at least one thing. -/
def many1 {α : Type} (p : Parser α) : Parser (List α) := do
  let first ← p
  let rest ← many p
  return first :: rest

/-- What has not been read yet. -/
def remaining : Parser (List Char) :=
  fun cs m => (.done cs cs, m)

/-- The next character. -/
def peek : Parser (Option Char) :=
  fun cs m => (.done cs.head? cs, m)

/-- Goes on with another text. -/
def setRemaining (cs : List Char) : Parser Unit :=
  fun _ m => (.done () cs, m)

/-- Reads a given text. -/
def token (text : String) : Parser Unit := do
  let cs ← remaining
  if text.toList.isPrefixOf cs then setRemaining (cs.drop text.toList.length) else fail

/-- Reads a given text, if it is there. -/
def has (text : String) : Parser Bool := do
  let found ← optional (token text)
  return found.isSome

/-- Reads one of two texts, if it is there. -/
def hasEither (first second : String) : Parser Bool := do
  if ← has first then return true else has second

/-- Reads any character. -/
def any : Parser Char := do
  match ← remaining with
  | c :: rest => setRemaining rest; return c
  | [] => fail

/-- Fails unless a condition holds. -/
def guard (condition : Bool) : Parser Unit :=
  if condition then Parser.pure () else fail

/-- Keeps a part in the table. -/
def record (node : Node) : Parser Node :=
  fun cs m => (.done node cs, { m with table := m.table.push node })

/-- The part of the table with a number. -/
def backReference (index : Nat) : Parser Node :=
  fun cs m =>
    match m.table[index]? with
    | some node => (.done node cs, m)
    | none => (.failed, m)

/-- A number for a list of template arguments. -/
def freshId : Parser Nat :=
  fun cs m => (.done m.nextId cs, { m with nextId := m.nextId + 1 })

/-- Whether the type of a conversion is being read. -/
def inConversion : Parser Bool :=
  fun cs m => (.done m.inConversion cs, m)

/-- Reads something as the type of a conversion, or not. -/
def withConversion {α : Type} (flag : Bool) (p : Parser α) : Parser α :=
  fun cs m =>
    let (outcome, after) := p cs { m with inConversion := flag }
    (outcome, { after with inConversion := m.inConversion })

/-- Fails for good unless so many levels are left. -/
def levels (left needed : Nat) : Parser Unit :=
  fun cs m => if needed ≤ left then (.done () cs, m) else (.tooDeep, m)

end Parser

open PointerOrigins.Mangling.Parser

----------------------------------------------------------------------------------------------
-- Numbers and identifiers
----------------------------------------------------------------------------------------------

/-- The value of a digit; digits beyond nine are capital letters. -/
def digit? (base : Nat) (c : Char) : Option Nat :=
  let value :=
    if c.isDigit then some (c.toNat - 48)
    else if 'A' ≤ c ∧ c ≤ 'Z' then some (c.toNat - 55)
    else none
  value.filter (· < base)

/-- The greatest number that is accepted. -/
def maxNumber : Nat := 9223372036854775807

/-- Reads a number. It has no leading zeros and is not too great. -/
def number (base : Nat) : Parser Nat := do
  let cs ← remaining
  let digits := cs.takeWhile fun c => (digit? base c).isSome
  guard (!digits.isEmpty && (digits.length = 1 || digits.head? != some '0'))
  let value := digits.foldl (fun n c => base * n + (digit? base c).getD 0) 0
  guard (value ≤ maxNumber)
  setRemaining (cs.drop digits.length)
  return value

/-- Reads a number that an `n` makes negative. -/
def signedNumber : Parser Int := do
  if ← has "n" then
    let value ← number 10
    return -value
  else
    let value ← number 10
    return value

/-- Whether a character may stand in an identifier. -/
def isIdentifierChar (c : Char) : Bool :=
  c = '$' || c = '_' || c = '.' || c.isAlphanum

/-- Whether a character may stand in the name of a kind of copy. -/
def isCloneChar (c : Char) : Bool :=
  c = '$' || c = '_' || c.isAlphanum

/-- Reads a copy that a compiler made. -/
def clone : Parser Clone := do
  token "."
  let cs ← remaining
  let kind := cs.takeWhile isCloneChar
  guard (!kind.isEmpty)
  setRemaining (cs.drop kind.length)
  let numbers ← many (do token "."; number 10)
  return ⟨.ofList kind, numbers⟩

/-- Reads qualifiers, of which there may be none. -/
def qualifiers : Parser Qualifiers := do
  let restrict ← has "r"
  let volatile ← has "V"
  let const ← has "K"
  return ⟨restrict, volatile, const⟩

/-- Reads a qualifier of a reference. -/
def refQualifier : Parser RefQualifier :=
  orElse (do token "R"; return .lvalue) (do token "O"; return .rvalue)

/-- Reads what tells apart names that are used twice in one function. -/
def discriminator : Parser Unit := do
  token "_"
  if ← has "_" then
    let value ← number 10
    guard (10 ≤ value)
    token "_"
  else
    let c ← any
    guard c.isDigit

/-- Reads an abbreviation of the standard library. -/
def wellKnown : Parser WellKnown := do
  token "S"
  let c ← any
  match WellKnown.ofCode? c with
  | some part => return part
  | none => fail

/-- Reads how a call finds its object. -/
def callOffset : Parser String := do
  if ← has "h" then
    let offset ← signedNumber
    token "_"
    return "\x7boffset(" ++ toString offset ++ ")\x7d"
  else
    token "v"
    let offset ← signedNumber
    token "_"
    let virtual ← signedNumber
    token "_"
    return "\x7bvirtual offset(" ++ toString offset ++ ", " ++ toString virtual ++ ")\x7d"

/-- The character that an escape in the name of a resource stands for. -/
def escapedChar? : Char → Option Char
  | 'S' => some '/'
  | '_' => some '.'
  | '$' => some '$'
  | _ => none

/-- Reads a stretch of the name of a resource: plain characters and the escape after them. An escape does
not end the name.
-/
def resourcePart : Parser (List Char) := do
  let cs ← remaining
  let plain := cs.takeWhile (· != '$')
  match cs.drop plain.length with
  | [] =>
      guard (!plain.isEmpty)
      setRemaining []
      return plain
  | _ :: code :: next :: rest =>
      match escapedChar? code with
      | some c =>
          setRemaining (next :: rest)
          return plain ++ [c]
      | none => fail
  | _ => fail

/-- The character of a byte, by number. -/
def byteChar (b : UInt8) : Char :=
  Char.ofNat b.toNat

/-- The text that bytes stand for. -/
def decodeBytes (cs : List Char) : Option String :=
  String.fromUTF8? ⟨(cs.map fun c => UInt8.ofNat c.toNat).toArray⟩

----------------------------------------------------------------------------------------------
-- Rules
----------------------------------------------------------------------------------------------

/-- The kinds of parts. -/
inductive Rule where
  | mangledName | encoding | name | templateName | nestedName | scopes | unscopedName | unqualifiedName
  | operatorName | specialMember | sourceName | closure | unnamedType | localName | specialName | type
  | builtin | classType | substitution | functionType | bareFunction | array | vector | memberPointer
  | templateParam | templateTemplate | templateArgs | templateArg | literal | decltype | expression
  | functionParam | unresolvedName | baseUnresolved | simpleId | unresolvedType
  /-- A rule, one level deeper. -/
  | deeper (rule : Rule)
deriving DecidableEq, Repr, Inhabited

/-- How a rule reads the parts that it is made of. -/
abbrev Rules := Rule → Parser Node

/-- A top level name. -/
def mangledName (rules : Rules) (left : Nat) : Parser Node := do
  if ← hasEither "_Z" "__Z" then
    let enc ← rules .encoding
    let copies ← many clone
    return .symbol enc copies
  else if ← hasEither "___Z" "____Z" then
    let enc ← rules .encoding
    token "_block_invoke"
    if ← hasEither "_" "." then
      let _ ← number 10
    else
      let _ ← optional (number 10)
    return .special "invocation function for block in " enc
  else if ← has "_GLOBAL_" then
    levels left 1
    let mark ← any
    guard (mark = '_' || mark = '.' || mark = '$')
    let kind ← any
    guard (kind = 'I' || kind = 'D')
    token "_"
    let name ← rules (.deeper .mangledName)
    return .part .mangledName (.keyed (kind = 'I') name)
  else
    let type ← rules .type
    return .part .mangledName type

/-- A function with what it takes, something with a name, or something special. -/
def encoding (rules : Rules) : Parser Node := do
  match ← optional (rules .name) with
  | some name =>
      match ← optional (rules .bareFunction) with
      | some (.bareFunction types) => return .function name types
      | _ => return .part .encoding name
  | none => return .part .encoding (← rules .specialName)

/-- A name. A template without a scope can be referred back to. -/
def name (rules : Rules) : Parser Node := do
  match ← optional (rules .nestedName) with
  | some name => return .part .name name
  | none =>
      match ← optional (rules .unscopedName) with
      | some name =>
          if (← peek) = some 'I' then
            let base ← record (.part .templateName name)
            let args ← rules .templateArgs
            return .template base args
          else return .part .name name
      | none =>
          match ← optional (rules .templateName) with
          | some base =>
              let args ← rules .templateArgs
              return .template base args
          | none => return .part .name (← rules .localName)

/-- The name of a template without a scope, or one that was named before. -/
def templateName (rules : Rules) : Parser Node := do
  match ← optional (rules .unscopedName) with
  | some name => record (.part .templateName name)
  | none => rules .substitution

/-- Reads for which objects a member function is. -/
def memberForm : Parser MemberForm := do
  if ← has "H" then return ⟨.none, none, true⟩
  else
    let q ← qualifiers
    let ref ← optional refQualifier
    return ⟨q, ref, false⟩

/-- A name in a chain of scopes. -/
def nestedName (rules : Rules) (left : Nat) : Parser Node := do
  token "N"
  levels left 1
  let form ← memberForm
  let chain ← rules .scopes
  token "E"
  match chain with
  | .scoped scope name => return .nested form (some scope) name
  | .part .scope (.unqualified name tags) => return .nested form none (.unqualified name tags)
  | .scopedTemplate _ _ => return .nestedTemplate form chain
  | _ => fail

/-- Keeps a scope, unless the chain of scopes ends with it. -/
def recordScope (node : Node) : Parser Node := do
  if (← peek) = some 'E' then return node else record node

/-- Whether a name may start with a character. -/
def startsUnqualified (c : Char) : Bool :=
  c.isAlphanum

/-- Adds a name to a chain of scopes. -/
def extendScope (scope : Option Node) (name : Node) : Node :=
  match scope with
  | some scope => .scoped scope name
  | none => .part .scope name

/-- Reads tags, of which there may be none. -/
def abiTags (rules : Rules) (left : Nat) : Parser (List Node) := do
  levels left 2
  many (do token "B"; rules (.deeper (.deeper .sourceName)))

/-- The next part of a chain of scopes, if there is one. The rules are those one level below the chain.
-/
def scopeStep (rules : Rules) (left : Nat) (scope : Option Node) : Parser (Option Node) := do
  match ← peek with
  | none | some 'E' => return none
  | some 'S' => return some (← rules .substitution)
  | some 'T' =>
      let param ← rules .templateParam
      return some (← recordScope (.part .scope param))
  | some 'D' =>
      match ← optional (rules .decltype) with
      | some d => return some (← recordScope (.part .scope d))
      | none =>
          let name ← rules .unqualifiedName
          return some (← recordScope (extendScope scope name))
  | some c =>
      match scope with
      | some outer =>
          if c = 'I' then
            let args ← rules .templateArgs
            return some (← recordScope (.scopedTemplate outer args))
          else if c.isDigit then
            let name ← rules .sourceName
            if ← has "M" then return some (← recordScope (.dataMember outer name))
            else
              let tags ← abiTags rules left
              return some (← recordScope (.scoped outer (.unqualified name tags)))
          else if startsUnqualified c then
            let name ← rules .unqualifiedName
            return some (← recordScope (.scoped outer name))
          else return none
      | none =>
          if startsUnqualified c then
            let name ← rules .unqualifiedName
            return some (← recordScope (.part .scope name))
          else return none

/-- A chain of scopes. Each part of it is one level deeper. The length of the text bounds the chain. -/
def scopes (rules : Rules) (left : Nat) : Parser Node :=
  fun cs m => go (cs.length + 1) none cs m
where
  /-- Reads more of the chain. -/
  go : Nat → Option Node → Parser Node
    | 0, _ => fail
    | bound + 1, scope => do
        levels left 1
        match ← scopeStep (fun rule => rules (.deeper rule)) (left - 1) scope with
        | some longer => go bound (some longer)
        | none =>
            match scope with
            | some scope => return scope
            | none => fail

/-- A name outside of all scopes, or in the standard library. -/
def unscopedName (rules : Rules) : Parser Node := do
  if ← has "St" then
    let name ← rules .unqualifiedName
    return .inStd name
  else return .part .unscoped (← rules .unqualifiedName)

/-- The last part of a name. -/
def unqualifiedName (rules : Rules) (left : Nat) : Parser Node := do
  let name ←
    orElse (rules .operatorName) <|
      orElse (rules .specialMember) <| do
        if ← has "L" then
          let name ← rules .sourceName
          let _ ← optional discriminator
          return name
        else orElse (rules .sourceName) (orElse (rules .closure) (rules .unnamedType))
  let tags ← abiTags rules left
  return .unqualified name tags

/-- An operator with a code of its own. -/
def simpleOperator : Parser Node := do
  let first ← any
  let second ← any
  match operators.find? fun op => op.code = String.ofList [first, second] with
  | some op => return .operator op
  | none => fail

/-- The name of an operator. -/
def operatorName (rules : Rules) (left : Nat) : Parser Node := do
  levels left 1
  match ← optional simpleOperator with
  | some op => return op
  | none =>
      if ← has "cv" then
        let type ← withConversion true (rules .type)
        return .conversion type
      else if ← has "li" then
        let name ← rules .sourceName
        return .literalOperator name
      else
        token "v"
        let arity ← any
        guard arity.isDigit
        let name ← rules .sourceName
        return .vendorOperator (arity.toNat - 48) name

/-- A constructor or destructor. -/
def specialMember (rules : Rules) : Parser Node := do
  if ← has "C" then
    let inheriting ← has "I"
    let kind ← any
    guard ("1234".toList.contains kind)
    if inheriting then
      let type ← rules .type
      return .constructorName (some type)
    else return .constructorName none
  else
    token "D"
    let kind ← any
    guard ("0124".toList.contains kind)
    return .destructorName

/-- An identifier with its length before it. -/
def sourceName (left : Nat) : Parser Node := do
  let length ← number 10
  guard (0 < length)
  let cs ← remaining
  let identifier := cs.take length
  guard (identifier.length = length)
  levels left 1
  guard (identifier.all isIdentifierChar)
  setRemaining (cs.drop length)
  return .source (.ofList identifier)

/-- A closure, by what it takes. -/
def closure (rules : Rules) (left : Nat) : Parser Node := do
  token "Ul"
  levels left 1
  let params ← orElse (do token "v"; return []) (many1 (rules (.deeper .type)))
  token "E"
  let index ← optional (number 10)
  token "_"
  return .closure params index

/-- A type without a name. -/
def unnamedType : Parser Node := do
  token "Ut"
  let index ← optional (number 10)
  token "_"
  return .unnamedType index

/-- A name within a function. -/
def localName (rules : Rules) : Parser Node := do
  token "Z"
  let function ← rules .encoding
  token "E"
  if ← has "s" then
    let _ ← optional discriminator
    return .localString function
  else if ← has "d" then
    let _ ← optional signedNumber
    token "_"
    let name ← rules .name
    return .defaultArg function name
  else
    let name ← rules .name
    let _ ← optional discriminator
    return .localName function name

/-- The name of a resource, after its code. -/
def resource : Parser Node := do
  let length ← number 10
  let cs ← remaining
  guard (0 < length && length ≤ cs.length)
  setRemaining (cs.take length)
  token "_"
  let parts ← many resourcePart
  guard (← remaining).isEmpty
  setRemaining (cs.drop length)
  return .resource (.ofList parts.flatten)

/-- Something that a compiler makes beside a name. -/
def specialName (rules : Rules) : Parser Node := do
  let cs ← remaining
  match cs with
  | 'T' :: c :: rest =>
      let skip := setRemaining rest
      match c with
      | 'V' => skip; return .specialBraced "vtable" (← rules .type)
      | 'T' => skip; return .specialBraced "vtt" (← rules .type)
      | 'I' => skip; return .special "typeinfo for " (← rules .type)
      | 'S' => skip; return .special "typeinfo name for " (← rules .type)
      | 'F' => skip; return .special "typeinfo fn for " (← rules .type)
      | 'H' => skip; return .special "TLS init function for " (← rules .name)
      | 'W' => skip; return .special "TLS wrapper function for " (← rules .name)
      | 'C' =>
          skip
          let of ← rules .type
          let _ ← number 10
          token "_"
          return .constructionTable of (← rules .type)
      | 'c' =>
          skip
          let first ← callOffset
          let second ← callOffset
          return .thunk [first, second] (← rules .encoding)
      | _ =>
          setRemaining (c :: rest)
          let offset ← callOffset
          return .thunk [offset] (← rules .encoding)
  | 'G' :: c :: rest =>
      setRemaining rest
      match c with
      | 'V' => return .special "guard variable for " (← rules .name)
      | 'R' =>
          let name ← rules .name
          let index ← optional (number 36)
          token "_"
          return .special ("reference temporary #" ++ toString (index.elim 0 (· + 1)) ++ " for ") name
      | 'r' => resource
      | 'T' =>
          let kind ← any
          let enc ← rules .encoding
          return .special (if kind = 'n' then "non-transaction clone for " else "transaction clone for ") enc
      | _ => fail
  | _ => fail

/-- Reads a type with a code of its own. -/
def standardBuiltin : Parser Node := do
  let cs ← remaining
  match builtins.find? fun (code, _) => code.toList.isPrefixOf cs with
  | some (code, name) =>
      setRemaining (cs.drop code.toList.length)
      return .builtin name
  | none => fail

/-- The sizes of numbers with a fixed point. -/
def fixedPointSizes : List (Char × String) :=
  [ ('s', "short "), ('t', "unsigned short "), ('i', ""), ('j', "unsigned "), ('l', "long "),
    ('m', "unsigned long ") ]

/-- Reads the type of a number with a fixed point. -/
def fixedPoint : Parser Node := do
  let saturated ← has "DS"
  let word ← orElse (do token "DA"; return "_Accum") (do token "DR"; return "_Fract")
  match fixedPointSizes.lookup (← any) with
  | some size => return .builtin ((if saturated then "_Sat " else "") ++ size ++ word)
  | none => fail

/-- Reads the type of a number with a given number of bits. -/
def sizedBuiltin (rules : Rules) : Parser Node := do
  if ← has "DF" then
    let width ← number 10
    if ← has "x" then return .builtin ("_Float" ++ toString width ++ "x")
    else if ← has "b" then return .builtin "std::bfloat16_t"
    else
      token "_"
      return .builtin ("_Float" ++ toString width)
  else
    let isSigned ← orElse (do token "DB"; return true) (do token "DU"; return false)
    match ← optional (rules (.deeper .expression)) with
    | some width => return .bitInt isSigned width
    | none =>
        let width ← number 10
        token "_"
        return .builtin ((if isSigned then "signed" else "unsigned") ++ " _BitInt(" ++ toString width ++ ")")

/-- A type that is built in. -/
def builtin (rules : Rules) (left : Nat) : Parser Node := do
  levels left 1
  orElse standardBuiltin <|
    orElse fixedPoint <|
      orElse (sizedBuiltin rules) <| do
        token "u"
        let name ← rules .sourceName
        return .vendorType name

/-- A class, union or enumeration. -/
def classType (rules : Rules) : Parser Node := do
  match ← optional (rules .name) with
  | some name => return .part .classType name
  | none =>
      token "T"
      if ← has "s" then return .elaborated "class " (← rules .name)
      else if ← has "u" then return .elaborated "union " (← rules .name)
      else
        token "e"
        return .elaborated "enum " (← rules .name)

/-- Something that was named before. -/
def substitution (left : Nat) : Parser Node := do
  levels left 1
  match ← optional wellKnown with
  | some known => return .wellKnown known
  | none =>
      token "S"
      let index ← optional (number 36)
      let node ← backReference (index.elim 0 (· + 1))
      token "_"
      return node

/-- An exception specification. -/
def throws (rules : Rules) : Parser (Throws Node) := do
  if ← has "Do" then return .nothing
  else
    token "DO"
    let condition ← rules (.deeper .expression)
    token "E"
    return .computed condition

/-- The type of a function. -/
def functionType (rules : Rules) (left : Nat) : Parser Node := do
  levels left 1
  let q ← qualifiers
  let throwing ← optional (throws rules)
  let _ ← has "Dx"
  token "F"
  let _ ← has "Y"
  match ← rules .bareFunction with
  | .bareFunction types =>
      let ref ← optional refQualifier
      token "E"
      return .functionType q (throwing.getD .anything) ref types
  | _ => fail

/-- What a function returns and takes. -/
def bareFunction (rules : Rules) : Parser Node := do
  let types ← many1 (rules .type)
  return .bareFunction types

/-- An array type. -/
def array (rules : Rules) : Parser Node := do
  token "A"
  match ← optional (number 10) with
  | some count =>
      token "_"
      return .array (.count count) (← rules .type)
  | none =>
      match ← optional (rules .expression) with
      | some size =>
          token "_"
          return .array (.computed size) (← rules .type)
      | none =>
          token "_"
          return .array .unknown (← rules .type)

/-- A vector type. -/
def vector (rules : Rules) : Parser Node := do
  token "Dv"
  match ← optional (number 10) with
  | some count =>
      token "_"
      return .vector (.count count) (← rules .type)
  | none =>
      let size ← rules .expression
      token "_"
      return .vector (.computed size) (← rules .type)

/-- A pointer to a member. -/
def memberPointer (rules : Rules) : Parser Node := do
  token "M"
  let object ← rules .type
  let member ← rules .type
  return .memberPointer object member

/-- A parameter of a template. -/
def templateParam : Parser Node := do
  token "T"
  match ← optional (number 10) with
  | some index => token "_"; return .templateParam (index + 1)
  | none => token "_"; return .templateParam 0

/-- A template that is itself a parameter or was named before. -/
def templateTemplate (rules : Rules) : Parser Node := do
  match ← optional (rules .substitution) with
  | some base => return base
  | none => record (.part .templateTemplate (← rules .templateParam))

/-- Template arguments. There is at least one. -/
def templateArgs (rules : Rules) : Parser Node := do
  token "I"
  let id ← freshId
  let args ← many1 (rules .templateArg)
  token "E"
  return .templateArgs id args

/-- A template argument. -/
def templateArg (rules : Rules) : Parser Node := do
  if ← has "X" then
    let e ← rules .expression
    token "E"
    return .part .arg e
  else
    match ← optional (orElse (rules .literal) (rules .type)) with
    | some arg => return .part .arg arg
    | none =>
        if !(← has "J") then token "I"
        let args ← many (rules .templateArg)
        token "E"
        return .argPack args

/-- A type made of another one by a letter. -/
def compoundType (rules : Rules) : Parser Node := do
  match ← any with
  | 'P' => return .pointer (← rules .type)
  | 'R' => return .lvalueRef (← rules .type)
  | 'O' => return .rvalueRef (← rules .type)
  | 'C' => return .complex (← rules .type)
  | 'G' => return .imaginary (← rules .type)
  | 'U' =>
      let name ← rules .sourceName
      let args ← optional (rules .templateArgs)
      return .vendorQualified name args (← rules .type)
  | 'D' =>
      token "p"
      return .packExpansion (← rules .type)
  | _ => fail

/-- A template with its arguments, or a type with qualifiers or made of another one. -/
def otherType (rules : Rules) (left : Nat) : Parser Node := do
  match ← optional (rules .templateTemplate) with
  | some base =>
      let args ← rules .templateArgs
      record (.templateType base args)
  | none =>
      match ← optional (rules .decltype) with
      | some type => record (.part .type type)
      | none =>
          levels left 1
          let q ← qualifiers
          if !q.isEmpty then
            let type ← rules .type
            record (.qualified q type)
          else record (← compoundType rules)

/-- Whether the template arguments that follow belong to the type of a conversion: this is so if more
template arguments follow after them.
-/
def argsAreOwn (rules : Rules) : Parser Bool :=
  fun cs m =>
    match rules .templateArgs cs { m with inConversion := false } with
    | (.done _ rest, _) => (.done (rest.head? = some 'I') cs, m)
    | (.failed, _) => (.done false cs, m)
    | (.tooDeep, _) => (.tooDeep, m)

/-- A type. All but the built-in ones can be referred back to. A type that starts with `U` is one with a
qualifier of a vendor.
-/
def type (rules : Rules) (left : Nat) : Parser Node := do
  match ← optional (rules .builtin) with
  | some type => return type
  | none =>
  match ← optional (do
      guard ((← peek) != some 'U')
      rules .classType) with
  | some type => record (.part .type type)
  | none =>
  match ← optional (do
      let known ← rules .substitution
      guard ((← peek) != some 'I')
      return known) with
  | some type => return type
  | none =>
  match ← optional (orElse (rules .functionType)
      (orElse (rules .array) (orElse (rules .vector) (rules .memberPointer)))) with
  | some type => record (.part .type type)
  | none =>
  match ← optional (do
      let param ← rules .templateParam
      if (← peek) = some 'I' then
        guard (← inConversion)
        guard (!(← argsAreOwn rules))
      return param) with
  | some param => record (.part .type param)
  | none => otherType rules left

/-- A literal, or a name as a value. -/
def literal (rules : Rules) : Parser Node := do
  token "L"
  match ← optional (rules .type) with
  | some type =>
      let cs ← remaining
      let digits := cs.takeWhile (· != 'E')
      setRemaining (cs.drop digits.length)
      token "E"
      match decodeBytes digits with
      | some digits => return .literal type digits
      | none => fail
  | none =>
      let name ← rules .mangledName
      token "E"
      return .external name

/-- The type of an expression. -/
def decltype (rules : Rules) : Parser Node := do
  token "D"
  if !(← has "t") then token "T"
  let e ← rules .expression
  token "E"
  return .decltype e

/-- A parameter of the function at hand. -/
def functionParam (left : Nat) : Parser Node := do
  token "f"
  if ← has "L" then
    let _ ← number 10
  token "p"
  if ← has "T" then return .functionParam none
  else
    levels left 1
    let _ ← qualifiers
    match ← optional (number 10) with
    | some index => token "_"; return .functionParam (some (index + 1))
    | none => token "_"; return .functionParam (some 0)

/-- A name with template arguments if there are any. -/
def simpleId (rules : Rules) : Parser Node := do
  let name ← rules .sourceName
  let args ← optional (rules .templateArgs)
  return .applied name args

/-- A type whose members cannot be looked up. -/
def unresolvedType (rules : Rules) : Parser Node := do
  match ← optional (rules .templateParam) with
  | some param =>
      let args ← optional (rules .templateArgs)
      record (.applied param args)
  | none =>
      match ← optional (rules .decltype) with
      | some type => record (.part .unresolved type)
      | none => rules .substitution

/-- The last part of a name that cannot be looked up. -/
def baseUnresolved (rules : Rules) (left : Nat) : Parser Node := do
  match ← optional (rules .simpleId) with
  | some name => return .part .unresolved name
  | none =>
      if ← has "on" then
        let op ← rules .operatorName
        let args ← optional (rules .templateArgs)
        return .applied op args
      else
        token "dn"
        levels left 1
        let name ← orElse (rules (.deeper .unresolvedType)) (rules (.deeper .simpleId))
        return .part .unresolved (.destructorOf name)

/-- The scopes of a name that cannot be looked up. -/
def unresolvedScopes (rules : Rules) (left : Nat) : Parser (List Node) := do
  levels left 1
  let scopes ← many1 (rules (.deeper .simpleId))
  token "E"
  return scopes.map (.part .unresolved)

/-- A member of a type that starts with something known. -/
def knownMember (rules : Rules) : Parser Node := do
  guard ((← peek) = some 'S')
  let type ← rules .type
  return .qualifiedName false [type] (← rules .baseUnresolved)

/-- A name that cannot be looked up. -/
def unresolvedName (rules : Rules) (left : Nat) : Parser Node := do
  if ← has "gs" then
    match ← optional (rules .baseUnresolved) with
    | some name => return .globalName name
    | none =>
        token "sr"
        let scopes ← unresolvedScopes rules left
        return .qualifiedName true scopes (← rules .baseUnresolved)
  else
    match ← optional (rules .baseUnresolved) with
    | some name => return .part .unresolved name
    | none =>
        token "sr"
        if ← has "N" then
          let type ← rules .unresolvedType
          let scopes ← unresolvedScopes rules left
          return .qualifiedName false (type :: scopes) (← rules .baseUnresolved)
        else
          match ← optional (knownMember rules) with
          | some name => return name
          | none =>
              match ← optional (rules .unresolvedType) with
              | some type => return .qualifiedName false [type] (← rules .baseUnresolved)
              | none =>
                  let scopes ← unresolvedScopes rules left
                  return .qualifiedName false scopes (← rules .baseUnresolved)

/-- The name of a member, with template arguments if there are any. -/
def memberName (rules : Rules) (left : Nat) : Parser Node := do
  levels left 1
  let name ← rules (.deeper .unqualifiedName)
  match ← optional (rules (.deeper .templateArgs)) with
  | some args => return .memberName (.template (.part .templateName (.part .unscoped name)) args)
  | none => return .memberName (.part .name (.part .unscoped name))

/-- An expression made by an operator of its arity. -/
def operation (rules : Rules) : Parser Node := do
  let op ← rules .operatorName
  let arity := match op with
    | .operator op => op.arity
    | .vendorOperator arity _ => arity
    | _ => 1
  match arity with
  | 1 => return .unary op (← rules .expression)
  | 2 =>
      let left ← rules .expression
      return .binary op left (← rules .expression)
  | 3 =>
      let first ← rules .expression
      let second ← rules .expression
      return .ternary op first second (← rules .expression)
  | _ => fail

/-- An expression that makes new objects, after its code. -/
def allocation (rules : Rules) (left : Nat) (isGlobal isArray : Bool) : Parser Node := do
  let placement ← many (rules .expression)
  token "_"
  let type ← rules .type
  if ← has "E" then return .allocate isGlobal isArray placement type none
  else
    levels left 1
    token "pi"
    let init ← many (rules (.deeper .expression))
    token "E"
    return .allocate isGlobal isArray placement type (some init)

/-- An expression whose code has two letters, after the code. -/
def codedExpr (rules : Rules) (left : Nat) (code : String) : Option (Parser Node) :=
  let expr := rules .expression
  match code with
  | "cl" => some do
      let function ← expr
      let args ← many expr
      token "E"
      return .call function args
  | "cv" => some do
      let type ← rules .type
      if ← has "_" then
        let args ← many expr
        token "E"
        return .construct type args
      else return .convert type (← expr)
  | "tl" => some do
      let type ← rules .type
      let args ← many expr
      token "E"
      return .braced type args
  | "il" => some do
      let e ← expr
      token "E"
      return .initList e
  | "dc" => some do let type ← rules .type; return .cast "dynamic_cast" type (← expr)
  | "sc" => some do let type ← rules .type; return .cast "static_cast" type (← expr)
  | "cc" => some do let type ← rules .type; return .cast "const_cast" type (← expr)
  | "rc" => some do let type ← rules .type; return .cast "reinterpret_cast" type (← expr)
  | "ti" => some do return .query "typeid (" (← rules .type)
  | "te" => some do return .query "typeid (" (← expr)
  | "st" => some do return .query "sizeof (" (← rules .type)
  | "sz" => some do return .query "sizeof (" (← expr)
  | "at" => some do return .query "alignof (" (← rules .type)
  | "az" => some do return .query "alignof (" (← expr)
  | "nx" => some do return .query "noexcept (" (← expr)
  | "so" => some do
      let type ← rules .type
      let e ← expr
      let offset ← optional signedNumber
      token "E"
      return .part .expression (.subobject type e (offset.getD 0))
  | "dt" => some do let e ← expr; return .member "." e (← memberName rules left)
  | "pt" => some do let e ← expr; return .member "->" e (← memberName rules left)
  | "ds" => some do let e ← expr; return .memberValue e (← expr)
  | "sZ" => some do return .query "sizeof...(" (← orElse (rules .templateParam) (rules .functionParam))
  | "sP" => some do
      let args ← many (rules .templateArg)
      token "E"
      return .queryPack args
  | "sp" => some do return .expandExpr (← expr)
  | "tw" => some do return .prefixed "throw " (← expr)
  | "tr" => some do return .rethrow
  | _ => none

/-- An expression that makes or deletes objects, after its scope. -/
def lifetimeExpr (rules : Rules) (left : Nat) (isGlobal : Bool) : Parser Node := do
  let start := if isGlobal then "::" else ""
  if ← has "nw" then allocation rules left isGlobal false
  else if ← has "na" then allocation rules left isGlobal true
  else if ← has "dl" then return .prefixed (start ++ "delete ") (← rules .expression)
  else
    token "da"
    return .prefixed (start ++ "delete[] ") (← rules .expression)

/-- An expression that is a single parameter, name or literal. -/
def atomExpr (rules : Rules) : Parser Node := do
  let atom ←
    orElse (rules .templateParam) <|
      orElse (rules .functionParam) (orElse (rules .unresolvedName) (rules .literal))
  return .part .expression atom

/-- An expression. -/
def expression (rules : Rules) (left : Nat) : Parser Node := do
  if ← has "pp_" then return .prefixed "++" (← rules .expression)
  else if ← has "mm_" then return .prefixed "--" (← rules .expression)
  else
    let cs ← remaining
    match codedExpr rules left (.ofList (cs.take 2)) with
    | some p => setRemaining (cs.drop 2); p
    | none =>
        orElse (do token "gs"; lifetimeExpr rules left true) <|
          orElse (lifetimeExpr rules left false) <|
            orElse (atomExpr rules) (operation rules)

/-- What each rule reads, with so many levels left below it. -/
def production (rules : Rules) (left : Nat) : Rules
  | .mangledName => mangledName rules left
  | .encoding => encoding rules
  | .name => name rules
  | .templateName => templateName rules
  | .nestedName => nestedName rules left
  | .scopes => scopes rules left
  | .unscopedName => unscopedName rules
  | .unqualifiedName => unqualifiedName rules left
  | .operatorName => operatorName rules left
  | .specialMember => specialMember rules
  | .sourceName => sourceName left
  | .closure => closure rules left
  | .unnamedType => unnamedType
  | .localName => localName rules
  | .specialName => specialName rules
  | .type => type rules left
  | .builtin => builtin rules left
  | .classType => classType rules
  | .substitution => substitution left
  | .functionType => functionType rules left
  | .bareFunction => bareFunction rules
  | .array => array rules
  | .vector => vector rules
  | .memberPointer => memberPointer rules
  | .templateParam => templateParam
  | .templateTemplate => templateTemplate rules
  | .templateArgs => templateArgs rules
  | .templateArg => templateArg rules
  | .literal => literal rules
  | .decltype => decltype rules
  | .expression => expression rules left
  | .functionParam => functionParam left
  | .unresolvedName => unresolvedName rules left
  | .baseUnresolved => baseUnresolved rules left
  | .simpleId => simpleId rules
  | .unresolvedType => unresolvedType rules
  | .deeper rule => rules rule

/-- Reads a part with so many levels left. -/
def parse : Nat → Rules
  | 0, _ => fun _ m => (.tooDeep, m)
  | left + 1, rule => production (parse left) left rule

/-- The greatest depth of a mangled name. -/
def maxLevels : Nat := 95

/-- Reads a mangled name, or a type. The whole text has to be read. -/
def Node.parse? (text : String) : Option Node :=
  match parse maxLevels .mangledName (text.toUTF8.toList.map byteChar) ⟨#[], 0, false⟩ with
  | (.done node [], _) => some node
  | _ => none

end PointerOrigins.Mangling
