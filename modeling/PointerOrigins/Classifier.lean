import PointerOrigins.Allocator
import PointerOrigins.Signature
import PointerOrigins.Mangling
import PointerOrigins.Tracing.Trace
import PointerOrigins.Unicode.Latest

/-!
Kinds of origins.

An origin is *allocating* if it is a known, bounded source of pointers: an allocation, a global, a
function or one of a few constants. All others, such as the parameters of entry points and calls to
unknown functions, deserve a closer look.
-/

namespace PointerOrigins

----------------------------------------------------------------------------------------------
-- Kinds
----------------------------------------------------------------------------------------------

/-- A coarse description of an origin. -/
inductive OriginKind where
  | stack
  /-- A call to a well-known function that allocates or frees. -/
  | allocator (kind : AllocKind)
  /-- A call to a function that a signature describes. -/
  | signature (type : AllocType)
  /-- A call into the C++ standard library. -/
  | stdCall
  | landingPad
  | global
  | function
  | null
  | poison
  | dataArray
  /-- Any other constant. -/
  | constant
  /-- A call to a function without a body. -/
  | externalCall
  /-- A call whose target is not known. -/
  | unresolvedCall
  /-- A parameter that not all calls bind. -/
  | argument
  /-- Any other instruction. -/
  | instruction
deriving DecidableEq, Repr, Inhabited

namespace OriginKind

/-- Whether a kind is a known, bounded source of pointers. -/
def isAllocating : OriginKind → Bool
  | .stack | .allocator _ | .stdCall | .landingPad | .global | .function | .null | .poison
  | .dataArray => true
  | .signature type => type != .top
  | .constant | .externalCall | .unresolvedCall | .argument | .instruction => false

/-- The text of a kind. -/
def text : OriginKind → String
  | .stack => "stack"
  | .allocator kind => "allocator (" ++ kind.name ++ ")"
  | .signature type => "signature (" ++ type.text ++ ")"
  | .stdCall => "std call"
  | .landingPad => "landing pad"
  | .global => "global"
  | .function => "function"
  | .null => "null"
  | .poison => "poison"
  | .dataArray => "data array"
  | .constant => "constant"
  | .externalCall => "external call"
  | .unresolvedCall => "unresolved call"
  | .argument => "argument"
  | .instruction => "instruction"

/-- The key of a kind in a serialized report. -/
def key : OriginKind → String
  | .stack => "stack"
  | .allocator _ => "allocator"
  | .signature _ => "signature"
  | .stdCall => "std_call"
  | .landingPad => "landing_pad"
  | .global => "global"
  | .function => "function"
  | .null => "null"
  | .poison => "poison"
  | .dataArray => "data_array"
  | .constant => "constant"
  | .externalCall => "external_call"
  | .unresolvedCall => "unresolved_call"
  | .argument => "argument"
  | .instruction => "instruction"

/-- What a serialized report says about a kind beside its key. -/
def detail? : OriginKind → Option String
  | .allocator kind => some kind.name
  | .signature type => some type.key
  | _ => none

end OriginKind

----------------------------------------------------------------------------------------------
-- Classification
----------------------------------------------------------------------------------------------

/-- What origins are classified by. -/
structure Classifier where
  signatures : Signatures
  demangler : Demangler

namespace Classifier

/-- A classifier by signatures, which knows the names of C++. -/
def ofSignatures (signatures : Signatures) : Classifier :=
  ⟨signatures, .cpp⟩

/-- A classifier with another demangler. -/
def withDemangler (c : Classifier) (demangler : Demangler) : Classifier :=
  { c with demangler }

/-- A classifier that looks readable names up in a table. -/
def withNames (c : Classifier) (names : List (String × String)) : Classifier :=
  c.withDemangler (.ofNames fun symbol => names.lookup symbol)

/-- The kind of a call to a function: first the well-known functions are asked, then the signatures,
then the readable name.
-/
def symbol (c : Classifier) (symbol : String) : OriginKind :=
  match AllocKind.ofSymbol? symbol with
  | some kind => .allocator kind
  | none =>
      match c.signatures.returnAlloc? symbol with
      | some type => .signature type
      | none => if c.demangler.isStd symbol then .stdCall else .externalCall

/-- The kind of a call. -/
def call (c : Classifier) (callee : Callee) : OriginKind :=
  match callee.direct? with
  | some target => c.symbol target.symbol
  | none => .unresolvedCall

/-- The kind of a constant. -/
def constant : Constant → OriginKind
  | .function _ => .function
  | .global _ => .global
  | .null => .null
  | .poison => .poison
  | .data _ => .dataArray
  | _ => .constant

/-- The kind of what a definition defines. -/
def definition (c : Classifier) : Option Definition → OriginKind
  | some (.instruction (.alloca _)) => .stack
  | some (.instruction .landingPad) => .landingPad
  | some (.instruction (.call call)) => c.call call.callee
  | some (.terminator (.invoke call)) => c.call call.callee
  | _ => .instruction

/-- The kind of an origin. -/
def classify (c : Classifier) (g : Graph) : Operand → OriginKind
  | .constant value => constant value
  | .metadata => .constant
  | .parameter _ => .argument
  | .instruction i => c.definition (g.definition? i)

end Classifier

----------------------------------------------------------------------------------------------
-- Description
----------------------------------------------------------------------------------------------

/-- Whether a character is written as it is in a quoted text. -/
def isPrintable (c : Char) : Bool :=
  c = ' ' || !(["Cc", "Cf", "Cs", "Co", "Cn", "Zl", "Zp", "Zs"].contains (Unicode.latestCategory c.toNat))

/-- Whether a character is drawn on the one before it. The letters that extend a grapheme have a width of
their own.
-/
def isCombining (c : Char) : Bool :=
  Unicode.latestGraphemeExtend.any (fun r => r.contains c.toNat) &&
    Unicode.latestCategory c.toNat != "Lm"

/-- A character in a quoted text. -/
def quoteChar (c : Char) : String :=
  match c with
  | '"' => "\\\""
  | '\\' => "\\\\"
  | '\n' => "\\n"
  | '\r' => "\\r"
  | '\t' => "\\t"
  | '\x00' => "\\0"
  | c =>
      if isPrintable c && !isCombining c then c.toString
      else "\\u\x7b" ++ String.ofList (Nat.toDigits 16 c.toNat) ++ "\x7d"

/-- A text in quotes. -/
def quoted (text : String) : String :=
  "\"" ++ String.join (text.toList.map quoteChar) ++ "\""

/-- A signature in a description. -/
def Signature.description : Signature → String
  | .returnAlloc type => "ReturnAlloc \x7b type: " ++ type.text ++ " \x7d"

/-- The signatures of each pattern in a description. -/
def SignatureMap.description (m : SignatureMap) : String :=
  ", ".intercalate (m.entries.map fun (source, signatures) =>
    quoted source ++ ": [" ++ ", ".intercalate (signatures.map Signature.description) ++ "]")

/-- A description of signatures: the map, the patterns, and the patterns once more as a set. -/
def Signatures.description (s : Signatures) : String :=
  let patterns := "[" ++ ", ".intercalate (s.sources.map quoted) ++ "]"
  "Signatures \x7b sigs: \x7b" ++ s.map.description ++
    "\x7d, regexes: " ++ patterns ++ ", set: RegexSet(" ++ patterns ++ ") \x7d"

/-- A description of a classifier, for debugging. -/
def Classifier.description (c : Classifier) : String :=
  "Classifier \x7b signatures: " ++ c.signatures.description ++ ", .. \x7d"

end PointerOrigins
