/-!
The tree of a mangled C++ name.

One type holds names, types, template arguments and expressions, since a mangled name may refer back
to any of them.
-/

namespace PointerOrigins.Mangling

/-- The qualifiers of a type or member function. -/
structure Qualifiers where
  restrict : Bool
  volatile : Bool
  const : Bool
deriving DecidableEq, Repr, Inhabited

namespace Qualifiers

/-- No qualifiers. -/
def none : Qualifiers :=
  ⟨false, false, false⟩

/-- Whether there are no qualifiers. -/
def isEmpty (q : Qualifiers) : Bool :=
  !q.restrict && !q.volatile && !q.const

/-- The words of the qualifiers. -/
def words (q : Qualifiers) : List String :=
  (if q.const then ["const"] else []) ++ (if q.volatile then ["volatile"] else []) ++
    (if q.restrict then ["restrict"] else [])

end Qualifiers

/-- A member function or function type for one kind of value only. -/
inductive RefQualifier where
  | lvalue
  | rvalue
deriving DecidableEq, Repr, Inhabited

/-- The text of a reference. -/
def RefQualifier.text : RefQualifier → String
  | .lvalue => "&"
  | .rvalue => "&&"

/-- The parts of the standard library that have an abbreviation. -/
inductive WellKnown where
  | std
  | allocator
  | basicString
  | string
  | istream
  | ostream
  | iostream
deriving DecidableEq, Repr, Inhabited

namespace WellKnown

/-- The full name. -/
def text : WellKnown → String
  | .std => "std"
  | .allocator => "std::allocator"
  | .basicString => "std::basic_string"
  | .string => "std::string"
  | .istream => "std::basic_istream<char, std::char_traits<char> >"
  | .ostream => "std::ostream"
  | .iostream => "std::basic_iostream<char, std::char_traits<char> >"

/-- The name that a constructor has. -/
def leafText? : WellKnown → Option String
  | .std => none
  | .allocator => some "allocator"
  | .basicString => some "basic_string"
  | .string => some "string"
  | .istream => some "basic_istream"
  | .ostream => some "ostream"
  | .iostream => some "basic_iostream"

/-- The part with an abbreviation. -/
def ofCode? : Char → Option WellKnown
  | 't' => some .std
  | 'a' => some .allocator
  | 'b' => some .basicString
  | 's' => some .string
  | 'i' => some .istream
  | 'o' => some .ostream
  | 'd' => some .iostream
  | _ => none

end WellKnown

/-- An operator. -/
structure Operator where
  code : String
  text : String
  arity : Nat
deriving DecidableEq, Repr, Inhabited

/-- The operators. -/
def operators : List Operator :=
  [ ⟨"nw", "new", 3⟩, ⟨"na", "new[]", 3⟩, ⟨"dl", "delete", 1⟩, ⟨"da", "delete[]", 1⟩,
    ⟨"ps", "+", 1⟩, ⟨"ng", "-", 1⟩, ⟨"ad", "&", 1⟩, ⟨"de", "*", 1⟩, ⟨"co", "~", 1⟩,
    ⟨"pl", "+", 2⟩, ⟨"mi", "-", 2⟩, ⟨"ml", "*", 2⟩, ⟨"dv", "/", 2⟩, ⟨"rm", "%", 2⟩,
    ⟨"an", "&", 2⟩, ⟨"or", "|", 2⟩, ⟨"eo", "^", 2⟩, ⟨"aS", "=", 2⟩, ⟨"pL", "+=", 2⟩,
    ⟨"mI", "-=", 2⟩, ⟨"mL", "*=", 2⟩, ⟨"dV", "/=", 2⟩, ⟨"rM", "%=", 2⟩, ⟨"aN", "&=", 2⟩,
    ⟨"oR", "|=", 2⟩, ⟨"eO", "^=", 2⟩, ⟨"ls", "<<", 2⟩, ⟨"rs", ">>", 2⟩, ⟨"lS", "<<=", 2⟩,
    ⟨"rS", ">>=", 2⟩, ⟨"eq", "==", 2⟩, ⟨"ne", "!=", 2⟩, ⟨"lt", "<", 2⟩, ⟨"gt", ">", 2⟩,
    ⟨"le", "<=", 2⟩, ⟨"ge", ">=", 2⟩, ⟨"ss", "<=>", 2⟩, ⟨"nt", "!", 1⟩, ⟨"aa", "&&", 2⟩,
    ⟨"oo", "||", 2⟩, ⟨"pp", "++", 1⟩, ⟨"mm", "--", 1⟩, ⟨"cm", ",", 2⟩, ⟨"pm", "->*", 2⟩,
    ⟨"pt", "->", 2⟩, ⟨"cl", "()", 2⟩, ⟨"ix", "[]", 2⟩, ⟨"qu", "?:", 3⟩ ]

/-- The types with a letter of their own. -/
def builtins : List (String × String) :=
  [ ("v", "void"), ("w", "wchar_t"), ("b", "bool"), ("c", "char"), ("a", "signed char"),
    ("h", "unsigned char"), ("s", "short"), ("t", "unsigned short"), ("i", "int"),
    ("j", "unsigned int"), ("l", "long"), ("m", "unsigned long"), ("x", "long long"),
    ("y", "unsigned long long"), ("n", "__int128"), ("o", "unsigned __int128"), ("f", "float"),
    ("d", "double"), ("e", "long double"), ("g", "__float128"), ("z", "..."),
    ("Dd", "decimal64"), ("De", "decimal128"), ("Df", "decimal32"), ("Dh", "half"),
    ("Di", "char32_t"), ("Ds", "char16_t"), ("Du", "char8_t"), ("Da", "auto"),
    ("Dc", "decltype(auto)"), ("Dn", "std::nullptr_t") ]

/-- The exception specification of a function type. -/
inductive Throws (α : Type) where
  | anything
  | nothing
  | computed (condition : α)
deriving Repr, Inhabited

/-- For which objects a member function is. -/
structure MemberForm where
  qualifiers : Qualifiers
  ref : Option RefQualifier
  /-- Whether the object is a parameter like the others. -/
  explicitObject : Bool
deriving DecidableEq, Repr, Inhabited

/-- How long an array or vector is. -/
inductive Extent (α : Type) where
  | count (n : Nat)
  | computed (size : α)
  | unknown
deriving Repr, Inhabited

/-- A copy of a function that a compiler made: what kind of copy, and numbers. -/
structure Clone where
  kind : String
  numbers : List Nat
deriving DecidableEq, Repr, Inhabited

/-- The kinds of parts that stand for one other part. -/
inductive Kind where
  | mangledName
  /-- Something with a name that is not a function, or something special. -/
  | encoding
  | name
  | unscoped
  | templateName
  | classType
  | type
  | templateTemplate
  | scope
  | arg
  | expression
  | unresolved
deriving DecidableEq, Repr, Inhabited

/-- A part of a mangled name. Each takes one level in the nesting of the name. -/
inductive Node where
  /-- A part that stands for another one. -/
  | part (kind : Kind) (of : Node)
  -- Names
  | source (identifier : String)
  | operator (op : Operator)
  /-- A conversion to a type, as the name of an operator. -/
  | conversion (type : Node)
  | literalOperator (name : Node)
  | vendorOperator (arity : Nat) (name : Node)
  | constructorName (inherited : Option Node)
  | destructorName
  | unnamedType (index : Option Nat)
  | closure (params : List Node) (index : Option Nat)
  /-- The last part of a name, with tags. -/
  | unqualified (name : Node) (tags : List Node)
  | wellKnown (part : WellKnown)
  | inStd (name : Node)
  /-- A name in a scope, as a scope itself. -/
  | scoped (scope name : Node)
  /-- A template with its arguments, as a scope. -/
  | scopedTemplate (template args : Node)
  | dataMember (scope name : Node)
  /-- A name at the end of a chain of scopes. The chain may be empty. -/
  | nested (form : MemberForm) (scope : Option Node) (name : Node)
  /-- A chain of scopes that ends in template arguments. -/
  | nestedTemplate (form : MemberForm) (template : Node)
  /-- A template with its arguments, as a name. -/
  | template (template args : Node)
  /-- Template arguments. Each list has a number of its own. -/
  | templateArgs (id : Nat) (args : List Node)
  | argPack (args : List Node)
  | localName (function : Node) (name : Node)
  | localString (function : Node)
  | defaultArg (function : Node) (name : Node)
  -- Types
  | builtin (name : String)
  | bitInt (isSigned : Bool) (width : Node)
  | vendorType (name : Node)
  | functionType (q : Qualifiers) (throws : Throws Node) (ref : Option RefQualifier) (types : List Node)
  /-- What a function returns and takes, without its qualifiers. -/
  | bareFunction (types : List Node)
  | array (extent : Extent Node) (element : Node)
  | vector (extent : Extent Node) (element : Node)
  | memberPointer (object member : Node)
  | templateParam (index : Nat)
  | templateType (template args : Node)
  | decltype (e : Node)
  | qualified (q : Qualifiers) (type : Node)
  | pointer (type : Node)
  | lvalueRef (type : Node)
  | rvalueRef (type : Node)
  | complex (type : Node)
  | imaginary (type : Node)
  | vendorQualified (name : Node) (args : Option Node) (type : Node)
  | packExpansion (type : Node)
  | elaborated (word : String) (name : Node)
  -- Expressions
  | unary (op e : Node)
  | binary (op left right : Node)
  | ternary (op first second third : Node)
  /-- A word and an expression after it. -/
  | prefixed (word : String) (e : Node)
  | call (function : Node) (args : List Node)
  | convert (type e : Node)
  | construct (type : Node) (args : List Node)
  | braced (type : Node) (args : List Node)
  | initList (e : Node)
  | allocate (isGlobal isArray : Bool) (placement : List Node) (type : Node) (init : Option (List Node))
  | cast (word : String) (type e : Node)
  /-- A word and something in parentheses after it. -/
  | query (word : String) (e : Node)
  | queryPack (args : List Node)
  | functionParam (index : Option Nat)
  | member (mark : String) (e name : Node)
  /-- The name of a member. -/
  | memberName (name : Node)
  | memberValue (e member : Node)
  | expandExpr (e : Node)
  | rethrow
  | subobject (type e : Node) (offset : Int)
  /-- A literal of a type: its digits, after an `n` if it is negative. -/
  | literal (type : Node) (digits : String)
  | external (name : Node)
  -- Names that cannot be looked up
  | globalName (name : Node)
  | qualifiedName (isGlobal : Bool) (scopes : List Node) (name : Node)
  | destructorOf (name : Node)
  /-- Something with template arguments if there are any. -/
  | applied (base : Node) (args : Option Node)
  -- Encodings
  | function (name : Node) (types : List Node)
  /-- Something that a text introduces. -/
  | special (text : String) (of : Node)
  /-- Something that a text introduces and that stands in braces. -/
  | specialBraced (text : String) (of : Node)
  | constructionTable (of within : Node)
  | thunk (offsets : List String) (function : Node)
  | resource (text : String)
  | symbol (of : Node) (copies : List Clone)
  | keyed (isConstructor : Bool) (name : Node)
deriving Inhabited

namespace Node

/-- Whether a type is the one of no value. -/
def isVoid : Node → Bool
  | .builtin "void" => true
  | _ => false

/-- Whether a name is that of a constructor, destructor or conversion. -/
def isSpecialMember : Node → Bool
  | .constructorName _ => true
  | .destructorName => true
  | .conversion _ => true
  | .unqualified name _ => name.isSpecialMember
  | .part .name of => of.isSpecialMember
  | .part .unscoped of => of.isSpecialMember
  | .part .scope of => of.isSpecialMember
  | .inStd name => name.isSpecialMember
  | .scoped _ name => name.isSpecialMember
  | .nested _ _ name => name.isSpecialMember
  | .scopedTemplate base _ => base.isSpecialMember
  | .nestedTemplate _ base => base.isSpecialMember
  | _ => false

/-- The template arguments that a name ends in. -/
def templateArgs? : Node → Option Node
  | .part .name of => of.templateArgs?
  | .nestedTemplate _ (.scopedTemplate _ args) => some args
  | .template _ args => some args
  | .localName _ name => name.templateArgs?
  | .defaultArg _ name => name.templateArgs?
  | _ => none

/-- The template arguments that a type ends in. -/
def typeArgs? : Node → Option Node
  | .templateType _ args => some args
  | .vendorQualified _ args _ => args
  | .pointer type => type.typeArgs?
  | .lvalueRef type => type.typeArgs?
  | .rvalueRef type => type.typeArgs?
  | _ => none

/-- The last part of a name, which its constructors share. -/
def leaf? : Node → Option Node
  | .source name => some (.source name)
  | .unnamedType index => some (.unnamedType index)
  | .closure params index => some (.closure params index)
  | .wellKnown known => if known = .std then none else some (.wellKnown known)
  | .part _ of => of.leaf?
  | .unqualified name _ => name.leaf?
  | .inStd name => name.leaf?
  | .scoped scope name => name.leaf?.or scope.leaf?
  | .dataMember _ name => name.leaf?
  | .nested _ scope name =>
      name.leaf?.or (match scope with | some scope => scope.leaf? | none => none)
  | .scopedTemplate base _ => base.leaf?
  | .nestedTemplate _ base => base.leaf?
  | .template base _ => base.leaf?
  | .localName _ name => name.leaf?
  | .defaultArg _ name => name.leaf?
  | .elaborated _ name => name.leaf?
  | _ => none

/-- Whether a type is an array. -/
def isArray : Node → Bool
  | .part .type (.array _ _) => true
  | _ => false

/-- Whether a name is that of a function that takes its object as a parameter. -/
def takesObject : Node → Bool
  | .part .name (.nested form _ _) => form.explicitObject
  | .part .name (.nestedTemplate form _) => form.explicitObject
  | _ => false

end Node

end PointerOrigins.Mangling
