import PointerOrigins.Mangling.Node

/-!
Writing the tree of a mangled name as a C++ declaration.

What a type wraps around a name comes on both sides of it, as in `void (*)(int)`. So a wrapper waits on
a stack of inner parts until the place is reached where it is written. Template parameters are looked
up in the scopes around them. A tree that nests too deeply is not written.
-/

namespace PointerOrigins.Mangling

----------------------------------------------------------------------------------------------
-- State
----------------------------------------------------------------------------------------------

/-- What is kept while a tree is written. -/
structure Page where
  text : String
  /-- The last character. -/
  last : Option Char
  /-- The parts that wait to be written, the latest first, each with a number of its own. -/
  inner : List (Nat × Node)
  nextId : Nat
  /-- Whether what a closure takes is being written. -/
  inClosure : Bool
  /-- Whether a pack of arguments has been written. -/
  sawPack : Bool
  /-- The identifier that was written last. -/
  lastName : Option String
deriving Inhabited

/-- Something that writes, and may fail. -/
abbrev Writer := StateT Page Option

/-- A scope: the last part of a name or a list of template arguments, and the list and argument being
written in it.
-/
structure ScopeItem where
  node : Node
  inArg : Option (Nat × Nat)
deriving Inhabited

/-- The scopes from the innermost outwards. -/
abbrev Scope := List ScopeItem

/-- How a part is written. -/
inductive Mode where
  | plain
  /-- As a part that waited. -/
  | inner
  /-- One level deeper. -/
  | deeper (mode : Mode)
deriving DecidableEq, Repr, Inhabited

/-- How the parts of a part are written. -/
abbrev Print := Mode → Scope → Node → Writer Unit

/-- Writes parts one level deeper. -/
def Print.deeper (print : Print) : Print :=
  fun mode => print (.deeper mode)

namespace Scope

/-- The last name of the innermost scope that has one. -/
def leaf? (scope : Scope) : Option Node :=
  scope.findSome? fun item => item.node.leaf?

/-- A template argument of the innermost scope that has it. It must not be written within itself or
within one before it.
-/
def arg? : Scope → Nat → Option Node
  | [], _ => none
  | item :: rest, index =>
      match item.node with
      | .templateArgs id args =>
          match args[index]? with
          | some arg =>
              match item.inArg with
              | some (list, at_) => if list = id ∧ at_ ≤ index then none else some arg
              | none => some arg
          | none => arg? rest index
      | _ => arg? rest index

/-- Enters a scope. -/
def push (scope : Scope) (node : Node) : Scope :=
  ⟨node, none⟩ :: scope

/-- Notes which argument of a list is being written. -/
def enterArg (scope : Scope) (id index : Nat) : Scope :=
  match scope with
  | item :: rest => { item with inArg := some (id, index) } :: rest
  | [] => []

end Scope

namespace Writer

/-- Gives up. -/
def fail {α : Type} : Writer α :=
  fun _ => none

/-- Gives up unless so many levels are left. -/
def need (left needed : Nat) : Writer Unit :=
  if needed ≤ left then pure () else fail

/-- Writes a text. -/
def put (text : String) : Writer Unit :=
  modify fun page => { page with text := page.text ++ text, last := text.toList.getLast?.or page.last }

/-- Writes a blank, unless one was just written. -/
def ensureSpace : Writer Unit := do
  if (← get).last != some ' ' then put " "

/-- Lets a part wait. -/
def pushInner (node : Node) : Writer Nat := do
  let page ← get
  set { page with inner := (page.nextId, node) :: page.inner, nextId := page.nextId + 1 }
  return page.nextId

/-- Takes the part that waits last. -/
def popInner : Writer (Option Node) := do
  let page ← get
  match page.inner with
  | (_, node) :: rest =>
      set { page with inner := rest }
      return some node
  | [] => return none

/-- Takes the part that waits last if it has a number. -/
def popInnerIf (id : Nat) : Writer Bool := do
  let page ← get
  match page.inner with
  | (top, _) :: rest =>
      if top = id then
        set { page with inner := rest }
        return true
      else return false
  | [] => return false

/-- Writes something while no part waits. -/
def withoutInner (w : Writer Unit) : Writer Unit := do
  let waiting := (← get).inner
  modify fun page => { page with inner := [] }
  w
  modify fun page => { page with inner := waiting }

end Writer

open PointerOrigins.Mangling.Writer

----------------------------------------------------------------------------------------------
-- Parts that wait
----------------------------------------------------------------------------------------------

/-- Writes the parts that wait, the latest first. Each round takes one, so their number bounds the
rounds.
-/
def writeInners (print : Print) (scope : Scope) : Nat → Writer Unit
  | 0 => return ()
  | bound + 1 => do
      match ← popInner with
      | some node =>
          print .inner scope node
          writeInners print scope bound
      | none => return ()

/-- Whether a part is written behind the parameters of a function. -/
def comesAfter : Node → Bool
  | .functionType q throws _ _ => !q.isEmpty || (match throws with | .anything => false | _ => true)
  | _ => false

/-- Writes the parts that wait and stand before the parameters of a function. The others go on waiting.
-/
def writeInnerPrefixes (print : Print) (scope : Scope) : Nat → List (Nat × Node) → Writer Unit
  | 0, saved => modify fun page => { page with inner := saved.reverse }
  | bound + 1, saved => do
      let page ← get
      match page.inner with
      | (id, node) :: rest =>
          set { page with inner := rest }
          if comesAfter node then writeInnerPrefixes print scope bound ((id, node) :: saved)
          else
            print .inner scope node
            writeInnerPrefixes print scope bound saved
      | [] => modify fun page => { page with inner := saved.reverse }

/-- The number of parts that wait. -/
def waiting : Writer Nat := do
  return (← get).inner.length

/-- Whether a part that waits needs parentheses before parameters, and then whether a blank goes before
them.
-/
def parenthesis? : Node → Option Bool
  | .qualified _ _ | .complex _ | .imaginary _ | .memberPointer _ _ => some true
  | .pointer _ | .lvalueRef _ | .rvalueRef _ => some false
  | _ => none

/-- Writes things with commas between them. -/
def writeList (print : Scope → Node → Writer Unit) (scope : Scope) : List Node → Writer Unit
  | [] => return ()
  | [node] => print scope node
  | node :: rest => do
      print scope node
      put ", "
      writeList print scope rest

/-- Writes the parameters of a function, and around them the parts that wait. The first parameter may be
the object that the function is for.
-/
def writeParams (print : Print) (scope : Scope) (takesObject : Bool) (types : List Node)
    : Writer Unit := do
  let page ← get
  match page.inner.findSome? fun (_, node) => parenthesis? node with
  | some space =>
      if space || (page.last != some '(' && page.last != some '*') then ensureSpace
      put "("
      writeInnerPrefixes print scope (← waiting) []
      put ")"
  | none => writeInnerPrefixes print scope (← waiting) []
  put "("
  match types with
  | [type] =>
      if type.isVoid then put ")"
      else
        if takesObject then put "this "
        print .plain scope type
        put ")"
        writeInners print scope (← waiting)
  | types =>
      if takesObject && !types.isEmpty then put "this "
      writeList (print .plain) scope types
      put ")"
      writeInners print scope (← waiting)

/-- Writes the parts that wait around an array, and gives whether a blank goes before its length. -/
def writeArrayInners (print : Print) (scope : Scope) : Nat → Bool → Writer Bool
  | 0, space => return space
  | bound + 1, space => do
      match ← popInner with
      | none => return space
      | some node =>
          match node with
          | .array _ _ =>
              print .inner scope node
              writeArrayInners print scope bound false
          | .qualified _ type =>
              if type.isArray then
                print .inner scope node
                writeArrayInners print scope bound space
              else
                ensureSpace
                print .inner scope node
                ensureSpace
                put "("
                writeInnerPrefixes print scope (← waiting) []
                put ")"
                writeArrayInners print scope bound space
          | _ =>
              ensureSpace
              put "("
              print .inner scope node
              writeInnerPrefixes print scope (← waiting) []
              put ")"
              writeArrayInners print scope bound space

/-- Drops the references that wait last and become one with the reference at hand. Gives whether an
lvalue reference is left that will stand for both.
-/
def mergeRefs (isLvalue : Bool) : Nat → Writer Bool
  | 0 => return false
  | bound + 1 => do
      match (← get).inner with
      | (_, .rvalueRef _) :: rest =>
          modify fun page => { page with inner := rest }
          mergeRefs isLvalue bound
      | (_, .lvalueRef _) :: rest =>
          if isLvalue then
            modify fun page => { page with inner := rest }
            mergeRefs isLvalue bound
          else return true
      | _ => return false

/-- Writes the words of qualifiers. -/
def writeQualifiers (q : Qualifiers) : Writer Unit :=
  q.words.forM fun word => do
    ensureSpace
    put word

/-- Writes how long an array or vector is. -/
def writeExtent (print : Print) (scope : Scope) : Extent Node → Writer Unit
  | .count n => put (toString n)
  | .computed e => print .plain scope e
  | .unknown => pure ()

/-- Writes a part that waited. -/
def writeInner (print : Print) (left : Nat) (scope : Scope) (node : Node) : Writer Unit := do
  match node with
  | .qualified q _ =>
      need left 1
      writeQualifiers q
  | .pointer _ => put "*"
  | .lvalueRef _ =>
      let _ ← mergeRefs true (← waiting)
      put "&"
  | .rvalueRef _ => if !(← mergeRefs false (← waiting)) then put "&&"
  | .memberPointer object _ =>
      if (← get).last != some '(' then ensureSpace
      print .plain scope object
      put "::*"
  | .functionType q throws ref _ =>
      if !q.isEmpty then
        need left 1
        writeQualifiers q
      match ref with
      | some ref =>
          need left 1
          ensureSpace
          put ref.text
      | none => pure ()
      match throws with
      | .anything => pure ()
      | .nothing =>
          need left 1
          ensureSpace
          put "noexcept"
      | .computed e =>
          ensureSpace
          put "noexcept("
          print.deeper .plain scope e
          put ")"
  | .bareFunction types =>
      need left 1
      writeParams print.deeper scope false types.tail
  | .array extent _ =>
      if ← writeArrayInners print scope (← waiting) true then ensureSpace
      put "["
      writeExtent print scope extent
      put "]"
  | .vector extent _ =>
      put " __vector("
      writeExtent print scope extent
      put ")"
  | .function name types =>
      need left 1
      match name.templateArgs? with
      | some args => writeParams print.deeper (scope.push args) name.takesObject types.tail
      | none => writeParams print.deeper scope name.takesObject types
  | _ => fail

/-- Writes a part around another one: it waits while that one is written. -/
def writeAround (print : Print) (scope : Scope) (node within : Node) : Writer Unit := do
  let id ← pushInner node
  print .plain scope within
  if ← popInnerIf id then print .inner scope node

----------------------------------------------------------------------------------------------
-- Names
----------------------------------------------------------------------------------------------

/-- The text of an identifier. Namespaces without a name have identifiers of their own. -/
def identifierText (identifier : String) : String :=
  match (identifier.toList.drop 8).take 2 with
  | [mark, 'N'] =>
      if identifier.startsWith "_GLOBAL_" && (mark = '_' || mark = '.' || mark = '$') then
        "(anonymous namespace)"
      else identifier
  | _ => identifier

/-- What comes after a name in a chain of scopes: a part that waits, and the qualifiers. -/
def writeNestedEnd (print : Print) (left : Nat) (scope : Scope) (form : MemberForm) : Writer Unit := do
  match ← popInner with
  | some node => print .inner scope node
  | none => pure ()
  if !form.qualifiers.isEmpty then
    need left 1
    writeQualifiers form.qualifiers
  match form.ref with
  | some ref =>
      need left 1
      ensureSpace
      put ref.text
  | none => pure ()

/-- Writes template arguments. A blank keeps two angle brackets apart. -/
def writeTemplateArgs (print : Print) (scope : Scope) (id : Nat) (args : List Node) : Writer Unit :=
  withoutInner do
    if (← get).last = some '<' then put " "
    put "<"
    go 0 args
    if (← get).last = some '>' then put " "
    put ">"
where
  /-- Writes the arguments from one on. -/
  go (index : Nat) : List Node → Writer Unit
    | [] => return ()
    | arg :: rest => do
        if 0 < index then put ", "
        print .plain (scope.enterArg id index) arg
        go (index + 1) rest

/-- Writes the last part of a name as that of a constructor. A type without a name has the identifier
that was written last.
-/
def writeLeaf (print : Print) (left : Nat) (leaf : Node) : Writer Unit := do
  match leaf with
  | .wellKnown part =>
      need left 1
      match part.leafText? with
      | some text => put text
      | none => fail
  | .unnamedType index =>
      need left 1
      match (← get).lastName with
      | some name => put name
      | none => put ("\x7bunnamed type#" ++ toString (index.elim 1 (· + 1)) ++ "\x7d")
  | leaf => print .plain [] leaf

/-- Whether a name is that of an operator. -/
def isOperator : Node → Bool
  | .operator _ | .conversion _ | .literalOperator _ | .vendorOperator _ _ => true
  | _ => false

/-- Writes a name. Gives whether the part is one. -/
def writeName (print : Print) (left : Nat) (scope : Scope) (node : Node) : Writer Bool := do
  match node with
  | .source identifier =>
      need left 1
      let text := identifierText identifier
      if text = identifier then modify fun page => { page with lastName := some identifier }
      put text
      return true
  | .operator op =>
      need left 1
      if ["nw", "na", "dl", "da"].contains op.code then ensureSpace
      put op.text
      return true
  | .conversion type =>
      ensureSpace
      let scope := match type.typeArgs? with
        | some args => scope.push args
        | none => scope
      print .plain scope type
      return true
  | .literalOperator name =>
      print .plain scope name
      put "::operator \"\""
      return true
  | .vendorOperator arity name =>
      print .plain scope name
      put ("::operator " ++ toString arity)
      return true
  | .constructorName inherited =>
      match scope.leaf? with
      | some leaf =>
          match inherited with
          | some type =>
              match type.leaf? with
              | some leaf => writeLeaf print left leaf; return true
              | none => fail
          | none => writeLeaf print left leaf; return true
      | none => fail
  | .destructorName =>
      match scope.leaf? with
      | some leaf =>
          put "~"
          writeLeaf print left leaf
          return true
      | none => fail
  | .unnamedType index =>
      put ("\x7bunnamed type#" ++ toString (index.elim 1 (· + 1)) ++ "\x7d")
      return true
  | .closure params index =>
      need left 1
      withoutInner do
        put "\x7blambda("
        modify fun page => { page with inClosure := true }
        writeList (print.deeper .plain) scope params
        modify fun page => { page with inClosure := false }
        put (")#" ++ toString (index.elim 1 (· + 2)) ++ "\x7d")
      return true
  | .unqualified name tags =>
      if isOperator name then put "operator"
      print .plain scope name
      tags.forM fun tag => do
        put "[abi:"
        print.deeper.deeper .plain scope tag
        put "]"
      return true
  | .wellKnown part => put part.text; return true
  | .inStd name =>
      put "std::"
      print .plain scope name
      return true
  | .scoped outer name =>
      print .plain scope outer
      put "::"
      print .plain scope name
      return true
  | .scopedTemplate base args =>
      print .plain scope base
      print .plain scope args
      return true
  | .dataMember outer name =>
      print .plain scope outer
      put "::"
      print.deeper .plain scope name
      return true
  | .nested form outer name =>
      match outer with
      | some outer =>
          print .plain scope outer
          put "::"
      | none => pure ()
      print .plain scope name
      writeNestedEnd print left scope form
      return true
  | .nestedTemplate form base =>
      print .plain scope base
      writeNestedEnd print left scope form
      return true
  | .template base args =>
      print .plain (scope.push args) base
      print .plain scope args
      return true
  | .templateArgs id args => writeTemplateArgs print scope id args; return true
  | .argPack args =>
      modify fun page => { page with sawPack := true }
      writeList (print .plain) scope args
      return true
  | .localName function name =>
      print .plain scope function
      put "::"
      print .plain scope name
      return true
  | .localString function =>
      print .plain scope function
      put "::string literal"
      return true
  | .defaultArg function name =>
      print .plain scope function
      put "::\x7bdefault arg\x7d::"
      print .plain scope name
      return true
  | _ => return false

----------------------------------------------------------------------------------------------
-- Types
----------------------------------------------------------------------------------------------

/-- Writes a type. Gives whether the part is one. -/
def writeType (print : Print) (left : Nat) (scope : Scope) (node : Node) : Writer Bool := do
  match node with
  | .builtin name =>
      need left 1
      put name
      return true
  | .bitInt isSigned width =>
      put ((if isSigned then "signed" else "unsigned") ++ " _BitInt(")
      print.deeper .plain scope width
      put ")"
      return true
  | .vendorType name => print .plain scope name; return true
  | .functionType _ _ _ types =>
      writeAround print scope node (.bareFunction types)
      return true
  | .bareFunction types =>
      match types with
      | result :: _ =>
          let id ← pushInner node
          print .plain scope result
          if ← popInnerIf id then
            ensureSpace
            print .inner scope node
          return true
      | [] => fail
  | .array _ element | .vector _ element => writeAround print scope node element; return true
  | .memberPointer _ member => writeAround print scope node member; return true
  | .qualified _ type | .pointer type | .lvalueRef type | .rvalueRef type =>
      writeAround print scope node type
      return true
  | .templateType base args =>
      print .plain scope base
      print .plain scope args
      return true
  | .templateParam index =>
      if (← get).inClosure then put ("auto:" ++ toString (index + 1))
      else
        match scope.arg? index with
        | some arg => print .plain scope arg
        | none => fail
      return true
  | .decltype e =>
      put "decltype ("
      print .plain scope e
      put ")"
      return true
  | .complex type =>
      print .plain scope type
      put " complex"
      return true
  | .imaginary type =>
      print .plain scope type
      put " imaginary"
      return true
  | .vendorQualified name args type =>
      print .plain scope type
      put " "
      print .plain scope name
      match args with
      | some args => print .plain scope args
      | none => pure ()
      return true
  | .packExpansion type =>
      print .plain scope type
      if !(← get).sawPack then put "..."
      return true
  | .elaborated word name =>
      put word
      print .plain scope name
      return true
  | _ => return false

----------------------------------------------------------------------------------------------
-- Expressions
----------------------------------------------------------------------------------------------

/-- Whether an expression stands for itself within another one. -/
def isAtom : Node → Bool
  | .part .expression (.functionParam _) => true
  | .part .expression (.external _) => true
  | _ => false

/-- Writes an expression within another one, in parentheses if it needs them. -/
def writeOperand (print : Print) (scope : Scope) (e : Node) : Writer Unit := do
  if isAtom e then print .plain scope e
  else
    put "("
    print .plain scope e
    put ")"

/-- The codes of the operators that come after their operand. -/
def postfixCodes : List String := ["pp", "mm"]

/-- Writes the digits of a literal, after an `n` if it is negative. -/
def writeDigits (digits : String) : Writer Unit :=
  match digits.toList with
  | 'n' :: rest => put ("-" ++ String.ofList rest)
  | _ => put digits

/-- Writes a literal. Floating-point numbers are given by their bits. -/
def writeLiteral (print : Print) (scope : Scope) (type : Node) (digits : String) : Writer Unit := do
  match type with
  | .builtin "bool" =>
      if digits = "0" then put "false"
      else if digits = "1" then put "true"
      else
        put "(bool)"
        writeDigits digits
  | .builtin "std::nullptr_t" => put "nullptr"
  | .builtin "int" => writeDigits digits
  | type =>
      put "("
      print .plain scope type
      put ")"
      match type with
      | .builtin "float" | .builtin "double" =>
          match digits.toList with
          | 'n' :: rest => put ("-[" ++ String.ofList rest ++ "]")
          | _ => put ("[" ++ digits ++ "]")
      | _ => writeDigits digits

/-- Writes an expression. Gives whether the part is one. -/
def writeExpr (print : Print) (left : Nat) (scope : Scope) (node : Node) : Writer Bool := do
  let operand := writeOperand print scope
  let list := writeList (print .plain) scope
  match node with
  | .unary op e =>
      match op with
      | .operator o =>
          if postfixCodes.contains o.code then
            operand e
            print .plain scope op
          else
            print .plain scope op
            operand e
      | op =>
          print .plain scope op
          operand e
      return true
  | .binary op first second =>
      match op with
      | .operator ⟨"gt", _, _⟩ =>
          put "(("
          print .plain scope first
          put ")>("
          print .plain scope second
          put "))"
      | op =>
          operand first
          print .plain scope op
          operand second
      return true
  | .ternary op first second third =>
      match op with
      | .operator ⟨"qu", _, _⟩ =>
          operand first
          put "?"
          operand second
          put " : "
          operand third
      | op =>
          print .plain scope op
          put "("
          list [first, second, third]
          put ")"
      return true
  | .prefixed word e =>
      put word
      print .plain scope e
      return true
  | .call function args =>
      operand function
      put "("
      list args
      put ")"
      return true
  | .convert type e =>
      put "("
      print .plain scope type
      put ")("
      print .plain scope e
      put ")"
      return true
  | .construct type args =>
      print .plain scope type
      put "("
      list args
      put ")"
      return true
  | .braced type args =>
      print .plain scope type
      put "\x7b"
      list args
      put "\x7d"
      return true
  | .initList e =>
      put "\x7b"
      print .plain scope e
      put "\x7d"
      return true
  | .allocate isGlobal isArray placement type init =>
      put ((if isGlobal then "::" else "") ++ "new" ++ (if isArray then "[]" else "") ++ " (")
      list placement
      put ") "
      print .plain scope type
      match init with
      | some args =>
          need left 1
          put "("
          writeList (print.deeper .plain) scope args
          put ")"
      | none => pure ()
      return true
  | .cast word type e =>
      put (word ++ "<")
      print .plain scope type
      put ">("
      print .plain scope e
      put ")"
      return true
  | .query word e =>
      put word
      print .plain scope e
      put ")"
      return true
  | .queryPack args =>
      put "sizeof...("
      list args
      put ")"
      return true
  | .functionParam index =>
      match index with
      | some index => put ("\x7bparm#" ++ toString (index + 1) ++ "\x7d")
      | none => put "this"
      return true
  | .member mark e name =>
      if mark = "." then operand e else print .plain scope e
      put mark
      print .plain scope name
      return true
  | .memberName name =>
      if name.templateArgs?.isSome then
        put "("
        print .plain scope name
        put ")"
      else print .plain scope name
      return true
  | .memberValue e member =>
      operand e
      put ".*"
      operand member
      return true
  | .expandExpr e =>
      operand e
      put "..."
      return true
  | .rethrow => put "throw"; return true
  | .subobject type e offset =>
      print .plain scope e
      put ".<"
      print .plain scope type
      put (" at offset " ++ toString offset ++ ">")
      return true
  | .literal type digits => writeLiteral print scope type digits; return true
  | .external name => print .plain scope name; return true
  | .globalName name =>
      put "::"
      print .plain scope name
      return true
  | .qualifiedName isGlobal scopes name =>
      if isGlobal then put "::"
      scopes.forM fun outer => do
        print .plain scope outer
        put "::"
      print .plain scope name
      return true
  | .destructorOf name =>
      put "~"
      print .plain scope name
      return true
  | .applied base args =>
      print .plain scope base
      match args with
      | some args => print .plain scope args
      | none => pure ()
      return true
  | _ => return false

----------------------------------------------------------------------------------------------
-- Encodings
----------------------------------------------------------------------------------------------

/-- Writes a function. What a template returns comes first, except for constructors and the like. -/
def writeFunction (print : Print) (scope : Scope) (node name : Node) (types : List Node)
    : Writer Unit :=
  withoutInner do
    let scope := match name.leaf? with
      | some leaf => scope.push leaf
      | none => scope
    let scope ← match name.templateArgs? with
      | some args => do
          let scope := scope.push args
          if !name.isSpecialMember then
            match types with
            | result :: _ =>
                print .plain scope result
                put " "
            | [] => fail
          pure scope
      | none => pure scope
    let id ← pushInner node
    print .plain scope name
    if ← popInnerIf id then print .inner scope node

/-- Writes a copy that a compiler made. -/
def writeClone (copy : Clone) : Writer Unit := do
  put (" [clone ." ++ copy.kind)
  copy.numbers.forM fun n => put ("." ++ toString n)
  put "]"

/-- Writes an encoding. Gives whether the part is one. -/
def writeEncoding (print : Print) (left : Nat) (scope : Scope) (node : Node) : Writer Bool := do
  match node with
  | .part .encoding of =>
      withoutInner (print .plain scope of)
      return true
  | .function name types => writeFunction print scope node name types; return true
  | .special text of =>
      put text
      print .plain scope of
      return true
  | .specialBraced text of =>
      put ("\x7b" ++ text ++ "(")
      print .plain scope of
      put ")\x7d"
      return true
  | .constructionTable of within =>
      put "construction vtable for "
      print .plain scope of
      put "-in-"
      print .plain scope within
      return true
  | .thunk offsets function =>
      need left 2
      put "\x7bvirtual override thunk("
      offsets.forM fun offset => put (offset ++ ", ")
      print .plain scope function
      put ")\x7d"
      return true
  | .resource text => put ("java resource " ++ text); return true
  | .symbol of copies =>
      print .plain scope of
      if !copies.isEmpty then need left 2
      copies.forM writeClone
      return true
  | .keyed isConstructor name =>
      withoutInner do
        put (if isConstructor then "global constructors keyed to " else "global destructors keyed to ")
        print .plain scope name
      return true
  | _ => return false

----------------------------------------------------------------------------------------------
-- Parts
----------------------------------------------------------------------------------------------

/-- Writes a part of any kind. -/
def writePlain (print : Print) (left : Nat) (scope : Scope) (node : Node) : Writer Unit := do
  if ← writeName print left scope node then return ()
  else if ← writeType print left scope node then return ()
  else if ← writeExpr print left scope node then return ()
  else if ← writeEncoding print left scope node then return ()
  else
    match node with
    | .part _ of => print .plain scope of
    | _ => fail

/-- Writes a part, with so many levels left. -/
def print : Nat → Print
  | 0, _, _, _ => fail
  | left + 1, .plain, scope, node => writePlain (print left) left scope node
  | left + 1, .inner, scope, node => writeInner (print left) left scope node
  | left + 1, .deeper mode, scope, node => print left mode scope node

/-- The greatest depth of a tree that is written. -/
def maxPrintLevels : Nat := 127

/-- The text of a tree. -/
def Node.text? (node : Node) : Option String :=
  (print maxPrintLevels .plain [] node ⟨"", none, [], 0, false, false, none⟩).map fun (_, page) =>
    page.text

end PointerOrigins.Mangling
