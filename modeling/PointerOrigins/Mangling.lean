import PointerOrigins.Mangling.Parser
import PointerOrigins.Mangling.Printer

/-!
The readable names of mangled symbols.
-/

namespace PointerOrigins.Mangling

/-- The readable name of a symbol, if it is a mangled name. It starts with what the function returns if
the symbol says so.
-/
def demangle? (symbol : String) : Option String :=
  (Node.parse? symbol).bind Node.text?

/-- The text with which the readable names of the standard library start. -/
def stdPrefix : String := "std::"

/-- Whether a readable name starts like one of the standard library. -/
def isStd (demangle? : String → Option String) (symbol : String) : Bool :=
  (demangle? symbol).any fun name => name.startsWith stdPrefix

end PointerOrigins.Mangling

namespace PointerOrigins

/-- What is known about the names of symbols. -/
structure Demangler where
  /-- The readable name of a symbol, if it is a mangled name. -/
  demangle? : String → Option String
  /-- Whether the readable name of a symbol is one of the standard library. -/
  isStd : String → Bool

namespace Demangler

/-- A demangler that looks at the start of the readable names. -/
def ofNames (demangle? : String → Option String) : Demangler :=
  ⟨demangle?, Mangling.isStd demangle?⟩

/-- The names of C++. -/
def cpp : Demangler :=
  ofNames Mangling.demangle?

end Demangler

end PointerOrigins
