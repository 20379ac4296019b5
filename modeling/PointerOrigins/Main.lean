import PointerOrigins.CommandLine
import PointerOrigins.Report
import PointerOrigins.Bitcode.Conversion

/-!
The command line program. Reading the binary form of a module is the business of a compiler toolchain,
which this program is not linked with: it checks its arguments and its signatures, and then says that
the module cannot be read.
-/

namespace PointerOrigins

/-- How the program is called. -/
def usage : String :=
  "Pointer-origin tracing for LLVM bitcode\n\n" ++
    "Usage: pointer-origins [OPTIONS] <MODULE>\n\n" ++
    "Arguments:\n  <MODULE>  LLVM bitcode module\n\n" ++
    "Options:\n" ++
    "      --debug                    Debug\n" ++
    "      --json                     Print the report as JSON\n" ++
    "      --only-unresolved          Only report arguments with non-allocating origins\n" ++
    "      --quiet                    Quiet\n" ++
    "  -s, --signatures <SIGNATURES>  Allocator signatures\n" ++
    "      --tracing                  Tracing\n" ++
    "  -h, --help                     Print help\n" ++
    "  -V, --version                  Print version"

/-- The text of a fault in the arguments. -/
def UsageError.message : UsageError → String
  | .unknownArgument => "unexpected argument"
  | .missingArgument => "the module is missing"
  | .conflict => "an option is given twice"
  | .invalidValue => "an option lacks its value"
  | .tooManyValues => "a value is given to an option that takes none"
  | .helpWanted => usage
  | .versionWanted => "pointer-origins 0.1.0"

/-- The signatures in a file, or none without a file. -/
def loadSignatures (path : Option String) : IO (Except SignatureError Signatures) := do
  match path with
  | none => return .ok .empty
  | some path =>
      try
        return Signatures.parse (← IO.FS.readFile path)
      catch _ =>
        return .error .unreadable

end PointerOrigins

open PointerOrigins in
/-- Asked-for texts go to the standard output, faults to the standard error. -/
def main (args : List String) : IO UInt32 := do
  match Options.parse args with
  | .error .helpWanted =>
      IO.println UsageError.helpWanted.message
      return 0
  | .error .versionWanted =>
      IO.println UsageError.versionWanted.message
      return 0
  | .error e =>
      IO.eprintln ("error: " ++ e.message)
      return 2
  | .ok options =>
      match ← loadSignatures options.signatures with
      | .error e =>
          IO.eprintln ("Error: " ++ e.message)
          return 1
      | .ok _ =>
          IO.eprintln ("Error: Couldn't parse LLVM bitcode module at " ++ options.module)
          return 1
