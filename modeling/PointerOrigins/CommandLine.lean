/-!
The command line.

Arguments are read from left to right. The value of an option and the module are only checked when the
next argument is known or when the arguments end, so that an unknown argument is told first.
-/

namespace PointerOrigins

----------------------------------------------------------------------------------------------
-- Options
----------------------------------------------------------------------------------------------

/-- What the command line asks for. -/
structure Options where
  debug : Bool
  json : Bool
  module : String
  onlyUnresolved : Bool
  quiet : Bool
  signatures : Option String
  tracing : Bool
deriving DecidableEq, Repr, Inhabited

/-- Why a command line is not carried out. -/
inductive UsageError where
  | unknownArgument
  /-- No module is given. -/
  | missingArgument
  /-- An option is given twice. -/
  | conflict
  /-- An option lacks its value, or a path is empty. -/
  | invalidValue
  /-- A value is given to something that takes none. -/
  | tooManyValues
  | helpWanted
  | versionWanted
deriving DecidableEq, Repr, Inhabited

/-- The options without a value. -/
inductive Switch where
  | debug
  | json
  | onlyUnresolved
  | quiet
  | tracing
deriving DecidableEq, Repr, Inhabited

/-- What a name of an option stands for. -/
inductive OptionName where
  | switch (s : Switch)
  | signatures
  | help
  | version
deriving DecidableEq, Repr, Inhabited

/-- The option with a long name. -/
def OptionName.ofLong? : String → Option OptionName
  | "debug" => some (.switch .debug)
  | "json" => some (.switch .json)
  | "only-unresolved" => some (.switch .onlyUnresolved)
  | "quiet" => some (.switch .quiet)
  | "tracing" => some (.switch .tracing)
  | "signatures" => some .signatures
  | "help" => some .help
  | "version" => some .version
  | _ => none

/-- The option with a short name. -/
def OptionName.ofShort? : Char → Option OptionName
  | 's' => some .signatures
  | 'h' => some .help
  | 'V' => some .version
  | _ => none

----------------------------------------------------------------------------------------------
-- Reading
----------------------------------------------------------------------------------------------

/-- What has been read but not checked yet. -/
inductive Pending where
  /-- The option for signatures, with its value if that has come. -/
  | signatures (path : Option String)
  | module (path : String)
deriving DecidableEq, Repr, Inhabited

/-- A command line read in part. -/
structure Arguments where
  switches : List Switch
  signatures : Option String
  module : Option String
  pending : Option Pending
  /-- Whether all that follows is no option. -/
  trailing : Bool
  /-- Whether the module has been given. -/
  hasModule : Bool
deriving DecidableEq, Repr, Inhabited

namespace Arguments

/-- Nothing has been read. -/
def empty : Arguments :=
  ⟨[], none, none, none, false, false⟩

/-- Takes a path for signatures. -/
def setSignatures (a : Arguments) (path : String) : Except UsageError Arguments :=
  if a.signatures.isSome then .error .conflict
  else if path.isEmpty then .error .invalidValue
  else .ok { a with signatures := some path }

/-- Checks what is pending. -/
def settle (a : Arguments) : Except UsageError Arguments :=
  let rest := { a with pending := none }
  match a.pending with
  | none => .ok a
  | some (.signatures none) => .error .invalidValue
  | some (.signatures (some path)) => rest.setSignatures path
  | some (.module path) =>
      if path.isEmpty then .error .invalidValue else .ok { rest with module := some path }

/-- Takes an option without a value. -/
def option (a : Arguments) (name : OptionName) : Except UsageError Arguments := do
  let a ← a.settle
  match name with
  | .switch s => if a.switches.contains s then .error .conflict else return { a with switches := s :: a.switches }
  | .signatures => return { a with pending := some (.signatures none) }
  | .help => .error .helpWanted
  | .version => .error .versionWanted

/-- Takes an option with its value. -/
def optionWith (a : Arguments) (name : OptionName) (value : String) : Except UsageError Arguments := do
  match name with
  | .signatures =>
      let a ← a.settle
      a.setSignatures value
  | _ => .error .tooManyValues

/-- Takes an argument that is no option. -/
def positional (a : Arguments) (value : String) : Except UsageError Arguments := do
  if a.hasModule then .error .unknownArgument
  else
    let a ← a.settle
    return { a with pending := some (.module value), hasModule := true }

/-- Takes a long option, after its hyphens. -/
def long (a : Arguments) (text : List Char) : Except UsageError Arguments :=
  match OptionName.ofLong? (.ofList (text.takeWhile (· != '='))), text.dropWhile (· != '=') with
  | none, _ => .error .unknownArgument
  | some name, [] => a.option name
  | some name, _ :: value => a.optionWith name (.ofList value)

/-- Takes short options, after their hyphen. What follows an option that takes a value is its value. -/
def short (a : Arguments) : List Char → Except UsageError Arguments
  | [] => .ok a
  | c :: rest =>
      match OptionName.ofShort? c with
      | none => .error .unknownArgument
      | some .signatures =>
          match rest with
          | [] => a.option .signatures
          | '=' :: value => a.optionWith .signatures (.ofList value)
          | value => a.optionWith .signatures (.ofList value)
      | some name => do
          let a ← a.option name
          a.short rest

/-- Takes one argument. -/
def feed (a : Arguments) (arg : String) : Except UsageError Arguments :=
  if a.trailing then a.positional arg
  else
    match arg.toList with
    | ['-', '-'] => .ok { a with trailing := true }
    | '-' :: '-' :: text => a.long text
    | '-' :: c :: rest => a.short (c :: rest)
    | _ =>
        match a.pending with
        | some (.signatures none) => .ok { a with pending := some (.signatures (some arg)) }
        | _ => a.positional arg

/-- What the arguments ask for in the end. -/
def finish (a : Arguments) : Except UsageError Options := do
  let a ← a.settle
  match a.module with
  | none => .error .missingArgument
  | some module =>
      return {
        debug := a.switches.contains .debug
        json := a.switches.contains .json
        module
        onlyUnresolved := a.switches.contains .onlyUnresolved
        quiet := a.switches.contains .quiet
        signatures := a.signatures
        tracing := a.switches.contains .tracing }

end Arguments

/-- Reads the arguments after the name of the program. -/
def Options.parse (args : List String) : Except UsageError Options := do
  let a ← args.foldlM Arguments.feed .empty
  a.finish

end PointerOrigins
