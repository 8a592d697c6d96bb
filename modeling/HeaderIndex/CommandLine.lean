import HeaderIndex.Dump
import HeaderIndex.Session.Headers

/-!
# The command line

`CommandLine.run` does what the options of the program ask for, in an environment.  A run ends in one
of the ways of `Ending`.  Mistakes in the configuration and failures that lie in the headers are told
in a message; what else goes wrong breaks the run off.

* `Options`, `configuration` — the values of the options, and the configuration that they make.
* `generate` — indexing the headers.
* `write` — writing the dump to the output, which is opened only then.
-/

namespace HeaderIndex.CommandLine

/-! ## Options -/

/-- What the dump is written to. -/
inductive Output where
  /-- standard output, or a file: it takes all that is written, or has room for some characters -/
  | opened (room : Option Nat)
  /-- a file that cannot be opened, with what is told about it -/
  | closed (message : String)
  deriving DecidableEq, Repr

/-- The values of the options of a run.  Those that may be given several times are lists. -/
structure Options where
  version : Bool
  debug : Bool
  output : Output
  moduleName : Option String
  ffiLib : Option String
  prefixes : List String
  blocking : List String
  /-- the language whose words are reserved -/
  language : TargetLanguage
  reservedWords : List String
  includeDirectories : List String
  defines : List String
  standard : Option String
  clangArguments : List String
  withSystemIncludes : Bool
  headers : List String
  deriving DecidableEq, Repr

namespace Options

/-- The values of options that are left out, for some headers. -/
def plain (headers : List String) : Options where
  version := false
  debug := false
  output := .opened none
  moduleName := none
  ffiLib := none
  prefixes := []
  blocking := []
  language := .python
  reservedWords := []
  includeDirectories := []
  defines := []
  standard := none
  clangArguments := []
  withSystemIncludes := true
  headers

/-- The words that are reserved: those of the language and those given one by one. -/
def allReserved (options : Options) : List String :=
  options.language.reservedWords ++ options.reservedWords

/-- The arguments for the front-end. -/
def frontendArguments (options : Options) : List String :=
  options.defines.map ("-D" ++ ·) ++
  (match options.standard with
    | none | some "" => []
    | some standard => ["-std=" ++ standard]) ++
  options.clangArguments

end Options

/-! ## Endings -/

/-- What can go wrong in a run. -/
inductive Failure where
  | pattern (error : PatternError)
  | config (error : ConfigError)
  | indexing (error : IndexingError)
  /-- the output cannot be opened, by what is told about it -/
  | closed (message : String)
  | dump (error : Dump.DumpError)
  /-- the output broke down after a beginning of the dump -/
  | output (written : String)
  deriving DecidableEq, Repr

/-- How a run ends. -/
inductive Ending where
  /-- a text about the program is shown -/
  | shown (text : String)
  /-- the dump of an index is written -/
  | dumped (text : String)
  /-- a failure that is told in a message, and the status of the run -/
  | told (message : String) (status : Nat)
  /-- a failure that breaks the run off -/
  | broken (failure : Failure)
  deriving DecidableEq, Repr

/-- The version of the program. -/
def version : String := "0.1.0"

/-- The message for a failure to read what the front-end found, if it is told. -/
def readMessage? : Reader.ReadError → Option String
  | error@(.type _ typeError) => if typeError = .endless then none else some error.message
  | error@(.duplicateDefinition _) | error@.overlong => some error.message
  | .keyTaken _ _ | .endlessNesting => none

/-- The message and the status for a failure that is told. -/
def Failure.told? : Failure → Option (String × Nat)
  | .pattern ⟨_, .refused message⟩ => some (message, 2)
  | .config error => some (error.message, 2)
  | .indexing (.loader error) => some (error.message, 1)
  | .indexing (.parse (.program (.undecodable found))) => some (found.message, 1)
  | .indexing (.parse (.read error)) => (readMessage? error).map (·, 1)
  | .indexing .overlong => some (Numeral.unwritable, 1)
  | .closed message => some (message, 1)
  | _ => none

/-- How a run ends with a failure. -/
def Failure.ending (failure : Failure) : Ending :=
  match failure.told? with
  | some (message, status) => .told message status
  | none => .broken failure

/-! ## Runs -/

/-- The configuration that the options ask for.  Header patterns are read before anything else is
looked at. -/
def configuration (named : String → Option Char) (options : Options) : Except Failure Config :=
  match options.headers.mapM (HeaderPattern.ofArgument named) with
  | .error error => .error (.pattern error)
  | .ok headers =>
    let settings : Settings := {
      moduleName := options.moduleName.getD ""
      headers
      ffiLib := options.ffiLib
      prefixes := options.prefixes
      blocking := options.blocking
      reservedWords := options.allReserved
      cflags := options.frontendArguments }
    match Config.make settings with
    | .error error => .error (.config error)
    | .ok config => .ok config

/-- How headers are indexed under the options. -/
def indexOptions (options : Options) : IndexOptions where
  includeDirectories := options.includeDirectories
  extraArguments := []
  withSystemIncludes := options.withSystemIncludes
  debug := options.debug

/-- The index that the options ask for, with its configuration. -/
def generate (environment : Environment) (options : Options) (session : Session) :
    Except Failure (Config × Index) × Session :=
  match configuration environment.named options with
  | .error failure => (.error failure, session)
  | .ok config =>
    match session.indexHeaders environment config (indexOptions options) with
    | (.error error, session) => (.error (.indexing error), session)
    | (.ok report, session) => (.ok (config, report.index), session)

/-- Whether a whole text is taken where there is room for some characters, or for all. -/
def isTaken (room : Option Nat) (text : String) : Bool := room.all (text.length ≤ ·)

/-- What is written of the text. -/
def fitting : Option Nat → String → String
  | none, text => text
  | some room, text => String.ofList (text.toList.take room)

/-- Writes the dump of an index.  The output is opened before there is a text. -/
def write (output : Output) (config : Config) (index : Index) : Except Failure String :=
  match output, Dump.text config index with
  | .closed message, _ => .error (.closed message)
  | .opened _, .error error => .error (.dump error)
  | .opened room, .ok text =>
    if isTaken room text then .ok text else .error (.output (fitting room text))

/-- Does what the options ask for. -/
def run (environment : Environment) (options : Options) (session : Session) : Ending × Session :=
  if options.version then (.shown (version ++ "\n"), session)
  else
    match generate environment options session with
    | (.error failure, session) => (failure.ending, session)
    | (.ok (config, index), session) =>
      match write options.output config index with
      | .ok text => (.dumped text, session)
      | .error failure => (failure.ending, session)

namespace Ending

/-- The status of the process. -/
def status : Ending → Nat
  | shown _ => 0
  | dumped _ => 0
  | told _ status => status
  | broken _ => 1

/-- What is written to the output. -/
def written : Ending → String
  | dumped text => text
  | broken (.output text) => text
  | _ => ""

/-- What is shown on standard output. -/
def shownText : Ending → String
  | shown text => text
  | _ => ""

/-- What goes to standard error at the end. -/
def lastWords : Ending → String
  | told message _ => "Error: " ++ message ++ "\n"
  | _ => ""

end Ending

/-- Everything that a run writes to standard error, unless it is broken off. -/
def stderr (ending : Ending) (session : Session) : String :=
  String.join (session.messages.map (· ++ "\n")) ++ ending.lastWords

end HeaderIndex.CommandLine
