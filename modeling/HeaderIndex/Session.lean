import HeaderIndex.Config
import HeaderIndex.Frontend.Message
import HeaderIndex.Reader.Run
import HeaderIndex.Toolchain.Includes
import HeaderIndex.Toolchain.Library

/-!
# Sessions

A session is what a process remembers from one parse to the next, and what it did so far.  It
remembers how the front-end's library is loaded and which include directories the system has, and
nothing else, so that parses do not influence each other.

* `Session.systemIncludes` — the system's include directories, asked for once.
* `Session.parse` — parsing a source and reading the declarations of its visible files.
-/

namespace HeaderIndex

/-- A source text, with the arguments of its own. -/
structure Source where
  path : String
  code : String
  includeDirectories : List String
  extraArguments : List String
  withSystemIncludes : Bool
  deriving DecidableEq, Repr

/-- What a front-end is asked to parse: a path, its arguments, and contents that stand in for
files. -/
structure Request where
  path : String
  arguments : List String
  unsaved : List (String × String)
  deriving DecidableEq, Repr

/-- What surrounds a process: the system, how libraries are loaded, and the front-end. -/
structure Environment where
  system : System
  loading : Toolchain.Loading
  /-- what the front-end finds, unless it gives up on a source -/
  frontend : Request → Option ParsedUnit
  /-- the characters that have names -/
  named : String → Option Char

/-- What was found in a source. -/
structure Report where
  path : String
  visibleFiles : List String
  diagnostics : List String
  index : Index
  deriving DecidableEq, Repr

/-- Why there is no report. -/
inductive ParseError where
  /-- the compiler does not tell the include directories -/
  | program (error : ProgramError)
  /-- the front-end gives up -/
  | unparsed
  | read (error : Reader.ReadError)
  deriving DecidableEq, Repr

/-- The state of a process: what it remembers, and a record of what it did, in order. -/
structure Session where
  loader : Toolchain.Loader
  /-- the arguments for the system's include directories, once they are known -/
  includes : Option (List String)
  /-- the programs that were started, with their arguments -/
  commands : List (String × List String)
  /-- what the front-end was asked -/
  requests : List Request
  /-- the lines written to standard error -/
  messages : List String
  deriving DecidableEq, Repr

namespace Session

/-- A process that did nothing yet. -/
def initial : Session := ⟨.initial, none, [], [], []⟩

/-- Writes lines to standard error. -/
def tell (lines : List String) (session : Session) : Session :=
  { session with messages := session.messages ++ lines }

/-- The arguments for the system's include directories.  The compiler is asked for them unless they
are known from before. -/
def systemIncludes (environment : Environment) (session : Session) :
    Except ProgramError (List String) × Session :=
  match session.includes with
  | some includes => (.ok includes, session)
  | none =>
    let command := ("clang", Toolchain.listingArguments environment.system)
    let session := { session with commands := session.commands ++ [command] }
    match Toolchain.systemIncludes environment.system with
    | .ok includes => (.ok includes, { session with includes := some includes })
    | .error error => (.error error, session)

/-- The front-end's arguments for a source: its own directories first, then those of the system, then
the arguments of the configuration and of the source. -/
def arguments (config : Config) (source : Source) (systemIncludes : List String) : List String :=
  source.includeDirectories.map ("-I" ++ ·) ++ systemIncludes ++ config.cflags ++
    source.extraArguments

/-- The request to parse a source, whose code stands in for the file of its path. -/
def request (config : Config) (source : Source) (systemIncludes : List String) : Request :=
  ⟨source.path, arguments config source systemIncludes, [(source.path, source.code)]⟩

/-- Adds a file to those that are read if the configuration selects it and it is not there yet. -/
def addVisible (config : Config) (files : List String) (file : String) : List String :=
  if !files.contains file && config.selects file then files ++ [file] else files

/-- The files that are read: those that the configuration selects among the main file and, in order,
the included ones. -/
def visibleFiles (config : Config) (unit : ParsedUnit) (path : String) : List String :=
  (path :: unit.includes.filterMap (unit.files[·]?)).foldl (addVisible config) []

/-- Reads what the front-end found in a source, and tells its diagnostics and the warnings. -/
def readUnit (config : Config) (path : String) (unit : ParsedUnit) (session : Session) :
    Except ParseError Report × Session :=
  let visible := visibleFiles config unit path
  let outcome := Reader.read config unit visible
  let session := session.tell (unit.messages.map ("clang diagnostic: " ++ ·))
  let session := session.tell (outcome.warnings.map Reader.Warning.text)
  match outcome.result with
  | .ok index => (.ok ⟨path, visible, unit.messages, index⟩, session)
  | .error error => (.error (.read error), session)

/-- Parses a source and reads the declarations of its visible files. -/
def parse (environment : Environment) (config : Config) (source : Source) (session : Session) :
    Except ParseError Report × Session :=
  let (includes, session) :=
    if source.withSystemIncludes then session.systemIncludes environment else (.ok [], session)
  match includes with
  | .error error => (.error (.program error), session)
  | .ok includes =>
    let request := request config source includes
    let session := { session with requests := session.requests ++ [request] }
    match environment.frontend request with
    | none => (.error .unparsed, session)
    | some unit => readUnit config source.path unit session

end Session

end HeaderIndex
