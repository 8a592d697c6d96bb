import HeaderIndex.Session

/-!
# Indexing headers

The headers of a configuration are indexed by parsing a source that includes those given by their
paths.  `Session.indexHeaders` does that; on request it tells what it does and lists what was found.
-/

namespace HeaderIndex

/-- How headers are indexed, the configuration apart. -/
structure IndexOptions where
  includeDirectories : List String
  extraArguments : List String
  withSystemIncludes : Bool
  /-- whether to tell what is done -/
  debug : Bool
  deriving DecidableEq, Repr

/-- Why headers are not indexed. -/
inductive IndexingError where
  /-- the front-end cannot be had -/
  | loader (error : Toolchain.LoaderError)
  | parse (error : ParseError)
  /-- a number with too many digits cannot be listed -/
  | overlong
  deriving DecidableEq, Repr

/-- What an entity is called when it is listed. -/
def Entity.sortName : Entity → String
  | enumeration _ => "Enum"
  | aggregate _ => "StructOrUnion"
  | callable _ => "FunctionOrCallback"
  | constant _ => "Constant"

/-- The source that includes the headers of a configuration.  It has a name in the working directory,
so that the paths of headers are looked up from there. -/
def Config.source (config : Config) (options : IndexOptions) : Source where
  path := "ffigen_input.c"
  code := String.join (config.includeHeaders.map fun header => "#include \"" ++ header ++ "\"\n")
  includeDirectories := options.includeDirectories
  extraArguments := options.extraArguments
  withSystemIncludes := options.withSystemIncludes

namespace Session

/-- Marks a line as one about the program's own work. -/
def mark (line : String) : String := "[ffigen] " ++ line

/-- What is told before parsing. -/
def plan (config : Config) : List String :=
  ["Module: " ++ config.moduleName,
    "Headers: " ++ ", ".intercalate (config.headers.map HeaderPattern.text)] ++
  (if config.prefixes = [] then [] else ["Prefixes: " ++ ", ".intercalate config.prefixes])

/-- The line for an entity of an index. -/
def entityLine (index : Index) (id : EntityId) : String :=
  "  " ++ ((index.entity? id).map Entity.sortName).getD "" ++ ": " ++ index.entityText id

/-- What is told of a report, the entities apart. -/
def summary (report : Report) : List String :=
  ["Visible files: " ++
      (if report.visibleFiles = [] then "(none)" else ", ".intercalate report.visibleFiles),
    "Found " ++ toString report.index.size ++ " declarations"]

/-- Whether the line for an entity can be written: the value of a constant may have too many digits. -/
def isListable (index : Index) (id : EntityId) : Bool :=
  match index.entity? id with
  | some (.constant c) => !c.value.isOverlong
  | _ => true

/-- Tells what was found, up to the first entity that cannot be listed. -/
def list (report : Report) (session : Session) : Except IndexingError Report × Session :=
  let index := report.index
  let lines := summary report ++ (index.bound.takeWhile (isListable index)).map (entityLine index)
  (if index.bound.all (isListable index) then .ok report else .error .overlong,
    session.tell (lines.map mark))

/-- Indexes the headers of a configuration. -/
def indexHeaders (environment : Environment) (config : Config) (options : IndexOptions)
    (session : Session) : Except IndexingError Report × Session :=
  let session := if options.debug then session.tell ((plan config).map mark) else session
  let (frontend, loader) := session.loader.get environment.loading none
  let session := { session with loader }
  match frontend with
  | .error error => (.error (.loader error), session)
  | .ok _ =>
    match session.parse environment config (config.source options) with
    | (.error error, session) => (.error (.parse error), session)
    | (.ok report, session) => if options.debug then session.list report else (.ok report, session)

end Session

end HeaderIndex
