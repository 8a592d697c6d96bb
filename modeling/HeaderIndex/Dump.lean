import HeaderIndex.Comment.Markup
import HeaderIndex.Config
import HeaderIndex.Index.Text
import HeaderIndex.Json.Printer
import HeaderIndex.Name.Format

/-!
# The dump of an index

`Dump.tree` shows an index as a binding generator would use it: names formatted and kept clear of
reserved words, constants of enumerations shortened, descriptions cleaned, methods listed with their
aggregates.  `Dump.text` is the JSON text of it, unless a number has too many digits.
-/

namespace HeaderIndex.Dump

/-- Why an index cannot be dumped. -/
inductive DumpError where
  /-- a name with an empty word -/
  | format (error : FormatError)
  /-- something in the place of a type -/
  | notAType (text : String)
  /-- a number with too many digits -/
  | overlong
  deriving DecidableEq, Repr

/-- The text of an error, where it has one. -/
def DumpError.message : DumpError → String
  | .format error => error.message
  | .notAType text => "Unexpected type variant: " ++ text
  | .overlong => Numeral.unwritable

/-- A name under a casing. -/
def formatted (config : Config) (casing : List Casing) (joiner : String) (name : Name) :
    Except DumpError Json :=
  match name.format casing joiner config.reservedWords with
  | .ok text => .ok (.str text)
  | .error error => .error (.format error)

/-- Names of constants: `UPPER_CASE`. -/
def constantName (config : Config) : Name → Except DumpError Json := formatted config [.upcase] "_"

/-- Names of enumerations, aggregates and callbacks: `CamelCase`. -/
def typeName (config : Config) : Name → Except DumpError Json := formatted config [.camelcase] ""

/-- Names of functions, methods, fields, parameters and constants of enumerations: `lower_case`. -/
def valueName (config : Config) : Name → Except DumpError Json := formatted config [.downcase] "_"

/-- A description without remark on missing text. -/
def description (lines : List String) : Json := .strings (Comment.clean lines false)

/-- The value of a constant. -/
def number : Number → Json
  | .int value => .int value
  | .float value => .real (FloatStyle.dump.text value)

/-- A type.  Entities are referred to by their names. -/
def type (config : Config) (index : Index) : CType → Except DumpError Json
  | .primitive word => .ok (.str word)
  | .string => .ok (.str "string")
  | .byValue id => do
    let name := ((index.entity? id).map (·.name)).getD .anonymous
    return .obj [("by_value", ← typeName config name)]
  | .pointer pointee depth => do
    return .obj [("pointer", ← typeName config pointee), ("depth", .int depth)]
  | .array element size => do
    return .obj [("array", ← type config index element), ("size", .int size)]
  | .entity id =>
    match index.entity? id with
    | some (.aggregate a) => do
      return .obj [(if a.isUnion then "union" else "struct", ← typeName config a.name)]
    | some (.enumeration e) => do return .obj [("enum", ← typeName config e.name)]
    | some (.callable c) => do return .obj [("callback", ← typeName config c.name)]
    | _ => .error (.notAType (index.entityText id))
  | .unknown => .ok (.str "unknown")
  | .foreign text => .error (.notAType text)

/-- A constant. -/
def constant (config : Config) (c : Constant) : Except DumpError Json := do
  return .obj [("name", ← constantName config c.name), ("raw", .optional c.name.raw),
    ("value", number c.value)]

/-- A constant of an enumeration under its short name. -/
def enumerator (config : Config) (short : Name) (e : Enumerator) : Except DumpError Json := do
  return .obj [("name", ← valueName config short), ("raw", .optional e.name.raw),
    ("value", number e.value), ("description", description e.description)]

/-- An enumeration. -/
def enumeration (config : Config) (e : Enumeration) : Except DumpError Json := do
  let name ← typeName config e.name
  let constants ← (e.shortNames.zip e.constants).mapM fun (short, c) => enumerator config short c
  return .obj [("name", name), ("raw", .optional e.name.raw),
    ("description", description e.description), ("constants", .arr constants)]

/-- A field. -/
def field (config : Config) (index : Index) (f : Field) : Except DumpError Json := do
  return .obj [("name", ← valueName config f.name), ("type", ← type config index f.type),
    ("description", description f.description)]

/-- A method, with the spelling of its function. -/
def method (config : Config) (index : Index) (m : Method) : Except DumpError Json := do
  let raw := (index.entity? m.function).bind (·.name.raw)
  return .obj [("name", ← valueName config m.name), ("function", .optional raw)]

/-- A structure or union. -/
def aggregate (config : Config) (index : Index) (a : Aggregate) : Except DumpError Json := do
  let name ← typeName config a.name
  let fields ← a.fields.mapM (field config index)
  let methods ← a.methods.mapM (method config index)
  return .obj [("name", name), ("raw", .optional a.name.raw),
    ("kind", .str (if a.isUnion then "union" else "struct")),
    ("description", description a.description), ("fields", .arr fields), ("methods", .arr methods)]

/-- A parameter. -/
def parameter (config : Config) (index : Index) (p : Parameter) : Except DumpError Json := do
  return .obj [("name", ← valueName config p.name), ("type", ← type config index p.type),
    ("array", .bool p.isArray), ("description", description p.description)]

/-- A function or callback. -/
def callable (config : Config) (index : Index) (c : Callable) : Except DumpError Json := do
  let name ← if c.isCallback then typeName config c.name else valueName config c.name
  let parameters ← c.parameters.mapM (parameter config index)
  let result ← type config index c.result
  return .obj [("name", name), ("raw", .optional c.name.raw), ("blocking", .bool c.isBlocking),
    ("description", description c.description), ("parameters", .arr parameters),
    ("returns", .obj [("type", result), ("description", description c.resultDescription)])]

/-- The whole index, sorted into sections. -/
def tree (config : Config) (index : Index) : Except DumpError Json := do
  let constants ← index.constants.mapM (constant config)
  let enumerations ← index.enumerations.mapM (enumeration config)
  let aggregates ← index.aggregates.mapM (aggregate config index)
  let callbacks ← index.callbacks.mapM (callable config index)
  let functions ← index.functions.mapM (callable config index)
  return .obj [("module", .str config.moduleName), ("ffi_lib", .optional config.ffiLib),
    ("constants", .arr constants), ("enums", .arr enumerations), ("structs", .arr aggregates),
    ("callbacks", .arr callbacks), ("functions", .arr functions)]

/-- The JSON text of an index, with a line break at its end. -/
def text (config : Config) (index : Index) : Except DumpError String := do
  let dump ← tree config index
  if dump.isPrintable then return dump.render ++ "\n" else throw .overlong

end HeaderIndex.Dump
