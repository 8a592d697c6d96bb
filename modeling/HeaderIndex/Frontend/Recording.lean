import HeaderIndex.CommandLine

/-!
# Recordings

What a front-end reported about a source, what programs answered and which options were given can be
kept as a JSON value.  `Recording.unit`, `Recording.system` and `Recording.options` read such values.
Members that are left out stand for what is empty or missing, and so does what has another shape than
expected.
-/

namespace HeaderIndex.Recording

/-! ## Members of objects -/

/-- A text. -/
def text (json : Json) (name : String) : String := ((json.get? name).bind Json.text?).getD ""

/-- An array. -/
def list (json : Json) (name : String) : List Json := ((json.get? name).map Json.items).getD []

/-- A reference to a row of a table. -/
def reference (json : Json) (name : String) : Option Nat := (json.get? name).bind Json.nat?

/-- References to rows of a table. -/
def references (json : Json) (name : String) : List Nat := (list json name).filterMap Json.nat?

/-- Texts. -/
def texts (json : Json) (name : String) : List String := (list json name).filterMap Json.text?

/-- A truth value. -/
def flag (json : Json) (name : String) : Bool := ((json.get? name).map Json.isTrue).getD false

/-! ## Parsed units -/

/-- The kind of token with a given letter. -/
def tokenKind? : String → Option TokenKind
  | "P" => some .punctuation
  | "K" => some .keyword
  | "I" => some .identifier
  | "L" => some .literal
  | "C" => some .comment
  | _ => none

/-- The letter of a kind of token. -/
def tokenLetter : TokenKind → String
  | .punctuation => "P"
  | .keyword => "K"
  | .identifier => "I"
  | .literal => "L"
  | .comment => "C"

/-- The kind of cursor with a given name. -/
def cursorKind : String → CursorKind
  | "STRUCT_DECL" => .structDecl
  | "UNION_DECL" => .unionDecl
  | "ENUM_DECL" => .enumDecl
  | "FIELD_DECL" => .fieldDecl
  | "ENUM_CONSTANT_DECL" => .enumConstantDecl
  | "FUNCTION_DECL" => .functionDecl
  | "PARM_DECL" => .parameterDecl
  | "TYPEDEF_DECL" => .typedefDecl
  | "MACRO_DEFINITION" => .macroDefinition
  | "MACRO_INSTANTIATION" => .macroExpansion
  | "NO_DECL_FOUND" => .noDeclaration
  | _ => .other

/-- The name of a kind of type: its spelling in capitals, without underscores except for those of the
two kinds of `char`. -/
def typeKindName (kind : TypeKind) : String := kind.spelling.map Char.toUpper

/-- The kind of type with a given name. -/
def typeKind (name : String) : TypeKind :=
  (TypeKind.all.find? (typeKindName · = name)).getD .invalid

/-- A token, given as an array. -/
def token? : Json → Option Token
  | .arr [.str letter, .str spelling, start, stop, line] => do
    return ⟨← tokenKind? letter, spelling, ← start.nat?, ← stop.nat?, ← line.nat?⟩
  | _ => none

/-- A location, given as an array of the file, the offset, the line and what else there is. -/
def location : Json → Location
  | .arr (file :: offset :: line :: _) => ⟨file.nat?, offset.nat?.getD 0, line.nat?.getD 0⟩
  | _ => .missing

/-- A location that may be left out. -/
def locationAt (json : Json) (name : String) : Location :=
  ((json.get? name).map location).getD .missing

/-- A cursor. -/
def cursor (json : Json) : Cursor where
  kind := cursorKind (text json "kind")
  spelling := text json "spelling"
  location := locationAt json "at"
  start := locationAt json "from"
  stop := locationAt json "to"
  canonical := reference json "canon"
  type := reference json "type"
  underlying := reference json "under"
  result := reference json "result"
  children := references json "kids"
  isDefinition := flag json "def"
  isAnonymous := flag json "anon"
  tokens := match json.get? "toks" with
    | some (.arr rows) => some (rows.filterMap token?)
    | _ => none

/-- A type. -/
def sourceType (json : Json) : SourceType where
  kind := typeKind (text json "kind")
  spelling := text json "spelling"
  declaration := reference json "decl"
  canonical := reference json "canon"
  pointee := reference json "pointee"
  element := reference json "element"
  result := reference json "result"
  arguments := (list json "args").map Json.nat?
  count := ((json.get? "count").bind Json.int?).getD (-1)

/-- A diagnostic, given as an array of its severity, its message and a location with a column. -/
def diagnostic? : Json → Option Diagnostic
  | .arr [severity, .str message, place] => do
    let column := match place with
      | .arr [_, _, _, column] => column.nat?.getD 0
      | _ => 0
    return ⟨← severity.int?, message, location place, column⟩
  | _ => none

/-- A parsed unit. -/
def unit (json : Json) : ParsedUnit where
  files := (texts json "files").toArray
  tokens := ((list json "tokens").map fun rows => rows.items.filterMap token?).toArray
  cursors := ((list json "cursors").map cursor).toArray
  types := ((list json "types").map sourceType).toArray
  top := references json "top"
  includes := references json "includes"
  diagnostics := (list json "diagnostics").filterMap diagnostic?

/-! ## Systems -/

/-- What came of running a program. -/
def programResult (json : Json) : ProgramResult :=
  match (json.get? "raise").bind Json.text? with
  | some "timeout" => .timedOut
  | some "undecodable" => .undecodable ⟨text json "message"⟩
  | some _ => .refused
  | none =>
    .finished (text json "stdout") (text json "stderr")
      (((json.get? "returncode").bind Json.int?).getD 0)

/-- A system whose installed programs are those with an answer.  `globs` gives the files that globs
stand for, and `files` lists the files there are. -/
def system (platform : String) (programs globs files : Json) : System where
  platform
  program? name := (programs.get? name).map fun answer _ => programResult answer
  glob pattern := texts globs pattern
  isFile path := files.items.any fun file => file.text? = some path

/-! ## Options -/

/-- The language with a given name. -/
def language : String → TargetLanguage
  | "java" => .java
  | "ruby" => .ruby
  | _ => .python

/-- The values of options, for an output that takes everything. -/
def options (json : Json) : CommandLine.Options where
  version := flag json "version"
  debug := flag json "debug"
  output := .opened none
  moduleName := (json.get? "module_name").bind Json.text?
  ffiLib := (json.get? "ffi_lib").bind Json.text?
  prefixes := texts json "prefixes"
  blocking := texts json "blocking"
  language := language (text json "keywords")
  reservedWords := texts json "reserved_words"
  includeDirectories := texts json "include_dir"
  defines := texts json "defines"
  standard := (json.get? "std").bind Json.text?
  clangArguments := texts json "clang_arg"
  withSystemIncludes := !flag json "no_default_includes"
  headers := texts json "headers"

end HeaderIndex.Recording
