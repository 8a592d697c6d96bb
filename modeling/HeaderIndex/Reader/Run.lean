import HeaderIndex.Reader.Callable

/-!
# Reading a parsed unit

The top-level declarations of visible files are read in the order of the front-end.  Each of them is
documented by the nearest comment in the gap in front of it.  `gaps` says where these gaps start:
behind the last declaration of the same file so far that closes gaps.  Structures, unions and
enumerations do not, since the typedef around one of them shares its comment, and macro expansions do
not either.
-/

namespace HeaderIndex.Reader

/-- For each file by name, the end of the last declaration that closed a gap. -/
abbrev Ends := List (String × Location)

/-- Where the gap in front of a declaration of a file starts. -/
def gapStart (ends : Ends) (file : Nat) (name : String) : Location :=
  (ends.lookup name).getD (.startOf file)

/-- Whether comments in front of a declaration belong to nothing behind it. -/
def closesGap (kind : CursorKind) : Bool := !kind.isTag && kind != .macroExpansion

/-- The ends after a declaration. -/
def closeGap (ends : Ends) (file : Nat) (name : String) (cursor : Cursor) : Ends :=
  if closesGap cursor.kind ∧ (gapStart ends file name).offset < cursor.stop.offset then
    (name, cursor.stop) :: ends
  else ends

/-- A top-level declaration: its position, the name of its file, and the start of the gap in front. -/
structure Declaration where
  position : Nat
  file : String
  gap : Location
  deriving DecidableEq, Repr

/-- The declarations among some cursors, leaving out what stands in no file. -/
def gapsFrom (unit : ParsedUnit) : Ends → List Nat → List Declaration
  | _, [] => []
  | ends, position :: rest =>
    let cursor := unit.cursor position
    match cursor.location.file, unit.fileName? cursor.location with
    | some file, some name =>
      ⟨position, name, gapStart ends file name⟩ ::
        gapsFrom unit (closeGap ends file name cursor) rest
    | _, _ => gapsFrom unit ends rest

/-- The top-level declarations of a unit with the gaps in front of them. -/
def gaps (unit : ParsedUnit) : List Declaration := gapsFrom unit [] unit.top

/-- The comment of a declaration. -/
def Declaration.comment (unit : ParsedUnit) (declaration : Declaration) : List String :=
  Comment.linesBefore unit declaration.gap (unit.cursor declaration.position).start

/-- Reads a declaration by its kind; what is of no other kind is passed over. -/
def readDeclaration (config : Config) (r : Resolver) (position : Nat) (comment : List String) :
    Action Unit :=
  let cursor := r.unit.cursor position
  match cursor.kind with
  | .enumDecl | .structDecl | .unionDecl => readTag r position comment
  | .functionDecl => readFunction config r position comment
  | .typedefDecl => readTypedef r cursor comment
  | .macroDefinition => readMacro r cursor
  | _ => Action.pure ()

/-- Reads a top-level declaration with its comment. -/
def readTop (config : Config) (r : Resolver) (declaration : Declaration) : Action Unit :=
  let cursor := r.unit.cursor declaration.position
  let place : Place := ⟨declaration.file, cursor.location.line, cursor.spelling⟩
  Action.inDeclaration place
    (readDeclaration config r declaration.position (declaration.comment r.unit))

/-- Reads the declarations of the visible files of a unit. -/
def readUnit (config : Config) (unit : ParsedUnit) (visible : List String) : Action Unit :=
  let r : Resolver := ⟨unit, config.prefixes, visible⟩
  Action.each ((gaps unit).filter fun declaration => visible.contains declaration.file) (readTop config r)

/-- The outcome of reading a unit: the index or an error, and the warnings in order. -/
structure Outcome where
  result : Except ReadError Index
  warnings : List Warning

/-- The outcome of a reading that ends in a state.  Once it is broken off, nothing else counts. -/
def Outcome.of (result : Except ReadError Unit) (state : State) : Outcome :=
  match state.cut, result with
  | some warnings, _ => ⟨.error .overlong, warnings.reverse⟩
  | none, .ok _ => ⟨.ok state.index, state.warnings.reverse⟩
  | none, .error error => ⟨.error error, state.warnings.reverse⟩

/-- Reads the declarations of the visible files of a unit into an empty index. -/
def read (config : Config) (unit : ParsedUnit) (visible : List String) : Outcome :=
  let (result, state) := readUnit config unit visible .initial
  Outcome.of result state

end HeaderIndex.Reader
