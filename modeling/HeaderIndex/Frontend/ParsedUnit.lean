import HeaderIndex.Frontend.Kind

/-!
# Parsed units

What a C front-end found in a source text: files, tokens, cursors, types and diagnostics, as tables
whose rows refer to each other by position.  A reference that leads nowhere means a missing cursor
or type, so every access is total.

* `cursor`, `type`, `canonicalType`, `canonicalCursor` — following references.
* `tokensBetween`, `tokensOf` — the tokens of a range and of a cursor.
-/

namespace HeaderIndex

/-- A place in a file, or in no file.  Files are given by position. -/
structure Location where
  file : Option Nat
  offset : Nat
  line : Nat
  deriving DecidableEq, Repr

/-- The place of what stands in no file. -/
def Location.missing : Location := ⟨none, 0, 0⟩

/-- The beginning of a file. -/
def Location.startOf (file : Nat) : Location := ⟨some file, 0, 1⟩

/-- A token, from offset `start` up to `stop`, on a line. -/
structure Token where
  kind : TokenKind
  spelling : String
  start : Nat
  stop : Nat
  line : Nat
  deriving DecidableEq, Repr

/-- The place where a token of a file ends. -/
def Token.stopIn (file : Option Nat) (token : Token) : Location := ⟨file, token.stop, token.line⟩

/-- A reference to a row of the table of types. -/
abbrev TypeRef := Option Nat

/-- A declaration or another node of the source. -/
structure Cursor where
  kind : CursorKind
  spelling : String
  location : Location
  start : Location
  stop : Location
  /-- the first of the declarations of the same thing, if that is another cursor -/
  canonical : Option Nat
  type : TypeRef
  underlying : TypeRef
  result : TypeRef
  children : List Nat
  isDefinition : Bool
  isAnonymous : Bool
  /-- tokens given with the cursor; else they are those of its extent -/
  tokens : Option (List Token)
  deriving DecidableEq, Repr

/-- The cursor that stands for a missing declaration. -/
def Cursor.missing : Cursor where
  kind := .noDeclaration
  spelling := ""
  location := .missing
  start := .missing
  stop := .missing
  canonical := none
  type := none
  underlying := none
  result := none
  children := []
  isDefinition := false
  isAnonymous := false
  tokens := none

/-- A type as spelled in the source. -/
structure SourceType where
  kind : TypeKind
  spelling : String
  declaration : Option Nat
  /-- the type without typedefs, if that is another row -/
  canonical : Option Nat
  pointee : TypeRef
  element : TypeRef
  result : TypeRef
  arguments : List TypeRef
  count : Int
  deriving DecidableEq, Repr

/-- The type that a missing reference leads to. -/
def SourceType.missing : SourceType where
  kind := .invalid
  spelling := ""
  declaration := none
  canonical := none
  pointee := none
  element := none
  result := none
  arguments := []
  count := -1

/-- A message of the front-end. -/
structure Diagnostic where
  severity : Int
  message : String
  location : Location
  column : Nat
  deriving DecidableEq, Repr

/-- Everything that a front-end reports about a source text. -/
structure ParsedUnit where
  files : Array String
  /-- the tokens of each file -/
  tokens : Array (List Token)
  cursors : Array Cursor
  types : Array SourceType
  /-- the top-level cursors, in the order of the front-end -/
  top : List Nat
  /-- the included files -/
  includes : List Nat
  diagnostics : List Diagnostic

namespace ParsedUnit

/-- The unit of an empty source. -/
def empty : ParsedUnit := ⟨#[], #[], #[], #[], [], [], []⟩

/-- A cursor by position. -/
def cursor (unit : ParsedUnit) (position : Nat) : Cursor :=
  unit.cursors[position]?.getD .missing

/-- The cursor of a reference. -/
def cursorAt (unit : ParsedUnit) (reference : Option Nat) : Cursor :=
  match reference with
  | some position => unit.cursor position
  | none => .missing

/-- The position of the first declaration of what a cursor declares. -/
def canonicalCursor (unit : ParsedUnit) (position : Nat) : Nat :=
  (unit.cursor position).canonical.getD position

/-- The type of a reference. -/
def type (unit : ParsedUnit) (reference : TypeRef) : SourceType :=
  match reference with
  | some position => unit.types[position]?.getD .missing
  | none => .missing

theorem cursor_of_size_le {unit : ParsedUnit} {position : Nat}
    (h : unit.cursors.size ≤ position) : unit.cursor position = .missing := by
  simp [cursor, Array.getElem?_eq_none h]

theorem type_of_size_le {unit : ParsedUnit} {row : Nat} (h : unit.types.size ≤ row) :
    unit.type (some row) = .missing := by
  simp [type, Array.getElem?_eq_none h]

/-- A reference to a type without typedefs. -/
def canonicalType (unit : ParsedUnit) (reference : TypeRef) : TypeRef :=
  match (unit.type reference).canonical with
  | some position => some position
  | none => reference

/-- The name of the file of a location. -/
def fileName? (unit : ParsedUnit) (location : Location) : Option String :=
  location.file.bind (unit.files[·]?)

/-- The tokens of a list up to and including the first one that ends at `stop` or later. -/
def takeThrough (stop : Nat) : List Token → List Token
  | [] => []
  | token :: rest => if stop ≤ token.stop then [token] else token :: takeThrough stop rest

/-- The tokens between two places of a file: those that start at the first place or later, up to and
including the first one that ends at the second place or later. -/
def tokensBetween (unit : ParsedUnit) (start stop : Location) : List Token :=
  match start.file with
  | none => []
  | some file =>
    if start.file = stop.file then
      takeThrough stop.offset ((unit.tokens[file]?.getD []).filter (start.offset ≤ ·.start))
    else []

/-- The tokens of a cursor. -/
def tokensOf (unit : ParsedUnit) (cursor : Cursor) : List Token :=
  cursor.tokens.getD (unit.tokensBetween cursor.start cursor.stop)

end ParsedUnit

end HeaderIndex
