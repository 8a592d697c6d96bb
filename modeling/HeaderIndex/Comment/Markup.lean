import HeaderIndex.Comment.Tag
import HeaderIndex.Text.Space

/-!
# The text of a comment

* `lines` — a comment without the marks that make it one.
* `splitEnum` — the comment of an enumeration: its description and the texts of its constants.
* `splitFunction` — the comment of a function: its description, the texts of its parameters, and
  what it says about the result.
* `clean` — a description without blank ends, tabs and common indentation.
-/

namespace HeaderIndex.Comment

/-! ## Decoration -/

/-- A text without one character of a set in front. -/
def dropOptional (allowed : List Char) : List Char → List Char
  | [] => []
  | c :: rest => if c ∈ allowed then rest else c :: rest

/-- A line without the mark that closes a block comment at its end: stars and a slash, with one
space in front of them and any white space behind. -/
def dropBlockEnd (line : List Char) : List Char :=
  match (Text.trimEnd line).reverse with
  | '/' :: '*' :: before => (dropOptional [' '] (before.dropWhile (· = '*'))).reverse
  | _ => line

/-- A line without the mark that opens a block comment or continues it: stars, with an optional slash
in front and an optional `!` or `<` and a space behind. -/
def dropBlockStart (line : List Char) : List Char :=
  match dropOptional ['/'] (Text.trimStart line) with
  | '*' :: rest => dropOptional [' '] (dropOptional ['!', '<'] (rest.dropWhile (· = '*')))
  | _ => line

/-- A line without the mark of a line comment: two slashes, and behind them an optional `/` or `!`,
an optional `<` and an optional space. -/
def dropLineStart (line : List Char) : List Char :=
  match Text.trimStart line with
  | '/' :: '/' :: rest => dropOptional [' '] (dropOptional ['<'] (dropOptional ['/', '!'] rest))
  | _ => line

/-- A line whose first two characters after white space are slashes. -/
def isLineComment (line : List Char) : Bool := ['/', '/'].isPrefixOf (Text.trimStart line)

/-- A line without the marks of a comment. -/
def undecorate (line : List Char) : List Char :=
  if isLineComment line then dropLineStart line else dropBlockStart (dropBlockEnd line)

/-- The tags that only say that a description follows. -/
def briefTag : Tag Unit := .ofWords ["\\brief ".toList, "\\determine ".toList] (by decide)

/-- A bracket as the parenthesis of the same side. -/
def roundBracket (c : Char) : Char := if c = '[' then '(' else if c = ']' then ')' else c

/-- A line of a comment as text: without decoration and description tags, and with parentheses for
square brackets. -/
def plainLine (line : List Char) : List Char :=
  (briefTag.strip (undecorate line)).2.map roundBracket

/-- The lines of text in a comment. -/
def lines (comment : String) : List String :=
  (comment.toList.splitOn '\n').map fun line => String.ofList (plainLine line)

/-! ## Descriptions by name -/

/-- Texts under names.  A name keeps the place of its first text. -/
abbrev Texts := List (String × List String)

/-- Starts a new text under a name; what stood there goes. -/
def Texts.start (name : String) : Texts → Texts
  | [] => [(name, [])]
  | entry :: rest => if entry.1 = name then (name, []) :: rest else entry :: start name rest

/-- Adds a line to the text under a name. -/
def Texts.add (name line : String) (texts : Texts) : Texts :=
  texts.map fun entry => if entry.1 = name then (name, entry.2 ++ [line]) else entry

/-- The text under a name. -/
def Texts.get? (texts : Texts) (name : String) : Option (List String) := texts.lookup name

/-- `@NAME: ` in front of the text of a constant. -/
def constantTag : Tag String := .between ["@".toList] ": ".toList (by decide)

/-- `\param NAME ` in front of the text of a parameter. -/
def parameterTag : Tag String :=
  .between ["\\param ".toList, "@param ".toList] " ".toList (by decide)

/-- `\returns ` in front of the text about a result. -/
def returnsTag : Tag Unit :=
  .ofWords ["\\returns ".toList, "@returns ".toList, "\\return ".toList, "@return ".toList]
    (by decide)

/-- The comment of an enumeration in parts; `current` is the constant whose text is being read. -/
structure EnumParts where
  description : List String
  constants : Texts
  current : Option String
  deriving DecidableEq, Repr

/-- Reads one line.  A constant's tag starts its text and a blank line ends it. -/
def EnumParts.add (parts : EnumParts) (line : String) : EnumParts :=
  let (names, text) := constantTag.strip line.toList
  let line := String.ofList text
  let parts := match names.head? with
    | some name => { parts with constants := parts.constants.start name, current := some name }
    | none => parts
  let parts := if Text.isBlank line then { parts with current := none } else parts
  match parts.current with
  | some name => { parts with constants := parts.constants.add name line }
  | none => { parts with description := parts.description ++ [line] }

/-- The description of an enumeration and the texts of its constants. -/
def splitEnum (comment : List String) : EnumParts := comment.foldl EnumParts.add ⟨[], [], none⟩

/-- What the lines of a function's comment are about. -/
inductive Topic where
  | function
  | parameter (name : String)
  | result
  deriving DecidableEq, Repr

/-- The comment of a function in parts; `current` is what is being read about. -/
structure FunctionParts where
  description : List String
  parameters : Texts
  result : List String
  current : Topic
  deriving DecidableEq, Repr

/-- Reads one line.  Of several parameters tagged in it the last one counts, and a tag for the result
counts more than these. -/
def FunctionParts.add (parts : FunctionParts) (line : String) : FunctionParts :=
  let (names, text) := parameterTag.strip line.toList
  let parts := match names.getLast? with
    | some name => { parts with parameters := parts.parameters.start name, current := .parameter name }
    | none => parts
  let (results, text) := returnsTag.strip text
  let parts := if results = [] then parts else { parts with current := .result }
  let line := String.ofList text
  match parts.current with
  | .function => { parts with description := parts.description ++ [line] }
  | .parameter name => { parts with parameters := parts.parameters.add name line }
  | .result => { parts with result := parts.result ++ [line] }

/-- The description of a function, the texts of its parameters and what is said about its result. -/
def splitFunction (comment : List String) : FunctionParts :=
  comment.foldl FunctionParts.add ⟨[], [], [], .function⟩

/-! ## Descriptions for output -/

/-- A line with four spaces for every tab. -/
def expandTabs (line : String) : String :=
  String.ofList (line.toList.flatMap fun c => if c = '\t' then [' ', ' ', ' ', ' '] else [c])

/-- Lines without the blank ones at both ends. -/
def trimBlank (lines : List String) : List String :=
  ((lines.dropWhile Text.isBlank).reverse.dropWhile Text.isBlank).reverse

/-- How many characters of white space a line starts with. -/
def indent (line : String) : Nat := (line.toList.takeWhile Text.isSpace).length

/-- The smallest indentation of the lines that are not blank, zero if there are none. -/
def commonIndent (lines : List String) : Nat :=
  (((lines.filter (!Text.isBlank ·)).map indent).min?).getD 0

/-- Lines with the common indentation taken off, each losing as many characters. -/
def dedent (lines : List String) : List String :=
  lines.map fun line => String.ofList (line.toList.drop (commonIndent lines))

/-- What stands for a missing description where one is asked for. -/
def notDocumented : String := "(Not documented)"

/-- A description for output: no tabs, no blank lines at the ends, no common indentation.  An empty
one is replaced by a remark if `remark` is set. -/
def clean (description : List String) (remark : Bool) : List String :=
  match dedent (trimBlank (description.map expandTabs)) with
  | [] => if remark then [notDocumented] else []
  | lines => lines

end HeaderIndex.Comment
