import HeaderIndex.Name
import HeaderIndex.Text.Digit

/-!
# Writing names

`Name.format` writes a name under a set of casings.  Two touches make the result usable as an
identifier: an underscore in front of a leading digit and, after that, an underscore behind a
reserved word.
-/

namespace HeaderIndex

/-- How the words of a name are written. -/
inductive Casing where
  /-- every word in lower case -/
  | downcase
  /-- every word in upper case -/
  | upcase
  /-- every word with a capital -/
  | camelcase
  /-- the first word with a small first letter -/
  | initialDowncase
  deriving DecidableEq, Repr

/-- The casing that a word asks for. -/
def Casing.ofWord? : String → Option Casing
  | "downcase" => some .downcase
  | "upcase" => some .upcase
  | "camelcase" => some .camelcase
  | "initial_downcase" => some .initialDowncase
  | _ => none

/-- Why a name cannot be written. -/
inductive FormatError where
  /-- words that ask for no casing, in order and without repetition -/
  | unknownCasing (words : List String)
  /-- the first letter of an empty word was asked for -/
  | emptyWord
  deriving DecidableEq, Repr

/-- The text of an error, where it has one. -/
def FormatError.message : FormatError → String
  | .unknownCasing words => "Unknown casing mode(s): " ++ ", ".intercalate words
  | .emptyWord => ""

/-- The different texts of a list in the order of their code points. -/
def sortedTexts (texts : List String) : List String :=
  texts.eraseDups.mergeSort (fun a b => decide (a ≤ b))

/-- The casings that a list of words asks for. -/
def Casing.ofWords (words : List String) : Except FormatError (List Casing) :=
  let unknown := words.filter fun word => (Casing.ofWord? word).isNone
  if unknown = [] then .ok (words.filterMap Casing.ofWord?)
  else .error (.unknownCasing (sortedTexts unknown))

namespace Name

/-- A word with its first letter in upper case. -/
def capitalize : List Char → Except FormatError (List Char)
  | [] => .error .emptyWord
  | c :: rest => .ok (Text.upperChar c ++ rest)

/-- The words with the first letter of the first one in lower case. -/
def uncapitalizeFirst : List (List Char) → Except FormatError (List (List Char))
  | [] => .ok []
  | [] :: _ => .error .emptyWord
  | (c :: rest) :: more => .ok ((Text.lowerChar c ++ rest) :: more)

/-- Words under a set of casings.  Whatever the order in the set, whole words change before their
first letters do. -/
def recase (casing : List Casing) (words : List (List Char)) :
    Except FormatError (List (List Char)) := do
  let words := if .downcase ∈ casing then words.map Text.lower else words
  let words := if .upcase ∈ casing then words.map Text.upper else words
  let words ← if .camelcase ∈ casing then words.mapM capitalize else .ok words
  if .initialDowncase ∈ casing then uncapitalizeFirst words else .ok words

/-- A text with an underscore in front if it starts with a digit. -/
def guardDigit (text : List Char) : List Char :=
  match text with
  | [] => []
  | c :: rest => if Text.isDigit c then '_' :: c :: rest else c :: rest

/-- A text with an underscore behind it if it is reserved. -/
def guardReserved (reserved : List String) (text : String) : String :=
  if text ∈ reserved then text ++ "_" else text

/-- A name as an identifier: its words recased and joined, kept from starting with a digit, and then
kept from being one of the reserved words. -/
def format (name : Name) (casing : List Casing) (joiner : String) (reserved : List String) :
    Except FormatError String := do
  let words ← recase casing (name.parts.map String.toList)
  let joined := joiner.toList.intercalate words
  return guardReserved reserved (String.ofList (guardDigit joined))

end Name

end HeaderIndex
