import HeaderIndex.Json
import HeaderIndex.Number.Digits
import HeaderIndex.Text.Quoted

/-!
# Printing JSON

`Json.render` writes one item or member a line, indented by two spaces for each level around it, and
keeps to ASCII: every other character is escaped, those beyond the basic plane as a surrogate pair.
Values with integers of too many digits are not written, as `Json.isPrintable` tells.
-/

namespace HeaderIndex.Json

/-- `\u` and the four digits of a code unit. -/
def unitEscape (unit : Nat) : List Char := '\\' :: 'u' :: Text.hexDigits 4 unit

/-- A character inside a string. -/
def escapeChar (c : Char) : List Char :=
  if c = '"' then ['\\', '"']
  else if c = '\\' then ['\\', '\\']
  else if c = '\n' then ['\\', 'n']
  else if c = '\r' then ['\\', 'r']
  else if c = '\t' then ['\\', 't']
  else if c.toNat = 0x08 then ['\\', 'b']
  else if c.toNat = 0x0c then ['\\', 'f']
  else if 0x20 ≤ c.toNat ∧ c.toNat ≤ 0x7e then [c]
  else if c.toNat < 0x10000 then unitEscape c.toNat
  else
    unitEscape (0xd800 + (c.toNat - 0x10000) / 0x400) ++
      unitEscape (0xdc00 + (c.toNat - 0x10000) % 0x400)

/-- A text between double quotes. -/
def quote (text : String) : List Char := '"' :: text.toList.flatMap escapeChar ++ ['"']

/-- A line break and the indentation of a level. -/
def newLine (level : Nat) : List Char := '\n' :: List.replicate (2 * level) ' '

mutual

/-- A value, the lines after its first one indented for a level. -/
def pretty (level : Nat) : Json → List Char
  | null => "null".toList
  | bool true => "true".toList
  | bool false => "false".toList
  | int value => (toString value).toList
  | real numeral => numeral.toList
  | str text => quote text
  | arr [] => ['[', ']']
  | arr (item :: more) =>
    '[' :: newLine (level + 1) ++ pretty (level + 1) item ++ prettyItems (level + 1) more ++
      newLine level ++ [']']
  | obj [] => ['\x7b', '\x7d']
  | obj (member :: more) =>
    '\x7b' :: newLine (level + 1) ++ prettyMember (level + 1) member ++
      prettyMembers (level + 1) more ++ newLine level ++ ['\x7d']

/-- The items of an array after the first one. -/
def prettyItems (level : Nat) : List Json → List Char
  | [] => []
  | item :: more => ',' :: newLine level ++ pretty level item ++ prettyItems level more

/-- The members of an object after the first one. -/
def prettyMembers (level : Nat) : List (String × Json) → List Char
  | [] => []
  | member :: more => ',' :: newLine level ++ prettyMember level member ++ prettyMembers level more

/-- A member of an object. -/
def prettyMember (level : Nat) : String × Json → List Char
  | (name, value) => quote name ++ ':' :: ' ' :: pretty level value

end

mutual

/-- Whether every integer in a value has few enough digits to be written. -/
def isPrintable : Json → Bool
  | int value => !Numeral.isOverlong value
  | arr items => arePrintable items
  | obj members => membersPrintable members
  | _ => true

/-- Whether all items of an array can be written. -/
def arePrintable : List Json → Bool
  | [] => true
  | item :: more => isPrintable item && arePrintable more

/-- Whether all members of an object can be written. -/
def membersPrintable : List (String × Json) → Bool
  | [] => true
  | (_, value) :: more => isPrintable value && membersPrintable more

end

/-- The text of a value. -/
def render (json : Json) : String := String.ofList (pretty 0 json)

end HeaderIndex.Json
