import HeaderIndex.Json

/-!
# Reading JSON

`Json.parse?` reads the text of one value, with white space anywhere between tokens.  Besides the
numbers of the standard it takes the words `NaN`, `Infinity` and `-Infinity`.  An integer is read
exactly, every other number is kept as it is written.
-/

namespace HeaderIndex.Json

/-- White space between tokens. -/
def isGap (c : Char) : Bool := c = ' ' || c = '\n' || c = '\r' || c = '\t'

/-- A text without the white space in front. -/
def skipGap (text : List Char) : List Char := text.dropWhile isGap

/-- The value of a hexadecimal digit. -/
def hexValue? (c : Char) : Option Nat :=
  if '0' ≤ c ∧ c ≤ '9' then some (c.toNat - '0'.toNat)
  else if 'a' ≤ c ∧ c ≤ 'f' then some (c.toNat - 'a'.toNat + 10)
  else if 'A' ≤ c ∧ c ≤ 'F' then some (c.toNat - 'A'.toNat + 10)
  else none

/-- The code unit of four hexadecimal digits, and the text after them. -/
def unit? : List Char → Option (Nat × List Char)
  | a :: b :: c :: d :: rest => do
    let a ← hexValue? a
    let b ← hexValue? b
    let c ← hexValue? c
    let d ← hexValue? d
    return (((a * 16 + b) * 16 + c) * 16 + d, rest)
  | _ => none

/-- The character of a code unit, which takes a second unit with it if the two are a surrogate pair,
and the text after it.  Half of a pair alone is replaced by U+FFFD. -/
def unitChar (unit : Nat) (rest : List Char) : Char × List Char :=
  if 0xd800 ≤ unit ∧ unit < 0xdc00 then
    match rest with
    | '\\' :: 'u' :: more =>
      match unit? more with
      | some (low, after) =>
        if 0xdc00 ≤ low ∧ low < 0xe000 then
          (Char.ofNat (0x10000 + (unit - 0xd800) * 0x400 + (low - 0xdc00)), after)
        else ('\uFFFD', rest)
      | none => ('\uFFFD', rest)
    | _ => ('\uFFFD', rest)
  else if 0xdc00 ≤ unit ∧ unit < 0xe000 then ('\uFFFD', rest)
  else (Char.ofNat unit, rest)

/-- The character that an escape stands for, given the text after its backslash. -/
def escaped? : List Char → Option (Char × List Char)
  | '"' :: rest => some ('"', rest)
  | '\\' :: rest => some ('\\', rest)
  | '/' :: rest => some ('/', rest)
  | 'b' :: rest => some ('\x08', rest)
  | 'f' :: rest => some ('\x0c', rest)
  | 'n' :: rest => some ('\n', rest)
  | 'r' :: rest => some ('\r', rest)
  | 't' :: rest => some ('\t', rest)
  | 'u' :: rest => (unit? rest).map fun (unit, after) => unitChar unit after
  | _ => none

/-- The characters of a string up to its closing quote, and the text after it. -/
def chars? : Nat → List Char → Option (List Char × List Char)
  | 0, _ => none
  | _ + 1, [] => none
  | fuel + 1, c :: rest =>
    if c = '"' then some ([], rest)
    else if c = '\\' then do
      let (c, rest) ← escaped? rest
      let (more, after) ← chars? fuel rest
      return (c :: more, after)
    else if c.toNat < 0x20 then none
    else do
      let (more, after) ← chars? fuel rest
      return (c :: more, after)

/-- The text after a word that it begins with. -/
def word? (word : String) (text : List Char) : Option (List Char) :=
  if word.toList.isPrefixOf text then some (text.drop word.length) else none

/-- The ASCII digits that a text begins with, and the text after them. -/
def digits (text : List Char) : List Char × List Char := text.span Char.isDigit

/-- The fraction that a text begins with, empty if there is none, and the text after it. -/
def fraction? : List Char → Option (List Char × List Char)
  | '.' :: rest =>
    match digits rest with
    | ([], _) => none
    | (ds, after) => some ('.' :: ds, after)
  | rest => some ([], rest)

/-- The exponent that a text begins with, empty if there is none, and the text after it. -/
def exponent? : List Char → Option (List Char × List Char)
  | e :: rest =>
    if e = 'e' ∨ e = 'E' then
      let (sign, rest) := match rest with
        | '-' :: after => (['-'], after)
        | '+' :: after => (['+'], after)
        | after => ([], after)
      match digits rest with
      | ([], _) => none
      | (ds, after) => some (e :: sign ++ ds, after)
    else some ([], e :: rest)
  | [] => some ([], [])

/-- The number that digits denote. -/
def natOfDigits (ds : List Char) : Nat := ds.foldl (fun n c => n * 10 + (c.toNat - '0'.toNat)) 0

/-- A number without its sign, which has been read, and the text after it. -/
def unsigned? (negative : Bool) (text : List Char) : Option (Json × List Char) :=
  match digits text with
  | ([], _) => none
  | ('0' :: _ :: _, _) => none
  | (whole, rest) => do
    let (fraction, rest) ← fraction? rest
    let (exponent, rest) ← exponent? rest
    if fraction = [] ∧ exponent = [] then
      let value : Int := natOfDigits whole
      return (.int (if negative then -value else value), rest)
    else
      let numeral := whole ++ fraction ++ exponent
      return (.real (String.ofList (if negative then '-' :: numeral else numeral)), rest)

/-- A number or another word, and the text after it. -/
def scalar? (text : List Char) : Option (Json × List Char) :=
  (word? "null" text).map (.null, ·)
    <|> (word? "true" text).map (.bool true, ·)
    <|> (word? "false" text).map (.bool false, ·)
    <|> (word? "NaN" text).map (.real "NaN", ·)
    <|> (word? "Infinity" text).map (.real "Infinity", ·)
    <|> (word? "-Infinity" text).map (.real "-Infinity", ·)
    <|> match text with
      | '-' :: rest => unsigned? true rest
      | rest => unsigned? false rest

mutual

/-- A value at the beginning of a text, and the text after it. -/
def value? : Nat → List Char → Option (Json × List Char)
  | 0, _ => none
  | fuel + 1, text =>
    match skipGap text with
    | '"' :: rest => (chars? fuel rest).map fun (cs, after) => (.str (String.ofList cs), after)
    | '[' :: rest =>
      match skipGap rest with
      | ']' :: after => some (.arr [], after)
      | _ => do
        let (item, rest) ← value? fuel rest
        let (more, after) ← items? fuel rest
        return (.arr (item :: more), after)
    | '\x7b' :: rest =>
      match skipGap rest with
      | '\x7d' :: after => some (.obj [], after)
      | _ => do
        let (member, rest) ← member? fuel rest
        let (more, after) ← members? fuel rest
        return (.obj (member :: more), after)
    | rest => scalar? rest

/-- The items of an array after the first one, up to its closing bracket. -/
def items? : Nat → List Char → Option (List Json × List Char)
  | 0, _ => none
  | fuel + 1, text =>
    match skipGap text with
    | ']' :: after => some ([], after)
    | ',' :: rest => do
      let (item, rest) ← value? fuel rest
      let (more, after) ← items? fuel rest
      return (item :: more, after)
    | _ => none

/-- A member of an object. -/
def member? : Nat → List Char → Option ((String × Json) × List Char)
  | 0, _ => none
  | fuel + 1, text =>
    match skipGap text with
    | '"' :: rest => do
      let (name, rest) ← chars? fuel rest
      match skipGap rest with
      | ':' :: rest =>
        let (value, after) ← value? fuel rest
        return ((String.ofList name, value), after)
      | _ => none
    | _ => none

/-- The members of an object after the first one, up to its closing brace. -/
def members? : Nat → List Char → Option (List (String × Json) × List Char)
  | 0, _ => none
  | fuel + 1, text =>
    match skipGap text with
    | '\x7d' :: after => some ([], after)
    | ',' :: rest => do
      let (member, rest) ← member? fuel rest
      let (more, after) ← members? fuel rest
      return (member :: more, after)
    | _ => none

end

/-- The value that a text consists of. -/
def parse? (text : String) : Option Json :=
  match value? (2 * text.length + 2) text.toList with
  | some (json, rest) => if skipGap rest = [] then some json else none
  | none => none

end HeaderIndex.Json
