import HeaderIndex.Number
import HeaderIndex.Number.Shortest
import HeaderIndex.Text.Digit
import HeaderIndex.Text.Space

/-!
# Reading numerals

A numeral is a run of digits of any script, in which single underscores may stand between digits,
with an optional sign in front and blanks at the ends.

* `Numeral.integer?` — a numeral in a given base, which may announce base two or sixteen itself.
* `Numeral.float?` — a decimal with a point or an exponent, rounded to the nearest float.
-/

namespace HeaderIndex.Numeral

/-- Blanks that may surround a numeral: white space other than the information separators. -/
def isBlank (c : Char) : Bool := Text.isSpace c && !(0x1c ≤ c.toNat && c.toNat ≤ 0x1f)

/-- A text without the blanks at its ends. -/
def trim (text : List Char) : List Char :=
  ((text.dropWhile isBlank).reverse.dropWhile isBlank).reverse

/-- The rest of a run of digits: whatever digits and single underscores in front of digits follow,
and the text after them. -/
def moreDigits (base : Nat) : List Char → List Nat × List Char
  | '_' :: c :: rest =>
    match Text.digitInBase? base c with
    | some d => let (more, after) := moreDigits base rest; (d :: more, after)
    | none => ([], '_' :: c :: rest)
  | c :: rest =>
    match Text.digitInBase? base c with
    | some d => let (more, after) := moreDigits base rest; (d :: more, after)
    | none => ([], c :: rest)
  | [] => ([], [])

/-- The run of digits that a text begins with, and the text after it. -/
def digits (base : Nat) : List Char → List Nat × List Char
  | [] => ([], [])
  | c :: rest =>
    match Text.digitInBase? base c with
    | some d => let (more, after) := moreDigits base rest; (d :: more, after)
    | none => ([], c :: rest)

/-- The number that digits denote in a base, the first digit being the highest. -/
def ofDigits (base : Nat) (ds : List Nat) : Nat := ds.foldl (fun value d => value * base + d) 0

/-- Whether a text starts with a minus sign, and the text after its sign. -/
def sign : List Char → Bool × List Char
  | '-' :: rest => (true, rest)
  | '+' :: rest => (false, rest)
  | rest => (false, rest)

/-- The letter that announces a base after a zero. -/
def baseLetters (base : Nat) : List Char :=
  if base = 16 then ['x', 'X'] else if base = 2 then ['b', 'B'] else []

/-- The text after an announcement of the base and one underscore behind it. -/
def dropBase (base : Nat) : List Char → List Char
  | '0' :: letter :: rest =>
    if letter ∈ baseLetters base then
      match rest with
      | '_' :: rest => rest
      | rest => rest
    else '0' :: letter :: rest
  | text => text

/-- The integer that a numeral denotes in a base. -/
def integer? (base : Nat) (text : List Char) : Option Int :=
  let (negative, unsigned) := sign (trim text)
  match digits base (dropBase base unsigned) with
  | ([], _) => none
  | (ds, []) =>
    if base = 10 ∧ maxDecimalDigits < ds.length then none
    else
      let value : Int := ofDigits base ds
      some (if negative then -value else value)
  | (_, _ :: _) => none

/-! ## Floats -/

/-- The digits in front of a point and behind it, at least one in all, and the text after them. -/
def mantissa? (text : List Char) : Option (List Nat × List Nat × List Char) :=
  let (whole, rest) := digits 10 text
  let (fraction, rest) := match rest with
    | '.' :: after => digits 10 after
    | rest => ([], rest)
  if whole = [] ∧ fraction = [] then none else some (whole, fraction, rest)

/-- The exponent that a text consists of; an empty text stands for zero. -/
def exponent? : List Char → Option Int
  | [] => some 0
  | letter :: rest =>
    if letter = 'e' ∨ letter = 'E' then
      let (negative, unsigned) := sign rest
      match digits 10 unsigned with
      | ([], _) => none
      | (ds, []) => some (if negative then -(ofDigits 10 ds : Int) else ofDigits 10 ds)
      | (_, _ :: _) => none
    else none

/-- The float nearest to `significand * 10 ^ exponent`.  Far outside the range of floats the answer
is infinity or zero, whatever the digits are. -/
def nearestFloat (significand : Nat) (exponent : Int) : Float :=
  let size := exponent + Shortest.digitCount significand
  if significand = 0 ∨ size < -400 then 0
  else if 400 < size then 1 / 0
  else Float.ofScientific significand (exponent < 0) exponent.natAbs

/-- The float that a decimal numeral denotes. -/
def float? (text : List Char) : Option Float := do
  let (negative, unsigned) := sign (trim text)
  let (whole, fraction, rest) ← mantissa? unsigned
  let exponent ← exponent? rest
  let value := nearestFloat (ofDigits 10 (whole ++ fraction)) (exponent - fraction.length)
  return if negative then -value else value

end HeaderIndex.Numeral
