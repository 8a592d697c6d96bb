import HeaderIndex.Number
import HeaderIndex.Number.Shortest

/-!
# The text of a number

Integers are written in full.  A float is written by the fewest digits that read back as it, always
with a point or an exponent.
-/

namespace HeaderIndex

/-- How floats are written: from which power of ten on, and below which one, an exponent is used,
and the words for what is not finite. -/
structure FloatStyle where
  exponentFrom : Int
  exponentBelow : Int
  infinity : String
  notANumber : String

/-- Floats in messages and in text of C: an exponent from `1e+16` on and below `0.0001`. -/
def FloatStyle.plain : FloatStyle := ⟨16, -4, "inf", "nan"⟩

/-- Floats in a dump: as elsewhere, with other words for what is not finite. -/
def FloatStyle.dump : FloatStyle := { FloatStyle.plain with infinity := "Infinity", notANumber := "NaN" }

/-- The digits of a decimal without zeros at the end, and the power of ten of the first one. -/
def Shortest.Decimal.scientific (d : Shortest.Decimal) : List Char × Int :=
  let digits := Nat.toDigits 10 d.digits
  (((digits.reverse.dropWhile (· = '0')).reverse), d.place + digits.length - 1)

/-- Digits in front of a point and behind it. -/
def positional (digits : List Char) (exponent : Int) : List Char :=
  if exponent < 0 then
    '0' :: '.' :: List.replicate ((-exponent).toNat - 1) '0' ++ digits
  else
    let whole := exponent.toNat + 1
    let padded := digits ++ List.replicate (whole - digits.length) '0'
    let fraction := digits.drop whole
    padded.take whole ++ '.' :: (if fraction = [] then ['0'] else fraction)

/-- One digit in front of the point, the others behind it, and the exponent with a sign and at least
two digits. -/
def withExponent (digits : List Char) (exponent : Int) : List Char :=
  let mantissa := match digits with
    | [] => ['0']
    | [d] => [d]
    | d :: more => d :: '.' :: more
  let size := Nat.toDigits 10 exponent.natAbs
  mantissa ++ 'e' :: (if exponent < 0 then '-' else '+') ::
    (if size.length < 2 then '0' :: size else size)

/-- The text of the magnitude of a finite float. -/
def FloatStyle.magnitude (style : FloatStyle) (value : Float) : List Char :=
  if value == 0 then "0.0".toList
  else
    let (digits, exponent) := (Shortest.decimal value).scientific
    if exponent < style.exponentBelow ∨ style.exponentFrom ≤ exponent then
      withExponent digits exponent
    else positional digits exponent

/-- Whether the sign of a float is set; zero and what is not finite have a sign too. -/
def isNegativeFloat (value : Float) : Bool := 0x8000000000000000 ≤ value.toBits.toNat

/-- The text of a float. -/
def FloatStyle.text (style : FloatStyle) (value : Float) : String :=
  if value.isNaN then style.notANumber
  else
    let magnitude := if value.isInf then style.infinity.toList else style.magnitude value
    String.ofList (if isNegativeFloat value then '-' :: magnitude else magnitude)

/-- The text of a number in messages, which ask before whether an integer is overlong. -/
def Number.text : Number → String
  | .int value => toString value
  | .float value => FloatStyle.plain.text value

end HeaderIndex
