import HeaderIndex.Number.Numeral
import HeaderIndex.Text.Case

/-!
# Numeric literals of C

`Literal.value?` reads a literal token as a number.  Digit separators are dropped and the suffix for
the type is ignored.  A point or an exponent makes a float; otherwise the beginning of the token
tells the base.  A token that is no numeral has no value.
-/

namespace HeaderIndex.Literal

/-- The type suffixes of integers; where two fit the end of a token, the one listed first goes. -/
def integerSuffixes : List (List Char) :=
  ["ULL", "LLU", "LL", "UL", "LU", "U", "L"].map String.toList

/-- A token without its integer suffix in either case. -/
def dropIntegerSuffix (token : List Char) : List Char :=
  match integerSuffixes.find? (·.isSuffixOf (Text.upper token)) with
  | some suffix => token.take (token.length - suffix.length)
  | none => token

/-- A token without one letter for a type of floats. -/
def dropFloatSuffix (token : List Char) : List Char :=
  if token.getLast?.any (· ∈ ['f', 'F', 'l', 'L']) then token.dropLast else token

/-- A token that starts like a hexadecimal number. -/
def isHexadecimal (token : List Char) : Bool := ['0', 'x'].isPrefixOf (Text.lower token)

/-- A token that starts like a binary number. -/
def isBinary (token : List Char) : Bool := ['0', 'b'].isPrefixOf (Text.lower token)

/-- A zero with nothing but digits behind it. -/
def isOctal : List Char → Bool
  | '0' :: c :: rest => (c :: rest).all Text.isDigit
  | _ => false

/-- A token with a point or an exponent. -/
def isFloating (token : List Char) : Bool :=
  !isHexadecimal token && (token.contains '.' || (Text.lower token).contains 'e')

/-- The base that the beginning of a token tells, `digits` being the token without its suffix. -/
def base (token digits : List Char) : Nat :=
  if isHexadecimal token then 16
  else if isBinary token then 2
  else if isOctal digits then 8
  else 10

/-- The number that a literal token denotes. -/
def value? (spelling : String) : Option Number :=
  let token := spelling.toList.filter (· ≠ '\'')
  if isFloating token then (Numeral.float? (dropFloatSuffix token)).map .float
  else
    let digits := dropIntegerSuffix token
    (Numeral.integer? (base token digits) digits).map .int

end HeaderIndex.Literal
