/-!
# The limit on digits

Decimal numerals with very many digits take too long to be read and to be written.  Neither is done
beyond a limit; numerals in bases that are powers of two may be of any length.
-/

namespace HeaderIndex.Numeral

/-- The most digits that a decimal numeral may have. -/
def maxDecimalDigits : Nat := 4300

/-- Whether the decimal numeral of an integer has more digits than that. -/
def isOverlong (value : Int) : Bool := Nat.pow 10 maxDecimalDigits ≤ value.natAbs

/-- What is told about a limit that is exceeded. -/
def excess (seen : String) : String :=
  "Exceeds the limit (" ++ toString maxDecimalDigits ++ " digits) for integer string conversion" ++
    seen ++ "; use sys.set_int_max_str_digits() to increase the limit"

/-- What is told if an integer cannot be written. -/
def unwritable : String := excess ""

/-- What is told if a numeral with a number of digits cannot be read. -/
def unreadable (digits : Nat) : String := excess (": value has " ++ toString digits ++ " digits")

end HeaderIndex.Numeral
