import HeaderIndex.Number.Digits

/-!
# Numbers of constants

The value of a constant is an unbounded integer or a double-precision float.  Sums mix the two by
taking the integer as a float; shifts are for integers alone.
-/

namespace HeaderIndex

/-- An integer of any size, or a float. -/
inductive Number where
  | int (value : Int)
  | float (value : Float)
  deriving DecidableEq, Repr

/-- The direction of a shift. -/
inductive Shift where
  | left
  | right
  deriving DecidableEq, Repr

/-- Why an operation has no result. -/
inductive ArithmeticError where
  /-- a shift by more than the widest integer has bits -/
  | shiftTooWide (count : Int)
  | negativeShift
  /-- a shift with a float on one side -/
  | shiftOfFloat (shift : Shift) (left right : Number)
  /-- an integer outside the range of floats, combined with a float -/
  | tooLargeForFloat
  deriving DecidableEq, Repr

namespace Number

/-- An integer as the nearest float, if there is a finite one. -/
def ofIntAsFloat (value : Int) : Except ArithmeticError Float :=
  let float := Float.ofInt value
  if float.isInf then .error .tooLargeForFloat else .ok float

/-- Combines two numbers: as integers if both are, else as floats. -/
def combine (onInts : Int → Int → Int) (onFloats : Float → Float → Float) :
    Number → Number → Except ArithmeticError Number
  | .int a, .int b => .ok (.int (onInts a b))
  | .float a, .float b => .ok (.float (onFloats a b))
  | .int a, .float b => return .float (onFloats (← ofIntAsFloat a) b)
  | .float a, .int b => return .float (onFloats a (← ofIntAsFloat b))

/-- The sum of two numbers. -/
def add : Number → Number → Except ArithmeticError Number := combine (· + ·) (· + ·)

/-- The difference of two numbers. -/
def sub : Number → Number → Except ArithmeticError Number := combine (· - ·) (· - ·)

/-- The number of the opposite sign. -/
def neg : Number → Number
  | .int a => .int (-a)
  | .float a => .float (-a)

/-- One more than a number. -/
def succ : Number → Number
  | .int a => .int (a + 1)
  | .float a => .float (a + 1)

/-- The widest shift: more bits than this has no integer type of C. -/
def maxShift : Nat := 64

/-- A shift by a count of bits.  The count is checked for its size before anything else; a shift to
the right rounds down. -/
def shift (direction : Shift) (value count : Number) : Except ArithmeticError Number :=
  match count with
  | .float _ => .error (.shiftOfFloat direction value count)
  | .int bits =>
    if bits > maxShift then .error (.shiftTooWide bits)
    else match value with
      | .float _ => .error (.shiftOfFloat direction value count)
      | .int a =>
        if bits < 0 then .error .negativeShift
        else match direction with
          | .left => .ok (.int (a <<< bits.toNat))
          | .right => .ok (.int (a >>> bits.toNat))

/-- Whether a number is an integer with too many digits to be written. -/
def isOverlong : Number → Bool
  | .int value => Numeral.isOverlong value
  | .float _ => false

/-- What a number is called in messages. -/
def kindName : Number → String
  | .int _ => "int"
  | .float _ => "float"

end Number

/-- The sign of a shift in messages and in source text. -/
def Shift.sign : Shift → String
  | .left => "<<"
  | .right => ">>"

/-- The text of an error. -/
def ArithmeticError.message : ArithmeticError → String
  | .shiftTooWide count =>
    if Numeral.isOverlong count then Numeral.unwritable
    else "shift count " ++ toString count ++ " exceeds " ++ toString Number.maxShift
  | .negativeShift => "negative shift count"
  | .shiftOfFloat shift left right =>
    "unsupported operand type(s) for " ++ shift.sign ++ ": '" ++ left.kindName ++ "' and '" ++
      right.kindName ++ "'"
  | .tooLargeForFloat => "int too large to convert to float"

end HeaderIndex
