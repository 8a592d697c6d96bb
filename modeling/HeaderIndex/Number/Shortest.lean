/-!
# The shortest decimal of a float

A float stands for all reals that round to it.  `Shortest.decimal` gives the decimal with the fewest
digits among them, of several the nearest to the float, and of two at the same distance the even
one.  All of it is exact arithmetic on naturals: the float is `significand * 2 ^ exponent`, and on
the grid of decimals with a given number of digits only the two neighbours of the float matter.
-/

namespace HeaderIndex.Shortest

/-- A positive finite float as `significand * 2 ^ exponent`.  Below a power of two the next float is
only half as far away as above it. -/
structure Binary where
  significand : Nat
  exponent : Int
  isPowerOfTwo : Bool
  deriving DecidableEq, Repr

/-- A power of two. -/
def twoTo (exponent : Nat) : Nat := Nat.pow 2 exponent

/-- A power of ten. -/
def tenTo (exponent : Nat) : Nat := Nat.pow 10 exponent

/-- The significand and exponent of the magnitude of a finite float. -/
def Binary.ofFloat (value : Float) : Binary :=
  let bits := value.toBits.toNat
  let field : Nat := bits / twoTo 52 % twoTo 11
  let fraction : Nat := bits % twoTo 52
  if field = 0 then ⟨fraction, -1074, false⟩
  else ⟨twoTo 52 + fraction, (field : Int) - 1075, fraction = 0 && 1 < field⟩

/-- The reals that round to a float, and the float among them, as numerators over one denominator.
The ends belong to the interval if `closed`. -/
structure Interval where
  low : Nat
  value : Nat
  high : Nat
  denominator : Nat
  closed : Bool
  deriving DecidableEq, Repr

/-- Half the way to the neighbours, in quarters of the last binary place. -/
def Binary.interval (b : Binary) : Interval :=
  let up := twoTo (b.exponent - 2).toNat
  let below := if b.isPowerOfTwo then 1 else 2
  { low := (4 * b.significand - below) * up
    value := 4 * b.significand * up
    high := (4 * b.significand + 2) * up
    denominator := twoTo (2 - b.exponent).toNat
    closed := b.significand % 2 = 0 }

/-- How many decimal digits a natural number has. -/
def digitCount (n : Nat) : Nat := (Nat.toDigits 10 n).length

/-- The exponent of ten of the first digit of a positive quotient. -/
def leadingExponent (numerator denominator : Nat) : Int :=
  if denominator ≤ numerator then (digitCount (numerator / denominator) : Int) - 1
  else
    let shift := digitCount denominator - digitCount numerator
    if denominator ≤ numerator * tenTo shift then -(shift : Int) else -((shift : Int) + 1)

/-- Whether the decimal `digits * 10 ^ place` lies in an interval. -/
def Interval.holds (i : Interval) (digits : Nat) (place : Int) : Bool :=
  let candidate := digits * tenTo place.toNat * i.denominator
  let low := i.low * tenTo (-place).toNat
  let high := i.high * tenTo (-place).toNat
  if i.closed then low ≤ candidate && candidate ≤ high else low < candidate && candidate < high

/-- The decimal of an interval whose last digit stands at `place`, nearest to the value. -/
def Interval.nearest? (i : Interval) (place : Int) : Option Nat :=
  let numerator := i.value * tenTo (-place).toNat
  let step := i.denominator * tenTo place.toNat
  let floor := numerator / step
  let remainder := numerator % step
  match i.holds floor place, i.holds (floor + 1) place with
  | true, true =>
    if 2 * remainder < step then some floor
    else if step < 2 * remainder then some (floor + 1)
    else if floor % 2 = 0 then some floor
    else some (floor + 1)
  | true, false => some floor
  | false, true => some (floor + 1)
  | false, false => none

/-- A decimal `digits * 10 ^ place`. -/
structure Decimal where
  digits : Nat
  place : Int
  deriving DecidableEq, Repr

/-- The shortest decimal of an interval: the first of one to seventeen digits that lies in it. -/
def Interval.shortest (i : Interval) : Decimal :=
  let first := leadingExponent i.value i.denominator
  let found := (List.range 17).findSome? fun (more : Nat) =>
    (i.nearest? (first - more)).map fun digits => (⟨digits, first - more⟩ : Decimal)
  found.getD ⟨0, 0⟩

/-- The shortest decimal that rounds to the magnitude of a finite float other than zero. -/
def decimal (value : Float) : Decimal := (Binary.ofFloat value).interval.shortest

end HeaderIndex.Shortest
