/-!
# JSON values

Objects keep the order of their members.  Integers have any size; every other number is kept as the
text it is written with, which may also be one of the words for what is not finite.
-/

namespace HeaderIndex

/-- A JSON value. -/
inductive Json where
  | null
  | bool (value : Bool)
  | int (value : Int)
  /-- a number with a point or an exponent, or one that is not finite, as it is written -/
  | real (numeral : String)
  | str (text : String)
  | arr (items : List Json)
  | obj (members : List (String × Json))
  deriving Repr

namespace Json

/-- An array of texts. -/
def strings (texts : List String) : Json := .arr (texts.map .str)

/-- A text that may be missing. -/
def optional : Option String → Json
  | some text => .str text
  | none => .null

/-- The value of a member; values that are no objects have no members. -/
def get? (json : Json) (name : String) : Option Json :=
  match json with
  | .obj members => members.lookup name
  | _ => none

/-- The items of an array; values that are no arrays have none. -/
def items : Json → List Json
  | .arr items => items
  | _ => []

/-- The text that a value is. -/
def text? : Json → Option String
  | .str text => some text
  | _ => none

/-- The integer that a value is. -/
def int? : Json → Option Int
  | .int value => some value
  | _ => none

/-- The natural number that a value is. -/
def nat? : Json → Option Nat
  | .int value => if 0 ≤ value then some value.toNat else none
  | _ => none

/-- Whether a value is `true`. -/
def isTrue : Json → Bool
  | .bool value => value
  | _ => false

end Json

end HeaderIndex
