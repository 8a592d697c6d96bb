import HeaderIndex.Expression

/-!
# Reading expressions

Signs bind tightest, then sums, then shifts; operations of one rank are read from left to right, and
parentheses behind an operand go with it before any sign.  `Expression.parse?` reads a whole list of
lexemes; a list that is no expression has no reading.
-/

namespace HeaderIndex

/-- What expressions are made of.  Numbers have no sign of their own. -/
inductive Lexeme where
  | number (value : Number)
  | name
  | plus
  | minus
  | shift (direction : Shift)
  | openParenthesis
  | closeParenthesis
  deriving DecidableEq, Repr

/-- The lexemes of a number as it is written: a negative one starts with a sign. -/
def Lexeme.ofNumber : Number → List Lexeme
  | .int value => if value < 0 then [minus, number (.int (-value))] else [number (.int value)]
  | .float value =>
    let size : Lexeme := if value.isFinite then number (.float value.abs) else name
    if isNegativeFloat value && !value.isNaN then [minus, size] else [size]

/-- The lexeme of a punctuation sign that expressions may hold. -/
def Lexeme.ofSign? : String → Option Lexeme
  | "+" => some plus
  | "-" => some minus
  | "<<" => some (shift .left)
  | ">>" => some (shift .right)
  | "(" => some openParenthesis
  | ")" => some closeParenthesis
  | _ => none

namespace Expression

/-- A reading of the beginning of a list, with the lexemes after it. -/
abbrev Reading := Option (Expression × List Lexeme)

mutual

/-- Sums joined by shifts. -/
def shifts? : Nat → List Lexeme → Reading
  | 0, _ => none
  | fuel + 1, lexemes => do
    let (first, rest) ← sums? fuel lexemes
    moreShifts? fuel first rest

/-- The shifts that follow an operand. -/
def moreShifts? : Nat → Expression → List Lexeme → Reading
  | 0, _, _ => none
  | fuel + 1, left, .shift direction :: rest => do
    let (right, rest) ← sums? fuel rest
    moreShifts? fuel (.binary (.shift direction) left right) rest
  | _ + 1, left, rest => some (left, rest)

/-- Signed operands joined by plus and minus. -/
def sums? : Nat → List Lexeme → Reading
  | 0, _ => none
  | fuel + 1, lexemes => do
    let (first, rest) ← signed? fuel lexemes
    moreSums? fuel first rest

/-- The operands that follow one with a plus or a minus between. -/
def moreSums? : Nat → Expression → List Lexeme → Reading
  | 0, _, _ => none
  | fuel + 1, left, .plus :: rest => do
    let (right, rest) ← signed? fuel rest
    moreSums? fuel (.binary .add left right) rest
  | fuel + 1, left, .minus :: rest => do
    let (right, rest) ← signed? fuel rest
    moreSums? fuel (.binary .sub left right) rest
  | _ + 1, left, rest => some (left, rest)

/-- An operand with signs in front. -/
def signed? : Nat → List Lexeme → Reading
  | 0, _ => none
  | fuel + 1, .plus :: rest => do
    let (operand, rest) ← signed? fuel rest
    return (.plus operand, rest)
  | fuel + 1, .minus :: rest => do
    let (operand, rest) ← signed? fuel rest
    return (.minus operand, rest)
  | fuel + 1, lexemes => do
    let (operand, rest) ← atom? fuel lexemes
    calls? fuel operand rest

/-- The parentheses that follow an operand. -/
def calls? : Nat → Expression → List Lexeme → Reading
  | 0, _, _ => none
  | fuel + 1, operand, .openParenthesis :: rest => do
    let (_, rest) ← parenthesized? fuel rest
    calls? fuel (.call operand) rest
  | _ + 1, operand, rest => some (operand, rest)

/-- A number, a name, or an expression in parentheses. -/
def atom? : Nat → List Lexeme → Reading
  | 0, _ => none
  | _ + 1, .number value :: rest => some (.number value, rest)
  | _ + 1, .name :: rest => some (.name, rest)
  | fuel + 1, .openParenthesis :: rest => parenthesized? fuel rest
  | _ + 1, _ => none

/-- What stands after an opening parenthesis, up to the closing one. -/
def parenthesized? : Nat → List Lexeme → Reading
  | 0, _ => none
  | _ + 1, .closeParenthesis :: rest => some (.emptyParentheses, rest)
  | fuel + 1, lexemes => do
    let (inner, rest) ← shifts? fuel lexemes
    match rest with
    | .closeParenthesis :: rest => return (inner, rest)
    | _ => none

end

/-- The expression that a list of lexemes is.  No reading of a lexeme nests more than eight steps
deep before the next lexeme. -/
def parse? (lexemes : List Lexeme) : Option Expression :=
  match shifts? (8 * lexemes.length + 8) lexemes with
  | some (expression, []) => some expression
  | _ => none

end Expression

end HeaderIndex
