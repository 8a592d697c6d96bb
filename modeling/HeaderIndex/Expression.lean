import HeaderIndex.Number.Text

/-!
# Constant expressions

The expressions that macros and enumerations may use for their values: numbers, signs, sums, shifts
and parentheses.  Two further forms can be written and are refused by `Expression.value`: empty
parentheses, and an operand with parentheses behind it, which looks like a call.
-/

namespace HeaderIndex

/-- The operations with two operands. -/
inductive BinaryOperation where
  | add
  | sub
  | shift (direction : Shift)
  deriving DecidableEq, Repr

/-- An expression. -/
inductive Expression where
  | number (value : Number)
  /-- a number that is not finite; its text reads as a name -/
  | name
  | emptyParentheses
  /-- an operand followed by parentheses; what they hold plays no part -/
  | call (operand : Expression)
  | plus (operand : Expression)
  | minus (operand : Expression)
  | binary (operation : BinaryOperation) (left right : Expression)
  deriving DecidableEq, Repr

/-- Why an expression has no value. -/
inductive ExpressionError where
  | malformed
  /-- a form without a value, by its name -/
  | unsupported (form : String)
  | arithmetic (error : ArithmeticError)
  deriving DecidableEq, Repr

/-- The text of an error. -/
def ExpressionError.message : ExpressionError → String
  | .malformed => "syntax error"
  | .unsupported form => "unsupported expression element " ++ form
  | .arithmetic error => error.message

namespace Expression

/-- The result of an operation on two numbers. -/
def apply : BinaryOperation → Number → Number → Except ArithmeticError Number
  | .add => Number.add
  | .sub => Number.sub
  | .shift direction => Number.shift direction

/-- The value of an expression.  The left operand is evaluated before the right one, and both before
the operation. -/
def value : Expression → Except ExpressionError Number
  | number value => .ok value
  | name => .error (.unsupported "Name")
  | emptyParentheses => .error (.unsupported "Tuple")
  | call _ => .error (.unsupported "Call")
  | plus operand => operand.value
  | minus operand => do return (← operand.value).neg
  | binary operation left right => do
    let left ← left.value
    let right ← right.value
    match apply operation left right with
    | .ok result => return result
    | .error error => throw (.arithmetic error)

end Expression

end HeaderIndex
