import HeaderIndex.Expression.Parser
import HeaderIndex.Frontend.Kind
import HeaderIndex.Number.Literal
import HeaderIndex.Text.Quoted

/-!
# The value of a token sequence

`evaluateTokens` gives the value of the tokens behind a macro's name or behind the `=` of an
enumeration's constant.  Comments are passed over.  Literals have to be numbers and punctuation has
to belong to expressions; the first token that does not fit decides the error.  Literals of any size
have values here; `meetsOverlong` tells whether one of them could not be written into the expression.
-/

namespace HeaderIndex

/-- Why a token sequence has no value. -/
inductive EvaluationError where
  /-- a literal that is no number -/
  | literal (spelling : String)
  | operator (spelling : String)
  /-- a token that is neither literal nor punctuation -/
  | token (spelling : String)
  | emptyExpression
  /-- an expression without a value, as it is written -/
  | expression (written : String) (error : ExpressionError)
  deriving DecidableEq, Repr

/-- The text of an error. -/
def EvaluationError.message : EvaluationError → String
  | .literal spelling => "unsupported literal " ++ Text.quoted spelling
  | .operator spelling => "unsupported operator " ++ Text.quoted spelling
  | .token spelling => "unsupported token " ++ Text.quoted spelling
  | .emptyExpression => "empty expression"
  | .expression written error => "cannot evaluate " ++ Text.quoted written ++ ": " ++ error.message

/-- The expression that was written, for an error that comes from it. -/
def EvaluationError.written? : EvaluationError → Option String
  | .expression written _ => some written
  | _ => none

/-- A value and the expression that has it, as it is written. -/
structure Evaluation where
  value : Number
  written : String
  deriving DecidableEq, Repr

/-- A token as a part of an expression: its lexemes and its text.  Comments are no part. -/
def expressionPart? (kind : TokenKind) (spelling : String) :
    Except EvaluationError (Option (List Lexeme × String)) :=
  match kind with
  | .comment => .ok none
  | .literal =>
    match Literal.value? spelling with
    | some value => .ok (some (Lexeme.ofNumber value, value.text))
    | none => .error (.literal spelling)
  | .punctuation =>
    match Lexeme.ofSign? spelling with
    | some lexeme => .ok (some ([lexeme], spelling))
    | none => .error (.operator spelling)
  | .keyword | .identifier => .error (.token spelling)

/-- Whether a literal that is met in a sequence of tokens has too many digits to be written.  The tokens
behind the first one that does not fit are not met. -/
def meetsOverlong : List (TokenKind × String) → Bool
  | [] => false
  | (kind, spelling) :: rest =>
    match expressionPart? kind spelling with
    | .error _ => false
    | .ok _ =>
      (kind = .literal && (Literal.value? spelling).any Number.isOverlong) || meetsOverlong rest

/-- The value of a sequence of tokens, each given by its kind and spelling. -/
def evaluateTokens (tokens : List (TokenKind × String)) : Except EvaluationError Evaluation := do
  let parts ← tokens.mapM fun (kind, spelling) => expressionPart? kind spelling
  let parts := parts.filterMap id
  if parts = [] then throw .emptyExpression
  let written := " ".intercalate (parts.map (·.2))
  match Expression.parse? (parts.flatMap (·.1)) with
  | none => throw (.expression written .malformed)
  | some expression =>
    match expression.value with
    | .ok value => return ⟨value, written⟩
    | .error error => throw (.expression written error)

end HeaderIndex
