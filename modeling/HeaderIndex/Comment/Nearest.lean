import HeaderIndex.Comment.Markup
import HeaderIndex.Frontend.ParsedUnit

/-!
# The comment next to a declaration

Front-ends keep comments as tokens.  `nearest` finds the comment of a declaration among the tokens of
a range: the last one in front of it, or the first one behind it.
-/

namespace HeaderIndex.Comment

/-- Which end of a range the declaration stands at. -/
inductive Side where
  /-- the declaration follows the range -/
  | before
  /-- the declaration precedes the range -/
  | after
  deriving DecidableEq, Repr

/-- A comment token and the file it stands in. -/
structure Found where
  token : Token
  file : Option Nat
  deriving DecidableEq, Repr

/-- The lines of text of a comment that may be missing. -/
def Found.lines (found : Option Found) : List String :=
  match found with
  | some found => Comment.lines found.token.spelling
  | none => []

/-- Whether a range can hold comments: both ends lie in one file and in order. -/
def isRange (unit : ParsedUnit) (start stop : Location) : Bool :=
  match unit.fileName? start, unit.fileName? stop with
  | some first, some last => first = last && start.offset ≤ stop.offset
  | _, _ => false

/-- The comment of a range that is nearest to the declaration at one side of it. -/
def nearest (unit : ParsedUnit) (side : Side) (start stop : Location) : Option Found :=
  if isRange unit start stop then
    let comments := (unit.tokensBetween start stop).filter (·.kind = .comment)
    (match side with
      | .before => comments.getLast?
      | .after => comments.head?).map fun token => ⟨token, start.file⟩
  else none

/-- The text of the comment in front of a place. -/
def linesBefore (unit : ParsedUnit) (start stop : Location) : List String :=
  Found.lines (nearest unit .before start stop)

end HeaderIndex.Comment
