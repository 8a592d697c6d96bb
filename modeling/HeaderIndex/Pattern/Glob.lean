/-!
# Glob patterns

A glob is compared with a whole file name: `*` stands for any text, `?` for any character, and
`[...]` for one character of a set, with ranges and, after `!`, for one outside of it.  Slashes and
dots are characters like all others, and case matters.
-/

namespace HeaderIndex.Glob

/-- Characters from one to another, or a single one. -/
structure Span where
  first : Char
  last : Char
  deriving DecidableEq, Repr

/-- A part of a glob. -/
inductive Part where
  | exactly (c : Char)
  | anyChar
  | anyText
  | oneOf (spans : List Span)
  | noneOf (spans : List Span)
  deriving DecidableEq, Repr

/-- The characters between the opening bracket of a set and its closing one.  A bracket in first
place, also after `!`, belongs to the set. -/
def setText? (text : List Char) : Option (List Char) :=
  let start := match text with
    | '!' :: ']' :: _ => ['!', ']']
    | '!' :: _ => ['!']
    | ']' :: _ => [']']
    | _ => []
  let rest := text.drop start.length
  let inner := rest.takeWhile (· ≠ ']')
  if inner.length < rest.length then some (start ++ inner) else none

/-- The spans that a text describes: `a-z` is a range, and a hyphen at either end is itself. -/
def spans : List Char → List Span
  | a :: '-' :: b :: rest => ⟨a, b⟩ :: spans rest
  | a :: rest => ⟨a, a⟩ :: spans rest
  | [] => []

/-- The spans of a set, those in reverse order left out.  An exclamation mark in first place is not
the start of a range. -/
def setSpans (text : List Char) : List Span :=
  let all := match text with
    | '!' :: rest => (⟨'!', '!'⟩ : Span) :: spans rest
    | rest => spans rest
  all.filter fun span => span.first ≤ span.last

/-- The part that a set describes.  An exclamation mark in front of what is left of the set turns it
into its complement. -/
def setPart (text : List Char) : Part :=
  match setSpans text with
  | ⟨'!', '!'⟩ :: rest => .noneOf rest
  | ⟨'!', last⟩ :: rest => .noneOf (⟨'-', '-'⟩ :: ⟨last, last⟩ :: rest)
  | all => .oneOf all

/-- The parts of a text after its first `skip` characters.  A bracket that is not closed is a
character like all others. -/
def partsAfter : Nat → List Char → List Part
  | _, [] => []
  | skip + 1, _ :: rest => partsAfter skip rest
  | 0, c :: rest =>
    if c = '*' then .anyText :: partsAfter 0 rest
    else if c = '?' then .anyChar :: partsAfter 0 rest
    else if c = '[' then
      match setText? rest with
      | some inner => setPart inner :: partsAfter (inner.length + 1) rest
      | none => .exactly '[' :: partsAfter 0 rest
    else .exactly c :: partsAfter 0 rest

/-- The parts of a glob. -/
def parts (glob : List Char) : List Part := partsAfter 0 glob

/-- Whether a part stands for a single character. -/
def Part.accepts (c : Char) : Part → Bool
  | exactly d => c = d
  | anyChar => true
  | anyText => false
  | oneOf spans => spans.any fun span => span.first ≤ c && c ≤ span.last
  | noneOf spans => !spans.any fun span => span.first ≤ c && c ≤ span.last

/-- Whether some end of a text, be it the whole or the empty one, has a property. -/
def someEnd (property : List Char → Bool) : List Char → Bool
  | [] => property []
  | c :: rest => property (c :: rest) || someEnd property rest

/-- Whether parts stand for a whole text. -/
def fits : List Part → List Char → Bool
  | [], text => text.isEmpty
  | .anyText :: more, text => someEnd (fits more) text
  | part :: more, c :: rest => part.accepts c && fits more rest
  | _ :: _, [] => false

/-- Whether a glob stands for a file name. -/
def isMatch (glob name : String) : Bool := fits (parts glob.toList) name.toList

end HeaderIndex.Glob
