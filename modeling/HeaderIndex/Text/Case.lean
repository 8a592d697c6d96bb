import HeaderIndex.Text.CaseTable

/-!
# Upper and lower case

`lower` and `upper` map whole texts.  Both keep ASCII within ASCII; elsewhere they follow the tables
of Unicode, where one character may have several in its place.  A capital sigma becomes the final
form at the end of a word: after a cased character and before none.
-/

namespace HeaderIndex.Text

/-- The image of a code point in a run. -/
def CaseRun.image? (run : CaseRun) (code : Nat) : Option Nat :=
  if run.first ≤ code ∧ code ≤ run.last ∧ (code - run.first) % run.step = 0 then
    some (run.image + (code - run.first))
  else none

/-- The image of a character under a table of runs, the character itself when no run holds it. -/
def imageIn (runs : List CaseRun) (c : Char) : Char :=
  match runs.findSome? (·.image? c.toNat) with
  | some code => Char.ofNat code
  | none => c

/-- The lower-case form of a character that stands alone. -/
def lowerChar (c : Char) : List Char :=
  if c.toNat < 0x80 then [c.toLower]
  else if c = 'İ' then ['i', '\u0307']
  else [imageIn lowerRuns c]

/-- The upper-case form of a character. -/
def upperChar (c : Char) : List Char :=
  if c.toNat < 0x80 then [c.toUpper]
  else match upperExpansions.lookup c.toNat with
    | some codes => codes.map Char.ofNat
    | none => [imageIn upperRuns c]

/-- Whether the first character that is not passed over has a case. -/
def meetsCased (cs : List Char) : Bool :=
  match cs.dropWhile fun c => caseIgnorable.has c.toNat with
  | [] => false
  | c :: _ => cased.has c.toNat

/-- The lower-case form of a text that follows the characters `seen`, the last one first. -/
def lowerAfter (seen : List Char) : List Char → List Char
  | [] => []
  | c :: rest =>
    let image :=
      if c = 'Σ' ∧ meetsCased seen = true ∧ meetsCased rest = false then ['ς'] else lowerChar c
    image ++ lowerAfter (c :: seen) rest

/-- The lower-case form of a text. -/
def lower (cs : List Char) : List Char := lowerAfter [] cs

/-- The upper-case form of a text. -/
def upper (cs : List Char) : List Char := cs.flatMap upperChar

end HeaderIndex.Text
