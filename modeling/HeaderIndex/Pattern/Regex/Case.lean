import HeaderIndex.Text.Case

/-!
# Case in regular expressions

Where case does not matter, two characters are the same if their small forms are, or if these have
the same capital.  `Regex.caseVariants` lists all characters that are the same as a given one.
-/

namespace HeaderIndex.Regex

/-- The small form of a character, which is one character. -/
def simpleLower (c : Char) : Char :=
  match Text.lowerChar c with
  | small :: _ => small
  | [] => c

/-- The code point whose image in a run is a given one. -/
def source? (code : Nat) (run : Text.CaseRun) : Option Nat :=
  if run.image ≤ code ∧ code - run.image ≤ run.last - run.first ∧ (code - run.image) % run.step = 0 then
    some (run.first + (code - run.image))
  else none

/-- The characters whose image under a table of runs is a given one. -/
def sources (runs : List Text.CaseRun) (c : Char) : List Char :=
  (runs.filterMap (source? c.toNat)).map Char.ofNat

/-- The characters with the same capital as a small one. -/
def withSameUpper (small : Char) : List Char :=
  match Text.upperChar small with
  | [capital] => small :: sources Text.upperRuns capital
  | capitals =>
    let expanded := Text.upperExpansions.filter fun (_, codes) => codes.map Char.ofNat = capitals
    small :: expanded.map fun (code, _) => Char.ofNat code

/-- The characters with a given small form. -/
def withLower (small : Char) : List Char :=
  small :: sources Text.lowerRuns small ++ (if small = 'i' then ['İ'] else [])

/-- All characters that are the same as a given one where case does not matter. -/
def caseVariants (c : Char) : List Char :=
  (withSameUpper (simpleLower c)).flatMap withLower

end HeaderIndex.Regex
