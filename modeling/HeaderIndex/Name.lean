import HeaderIndex.Text.Case

/-!
# Names

A C identifier as the words it is made of.

* `Name.split` — cuts a spelling at underscores and where a capital begins a word, after taking off
  the first listed prefix it starts with.
* `Name.text`, `Name.display` — the spelling of a name in messages.
* `Name.shorten` — the names of a group without the words that all of them share with an owner.
-/

namespace HeaderIndex

/-- An identifier as words; `raw` is its spelling in the source, if it has one. -/
structure Name where
  parts : List String
  raw : Option String
  deriving DecidableEq, Repr

namespace Name

/-- The name of a declaration without one. -/
def anonymous : Name := ⟨[], some ""⟩

/-- A name of one word that stands nowhere in the source. -/
def ofWord (word : String) : Name := ⟨[word], none⟩

/-! ## Cutting a spelling into words -/

/-- A word begins at a capital that a small letter follows or precedes. -/
def beginsWord (before : Option Char) (c : Char) (after : Option Char) : Bool :=
  c.isUpper && (before.any Char.isLower || after.any Char.isLower)

/-- The piece that a text begins with and the pieces after it, where `before` is the character in
front of the text.  Underscores separate pieces and belong to none; the beginning of a word
separates pieces and belongs to the later one. -/
def pieces (before : Option Char) : List Char → List Char × List (List Char)
  | [] => ([], [])
  | c :: rest =>
    let (piece, more) := pieces (some c) rest
    if c = '_' then ([], piece :: more)
    else if beginsWord before c rest.head? then ([], (c :: piece) :: more)
    else (c :: piece, more)

/-- The pieces of a text that are not empty. -/
def words (text : List Char) : List (List Char) :=
  let (piece, more) := pieces none text
  (piece :: more).filter (· ≠ [])

/-- A text without the first of the prefixes that it starts with.  Empty prefixes do not count. -/
def dropListed (prefixes : List (List Char)) (text : List Char) : List Char :=
  match prefixes.find? fun p => p ≠ [] && p.isPrefixOf text with
  | some p => text.drop p.length
  | none => text

/-- The name with a given spelling: the words left after a listed prefix, in lower case. -/
def split (prefixes : List String) (raw : String) : Name where
  parts := (words (dropListed (prefixes.map String.toList) raw.toList)).map fun word =>
    String.ofList (Text.lower word)
  raw := some raw

/-! ## Showing and joining names -/

/-- A name without words belongs to a declaration that waits for one. -/
def isEmpty (name : Name) : Bool := name.parts.isEmpty

/-- The spelling in the source, or else the words joined by underscores. -/
def text (name : Name) : String :=
  match name.raw with
  | some raw => if raw = "" then "_".intercalate name.parts else raw
  | none => "_".intercalate name.parts

/-- The text of a name that may be missing. -/
def display (name : Name) : String := if name.isEmpty then "(anonymous)" else name.text

/-- The words of one name followed by those of another; the result has no spelling of its own. -/
def append (first second : Name) : Name := ⟨first.parts ++ second.parts, none⟩

instance : Append Name := ⟨append⟩

/-! ## Shortening -/

/-- How many leading words go: as long as every list keeps a word, all begin with the same one, and
that word is among `own`. -/
def commonStart (own : List String) : List String → List (List String) → Nat
  | word :: next :: rest, others =>
    if word ∈ own ∧ others.all (fun other => other.head? = some word && 1 < other.length) then
      commonStart own (next :: rest) (others.map List.tail) + 1
    else 0
  | _, _ => 0

/-- Word lists without the leading words that they share with each other and with `own`. -/
def dropCommonStart (own : List String) : List (List String) → List (List String)
  | [] => []
  | first :: others => (first :: others).map (List.drop (commonStart own first others))

/-- Word lists without the leading and then without the trailing words shared with `own`. -/
def dropCommon (own : List String) (lists : List (List String)) : List (List String) :=
  ((dropCommonStart own (dropCommonStart own lists |>.map List.reverse))).map List.reverse

/-- The names of a group without the words that all of them share with their owner, at the start and
at the end.  A name that stands alone stays as it is. -/
def shorten (owner : Name) (names : List Name) : List Name :=
  if names.length < 2 then names
  else
    let own := owner.parts.map fun word => String.ofList (Text.lower word.toList)
    (dropCommon own (names.map parts)).zipWith (fun parts name => ⟨parts, name.raw⟩) names

end Name

end HeaderIndex
