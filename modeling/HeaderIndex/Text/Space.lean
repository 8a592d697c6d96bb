import HeaderIndex.Text.Ranges

/-!
# White space

* `isSpace` — the white space of Unicode, together with the four information separators.
* `trimStart`, `trimEnd`, `trim` — a text without the white space at its ends.
* `isBlank` — a line with nothing but white space in it.
* `lines` — a text cut at every kind of line break.
-/

namespace HeaderIndex.Text

/-- Code points of white space. -/
def spaces : Ranges := [
  (0x9, 0xd), (0x1c, 0x20), (0x85, 0x85), (0xa0, 0xa0), (0x1680, 0x1680), (0x2000, 0x200a),
  (0x2028, 0x2029), (0x202f, 0x202f), (0x205f, 0x205f), (0x3000, 0x3000)]

/-- White space: the blanks and line breaks of Unicode and the separators U+001C to U+001F. -/
def isSpace (c : Char) : Bool := spaces.has c.toNat

/-- The characters from the first one on that is not white space. -/
def trimStart (cs : List Char) : List Char := cs.dropWhile isSpace

/-- The characters up to the last one that is not white space. -/
def trimEnd (cs : List Char) : List Char := (cs.reverse.dropWhile isSpace).reverse

/-- The characters between the white space at both ends. -/
def trim (cs : List Char) : List Char := trimEnd (trimStart cs)

/-- A line that holds nothing but white space. -/
def isBlank (line : String) : Bool := line.toList.all isSpace

/-! ## Line breaks -/

/-- The characters that end a line. -/
def isLineBreak (c : Char) : Bool :=
  Ranges.has [(0xa, 0xd), (0x1c, 0x1e), (0x85, 0x85), (0x2028, 0x2029)] c.toNat

/-- The first line of a text and the lines after it.  A carriage return and the line feed right
after it are one break, so the line feed is dropped. -/
def linesFrom : List Char → List Char × List (List Char)
  | [] => ([], [])
  | c :: rest =>
    let (line, more) := linesFrom rest
    if isLineBreak c then
      if c = '\r' ∧ rest.head? = some '\n' then ([], more) else ([], line :: more)
    else (c :: line, more)

/-- The lines of a text.  A break at the end of the text starts no further line. -/
def lines (text : String) : List String :=
  let (first, more) := linesFrom text.toList
  let all := first :: more
  (if all.getLast? = some [] then all.dropLast else all).map String.ofList

end HeaderIndex.Text
