/-!
# Tags in a line of text

A tag is a piece of markup that may stand anywhere in a line.  `Tag.strip` goes through a line from
left to right and takes every tag out; it gives the values of the tags and the text that is left.
-/

namespace HeaderIndex.Comment

/-- A kind of tag: what stands at the beginning of a text, if it is such a tag, with its value and
the text after it. -/
structure Tag (α : Type) where
  read? : List Char → Option (α × List Char)
  shorter : ∀ {text value after}, read? text = some (value, after) → after.length < text.length

/-- The text after a word that it begins with. -/
def dropWord? (word text : List Char) : Option (List Char) :=
  if word.isPrefixOf text then some (text.drop word.length) else none

/-- The shortest beginning of a line that `stop` follows, and the text after `stop`. -/
def upTo? (stop : List Char) : List Char → Option (List Char × List Char)
  | [] => none
  | c :: rest =>
    if stop.isPrefixOf (c :: rest) then some ([], (c :: rest).drop stop.length)
    else if c = '\n' then none
    else (upTo? stop rest).map fun (text, after) => (c :: text, after)

theorem length_dropWord? {word text after : List Char} (h : dropWord? word text = some after) :
    after.length = text.length - word.length ∧ word.length ≤ text.length := by
  unfold dropWord? at h
  split at h
  · rename_i hp
    cases h
    exact ⟨List.length_drop, (List.isPrefixOf_iff_prefix.1 hp).length_le⟩
  · cases h

theorem length_upTo? {stop : List Char} : ∀ {text before after : List Char},
    upTo? stop text = some (before, after) → after.length ≤ text.length
  | [], _, _, h => by cases h
  | c :: rest, before, after, h => by
    unfold upTo? at h
    split at h
    · cases h
      rw [List.length_drop]
      exact Nat.sub_le _ _
    · split at h
      · cases h
      · obtain ⟨⟨inner, last⟩, hu, he⟩ := Option.map_eq_some_iff.1 h
        cases he
        exact Nat.le_succ_of_le (length_upTo? hu)

namespace Tag

/-- The values of the tags in a text, and the text without the tags. -/
def strip {α : Type} (tag : Tag α) : List Char → List α × List Char
  | [] => ([], [])
  | c :: rest =>
    match _h : tag.read? (c :: rest) with
    | some (value, after) =>
      let (values, text) := strip tag after
      (value :: values, text)
    | none =>
      let (values, text) := strip tag rest
      (values, c :: text)
termination_by text => text.length
decreasing_by
  · exact tag.shorter _h
  · exact Nat.lt_succ_self _

/-- A tag that is one of several words. -/
def ofWords (words : List (List Char)) (nonempty : ∀ word ∈ words, word ≠ []) : Tag Unit where
  read? text := (words.findSome? (dropWord? · text)).map fun after => ((), after)
  shorter := by
    intro text value after h
    obtain ⟨a, ha, he⟩ := Option.map_eq_some_iff.1 h
    cases he
    obtain ⟨word, hm, hw⟩ := List.exists_of_findSome?_eq_some ha
    have hl := length_dropWord? hw
    have hn := List.length_pos_iff.2 (nonempty word hm)
    omega

/-- A tag that starts with one of several words and ends at the first `stop` after it; its value is
the text between the two. -/
def between (words : List (List Char)) (stop : List Char) (nonempty : ∀ word ∈ words, word ≠ []) :
    Tag String where
  read? text := do
    let after ← words.findSome? (dropWord? · text)
    let (value, after) ← upTo? stop after
    return (String.ofList value, after)
  shorter := by
    intro text value after h
    obtain ⟨a, ha, h⟩ := Option.bind_eq_some_iff.1 h
    obtain ⟨⟨v, b⟩, hb, h⟩ := Option.bind_eq_some_iff.1 h
    cases h
    obtain ⟨word, hm, hw⟩ := List.exists_of_findSome?_eq_some ha
    have hl := length_dropWord? hw
    have hn := List.length_pos_iff.2 (nonempty word hm)
    have hu := length_upTo? hb
    omega

end Tag

end HeaderIndex.Comment
