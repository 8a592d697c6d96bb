import HeaderIndex.Comment.Markup
import Mathlib.Data.List.DropRight
import Mathlib.Tactic

/-!
# Text in a decorated comment

Text that is put into a comment comes out of its lines again: what marks a line as one of a comment is
taken off, and nothing else that looks like such a mark.

* `isInWord`, `outside` — the positions of a text that lie in some words, and the characters at the
  others.
* `snd_strip_ofWords` — taking tags out leaves the characters outside of them.
* `undecorate_starred`, `undecorate_enclosed`, `undecorate_slashed` — three ways to decorate a line are
  undone.
* `lines_decorated` — so are a block of many lines, a block of one line, and a line comment.
-/

namespace HeaderIndex.Comment

/-! ## Words in a text -/

/-- Whether a position of a text lies in one of some words that stand in it. -/
def isInWord (words : List (List Char)) (text : List Char) (position : Nat) : Bool :=
  (List.range (position + 1)).any fun start => words.any fun word =>
    word.isPrefixOf (text.drop start) && decide (position < start + word.length)

/-- The characters of a text that lie in none of some words. -/
def outside (words : List (List Char)) (text : List Char) : List Char :=
  (text.zipIdx.filter fun c => !isInWord words text c.2).map (·.1)

/-- Words that cannot overlap in a text: each starts with a mark that stands nowhere else in it, and
none is the beginning of another. -/
structure Marked (mark : Char) (words : List (List Char)) : Prop where
  starts : ∀ word ∈ words, ∃ rest, word = mark :: rest ∧ mark ∉ rest
  apart : ∀ word ∈ words, ∀ other ∈ words, word <+: other → word = other

variable {words : List (List Char)} {text rest after : List Char} {mark c : Char} {position : Nat}

theorem isInWord_iff : isInWord words text position = true ↔
    ∃ start ≤ position, ∃ word ∈ words, word <+: text.drop start ∧ position < start + word.length := by
  simp [isInWord, List.isPrefixOf_iff_prefix]

/-- Where no word starts at the first character, it lies in none. -/
theorem isInWord_cons_zero (h : ∀ word ∈ words, ¬ word <+: c :: rest) :
    isInWord words (c :: rest) 0 = false := by
  rw [Bool.eq_false_iff, ne_eq, isInWord_iff]
  rintro ⟨start, hstart, word, hword, hat, _⟩
  obtain rfl := Nat.le_zero.1 hstart
  exact h word hword hat

/-- Then the characters behind it lie in the words of the rest. -/
theorem isInWord_cons_succ (h : ∀ word ∈ words, ¬ word <+: c :: rest) (position : Nat) :
    isInWord words (c :: rest) (position + 1) = isInWord words rest position := by
  rw [Bool.eq_iff_iff, isInWord_iff, isInWord_iff]
  constructor
  · rintro ⟨start, hstart, word, hword, hat, hlt⟩
    cases start with
    | zero => exact absurd hat (h word hword)
    | succ start =>
      rw [List.drop_succ_cons] at hat
      exact ⟨start, by omega, word, hword, hat, by omega⟩
  · rintro ⟨start, hstart, word, hword, hat, hlt⟩
    exact ⟨start + 1, by omega, word, hword, by rwa [List.drop_succ_cons], by omega⟩

theorem isInWord_of_lt {word : List Char} (hword : word ∈ words) (hlt : position < word.length) :
    isInWord words (word ++ after) position = true :=
  isInWord_iff.2 ⟨0, Nat.zero_le _, word, hword, List.prefix_append _ _, by omega⟩

/-- Behind a word, characters lie in the words of the text behind it. -/
theorem isInWord_append (hmarked : Marked mark words) {word : List Char} (hword : word ∈ words)
    (position : Nat) :
    isInWord words (word ++ after) (word.length + position) = isInWord words after position := by
  rw [Bool.eq_iff_iff, isInWord_iff, isInWord_iff]
  constructor
  · rintro ⟨start, hstart, other, hother, hat, hlt⟩
    rcases Nat.lt_or_ge start word.length with hinside | hbehind
    · exfalso
      obtain ⟨tail, rfl, htail⟩ := hmarked.starts word hword
      cases start with
      | zero =>
        -- both words start the text, so one is the beginning of the other
        have hshorter : mark :: tail <+: other :=
          List.prefix_of_prefix_length_le (List.prefix_append _ after) hat (by omega)
        rw [← hmarked.apart _ hword _ hother hshorter] at hlt
        omega
      | succ start =>
        -- a word starts with the mark, which does not stand inside another one
        obtain ⟨tail', rfl, _⟩ := hmarked.starts other hother
        rw [List.cons_append, List.drop_succ_cons,
          List.drop_append_of_le_length (by simpa using hinside.le)] at hat
        have hdrop : tail.drop start ≠ [] := by
          rw [List.length_cons] at hinside
          simp only [ne_eq, List.drop_eq_nil_iff, not_le]
          omega
        obtain ⟨d, more, hd⟩ := List.exists_cons_of_ne_nil hdrop
        rw [hd, List.cons_append, List.cons_prefix_cons] at hat
        exact htail (List.mem_of_mem_drop (hat.1 ▸ hd ▸ List.mem_cons_self))
    · rw [List.drop_append, List.drop_of_length_le hbehind, List.nil_append] at hat
      exact ⟨start - word.length, by omega, other, hother, hat, by omega⟩
  · rintro ⟨start, hstart, other, hother, hat, hlt⟩
    refine ⟨word.length + start, by omega, other, hother, ?_, by omega⟩
    rwa [List.drop_append, List.drop_of_length_le (Nat.le_add_right _ _), List.nil_append,
      Nat.add_sub_cancel_left]

/-! ## The characters outside -/

/-- Counting positions from another number on keeps the same characters. -/
theorem map_fst_filter_zipIdx (keep : Nat → Bool) (text : List Char) (n : Nat) :
    ((text.zipIdx n).filter fun c => keep c.2).map (·.1) =
      (text.zipIdx.filter fun c => keep (n + c.2)).map (·.1) := by
  rw [List.zipIdx_eq_map_add, List.filter_map, List.map_map]
  congr 1

theorem outside_cons (h : ∀ word ∈ words, ¬ word <+: c :: rest) :
    outside words (c :: rest) = c :: outside words rest := by
  unfold outside
  rw [List.zipIdx_cons, List.filter_cons_of_pos (by simp [isInWord_cons_zero h]), List.map_cons,
    map_fst_filter_zipIdx fun n => !isInWord words (c :: rest) n]
  simp only [Nat.zero_add, Nat.add_comm 1, isInWord_cons_succ h]

theorem outside_append (hmarked : Marked mark words) {word : List Char} (hword : word ∈ words) :
    outside words (word ++ after) = outside words after := by
  unfold outside
  have hnone : (word.zipIdx.filter fun c => !isInWord words (word ++ after) c.2) = [] := by
    refine List.filter_eq_nil_iff.2 fun c hc => ?_
    simp [isInWord_of_lt hword (List.mem_zipIdx' hc).1]
  rw [List.zipIdx_append, List.filter_append, List.map_append, hnone, Nat.zero_add,
    map_fst_filter_zipIdx fun n => !isInWord words (word ++ after) n]
  simp only [List.map_nil, List.nil_append, isInWord_append hmarked hword]

theorem read?_ofWords_eq_some {nonempty : ∀ word ∈ words, word ≠ []} {value : Unit}
    (h : (Tag.ofWords words nonempty).read? text = some (value, after)) :
    ∃ word ∈ words, text = word ++ after := by
  obtain ⟨_, hfound, he⟩ := Option.map_eq_some_iff.1 h
  obtain ⟨_, rfl⟩ := Prod.mk.inj he
  obtain ⟨word, hword, hdrop⟩ := List.exists_of_findSome?_eq_some hfound
  unfold dropWord? at hdrop
  split at hdrop
  · rename_i hat
    obtain ⟨tail, rfl⟩ := List.isPrefixOf_iff_prefix.1 hat
    rw [List.drop_left, Option.some.injEq] at hdrop
    exact ⟨word, hword, by rw [hdrop]⟩
  · cases hdrop

theorem read?_ofWords_eq_none {nonempty : ∀ word ∈ words, word ≠ []}
    (h : (Tag.ofWords words nonempty).read? text = none) : ∀ word ∈ words, ¬ word <+: text := by
  intro word hword hat
  have hnone := List.findSome?_eq_none_iff.1 (Option.map_eq_none_iff.1 h) word hword
  simp [dropWord?, List.isPrefixOf_iff_prefix, hat] at hnone

theorem snd_strip_of_some {α : Type} {tag : Tag α} {value : α}
    (h : tag.read? (c :: rest) = some (value, after)) :
    (tag.strip (c :: rest)).2 = (tag.strip after).2 := by
  rw [Tag.strip]
  split
  · rename_i value' after' h'
    rw [h] at h'
    cases h'
    rfl
  · rename_i h'
    rw [h] at h'
    cases h'

theorem snd_strip_of_none {α : Type} {tag : Tag α} (h : tag.read? (c :: rest) = none) :
    (tag.strip (c :: rest)).2 = c :: (tag.strip rest).2 := by
  rw [Tag.strip]
  split
  · rename_i value' after' h'
    rw [h] at h'
    cases h'
  · rfl

/-- **Taking words out of a text leaves the characters outside of them.** -/
theorem snd_strip_ofWords (hmarked : Marked mark words) (nonempty : ∀ word ∈ words, word ≠ [])
    (text : List Char) : ((Tag.ofWords words nonempty).strip text).2 = outside words text := by
  induction text using Tag.strip.induct (Tag.ofWords words nonempty) with
  | case1 => rw [Tag.strip]; rfl
  | case2 c rest value after hread values stripped hstrip ih =>
    obtain ⟨word, hword, htext⟩ := read?_ofWords_eq_some hread
    rw [snd_strip_of_some hread, ih, htext, outside_append hmarked hword]
  | case3 c rest hread values stripped hstrip ih =>
    rw [snd_strip_of_none hread, ih, outside_cons (read?_ofWords_eq_none hread)]

/-- Characters that are in no word all stay. -/
theorem filter_outside {p : Char → Bool} (h : ∀ word ∈ words, ∀ c ∈ word, p c = false)
    (text : List Char) : (outside words text).filter p = text.filter p := by
  have hstays : ∀ c ∈ text.zipIdx,
      (p c.1 && !isInWord words text c.2) = p c.1 := by
    intro c hc
    rw [Bool.and_eq_left_iff_imp]
    intro hp
    rw [Bool.not_eq_true', Bool.eq_false_iff, ne_eq, isInWord_iff]
    rintro ⟨start, hstart, word, hword, ⟨tail, htail⟩, hlt⟩
    -- the character is one of the word, which has none like it
    have hmem : c.1 ∈ word := by
      have hget : text[c.2]? = some c.1 := List.mem_zipIdx_iff_getElem?.1 hc
      rw [← Nat.add_sub_cancel' hstart, ← List.getElem?_drop, ← htail,
        List.getElem?_append_left (by omega)] at hget
      exact List.mem_of_getElem? hget
    rw [h word hword c.1 hmem] at hp
    cases hp
  unfold outside
  rw [List.filter_map, List.filter_filter]
  simp only [Function.comp_def]
  rw [List.filter_congr hstays]
  have hmap : text.filter p = (text.zipIdx.map (·.1)).filter p := by rw [List.zipIdx_map_fst]
  rw [hmap, List.filter_map]
  rfl

/-- The indentation of a text stays in front if words start with another character. -/
theorem takeWhile_prefix_outside (hmarked : Marked mark words) {p : Char → Bool}
    (hmark : p mark = false) (text : List Char) : text.takeWhile p <+: outside words text := by
  induction text with
  | nil => exact List.nil_prefix
  | cons c rest ih =>
    by_cases hp : p c = true
    · have hnone : ∀ word ∈ words, ¬ word <+: c :: rest := by
        intro word hword hat
        obtain ⟨tail, rfl, _⟩ := hmarked.starts word hword
        rw [List.cons_prefix_cons] at hat
        rw [← hat.1, hmark] at hp
        cases hp
      rw [List.takeWhile_cons_of_pos hp, outside_cons hnone, List.cons_prefix_cons]
      exact ⟨rfl, ih⟩
    · rw [List.takeWhile_cons_of_neg hp]
      exact List.nil_prefix

/-! ## Marks of a comment -/

/-- A line without a mark that ends a block keeps its end. -/
theorem dropBlockEnd_of_absent (h : ¬ ['*', '/'] <:+: text) : dropBlockEnd text = text := by
  unfold dropBlockEnd
  split
  · rename_i before hend
    refine absurd ?_ h
    have htrimmed : Text.trimEnd text = before.reverse ++ ['*', '/'] := by
      rw [← List.reverse_reverse (Text.trimEnd text), hend]
      simp
    have hat : Text.trimEnd text <+: text := List.rdropWhile_prefix Text.isSpace text
    rw [htrimmed] at hat
    exact (List.suffix_append _ _).isInfix.trans hat.isInfix
  · rfl

/-- A mark that ends a block goes with the space in front of it, whatever the text ends with. -/
theorem dropBlockEnd_append (text : List Char) : dropBlockEnd (text ++ [' ', '*', '/']) = text := by
  have htrimmed : Text.trimEnd (text ++ [' ', '*', '/']) = text ++ [' ', '*', '/'] := by
    have hslash : Text.isSpace '/' = false := by decide
    simp [Text.trimEnd, hslash]
  unfold dropBlockEnd
  rw [htrimmed]
  simp [dropOptional]

/-- A text behind a star and a space. -/
theorem undecorate_starred (h : ¬ ['*', '/'] <:+: text) :
    undecorate (' ' :: '*' :: ' ' :: text) = text := by
  have hline : ¬ ['*', '/'] <:+: ' ' :: '*' :: ' ' :: text := by
    simp only [List.infix_cons_iff, List.cons_prefix_cons]
    simp [h]
  have hblank : Text.isSpace ' ' = true := by decide
  have hstar : Text.isSpace '*' = false := by decide
  unfold undecorate
  rw [dropBlockEnd_of_absent hline]
  simp [isLineComment, dropBlockStart, Text.trimStart, hblank, hstar, dropOptional]

/-- A text between the marks of a block. -/
theorem undecorate_enclosed (text : List Char) :
    undecorate ('/' :: '*' :: '*' :: ' ' :: text ++ [' ', '*', '/']) = text := by
  have hslash : Text.isSpace '/' = false := by decide
  have hblock : isLineComment ('/' :: '*' :: '*' :: ' ' :: text ++ [' ', '*', '/']) = false := by
    simp [isLineComment, Text.trimStart, hslash, List.isPrefixOf]
  unfold undecorate
  rw [hblock, dropBlockEnd_append]
  simp [dropBlockStart, Text.trimStart, hslash, dropOptional]

/-- A text behind two slashes and a space. -/
theorem undecorate_slashed (text : List Char) :
    undecorate ('/' :: '/' :: ' ' :: text) = text := by
  have hslash : Text.isSpace '/' = false := by decide
  simp [undecorate, isLineComment, dropLineStart, Text.trimStart, hslash, dropOptional]

/-! ## Comments -/

/-- The words that only say that a description follows. -/
def descriptionWords : List (List Char) := ["\\brief ".toList, "\\determine ".toList]

theorem marked_descriptionWords : Marked '\\' descriptionWords where
  starts := by
    intro word hword
    simp only [descriptionWords, List.mem_cons, List.not_mem_nil, or_false] at hword
    rcases hword with rfl | rfl
    · exact ⟨"brief ".toList, rfl, by decide⟩
    · exact ⟨"determine ".toList, rfl, by decide⟩
  apart := by decide

/-- A text as it is in a description: without the words that say that one follows, and with
parentheses for square brackets. -/
def plainText (text : String) : String :=
  String.ofList ((outside descriptionWords text.toList).map roundBracket)

theorem ofList_plainLine {line : List Char} {text : String} (h : undecorate line = text.toList) :
    String.ofList (plainLine line) = plainText text := by
  unfold plainLine plainText
  rw [h, ← snd_strip_ofWords marked_descriptionWords (by decide)]
  rfl

theorem plainText_empty : plainText "" = "" := rfl

/-- A comment is read line by line. -/
theorem lines_of_intercalate {comment : String} {decorated : List (List Char)}
    (hne : decorated ≠ []) (hline : ∀ line ∈ decorated, '\n' ∉ line)
    (h : comment.toList = ['\n'].intercalate decorated) :
    lines comment = decorated.map fun line => String.ofList (plainLine line) := by
  unfold lines
  rw [h, List.splitOn_intercalate '\n' hline hne]

/-- A block comment with each text on a line of its own, behind a star. -/
def blockOf (texts : List String) : String :=
  "/**\n" ++ String.join (texts.map fun text => " * " ++ text ++ "\n") ++ " */"

theorem intercalate_concat (mark : Char) (front : List (List Char)) (last : List Char) :
    [mark].intercalate (front ++ [last]) = front.flatMap (· ++ [mark]) ++ last := by
  induction front with
  | nil => simp
  | cons line rest ih =>
    rw [List.cons_append, List.intercalate_cons_of_ne_nil (by simp), ih]
    simp

theorem toList_blockOf (texts : List String) :
    (blockOf texts).toList = ['\n'].intercalate
      (("/**".toList :: texts.map fun text => ' ' :: '*' :: ' ' :: text.toList) ++ [" */".toList]) := by
  rw [intercalate_concat]
  simp [blockOf, List.flatMap_map, String.toList_join]

theorem lines_blockOf {texts : List String}
    (h : ∀ text ∈ texts, '\n' ∉ text.toList ∧ ¬ ['*', '/'] <:+: text.toList) :
    lines (blockOf texts) = "" :: texts.map plainText ++ [""] := by
  have hline : ∀ line ∈ ("/**".toList :: texts.map fun text => ' ' :: '*' :: ' ' :: text.toList) ++
      [" */".toList], '\n' ∉ line := by
    intro line hline
    simp only [List.cons_append, List.mem_cons, List.mem_append, List.mem_map, List.not_mem_nil,
      or_false] at hline
    rcases hline with rfl | ⟨text, htext, rfl⟩ | rfl
    · decide
    · simpa using (h text htext).1
    · decide
  have hfirst : String.ofList (plainLine "/**".toList) = plainText "" := ofList_plainLine rfl
  have hlast : String.ofList (plainLine " */".toList) = plainText "" := ofList_plainLine rfl
  have hmiddle : ∀ text ∈ texts,
      String.ofList (plainLine (' ' :: '*' :: ' ' :: text.toList)) = plainText text :=
    fun text htext => ofList_plainLine (undecorate_starred (h text htext).2)
  rw [lines_of_intercalate (by simp) hline (toList_blockOf texts), List.map_append, List.map_cons,
    List.map_map, hfirst, List.map_singleton, hlast, plainText_empty]
  exact congrArg (fun middle => "" :: middle ++ [""]) (List.map_congr_left hmiddle)

/-- A comment of one line. -/
theorem lines_of_line {comment text : String} (hline : '\n' ∉ comment.toList)
    (h : undecorate comment.toList = text.toList) : lines comment = [plainText text] := by
  have hone : comment.toList = ['\n'].intercalate [comment.toList] := by simp
  rw [lines_of_intercalate (by simp) (by simpa using hline) hone, List.map_singleton,
    ofList_plainLine h]

theorem lines_enclosed {text : String} (h : '\n' ∉ text.toList) :
    lines ("/** " ++ text ++ " */") = [plainText text] := by
  have hcomment : ("/** " ++ text ++ " */").toList =
      '/' :: '*' :: '*' :: ' ' :: text.toList ++ [' ', '*', '/'] := by simp
  refine lines_of_line ?_ ?_
  · rw [hcomment]
    simpa using h
  · rw [hcomment, undecorate_enclosed]

theorem lines_slashed {text : String} (h : '\n' ∉ text.toList) :
    lines ("// " ++ text) = [plainText text] := by
  have hcomment : ("// " ++ text).toList = '/' :: '/' :: ' ' :: text.toList := by simp
  refine lines_of_line ?_ ?_
  · rw [hcomment]
    simpa using h
  · rw [hcomment, undecorate_slashed]

/-! ## What belongs to a text -/

theorem roundBracket_of_isSpace (h : Text.isSpace c = true) : roundBracket c = c := by
  unfold roundBracket
  split
  · rename_i heq
    rw [heq] at h
    exact absurd h (by decide)
  · split
    · rename_i heq
      rw [heq] at h
      exact absurd h (by decide)
    · rfl

theorem takeWhile_prefix_plainText (text : String) :
    text.toList.takeWhile Text.isSpace <+: (plainText text).toList := by
  have hat := takeWhile_prefix_outside marked_descriptionWords (p := Text.isSpace) (by decide)
    text.toList
  have hround : (text.toList.takeWhile Text.isSpace).map roundBracket =
      text.toList.takeWhile Text.isSpace := by
    rw [List.map_congr_left fun c hc => roundBracket_of_isSpace (List.mem_takeWhile_imp hc),
      List.map_id']
  rw [plainText, String.toList_ofList, ← hround]
  exact hat.map roundBracket

/-- Stars, slashes and exclamation marks: what decoration is made of. -/
def isOrnament (c : Char) : Bool := c ∈ ['*', '/', '!']

theorem filter_plainText (text : String) :
    (plainText text).toList.filter isOrnament = text.toList.filter isOrnament := by
  have hround : ∀ c, isOrnament (roundBracket c) = isOrnament c := by
    intro c
    unfold roundBracket
    split
    · rename_i heq
      rw [heq]
      rfl
    · split
      · rename_i heq
        rw [heq]
        rfl
      · rfl
  have hsame : ∀ c ∈ text.toList.filter isOrnament, roundBracket c = c := by
    intro c hc
    have hornament := (List.mem_filter.1 hc).2
    simp only [isOrnament, List.mem_cons, List.not_mem_nil, or_false, decide_eq_true_eq]
      at hornament
    rcases hornament with rfl | rfl | rfl <;> rfl
  have hwords : ∀ word ∈ descriptionWords, ∀ c ∈ word, isOrnament c = false := by
    simp [descriptionWords, isOrnament]
  rw [plainText, String.toList_ofList, List.filter_map]
  simp only [Function.comp_def, hround]
  rw [filter_outside hwords, List.map_congr_left hsame, List.map_id']

/-- **Text that is put into a comment comes out of it**, as it is in a description:

* texts without an end of a block, each on a line of a block behind a star;
* a text between the marks of a block of one line;
* a text behind the two slashes of a line comment.

The indentation of a text stays in front of it, and its stars, slashes and exclamation marks are all
kept, in order. -/
theorem lines_decorated :
    (∀ texts : List String, (∀ text ∈ texts, '\n' ∉ text.toList ∧ ¬ ['*', '/'] <:+: text.toList) →
      lines (blockOf texts) = "" :: texts.map plainText ++ [""]) ∧
    (∀ text : String, '\n' ∉ text.toList →
      lines ("/** " ++ text ++ " */") = [plainText text] ∧
        lines ("// " ++ text) = [plainText text]) ∧
    ∀ text : String, text.toList.takeWhile Text.isSpace <+: (plainText text).toList ∧
      (plainText text).toList.filter isOrnament = text.toList.filter isOrnament :=
  ⟨fun _ h => lines_blockOf h, fun _ h => ⟨lines_enclosed h, lines_slashed h⟩,
    fun text => ⟨takeWhile_prefix_plainText text, filter_plainText text⟩⟩

/-- Stars, slashes and indentation that belong to the texts stay, tags and brackets do not. -/
theorem lines_decorated_ornate :
    let texts := ["\\brief *Adds* [two] // numbers", "", "   *** / ! indented \\determine"]
    (∀ text ∈ texts, '\n' ∉ text.toList ∧ ¬ ['*', '/'] <:+: text.toList) ∧
      blockOf texts =
        "/**\n * \\brief *Adds* [two] // numbers\n * \n *    *** / ! indented \\determine\n */" ∧
      lines (blockOf texts) =
        ["", "*Adds* (two) // numbers", "", "   *** / ! indented \\determine", ""] ∧
      '\n' ∉ "/< a */ b \\brief ".toList ∧
      lines ("/** " ++ "/< a */ b \\brief " ++ " */") = ["/< a */ b "] ∧
      lines ("// " ++ "/< a */ b \\brief ") = ["/< a */ b "] := by
  intro texts
  have htexts : ∀ text ∈ texts, '\n' ∉ text.toList ∧ ¬ ['*', '/'] <:+: text.toList := by
    decide +kernel
  have hline : '\n' ∉ "/< a */ b \\brief ".toList := by decide
  obtain ⟨henclosed, hslashed⟩ := lines_decorated.2.1 _ hline
  refine ⟨htexts, by decide +kernel, ?_, hline, ?_, ?_⟩
  · rw [lines_decorated.1 texts htexts]
    decide +kernel
  · rw [henclosed]
    decide +kernel
  · rw [hslashed]
    decide +kernel

end HeaderIndex.Comment
