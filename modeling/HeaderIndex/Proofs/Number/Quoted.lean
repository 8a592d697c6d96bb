import HeaderIndex.Number.Literal
import Mathlib.Data.List.DropRight

/-!
# Quoted literals as numbers

* `Quoted` — a character constant or a string literal: its encoding, its quotes, and what stands
  between them.
* `value?_eq_none_of_mem` — a text with a double quote in it is no number.
* `value?_eq_none_of_encoding` — a text that starts with the letter of an encoding is no number.
* `value?_spelling` — so of the quoted literals only character constants without an encoding can be
  numbers, and these are read as though their contents stood there without quotes.
-/

namespace HeaderIndex

/-! ## Quoted literals -/

/-- How the characters of a quoted literal are encoded. -/
inductive Encoding where
  | plain | utf8 | utf16 | utf32 | wide
  deriving DecidableEq, Repr

/-- What stands in front of the quotes for an encoding. -/
def Encoding.text : Encoding → List Char
  | plain => []
  | utf8 => ['u', '8']
  | utf16 => ['u']
  | utf32 => ['U']
  | wide => ['L']

/-- What a quoted literal denotes. -/
inductive QuotedSort where
  /-- a character constant, between single quotes -/
  | character
  /-- a string literal, between double quotes -/
  | string
  deriving DecidableEq, Repr

/-- The quote at both ends of a literal. -/
def QuotedSort.quote : QuotedSort → Char
  | character => '\''
  | string => '"'

/-- A quoted literal with whatever stands between its quotes. -/
structure Quoted where
  encoding : Encoding
  sort : QuotedSort
  contents : List Char
  deriving DecidableEq, Repr

/-- A quoted literal as it is spelled. -/
def Quoted.spelling (q : Quoted) : String :=
  String.ofList (q.encoding.text ++ q.sort.quote :: q.contents ++ [q.sort.quote])

namespace Numeral

/-! ## What reading a numeral leaves over -/

section Rest

variable {base : Nat} {c : Char} {text : List Char}

theorem digitInBase?_doubleQuote (base : Nat) : Text.digitInBase? base '"' = none := by
  have hdigit : Text.digit? '"' = none := by decide
  simp [Text.digitInBase?, hdigit]

/-- Digits are read up to the first character that is none, so a double quote is left over. -/
theorem mem_moreDigits (h : '"' ∈ text) : '"' ∈ (moreDigits base text).2 := by
  fun_induction moreDigits base text with
  | case1 c rest d hd more after hmore ih =>
    rw [hmore] at ih
    rcases List.mem_cons.1 h with hc | h
    · exact absurd hc (by decide)
    · rcases List.mem_cons.1 h with rfl | h
      · rw [digitInBase?_doubleQuote] at hd
        cases hd
      · exact ih h
  | case2 => exact h
  | case3 c rest _ d hd more after hmore ih =>
    rw [hmore] at ih
    rcases List.mem_cons.1 h with rfl | h
    · rw [digitInBase?_doubleQuote] at hd
      cases hd
    · exact ih h
  | case4 => exact h
  | case5 => exact h

theorem mem_digits (base : Nat) (h : '"' ∈ text) : '"' ∈ (digits base text).2 := by
  unfold digits
  split
  · exact h
  · split
    · rename_i d hd
      rcases List.mem_cons.1 h with rfl | h
      · rw [digitInBase?_doubleQuote] at hd
        cases hd
      · exact mem_moreDigits h
    · exact h

theorem mem_dropWhile {p : Char → Bool} (hp : p c = false) (h : c ∈ text) :
    c ∈ text.dropWhile p := by
  rw [← List.takeWhile_append_dropWhile (p := p) (l := text)] at h
  rcases List.mem_append.1 h with h | h
  · rw [List.mem_takeWhile_imp h] at hp
    cases hp
  · exact h

theorem mem_trim (hc : isBlank c = false) (h : c ∈ text) : c ∈ trim text := by
  unfold trim
  rw [List.mem_reverse]
  refine mem_dropWhile hc ?_
  rw [List.mem_reverse]
  exact mem_dropWhile hc h

theorem mem_sign (h : '"' ∈ text) : '"' ∈ (sign text).2 := by
  unfold sign
  split
  · exact (List.mem_cons.1 h).resolve_left (by decide)
  · exact (List.mem_cons.1 h).resolve_left (by decide)
  · exact h

theorem mem_dropBase (h : '"' ∈ text) : '"' ∈ dropBase base text := by
  unfold dropBase
  split
  · rename_i letter rest
    split
    · rename_i hletter
      have hne : '"' ≠ letter := by
        rintro rfl
        unfold baseLetters at hletter
        split at hletter
        · exact absurd hletter (by decide)
        · split at hletter
          · exact absurd hletter (by decide)
          · cases hletter
      have hrest : '"' ∈ rest := by
        have htail := (List.mem_cons.1 h).resolve_left (by decide)
        exact (List.mem_cons.1 htail).resolve_left hne
      split
      · exact (List.mem_cons.1 hrest).resolve_left (by decide)
      · exact hrest
    · exact h
  · exact h

end Rest

/-! ## Texts that are no numerals -/

/-- A double quote is no part of an integer. -/
theorem integer?_eq_none_of_mem {base : Nat} {text : List Char} (h : '"' ∈ text) :
    integer? base text = none := by
  have hrest : '"' ∈ (digits base (dropBase base (sign (trim text)).2)).2 :=
    mem_digits base (mem_dropBase (mem_sign (mem_trim (by decide) h)))
  unfold integer?
  dsimp only
  split
  · rfl
  · rename_i heq
    rw [heq] at hrest
    cases hrest
  · rfl

theorem exponent?_eq_none_of_mem {text : List Char} (h : '"' ∈ text) : exponent? text = none := by
  unfold exponent?
  split
  · cases h
  · rename_i letter rest
    split
    · rename_i hletter
      have hne : '"' ≠ letter := by
        rintro rfl
        exact absurd hletter (by decide)
      have hrest := mem_digits 10 (mem_sign ((List.mem_cons.1 h).resolve_left hne))
      dsimp only
      split
      · rfl
      · rename_i heq
        rw [heq] at hrest
        cases hrest
      · rfl
    · rfl

/-- The digits around a point are read up to the double quote, which no exponent goes on with. -/
theorem mem_mantissa? {text rest : List Char} {whole fraction : List Nat} (h : '"' ∈ text)
    (hm : mantissa? text = some (whole, fraction, rest)) : '"' ∈ rest := by
  have hwhole := mem_digits 10 h
  unfold mantissa? at hm
  dsimp only at hm
  generalize digits 10 text = read at hwhole hm
  obtain ⟨ds, after⟩ := read
  replace hwhole : '"' ∈ after := hwhole
  dsimp only at hm
  split at hm
  · split at hm
    · cases hm
    · cases hm
      exact mem_digits 10 ((List.mem_cons.1 hwhole).resolve_left (by decide))
  · split at hm
    · cases hm
    · cases hm
      exact hwhole

theorem float?_eq_none_of_mem {text : List Char} (h : '"' ∈ text) : float? text = none := by
  have hunsigned : '"' ∈ (sign (trim text)).2 := mem_sign (mem_trim (by decide) h)
  unfold float?
  dsimp only
  cases hm : mantissa? (sign (trim text)).2 with
  | none => rfl
  | some read =>
    obtain ⟨whole, fraction, rest⟩ := read
    have hexponent := exponent?_eq_none_of_mem (mem_mantissa? hunsigned hm)
    simp [hexponent]

/-- The letters that encodings start with. -/
def encodingLetters : List Char := ['u', 'U', 'L']

/-- A text that an encoding starts, or of which nothing is left. -/
def StartsEncoded (text : List Char) : Prop := ∀ c ∈ text.head?, c ∈ encodingLetters

theorem trim_startsEncoded {text : List Char} (h : StartsEncoded text) :
    StartsEncoded (trim text) := by
  cases text with
  | nil => exact h
  | cons c rest =>
    have hletters : (encodingLetters.all fun letter => !isBlank letter) = true := by decide
    have hc : isBlank c = false := by simpa using List.all_eq_true.1 hletters c (h c rfl)
    have hfront : (c :: rest).dropWhile isBlank = c :: rest := by
      rw [List.dropWhile_cons, hc]
      rfl
    -- what is dropped at the end leaves a beginning of the text
    have hbegin : trim (c :: rest) <+: c :: rest := by
      unfold trim
      rw [hfront]
      exact List.rdropWhile_prefix isBlank (c :: rest)
    intro d hd
    refine h d ?_
    obtain ⟨more, hmore⟩ := hbegin
    cases htrim : trim (c :: rest) with
    | nil => rw [htrim] at hd; cases hd
    | cons e front =>
      rw [htrim] at hd hmore
      rw [← hmore]
      exact hd

theorem sign_of_startsEncoded {text : List Char} (h : StartsEncoded text) :
    sign text = (false, text) := by
  unfold sign
  split
  · exact absurd (h '-' rfl) (by decide)
  · exact absurd (h '+' rfl) (by decide)
  · rfl

theorem digitInBase?_of_mem_encodingLetters (base : Nat) {c : Char} (h : c ∈ encodingLetters) :
    Text.digitInBase? base c = none := by
  have hletters : (encodingLetters.all fun letter => decide (Text.digit? letter = none ∧
      ¬ ('a' ≤ letter ∧ letter ≤ 'f') ∧ ¬ ('A' ≤ letter ∧ letter ≤ 'F'))) = true := by decide
  obtain ⟨hdigit, hlower, hupper⟩ := of_decide_eq_true (List.all_eq_true.1 hletters c h)
  rw [Text.digitInBase?, if_neg hlower, if_neg hupper, hdigit]
  rfl

theorem digits_of_startsEncoded {text : List Char} (h : StartsEncoded text) (base : Nat) :
    digits base text = ([], text) := by
  cases text with
  | nil => rfl
  | cons c rest =>
    simp [digits, digitInBase?_of_mem_encodingLetters base (h c rfl)]

theorem integer?_of_startsEncoded {text : List Char} (h : StartsEncoded text) (base : Nat) :
    integer? base text = none := by
  have htrim := trim_startsEncoded h
  have hbase : dropBase base (trim text) = trim text := by
    unfold dropBase
    split
    · rename_i letter rest heq
      rw [heq] at htrim
      exact absurd (htrim '0' rfl) (by decide)
    · rfl
  unfold integer?
  simp only [sign_of_startsEncoded htrim, hbase, digits_of_startsEncoded htrim]

theorem float?_of_startsEncoded {text : List Char} (h : StartsEncoded text) :
    float? text = none := by
  have htrim := trim_startsEncoded h
  have hmantissa : mantissa? (trim text) = none := by
    unfold mantissa?
    simp only [digits_of_startsEncoded htrim]
    split
    · rename_i rest heq
      rw [heq] at htrim
      exact absurd (htrim '.' rfl) (by decide)
    · rfl
  unfold float?
  simp only [sign_of_startsEncoded htrim, hmantissa]
  rfl

end Numeral

namespace Literal

/-! ## What dropping a suffix leaves over -/

/-- The letters of integer suffixes. -/
def isSuffixLetter (c : Char) : Bool := c = 'U' || c = 'L'

theorem isSuffixLetter_of_mem {suffix : List Char} (h : suffix ∈ integerSuffixes) :
    ∀ c ∈ suffix, isSuffixLetter c = true := by
  have hall : (integerSuffixes.all fun suffix => suffix.all isSuffixLetter) = true := by decide
  exact List.all_eq_true.1 (List.all_eq_true.1 hall suffix h)

/-- No character is written in upper case with more than one letter of a suffix. -/
theorem countP_upperChar_le (c : Char) : (Text.upperChar c).countP isSuffixLetter ≤ 1 := by
  unfold Text.upperChar
  split
  · exact (List.countP_le_length).trans (by simp)
  · split
    · rename_i codes hcodes
      have htable : ∀ entry ∈ Text.upperExpansions,
          (entry.2.map Char.ofNat).countP isSuffixLetter ≤ 1 := by decide
      rw [List.lookup_eq_some_iff] at hcodes
      obtain ⟨before, after, heq, _⟩ := hcodes
      exact htable (c.toNat, codes) (by rw [heq]; simp)
    · exact (List.countP_le_length).trans (by simp)

theorem countP_upper_le (text : List Char) :
    (Text.upper text).countP isSuffixLetter ≤ text.length := by
  induction text with
  | nil => rfl
  | cons c rest ih =>
    have hc := countP_upperChar_le c
    simp only [Text.upper, List.flatMap_cons, List.countP_append, List.length_cons] at ih ⊢
    omega

/-- A text of letters of one sort ends a longer text exactly if it ends what stands behind a
character of another sort. -/
theorem suffix_append_cons_iff {α : Type} {p : α → Bool} {letters before after : List α} {c : α}
    (hletters : ∀ letter ∈ letters, p letter = true) (hc : p c = false) :
    letters <:+ before ++ c :: after ↔ letters <:+ after := by
  have hnotMem : c ∉ letters := by
    intro hmem
    rw [hletters c hmem] at hc
    cases hc
  constructor
  · rintro ⟨front, hfront⟩
    rcases List.append_eq_append_iff.1 hfront with ⟨more, hmore, hsuffix⟩ | ⟨more, hmore, hsuffix⟩
    · exact absurd (by rw [hsuffix]; simp) hnotMem
    · cases more with
      | nil => exact absurd (by rw [← List.nil_append letters, ← hsuffix]; simp) hnotMem
      | cons d more =>
        rw [List.cons_append, List.cons.injEq] at hsuffix
        exact ⟨more, hsuffix.2.symm⟩
  · intro h
    exact (h.trans (List.suffix_cons c after)).trans (List.suffix_append before (c :: after))

/-- A suffix is no longer than what stands behind a double quote, as each of its letters comes from
a character of its own. -/
theorem length_suffix_le {suffix before after : List Char} (hs : suffix ∈ integerSuffixes)
    (h : suffix <:+ Text.upper (before ++ '"' :: after)) : suffix.length ≤ after.length := by
  have hupper : Text.upper (before ++ '"' :: after) =
      Text.upper before ++ '"' :: Text.upper after := by
    simp only [Text.upper, List.flatMap_append, List.flatMap_cons]
    rfl
  have hletters := isSuffixLetter_of_mem hs
  rw [hupper] at h
  have hbehind : suffix <:+ Text.upper after := (suffix_append_cons_iff hletters (by decide)).1 h
  calc suffix.length = suffix.countP isSuffixLetter := (List.countP_eq_length.2 hletters).symm
    _ ≤ (Text.upper after).countP isSuffixLetter := hbehind.sublist.countP_le
    _ ≤ after.length := countP_upper_le after

theorem mem_dropIntegerSuffix {token : List Char} (h : '"' ∈ token) :
    '"' ∈ dropIntegerSuffix token := by
  unfold dropIntegerSuffix
  split
  · rename_i suffix hfind
    have hs := List.mem_of_find?_eq_some hfind
    have hfound : suffix.isSuffixOf (Text.upper token) = true := by
      simpa using List.find?_some hfind
    have hsuffix := List.isSuffixOf_iff_suffix.1 hfound
    obtain ⟨before, after, rfl⟩ := List.append_of_mem h
    have hlength := length_suffix_le hs hsuffix
    have htake : (before ++ ['"']) <+:
        (before ++ '"' :: after).take ((before ++ '"' :: after).length - suffix.length) := by
      rw [List.prefix_take_iff]
      refine ⟨⟨after, by simp⟩, ?_⟩
      simp only [List.length_append, List.length_cons, List.length_nil]
      omega
    exact htake.subset (by simp)
  · exact h

theorem mem_dropFloatSuffix {token : List Char} (h : '"' ∈ token) :
    '"' ∈ dropFloatSuffix token := by
  unfold dropFloatSuffix
  split
  · rename_i hlast
    rcases List.eq_nil_or_concat token with rfl | ⟨front, c, rfl⟩
    · cases h
    · rw [List.concat_eq_append] at h hlast ⊢
      rw [List.getLast?_concat, Option.any_some, decide_eq_true_eq] at hlast
      rw [List.dropLast_concat]
      rcases List.mem_append.1 h with h | h
      · exact h
      · obtain rfl := List.mem_singleton.1 h
        exact absurd hlast (by decide)
  · exact h

theorem startsEncoded_of_isPrefix {text token : List Char} (h : text <+: token)
    (htoken : Numeral.StartsEncoded token) : Numeral.StartsEncoded text := by
  obtain ⟨rest, rfl⟩ := h
  cases text with
  | nil => intro c hc; cases hc
  | cons c text => exact htoken

theorem dropIntegerSuffix_isPrefix (token : List Char) : dropIntegerSuffix token <+: token := by
  unfold dropIntegerSuffix
  split
  · exact List.take_prefix _ _
  · exact List.prefix_rfl

theorem dropFloatSuffix_isPrefix (token : List Char) : dropFloatSuffix token <+: token := by
  unfold dropFloatSuffix
  split
  · exact List.dropLast_prefix token
  · exact List.prefix_rfl

/-! ## Literals that are no numbers -/

/-- A token without quotes that stand for digit separators. -/
def withoutSeparators (spelling : String) : List Char := spelling.toList.filter (· ≠ '\'')

theorem value?_eq (spelling : String) : value? spelling =
    if isFloating (withoutSeparators spelling) then
      (Numeral.float? (dropFloatSuffix (withoutSeparators spelling))).map .float
    else
      (Numeral.integer? (base (withoutSeparators spelling)
          (dropIntegerSuffix (withoutSeparators spelling)))
        (dropIntegerSuffix (withoutSeparators spelling))).map .int := rfl

/-- **A literal with a double quote in it is no number.** -/
theorem value?_eq_none_of_mem {spelling : String} (h : '"' ∈ spelling.toList) :
    value? spelling = none := by
  have htoken : '"' ∈ withoutSeparators spelling := List.mem_filter.2 ⟨h, by decide⟩
  rw [value?_eq]
  split
  · rw [Numeral.float?_eq_none_of_mem (mem_dropFloatSuffix htoken)]
    rfl
  · rw [Numeral.integer?_eq_none_of_mem (mem_dropIntegerSuffix htoken)]
    rfl

/-- **A literal with an encoding is no number.** -/
theorem value?_eq_none_of_encoding {spelling : String}
    (h : Numeral.StartsEncoded (withoutSeparators spelling)) : value? spelling = none := by
  rw [value?_eq]
  split
  · have hfloat := startsEncoded_of_isPrefix (dropFloatSuffix_isPrefix _) h
    rw [Numeral.float?_of_startsEncoded hfloat]
    rfl
  · have hinteger := startsEncoded_of_isPrefix (dropIntegerSuffix_isPrefix _) h
    rw [Numeral.integer?_of_startsEncoded hinteger]
    rfl

/-- **Which quoted literals are numbers.**  A string literal is none, and a character constant with
an encoding is none.  A character constant without one is the number that its contents are. -/
theorem value?_spelling (q : Quoted) : value? q.spelling =
    if q.sort = .character ∧ q.encoding = .plain then value? (String.ofList q.contents)
    else none := by
  obtain ⟨encoding, sort, contents⟩ := q
  cases sort with
  | string =>
    rw [if_neg (by simp)]
    refine value?_eq_none_of_mem ?_
    simp [Quoted.spelling, QuotedSort.quote]
  | character =>
    by_cases hplain : encoding = .plain
    · subst hplain
      rw [if_pos ⟨rfl, rfl⟩]
      -- the quotes go with the digit separators
      have hsame : withoutSeparators (Quoted.spelling ⟨.plain, .character, contents⟩) =
          withoutSeparators (String.ofList contents) := by
        simp [withoutSeparators, Quoted.spelling, QuotedSort.quote, Encoding.text]
      rw [value?_eq, value?_eq, hsame]
    · rw [if_neg fun h => hplain h.2]
      refine value?_eq_none_of_encoding ?_
      cases encoding with
      | plain => exact absurd rfl hplain
      | _ =>
        simp [Numeral.StartsEncoded, withoutSeparators, Quoted.spelling, Encoding.text,
          Numeral.encodingLetters]

end Literal

end HeaderIndex
