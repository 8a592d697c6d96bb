import HeaderIndex.Name.Format
import HeaderIndex.Proofs.Fallible
import Mathlib

/-!
# Reading back what was written

A name that was written under a casing can be cut into its words again.  Underscores in front and
behind, which keep a text usable as an identifier, never matter; whether the words themselves come
apart depends on how they are joined.

* `words_append_underscore` — an underscore separates, whatever stands around it.
* `words_joined` — so words that are joined by underscores come apart, if no capital begins a word
  inside of one.
* `pieces_flatten_iff`, `words_flatten_iff` — capitalized words that are put together without anything
  between them come apart exactly if no two of one letter are neighbours.
* `parts_split_format` — both for the text of a name.
-/

namespace HeaderIndex

/-! ## Case of ASCII -/

namespace Text

theorem lowerAfter_of_ascii {text : List Char} (h : ∀ c ∈ text, c.toNat < 0x80) (seen : List Char) :
    lowerAfter seen text = text.map Char.toLower := by
  induction text generalizing seen with
  | nil => rfl
  | cons c rest ih =>
    have hc : c.toNat < 0x80 := h c List.mem_cons_self
    have hsigma : c ≠ 'Σ' := by
      rintro rfl
      exact absurd hc (by decide)
    rw [lowerAfter, ih fun d hd => h d (List.mem_cons_of_mem _ hd)]
    simp [hsigma, lowerChar, hc]

theorem lower_of_ascii {text : List Char} (h : ∀ c ∈ text, c.toNat < 0x80) :
    lower text = text.map Char.toLower :=
  lowerAfter_of_ascii h []

theorem upperChar_of_ascii {c : Char} (h : c.toNat < 0x80) : upperChar c = [c.toUpper] := by
  simp [upperChar, h]

theorem upper_of_ascii {text : List Char} (h : ∀ c ∈ text, c.toNat < 0x80) :
    upper text = text.map Char.toUpper := by
  unfold upper
  induction text with
  | nil => rfl
  | cons c rest ih =>
    rw [List.flatMap_cons, upperChar_of_ascii (h c List.mem_cons_self),
      ih fun d hd => h d (List.mem_cons_of_mem _ hd)]
    rfl

theorem toNat_of_isLower {c : Char} (h : c.isLower = true) : c.toNat < 0x80 := by
  simp only [Char.isLower, Bool.and_eq_true, decide_eq_true_eq, UInt32.le_iff_toNat_le] at h
  have hz : c.toNat ≤ 122 := h.2
  omega

theorem toNat_of_isDigit {c : Char} (h : c.isDigit = true) : c.toNat < 0x80 := by
  simp only [Char.isDigit, Bool.and_eq_true, decide_eq_true_eq, UInt32.le_iff_toNat_le] at h
  have hnine : c.toNat ≤ 57 := h.2
  omega

theorem toNat_of_isUpper {c : Char} (h : c.isUpper = true) : c.toNat < 0x80 := by
  simp only [Char.isUpper, decide_eq_true_eq, UInt32.le_iff_toNat_le] at h
  have hz : c.toNat ≤ 90 := h.2
  omega

theorem toNat_toUpper {c : Char} (h : c.toNat < 0x80) : c.toUpper.toNat < 0x80 := by
  by_cases hlower : c.isLower = true
  · have hupper : c.toUpper.isUpper = true := by simp [Char.isAlpha, hlower]
    exact toNat_of_isUpper hupper
  · rw [Char.toUpper_eq_of_not_isLower hlower]
    exact h

theorem not_isUpper_of_isDigit {c : Char} (h : c.isDigit = true) : ¬c.isUpper = true := by
  simp only [Char.isDigit, Char.isUpper, Bool.and_eq_true, decide_eq_true_eq,
    UInt32.le_iff_toNat_le] at h ⊢
  simp at h ⊢
  omega

end Text

namespace Name

/-! ## Pieces -/

variable {before before' : Option Char} {c : Char} {text rest : List Char}

/-- All pieces of a text. -/
def allPieces (before : Option Char) (text : List Char) : List (List Char) :=
  (pieces before text).1 :: (pieces before text).2

theorem words_eq_filter (text : List Char) : words text = (allPieces none text).filter (· ≠ []) :=
  rfl

theorem pieces_cons (before : Option Char) (c : Char) (rest : List Char) :
    pieces before (c :: rest) =
      if c = '_' then ([], allPieces (some c) rest)
      else if beginsWord before c rest.head? then
        ([], (c :: (pieces (some c) rest).1) :: (pieces (some c) rest).2)
      else (c :: (pieces (some c) rest).1, (pieces (some c) rest).2) := rfl

/-- Of what stands in front of a text only matters whether it is a small letter. -/
theorem pieces_congr (h : before.any Char.isLower = before'.any Char.isLower) (text : List Char) :
    pieces before text = pieces before' text := by
  cases text with
  | nil => rfl
  | cons c rest =>
    have hbegins : beginsWord before c rest.head? = beginsWord before' c rest.head? := by
      unfold beginsWord
      rw [h]
    rw [pieces_cons, pieces_cons, hbegins]

/-- **An underscore separates** the pieces in front of it from those behind it. -/
theorem pieces_append_underscore (before : Option Char) (text rest : List Char) :
    pieces before (text ++ '_' :: rest) =
      ((pieces before text).1, (pieces before text).2 ++ allPieces none rest) := by
  induction text generalizing before with
  | nil =>
    have hsame : pieces (some '_') rest = pieces none rest := pieces_congr (by decide) rest
    simp [pieces_cons, allPieces, hsame, pieces]
  | cons c more ih =>
    -- where the text ends, an underscore begins a word behind it no more than nothing does
    have hbegins : beginsWord before c (more ++ '_' :: rest).head? =
        beginsWord before c more.head? := by
      cases more with
      | nil => simp [beginsWord]
      | cons d more => rfl
    rw [List.cons_append, pieces_cons, pieces_cons, hbegins, allPieces, ih (some c)]
    split
    · rfl
    · split <;> rfl

theorem words_append_underscore (text rest : List Char) :
    words (text ++ '_' :: rest) = words text ++ words rest := by
  simp only [words_eq_filter, allPieces, pieces_append_underscore, ← List.filter_append,
    List.cons_append]

/-- The touches that make a text usable as an identifier do not change its words. -/
theorem words_guardDigit (text : List Char) : words (guardDigit text) = words text := by
  unfold guardDigit
  split
  · rfl
  · split
    · exact words_append_underscore [] _
    · rfl

theorem words_guardReserved (reserved : List String) (text : String) :
    words (guardReserved reserved text).toList = words text.toList := by
  unfold guardReserved
  split
  · have hnil : words ([] : List Char) = [] := rfl
    rw [String.toList_append]
    exact (words_append_underscore text.toList []).trans (by rw [hnil, List.append_nil])
  · rfl

/-! ## Words joined by underscores -/

/-- A text in which no capital begins a word is one piece. -/
theorem pieces_of_uniform (hunderscore : '_' ∉ text)
    (h : (∀ c ∈ text, c.isUpper = false) ∨
      before.any Char.isLower = false ∧ ∀ c ∈ text, c.isLower = false) :
    pieces before text = (text, []) := by
  induction text generalizing before with
  | nil => rfl
  | cons c rest ih =>
    have hne : c ≠ '_' := fun hc => hunderscore (hc ▸ List.mem_cons_self)
    have hbegins : beginsWord before c rest.head? = false := by
      rcases h with hupper | ⟨hbefore, hlower⟩
      · simp [beginsWord, hupper c List.mem_cons_self]
      · have hafter : rest.head?.any Char.isLower = false := by
          cases rest with
          | nil => rfl
          | cons d more => exact hlower d (by simp)
        simp [beginsWord, hbefore, hafter]
    have hrest : pieces (some c) rest = (rest, []) := by
      refine ih (fun hmem => hunderscore (List.mem_cons_of_mem _ hmem)) ?_
      refine h.imp (fun hupper d hd => hupper d (List.mem_cons_of_mem _ hd)) fun hlower => ?_
      exact ⟨hlower.2 c List.mem_cons_self, fun d hd => hlower.2 d (List.mem_cons_of_mem _ hd)⟩
    simp [pieces_cons, hne, hbegins, hrest]

theorem words_joined {written : List (List Char)}
    (h : ∀ word ∈ written, word ≠ [] ∧ '_' ∉ word ∧
      ((∀ c ∈ word, c.isUpper = false) ∨ ∀ c ∈ word, c.isLower = false)) :
    words (['_'].intercalate written) = written := by
  have hone : ∀ word ∈ written, words word = [word] := by
    intro word hword
    obtain ⟨hne, hunderscore, huniform⟩ := h word hword
    rw [words_eq_filter, allPieces,
      pieces_of_uniform hunderscore (huniform.imp_right fun hlower => ⟨rfl, hlower⟩)]
    simp [hne]
  induction written with
  | nil => rfl
  | cons word rest ih =>
    have hrest := ih (fun w hw => h w (List.mem_cons_of_mem _ hw))
      fun w hw => hone w (List.mem_cons_of_mem _ hw)
    cases rest with
    | nil => simpa using hone word List.mem_cons_self
    | cons next more =>
      rw [List.intercalate_cons_cons, List.append_assoc, List.singleton_append,
        words_append_underscore, hone word List.mem_cons_self, hrest]
      rfl

/-! ## Capitalized words -/

/-- A capital with small letters behind it. -/
def Capitalized (word : List Char) : Prop :=
  ∃ c rest, word = c :: rest ∧ c.isUpper = true ∧ ∀ d ∈ rest, d.isLower = true

variable {word : List Char} {written : List (List Char)}

theorem ne_underscore_of_isLower (h : c.isLower = true) : c ≠ '_' := by
  rintro rfl
  exact absurd h (by decide)

theorem ne_underscore_of_isUpper (h : c.isUpper = true) : c ≠ '_' := by
  rintro rfl
  exact absurd h (by decide)

/-- Small letters stay with what is in front of them. -/
theorem pieces_small {small : List Char} (h : ∀ d ∈ small, d.isLower = true) (c : Char)
    (text : List Char) :
    pieces (some c) (small ++ text) =
      (small ++ (pieces (c :: small).getLast? text).1, (pieces (c :: small).getLast? text).2) := by
  induction small generalizing c with
  | nil => rfl
  | cons d more ih =>
    have hd : d.isLower = true := h d List.mem_cons_self
    have hne : d ≠ '_' := ne_underscore_of_isLower hd
    have hbegins : beginsWord (some c) d (more ++ text).head? = false := by
      simp [beginsWord, Char.not_isUpper_of_isLower hd]
    have hmore := ih (fun e he => h e (List.mem_cons_of_mem _ he)) d
    rw [List.cons_append, pieces_cons, if_neg hne, hbegins, hmore, List.getLast?_cons_cons]
    rfl

/-- The last letter of a capitalized word is small exactly if the word has more than one. -/
theorem Capitalized.getLast? (h : Capitalized word) :
    word.getLast?.any Char.isLower = decide (word.length ≠ 1) := by
  obtain ⟨c, rest, rfl, hc, hrest⟩ := h
  rcases List.eq_nil_or_concat' rest with rfl | ⟨init, last, rfl⟩
  · simpa using Char.not_isLower_of_isUpper hc
  · have hlower : last.isLower = true := hrest last (by simp)
    have hlast : (c :: (init ++ [last])).getLast? = some last := by
      rw [← List.cons_append, List.getLast?_concat]
    simp [hlast, hlower]

theorem Capitalized.ne_nil (h : Capitalized word) : word ≠ [] := by
  obtain ⟨c, rest, rfl, -⟩ := h
  exact List.cons_ne_nil c rest

theorem Capitalized.head? (h : Capitalized word) (text : List Char) :
    (word ++ text).head?.any Char.isLower = false := by
  obtain ⟨c, rest, rfl, hc, -⟩ := h
  simpa using Char.not_isLower_of_isUpper hc

theorem head?_flatten (h : ∀ word ∈ written, Capitalized word) :
    written.flatten.head?.any Char.isLower = false := by
  cases written with
  | nil => rfl
  | cons word rest => exact (h word List.mem_cons_self).head? _

/-- A capitalized word is cut off in front if a small letter stands there or is in the word. -/
theorem pieces_capitalized (h : Capitalized word)
    (htext : text.head?.any Char.isLower = false) (before : Option Char) :
    pieces before (word ++ text) =
      if before.any Char.isLower = true ∨ word.length ≠ 1 then
        ([], (word ++ (pieces word.getLast? text).1) :: (pieces word.getLast? text).2)
      else (word ++ (pieces word.getLast? text).1, (pieces word.getLast? text).2) := by
  obtain ⟨c, rest, rfl, hc, hrest⟩ := h
  have hafter : (rest ++ text).head?.any Char.isLower = decide (rest ≠ []) := by
    cases rest with
    | nil => simpa using htext
    | cons d more => simp [hrest d List.mem_cons_self]
  have hbegins : beginsWord before c (rest ++ text).head? =
      decide (before.any Char.isLower = true ∨ (c :: rest).length ≠ 1) := by
    unfold beginsWord
    rw [hc, hafter]
    simp
  rw [List.cons_append, pieces_cons, if_neg (ne_underscore_of_isUpper hc), hbegins,
    pieces_small hrest c text]
  simp only [decide_eq_true_eq]
  split <;> rfl

/-- **Capitalized words come apart** exactly if no two of one letter are neighbours, what stands in
front of the first one included. -/
theorem pieces_flatten_iff (h : ∀ word ∈ written, Capitalized word) (before : Option Char) :
    pieces before written.flatten = ([], written) ↔
      (∀ word ∈ written.head?, before.any Char.isLower = true ∨ word.length ≠ 1) ∧
        written.IsChain fun v w => v.length ≠ 1 ∨ w.length ≠ 1 := by
  induction written generalizing before with
  | nil => simp [pieces]
  | cons word rest ih =>
    have hword : Capitalized word := h word List.mem_cons_self
    have hrest : ∀ w ∈ rest, Capitalized w := fun w hw => h w (List.mem_cons_of_mem _ hw)
    have hne : word ≠ [] := hword.ne_nil
    have hmore := ih hrest word.getLast?
    rw [hword.getLast?] at hmore
    simp only [decide_eq_true_eq] at hmore
    rw [List.flatten_cons, pieces_capitalized hword (head?_flatten hrest), List.isChain_cons,
      ← hmore]
    by_cases hbegins : before.any Char.isLower = true ∨ word.length ≠ 1
    · simp [hbegins, Prod.ext_iff]
    · simp [hbegins, hne]

theorem ne_nil_of_mem_pieces (hunderscore : '_' ∉ text) (before : Option Char) :
    ∀ piece ∈ (pieces before text).2, piece ≠ [] := by
  induction text generalizing before with
  | nil => exact fun piece hpiece => absurd hpiece List.not_mem_nil
  | cons c rest ih =>
    have hne : c ≠ '_' := fun hc => hunderscore (hc ▸ List.mem_cons_self)
    have hrest := ih (fun hmem => hunderscore (List.mem_cons_of_mem _ hmem)) (some c)
    rw [pieces_cons, if_neg hne]
    split
    · intro piece hpiece
      rcases List.mem_cons.1 hpiece with rfl | hpiece
      · exact List.cons_ne_nil _ _
      · exact hrest piece hpiece
    · exact hrest

theorem underscore_notMem_flatten (h : ∀ word ∈ written, Capitalized word) :
    '_' ∉ written.flatten := by
  intro hmem
  obtain ⟨word, hword, hmem⟩ := List.mem_flatten.1 hmem
  obtain ⟨c, rest, rfl, hc, hrest⟩ := h word hword
  rcases List.mem_cons.1 hmem with heq | hmem
  · exact ne_underscore_of_isUpper hc heq.symm
  · exact ne_underscore_of_isLower (hrest _ hmem) rfl

theorem words_flatten_iff (h : ∀ word ∈ written, Capitalized word) :
    words written.flatten = written ↔
      written.IsChain fun v w => v.length ≠ 1 ∨ w.length ≠ 1 := by
  cases written with
  | nil => simp [words, pieces]
  | cons word rest =>
    have hword : Capitalized word := h word List.mem_cons_self
    have hrest : ∀ w ∈ rest, Capitalized w := fun w hw => h w (List.mem_cons_of_mem _ hw)
    have hne : word ≠ [] := hword.ne_nil
    have hmore := pieces_flatten_iff hrest word.getLast?
    rw [hword.getLast?] at hmore
    simp only [decide_eq_true_eq] at hmore
    -- only the first piece can be empty, and it counts for nothing then
    have hfilter : ((pieces word.getLast? rest.flatten).2.filter fun piece => piece ≠ []) =
        (pieces word.getLast? rest.flatten).2 := by
      refine List.filter_eq_self.2 fun piece hpiece => ?_
      simpa using ne_nil_of_mem_pieces (underscore_notMem_flatten hrest) _ piece hpiece
    have hwords : words (word :: rest).flatten =
        (word ++ (pieces word.getLast? rest.flatten).1) ::
          (pieces word.getLast? rest.flatten).2 := by
      rw [words_eq_filter, allPieces, List.flatten_cons,
        pieces_capitalized hword (head?_flatten hrest)]
      split <;> simp_all
    rw [hwords, List.isChain_cons, ← hmore]
    simp [Prod.ext_iff]

theorem flatten_allPieces (hunderscore : '_' ∉ text) (before : Option Char) :
    (allPieces before text).flatten = text := by
  induction text generalizing before with
  | nil => rfl
  | cons c rest ih =>
    have hne : c ≠ '_' := fun hc => hunderscore (hc ▸ List.mem_cons_self)
    have hrest := ih (fun hmem => hunderscore (List.mem_cons_of_mem _ hmem)) (some c)
    simp only [allPieces, List.flatten_cons] at hrest
    rw [allPieces, pieces_cons, if_neg hne]
    split <;> simp [hrest]

theorem flatten_words (hunderscore : '_' ∉ text) : (words text).flatten = text := by
  rw [words_eq_filter, List.flatten_filter_ne_nil, flatten_allPieces hunderscore]

/-! ## Names -/

theorem map_eq_self {α : Type} {f : α → α} {list : List α} (h : ∀ a ∈ list, f a = a) :
    list.map f = list :=
  (List.map_congr_left h).trans (List.map_id list)

/-- A word of small letters and digits. -/
def IsPlain (word : String) : Prop :=
  word ≠ "" ∧ ∀ c ∈ word.toList, c.isLower = true ∨ c.isDigit = true

/-- A word of small letters. -/
def IsSmall (word : String) : Prop := word ≠ "" ∧ ∀ c ∈ word.toList, c.isLower = true

instance (word : String) : Decidable (IsPlain word) :=
  decidable_of_iff (word ≠ "" ∧ word.toList.all fun c => c.isLower || c.isDigit)
    (by simp [IsPlain])

instance (word : String) : Decidable (IsSmall word) :=
  decidable_of_iff (word ≠ "" ∧ word.toList.all Char.isLower) (by simp [IsSmall])

theorem IsSmall.isPlain {word : String} (h : IsSmall word) : IsPlain word :=
  ⟨h.1, fun c hc => .inl (h.2 c hc)⟩

theorem parts_split (raw : String) :
    (split [] raw).parts = (words raw.toList).map fun word => String.ofList (Text.lower word) := rfl

/-- The words of a text that was touched to be an identifier. -/
theorem parts_split_guarded (reserved : List String) (joined : List Char) :
    (split [] (guardReserved reserved (String.ofList (guardDigit joined)))).parts =
      (words joined).map fun word => String.ofList (Text.lower word) := by
  rw [parts_split, words_guardReserved, String.toList_ofList, words_guardDigit]

theorem IsPlain.ascii {word : String} (h : IsPlain word) : ∀ c ∈ word.toList, c.toNat < 0x80 :=
  fun c hc => (h.2 c hc).elim Text.toNat_of_isLower Text.toNat_of_isDigit

theorem IsPlain.isUpper {word : String} (h : IsPlain word) :
    ∀ c ∈ word.toList, c.isUpper = false := by
  intro c hc
  rcases h.2 c hc with hlower | hdigit
  · simpa using Char.not_isUpper_of_isLower hlower
  · simpa using Text.not_isUpper_of_isDigit hdigit

theorem IsPlain.toUpper_ascii {word : String} (h : IsPlain word) :
    ∀ c ∈ word.toList.map Char.toUpper, c.toNat < 0x80 := by
  intro c hc
  obtain ⟨d, hd, rfl⟩ := List.mem_map.1 hc
  exact Text.toNat_toUpper (h.ascii d hd)

theorem IsPlain.underscore_notMem {word : String} (h : IsPlain word) : '_' ∉ word.toList := by
  intro hmem
  exact absurd (h.2 _ hmem) (by decide)

theorem IsPlain.underscore_notMem_toUpper {word : String} (h : IsPlain word) :
    '_' ∉ word.toList.map Char.toUpper := by
  intro hmem
  obtain ⟨c, hc, heq⟩ := List.mem_map.1 hmem
  by_cases hlower : c.isLower = true
  · have hupper : c.toUpper.isUpper = true := by simp [Char.isAlpha, hlower]
    exact ne_underscore_of_isUpper hupper heq
  · rw [Char.toUpper_eq_of_not_isLower hlower] at heq
    exact h.underscore_notMem (heq ▸ hc)

/-- Small letters and digits are the same in lower case. -/
theorem IsPlain.map_toLower {word : String} (h : IsPlain word) :
    word.toList.map Char.toLower = word.toList :=
  map_eq_self fun c hc => Char.toLower_eq_of_not_isUpper (by simp [h.isUpper c hc])

theorem IsPlain.lower {word : String} (h : IsPlain word) : Text.lower word.toList = word.toList := by
  rw [Text.lower_of_ascii h.ascii, h.map_toLower]

theorem IsPlain.lower_upper {word : String} (h : IsPlain word) :
    Text.lower (Text.upper word.toList) = word.toList := by
  have hback : ∀ c ∈ word.toList, (Char.toLower ∘ Char.toUpper) c = c.toLower := by
    intro c _
    exact Char.toLower_toUpper_eq_toLower c
  rw [Text.upper_of_ascii h.ascii, Text.lower_of_ascii h.toUpper_ascii, List.map_map,
    List.map_congr_left hback, h.map_toLower]

/-- The text of a name whose words were recased. -/
theorem format_of_recase {name : Name} {casing : List Casing} {written : List (List Char)}
    (h : recase casing (name.parts.map String.toList) = .ok written) (joiner : String)
    (reserved : List String) :
    name.format casing joiner reserved = .ok (guardReserved reserved
      (String.ofList (guardDigit (joiner.toList.intercalate written)))) := by
  rw [format, h]
  rfl

/-- Words joined by underscores are read back, if they are those of the name in lower case. -/
theorem parts_split_joined {name : Name} {casing : List Casing} {f : List Char → List Char}
    (hrecase : recase casing (name.parts.map String.toList) =
      .ok ((name.parts.map String.toList).map f))
    (hplain : ∀ word ∈ name.parts, f word.toList ≠ [] ∧ '_' ∉ f word.toList ∧
      ((∀ c ∈ f word.toList, c.isUpper = false) ∨ ∀ c ∈ f word.toList, c.isLower = false))
    (hlower : ∀ word ∈ name.parts, Text.lower (f word.toList) = word.toList)
    (reserved : List String) :
    ∃ text, name.format casing "_" reserved = .ok text ∧ (split [] text).parts = name.parts := by
  refine ⟨_, format_of_recase hrecase "_" reserved, ?_⟩
  have hwords : words (['_'].intercalate ((name.parts.map String.toList).map f)) =
      (name.parts.map String.toList).map f := by
    refine words_joined fun written hwritten => ?_
    obtain ⟨chars, hchars, rfl⟩ := List.mem_map.1 hwritten
    obtain ⟨word, hword, rfl⟩ := List.mem_map.1 hchars
    exact hplain word hword
  have hback : ∀ word ∈ name.parts, String.ofList (Text.lower (f word.toList)) = word := by
    intro word hword
    rw [hlower word hword, String.ofList_toList]
  rw [parts_split_guarded, show "_".toList = ['_'] from rfl, hwords, List.map_map, List.map_map]
  exact map_eq_self hback

theorem parts_split_lowerCase {name : Name} (h : ∀ word ∈ name.parts, IsPlain word)
    {casing : List Casing} (hcasing : casing ∈ [[], [Casing.downcase], [Casing.upcase]])
    (reserved : List String) :
    ∃ text, name.format casing "_" reserved = .ok text ∧ (split [] text).parts = name.parts := by
  simp only [List.mem_cons, List.not_mem_nil, or_false] at hcasing
  have hlower : (name.parts.map String.toList).map Text.lower = name.parts.map String.toList := by
    rw [List.map_map]
    exact List.map_congr_left fun word hword => (h word hword).lower
  -- under the first two casings the words are written as they are
  have hunchanged : ∀ casing,
      recase casing (name.parts.map String.toList) = .ok (name.parts.map String.toList) →
      ∃ text, name.format casing "_" reserved = .ok text ∧
        (split [] text).parts = name.parts := by
    intro casing hrecase
    refine parts_split_joined (f := id) (by rw [List.map_id]; exact hrecase) (fun word hword => ?_)
      (fun word hword => (h word hword).lower) reserved
    exact ⟨by simpa using (h word hword).1, (h word hword).underscore_notMem,
      .inl (h word hword).isUpper⟩
  rcases hcasing with rfl | rfl | rfl
  · exact hunchanged [] rfl
  · exact hunchanged [.downcase] (congrArg _ hlower)
  · refine parts_split_joined (f := Text.upper) rfl (fun word hword => ?_)
      (fun word hword => (h word hword).lower_upper) reserved
    rw [Text.upper_of_ascii (h word hword).ascii]
    refine ⟨by simpa using (h word hword).1, (h word hword).underscore_notMem_toUpper, .inr ?_⟩
    intro c hc
    obtain ⟨d, _, rfl⟩ := List.mem_map.1 hc
    exact Char.isLower_toUpper_eq_false d

/-! ## Names of capitalized words -/

/-- A word with its first letter in upper case, where that is an ASCII letter. -/
def capital (word : String) : List Char :=
  match word.toList with
  | [] => []
  | c :: rest => c.toUpper :: rest

theorem length_capital (word : String) : (capital word).length = word.length := by
  rw [← String.length_toList, capital]
  split <;> simp_all

theorem IsSmall.exists_cons {word : String} (h : IsSmall word) :
    ∃ c rest, word.toList = c :: rest ∧ c.isLower = true ∧ ∀ d ∈ rest, d.isLower = true := by
  obtain ⟨c, rest, heq⟩ := List.exists_cons_of_ne_nil (l := word.toList) (by simpa using h.1)
  have hsmall := h.2
  rw [heq] at hsmall
  exact ⟨c, rest, heq, hsmall c List.mem_cons_self,
    fun d hd => hsmall d (List.mem_cons_of_mem _ hd)⟩

theorem IsSmall.capitalize {word : String} (h : IsSmall word) :
    capitalize word.toList = .ok (capital word) := by
  obtain ⟨c, rest, heq, hc, _⟩ := h.exists_cons
  simp [Name.capitalize, capital, heq, Text.upperChar_of_ascii (Text.toNat_of_isLower hc)]

theorem IsSmall.capitalized {word : String} (h : IsSmall word) : Capitalized (capital word) := by
  obtain ⟨c, rest, heq, hc, hrest⟩ := h.exists_cons
  refine ⟨c.toUpper, rest, by simp [capital, heq], ?_, hrest⟩
  simp [Char.isAlpha, hc]

theorem Capitalized.ascii (h : Capitalized word) : ∀ c ∈ word, c.toNat < 0x80 := by
  obtain ⟨c, rest, rfl, hc, hrest⟩ := h
  intro d hd
  rcases List.mem_cons.1 hd with rfl | hd
  · exact Text.toNat_of_isUpper hc
  · exact Text.toNat_of_isLower (hrest d hd)

theorem IsSmall.lower_capital {word : String} (h : IsSmall word) :
    Text.lower (capital word) = word.toList := by
  rw [Text.lower_of_ascii h.capitalized.ascii, ← h.isPlain.map_toLower]
  obtain ⟨c, rest, heq, _, _⟩ := h.exists_cons
  simp [capital, heq]

theorem recase_camelcase {words : List String} (h : ∀ word ∈ words, IsSmall word) :
    recase [.camelcase] (words.map String.toList) = .ok (words.map capital) := by
  have hall : (words.map String.toList).mapM Name.capitalize = .ok (words.map capital) := by
    rw [mapM_eq_ok_iff, List.forall₂_map_left_iff, List.forall₂_map_right_iff]
    exact List.forall₂_same.2 fun word hword => (h word hword).capitalize
  exact bind_eq_ok_iff.2 ⟨_, hall, rfl⟩

theorem capitalized_of_mem_map {words : List String} (h : ∀ word ∈ words, IsSmall word) :
    ∀ word ∈ words.map capital, Capitalized word := by
  intro word hword
  obtain ⟨small, hsmall, rfl⟩ := List.mem_map.1 hword
  exact (h small hsmall).capitalized

/-- The words of a text are read back in lower case exactly if the text comes apart into them. -/
theorem map_lower_words_iff {words : List String} (h : ∀ word ∈ words, IsSmall word) :
    ((Name.words (words.map capital).flatten).map fun word => String.ofList (Text.lower word)) =
        words ↔ Name.words (words.map capital).flatten = words.map capital := by
  have hcapitalized := capitalized_of_mem_map h
  have hflatten := flatten_words (underscore_notMem_flatten hcapitalized)
  constructor
  · intro heq
    refine List.eq_iff_flatten_eq.2 ⟨hflatten, ?_⟩
    -- the text is ASCII, so no word changes its length in lower case
    have hlength : ∀ word ∈ Name.words (words.map capital).flatten,
        word.length = (String.ofList (Text.lower word)).length := by
      intro word hword
      have hascii : ∀ c ∈ word, c.toNat < 0x80 := by
        intro c hc
        have hmem : c ∈ (words.map capital).flatten := by
          rw [← hflatten]
          exact List.mem_flatten_of_mem hword hc
        obtain ⟨whole, hwhole, hmem⟩ := List.mem_flatten.1 hmem
        exact (hcapitalized whole hwhole).ascii c hmem
      rw [Text.lower_of_ascii hascii, String.length_ofList, List.length_map]
    calc (Name.words (words.map capital).flatten).map List.length
        = ((Name.words (words.map capital).flatten).map
            fun word => String.ofList (Text.lower word)).map String.length := by
          rw [List.map_map]
          exact List.map_congr_left hlength
      _ = words.map String.length := by rw [heq]
      _ = (words.map capital).map List.length := by
          rw [List.map_map]
          exact List.map_congr_left fun word _ => (length_capital word).symm
  · intro heq
    rw [heq, List.map_map]
    have hback : ∀ word ∈ words, String.ofList (Text.lower (capital word)) = word := by
      intro word hword
      rw [(h word hword).lower_capital, String.ofList_toList]
    exact map_eq_self hback

theorem intercalate_nothing {α : Type} (lists : List (List α)) :
    [].intercalate lists = lists.flatten := by
  induction lists with
  | nil => rfl
  | cons first rest ih =>
    cases rest with
    | nil => simp
    | cons second more =>
      rw [List.intercalate_cons_cons, ih, List.append_nil]
      rfl

/-- **What is written can be read back.**  Words of small letters and digits that are joined by
underscores in lower or upper case are exactly the words of the text, and so are words of small
letters that are put together with a capital each, if and only if no two words of one letter are
neighbours.  It does not matter whether the text starts with a digit or is reserved. -/
theorem parts_split_format (name : Name) (reserved : List String) :
    ((∀ word ∈ name.parts, IsPlain word) →
      ∀ casing ∈ [[], [Casing.downcase], [Casing.upcase]], ∃ text,
        name.format casing "_" reserved = .ok text ∧ (split [] text).parts = name.parts) ∧
    ((∀ word ∈ name.parts, IsSmall word) →
      ∃ text, name.format [.camelcase] "" reserved = .ok text ∧
        ((split [] text).parts = name.parts ↔
          name.parts.IsChain fun v w => ¬(v.length = 1 ∧ w.length = 1))) := by
  refine ⟨fun h casing hcasing => parts_split_lowerCase h hcasing reserved, fun h => ?_⟩
  refine ⟨_, format_of_recase (recase_camelcase h) "" reserved, ?_⟩
  rw [parts_split_guarded, show "".toList = [] from rfl, intercalate_nothing,
    map_lower_words_iff h, words_flatten_iff (capitalized_of_mem_map h),
    List.isChain_map]
  simp only [length_capital, not_and_or, ne_eq]

/-- Both touches at once, and a text that does not come apart between its last two letters. -/
theorem parts_split_format_reserved :
    (∀ word ∈ ["2d", "class"], IsPlain word) ∧ (∀ word ∈ ["ab", "c", "d"], IsSmall word) ∧
      format ⟨["2d", "class"], none⟩ [.upcase] "_" ["_2D_CLASS"] = .ok "_2D_CLASS_" ∧
      (split [] "_2D_CLASS_").parts = ["2d", "class"] ∧
      format ⟨["ab", "c", "d"], none⟩ [.camelcase] "" ["AbCD"] = .ok "AbCD_" ∧
      (split [] "AbCD_").parts ≠ ["ab", "c", "d"] := by
  have hplain : ∀ word ∈ ["2d", "class"], IsPlain word := by decide
  have hsmall : ∀ word ∈ ["ab", "c", "d"], IsSmall word := by decide
  have hupper : format ⟨["2d", "class"], none⟩ [.upcase] "_" ["_2D_CLASS"] = .ok "_2D_CLASS_" := by
    decide +kernel
  have hcamel : format ⟨["ab", "c", "d"], none⟩ [.camelcase] "" ["AbCD"] = .ok "AbCD_" := by
    decide +kernel
  obtain ⟨text, htext, hparts⟩ :=
    (parts_split_format ⟨["2d", "class"], none⟩ ["_2D_CLASS"]).1 hplain [.upcase] (by simp)
  obtain ⟨camel, hcamelText, hiff⟩ :=
    (parts_split_format ⟨["ab", "c", "d"], none⟩ ["AbCD"]).2 hsmall
  obtain rfl := Except.ok.inj (hupper.symm.trans htext)
  obtain rfl := Except.ok.inj (hcamel.symm.trans hcamelText)
  refine ⟨hplain, hsmall, hupper, hparts, hcamel, fun h => ?_⟩
  -- the one-letter words are neighbours
  have hchain := hiff.1 h
  simp only [List.isChain_cons_cons, not_and] at hchain
  exact hchain.2.1 rfl rfl

end Name

end HeaderIndex
