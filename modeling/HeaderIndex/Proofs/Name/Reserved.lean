import HeaderIndex.Proofs.Name.Whole
import HeaderIndex.ReservedWords

/-!
# Written names and reserved words

A name is kept from being a reserved word by one underscore behind it, whatever that makes of it.

* `guardReserved_mem_iff` — which texts the underscore does not keep from being reserved.
* `head?_guardReserved` — no name that is written starts with a digit.
* `Whole.format_guarded` — under every set of casings a whole name is written, does not start with a
  digit, and is reserved exactly when it is so with and without the underscore.
* `Whole.exists_format_notMem` — no word of a language is another one with an underscore behind it,
  so with the words of a language alone no written name is reserved.
-/

namespace HeaderIndex

namespace Name

/-! ## The two touches -/

/-- A text that starts with a digit gets an underscore in front, which is none. -/
theorem head?_guardDigit (text : List Char) :
    ∀ c ∈ (guardDigit text).head?, Text.isDigit c = false := by
  intro c hc
  cases text with
  | nil => cases hc
  | cons first rest =>
    simp only [guardDigit] at hc
    split at hc
    · obtain rfl : '_' = c := by simpa using hc
      decide
    · rename_i hdigit
      obtain rfl : first = c := by simpa using hc
      simpa using hdigit

/-- The underscore behind a reserved word comes after the first character, or is the first. -/
theorem head?_guardReserved (reserved : List String) {text : List Char}
    (h : ∀ c ∈ text.head?, Text.isDigit c = false) :
    ∀ c ∈ (guardReserved reserved (String.ofList text)).toList.head?, Text.isDigit c = false := by
  intro c hc
  unfold guardReserved at hc
  split at hc
  · cases text with
    | nil =>
      obtain rfl : '_' = c := by simpa using hc
      decide
    | cons first rest => exact h c (by simpa using hc)
  · exact h c (by simpa using hc)

theorem guardReserved_mem_iff (reserved : List String) (text : String) :
    guardReserved reserved text ∈ reserved ↔ text ∈ reserved ∧ text ++ "_" ∈ reserved := by
  unfold guardReserved
  split
  · rename_i hmem
    exact ⟨fun h => ⟨hmem, h⟩, fun h => h.2⟩
  · rename_i hnot
    exact ⟨fun h => absurd h hnot, fun h => absurd h.1 hnot⟩

/-! ## Names as they are written -/

/-- Reserved words come into play last, when the name is otherwise written. -/
theorem format_eq_map (name : Name) (casing : List Casing) (joiner : String)
    (reserved : List String) :
    name.format casing joiner reserved =
      (name.format casing joiner []).map (guardReserved reserved) := by
  unfold format
  cases recase casing (name.parts.map String.toList) <;> rfl

/-- What is written without reserved words and what is written with them. -/
theorem Whole.exists_formats {name : Name} (h : name.Whole) (casing : List Casing) (joiner : String)
    (reserved : List String) : ∃ plain : List Char,
      name.format casing joiner [] = .ok (String.ofList plain) ∧
      name.format casing joiner reserved = .ok (guardReserved reserved (String.ofList plain)) ∧
      ∀ c ∈ plain.head?, Text.isDigit c = false := by
  obtain ⟨text, htext⟩ := h.exists_format casing joiner []
  obtain ⟨words, hwords, hjoined⟩ := bind_eq_ok_iff.1 htext
  refine ⟨guardDigit (joiner.toList.intercalate words), ?_, ?_, head?_guardDigit _⟩
  · rw [htext, ← hjoined]
    rfl
  · rw [format_eq_map, htext, ← hjoined]
    rfl

/-- A whole name is always written, and what is written does not start with a digit.  One underscore
is all that keeps it from being a reserved word: it is one if and only if both the name as it would
be written without reserved words and that name with an underscore behind it are reserved. -/
theorem Whole.format_guarded {name : Name} (h : name.Whole) (casing : List Casing) (joiner : String)
    (reserved : List String) : ∃ plain text,
      name.format casing joiner [] = .ok plain ∧
      name.format casing joiner reserved = .ok text ∧
      (∀ c ∈ text.toList.head?, Text.isDigit c = false) ∧
      (text ∈ reserved ↔ plain ∈ reserved ∧ plain ++ "_" ∈ reserved) := by
  obtain ⟨plain, hplain, htext, hhead⟩ := h.exists_formats casing joiner reserved
  exact ⟨_, _, hplain, htext, head?_guardReserved reserved hhead, guardReserved_mem_iff reserved _⟩

/-- A name that is reserved as it is written with a capital gets its underscore, and is no longer
reserved then: `none` for a language that reserves `None`. -/
theorem Whole.format_guarded_capital :
    (⟨["none"], some "none"⟩ : Name).Whole ∧ ∃ plain text,
      (⟨["none"], some "none"⟩ : Name).format [.camelcase] "" [] = .ok plain ∧
      (⟨["none"], some "none"⟩ : Name).format [.camelcase] "" ["None", "class"] = .ok text ∧
      plain = "None" ∧ text = "None_" ∧ (∀ c ∈ text.toList.head?, Text.isDigit c = false) ∧
      text ∉ ["None", "class"] := by
  have hwhole : (⟨["none"], some "none"⟩ : Name).Whole := by decide
  have hformats : (⟨["none"], some "none"⟩ : Name).format [.camelcase] "" [] = .ok "None" ∧
      (⟨["none"], some "none"⟩ : Name).format [.camelcase] "" ["None", "class"] = .ok "None_" := by
    decide +kernel
  obtain ⟨plain, text, hplain, htext, hhead, hmem⟩ :=
    Whole.format_guarded hwhole [.camelcase] "" ["None", "class"]
  obtain rfl : "None" = plain := Except.ok.inj (hformats.1.symm.trans hplain)
  obtain rfl : "None_" = text := Except.ok.inj (hformats.2.symm.trans htext)
  refine ⟨hwhole, _, _, hplain, htext, rfl, rfl, hhead, ?_⟩
  rw [hmem]
  decide

/-- A reserved word that is written as another one, which is it with an underscore behind. -/
theorem format_mem_reserved :
    (⟨["class"], none⟩ : Name).Whole ∧
      (⟨["class"], none⟩ : Name).format [.downcase] "" ["class", "class_"] = .ok "class_" ∧
      "class_" ∈ ["class", "class_"] := by
  decide +kernel

end Name

/-! ## The words of a language -/

namespace TargetLanguage

theorem append_underscore_notMem (language : TargetLanguage) :
    ∀ word ∈ language.reservedWords, word ++ "_" ∉ language.reservedWords := by
  cases language <;> decide +kernel

end TargetLanguage

namespace Name

theorem Whole.exists_format_notMem {name : Name} (h : name.Whole) (casing : List Casing)
    (joiner : String) (language : TargetLanguage) :
    ∃ text, name.format casing joiner language.reservedWords = .ok text ∧
      text ∉ language.reservedWords := by
  obtain ⟨plain, _, htext, _⟩ := h.exists_formats casing joiner language.reservedWords
  refine ⟨_, htext, fun hmem => ?_⟩
  obtain ⟨hplain, hsuffixed⟩ := (guardReserved_mem_iff language.reservedWords _).1 hmem
  exact language.append_underscore_notMem _ hplain hsuffixed

end Name

end HeaderIndex
