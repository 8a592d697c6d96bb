import HeaderIndex.Name.Format
import HeaderIndex.Name.Method
import HeaderIndex.Proofs.Fallible
import HeaderIndex.Resolve

/-!
# Names without empty words

An empty word has no first letter to be written as a capital, so a name with one cannot be written
under every casing.

* `Name.Whole` — a name has no empty word.
* `whole_split`, `whole_name`, `Whole.append`, `Whole.method?`, `whole_shorten` — names are whole
  wherever they come from: a spelling cut into words, a declaration, two names put together, what is
  left of the name of a function, and what is left of the names of constants.
* `Whole.exists_format` — a whole name can be written under every set of casings.
-/

namespace HeaderIndex

/-! ## Case leaves no text empty -/

namespace Text

theorem lowerChar_ne_nil (c : Char) : lowerChar c ≠ [] := by
  unfold lowerChar
  split
  · exact List.cons_ne_nil _ _
  · split <;> exact List.cons_ne_nil _ _

theorem lower_ne_nil {text : List Char} (h : text ≠ []) : lower text ≠ [] := by
  obtain ⟨c, rest, rfl⟩ := List.exists_cons_of_ne_nil h
  rw [lower, lowerAfter]
  refine List.append_ne_nil_of_left_ne_nil ?_ _
  split
  · exact List.cons_ne_nil _ _
  · exact lowerChar_ne_nil c

theorem upperChar_ne_nil (c : Char) : upperChar c ≠ [] := by
  have hexpansions : ∀ entry ∈ upperExpansions, entry.2 ≠ [] := by decide
  unfold upperChar
  split
  · exact List.cons_ne_nil _ _
  · split
    · rename_i codes hcodes
      obtain ⟨before, after, heq, _⟩ := List.lookup_eq_some_iff.1 hcodes
      have hne := hexpansions (c.toNat, codes) (by rw [heq]; simp)
      simpa using hne
    · exact List.cons_ne_nil _ _

theorem upper_ne_nil {text : List Char} (h : text ≠ []) : upper text ≠ [] := by
  obtain ⟨c, rest, rfl⟩ := List.exists_cons_of_ne_nil h
  rw [upper, List.flatMap_cons]
  exact List.append_ne_nil_of_left_ne_nil (upperChar_ne_nil c) _

end Text

/-! ## Where names come from -/

/-- Whether no word of a name is empty. -/
def Name.Whole (name : Name) : Prop := ∀ word ∈ name.parts, word ≠ ""

instance (name : Name) : Decidable name.Whole :=
  inferInstanceAs (Decidable (∀ word ∈ name.parts, word ≠ ""))

namespace Name

theorem whole_of_parts_nil {name : Name} (h : name.parts = []) : name.Whole := by
  simp [Whole, h]

theorem whole_anonymous : anonymous.Whole := whole_of_parts_nil rfl

theorem whole_ofWord {word : String} (h : word ≠ "") : (ofWord word).Whole := by
  simpa [Whole, ofWord] using h

theorem whole_split (prefixes : List String) (raw : String) : (split prefixes raw).Whole := by
  intro word hword
  obtain ⟨piece, hpiece, rfl⟩ := List.mem_map.1 hword
  -- the pieces between two boundaries that are empty have been left out
  have hne : piece ≠ [] := by simpa using (List.mem_filter.1 hpiece).2
  simpa using Text.lower_ne_nil hne

theorem Whole.append {first second : Name} (hfirst : first.Whole) (hsecond : second.Whole) :
    (first ++ second).Whole := by
  intro word hword
  rcases List.mem_append.1 hword with h | h
  · exact hfirst word h
  · exact hsecond word h

/-- What is left of words of which the first ones were taken away. -/
theorem consume_suffix (target : List Char) (words : List String) :
    (consume target words).2 <:+ words := by
  induction words generalizing target with
  | nil => exact List.suffix_rfl
  | cons word rest ih =>
    unfold consume
    split
    · exact (ih _).trans (List.suffix_cons word rest)
    · exact List.suffix_rfl

theorem Whole.method? {owner function short : Name} (h : function.Whole)
    (hshort : owner.method? function = some short) : short.Whole := by
  unfold Name.method? at hshort
  split at hshort
  · cases hshort
  · split at hshort
    · rename_i word rest hconsume
      obtain rfl := Option.some.inj hshort
      have hsuffix := consume_suffix (Text.lower (owner.parts.flatMap String.toList)) function.parts
      rw [hconsume] at hsuffix
      exact fun word hword => h word (hsuffix.subset hword)
    · cases hshort

theorem dropCommonStart_subset (own : List String) (lists : List (List String)) :
    ∀ list ∈ dropCommonStart own lists, ∃ whole ∈ lists, list ⊆ whole := by
  intro list hlist
  cases lists with
  | nil => cases hlist
  | cons first others =>
    obtain ⟨whole, hwhole, rfl⟩ := List.mem_map.1 hlist
    exact ⟨whole, hwhole, List.drop_subset _ _⟩

theorem dropCommon_subset (own : List String) (lists : List (List String)) :
    ∀ list ∈ dropCommon own lists, ∃ whole ∈ lists, list ⊆ whole := by
  intro list hlist
  obtain ⟨reversed, hreversed, rfl⟩ := List.mem_map.1 hlist
  obtain ⟨turned, hturned, hsub⟩ := dropCommonStart_subset own _ reversed hreversed
  obtain ⟨rest, hrest, rfl⟩ := List.mem_map.1 hturned
  obtain ⟨whole, hwhole, hsub'⟩ := dropCommonStart_subset own lists rest hrest
  refine ⟨whole, hwhole, fun word hword => hsub' ?_⟩
  exact List.mem_reverse.1 (hsub (List.mem_reverse.1 hword))

/-- A short name is the name itself or has only words of one of the names. -/
theorem whole_shorten {owner : Name} {names : List Name} (h : ∀ name ∈ names, name.Whole) :
    ∀ short ∈ owner.shorten names, short.Whole := by
  intro short hshort
  unfold shorten at hshort
  split at hshort
  · exact h short hshort
  · rw [← List.map_uncurry_zip_eq_zipWith] at hshort
    obtain ⟨⟨parts, name⟩, hpair, rfl⟩ := List.mem_map.1 hshort
    obtain ⟨words, hwords, hsub⟩ := dropCommon_subset _ _ parts (List.of_mem_zip hpair).1
    obtain ⟨long, hlong, rfl⟩ := List.mem_map.1 hwords
    exact fun word hword => h long hlong word (hsub hword)

end Name

theorem whole_name (prefixes : List String) (cursor : Cursor) : (cursor.name prefixes).Whole := by
  unfold Cursor.name
  split
  · exact Name.whole_anonymous
  · exact Name.whole_split prefixes cursor.spelling

/-! ## Writing whole names -/

namespace Name

theorem exists_capitalize {word : List Char} (h : word ≠ []) :
    ∃ written, capitalize word = .ok written ∧ written ≠ [] := by
  obtain ⟨c, rest, rfl⟩ := List.exists_cons_of_ne_nil h
  exact ⟨_, rfl, List.append_ne_nil_of_left_ne_nil (Text.upperChar_ne_nil c) _⟩

theorem exists_uncapitalizeFirst {words : List (List Char)} (h : ∀ word ∈ words, word ≠ []) :
    ∃ written, uncapitalizeFirst words = .ok written := by
  match words with
  | [] => exact ⟨_, rfl⟩
  | [] :: rest => exact absurd rfl (h [] List.mem_cons_self)
  | (c :: word) :: rest => exact ⟨_, rfl⟩

theorem map_ne_nil {f : List Char → List Char} (hf : ∀ text, text ≠ [] → f text ≠ [])
    {words : List (List Char)} (h : ∀ word ∈ words, word ≠ []) : ∀ word ∈ words.map f, word ≠ [] := by
  intro word hword
  obtain ⟨text, htext, rfl⟩ := List.mem_map.1 hword
  exact hf text (h text htext)

/-- Words that are not empty can be written under every set of casings. -/
theorem exists_recase (casing : List Casing) {words : List (List Char)}
    (h : ∀ word ∈ words, word ≠ []) : ∃ written, recase casing words = .ok written := by
  let lowered := if .downcase ∈ casing then words.map Text.lower else words
  let changed := if .upcase ∈ casing then lowered.map Text.upper else lowered
  have hlower : ∀ word ∈ lowered, word ≠ [] := by
    unfold lowered
    split
    · exact map_ne_nil (fun _ => Text.lower_ne_nil) h
    · exact h
  have hupper : ∀ word ∈ changed, word ≠ [] := by
    unfold changed
    split
    · exact map_ne_nil (fun _ => Text.upper_ne_nil) hlower
    · exact hlower
  have hlast : ∀ capital : List (List Char), (∀ word ∈ capital, word ≠ []) → ∃ written,
      (if .initialDowncase ∈ casing then uncapitalizeFirst capital else .ok capital) =
        .ok written := by
    intro capital hcapital
    split
    · exact exists_uncapitalizeFirst hcapital
    · exact ⟨capital, rfl⟩
  by_cases hcamel : .camelcase ∈ casing
  · obtain ⟨capital, hcapital⟩ : ∃ capital, changed.mapM capitalize = .ok capital :=
      exists_mapM_eq_ok fun word hword =>
        (exists_capitalize (hupper word hword)).imp fun _ h => h.1
    obtain ⟨written, hwritten⟩ := hlast capital fun word hword => by
      obtain ⟨small, hsmall, hok⟩ := exists_of_mem_mapM hcapital word hword
      obtain ⟨_, hok', hne⟩ := exists_capitalize (hupper small hsmall)
      rwa [← Except.ok.inj (hok.symm.trans hok')] at hne
    exact ⟨written, (if_pos hcamel).trans (bind_eq_ok_iff.2 ⟨capital, hcapital, hwritten⟩)⟩
  · obtain ⟨written, hwritten⟩ := hlast changed hupper
    exact ⟨written, (if_neg hcamel).trans (bind_eq_ok_iff.2 ⟨changed, rfl, hwritten⟩)⟩

theorem Whole.exists_format {name : Name} (h : name.Whole) (casing : List Casing) (joiner : String)
    (reserved : List String) : ∃ text, name.format casing joiner reserved = .ok text := by
  obtain ⟨words, hwords⟩ : ∃ words, recase casing (name.parts.map String.toList) = .ok words := by
    refine exists_recase casing fun word hword => ?_
    obtain ⟨part, hpart, rfl⟩ := List.mem_map.1 hword
    simpa using h part hpart
  exact ⟨_, by rw [format, hwords]; rfl⟩

end Name

end HeaderIndex
