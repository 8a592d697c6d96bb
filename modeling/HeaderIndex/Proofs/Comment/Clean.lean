import HeaderIndex.Comment.Markup
import Mathlib.Data.List.DropRight
import Mathlib.Tactic

/-!
# The form of a description for output

* `IsClean` — lines without tabs, without blank ones at the ends, and with a line that is not indented.
* `Cleans` — such lines, made of others by taking the same margin of white space off each of them.
* `clean_of_isClean` — lines in this form stay as they are.
* `clean_normal` — what cleaning gives for every description, and that it gives the same again.
-/

namespace HeaderIndex.Comment

/-- A line without its first characters. -/
def withoutMargin (margin : Nat) (line : String) : String := String.ofList (line.toList.drop margin)

/-- No line at the ends is blank. -/
structure Ends (lines : List String) : Prop where
  first : ∀ line ∈ lines.head?, Text.isBlank line = false
  last : ∀ line ∈ lines.getLast?, Text.isBlank line = false

/-- Lines without tabs, without blank ones at the ends and without a common indentation. -/
structure IsClean (lines : List String) : Prop extends Ends lines where
  noTabs : ∀ line ∈ lines, '\t' ∉ line.toList
  /-- the smallest indentation is none -/
  flush : ∃ line ∈ lines, Text.isBlank line = false ∧ indent line = 0

/-- Clean lines that are made of a description: its tabs are expanded, the blank lines at its ends are
left out, and of the lines in between, in order, each loses as many characters.  Where the line is not
blank, these are white space, so that lines are indented against each other as before. -/
structure Cleans (description result : List String) : Prop extends IsClean result where
  made : ∃ front body back margin, description.map expandTabs = front ++ body ++ back ∧
    (∀ line ∈ front ++ back, Text.isBlank line = true) ∧ Ends body ∧
    (∀ line ∈ body, Text.isBlank line = false →
      indent line = margin + indent (withoutMargin margin line)) ∧
    result = body.map (withoutMargin margin)

variable {lines : List String} {line : String} {margin : Nat}

/-! ## Tabs -/

theorem tab_notMem_expandTabs (line : String) : '\t' ∉ (expandTabs line).toList := by
  rw [expandTabs, String.toList_ofList, List.mem_flatMap]
  rintro ⟨c, _, hc⟩
  split at hc
  · simp at hc
  · rename_i hne
    exact hne (List.mem_singleton.1 hc).symm

theorem expandTabs_of_notMem (h : '\t' ∉ line.toList) : expandTabs line = line := by
  have hsame : ∀ c ∈ line.toList, (if c = '\t' then [' ', ' ', ' ', ' '] else [c]) = [c] := by
    intro c hc
    rw [if_neg]
    rintro rfl
    exact h hc
  rw [expandTabs, List.flatMap_congr hsame, List.flatMap_singleton', String.ofList_toList]

/-- Spaces for tabs make no line blank that was not. -/
theorem isBlank_expandTabs (line : String) : Text.isBlank (expandTabs line) = Text.isBlank line := by
  have htab : Text.isSpace '\t' = true := by decide
  have hspace : Text.isSpace ' ' = true := by decide
  unfold Text.isBlank expandTabs
  rw [String.toList_ofList, List.all_flatMap]
  congr 1
  funext c
  by_cases hc : c = '\t'
  · simp [hc, htab, hspace]
  · simp [hc]

/-! ## Blank lines at the ends -/

theorem trimBlank_eq (lines : List String) :
    trimBlank lines = (lines.dropWhile Text.isBlank).rdropWhile Text.isBlank := rfl

theorem exists_trimBlank (lines : List String) : ∃ front back,
    lines = front ++ trimBlank lines ++ back ∧ ∀ line ∈ front ++ back, Text.isBlank line = true := by
  refine ⟨lines.takeWhile Text.isBlank, (lines.dropWhile Text.isBlank).rtakeWhile Text.isBlank, ?_, ?_⟩
  · rw [trimBlank_eq, List.append_assoc, List.rdropWhile_append_rtakeWhile,
      List.takeWhile_append_dropWhile]
  · intro line hline
    rcases List.mem_append.1 hline with hline | hline
    · exact List.mem_takeWhile_imp hline
    · exact List.mem_rtakeWhile_imp hline

theorem ends_trimBlank (lines : List String) : Ends (trimBlank lines) where
  first := by
    intro line hline
    obtain ⟨back, hback⟩ : trimBlank lines <+: lines.dropWhile Text.isBlank :=
      List.rdropWhile_prefix _ _
    -- what is trimmed at the end does not touch the first line that is left
    have hfirst : (lines.dropWhile Text.isBlank).head? = some line := by
      rw [← hback, List.head?_append, Option.mem_def.1 hline, Option.some_or]
    have hnot := List.head?_dropWhile_not Text.isBlank lines
    rw [hfirst] at hnot
    exact hnot
  last := by
    intro line hline
    obtain ⟨hne, rfl⟩ := List.mem_getLast?_eq_getLast hline
    exact Bool.eq_false_iff.2 (List.rdropWhile_last_not _ _ hne)

theorem trimBlank_of_ends (h : Ends lines) : trimBlank lines = lines := by
  have hfront : lines.dropWhile Text.isBlank = lines := by
    cases lines with
    | nil => rfl
    | cons line rest => rw [List.dropWhile_cons_of_neg (by simp [h.first line rfl])]
  rw [trimBlank_eq, hfront, List.rdropWhile_eq_self_iff]
  intro hne
  exact Bool.eq_false_iff.1 (h.last _ (List.getLast?_eq_some_getLast hne))

theorem trimBlank_eq_nil_iff : trimBlank lines = [] ↔ ∀ line ∈ lines, Text.isBlank line = true := by
  rw [trimBlank_eq, List.rdropWhile_eq_nil_iff]
  constructor
  · intro h line hline
    rw [← List.takeWhile_append_dropWhile (p := Text.isBlank) (l := lines)] at hline
    rcases List.mem_append.1 hline with hfront | hback
    · exact List.mem_takeWhile_imp hfront
    · exact h line hback
  · intro h line hline
    exact h line ((List.dropWhile_sublist _).subset hline)

/-! ## Margins -/

theorem takeWhile_dropWhile {α : Type} (p : α → Bool) (items : List α) :
    (items.dropWhile p).takeWhile p = [] := by
  have hnot := List.head?_dropWhile_not p items
  cases hrest : items.dropWhile p with
  | nil => rfl
  | cons item rest =>
    rw [hrest] at hnot
    exact List.takeWhile_cons_of_neg (Bool.eq_false_iff.1 hnot)

/-- White space that is taken off in front is missing in the indentation. -/
theorem indent_withoutMargin (h : margin ≤ indent line) :
    indent (withoutMargin margin line) = indent line - margin := by
  unfold indent at h ⊢
  rw [withoutMargin, String.toList_ofList]
  have hdrop : line.toList.drop margin =
      (line.toList.takeWhile Text.isSpace).drop margin ++ line.toList.dropWhile Text.isSpace := by
    rw [← List.drop_append_of_le_length h, List.takeWhile_append_dropWhile]
  have hspace : ∀ c ∈ (line.toList.takeWhile Text.isSpace).drop margin, Text.isSpace c = true :=
    fun c hc => List.mem_takeWhile_imp (List.mem_of_mem_drop hc)
  rw [hdrop, List.takeWhile_append_of_pos hspace, takeWhile_dropWhile, List.append_nil,
    List.length_drop]

theorem isBlank_withoutMargin (h : Text.isBlank line = false → margin ≤ indent line) :
    Text.isBlank (withoutMargin margin line) = Text.isBlank line := by
  unfold Text.isBlank at h ⊢
  rw [withoutMargin, String.toList_ofList]
  cases hblank : line.toList.all Text.isSpace with
  | true =>
    rw [List.all_eq_true] at hblank ⊢
    exact fun c hc => hblank c (List.mem_of_mem_drop hc)
  | false =>
    have hfront : ∀ c ∈ line.toList.take margin, Text.isSpace c = true := by
      intro c hc
      rw [← List.takeWhile_append_dropWhile (p := Text.isSpace) (l := line.toList),
        List.take_append_of_le_length (h hblank)] at hc
      exact List.mem_takeWhile_imp (List.mem_of_mem_take hc)
    rw [← List.take_append_drop margin line.toList, List.all_append,
      List.all_eq_true.2 hfront, Bool.true_and] at hblank
    exact hblank

theorem withoutMargin_zero (line : String) : withoutMargin 0 line = line := by
  rw [withoutMargin, List.drop_zero, String.ofList_toList]

theorem commonIndent_le (hline : line ∈ lines) (hblank : Text.isBlank line = false) :
    commonIndent lines ≤ indent line := by
  have hmem : indent line ∈ (lines.filter (!Text.isBlank ·)).map indent :=
    List.mem_map.2 ⟨line, List.mem_filter.2 ⟨hline, by simp [hblank]⟩, rfl⟩
  unfold commonIndent
  cases hmin : ((lines.filter (!Text.isBlank ·)).map indent).min? with
  | none => exact Nat.zero_le _
  | some least => exact (List.min?_eq_some_iff.1 hmin).2 _ hmem

theorem exists_indent_eq (hline : line ∈ lines) (hblank : Text.isBlank line = false) :
    ∃ line ∈ lines, Text.isBlank line = false ∧ indent line = commonIndent lines := by
  have hmem : indent line ∈ (lines.filter (!Text.isBlank ·)).map indent :=
    List.mem_map.2 ⟨line, List.mem_filter.2 ⟨hline, by simp [hblank]⟩, rfl⟩
  unfold commonIndent
  cases hmin : ((lines.filter (!Text.isBlank ·)).map indent).min? with
  | none =>
    rw [List.min?_eq_none_iff] at hmin
    rw [hmin] at hmem
    cases hmem
  | some least =>
    obtain ⟨found, hfound, hindent⟩ := List.mem_map.1 (List.min?_eq_some_iff.1 hmin).1
    obtain ⟨hmem, hnot⟩ := List.mem_filter.1 hfound
    exact ⟨found, hmem, by simpa using hnot, hindent⟩

theorem dedent_eq (lines : List String) :
    dedent lines = lines.map (withoutMargin (commonIndent lines)) := rfl

theorem isBlank_of_mem_map (line : String) (h : line ∈ lines) :
    Text.isBlank (withoutMargin (commonIndent lines) line) = Text.isBlank line :=
  isBlank_withoutMargin fun hblank => commonIndent_le h hblank

/-- Taking off the common indentation makes lines clean. -/
theorem isClean_dedent (hends : Ends lines) (hne : lines ≠ [])
    (htabs : ∀ line ∈ lines, '\t' ∉ line.toList) : IsClean (dedent lines) where
  first := by
    intro line hline
    rw [dedent_eq, List.head?_map, Option.mem_def, Option.map_eq_some_iff] at hline
    obtain ⟨old, hold, rfl⟩ := hline
    rw [isBlank_of_mem_map old (List.mem_of_head? hold), hends.first old hold]
  last := by
    intro line hline
    rw [dedent_eq, List.getLast?_map, Option.mem_def, Option.map_eq_some_iff] at hline
    obtain ⟨old, hold, rfl⟩ := hline
    rw [isBlank_of_mem_map old (List.mem_of_getLast? hold), hends.last old hold]
  noTabs := by
    intro line hline htab
    obtain ⟨old, hold, rfl⟩ := List.mem_map.1 hline
    rw [String.toList_ofList] at htab
    exact htabs old hold (List.mem_of_mem_drop htab)
  flush := by
    have hlast := List.getLast?_eq_some_getLast hne
    obtain ⟨line, hline, hblank, hindent⟩ :=
      exists_indent_eq (List.mem_of_getLast? hlast) (hends.last _ hlast)
    refine ⟨withoutMargin (commonIndent lines) line, List.mem_map.2 ⟨line, hline, rfl⟩, ?_, ?_⟩
    · rw [isBlank_of_mem_map line hline, hblank]
    · rw [indent_withoutMargin hindent.ge, hindent, Nat.sub_self]

/-! ## Cleaning -/

theorem clean_eq (description : List String) (remark : Bool) :
    clean description remark = if ∀ line ∈ description, Text.isBlank line = true then
        if remark then [notDocumented] else []
      else dedent (trimBlank (description.map expandTabs)) := by
  have hnone : dedent (trimBlank (description.map expandTabs)) = [] ↔
      ∀ line ∈ description, Text.isBlank line = true := by
    rw [dedent_eq, List.map_eq_nil_iff, trimBlank_eq_nil_iff]
    simp [isBlank_expandTabs]
  unfold clean
  split
  · rename_i hnil
    rw [if_pos (hnone.1 hnil)]
  · rename_i hne
    rw [if_neg fun hall => hne (hnone.2 hall)]

/-- Clean lines stay as they are. -/
theorem clean_of_isClean (h : IsClean lines) (remark : Bool) : clean lines remark = lines := by
  obtain ⟨line, hline, hblank, hindent⟩ := h.flush
  have hnone : commonIndent lines = 0 := by
    have hle := commonIndent_le hline hblank
    omega
  have hnot : ¬ ∀ line ∈ lines, Text.isBlank line = true := by
    intro hall
    rw [hall line hline] at hblank
    cases hblank
  have htabs : lines.map expandTabs = lines :=
    (List.map_congr_left fun line hline => expandTabs_of_notMem (h.noTabs line hline)).trans
      (List.map_id' lines)
  rw [clean_eq, if_neg hnot, htabs, trimBlank_of_ends h.toEnds, dedent_eq, hnone,
    List.map_congr_left fun line _ => withoutMargin_zero line, List.map_id']

theorem isClean_notDocumented : IsClean [notDocumented] where
  first := by decide
  last := by decide
  noTabs := by decide
  flush := by decide

/-- A description that is not blank is cleaned. -/
theorem cleans_clean {description : List String} (remark : Bool)
    (h : ¬ ∀ line ∈ description, Text.isBlank line = true) :
    Cleans description (clean description remark) := by
  have hne : trimBlank (description.map expandTabs) ≠ [] := by
    rw [ne_eq, trimBlank_eq_nil_iff]
    simpa [isBlank_expandTabs] using h
  obtain ⟨front, back, hsplit, hblank⟩ := exists_trimBlank (description.map expandTabs)
  have htabs : ∀ line ∈ trimBlank (description.map expandTabs), '\t' ∉ line.toList := by
    intro line hline
    have hmem : line ∈ description.map expandTabs := by
      rw [hsplit]
      exact List.mem_append_left _ (List.mem_append_right _ hline)
    obtain ⟨old, _, rfl⟩ := List.mem_map.1 hmem
    exact tab_notMem_expandTabs old
  rw [clean_eq, if_neg h]
  refine ⟨isClean_dedent (ends_trimBlank _) hne htabs, front, _, back, _, hsplit, hblank,
    ends_trimBlank _, fun line hline hnot => ?_, dedent_eq _⟩
  have hle := commonIndent_le hline hnot
  rw [indent_withoutMargin hle, Nat.add_sub_cancel' hle]

/-- **Cleaning gives a normal form.**  A description of blank lines alone has no lines for output, or
just the remark that stands for them.  Of any other one, the lines between the first and the last that
are not blank are left, without their tabs and without their common indentation.  No line has a tab,
and cleaning them again changes nothing. -/
theorem clean_normal (description : List String) (remark : Bool) :
    ((∀ line ∈ description, Text.isBlank line = true) ∧
        clean description remark = (if remark then [notDocumented] else []) ∨
      Cleans description (clean description remark)) ∧
    (∀ line ∈ clean description remark, '\t' ∉ line.toList) ∧
    clean (clean description remark) remark = clean description remark := by
  by_cases hblank : ∀ line ∈ description, Text.isBlank line = true
  · have hclean : clean description remark = if remark then [notDocumented] else [] := by
      rw [clean_eq, if_pos hblank]
    rw [hclean]
    refine ⟨.inl ⟨hblank, rfl⟩, ?_⟩
    cases remark with
    | true => exact ⟨isClean_notDocumented.noTabs, clean_of_isClean isClean_notDocumented true⟩
    | false => exact ⟨by simp, rfl⟩
  · have hcleans := cleans_clean remark hblank
    exact ⟨.inr hcleans, hcleans.noTabs, clean_of_isClean hcleans.toIsClean remark⟩

/-- Lines with tabs, with a blank line between them that is shorter than the margin, and with blank
lines at the ends. -/
theorem clean_normal_tabbed :
    let description := [" ", "\tAdds two", " ", "\t  numbers.", "      ", ""]
    clean description true = ["Adds two", "", "  numbers."] ∧
      Cleans description (clean description true) ∧
      clean ["", " \t"] true = [notDocumented] ∧ clean ["", " \t"] false = [] := by
  intro description
  refine ⟨by decide +kernel, ?_, by decide +kernel, by decide +kernel⟩
  refine (clean_normal description true).1.resolve_left fun hblank => ?_
  exact absurd (hblank.1 "\tAdds two" (by simp [description])) (by decide +kernel)

end HeaderIndex.Comment
