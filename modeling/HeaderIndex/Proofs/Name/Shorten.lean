import HeaderIndex.Index.Entity
import Mathlib.Data.List.Forall2

/-!
# Short names

The constants of an enumeration are called without the words that all of them share with it.  First
the words in front go and then those behind, one by one, as long as no constant is left without any.

* `Shared` — whether a word could go, in front or behind.
* `CommonFront` — words in front that can go, one after the other.
* `commonStart_spec` — the words in front that go, after which no other one could.
* `dropCommon_spec` — the same in front and behind.  What goes behind leaves the word in front where it
  is, so that in the end neither the word in front nor the one behind could go.
* `shorten_shorten` — hence shortening again changes nothing.
* `shortNames_maximal` — all this for the constants of an enumeration.
-/

namespace HeaderIndex

namespace Name

variable {own front : List String} {lists : List (List String)}

/-! ## Words that could go -/

/-- Whether the word at one place of some lists could go: it is the same one in all of them and one of
`own`, and no list is left without words. -/
def Shared (own : List String) (place : List String → Option String)
    (lists : List (List String)) : Prop :=
  ∃ word ∈ own, ∀ list ∈ lists, place list = some word ∧ 1 < list.length

/-- Words that all lists begin with and that could go one after the other. -/
structure CommonFront (own front : List String) (lists : List (List String)) : Prop where
  own : ∀ word ∈ front, word ∈ own
  /-- unless nothing goes, every list keeps a word -/
  keeps : ∀ list ∈ lists, ∃ rest, list = front ++ rest ∧ (front = [] ∨ rest ≠ [])

theorem CommonFront.nil (own : List String) (lists : List (List String)) :
    CommonFront own [] lists :=
  ⟨nofun, fun list _ => ⟨list, rfl, .inl rfl⟩⟩

/-- One word more in front. -/
theorem CommonFront.cons {word : String} (h : CommonFront own front (lists.map List.tail))
    (hown : word ∈ own) (hshared : ∀ list ∈ lists, list.head? = some word ∧ 1 < list.length) :
    CommonFront own (word :: front) lists := by
  refine ⟨fun other hother => ?_, fun list hlist => ?_⟩
  · rcases List.mem_cons.1 hother with rfl | hother
    · exact hown
    · exact h.own other hother
  · obtain ⟨hhead, hlength⟩ := hshared list hlist
    obtain ⟨tail, rfl⟩ : ∃ tail, list = word :: tail := List.head?_eq_some_iff.1 hhead
    obtain ⟨rest, htail, hkeeps⟩ := h.keeps tail (List.mem_map_of_mem hlist)
    refine ⟨rest, by rw [htail, List.cons_append], .inr fun hrest => ?_⟩
    -- then the word would be the only one of this list
    have hfront : front = [] := hkeeps.resolve_right (not_not.2 hrest)
    simp [htail, hfront, hrest] at hlength

/-- **The words in front that go**, after which no other one could. -/
theorem commonStart_spec (own first : List String) (others : List (List String)) :
    ∃ front, front.length = commonStart own first others ∧
      CommonFront own front (first :: others) ∧
      ¬Shared own List.head? ((first :: others).map (List.drop front.length)) := by
  fun_induction commonStart own first others with
  | case1 word next rest others hgoes ih =>
    obtain ⟨front, hlength, hfront, hstop⟩ := ih
    refine ⟨word :: front, by rw [List.length_cons, hlength], ?_, ?_⟩
    · refine CommonFront.cons hfront hgoes.1 fun list hlist => ?_
      rcases List.mem_cons.1 hlist with rfl | hlist
      · exact ⟨rfl, by simp⟩
      · simpa using List.all_eq_true.1 hgoes.2 list hlist
    · have htails : ((word :: next :: rest) :: others).map (List.drop (front.length + 1)) =
          ((next :: rest) :: others.map List.tail).map (List.drop front.length) := by
        simp
      rwa [List.length_cons, htails]
  | case2 word next rest others hstays =>
    refine ⟨[], rfl, .nil _ _, ?_⟩
    rw [List.length_nil, List.map_id'' fun list => List.drop_zero]
    rintro ⟨shared, hown, hall⟩
    obtain rfl : word = shared := Option.some.inj (hall _ List.mem_cons_self).1
    refine hstays ⟨hown, List.all_eq_true.2 fun other hother => ?_⟩
    simpa using hall other (List.mem_cons_of_mem _ hother)
  | case3 first others hshort =>
    refine ⟨[], rfl, .nil _ _, ?_⟩
    rw [List.length_nil, List.map_id'' fun list => List.drop_zero]
    rintro ⟨_, _, hall⟩
    obtain ⟨_, hlength⟩ := hall _ List.mem_cons_self
    match first with
    | [] => simp at hlength
    | [_] => simp at hlength
    | word :: next :: rest => exact hshort word next rest rfl

/-- Where no word in front could go, none goes. -/
theorem CommonFront.eq_nil (h : CommonFront own front lists)
    (hstays : ¬Shared own List.head? lists) : front = [] := by
  cases front with
  | nil => rfl
  | cons word more =>
    refine absurd ⟨word, h.own word List.mem_cons_self, fun list hlist => ?_⟩ hstays
    obtain ⟨rest, rfl, hkeeps⟩ := h.keeps list hlist
    have hrest : rest ≠ [] := hkeeps.resolve_left (List.cons_ne_nil _ _)
    refine ⟨rfl, ?_⟩
    have := List.length_pos_iff.2 hrest
    simp only [List.cons_append, List.length_cons, List.length_append]
    omega

theorem dropCommonStart_spec (own : List String) (hlists : lists ≠ []) :
    ∃ front, CommonFront own front lists ∧
      dropCommonStart own lists = lists.map (List.drop front.length) ∧
      ¬Shared own List.head? (dropCommonStart own lists) := by
  obtain ⟨first, others, rfl⟩ := List.exists_cons_of_ne_nil hlists
  obtain ⟨front, hlength, hfront, hstop⟩ := commonStart_spec own first others
  rw [hlength] at hstop
  exact ⟨front, hfront, by rw [dropCommonStart, hlength], hstop⟩

theorem dropCommonStart_of_not_shared (hstays : ¬Shared own List.head? lists) :
    dropCommonStart own lists = lists := by
  by_cases hlists : lists = []
  · rw [hlists, dropCommonStart]
  · obtain ⟨front, hfront, hdrop, _⟩ := dropCommonStart_spec own hlists
    rw [hdrop, hfront.eq_nil hstays, List.length_nil, List.map_id'' fun list => List.drop_zero]

/-! ## In front and behind -/

theorem shared_getLast?_iff :
    Shared own List.getLast? lists ↔ Shared own List.head? (lists.map List.reverse) := by
  simp only [Shared, List.forall_mem_map, List.head?_reverse, List.length_reverse]

/-- **The words in front and behind that go**, after which no other one could. -/
theorem dropCommon_spec (own : List String) (hlists : lists ≠ []) :
    ∃ front back cut, (∀ word ∈ front ++ back, word ∈ own) ∧
      dropCommon own lists = lists.map cut ∧
      (∀ list ∈ lists, list = front ++ cut list ++ back ∧ (list ≠ [] → cut list ≠ [])) ∧
      ¬Shared own List.head? (dropCommon own lists) ∧
      ¬Shared own List.getLast? (dropCommon own lists) := by
  obtain ⟨front, hfront, hdrop, hstop⟩ := dropCommonStart_spec own hlists
  have hturned : (dropCommonStart own lists).map List.reverse ≠ [] := by
    simpa [hdrop] using hlists
  obtain ⟨turned, hback, hdropped, hend⟩ := dropCommonStart_spec own hturned
  let cut (list : List String) : List String :=
    ((list.drop front.length).reverse.drop turned.length).reverse
  have hcut : dropCommon own lists = lists.map cut := by
    rw [dropCommon, hdropped, hdrop, List.map_map, List.map_map, List.map_map]
    rfl
  -- what is left of a list after the words in front have gone
  have hmiddle : ∀ list ∈ lists, list.drop front.length = cut list ++ turned.reverse ∧
      (turned = [] ∨ cut list ≠ []) := by
    intro list hlist
    have hmem : (list.drop front.length).reverse ∈
        (dropCommonStart own lists).map List.reverse := by
      rw [hdrop]
      exact List.mem_map_of_mem (List.mem_map_of_mem hlist)
    obtain ⟨rest, hrest, hkeeps⟩ := hback.keeps _ hmem
    have hcutlist : cut list = rest.reverse := by
      show ((list.drop front.length).reverse.drop turned.length).reverse = rest.reverse
      rw [hrest, List.drop_left]
    refine ⟨?_, by simpa [hcutlist] using hkeeps⟩
    rw [hcutlist, ← List.reverse_append, ← hrest, List.reverse_reverse]
  refine ⟨front, turned.reverse, cut, fun word hword => ?_, hcut, fun list hlist => ?_, ?_, ?_⟩
  · rcases List.mem_append.1 hword with hword | hword
    · exact hfront.own word hword
    · exact hback.own word (List.mem_reverse.1 hword)
  · obtain ⟨rest, hrest, hkeeps⟩ := hfront.keeps list hlist
    obtain ⟨hlist', hkeeps'⟩ := hmiddle list hlist
    have hdropped : list.drop front.length = rest := by rw [hrest, List.drop_left]
    rw [hdropped] at hlist'
    refine ⟨by rw [List.append_assoc, ← hlist', ← hrest], fun hne hnil => ?_⟩
    have hturned : turned = [] := hkeeps'.resolve_right (not_not.2 hnil)
    have hnone : rest = [] := by rw [hlist', hnil, hturned]; rfl
    exact hne (by rw [hrest, hkeeps.resolve_right (not_not.2 hnone), hnone]; rfl)
  · -- a word in front could have gone before those behind
    rintro ⟨word, hown, hall⟩
    refine hstop ⟨word, hown, fun list hlist => ?_⟩
    rw [hdrop] at hlist
    obtain ⟨whole, hwhole, rfl⟩ := List.mem_map.1 hlist
    obtain ⟨hhead, hlength⟩ := hall (cut whole) (by rw [hcut]; exact List.mem_map_of_mem hwhole)
    rw [(hmiddle whole hwhole).1, List.head?_append, hhead, List.length_append]
    exact ⟨rfl, by omega⟩
  · rw [shared_getLast?_iff]
    have hreversed : (dropCommon own lists).map List.reverse =
        dropCommonStart own ((dropCommonStart own lists).map List.reverse) := by
      rw [dropCommon, List.map_map, List.reverse_involutive.comp_self, List.map_id]
    rwa [hreversed]

theorem dropCommon_of_not_shared (hfirst : ¬Shared own List.head? lists)
    (hlast : ¬Shared own List.getLast? lists) : dropCommon own lists = lists := by
  rw [dropCommon, dropCommonStart_of_not_shared hfirst,
    dropCommonStart_of_not_shared (by rwa [← shared_getLast?_iff]), List.map_map,
    List.reverse_involutive.comp_self, List.map_id]

/-! ## Names of a group -/

/-- The words of a name in lower case. -/
def lowered (name : Name) : List String :=
  name.parts.map fun word => String.ofList (Text.lower word.toList)

theorem shorten_of_lt {owner : Name} {names : List Name} (h : names.length < 2) :
    owner.shorten names = names := by
  rw [shorten, if_pos h]

theorem shorten_of_le {owner : Name} {names : List Name} (h : 2 ≤ names.length) :
    owner.shorten names = (dropCommon owner.lowered (names.map parts)).zipWith
      (fun parts name => ⟨parts, name.raw⟩) names := by
  rw [shorten, if_neg (Nat.not_lt.2 h)]
  rfl

/-- **What is left of the names of a group.** -/
theorem exists_cut (owner : Name) {names : List Name} (h : 2 ≤ names.length) :
    ∃ (front back : List String) (cut : List String → List String),
      (∀ word ∈ front ++ back, word ∈ owner.lowered) ∧
      owner.shorten names = names.map (fun name => ⟨cut name.parts, name.raw⟩) ∧
      (∀ name ∈ names, name.parts = front ++ cut name.parts ++ back ∧
        (name.parts ≠ [] → cut name.parts ≠ [])) ∧
      ¬Shared owner.lowered List.head? ((owner.shorten names).map parts) ∧
      ¬Shared owner.lowered List.getLast? ((owner.shorten names).map parts) := by
  have hlists : names.map parts ≠ [] := by
    rintro hnil
    rw [List.map_eq_nil_iff.1 hnil] at h
    cases h
  obtain ⟨front, back, cut, hown, hcut, hlist, hfirst, hlast⟩ :=
    dropCommon_spec owner.lowered hlists
  have hshorten : owner.shorten names = names.map fun name => ⟨cut name.parts, name.raw⟩ := by
    rw [shorten_of_le h, hcut, List.map_map, List.zipWith_map_left, List.zipWith_self]
    rfl
  have hparts : (owner.shorten names).map parts = dropCommon owner.lowered (names.map parts) := by
    rw [hshorten, hcut, List.map_map, List.map_map]
    rfl
  refine ⟨front, back, cut, hown, hshorten, fun name hname => ?_, ?_, ?_⟩
  · exact hlist _ (List.mem_map_of_mem hname)
  · rwa [hparts]
  · rwa [hparts]

theorem length_shorten (owner : Name) (names : List Name) :
    (owner.shorten names).length = names.length := by
  rcases Nat.lt_or_ge names.length 2 with hlt | hle
  · rw [shorten_of_lt hlt]
  · obtain ⟨_, _, _, _, hshorten, _⟩ := exists_cut owner hle
    rw [hshorten, List.length_map]

/-- **Shortening again changes nothing.** -/
theorem shorten_shorten (owner : Name) (names : List Name) :
    owner.shorten (owner.shorten names) = owner.shorten names := by
  rcases Nat.lt_or_ge names.length 2 with hlt | hle
  · rw [shorten_of_lt hlt, shorten_of_lt hlt]
  · obtain ⟨_, _, _, _, _, _, hfirst, hlast⟩ := exists_cut owner hle
    have hlength : 2 ≤ (owner.shorten names).length := by rwa [length_shorten]
    rw [shorten_of_le hlength, dropCommon_of_not_shared hfirst hlast, List.zipWith_map_left,
      List.zipWith_self]
    exact List.map_id _

end Name

/-! ## Constants of an enumeration -/

/-- A name and what is left of it without some words in front and behind. -/
structure Name.ShortOf (front back : List String) (name short : Name) : Prop where
  raw : short.raw = name.raw
  parts : name.parts = front ++ short.parts ++ back
  keeps : name.parts ≠ [] → short.parts ≠ []

/-- The enumeration with other names for its constants. -/
def Enumeration.withNames (e : Enumeration) (names : List Name) : Enumeration :=
  { e with constants := e.constants.zipWith (fun constant name => { constant with name }) names }

theorem Enumeration.shortNames_withNames {e : Enumeration} {names : List Name}
    (h : names.length = e.constants.length) :
    (e.withNames names).shortNames = e.name.shorten names := by
  have hnames : (e.withNames names).constants.map (·.name) = names := by
    refine List.ext_getElem (by simp [withNames, h]) fun n _ _ => ?_
    simp [withNames]
  rw [shortNames, hnames]
  rfl

/-- **The constants of an enumeration are called without the words around them that all share with
it.**  The same words in front and behind, all of them words of the enumeration, go from every name;
what is left keeps its order, its spelling, a word if there was one, and what told it from the others;
and no word in front or behind could go that way any more.  So shortening again changes nothing.  A
constant that stands alone, or none, is left as it is. -/
theorem Enumeration.shortNames_maximal (e : Enumeration) :
    (e.constants.length < 2 → e.shortNames = e.constants.map (·.name)) ∧
    (2 ≤ e.constants.length → ∃ front back, (∀ word ∈ front ++ back, word ∈ e.name.lowered) ∧
      List.Forall₂ (Name.ShortOf front back) (e.constants.map (·.name)) e.shortNames ∧
      (∀ first ∈ (e.constants.map (·.name)).zip e.shortNames,
        ∀ second ∈ (e.constants.map (·.name)).zip e.shortNames,
          first.1.parts ≠ second.1.parts → first.2.parts ≠ second.2.parts) ∧
      ¬Name.Shared e.name.lowered List.head? (e.shortNames.map (·.parts)) ∧
      ¬Name.Shared e.name.lowered List.getLast? (e.shortNames.map (·.parts))) ∧
    (e.withNames e.shortNames).shortNames = e.shortNames := by
  refine ⟨fun hlt => Name.shorten_of_lt (by simpa using hlt), fun hle => ?_, ?_⟩
  · have hnames : 2 ≤ (e.constants.map (·.name)).length := by simpa using hle
    obtain ⟨front, back, cut, hown, hshorten, hparts, hfirst, hlast⟩ := Name.exists_cut e.name hnames
    have hshort : e.shortNames =
        (e.constants.map (·.name)).map fun name => ⟨cut name.parts, name.raw⟩ := hshorten
    have hall : List.Forall₂ (Name.ShortOf front back) (e.constants.map (·.name)) e.shortNames := by
      rw [hshort, List.forall₂_map_right_iff, List.forall₂_same]
      exact fun name hname => ⟨rfl, (hparts name hname).1, (hparts name hname).2⟩
    refine ⟨front, back, hown, hall, fun first hmem second hmem' hne heq => hne ?_, hfirst, hlast⟩
    -- names that are the same without some words were the same with them
    have hfirst := (List.forall₂_iff_zip.1 hall).2 hmem
    have hsecond := (List.forall₂_iff_zip.1 hall).2 hmem'
    rw [hfirst.parts, hsecond.parts, heq]
  · have hlength : e.shortNames.length = e.constants.length := by
      rw [shortNames, Name.length_shorten, List.length_map]
    rw [shortNames_withNames hlength]
    exact Name.shorten_shorten _ _

/-- `enum FileMode { FILE_READ_MODE, FILE_WRITE_MODE, FILE_MODE_MODE };` -/
def Enumeration.fileMode : Enumeration where
  name := .split [] "FileMode"
  constants := [
    ⟨.split [] "FILE_READ_MODE", .int 0, []⟩,
    ⟨.split [] "FILE_WRITE_MODE", .int 1, []⟩,
    ⟨.split [] "FILE_MODE_MODE", .int 2, []⟩]
  description := []

theorem Enumeration.shortNames_maximal_fileMode :
    2 ≤ fileMode.constants.length ∧
      fileMode.shortNames.map (·.parts) = [["read"], ["write"], ["mode"]] ∧
      ∃ front back, (∀ word ∈ front ++ back, word ∈ fileMode.name.lowered) ∧
        List.Forall₂ (Name.ShortOf front back) (fileMode.constants.map (·.name))
          fileMode.shortNames ∧
        ¬Name.Shared fileMode.name.lowered List.getLast? (fileMode.shortNames.map (·.parts)) := by
  have hconstants : 2 ≤ fileMode.constants.length := by decide
  obtain ⟨front, back, hown, hshort, _, _, hlast⟩ := (shortNames_maximal fileMode).2.1 hconstants
  exact ⟨hconstants, by decide +kernel, front, back, hown, hshort, hlast⟩

end HeaderIndex
