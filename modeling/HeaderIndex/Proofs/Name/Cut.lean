import HeaderIndex.Proofs.Name.RoundTrip

/-!
# Where a spelling is cut

The words of a name are told by the places of its characters alone: leave out the underscores, and
let two characters belong to one word if they stand side by side and no word begins at the second.

* `cutAt` — whether a word begins at a place: a capital is there, with a small letter behind it or
  in front of it.
* `runs` — the longest runs of characters that belong together.
* `Unprefixed` — what is left of a spelling without the first listed prefix that it starts with:
  one text, and one only (`unprefixed_dropListed`, `Unprefixed.unique`).
* `words_eq_runs` — cutting a text into words finds these runs.
* `parts_split_runs` — so the words of a name are these runs in lower case, and nothing is lost.
-/

namespace HeaderIndex

/-! ## Runs of a list -/

section Runs

variable {α : Type} {r : α → α → Bool} {a b : α} {l : List α}

theorem splitBy_cons_of_head (h : ∀ b ∈ l.head?, r a b = false) :
    (a :: l).splitBy r = [a] :: l.splitBy r := by
  have happend : ([a] ++ l).splitBy r = [a].splitBy r ++ l.splitBy r := by
    refine List.splitBy_append fun x hx y hy => ?_
    obtain rfl : a = x := by simpa using hx
    exact h y hy
  exact happend

theorem splitBy_cons_cons (h : r a b = true) :
    ∃ run more, (b :: l).splitBy r = run :: more ∧
      (a :: b :: l).splitBy r = (a :: run) :: more := by
  obtain ⟨run, more, hsplit⟩ :=
    List.exists_cons_of_ne_nil (List.splitBy_ne_nil (r := r).2 (List.cons_ne_nil b l))
  obtain ⟨hflatten, hnil, hchain, hborders⟩ := List.splitBy_eq_iff.1 hsplit
  obtain ⟨c, rest, rfl⟩ : ∃ c rest, run = c :: rest :=
    List.exists_cons_of_ne_nil fun hrun => hnil (hrun ▸ List.mem_cons_self)
  obtain ⟨rfl, hl⟩ : b = c ∧ l = rest ++ more.flatten := by simpa using hflatten
  refine ⟨b :: rest, more, hsplit, List.splitBy_eq_iff.2 ⟨?_, ?_, ?_, ?_⟩⟩
  · simp [hl]
  · simpa using hnil
  · intro run hrun
    rcases List.mem_cons.1 hrun with rfl | hrun
    · exact List.isChain_cons_cons.2 ⟨h, hchain _ List.mem_cons_self⟩
    · exact hchain run (List.mem_cons_of_mem _ hrun)
  · -- the new character does not change how the first run ends
    rw [List.isChain_cons] at hborders ⊢
    refine ⟨fun next hnext => ?_, hborders.2⟩
    obtain ⟨_, hne, happart⟩ := hborders.1 next hnext
    exact ⟨List.cons_ne_nil _ _, hne, by rwa [List.getLast_cons (List.cons_ne_nil b rest)]⟩

end Runs

namespace Name

/-! ## Runs of a text -/

/-- Whether a word begins at a place: at a capital that has a small letter behind it or in front of
it. -/
def cutAt (text : List Char) (place : Nat) : Bool :=
  text[place]?.any Char.isUpper &&
    (text[place + 1]?.any Char.isLower || (0 < place && text[place - 1]?.any Char.isLower))

/-- The characters that belong to words, each with its place in the text. -/
def kept (text : List Char) : List (Char × Nat) := text.zipIdx.filter (·.1 ≠ '_')

/-- Whether two characters belong to one word: they stand side by side, and none begins between
them. -/
def together (text : List Char) (first second : Char × Nat) : Bool :=
  second.2 = first.2 + 1 && !cutAt text second.2

/-- The longest runs of characters that belong together. -/
def runs (text : List Char) : List (List Char) :=
  ((kept text).splitBy (together text)).map (·.map Prod.fst)

variable {front rest text : List Char} {c : Char}

theorem cutAt_append_cons (front : List Char) (c : Char) (rest : List Char) :
    cutAt (front ++ c :: rest) front.length = beginsWord front.getLast? c rest.head? := by
  have hbefore : (decide (0 < front.length) &&
      (front ++ c :: rest)[front.length - 1]?.any Char.isLower) =
        front.getLast?.any Char.isLower := by
    rcases List.eq_nil_or_concat' front with rfl | ⟨init, last, rfl⟩
    · simp
    · simp
  have hafter : (front ++ c :: rest)[front.length + 1]? = rest.head? := by
    simp [List.getElem?_append_right, List.head?_eq_getElem?]
  have hc : (front ++ c :: rest)[front.length]? = some c := by simp
  rw [cutAt, beginsWord, hbefore, hafter, hc, Bool.or_comm (rest.head?.any _)]
  rfl

/-- The first piece has a character exactly if the text goes on with one that neither separates nor
begins a word. -/
theorem pieces_fst_eq_nil_iff (before : Option Char) (text : List Char) :
    (pieces before text).1 = [] ↔
      ∀ c rest, text = c :: rest → c = '_' ∨ beginsWord before c rest.head? = true := by
  cases text with
  | nil => simp [pieces]
  | cons c rest =>
    rw [pieces_cons]
    by_cases hc : c = '_'
    · simp [hc]
    · by_cases hbegins : beginsWord before c rest.head? = true
      · simp [hc, hbegins]
      · simp [hc, hbegins]

/-- The characters of words from a place on. -/
theorem kept_cons (hc : c ≠ '_') (rest : List Char) (place : Nat) :
    ((c :: rest).zipIdx place).filter (·.1 ≠ '_') =
      (c, place) :: (rest.zipIdx (place + 1)).filter (·.1 ≠ '_') := by
  simp [List.zipIdx_cons, hc]

/-- Nothing belongs to a character behind which the first piece is empty. -/
theorem together_eq_false (h : (pieces (some c) rest).1 = []) :
    ∀ next ∈ ((rest.zipIdx (front.length + 1)).filter (·.1 ≠ '_')).head?,
      together (front ++ c :: rest) (c, front.length) next = false := by
  intro next hnext
  cases rest with
  | nil => simp at hnext
  | cons d more =>
    rcases (pieces_fst_eq_nil_iff _ _).1 h d more rfl with rfl | hbegins
    · -- an underscore comes in between
      have hmem := List.mem_of_mem_filter (List.mem_of_mem_head? hnext)
      have hne : next.1 ≠ '_' := by
        simpa using (List.mem_filter.1 (List.mem_of_mem_head? hnext)).2
      rw [List.zipIdx_cons, List.mem_cons] at hmem
      have hplace := List.le_snd_of_mem_zipIdx (hmem.resolve_left fun heq => hne (heq ▸ rfl))
      have hapart : next.2 ≠ front.length + 1 := by omega
      simp [together, hapart]
    · by_cases hd : d = '_'
      · subst hd
        exact absurd hbegins (by simp [beginsWord])
      · rw [kept_cons hd] at hnext
        obtain rfl : (d, front.length + 1) = next := by simpa using hnext
        have hcut := cutAt_append_cons (front ++ [c]) d more
        rw [List.getLast?_concat, hbegins] at hcut
        simpa [together] using hcut

/-- **The pieces of a text are its runs.**  `front` is what stands in front of the text. -/
theorem runs_from (front text : List Char) :
    (((text.zipIdx front.length).filter (·.1 ≠ '_')).splitBy (together (front ++ text))).map
        (·.map Prod.fst) =
      (allPieces front.getLast? text).filter (· ≠ []) := by
  induction text generalizing front with
  | nil => simp [allPieces, pieces]
  | cons c rest ih =>
    have hrest := ih (front ++ [c])
    rw [List.length_append, List.length_singleton, List.append_assoc, List.singleton_append,
      List.getLast?_concat] at hrest
    by_cases hc : c = '_'
    · subst hc
      simpa [List.zipIdx_cons, allPieces, pieces_cons] using hrest
    · -- whether or not a word begins at the character, it leads the first run
      have hpieces : (allPieces front.getLast? (c :: rest)).filter (· ≠ []) =
          (c :: (pieces (some c) rest).1) :: (pieces (some c) rest).2.filter (· ≠ []) := by
        rw [allPieces, pieces_cons, if_neg hc]
        split <;> simp
      rw [hpieces, kept_cons hc]
      by_cases hfirst : (pieces (some c) rest).1 = []
      · rw [splitBy_cons_of_head (together_eq_false hfirst), List.map_cons, hrest, allPieces,
          hfirst]
        simp
      · obtain ⟨d, more, rfl, hd, hbegins⟩ : ∃ d more, rest = d :: more ∧ d ≠ '_' ∧
            beginsWord (some c) d more.head? = false := by
          simpa [pieces_fst_eq_nil_iff] using hfirst
        have hcut := cutAt_append_cons (front ++ [c]) d more
        rw [List.getLast?_concat, hbegins, List.append_assoc, List.singleton_append,
          List.length_append, List.length_singleton] at hcut
        rw [kept_cons hd] at hrest ⊢
        obtain ⟨run, groups, hsplit, hsplit'⟩ := splitBy_cons_cons
          (l := (more.zipIdx (front.length + 1 + 1)).filter (·.1 ≠ '_'))
          (show together (front ++ c :: d :: more) (c, front.length) (d, front.length + 1) = true by
            simp [together, hcut])
        rw [hsplit, List.map_cons, allPieces,
          List.filter_cons_of_pos (by simpa using hfirst)] at hrest
        obtain ⟨hrun, hgroups⟩ := List.cons.inj hrest
        rw [hsplit', List.map_cons, List.map_cons, hrun, hgroups]

theorem words_eq_runs (text : List Char) : words text = runs text :=
  (runs_from [] text).symm

theorem ne_nil_of_mem_runs {run : List Char} (h : run ∈ runs text) : run ≠ [] := by
  obtain ⟨group, hgroup, rfl⟩ := List.mem_map.1 h
  simpa using List.ne_nil_of_mem_splitBy hgroup

/-- No character is lost but underscores. -/
theorem flatten_runs (text : List Char) : (runs text).flatten = text.filter (· ≠ '_') := by
  calc (runs text).flatten
      = (text.zipIdx.filter ((· ≠ '_') ∘ Prod.fst)).map Prod.fst := by
        rw [runs, ← List.map_flatten, List.flatten_splitBy]
        rfl
    _ = (text.zipIdx.map Prod.fst).filter (· ≠ '_') := List.filter_map.symm
    _ = text.filter (· ≠ '_') := by rw [List.zipIdx_map_fst]

theorem mem_of_mem_runs {run : List Char} (h : run ∈ runs text) :
    ∀ c ∈ run, c ∈ text ∧ c ≠ '_' := by
  intro c hc
  have hmem : c ∈ (runs text).flatten := List.mem_flatten_of_mem h hc
  rw [flatten_runs] at hmem
  simpa using hmem

/-! ## Taking off a prefix -/

/-- What is left of a spelling without the first listed prefix that it starts with.  Empty prefixes
do not count. -/
inductive Unprefixed (prefixes : List String) (raw : String) : String → Prop
  /-- a prefix goes if no other that is listed in front of it fits -/
  | taken {before after : List String} {listed rest : String}
      (mem : prefixes = before ++ listed :: after) (nonempty : listed ≠ "")
      (starts : raw = listed ++ rest)
      (earlier : ∀ other ∈ before, other ≠ "" → ¬other.toList <+: raw.toList) :
      Unprefixed prefixes raw rest
  /-- the spelling stays as it is if no prefix fits -/
  | whole (unfit : ∀ other ∈ prefixes, other ≠ "" → ¬other.toList <+: raw.toList) :
      Unprefixed prefixes raw raw

theorem unprefixed_dropListed (prefixes : List String) (raw : String) :
    Unprefixed prefixes raw
      (String.ofList (dropListed (prefixes.map String.toList) raw.toList)) := by
  unfold dropListed
  split
  · rename_i found hfound
    obtain ⟨hfits, front, back, hlisted, hearlier⟩ := List.find?_eq_some_iff_append.1 hfound
    obtain ⟨before, more, rfl, rfl, hmore⟩ := List.map_eq_append_iff.1 hlisted
    obtain ⟨listed, after, rfl, rfl, rfl⟩ := List.map_eq_cons_iff.1 hmore
    simp only [Bool.and_eq_true, decide_eq_true_eq, List.isPrefixOf_iff_prefix] at hfits
    obtain ⟨rest, hrest⟩ := hfits.2
    refine .taken rfl (by simpa using hfits.1) ?_ fun other hother hne => ?_
    · rw [← String.toList_inj, String.toList_append, String.toList_ofList, ← hrest,
        List.drop_left]
    · intro hprefix
      have hfits' := hearlier other.toList (List.mem_map_of_mem hother)
      simp [hne, List.isPrefixOf_iff_prefix.2 hprefix] at hfits'
  · rename_i hnone
    rw [String.ofList_toList]
    refine .whole fun other hother hne => ?_
    simpa [hne] using List.find?_eq_none.1 hnone other.toList (List.mem_map_of_mem hother)

/-- The first prefix that fits leaves one text only. -/
theorem Unprefixed.unique {prefixes : List String} {raw rest : String}
    (h : Unprefixed prefixes raw rest) :
    String.ofList (dropListed (prefixes.map String.toList) raw.toList) = rest := by
  have hunfit : ∀ others : List String,
      (∀ other ∈ others, other ≠ "" → ¬other.toList <+: raw.toList) →
        ∀ p ∈ others.map String.toList, (p ≠ [] && p.isPrefixOf raw.toList) = false := by
    intro others hothers p hp
    obtain ⟨other, hother, rfl⟩ := List.mem_map.1 hp
    by_cases hne : other = ""
    · simp [hne]
    · simpa [hne, ← List.isPrefixOf_iff_prefix] using hothers other hother hne
  cases h with
  | @taken before after listed rest mem nonempty starts earlier =>
    have hfind : (prefixes.map String.toList).find?
        (fun p => p ≠ [] && p.isPrefixOf raw.toList) = some listed.toList := by
      refine List.find?_eq_some_iff_append.2
        ⟨?_, before.map String.toList, after.map String.toList, ?_, fun p hp => ?_⟩
      · simp [nonempty, starts]
      · simp [mem]
      · rw [hunfit before earlier p hp]
        rfl
    rw [dropListed, hfind]
    simp [starts]
  | whole unfit =>
    have hfind : (prefixes.map String.toList).find?
        (fun p => p ≠ [] && p.isPrefixOf raw.toList) = none := by
      rw [List.find?_eq_none]
      intro p hp
      rw [hunfit prefixes unfit p hp]
      exact Bool.false_ne_true
    rw [dropListed, hfind, String.ofList_toList]

/-- What is left of a spelling has no other characters than the spelling. -/
theorem Unprefixed.subset {prefixes : List String} {raw rest : String}
    (h : Unprefixed prefixes raw rest) : rest.toList ⊆ raw.toList := by
  cases h with
  | taken _ _ starts _ =>
    subst starts
    rw [String.toList_append]
    exact List.subset_append_right _ _
  | whole _ => exact List.Subset.refl _

/-! ## The words of a spelling -/

theorem toLower_ne_underscore (hc : c ≠ '_') : c.toLower ≠ '_' := by
  by_cases h : c.isUpper = true
  · have hlower : c.toLower.isLower = true := by simp [Char.isAlpha, h]
    exact ne_underscore_of_isLower hlower
  · rwa [Char.toLower_eq_of_not_isUpper h]

/-- **A spelling is cut at exactly the boundaries, and nothing is lost.** -/
theorem parts_split_runs (prefixes : List String) (raw : String)
    (ascii : ∀ c ∈ raw.toList, c.toNat < 0x80) :
    ∃ rest, Unprefixed prefixes raw rest ∧
      (split prefixes raw).parts =
        (runs rest.toList).map (fun run => String.ofList (run.map Char.toLower)) ∧
      (∀ part ∈ (split prefixes raw).parts,
        part ≠ "" ∧ ∀ c ∈ part.toList, c ≠ '_' ∧ c.isUpper = false) ∧
      String.join (split prefixes raw).parts =
        String.ofList ((rest.toList.filter (· ≠ '_')).map Char.toLower) ∧
      (split prefixes raw).raw = some raw := by
  have hrest := unprefixed_dropListed prefixes raw
  generalize htext : dropListed (prefixes.map String.toList) raw.toList = text at hrest
  have hascii : ∀ run ∈ runs text, ∀ c ∈ run, c.toNat < 0x80 := by
    intro run hrun c hc
    refine ascii c (hrest.subset ?_)
    rw [String.toList_ofList]
    exact (mem_of_mem_runs hrun c hc).1
  have hparts : (split prefixes raw).parts =
      (runs text).map fun run => String.ofList (run.map Char.toLower) := by
    rw [split, htext, words_eq_runs]
    exact List.map_congr_left fun run hrun => by rw [Text.lower_of_ascii (hascii run hrun)]
  refine ⟨String.ofList text, hrest, ?_, ?_, ?_, rfl⟩
  · rw [hparts, String.toList_ofList]
  · intro part hpart
    rw [hparts] at hpart
    obtain ⟨run, hrun, rfl⟩ := List.mem_map.1 hpart
    refine ⟨by simpa using ne_nil_of_mem_runs hrun, fun c hc => ?_⟩
    rw [String.toList_ofList] at hc
    obtain ⟨d, hd, rfl⟩ := List.mem_map.1 hc
    exact ⟨toLower_ne_underscore (mem_of_mem_runs hrun d hd).2, Char.isUpper_toLower_eq_false d⟩
  · rw [← String.toList_inj, String.toList_join, hparts, List.flatMap_map]
    simp only [String.toList_ofList]
    rw [← flatten_runs, List.map_flatten, List.flatMap_def]

/-- An acronym, digits, an underscore and a cut right behind the prefix, which is the one listed
first of two that fit. -/
theorem parts_split_runs_acronym :
    (∀ c ∈ "cefXMLHttpRequest2_URLs".toList, c.toNat < 0x80) ∧
      ∃ rest, Unprefixed ["", "ce", "cef"] "cefXMLHttpRequest2_URLs" rest ∧
        (split ["", "ce", "cef"] "cefXMLHttpRequest2_URLs").parts =
          ["f", "xml", "http", "request2", "ur", "ls"] ∧
        (runs rest.toList).map (fun run => String.ofList (run.map Char.toLower)) =
          ["f", "xml", "http", "request2", "ur", "ls"] := by
  have hascii : ∀ c ∈ "cefXMLHttpRequest2_URLs".toList, c.toNat < 0x80 := by simp
  have hparts : (split ["", "ce", "cef"] "cefXMLHttpRequest2_URLs").parts =
      ["f", "xml", "http", "request2", "ur", "ls"] := by decide +kernel
  obtain ⟨rest, hrest, hruns, -⟩ :=
    parts_split_runs ["", "ce", "cef"] "cefXMLHttpRequest2_URLs" hascii
  exact ⟨hascii, rest, hrest, hparts, hruns.symm.trans hparts⟩

end Name

end HeaderIndex
