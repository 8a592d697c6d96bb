import HeaderIndex.Proofs.Name.Whole

/-!
# Which functions are methods

A function is a method if the words of its name spell the whole name of the owner and go on.  The
two names need not be cut into words at the same places.

* `Text.lower_eq_self_iff` — a text is in lower case if each of its characters is.
* `flatMap_take_inj` — words that are not empty spell a text by at most one number of them.
* `consume_eq_nil_iff` — taking words away one by one uses a text up if some of them spell it.
* `method?_spelled` — so a method is found exactly if there is such a number of words, and it is
  called by the words behind these.
-/

namespace HeaderIndex

namespace Text

theorem length_le_lowerAfter (seen text : List Char) :
    text.length ≤ (lowerAfter seen text).length := by
  induction text generalizing seen with
  | nil => exact Nat.zero_le _
  | cons c rest ih =>
    rw [lowerAfter, List.length_append, List.length_cons, Nat.add_comm]
    refine Nat.add_le_add (List.length_pos_iff.2 ?_) (ih _)
    split
    · exact List.cons_ne_nil _ _
    · exact lowerChar_ne_nil c

/-- A capital sigma is not in lower case, so no character that is becomes the final form of one. -/
theorem ne_sigma_of_lowerChar {c : Char} (h : lowerChar c = [c]) : c ≠ 'Σ' := by
  rintro rfl
  revert h
  decide

theorem lowerAfter_eq_self_iff (seen text : List Char) :
    lowerAfter seen text = text ↔ ∀ c ∈ text, lowerChar c = [c] := by
  induction text generalizing seen with
  | nil => simp [lowerAfter]
  | cons c rest ih =>
    rw [lowerAfter, List.forall_mem_cons]
    constructor
    · intro h
      split at h
      · rename_i hsigma
        rw [hsigma.1] at h
        exact absurd (List.cons.inj h).1 (by decide)
      · obtain ⟨d, more, himage⟩ := List.exists_cons_of_ne_nil (lowerChar_ne_nil c)
        rw [himage, List.cons_append] at h
        obtain ⟨rfl, htail⟩ := List.cons.inj h
        -- no character has fewer than one in its place, so none of them has more
        have hmore : more = [] := by
          have hlength := congrArg List.length htail
          rw [List.length_append] at hlength
          have hle := length_le_lowerAfter (d :: seen) rest
          exact List.eq_nil_of_length_eq_zero (by omega)
        subst hmore
        exact ⟨himage, (ih _).1 htail⟩
    · rintro ⟨hc, hrest⟩
      rw [if_neg fun h => ne_sigma_of_lowerChar hc h.1, hc, (ih _).2 hrest]
      rfl

/-- **A text is in lower case if each of its characters is.** -/
theorem lower_eq_self_iff (text : List Char) :
    lower text = text ↔ ∀ c ∈ text, lowerChar c = [c] :=
  lowerAfter_eq_self_iff [] text

end Text

namespace Name

/-- Whether all words of a name are in lower case. -/
def IsLower (name : Name) : Prop := ∀ word ∈ name.parts, Text.lower word.toList = word.toList

instance (name : Name) : Decidable name.IsLower :=
  inferInstanceAs (Decidable (∀ word ∈ name.parts, Text.lower word.toList = word.toList))

/-- Words in lower case spell a text in lower case. -/
theorem IsLower.lower_flatMap {name : Name} (h : name.IsLower) :
    Text.lower (name.parts.flatMap String.toList) = name.parts.flatMap String.toList := by
  rw [Text.lower_eq_self_iff]
  intro c hc
  obtain ⟨word, hword, hmem⟩ := List.mem_flatMap.1 hc
  exact (Text.lower_eq_self_iff word.toList).1 (h word hword) c hmem

/-! ## Words that spell a text -/

/-- Words that are not empty spell a text by at most one number of them. -/
theorem flatMap_take_inj {words : List String} (h : ∀ word ∈ words, word ≠ "") {j k : Nat}
    (hj : j ≤ words.length) (hk : k ≤ words.length)
    (heq : (words.take j).flatMap String.toList = (words.take k).flatMap String.toList) :
    j = k := by
  induction words generalizing j k with
  | nil =>
    rw [List.length_nil, Nat.le_zero] at hj hk
    rw [hj, hk]
  | cons word rest ih =>
    have hword : word ≠ "" := h word List.mem_cons_self
    cases j with
    | zero =>
      cases k with
      | zero => rfl
      | succ k => simp [hword] at heq
    | succ j =>
      cases k with
      | zero => simp [hword] at heq
      | succ k =>
        rw [List.take_succ_cons, List.take_succ_cons, List.flatMap_cons, List.flatMap_cons] at heq
        have hrest : ∀ other ∈ rest, other ≠ "" := fun other hother =>
          h other (List.mem_cons_of_mem _ hother)
        rw [ih hrest (Nat.le_of_succ_le_succ hj) (Nat.le_of_succ_le_succ hk)
          (List.append_cancel_left heq)]

/-- **Taking words away uses a text up if some of them spell it**; what is left are the others. -/
theorem consume_eq_nil_iff {words : List String}
    (h : ∀ word ∈ words, word ≠ "" ∧ Text.lower word.toList = word.toList) (target : List Char)
    (rest : List String) :
    consume target words = ([], rest) ↔
      ∃ k, (words.take k).flatMap String.toList = target ∧ rest = words.drop k := by
  induction words generalizing target with
  | nil => simp [consume, eq_comm]
  | cons word more ih =>
    obtain ⟨hne, hlower⟩ := h word List.mem_cons_self
    have hmore := ih fun other hother => h other (List.mem_cons_of_mem _ hother)
    unfold consume
    rw [hlower]
    split
    · rename_i hcondition
      obtain ⟨behind, rfl⟩ := List.isPrefixOf_iff_prefix.1 hcondition.2
      rw [← String.length_toList, List.drop_left, hmore]
      constructor
      · rintro ⟨k, hspell, rfl⟩
        exact ⟨k + 1, by rw [List.take_succ_cons, List.flatMap_cons, hspell], rfl⟩
      · rintro ⟨k, hspell, rfl⟩
        cases k with
        | zero => simp [hne] at hspell
        | succ k =>
          rw [List.take_succ_cons, List.flatMap_cons] at hspell
          exact ⟨k, List.append_cancel_left hspell, rfl⟩
    · rename_i hcondition
      constructor
      · rintro ⟨⟩
        exact ⟨0, rfl, rfl⟩
      · rintro ⟨k, hspell, rfl⟩
        cases k with
        | zero => rw [← hspell]; rfl
        | succ k =>
          rw [List.take_succ_cons, List.flatMap_cons] at hspell
          refine absurd ⟨?_, ?_⟩ hcondition
          · rw [← hspell]
            simp [hne]
          · rw [← hspell, List.isPrefixOf_iff_prefix]
            exact List.prefix_append _ _

/-- A method is called by the words behind those that spell the name of the owner. -/
theorem method?_eq_some_iff {owner function : Name} (howner : owner.Whole)
    (hownerLower : owner.IsLower) (hfunction : function.Whole) (hfunctionLower : function.IsLower)
    (short : Name) :
    owner.method? function = some short ↔
      owner.parts ≠ [] ∧ ∃ k < function.parts.length,
        (function.parts.take k).flatMap String.toList = owner.parts.flatMap String.toList ∧
        short = ⟨function.parts.drop k, none⟩ := by
  have hspelled : owner.parts.flatMap String.toList = [] ↔ owner.parts = [] := by
    rw [List.flatMap_eq_nil_iff]
    constructor
    · intro hempty
      refine List.eq_nil_iff_forall_not_mem.2 fun word hword => howner word hword ?_
      exact String.toList_eq_nil_iff.1 (hempty word hword)
    · intro hnone word hword
      rw [hnone] at hword
      cases hword
  have hwords : ∀ word ∈ function.parts, word ≠ "" ∧ Text.lower word.toList = word.toList :=
    fun word hword => ⟨hfunction word hword, hfunctionLower word hword⟩
  have hconsume := consume_eq_nil_iff hwords (owner.parts.flatMap String.toList)
  unfold method?
  rw [hownerLower.lower_flatMap]
  split
  · rename_i hnil
    simp [hspelled.1 hnil]
  · rename_i hsome
    have howned : owner.parts ≠ [] := fun hnone => hsome (hspelled.2 hnone)
    rw [and_iff_right howned]
    split
    · rename_i word rest hleft
      constructor
      · rintro ⟨⟩
        obtain ⟨k, hspell, hrest⟩ := (hconsume _).1 hleft
        have hk : k < function.parts.length := by
          by_contra hge
          rw [List.drop_of_length_le (Nat.le_of_not_lt hge)] at hrest
          cases hrest
        exact ⟨k, hk, hspell, by rw [hrest]⟩
      · rintro ⟨k, hk, hspell, rfl⟩
        have hrest := hleft.symm.trans ((hconsume _).2 ⟨k, hspell, rfl⟩)
        rw [(Prod.mk.inj hrest).2]
    · rename_i hnone
      refine iff_of_false nofun ?_
      rintro ⟨k, hk, hspell, -⟩
      obtain ⟨word, rest, hrest⟩ := List.exists_cons_of_ne_nil (l := function.parts.drop k)
        (by simpa using hk)
      exact hnone word rest ((hconsume _).2 ⟨k, hspell, hrest.symm⟩)

theorem join_eq_iff (words others : List String) :
    String.join words = String.join others ↔
      words.flatMap String.toList = others.flatMap String.toList := by
  rw [← String.toList_inj, String.toList_join, String.toList_join]

/-- **A function is a method if the first words of its name spell the name of the owner**, and there
are words behind them.  Names in lower case are meant, without empty words; the owner has to have a
word.  There is just one number of words that spell the owner's name, the method is called by
exactly those behind them, and the words of the owner and of the method together spell the name of
the function. -/
theorem method?_spelled (owner function : Name) (howner : owner.Whole)
    (hownerLower : owner.IsLower) (hfunction : function.Whole)
    (hfunctionLower : function.IsLower) :
    ((owner.method? function).isSome = true ↔ owner.parts ≠ [] ∧ ∃ k < function.parts.length,
      String.join (function.parts.take k) = String.join owner.parts) ∧
    ∀ short, owner.method? function = some short →
      ∃ k, short = ⟨function.parts.drop k, none⟩ ∧
        (∀ j, j < function.parts.length ∧
          String.join (function.parts.take j) = String.join owner.parts ↔ j = k) ∧
        String.join (owner.parts ++ short.parts) = String.join function.parts := by
  have hiff := method?_eq_some_iff howner hownerLower hfunction hfunctionLower
  simp only [join_eq_iff]
  constructor
  · rw [Option.isSome_iff_exists]
    simp only [hiff]
    constructor
    · rintro ⟨_, hparts, k, hk, hspell, _⟩
      exact ⟨hparts, k, hk, hspell⟩
    · rintro ⟨hparts, k, hk, hspell⟩
      exact ⟨_, hparts, k, hk, hspell, rfl⟩
  · intro short hshort
    obtain ⟨_, k, hk, hspell, rfl⟩ := (hiff short).1 hshort
    refine ⟨k, rfl, fun j => ⟨?_, ?_⟩, ?_⟩
    · rintro ⟨hj, hother⟩
      exact flatMap_take_inj hfunction (Nat.le_of_lt hj) (Nat.le_of_lt hk)
        (hother.trans hspell.symm)
    · rintro rfl
      exact ⟨hk, hspell⟩
    · rw [List.flatMap_append, ← hspell, ← List.flatMap_append, List.take_append_drop]

/-- The names are cut into words at different places. -/
theorem method?_spelled_otherwiseCut :
    let owner : Name := ⟨["text", "buffer"], some "TextBuffer"⟩
    let function : Name := ⟨["te", "xtbuf", "fer", "set", "size"], some "te_xtbuf_fer_set_size"⟩
    owner.Whole ∧ owner.IsLower ∧ function.Whole ∧ function.IsLower ∧
      owner.method? function = some ⟨["set", "size"], none⟩ ∧
      String.join (owner.parts ++ ["set", "size"]) = String.join function.parts := by
  intro owner function
  have howner : owner.Whole := by decide
  have hownerLower : owner.IsLower := by decide
  have hfunction : function.Whole := by decide
  have hfunctionLower : function.IsLower := by decide
  have hmethod : owner.method? function = some ⟨["set", "size"], none⟩ := by decide
  obtain ⟨_, _, _, hspelled⟩ := (method?_spelled owner function howner hownerLower hfunction
    hfunctionLower).2 _ hmethod
  exact ⟨howner, hownerLower, hfunction, hfunctionLower, hmethod, hspelled⟩

end Name

end HeaderIndex
