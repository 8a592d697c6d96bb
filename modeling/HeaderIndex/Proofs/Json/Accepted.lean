import HeaderIndex.Proofs.Json.Standard

/-!
# Reading standard JSON

`Json.parse?` takes all texts of standard JSON, and reads no word for a number that is not finite in
them.

* `exists_chars?` — the characters of a string are read up to its closing quote.
* `Accepted`, `accepted_of_derives` — what each sort of phrases is read as.
* `exists_parse?_of_isStandard` — every standard text is read.
-/

namespace HeaderIndex.Json

/-! ## Strings -/

theorem exists_hexValue? {c : Char} (h : isHexDigit c = true) : ∃ value, hexValue? c = some value := by
  unfold hexValue?
  split_ifs with hdigit hlower hupper
  · exact ⟨_, rfl⟩
  · exact ⟨_, rfl⟩
  · exact ⟨_, rfl⟩
  · exfalso
    simp only [isHexDigit, Char.isDigit, Bool.or_eq_true, Bool.and_eq_true, decide_eq_true_eq] at h
    rcases h with (h | h) | h
    · exact hdigit h
    · exact hlower h
    · exact hupper h

/-- Four hexadecimal digits are read as a code unit. -/
theorem exists_unit? {ds : List Char} (four : ds.length = 4) (hex : ∀ d ∈ ds, isHexDigit d = true)
    (rest : List Char) : ∃ unit, unit? (ds ++ rest) = some (unit, rest) := by
  match ds, four with
  | [a, b, c, d], _ =>
    simp only [List.forall_mem_cons] at hex
    obtain ⟨ha, hb, hc, hd, -⟩ := hex
    obtain ⟨va, ha⟩ := exists_hexValue? ha
    obtain ⟨vb, hb⟩ := exists_hexValue? hb
    obtain ⟨vc, hc⟩ := exists_hexValue? hc
    obtain ⟨vd, hd⟩ := exists_hexValue? hd
    exact ⟨_, by simp [unit?, ha, hb, hc, hd]; rfl⟩

/-- A code unit takes nothing of the text behind it, or one more code unit. -/
theorem unitChar_snd (unit : Nat) (rest : List Char) :
    (unitChar unit rest).2 = rest ∨
      ∃ text low, rest = '\\' :: 'u' :: text ∧ unit? text = some (low, (unitChar unit rest).2) := by
  unfold unitChar
  split_ifs with hhigh hlow
  · split
    · rename_i text
      split
      · rename_i low after hunit
        split_ifs with hpair
        · exact .inr ⟨text, low, rfl, hunit⟩
        · exact .inl rfl
      · exact .inl rfl
    · exact .inl rfl
  · exact .inl rfl
  · exact .inl rfl

/-- What is left of the characters of a string behind a code unit in front. -/
theorem Characters.behind_unit {cs text rest after : List Char} {low : Nat} (h : Characters cs)
    (htext : cs ++ '"' :: rest = '\\' :: 'u' :: text) (hunit : unit? text = some (low, after)) :
    ∃ more, Characters more ∧ more.length < cs.length ∧ after = more ++ '"' :: rest := by
  cases h with
  | nothing => cases htext
  | plain printable quote backslash hmore => exact absurd (List.cons.inj htext).1 backslash
  | escape letter hmore =>
    obtain ⟨rfl, -⟩ := List.cons.inj (List.cons.inj htext).2
    exact absurd letter (by decide)
  | @unit ds more four hex hmore =>
    obtain ⟨unit, hread⟩ := exists_unit? four hex (more ++ '"' :: rest)
    rw [List.cons_append, List.cons_append, List.append_assoc] at htext
    rw [(List.cons.inj (List.cons.inj htext).2).2, hunit] at hread
    cases hread
    exact ⟨more, hmore, by simp only [List.length_cons, List.length_append]; omega, rfl⟩

theorem exists_escaped? {c : Char} (h : c ∈ ['"', '\\', '/', 'b', 'f', 'n', 'r', 't'])
    (rest : List Char) : ∃ read, escaped? (c :: rest) = some (read, rest) := by
  simp only [List.mem_cons, List.not_mem_nil, or_false] at h
  rcases h with rfl | rfl | rfl | rfl | rfl | rfl | rfl | rfl
  all_goals exact ⟨_, rfl⟩

/-- The characters of a string are read up to its closing quote. -/
theorem exists_chars? {cs : List Char} (h : Characters cs) (fuel : Nat) (hfuel : cs.length < fuel)
    (rest : List Char) : ∃ text, chars? fuel (cs ++ '"' :: rest) = some (text, rest) := by
  -- on the length, since half of a surrogate pair takes the other one with it
  induction hlength : cs.length using Nat.strongRecOn generalizing cs fuel with
  | ind length ih =>
    subst hlength
    obtain ⟨fuel, rfl⟩ := Nat.exists_eq_add_one.2 (Nat.zero_lt_of_lt hfuel)
    cases h with
    | nothing => exact ⟨[], rfl⟩
    | @plain c more printable quote backslash hmore =>
      rw [List.length_cons] at hfuel
      obtain ⟨text, htext⟩ := ih more.length (by simp) hmore fuel (by omega) rfl
      refine ⟨c :: text, ?_⟩
      rw [List.cons_append, chars?, if_neg quote, if_neg backslash, if_neg (by omega), htext]
      rfl
    | @escape c more letter hmore =>
      rw [List.length_cons, List.length_cons] at hfuel
      obtain ⟨text, htext⟩ := ih more.length (by simp only [List.length_cons]; omega) hmore
        fuel (by omega) rfl
      obtain ⟨read, hread⟩ := exists_escaped? letter (more ++ '"' :: rest)
      refine ⟨read :: text, ?_⟩
      rw [List.cons_append, List.cons_append, chars?_escape hread, htext]
      rfl
    | @unit ds more four hex hmore =>
      rw [List.length_cons, List.length_cons, List.length_append] at hfuel
      obtain ⟨unit, hunit⟩ := exists_unit? four hex (more ++ '"' :: rest)
      have hread : escaped? ('u' :: (ds ++ (more ++ '"' :: rest))) =
          some ((unitChar unit (more ++ '"' :: rest)).1, (unitChar unit (more ++ '"' :: rest)).2) := by
        rw [escaped?, hunit]
        rfl
      obtain ⟨left, hleft, hshorter, hbehind⟩ : ∃ left, Characters left ∧ left.length ≤ more.length ∧
          (unitChar unit (more ++ '"' :: rest)).2 = left ++ '"' :: rest := by
        rcases unitChar_snd unit (more ++ '"' :: rest) with heq | ⟨text, low, htext, hlow⟩
        · exact ⟨more, hmore, Nat.le_refl _, heq⟩
        · obtain ⟨left, hleft, hshorter, hbehind⟩ := hmore.behind_unit htext hlow
          exact ⟨left, hleft, Nat.le_of_lt hshorter, hbehind⟩
      rw [hbehind] at hread
      obtain ⟨text, htext⟩ := ih left.length
        (by simp only [List.length_cons, List.length_append]; omega) hleft fuel (by omega) rfl
      refine ⟨(unitChar unit (more ++ '"' :: rest)).1 :: text, ?_⟩
      rw [List.cons_append, List.cons_append, List.append_assoc, chars?_escape hread, htext]
      rfl

/-! ## Numbers -/

/-- What starts with a digit, or with a sign and a digit, is none of the words. -/
theorem not_mem_words {whole : List Char} (negative : Bool) (h : Digits whole) (more : List Char) :
    String.ofList (if negative then '-' :: (whole ++ more) else whole ++ more) ∉ words := by
  obtain ⟨d, ds, rfl⟩ := List.exists_cons_of_ne_nil h.ne_nil
  have hd := h.isDigit d List.mem_cons_self
  have hN : d ≠ 'N' := fun heq => by rw [heq] at hd; cases hd
  have hI : d ≠ 'I' := fun heq => by rw [heq] at hd; cases hd
  have hminus : d ≠ '-' := fun heq => by rw [heq] at hd; cases hd
  intro hmem
  simp only [words, List.mem_cons, List.not_mem_nil, or_false, ← String.toList_inj,
    String.toList_ofList] at hmem
  cases negative <;> simp [hN, hI, hminus] at hmem

/-- A number is read as one that is no word. -/
theorem exists_scalar?_number {whole fraction exponent rest : List Char} (negative : Bool)
    (hwhole : WholeDigits whole) (hfraction : IsFraction fraction)
    (hexponent : StandardExponent exponent) (hrest : Stops rest) :
    ∃ json, json.Every Wordless ∧ scalar? ((if negative then '-' :: whole else whole) ++
      (fraction ++ (exponent ++ rest))) = some (json, rest) := by
  rw [scalar?_append negative hwhole, unsigned?_append negative hwhole hfraction hexponent hrest]
  refine ⟨_, ?_, rfl⟩
  split
  · exact every_int trivial
  · rw [List.append_assoc]
    exact every_real (not_mem_words negative hwhole.toDigits (fraction ++ exponent))

/-! ## Phrases -/

theorem stops_gap {gap rest : List Char} (hgap : Gap gap) (hrest : Stops rest) :
    Stops (gap ++ rest) := by
  cases gap with
  | nil => exact hrest
  | cons c gap =>
    intro c' hc
    obtain rfl : c = c' := Option.some.inj hc
    have hspace := hgap c List.mem_cons_self
    simp only [isGap, Bool.or_eq_true, decide_eq_true_eq] at hspace
    rcases hspace with ((rfl | rfl) | rfl) | rfl
    all_goals decide

/-- A member starts with a quote. -/
theorem exists_quote_of_member? {fuel : Nat} {text : List Char} {result : (String × Json) × List Char}
    (h : member? fuel text = some result) : ∃ quoted, skipGap text = '"' :: quoted := by
  cases fuel with
  | zero => cases h
  | succ fuel =>
    rw [member?] at h
    split at h
    · exact ⟨_, ‹_›⟩
    · cases h

/-- What a phrase of a sort is read as, in front of a text with which it does not go on: a value or a
member, perhaps up to white space behind it; and items and members with the bracket behind them. -/
def Accepted : Phrase → List Char → Prop
  | .value, text => ∀ fuel rest, text.length < fuel → Stops rest →
      ∃ json, json.Every Wordless ∧ value? fuel (text ++ rest) = some (json, rest)
  | .spaced, text => ∀ fuel rest, text.length < fuel → Stops rest →
      ∃ json gap, json.Every Wordless ∧ Gap gap ∧ value? fuel (text ++ rest) = some (json, gap ++ rest)
  | .items, text => ∀ fuel rest, text.length < fuel →
      ∃ item more next, (∀ part ∈ item :: more, part.Every Wordless) ∧
        value? fuel (text ++ ']' :: rest) = some (item, next) ∧ items? fuel next = some (more, rest)
  | .member, text => ∀ fuel rest, text.length < fuel → Stops rest →
      ∃ member gap, member.2.Every Wordless ∧ Gap gap ∧
        member? fuel (text ++ rest) = some (member, gap ++ rest)
  | .members, text => ∀ fuel rest, text.length < fuel →
      ∃ member more next, (∀ part ∈ member :: more, part.2.Every Wordless) ∧
        member? fuel (text ++ '\x7d' :: rest) = some (member, next) ∧
        members? fuel next = some (more, rest)

/-- A value without parts is read in one go. -/
theorem accepted_of_scalar {text : List Char}
    (h : ∀ rest, Stops rest → ∃ json, json.Every Wordless ∧ scalar? (text ++ rest) = some (json, rest)) :
    Accepted .value text := by
  intro fuel rest hfuel hrest
  obtain ⟨fuel, rfl⟩ := Nat.exists_eq_add_one.2 (Nat.zero_lt_of_lt hfuel)
  obtain ⟨json, hjson, hread⟩ := h rest hrest
  exact ⟨json, hjson, value?_of_scalar hread fuel⟩

theorem accepted_string {cs : List Char} (hcs : Characters cs) :
    Accepted .value ('"' :: (cs ++ ['"'])) := by
  intro fuel rest hfuel _
  obtain ⟨fuel, rfl⟩ := Nat.exists_eq_add_one.2 (Nat.zero_lt_of_lt hfuel)
  simp only [List.length_cons, List.length_append, List.length_nil] at hfuel
  obtain ⟨text, htext⟩ := exists_chars? hcs fuel (by omega) rest
  refine ⟨.str (String.ofList text), every_str trivial, ?_⟩
  rw [List.cons_append, List.append_assoc, List.singleton_append, value?_quote, htext]
  rfl

/-- **Every phrase is read.** -/
theorem accepted_of_derives {phrase : Phrase} {text : List Char} (h : Derives phrase text) :
    Accepted phrase text := by
  induction h with
  | null => exact accepted_of_scalar fun _ _ => ⟨.null, every_null trivial, rfl⟩
  | true => exact accepted_of_scalar fun _ _ => ⟨.bool true, every_bool trivial, rfl⟩
  | false => exact accepted_of_scalar fun _ _ => ⟨.bool false, every_bool trivial, rfl⟩
  | number negative hwhole hfraction hexponent =>
    refine accepted_of_scalar fun rest hrest => ?_
    rw [List.append_assoc, List.append_assoc]
    exact exists_scalar?_number negative hwhole hfraction hexponent hrest
  | string hcs => exact accepted_string hcs
  | @emptyArray gap hgap =>
    intro fuel rest hfuel _
    obtain ⟨fuel, rfl⟩ := Nat.exists_eq_add_one.2 (Nat.zero_lt_of_lt hfuel)
    refine ⟨.arr [], every_arr trivial (List.forall_mem_nil _), ?_⟩
    rw [List.cons_append, List.append_assoc, List.singleton_append, value?_bracket,
      skipGap_gap hgap, skipGap_cons rfl]
    rfl
  | array _ ih =>
    intro fuel rest hfuel _
    obtain ⟨fuel, rfl⟩ := Nat.exists_eq_add_one.2 (Nat.zero_lt_of_lt hfuel)
    simp only [List.length_cons, List.length_append, List.length_nil] at hfuel
    obtain ⟨item, more, next, hparts, hitem, hmore⟩ := ih fuel rest (by omega)
    refine ⟨.arr (item :: more), every_arr trivial hparts, ?_⟩
    rw [List.cons_append, List.append_assoc, List.singleton_append]
    exact value?_arr hitem hmore
  | @emptyObject gap hgap =>
    intro fuel rest hfuel _
    obtain ⟨fuel, rfl⟩ := Nat.exists_eq_add_one.2 (Nat.zero_lt_of_lt hfuel)
    refine ⟨.obj [], every_obj trivial (List.forall_mem_nil _), ?_⟩
    rw [List.cons_append, List.append_assoc, List.singleton_append, value?_brace,
      skipGap_gap hgap, skipGap_cons rfl]
    rfl
  | object _ ih =>
    intro fuel rest hfuel _
    obtain ⟨fuel, rfl⟩ := Nat.exists_eq_add_one.2 (Nat.zero_lt_of_lt hfuel)
    simp only [List.length_cons, List.length_append, List.length_nil] at hfuel
    obtain ⟨member, more, next, hparts, hmember, hmore⟩ := ih fuel rest (by omega)
    obtain ⟨quoted, hquoted⟩ := exists_quote_of_member? hmember
    refine ⟨.obj (member :: more), every_obj trivial hparts, ?_⟩
    rw [List.cons_append, List.append_assoc, List.singleton_append]
    exact value?_obj hquoted hmember hmore
  | @spaced before value after hbefore _ hafter ih =>
    intro fuel rest hfuel hrest
    simp only [List.length_append] at hfuel
    obtain ⟨json, hjson, hread⟩ := ih fuel (after ++ rest) (by omega) (stops_gap hafter hrest)
    refine ⟨json, after, hjson, hafter, ?_⟩
    rw [List.append_assoc, List.append_assoc, value?_gap hbefore, hread]
  | item _ ih =>
    intro fuel rest hfuel
    obtain ⟨fuel, rfl⟩ := Nat.exists_eq_add_one.2 (Nat.zero_lt_of_lt hfuel)
    obtain ⟨json, gap, hjson, hgap, hread⟩ := ih (fuel + 1) (']' :: rest) hfuel (by simp [Stops])
    exact ⟨json, [], _, List.forall_mem_singleton.2 hjson, hread,
      (items?_gap hgap _ _).trans (items?_close fuel rest)⟩
  | @items item more _ _ ih ihmore =>
    intro fuel rest hfuel
    obtain ⟨fuel, rfl⟩ := Nat.exists_eq_add_one.2 (Nat.zero_lt_of_lt hfuel)
    simp only [List.length_append, List.length_cons] at hfuel
    obtain ⟨json, gap, hjson, hgap, hread⟩ :=
      ih (fuel + 1) (',' :: (more ++ ']' :: rest)) (by omega) (by simp [Stops])
    obtain ⟨next, others, behind, hothers, hnext, hmore⟩ := ihmore fuel rest (by omega)
    refine ⟨json, next :: others, _, List.forall_mem_cons.2 ⟨hjson, hothers⟩, ?_,
      (items?_gap hgap _ _).trans (items?_comma hnext hmore)⟩
    rw [List.append_assoc, List.cons_append, hread]
  | @named before name after value hbefore hname hafter _ ih =>
    intro fuel rest hfuel hrest
    obtain ⟨fuel, rfl⟩ := Nat.exists_eq_add_one.2 (Nat.zero_lt_of_lt hfuel)
    simp only [List.length_append, List.length_cons] at hfuel
    obtain ⟨text, htext⟩ :=
      exists_chars? hname fuel (by omega) (after ++ ':' :: (value ++ rest))
    obtain ⟨json, gap, hjson, hgap, hread⟩ := ih fuel rest (by omega) hrest
    refine ⟨(String.ofList text, json), gap, hjson, hgap, ?_⟩
    rw [List.append_assoc, member?_gap hbefore]
    simpa using member?_colon hafter htext hread
  | member _ ih =>
    intro fuel rest hfuel
    obtain ⟨fuel, rfl⟩ := Nat.exists_eq_add_one.2 (Nat.zero_lt_of_lt hfuel)
    obtain ⟨member, gap, hmember, hgap, hread⟩ := ih (fuel + 1) ('\x7d' :: rest) hfuel (by simp [Stops])
    exact ⟨member, [], _, List.forall_mem_singleton.2 hmember, hread,
      (members?_gap hgap _ _).trans (members?_close fuel rest)⟩
  | @members member more _ _ ih ihmore =>
    intro fuel rest hfuel
    obtain ⟨fuel, rfl⟩ := Nat.exists_eq_add_one.2 (Nat.zero_lt_of_lt hfuel)
    simp only [List.length_append, List.length_cons] at hfuel
    obtain ⟨first, gap, hfirst, hgap, hread⟩ :=
      ih (fuel + 1) (',' :: (more ++ '\x7d' :: rest)) (by omega) (by simp [Stops])
    obtain ⟨next, others, behind, hothers, hnext, hmore⟩ := ihmore fuel rest (by omega)
    refine ⟨first, next :: others, _, List.forall_mem_cons.2 ⟨hfirst, hothers⟩, ?_,
      (members?_gap hgap _ _).trans (members?_comma hnext hmore)⟩
    rw [List.append_assoc, List.cons_append, hread]

/-- **Every standard text is read**, and no word for a number that is not finite in it. -/
theorem exists_parse?_of_isStandard {text : String} (h : IsStandard text) :
    ∃ json, json.Every Wordless ∧ parse? text = some json := by
  obtain ⟨json, gap, hjson, hgap, hread⟩ := accepted_of_derives h
    (2 * text.length + 2) [] (by rw [String.length_toList]; omega) nofun
  refine ⟨json, hjson, ?_⟩
  rw [List.append_nil, List.append_nil] at hread
  have hnothing : skipGap gap = [] := by
    rw [← List.append_nil gap, skipGap_gap hgap]
    rfl
  rw [parse?, hread]
  exact if_pos hnothing

end HeaderIndex.Json
