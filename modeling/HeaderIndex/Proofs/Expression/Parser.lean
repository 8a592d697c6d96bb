import HeaderIndex.Proofs.Expression.Grammar

/-!
# The parser reads the grammar

* `sound` — what the parsers of all ranks read off a list is derived by the grammar, where the
  result has none of the forms that evaluation refuses.
* `complete` — a derived list is read off every list that it begins, if nothing that could belong to
  it follows.
* `parse?_eq_some_iff` — so the trees that whole lists are read as are those of the grammar.
-/

namespace HeaderIndex.Expression

/-- Whether an expression has none of the forms that evaluation refuses. -/
def Plain : Expression → Prop
  | number _ => True
  | name | emptyParentheses | call _ => False
  | plus operand | minus operand => operand.Plain
  | binary _ left right => left.Plain ∧ right.Plain

theorem Derives.plain {rank : Rank} {l : List Lexeme} {e : Expression} (h : Derives rank l e) :
    e.Plain := by
  induction h with
  | sums h ih | signs h ih | plus h ih | minus h ih | parentheses h ih => exact ih
  | shift direction h h' ih ih' | add h h' ih ih' | sub h h' ih ih' => exact ⟨ih, ih'⟩
  | number => trivial

theorem plain_of_value {e : Expression} {v : Number} (h : e.value = .ok v) : e.Plain := by
  induction e generalizing v with
  | number => trivial
  | name | emptyParentheses | call => cases h
  | plus operand ih => exact ih h
  | minus operand ih =>
    obtain ⟨w, hw, _⟩ := (value_minus ..).1 h
    exact ih hw
  | binary operation left right ihl ihr =>
    obtain ⟨v, w, hv, hw, _⟩ := (value_binary ..).1 h
    exact ⟨ihl hv, ihr hw⟩

/-! ## One step of the parsers -/

section Steps

variable {fuel : Nat} {left operand : Expression} {l : List Lexeme}

theorem moreShifts?_stop (h : ∀ direction, l.head? ≠ some (.shift direction)) :
    moreShifts? (fuel + 1) left l = some (left, l) := by
  unfold moreShifts?
  split
  · omega
  · exact absurd rfl (h _)
  · rfl

theorem moreSums?_stop (hplus : l.head? ≠ some .plus) (hminus : l.head? ≠ some .minus) :
    moreSums? (fuel + 1) left l = some (left, l) := by
  unfold moreSums?
  split
  · omega
  · exact absurd rfl hplus
  · exact absurd rfl hminus
  · rfl

theorem signed?_operand (hplus : l.head? ≠ some .plus) (hminus : l.head? ≠ some .minus) :
    signed? (fuel + 1) l = (atom? fuel l).bind fun (operand, rest) => calls? fuel operand rest := by
  rw [signed?]
  · rfl
  · exact fun m hm => hplus (by rw [hm]; rfl)
  · exact fun m hm => hminus (by rw [hm]; rfl)

theorem calls?_stop (h : l.head? ≠ some .openParenthesis) :
    calls? (fuel + 1) operand l = some (operand, l) := by
  unfold calls?
  split
  · omega
  · exact absurd rfl h
  · rfl

theorem parenthesized?_inner (h : l.head? ≠ some .closeParenthesis) :
    parenthesized? (fuel + 1) l = (shifts? fuel l).bind fun (inner, rest) =>
      match rest with
      | .closeParenthesis :: rest => some (inner, rest)
      | _ => none := by
  rw [parenthesized?]
  · rfl
  · exact fun m hm => h (by rw [hm]; rfl)

end Steps

/-! ## What is read is derived -/

/-- What the parsers read with some fuel, as far as evaluation does not refuse it. -/
structure Sound (fuel : Nat) : Prop where
  shifts {l e rest} : shifts? fuel l = some (e, rest) → e.Plain →
    ∃ used, l = used ++ rest ∧ Derives .shifts used e
  moreShifts {left l e rest} : moreShifts? fuel left l = some (e, rest) → e.Plain →
    left.Plain ∧ ∀ before, Derives .shifts before left →
      ∃ used, l = used ++ rest ∧ Derives .shifts (before ++ used) e
  sums {l e rest} : sums? fuel l = some (e, rest) → e.Plain →
    ∃ used, l = used ++ rest ∧ Derives .sums used e
  moreSums {left l e rest} : moreSums? fuel left l = some (e, rest) → e.Plain →
    left.Plain ∧ ∀ before, Derives .sums before left →
      ∃ used, l = used ++ rest ∧ Derives .sums (before ++ used) e
  signed {l e rest} : signed? fuel l = some (e, rest) → e.Plain →
    ∃ used, l = used ++ rest ∧ Derives .signs used e
  calls {operand l e rest} : calls? fuel operand l = some (e, rest) → e.Plain →
    e = operand ∧ rest = l
  atom {l e rest} : atom? fuel l = some (e, rest) → e.Plain →
    ∃ used, l = used ++ rest ∧ Derives .signs used e
  parenthesized {l e rest} : parenthesized? fuel l = some (e, rest) → e.Plain →
    ∃ used, l = used ++ .closeParenthesis :: rest ∧ Derives .shifts used e

section Sound

variable {fuel : Nat} {left operand e : Expression} {l rest : List Lexeme}

theorem sound_shifts (ih : Sound fuel) (h : shifts? (fuel + 1) l = some (e, rest))
    (he : e.Plain) : ∃ used, l = used ++ rest ∧ Derives .shifts used e := by
  simp only [shifts?, Option.bind_eq_bind, Option.bind_eq_some_iff] at h
  obtain ⟨⟨first, rest'⟩, hfirst, hmore⟩ := h
  obtain ⟨hplain, hderives⟩ := ih.moreShifts hmore he
  obtain ⟨used, rfl, hused⟩ := ih.sums hfirst hplain
  obtain ⟨used', rfl, hused'⟩ := hderives used (.sums hused)
  exact ⟨used ++ used', (List.append_assoc ..).symm, hused'⟩

theorem sound_sums (ih : Sound fuel) (h : sums? (fuel + 1) l = some (e, rest))
    (he : e.Plain) : ∃ used, l = used ++ rest ∧ Derives .sums used e := by
  simp only [sums?, Option.bind_eq_bind, Option.bind_eq_some_iff] at h
  obtain ⟨⟨first, rest'⟩, hfirst, hmore⟩ := h
  obtain ⟨hplain, hderives⟩ := ih.moreSums hmore he
  obtain ⟨used, rfl, hused⟩ := ih.signed hfirst hplain
  obtain ⟨used', rfl, hused'⟩ := hderives used (.signs hused)
  exact ⟨used ++ used', (List.append_assoc ..).symm, hused'⟩

/-- Nothing more is read. -/
theorem sound_stop {rank : Rank} (h : (some (left, l) : Reading) = some (e, rest)) (he : e.Plain) :
    left.Plain ∧ ∀ before, Derives rank before left →
      ∃ used, l = used ++ rest ∧ Derives rank (before ++ used) e := by
  obtain ⟨rfl, rfl⟩ := Prod.mk.inj (Option.some.inj h)
  exact ⟨he, fun before hb => ⟨[], rfl, by rwa [List.append_nil]⟩⟩

/-- An operand more is read. -/
theorem sound_more {rank rank' : Rank} {sign : Lexeme} {operation : BinaryOperation}
    {right : Expression} {used rest' : List Lexeme}
    (hjoin : ∀ before, Derives rank before left → Derives rank' used right →
      Derives rank (before ++ sign :: used) (.binary operation left right))
    (hl : l = used ++ rest') (hused : Derives rank' used right)
    (hmore : ∀ before, Derives rank before (.binary operation left right) →
      ∃ used, rest' = used ++ rest ∧ Derives rank (before ++ used) e) :
    ∀ before, Derives rank before left →
      ∃ used, sign :: l = used ++ rest ∧ Derives rank (before ++ used) e := by
  intro before hb
  obtain ⟨used', rfl, hused'⟩ := hmore _ (hjoin before hb hused)
  exact ⟨sign :: used ++ used', by simp [hl], by simpa using hused'⟩

theorem sound_moreShifts (ih : Sound fuel) (h : moreShifts? (fuel + 1) left l = some (e, rest))
    (he : e.Plain) : left.Plain ∧ ∀ before, Derives .shifts before left →
      ∃ used, l = used ++ rest ∧ Derives .shifts (before ++ used) e := by
  by_cases hl : ∃ direction, l.head? = some (.shift direction)
  · obtain ⟨direction, hd⟩ := hl
    obtain ⟨m, rfl⟩ := List.head?_eq_some_iff.1 hd
    simp only [moreShifts?, Option.bind_eq_bind, Option.bind_eq_some_iff] at h
    obtain ⟨⟨right, rest'⟩, hright, hmore⟩ := h
    obtain ⟨⟨hleft, hplain⟩, hderives⟩ := ih.moreShifts hmore he
    obtain ⟨used, hm, hused⟩ := ih.sums hright hplain
    exact ⟨hleft, sound_more (fun _ => .shift _) hm hused hderives⟩
  · rw [moreShifts?_stop fun direction hd => hl ⟨direction, hd⟩] at h
    exact sound_stop h he

/-- A plus or a minus goes on with a sum. -/
theorem sound_sum {sign : Lexeme} {operation : BinaryOperation} {m : List Lexeme} (ih : Sound fuel)
    (hstep : moreSums? (fuel + 1) left (sign :: m) =
      (signed? fuel m).bind fun (right, rest) => moreSums? fuel (.binary operation left right) rest)
    (hjoin : ∀ before used right, Derives .sums before left → Derives .signs used right →
      Derives .sums (before ++ sign :: used) (.binary operation left right))
    (h : moreSums? (fuel + 1) left (sign :: m) = some (e, rest)) (he : e.Plain) :
    left.Plain ∧ ∀ before, Derives .sums before left →
      ∃ used, sign :: m = used ++ rest ∧ Derives .sums (before ++ used) e := by
  rw [hstep, Option.bind_eq_some_iff] at h
  obtain ⟨⟨right, rest'⟩, hright, hmore⟩ := h
  obtain ⟨⟨hleft, hplain⟩, hderives⟩ := ih.moreSums hmore he
  obtain ⟨used, hm, hused⟩ := ih.signed hright hplain
  exact ⟨hleft, sound_more (fun before => hjoin before used right) hm hused hderives⟩

theorem sound_moreSums (ih : Sound fuel) (h : moreSums? (fuel + 1) left l = some (e, rest))
    (he : e.Plain) : left.Plain ∧ ∀ before, Derives .sums before left →
      ∃ used, l = used ++ rest ∧ Derives .sums (before ++ used) e := by
  by_cases hplus : l.head? = some .plus
  · obtain ⟨m, rfl⟩ := List.head?_eq_some_iff.1 hplus
    exact sound_sum ih rfl (fun _ _ _ => .add) h he
  by_cases hminus : l.head? = some .minus
  · obtain ⟨m, rfl⟩ := List.head?_eq_some_iff.1 hminus
    exact sound_sum ih rfl (fun _ _ _ => .sub) h he
  · rw [moreSums?_stop hplus hminus] at h
    exact sound_stop h he

/-- A sign goes with the operand behind it. -/
theorem sound_sign {sign : Lexeme} {wrap : Expression → Expression} {m : List Lexeme}
    (ih : Sound fuel)
    (hstep : signed? (fuel + 1) (sign :: m) =
      (signed? fuel m).bind fun (operand, rest) => some (wrap operand, rest))
    (hplain : ∀ operand, (wrap operand).Plain → operand.Plain)
    (hwrap : ∀ used operand, Derives .signs used operand →
      Derives .signs (sign :: used) (wrap operand))
    (h : signed? (fuel + 1) (sign :: m) = some (e, rest)) (he : e.Plain) :
    ∃ used, sign :: m = used ++ rest ∧ Derives .signs used e := by
  rw [hstep, Option.bind_eq_some_iff] at h
  obtain ⟨⟨operand, rest'⟩, hoperand, hsigned⟩ := h
  obtain ⟨rfl, rfl⟩ := Prod.mk.inj (Option.some.inj hsigned)
  obtain ⟨used, rfl, hused⟩ := ih.signed hoperand (hplain operand he)
  exact ⟨sign :: used, rfl, hwrap used operand hused⟩

theorem sound_signed (ih : Sound fuel) (h : signed? (fuel + 1) l = some (e, rest))
    (he : e.Plain) : ∃ used, l = used ++ rest ∧ Derives .signs used e := by
  by_cases hplus : l.head? = some .plus
  · obtain ⟨m, rfl⟩ := List.head?_eq_some_iff.1 hplus
    exact sound_sign ih rfl (fun _ h => h) (fun _ _ => .plus) h he
  by_cases hminus : l.head? = some .minus
  · obtain ⟨m, rfl⟩ := List.head?_eq_some_iff.1 hminus
    exact sound_sign ih rfl (fun _ h => h) (fun _ _ => .minus) h he
  · rw [signed?_operand hplus hminus, Option.bind_eq_some_iff] at h
    obtain ⟨⟨operand, rest'⟩, hoperand, hcalls⟩ := h
    obtain ⟨rfl, rfl⟩ := ih.calls hcalls he
    exact ih.atom hoperand he

/-- What has parentheses behind it is refused. -/
theorem sound_calls (ih : Sound fuel) (h : calls? (fuel + 1) operand l = some (e, rest))
    (he : e.Plain) : e = operand ∧ rest = l := by
  by_cases hl : l.head? = some .openParenthesis
  · obtain ⟨m, rfl⟩ := List.head?_eq_some_iff.1 hl
    simp only [calls?, Option.bind_eq_bind, Option.bind_eq_some_iff] at h
    obtain ⟨⟨_, rest'⟩, _, hmore⟩ := h
    obtain ⟨rfl, _⟩ := ih.calls hmore he
    cases he
  · rw [calls?_stop hl] at h
    obtain ⟨rfl, rfl⟩ := Prod.mk.inj (Option.some.inj h)
    exact ⟨rfl, rfl⟩

theorem sound_atom (ih : Sound fuel) (h : atom? (fuel + 1) l = some (e, rest))
    (he : e.Plain) : ∃ used, l = used ++ rest ∧ Derives .signs used e := by
  cases l with
  | nil => cases h
  | cons a m =>
    cases a with
    | number value =>
      obtain ⟨rfl, rfl⟩ := Prod.mk.inj (Option.some.inj h)
      exact ⟨[.number value], rfl, .number value⟩
    | name =>
      obtain ⟨rfl, rfl⟩ := Prod.mk.inj (Option.some.inj h)
      cases he
    | openParenthesis =>
      simp only [atom?] at h
      obtain ⟨used, rfl, hused⟩ := ih.parenthesized h he
      exact ⟨.openParenthesis :: (used ++ [.closeParenthesis]), by simp, .parentheses hused⟩
    | plus | minus | shift | closeParenthesis => cases h

theorem sound_parenthesized (ih : Sound fuel)
    (h : parenthesized? (fuel + 1) l = some (e, rest)) (he : e.Plain) :
    ∃ used, l = used ++ .closeParenthesis :: rest ∧ Derives .shifts used e := by
  by_cases hl : l.head? = some .closeParenthesis
  · obtain ⟨m, rfl⟩ := List.head?_eq_some_iff.1 hl
    simp only [parenthesized?] at h
    obtain ⟨rfl, rfl⟩ := Prod.mk.inj (Option.some.inj h)
    cases he
  · rw [parenthesized?_inner hl, Option.bind_eq_some_iff] at h
    obtain ⟨⟨inner, rest'⟩, hinner, hclose⟩ := h
    dsimp only at hclose
    split at hclose
    · obtain ⟨rfl, rfl⟩ := Prod.mk.inj (Option.some.inj hclose)
      exact ih.shifts hinner he
    · cases hclose

end Sound

/-- **What the parsers read is derived**, by induction on the fuel for all of them at once. -/
theorem sound (fuel : Nat) : Sound fuel := by
  induction fuel with
  | zero =>
    constructor <;> (intros; contradiction)
  | succ fuel ih =>
    exact ⟨sound_shifts ih, sound_moreShifts ih, sound_sums ih, sound_moreSums ih, sound_signed ih,
      sound_calls ih, sound_atom ih, sound_parenthesized ih⟩

/-! ## What is derived is read -/

/-- What a parser makes of a list before others, with enough fuel.  Where operations of the rank can
follow, the reading goes on from the derived tree as `moreShifts?` and `moreSums?` do. -/
def Reads : Rank → List Lexeme → Expression → Prop
  | .shifts, l, e => ∀ rest, rest.head? ≠ some .openParenthesis → rest.head? ≠ some .plus →
      rest.head? ≠ some .minus → ∀ n result,
      (∀ k, n ≤ k → moreShifts? (k + 1) e rest = some result) →
      ∀ fuel, n + 8 * l.length < fuel → shifts? fuel (l ++ rest) = some result
  | .sums, l, e => ∀ rest, rest.head? ≠ some .openParenthesis → ∀ n result,
      (∀ k, n ≤ k → moreSums? (k + 1) e rest = some result) →
      ∀ fuel, n + 8 * l.length ≤ fuel → sums? fuel (l ++ rest) = some result
  | .signs, l, e => ∀ rest, rest.head? ≠ some .openParenthesis →
      ∀ fuel, 8 * l.length ≤ fuel + 2 → signed? fuel (l ++ rest) = some (e, rest)

section Reads

variable {l m rest : List Lexeme} {e f : Expression}

theorem Derives.length_pos {rank : Rank} (h : Derives rank l e) : 0 < l.length := by
  obtain ⟨a, rest, rfl, _⟩ := h.head
  simp

/-- A sum before something that cannot go on with it. -/
theorem Reads.sums_stop (h : Reads .sums l e) (hcall : rest.head? ≠ some .openParenthesis)
    (hplus : rest.head? ≠ some .plus) (hminus : rest.head? ≠ some .minus) (fuel : Nat)
    (hfuel : 8 * l.length ≤ fuel) : sums? fuel (l ++ rest) = some (e, rest) :=
  h rest hcall 0 (e, rest) (fun _ _ => moreSums?_stop hplus hminus) fuel (by omega)

theorem reads_shifts (hpos : 0 < l.length) (h : Reads .sums l e) : Reads .shifts l e := by
  intro rest hcall hplus hminus n result hmore fuel hfuel
  obtain ⟨k, rfl⟩ : ∃ k, fuel = k + 2 := ⟨fuel - 2, by omega⟩
  have hsums := h.sums_stop hcall hplus hminus (k + 1) (by omega)
  simp only [shifts?, hsums, Option.bind_eq_bind, Option.bind_some]
  exact hmore k (by omega)

theorem reads_shift (direction : Shift) (hpos : 0 < m.length) (hl : Reads .shifts l e)
    (hm : Reads .sums m f) :
    Reads .shifts (l ++ .shift direction :: m) (.binary (.shift direction) e f) := by
  intro rest hcall hplus hminus n result hmore fuel hfuel
  rw [List.append_assoc]
  simp only [List.length_append, List.length_cons] at hfuel
  refine hl _ (by simp) (by simp) (by simp) (n + 8 * m.length) result ?_ fuel (by omega)
  intro k hk
  obtain ⟨k, rfl⟩ : ∃ k', k = k' + 1 := ⟨k - 1, by omega⟩
  have hsums := hm.sums_stop hcall hplus hminus (k + 1) (by omega)
  simp only [List.cons_append, moreShifts?, hsums, Option.bind_eq_bind, Option.bind_some]
  exact hmore k (by omega)

theorem reads_sums (hpos : 0 < l.length) (h : Reads .signs l e) : Reads .sums l e := by
  intro rest hcall n result hmore fuel hfuel
  obtain ⟨k, rfl⟩ : ∃ k, fuel = k + 2 := ⟨fuel - 2, by omega⟩
  have hsigned := h rest hcall (k + 1) (by omega)
  simp only [sums?, hsigned, Option.bind_eq_bind, Option.bind_some]
  exact hmore k (by omega)

/-- A plus or a minus between a sum and an operand. -/
theorem reads_sum {sign : Lexeme} {operation : BinaryOperation} (hcall : sign ≠ .openParenthesis)
    (hstep : ∀ k left rest, moreSums? (k + 1) left (sign :: rest) =
      (signed? k rest).bind fun (right, rest) => moreSums? k (.binary operation left right) rest)
    (hpos : 0 < m.length) (hl : Reads .sums l e) (hm : Reads .signs m f) :
    Reads .sums (l ++ sign :: m) (.binary operation e f) := by
  intro rest hrest n result hmore fuel hfuel
  rw [List.append_assoc]
  simp only [List.length_append, List.length_cons] at hfuel
  refine hl _ (by simpa using hcall) (n + 8 * m.length) result ?_ fuel (by omega)
  intro k hk
  obtain ⟨k, rfl⟩ : ∃ k', k = k' + 1 := ⟨k - 1, by omega⟩
  have hsigned := hm rest hrest (k + 1) (by omega)
  rw [List.cons_append, hstep, hsigned]
  exact hmore k (by omega)

/-- A sign in front of an operand. -/
theorem reads_signed {sign : Lexeme} {wrap : Expression → Expression}
    (hstep : ∀ k rest, signed? (k + 1) (sign :: rest) =
      (signed? k rest).bind fun (operand, rest) => some (wrap operand, rest))
    (h : Reads .signs l e) : Reads .signs (sign :: l) (wrap e) := by
  intro rest hcall fuel hfuel
  simp only [List.length_cons] at hfuel
  obtain ⟨k, rfl⟩ : ∃ k, fuel = k + 1 := ⟨fuel - 1, by omega⟩
  rw [List.cons_append, hstep, h rest hcall k (by omega)]
  rfl

theorem reads_number (value : Number) : Reads .signs [.number value] (.number value) := by
  intro rest hcall fuel hfuel
  simp only [List.length_singleton] at hfuel
  obtain ⟨k, rfl⟩ : ∃ k, fuel = k + 2 := ⟨fuel - 2, by omega⟩
  rw [signed?_operand (by simp) (by simp)]
  exact calls?_stop hcall

theorem reads_parentheses (hl : Derives .shifts l e) (h : Reads .shifts l e) :
    Reads .signs (.openParenthesis :: (l ++ [.closeParenthesis])) e := by
  intro rest hcall fuel hfuel
  simp only [List.length_cons, List.length_append] at hfuel
  obtain ⟨k, rfl⟩ : ∃ k, fuel = k + 3 := ⟨fuel - 3, by omega⟩
  have hinner : shifts? k (l ++ .closeParenthesis :: rest) = some (e, .closeParenthesis :: rest) :=
    h _ (by simp) (by simp) (by simp) 0 _ (fun _ _ => moreShifts?_stop (by simp)) k (by omega)
  have hhead : (l ++ .closeParenthesis :: rest).head? ≠ some .closeParenthesis := by
    obtain ⟨a, m, rfl, ha⟩ := hl.head
    rintro ⟨⟩
    exact ha
  have hparen : parenthesized? (k + 1) (l ++ .closeParenthesis :: rest) = some (e, rest) := by
    rw [parenthesized?_inner hhead, hinner]
    rfl
  rw [signed?_operand (by simp) (by simp)]
  simp only [List.cons_append, List.append_assoc, List.nil_append, atom?, hparen, Option.bind_some]
  exact calls?_stop hcall

end Reads

/-- **What is derived is read.** -/
theorem complete {rank : Rank} {l : List Lexeme} {e : Expression} (h : Derives rank l e) :
    Reads rank l e := by
  induction h with
  | sums h ih => exact reads_shifts h.length_pos ih
  | shift direction hl hm ihl ihm => exact reads_shift direction hm.length_pos ihl ihm
  | signs h ih => exact reads_sums h.length_pos ih
  | add hl hm ihl ihm => exact reads_sum (by simp) (fun _ _ _ => rfl) hm.length_pos ihl ihm
  | sub hl hm ihl ihm => exact reads_sum (by simp) (fun _ _ _ => rfl) hm.length_pos ihl ihm
  | plus h ih => exact reads_signed (fun _ _ => rfl) ih
  | minus h ih => exact reads_signed (fun _ _ => rfl) ih
  | number value => exact reads_number value
  | parentheses h ih => exact reads_parentheses h ih

/-- **The trees that lists of lexemes are read as are those of the grammar**, but for forms that
evaluation refuses. -/
theorem parse?_eq_some_iff {l : List Lexeme} {e : Expression} :
    parse? l = some e ∧ e.Plain ↔ Derives .shifts l e := by
  constructor
  · rintro ⟨h, he⟩
    unfold parse? at h
    split at h
    · rename_i expression hread
      cases h
      obtain ⟨used, hl, hused⟩ := (sound _).shifts hread he
      rw [List.append_nil] at hl
      rw [hl]
      exact hused
    · cases h
  · intro h
    refine ⟨?_, h.plain⟩
    have hread := complete h [] (by simp) (by simp) (by simp) 0 (e, [])
      (fun _ _ => moreShifts?_stop (by simp)) (8 * l.length + 8) (by omega)
    rw [List.append_nil] at hread
    simp only [parse?, hread]

end HeaderIndex.Expression
