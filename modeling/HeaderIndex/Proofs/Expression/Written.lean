import HeaderIndex.Proofs.Expression.Parser
import HeaderIndex.Proofs.Number.Sign

/-!
# Numbers as they are written

An expression is written anew before it is read, and a number below zero is written as a sign and a
number.  What is read is therefore not the list of lexemes itself.

* `written` — a list as it is written; `Rewrites` says how a single lexeme can be.
* `derives_written` — a derived list has the same value as it is written.
* `derives_of_written` — conversely, if no number with a sign stands directly behind an operand.
-/

namespace HeaderIndex.Expression

/-- A number that is written with a sign. -/
def IsNegative : Lexeme → Prop
  | .number (.int value) => value < 0
  | .number (.float value) => isNegativeFloat value = true ∧ value.isNaN = false
  | _ => False

/-- The lexemes that a token is written as: those of its number, or itself. -/
def rewritten : Lexeme → List Lexeme
  | .number value => Lexeme.ofNumber value
  | sign => [sign]

/-- A list as it is written. -/
def written (l : List Lexeme) : List Lexeme := l.flatMap rewritten

/-- How a lexeme is written. -/
inductive Rewrites : Lexeme → List Lexeme → Prop
  | same {a} (finite : ∀ value, a = .number value → value.IsFinite) : Rewrites a [a]
  | negative {value size : Number} (finite : value.IsFinite) (sign : IsNegative (.number value))
    (sizeFinite : size.IsFinite) (eq : value = size.neg) :
    Rewrites (.number value) [.minus, .number size]
  | infinite {value : Number} (infinite : ¬ value.IsFinite) : Rewrites (.number value) [.name]
  | negativeInfinite {value : Number} (infinite : ¬ value.IsFinite)
    (sign : IsNegative (.number value)) : Rewrites (.number value) [.minus, .name]

theorem rewrites_float (value : Float) :
    Rewrites (.number (.float value)) (rewritten (.number (.float value))) := by
  unfold rewritten Lexeme.ofNumber
  dsimp only
  by_cases hfinite : value.isFinite = true
  · rw [if_pos hfinite]
    split
    · rename_i hsign
      rw [Bool.and_eq_true, Bool.not_eq_true'] at hsign
      have heq : value = -value.abs := (neg_abs_of_negative hfinite hsign.1).symm
      exact .negative hfinite hsign (isFinite_abs hfinite) (congrArg Number.float heq)
    · rename_i hsign
      rw [isNaN_of_finite hfinite, Bool.not_false, Bool.and_true, Bool.not_eq_true] at hsign
      rw [abs_of_nonnegative hfinite hsign]
      exact .same (by rintro _ ⟨⟩; exact hfinite)
  · rw [if_neg hfinite]
    split
    · rename_i hsign
      rw [Bool.and_eq_true, Bool.not_eq_true'] at hsign
      exact .negativeInfinite hfinite hsign
    · exact .infinite hfinite

theorem rewrites (a : Lexeme) : Rewrites a (rewritten a) := by
  cases a with
  | number value =>
    cases value with
    | int value =>
      unfold rewritten Lexeme.ofNumber
      dsimp only
      split
      · rename_i hneg
        exact .negative trivial hneg trivial (by simp [Number.neg])
      · exact .same (by rintro _ ⟨⟩; trivial)
    | float value => exact rewrites_float value
  | name | plus | minus | shift | openParenthesis | closeParenthesis => exact .same (by simp)

theorem written_cons (a : Lexeme) (l : List Lexeme) : written (a :: l) = rewritten a ++ written l :=
  List.flatMap_cons

theorem written_append (l m : List Lexeme) : written (l ++ m) = written l ++ written m :=
  List.flatMap_append

/-- Numbers that are written are finite. -/
theorem isFinite_of_mem_written {l : List Lexeme} {value : Number}
    (h : .number value ∈ written l) : value.IsFinite := by
  obtain ⟨a, _, ha⟩ := List.mem_flatMap.1 h
  have hrewrites := rewrites a
  generalize rewritten a = m at ha hrewrites
  cases hrewrites with
  | same finite => exact finite value (List.mem_singleton.1 ha).symm
  | negative finite sign sizeFinite eq =>
    obtain rfl : value = _ := by simpa using ha
    exact sizeFinite
  | infinite | negativeInfinite => simp at ha

/-! ## Trees of what is written -/

/-- Two operands as they are written, with an operation between them. -/
theorem derives_written_binary {rank rank' : Rank} {sign : Lexeme} {operation : BinaryOperation}
    {l m : List Lexeme} {e f : Expression} {v : Number} (hsign : rewritten sign = [sign])
    (hjoin : ∀ {l m e f}, Derives rank l e → Derives rank' m f →
      Derives rank (l ++ sign :: m) (.binary operation e f))
    (hl : ∀ {v}, e.Denotes v → ∃ e', Derives rank (written l) e' ∧ e'.Denotes v)
    (hm : ∀ {v}, f.Denotes v → ∃ f', Derives rank' (written m) f' ∧ f'.Denotes v)
    (hv : (binary operation e f).Denotes v) :
    ∃ e', Derives rank (written (l ++ sign :: m)) e' ∧ e'.Denotes v := by
  obtain ⟨x, y, hx, hy, hyields⟩ := (denotes_binary ..).1 hv
  obtain ⟨e', he', hx'⟩ := hl hx
  obtain ⟨f', hf', hy'⟩ := hm hy
  rw [written_append, written_cons, hsign]
  exact ⟨_, hjoin he' hf', .binary hx' hy' hyields⟩

/-- What is derived is derived with the same value as it is written. -/
theorem derives_written {rank : Rank} {l : List Lexeme} {e : Expression} (h : Derives rank l e)
    {v : Number} (hv : e.Denotes v) :
    ∃ e', Derives rank (written l) e' ∧ e'.Denotes v := by
  induction h generalizing v with
  | sums h ih =>
    obtain ⟨e', h', hv'⟩ := ih hv
    exact ⟨e', .sums h', hv'⟩
  | signs h ih =>
    obtain ⟨e', h', hv'⟩ := ih hv
    exact ⟨e', .signs h', hv'⟩
  | shift direction h h' ih ih' => exact derives_written_binary rfl (.shift direction) ih ih' hv
  | add h h' ih ih' => exact derives_written_binary rfl .add ih ih' hv
  | sub h h' ih ih' => exact derives_written_binary rfl .sub ih ih' hv
  | plus h ih =>
    obtain ⟨e', h', hv'⟩ := ih ((denotes_plus ..).1 hv)
    rw [written_cons]
    exact ⟨_, .plus h', .plus hv'⟩
  | minus h ih =>
    obtain ⟨w, hw, rfl⟩ := (denotes_minus ..).1 hv
    obtain ⟨e', h', hw'⟩ := ih hw
    rw [written_cons]
    exact ⟨_, .minus h', .minus hw'⟩
  | number value =>
    obtain ⟨finite⟩ := hv
    rw [written_cons]
    have hrewrites := rewrites (.number value)
    generalize rewritten (.number value) = m at hrewrites
    cases hrewrites with
    | same => exact ⟨_, .number value, .number finite⟩
    | negative _ sign sizeFinite eq =>
      rw [eq]
      exact ⟨_, .minus (.number _), .minus (.number sizeFinite)⟩
    | infinite infinite | negativeInfinite infinite => exact absurd finite infinite
  | parentheses h ih =>
    obtain ⟨e', h', hv'⟩ := ih hv
    rw [written_cons, written_append]
    exact ⟨e', .parentheses h', hv'⟩

/-- How a written list begins. -/
theorem written_eq_cons {l m' : List Lexeme} {a : Lexeme} (h : written l = a :: m') :
    ∃ c m, l = c :: m ∧
      (Rewrites c [a] ∧ m' = written m ∨
        ∃ b, a = .minus ∧ Rewrites c [.minus, b] ∧ m' = b :: written m) := by
  cases l with
  | nil => cases h
  | cons c m =>
    refine ⟨c, m, rfl, ?_⟩
    rw [written_cons] at h
    have hrewrites := rewrites c
    generalize rewritten c = first at h hrewrites
    cases hrewrites with
    | same finite =>
      obtain ⟨rfl, rfl⟩ := List.cons.inj h
      exact .inl ⟨.same finite, rfl⟩
    | infinite infinite =>
      obtain ⟨rfl, rfl⟩ := List.cons.inj h
      exact .inl ⟨.infinite infinite, rfl⟩
    | negative finite sign sizeFinite eq =>
      obtain ⟨rfl, rfl⟩ := List.cons.inj h
      exact .inr ⟨_, rfl, .negative finite sign sizeFinite eq, rfl⟩
    | negativeInfinite infinite sign =>
      obtain ⟨rfl, rfl⟩ := List.cons.inj h
      exact .inr ⟨_, rfl, .negativeInfinite infinite sign, rfl⟩

theorem written_eq_nil {l : List Lexeme} (h : written l = []) : l = [] := by
  cases l with
  | nil => rfl
  | cons c m =>
    rw [written_cons] at h
    have hrewrites := rewrites c
    rw [(List.append_eq_nil_iff.1 h).1] at hrewrites
    cases hrewrites

/-- A lexeme that is written by two is only cut behind its sign. -/
theorem Rewrites.cut {a : Lexeme} {p q : List Lexeme} (h : Rewrites a (p ++ q))
    (hp : p.getLast? ≠ some .minus) : p = [] ∨ q = [] := by
  cases p with
  | nil => exact .inl rfl
  | cons b p =>
    right
    generalize hm : b :: p ++ q = m at h
    cases h with
    | same | infinite =>
      obtain ⟨_, hpq⟩ := List.cons.inj hm
      exact (List.append_eq_nil_iff.1 hpq).2
    | negative | negativeInfinite =>
      obtain ⟨rfl, hpq⟩ := List.cons.inj hm
      cases p with
      | nil => exact absurd rfl hp
      | cons c p =>
        obtain ⟨_, hpq⟩ := List.cons.inj hpq
        exact (List.append_eq_nil_iff.1 hpq).2

/-- A written list is only cut in two between lexemes, unless the first part ends with a sign. -/
theorem written_eq_append {l p q : List Lexeme} (h : written l = p ++ q)
    (hp : p.getLast? ≠ some .minus) : ∃ m n, l = m ++ n ∧ p = written m ∧ q = written n := by
  induction l generalizing p with
  | nil =>
    obtain ⟨rfl, rfl⟩ := List.append_eq_nil_iff.1 h.symm
    exact ⟨[], [], rfl, rfl, rfl⟩
  | cons c l ih =>
    rw [written_cons] at h
    rcases List.append_eq_append_iff.1 h with ⟨p', rfl, hl⟩ | ⟨q', hc, rfl⟩
    · -- the first part goes on behind the first lexeme
      by_cases hp' : p' = []
      · subst hp'
        exact ⟨[c], l, rfl, by simp [written], hl.symm⟩
      · have hlast : p'.getLast? ≠ some .minus := by
          rwa [List.getLast?_append_of_ne_nil _ hp'] at hp
        obtain ⟨m, n, rfl, rfl, rfl⟩ := ih hl hlast
        exact ⟨c :: m, n, rfl, (written_cons c m).symm, rfl⟩
    · -- the first part ends with the first lexeme or before it
      have hrewrites := rewrites c
      rw [hc] at hrewrites
      rcases hrewrites.cut hp with rfl | rfl
      · exact ⟨[], c :: l, rfl, rfl, by rw [written_cons, hc]; rfl⟩
      · exact ⟨[c], l, rfl, by simp [written, hc], rfl⟩

/-- What is written ends with an operand only if it does so before. -/
theorem endsOperand_of_written {l : List Lexeme} {a : Lexeme} (h : (written l).getLast? = some a)
    (ha : EndsOperand a) : ∃ b, l.getLast? = some b ∧ EndsOperand b := by
  rcases List.eq_nil_or_concat l with rfl | ⟨l, b, rfl⟩
  · cases h
  · refine ⟨b, by simp, ?_⟩
    rw [List.concat_eq_append, written_append, written_cons] at h
    have hrewrites := rewrites b
    generalize rewritten b = m at h hrewrites
    cases hrewrites with
    | same =>
      obtain rfl : b = a := by simpa [written] using h
      exact ha
    | negative | infinite | negativeInfinite => trivial

theorem Apart.left {sort : Lexeme → Prop} {l m : List Lexeme} (h : Apart sort (l ++ m)) :
    Apart sort l :=
  List.IsChain.left_of_append h

theorem Apart.right {sort : Lexeme → Prop} {l m : List Lexeme} {a : Lexeme}
    (h : Apart sort (l ++ a :: m)) : Apart sort m :=
  List.IsChain.tail (List.IsChain.right_of_append h)

/-- A sign that is written between an operand and what follows was there before. -/
theorem written_eq_append_cons {l p q : List Lexeme} {sign : Lexeme} (hsign : ¬ IsNumber sign)
    (hname : sign ≠ .name) (h : written l = p ++ sign :: q)
    (hp : ∃ a, p.getLast? = some a ∧ EndsOperand a) (hapart : Apart IsNegative l) :
    ∃ m n, l = m ++ sign :: n ∧ p = written m ∧ q = written n := by
  obtain ⟨a, hlast, ha⟩ := hp
  have hminus : p.getLast? ≠ some .minus := by
    rw [hlast]
    rintro ⟨⟩
    exact ha
  obtain ⟨m, n, rfl, rfl, hn⟩ := written_eq_append h hminus
  obtain ⟨c, n, rfl, ⟨hc, rfl⟩ | ⟨b, rfl, hc, rfl⟩⟩ := written_eq_cons hn.symm
  · cases hc with
    | same => exact ⟨m, n, rfl, rfl, rfl⟩
    | infinite => exact absurd rfl hname
  · -- a number with a sign would stand behind an operand
    exfalso
    obtain ⟨d, hd, hends⟩ := endsOperand_of_written hlast ha
    have hbehind := (List.isChain_append.1 hapart).2.2 d hd c (by simp) hends
    cases hc with
    | negative finite negative => exact hbehind negative
    | negativeInfinite infinite negative => exact hbehind negative

/-- An operand that begins with a number is this number. -/
theorem eq_number_of_derives {value : Number} {l : List Lexeme} {e : Expression}
    (h : Derives .signs (.number value :: l) e) : e = .number value ∧ l = [] := by
  cases h
  exact ⟨rfl, rfl⟩

/-- Two operands with an operation between them were so before they were written. -/
theorem derives_of_written_binary {rank rank' : Rank} {sign : Lexeme} {operation : BinaryOperation}
    {l p q : List Lexeme} {e' f' : Expression} (hsign : ¬ IsNumber sign) (hname : sign ≠ .name)
    (hjoin : ∀ {l m e f}, Derives rank l e → Derives rank' m f →
      Derives rank (l ++ sign :: m) (.binary operation e f))
    (hp : Derives rank p e') (hl : written l = p ++ sign :: q) (hapart : Apart IsNegative l)
    (ihp : ∀ {l}, written l = p → Apart IsNegative l →
      ∃ e, Derives rank l e ∧ ∀ v, e'.Denotes v → e.Denotes v)
    (ihq : ∀ {l}, written l = q → Apart IsNegative l →
      ∃ f, Derives rank' l f ∧ ∀ v, f'.Denotes v → f.Denotes v) :
    ∃ e, Derives rank l e ∧ ∀ v, (binary operation e' f').Denotes v → e.Denotes v := by
  obtain ⟨m, n, rfl, rfl, rfl⟩ := written_eq_append_cons hsign hname hl hp.getLast? hapart
  obtain ⟨e, he, hv⟩ := ihp rfl hapart.left
  obtain ⟨f, hf, hw⟩ := ihq rfl hapart.right
  refine ⟨_, hjoin he hf, fun v h => ?_⟩
  obtain ⟨x, y, hx, hy, hyields⟩ := (denotes_binary ..).1 h
  exact .binary (hv x hx) (hw y hy) hyields

/-- What is derived as it is written is derived with the same value, if no number with a sign stands
directly behind an operand. -/
theorem derives_of_written {rank : Rank} {l' : List Lexeme} {e' : Expression}
    (h : Derives rank l' e') {l : List Lexeme} (hl : written l = l')
    (hapart : Apart IsNegative l) :
    ∃ e, Derives rank l e ∧ ∀ v, e'.Denotes v → e.Denotes v := by
  induction h generalizing l with
  | sums h ih =>
    obtain ⟨e, he, hv⟩ := ih hl hapart
    exact ⟨e, .sums he, hv⟩
  | signs h ih =>
    obtain ⟨e, he, hv⟩ := ih hl hapart
    exact ⟨e, .signs he, hv⟩
  | shift direction h h' ih ih' =>
    exact derives_of_written_binary (by simp [IsNumber]) (by simp) (.shift direction) h hl hapart ih
      ih'
  | add h h' ih ih' =>
    exact derives_of_written_binary (by simp [IsNumber]) (by simp) .add h hl hapart ih ih'
  | sub h h' ih ih' =>
    exact derives_of_written_binary (by simp [IsNumber]) (by simp) .sub h hl hapart ih ih'
  | plus h ih =>
    obtain ⟨c, m, rfl, ⟨hc, rfl⟩ | ⟨_, ⟨⟩, _⟩⟩ := written_eq_cons hl
    cases hc
    obtain ⟨e, he, hv⟩ := ih rfl hapart.tail
    exact ⟨_, .plus he, fun v h => .plus (hv v ((denotes_plus ..).1 h))⟩
  | minus h ih =>
    obtain ⟨c, m, rfl, ⟨hc, rfl⟩ | ⟨b, _, hc, hm⟩⟩ := written_eq_cons hl
    · cases hc
      obtain ⟨e, he, hv⟩ := ih rfl hapart.tail
      refine ⟨_, .minus he, fun v h => ?_⟩
      obtain ⟨w, hw, rfl⟩ := (denotes_minus ..).1 h
      exact .minus (hv w hw)
    · -- the sign is that of a number, which is the whole operand
      subst hm
      cases hc with
      | negative finite sign sizeFinite eq =>
        obtain ⟨rfl, hwritten⟩ := eq_number_of_derives h
        obtain rfl := written_eq_nil hwritten
        refine ⟨_, .number _, fun v hv => ?_⟩
        obtain ⟨w, ⟨⟩, rfl⟩ := (denotes_minus ..).1 hv
        rw [← eq]
        exact .number finite
      | negativeInfinite =>
        obtain ⟨_, _, heq, hbegins⟩ := h.head
        cases heq
        cases hbegins
  | number value =>
    obtain ⟨c, m, rfl, ⟨hc, hm⟩ | ⟨_, ⟨⟩, _⟩⟩ := written_eq_cons hl
    obtain rfl := written_eq_nil hm.symm
    cases hc
    exact ⟨_, .number value, fun _ h => h⟩
  | parentheses h ih =>
    obtain ⟨c, m, rfl, ⟨hc, hm⟩ | ⟨_, ⟨⟩, _⟩⟩ := written_eq_cons hl
    cases hc
    obtain ⟨m, n, rfl, rfl, hn⟩ :=
      written_eq_append_cons (by simp [IsNumber]) (by simp) hm.symm h.getLast? hapart.tail
    obtain rfl := written_eq_nil hn.symm
    obtain ⟨e, he, hv⟩ := ih rfl (Apart.left (List.IsChain.tail hapart))
    exact ⟨e, .parentheses he, hv⟩

end HeaderIndex.Expression
