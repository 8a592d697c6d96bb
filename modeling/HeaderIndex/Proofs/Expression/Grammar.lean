import HeaderIndex.Expression.Parser
import Mathlib.Data.List.Chain
import Mathlib.Tactic

/-!
# The grammar of constant expressions

* `Derives` — the lists of lexemes that the grammar derives, each with its derivation tree.
* `Denotes` — the value of a tree, if evaluating it meets no error.
* `Derives.apart` — a derived list has no number directly behind an operand.
* `value_eq_ok_iff` — evaluation finds the value that a tree denotes.
-/

namespace HeaderIndex

/-- A number that is not infinite. -/
def Number.IsFinite : Number → Prop
  | .int _ => True
  | .float f => f.isFinite = true

namespace Expression

/-! ## Derivations -/

/-- The ranks of operations, from the one that binds least on. -/
inductive Rank where
  | shifts
  | sums
  | signs

/-- The grammar: `shifts := shifts (<<|>>) sums | sums`, `sums := sums (+|-) signs | signs`,
`signs := (+|-) signs | number | ( shifts )`. -/
inductive Derives : Rank → List Lexeme → Expression → Prop
  | sums {l e} (h : Derives .sums l e) : Derives .shifts l e
  | shift {l m e f} (direction : Shift) (hl : Derives .shifts l e) (hm : Derives .sums m f) :
    Derives .shifts (l ++ .shift direction :: m) (.binary (.shift direction) e f)
  | signs {l e} (h : Derives .signs l e) : Derives .sums l e
  | add {l m e f} (hl : Derives .sums l e) (hm : Derives .signs m f) :
    Derives .sums (l ++ .plus :: m) (.binary .add e f)
  | sub {l m e f} (hl : Derives .sums l e) (hm : Derives .signs m f) :
    Derives .sums (l ++ .minus :: m) (.binary .sub e f)
  | plus {l e} (h : Derives .signs l e) : Derives .signs (.plus :: l) (.plus e)
  | minus {l e} (h : Derives .signs l e) : Derives .signs (.minus :: l) (.minus e)
  | number (value : Number) : Derives .signs [.number value] (.number value)
  | parentheses {l e} (h : Derives .shifts l e) :
    Derives .signs (.openParenthesis :: (l ++ [.closeParenthesis])) e

/-! ## Values -/

/-- A number as a float, if there is a finite one. -/
def AsFloat : Number → Float → Prop
  | .int value, f => f = .ofInt value ∧ f.isInf = false
  | .float value, f => f = value

/-- What combining two numbers gives: integers stay integers, and with a float both are floats. -/
def Combines (onInts : Int → Int → Int) (onFloats : Float → Float → Float) :
    Number → Number → Number → Prop
  | .int a, .int b, result => result = .int (onInts a b)
  | x, y, result => ∃ a b, AsFloat x a ∧ AsFloat y b ∧ result = .float (onFloats a b)

/-- What an operation makes of two numbers.  Shifts are of integers by 0 to 64 places, and one to
the right rounds down. -/
def Yields : BinaryOperation → Number → Number → Number → Prop
  | .add, x, y, result => Combines (· + ·) (· + ·) x y result
  | .sub, x, y, result => Combines (· - ·) (· - ·) x y result
  | .shift .left, .int a, .int n, result => 0 ≤ n ∧ n ≤ 64 ∧ result = .int (a * 2 ^ n.toNat)
  | .shift .right, .int a, .int n, result =>
    0 ≤ n ∧ n ≤ 64 ∧ result = .int (a.fdiv (2 ^ n.toNat))
  | .shift _, _, _, _ => False

/-- The value of a tree. -/
inductive Denotes : Expression → Number → Prop
  | number {value : Number} (finite : value.IsFinite) : Denotes (.number value) value
  | plus {e v} (h : Denotes e v) : Denotes (.plus e) v
  | minus {e v} (h : Denotes e v) : Denotes (.minus e) v.neg
  | binary {operation e f v w result} (he : Denotes e v) (hf : Denotes f w)
    (yields : Yields operation v w result) : Denotes (.binary operation e f) result

/-! ## Evaluation finds the value -/

theorem ofIntAsFloat_eq_ok_iff (value : Int) (f : Float) :
    Number.ofIntAsFloat value = .ok f ↔ AsFloat (.int value) f := by
  unfold AsFloat Number.ofIntAsFloat
  dsimp only
  constructor
  · intro h
    split at h
    · cases h
    · rename_i hf
      cases h
      exact ⟨rfl, by simpa using hf⟩
  · rintro ⟨rfl, hf⟩
    simp [hf]

theorem shift_eq_ok_iff (direction : Shift) (x y result : Number) :
    Number.shift direction x y = .ok result ↔ Yields (.shift direction) x y result := by
  unfold Number.shift
  cases y with
  | float n => cases direction <;> simp [Yields]
  | int n =>
    dsimp only
    split
    · rename_i hn
      have hwide : ¬ n ≤ 64 := by simpa [Number.maxShift] using hn
      cases direction <;> cases x <;> simp [Yields, hwide]
    · rename_i hn
      have hwide : n ≤ 64 := by simpa [Number.maxShift] using hn
      cases x with
      | float a => cases direction <;> simp [Yields]
      | int a =>
        dsimp only
        split
        · rename_i hneg
          cases direction <;> simp [Yields, hneg]
        · rename_i hneg
          have hpos : 0 ≤ n := by omega
          cases direction with
          | left =>
            simp [Yields, hwide, hpos, Int.shiftLeft_eq, eq_comm]
          | right =>
            have hfloor : a >>> n.toNat = a.fdiv (2 ^ n.toNat) := by
              rw [Int.shiftRight_eq_div_pow, Int.fdiv_eq_ediv_of_nonneg _ (by positivity)]
              norm_cast
            simp [Yields, hwide, hpos, hfloor, eq_comm]

theorem combine_eq_ok_iff (onInts : Int → Int → Int) (onFloats : Float → Float → Float)
    (x y result : Number) :
    Number.combine onInts onFloats x y = .ok result ↔ Combines onInts onFloats x y result := by
  have hbind : ∀ (a : Int) (g : Float → Number),
      (Number.ofIntAsFloat a >>= fun f => pure (g f)) = .ok result ↔
        ∃ f, AsFloat (.int a) f ∧ result = g f := by
    intro a g
    simp only [← ofIntAsFloat_eq_ok_iff]
    cases Number.ofIntAsFloat a with
    | error error => simp [bind, Except.bind]
    | ok f => simp [bind, Except.bind, pure, Except.pure, eq_comm]
  cases x with
  | int a =>
    cases y with
    | int b => simp [Number.combine, Combines, eq_comm]
    | float b =>
      unfold Number.combine Combines
      rw [hbind a fun f => .float (onFloats f b)]
      simp [AsFloat]
  | float a =>
    cases y with
    | int b =>
      unfold Number.combine Combines
      rw [hbind b fun f => .float (onFloats a f)]
      simp [AsFloat]
    | float b => simp [Number.combine, Combines, AsFloat, eq_comm]

/-- An operation gives the result that it should. -/
theorem apply_eq_ok_iff (operation : BinaryOperation) (x y result : Number) :
    apply operation x y = .ok result ↔ Yields operation x y result := by
  cases operation with
  | add => exact combine_eq_ok_iff ..
  | sub => exact combine_eq_ok_iff ..
  | shift direction => exact shift_eq_ok_iff ..

theorem value_binary (operation : BinaryOperation) (e f : Expression) (result : Number) :
    (binary operation e f).value = .ok result ↔
      ∃ v w, e.value = .ok v ∧ f.value = .ok w ∧ Yields operation v w result := by
  simp only [value, ← apply_eq_ok_iff]
  cases e.value with
  | error error => simp [bind, Except.bind]
  | ok v =>
    cases f.value with
    | error error => simp [bind, Except.bind]
    | ok w =>
      cases h : apply operation v w <;> simp [bind, Except.bind, pure, Except.pure, h, throw,
        throwThe, MonadExceptOf.throw]

theorem value_minus (e : Expression) (result : Number) :
    (minus e).value = .ok result ↔ ∃ v, e.value = .ok v ∧ result = v.neg := by
  simp only [value]
  cases e.value <;> simp [bind, Except.bind, pure, Except.pure, eq_comm]

theorem denotes_binary (operation : BinaryOperation) (e f : Expression) (result : Number) :
    (binary operation e f).Denotes result ↔
      ∃ v w, e.Denotes v ∧ f.Denotes w ∧ Yields operation v w result := by
  constructor
  · rintro ⟨⟩
    exact ⟨_, _, ‹_›, ‹_›, ‹_›⟩
  · rintro ⟨v, w, he, hf, hy⟩
    exact .binary he hf hy

theorem denotes_minus (e : Expression) (result : Number) :
    (minus e).Denotes result ↔ ∃ v, e.Denotes v ∧ result = v.neg := by
  constructor
  · rintro ⟨⟩
    exact ⟨_, ‹_›, rfl⟩
  · rintro ⟨v, he, rfl⟩
    exact .minus he

theorem denotes_plus (e : Expression) (result : Number) :
    (plus e).Denotes result ↔ e.Denotes result :=
  ⟨fun h => by cases h; assumption, .plus⟩

/-- **Evaluation gives the value that a tree denotes**, where its numbers are not infinite. -/
theorem value_eq_ok_iff {rank : Rank} {l : List Lexeme} {e : Expression} (h : Derives rank l e)
    (hl : ∀ value, .number value ∈ l → value.IsFinite) (v : Number) :
    e.value = .ok v ↔ e.Denotes v := by
  induction h generalizing v with
  | sums h ih => exact ih hl v
  | signs h ih => exact ih hl v
  | shift direction h h' ih ih' | add h h' ih ih' | sub h h' ih ih' =>
    have hleft := ih fun value hv => hl value (by simp [hv])
    have hright := ih' fun value hv => hl value (by simp [hv])
    simp only [value_binary, denotes_binary, hleft, hright]
  | plus h ih =>
    rw [denotes_plus, ← ih fun value hv => hl value (by simp [hv])]
    rfl
  | minus h ih =>
    have hoperand := ih fun value hv => hl value (by simp [hv])
    simp only [value_minus, denotes_minus, hoperand]
  | number value =>
    constructor
    · intro hv
      cases hv
      exact .number (hl value (by simp))
    · rintro ⟨⟩
      rfl
  | parentheses h ih => exact ih (fun value hv => hl value (by simp [hv])) v

/-! ## The ends of derived lists -/

/-- Whether an expression can begin with a lexeme. -/
def Begins : Lexeme → Prop
  | .number _ | .plus | .minus | .openParenthesis => True
  | .name | .shift _ | .closeParenthesis => False

/-- Whether an operand can end with a lexeme. -/
def EndsOperand : Lexeme → Prop
  | .number _ | .closeParenthesis => True
  | .name | .plus | .minus | .shift _ | .openParenthesis => False

/-- Whether a lexeme is a number. -/
def IsNumber : Lexeme → Prop
  | .number _ => True
  | _ => False

/-- Whether no lexeme of a sort stands directly behind an operand. -/
def Apart (sort : Lexeme → Prop) (l : List Lexeme) : Prop :=
  l.IsChain fun a b => EndsOperand a → ¬ sort b

variable {rank : Rank} {l : List Lexeme} {e : Expression}

theorem Derives.head (h : Derives rank l e) : ∃ a rest, l = a :: rest ∧ Begins a := by
  induction h with
  | sums h ih | signs h ih => exact ih
  | shift direction h h' ih ih' | add h h' ih ih' | sub h h' ih ih' =>
    obtain ⟨a, rest, rfl, ha⟩ := ih
    exact ⟨a, _, List.cons_append .., ha⟩
  | plus | minus | number | parentheses => exact ⟨_, _, rfl, trivial⟩

theorem Derives.getLast? (h : Derives rank l e) : ∃ a, l.getLast? = some a ∧ EndsOperand a := by
  induction h with
  | sums h ih | signs h ih => exact ih
  | shift direction h h' ih ih' | add h h' ih ih' | sub h h' ih ih' =>
    obtain ⟨a, hl, ha⟩ := ih'
    exact ⟨a, by simp [List.getLast?_cons, hl], ha⟩
  | plus h ih | minus h ih =>
    obtain ⟨a, hl, ha⟩ := ih
    exact ⟨a, by simp [List.getLast?_cons, hl], ha⟩
  | number value => exact ⟨_, rfl, trivial⟩
  | parentheses => exact ⟨.closeParenthesis, by simp [List.getLast?_cons], trivial⟩

theorem apart_cons {sort : Lexeme → Prop} {a : Lexeme} (ha : ¬ EndsOperand a) (h : Apart sort l) :
    Apart sort (a :: l) :=
  List.isChain_cons.2 ⟨fun _ _ ha' => absurd ha' ha, h⟩

theorem apart_append {sort : Lexeme → Prop} {a : Lexeme} {m : List Lexeme} (hl : Apart sort l)
    (hm : Apart sort (a :: m)) (ha : ¬ sort a) : Apart sort (l ++ a :: m) := by
  refine List.isChain_append.2 ⟨hl, hm, fun b _ c hc _ => ?_⟩
  obtain rfl := Option.some.inj hc
  exact ha

/-- **No number stands directly behind an operand** in a derived list. -/
theorem Derives.apart (h : Derives rank l e) : Apart IsNumber l := by
  induction h with
  | sums h ih | signs h ih => exact ih
  | shift direction h h' ih ih' | add h h' ih ih' | sub h h' ih ih' =>
    exact apart_append ih (apart_cons (by simp [EndsOperand]) ih') (by simp [IsNumber])
  | plus h ih | minus h ih => exact apart_cons (by simp [EndsOperand]) ih
  | number value => exact List.isChain_singleton _
  | parentheses h ih =>
    refine apart_cons (by simp [EndsOperand]) (apart_append ih ?_ (by simp [IsNumber]))
    exact List.isChain_singleton _

end Expression

end HeaderIndex
