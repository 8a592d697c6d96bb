import HeaderIndex.Resolve
import Mathlib.Data.Fintype.Card
import Mathlib.Data.Nat.Find

/-!
# Chains of pointers

The name of a pointer is looked for down a chain of pointers, as far as there are rows in the table
of types.

* `down` — the type reached by going down a number of pointers.
* `GoesOn` — whether the chain goes on at a type: at a pointer without a declared name.
* `nameBehind_of_ends` — the name at the end of a chain, if there are levels enough to get there.
* `exists_end_le` — a walk that ends at all does so within the rows of the table, since one that meets
  a row twice never ends; so does a chain of pointers (`exists_end_le_size`).
* `nameBehind_eq_of_lt` — so more levels than rows make no difference.
-/

namespace HeaderIndex.Resolver

variable {r : Resolver} {type : TypeRef} {depth levels : Nat}

/-- The type reached by going down a number of pointers. -/
def down (r : Resolver) : Nat → TypeRef → TypeRef
  | 0, type => type
  | n + 1, type => r.down n (r.unit.type type).pointee

theorem down_eq_iterate (r : Resolver) (n : Nat) (type : TypeRef) :
    r.down n type = (fun type => (r.unit.type type).pointee)^[n] type := by
  induction n generalizing type with
  | zero => rfl
  | succ n ih => exact ih _

/-- The name that a type is declared under. -/
def declaredName (r : Resolver) (type : TypeRef) : Name :=
  (r.unit.cursorAt (r.unit.type type).declaration).name r.prefixes

/-- Whether a chain goes on at a type: at a pointer without a declared name. -/
def GoesOn (r : Resolver) (type : TypeRef) : Prop :=
  (r.declaredName type).isEmpty = true ∧ (r.unit.type type).kind = .pointer

instance (r : Resolver) (type : TypeRef) : Decidable (r.GoesOn type) :=
  inferInstanceAs (Decidable (_ ∧ _))

/-- The name at the end of a chain: the declared one, or else the word for the category of the type,
which an unexposed type does not have. -/
def lastName (r : Resolver) (type : TypeRef) : Name :=
  if (r.declaredName type).isEmpty = false ∨ (r.unit.type type).kind = .unexposed then
    r.declaredName type
  else Name.split [] (r.unit.type type).kind.spelling

theorem nameBehind_succ (r : Resolver) (levels : Nat) (type : TypeRef) (depth : Nat) :
    r.nameBehind (levels + 1) type depth =
      if r.GoesOn type then r.nameBehind levels (r.unit.type type).pointee (depth + 1)
      else some (r.lastName type, depth) := by
  have hname : (r.unit.cursorAt (r.unit.type type).declaration).name r.prefixes =
      r.declaredName type := rfl
  conv_lhs => unfold nameBehind
  dsimp only
  rw [hname]
  unfold GoesOn lastName
  by_cases hempty : (r.declaredName type).isEmpty = true
  · by_cases hpointer : (r.unit.type type).kind = .pointer
    · simp [hempty, hpointer]
    · by_cases hunexposed : (r.unit.type type).kind = .unexposed
      · simp [hunexposed]
      · simp [hempty, hpointer, hunexposed]
  · simp [hempty]

/-- The name at the end of a chain, if there are levels enough to get there. -/
theorem nameBehind_of_ends {n : Nat} (hon : ∀ m < n, r.GoesOn (r.down m type))
    (hend : ¬r.GoesOn (r.down n type)) (hlevels : n < levels) :
    r.nameBehind levels type depth = some (r.lastName (r.down n type), depth + n) := by
  induction n generalizing type depth levels with
  | zero =>
    obtain ⟨levels, rfl⟩ := Nat.exists_eq_add_of_lt hlevels
    have hstop : ¬r.GoesOn type := hend
    rw [nameBehind_succ, if_neg hstop]
    rfl
  | succ n ih =>
    obtain ⟨levels, rfl⟩ : ∃ k, levels = k + 1 := ⟨levels - 1, by omega⟩
    have hfirst : r.GoesOn type := hon 0 (Nat.succ_pos n)
    rw [nameBehind_succ, if_pos hfirst,
      ih (fun m hm => hon (m + 1) (Nat.succ_lt_succ hm)) hend (Nat.lt_of_succ_lt_succ hlevels),
      down, Nat.add_right_comm, Nat.add_assoc]

/-- A chain without an end has no name. -/
theorem nameBehind_of_endless (h : ∀ n, r.GoesOn (r.down n type)) (levels depth : Nat) :
    r.nameBehind levels type depth = none := by
  induction levels generalizing type depth with
  | zero => rfl
  | succ levels ih =>
    have hfirst : r.GoesOn type := h 0
    rw [nameBehind_succ, if_pos hfirst]
    exact ih (fun n => h (n + 1)) _

/-- A chain goes on only at rows of the table. -/
theorem GoesOn.exists_row (h : r.GoesOn type) : ∃ row < r.unit.types.size, type = some row := by
  cases type with
  | none => cases h.2
  | some row =>
    refine ⟨row, Nat.lt_of_not_le fun hsize => ?_, rfl⟩
    have hkind := h.2
    rw [ParsedUnit.type_of_size_le hsize] at hkind
    cases hkind

/-- **A walk that ends does so within the rows of the table**, if it goes on only at rows. -/
theorem exists_end_le {next : TypeRef → TypeRef} {goesOn : TypeRef → Prop} {size : Nat}
    (hrows : ∀ type, goesOn type → ∃ row < size, type = some row)
    (h : ∃ n, ¬goesOn (next^[n] type)) :
    ∃ n ≤ size, ¬goesOn (next^[n] type) ∧ ∀ m < n, goesOn (next^[m] type) := by
  classical
  have hbefore : ∀ m < Nat.find h, goesOn (next^[m] type) :=
    fun m hm => not_not.1 (Nat.find_min h hm)
  refine ⟨Nat.find h, ?_, Nat.find_spec h, hbefore⟩
  -- a row met twice would lead to the end earlier than to the end
  have hapart : ∀ a b, a < b → b < Nat.find h → next^[a] type ≠ next^[b] type := by
    intro a b hab hb heq
    have hsame : next^[a + (Nat.find h - b)] type = next^[Nat.find h] type := by
      rw [Nat.add_comm, Function.iterate_add_apply, heq, ← Function.iterate_add_apply,
        Nat.sub_add_cancel hb.le]
    have hon := hbefore (a + (Nat.find h - b)) (by omega)
    rw [hsame] at hon
    exact Nat.find_spec h hon
  choose row hrow hnext using fun m : Fin (Nat.find h) => hrows _ (hbefore m m.isLt)
  have hinjective : Function.Injective fun m => (⟨row m, hrow m⟩ : Fin size) := by
    intro a b hab
    have heq : next^[a] type = next^[b] type := by
      rw [hnext a, hnext b, Fin.mk.inj hab]
    rcases Nat.lt_trichotomy a b with hlt | hsame | hlt
    · exact absurd heq (hapart a b hlt b.isLt)
    · exact Fin.ext hsame
    · exact absurd heq.symm (hapart b a hlt a.isLt)
  simpa using Fintype.card_le_of_injective _ hinjective

/-- **A chain that ends does so within the rows of the table.** -/
theorem exists_end_le_size (h : ∃ n, ¬r.GoesOn (r.down n type)) :
    ∃ n ≤ r.unit.types.size, ¬r.GoesOn (r.down n type) ∧ ∀ m < n, r.GoesOn (r.down m type) := by
  simp only [down_eq_iterate] at h ⊢
  exact exists_end_le (fun _ hon => hon.exists_row) h

/-- **More levels than rows make no difference.** -/
theorem nameBehind_eq_of_lt {levels' : Nat} (h : r.unit.types.size < levels)
    (h' : r.unit.types.size < levels') (type : TypeRef) (depth : Nat) :
    r.nameBehind levels type depth = r.nameBehind levels' type depth := by
  by_cases hends : ∃ n, ¬r.GoesOn (r.down n type)
  · obtain ⟨n, hn, hend, hon⟩ := exists_end_le_size hends
    rw [nameBehind_of_ends hon hend (by omega), nameBehind_of_ends hon hend (by omega)]
  · have hendless : ∀ n, r.GoesOn (r.down n type) := by simpa using hends
    rw [nameBehind_of_endless hendless, nameBehind_of_endless hendless]

end HeaderIndex.Resolver
