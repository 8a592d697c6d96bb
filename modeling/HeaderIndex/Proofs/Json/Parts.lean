import HeaderIndex.Json
import Mathlib.Data.List.Basic

/-!
# The parts of a JSON value

* `Json.Inside` — a value is a part of another one, at any depth.
* `Json.Every` — something holds of all parts of a value.
* `every_str`, …, `every_arr`, `every_obj` — it does if it holds of the value itself and of all parts
  of its items or members.
-/

namespace HeaderIndex.Json

/-- The items of the array under a name. -/
def itemsAt (json : Json) (name : String) : List Json := ((json.get? name).map items).getD []

/-- Whether a value is a part of another one, at any depth. -/
inductive Inside (part : Json) : Json → Prop
  | self : Inside part part
  | item {items : List Json} {item : Json} (mem : item ∈ items) (inside : Inside part item) :
      Inside part (.arr items)
  | member {members : List (String × Json)} {member : String × Json} (mem : member ∈ members)
      (inside : Inside part member.2) : Inside part (.obj members)

/-- Whether something holds of all parts of a value. -/
def Every (P : Json → Prop) (json : Json) : Prop := ∀ part, part.Inside json → P part

variable {P : Json → Prop}

theorem Every.self {json : Json} (h : Every P json) : P json := h json .self

theorem every_null (h : P .null) : Every P .null := by
  rintro part ⟨⟩
  exact h

theorem every_bool {value : Bool} (h : P (.bool value)) : Every P (.bool value) := by
  rintro part ⟨⟩
  exact h

theorem every_int {value : Int} (h : P (.int value)) : Every P (.int value) := by
  rintro part ⟨⟩
  exact h

theorem every_real {numeral : String} (h : P (.real numeral)) : Every P (.real numeral) := by
  rintro part ⟨⟩
  exact h

theorem every_str {text : String} (h : P (.str text)) : Every P (.str text) := by
  rintro part ⟨⟩
  exact h

theorem every_arr {items : List Json} (h : P (.arr items)) (hitems : ∀ item ∈ items, Every P item) :
    Every P (.arr items) := by
  rintro part (_ | ⟨mem, inside⟩ | _)
  · exact h
  · exact hitems _ mem part inside

theorem every_obj {members : List (String × Json)} (h : P (.obj members))
    (hmembers : ∀ member ∈ members, Every P member.2) : Every P (.obj members) := by
  rintro part (_ | _ | ⟨mem, inside⟩)
  · exact h
  · exact hmembers _ mem part inside

theorem Every.item {items : List Json} {item : Json} (h : Every P (.arr items)) (mem : item ∈ items) :
    Every P item :=
  fun part inside => h part (.item mem inside)

theorem Every.member {members : List (String × Json)} {member : String × Json}
    (h : Every P (.obj members)) (mem : member ∈ members) : Every P member.2 :=
  fun part inside => h part (.member mem inside)

theorem every_strings {texts : List String} (harr : ∀ items, P (.arr items))
    (hstr : ∀ text, P (.str text)) : Every P (strings texts) := by
  refine every_arr (harr _) fun item hitem => ?_
  obtain ⟨text, _, rfl⟩ := List.mem_map.1 hitem
  exact every_str (hstr text)

theorem every_optional {text : Option String} (hnull : P .null) (hstr : ∀ text, P (.str text)) :
    Every P (optional text) := by
  cases text with
  | none => exact every_null hnull
  | some text => exact every_str (hstr text)

end HeaderIndex.Json
