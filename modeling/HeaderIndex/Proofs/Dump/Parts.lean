import HeaderIndex.Proofs.Dump.Shape
import HeaderIndex.Proofs.Index.Closed
import HeaderIndex.Proofs.Json.Parts

/-!
# The parts of a dump

Apart from numbers with a point and references to entities a dump consists of plain values: texts,
integers, arrays, and objects that refer to nothing.

* `Json.Plain` — a value is neither such a number nor an object that refers to something.
* `every_type` — what holds of plain values and of the innermost type holds of all parts of a type.
* `Index.numbers` — the numbers that a dump shows.
* `every_tree` — what holds of plain values, of these numbers and of innermost types holds of all parts
  of a dump.
-/

namespace HeaderIndex

/-- The words in front of a name by which a type refers to an entity. -/
def Dump.references : List String := ["struct", "union", "by_value", "enum", "callback"]

/-- Whether a value is neither a number with a point or exponent nor an object that refers to
something. -/
def Json.Plain : Json → Prop
  | .real _ => False
  | .obj members => ∀ member ∈ members, member.1 ∉ Dump.references
  | .null | .bool _ | .int _ | .str _ | .arr _ => True

/-- A type, or what the elements of an array are in the end. -/
def CType.innermost : CType → CType
  | .array element _ => element.innermost
  | other => other

/-- The values of the constants of an index, those of its enumerations included. -/
def Index.numbers (index : Index) : List Number :=
  index.constants.map (·.value) ++ index.enumerations.flatMap fun e => e.constants.map (·.value)

namespace Dump

open Json

variable {config : Config} {index : Index} {json : Json} {P : Json → Prop}

theorem every_number {n : Number} (h : P (number n)) : Every P (number n) := by
  cases n with
  | int value => exact every_int h
  | float value => exact every_real h

section Plain

variable (hplain : ∀ part, Plain part → P part)

include hplain

theorem every_formatted {casing : List Casing} {joiner : String} {name : Name}
    (h : formatted config casing joiner name = .ok json) : Every P json := by
  obtain ⟨text, _, rfl⟩ := formatted_iff.1 h
  exact every_str (hplain _ trivial)

theorem every_description (lines : List String) : Every P (description lines) :=
  every_strings (fun _ => hplain _ trivial) fun _ => hplain _ trivial

theorem every_raw (raw : Option String) : Every P (.optional raw) :=
  every_optional (hplain _ trivial) fun _ => hplain _ trivial

theorem every_entries {α : Type} {items : List α} {write : α → Except DumpError Json}
    {entries : List Json} (h : items.mapM write = .ok entries)
    (hitem : ∀ item ∈ items, ∀ entry, write item = .ok entry → Every P entry) :
    Every P (.arr entries) := by
  refine every_arr (hplain _ trivial) fun entry hentry => ?_
  obtain ⟨item, hmem, hok⟩ := exists_of_mem_mapM h entry hentry
  exact hitem item hmem entry hok

/-- What holds of plain values holds of a plain object if it holds of all parts of its members. -/
theorem every_plain_obj {members : List (String × Json)}
    (hwords : ∀ member ∈ members, member.1 ∉ references)
    (hmembers : ∀ member ∈ members, Every P member.2) : Every P (.obj members) :=
  every_obj (hplain _ hwords) hmembers

/-! ## Types -/

theorem every_type {t : CType} (h : type config index t = .ok json)
    (hinnermost : ∀ shown, type config index t.innermost = .ok shown → P shown) : Every P json := by
  induction t generalizing json with
  | byValue id =>
    have hself := hinnermost json h
    obtain ⟨name, hname, rfl⟩ := type_byValue_iff.1 h
    refine every_obj hself ?_
    simpa using every_formatted hplain hname
  | pointer pointee depth =>
    obtain ⟨name, hname, rfl⟩ := type_pointer_iff.1 h
    refine every_plain_obj hplain (by simp [references]) ?_
    simpa using ⟨every_formatted hplain hname, every_int (hplain _ trivial)⟩
  | array element size ih =>
    obtain ⟨inner, hinner, rfl⟩ := type_array_iff.1 h
    refine every_plain_obj hplain (by simp [references]) ?_
    simpa using ⟨ih hinner hinnermost, every_int (hplain _ trivial)⟩
  | entity id =>
    have hself := hinnermost json h
    cases he : index.entity? id with
    | none => simp [type, he] at h
    | some e =>
      obtain ⟨word, _, name, hname, rfl⟩ := (type_entity_iff he).1 h
      refine every_obj hself ?_
      simpa using every_formatted hplain hname
  | primitive | string | unknown =>
    cases h
    exact every_str (hplain _ trivial)
  | foreign text => cases h

/-! ## Entries -/

theorem every_constant {c : Constant} (h : constant config c = .ok json)
    (hnumber : P (number c.value)) : Every P json := by
  obtain ⟨name, hname, rfl⟩ := constant_iff.1 h
  refine every_plain_obj hplain (by simp [references]) ?_
  simpa using ⟨every_formatted hplain hname, every_raw hplain _, every_number hnumber⟩

theorem every_enumerator {short : Name} {e : Enumerator} (h : enumerator config short e = .ok json)
    (hnumber : P (number e.value)) : Every P json := by
  obtain ⟨name, hname, rfl⟩ := enumerator_iff.1 h
  refine every_plain_obj hplain (by simp [references]) ?_
  simpa using ⟨every_formatted hplain hname, every_raw hplain _, every_number hnumber,
    every_description hplain _⟩

theorem every_enumeration {e : Enumeration} (h : enumeration config e = .ok json)
    (hnumbers : ∀ c ∈ e.constants, P (number c.value)) : Every P json := by
  obtain ⟨name, hname, constants, hconstants, rfl⟩ := enumeration_iff.1 h
  refine every_plain_obj hplain (by simp [references]) ?_
  simpa using ⟨every_formatted hplain hname, every_raw hplain _, every_description hplain _,
    every_entries hplain hconstants fun pair hpair _ hok =>
      every_enumerator hplain hok (hnumbers pair.2 (List.of_mem_zip hpair).2)⟩

theorem every_method {m : Method} (h : method config index m = .ok json) : Every P json := by
  obtain ⟨name, hname, rfl⟩ := method_iff.1 h
  refine every_plain_obj hplain (by simp [references]) ?_
  simpa using ⟨every_formatted hplain hname, every_raw hplain _⟩

theorem every_field {f : Field} (h : field config index f = .ok json)
    (hinnermost : ∀ shown, type config index f.type.innermost = .ok shown → P shown) :
    Every P json := by
  obtain ⟨name, hname, shown, hshown, rfl⟩ := field_iff.1 h
  refine every_plain_obj hplain (by simp [references]) ?_
  simpa using ⟨every_formatted hplain hname, every_type hplain hshown hinnermost,
    every_description hplain _⟩

theorem every_parameter {p : Parameter} (h : parameter config index p = .ok json)
    (hinnermost : ∀ shown, type config index p.type.innermost = .ok shown → P shown) :
    Every P json := by
  obtain ⟨name, hname, shown, hshown, rfl⟩ := parameter_iff.1 h
  refine every_plain_obj hplain (by simp [references]) ?_
  simpa using ⟨every_formatted hplain hname, every_type hplain hshown hinnermost,
    every_bool (hplain _ trivial), every_description hplain _⟩

theorem every_aggregate {a : Aggregate} (h : aggregate config index a = .ok json)
    (hinnermost : ∀ t ∈ (Entity.aggregate a).types, ∀ shown,
      type config index t.innermost = .ok shown → P shown) : Every P json := by
  obtain ⟨name, hname, fields, hfields, methods, hmethods, rfl⟩ := aggregate_iff.1 h
  refine every_plain_obj hplain (by simp [references]) ?_
  simpa using ⟨every_formatted hplain hname, every_raw hplain _, every_str (hplain _ trivial),
    every_description hplain _,
    every_entries hplain hfields fun f hf _ hok =>
      every_field hplain hok (hinnermost _ (List.mem_map_of_mem hf)),
    every_entries hplain hmethods fun _ _ _ => every_method hplain⟩

theorem every_callable {c : Callable} (h : callable config index c = .ok json)
    (hinnermost : ∀ t ∈ (Entity.callable c).types, ∀ shown,
      type config index t.innermost = .ok shown → P shown) : Every P json := by
  obtain ⟨name, hname, parameters, hparameters, result, hresult, rfl⟩ := callable_iff.1 h
  have hname : Every P name := by
    split at hname
    · exact every_formatted hplain hname
    · exact every_formatted hplain hname
  have hreturns : Every P (.obj [("type", result),
      ("description", description c.resultDescription)]) := by
    refine every_plain_obj hplain (by simp [references]) ?_
    simpa using ⟨every_type hplain hresult (hinnermost _ List.mem_cons_self),
      every_description hplain _⟩
  refine every_plain_obj hplain (by simp [references]) ?_
  simpa using ⟨hname, every_raw hplain _, every_bool (hplain _ trivial), every_description hplain _,
    every_entries hplain hparameters fun p hp _ hok =>
      every_parameter hplain hok (hinnermost _ (List.mem_cons_of_mem _ (List.mem_map_of_mem hp))),
    hreturns⟩

/-! ## The whole dump -/

/-- **What holds of plain values, of the numbers shown and of innermost types holds of all parts of a
dump.** -/
theorem every_tree (h : tree config index = .ok json)
    (hnumbers : ∀ n ∈ index.numbers, P (number n))
    (hinnermost : ∀ id e, index.entity? id = some e → ∀ t ∈ e.types, ∀ shown,
      type config index t.innermost = .ok shown → P shown) : Every P json := by
  obtain ⟨constants, hconstants, enumerations, henumerations, aggregates, haggregates, callbacks,
    hcallbacks, functions, hfunctions, rfl⟩ := tree_iff.1 h
  refine every_plain_obj hplain (by simp [references]) ?_
  have haggregates : Every P (.arr aggregates) :=
    every_entries hplain haggregates fun a ha _ hok => by
      obtain ⟨id, _, he⟩ := Index.mem_aggregates_iff.1 ha
      exact every_aggregate hplain hok (hinnermost id _ he)
  have hcallbacks : Every P (.arr callbacks) :=
    every_entries hplain hcallbacks fun c hc _ hok => by
      obtain ⟨id, _, he, _⟩ := Index.mem_callbacks_iff.1 hc
      exact every_callable hplain hok (hinnermost id _ he)
  have hfunctions : Every P (.arr functions) :=
    every_entries hplain hfunctions fun c hc _ hok => by
      obtain ⟨id, _, he, _⟩ := Index.mem_functions_iff.1 hc
      exact every_callable hplain hok (hinnermost id _ he)
  simpa using ⟨every_str (hplain _ trivial), every_raw hplain _,
    every_entries hplain hconstants fun c hc _ hok => every_constant hplain hok
      (hnumbers _ (List.mem_append_left _ (List.mem_map_of_mem hc))),
    every_entries hplain henumerations fun e he _ hok => every_enumeration hplain hok fun c hc =>
      hnumbers _ (List.mem_append_right _ (List.mem_flatMap.2 ⟨e, he, List.mem_map_of_mem hc⟩)),
    haggregates, hcallbacks, hfunctions⟩

end Plain

end Dump

end HeaderIndex
