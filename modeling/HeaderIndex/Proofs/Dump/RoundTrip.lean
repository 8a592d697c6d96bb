import HeaderIndex.Proofs.Dump.Parts
import HeaderIndex.Proofs.Dump.Total
import HeaderIndex.Proofs.Json.Printable
import HeaderIndex.Proofs.Json.RoundTrip
import HeaderIndex.Proofs.Number.Dumped

/-!
# The text of a dump and back

* `written_number`, `ne_real_of_plain`, `ne_real_type` — the numbers of an index are written as numbers,
  and nothing else in its dump is a number with a point.
* `written_tree` — all numbers of a dump are written as numbers.
* `exists_text_iff` — a dump has a text exactly if no integer in it has too many digits.
* `parse?_text` — and its text is read as the dump.
-/

namespace HeaderIndex.Dump

open Json

variable {config : Config} {index : Index} {json : Json}

theorem written_of_ne_real (h : ∀ numeral, json ≠ .real numeral) : json.Written := by
  cases json with
  | real numeral => exact absurd rfl (h numeral)
  | _ => trivial

theorem written_number (n : Number) : (number n).Written := by
  cases n with
  | int value => trivial
  | float value => exact isNumeral_dump value

theorem ne_real_of_plain (h : Plain json) (numeral : String) : json ≠ .real numeral := by
  rintro rfl
  cases h

/-- A type is shown as a word or as an object. -/
theorem ne_real_type {t : CType} (h : type config index t = .ok json) (numeral : String) :
    json ≠ .real numeral := by
  rintro rfl
  cases t with
  | primitive | string | unknown => cases h
  | byValue id =>
    obtain ⟨name, _, heq⟩ := type_byValue_iff.1 h
    cases heq
  | pointer pointee depth =>
    obtain ⟨name, _, heq⟩ := type_pointer_iff.1 h
    cases heq
  | array element size =>
    obtain ⟨inner, _, heq⟩ := type_array_iff.1 h
    cases heq
  | entity id =>
    cases he : index.entity? id with
    | none => simp [type, he] at h
    | some e =>
      obtain ⟨word, _, name, _, heq⟩ := (type_entity_iff he).1 h
      cases heq
  | foreign text => cases h

/-- **The numbers of a dump are written as numbers.** -/
theorem written_tree (h : tree config index = .ok json) : json.Every Written :=
  every_tree (fun _ hplain => written_of_ne_real (ne_real_of_plain hplain)) h
    (fun n _ => written_number n)
    fun _ _ _ _ _ _ hshown => written_of_ne_real (ne_real_type hshown)

theorem exists_text_iff (h : tree config index = .ok json) :
    (∃ text, Dump.text config index = .ok text) ↔ json.Every FewDigits := by
  rw [text_of_tree h, ← isPrintable_iff]
  cases json.isPrintable <;> simp

/-- **The text of a dump is read as the dump.**  Every index without empty words in its names, and with
types where types belong, has a dump under every configuration.  The dump has a text exactly if no
integer in it has too many digits, and its text is read as this dump: the same objects, their members
in the same order, the same arrays, the same texts character by character, the same integers, and every
other number as it is written. -/
theorem parse?_text (config : Config) (index : Index) :
    (index.Whole → index.Writable → ∃ dump, tree config index = .ok dump) ∧
      ∀ dump, tree config index = .ok dump →
        ((∃ text, Dump.text config index = .ok text) ↔ dump.Every FewDigits) ∧
        ∀ text, Dump.text config index = .ok text → Json.parse? text = some dump := by
  refine ⟨exists_tree config, fun dump hdump => ⟨exists_text_iff hdump, fun text htext => ?_⟩⟩
  obtain ⟨json, hjson, -, rfl⟩ := text_iff.1 htext
  cases hdump.symm.trans hjson
  exact Json.parse?_render (written_tree hdump)

/-- A long integer, a float, and a description with quotes and a character beyond the basic plane. -/
theorem parse?_text_escapes :
    let config : Config :=
      ⟨Settings.minimal "shape" [.path "shape.h"], by decide, by simp [Settings.minimal]⟩
    let big : Constant := ⟨⟨["big"], some "BIG"⟩, .int (2 ^ 70)⟩
    let half : Constant := ⟨⟨["half"], some "HALF"⟩, .float 0.5⟩
    let party : Aggregate := ⟨⟨["party"], some "party"⟩, false, ["Say \"hi\" 🎈"], [], []⟩
    let index : Index := ⟨[.constant big, .constant half, .aggregate party],
      [(.ofMacro "BIG", 0), (.ofMacro "HALF", 1), (.type 0, 2)]⟩
    ((tree config index).toOption.map fun dump =>
        ((dump.itemsAt "constants").filterMap fun entry => (entry.get? "value").bind Json.int?,
        (dump.itemsAt "structs").flatMap fun entry =>
          (entry.itemsAt "description").filterMap Json.text?)) =
        some ([1180591620717411303424], ["Say \"hi\" 🎈"]) ∧
      index.Whole ∧ index.Writable ∧
      ∃ dump text, tree config index = .ok dump ∧ Dump.text config index = .ok text ∧
        Json.parse? text = some dump := by
  intro config big half party index
  have hentities : ∀ id e, index.entity? id = some e →
      e = .constant big ∨ e = .constant half ∨ e = .aggregate party := by
    intro id e he
    simpa [index] using List.mem_of_getElem? he
  have hwhole : index.Whole := by
    intro id e he
    rcases hentities id e he with rfl | rfl | rfl <;> decide
  have hwritable : index.Writable := by
    intro id e he type htype
    rcases hentities id e he with rfl | rfl | rfl <;> cases htype
  obtain ⟨dump, hdump⟩ := (parse?_text config index).1 hwhole hwritable
  obtain ⟨hexists, hparse⟩ := (parse?_text config index).2 dump hdump
  have hprintable : (tree config index).map isPrintable = .ok true := by decide +kernel
  rw [hdump] at hprintable
  obtain ⟨text, htext⟩ := hexists.2 ((isPrintable_iff dump).1 (Except.ok.inj hprintable))
  exact ⟨by decide +kernel, hwhole, hwritable, dump, text, hdump, htext, hparse text htext⟩

/-- A constant of one digit more than can be written: there is a dump of it and no text. -/
theorem overlong_not_written :
    let config : Config :=
      ⟨Settings.minimal "T" [.path "test.h"], by decide, by simp [Settings.minimal]⟩
    let long : Constant := ⟨⟨["x"], some "X"⟩, .int (Nat.pow 10 Numeral.maxDecimalDigits)⟩
    let index : Index := ⟨[.constant long], [(.ofMacro "X", 0)]⟩
    index.Whole ∧ index.Writable ∧ (∃ dump, tree config index = .ok dump) ∧
      Dump.text config index = .error .overlong ∧
      ¬ ∃ text, Dump.text config index = .ok text := by
  intro config long index
  have hentities : ∀ id e, index.entity? id = some e → e = .constant long := by
    intro id e he
    simpa [index] using List.mem_of_getElem? he
  have hwhole : index.Whole := by
    intro id e he
    rw [hentities id e he]
    decide
  have hwritable : index.Writable := by
    intro id e he type htype
    rw [hentities id e he] at htype
    cases htype
  have htext : Dump.text config index = .error .overlong := by decide +kernel
  refine ⟨hwhole, hwritable, exists_tree config hwhole hwritable, htext, ?_⟩
  rintro ⟨text, hok⟩
  cases htext.symm.trans hok

end HeaderIndex.Dump
