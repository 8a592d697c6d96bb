import HeaderIndex.Proofs.Dump.RoundTrip
import HeaderIndex.Proofs.Expression.Grammar
import HeaderIndex.Proofs.Json.Accepted
import HeaderIndex.Proofs.Name.Shorten
import HeaderIndex.Proofs.Number.Sign
import HeaderIndex.Reader.Run

/-!
# Dumps in standard JSON

A constant may have a value that is not finite, since the sum of two floats may be out of range.  The
dump shows it by a word that standard JSON does not have.

* `wordless_number_iff` — the numbers that are shown without such a word are the finite ones.
* `inside_number` — every number of an index is a part of its dump.
* `isStandard_text_iff` — a dump is standard exactly if all of them are finite.
* `text_standard` — every index with whole names has a dump, which is standard exactly then.
-/

namespace HeaderIndex

instance : DecidablePred Number.IsFinite
  | .int _ => .isTrue trivial
  | .float value => inferInstanceAs (Decidable (value.isFinite = true))

namespace Dump

open Json

variable {config : Config} {index : Index} {dump json : Json}

/-! ## Numbers and other values -/

/-- The text of a float is one of the words exactly if the float is not finite. -/
theorem text_mem_words_iff (value : Float) :
    FloatStyle.dump.text value ∈ words ↔ value.isFinite = false := by
  rw [← Bool.not_eq_true, isFinite_iff]
  unfold FloatStyle.text
  cases hnan : value.isNaN with
  | true => simp [FloatStyle.dump, words]
  | false =>
    simp only [Bool.false_eq_true, if_false]
    cases hinf : value.isInf with
    | true => cases isNegativeFloat value <;> simp [FloatStyle.dump, words]
    | false =>
      obtain ⟨whole, fraction, exponent, hwhole, -, -, -, htext⟩ := magnitude_text value
      rw [List.append_assoc] at htext
      have hnot := not_mem_words (isNegativeFloat value) hwhole.toDigits (fraction ++ exponent)
      simpa [htext] using hnot

theorem wordless_number_iff (n : Number) : (number n).Wordless ↔ n.IsFinite := by
  cases n with
  | int value => exact Iff.rfl
  | float value =>
    show FloatStyle.dump.text value ∉ words ↔ value.isFinite = true
    rw [text_mem_words_iff, Bool.not_eq_false]

theorem strict_of_ne_real (h : ∀ numeral, json ≠ .real numeral) : json.Strict := by
  refine ⟨written_of_ne_real h, ?_⟩
  cases json with
  | real numeral => exact absurd rfl (h numeral)
  | _ => trivial

/-! ## The numbers in a dump -/

/-- Every constant of an enumeration is shown under a short name. -/
theorem exists_shortName {e : Enumeration} {c : Enumerator} (h : c ∈ e.constants) :
    ∃ short, (short, c) ∈ e.shortNames.zip e.constants := by
  have hlength : e.constants.length ≤ e.shortNames.length := by
    rw [Enumeration.shortNames, Name.length_shorten, List.length_map]
  rw [← List.map_snd_zip hlength] at h
  obtain ⟨⟨short, c⟩, hpair, rfl⟩ := List.mem_map.1 h
  exact ⟨short, hpair⟩

/-- Every number of an index is a part of its dump. -/
theorem inside_number (h : tree config index = .ok dump) {n : Number} (hn : n ∈ index.numbers) :
    (number n).Inside dump := by
  obtain ⟨constants, hconstants, enumerations, henumerations, _, _, _, _, _, _, rfl⟩ := tree_iff.1 h
  rcases List.mem_append.1 hn with hn | hn
  · obtain ⟨c, hc, rfl⟩ := List.mem_map.1 hn
    obtain ⟨entry, hentry, hshown⟩ := exists_mem_mapM hconstants c hc
    obtain ⟨name, -, rfl⟩ := constant_iff.1 hshown
    have hvalue : (number c.value).Inside (.obj [("name", name), ("raw", .optional c.name.raw),
        ("value", number c.value)]) := .member (List.mem_of_getElem? (i := 2) rfl) .self
    exact .member (List.mem_of_getElem? (i := 2) rfl) (.item hentry hvalue)
  · obtain ⟨e, he, hn⟩ := List.mem_flatMap.1 hn
    obtain ⟨c, hc, rfl⟩ := List.mem_map.1 hn
    obtain ⟨entry, hentry, hshown⟩ := exists_mem_mapM henumerations e he
    obtain ⟨name, -, shown, hinners, rfl⟩ := enumeration_iff.1 hshown
    obtain ⟨short, hpair⟩ := exists_shortName hc
    obtain ⟨inner, hinner, hok⟩ := exists_mem_mapM hinners (short, c) hpair
    obtain ⟨shortName, -, rfl⟩ := enumerator_iff.1 hok
    have hvalue : (number c.value).Inside (.obj [("name", shortName),
        ("raw", .optional c.name.raw), ("value", number c.value),
        ("description", description c.description)]) :=
      .member (List.mem_of_getElem? (i := 2) rfl) .self
    exact .member (List.mem_of_getElem? (i := 3) rfl) (.item hentry
      (.member (List.mem_of_getElem? (i := 3) rfl) (.item hinner hvalue)))

/-- A dump has no words for numbers exactly if all numbers of the index are finite. -/
theorem strict_tree_iff (h : tree config index = .ok dump) :
    dump.Every Strict ↔ ∀ n ∈ index.numbers, n.IsFinite := by
  constructor
  · intro hstrict n hn
    exact (wordless_number_iff n).1 (hstrict _ (inside_number h hn)).2
  · intro hfinite
    exact every_tree (fun _ hplain => strict_of_ne_real (ne_real_of_plain hplain)) h
      (fun n hn => ⟨written_number n, (wordless_number_iff n).2 (hfinite n hn)⟩)
      fun _ _ _ _ _ _ hshown => strict_of_ne_real (ne_real_type hshown)

/-! ## Texts -/

/-- **A dump is standard exactly if the numbers that it shows are finite.** -/
theorem isStandard_text_iff {text : String} (h : Dump.text config index = .ok text) :
    IsStandard text ↔ ∀ n ∈ index.numbers, n.IsFinite := by
  obtain ⟨dump, hdump, -, rfl⟩ := text_iff.1 h
  constructor
  · intro hstandard
    -- what is read in a standard text has no words, and it is the dump
    obtain ⟨json, hwordless, hread⟩ := exists_parse?_of_isStandard hstandard
    cases hread.symm.trans (parse?_render (written_tree hdump))
    exact (strict_tree_iff hdump).1 fun part hpart =>
      ⟨written_tree hdump part hpart, hwordless part hpart⟩
  · exact fun hfinite => isStandard_render ((strict_tree_iff hdump).2 hfinite)

/-- **Dumps are standard JSON as long as all values are finite.**  Every index without empty words in
its names, and with types where types belong, has a dump under every configuration, whose text is
written unless a number has too many digits.  Whatever integers, finite floats, names and descriptions
are in it, the text is in the grammar of standard JSON; if the value of a constant is not finite, and
only then, it is not. -/
theorem text_standard (config : Config) (index : Index) :
    (index.Whole → index.Writable → ∃ dump, tree config index = .ok dump ∧
      Dump.text config index =
        if dump.isPrintable then .ok (dump.render ++ "\n") else .error .overlong) ∧
      ∀ text, Dump.text config index = .ok text →
        (IsStandard text ↔ ∀ n ∈ index.numbers, n.IsFinite) := by
  refine ⟨fun hwhole hwritable => ?_, fun text => isStandard_text_iff⟩
  obtain ⟨dump, hdump⟩ := exists_tree config hwhole hwritable
  exact ⟨dump, hdump, text_of_tree hdump⟩

/-- A long integer, a float, and a description with quotes and a character beyond the basic plane make
a standard text. -/
theorem text_standard_escapes :
    let config : Config :=
      ⟨Settings.minimal "shape" [.path "shape.h"], by decide, by simp [Settings.minimal]⟩
    let big : Constant := ⟨⟨["big"], some "BIG"⟩, .int (2 ^ 70)⟩
    let half : Enumerator := ⟨⟨["half"], some "HALF"⟩, .float 0.5, ["Say \"hi\" 🎈"]⟩
    let party : Enumeration := ⟨⟨["party"], some "party"⟩, [half], []⟩
    let index : Index := ⟨[.constant big, .enumeration party], [(.ofMacro "BIG", 0), (.type 0, 1)]⟩
    index.numbers = [.int 1180591620717411303424, .float 0.5] ∧
      index.Whole ∧ index.Writable ∧
      ∃ text, Dump.text config index = .ok text ∧ IsStandard text := by
  intro config big half party index
  have hentities : ∀ id e, index.entity? id = some e →
      e = .constant big ∨ e = .enumeration party := by
    intro id e he
    simpa [index] using List.mem_of_getElem? he
  have hwhole : index.Whole := by
    intro id e he
    rcases hentities id e he with rfl | rfl <;> decide
  have hwritable : index.Writable := by
    intro id e he type htype
    rcases hentities id e he with rfl | rfl <;> cases htype
  obtain ⟨dump, hdump, htext⟩ := (text_standard config index).1 hwhole hwritable
  have hprintable : (tree config index).map isPrintable = .ok true := by decide +kernel
  rw [hdump] at hprintable
  rw [if_pos (Except.ok.inj hprintable)] at htext
  have hfinite : ∀ n ∈ index.numbers, n.IsFinite := by decide +kernel
  exact ⟨by decide +kernel, hwhole, hwritable, _, htext,
    ((text_standard config index).2 _ htext).2 hfinite⟩

/-- A macro whose value is the sum of two large floats: `#define X 1e308 + 1e308`. -/
def overflowing : ParsedUnit where
  files := #["test.h"]
  tokens := #[]
  cursors := #[
    { Cursor.missing with
      kind := .macroDefinition, spelling := "X", location := ⟨some 0, 8, 1⟩
      tokens := some [⟨.identifier, "X", 8, 9, 1⟩, ⟨.literal, "1e308", 10, 15, 1⟩,
        ⟨.punctuation, "+", 16, 17, 1⟩, ⟨.literal, "1e308", 18, 23, 1⟩] }]
  types := #[]
  top := [0]
  includes := []
  diagnostics := []

/-- The sum is infinite, and the index that is read has a text that is not standard. -/
theorem text_overflowing_not_standard :
    let config : Config :=
      ⟨Settings.minimal "Test" [.path "test.h"], by decide, by simp [Settings.minimal]⟩
    ∃ index, (Reader.read config overflowing ["test.h"]).result = .ok index ∧
      index.Whole ∧ index.Writable ∧
      ∃ text, Dump.text config index = .ok text ∧ ¬ IsStandard text := by
  intro config
  let index : Index := ⟨[.constant ⟨⟨["x"], some "X"⟩, .float (1e308 + 1e308)⟩], [(.ofMacro "X", 0)]⟩
  have hread : (Reader.read config overflowing ["test.h"]).result = .ok index := by
    decide +kernel
  have hentities : ∀ id e, index.entity? id = some e →
      e = .constant ⟨⟨["x"], some "X"⟩, .float (1e308 + 1e308)⟩ := by
    intro id e he
    simpa [index] using List.mem_of_getElem? he
  have hwhole : index.Whole := by
    intro id e he
    rw [hentities id e he]
    decide
  have hwritable : index.Writable := by
    intro id e he type htype
    rw [hentities id e he] at htype
    cases htype
  obtain ⟨dump, hdump⟩ := exists_tree config hwhole hwritable
  have hprintable : (tree config index).map isPrintable = .ok true := by decide +kernel
  rw [hdump] at hprintable
  have htext := text_of_tree hdump
  rw [if_pos (Except.ok.inj hprintable)] at htext
  have hinfinite : ¬ ∀ n ∈ index.numbers, n.IsFinite := by decide +kernel
  exact ⟨index, hread, hwhole, hwritable, _, htext, fun h => hinfinite ((isStandard_text_iff htext).1 h)⟩

end Dump

end HeaderIndex
