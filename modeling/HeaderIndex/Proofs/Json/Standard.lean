import HeaderIndex.Proofs.Json.RoundTrip

/-!
# Standard JSON

The grammar of standard JSON, on the characters of a text.  It has no words for numbers that are not
finite.

* `Characters` — what may stand between the quotes of a string.
* `Phrase`, `Derives` — values, and what lists of items and members consist of.
* `IsStandard` — a text is one value with white space around it.
* `Wordless`, `Strict` — the values that are no words for numbers that are not finite, and those that
  are written in standard JSON.
* `derives_pretty`, `isStandard_render` — the text of a value is standard if all its numbers are.
-/

namespace HeaderIndex.Json

/-! ## The grammar -/

/-- White space. -/
def Gap (gap : List Char) : Prop := ∀ c ∈ gap, isGap c = true

/-- A hexadecimal digit of either case. -/
def isHexDigit (c : Char) : Bool :=
  c.isDigit || ('a' ≤ c && c ≤ 'f') || ('A' ≤ c && c ≤ 'F')

/-- What may stand between the quotes of a string: no quotes, backslashes and control characters but
in escapes. -/
inductive Characters : List Char → Prop
  | nothing : Characters []
  | plain {c : Char} {more : List Char} (printable : 0x20 ≤ c.toNat) (quote : c ≠ '"')
      (backslash : c ≠ '\\') (hmore : Characters more) : Characters (c :: more)
  | escape {c : Char} {more : List Char} (letter : c ∈ ['"', '\\', '/', 'b', 'f', 'n', 'r', 't'])
      (hmore : Characters more) : Characters ('\\' :: c :: more)
  | unit {ds more : List Char} (four : ds.length = 4) (hex : ∀ d ∈ ds, isHexDigit d = true)
      (hmore : Characters more) : Characters ('\\' :: 'u' :: (ds ++ more))

/-- The sorts of phrases. -/
inductive Phrase where
  | value
  /-- a value with white space around it -/
  | spaced
  /-- values with commas between them -/
  | items
  /-- a name, a colon and a value -/
  | member
  /-- members with commas between them -/
  | members

/-- Whether a text is a phrase of a sort. -/
inductive Derives : Phrase → List Char → Prop
  | null : Derives .value "null".toList
  | true : Derives .value "true".toList
  | false : Derives .value "false".toList
  | number {whole fraction exponent : List Char} (negative : Bool) (hwhole : WholeDigits whole)
      (hfraction : IsFraction fraction) (hexponent : StandardExponent exponent) :
      Derives .value ((if negative then '-' :: whole else whole) ++ (fraction ++ exponent))
  | string {cs : List Char} (h : Characters cs) : Derives .value ('"' :: (cs ++ ['"']))
  | emptyArray {gap : List Char} (h : Gap gap) : Derives .value ('[' :: (gap ++ [']']))
  | array {items : List Char} (h : Derives .items items) : Derives .value ('[' :: (items ++ [']']))
  | emptyObject {gap : List Char} (h : Gap gap) :
      Derives .value ('\x7b' :: (gap ++ ['\x7d']))
  | object {members : List Char} (h : Derives .members members) :
      Derives .value ('\x7b' :: (members ++ ['\x7d']))
  | spaced {before value after : List Char} (hbefore : Gap before) (h : Derives .value value)
      (hafter : Gap after) : Derives .spaced (before ++ (value ++ after))
  | item {item : List Char} (h : Derives .spaced item) : Derives .items item
  | items {item more : List Char} (h : Derives .spaced item) (hmore : Derives .items more) :
      Derives .items (item ++ ',' :: more)
  | named {before name after value : List Char} (hbefore : Gap before) (hname : Characters name)
      (hafter : Gap after) (h : Derives .spaced value) :
      Derives .member (before ++ '"' :: (name ++ '"' :: (after ++ ':' :: value)))
  | member {member : List Char} (h : Derives .member member) : Derives .members member
  | members {member more : List Char} (h : Derives .member member) (hmore : Derives .members more) :
      Derives .members (member ++ ',' :: more)

/-- Whether a text is standard JSON. -/
def IsStandard (text : String) : Prop := Derives .spaced text.toList

/-- The words for numbers that are not finite. -/
def words : List String := ["NaN", "Infinity", "-Infinity"]

/-- Whether a value is no word in the place of a number. -/
def Wordless : Json → Prop
  | .real numeral => numeral ∉ words
  | .null | .bool _ | .int _ | .str _ | .arr _ | .obj _ => True

/-- Whether a value that is a number with a point or exponent is written as standard JSON has it. -/
def Strict (json : Json) : Prop := json.Written ∧ json.Wordless

/-! ## Strings -/

theorem isHexDigit_digitChar : ∀ d < 16, isHexDigit (Nat.digitChar d) = true := by decide

theorem characters_unitEscape {more : List Char} (unit : Nat) (h : Characters more) :
    Characters (unitEscape unit ++ more) := by
  refine .unit rfl (fun d hd => ?_) h
  have hdigit : ∀ n, isHexDigit (Nat.digitChar (n % 16)) = true :=
    fun n => isHexDigit_digitChar _ (Nat.mod_lt n (by decide))
  simp only [Text.hexDigits, List.nil_append, List.cons_append, List.mem_cons, List.not_mem_nil,
    or_false] at hd
  rcases hd with rfl | rfl | rfl | rfl
  all_goals exact hdigit _

/-- A character between quotes is escaped if it may not stand there as it is. -/
theorem characters_escapeChar {more : List Char} (c : Char) (h : Characters more) :
    Characters (escapeChar c ++ more) := by
  unfold escapeChar
  split_ifs with hquote hbackslash hnewLine hreturn htab hbackspace hfeed hprintable hplane
  · exact .escape (by simp) h
  · exact .escape (by simp) h
  · exact .escape (by simp) h
  · exact .escape (by simp) h
  · exact .escape (by simp) h
  · exact .escape (by simp) h
  · exact .escape (by simp) h
  · exact .plain hprintable.1 hquote hbackslash h
  · exact characters_unitEscape _ h
  · rw [List.append_assoc]
    exact characters_unitEscape _ (characters_unitEscape _ h)

theorem characters_flatMap (cs : List Char) : Characters (cs.flatMap escapeChar) := by
  induction cs with
  | nil => exact .nothing
  | cons c cs ih => exact characters_escapeChar c ih

/-! ## What is printed -/

theorem gap_nil : Gap [] := nofun

theorem derives_int (value : Int) : Derives .value (toString value).toList := by
  have h := Derives.number (decide (value < 0)) (wholeDigits_toDigits value.natAbs) .nothing .nothing
  rw [toList_toString_int]
  simpa using h

/-- A number with a point or exponent is standard unless it is one of the words. -/
theorem derives_real {numeral : String} (h : Strict (.real numeral)) :
    Derives .value numeral.toList := by
  obtain ⟨hnumeral, hword⟩ := h
  cases hnumeral with
  | notANumber => exact absurd (by simp [words]) hword
  | infinity => exact absurd (by simp [words]) hword
  | negativeInfinity => exact absurd (by simp [words]) hword
  | decimal negative hwhole hfraction hexponent =>
    have h := Derives.number negative hwhole hfraction hexponent.standard
    cases negative <;> simpa using h

theorem derives_quote (text : String) : Derives .value (quote text) :=
  .string (characters_flatMap text.toList)

mutual

/-- **The text of a value is standard if all its numbers are.** -/
theorem derives_pretty : ∀ (json : Json) (level : Nat), json.Every Strict →
    Derives .value (pretty level json)
  | .null, _, _ => .null
  | .bool true, _, _ => .true
  | .bool false, _, _ => .false
  | .int value, _, _ => derives_int value
  | .real _, _, h => derives_real h.self
  | .str text, _, _ => derives_quote text
  | .arr [], _, _ => .emptyArray gap_nil
  | .obj [], _, _ => .emptyObject gap_nil
  | .arr (item :: more), level, h => by
    have hitem := derives_pretty item (level + 1) (h.item List.mem_cons_self)
    have hitems := derives_prettyItems more (level + 1) level hitem
      fun item hitem => h.item (List.mem_cons_of_mem _ hitem)
    simpa [pretty] using Derives.array hitems
  | .obj ((name, value) :: more), level, h => by
    have hvalue := derives_pretty value (level + 1) (h.member List.mem_cons_self)
    have hmembers := derives_prettyMembers more (level + 1) level name hvalue
      fun member hmember => h.member (List.mem_cons_of_mem _ hmember)
    simpa [pretty, prettyMember] using Derives.object hmembers

/-- An item and those after it, up to the line of the closing bracket. -/
theorem derives_prettyItems : ∀ (more : List Json) (level outer : Nat) {first : List Char},
    Derives .value first → (∀ item ∈ more, item.Every Strict) →
      Derives .items (newLine level ++ (first ++ (prettyItems level more ++ newLine outer)))
  | [], level, outer, _, hfirst, _ =>
    .item (.spaced (isGap_newLine level) hfirst (isGap_newLine outer))
  | item :: more, level, outer, first, hfirst, h => by
    have hitem := derives_pretty item level (h item List.mem_cons_self)
    have hmore := derives_prettyItems more level outer hitem
      fun item hitem => h item (List.mem_cons_of_mem _ hitem)
    simpa [prettyItems] using Derives.items (.spaced (isGap_newLine level) hfirst gap_nil) hmore

/-- A member and those after it, up to the line of the closing brace. -/
theorem derives_prettyMembers : ∀ (more : List (String × Json)) (level outer : Nat) (name : String)
    {first : List Char}, Derives .value first → (∀ member ∈ more, member.2.Every Strict) →
      Derives .members (newLine level ++ (quote name ++ ':' :: ' ' ::
        (first ++ (prettyMembers level more ++ newLine outer))))
  | [], level, outer, name, first, hfirst, _ => by
    have hspace : Gap [' '] := List.forall_mem_singleton.2 rfl
    have hmember := Derives.named (isGap_newLine level) (characters_flatMap name.toList) gap_nil
      (.spaced hspace hfirst (isGap_newLine outer))
    simpa [prettyMembers, quote] using Derives.member hmember
  | (next, value) :: more, level, outer, name, first, hfirst, h => by
    have hspace : Gap [' '] := List.forall_mem_singleton.2 rfl
    have hvalue := derives_pretty value level (h _ List.mem_cons_self)
    have hmember := Derives.named (isGap_newLine level) (characters_flatMap name.toList) gap_nil
      (.spaced hspace hfirst gap_nil)
    have hmore := derives_prettyMembers more level outer next hvalue
      fun member hmember => h member (List.mem_cons_of_mem _ hmember)
    simpa [prettyMembers, prettyMember, quote] using Derives.members hmember hmore

end

/-- **What is printed is standard if all its numbers are**, also with a line break behind it. -/
theorem isStandard_render {json : Json} (h : json.Every Strict) :
    IsStandard (json.render ++ "\n") := by
  have hgap : Gap ['\n'] := List.forall_mem_singleton.2 rfl
  have hvalue := Derives.spaced gap_nil (derives_pretty json 0 h) hgap
  simpa [IsStandard, render] using hvalue

end HeaderIndex.Json
