import HeaderIndex.Proofs.Json.Numeral
import HeaderIndex.Proofs.Json.Parts
import HeaderIndex.Proofs.Json.Text

/-!
# JSON values and back

* `value?_gap` — white space in front of a value does not count.
* `value?_of_scalar`, `value?_quote`, `value?_arr`, `value?_obj` — how a value of each sort is read.
* `value?_pretty`, `items?_prettyItems`, `member?_prettyMember`, `members?_prettyMembers` — the text
  of a value is read as this value, whatever may stand behind it.
* `parse?_render` — so what is printed is what is parsed.
-/

namespace HeaderIndex.Json

/-- Whether a value that is a number with a point or exponent is written as one. -/
def Written : Json → Prop
  | .real numeral => IsNumeral numeral
  | .null | .bool _ | .int _ | .str _ | .arr _ | .obj _ => True

/-! ## White space -/

theorem skipGap_gap {gap : List Char} (h : ∀ c ∈ gap, isGap c = true) (text : List Char) :
    skipGap (gap ++ text) = skipGap text :=
  List.dropWhile_append_of_pos h

theorem skipGap_cons {c : Char} (h : isGap c = false) (rest : List Char) :
    skipGap (c :: rest) = c :: rest := by
  simp [skipGap, h]

theorem isGap_newLine (level : Nat) : ∀ c ∈ newLine level, isGap c = true := by
  intro c hc
  rcases List.mem_cons.1 hc with rfl | hc
  · rfl
  · rw [List.eq_of_mem_replicate hc]
    rfl

theorem value?_gap {gap : List Char} (h : ∀ c ∈ gap, isGap c = true) (fuel : Nat)
    (text : List Char) : value? fuel (gap ++ text) = value? fuel text := by
  cases fuel with
  | zero => rfl
  | succ fuel => rw [value?, value?, skipGap_gap h]

theorem member?_gap {gap : List Char} (h : ∀ c ∈ gap, isGap c = true) (fuel : Nat)
    (text : List Char) : member? fuel (gap ++ text) = member? fuel text := by
  cases fuel with
  | zero => rfl
  | succ fuel => rw [member?, member?, skipGap_gap h]

theorem items?_gap {gap : List Char} (h : ∀ c ∈ gap, isGap c = true) (fuel : Nat)
    (text : List Char) : items? fuel (gap ++ text) = items? fuel text := by
  cases fuel with
  | zero => rfl
  | succ fuel => rw [items?, items?, skipGap_gap h]

theorem members?_gap {gap : List Char} (h : ∀ c ∈ gap, isGap c = true) (fuel : Nat)
    (text : List Char) : members? fuel (gap ++ text) = members? fuel text := by
  cases fuel with
  | zero => rfl
  | succ fuel => rw [members?, members?, skipGap_gap h]

/-! ## One value -/

/-- No number and no word starts with white space, a quote or a bracket. -/
theorem scalar?_eq_none {c : Char}
    (h : c ∈ [' ', '\n', '\r', '\t', '"', '[', ']', '\x7b', '\x7d']) (rest : List Char) :
    scalar? (c :: rest) = none := by
  simp only [List.mem_cons, List.not_mem_nil, or_false] at h
  rcases h with rfl | rfl | rfl | rfl | rfl | rfl | rfl | rfl | rfl <;> rfl

/-- What is read as a number or word is read as this value. -/
theorem value?_of_scalar {text : List Char} {result : Json × List Char}
    (h : scalar? text = some result) (fuel : Nat) : value? (fuel + 1) text = some result := by
  cases text with
  | nil => cases h
  | cons c rest =>
    have hne : ∀ d ∈ [' ', '\n', '\r', '\t', '"', '[', ']', '\x7b', '\x7d'], c ≠ d := by
      rintro d hd rfl
      rw [scalar?_eq_none hd] at h
      cases h
    have hskip : skipGap (c :: rest) = c :: rest := by
      simp only [List.mem_cons, List.not_mem_nil, or_false, forall_eq_or_imp, forall_eq] at hne
      simp [skipGap, isGap, hne]
    rw [value?, hskip]
    split
    · rename_i heq
      exact absurd (List.cons.inj heq).1 (hne _ (by decide))
    · rename_i heq
      exact absurd (List.cons.inj heq).1 (hne _ (by decide))
    · rename_i heq
      exact absurd (List.cons.inj heq).1 (hne _ (by decide))
    · exact h

/-- A text that begins with a closing bracket is no value. -/
theorem skipGap_ne_of_value? {fuel : Nat} {text : List Char} {result : Json × List Char}
    (h : value? fuel text = some result) (after : List Char) : skipGap text ≠ ']' :: after := by
  intro hskip
  cases fuel with
  | zero => cases h
  | succ fuel =>
    rw [value?, hskip] at h
    cases h

theorem value?_quote (fuel : Nat) (rest : List Char) :
    value? (fuel + 1) ('"' :: rest) =
      (chars? fuel rest).map fun (cs, after) => (.str (String.ofList cs), after) := by
  rw [value?]
  rfl

theorem value?_bracket (fuel : Nat) (text : List Char) :
    value? (fuel + 1) ('[' :: text) =
      match skipGap text with
      | ']' :: after => some (Json.arr [], after)
      | _ => do
        let (item, rest) ← value? fuel text
        let (more, after) ← items? fuel rest
        return (Json.arr (item :: more), after) := by
  rw [value?]
  rfl

theorem value?_brace (fuel : Nat) (text : List Char) :
    value? (fuel + 1) ('\x7b' :: text) =
      match skipGap text with
      | '\x7d' :: after => some (Json.obj [], after)
      | _ => do
        let (member, rest) ← member? fuel text
        let (more, after) ← members? fuel rest
        return (Json.obj (member :: more), after) := by
  rw [value?]
  rfl

/-- An array is read by its first item and the others. -/
theorem value?_arr {fuel : Nat} {text next after : List Char} {item : Json} {more : List Json}
    (hitem : value? fuel text = some (item, next)) (hmore : items? fuel next = some (more, after)) :
    value? (fuel + 1) ('[' :: text) = some (.arr (item :: more), after) := by
  rw [value?_bracket]
  split
  · rename_i hskip
    exact absurd hskip (skipGap_ne_of_value? hitem _)
  · simp [hitem, hmore]

theorem items?_close (fuel : Nat) (rest : List Char) :
    items? (fuel + 1) (']' :: rest) = some ([], rest) := by
  rw [items?]
  rfl

theorem items?_comma {fuel : Nat} {text next after : List Char} {item : Json} {more : List Json}
    (hitem : value? fuel text = some (item, next)) (hmore : items? fuel next = some (more, after)) :
    items? (fuel + 1) (',' :: text) = some (item :: more, after) := by
  rw [items?, skipGap_cons rfl]
  simp [hitem, hmore]

/-- A member is read by its name and its value. -/
theorem member?_colon {fuel : Nat} {text gap next after : List Char} {name : List Char}
    {value : Json} (hgap : ∀ c ∈ gap, isGap c = true)
    (hname : chars? fuel text = some (name, gap ++ ':' :: next))
    (hvalue : value? fuel next = some (value, after)) :
    member? (fuel + 1) ('"' :: text) = some ((String.ofList name, value), after) := by
  rw [member?, skipGap_cons rfl]
  simp [hname, skipGap_gap hgap, skipGap_cons (show isGap ':' = false from rfl), hvalue]

/-- An object is read by its first member and the others. -/
theorem value?_obj {fuel : Nat} {text quoted next after : List Char} {member : String × Json}
    {more : List (String × Json)} (hquote : skipGap text = '"' :: quoted)
    (hmember : member? fuel text = some (member, next))
    (hmore : members? fuel next = some (more, after)) :
    value? (fuel + 1) ('\x7b' :: text) = some (.obj (member :: more), after) := by
  rw [value?_brace, hquote]
  simp [hmember, hmore]

theorem members?_close (fuel : Nat) (rest : List Char) :
    members? (fuel + 1) ('\x7d' :: rest) = some ([], rest) := by
  rw [members?]
  rfl

theorem members?_comma {fuel : Nat} {text next after : List Char} {member : String × Json}
    {more : List (String × Json)} (hmember : member? fuel text = some (member, next))
    (hmore : members? fuel next = some (more, after)) :
    members? (fuel + 1) (',' :: text) = some (member :: more, after) := by
  rw [members?, skipGap_cons rfl]
  simp [hmember, hmore]

/-! ## Values within values -/

theorem length_le_escapeChar (cs : List Char) : cs.length ≤ (cs.flatMap escapeChar).length := by
  have hone : ∀ c, 1 ≤ (escapeChar c).length := by
    intro c
    unfold escapeChar
    split_ifs <;> simp [unitEscape]
  induction cs with
  | nil => exact Nat.le_refl _
  | cons c cs ih =>
    have := hone c
    simp only [List.flatMap_cons, List.length_append, List.length_cons]
    omega

/-- With fuel for the text of a string there is enough for its characters. -/
theorem chars?_quote {text : String} {fuel : Nat} (h : (quote text).length < fuel + 1)
    (rest : List Char) :
    chars? fuel (text.toList.flatMap escapeChar ++ '"' :: rest) = some (text.toList, rest) := by
  refine chars?_flatMap _ ?_ rest
  have := length_le_escapeChar text.toList
  simp only [quote, List.length_cons, List.length_append, List.length_nil] at h
  omega

/-- A separator or a line break stands behind the first items and members. -/
theorem ends_prettyItems (level outer : Nat) (items : List Json) (rest : List Char) :
    Ends (prettyItems level items ++ (newLine outer ++ rest)) := by
  cases items <;> simp [Ends, prettyItems, newLine]

theorem ends_prettyMembers (level outer : Nat) (members : List (String × Json)) (rest : List Char) :
    Ends (prettyMembers level members ++ (newLine outer ++ rest)) := by
  cases members <;> simp [Ends, prettyMembers, newLine]

mutual

/-- **The text of a value is read as this value**, up to what stands behind it. -/
theorem value?_pretty : ∀ (json : Json) (level fuel : Nat) (rest : List Char),
    json.Every Written → (pretty level json).length < fuel → Ends rest →
      value? fuel (pretty level json ++ rest) = some (json, rest)
  | .null, _, fuel + 1, _, _, _, _ => value?_of_scalar rfl fuel
  | .bool true, _, fuel + 1, _, _, _, _ => value?_of_scalar rfl fuel
  | .bool false, _, fuel + 1, _, _, _, _ => value?_of_scalar rfl fuel
  | .int value, _, fuel + 1, _, _, _, hrest => value?_of_scalar (scalar?_int value hrest) fuel
  | .real _, _, fuel + 1, _, hjson, _, hrest =>
    value?_of_scalar (scalar?_numeral hjson.self hrest) fuel
  | .str text, level, fuel + 1, rest, _, hfuel, _ => by
    have htext : pretty level (.str text) ++ rest =
        '"' :: (text.toList.flatMap escapeChar ++ '"' :: rest) := by
      simp [pretty, quote]
    rw [htext, value?_quote, chars?_quote hfuel]
    simp
  | .arr [], _, fuel + 1, rest, _, _, _ => value?_bracket fuel (']' :: rest)
  | .obj [], _, fuel + 1, rest, _, _, _ => value?_brace fuel ('\x7d' :: rest)
  | .arr (item :: more), level, fuel + 1, rest, hjson, hfuel, _ => by
    have htext : pretty level (.arr (item :: more)) ++ rest =
        '[' :: (newLine (level + 1) ++ (pretty (level + 1) item ++
          (prettyItems (level + 1) more ++ (newLine level ++ ']' :: rest)))) := by
      simp [pretty]
    simp only [pretty, List.length_append, List.length_cons] at hfuel
    have hitem := value?_pretty item (level + 1) fuel _ (hjson.item List.mem_cons_self) (by omega)
      (ends_prettyItems (level + 1) level more (']' :: rest))
    have hmore := items?_prettyItems more (level + 1) level fuel rest
      (fun item hitem => hjson.item (List.mem_cons_of_mem _ hitem)) (by omega)
    rw [htext]
    exact value?_arr ((value?_gap (isGap_newLine _) fuel _).trans hitem) hmore
  | .obj ((name, value) :: more), level, fuel + 1, rest, hjson, hfuel, _ => by
    have htext : pretty level (.obj ((name, value) :: more)) ++ rest =
        '\x7b' :: (newLine (level + 1) ++ (prettyMember (level + 1) (name, value) ++
          (prettyMembers (level + 1) more ++ (newLine level ++ '\x7d' :: rest)))) := by
      simp [pretty]
    simp only [pretty, List.length_append, List.length_cons] at hfuel
    have hmember := member?_prettyMember (name, value) (level + 1) fuel _
      (hjson.member List.mem_cons_self) (by omega)
      (ends_prettyMembers (level + 1) level more ('\x7d' :: rest))
    have hmore := members?_prettyMembers more (level + 1) level fuel rest
      (fun member hmember => hjson.member (List.mem_cons_of_mem _ hmember)) (by omega)
    rw [htext]
    exact value?_obj (skipGap_gap (isGap_newLine _) _)
      ((member?_gap (isGap_newLine _) fuel _).trans hmember) hmore

/-- The items of an array after the first one are read up to its closing bracket. -/
theorem items?_prettyItems : ∀ (items : List Json) (level outer fuel : Nat) (rest : List Char),
    (∀ item ∈ items, item.Every Written) → (prettyItems level items).length < fuel →
      items? fuel (prettyItems level items ++ (newLine outer ++ ']' :: rest)) = some (items, rest)
  | [], _, outer, fuel + 1, rest, _, _ =>
    (items?_gap (isGap_newLine outer) (fuel + 1) (']' :: rest)).trans (items?_close fuel rest)
  | item :: more, level, outer, fuel + 1, rest, hitems, hfuel => by
    have htext : prettyItems level (item :: more) ++ (newLine outer ++ ']' :: rest) =
        ',' :: (newLine level ++ (pretty level item ++
          (prettyItems level more ++ (newLine outer ++ ']' :: rest)))) := by
      simp [prettyItems]
    simp only [prettyItems, List.length_append, List.length_cons] at hfuel
    have hitem := value?_pretty item level fuel _ (hitems _ List.mem_cons_self) (by omega)
      (ends_prettyItems level outer more (']' :: rest))
    have hmore := items?_prettyItems more level outer fuel rest
      (fun item hitem => hitems item (List.mem_cons_of_mem _ hitem)) (by omega)
    rw [htext]
    exact items?_comma ((value?_gap (isGap_newLine _) fuel _).trans hitem) hmore

/-- A member of an object is read by its name and its value. -/
theorem member?_prettyMember : ∀ (member : String × Json) (level fuel : Nat) (rest : List Char),
    member.2.Every Written → (prettyMember level member).length < fuel → Ends rest →
      member? fuel (prettyMember level member ++ rest) = some (member, rest)
  | (name, value), level, fuel + 1, rest, hvalue, hfuel, hrest => by
    have htext : prettyMember level (name, value) ++ rest =
        '"' :: (name.toList.flatMap escapeChar ++ '"' :: ':' :: ([' '] ++
          (pretty level value ++ rest))) := by
      simp [prettyMember, quote]
    simp only [prettyMember, List.length_append, List.length_cons] at hfuel
    have hname : (quote name).length < fuel + 1 := by omega
    have hspace : ∀ c ∈ [' '], isGap c = true := List.forall_mem_singleton.2 rfl
    have hvalue := value?_pretty value level fuel rest hvalue (by omega) hrest
    have hcolon := member?_colon (List.forall_mem_nil _) (chars?_quote hname _)
      ((value?_gap hspace fuel _).trans hvalue)
    rw [List.nil_append, String.ofList_toList] at hcolon
    rw [htext, hcolon]

/-- The members of an object after the first one are read up to its closing brace. -/
theorem members?_prettyMembers : ∀ (members : List (String × Json)) (level outer fuel : Nat)
    (rest : List Char), (∀ member ∈ members, member.2.Every Written) →
      (prettyMembers level members).length < fuel →
        members? fuel (prettyMembers level members ++ (newLine outer ++ '\x7d' :: rest)) =
          some (members, rest)
  | [], _, outer, fuel + 1, rest, _, _ =>
    (members?_gap (isGap_newLine outer) (fuel + 1) ('\x7d' :: rest)).trans
      (members?_close fuel rest)
  | member :: more, level, outer, fuel + 1, rest, hmembers, hfuel => by
    have htext : prettyMembers level (member :: more) ++ (newLine outer ++ '\x7d' :: rest) =
        ',' :: (newLine level ++ (prettyMember level member ++
          (prettyMembers level more ++ (newLine outer ++ '\x7d' :: rest)))) := by
      simp [prettyMembers]
    simp only [prettyMembers, List.length_append, List.length_cons] at hfuel
    have hmember := member?_prettyMember member level fuel _ (hmembers _ List.mem_cons_self)
      (by omega) (ends_prettyMembers level outer more ('\x7d' :: rest))
    have hmore := members?_prettyMembers more level outer fuel rest
      (fun member hmember => hmembers member (List.mem_cons_of_mem _ hmember)) (by omega)
    rw [htext]
    exact members?_comma ((member?_gap (isGap_newLine _) fuel _).trans hmember) hmore

end

/-! ## Whole texts -/

/-- **What is printed is what is parsed**, also with a line break behind it. -/
theorem parse?_render {json : Json} (h : json.Every Written) :
    parse? (json.render ++ "\n") = some json := by
  have hvalue := value?_pretty json 0 (2 * (json.render ++ "\n").length + 2) ['\n'] h
    (by simp [render, String.length]; omega) (by simp [Ends])
  have htext : (json.render ++ "\n").toList = pretty 0 json ++ ['\n'] := by
    simp [render]
  rw [parse?, htext, hvalue]
  rfl

end HeaderIndex.Json
