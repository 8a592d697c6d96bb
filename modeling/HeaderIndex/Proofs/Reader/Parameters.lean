import HeaderIndex.Reader.Run
import Mathlib.Tactic

/-!
# Whose text a parameter gets

A parameter is described by the text under its own name.  One without such a text gets the text in its
position, if there are as many texts as parameters; whether that is the text of another parameter is
not asked.

* `Gets` — a parameter gets the text at a place among the texts.
* `gets_iff` — it does if the text stands under its name, or in its position while none stands under
  its name and there are as many texts as parameters.
* `describe_apart_iff` — texts about parameters go to these alone, and no text goes to two parameters,
  exactly if no parameter without a text of its own has the position of such a text.
-/

namespace HeaderIndex.Reader

variable {texts : Comment.Texts} {parameters : List Parameter} {position place : Nat} {p : Parameter}

/-- What the text about a parameter is found under. -/
def rawName (p : Parameter) : String := p.name.raw.getD ""

/-- Other texts under the same names. -/
def refill (texts : Comment.Texts) (contents : Nat → List String) : Comment.Texts :=
  texts.mapIdx fun place entry => (entry.1, contents place)

/-- The description of the parameter at a position. -/
def descriptionAt (texts : Comment.Texts) (parameters : List Parameter) (position : Nat) :
    Option (List String) :=
  ((describe texts parameters)[position]?).map (·.description)

/-- The parameter at a position gets the text at a place: whatever the texts are, this is its
description. -/
def Gets (texts : Comment.Texts) (parameters : List Parameter) (position place : Nat) : Prop :=
  ∀ contents, descriptionAt (refill texts contents) parameters position = some (contents place)

/-! ## Texts under names -/

/-- Where names stand once, the text under one of them is found. -/
theorem get?_of_getElem? (keys : (texts.map (·.1)).Nodup) {name : String} {text : List String}
    (h : texts[place]? = some (name, text)) : texts.get? name = some text := by
  unfold Comment.Texts.get?
  induction texts generalizing place with
  | nil => simp at h
  | cons entry rest ih =>
    rw [List.map_cons, List.nodup_cons] at keys
    cases place with
    | zero =>
      rw [List.getElem?_cons_zero, Option.some.injEq] at h
      subst h
      simp
    | succ place =>
      rw [List.getElem?_cons_succ] at h
      have hmem : name ∈ rest.map (·.1) :=
        List.mem_map.2 ⟨_, List.mem_of_getElem? h, rfl⟩
      have hne : name ≠ entry.1 := by
        rintro rfl
        exact keys.1 hmem
      have hbeq : (name == entry.1) = false := by simpa using hne
      rw [List.lookup_cons, hbeq]
      exact ih keys.2 h

theorem get?_eq_none {name : String} (h : name ∉ texts.map (·.1)) : texts.get? name = none := by
  unfold Comment.Texts.get?
  rw [List.lookup_eq_none_iff]
  intro entry hentry
  have hne : name ≠ entry.1 := by
    rintro rfl
    exact h (List.mem_map.2 ⟨entry, hentry, rfl⟩)
  simpa using hne

theorem map_fst_refill (texts : Comment.Texts) (contents : Nat → List String) :
    (refill texts contents).map (·.1) = texts.map (·.1) := by
  apply List.ext_getElem?
  intro n
  simp [refill, Function.comp_def]

theorem length_refill (texts : Comment.Texts) (contents : Nat → List String) :
    (refill texts contents).length = texts.length := by
  simp [refill]

theorem getElem?_refill {entry : String × List String} (h : texts[place]? = some entry)
    (contents : Nat → List String) :
    (refill texts contents)[place]? = some (entry.1, contents place) := by
  simp [refill, h]

/-! ## The text about a parameter -/

theorem descriptionAt_of_getElem? (texts : Comment.Texts) (hp : parameters[position]? = some p) :
    descriptionAt texts parameters position =
      some (parameterText texts parameters.length position p.name) := by
  simp [descriptionAt, describe, hp]

/-- A parameter whose name has a text is described by it. -/
theorem parameterText_of_named (keys : (texts.map (·.1)).Nodup) {text : List String}
    (h : texts[place]? = some (rawName p, text)) (count position : Nat) :
    parameterText texts count position p.name = text := by
  have hfound := get?_of_getElem? keys h
  unfold rawName at hfound
  simp only [parameterText, hfound]

/-- Another one is described by the text in its position, if there are as many texts as parameters. -/
theorem parameterText_of_unnamed (h : rawName p ∉ texts.map (·.1)) (count position : Nat) :
    parameterText texts count position p.name =
      if texts.length = count then ((texts[position]?).map (·.2)).getD [] else [] := by
  have hnone := get?_eq_none h
  unfold rawName at hnone
  simp only [parameterText, hnone]

/-- Places with the same text, whatever the texts are, are the same. -/
theorem forall_contents_iff {a b : Nat} :
    (∀ contents : Nat → List String, contents a = contents b) ↔ a = b := by
  constructor
  · intro h
    by_contra hne
    have hcontents := h fun n => if n = a then [""] else []
    rw [if_pos rfl, if_neg fun hba => hne hba.symm] at hcontents
    cases hcontents
  · rintro rfl contents
    rfl

/-- **Which text a parameter gets**: the one under its name; or, if there is none, the one in its
position, provided that there are as many texts as parameters. -/
theorem gets_iff (keys : (texts.map (·.1)).Nodup) (hp : parameters[position]? = some p) :
    Gets texts parameters position place ↔
      (∃ text, texts[place]? = some (rawName p, text)) ∨
        (place = position ∧ texts.length = parameters.length ∧ rawName p ∉ texts.map (·.1)) := by
  unfold Gets
  simp only [descriptionAt_of_getElem? _ hp, Option.some.injEq]
  by_cases hmem : rawName p ∈ texts.map (·.1)
  · -- the text under the name is at one place, and is the description whatever it says
    obtain ⟨entry, hentry, hname⟩ := List.mem_map.1 hmem
    obtain ⟨own, hown⟩ := List.getElem?_of_mem hentry
    have htext : ∀ contents, parameterText (refill texts contents) parameters.length position p.name =
        contents own := by
      intro contents
      have hrefilled : (refill texts contents)[own]? = some (rawName p, contents own) := by
        rw [getElem?_refill hown, hname]
      exact parameterText_of_named (by rwa [map_fst_refill]) hrefilled _ _
    simp only [htext, forall_contents_iff]
    constructor
    · rintro rfl
      exact .inl ⟨entry.2, by rw [hown, ← hname]⟩
    · rintro (⟨text, hplace⟩ | ⟨_, _, hnot⟩)
      · have hkeys : (texts.map (·.1))[own]? = (texts.map (·.1))[place]? := by
          simp [hown, hplace, hname]
        have hlt : own < (texts.map (·.1)).length := by
          rw [List.length_map]
          exact (List.getElem?_eq_some_iff.1 hown).1
        exact (List.getElem?_inj hlt keys).1 hkeys
      · exact absurd hmem hnot
  · have htext : ∀ contents, parameterText (refill texts contents) parameters.length position p.name =
        if texts.length = parameters.length then
          (((refill texts contents)[position]?).map (·.2)).getD [] else [] := by
      intro contents
      rw [parameterText_of_unnamed (by rwa [map_fst_refill]), length_refill]
    have hnamed : ¬ ∃ text, texts[place]? = some (rawName p, text) := by
      rintro ⟨text, htext⟩
      exact hmem (List.mem_map.2 ⟨_, List.mem_of_getElem? htext, rfl⟩)
    simp only [htext, hnamed, false_or]
    by_cases hcount : texts.length = parameters.length
    · have hlt : position < texts.length := by
        rw [hcount]
        exact (List.getElem?_eq_some_iff.1 hp).1
      have hposition : ∀ contents, (((refill texts contents)[position]?).map (·.2)).getD [] =
          contents position := by
        intro contents
        rw [getElem?_refill (List.getElem?_eq_getElem hlt)]
        rfl
      simp only [if_pos hcount, hposition, forall_contents_iff]
      exact ⟨fun h => ⟨h.symm, hcount, hmem⟩, fun h => h.1.symm⟩
    · simp only [if_neg hcount]
      constructor
      · intro h
        cases h fun _ => [""]
      · rintro ⟨_, h, _⟩
        exact absurd h hcount

theorem Gets.exists_parameter (h : Gets texts parameters position place) :
    ∃ p, parameters[position]? = some p := by
  cases hp : parameters[position]? with
  | some p => exact ⟨p, rfl⟩
  | none =>
    have hnone := h fun _ => []
    simp [descriptionAt, describe, hp] at hnone

/-! ## Texts of one parameter alone -/

/-- The texts about parameters go to the parameters that they are about and to no other. -/
def Apart (texts : Comment.Texts) (parameters : List Parameter) : Prop :=
  ∀ position p place text, parameters[position]? = some p → texts[place]? = some (rawName p, text) →
    Gets texts parameters position place ∧
      ∀ other, Gets texts parameters other place → other = position

/-- No text goes to two parameters. -/
def Once (texts : Comment.Texts) (parameters : List Parameter) : Prop :=
  ∀ place position other, Gets texts parameters position place →
    Gets texts parameters other place → position = other

/-- A parameter without a text of its own has the position of the text of another parameter, and there
are as many texts as parameters. -/
structure Misplaced (texts : Comment.Texts) (parameters : List Parameter) (position : Nat)
    (p : Parameter) (entry : String × List String) : Prop where
  count : texts.length = parameters.length
  parameter : parameters[position]? = some p
  text : texts[position]? = some entry
  unnamed : rawName p ∉ texts.map (·.1)
  ofOther : entry.1 ∈ parameters.map rawName

/-- A text that goes to two parameters is misplaced at one of them. -/
theorem exists_misplaced_of_gets (keys : (texts.map (·.1)).Nodup)
    (distinct : (parameters.map rawName).Nodup) {other : Nat}
    (h : Gets texts parameters position place) (h' : Gets texts parameters other place)
    (hne : position ≠ other) : ∃ q r entry, Misplaced texts parameters q r entry := by
  obtain ⟨p, hp⟩ := h.exists_parameter
  obtain ⟨q, hq⟩ := h'.exists_parameter
  have hmem : ∀ {i : Nat} {r : Parameter}, parameters[i]? = some r → rawName r ∈ parameters.map rawName := by
    intro i r hr
    exact List.mem_map.2 ⟨r, List.mem_of_getElem? hr, rfl⟩
  rcases (gets_iff keys hp).1 h with ⟨text, hnamed⟩ | ⟨hplace, hcount, hunnamed⟩
  · rcases (gets_iff keys hq).1 h' with ⟨text', hnamed'⟩ | ⟨rfl, hcount, hunnamed⟩
    · -- both have the name of the text, so they are the same parameter
      exfalso
      have hname : rawName p = rawName q := by
        rw [hnamed, Option.some.injEq, Prod.mk.injEq] at hnamed'
        exact hnamed'.1
      have hlt : position < (parameters.map rawName).length := by
        rw [List.length_map]
        exact (List.getElem?_eq_some_iff.1 hp).1
      exact hne ((List.getElem?_inj hlt distinct).1 (by simp [hp, hq, hname]))
    · exact ⟨_, q, _, hcount, hq, hnamed, hunnamed, hmem hp⟩
  · rcases (gets_iff keys hq).1 h' with ⟨text', hnamed'⟩ | ⟨hplace', _, _⟩
    · subst hplace
      exact ⟨_, p, _, hcount, hp, hnamed', hunnamed, hmem hq⟩
    · exact absurd (hplace.symm.trans hplace') hne

/-- A misplaced text goes to the parameter that it is about and to the one in its position. -/
theorem Misplaced.gets_twice {entry : String × List String} (keys : (texts.map (·.1)).Nodup)
    (h : Misplaced texts parameters position p entry) :
    ∃ owner q, parameters[owner]? = some q ∧ rawName q = entry.1 ∧ owner ≠ position ∧
      Gets texts parameters owner position ∧ Gets texts parameters position position := by
  obtain ⟨q, hmem, hname⟩ := List.mem_map.1 h.ofOther
  obtain ⟨owner, hq⟩ := List.getElem?_of_mem hmem
  refine ⟨owner, q, hq, hname, ?_, ?_, ?_⟩
  · rintro rfl
    have hsame : p = q := Option.some.inj (h.parameter.symm.trans hq)
    refine h.unnamed ?_
    rw [hsame, hname]
    exact List.mem_map.2 ⟨entry, List.mem_of_getElem? h.text, rfl⟩
  · exact (gets_iff keys hq).2 (.inl ⟨entry.2, by rw [h.text, hname]⟩)
  · exact (gets_iff keys h.parameter).2 (.inr ⟨rfl, h.count, h.unnamed⟩)

/-- **Texts stay with their parameters unless one is misplaced.**  Let names stand once among the
texts and once among the parameters.  Every text under the name of a parameter is the description of
that parameter.  It goes to no other, and no text goes to two parameters, exactly if there are fewer
or more texts than parameters, or no parameter without a text of its own has the position of the text
of another. -/
theorem describe_apart_iff (keys : (texts.map (·.1)).Nodup)
    (distinct : (parameters.map rawName).Nodup) :
    (∀ position p place text, parameters[position]? = some p → texts[place]? = some (rawName p, text) →
        Gets texts parameters position place ∧
          descriptionAt texts parameters position = some text) ∧
      (Apart texts parameters ↔ ∀ position p entry, ¬ Misplaced texts parameters position p entry) ∧
      (Once texts parameters ↔ ∀ position p entry, ¬ Misplaced texts parameters position p entry) := by
  have hown : ∀ position p place text, parameters[position]? = some p →
      texts[place]? = some (rawName p, text) → Gets texts parameters position place :=
    fun position p place text hp htext => (gets_iff keys hp).2 (.inl ⟨text, htext⟩)
  refine ⟨fun position p place text hp htext => ⟨hown position p place text hp htext, ?_⟩, ?_, ?_⟩
  · rw [descriptionAt_of_getElem? texts hp, parameterText_of_named keys htext]
  · constructor
    · intro h position p entry hmisplaced
      obtain ⟨owner, q, hq, hname, hne, _, hgets⟩ := hmisplaced.gets_twice keys
      have htext : texts[position]? = some (rawName q, entry.2) := by rw [hmisplaced.text, hname]
      exact hne ((h owner q position entry.2 hq htext).2 position hgets).symm
    · intro h position p place text hp htext
      refine ⟨hown position p place text hp htext, fun other hother => ?_⟩
      by_contra hne
      obtain ⟨i, q, entry, hmisplaced⟩ :=
        exists_misplaced_of_gets keys distinct hother (hown position p place text hp htext) hne
      exact h i q entry hmisplaced
  · constructor
    · intro h position p entry hmisplaced
      obtain ⟨owner, q, _, _, hne, howner, hgets⟩ := hmisplaced.gets_twice keys
      exact hne (h position owner position howner hgets)
    · intro h place position other hposition hother
      by_contra hne
      obtain ⟨i, q, entry, hmisplaced⟩ := exists_misplaced_of_gets keys distinct hposition hother hne
      exact h i q entry hmisplaced

/-- A parameter with a given spelling. -/
def integerParameter (raw : String) : Parameter :=
  ⟨Name.split [] raw, .primitive "int", false, []⟩

/-- A parameter under another name in the comment gets the text in its position, and the others keep
theirs. -/
theorem describe_apart_iff_renamed :
    let texts := [("a", ["first"]), ("x", ["second"]), ("c", ["third"])]
    let parameters := ["a", "b", "c"].map integerParameter
    (texts.map (·.1)).Nodup ∧ (parameters.map rawName).Nodup ∧ Apart texts parameters ∧
      Once texts parameters ∧
      descriptionAt texts parameters 1 = some ["second"] ∧
      descriptionAt texts parameters 2 = some ["third"] := by
  intro texts parameters
  have keys : (texts.map (·.1)).Nodup := by decide
  have distinct : (parameters.map rawName).Nodup := by decide
  have hplaced : ∀ position p entry, ¬ Misplaced texts parameters position p entry := by
    intro position p entry h
    have hlt : position < 3 := (List.getElem?_eq_some_iff.1 h.parameter).1
    have hrows : ∀ n < 3, ∀ q ∈ parameters[n]?, ∀ e ∈ texts[n]?, rawName q ∉ texts.map (·.1) →
        e.1 ∉ parameters.map rawName := by decide
    exact hrows position hlt p h.parameter entry h.text h.unnamed h.ofOther
  obtain ⟨hown, hapart, honce⟩ := describe_apart_iff keys distinct
  exact ⟨keys, distinct, hapart.2 hplaced, honce.2 hplaced, by decide,
    (hown 2 (integerParameter "c") 2 ["third"] rfl rfl).2⟩

/-- A function whose comment tells of its second parameter first, and of one that it does not have:
`int f(int a, int b);` behind a comment about `b` and `c`. -/
def strayText : ParsedUnit where
  files := #["test.h"]
  tokens := #[[⟨.comment, "/**\n * \\param b second\n * \\param c third\n */", 0, 44, 1⟩,
    ⟨.keyword, "int", 45, 48, 5⟩, ⟨.identifier, "f", 49, 50, 5⟩, ⟨.punctuation, "(", 50, 51, 5⟩,
    ⟨.keyword, "int", 51, 54, 5⟩, ⟨.identifier, "a", 55, 56, 5⟩, ⟨.punctuation, ",", 56, 57, 5⟩,
    ⟨.keyword, "int", 58, 61, 5⟩, ⟨.identifier, "b", 62, 63, 5⟩, ⟨.punctuation, ")", 63, 64, 5⟩,
    ⟨.punctuation, ";", 64, 65, 5⟩]]
  cursors := #[
    { Cursor.missing with
      kind := .functionDecl, spelling := "f", location := ⟨some 0, 49, 5⟩, start := ⟨some 0, 45, 5⟩
      stop := ⟨some 0, 64, 5⟩, result := some 0, children := [1, 2] },
    { Cursor.missing with
      kind := .parameterDecl, spelling := "a", location := ⟨some 0, 55, 5⟩
      start := ⟨some 0, 51, 5⟩, stop := ⟨some 0, 56, 5⟩, type := some 0 },
    { Cursor.missing with
      kind := .parameterDecl, spelling := "b", location := ⟨some 0, 62, 5⟩
      start := ⟨some 0, 58, 5⟩, stop := ⟨some 0, 63, 5⟩, type := some 0 }]
  types := #[{ SourceType.missing with kind := .int, spelling := "int" }]
  top := [0]
  includes := []
  diagnostics := []

/-- The text about `b` is the description of `a` as well. -/
theorem text_of_two_parameters :
    let config : Config :=
      ⟨Settings.minimal "test" [.path "test.h"], by decide, by simp [Settings.minimal]⟩
    let texts := [("b", ["second"]), ("c", ["third", ""])]
    let parameters := ["a", "b"].map integerParameter
    (texts.map (·.1)).Nodup ∧ (parameters.map rawName).Nodup ∧ ¬ Apart texts parameters ∧
      ¬ Once texts parameters ∧
      ((gaps strayText).map fun declaration =>
        (Comment.splitFunction (declaration.comment strayText)).parameters) = [texts] ∧
      ((read config strayText ["test.h"]).result.toOption.map fun index =>
        index.functions.map fun function => function.parameters.map fun p =>
          (rawName p, p.description)) = some [[("a", ["second"]), ("b", ["second"])]] := by
  intro config texts parameters
  have hfirst : Gets texts parameters 0 0 := fun contents => rfl
  have hsecond : Gets texts parameters 1 0 := fun contents => rfl
  refine ⟨by decide, by decide, ?_, ?_, by decide +kernel, by decide +kernel⟩
  · intro h
    cases (h 1 (integerParameter "b") 0 ["second"] rfl rfl).2 0 hfirst
  · intro h
    cases h 0 0 1 hfirst hsecond

end HeaderIndex.Reader
