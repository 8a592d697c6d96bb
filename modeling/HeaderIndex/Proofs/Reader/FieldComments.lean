import HeaderIndex.Proofs.Reader.Forest
import HeaderIndex.Proofs.Reader.Gap

/-!
# The comments of fields

A field is described by the comment behind it on the same line, or else by the last one in the gap in
front of it, which starts where the field before it and the comment behind that one end.

* `Laid`, `Layout` — the parts of a definition stand in a file one behind the other.
* `trailing?`, `leading?` — the comments behind a field and in front of it.
* `commentsFrom` — the comments of all fields, and `GapStart` — where the gap of each of them starts.
* `described_membersFrom` — the fields are read with these comments.
* `exists_gapStart` — each field has the comment behind it, or the one in its gap.
* `pairwise_commentsFrom` — these comments stand one behind the other, so no two fields share one.
-/

namespace HeaderIndex.Reader

open Comment

/-! ## Parts one behind the other -/

/-- Whether a token that is no comment starts at an offset. -/
def StartsToken (tokens : List Token) (offset : Nat) : Prop :=
  ∃ t ∈ tokens, t.kind ≠ .comment ∧ t.start = offset

instance (tokens : List Token) (offset : Nat) : Decidable (StartsToken tokens offset) :=
  inferInstanceAs (Decidable (∃ t ∈ tokens, t.kind ≠ .comment ∧ t.start = offset))

/-- Parts of a definition that ends at `stop`, in the order of the source.  Each starts with a token
and has a token at its location, which lies in front of its end, and behind all of them a token ends
the definition. -/
structure Laid (unit : ParsedUnit) (file : Nat) (tokens : List Token) (stop : Location)
    (parts : List Nat) : Prop where
  inFile : ∀ p ∈ parts, (unit.cursor p).start.file = some file ∧
    (unit.cursor p).location.file = some file ∧ (unit.cursor p).stop.file = some file
  starts : ∀ p ∈ parts, StartsToken tokens (unit.cursor p).start.offset
  located : ∀ p ∈ parts, StartsToken tokens (unit.cursor p).location.offset
  extent : ∀ p ∈ parts, (unit.cursor p).start.offset ≤ (unit.cursor p).stop.offset ∧
    (unit.cursor p).location.offset ≤ (unit.cursor p).stop.offset
  locations : parts.Pairwise fun p q =>
    (unit.cursor p).location.offset ≤ (unit.cursor q).location.offset
  stops : parts.Pairwise fun p q => (unit.cursor p).stop.offset ≤ (unit.cursor q).stop.offset
  stopInFile : stop.file = some file
  closing : ∃ t ∈ tokens, t.stop = stop.offset ∧ ∀ p ∈ parts, (unit.cursor p).stop.offset ≤ t.start

/-- Where a definition and its parts stand in a file whose tokens are in order. -/
structure Layout (unit : ParsedUnit) (file : Nat) (tokens : List Token) (position : Nat) : Prop where
  named : ∃ name, unit.files[file]? = some name
  row : unit.tokens[file]? = some tokens
  inOrder : InOrder tokens
  located : (unit.cursor position).location.file = some file
  parts : Laid unit file tokens (unit.cursor position).stop (memberCursors unit position)

section Laid

variable {unit : ParsedUnit} {file : Nat} {tokens : List Token} {stop : Location} {p : Nat}
  {parts rest : List Nat}

theorem Laid.tail (h : Laid unit file tokens stop (p :: rest)) :
    Laid unit file tokens stop rest where
  inFile := fun q hq => h.inFile q (List.mem_cons_of_mem _ hq)
  starts := fun q hq => h.starts q (List.mem_cons_of_mem _ hq)
  located := fun q hq => h.located q (List.mem_cons_of_mem _ hq)
  extent := fun q hq => h.extent q (List.mem_cons_of_mem _ hq)
  locations := h.locations.of_cons
  stops := h.stops.of_cons
  stopInFile := h.stopInFile
  closing := by
    obtain ⟨t, ht, hstop, hbehind⟩ := h.closing
    exact ⟨t, ht, hstop, fun q hq => hbehind q (List.mem_cons_of_mem _ hq)⟩

theorem Laid.file_followingLocation (h : Laid unit file tokens stop parts) :
    (followingLocation unit stop parts).file = some file := by
  cases parts with
  | nil => exact h.stopInFile
  | cons next rest => exact (h.inFile next List.mem_cons_self).2.1

/-- No comment crosses the location of what follows a part. -/
theorem Laid.endsAtToken (h : Laid unit file tokens stop (p :: rest))
    (hle : (unit.cursor p).stop.offset ≤ (followingLocation unit stop rest).offset) :
    EndsAtToken tokens (unit.cursor p).stop.offset (followingLocation unit stop rest).offset := by
  cases rest with
  | nil =>
    obtain ⟨t, ht, hstop, hbehind⟩ := h.closing
    exact ⟨t, ht, .inr ⟨hbehind p List.mem_cons_self, hstop⟩⟩
  | cons next rest =>
    obtain ⟨t, ht, hkind, hstart⟩ := h.located next (by simp)
    exact ⟨t, ht, .inl ⟨hkind, hstart⟩⟩

end Laid

/-! ## Behind a field and in front of it -/

/-- The comment behind a field: the first one in front of what follows, if it is on the line where
the field ends. -/
def trailing? (tokens : List Token) (field : Cursor) (following : Location) : Option Token :=
  (commentsIn tokens field.stop.offset following.offset).head?.filter fun t =>
    t.line = field.stop.line

/-- The comment in front of a field: the last one behind a place. -/
def leading? (tokens : List Token) (place : Nat) (field : Cursor) : Option Token :=
  (commentsIn tokens place field.start.offset).getLast?

/-- The end of a field together with the comment behind it. -/
def placeBehind (tokens : List Token) (field : Cursor) (following : Location) : Nat :=
  ((trailing? tokens field following).map (·.stop)).getD field.stop.offset

/-- The fields among the parts of a definition that ends at `stop`, each with the comment behind it
or else with the one in front of it, where the first comment stands behind `place`. -/
def commentsFrom (unit : ParsedUnit) (tokens : List Token) (stop : Location) :
    Nat → List Nat → List (Nat × Option Token)
  | _, [] => []
  | place, p :: rest =>
    if isField unit p then
      let field := unit.cursor p
      let following := followingLocation unit stop rest
      (p, (trailing? tokens field following).or (leading? tokens place field)) ::
        commentsFrom unit tokens stop (placeBehind tokens field following) rest
    else commentsFrom unit tokens stop place rest

variable {unit : ParsedUnit} {file : Nat} {name : String} {tokens : List Token} {stop : Location}

theorem commentsFrom_cons_field {p : Nat} (hp : isField unit p = true) (place : Nat)
    (rest : List Nat) :
    commentsFrom unit tokens stop place (p :: rest) =
      (p, (trailing? tokens (unit.cursor p) (followingLocation unit stop rest)).or
        (leading? tokens place (unit.cursor p))) ::
          commentsFrom unit tokens stop
            (placeBehind tokens (unit.cursor p) (followingLocation unit stop rest)) rest := by
  simp only [commentsFrom, hp, if_true]

theorem commentsFrom_cons_nested {p : Nat} (hp : ¬ isField unit p = true) (place : Nat)
    (rest : List Nat) :
    commentsFrom unit tokens stop place (p :: rest) = commentsFrom unit tokens stop place rest := by
  simp only [commentsFrom, hp, if_false, Bool.false_eq_true]

/-- What a field is described by, and where the gap of the next one starts. -/
theorem fieldComment_eq (hname : unit.files[file]? = some name)
    (htokens : unit.tokens[file]? = some tokens) (horder : InOrder tokens) {p : Nat}
    {rest : List Nat} (h : Laid unit file tokens stop (p :: rest)) {previous : Location}
    (hprevious : previous.file = some file) :
    let field := unit.cursor p
    let following := followingLocation unit stop rest
    let answer := fieldComment unit previous following field
    answer.1 = linesOf ((trailing? tokens field following).or
        (leading? tokens previous.offset field)) ∧
      answer.2.offset = placeBehind tokens field following ∧ answer.2.file = some file := by
  intro field following answer
  have hin := h.inFile p List.mem_cons_self
  obtain ⟨first, hfirst, hkind, hstart⟩ := h.starts p List.mem_cons_self
  have hbehind := nearest_eq_pick hname htokens horder hin.2.2 h.tail.file_followingLocation
    h.endsAtToken .after
  have hfront := nearest_eq_pick hname htokens horder hprevious hin.1
    (fun _ => ⟨first, hfirst, .inl ⟨hkind, hstart⟩⟩) .before
  have htrailing : (nearest unit .after field.stop following).filter
      (·.token.line = field.stop.line) =
        (trailing? tokens field following).map fun token => ⟨token, some file⟩ := by
    rw [hbehind, Option.filter_map]
    rfl
  show (fieldComment unit previous following field).1 = _ ∧
    (fieldComment unit previous following field).2.offset = _ ∧
    (fieldComment unit previous following field).2.file = _
  unfold fieldComment placeBehind
  simp only [htrailing]
  cases trailing? tokens field following with
  | some token => exact ⟨rfl, rfl, rfl⟩
  | none =>
    refine ⟨?_, rfl, hin.2.2⟩
    show linesBefore unit previous (unit.cursor p).start = _
    unfold linesBefore
    rw [hfront, Option.none_or]
    show Found.lines ((leading? tokens previous.offset field).map _) = _
    cases leading? tokens previous.offset field <;> rfl

/-- The field that a part of a definition is, with its description. -/
def Member.described? : Member → Option (Nat × List String)
  | nested _ => none
  | field _ cursor description => some (cursor, description)

/-- **Fields are read with their comments.** -/
theorem described_membersFrom (hname : unit.files[file]? = some name)
    (htokens : unit.tokens[file]? = some tokens) (horder : InOrder tokens)
    (previous : Location) (parts : List Nat) (h : Laid unit file tokens stop parts)
    (hprevious : previous.file = some file) :
    (membersFrom unit stop previous parts).filterMap Member.described? =
      (commentsFrom unit tokens stop previous.offset parts).map fun d => (d.1, linesOf d.2) := by
  fun_induction membersFrom unit stop previous parts with
  | case1 => rfl
  | case2 previous p rest hp description next hcomment ih =>
    obtain ⟨hlines, hoffset, hfile⟩ := fieldComment_eq hname htokens horder h hprevious
    rw [hcomment] at hlines hoffset hfile
    rw [commentsFrom_cons_field hp, List.map_cons, ← hlines, ← hoffset, ← ih h.tail hfile]
    rfl
  | case3 previous p hp =>
    rw [commentsFrom_cons_nested hp]
    rfl
  | case4 previous p hp field more hfield description next hcomment ih =>
    obtain ⟨hlines, hoffset, hfile⟩ := fieldComment_eq hname htokens horder h.tail hprevious
    rw [hcomment] at hlines hoffset hfile
    rw [commentsFrom_cons_nested hp, commentsFrom_cons_field hfield, List.map_cons, ← hlines,
      ← hoffset, ← ih h.tail.tail hfile]
    rfl
  | case5 previous p hp field more hfield ih =>
    rw [commentsFrom_cons_nested hp, ← ih h.tail hprevious]
    rfl

/-! ## Gaps -/

/-- Where the gap in front of a part starts that stands between `before` and `after`: behind the last
field in front of it and the comment behind that field, or at `start` if there is none. -/
def GapStart (unit : ParsedUnit) (tokens : List Token) (stop : Location) (start : Nat)
    (before after : List Nat) (place : Nat) : Prop :=
  ((∀ q ∈ before, isField unit q = false) ∧ place = start) ∨
    ∃ front p behind, before = front ++ p :: behind ∧ isField unit p = true ∧
      (∀ q ∈ behind, isField unit q = false) ∧
      place = placeBehind tokens (unit.cursor p) (followingLocation unit stop (behind ++ after))

theorem eq_of_last_field {added behind behind' : List Nat} {p p' : Nat}
    (heq : p :: behind = added ++ p' :: behind') (hp' : isField unit p' = true)
    (hbehind : ∀ q ∈ behind, isField unit q = false) : p = p' ∧ behind = behind' := by
  cases added with
  | nil => exact List.cons.inj heq
  | cons q added =>
    -- the later field would be among those behind the last one
    have hmem : p' ∈ behind := by
      rw [(List.cons.inj heq).2]
      simp
    rw [hbehind p' hmem] at hp'
    cases hp'

/-- A gap starts at one place. -/
theorem GapStart.unique {start : Nat} {before after : List Nat} {place place' : Nat}
    (h : GapStart unit tokens stop start before after place)
    (h' : GapStart unit tokens stop start before after place') : place = place' := by
  rcases h with ⟨hnone, rfl⟩ | ⟨front, p, behind, hbefore, hp, hbehind, rfl⟩ <;>
    rcases h' with ⟨hnone', rfl⟩ | ⟨front', p', behind', hbefore', hp', hbehind', rfl⟩
  · rfl
  · rw [hnone p' (by simp [hbefore'])] at hp'
    cases hp'
  · rw [hnone' p (by simp [hbefore])] at hp
    cases hp
  · have hsame : p = p' ∧ behind = behind' := by
      rcases List.append_eq_append_iff.1 (hbefore.symm.trans hbefore') with
        ⟨added, _, heq⟩ | ⟨added, _, heq⟩
      · exact eq_of_last_field heq hp' hbehind
      · obtain ⟨hp, hbehind⟩ := eq_of_last_field heq hp hbehind'
        exact ⟨hp.symm, hbehind.symm⟩
    rw [hsame.1, hsame.2]

/-- **Each field has the comment behind it, or else the last one in its gap.** -/
theorem exists_gapStart (unit : ParsedUnit) (tokens : List Token) (stop : Location) (start : Nat)
    (before : List Nat) (p : Nat) (after : List Nat) (hp : isField unit p = true) :
    ∃ place, GapStart unit tokens stop start before (p :: after) place ∧
      (commentsFrom unit tokens stop start (before ++ p :: after))[
        (before.filter (isField unit)).length]? =
          some (p, (trailing? tokens (unit.cursor p) (followingLocation unit stop after)).or
            (leading? tokens place (unit.cursor p))) := by
  induction before generalizing start with
  | nil =>
    refine ⟨start, .inl ⟨fun q hq => absurd hq List.not_mem_nil, rfl⟩, ?_⟩
    rw [List.nil_append, commentsFrom_cons_field hp]
    rfl
  | cons q before ih =>
    by_cases hq : isField unit q = true
    · obtain ⟨place, hgap, hget⟩ := ih (placeBehind tokens (unit.cursor q)
        (followingLocation unit stop (before ++ p :: after)))
      refine ⟨place, .inr ?_, ?_⟩
      · rcases hgap with ⟨hnone, hplace⟩ | ⟨front, last, behind, rfl, hlast, hnone, hplace⟩
        · exact ⟨[], q, before, rfl, hq, hnone, hplace⟩
        · exact ⟨q :: front, last, behind, rfl, hlast, hnone, hplace⟩
      · rw [List.cons_append, commentsFrom_cons_field hq, List.filter_cons_of_pos hq,
          List.length_cons, List.getElem?_cons_succ]
        exact hget
    · obtain ⟨place, hgap, hget⟩ := ih start
      refine ⟨place, ?_, ?_⟩
      · rcases hgap with ⟨hnone, hplace⟩ | ⟨front, last, behind, rfl, hlast, hnone, hplace⟩
        · refine .inl ⟨fun other hother => ?_, hplace⟩
          rcases List.mem_cons.1 hother with rfl | hmem
          · simpa using hq
          · exact hnone other hmem
        · exact .inr ⟨q :: front, last, behind, rfl, hlast, hnone, hplace⟩
      · rw [List.cons_append, commentsFrom_cons_nested hq, List.filter_cons_of_neg hq]
        exact hget

theorem fst_commentsFrom (unit : ParsedUnit) (tokens : List Token) (stop : Location) (place : Nat)
    (parts : List Nat) :
    (commentsFrom unit tokens stop place parts).map (·.1) = parts.filter (isField unit) := by
  induction parts generalizing place with
  | nil => rfl
  | cons p rest ih =>
    by_cases hp : isField unit p = true
    · rw [commentsFrom_cons_field hp, List.map_cons, ih, List.filter_cons_of_pos hp]
    · rw [commentsFrom_cons_nested hp, ih, List.filter_cons_of_neg hp]

/-! ## No comment describes two fields -/

theorem mem_of_trailing {field : Cursor} {following : Location} {t : Token}
    (h : trailing? tokens field following = some t) :
    t ∈ commentsIn tokens field.stop.offset following.offset := by
  unfold trailing? at h
  exact List.mem_of_mem_head? (Option.filter_eq_some_iff.1 h).1

theorem le_placeBehind (horder : InOrder tokens) (field : Cursor) (following : Location) :
    field.stop.offset ≤ placeBehind tokens field following := by
  unfold placeBehind
  cases htrailing : trailing? tokens field following with
  | none => exact Nat.le_refl _
  | some t =>
    obtain ⟨hmem, _, hstart, _⟩ := mem_commentsIn.1 (mem_of_trailing htrailing)
    have hpos := horder.nonempty t hmem
    simp only [Option.map_some, Option.getD_some]
    omega

/-- What a field leaves for those behind it: its end and the comment behind it lie in front of their
ends. -/
theorem placeBehind_le {p : Nat} {rest : List Nat} (h : Laid unit file tokens stop (p :: rest))
    {q : Nat} (hq : q ∈ rest) :
    placeBehind tokens (unit.cursor p) (followingLocation unit stop rest) ≤
      (unit.cursor q).stop.offset := by
  unfold placeBehind
  cases htrailing : trailing? tokens (unit.cursor p) (followingLocation unit stop rest) with
  | none => exact (List.pairwise_cons.1 h.stops).1 q hq
  | some t =>
    have hstop := (mem_commentsIn.1 (mem_of_trailing htrailing)).2.2.2
    have hextent := (h.tail.extent q hq).2
    cases rest with
    | nil => cases hq
    | cons next rest =>
      have hnext : (unit.cursor next).location.offset ≤ (unit.cursor q).location.offset := by
        rcases List.mem_cons.1 hq with rfl | hmem
        · exact Nat.le_refl _
        · exact (List.pairwise_cons.1 h.tail.locations).1 q hmem
      simp only [followingLocation] at hstop
      simp only [Option.map_some, Option.getD_some]
      omega

/-- The comment of a field stands behind the start of its gap and in front of the next gap. -/
theorem between_of_taken {p : Nat} {rest : List Nat} (h : Laid unit file tokens stop (p :: rest))
    {place : Nat} {t : Token}
    (ht : t ∈ (trailing? tokens (unit.cursor p) (followingLocation unit stop rest)).or
      (leading? tokens place (unit.cursor p))) :
    t ∈ tokens ∧ (place ≤ (unit.cursor p).stop.offset → place ≤ t.start) ∧
      t.stop ≤ placeBehind tokens (unit.cursor p) (followingLocation unit stop rest) := by
  unfold placeBehind
  cases htrailing : trailing? tokens (unit.cursor p) (followingLocation unit stop rest) with
  | some token =>
    rw [htrailing, Option.some_or] at ht
    obtain rfl := Option.some.inj ht
    obtain ⟨hmem, _, hstart, _⟩ := mem_commentsIn.1 (mem_of_trailing htrailing)
    exact ⟨hmem, fun hle => Nat.le_trans hle hstart, Nat.le_refl _⟩
  | none =>
    rw [htrailing, Option.none_or] at ht
    obtain ⟨hmem, _, hstart, hstop⟩ := mem_commentsIn.1 (List.mem_of_getLast? ht)
    refine ⟨hmem, fun _ => hstart, Nat.le_trans hstop ?_⟩
    exact (h.extent p List.mem_cons_self).1

/-- **Comments are taken in order.**  Each of them ends in front of the next one, and they stand behind
the place behind which the first one is looked for if all parts end there. -/
theorem pairwise_commentsFrom (horder : InOrder tokens) (place : Nat) (parts : List Nat)
    (h : Laid unit file tokens stop parts) :
    let taken := (commentsFrom unit tokens stop place parts).filterMap (·.2)
    (∀ t ∈ taken, t ∈ tokens) ∧ taken.Pairwise (fun a b => a.stop ≤ b.start) ∧
      ((∀ p ∈ parts, place ≤ (unit.cursor p).stop.offset) → ∀ t ∈ taken, place ≤ t.start) := by
  induction parts generalizing place with
  | nil => exact ⟨fun t ht => absurd ht List.not_mem_nil, .nil, fun _ t ht => nomatch ht⟩
  | cons p rest ih =>
    by_cases hp : isField unit p = true
    · obtain ⟨hmem, hsorted, hbehind⟩ := ih (placeBehind tokens (unit.cursor p)
        (followingLocation unit stop rest)) h.tail
      have hnext := hbehind fun q hq => placeBehind_le h hq
      have hle := le_placeBehind horder (unit.cursor p) (followingLocation unit stop rest)
      rw [commentsFrom_cons_field hp, List.filterMap_cons]
      dsimp only
      cases htaken : (trailing? tokens (unit.cursor p) (followingLocation unit stop rest)).or
          (leading? tokens place (unit.cursor p)) with
      | none =>
        refine ⟨hmem, hsorted, fun hplace t ht => ?_⟩
        have hstop := hplace p List.mem_cons_self
        have hstart := hnext t ht
        omega
      | some t =>
        obtain ⟨hin, hstart, hstop⟩ := between_of_taken h htaken
        refine ⟨fun u hu => ?_, List.pairwise_cons.2 ⟨fun u hu => ?_, hsorted⟩, fun hplace u hu => ?_⟩
        · rcases List.mem_cons.1 hu with rfl | hu
          · exact hin
          · exact hmem u hu
        · exact Nat.le_trans hstop (hnext u hu)
        · have hbefore := hplace p List.mem_cons_self
          rcases List.mem_cons.1 hu with rfl | hu
          · exact hstart hbefore
          · have hafter := hnext u hu
            omega
    · rw [commentsFrom_cons_nested hp]
      obtain ⟨hmem, hsorted, hbehind⟩ := ih place h.tail
      exact ⟨hmem, hsorted, fun hplace => hbehind fun q hq => hplace q (List.mem_cons_of_mem _ hq)⟩

/-- **No comment describes two fields.** -/
theorem nodup_commentsFrom (horder : InOrder tokens) (place : Nat) {parts : List Nat}
    (h : Laid unit file tokens stop parts) :
    ((commentsFrom unit tokens stop place parts).filterMap (·.2)).Nodup := by
  obtain ⟨hmem, hsorted, _⟩ := pairwise_commentsFrom horder place parts h
  refine hsorted.imp_of_mem fun {a b} ha _ hab => ?_
  rintro rfl
  have hpos := horder.nonempty a (hmem a ha)
  omega

end HeaderIndex.Reader
