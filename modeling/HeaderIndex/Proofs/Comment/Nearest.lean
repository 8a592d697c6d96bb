import HeaderIndex.Comment.Nearest
import Mathlib.Tactic

/-!
# The comment next to a place

* `commentsIn` — the comments of a range, by where they start and end.
* `nearest_eq_pick` — what is found next to a place is the last or the first of them, though the
  tokens of a range go on to one that crosses its end.
* `nearest_eq_some_iff` — so it is the comment of the range behind or in front of which there is no
  other.
* `lastComment` — the last comment of a file that ends in front of a place and starts behind given
  ends.
* `nearest_eq_lastComment` — what is found in a gap is the last comment behind the start of the gap.
* `lastComment_eq_filter` — ends never lead to another comment: either the last comment in front of
  the place stands behind all of them, or there is none.
-/

namespace HeaderIndex.Comment

/-- Whether tokens are in order, none of them empty. -/
structure InOrder (tokens : List Token) : Prop where
  sorted : tokens.Pairwise fun a b => a.stop ≤ b.start
  nonempty : ∀ token ∈ tokens, token.start < token.stop

theorem InOrder.tail {token : Token} {rest : List Token} (h : InOrder (token :: rest)) :
    InOrder rest :=
  ⟨h.sorted.of_cons, fun t ht => h.nonempty t (List.mem_cons_of_mem _ ht)⟩

theorem InOrder.filter {tokens : List Token} (h : InOrder tokens) (p : Token → Bool) :
    InOrder (tokens.filter p) :=
  ⟨h.sorted.filter p, fun t ht => h.nonempty t (List.mem_filter.1 ht).1⟩

/-! ## The comments of a range -/

/-- The comments that start at the start of a range or behind it and end at its end or in front. -/
def commentsIn (tokens : List Token) (start stop : Nat) : List Token :=
  tokens.filter fun t => t.kind = .comment ∧ start ≤ t.start ∧ t.stop ≤ stop

/-- Whether a token that is no comment starts at the end of a range, or one behind the start of the
range ends there.  No comment crosses such an end. -/
def EndsAtToken (tokens : List Token) (start stop : Nat) : Prop :=
  ∃ t ∈ tokens, (t.kind ≠ .comment ∧ t.start = stop) ∨ (start ≤ t.start ∧ t.stop = stop)

theorem mem_commentsIn {tokens : List Token} {start stop : Nat} {t : Token} :
    t ∈ commentsIn tokens start stop ↔
      t ∈ tokens ∧ t.kind = .comment ∧ start ≤ t.start ∧ t.stop ≤ stop := by
  simp [commentsIn, List.mem_filter]

/-- There is no comment between two places in the wrong order. -/
theorem commentsIn_of_lt {tokens : List Token} (h : InOrder tokens) {start stop : Nat}
    (hlt : stop < start) : commentsIn tokens start stop = [] := by
  unfold commentsIn
  rw [List.filter_eq_nil_iff]
  intro t ht
  have hpos := h.nonempty t ht
  simp only [decide_eq_true_eq, not_and]
  intro _ hstart
  omega

/-- The comments up to a place that no comment crosses are those that end in front of it. -/
theorem filter_takeThrough {tokens : List Token} (h : InOrder tokens) {stop : Nat}
    (hend : ∃ t ∈ tokens, (t.kind ≠ .comment ∧ t.start = stop) ∨ t.stop = stop) :
    (ParsedUnit.takeThrough stop tokens).filter (·.kind = .comment) =
      tokens.filter fun t => t.kind = .comment ∧ t.stop ≤ stop := by
  induction tokens with
  | nil =>
    obtain ⟨t, ht, _⟩ := hend
    cases ht
  | cons token rest ih =>
    obtain ⟨last, hlast, hend⟩ := hend
    have hbehind := (List.pairwise_cons.1 h.sorted).1
    have hpos := h.nonempty token List.mem_cons_self
    unfold ParsedUnit.takeThrough
    split
    · rename_i hstop
      -- nothing behind the last token of the range ends in front of the place
      have hrest : rest.filter (fun t => t.kind = .comment ∧ t.stop ≤ stop) = [] := by
        rw [List.filter_eq_nil_iff]
        intro t ht
        have hstart := hbehind t ht
        have hlt := h.nonempty t (List.mem_cons_of_mem _ ht)
        simp only [decide_eq_true_eq, not_and]
        intro _
        omega
      -- and that token itself does not, unless it ends right there
      have htoken : token.kind = .comment → token.stop ≤ stop := by
        intro hkind
        rcases List.mem_cons.1 hlast with rfl | hmem
        · rcases hend with ⟨hother, _⟩ | heq
          · exact absurd hkind hother
          · omega
        · have hle := hbehind last hmem
          have hlt := h.nonempty last hlast
          rcases hend with ⟨_, heq⟩ | heq <;> omega
      by_cases hkind : token.kind = .comment
      · simp only [List.filter_cons, List.filter_nil, hrest, hkind, htoken hkind, and_self,
          decide_true]
      · simp only [List.filter_cons, List.filter_nil, hrest, hkind, false_and, decide_false]
    · rename_i hstop
      have hmem : last ∈ rest := by
        rcases List.mem_cons.1 hlast with rfl | hmem
        · rcases hend with ⟨_, heq⟩ | heq <;> omega
        · exact hmem
      have hle : token.stop ≤ stop := by omega
      simp only [List.filter_cons, ih h.tail ⟨last, hmem, hend⟩, hle, and_true]

/-- The one of some tokens in order that is nearest to a declaration at one side of them. -/
def Side.pick (side : Side) (tokens : List Token) : Option Token :=
  match side with
  | .before => tokens.getLast?
  | .after => tokens.head?

/-- **What is found next to a place** is the nearest one of the comments within the range. -/
theorem nearest_eq_pick {unit : ParsedUnit} {file : Nat} {name : String} {tokens : List Token}
    {start stop : Location} (hname : unit.files[file]? = some name)
    (htokens : unit.tokens[file]? = some tokens) (h : InOrder tokens)
    (hstart : start.file = some file) (hstop : stop.file = some file)
    (hend : start.offset ≤ stop.offset → EndsAtToken tokens start.offset stop.offset) (side : Side) :
    nearest unit side start stop =
      (side.pick (commentsIn tokens start.offset stop.offset)).map fun token =>
        ⟨token, some file⟩ := by
  have hrange : isRange unit start stop = decide (start.offset ≤ stop.offset) := by
    simp [isRange, ParsedUnit.fileName?, hstart, hstop, hname]
  unfold nearest
  rw [hrange]
  by_cases hle : start.offset ≤ stop.offset
  · have hend' : ∃ t ∈ tokens.filter (start.offset ≤ ·.start),
        (t.kind ≠ .comment ∧ t.start = stop.offset) ∨ t.stop = stop.offset := by
      obtain ⟨t, ht, hend⟩ := hend hle
      refine ⟨t, List.mem_filter.2 ⟨ht, ?_⟩, hend.imp_right fun hend => hend.2⟩
      rcases hend with ⟨_, heq⟩ | ⟨hfrom, _⟩
      · simp only [decide_eq_true_eq]
        omega
      · simpa using hfrom
    have hbetween : (unit.tokensBetween start stop).filter (·.kind = .comment) =
        commentsIn tokens start.offset stop.offset := by
      simp only [ParsedUnit.tokensBetween, hstart, hstop, htokens, Option.getD_some, if_true]
      rw [filter_takeThrough (h.filter _) hend', List.filter_filter]
      unfold commentsIn
      refine List.filter_congr fun t _ => ?_
      simp only [← Bool.decide_and, and_comm, and_left_comm]
    simp only [hle, decide_true, if_true]
    rw [hbetween, hstart]
    cases side <;> rfl
  · rw [commentsIn_of_lt h (by omega)]
    simp only [hle, decide_false, Bool.false_eq_true, if_false]
    cases side <;> rfl

/-! ## The nearest of them -/

/-- The last of some tokens in order, by what is behind it. -/
theorem getLast?_eq_some_iff_of_inOrder {tokens : List Token} (h : InOrder tokens) {t : Token} :
    tokens.getLast? = some t ↔ t ∈ tokens ∧ ∀ other ∈ tokens, ¬ t.stop ≤ other.start := by
  rw [List.getLast?_eq_some_iff]
  constructor
  · rintro ⟨front, rfl⟩
    refine ⟨by simp, fun other hother hle => ?_⟩
    have hpos := h.nonempty t (by simp)
    have hpos' := h.nonempty other hother
    rcases List.mem_append.1 hother with hfront | hlast
    · have hbefore := (List.pairwise_append.1 h.sorted).2.2 other hfront t (by simp)
      omega
    · rw [List.mem_singleton.1 hlast] at hle
      omega
  · rintro ⟨hmem, hbehind⟩
    obtain ⟨front, rest, rfl⟩ := List.append_of_mem hmem
    cases rest with
    | nil => exact ⟨front, rfl⟩
    | cons next rest =>
      have hnext := (List.pairwise_cons.1 (List.pairwise_append.1 h.sorted).2.1).1 next
        List.mem_cons_self
      exact absurd hnext (hbehind next (by simp))

/-- The first of some tokens in order, by what is in front of it. -/
theorem head?_eq_some_iff_of_inOrder {tokens : List Token} (h : InOrder tokens) {t : Token} :
    tokens.head? = some t ↔ t ∈ tokens ∧ ∀ other ∈ tokens, ¬ other.stop ≤ t.start := by
  cases tokens with
  | nil => simp
  | cons first rest =>
    have hbehind := (List.pairwise_cons.1 h.sorted).1
    have hpos := h.nonempty first List.mem_cons_self
    rw [List.head?_cons, Option.some.injEq]
    constructor
    · rintro rfl
      refine ⟨List.mem_cons_self, fun other hother hle => ?_⟩
      have hpos' := h.nonempty other hother
      rcases List.mem_cons.1 hother with rfl | hrest
      · omega
      · have hafter := hbehind other hrest
        omega
    · rintro ⟨hmem, hfront⟩
      rcases List.mem_cons.1 hmem with rfl | hrest
      · rfl
      · exact absurd (hbehind t hrest) (hfront first List.mem_cons_self)

/-- Whether one token stands between another one and a declaration at one side of both. -/
def Side.Between (side : Side) (other t : Token) : Prop :=
  match side with
  | .before => t.stop ≤ other.start
  | .after => other.stop ≤ t.start

theorem Side.pick_eq_some_iff {tokens : List Token} (h : InOrder tokens) {side : Side} {t : Token} :
    side.pick tokens = some t ↔ t ∈ tokens ∧ ∀ other ∈ tokens, ¬ side.Between other t := by
  cases side with
  | before => exact getLast?_eq_some_iff_of_inOrder h
  | after => exact head?_eq_some_iff_of_inOrder h

/-- **The nearest comment of a range.**  In a file whose tokens are in order, let a range end where no
comment goes on.  What is found at one side of it is a comment that starts at the start of the range or
behind it, ends at the end of the range or in front, and has no other such comment between itself and
that side; it comes with its text.  Nothing is found just if the range has no such comment. -/
theorem nearest_eq_some_iff {unit : ParsedUnit} {file : Nat} {name : String} {tokens : List Token}
    {start stop : Location} (hname : unit.files[file]? = some name)
    (htokens : unit.tokens[file]? = some tokens) (h : InOrder tokens)
    (hstart : start.file = some file) (hstop : stop.file = some file)
    (hend : EndsAtToken tokens start.offset stop.offset) (side : Side) :
    let answer := nearest unit side start stop
    let within (t : Token) :=
      t ∈ tokens ∧ t.kind = .comment ∧ start.offset ≤ t.start ∧ t.stop ≤ stop.offset
    (∀ t place, answer = some ⟨t, place⟩ ↔
        place = some file ∧ within t ∧ ∀ other, within other → ¬ side.Between other t) ∧
      (answer = none ↔ ∀ t, ¬ within t) ∧
      Found.lines answer = ((answer.map fun found => lines found.token.spelling).getD []) := by
  intro answer within
  have hmem : ∀ t, t ∈ commentsIn tokens start.offset stop.offset ↔ within t := fun t => mem_commentsIn
  have horder : InOrder (commentsIn tokens start.offset stop.offset) := h.filter _
  have hanswer : answer = (side.pick (commentsIn tokens start.offset stop.offset)).map fun token =>
      ⟨token, some file⟩ := nearest_eq_pick hname htokens h hstart hstop (fun _ => hend) side
  refine ⟨fun t place => ?_, ?_, ?_⟩
  · rw [hanswer, Option.map_eq_some_iff]
    simp only [Found.mk.injEq]
    constructor
    · rintro ⟨token, hpick, rfl, rfl⟩
      obtain ⟨hin, hnone⟩ := (Side.pick_eq_some_iff horder).1 hpick
      exact ⟨rfl, (hmem token).1 hin, fun other hother => hnone other ((hmem other).2 hother)⟩
    · rintro ⟨rfl, hin, hnone⟩
      refine ⟨t, (Side.pick_eq_some_iff horder).2 ⟨(hmem t).2 hin, fun other hother => ?_⟩, rfl, rfl⟩
      exact hnone other ((hmem other).1 hother)
  · rw [hanswer, Option.map_eq_none_iff]
    have hnil : side.pick (commentsIn tokens start.offset stop.offset) = none ↔
        commentsIn tokens start.offset stop.offset = [] := by
      cases side with
      | before => exact List.getLast?_eq_none_iff
      | after => exact List.head?_eq_none_iff
    rw [hnil, List.eq_nil_iff_forall_not_mem]
    exact forall_congr' fun t => not_congr (hmem t)
  · cases answer <;> rfl

/-- Two comments between declarations, and one within the second of them:
`int a; /* one */ /* two */ int /* three */ b;` -/
def twoComments : ParsedUnit where
  files := #["two.h"]
  tokens := #[[⟨.keyword, "int", 0, 3, 1⟩, ⟨.identifier, "a", 4, 5, 1⟩, ⟨.punctuation, ";", 5, 6, 1⟩,
    ⟨.comment, "/* one */", 7, 16, 1⟩, ⟨.comment, "/* two */", 17, 26, 1⟩,
    ⟨.keyword, "int", 27, 30, 1⟩, ⟨.comment, "/* three */", 31, 42, 1⟩,
    ⟨.identifier, "b", 43, 44, 1⟩, ⟨.punctuation, ";", 44, 45, 1⟩]]
  cursors := #[]
  types := #[]
  top := []
  includes := []
  diagnostics := []

/-- The second comment is the one in front of the second declaration, the first the one behind the
first declaration. -/
theorem nearest_eq_some_iff_twoComments :
    ∃ tokens, twoComments.tokens[0]? = some tokens ∧ InOrder tokens ∧ EndsAtToken tokens 5 27 ∧
      nearest twoComments .before ⟨some 0, 5, 1⟩ ⟨some 0, 27, 1⟩ =
        some ⟨⟨.comment, "/* two */", 17, 26, 1⟩, some 0⟩ ∧
      nearest twoComments .after ⟨some 0, 5, 1⟩ ⟨some 0, 27, 1⟩ =
        some ⟨⟨.comment, "/* one */", 7, 16, 1⟩, some 0⟩ := by
  have horder : InOrder (twoComments.tokens[0]?.getD []) := ⟨by decide, by decide⟩
  have hend : EndsAtToken (twoComments.tokens[0]?.getD []) 5 27 :=
    ⟨⟨.keyword, "int", 27, 30, 1⟩, by decide, .inl (by decide)⟩
  have hfound := @nearest_eq_some_iff twoComments 0 "two.h" _ ⟨some 0, 5, 1⟩ ⟨some 0, 27, 1⟩ rfl rfl
    horder rfl rfl hend
  refine ⟨_, rfl, horder, hend, ?_, ?_⟩
  · refine ((hfound .before).1 _ _).2 ⟨rfl, by decide, fun other hother => ?_⟩
    have hlast : ∀ t ∈ twoComments.tokens[0]?.getD [], t.kind = .comment ∧ 5 ≤ t.start ∧ t.stop ≤ 27 →
        ¬ 26 ≤ t.start := by decide
    exact hlast other hother.1 hother.2
  · refine ((hfound .after).1 _ _).2 ⟨rfl, by decide, fun other hother => ?_⟩
    have hfirst : ∀ t ∈ twoComments.tokens[0]?.getD [], t.kind = .comment ∧ 5 ≤ t.start ∧ t.stop ≤ 27 →
        ¬ t.stop ≤ 7 := by decide
    exact hfirst other hother.1 hother.2

/-! ## The last comment behind given ends -/

/-- The last comment that ends in front of a place and starts behind all of some ends. -/
def lastComment (tokens : List Token) (ends : List Nat) (stop : Nat) : Option Token :=
  (tokens.filter fun t => t.kind = .comment ∧ t.stop ≤ stop ∧ ∀ e ∈ ends, e ≤ t.start).getLast?

/-- What is found in front of a token is the last comment behind the start of the gap. -/
theorem nearest_eq_lastComment {unit : ParsedUnit} {file : Nat} {name : String}
    {tokens : List Token} {gap start : Location} {first : Token} {ends : List Nat}
    (hname : unit.files[file]? = some name)
    (htokens : unit.tokens[file]? = some tokens) (h : InOrder tokens) (hgap : gap.file = some file)
    (hstart : start.file = some file) (hmem : first ∈ tokens) (hkind : first.kind ≠ .comment)
    (hfirst : first.start = start.offset)
    (hends : ∀ place, gap.offset ≤ place ↔ ∀ e ∈ ends, e ≤ place) :
    nearest unit .before gap start =
      (lastComment tokens ends start.offset).map fun token => ⟨token, some file⟩ := by
  have hcomments : commentsIn tokens gap.offset start.offset = tokens.filter fun t =>
      t.kind = .comment ∧ t.stop ≤ start.offset ∧ ∀ e ∈ ends, e ≤ t.start := by
    unfold commentsIn
    refine List.filter_congr fun t _ => ?_
    simp only [hends, and_comm]
  rw [nearest_eq_pick hname htokens h hgap hstart (fun _ => ⟨first, hmem, .inl ⟨hkind, hfirst⟩⟩),
    hcomments]
  rfl

/-! ## Ends only hide the last comment -/

/-- The last element with a property that passes on to what follows. -/
theorem getLast?_filter_of_pairwise {α : Type} {p : α → Bool} {l : List α}
    (h : l.Pairwise fun a b => p a = true → p b = true) :
    (l.filter p).getLast? = l.getLast?.filter p := by
  rcases List.eq_nil_or_concat l with rfl | ⟨l, b, rfl⟩
  · rfl
  · rw [List.concat_eq_append] at h ⊢
    have hlast : ∀ a ∈ l, p a = true → p b = true := fun a ha =>
      (List.pairwise_append.1 h).2.2 a ha b (List.mem_singleton_self b)
    by_cases hb : p b = true
    · simp [List.filter_append, Option.filter, hb]
    · have hnil : l.filter p = [] := List.filter_eq_nil_iff.2 fun a ha hp => hb (hlast a ha hp)
      simp [List.filter_append, Option.filter, hb, hnil]

/-- **Ends never lead to another comment.**  The last comment behind them is the last one in front
of the place, or there is none. -/
theorem lastComment_eq_filter {tokens : List Token} (h : InOrder tokens) (ends : List Nat)
    (stop : Nat) :
    lastComment tokens ends stop =
      (lastComment tokens [] stop).filter fun t => ∀ e ∈ ends, e ≤ t.start := by
  unfold lastComment
  rw [← getLast?_filter_of_pairwise, List.filter_filter]
  · congr 1
    refine List.filter_congr fun t _ => ?_
    simp [Bool.and_comm, ← Bool.and_assoc]
  · refine List.Pairwise.imp_of_mem ?_ (h.filter _).sorted
    intro a b ha _ hab
    have hpos := (h.filter _).nonempty a ha
    simp only [decide_eq_true_eq]
    intro hends e he
    have hle := hends e he
    omega

/-! ## The last of some comments -/

theorem lastComment_eq_some_iff {tokens : List Token} (h : InOrder tokens) {ends : List Nat}
    {stop : Nat} {t : Token} (ht : t ∈ tokens) (hkind : t.kind = .comment) (hstop : t.stop ≤ stop) :
    lastComment tokens ends stop = some t ↔ (∀ e ∈ ends, e ≤ t.start) ∧
      ∀ other ∈ tokens, other.kind = .comment → t.stop ≤ other.start → stop < other.stop := by
  rw [lastComment, getLast?_eq_some_iff_of_inOrder (h.filter _)]
  simp only [List.mem_filter, decide_eq_true_eq]
  have hpos := h.nonempty t ht
  constructor
  · rintro ⟨⟨_, _, _, hends⟩, hlast⟩
    refine ⟨hends, fun other hother hcomment hle => ?_⟩
    by_contra hge
    refine hlast other ⟨hother, hcomment, by omega, fun e he => ?_⟩ hle
    have hebefore := hends e he
    omega
  · rintro ⟨hends, hlast⟩
    refine ⟨⟨ht, hkind, hstop, hends⟩, fun other ⟨hother, hcomment, hbefore, _⟩ hle => ?_⟩
    have hbehind := hlast other hother hcomment hle
    omega

/-- What starts in front of a place belongs to the tokens up to it. -/
theorem mem_takeThrough {tokens : List Token} (h : InOrder tokens) {t : Token} (ht : t ∈ tokens)
    {stop : Nat} (hstart : t.start < stop) : t ∈ ParsedUnit.takeThrough stop tokens := by
  induction tokens with
  | nil => cases ht
  | cons token rest ih =>
    unfold ParsedUnit.takeThrough
    rcases List.mem_cons.1 ht with rfl | hrest
    · split <;> exact List.mem_cons_self
    · have hbefore := (List.pairwise_cons.1 h.sorted).1 t hrest
      rw [if_neg (by omega)]
      exact List.mem_cons_of_mem _ (ih h.tail hrest)

theorem takeThrough_sublist (stop : Nat) (tokens : List Token) :
    (ParsedUnit.takeThrough stop tokens).Sublist tokens := by
  induction tokens with
  | nil => exact .slnil
  | cons token rest ih =>
    unfold ParsedUnit.takeThrough
    split
    · exact List.singleton_sublist.2 List.mem_cons_self
    · exact ih.cons_cons token

/-- What is found in a gap stands in it, and no other comment stands behind it. -/
theorem nearest_before_eq_some {unit : ParsedUnit} {gap start : Location} {file : Nat}
    {t : Token} (h : InOrder (unit.tokens[file]?.getD []))
    (hfound : nearest unit .before gap start = some ⟨t, some file⟩) :
    gap.offset ≤ t.start ∧ ∀ other ∈ unit.tokens[file]?.getD [], other.kind = .comment →
      t.stop ≤ other.start → start.offset < other.stop := by
  unfold nearest at hfound
  split at hfound
  · dsimp only at hfound
    obtain ⟨token, hlast, hsame⟩ := Option.map_eq_some_iff.1 hfound
    obtain ⟨rfl, hfile⟩ := Found.mk.inj hsame
    unfold ParsedUnit.tokensBetween at hlast
    rw [hfile] at hlast
    dsimp only at hlast
    split at hlast
    · have hgap := h.filter fun t => gap.offset ≤ t.start
      have hcomments : InOrder ((ParsedUnit.takeThrough start.offset
          ((unit.tokens[file]?.getD []).filter fun t => gap.offset ≤ t.start)).filter
            (·.kind = .comment)) :=
        InOrder.filter ⟨hgap.sorted.sublist (takeThrough_sublist _ _),
          fun t ht => hgap.nonempty t ((takeThrough_sublist _ _).subset ht)⟩ _
      obtain ⟨hmem, hbehind⟩ := (getLast?_eq_some_iff_of_inOrder hcomments).1 hlast
      have hin := (takeThrough_sublist _ _).subset (List.mem_filter.1 hmem).1
      have hoffset : gap.offset ≤ token.start := by simpa using (List.mem_filter.1 hin).2
      have hpos := hcomments.nonempty token hmem
      refine ⟨hoffset, fun other hother hkind hle => ?_⟩
      by_contra hge
      have hpos' := h.nonempty other hother
      refine hbehind other (List.mem_filter.2 ⟨mem_takeThrough hgap ?_ ?_, by simpa using hkind⟩) hle
      · exact List.mem_filter.2 ⟨hother, by simp; omega⟩
      · omega
    · cases hlast
  · cases hfound

end HeaderIndex.Comment
