import HeaderIndex.Comment.Markup
import Mathlib.Data.List.Dedup
import Mathlib.Data.List.Induction
import Mathlib.Tactic

/-!
# Where the lines of a comment go

The comment of a function or an enumeration is cut into parts: a description, texts under names, and
what is said about a result.  Where a line goes is said by its tags or by those of the lines before.

* `Marks` — how lines are read: what is left of a line without its tags, the name whose text starts
  in it, and the part that it and the lines behind it go to.
* `partAt`, `isReplaced`, `collected` — the part of a line, whether its text is started anew behind
  it, and the lines of a part that are not.
* `foldl_add` — going through the lines one by one collects just these.
* `length_collected` — a line that is in no part is one that was replaced.
* `split_collects` — what the two ways to cut a comment put where.
-/

namespace HeaderIndex.Comment

/-- Where a line goes. -/
inductive Part where
  | description
  /-- to the text under a name -/
  | named (name : String)
  | result
  deriving DecidableEq, Repr

/-- How the lines of a comment are read. -/
structure Marks where
  /-- a line without its tags -/
  text : String → String
  /-- the name whose text starts in a line -/
  name? : String → Option String
  /-- where a line and those behind it go, if anything in it says so -/
  part? : String → Option Part
  /-- a line only goes to a text that starts in it, or to that of a line before -/
  named : ∀ {line name}, part? line = some (.named name) → name? line = some name

/-- In the comment of an enumeration, the first constant tagged in a line counts, and a line that is
blank without its tags goes back to the description. -/
def Marks.ofEnumerations : Marks where
  text line := String.ofList (constantTag.strip line.toList).2
  name? line := (constantTag.strip line.toList).1.head?
  part? line :=
    if Text.isBlank (String.ofList (constantTag.strip line.toList).2) then some .description
    else (constantTag.strip line.toList).1.head?.map .named
  named := by
    intro line name h
    split at h
    · cases h
    · obtain ⟨_, hname, ⟨⟩⟩ := Option.map_eq_some_iff.1 h
      exact hname

/-- In the comment of a function, the last parameter tagged in a line counts, and a tag for the
result, in what is left of the line, counts more than it. -/
def Marks.ofFunctions : Marks where
  text line := String.ofList (returnsTag.strip (parameterTag.strip line.toList).2).2
  name? line := (parameterTag.strip line.toList).1.getLast?
  part? line :=
    if (returnsTag.strip (parameterTag.strip line.toList).2).1 = [] then
      (parameterTag.strip line.toList).1.getLast?.map .named
    else some .result
  named := by
    intro line name h
    split at h
    · obtain ⟨_, hname, ⟨⟩⟩ := Option.map_eq_some_iff.1 h
      exact hname
    · cases h

/-! ## The lines of a part -/

section Parts

variable (m : Marks) (comment : List String)

/-- Where a line without tags goes behind some lines: where the last one of them goes that says
something about it. -/
def partBehind : Part := (comment.filterMap m.part?).getLast?.getD .description

/-- Where the line at a position goes. -/
def partAt (position : Nat) : Part := partBehind m (comment.take (position + 1))

/-- Whether a line goes to the text under a name that starts again in a line behind it. -/
def isReplaced (position : Nat) : Bool :=
  match partAt m comment position with
  | .named name => decide (name ∈ (comment.drop (position + 1)).filterMap m.name?)
  | _ => false

/-- The lines of a part, in order and without their tags.  Lines that were replaced are left out. -/
def collected (part : Part) : List String :=
  (comment.zipIdx.filter fun line =>
    partAt m comment line.2 = part ∧ isReplaced m comment line.2 = false).map (m.text ·.1)

/-- The names whose texts start somewhere, in the order in which they first do. -/
def names : List String := (comment.filterMap m.name?).reverse.dedup.reverse

end Parts

variable {m : Marks} {comment : List String}

theorem mem_names {name : String} : name ∈ names m comment ↔ name ∈ comment.filterMap m.name? := by
  simp [names]

theorem nodup_names : (names m comment).Nodup := by
  unfold names
  rw [List.nodup_reverse]
  exact List.nodup_dedup _

/-- A text under a name that lines go to has started before. -/
theorem mem_of_partBehind {name : String} (h : partBehind m comment = .named name) :
    name ∈ comment.filterMap m.name? := by
  unfold partBehind at h
  cases hlast : (comment.filterMap m.part?).getLast? with
  | none => rw [hlast] at h; cases h
  | some part =>
    rw [hlast, Option.getD_some] at h
    subst h
    obtain ⟨line, hline, hpart⟩ := List.mem_filterMap.1 (List.mem_of_getLast? hlast)
    exact List.mem_filterMap.2 ⟨line, hline, m.named hpart⟩

/-! ## One line more -/

theorem partBehind_concat (line : String) :
    partBehind m (comment ++ [line]) = (m.part? line).getD (partBehind m comment) := by
  unfold partBehind
  rw [List.filterMap_append]
  cases hpart : m.part? line <;> simp [hpart]

theorem partAt_concat_of_lt {position : Nat} (h : position < comment.length) (line : String) :
    partAt m (comment ++ [line]) position = partAt m comment position := by
  unfold partAt
  rw [List.take_append_of_le_length h]

theorem partAt_concat_length (line : String) :
    partAt m (comment ++ [line]) comment.length = partBehind m (comment ++ [line]) := by
  unfold partAt
  rw [List.take_of_length_le (by simp)]

/-- A line replaces what went under the name that starts in it. -/
theorem isReplaced_concat_of_lt {position : Nat} (h : position < comment.length) (line : String) :
    isReplaced m (comment ++ [line]) position = true ↔ isReplaced m comment position = true ∨
      (m.name? line).map .named = some (partAt m comment position) := by
  unfold isReplaced
  rw [partAt_concat_of_lt h, List.drop_append_of_le_length h, List.filterMap_append]
  cases partAt m comment position with
  | named name =>
    cases hname : m.name? line with
    | none => simp [hname]
    | some other => simp [hname, @eq_comm _ name other]
  | description | result => simp

theorem isReplaced_concat_length (line : String) :
    isReplaced m (comment ++ [line]) comment.length = false := by
  unfold isReplaced
  rw [List.drop_of_length_le (by simp)]
  split <;> simp

theorem collected_concat (line : String) (part : Part) :
    collected m (comment ++ [line]) part =
      (if (m.name? line).map .named = some part then [] else collected m comment part) ++
        if partBehind m (comment ++ [line]) = part then [m.text line] else [] := by
  have hfront : (comment.zipIdx.filter fun old =>
      partAt m (comment ++ [line]) old.2 = part ∧ isReplaced m (comment ++ [line]) old.2 = false) =
      if (m.name? line).map .named = some part then [] else
        comment.zipIdx.filter fun old =>
          partAt m comment old.2 = part ∧ isReplaced m comment old.2 = false := by
    have hiff : ∀ old ∈ comment.zipIdx,
        (partAt m (comment ++ [line]) old.2 = part ∧
          isReplaced m (comment ++ [line]) old.2 = false ↔
        (m.name? line).map .named ≠ some part ∧
          partAt m comment old.2 = part ∧ isReplaced m comment old.2 = false) := by
      intro old hold
      have hlt : old.2 < comment.length := (List.mem_zipIdx' hold).1
      rw [partAt_concat_of_lt hlt, ← Bool.not_eq_true, isReplaced_concat_of_lt hlt, not_or,
        Bool.not_eq_true]
      constructor
      · rintro ⟨rfl, hkept, hname⟩
        exact ⟨hname, rfl, hkept⟩
      · rintro ⟨hname, rfl, hkept⟩
        exact ⟨rfl, hkept, hname⟩
    split
    · rename_i hstarts
      refine List.filter_eq_nil_iff.2 fun old hold hgoes => ?_
      exact ((hiff old hold).1 (of_decide_eq_true hgoes)).1 hstarts
    · rename_i hother
      refine List.filter_congr fun old hold => ?_
      rw [decide_eq_decide, hiff old hold]
      exact and_iff_right hother
  unfold collected
  rw [List.zipIdx_append, List.filter_append, List.map_append, hfront]
  congr 1
  · split <;> rfl
  · rw [List.zipIdx_singleton, List.filter_singleton, Nat.zero_add, partAt_concat_length,
      isReplaced_concat_length]
    by_cases hpart : partBehind m (comment ++ [line]) = part <;> simp [hpart]

theorem names_concat_of_none {line : String} (h : m.name? line = none) :
    names m (comment ++ [line]) = names m comment := by
  simp [names, h]

theorem names_concat_of_some {line name : String} (h : m.name? line = some name) :
    names m (comment ++ [line]) =
      if name ∈ names m comment then names m comment else names m comment ++ [name] := by
  have hreverse : (List.filterMap m.name? (comment ++ [line])).reverse =
      name :: (comment.filterMap m.name?).reverse := by
    simp [h]
  rw [names, hreverse]
  split
  · rename_i hold
    rw [List.dedup_cons_of_mem (List.mem_reverse.2 (mem_names.1 hold)), names]
  · rename_i hnew
    rw [List.dedup_cons_of_notMem fun hold => hnew (mem_names.2 (List.mem_reverse.1 hold)),
      List.reverse_cons, names]

/-! ## Line after line -/

/-- A comment in parts, and where the next line goes if it does not say so. -/
structure Sorting where
  description : List String
  named : Texts
  result : List String
  current : Part
  deriving DecidableEq, Repr

/-- The texts under names, where the one that starts in a line is started. -/
def Marks.start (m : Marks) (named : Texts) (line : String) : Texts :=
  match m.name? line with
  | some name => named.start name
  | none => named

/-- Puts one line where it goes. -/
def Sorting.add (m : Marks) (s : Sorting) (line : String) : Sorting :=
  let current := (m.part? line).getD s.current
  let named := m.start s.named line
  match current with
  | .description => ⟨s.description ++ [m.text line], named, s.result, current⟩
  | .named name => ⟨s.description, named.add name (m.text line), s.result, current⟩
  | .result => ⟨s.description, named, s.result ++ [m.text line], current⟩

/-- The lines of each part. -/
def Sorting.of (m : Marks) (comment : List String) : Sorting where
  description := collected m comment .description
  named := (names m comment).map fun name => (name, collected m comment (.named name))
  result := collected m comment .result
  current := partBehind m comment

/-- A text that starts anew keeps its place. -/
theorem start_map {keys : List String} (hkeys : keys.Nodup) (f : String → List String)
    (name : String) :
    Texts.start name (keys.map fun key => (key, f key)) =
      (if name ∈ keys then keys else keys ++ [name]).map fun key =>
        (key, if key = name then [] else f key) := by
  induction keys with
  | nil => simp [Texts.start]
  | cons key rest ih =>
    obtain ⟨hkey, hrest⟩ := List.nodup_cons.1 hkeys
    rw [List.map_cons, Texts.start]
    dsimp only
    by_cases heq : key = name
    · subst heq
      have hothers : ∀ other ∈ rest, (other, f other) =
          (other, if other = key then [] else f other) := by
        intro other hother
        rw [if_neg]
        rintro rfl
        exact hkey hother
      simp [List.map_congr_left hothers]
    · rw [if_neg heq, ih hrest]
      have hmem : name ∈ key :: rest ↔ name ∈ rest := by simp [Ne.symm heq]
      simp only [hmem]
      split <;> simp [heq]

theorem add_map (keys : List String) (f : String → List String) (name line : String) :
    Texts.add name line (keys.map fun key => (key, f key)) =
      keys.map fun key => (key, f key ++ if name = key then [line] else []) := by
  unfold Texts.add
  rw [List.map_map]
  refine List.map_congr_left fun key _ => ?_
  by_cases heq : key = name
  · simp [heq]
  · simp [heq, Ne.symm heq]

/-- Where a text starts in a line, nothing of it is left from the lines before. -/
theorem start_named (line : String) :
    m.start (Sorting.of m comment).named line =
      (names m (comment ++ [line])).map fun name =>
        (name, if (m.name? line).map Part.named = some (.named name) then []
          else collected m comment (.named name)) := by
  unfold Marks.start Sorting.of
  cases hname : m.name? line with
  | none =>
    rw [names_concat_of_none hname]
    simp
  | some name =>
    dsimp only
    rw [names_concat_of_some hname, start_map nodup_names]
    simp [@eq_comm _ name]

/-- **One line more is put where it goes.** -/
theorem of_concat (line : String) :
    Sorting.of m (comment ++ [line]) = (Sorting.of m comment).add m line := by
  have hcurrent := @partBehind_concat m comment line
  unfold Sorting.add
  rw [start_named]
  unfold Sorting.of
  dsimp only
  rw [← hcurrent]
  simp only [collected_concat]
  cases partBehind m (comment ++ [line]) with
  | description => simp
  | result => simp
  | named name =>
    dsimp only
    rw [add_map]
    simp

/-- Going through the lines one by one collects what each part has. -/
theorem foldl_add (m : Marks) (comment : List String) :
    comment.foldl (Sorting.add m) ⟨[], [], [], .description⟩ = Sorting.of m comment := by
  induction comment using List.reverseRecOn with
  | nil => rfl
  | append_singleton comment line ih =>
    rw [List.foldl_append, ih, List.foldl_cons, List.foldl_nil, of_concat]

/-! ## No line is lost -/

/-- A line goes to the description, to what is said about a result, or to the text under one of the
names. -/
theorem mem_parts (m : Marks) (comment : List String) (position : Nat) :
    partAt m comment position ∈ .description :: .result :: (names m comment).map Part.named := by
  cases hpart : partAt m comment position with
  | description => simp
  | result => simp
  | named name =>
    obtain ⟨line, hline, hstarts⟩ := List.mem_filterMap.1 (mem_of_partBehind hpart)
    have hname : name ∈ names m comment :=
      mem_names.2 (List.mem_filterMap.2 ⟨line, List.mem_of_mem_take hline, hstarts⟩)
    simp [hname]

theorem nodup_parts (m : Marks) (comment : List String) :
    (.description :: .result :: (names m comment).map Part.named).Nodup := by
  have hnames : ((names m comment).map Part.named).Nodup :=
    nodup_names.map fun _ _ h => Part.named.inj h
  simp [hnames]

/-- Items that each have one of some keys are just as many as those of each key together. -/
theorem sum_length_filter {α κ : Type} [DecidableEq κ] {keys : List κ} (hkeys : keys.Nodup)
    (key : α → κ) (items : List α) (h : ∀ item ∈ items, key item ∈ keys) :
    (keys.map fun k => (items.filter fun item => key item = k).length).sum = items.length := by
  induction keys generalizing items with
  | nil =>
    have hnone : items = [] := List.eq_nil_iff_forall_not_mem.2 fun item hitem => by
      simpa using h item hitem
    simp [hnone]
  | cons k rest ih =>
    obtain ⟨hk, hrest⟩ := List.nodup_cons.1 hkeys
    have hothers := ih hrest (items.filter fun item => !decide (key item = k)) fun item hitem => by
      obtain ⟨hmem, hne⟩ := List.mem_filter.1 hitem
      exact (List.mem_cons.1 (h item hmem)).resolve_left (by simpa using hne)
    -- the items of another key are all among those that do not have the first one
    have hsame : ∀ other ∈ rest, (items.filter fun item => !decide (key item = k)).filter
        (fun item => decide (key item = other)) = items.filter fun item => key item = other := by
      intro other hother
      rw [List.filter_filter]
      refine List.filter_congr fun item _ => ?_
      by_cases heq : key item = other
      · have hne : other ≠ k := fun hother' => hk (hother' ▸ hother)
        simp [heq, hne]
      · simp [heq]
    rw [List.map_congr_left fun other hother => by rw [hsame other hother]] at hothers
    rw [List.map_cons, List.sum_cons, hothers,
      ← List.length_eq_length_filter_add fun item => decide (key item = k)]

/-- **A line that is in no part was replaced.** -/
theorem length_collected (m : Marks) (comment : List String) :
    (collected m comment .description).length + (collected m comment .result).length +
      ((names m comment).map fun name => (collected m comment (.named name)).length).sum +
      (List.range comment.length).countP (isReplaced m comment) = comment.length := by
  let kept := comment.zipIdx.filter fun line => !isReplaced m comment line.2
  have hlength : ∀ part, (collected m comment part).length =
      (kept.filter fun line => partAt m comment line.2 = part).length := by
    intro part
    simp [collected, kept, List.filter_filter]
  have hkept := sum_length_filter (nodup_parts m comment)
    (fun line : String × Nat => partAt m comment line.2) kept
    fun line _ => mem_parts m comment line.2
  have hreplaced : (List.range comment.length).countP (isReplaced m comment) =
      comment.zipIdx.countP fun line => isReplaced m comment line.2 := by
    rw [List.range_eq_range', ← List.zipIdx_map_snd, List.countP_map]
    rfl
  have hall : kept.length + comment.zipIdx.countP (fun line => isReplaced m comment line.2) =
      comment.length := by
    rw [List.countP_eq_length_filter, Nat.add_comm, ← List.length_eq_length_filter_add,
      List.length_zipIdx]
  simp only [← hlength, List.map_cons, List.map_map, List.sum_cons] at hkept
  rw [hreplaced, ← hall, ← hkept]
  simp only [Function.comp_def]
  omega

/-- No line is replaced where each name starts a text once. -/
theorem isReplaced_eq_false (h : (comment.filterMap m.name?).Nodup) (position : Nat) :
    isReplaced m comment position = false := by
  unfold isReplaced
  split
  · rename_i name hpart
    rw [← List.take_append_drop (position + 1) comment, List.filterMap_append] at h
    exact decide_eq_false (List.disjoint_of_nodup_append h (mem_of_partBehind hpart))
  · rfl

/-- The lines of a comment in its parts. -/
structure Collects (m : Marks) (comment description : List String) (named : Texts)
    (result : List String) : Prop where
  description_eq : description = collected m comment .description
  result_eq : result = collected m comment .result
  named_eq : named = (names m comment).map fun name => (name, collected m comment (.named name))
  /-- the lines that are in no part were replaced -/
  total : description.length + (named.map (·.2.length)).sum + result.length +
    (List.range comment.length).countP (isReplaced m comment) = comment.length
  /-- where each name starts a text once, no line is in no part -/
  kept : (comment.filterMap m.name?).Nodup →
    description.length + (named.map (·.2.length)).sum + result.length = comment.length

theorem collects_of (m : Marks) (comment : List String) :
    let s := Sorting.of m comment
    Collects m comment s.description s.named s.result := by
  intro s
  have htotal : s.description.length + (s.named.map (·.2.length)).sum + s.result.length +
      (List.range comment.length).countP (isReplaced m comment) = comment.length := by
    have hlength := length_collected m comment
    have hnamed : s.named.map (·.2.length) =
        (names m comment).map fun name => (collected m comment (.named name)).length := by
      simp [s, Sorting.of]
    rw [hnamed]
    simp only [s, Sorting.of]
    omega
  refine ⟨rfl, rfl, rfl, htotal, fun h => ?_⟩
  have hnone : (List.range comment.length).countP (isReplaced m comment) = 0 :=
    List.countP_eq_zero.2 fun position _ => by simp [isReplaced_eq_false h]
  rw [hnone] at htotal
  exact htotal

/-! ## The two ways to cut a comment -/

/-- The parts of a function's comment. -/
def FunctionParts.sorting (parts : FunctionParts) : Sorting where
  description := parts.description
  named := parts.parameters
  result := parts.result
  current :=
    match parts.current with
    | .function => .description
    | .parameter name => .named name
    | .result => .result

/-- The parts of an enumeration's comment, which says nothing about a result. -/
def EnumParts.sorting (parts : EnumParts) : Sorting where
  description := parts.description
  named := parts.constants
  result := []
  current :=
    match parts.current with
    | none => .description
    | some name => .named name

theorem FunctionParts.sorting_add (parts : FunctionParts) (line : String) :
    (parts.add line).sorting = parts.sorting.add .ofFunctions line := by
  obtain ⟨description, parameters, result, current⟩ := parts
  unfold FunctionParts.add Sorting.add Marks.start
  simp only [Marks.ofFunctions, FunctionParts.sorting]
  cases hnames : (parameterTag.strip line.toList).1.getLast? with
  | none =>
    by_cases hresults : (returnsTag.strip (parameterTag.strip line.toList).2).1 = []
    · cases current <;> simp [hresults]
    · simp [hresults]
  | some name =>
    by_cases hresults : (returnsTag.strip (parameterTag.strip line.toList).2).1 = []
    · simp [hresults]
    · simp [hresults]

theorem EnumParts.sorting_add (parts : EnumParts) (line : String) :
    (parts.add line).sorting = parts.sorting.add .ofEnumerations line := by
  obtain ⟨description, constants, current⟩ := parts
  unfold EnumParts.add Sorting.add Marks.start
  simp only [Marks.ofEnumerations, EnumParts.sorting]
  by_cases hblank : Text.isBlank (String.ofList (constantTag.strip line.toList).2) = true
  · cases hnames : (constantTag.strip line.toList).1.head? <;> simp [hblank]
  · cases hnames : (constantTag.strip line.toList).1.head? with
    | none => cases current <;> simp [hblank]
    | some name => simp [hblank]

theorem sorting_splitFunction (comment : List String) :
    (splitFunction comment).sorting = .of .ofFunctions comment := by
  have hinitial : (⟨[], [], [], .description⟩ : Sorting) =
      FunctionParts.sorting ⟨[], [], [], .function⟩ := rfl
  rw [← foldl_add, hinitial]
  exact (List.foldl_hom FunctionParts.sorting fun parts line => (parts.sorting_add line).symm).symm

theorem sorting_splitEnum (comment : List String) :
    (splitEnum comment).sorting = .of .ofEnumerations comment := by
  have hinitial : (⟨[], [], [], .description⟩ : Sorting) = EnumParts.sorting ⟨[], [], none⟩ := rfl
  rw [← foldl_add, hinitial]
  exact (List.foldl_hom EnumParts.sorting fun parts line => (parts.sorting_add line).symm).symm

/-- **Cutting a comment loses no line.**  Each line of a function's or an enumeration's comment goes
to one part, without its tags and in order:

* to the description until a line says otherwise;
* from a line with a tag of a parameter or constant on, to the text under its name;
* from a line with a tag for the result on, to what is said about the result;
* from a line of an enumeration's comment that is blank without its tags on, to the description.

Only what went to the text under a name is left out where this name is tagged again behind it.  So
all lines are there if each name is tagged once. -/
theorem split_collects (comment : List String) :
    Collects .ofFunctions comment (splitFunction comment).description
      (splitFunction comment).parameters (splitFunction comment).result ∧
    Collects .ofEnumerations comment (splitEnum comment).description
      (splitEnum comment).constants [] := by
  have hfunction := collects_of .ofFunctions comment
  have henumeration := collects_of .ofEnumerations comment
  rw [← sorting_splitFunction] at hfunction
  rw [← sorting_splitEnum] at henumeration
  exact ⟨hfunction, henumeration⟩

/-- Of the lines about `a` the first two are replaced by the one behind them; the others are all
there, and so is each of two lines about two parameters. -/
theorem split_collects_retagged :
    let comment := ["Adds.", "\\param a first", "  of two", "@param a \\param b both",
      "\\param a again", "@returns sum"]
    let parts := splitFunction comment
    parts.description = ["Adds."] ∧ parts.parameters = [("a", ["again"]), ("b", ["both"])] ∧
      parts.result = ["sum"] ∧
      (List.range comment.length).countP (isReplaced .ofFunctions comment) = 2 ∧
      (["\\param a first", "\\param b second"].filterMap Marks.ofFunctions.name?).Nodup ∧
      (splitFunction ["\\param a first", "\\param b second"]).description.length +
        ((splitFunction ["\\param a first", "\\param b second"]).parameters.map (·.2.length)).sum +
        (splitFunction ["\\param a first", "\\param b second"]).result.length = 2 := by
  intro comment parts
  have hparts : parts = ⟨["Adds."], [("a", ["again"]), ("b", ["both"])], ["sum"], .result⟩ := by
    decide +kernel
  have hnodup :
      (["\\param a first", "\\param b second"].filterMap Marks.ofFunctions.name?).Nodup := by
    decide +kernel
  have htotal := (split_collects comment).1.total
  rw [show splitFunction comment = _ from hparts] at htotal
  refine ⟨by rw [hparts], by rw [hparts], by rw [hparts], ?_, hnodup,
    (split_collects _).1.kept hnodup⟩
  simp only [comment, List.length_cons, List.length_nil, List.map_cons, List.map_nil, List.sum_cons,
    List.sum_nil] at htotal ⊢
  omega

end HeaderIndex.Comment
