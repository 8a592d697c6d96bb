import HeaderIndex.Proofs.Reader.Top

/-!
# Declarations that do not interfere

Invisible declarations and macro expansions stand in the list of top-level cursors too, and the
former close gaps of their files.  Two readings are compared here, one of a unit and one of the unit
with some of these cursors deleted from its list.

* `SameEnds` — what the two readings know of gaps agrees in the visible files.
* `gapsFrom_thinned` — then they go through the same declarations with the same gaps.
* `read_withTop_of_thinned` — and hence come to the same outcome.
-/

namespace HeaderIndex.Reader

variable {unit : ParsedUnit} {visible : List String} {ends ends' : Ends} {position : Nat}

/-- The name of the file in which the cursor at a position stands. -/
def fileOf (unit : ParsedUnit) (position : Nat) : Option String :=
  unit.fileName? (unit.cursor position).location

/-- What a reading passes over at the top level. -/
inductive PassedOver (unit : ParsedUnit) (visible : List String) (position : Nat) : Prop where
  | inNoFile (h : fileOf unit position = none)
  | invisible (name : String) (h : fileOf unit position = some name) (hv : name ∉ visible)
  | expansion (h : (unit.cursor position).kind = .macroExpansion)

/-- What stands in a file is passed over because of its file or its kind. -/
theorem PassedOver.of_inFile {name : String} (passed : PassedOver unit visible position)
    (h : fileOf unit position = some name) :
    name ∉ visible ∨ (unit.cursor position).kind = .macroExpansion := by
  cases passed with
  | inNoFile hnone =>
    rw [h] at hnone
    cases hnone
  | invisible other hother hv =>
    obtain rfl := Option.some.inj (h.symm.trans hother)
    exact .inl hv
  | expansion hkind => exact .inr hkind

/-- The second list is the first one without some cursors that are passed over. -/
inductive Thinned (unit : ParsedUnit) (visible : List String) : List Nat → List Nat → Prop where
  | nil : Thinned unit visible [] []
  | keep (position : Nat) {l m : List Nat} (h : Thinned unit visible l m) :
      Thinned unit visible (position :: l) (position :: m)
  | delete {position : Nat} {l m : List Nat} (passed : PassedOver unit visible position)
      (h : Thinned unit visible l m) : Thinned unit visible (position :: l) m

/-! ## Gaps in visible files -/

/-- The last closed gaps of the visible files are the same. -/
def SameEnds (visible : List String) (ends ends' : Ends) : Prop :=
  ∀ name ∈ visible, ends.lookup name = ends'.lookup name

theorem SameEnds.gapStart (h : SameEnds visible ends ends') {name : String} (hv : name ∈ visible)
    (file : Nat) : gapStart ends file name = gapStart ends' file name := by
  unfold Reader.gapStart
  rw [h name hv]

theorem lookup_closeGap_of_ne {name other : String} (hne : other ≠ name) (file : Nat)
    (cursor : Cursor) : (closeGap ends file name cursor).lookup other = ends.lookup other := by
  unfold closeGap
  split
  · have hbeq : (other == name) = false := by simpa using hne
    rw [List.lookup_cons, hbeq]
  · rfl

/-- A declaration of an invisible file closes no gap that counts. -/
theorem SameEnds.closeGap_left (h : SameEnds visible ends ends') {name : String}
    (hv : name ∉ visible) (file : Nat) (cursor : Cursor) :
    SameEnds visible (closeGap ends file name cursor) ends' := by
  intro other hother
  have hne : other ≠ name := fun heq => hv (heq ▸ hother)
  rw [lookup_closeGap_of_ne hne]
  exact h other hother

/-- The same declaration closes the same gaps. -/
theorem SameEnds.closeGap (h : SameEnds visible ends ends') (file : Nat) (name : String)
    (cursor : Cursor) :
    SameEnds visible (closeGap ends file name cursor) (closeGap ends' file name cursor) := by
  intro other hother
  by_cases hname : other = name
  · subst hname
    unfold Reader.closeGap
    rw [h.gapStart hother file]
    split
    · simp only [List.lookup_cons_self]
    · exact h other hother
  · rw [lookup_closeGap_of_ne hname, lookup_closeGap_of_ne hname]
    exact h other hother

theorem closeGap_of_expansion {cursor : Cursor} (h : cursor.kind = .macroExpansion) (ends : Ends)
    (file : Nat) (name : String) : closeGap ends file name cursor = ends := by
  unfold closeGap
  rw [h, if_neg fun hc => Bool.false_ne_true hc.1]

/-! ## What is gone through -/

theorem gapsFrom_of_inNoFile (h : fileOf unit position = none) (ends : Ends) (rest : List Nat) :
    gapsFrom unit ends (position :: rest) = gapsFrom unit ends rest := by
  rw [gapsFrom]
  split
  · rename_i name _ hname
    rw [show unit.fileName? (unit.cursor position).location = none from h] at hname
    cases hname
  · rfl

theorem gapsFrom_of_inFile {name : String} (h : fileOf unit position = some name) :
    ∃ file, ∀ ends rest, gapsFrom unit ends (position :: rest) =
      ⟨position, name, gapStart ends file name⟩ ::
        gapsFrom unit (closeGap ends file name (unit.cursor position)) rest := by
  obtain ⟨file, hfile, -⟩ := Option.bind_eq_some_iff.1 h
  refine ⟨file, fun ends rest => ?_⟩
  rw [gapsFrom, hfile, show unit.fileName? (unit.cursor position).location = some name from h]

/-- Whether a declaration is read: it stands in a visible file and is no macro expansion. -/
def isRead (unit : ParsedUnit) (visible : List String) (declaration : Declaration) : Bool :=
  visible.contains declaration.file &&
    decide ((unit.cursor declaration.position).kind ≠ .macroExpansion)

/-- What is passed over is not read, and it closes no gap that counts. -/
theorem filter_gapsFrom_of_passedOver (passed : PassedOver unit visible position)
    (h : SameEnds visible ends ends') (rest : List Nat) :
    ∃ after, SameEnds visible after ends' ∧
      (gapsFrom unit ends (position :: rest)).filter (isRead unit visible) =
        (gapsFrom unit after rest).filter (isRead unit visible) := by
  cases hfile : fileOf unit position with
  | none => exact ⟨ends, h, by rw [gapsFrom_of_inNoFile hfile]⟩
  | some name =>
    obtain ⟨file, hgaps⟩ := gapsFrom_of_inFile hfile
    refine ⟨closeGap ends file name (unit.cursor position), ?_, ?_⟩
    · rcases passed.of_inFile hfile with hv | hkind
      · exact h.closeGap_left hv file _
      · rw [closeGap_of_expansion hkind]
        exact h
    · rw [hgaps, List.filter_cons_of_neg]
      rcases passed.of_inFile hfile with hv | hkind
      · simp [isRead, hv]
      · simp [isRead, hkind]

/-- **Both readings go through the same declarations with the same gaps.** -/
theorem gapsFrom_thinned {l m : List Nat} (thinned : Thinned unit visible l m)
    (h : SameEnds visible ends ends') :
    (gapsFrom unit ends l).filter (isRead unit visible) =
      (gapsFrom unit ends' m).filter (isRead unit visible) := by
  induction thinned generalizing ends ends' with
  | nil => rfl
  | @keep position l m _ ih =>
    cases hfile : fileOf unit position with
    | none => rw [gapsFrom_of_inNoFile hfile, gapsFrom_of_inNoFile hfile, ih h]
    | some name =>
      obtain ⟨file, hgaps⟩ := gapsFrom_of_inFile hfile
      have hrest := ih (h.closeGap file name (unit.cursor position))
      rw [hgaps, hgaps]
      by_cases hv : name ∈ visible
      · rw [h.gapStart hv file, List.filter_cons, List.filter_cons, hrest]
      · have hunread : ∀ gap, isRead unit visible ⟨position, name, gap⟩ = false := by
          simp [isRead, hv]
        rw [List.filter_cons_of_neg (by simp [hunread]),
          List.filter_cons_of_neg (by simp [hunread]), hrest]
  | delete passed _ ih =>
    obtain ⟨after, hafter, hsame⟩ := filter_gapsFrom_of_passedOver passed h _
    rw [hsame, ih hafter]

/-! ## The two readings -/

/-- Items whose step does nothing may be left out. -/
theorem each_filter {α : Type} {step : α → Action Unit} {p : α → Bool} {items : List α}
    (h : ∀ item ∈ items, p item = false → step item = Action.pure ()) :
    Action.each (items.filter p) step = Action.each items step := by
  induction items with
  | nil => rfl
  | cons item rest ih =>
    have hrest := ih fun other hother => h other (List.mem_cons_of_mem _ hother)
    cases hp : p item with
    | true =>
      rw [List.filter_cons_of_pos hp]
      simp only [Action.each, hrest]
    | false =>
      rw [List.filter_cons_of_neg (by simp [hp]), hrest]
      simp only [Action.each, h item List.mem_cons_self hp]
      rfl

theorem readTop_of_expansion (config : Config) (r : Resolver) {declaration : Declaration}
    (h : (r.unit.cursor declaration.position).kind = .macroExpansion) :
    readTop config r declaration = Action.pure () := by
  unfold readTop readDeclaration
  simp only [h]
  rfl

/-- A reading is over the declarations that are no macro expansions. -/
theorem readUnit_eq_each (config : Config) (unit : ParsedUnit) (visible : List String) :
    readUnit config unit visible =
      Action.each ((gaps unit).filter (isRead unit visible))
        (readTop config ⟨unit, config.prefixes, visible⟩) := by
  have hsplit : (gaps unit).filter (isRead unit visible) =
      ((gaps unit).filter fun declaration => visible.contains declaration.file).filter
        fun declaration => decide ((unit.cursor declaration.position).kind ≠ .macroExpansion) := by
    rw [List.filter_filter]
    congr 1
    funext declaration
    exact Bool.and_comm ..
  rw [hsplit, each_filter]
  · rfl
  · intro declaration _ hp
    exact readTop_of_expansion config _ (by simpa using hp)

/-- **Invisible declarations do not interfere.**  Any cursors that stand in no file, in an invisible
one, or for macro expansions may be deleted from the list of top-level cursors: every reading goes
through the same states and ends with the same index or error and the same warnings. -/
theorem read_withTop_of_thinned (config : Config) {unit : ParsedUnit} {visible : List String}
    {top : List Nat} (thinned : Thinned unit visible unit.top top) :
    readUnit config (unit.withTop top) visible = readUnit config unit visible ∧
      read config (unit.withTop top) visible = read config unit visible := by
  have hgaps : (gaps (unit.withTop top)).filter (isRead (unit.withTop top) visible) =
      (gaps unit).filter (isRead unit visible) := by
    unfold gaps
    rw [gapsFrom_withTop]
    exact (gapsFrom_thinned thinned fun _ _ => rfl).symm
  have hunit : readUnit config (unit.withTop top) visible = readUnit config unit visible := by
    rw [readUnit_eq_each, readUnit_eq_each, hgaps]
    exact congrArg _ (readTop_withTop config ⟨unit, config.prefixes, visible⟩ top)
  refine ⟨hunit, ?_⟩
  unfold read
  rw [hunit]

/-- A function and what it needs, `struct point` of a header that is not visible:
`API void move(struct point *p);` where `API` is a macro. -/
def hiddenPoint : ParsedUnit where
  files := #["point.h", "api.h"]
  tokens := #[]
  cursors := #[
    { Cursor.missing with
      kind := .structDecl, spelling := "point", location := ⟨some 0, 0, 1⟩
      stop := ⟨some 0, 23, 1⟩, type := some 2, isDefinition := true },
    { Cursor.missing with
      kind := .functionDecl, spelling := "scale", location := ⟨some 0, 24, 2⟩
      stop := ⟨some 0, 50, 2⟩, result := some 0 },
    { Cursor.missing with
      kind := .macroExpansion, spelling := "API", location := ⟨some 1, 0, 1⟩
      stop := ⟨some 1, 3, 1⟩ },
    { Cursor.missing with
      kind := .functionDecl, spelling := "move", location := ⟨some 1, 9, 1⟩
      stop := ⟨some 1, 30, 1⟩, result := some 0, children := [4] },
    { Cursor.missing with
      kind := .parameterDecl, spelling := "p", location := ⟨some 1, 28, 1⟩, type := some 1 },
    { Cursor.missing with kind := .macroDefinition, spelling := "__STDC__" }]
  types := #[
    { SourceType.missing with kind := .void, spelling := "void" },
    { SourceType.missing with kind := .pointer, spelling := "struct point *", pointee := some 2 },
    { SourceType.missing with kind := .record, spelling := "struct point", declaration := some 0 }]
  top := [5, 0, 1, 2, 3]
  includes := []
  diagnostics := []

/-- Of the five top-level cursors the function alone decides what is read. -/
theorem read_withTop_of_thinned_hiddenPoint :
    let config : Config :=
      ⟨Settings.minimal "api" [.path "api.h"], by decide, by simp [Settings.minimal]⟩
    let alone := hiddenPoint.withTop [3]
    Thinned hiddenPoint ["api.h"] hiddenPoint.top [3] ∧
      (readUnit config hiddenPoint ["api.h"] .initial).2.index.bindings = [(.function 3, 0)] ∧
      readUnit config alone ["api.h"] = readUnit config hiddenPoint ["api.h"] ∧
      read config alone ["api.h"] = read config hiddenPoint ["api.h"] :=
  have thinned : Thinned hiddenPoint ["api.h"] hiddenPoint.top [3] :=
    .delete (.inNoFile rfl) <| .delete (.invisible "point.h" rfl (by decide)) <|
      .delete (.invisible "point.h" rfl (by decide)) <| .delete (.expansion rfl) <| .keep 3 .nil
  ⟨thinned, by decide +kernel, read_withTop_of_thinned _ thinned⟩

end HeaderIndex.Reader
