import HeaderIndex.Proofs.Reader.Below
import HeaderIndex.Proofs.Reader.Order
import Mathlib.Data.List.Induction

/-!
# The first of several declarations

A macro or a function that is declared more than once is recorded once: as the first declaration of
it says that can be recorded, at the index where that declaration is reached.

* `firstOfEach` — the items of a list without those behind another one of the same name.
* `valuedMacros`, `functionDeclarations` — the declarations that can be recorded, in order.
* `ListsFirst` — an index lists what the first item of each name gives.
* `ensures_constants`, `ensures_functions` — one declaration more keeps this.
* `ReadWhenReached` — where a function is read, and what is recorded of it there.
* `read_first` — the constants and functions after a reading.
-/

namespace HeaderIndex.Reader

/-! ## The first item of each name -/

section FirstOfEach

variable {ι κ : Type} [DecidableEq κ] {name : ι → κ}

/-- The items of a list without those behind another one of the same name. -/
def firstOfEach (name : ι → κ) (items : List ι) : List ι :=
  items.eraseDupsBy fun a b => name a = name b

theorem firstOfEach_cons (item : ι) (rest : List ι) :
    firstOfEach name (item :: rest) =
      item :: firstOfEach name (rest.filter fun other => name other ≠ name item) := by
  simp [firstOfEach, List.eraseDupsBy_cons]

/-- One item more counts if it is the first of its name. -/
theorem firstOfEach_concat (items : List ι) (item : ι) :
    firstOfEach name (items ++ [item]) =
      firstOfEach name items ++ if name item ∈ items.map name then [] else [item] := by
  induction hlength : items.length using Nat.strong_induction_on generalizing items with
  | _ length ih =>
  cases items with
  | nil => simp [firstOfEach, List.eraseDupsBy_cons, List.eraseDupsBy_nil]
  | cons first rest =>
    have hshort : (rest.filter fun other => name other ≠ name first).length < length := by
      rw [← hlength]
      exact Nat.lt_succ_of_le (List.length_filter_le _ _)
    rw [List.cons_append, firstOfEach_cons, firstOfEach_cons, List.filter_append, List.cons_append]
    by_cases heq : name item = name first
    · simp [heq]
    · -- what has the name of the first item is none of those with the name of the last
      have hmem : name item ∈ (rest.filter fun other => name other ≠ name first).map name ↔
          name item ∈ (first :: rest).map name := by
        simp only [List.mem_map, List.mem_filter, decide_eq_true_eq, List.mem_cons]
        constructor
        · rintro ⟨other, ⟨hmem, _⟩, hname⟩
          exact ⟨other, .inr hmem, hname⟩
        · rintro ⟨other, rfl | hmem, hname⟩
          · exact absurd hname.symm heq
          · exact ⟨other, ⟨hmem, by rw [hname]; exact heq⟩, hname⟩
      rw [List.filter_singleton, decide_eq_true heq, cond_true, ih _ hshort _ rfl]
      simp only [hmem]

/-- Every name is left, and left once. -/
theorem names_firstOfEach (items : List ι) :
    ((firstOfEach name items).map name).Nodup ∧
      ∀ k, k ∈ (firstOfEach name items).map name ↔ k ∈ items.map name := by
  induction items using List.reverseRecOn with
  | nil => exact ⟨List.nodup_nil, fun k => Iff.rfl⟩
  | append_singleton items item ih =>
    obtain ⟨hnodup, hmem⟩ := ih
    rw [firstOfEach_concat]
    split
    · rename_i hold
      refine ⟨by simpa using hnodup, fun k => ?_⟩
      rw [List.append_nil, hmem, List.map_append, List.mem_append, List.map_singleton,
        List.mem_singleton]
      exact ⟨.inl, fun h => h.elim id fun heq => heq ▸ hold⟩
    · rename_i hnew
      refine ⟨?_, fun k => ?_⟩
      · rw [List.map_append, List.map_singleton, List.nodup_append]
        refine ⟨hnodup, by simp, fun k hk other hother heq => hnew ?_⟩
        rw [List.mem_singleton] at hother
        rw [← hother, ← heq]
        exact (hmem k).1 hk
      · rw [List.map_append, List.map_append, List.mem_append, List.mem_append, hmem]

end FirstOfEach

/-! ## Declarations that can be recorded -/

/-- The value of a macro that is not function-like and has one behind its name. -/
def macroValue? (unit : ParsedUnit) (cursor : Cursor) : Option Number :=
  let tokens := unit.tokensOf cursor
  if tokens.length ≤ 1 ∨ isFunctionLike tokens then none
  else
    match evaluateTokens (tokens.tail.map fun token => (token.kind, token.spelling)) with
    | .ok evaluation => some evaluation.value
    | .error _ => none

/-- The macro definitions among some cursors that have values, with these. -/
def valuedMacros (unit : ParsedUnit) (positions : List Nat) : List (Cursor × Number) :=
  ((positions.map unit.cursor).filter (·.kind = .macroDefinition)).filterMap fun cursor =>
    (macroValue? unit cursor).map fun value => (cursor, value)

/-- The declarations of functions among some cursors. -/
def functionDeclarations (unit : ParsedUnit) (positions : List Nat) : List Nat :=
  positions.filter fun position => (unit.cursor position).kind = .functionDecl

/-! ## What an index lists of them -/

section ListsFirst

variable {ι κ α : Type} [DecidableEq κ] {key : κ → Key} {sort : Entity → Option α} {name : ι → κ}
  {gives : ι → α → Prop} {items : List ι} {item : ι} {s t : State}

/-- An index lists what the first item of each name gives, and has the names of all items. -/
structure ListsFirst (key : κ → Key) (sort : Entity → Option α) (name : ι → κ)
    (gives : ι → α → Prop) (items : List ι) (s : State) : Prop where
  names : ∀ k, (listed key sort s.index).1 k = true ↔ k ∈ items.map name
  entities : List.Forall₂ gives (firstOfEach name items) (listed key sort s.index).2

theorem listsFirst_initial : ListsFirst key sort name gives [] .initial where
  names := fun k => by simp [listed, Index.contains, State.initial]
  entities := by simp [listed, firstOfEach, State.initial, Index.empty, List.eraseDupsBy_nil]

/-- Nothing is listed anew. -/
theorem ListsFirst.of_listed (h : ListsFirst key sort name gives items s)
    (hlisted : listed key sort t.index = listed key sort s.index) :
    ListsFirst key sort name gives items t where
  names := by rw [hlisted]; exact h.names
  entities := by rw [hlisted]; exact h.entities

/-- An item whose name is there already counts for nothing. -/
theorem ListsFirst.append_taken (h : ListsFirst key sort name gives items s)
    (hlisted : listed key sort t.index = listed key sort s.index)
    (htaken : (listed key sort s.index).1 (name item) = true) :
    ListsFirst key sort name gives (items ++ [item]) t where
  names := by
    intro k
    rw [hlisted, h.names, List.map_append, List.mem_append, List.map_singleton, List.mem_singleton]
    exact ⟨.inl, fun hk => hk.elim id fun heq => heq ▸ (h.names _).1 htaken⟩
  entities := by
    rw [firstOfEach_concat, if_pos ((h.names _).1 htaken), List.append_nil, hlisted]
    exact h.entities

/-- What an item with a new name gives is listed behind the others. -/
theorem ListsFirst.append_new (h : ListsFirst key sort name gives items s)
    (hkey : Function.Injective key)
    (hfree : (listed key sort s.index).1 (name item) = false) {a : α} (hnew : gives item a)
    (hlisted : listed key sort t.index = withEntry key (name item) a (listed key sort s.index)) :
    ListsFirst key sort name gives (items ++ [item]) t where
  names := by
    intro k
    rw [hlisted, List.map_append, List.mem_append, List.map_singleton, List.mem_singleton, ← h.names]
    simp [withEntry, hkey.eq_iff]
  entities := by
    have hnot : name item ∉ items.map name := fun hmem => by
      rw [(h.names _).2 hmem] at hfree
      cases hfree
    rw [firstOfEach_concat, if_neg hnot, hlisted]
    exact List.rel_append h.entities (.cons hnew .nil)

end ListsFirst

/-! ## One declaration more -/

variable {r : Resolver}

/-- The constant of a macro with a value. -/
def constantOf (r : Resolver) (valued : Cursor × Number) : Constant :=
  ⟨valued.1.name r.prefixes, valued.2⟩

/-- An index lists the constants of the macros among some cursors, and of nothing else. -/
abbrev ListsConstants (r : Resolver) (positions : List Nat) : State → Prop :=
  ListsFirst Key.ofMacro Entity.constant? (·.1.spelling)
    (fun valued c => c = constantOf r valued) (valuedMacros r.unit positions)

/-- The declarations of the visible files of a unit, with the gaps in front of them. -/
def visibleGaps (unit : ParsedUnit) (visible : List String) : List Declaration :=
  (gaps unit).filter fun declaration => visible.contains declaration.file

/-- A function is read when its declaration at a position is reached: with everything in front of this
read before, and the function not yet known, it is what the declaration gives at that index. -/
def ReadWhenReached (config : Config) (r : Resolver) (position : Nat) (c : Callable) : Prop :=
  ∃ front declaration back s, visibleGaps r.unit r.visible = front ++ declaration :: back ∧
    declaration.position = position ∧
    Action.each front (readTop config r) .initial = (.ok (), s) ∧
    ReadsFunction r (readTop config r declaration s).2 s.index position
      (declaration.comment r.unit) c ∧
    c.isBlocking = config.isBlocking (r.unit.cursor position).spelling

/-- An index lists the functions declared by some cursors, and nothing else. -/
abbrev ListsFunctions (config : Config) (r : Resolver) (positions : List Nat) : State → Prop :=
  ListsFirst Key.function Entity.function? r.unit.canonicalCursor (ReadWhenReached config r)
    (functionDeclarations r.unit positions)

theorem valuedMacros_append (unit : ParsedUnit) (l m : List Nat) :
    valuedMacros unit (l ++ m) = valuedMacros unit l ++ valuedMacros unit m := by
  simp [valuedMacros]

theorem functionDeclarations_append (unit : ParsedUnit) (l m : List Nat) :
    functionDeclarations unit (l ++ m) =
      functionDeclarations unit l ++ functionDeclarations unit m := by
  simp [functionDeclarations]

/-- Only macros are read among the macros. -/
theorem keeps_constants (config : Config) {position : Nat} (comment : List String)
    (h : (r.unit.cursor position).kind ≠ .macroDefinition) :
    Keeps listedConstants (readDeclaration config r position comment) := by
  unfold readDeclaration
  dsimp only
  split
  case h_4 =>
    exact keeps_readFunction ofNoType_constants config position comment (fun _ _ => nofun)
      fun _ => rfl
  case h_5 => exact keeps_readTypedef ofNoType_constants _ comment
  case h_6 => exact absurd ‹_› h
  case h_7 => exact Keeps.pure ()
  all_goals exact keeps_readTagWithin ofNoType_constants _ position comment

/-- Only functions are read among the functions. -/
theorem keeps_functions (config : Config) {position : Nat} (comment : List String)
    (h : (r.unit.cursor position).kind ≠ .functionDecl) :
    Keeps listedFunctions (readDeclaration config r position comment) := by
  unfold readDeclaration
  dsimp only
  split
  case h_4 => exact absurd ‹_› h
  case h_5 => exact keeps_readTypedef ofNoType_functions _ comment
  case h_6 => exact keeps_readMacro _ (fun _ _ => nofun) fun _ => rfl
  case h_7 => exact Keeps.pure ()
  all_goals exact keeps_readTagWithin ofNoType_functions _ position comment

/-- A macro that has a value is listed unless another one with its spelling is. -/
theorem ensures_readMacro (cursor : Cursor) (items : List (Cursor × Number)) :
    Ensures
      (ListsFirst Key.ofMacro Entity.constant? (·.1.spelling)
        (fun valued c => c = constantOf r valued) items)
      (readMacro r cursor)
      (fun _ => ListsFirst Key.ofMacro Entity.constant? (·.1.spelling)
        (fun valued c => c = constantOf r valued)
        (items ++ (macroValue? r.unit cursor).toList.map fun value => (cursor, value)))
      fun _ _ => True := by
  unfold readMacro macroValue?
  dsimp only
  split
  · exact Ensures.pure fun s hs => by simpa using hs
  refine Ensures.bind Ensures.index fun index => ?_
  split
  · rename_i htaken
    refine Ensures.pure fun s hs => ?_
    obtain ⟨rfl, hs⟩ := hs
    cases evaluateTokens _ with
    | error => simpa using hs
    | ok evaluation => exact hs.append_taken rfl htaken
  rename_i hfree
  refine Ensures.bind (Q := fun _ s => index = s.index ∧
    ListsFirst Key.ofMacro Entity.constant? (·.1.spelling)
      (fun valued c => c = constantOf r valued) items s)
    (fun s hs => ⟨fun _ _ => ⟨hs.1, hs.2.of_listed (t := s.breakOff _) rfl⟩, fun _ _ => trivial⟩) fun _ => ?_
  cases evaluateTokens _ with
  | error =>
    refine fun s hs => ⟨fun _ _ => ?_, fun _ _ => trivial⟩
    rw [Option.toList_none, List.map_nil, List.append_nil]
    exact hs.2.of_listed rfl
  | ok evaluation =>
    refine Ensures.bind (Q := fun _ => ListsFirst Key.ofMacro Entity.constant? (·.1.spelling)
      (fun valued c => c = constantOf r valued) (items ++ [(cursor, evaluation.value)]))
      (fun s hs => ⟨fun _ _ => ?_, fun _ _ => trivial⟩) fun _ => Ensures.pure fun _ hs => hs
    obtain ⟨rfl, hs⟩ := hs
    have hfree : s.index.contains (.ofMacro cursor.spelling) = false := by simpa using hfree
    refine hs.append_new (fun _ _ => Key.ofMacro.inj) hfree rfl ?_
    exact listed_add_self (by simpa [Index.contains] using hfree) rfl

/-- **One declaration more** among the macros. -/
theorem ensures_constants (config : Config) (position : Nat) (comment : List String)
    (done : List Nat) :
    Ensures (ListsConstants r done) (readDeclaration config r position comment)
      (fun _ => ListsConstants r (done ++ [position])) fun _ _ => True := by
  unfold ListsConstants
  rw [valuedMacros_append]
  by_cases hkind : (r.unit.cursor position).kind = .macroDefinition
  · have hread : readDeclaration config r position comment =
        readMacro r (r.unit.cursor position) := by
      unfold readDeclaration
      simp only [hkind]
    have hvalued : valuedMacros r.unit [position] =
        (macroValue? r.unit (r.unit.cursor position)).toList.map fun value =>
          (r.unit.cursor position, value) := by
      cases hvalue : macroValue? r.unit (r.unit.cursor position) <;>
        simp [valuedMacros, hkind, hvalue]
    rw [hread, hvalued]
    exact ensures_readMacro _ _
  · have hnone : valuedMacros r.unit [position] = [] := by simp [valuedMacros, hkind]
    rw [hnone, List.append_nil]
    exact fun s hs => ⟨fun _ _ => hs.of_listed (keeps_constants config comment hkind s),
      fun _ _ => trivial⟩

section Functions

variable {α : Type} {s t : State}

theorem inDeclaration_of_ok {place : Place} {action : Action α} {a : α}
    (h : (Action.inDeclaration place action s).1 = .ok a) :
    Action.inDeclaration place action s = action s := by
  unfold Action.inDeclaration at h ⊢
  split
  · rename_i heq
    rw [heq] at h
    cases h
  · rfl

/-- A loop with one item more goes on where it has ended. -/
theorem each_concat {front : List α} {step : α → Action Unit}
    (h : Action.each front step s = (.ok (), t)) (item : α) :
    Action.each (front ++ [item]) step s = step item t := by
  induction front generalizing s with
  | nil =>
    obtain rfl : s = t := congrArg Prod.snd h
    rcases bind_cases (step item) (fun _ => Action.pure ()) s with
      ⟨_, u, hitem, heq⟩ | ⟨error, u, hitem, heq⟩ <;> exact heq.trans hitem.symm
  | cons first rest ih =>
    rcases bind_cases (step first) (fun _ => Action.each rest step) s with
      ⟨_, u, hfirst, heq⟩ | ⟨error, u, hfirst, heq⟩
    · rw [← ih (heq.symm.trans h)]
      exact bind_of_ok hfirst _
    · cases heq.symm.trans h

/-- **One declaration more** among the functions. -/
theorem ensures_functions (config : Config) {front back : List Declaration}
    {declaration : Declaration}
    (hsplit : visibleGaps r.unit r.visible = front ++ declaration :: back) :
    Ensures
      (fun s => Action.each front (readTop config r) .initial = (.ok (), s) ∧
        ListsFunctions config r (front.map (·.position)) s)
      (readTop config r declaration)
      (fun _ s => Action.each (front ++ [declaration]) (readTop config r) .initial = (.ok (), s) ∧
        ListsFunctions config r ((front ++ [declaration]).map (·.position)) s)
      fun _ _ => True := by
  rintro s ⟨hfront, hs⟩
  refine ⟨fun a hok => ⟨?_, ?_⟩, fun _ _ => trivial⟩
  · rw [each_concat hfront]
    exact Prod.ext hok rfl
  unfold ListsFunctions
  rw [List.map_append, List.map_singleton, functionDeclarations_append]
  have htop : readTop config r declaration s =
      readDeclaration config r declaration.position (declaration.comment r.unit) s :=
    inDeclaration_of_ok hok
  by_cases hkind : (r.unit.cursor declaration.position).kind = .functionDecl
  · have hread : readDeclaration config r declaration.position (declaration.comment r.unit) =
        readFunction config r declaration.position (declaration.comment r.unit) := by
      unfold readDeclaration
      simp only [hkind]
    have hdeclared :
        functionDeclarations r.unit [declaration.position] = [declaration.position] := by
      simp [functionDeclarations, hkind]
    rw [hread] at htop
    have hfunction := (runs_readFunction config hkind (declaration.comment r.unit) s.index s rfl).2 a
      (by rw [← htop]; exact hok)
    rw [← htop] at hfunction
    rw [hdeclared]
    unfold FunctionRead at hfunction
    split at hfunction
    · rename_i htaken
      exact hs.append_taken hfunction htaken
    · rename_i hfree
      obtain ⟨c, hc, hblocking, hlisted⟩ := hfunction
      exact hs.append_new (fun _ _ => Key.function.inj) (Bool.eq_false_iff.2 hfree)
        ⟨front, declaration, back, s, hsplit, rfl, hfront, hc, hblocking⟩ hlisted
  · have hnone : functionDeclarations r.unit [declaration.position] = [] := by
      simp [functionDeclarations, hkind]
    rw [hnone, List.append_nil, htop]
    exact hs.of_listed (keeps_functions config _ hkind s)

end Functions

/-! ## A whole unit -/

/-- The constants of an index that lists those of some macros. -/
theorem ListsFirst.constants_eq {positions : List Nat} {s : State} (h : ListsConstants r positions s)
    (ordered : s.index.Ordered) :
    s.index.constants =
      (firstOfEach (·.1.spelling) (valuedMacros r.unit positions)).map (constantOf r) := by
  have hentities : List.Forall₂ (fun c valued => c = constantOf r valued)
      (s.index.entities.filterMap Entity.constant?)
      (firstOfEach (·.1.spelling) (valuedMacros r.unit positions)) := h.entities.flip
  rw [Index.constants, ordered.collect_snd]
  exact List.forall₂_eq_eq_eq ▸ List.forall₂_map_right_iff.2 hentities

/-- **The first declaration counts, and counts once.**  When a unit has been read into the empty
index without error, the constants are those of the macros in visible files that are not
function-like and have a value behind their name, of each spelling the first one, in order and with
its value; and the functions are those declared in visible files, in order, each as the first of its
declarations gives it at the index where that declaration is reached.  So no other declaration has any
effect on either. -/
theorem read_first (config : Config) (unit : ParsedUnit) (visible : List String) {index : Index}
    (h : (read config unit visible).result = .ok index) :
    let r : Resolver := ⟨unit, config.prefixes, visible⟩
    let macros := firstOfEach (·.1.spelling) (valuedMacros unit (visibleTop unit visible))
    let functions :=
      firstOfEach unit.canonicalCursor (functionDeclarations unit (visibleTop unit visible))
    index.constants = macros.map (constantOf r) ∧ (macros.map (·.1.spelling)).Nodup ∧
      List.Forall₂ (ReadWhenReached config r) functions index.functions ∧
      (functions.map unit.canonicalCursor).Nodup := by
  intro r macros functions
  obtain ⟨hok, rfl⟩ := readUnit_of_result_ok h
  have ordered : (readUnit config unit visible .initial).2.index.Ordered :=
    stable_ordered.path (readUnit_path config unit visible .initial) Index.ordered_empty
  have hconstants := (ensures_positions (r := r) config _ (ensures_constants config) rfl .initial
    listsFirst_initial).1 () hok
  have hread : Ensures
      (fun s => Action.each [] (readTop config r) .initial = (.ok (), s) ∧
        ListsFunctions config r [] s)
      (readUnit config unit visible)
      (fun _ s => Action.each (visibleGaps unit visible) (readTop config r) .initial = (.ok (), s) ∧
        ListsFunctions config r ((visibleGaps unit visible).map (·.position)) s) fun _ _ => True := by
    unfold readUnit
    exact Ensures.each (fun done s => Action.each done (readTop config r) .initial = (.ok (), s) ∧
      ListsFunctions config r (done.map fun declaration : Declaration => declaration.position) s)
      fun _ _ _ hsplit => ensures_functions (r := r) config hsplit
  have hfunctions := ((hread .initial ⟨rfl, listsFirst_initial⟩).1 () hok).2
  rw [visibleGaps, gaps, map_position_gapsFrom unit visible [] unit.top] at hfunctions
  refine ⟨hconstants.constants_eq ordered, (names_firstOfEach _).1, ?_, (names_firstOfEach _).1⟩
  rw [Index.functions, ordered.collect_snd]
  exact hfunctions.entities

/-- A macro without a value that gets two later, and a function that is declared twice:
`#define N`, `#define N 1`, `#define N 2`, `int f(int first);`, `int f(int again);`. -/
def redeclared : ParsedUnit where
  files := #["twice.h"]
  tokens := #[]
  cursors := #[
    { Cursor.missing with
      kind := .macroDefinition, spelling := "N", location := ⟨some 0, 8, 1⟩
      tokens := some [⟨.identifier, "N", 8, 9, 1⟩] },
    { Cursor.missing with
      kind := .macroDefinition, spelling := "N", location := ⟨some 0, 18, 2⟩
      tokens := some [⟨.identifier, "N", 18, 19, 2⟩, ⟨.literal, "1", 20, 21, 2⟩] },
    { Cursor.missing with
      kind := .macroDefinition, spelling := "N", location := ⟨some 0, 30, 3⟩
      tokens := some [⟨.identifier, "N", 30, 31, 3⟩, ⟨.literal, "2", 32, 33, 3⟩] },
    { Cursor.missing with
      kind := .functionDecl, spelling := "f", location := ⟨some 0, 38, 4⟩, result := some 0
      children := [5] },
    { Cursor.missing with
      kind := .functionDecl, spelling := "f", location := ⟨some 0, 56, 5⟩, canonical := some 3
      result := some 0, children := [6] },
    { Cursor.missing with
      kind := .parameterDecl, spelling := "first", location := ⟨some 0, 44, 4⟩, type := some 0
      tokens := some [] },
    { Cursor.missing with
      kind := .parameterDecl, spelling := "again", location := ⟨some 0, 62, 5⟩, type := some 0
      tokens := some [] }]
  types := #[{ SourceType.missing with kind := .int, spelling := "int" }]
  top := [0, 1, 2, 3, 4]
  includes := []
  diagnostics := []

/-- The second definition of the macro gives the value, and the first declaration of the function the
name of the parameter. -/
theorem read_first_redeclared :
    let config : Config :=
      ⟨Settings.minimal "twice" [.path "twice.h"], by decide, by simp [Settings.minimal]⟩
    let r : Resolver := ⟨redeclared, config.prefixes, ["twice.h"]⟩
    let run := readUnit config redeclared ["twice.h"] .initial
    (read config redeclared ["twice.h"]).result = .ok run.2.index ∧
      run.2.index.constants = [⟨⟨["n"], some "N"⟩, .int 1⟩] ∧
      List.Forall₂ (ReadWhenReached config r) [3] run.2.index.functions ∧
      run.2.index.functions.map (fun c => c.parameters.map (·.name)) =
        [[⟨["first"], some "first"⟩]] := by
  intro config r run
  have hresult : (read config redeclared ["twice.h"]).result = .ok run.2.index := by
    have hok : run.1 = .ok () := by decide +kernel
    have hcut : run.2.cut = none := by decide +kernel
    rw [result_read, hcut, hok]
    rfl
  obtain ⟨hconstants, _, hfunctions, _⟩ := read_first config redeclared ["twice.h"] hresult
  have hmacros : (firstOfEach (·.1.spelling) (valuedMacros redeclared
      (visibleTop redeclared ["twice.h"]))).map (constantOf r) = [⟨⟨["n"], some "N"⟩, .int 1⟩] := by
    decide +kernel
  have hdeclared : firstOfEach redeclared.canonicalCursor (functionDeclarations redeclared
      (visibleTop redeclared ["twice.h"])) = [3] := by decide +kernel
  exact ⟨hresult, hconstants.trans hmacros, hdeclared ▸ hfunctions, by decide +kernel⟩

end HeaderIndex.Reader
