import HeaderIndex.Proofs.Reader.Naming

/-!
# The name that something is declared with

A structure, union or enumeration comes into an index with the name of one of its declarations.
Whether it still waits for a name is judged by the words of the one it has, and a name in the source
may have no words: it consists of underscores, or of a prefix that is stripped.

* `Path.exists_registration` — what comes to stand under a key is put there by a step, with the name of
  its declaration.
* `Step.nameOf_eq_or`, `Path.nameOf_eq_or` — a name stays, or it has no words and another is offered.
* `reached_declaredName` — so a declared name with words stays to the end of every run.
-/

namespace HeaderIndex.Reader

variable {r : Resolver} {s t : State} {i j : Index} {key : Key} {id : EntityId} {e : Entity}

/-! ## Names where something is put under a key -/

/-- What takes a name was put under its key for the declaration of a structure, union or enumeration. -/
theorem Registered.exists_tag (h : Registered r key e) (hcan : e.canAdoptName = true) :
    ∃ position, DeclaresTag r.unit position key ∧
      e.name = (r.unit.cursor position).name r.prefixes := by
  cases h with
  | @tag position _ declares named => exact ⟨position, declares, named⟩
  | callback => cases hcan
  | other _ sort =>
    rw [sort] at hcan
    cases hcan

/-- A name with words is spelled as in the source. -/
theorem raw_name_of_words {prefixes : List String} {cursor : Cursor}
    (h : (cursor.name prefixes).parts ≠ []) :
    (cursor.name prefixes).raw = some cursor.spelling := by
  unfold Cursor.name at h ⊢
  split
  · rename_i hnone
    rw [if_pos hnone] at h
    exact absurd rfl h
  · rfl

/-- **What comes to stand under a key** is put there in one step. -/
theorem NameChange.registered (h : NameChange r i j) (free : i.lookup key = none)
    (bound : j.lookup key = some id) : ∃ e, i.add key e = (id, j) ∧ Registered r key e := by
  cases h with
  | nothing lookup =>
    rw [lookup, free] at bound
    cases bound
  | offer =>
    have hsame : i.lookup key = some id := bound
    rw [free] at hsame
    cases hsame
  | @add other e _ registered =>
    by_cases hkey : key = other
    · subst hkey
      obtain rfl := Option.some.inj (bound.symm.trans (i.lookup_add_self key e))
      exact ⟨e, rfl, registered⟩
    · rw [Index.lookup_add, if_neg hkey, Option.or_none, free] at bound
      cases bound

/-- **The step of a run at which something comes to stand under a key.** -/
theorem Path.exists_registration (h : Path r s t) (free : s.index.lookup key = none)
    (bound : t.index.lookup key = some id) :
    ∃ u v new, Path r s u ∧ Step r u v ∧ Path r v t ∧ u.index.lookup key = none ∧
      u.index.add key new = (id, v.index) ∧ Registered r key new := by
  obtain ⟨u, v, hu, step, hv, hfree, hbound⟩ :=
    h.exists_step (p := fun s => s.index.lookup key ≠ none) (fun h => h free) (by rw [bound]; nofun)
  obtain ⟨id', hid'⟩ := Option.ne_none_iff_exists'.1 hbound
  -- the key leads to the same position ever after
  obtain rfl := Option.some.inj (((Path.growsTo hv).lookup hid').symm.trans bound)
  obtain ⟨new, hadd, registered⟩ := step.nameChange.registered (not_not.1 hfree) hid'
  exact ⟨u, v, new, hu, step, hv, not_not.1 hfree, hadd, registered⟩

/-! ## Names from then on -/

/-- **A name stays, or it has no words and another is offered.** -/
theorem Step.nameOf_eq_or (h : Step r s t) (he : s.index.entity? id = some e) :
    nameOf t.index id = nameOf s.index id ∨
      (nameOf s.index id).parts = [] ∧ ∃ type, s.index.lookup (r.unit.typeKey type) = some id ∧
        NamedBy r s.index type (nameOf t.index id) := by
  by_cases hwords : (nameOf s.index id).parts = []
  · have hchange := h.nameChange
    generalize t.index = j at hchange ⊢
    cases hchange with
    | nothing _ names => exact .inl (congrFun names id)
    | @offer type id' name bound source =>
      by_cases hid : id' = id
      · subst hid
        rcases nameOf_adoptName_cases s.index id' name with hname | hname
        · exact .inl hname
        · exact .inr ⟨hwords, type, bound, by rwa [hname]⟩
      · exact .inl (by simp [nameOf, Index.adoptName, Index.entity?_modify, hid])
    | add => exact .inl (by rw [nameOf, Index.entity?_add _ _ _ (Index.lt_of_entity? he), nameOf])
  · exact .inl (nameOf_growsTo h.growsTo hwords)

/-- In a run a name stays, or another one is offered when it has no words. -/
theorem Path.nameOf_eq_or (h : Path r s t) (he : s.index.entity? id = some e) :
    nameOf t.index id = nameOf s.index id ∨
      ∃ i ∈ t.reached, s.index.GrowsTo i ∧ i.GrowsTo t.index ∧ (nameOf i id).parts = [] ∧
        ∃ type, i.lookup (r.unit.typeKey type) = some id ∧ NamedBy r i type (nameOf t.index id) := by
  by_cases hsame : nameOf s.index id = nameOf t.index id
  · exact .inl hsame.symm
  · -- the step at which it gets the name that it has at the end
    obtain ⟨u, v, hu, step, hv, hother, hname⟩ :=
      h.exists_step (p := fun u => nameOf u.index id = nameOf t.index id) hsame rfl
    obtain ⟨e', he', _⟩ := (Path.growsTo hu).entities id e he
    rcases step.nameOf_eq_or he' with hkept | ⟨hwords, type, bound, source⟩
    · exact absurd (hkept.symm.trans hname) hother
    · have hrest : Path r u t := hv.head step
      rw [hname] at source
      exact .inr ⟨u.index, hrest.mem_reached u.index_mem_reached, Path.growsTo hu, hrest.growsTo,
        hwords, type, bound, source⟩

/-- **A declared name with words stays.**  Whatever is read, into any index and however this ends:
each structure, union and enumeration that comes to stand under a key was put there for a declaration
with this key, and with its name.  If there are words in this name, it is the name at the end, spelled
as in the source.  Otherwise it may have been replaced: by a name that comes from a declaration, a
typedef or a field and was offered when there were no words. -/
theorem reached_declaredName (config : Config) (unit : ParsedUnit) (visible : List String)
    (start : Index) {key : Key} {id : EntityId} {e : Entity} :
    let run := (readUnit config unit visible (.startingFrom start)).2
    start.lookup key = none → run.index.lookup key = some id → run.index.entity? id = some e →
    e.canAdoptName = true →
      ∃ position, DeclaresTag unit position key ∧
        ∃ before ∈ run.reached, ∃ first ∈ run.reached, ∃ new : Entity,
          before.lookup key = none ∧ before.add key new = (id, first) ∧
          new.name = (unit.cursor position).name config.prefixes ∧
          (new.name.parts ≠ [] →
            e.name = new.name ∧ e.name.raw = some (unit.cursor position).spelling) ∧
          (e.name ≠ new.name → new.name.parts = [] ∧
            ∃ i ∈ run.reached, first.GrowsTo i ∧ (nameOf i id).parts = [] ∧
              ∃ type, i.lookup (unit.typeKey type) = some id ∧
                NamedBy ⟨unit, config.prefixes, visible⟩ i type e.name) := by
  intro run free bound he hcan
  have path := readUnit_path config unit visible (.startingFrom start)
  obtain ⟨u, v, new, _, step, hv, hfree, hadd, registered⟩ := path.exists_registration free bound
  have hrest : Path ⟨unit, config.prefixes, visible⟩ v run := hv
  have hlater : Path ⟨unit, config.prefixes, visible⟩ u run := hv.head step
  have hnew : v.index.entity? id = some new := by
    have hentity := Index.entity?_add_of_free hfree new
    rwa [hadd] at hentity
  obtain ⟨e', he', hgrows⟩ := hrest.growsTo.entities id new hnew
  obtain rfl := Option.some.inj (he.symm.trans he')
  obtain ⟨position, declares, named⟩ :=
    registered.exists_tag (hgrows.canAdoptName.symm.trans hcan)
  have hlast : nameOf run.index id = e.name := nameOf_of_entity? he
  have hfirst : nameOf v.index id = new.name := nameOf_of_entity? hnew
  refine ⟨position, declares, u.index, hlater.mem_reached u.index_mem_reached, v.index,
    hrest.mem_reached v.index_mem_reached, new, hfree, hadd, named, fun hwords => ?_,
    fun hother => ⟨?_, ?_⟩⟩
  · have hsame : e.name = new.name := by
      rw [← hlast, ← hfirst]
      exact nameOf_growsTo hrest.growsTo (hfirst ▸ hwords)
    rw [hsame, named]
    exact ⟨rfl, raw_name_of_words (named ▸ hwords)⟩
  · by_contra hwords
    rw [← hlast, ← hfirst] at hother
    exact hother (nameOf_growsTo hrest.growsTo (hfirst ▸ hwords))
  · rcases hrest.nameOf_eq_or hnew with hsame | ⟨i, hi, hfrom, _, hwords, type, hbound, source⟩
    · rw [hlast, hfirst] at hsame
      exact absurd hsame hother
    · exact ⟨i, hi, hfrom, hwords, type, hbound, hlast ▸ source⟩

/-- `struct n { int x; };` and `typedef struct n T;`, for a tag of one character in the place of `n`. -/
def typedefOf (tag : String) : ParsedUnit where
  files := #["test.h"]
  tokens := #[[]]
  cursors := #[
    { Cursor.missing with
      kind := .structDecl, spelling := tag, location := ⟨some 0, 7, 1⟩, start := ⟨some 0, 0, 1⟩
      stop := ⟨some 0, 19, 1⟩, type := some 0, children := [1], isDefinition := true },
    { Cursor.missing with
      kind := .fieldDecl, spelling := "x", location := ⟨some 0, 15, 1⟩, start := ⟨some 0, 11, 1⟩
      stop := ⟨some 0, 16, 1⟩, type := some 1 },
    { Cursor.missing with
      kind := .typedefDecl, spelling := "T", location := ⟨some 0, 38, 2⟩, start := ⟨some 0, 21, 2⟩
      stop := ⟨some 0, 39, 2⟩, type := some 2, underlying := some 3, children := [3] },
    { Cursor.missing with
      kind := .other, spelling := "struct " ++ tag, location := ⟨some 0, 36, 2⟩
      start := ⟨some 0, 36, 2⟩, stop := ⟨some 0, 37, 2⟩, type := some 0 }]
  types := #[
    { SourceType.missing with
      kind := .record, spelling := "struct " ++ tag, declaration := some 0 },
    { SourceType.missing with kind := .int, spelling := "int" },
    { SourceType.missing with
      kind := .typedef, spelling := "T", declaration := some 2, canonical := some 0 },
    { SourceType.missing with
      kind := .elaborated, spelling := "struct " ++ tag, declaration := some 0, canonical := some 0 }]
  top := [0, 2]
  includes := []
  diagnostics := []

/-- The structure `n` is not called after a typedef. -/
theorem reached_declaredName_typedefOf :
    let config : Config :=
      ⟨Settings.minimal "test" [.path "test.h"], by decide, by simp [Settings.minimal]⟩
    let index := (readUnit config (typedefOf "n") ["test.h"] (.startingFrom .empty)).2.index
    index.lookup (.type 0) = some 0 ∧
      ∃ e, index.entity? 0 = some e ∧ e.canAdoptName = true ∧ e.name.raw = some "n" ∧
        ∃ position, DeclaresTag (typedefOf "n") position (.type 0) ∧
          ((((typedefOf "n").cursor position).name config.prefixes).parts ≠ [] →
            e.name.raw = some ((typedefOf "n").cursor position).spelling) := by
  intro config index
  have hlookup : index.lookup (.type 0) = some 0 := by decide +kernel
  have hentity : (index.entity? 0).any
      (fun e => e.canAdoptName && e.name.raw = some "n") = true := by decide +kernel
  obtain ⟨e, he, hcan, hraw⟩ : ∃ e, index.entity? 0 = some e ∧ e.canAdoptName = true ∧
      e.name.raw = some "n" := by simpa [Option.any_eq_true] using hentity
  obtain ⟨position, declares, _, _, _, _, _, _, _, named, hkept, _⟩ :=
    reached_declaredName config (typedefOf "n") ["test.h"] .empty rfl hlookup he hcan
  exact ⟨hlookup, e, he, hcan, hraw, position, declares, fun hwords => (hkept (named ▸ hwords)).2⟩

/-- The structure `_` is called after its typedef: there are no words in its name. -/
theorem declaredName_lost :
    let config : Config :=
      ⟨Settings.minimal "test" [.path "test.h"], by decide, by simp [Settings.minimal]⟩
    let run := readUnit config (typedefOf "_") ["test.h"] (.startingFrom .empty)
    run.1 = .ok () ∧ ((typedefOf "_").cursor 0).kind = .structDecl ∧
      ((typedefOf "_").cursor 0).isNameless = false ∧
      some "_" ∈ run.2.reached.map (fun index => (nameOf index 0).raw) ∧
      run.2.index.lookup (.type 0) = some 0 ∧ (nameOf run.2.index 0).raw = some "T" := by
  decide +kernel

end HeaderIndex.Reader
