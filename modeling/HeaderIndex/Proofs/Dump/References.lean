import HeaderIndex.Proofs.Dump.Parts
import HeaderIndex.Proofs.Dump.Total

/-!
# The references of a dump

A type refers to an entity by a word for its sort and its name, and a method to its function by the
spelling of the function.

* `Dump.Resolves` — every reference of a value leads to an entry of a dump.
* `exists_structEntry`, `exists_enumEntry`, `exists_callbackEntry`, `exists_functionEntry` — what is
  bound in an index has an entry in its dump.
* `resolves_type` — the references of a type are resolved if the type refers to what is bound.
* `reached_references` — so all references in the dump of an index that is read are resolved.
-/

namespace HeaderIndex

theorem CType.RefersIn.innermost {index : Index} {t : CType} (h : t.RefersIn index) :
    t.innermost.RefersIn index := by
  induction t with
  | array element size ih => exact ih h
  | _ => exact h

namespace Dump

open Json

/-- Whether the references of a value lead to entries of a dump: each structure or union to one of
this kind and name, each enumeration and callback to one of this name. -/
structure Resolves (dump part : Json) : Prop where
  struct : ∀ name, part.get? "struct" = some name → ∃ entry ∈ dump.itemsAt "structs",
    entry.get? "name" = some name ∧ entry.get? "kind" = some (.str "struct")
  union : ∀ name, part.get? "union" = some name → ∃ entry ∈ dump.itemsAt "structs",
    entry.get? "name" = some name ∧ entry.get? "kind" = some (.str "union")
  byValue : ∀ name, part.get? "by_value" = some name → ∃ entry ∈ dump.itemsAt "structs",
    entry.get? "name" = some name
  enum : ∀ name, part.get? "enum" = some name → ∃ entry ∈ dump.itemsAt "enums",
    entry.get? "name" = some name
  callback : ∀ name, part.get? "callback" = some name → ∃ entry ∈ dump.itemsAt "callbacks",
    entry.get? "name" = some name

variable {config : Config} {index : Index} {dump part : Json} {id : EntityId}

/-! ## Entries of what is bound -/

theorem exists_structEntry {a : Aggregate} (h : tree config index = .ok dump) (hid : id ∈ index.bound)
    (ha : index.entity? id = some (.aggregate a)) :
    ∃ entry ∈ dump.itemsAt "structs", ∃ name, typeName config a.name = .ok name ∧
      entry.get? "name" = some name ∧
      entry.get? "kind" = some (.str (if a.isUnion then "union" else "struct")) := by
  obtain ⟨_, _, _, _, aggregates, haggregates, _, _, _, _, rfl⟩ := tree_iff.1 h
  obtain ⟨entry, hentry, hok⟩ :=
    exists_mem_mapM haggregates a (Index.mem_aggregates_iff.2 ⟨id, hid, ha⟩)
  obtain ⟨name, hname, _, _, _, _, rfl⟩ := aggregate_iff.1 hok
  exact ⟨_, hentry, name, hname, rfl, rfl⟩

theorem exists_enumEntry {e : Enumeration} (h : tree config index = .ok dump) (hid : id ∈ index.bound)
    (he : index.entity? id = some (.enumeration e)) :
    ∃ entry ∈ dump.itemsAt "enums", ∃ name, typeName config e.name = .ok name ∧
      entry.get? "name" = some name := by
  obtain ⟨_, _, enumerations, henumerations, _, _, _, _, _, _, rfl⟩ := tree_iff.1 h
  obtain ⟨entry, hentry, hok⟩ :=
    exists_mem_mapM henumerations e (Index.mem_enumerations_iff.2 ⟨id, hid, he⟩)
  obtain ⟨name, hname, _, _, rfl⟩ := enumeration_iff.1 hok
  exact ⟨_, hentry, name, hname, rfl⟩

theorem exists_callbackEntry {c : Callable} (h : tree config index = .ok dump)
    (hid : id ∈ index.bound) (hc : index.entity? id = some (.callable c)) (his : c.isCallback = true) :
    ∃ entry ∈ dump.itemsAt "callbacks", ∃ name, typeName config c.name = .ok name ∧
      entry.get? "name" = some name := by
  obtain ⟨_, _, _, _, _, _, callbacks, hcallbacks, _, _, rfl⟩ := tree_iff.1 h
  obtain ⟨entry, hentry, hok⟩ :=
    exists_mem_mapM hcallbacks c (Index.mem_callbacks_iff.2 ⟨id, hid, hc, his⟩)
  obtain ⟨name, hname, _, _, _, _, rfl⟩ := callable_iff.1 hok
  rw [if_pos his] at hname
  exact ⟨_, hentry, name, hname, rfl⟩

theorem exists_functionEntry {c : Callable} (h : tree config index = .ok dump)
    (hid : id ∈ index.bound) (hc : index.entity? id = some (.callable c)) (his : c.isCallback = false) :
    ∃ entry ∈ dump.itemsAt "functions", entry.get? "raw" = some (.optional c.name.raw) := by
  obtain ⟨_, _, _, _, _, _, _, _, functions, hfunctions, rfl⟩ := tree_iff.1 h
  obtain ⟨entry, hentry, hok⟩ :=
    exists_mem_mapM hfunctions c (Index.mem_functions_iff.2 ⟨id, hid, hc, his⟩)
  obtain ⟨name, _, _, _, _, _, rfl⟩ := callable_iff.1 hok
  exact ⟨_, hentry, rfl⟩

/-! ## References of types -/

theorem get?_eq_none_of_plain (h : part.Plain) {word : String} (hword : word ∈ references) :
    part.get? word = none := by
  cases part with
  | obj members =>
    refine List.lookup_eq_none_iff.2 fun member hmember => ?_
    have hne : word ≠ member.1 := fun heq => h member hmember (heq ▸ hword)
    simpa using hne
  | _ => rfl

theorem resolves_of_nothing (h : ∀ word ∈ references, part.get? word = none) : Resolves dump part := by
  have hnone : ∀ word ∈ references, ∀ name, part.get? word ≠ some name := fun word hword name => by
    simp [h word hword]
  constructor <;> exact fun name hname => absurd hname (hnone _ (by decide) name)

/-- Plain values have no references. -/
theorem resolves_of_plain (h : part.Plain) : Resolves dump part :=
  resolves_of_nothing fun _ => get?_eq_none_of_plain h

theorem get?_single_iff {word other : String} {name value : Json} :
    (Json.obj [(word, name)]).get? other = some value ↔ word = other ∧ name = value := by
  by_cases h : other = word
  · simp [get?, h]
  · simp [get?, List.lookup_cons, beq_eq_false_iff_ne.2 h, Ne.symm h]

/-- One reference alone is resolved if there is an entry for its word. -/
theorem resolves_single {word : String} {name : Json}
    (struct : word = "struct" → ∃ entry ∈ dump.itemsAt "structs",
      entry.get? "name" = some name ∧ entry.get? "kind" = some (.str "struct"))
    (union : word = "union" → ∃ entry ∈ dump.itemsAt "structs",
      entry.get? "name" = some name ∧ entry.get? "kind" = some (.str "union"))
    (byValue : word = "by_value" → ∃ entry ∈ dump.itemsAt "structs", entry.get? "name" = some name)
    (enum : word = "enum" → ∃ entry ∈ dump.itemsAt "enums", entry.get? "name" = some name)
    (callback : word = "callback" →
      ∃ entry ∈ dump.itemsAt "callbacks", entry.get? "name" = some name) :
    Resolves dump (.obj [(word, name)]) := by
  constructor
  all_goals
    intro value h
    obtain ⟨hword, rfl⟩ := get?_single_iff.1 h
  · exact struct hword
  · exact union hword
  · exact byValue hword
  · exact enum hword
  · exact callback hword

theorem resolves_byValue {a : Aggregate} (h : tree config index = .ok dump) (hid : id ∈ index.bound)
    (ha : index.entity? id = some (.aggregate a)) (ht : type config index (.byValue id) = .ok part) :
    Resolves dump part := by
  obtain ⟨name, hname, rfl⟩ := type_byValue_iff.1 ht
  obtain ⟨entry, hentry, name', hname', hentryName, _⟩ := exists_structEntry h hid ha
  simp only [ha, Option.map_some, Option.getD_some, Entity.name] at hname
  obtain rfl := Except.ok.inj (hname.symm.trans hname')
  exact resolves_single (absurd · (by decide)) (absurd · (by decide))
    (fun _ => ⟨entry, hentry, hentryName⟩) (absurd · (by decide)) (absurd · (by decide))

theorem resolves_entity {e : Entity} (h : tree config index = .ok dump) (hid : id ∈ index.bound)
    (he : index.entity? id = some e) (hsort : e.IsType)
    (ht : type config index (.entity id) = .ok part) : Resolves dump part := by
  obtain ⟨word, hword, name, hname, rfl⟩ := (type_entity_iff he).1 ht
  cases e with
  | aggregate a =>
    obtain rfl := Option.some.inj hword
    obtain ⟨entry, hentry, name', hname', hentryName, hkind⟩ := exists_structEntry h hid he
    obtain rfl := Except.ok.inj (hname.symm.trans hname')
    -- the word is the kind of the entry
    have hother : ∀ word, word ≠ "union" → word ≠ "struct" →
        (if a.isUnion then "union" else "struct") ≠ word := by
      intro word hunion hstruct
      split
      · exact hunion.symm
      · exact hstruct.symm
    exact resolves_single (fun hword => ⟨entry, hentry, hentryName, hword ▸ hkind⟩)
      (fun hword => ⟨entry, hentry, hentryName, hword ▸ hkind⟩)
      (absurd · (hother _ (by decide) (by decide))) (absurd · (hother _ (by decide) (by decide)))
      (absurd · (hother _ (by decide) (by decide)))
  | enumeration e =>
    obtain rfl := Option.some.inj hword
    obtain ⟨entry, hentry, name', hname', hentryName⟩ := exists_enumEntry h hid he
    obtain rfl := Except.ok.inj (hname.symm.trans hname')
    exact resolves_single (absurd · (by decide)) (absurd · (by decide)) (absurd · (by decide))
      (fun _ => ⟨entry, hentry, hentryName⟩) (absurd · (by decide))
  | callable c =>
    obtain rfl := Option.some.inj hword
    obtain ⟨entry, hentry, name', hname', hentryName⟩ := exists_callbackEntry h hid he hsort
    obtain rfl := Except.ok.inj (hname.symm.trans hname')
    exact resolves_single (absurd · (by decide)) (absurd · (by decide)) (absurd · (by decide))
      (absurd · (by decide)) (fun _ => ⟨entry, hentry, hentryName⟩)
  | constant c => cases hsort

/-- **The references of a type are resolved** if what it refers to is bound. -/
theorem resolves_type (h : tree config index = .ok dump) {t : CType} (hrefers : t.RefersIn index)
    (ht : type config index t = .ok part) : Resolves dump part := by
  cases t with
  | byValue id =>
    obtain ⟨hid, _, ha, a, rfl⟩ := hrefers
    exact resolves_byValue h hid ha ht
  | entity id =>
    obtain ⟨hid, e, he, hsort⟩ := hrefers
    exact resolves_entity h hid he hsort ht
  | pointer pointee depth =>
    obtain ⟨name, _, rfl⟩ := type_pointer_iff.1 ht
    exact resolves_of_plain (by simp [Plain, references])
  | array element size =>
    obtain ⟨inner, _, rfl⟩ := type_array_iff.1 ht
    exact resolves_of_plain (by simp [Plain, references])
  | primitive | string | unknown =>
    cases ht
    exact resolves_of_plain trivial
  | foreign text => cases hrefers

/-! ## Whole dumps -/

theorem resolves_number (n : Number) : Resolves dump (number n) := by
  cases n with
  | int value => exact resolves_of_plain trivial
  | float value => exact resolves_of_nothing fun _ _ => rfl

/-- **All references in the dump of a closed index are resolved.** -/
theorem resolves_tree (hclosed : index.Closed) (h : tree config index = .ok dump) :
    dump.Every (Resolves dump) :=
  every_tree (fun _ => resolves_of_plain) h (fun n _ => resolves_number n)
    fun id e he t ht _ hshown =>
      resolves_type h ((hclosed.entities id e he).types t ht).innermost hshown

/-- The methods in the dump of a closed index are functions in it. -/
theorem resolves_methods (hclosed : index.Closed) (h : tree config index = .ok dump) :
    ∀ entry ∈ dump.itemsAt "structs", ∀ method ∈ entry.itemsAt "methods",
      ∃ function ∈ dump.itemsAt "functions", ∃ raw,
        method.get? "function" = some raw ∧ function.get? "raw" = some raw := by
  intro entry hentry m hm
  obtain ⟨_, _, _, _, aggregates, haggregates, _, _, _, _, heq⟩ := tree_iff.1 h
  rw [heq] at hentry
  obtain ⟨a, ha, hok⟩ := exists_of_mem_mapM haggregates entry hentry
  obtain ⟨name, _, fields, _, methods, hmethods, rfl⟩ := aggregate_iff.1 hok
  obtain ⟨m', hm', hok'⟩ := exists_of_mem_mapM hmethods m hm
  obtain ⟨name', _, rfl⟩ := method_iff.1 hok'
  obtain ⟨id, _, hid⟩ := Index.mem_aggregates_iff.1 ha
  obtain ⟨hbound, _, he, c, rfl, hfunction⟩ := (hclosed.entities id _ hid).methods m' hm'
  obtain ⟨function, hmem, hraw⟩ := exists_functionEntry h hbound he hfunction
  exact ⟨function, hmem, _, by rw [he]; rfl, hraw⟩

end Dump

namespace Reader

/-- **Every cross-reference of a dump is resolved within it.**  Whatever is read into the empty index
and however this ends: each index on the way has a dump under every configuration; each reference to
a structure, union, enumeration or callback, at any depth of a type, is to the name of an entry in the
section of its sort, and of its kind where the type tells; and each method is the spelling of an entry
in the section of functions. -/
theorem reached_references (config : Config) (unit : ParsedUnit) (visible : List String) :
    ∀ index ∈ (readUnit config unit visible .initial).2.reached, ∀ writing : Config,
      ∃ dump, Dump.tree writing index = .ok dump ∧
        (∀ part : Json, part.Inside dump → Dump.Resolves dump part) ∧
        ∀ entry ∈ dump.itemsAt "structs", ∀ method ∈ entry.itemsAt "methods",
          ∃ function ∈ dump.itemsAt "functions", ∃ raw,
            method.get? "function" = some raw ∧ function.get? "raw" = some raw := by
  intro index hindex writing
  obtain ⟨hwhole, hclosed⟩ := whole_of_reached config unit visible hindex
  obtain ⟨dump, hdump⟩ := Dump.exists_tree writing hwhole hclosed.writable
  exact ⟨dump, hdump, Dump.resolves_tree hclosed hdump, Dump.resolves_methods hclosed hdump⟩

/-- The parameter of the callback refers to the structure by the name of its entry. -/
theorem reached_references_oneOfEach :
    let config : Config :=
      ⟨Settings.minimal "shape" [.path "shape.h"], by decide, by simp [Settings.minimal]⟩
    let index := (readUnit config oneOfEach ["shape.h"] .initial).2.index
    ((Dump.tree config index).toOption.map fun dump =>
        ((dump.itemsAt "callbacks").flatMap fun entry => (entry.itemsAt "parameters").filterMap fun p =>
          ((p.get? "type").bind (·.get? "struct")).bind Json.text?,
        (dump.itemsAt "structs").filterMap fun entry => (entry.get? "name").bind Json.text?)) =
        some (["Point"], ["Point", "Value"]) ∧
      ∃ dump, Dump.tree config index = .ok dump ∧
        ∀ part : Json, part.Inside dump → Dump.Resolves dump part := by
  intro config index
  obtain ⟨dump, hdump, hresolves, _⟩ :=
    reached_references config oneOfEach ["shape.h"] index (State.index_mem_reached _) config
  exact ⟨by decide +kernel, dump, hdump, hresolves⟩

end Reader

end HeaderIndex
