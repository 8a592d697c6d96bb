import HeaderIndex.Proofs.Dump.Shape
import HeaderIndex.Proofs.Reader.Closure
import HeaderIndex.Proofs.Reader.Sorts
import HeaderIndex.Proofs.Reader.Whole

/-!
# Every index that is read can be dumped

* `CType.WritableIn`, `Index.Writable` — the types for which a dump has a place: no text instead of a
  type, and no reference to a constant.
* `Dump.exists_tree` — an index of whole names and writable types can be dumped.
* `reached_written` — so can every index of a run from the empty one.
-/

namespace HeaderIndex

/-- Whether a dump has a place for a type. -/
def CType.WritableIn (index : Index) : CType → Prop
  | .entity id => ∃ e, index.entity? id = some e ∧ (Dump.tag? e).isSome
  | .array element _ => element.WritableIn index
  | .foreign _ => False
  | .primitive _ | .string | .byValue _ | .pointer .. | .unknown => True

/-- Whether a dump has a place for the types of all entities of an index. -/
def Index.Writable (index : Index) : Prop :=
  ∀ id e, index.entity? id = some e → ∀ type ∈ e.types, type.WritableIn index

theorem CType.RefersIn.writableIn {index : Index} {type : CType} (h : type.RefersIn index) :
    type.WritableIn index := by
  induction type with
  | entity id =>
    obtain ⟨_, e, he, htype⟩ := h
    refine ⟨e, he, ?_⟩
    cases e with
    | constant c => cases htype
    | _ => rfl
  | array element size ih => exact ih h
  | foreign text => cases h
  | _ => trivial

theorem Index.Closed.writable {index : Index} (h : index.Closed) : index.Writable :=
  fun id e he type htype => ((h.entities id e he).types type htype).writableIn

namespace Dump

variable {index : Index}

/-! ## Parts -/

theorem exists_formatted (config : Config) (casing : List Casing) (joiner : String) {name : Name}
    (h : name.Whole) : ∃ json, formatted config casing joiner name = .ok json := by
  obtain ⟨text, htext⟩ := h.exists_format casing joiner config.reservedWords
  exact ⟨_, formatted_iff.2 ⟨text, htext, rfl⟩⟩

/-- A type can be written if the names can that it shows. -/
theorem exists_type (config : Config) (hindex : index.Whole) {t : CType}
    (hpointees : ∀ name ∈ t.pointees, name.Whole) (hwritable : t.WritableIn index) :
    ∃ json, type config index t = .ok json := by
  induction t with
  | byValue id =>
    obtain ⟨name, hname⟩ := exists_formatted config [.camelcase] "" (hindex.getD_name id)
    exact ⟨_, type_byValue_iff.2 ⟨name, hname, rfl⟩⟩
  | pointer pointee depth =>
    obtain ⟨name, hname⟩ :=
      exists_formatted config [.camelcase] "" (hpointees pointee (List.mem_singleton_self _))
    exact ⟨_, type_pointer_iff.2 ⟨name, hname, rfl⟩⟩
  | array element size ih =>
    obtain ⟨inner, hinner⟩ := ih hpointees hwritable
    exact ⟨_, type_array_iff.2 ⟨inner, hinner, rfl⟩⟩
  | entity id =>
    obtain ⟨e, he, htag⟩ := hwritable
    obtain ⟨word, hword⟩ := Option.isSome_iff_exists.1 htag
    obtain ⟨name, hname⟩ :=
      exists_formatted config [.camelcase] "" (Entity.whole_iff.1 (hindex id e he)).1
    exact ⟨_, (type_entity_iff he).2 ⟨word, hword, name, hname, rfl⟩⟩
  | foreign text => cases hwritable
  | primitive | string | unknown => exact ⟨_, rfl⟩

/-! ## Entries -/

theorem exists_constant (config : Config) {c : Constant} (h : (Entity.constant c).Whole) :
    ∃ json, constant config c = .ok json := by
  obtain ⟨name, hname⟩ := exists_formatted config [.upcase] "_" (Entity.whole_iff.1 h).1
  exact ⟨_, constant_iff.2 ⟨name, hname, rfl⟩⟩

theorem exists_enumerators (config : Config) {e : Enumeration}
    (h : ∀ short ∈ e.shortNames, short.Whole) :
    ∃ constants, (e.shortNames.zip e.constants).mapM
      (fun (short, c) => enumerator config short c) = .ok constants := by
  refine exists_mapM_eq_ok fun pair hpair => ?_
  obtain ⟨shown, hshown⟩ :=
    exists_formatted config [.downcase] "_" (h pair.1 (List.of_mem_zip hpair).1)
  exact ⟨_, enumerator_iff.2 ⟨shown, hshown, rfl⟩⟩

theorem exists_enumeration (config : Config) {e : Enumeration} (h : (Entity.enumeration e).Whole) :
    ∃ json, enumeration config e = .ok json := by
  obtain ⟨name, hname⟩ := exists_formatted config [.camelcase] "" (Entity.whole_iff.1 h).1
  obtain ⟨constants, hconstants⟩ := exists_enumerators config fun short hshort =>
    h short (List.mem_cons_of_mem _ (List.mem_append_left _ (List.mem_append_right _ hshort)))
  exact ⟨_, enumeration_iff.2 ⟨name, hname, constants, hconstants, rfl⟩⟩

theorem exists_aggregate (config : Config) (hindex : index.Whole) {a : Aggregate}
    (h : (Entity.aggregate a).Whole)
    (hwritable : ∀ type ∈ (Entity.aggregate a).types, type.WritableIn index) :
    ∃ json, aggregate config index a = .ok json := by
  obtain ⟨hname, hparts, htypes⟩ := Entity.whole_iff.1 h
  obtain ⟨name, hname⟩ := exists_formatted config [.camelcase] "" hname
  obtain ⟨fields, hfields⟩ : ∃ fields, a.fields.mapM (field config index) = .ok fields := by
    refine exists_mapM_eq_ok fun f hf => ?_
    obtain ⟨name, hname⟩ := exists_formatted config [.downcase] "_"
      (hparts f.name (List.mem_append_left _ (List.mem_map_of_mem hf)))
    have htype : f.type ∈ (Entity.aggregate a).types := List.mem_map_of_mem hf
    obtain ⟨shown, hshown⟩ := exists_type config hindex (htypes _ htype) (hwritable _ htype)
    exact ⟨_, field_iff.2 ⟨name, hname, shown, hshown, rfl⟩⟩
  obtain ⟨methods, hmethods⟩ : ∃ methods, a.methods.mapM (method config index) = .ok methods := by
    refine exists_mapM_eq_ok fun m hm => ?_
    obtain ⟨name, hname⟩ := exists_formatted config [.downcase] "_"
      (hparts m.name (List.mem_append_right _ (List.mem_map_of_mem hm)))
    exact ⟨_, method_iff.2 ⟨name, hname, rfl⟩⟩
  exact ⟨_, aggregate_iff.2 ⟨name, hname, fields, hfields, methods, hmethods, rfl⟩⟩

theorem exists_callable (config : Config) (hindex : index.Whole) {c : Callable}
    (h : (Entity.callable c).Whole)
    (hwritable : ∀ type ∈ (Entity.callable c).types, type.WritableIn index) :
    ∃ json, callable config index c = .ok json := by
  obtain ⟨hname, hparts, htypes⟩ := Entity.whole_iff.1 h
  obtain ⟨name, hname⟩ : ∃ name,
      (if c.isCallback then typeName config c.name else valueName config c.name) = .ok name := by
    split
    · exact exists_formatted config [.camelcase] "" hname
    · exact exists_formatted config [.downcase] "_" hname
  obtain ⟨parameters, hparameters⟩ : ∃ parameters,
      c.parameters.mapM (parameter config index) = .ok parameters := by
    refine exists_mapM_eq_ok fun p hp => ?_
    obtain ⟨name, hname⟩ :=
      exists_formatted config [.downcase] "_" (hparts p.name (List.mem_map_of_mem hp))
    have htype : p.type ∈ (Entity.callable c).types :=
      List.mem_cons_of_mem _ (List.mem_map_of_mem hp)
    obtain ⟨shown, hshown⟩ := exists_type config hindex (htypes _ htype) (hwritable _ htype)
    exact ⟨_, parameter_iff.2 ⟨name, hname, shown, hshown, rfl⟩⟩
  have hresult : c.result ∈ (Entity.callable c).types := List.mem_cons_self
  obtain ⟨result, hresult⟩ := exists_type config hindex (htypes _ hresult) (hwritable _ hresult)
  exact ⟨_, callable_iff.2 ⟨name, hname, parameters, hparameters, result, hresult, rfl⟩⟩

/-! ## Whole dumps -/

/-- **An index of whole names and writable types has a dump.** -/
theorem exists_tree (config : Config) (hwhole : index.Whole) (hwritable : index.Writable) :
    ∃ json, tree config index = .ok json := by
  obtain ⟨constants, hconstants⟩ : ∃ constants,
      index.constants.mapM (constant config) = .ok constants :=
    exists_mapM_eq_ok fun c hc => by
      obtain ⟨id, _, he⟩ := Index.mem_constants_iff.1 hc
      exact exists_constant config (hwhole id _ he)
  obtain ⟨enumerations, henumerations⟩ : ∃ enumerations,
      index.enumerations.mapM (enumeration config) = .ok enumerations :=
    exists_mapM_eq_ok fun e he => by
      obtain ⟨id, _, he⟩ := Index.mem_enumerations_iff.1 he
      exact exists_enumeration config (hwhole id _ he)
  obtain ⟨aggregates, haggregates⟩ : ∃ aggregates,
      index.aggregates.mapM (aggregate config index) = .ok aggregates :=
    exists_mapM_eq_ok fun a ha => by
      obtain ⟨id, _, he⟩ := Index.mem_aggregates_iff.1 ha
      exact exists_aggregate config hwhole (hwhole id _ he) (hwritable id _ he)
  obtain ⟨callbacks, hcallbacks⟩ : ∃ callbacks,
      index.callbacks.mapM (callable config index) = .ok callbacks :=
    exists_mapM_eq_ok fun c hc => by
      obtain ⟨id, _, he, _⟩ := Index.mem_callbacks_iff.1 hc
      exact exists_callable config hwhole (hwhole id _ he) (hwritable id _ he)
  obtain ⟨functions, hfunctions⟩ : ∃ functions,
      index.functions.mapM (callable config index) = .ok functions :=
    exists_mapM_eq_ok fun c hc => by
      obtain ⟨id, _, he, _⟩ := Index.mem_functions_iff.1 hc
      exact exists_callable config hwhole (hwhole id _ he) (hwritable id _ he)
  exact ⟨_, tree_iff.2 ⟨constants, hconstants, enumerations, henumerations, aggregates, haggregates,
    callbacks, hcallbacks, functions, hfunctions, rfl⟩⟩

end Dump

namespace Reader

/-- What a run from the empty index passes through has whole names and writable types. -/
theorem whole_of_reached (config : Config) (unit : ParsedUnit) (visible : List String) {index : Index}
    (h : index ∈ (readUnit config unit visible .initial).2.reached) :
    index.Whole ∧ index.Closed := by
  have path := readUnit_path config unit visible .initial
  have hinitial : ∀ i ∈ State.initial.reached, i = .empty := fun i hi => List.mem_singleton.1 hi
  exact ⟨path.whole (fun i hi => hinitial i hi ▸ Index.whole_empty) index h,
    path.closed (List.pairwise_singleton ..) (fun i hi => hinitial i hi ▸ Index.closed_empty) index h⟩

/-- **Whatever is read can be dumped.**  Whatever is read into the empty index, with any prefixes and
however this ends: no index on the way has a name with an empty word, be it the name of an entity, of
one of its parts, of a constant without what it shares with its enumeration, or of what a pointer
points to; and each of them has a dump under every configuration, whose text is written unless a
number in it has too many digits. -/
theorem reached_written (config : Config) (unit : ParsedUnit) (visible : List String) :
    ∀ index ∈ (readUnit config unit visible .initial).2.reached,
      index.Whole ∧ ∀ writing : Config, ∃ dump, Dump.tree writing index = .ok dump ∧
        Dump.text writing index =
          if dump.isPrintable then .ok (dump.render ++ "\n") else .error .overlong := by
  intro index hindex
  obtain ⟨hwhole, hclosed⟩ := whole_of_reached config unit visible hindex
  refine ⟨hwhole, fun writing => ?_⟩
  obtain ⟨dump, hdump⟩ := Dump.exists_tree writing hwhole hclosed.writable
  exact ⟨dump, hdump, Dump.text_of_tree hdump⟩

/-- The parameter of the callback has no name but that of its type. -/
theorem reached_written_oneOfEach :
    let config : Config :=
      ⟨Settings.minimal "shape" [.path "shape.h"], by decide, by simp [Settings.minimal]⟩
    let index := (readUnit config oneOfEach ["shape.h"] .initial).2.index
    index.entities.map (fun e => e.names.map (·.parts)) =
        [[["point"], ["paint"]], [["moved"], ["point"]], [["color"], ["red"], ["red"]],
          [["value"], ["number"]]] ∧
      index.Whole ∧ ∃ dump, Dump.tree config index = .ok dump ∧
        Dump.text config index = .ok (dump.render ++ "\n") := by
  intro config index
  obtain ⟨hwhole, htexts⟩ :=
    reached_written config oneOfEach ["shape.h"] index (State.index_mem_reached _)
  obtain ⟨dump, hdump, htext⟩ := htexts config
  have hprintable : (Dump.tree config index).map Json.isPrintable = .ok true := by decide +kernel
  rw [hdump] at hprintable
  rw [if_pos (Except.ok.inj hprintable)] at htext
  exact ⟨by decide +kernel, hwhole, dump, hdump, htext⟩

end Reader

end HeaderIndex
