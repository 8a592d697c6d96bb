import HeaderIndex.Dump
import HeaderIndex.Proofs.Fallible
import HeaderIndex.Proofs.Index.Growth

/-!
# The shape of a dump

* `mem_constants_iff`, …, `mem_callbacks_iff` — what each section is about: the bound entities of one
  sort.
* `type_byValue_iff`, `type_array_iff`, …, `callable_iff`, `tree_iff` — what can be written, and how
  it is written: the parts of each object, each of which can be written itself.
-/

namespace HeaderIndex

/-! ## What the sections are about -/

namespace Entity

variable {e : Entity}

theorem constant?_eq_some {c : Constant} : e.constant? = some c ↔ e = .constant c := by
  cases e <;> simp [constant?]

theorem enumeration?_eq_some {f : Enumeration} : e.enumeration? = some f ↔ e = .enumeration f := by
  cases e <;> simp [enumeration?]

theorem aggregate?_eq_some {a : Aggregate} : e.aggregate? = some a ↔ e = .aggregate a := by
  cases e <;> simp [aggregate?]

theorem function?_eq_some {c : Callable} :
    e.function? = some c ↔ c.isCallback = false ∧ e = .callable c := by
  cases e <;> grind [function?]

theorem callback?_eq_some {c : Callable} :
    e.callback? = some c ↔ c.isCallback = true ∧ e = .callable c := by
  cases e <;> grind [callback?]

end Entity

namespace Index

variable {index : Index}

/-- What is collected are the bound entities of one sort. -/
theorem mem_collect_iff {α : Type} {sort : Entity → Option α} {found : α} :
    found ∈ (index.collect sort).map (·.2) ↔
      ∃ id ∈ index.bound, ∃ e, index.entity? id = some e ∧ sort e = some found := by
  simp only [collect, List.mem_map, List.mem_filterMap, Option.map_eq_some_iff,
    Option.bind_eq_some_iff]
  constructor
  · rintro ⟨pair, ⟨id, hid, found, ⟨e, he, hsort⟩, rfl⟩, rfl⟩
    exact ⟨id, hid, e, he, hsort⟩
  · rintro ⟨id, hid, e, he, hsort⟩
    exact ⟨(id, found), ⟨id, hid, found, ⟨e, he, hsort⟩, rfl⟩, rfl⟩

theorem mem_constants_iff {c : Constant} :
    c ∈ index.constants ↔ ∃ id ∈ index.bound, index.entity? id = some (.constant c) := by
  simp only [constants, mem_collect_iff, Entity.constant?_eq_some, exists_eq_right]

theorem mem_enumerations_iff {e : Enumeration} :
    e ∈ index.enumerations ↔ ∃ id ∈ index.bound, index.entity? id = some (.enumeration e) := by
  simp only [enumerations, mem_collect_iff, Entity.enumeration?_eq_some, exists_eq_right]

theorem mem_aggregates_iff {a : Aggregate} :
    a ∈ index.aggregates ↔ ∃ id ∈ index.bound, index.entity? id = some (.aggregate a) := by
  simp only [aggregates, mem_collect_iff, Entity.aggregate?_eq_some, exists_eq_right]

theorem mem_functions_iff {c : Callable} :
    c ∈ index.functions ↔
      ∃ id ∈ index.bound, index.entity? id = some (.callable c) ∧ c.isCallback = false := by
  simp only [functions, mem_collect_iff, Entity.function?_eq_some, exists_eq_right_right]

theorem mem_callbacks_iff {c : Callable} :
    c ∈ index.callbacks ↔
      ∃ id ∈ index.bound, index.entity? id = some (.callable c) ∧ c.isCallback = true := by
  simp only [callbacks, mem_collect_iff, Entity.callback?_eq_some, exists_eq_right_right]

end Index

namespace Dump

variable {config : Config} {index : Index} {json : Json}

theorem pure_eq_ok_iff {α ε : Type} {a b : α} :
    (pure a : Except ε α) = .ok b ↔ b = a := by
  simp [pure, Except.pure, eq_comm]

/-! ## Names and types -/

theorem formatted_iff {casing : List Casing} {joiner : String} {name : Name} :
    formatted config casing joiner name = .ok json ↔
      ∃ text, name.format casing joiner config.reservedWords = .ok text ∧ json = .str text := by
  unfold formatted
  cases name.format casing joiner config.reservedWords with
  | ok text => simp [eq_comm]
  | error error => simp

theorem type_byValue_iff {id : EntityId} :
    type config index (.byValue id) = .ok json ↔
      ∃ name, typeName config (((index.entity? id).map (·.name)).getD .anonymous) = .ok name ∧
        json = .obj [("by_value", name)] := by
  simp only [type, bind_eq_ok_iff, pure_eq_ok_iff]

theorem type_pointer_iff {pointee : Name} {depth : Nat} :
    type config index (.pointer pointee depth) = .ok json ↔
      ∃ name, typeName config pointee = .ok name ∧
        json = .obj [("pointer", name), ("depth", .int depth)] := by
  simp only [type, bind_eq_ok_iff, pure_eq_ok_iff]

theorem type_array_iff {element : CType} {size : Int} :
    type config index (.array element size) = .ok json ↔
      ∃ inner, type config index element = .ok inner ∧
        json = .obj [("array", inner), ("size", .int size)] := by
  simp only [type, bind_eq_ok_iff, pure_eq_ok_iff]

/-- The word in front of the name of an entity that a type refers to.  No type refers to a constant. -/
def tag? : Entity → Option String
  | .aggregate a => some (if a.isUnion then "union" else "struct")
  | .enumeration _ => some "enum"
  | .callable _ => some "callback"
  | .constant _ => none

theorem type_entity_iff {id : EntityId} {e : Entity} (he : index.entity? id = some e) :
    type config index (.entity id) = .ok json ↔ ∃ word, tag? e = some word ∧
      ∃ name, typeName config e.name = .ok name ∧ json = .obj [(word, name)] := by
  cases e <;>
    simp only [type, he, tag?, Entity.name, bind_eq_ok_iff, pure_eq_ok_iff, Option.some.injEq,
      exists_eq_left', reduceCtorEq, false_and, exists_false]

/-! ## Entries -/

theorem constant_iff {c : Constant} :
    constant config c = .ok json ↔ ∃ name, constantName config c.name = .ok name ∧
      json = .obj [("name", name), ("raw", .optional c.name.raw), ("value", number c.value)] := by
  simp only [constant, bind_eq_ok_iff, pure_eq_ok_iff]

theorem enumerator_iff {short : Name} {e : Enumerator} :
    enumerator config short e = .ok json ↔ ∃ name, valueName config short = .ok name ∧
      json = .obj [("name", name), ("raw", .optional e.name.raw), ("value", number e.value),
        ("description", description e.description)] := by
  simp only [enumerator, bind_eq_ok_iff, pure_eq_ok_iff]

theorem enumeration_iff {e : Enumeration} :
    enumeration config e = .ok json ↔ ∃ name, typeName config e.name = .ok name ∧ ∃ constants,
      (e.shortNames.zip e.constants).mapM (fun (short, c) => enumerator config short c) =
        .ok constants ∧
      json = .obj [("name", name), ("raw", .optional e.name.raw),
        ("description", description e.description), ("constants", .arr constants)] := by
  simp only [enumeration, bind_eq_ok_iff, pure_eq_ok_iff]

theorem field_iff {f : Field} :
    field config index f = .ok json ↔ ∃ name, valueName config f.name = .ok name ∧
      ∃ shown, type config index f.type = .ok shown ∧
      json = .obj [("name", name), ("type", shown), ("description", description f.description)] := by
  simp only [field, bind_eq_ok_iff, pure_eq_ok_iff]

theorem method_iff {m : Method} :
    method config index m = .ok json ↔ ∃ name, valueName config m.name = .ok name ∧
      json = .obj [("name", name),
        ("function", .optional ((index.entity? m.function).bind (·.name.raw)))] := by
  simp only [method, bind_eq_ok_iff, pure_eq_ok_iff]

theorem aggregate_iff {a : Aggregate} :
    aggregate config index a = .ok json ↔ ∃ name, typeName config a.name = .ok name ∧
      ∃ fields, a.fields.mapM (field config index) = .ok fields ∧
      ∃ methods, a.methods.mapM (method config index) = .ok methods ∧
      json = .obj [("name", name), ("raw", .optional a.name.raw),
        ("kind", .str (if a.isUnion then "union" else "struct")),
        ("description", description a.description), ("fields", .arr fields),
        ("methods", .arr methods)] := by
  simp only [aggregate, bind_eq_ok_iff, pure_eq_ok_iff]

theorem parameter_iff {p : Parameter} :
    parameter config index p = .ok json ↔ ∃ name, valueName config p.name = .ok name ∧
      ∃ shown, type config index p.type = .ok shown ∧
      json = .obj [("name", name), ("type", shown), ("array", .bool p.isArray),
        ("description", description p.description)] := by
  simp only [parameter, bind_eq_ok_iff, pure_eq_ok_iff]

theorem callable_iff {c : Callable} :
    callable config index c = .ok json ↔
      ∃ name, (if c.isCallback then typeName config c.name else valueName config c.name) = .ok name ∧
      ∃ parameters, c.parameters.mapM (parameter config index) = .ok parameters ∧
      ∃ result, type config index c.result = .ok result ∧
      json = .obj [("name", name), ("raw", .optional c.name.raw), ("blocking", .bool c.isBlocking),
        ("description", description c.description), ("parameters", .arr parameters),
        ("returns", .obj [("type", result),
          ("description", description c.resultDescription)])] := by
  cases hc : c.isCallback <;>
    simp only [callable, hc, if_true, if_false, Bool.false_eq_true, bind_eq_ok_iff, pure_eq_ok_iff]

/-! ## The whole dump -/

theorem tree_iff :
    tree config index = .ok json ↔
      ∃ constants, index.constants.mapM (constant config) = .ok constants ∧
      ∃ enumerations, index.enumerations.mapM (enumeration config) = .ok enumerations ∧
      ∃ aggregates, index.aggregates.mapM (aggregate config index) = .ok aggregates ∧
      ∃ callbacks, index.callbacks.mapM (callable config index) = .ok callbacks ∧
      ∃ functions, index.functions.mapM (callable config index) = .ok functions ∧
      json = .obj [("module", .str config.moduleName), ("ffi_lib", .optional config.ffiLib),
        ("constants", .arr constants), ("enums", .arr enumerations), ("structs", .arr aggregates),
        ("callbacks", .arr callbacks), ("functions", .arr functions)] := by
  simp only [tree, bind_eq_ok_iff, pure_eq_ok_iff]

/-- What becomes of a dump: it is written unless a number in it has too many digits. -/
theorem text_of_tree (h : tree config index = .ok json) :
    Dump.text config index =
      if json.isPrintable then .ok (json.render ++ "\n") else .error .overlong := by
  unfold Dump.text
  rw [h]
  rfl

theorem text_iff {text : String} :
    Dump.text config index = .ok text ↔
      ∃ json, tree config index = .ok json ∧ json.isPrintable = true ∧
        text = json.render ++ "\n" := by
  unfold Dump.text
  rw [bind_eq_ok_iff]
  refine exists_congr fun json => and_congr_right fun _ => ?_
  cases json.isPrintable <;> simp [pure_eq_ok_iff]

end Dump

end HeaderIndex
