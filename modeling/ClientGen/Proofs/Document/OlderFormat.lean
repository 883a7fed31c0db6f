import ClientGen.Proofs.Json.Parts

namespace ClientGen

open Json (Reader)

variable {α : Type} {tree j k : Json} {v name other place : String}

def Json.without (name : String) : Json → Json
  | .obj fields => .obj (fields.filter fun field => field.1 ≠ name)
  | j => j

theorem Json.exists_fields (h : j.member? name = some k) :
    ∃ fields, j = .obj fields ∧ Dict.get? fields name = some k := by
  cases j with
  | obj fields => exact ⟨fields, rfl, h⟩
  | _ => cases h

theorem Dict.get?_filter_ne (d : Dict α) (name other : String) :
    Dict.get? (d.filter fun entry => entry.1 ≠ name) other =
      if other = name then none else d.get? other := by
  induction d with
  | nil => simp
  | cons entry d ih => grind [Dict.get?]

namespace Json.Record

variable {fields : Dict Json} {i : Nat} {read : Reader α} {default : α}

theorem value?_without (h : other ≠ name) :
    (named (fields.filter fun field => field.1 ≠ name)).value? i other =
      (named fields).value? i other := by
  rw [value?, value?, Dict.get?_filter_ne, if_neg h]

theorem optional_without (h : other ≠ name) :
    (named (fields.filter fun field => field.1 ≠ name)).optional i other read =
      (named fields).optional i other read := by
  rw [optional, optional, value?_without h]

theorem defaulted_without (h : other ≠ name) :
    (named (fields.filter fun field => field.1 ≠ name)).defaulted i other read default =
      (named fields).defaulted i other read default := by
  rw [defaulted, defaulted, value?_without h]

end Json.Record

namespace Document

/-- The `swagger` member tells nothing else of a document. -/
theorem read_without (h : tree.member? "swagger" = some (.str v)) :
    Document.read tree = (Document.read (tree.without "swagger")).map fun document =>
      { document with swagger := some v } := by
  obtain ⟨fields, rfl, hversion⟩ := Json.exists_fields h
  have hpresent : (Json.Record.named fields).optional 1 "swagger" Reader.text =
      some (some v) := by
    rw [Json.Record.optional, Json.Record.value?, hversion]
    rfl
  have habsent : (Json.Record.named (fields.filter fun field => field.1 ≠ "swagger")).optional 1
      "swagger" Reader.text = some none := by
    rw [Json.Record.optional, Json.Record.value?, Dict.get?_filter_ne, if_pos rfl]
  unfold Document.read
  rw [Json.without, Json.record?, Json.record?]
  simp only [Option.bind_eq_bind, Option.pure_def, Option.bind_some, hpresent, habsent,
    Json.Record.optional_without, Json.Record.defaulted_without, ne_eq, String.reduceEq,
    not_false_eq_true, Option.map_bind, Function.comp_def, Option.map_some]

theorem swagger_of_read_without {document : Document} (h : tree.member? "swagger" = some k)
    (hread : Document.read (tree.without "swagger") = some document) :
    document.swagger = none := by
  obtain ⟨fields, rfl, -⟩ := Json.exists_fields h
  simp only [Document.read, Json.without, Json.record?, Option.bind_eq_bind, Option.bind_some,
    Option.bind_eq_some_iff, Option.pure_def, Option.some.injEq] at hread
  obtain ⟨_, -, swagger, hswagger, _, -, _, -, _, -, _, -, rfl⟩ := hread
  rw [Json.Record.optional, Json.Record.value?, Dict.get?_filter_ne, if_pos rfl] at hswagger
  exact (Option.some.inj hswagger).symm

theorem ofJson_of_read_eq_none (h : Document.read tree = none) :
    ofJson tree = .error (.misshapen "document") := by
  rw [ofJson, h]

end Document

section Parameters

variable {read : Reader α} {fields : Dict Json} {i : Nat}

theorem Json.Reader.list_eq_none {items : List Json} (hk : k ∈ items) (hread : read k = none) :
    Reader.list read (.arr items) = none :=
  mapM_eq_none_iff.2 ⟨k, hk, hread⟩

theorem Json.Reader.dict_eq_none (hk : (name, k) ∈ fields) (hread : read k = none) :
    Reader.dict read (.obj fields) = none :=
  mapM_eq_none_iff.2 ⟨_, hk, Option.map_eq_none_iff.2 hread⟩

theorem Json.Record.defaulted_eq_none (default : α) (h : Dict.get? fields name = some k)
    (hread : read k = none) : (named fields).defaulted i name read default = none := by
  rw [defaulted, value?, h]
  exact hread

theorem Json.Record.optional_eq_none {members : Dict Json}
    (h : Dict.get? fields name = some (.obj members)) (hread : read (.obj members) = none) :
    (named fields).optional i name read = none := by
  rw [optional, value?, h]
  exact congrArg (Option.map some) hread

/-- One of the parameters that a path or an operation lists, and that is no reference, says that it
is sent at some place. -/
def Json.ListsParameterAt (place : String) (j : Json) : Prop :=
  ∃ parameters parameter, j.member? "parameters" = some (.arr parameters) ∧
    parameter ∈ parameters ∧ (∀ target, parameter.member? "$ref" ≠ some (.str target)) ∧
    parameter.member? "in" = some (.str place)

/-- A path of the tree, or an operation of it, lists a parameter that is sent at some place. -/
def Json.HasParameterAt (place : String) (tree : Json) : Prop :=
  ∃ paths path item, tree.member? "paths" = some (.obj paths) ∧ (path, item) ∈ paths ∧
    (item.ListsParameterAt place ∨ ∃ (method : Method) (op : Json),
      item.member? method.text = some op ∧ op.ListsParameterAt place)

theorem Json.ListsParameterAt.exists_fields (h : j.ListsParameterAt place) :
    ∃ fields, j = .obj fields := by
  obtain ⟨_, _, hparameters, -⟩ := h
  obtain ⟨fields, rfl, -⟩ := Json.exists_fields hparameters
  exact ⟨fields, rfl⟩

theorem Parameter.read_eq_none (hplace : Location.ofText? place = none)
    (h : j.member? "in" = some (.str place)) : Parameter.read j = none := by
  obtain ⟨fields, rfl, hin⟩ := Json.exists_fields h
  have hlocation : (Json.Record.named fields).required 1 "in" Location.read = none := by
    rw [Json.Record.required, Json.Record.value?, hin]
    exact hplace
  simp [Parameter.read, Json.record?, hlocation]

theorem Json.ListsParameterAt.read_eq_none (hplace : Location.ofText? place = none)
    (h : (Json.obj fields).ListsParameterAt place) :
    (Record.named fields).defaulted i "parameters"
      (Reader.list (Referable.read Parameter.read)) [] = none := by
  obtain ⟨parameters, parameter, hparameters, hmem, htarget, hin⟩ := h
  have hread : Referable.read Parameter.read parameter = none := by
    unfold Referable.read
    split
    · next target hreference => exact absurd hreference (htarget target)
    · rw [Parameter.read_eq_none hplace hin, Option.map_none]
  exact Record.defaulted_eq_none [] hparameters (Reader.list_eq_none hmem hread)

theorem Operation.read_eq_none (hplace : Location.ofText? place = none)
    (h : j.ListsParameterAt place) : Operation.read j = none := by
  obtain ⟨fields, rfl⟩ := h.exists_fields
  simp [Operation.read, Json.record?, h.read_eq_none hplace]

theorem PathItem.read_eq_none {item : Json} (hplace : Location.ofText? place = none)
    (h : item.ListsParameterAt place ∨ ∃ (method : Method) (op : Json),
      item.member? method.text = some op ∧ op.ListsParameterAt place) :
    PathItem.read item = none := by
  rcases h with h | ⟨method, op, hop, h⟩
  · obtain ⟨fields, rfl⟩ := h.exists_fields
    simp [PathItem.read, Json.record?, h.read_eq_none hplace]
  · obtain ⟨members, rfl⟩ := h.exists_fields
    obtain ⟨fields, rfl, hop⟩ := Json.exists_fields hop
    have hread (i : Nat) :=
      Json.Record.optional_eq_none (i := i) hop (Operation.read_eq_none hplace h)
    cases method <;> (dsimp only [Method.text] at hread; simp [PathItem.read, Json.record?, hread])

theorem Document.read_eq_none (hplace : Location.ofText? place = none)
    (h : tree.HasParameterAt place) : Document.read tree = none := by
  obtain ⟨paths, path, item, hpaths, hitem, h⟩ := h
  obtain ⟨fields, rfl, hpaths⟩ := Json.exists_fields hpaths
  have hread := Json.Record.defaulted_eq_none (i := 4) [] hpaths
    (Reader.dict_eq_none hitem (PathItem.read_eq_none hplace h))
  simp [Document.read, Json.record?, hread]

end Parameters

namespace Document

theorem ofJson_cases (h : tree.member? "swagger" = some (.str v)) :
    (ofJson tree = .error (.olderFormat v) ∧
      ∃ document, ofJson (tree.without "swagger") = .ok document) ∨
    (ofJson tree = .error (.misshapen "document") ∧
      ofJson (tree.without "swagger") = .error (.misshapen "document")) := by
  have hread := read_without h
  cases hrest : Document.read (tree.without "swagger") with
  | none =>
    rw [hrest, Option.map_none] at hread
    exact .inr ⟨ofJson_of_read_eq_none hread, ofJson_of_read_eq_none hrest⟩
  | some document =>
    rw [hrest, Option.map_some] at hread
    refine .inl ⟨by rw [ofJson, hread], document, ?_⟩
    rw [ofJson, hrest]
    dsimp only
    rw [swagger_of_read_without h hrest]

/-- A document of the older format is named as such just when the rest of it is a document, and is
misshapen otherwise. It is misshapen if it has a parameter in a body or a form. -/
theorem ofJson_swagger (h : tree.member? "swagger" = some (.str v)) :
    (ofJson tree = .error (.olderFormat v) ↔
      ∃ document, ofJson (tree.without "swagger") = .ok document) ∧
    (ofJson tree = .error (.misshapen "document") ↔
      ofJson (tree.without "swagger") = .error (.misshapen "document")) ∧
    (∀ document, ofJson tree ≠ .ok document) ∧
    ∀ place, Location.ofText? place = none → tree.HasParameterAt place →
      ofJson tree = .error (.misshapen "document") := by
  have hplaces : ∀ place, Location.ofText? place = none → tree.HasParameterAt place →
      ofJson tree = .error (.misshapen "document") :=
    fun place hplace hat => ofJson_of_read_eq_none (read_eq_none hplace hat)
  rcases ofJson_cases h with ⟨htree, document, hrest⟩ | ⟨htree, hrest⟩
  · exact ⟨by simp [htree, hrest], by simp [htree, hrest], by simp [htree], hplaces⟩
  · exact ⟨by simp [htree, hrest], by simp [htree, hrest], by simp [htree], hplaces⟩

def petStore (post : Json) : Json :=
  .obj [("swagger", .str "2.0"), ("info", .obj [("title", .str "Pets"), ("version", .str "1")]),
    ("paths", .obj [("/pets", .obj [("post", post)])])]

theorem ofJson_swagger_petStore :
    (petStore (.obj [])).member? "swagger" = some (.str "2.0") ∧
    ofJson (petStore (.obj [])) = .error (.olderFormat "2.0") := by
  have hversion : (petStore (.obj [])).member? "swagger" = some (.str "2.0") := rfl
  exact ⟨hversion, (ofJson_swagger hversion).1.2 ⟨_, rfl⟩⟩

/-- An operation that takes a pet in its body, as the older format has it. -/
def addPet : Json :=
  .obj [("parameters", .arr [.obj [("name", .str "pet"), ("in", .str "body")]])]

/-- It is not named as of the older format. -/
theorem ofJson_addPet : (petStore addPet).member? "swagger" = some (.str "2.0") ∧
    ofJson (petStore addPet) = .error (.misshapen "document") := by
  have hlisted : addPet.ListsParameterAt "body" :=
    ⟨_, _, rfl, List.mem_singleton_self _, nofun, rfl⟩
  have hparameter : (petStore addPet).HasParameterAt "body" :=
    ⟨_, _, _, rfl, List.mem_singleton_self _, .inr ⟨.post, addPet, rfl, hlisted⟩⟩
  exact ⟨rfl, ofJson_of_read_eq_none (read_eq_none (by decide) hparameter)⟩

end Document

end ClientGen
