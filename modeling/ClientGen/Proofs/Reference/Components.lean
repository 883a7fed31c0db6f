import ClientGen.Proofs.Document.Indexed
import ClientGen.Proofs.Reference.Addressable
import ClientGen.Proofs.Run
import ClientGen.Typing

namespace ClientGen

open Json (Reader)
open Text.Percent (HasEscape)
open TypeScript (TypeExpr)

variable {tree : Json} {fields : Dict Json} {document : Document} {options : Options}
  {components : Components} {name : String} {x : Schema}

theorem Json.Reader.get?_of_dict {α : Type} {value : Reader α} {d : Dict α} {a : α}
    (h : dict value (.obj fields) = some d) (ha : d.get? name = some a) :
    ∃ k, Dict.get? fields name = some k ∧ value k = some a := by
  unfold dict at h
  induction fields generalizing d with
  | nil =>
    cases h
    cases ha
  | cons field fields ih =>
    simp only [List.mapM_cons, Option.bind_eq_bind, Option.bind_eq_some_iff,
      Option.map_eq_some_iff] at h
    obtain ⟨_, ⟨b, hb, rfl⟩, rest, hrest, he⟩ := h
    cases he
    unfold Dict.get? at ha ⊢
    split at ha
    · next hname =>
      cases ha
      exact ⟨field.2, if_pos hname, hb⟩
    · next hname =>
      rw [if_neg hname]
      exact ih hrest ha

theorem Json.exists_of_member {j k : Json} (h : j.step? (.member name) = some k) :
    ∃ fields, j = .obj fields ∧ Dict.get? fields name = some k := by
  cases j with
  | obj fields => exact ⟨fields, rfl, h⟩
  | _ => cases h

namespace Reference

/-- The name that is read from the reference to a component. -/
def readBack (name : String) : String := String.ofList (decodeSegment (escape name.toList))

theorem readBack_eq_iff : readBack name = name ↔ ¬ HasEscape name.toList := by
  rw [← decodeSegment_escape_iff, readBack]
  constructor
  · intro h
    have hlist := congrArg String.toList h
    rwa [String.toList_ofList] at hlist
  · intro h
    rw [h, String.ofList_toList]

theorem ofComponent_eq (name : String) : ofComponent name = "#/" ++ String.ofList
    (['/'].intercalate ["components".toList, "schemas".toList, escape name.toList]) := by
  apply String.toList_inj.1
  simp [ofComponent, componentStart, List.intercalate]

theorem ofComponent_injective {name other : String} (h : ofComponent name = ofComponent other) :
    name = other := by
  have hlist := congrArg String.toList h
  rw [ofComponent, ofComponent, String.toList_append, String.toList_append, String.toList_ofList,
    String.toList_ofList] at hlist
  exact String.toList_inj.1 (escape_injective (List.append_cancel_left hlist))

theorem segments_ofComponent (name : String) :
    segments (ofComponent name) = .ok ["components", "schemas", readBack name] := by
  have hslash : ∀ piece ∈ ["components".toList, "schemas".toList, escape name.toList],
      '/' ∉ piece := by
    intro piece hpiece
    simp only [List.mem_cons, List.not_mem_nil, or_false] at hpiece
    rcases hpiece with rfl | rfl | rfl
    · decide
    · decide
    · exact slash_not_mem_escape name.toList
  have hcomponents : String.ofList (decodeSegment "components".toList) = "components" := by
    decide +kernel
  have hschemas : String.ofList (decodeSegment "schemas".toList) = "schemas" := by
    decide +kernel
  unfold segments
  rw [ofComponent_eq, pointer?_append]
  dsimp only
  rw [decodePointer, Text.splitAt_intercalate (List.cons_ne_nil _ _) hslash, List.map_cons,
    List.map_cons, List.map_cons, List.map_nil, hcomponents, hschemas, readBack]

def componentPath : List Json.Step := [.member "components", .member "schemas"]

theorem follow?_member (fields : Dict Json) (name : String) :
    follow? (.obj fields) [name] = Dict.get? fields name := by
  rw [follow?, select?]
  cases Dict.get? fields name with
  | none => rfl
  | some node => rfl

theorem lookup_of_segments {r : String} (h : tree.at? componentPath = some (.obj fields))
    (hr : segments r = .ok ["components", "schemas", name]) :
    lookup tree r = match Dict.get? fields name with
      | some node => .ok node
      | none => .error (.danglingReference ["components", "schemas", name]) := by
  have hfollow : follow? tree ["components", "schemas", name] = Dict.get? fields name := by
    rw [← follow?_member]
    exact follow?_labels_append h [name]
  cases hget : Dict.get? fields name with
  | none => simp only [lookup, hr, hfollow, hget]
  | some node => simp only [lookup, hr, hfollow, hget]

/-- The reference to a component leads to the component whose name is read back. -/
theorem lookup_ofComponent (h : tree.at? componentPath = some (.obj fields)) (name : String) :
    lookup tree (ofComponent name) = match Dict.get? fields (readBack name) with
      | some node => .ok node
      | none => .error (.danglingReference ["components", "schemas", readBack name]) :=
  lookup_of_segments h (segments_ofComponent name)

end Reference

open Reference

theorem Document.schemas_of_ofJson (hread : ofJson tree = .ok document)
    (hcomponents : document.components = some components)
    (h : tree.at? componentPath = some (.obj fields)) :
    Reader.dict Schema.read (.obj fields) = some components.schemas := by
  obtain ⟨j, hj, h⟩ := Option.bind_eq_some_iff.1 h
  obtain ⟨i, hi, h⟩ := Option.bind_eq_some_iff.1 h
  cases h
  obtain ⟨members, rfl, hmember⟩ := Json.exists_of_member hj
  obtain ⟨members', rfl, hmember'⟩ := Json.exists_of_member hi
  obtain ⟨r, hr, hoptional⟩ := record_of_ofJson hread hcomponents
  cases hr
  unfold Json.Record.optional at hoptional
  rw [Json.Record.value?, hmember] at hoptional
  obtain ⟨_, hread', he⟩ := Option.map_eq_some_iff.1 hoptional
  cases he
  obtain ⟨r', hr', hdefaulted⟩ := record_of_read hread'
  cases hr'
  unfold Json.Record.defaulted at hdefaulted
  rwa [Json.Record.value?, hmember'] at hdefaulted

namespace Setting

def componentType (c : Setting) (typing : Typing) (view : View) (name : String) (x : Schema) :
    Run TypeExpr := do
  let reference := ofComponent name
  match (← get).references.get? reference with
  | some names => return .named (names.name view)
  | none =>
    if c.namesEnum x then NamedEnum.declare x (stableName reference)
    else
      let names ← c.takeNames reference (stableName reference)
      names.views.forM (declareView typing reference x)
      return .named (names.name view)

/-- Declare components, each by the schema that is listed under its name. -/
def declareComponents (c : Setting) (schemas : Dict Schema) : Run Unit :=
  schemas.keys.forM fun name =>
    match schemas.get? name with
    | some x => do
      let _ ← c.componentType c.typing .base name x
    | none => return

theorem referenceType_ofComponent {c : Setting} (h : c.schema (ofComponent name) = .ok x)
    (typing : Typing) (view : View) :
    c.referenceType typing view (ofComponent name) = c.componentType typing view name x := by
  unfold referenceType componentType
  rw [h]
  rfl

theorem schema_of_segments {r : String} (hread : Document.ofJson tree = .ok document)
    (hcomponents : document.components = some components)
    (h : tree.at? componentPath = some (.obj fields))
    (hr : segments r = .ok ["components", "schemas", name])
    (hx : components.schemas.get? name = some x) :
    (ofDocument tree document options).schema r = .ok x := by
  obtain ⟨k, hk, hread⟩ :=
    Reader.get?_of_dict (Document.schemas_of_ofJson hread hcomponents h) hx
  have hlookup := lookup_of_segments h hr
  rw [hk] at hlookup
  unfold schema resolve
  rw [ofDocument, hlookup]
  dsimp only
  rw [hread]

theorem schema_ofComponent (hread : Document.ofJson tree = .ok document)
    (hcomponents : document.components = some components)
    (h : tree.at? componentPath = some (.obj fields)) (hname : ¬ HasEscape name.toList)
    (hx : components.schemas.get? name = some x) :
    (ofDocument tree document options).schema (ofComponent name) = .ok x := by
  have hr := segments_ofComponent name
  rw [readBack_eq_iff.2 hname] at hr
  exact schema_of_segments hread hcomponents h hr hx

end Setting

/-- Where a component is found again: under the name that is read back, which is its own name just
if no escape stands in it. Where all names are free of escapes, each component is typed by its own
schema. -/
theorem Setting.components_readBack (h : tree.at? componentPath = some (.obj fields)) :
    (∀ name, lookup tree (ofComponent name) = match Dict.get? fields (readBack name) with
      | some node => .ok node
      | none => .error (.danglingReference ["components", "schemas", readBack name])) ∧
    (∀ name, readBack name = name ↔ ¬ HasEscape name.toList) ∧
    ∀ document options components, Document.ofJson tree = .ok document →
      document.components = some components →
      (∀ name ∈ components.schemas.keys, ¬ HasEscape name.toList) →
      let c := ofDocument tree document options
      c.typeComponents components.schemas = c.declareComponents components.schemas := by
  refine ⟨lookup_ofComponent h, fun name => readBack_eq_iff, ?_⟩
  intro document options components hread hcomponents hnames c
  apply Run.forM_congr
  intro name hname
  cases hx : components.schemas.get? name with
  | none => exact absurd hname ((Dict.get?_eq_none_iff _ _).1 hx)
  | some x =>
    have hschema : c.schema (ofComponent name) = .ok x :=
      schema_ofComponent hread hcomponents h (hnames name hname) hx
    rw [referenceType_ofComponent hschema]

/-- A percent sign before one digit only, escapes of pointers, and a letter beyond ASCII. -/
def Client.stickers : Json := .obj [
  ("info", .obj [("title", .str "Stickers"), ("version", .str "1")]),
  ("paths", .obj []),
  ("components", .obj [("schemas", .obj [
    ("50%2", .obj [("type", .str "string")]),
    ("~1/ä~0", .obj [("type", .str "integer")])])])]

theorem Setting.components_readBack_stickers : ∃ document components,
    Document.ofJson Client.stickers = .ok document ∧ document.components = some components ∧
    components.schemas.keys = ["50%2", "~1/ä~0"] ∧
    (lookup Client.stickers "#/components/schemas/~01~1ä~00" =
      .ok (.obj [("type", .str "integer")])) ∧
    let c := ofDocument Client.stickers document {}
    c.typeComponents components.schemas = c.declareComponents components.schemas := by
  have hreads : Document.reads Client.stickers (fun document => document.components.any fun cs =>
      cs.schemas.keys = ["50%2", "~1/ä~0"]) = true := by
    decide +kernel
  obtain ⟨document, hread, hany⟩ := Document.exists_ofJson hreads
  obtain ⟨components, hcomponents, hkeys⟩ := (Option.any_eq_true _ _).1 hany
  have hkeys := of_decide_eq_true hkeys
  have hat : Client.stickers.at? componentPath = some (.obj [
      ("50%2", .obj [("type", .str "string")]), ("~1/ä~0", .obj [("type", .str "integer")])]) := by
    simp [Client.stickers, componentPath, Json.at?, Json.step?, Dict.get?]
  have hwritten : ofComponent "~1/ä~0" = "#/components/schemas/~01~1ä~00" := by
    decide +kernel
  have hnames : ∀ name ∈ ["50%2", "~1/ä~0"], readBack name = name := by
    decide +kernel
  obtain ⟨hlookup, hback, htypes⟩ := components_readBack hat
  refine ⟨document, components, hread, hcomponents, hkeys, ?_, ?_⟩
  · rw [← hwritten, hlookup, hnames _ (List.mem_cons_of_mem _ List.mem_cons_self)]
    simp [Dict.get?]
  · apply htypes document {} components hread hcomponents
    intro name hname
    exact (hback name).1 (hnames name (hkeys ▸ hname))

/-- Two names, one of which is read as the other. -/
def Client.parcels : Json := .obj [
  ("openapi", .str "3.0.0"),
  ("info", .obj [("title", .str "Parcels"), ("version", .str "1")]),
  ("paths", .obj []),
  ("components", .obj [("schemas", .obj [
    ("a%20b", .obj [("type", .str "string")]),
    ("a b", .obj [("type", .str "integer")])])])]

/-- A component whose name holds the escape of a space is taken for another one. -/
theorem Reference.lookup_ofComponent_parcels :
    (∃ document, Document.ofJson Client.parcels = .ok document) ∧
    Client.parcels.at? (componentPath ++ [.member "a%20b"]) =
      some (.obj [("type", .str "string")]) ∧
    lookup Client.parcels (ofComponent "a%20b") = .ok (.obj [("type", .str "integer")]) := by
  have hreads : Document.reads Client.parcels (fun _ => true) = true := by
    decide +kernel
  obtain ⟨document, hread, -⟩ := Document.exists_ofJson hreads
  have hat : Client.parcels.at? componentPath = some (.obj [
      ("a%20b", .obj [("type", .str "string")]), ("a b", .obj [("type", .str "integer")])]) := by
    simp [Client.parcels, componentPath, Json.at?, Json.step?, Dict.get?]
  have hback : readBack "a%20b" = "a b" := by
    decide +kernel
  refine ⟨⟨document, hread⟩, ?_, ?_⟩
  · simp [Client.parcels, componentPath, Json.at?, Json.step?, Dict.get?]
  · rw [lookup_ofComponent hat, hback]
    simp [Dict.get?]

end ClientGen
