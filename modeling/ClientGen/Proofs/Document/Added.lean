import ClientGen.Proofs.Reference.Components

namespace ClientGen

open Json (Reader)

/-- The map with an entry put before the one at a place, or at the end. -/
def Dict.insertAt {α : Type} (d : Dict α) (place : Nat) (name : String) (value : α) : Dict α :=
  d.take place ++ (name, value) :: d.drop place

theorem Dict.get?_append {α : Type} (d d' : Dict α) (name : String) :
    Dict.get? (d ++ d') name = (d.get? name).or (Dict.get? d' name) := by
  induction d with
  | nil => rfl
  | cons e d ih =>
    rw [List.cons_append, get?, get?, ih]
    split <;> rfl

theorem Dict.get?_insertAt {α : Type} {d : Dict α} {place : Nat} {name other : String} {value : α}
    (hne : name ≠ other) : (d.insertAt place name value).get? other = d.get? other := by
  rw [insertAt, get?_append, get?, if_neg hne, ← get?_append, List.take_append_drop]

namespace Json

def members : Json → Dict Json
  | .obj fields => fields
  | _ => []

/-- The object with another value for one member, which may be absent or null before. -/
def alter (name : String) (f : Json → Json) (j : Json) : Json :=
  .obj (j.members.put name (f ((j.member? name).getD .null)))

def insertMember (j : Json) (place : Nat) (name : String) (value : Json) : Json :=
  .obj (j.members.insertAt place name value)

/-- The tree of a document with a schema put between those of its components. -/
def addComponent (tree : Json) (place : Nat) (name : String) (schema : Json) : Json :=
  tree.alter "components" (alter "schemas" fun schemas => schemas.insertMember place name schema)

/-- The value is an object, or null where one may be absent. -/
def IsRoom (j : Json) : Prop := j = .null ∨ ∃ fields, j = .obj fields

/-- The tree is an object, and if it has components, these and their schemas are objects. -/
structure HasRoom (tree : Json) : Prop where
  tree_eq : ∃ fields, tree = .obj fields
  components : ∀ k, tree.member? "components" = some k → k.IsRoom
  schemas : ∀ k s, tree.member? "components" = some k → k.member? "schemas" = some s →
    ∃ fields, s = .obj fields

variable {tree j k schema : Json} {name s : String} {path : List String} {place : Nat}
  {f : Json → Json}

theorem HasRoom.isRoom (h : tree.HasRoom) : tree.IsRoom := .inr h.tree_eq

theorem HasRoom.isRoom_components (h : tree.HasRoom) :
    ((tree.member? "components").getD .null).IsRoom := by
  cases hk : tree.member? "components" with
  | none => exact .inl rfl
  | some k => exact h.components k hk

theorem HasRoom.schemas_eq (h : tree.HasRoom) :
    ∀ s, ((tree.member? "components").getD .null).member? "schemas" = some s →
      ∃ fields, s = .obj fields := by
  cases hk : tree.member? "components" with
  | none => exact nofun
  | some k => exact fun s => h.schemas k s hk

theorem HasRoom.isRoom_schemas (h : tree.HasRoom) :
    ((((tree.member? "components").getD .null).member? "schemas").getD .null).IsRoom := by
  cases hs : ((tree.member? "components").getD .null).member? "schemas" with
  | none => exact .inl rfl
  | some s => exact .inr (h.schemas_eq s hs)

theorem hasRoom_of_at? {fields : Dict Json}
    (h : tree.at? Reference.componentPath = some (.obj fields)) : tree.HasRoom := by
  obtain ⟨k, hk, h⟩ := Option.bind_eq_some_iff.1 h
  obtain ⟨i, hi, h⟩ := Option.bind_eq_some_iff.1 h
  cases h
  obtain ⟨members, rfl, hmember⟩ := exists_of_member hk
  obtain ⟨members', rfl, hmember'⟩ := exists_of_member hi
  refine ⟨⟨members, rfl⟩, fun k hk => ?_, fun k s hk hs => ?_⟩
  · cases hmember.symm.trans hk
    exact .inr ⟨members', rfl⟩
  · cases hmember.symm.trans hk
    cases hmember'.symm.trans hs
    exact ⟨fields, rfl⟩

section Members

theorem IsRoom.select?_eq (h : j.IsRoom) (s : String) :
    Reference.select? j s = j.members.get? s := by
  rcases h with rfl | ⟨fields, rfl⟩ <;> rfl

theorem IsRoom.member?_eq (h : j.IsRoom) (s : String) : j.member? s = j.members.get? s := by
  rcases h with rfl | ⟨fields, rfl⟩ <;> rfl

theorem IsRoom.size_le (h : j.IsRoom) : j.size ≤ (Json.obj j.members).size := by
  rcases h with rfl | ⟨fields, rfl⟩
  · exact size_pos _
  · exact Nat.le_refl _

end Members

section Follow

open Reference (follow?)

theorem follow?_of_member? (h : j.member? name = some k) :
    follow? j (name :: path) = follow? k path := by
  cases j with
  | obj fields =>
    rw [follow?, Reference.select?]
    rw [member?] at h
    rw [h]
  | _ => cases h

theorem IsRoom.follow?_cons (h : j.IsRoom) (hpath : path ≠ []) :
    follow? j (name :: path) = follow? ((j.member? name).getD .null) path := by
  cases hk : j.member? name with
  | some k => exact follow?_of_member? hk
  | none =>
    rw [h.member?_eq] at hk
    rw [follow?, h.select?_eq, hk]
    cases path with
    | nil => exact absurd rfl hpath
    | cons s path => rfl

theorem follow?_alter_same :
    follow? (j.alter name f) (name :: path) = follow? (f ((j.member? name).getD .null)) path := by
  rw [alter, follow?, Reference.select?, Dict.get?_put, if_pos rfl]

theorem IsRoom.follow?_alter (h : j.IsRoom) (hs : name ≠ s) :
    follow? (j.alter name f) (s :: path) = follow? j (s :: path) := by
  rw [alter, follow?, Reference.select?, Dict.get?_put, if_neg hs, follow?, h.select?_eq]

theorem IsRoom.follow?_insertMember (h : j.IsRoom) (hs : name ≠ s) (value : Json) :
    follow? (j.insertMember place name value) (s :: path) = follow? j (s :: path) := by
  rw [insertMember, follow?, Reference.select?, Dict.get?_insertAt hs, follow?, h.select?_eq]

/-- A path that does not end above the new component, at it or below it leads to the same value. -/
theorem HasRoom.follow?_addComponent (h : tree.HasRoom) (place : Nat) (schema : Json)
    (habove : ¬ path <+: ["components", "schemas", name])
    (hbelow : ¬ ["components", "schemas", name] <+: path) :
    follow? (tree.addComponent place name schema) path = follow? tree path := by
  unfold addComponent
  -- The path leaves the way to the new component at one of its three steps, or ends on it.
  cases path with
  | nil => exact absurd List.nil_prefix habove
  | cons s path =>
    by_cases hs : "components" = s
    swap
    · exact h.isRoom.follow?_alter hs
    subst hs
    cases path with
    | nil => exact absurd (by simp) habove
    | cons s path =>
      rw [follow?_alter_same, h.isRoom.follow?_cons (List.cons_ne_nil _ _)]
      by_cases hs : "schemas" = s
      swap
      · exact h.isRoom_components.follow?_alter hs
      subst hs
      cases path with
      | nil => exact absurd (by simp) habove
      | cons s path =>
        rw [follow?_alter_same, h.isRoom_components.follow?_cons (List.cons_ne_nil _ _)]
        have hs : name ≠ s := by
          rintro rfl
          exact hbelow (by simp)
        exact h.isRoom_schemas.follow?_insertMember hs schema

end Follow

section Size

theorem sizeFields_append (l l' : Dict Json) :
    sizeFields (l ++ l') = sizeFields l + sizeFields l' := by
  simp only [sizeFields_eq, List.map_append, List.sum_append]

theorem sizeFields_insertAt (d : Dict Json) :
    sizeFields d ≤ sizeFields (d.insertAt place name schema) := by
  calc sizeFields d = sizeFields (d.take place) + sizeFields (d.drop place) := by
        rw [← sizeFields_append, List.take_append_drop]
    _ ≤ sizeFields (d.insertAt place name schema) := by
        rw [Dict.insertAt, sizeFields_append, sizeFields]
        omega

theorem sizeFields_put {d : Dict Json} (h : ∀ i, d.get? name = some i → i.size ≤ k.size) :
    sizeFields d ≤ sizeFields (d.put name k) := by
  induction d with
  | nil => exact Nat.zero_le _
  | cons field rest ih =>
    obtain ⟨n, i⟩ := field
    unfold Dict.put
    split
    · next hn =>
      have hi := h i (if_pos hn)
      exact Nat.add_le_add_right hi _
    · next hn =>
      refine Nat.add_le_add_left (ih fun i hi => h i ?_) _
      rw [Dict.get?, if_neg hn, hi]

theorem IsRoom.size_insertMember (h : j.IsRoom) :
    j.size ≤ (j.insertMember place name schema).size :=
  Nat.le_trans h.size_le (Nat.succ_le_succ (sizeFields_insertAt j.members))

theorem IsRoom.size_alter (h : j.IsRoom)
    (hf : ((j.member? name).getD .null).size ≤ (f ((j.member? name).getD .null)).size) :
    j.size ≤ (j.alter name f).size := by
  refine Nat.le_trans h.size_le (Nat.succ_le_succ (sizeFields_put fun i hi => ?_))
  rwa [h.member?_eq, hi, Option.getD_some] at hf ⊢

theorem HasRoom.size_addComponent (h : tree.HasRoom) (place : Nat) (name : String)
    (schema : Json) : tree.size ≤ (tree.addComponent place name schema).size :=
  h.isRoom.size_alter (h.isRoom_components.size_alter h.isRoom_schemas.size_insertMember)

end Size

end Json

theorem Reference.lookup_addComponent {tree : Json} {name r : String} (h : tree.HasRoom)
    (place : Nat) (schema : Json)
    (hr : ∀ path, segments r = .ok path → ¬ path <+: ["components", "schemas", name] ∧
      ¬ ["components", "schemas", name] <+: path) :
    lookup (tree.addComponent place name schema) r = lookup tree r := by
  unfold lookup
  cases hsegments : segments r with
  | error e => rfl
  | ok path =>
    obtain ⟨habove, hbelow⟩ := hr path hsegments
    dsimp only
    rw [h.follow?_addComponent place schema habove hbelow]

def Components.add (place : Nat) (name : String) (x : Schema) (components : Components) :
    Components :=
  { components with schemas := components.schemas.insertAt place name x }

def Document.addComponent (place : Nat) (name : String) (x : Schema) (document : Document) :
    Document :=
  { document with components := some ((document.components.getD {}).add place name x) }

section Read

variable {α : Type} {read : Reader α} {fields : Dict Json} {schema value : Json}
  {place i : Nat} {name other : String} {x : Schema} {a : α} {tree k : Json}

theorem Json.Reader.dict_insertAt (ha : read schema = some a) :
    Reader.dict read (.obj (fields.insertAt place name schema)) =
      (Reader.dict read (.obj fields)).map fun d => d.insertAt place name a := by
  unfold Reader.dict
  dsimp only
  induction fields generalizing place with
  | nil => simp [Dict.insertAt, ha]
  | cons field fields ih =>
    cases place with
    | zero =>
      rw [Dict.insertAt, List.take_zero, List.drop_zero, List.nil_append, List.mapM_cons, ha]
      cases (field :: fields).mapM fun field => (read field.2).map fun v => (field.1, v) <;> rfl
    | succ place =>
      have hcons : Dict.insertAt (field :: fields) (place + 1) name schema =
          field :: Dict.insertAt fields place name schema := rfl
      rw [hcons, List.mapM_cons, List.mapM_cons, ih]
      cases read field.2 with
      | none => rfl
      | some b => cases fields.mapM fun field => (read field.2).map fun v => (field.1, v) <;> rfl

theorem Json.Record.value?_put (hne : name ≠ other) :
    (Record.named (fields.put name value)).value? i other =
      (Record.named fields).value? i other := by
  rw [value?, value?, Dict.get?_put, if_neg hne]

theorem Json.Record.optional_put (hne : name ≠ other) :
    (Record.named (fields.put name value)).optional i other read =
      (Record.named fields).optional i other read := by
  rw [optional, optional, value?_put hne]

theorem Json.Record.defaulted_put (hne : name ≠ other) (default : α) :
    (Record.named (fields.put name value)).defaulted i other read default =
      (Record.named fields).defaulted i other read default := by
  rw [defaulted, defaulted, value?_put hne]

theorem Components.read_obj (fields : Dict Json) : Components.read (.obj fields) =
    ((Json.Record.named fields).defaulted 0 "schemas" (Reader.dict Schema.read) []).map
      Components.mk := by
  unfold Components.read
  rw [Json.record?, Option.map_eq_bind]
  rfl

theorem Components.read_add (place : Nat) (name : String) (hk : k.IsRoom)
    (hschemas : ∀ s, k.member? "schemas" = some s → ∃ fields, s = .obj fields)
    (hx : Schema.read schema = some x) :
    Components.read (k.alter "schemas" fun schemas => schemas.insertMember place name schema) =
      (Components.read (.obj k.members)).map (.add place name x) := by
  have hread : (Json.Record.named k.members).defaulted 0 "schemas" (Reader.dict Schema.read) [] =
      Reader.dict Schema.read (.obj ((k.member? "schemas").getD .null).members) := by
    rw [Json.Record.defaulted, Json.Record.value?, hk.member?_eq] at *
    cases hs : k.members.get? "schemas" with
    | none => rfl
    | some s =>
      obtain ⟨fields, rfl⟩ := hschemas s (hk.member?_eq _ ▸ hs)
      rfl
  rw [Json.alter, read_obj, read_obj, hread, Json.Record.defaulted, Json.Record.value?,
    Dict.get?_put, if_pos rfl, Json.insertMember]
  dsimp only
  rw [Json.Reader.dict_insertAt hx, Option.map_map, Option.map_map]
  rfl

theorem Components.optional_add (h : (Json.obj fields).HasRoom) (hx : Schema.read schema = some x) :
    let components := ((Json.obj fields).member? "components").getD .null
    (Json.Record.named (Dict.put fields "components" (components.alter "schemas" fun schemas =>
        schemas.insertMember place name schema))).optional 5 "components" Components.read =
      ((Json.Record.named fields).optional 5 "components" Components.read).map fun found =>
        some ((found.getD {}).add place name x) := by
  intro components
  have hread := read_add place name h.isRoom_components h.schemas_eq hx
  have hsome : (Json.Record.named (Dict.put fields "components" (components.alter "schemas"
      fun schemas => schemas.insertMember place name schema))).optional 5 "components"
        Components.read = ((Components.read (.obj components.members)).map
          (.add place name x)).map some := by
    rw [Json.Record.optional, Json.Record.value?, Dict.get?_put, if_pos rfl, ← hread]
    rfl
  rw [hsome, Json.Record.optional, Json.Record.value?]
  have hcomponents : components = (Dict.get? fields "components").getD .null := rfl
  rw [hcomponents]
  cases hk : Dict.get? fields "components" with
  | none => rfl
  | some k =>
    rcases h.components k hk with rfl | ⟨members, rfl⟩
    · rfl
    · dsimp only [Option.getD_some, Json.members]
      rw [Option.map_map, Option.map_map]
      rfl

theorem Document.read_put {f : Option Components → Option Components}
    (h : (Json.Record.named (Dict.put fields "components" value)).optional 5 "components"
        Components.read =
      ((Json.Record.named fields).optional 5 "components" Components.read).map f) :
    Document.read (.obj (Dict.put fields "components" value)) =
      (Document.read (.obj fields)).map fun document =>
        { document with components := f document.components } := by
  unfold Document.read
  rw [Json.record?, Json.record?]
  simp only [Option.bind_eq_bind, Option.pure_def, Option.bind_some, Json.Record.optional_put,
    Json.Record.defaulted_put, ne_eq, String.reduceEq, not_false_eq_true, h, Option.map_bind,
    Option.bind_map, Function.comp_def, Option.map_some]

/-- The tree with one more component is read as the document with one more, or not at all. -/
theorem Document.read_addComponent (h : tree.HasRoom) (hx : Schema.read schema = some x) :
    Document.read (tree.addComponent place name schema) =
      (Document.read tree).map (.addComponent place name x) := by
  obtain ⟨fields, rfl⟩ := h.tree_eq
  exact Document.read_put (Components.optional_add h hx)

theorem Document.ofJson_addComponent (place : Nat) (name : String) (h : tree.HasRoom)
    (hx : Schema.read schema = some x) :
    Document.ofJson (tree.addComponent place name schema) =
      (Document.ofJson tree).map (.addComponent place name x) := by
  unfold ofJson
  rw [read_addComponent h hx]
  cases Document.read tree with
  | none => rfl
  | some document =>
    dsimp only [Option.map_some, addComponent]
    split <;> rfl

end Read

end ClientGen
