import ClientGen.Proofs.Discriminators.Added
import ClientGen.Proofs.Endpoint.AllSchemas

namespace ClientGen

open Reference (ofComponent readBack segments)
open Run TypeScript

def Document.schemas (d : Document) : Dict Schema := (d.components.map (·.schemas)).getD []

/-- A component that stands as a subtype in the completed mapping of a discriminating one. -/
def Document.HasSubtype (d : Document) (name : String) : Prop :=
  name ∈ d.schemas.keys ∧ ∃ r entry, (Discriminators.ofDocument d).get? r = some entry ∧
    ofComponent name ∈ entry.mapping.values

/-- The reference to the component does not occur in the tree, and no reference that occurs there
ends above the component, at it or below it. -/
def Json.Avoids (tree : Json) (name : String) : Prop :=
  ∀ r, tree.Refers r → r ≠ ofComponent name ∧ ∀ path, segments r = .ok path →
    ¬ path <+: ["components", "schemas", name] ∧ ¬ ["components", "schemas", name] <+: path

def Event.countsComponents : Event → Bool
  | .indexed _ => true
  | _ => false

variable {tree schema : Json} {document : Document} {options : Options} {place : Nat}
  {name other r q : String} {x : Schema}

theorem Discriminators.ofDocument_eq (d : Document) : ofDocument d = ofSchemas d.schemas := by
  unfold ofDocument Document.schemas
  cases d.components <;> rfl

namespace Document

theorem schemas_addComponent (d : Document) :
    (d.addComponent place name x).schemas = d.schemas.insertAt place name x := by
  unfold schemas addComponent
  cases d.components <;> rfl

theorem read_of_ofJson (h : ofJson tree = .ok document) : Document.read tree = some document := by
  unfold ofJson at h
  split at h
  · cases h
  · next d hd =>
    split at h
    · cases h
    · cases h
      exact hd

theorem exists_member_of_mem {k : Json} {components : Components} (hk : k.IsRoom)
    (hschemas : ∀ s, k.member? "schemas" = some s → ∃ fields, s = .obj fields)
    (h : Components.read k = some components) (hname : name ∈ components.schemas.keys) :
    ∃ fields i, k.member? "schemas" = some (.obj fields) ∧ Dict.get? fields name = some i := by
  rcases hk with rfl | ⟨members, rfl⟩
  · cases h
  · obtain ⟨_, hrecord, hdefaulted⟩ := record_of_read h
    cases hrecord
    unfold Json.Record.defaulted at hdefaulted
    split at hdefaulted
    · next s hs =>
      obtain ⟨fields, rfl⟩ := hschemas s hs
      obtain ⟨y, hy⟩ : ∃ y, components.schemas.get? name = some y :=
        Option.ne_none_iff_exists'.1 fun hnone => (Dict.get?_eq_none_iff _ _).1 hnone hname
      obtain ⟨i, hi, -⟩ := Json.Reader.get?_of_dict hdefaulted hy
      exact ⟨fields, i, hs, hi⟩
    · rw [← Option.some.inj hdefaulted] at hname
      cases hname

theorem exists_follow?_of_mem (hroom : tree.HasRoom) (h : ofJson tree = .ok document)
    (hname : name ∈ document.schemas.keys) :
    ∃ k, Reference.follow? tree ["components", "schemas", name] = some k := by
  unfold schemas at hname
  cases hcomponents : document.components with
  | none =>
    rw [hcomponents] at hname
    cases hname
  | some components =>
    rw [hcomponents] at hname
    obtain ⟨members, rfl⟩ := hroom.tree_eq
    obtain ⟨_, hrecord, hoptional⟩ := record_of_ofJson h hcomponents
    cases hrecord
    unfold Json.Record.optional at hoptional
    split at hoptional
    · cases hoptional
    · next k _ hk =>
      obtain ⟨_, hread, he⟩ := Option.map_eq_some_iff.1 hoptional
      cases he
      obtain ⟨fields, i, hs, hi⟩ :=
        exists_member_of_mem (hroom.components k hk) (fun s => hroom.schemas k s hk) hread hname
      refine ⟨i, ?_⟩
      rw [Json.follow?_of_member? (show (Json.obj members).member? "components" = some k from hk),
        Json.follow?_of_member? hs, Reference.follow?_member, hi]
    · cases hoptional

theorem refers_of_mentions {e : String × Schema} (h : ofJson tree = .ok document)
    (he : e ∈ document.schemas) (hr : e.2.Mentions r) : tree.Refers r := by
  unfold schemas at he
  cases hcomponents : document.components with
  | none =>
    rw [hcomponents] at he
    cases he
  | some components =>
    rw [hcomponents] at he
    obtain ⟨k, hk, hread⟩ := (components_of_ofJson h hcomponents).2 e he
    exact hk.refers (Schema.faithful _ _ _ hread hr)

/-- A subtype of a discriminating component is mentioned by the document, or it is a component. -/
theorem refers_or_hasSubtype (h : ofJson tree = .ok document) {d : Discriminating}
    (hd : (Discriminators.ofDocument document).get? r = some d) (hq : q ∈ d.mapping.values) :
    tree.Refers q ∨ ∃ other, document.HasSubtype other ∧ q = ofComponent other := by
  have hindexed : Discriminators.Indexes document.schemas tree.Refers (.ofSchemas _) :=
    Discriminators.indexes_ofSchemas fun e he r => refers_of_mentions h he
  rw [Discriminators.ofDocument_eq] at hd
  rcases (hindexed _ (Dict.mem_of_get? hd)).2 q hq with hq' | hq'
  · exact .inl hq'
  · obtain ⟨other, hother, rfl⟩ := List.mem_map.1 hq'
    exact .inr ⟨other, ⟨hother, r, d, Discriminators.ofDocument_eq document ▸ hd, hq⟩, rfl⟩

end Document

theorem Reference.not_prefix_component (hne : other ≠ name) :
    ¬ ["components", "schemas", other] <+: ["components", "schemas", name] := by
  simpa using hne

namespace Setting

theorem Mirror.like_start {c c' : Setting} (M : Mirror c c')
    (hseen : ∀ n, M.Seen (.indexed n) = false) (document document' : Document) :
    M.Like (Session.start c document) (Session.start c' document') := by
  have hfilter {c : Setting} (d : Document) : (Session.start c d).events.filter M.Seen = [] := by
    unfold Session.start
    dsimp only
    split
    · rw [List.filter_cons, if_neg (by rw [hseen]; exact Bool.false_ne_true), List.filter_nil]
    · rfl
  exact ⟨Session.merged_start, _, rfl, (hfilter document').trans (hfilter document).symm⟩

variable (hroom : tree.HasRoom) (hread : Document.ofJson tree = .ok document)
  (hnew : Reference.follow? tree ["components", "schemas", name] = none)

include hroom hread hnew

theorem ne_of_hasSubtype (h : document.HasSubtype other) : other ≠ name := by
  rintro rfl
  obtain ⟨k, hk⟩ := Document.exists_follow?_of_mem hroom hread h.1
  cases hk.symm.trans hnew

omit hread in
/-- The reference to a component leads to the same value if the name of the new one is not read from
it, and to nothing if it is. -/
theorem lookup_subtype (place : Nat) (schema : Json) :
    readBack other = name ∧ Reference.lookup tree (ofComponent other) =
        .error (.danglingReference ["components", "schemas", name]) ∨
      Reference.lookup (tree.addComponent place name schema) (ofComponent other) =
        Reference.lookup tree (ofComponent other) := by
  by_cases hback : readBack other = name
  · refine .inl ⟨hback, ?_⟩
    rw [Reference.lookup, Reference.segments_ofComponent, hback]
    dsimp only
    rw [hnew]
  · refine .inr (Reference.lookup_addComponent hroom place schema fun path hpath => ?_)
    cases (Reference.segments_ofComponent other).symm.trans hpath
    exact ⟨Reference.not_prefix_component hback, Reference.not_prefix_component (Ne.symm hback)⟩

variable (hfree : tree.Avoids name)
  (hbranch : ∀ r, x.HasBranch r → (Discriminators.ofDocument document).get? r = none)

include hfree hbranch

/-- The setting of a document and that with one more component, which nothing refers to. Runs are
compared unless the first one is cut off or follows the reference to a subtype to the name of the
new component. -/
def Mirror.unreferenced (options : Options) (place : Nat) (schema : Json) :
    Mirror (ofDocument tree document options)
      (ofDocument (tree.addComponent place name schema) (document.addComponent place name x)
        options) where
  word := .any
  Seen e := !e.countsComponents
  Asked r := tree.Refers r ∨ ∃ other, document.HasSubtype other ∧ r = ofComponent other
  Excused e := e = .endless ∨ e = .danglingReference ["components", "schemas", name] ∧
    ∃ other, document.HasSubtype other ∧ readBack other = name
  word_eq := word_any
  anyType := (TypeExpr.withAny_any _).symm
  namedEnums := rfl
  mergeViews := rfl
  unionUndefined := rfl
  size := .inr ⟨hroom.size_addComponent place name schema, .inl rfl⟩
  lookup {r} hr := by
    rcases hr with hr | ⟨other, hother, rfl⟩
    · exact .inr (Reference.lookup_addComponent hroom place schema (hfree r hr).2)
    · refine (lookup_subtype hroom hnew place schema).imp_left ?_
      rintro ⟨hback, hdangling⟩
      exact ⟨_, .inr ⟨rfl, other, hother, hback⟩, hdangling⟩
  closed _ hj hq := .inl ((Reference.part_of_lookup hj).refers hq)
  entry {r} hr := by
    have hne : r ≠ ofComponent name := by
      rcases hr with hr | ⟨other, hother, rfl⟩
      · exact (hfree r hr).1
      · exact fun he => ne_of_hasSubtype hroom hread hnew hother
          (Reference.ofComponent_injective he)
    -- The new component may be indexed itself, but its entry is not one that is asked for.
    show (Discriminators.ofDocument (document.addComponent place name x)).get? r =
      (Discriminators.ofDocument document).get? r
    rw [Discriminators.ofDocument_eq, Document.schemas_addComponent, Discriminators.ofDocument_eq]
    refine Discriminators.get?_ofSchemas_insertAt hne fun h => ?_
    rw [← Discriminators.ofDocument_eq, hbranch r h]
  subtype _ hd hq := Document.refers_or_hasSubtype hread hd hq

/-- The run for the document with the new component comes to the same client, unless the run without
it is cut off or misses a subtype by the name of the new component. -/
theorem ofDocument_addComponent (hall : options.allSchemas = false) (place : Nat) (schema : Json) :
    let run := Client.ofDocument tree document options
    (Client.ofDocument (tree.addComponent place name schema) (document.addComponent place name x)
        options).1 = run.1 ∨ run.1 = .error .endless ∨
      run.1 = .error (.danglingReference ["components", "schemas", name]) ∧
        ∃ other, document.HasSubtype other ∧ readBack other = name := by
  let M := Mirror.unreferenced hroom hread hnew hfree hbranch options place schema
  have hread := Document.read_of_ofJson hread
  have hpaths := M.mirrored_paths document (fun entry hentry r hr =>
    .inl (Document.faithful _ _ _ hread ⟨entry, hentry, hr⟩)) rfl
  have hbuild : M.Mirrored _ (Client.build _ document)
      (Client.build _ (document.addComponent place name x)) :=
    Mirror.mirrored_build hpaths rfl fun hon => absurd (hon.symm.trans hall) nofun
  rcases hbuild _ _ (M.like_start (fun _ => rfl) document _) with ⟨e, he, hrun⟩ | ⟨hvalue, -⟩
  · rcases he with rfl | ⟨rfl, hclash⟩
    · exact .inr (.inl hrun)
    · exact .inr (.inr ⟨hrun, hclash⟩)
  · exact .inl (hvalue.trans (Client.map_withAny_any _))

end Setting

theorem generateTree_fst (h : Document.ofJson tree = .ok document) :
    (generateTree tree options).1 = (Client.ofDocument tree document options).1.bind fun client =>
      (client.toModule document options).map Module.text := by
  unfold generateTree
  rw [h]

/-- A component that nothing refers to does not change the module. To a tree a well-shaped schema is
added under a new name, which no reference of the tree comes near to, and which has no branch that
refers to a discriminating component. Unless all component schemas are asked for, the tree with it
gives the same text or failure, or the run for the tree without it is cut off, or it misses the
component as a subtype whose name is written in another way. -/
theorem generateTree_addComponent (hroom : tree.HasRoom)
    (hnew : Reference.follow? tree ["components", "schemas", name] = none)
    (hx : Schema.read schema = some x) (hall : options.allSchemas = false)
    (hfree : tree.Avoids name)
    (hbranch : ∀ document, Document.ofJson tree = .ok document → ∀ r, x.HasBranch r →
      (Discriminators.ofDocument document).get? r = none) (place : Nat) :
    let run := (generateTree tree options).1
    (generateTree (tree.addComponent place name schema) options).1 = run ∨
      run = .error .endless ∨
      run = .error (.danglingReference ["components", "schemas", name]) ∧
        ∃ document other, Document.ofJson tree = .ok document ∧ document.HasSubtype other ∧
          readBack other = name := by
  have hread' := Document.ofJson_addComponent place name hroom hx
  cases hread : Document.ofJson tree with
  | error e =>
    rw [hread] at hread'
    left
    unfold generateTree
    rw [hread', hread]
    rfl
  | ok document =>
    rw [hread] at hread'
    dsimp only
    rw [generateTree_fst hread', generateTree_fst hread]
    have hclient := Setting.ofDocument_addComponent hroom hread hnew hfree
      (hbranch document hread) hall place schema
    rcases hclient with hsame | hend | ⟨hdangling, other, hother⟩
    · rw [hsame]
      exact .inl rfl
    · rw [hend]
      exact .inr (.inl rfl)
    · rw [hdangling]
      exact .inr (.inr ⟨rfl, document, other, rfl, hother⟩)

theorem Json.avoids_of_texts (h : ∀ r ∈ tree.texts, r ≠ ofComponent name ∧
    ((segments r).toOption.all fun path =>
      !List.isPrefixOf path ["components", "schemas", name] &&
        !List.isPrefixOf ["components", "schemas", name] path) = true) : tree.Avoids name := by
  intro r hr
  obtain ⟨hne, hpath⟩ := h r hr.mem_texts
  refine ⟨hne, fun path hsegments => ?_⟩
  rw [hsegments] at hpath
  simpa [Except.toOption, ← List.isPrefixOf_iff_prefix] using hpath

theorem Except.exists_of_isSome {ε α : Type} {x : Except ε α} (h : x.toOption.isSome = true) :
    ∃ a, x = .ok a := by
  cases x with
  | error e => cases h
  | ok a => exact ⟨a, rfl⟩

namespace Client

/-- A coupon discriminates among those that refer to it, which none in the shop does. -/
def coupon : Json := .obj [
  ("discriminator", .obj [("propertyName", .str "kind")]),
  ("properties", .obj [("order", .obj [("$ref", .str "#/components/schemas/Order")])])]

theorem generateTree_shop : shop.HasRoom ∧ shop.Avoids "Coupon" ∧
    (∃ text, (generateTree shop {}).1 = .ok text) ∧
    (generateTree (shop.addComponent 1 "Coupon" coupon) {}).1 = (generateTree shop {}).1 := by
  have hroom : shop.HasRoom := Json.hasRoom_of_at? rfl
  have hnew : (Reference.follow? shop ["components", "schemas", "Coupon"]).isNone = true := by
    decide +kernel
  have hread : (Schema.read coupon).any (·.allOf.isNone) = true := by
    decide +kernel
  have hfree : shop.Avoids "Coupon" := by
    apply Json.avoids_of_texts
    decide +kernel
  have htext : (generateTree shop {}).1.toOption.isSome = true := by
    decide +kernel
  obtain ⟨x, hx, hallOf⟩ := (Option.any_eq_true _ _).1 hread
  obtain ⟨text, htext⟩ := Except.exists_of_isSome htext
  have hbranch : ∀ r, ¬ x.HasBranch r := by
    rintro r ⟨branch, hmem, -⟩
    rw [Option.isNone_iff_eq_none.1 hallOf] at hmem
    cases hmem
  refine ⟨hroom, hfree, ⟨text, htext⟩, ?_⟩
  have hall : ({} : Options).allSchemas = false := rfl
  rcases generateTree_addComponent hroom (Option.isNone_iff_eq_none.1 hnew) hx hall hfree
    (fun _ _ r hr => absurd hr (hbranch r)) 1 with hsame | hend | ⟨hdangling, -⟩
  · exact hsame
  · cases htext.symm.trans hend
  · cases htext.symm.trans hdangling

/-- Guide dogs are pets. The space in their name is written as an escape. -/
def guides : Json := .obj [
  ("openapi", .str "3.0.0"),
  ("info", .obj [("title", .str "Guides"), ("version", .str "1")]),
  ("paths", .obj [("/pets", .obj [("get", .obj [("operationId", .str "listPets"),
    ("responses", .obj [("200", .obj [("content", .obj [("application/json", .obj [
      ("schema", .obj [("$ref", .str "#/components/schemas/Pet")])])])])])])])]),
  ("components", .obj [("schemas", .obj [
    ("Pet", .obj [("discriminator", .obj [("propertyName", .str "kind")])]),
    ("Guide%20Dog", .obj [("allOf", .arr [
      .obj [("$ref", .str "#/components/schemas/Pet")]])])])])]

/-- A component that nothing refers to is taken for the guide dogs. -/
theorem generateTree_guides : guides.HasRoom ∧
    Reference.follow? guides ["components", "schemas", "Guide Dog"] = none ∧
    guides.Avoids "Guide Dog" ∧
    (∃ x, Schema.read (.obj [("type", .str "string")]) = some x ∧ ∀ r, ¬ x.HasBranch r) ∧
    (generateTree guides {}).1 =
      .error (.danglingReference ["components", "schemas", "Guide Dog"]) ∧
    ∃ text, (generateTree (guides.addComponent 2 "Guide Dog"
      (.obj [("type", .str "string")])) {}).1 = .ok text := by
  have hnew : (Reference.follow? guides ["components", "schemas", "Guide Dog"]).isNone = true := by
    decide +kernel
  have hfail : (generateTree guides {}).1 =
      .error (.danglingReference ["components", "schemas", "Guide Dog"]) := by
    decide +kernel
  have htext : (generateTree (guides.addComponent 2 "Guide Dog"
      (.obj [("type", .str "string")])) {}).1.toOption.isSome = true := by
    decide +kernel
  refine ⟨Json.hasRoom_of_at? rfl, Option.isNone_iff_eq_none.1 hnew, ?_, ?_, hfail, ?_⟩
  · apply Json.avoids_of_texts
    decide +kernel
  · exact ⟨_, rfl, fun r ⟨branch, hmem, _⟩ => by cases hmem⟩
  · exact Except.exists_of_isSome htext

end Client

end ClientGen
