import ClientGen.Proofs.Endpoint.Mirrors
import ClientGen.Proofs.Typing.Growth
import ClientGen.Proofs.Typing.WholeRun

namespace ClientGen

open Run TypeScript

/-- A session with declarations after those of another one, and with all that is registered
there. -/
structure Session.Continues (s s' : Session) : Prop where
  types : s.types <+: s'.types
  enums : s.enums <+: s'.enums
  references : s.references <+: s'.references
  known : ∀ r names, s.references.get? r = some names → s'.references.get? r = some names

theorem Session.Continues.refl (s : Session) : s.Continues s :=
  ⟨List.prefix_rfl, List.prefix_rfl, List.prefix_rfl, fun _ _ h => h⟩

namespace Setting

variable {c : Setting} {s s' : Session}

theorem Grows.continues {owed : List Label} (h : c.Grows owed s s') : s.Continues s' := by
  obtain ⟨references, aliases, enums, hreferences, htypes, henums, -⟩ := h.parts
  exact ⟨⟨_, htypes.symm⟩, ⟨_, henums.symm⟩, ⟨_, hreferences.symm⟩, fun _ _ => h.later.known⟩

/-- However deep it goes, giving a schema or a reference its type only adds to the session. -/
theorem continues_of_gives {fuel : Nat} (hfuel : fuel ≤ c.depth) {t : TypeExpr} :
    (∀ place x, (c.typingWithin fuel place x).Gives s t s' → s.Continues s') ∧
    ∀ view r, (c.referenceType (c.typingWithin fuel) view r).Gives s t s' → s.Continues s' := by
  have hobeys := c.growth.obeys_typingWithin hfuel
  exact ⟨fun place x h => (hobeys place x s t s' h).1.continues,
    fun view r h => (hobeys.referenceType hfuel h).1.continues⟩

/-- The setting of a document with and without types for all component schemas. -/
def Mirror.notAllSchemas (tree : Json) (document : Document) (options : Options) :
    Mirror (ofDocument tree document { options with allSchemas := true })
      (ofDocument tree document { options with allSchemas := false }) :=
  .ofOptions .any (fun _ => true) word_any (TypeExpr.withAny_any _).symm rfl rfl rfl

end Setting

namespace Client

variable {tree : Json} {document : Document} {options : Options} {client : Client} {s : Session}

theorem build_of_paths {c : Setting} {s₁ : Session} {ess : List (List Endpoint)}
    (hall : c.options.allSchemas = false) (h : (document.paths.mapM c.endpointsOf).Gives s ess s₁) :
    ∃ s', (build c document).Gives s
      { endpoints := ess.flatten, types := s₁.types, enums := s₁.enums } s' := by
  simp only [build, gives_bind, hall, Bool.false_eq_true, if_false, gives_get, gives_pure, report,
    gives_modify]
  exact ⟨_, ess, s₁, h, s₁, s₁, ⟨rfl, rfl⟩, (), _, rfl, rfl, rfl⟩

/-- A client without types for all component schemas has the functions of the one with them, and its
declarations come first among those of that one. -/
theorem exists_notAllSchemas
    (h : ofDocument tree document { options with allSchemas := true } = (.ok client, s)) :
    ∃ client' s', ofDocument tree document { options with allSchemas := false } =
        (.ok client', s') ∧
      client'.endpoints = client.endpoints ∧ client'.types <+: client.types ∧
      client'.enums <+: client.enums := by
  obtain ⟨ess, s₁, s₂, e, hess, hcomponents, rfl, -⟩ := build_gives h
  let M := Setting.Mirror.notAllSchemas tree document options
  have hpaths := M.mirrored_paths document (fun _ _ _ _ => trivial) rfl
  have hstart : M.Like (Session.start _ document) (Session.start _ document) :=
    ⟨Session.merged_start, _, rfl, rfl⟩
  obtain ⟨s₁', hess', hlike⟩ := hpaths.gives hstart (gives_mapM.2 hess)
  -- Both runs stand in the same session after the paths, and only the first one goes on from there.
  have hsame : s₁' = s₁ := (hlike.eq fun _ => rfl).trans s₁.withAny_any
  have hcontinues : s₁.Continues s₂ := by
    rcases hcomponents with rfl | ⟨u, hall⟩
    · exact .refl _
    · exact ((Setting.growth _).typeComponents hall).continues
  obtain ⟨s', hbuild⟩ := build_of_paths rfl hess'
  refine ⟨_, s', hbuild, ?_, ?_, ?_⟩
  · show (ess.map (List.map (Endpoint.withAny .any))).flatten = ess.flatten
    rw [List.map_congr_left fun es _ => Endpoint.map_withAny_any es, List.map_id']
  · rw [hsame]
    exact hcontinues.types
  · rw [hsame]
    exact hcontinues.enums

/-- Types for all component schemas are only added. If a run declares them all, one that does not
succeeds too, with the same functions, and its declarations come first among those of the other. And
however deep it goes, giving a schema or a reference its type only adds declarations and changes
nothing that is registered. -/
theorem ofDocument_allSchemas (tree : Json) (document : Document) (options : Options) :
    (∀ client s, ofDocument tree document { options with allSchemas := true } = (.ok client, s) →
      ∃ client' s', ofDocument tree document { options with allSchemas := false } =
          (.ok client', s') ∧
        client'.endpoints = client.endpoints ∧ client'.types <+: client.types ∧
        client'.enums <+: client.enums) ∧
    ∀ (c : Setting) (fuel : Nat) (s : Session) (t : TypeExpr) (s' : Session), fuel ≤ c.depth →
      (∀ place x, (c.typingWithin fuel place x).Gives s t s' → s.Continues s') ∧
      ∀ view r, (c.referenceType (c.typingWithin fuel) view r).Gives s t s' → s.Continues s' :=
  ⟨fun _ _ h => exists_notAllSchemas h, fun _ _ _ _ _ hfuel => Setting.continues_of_gives hfuel⟩

/-- Orders of a shop are asked for. They have a status, and customers, who are not asked for, have
a rank. -/
def shop : Json := .obj [
  ("info", .obj [("title", .str "Shop"), ("version", .str "1")]),
  ("paths", .obj [("/orders", .obj [("get", .obj [("operationId", .str "listOrders"),
    ("responses", .obj [("200", .obj [("content", .obj [("application/json", .obj [
      ("schema", .obj [("$ref", .str "#/components/schemas/Order")])])])])])])])]),
  ("components", .obj [("schemas", .obj [
    ("Customer", .obj [("properties", .obj [
      ("rank", .obj [("$ref", .str "#/components/schemas/Rank")]),
      ("orders", .obj [("type", .str "array"), ("items", .obj [
        ("$ref", .str "#/components/schemas/Order")])])])]),
    ("Order", .obj [("properties", .obj [
      ("status", .obj [("$ref", .str "#/components/schemas/Status")])])]),
    ("Rank", .obj [("type", .str "string"), ("enum", .arr [.str "new", .str "old"])]),
    ("Status", .obj [("type", .str "string"), ("enum", .arr [.str "open", .str "done"])])])])]

theorem ofDocument_allSchemas_shop : ∃ document client s client' s',
    Document.ofJson shop = .ok document ∧
    ofDocument shop document { allSchemas := true, namedEnums := true } = (.ok client, s) ∧
    ofDocument shop document { allSchemas := false, namedEnums := true } = (.ok client', s') ∧
    client.types.map TypeDecl.name = ["Order", "Customer"] ∧
    client.enums.map TypeDecl.name = ["Status", "Rank"] ∧
    client'.endpoints = client.endpoints ∧ client'.types <+: client.types ∧
    client'.enums <+: client.enums ∧
    let c := Setting.ofDocument shop document { namedEnums := true }
    ∃ order u customer v,
      (c.referenceType c.typing .base "#/components/schemas/Order").Gives {} order u ∧
      (c.referenceType c.typing .base "#/components/schemas/Customer").Gives u customer v ∧
      v.types.map TypeDecl.name = ["Order", "Customer"] ∧ u.Continues v := by
  have hbuilds : builds shop { allSchemas := true, namedEnums := true } (fun document client _ =>
      let c := Setting.ofDocument shop document { namedEnums := true }
      client.types.map TypeDecl.name = ["Order", "Customer"] ∧
      client.enums.map TypeDecl.name = ["Status", "Rank"] ∧
      (do
        let _ ← c.referenceType c.typing .base "#/components/schemas/Order"
        let _ ← c.referenceType c.typing .base "#/components/schemas/Customer"
        return (← get).types.map TypeDecl.name).succeeds (· = ["Order", "Customer"]) {}) =
      true := by
    decide +kernel
  obtain ⟨document, client, s, hread, hbuilt, h⟩ := exists_ofDocument hbuilds
  obtain ⟨htypes, henums, htyped⟩ := of_decide_eq_true h
  obtain ⟨hall, hcontinues⟩ := ofDocument_allSchemas shop document { namedEnums := true }
  obtain ⟨client', s', hbuilt', hsame, hprefix, hprefix'⟩ := hall client s hbuilt
  obtain ⟨names, v, hrun, hnames⟩ := exists_gives htyped
  simp only [gives_bind, gives_get, gives_pure] at hrun
  obtain ⟨order, u, horder, customer, _, hcustomer, _, _, ⟨rfl, rfl⟩, rfl, rfl⟩ := hrun
  exact ⟨document, client, s, client', s', hread, hbuilt, hbuilt', htypes, henums, hsame, hprefix,
    hprefix', order, u, customer, _, horder, hcustomer, of_decide_eq_true hnames,
    (hcontinues _ _ _ _ _ (Nat.le_refl _)).2 _ _ hcustomer⟩

end Client

end ClientGen
