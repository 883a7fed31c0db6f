import ClientGen.Proofs.Typing.Growth
import ClientGen.Proofs.Typing.WholeRun

namespace ClientGen

open TypeScript

variable {tree : Json} {document : Document} {options : Options} {client : Client} {s : Session}

/-- The types of a client are those of the views of the references that were registered, and only
names that are known at the end stand in them. -/
theorem Client.exists_aliases (h : ofDocument tree document options = (.ok client, s)) :
    ∃ aliases : List Alias, client.types = aliases.map Alias.decl ∧
      (aliases.map Alias.label).Perm s.references.labels ∧
      ∀ a ∈ aliases, (Setting.ofDocument tree document options).Describes s a ∧
        ∀ n ∈ a.type.names, Setting.Nameable s n := by
  obtain ⟨hstep, htypes, -, -⟩ := (Setting.growth _).build h
  obtain ⟨references, aliases, -, hr, ht, -, -, hperm, ha⟩ := hstep.parts
  simp only [Session.start, List.nil_append] at hr ht hperm
  rw [← hr] at hperm
  exact ⟨aliases, htypes.trans ht, hperm, ha⟩

/-- The names that a client mentions: in the types of its functions and in its declarations. -/
def Client.mentions (client : Client) : List String :=
  client.endpoints.flatMap Endpoint.mentions ++
    (client.types ++ client.enums).flatMap TypeDecl.mentions

/-- The client of a document is closed: the names that it mentions are declared by it, but for the
one of binary data. Its types are just those of the views of the references that were registered,
each of them once, and each the type of the schema of its reference. -/
theorem Client.ofDocument_closed (h : ofDocument tree document options = (.ok client, s)) :
    (∀ n ∈ client.mentions,
      n = "Blob" ∨ n ∈ (client.types ++ client.enums).map TypeDecl.name) ∧
    s.references.keys.Nodup ∧
    ∃ aliases : List Alias, client.types = aliases.map Alias.decl ∧
      (aliases.map Alias.label).Perm s.references.labels ∧
      ∀ a ∈ aliases, (Setting.ofDocument tree document options).Describes s a := by
  obtain ⟨hstep, -, henums, hfits⟩ := (Setting.growth _).build h
  obtain ⟨aliases, htypes, hperm, ha⟩ := exists_aliases h
  obtain ⟨-, -, enums, -, -, he, hd, -, -⟩ := hstep.parts
  simp only [Session.start, List.nil_append] at he
  have hdeclared : Setting.EnumsDeclared s := hstep.enums fun p v n hn => by cases hn
  have hname : ∀ n, Setting.Nameable s n →
      n = "Blob" ∨ n ∈ (client.types ++ client.enums).map TypeDecl.name := by
    intro n hn
    rw [List.map_append, List.mem_append, htypes, henums]
    cases hn with
    | binary => exact .inl rfl
    | @registered l hl =>
      obtain ⟨a, ha, rfl⟩ := List.mem_map.1 (hperm.mem_iff.2 hl)
      refine .inr (.inl ?_)
      exact List.mem_map.2 ⟨a.decl, List.mem_map.2 ⟨a, ha, rfl⟩, rfl⟩
    | enum hn => exact .inr (.inr (hdeclared _ _ _ hn))
  refine ⟨fun n hn => ?_, hstep.keys .nil, aliases, htypes, hperm, fun a h => (ha a h).1⟩
  rcases List.mem_append.1 hn with hn | hn
  · obtain ⟨e, he, hn⟩ := List.mem_flatMap.1 hn
    obtain ⟨t, ht, hn⟩ := List.mem_flatMap.1 hn
    exact hname n (hfits e he t ht n hn)
  · obtain ⟨d, hmem, hn⟩ := List.mem_flatMap.1 hn
    rcases List.mem_append.1 hmem with hmem | hmem
    · rw [htypes] at hmem
      obtain ⟨a, hin, rfl⟩ := List.mem_map.1 hmem
      exact hname n ((ha a hin).2 n hn)
    · rw [henums, he] at hmem
      rw [hd d hmem] at hn
      cases hn

/-- Folders and their entries refer to each other, and a kind is one of two words. -/
def Client.library : Json := .obj [
  ("openapi", .str "3.0.0"),
  ("info", .obj [("title", .str "Library"), ("version", .str "1")]),
  ("paths", .obj []),
  ("components", .obj [("schemas", .obj [
    ("Folder", .obj [("properties", .obj [
      ("entry", .obj [("$ref", .str "#/components/schemas/Entry")]),
      ("kind", .obj [("$ref", .str "#/components/schemas/Kind")]),
      ("id", .obj [("type", .str "integer"), ("readOnly", .bool true)])])]),
    ("Entry", .obj [("properties", .obj [
      ("folder", .obj [("$ref", .str "#/components/schemas/Folder")])])]),
    ("Kind", .obj [("type", .str "string"), ("enum", .arr [.str "a", .str "b"])])])])]

theorem Client.ofDocument_closed_library : ∃ document client s,
    Document.ofJson library = .ok document ∧
    ofDocument library document { allSchemas := true, namedEnums := true } = (.ok client, s) ∧
    client.types.map TypeDecl.name = ["Entry", "Folder", "FolderRead"] ∧
    (∀ n ∈ client.mentions,
      n = "Blob" ∨ n ∈ (client.types ++ client.enums).map TypeDecl.name) ∧
    s.references.keys.Nodup := by
  have hbuilds : builds library { allSchemas := true, namedEnums := true } (fun _ client _ =>
      client.types.map TypeDecl.name = ["Entry", "Folder", "FolderRead"]) = true := by
    decide +kernel
  obtain ⟨document, client, s, hread, hbuilt, hnames⟩ := exists_ofDocument hbuilds
  obtain ⟨hclosed, hkeys, -⟩ := ofDocument_closed hbuilt
  exact ⟨document, client, s, hread, hbuilt, of_decide_eq_true hnames, hclosed, hkeys⟩

end ClientGen
