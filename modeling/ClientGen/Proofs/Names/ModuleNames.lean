import ClientGen.Proofs.Names.Functions
import ClientGen.Proofs.Names.HandedOut

namespace ClientGen

open TypeScript
open FunctionNames (Extends Unnumbered eq_or_extends_of_form mem_answers exists_of_mem_answers)

/-- The names that a line makes known or passes on. -/
def TypeScript.Import.names : Import → List String
  | .all name _ => [name]
  | .passOn names _ => names

/-- The names of a module that do not come from its types and functions. -/
def TypeScript.Module.ownNames (m : Module) : List String :=
  m.imports.flatMap Import.names ++ m.constants.map Constant.name

namespace Client

variable {tree : Json} {document : Document} {options : Options} {client : Client} {s : Session}
  {n : String}

/-- The names that all modules have of their own. -/
def fixedNames : List String :=
  ["Runtime", "QS", "HttpError", "handle", "ok", "okify", "optimistic", "servers", "defaults",
    "runtime"]

theorem unnumbered_fixedNames : ∀ n ∈ fixedNames, Unnumbered n := by decide

theorem mem_functionNames (h : ofDocument tree document options = (.ok client, s))
    (hn : n ∈ document.askedNames options) : n ∈ client.endpoints.flatMap Endpoint.names := by
  rw [functionNames_eq h]
  exact mem_answers hn

theorem asked_of_mem_functionNames (h : ofDocument tree document options = (.ok client, s))
    (hn : n ∈ client.endpoints.flatMap Endpoint.names) :
    ∃ asked ∈ document.askedNames options, n = asked ∨ Extends n asked := by
  rw [functionNames_eq h] at hn
  obtain ⟨asked, hasked, k, hk⟩ := exists_of_mem_answers hn
  exact ⟨asked, hasked, (eq_or_extends_of_form hk.symm).imp (fun h => h.1.symm) id⟩

theorem unnumbered_mem_functionNames_iff (h : ofDocument tree document options = (.ok client, s))
    (hn : Unnumbered n) :
    n ∈ client.endpoints.flatMap Endpoint.names ↔ n ∈ document.askedNames options := by
  constructor
  · intro hmem
    obtain ⟨asked, hasked, rfl | hext⟩ := asked_of_mem_functionNames h hmem
    · exact hasked
    · exact absurd hn (FunctionNames.not_unnumbered_of_extends hext)
  · exact mem_functionNames h

/-- When a client is made, a function or an older name is one of the module's own just if that is
asked for an operation that is kept. It is the name of an enum if that is asked for, and otherwise
only if a name is asked for that the enum has with digits behind it. And types and enums get the
name of an import or of the error just if that is asked for a view of a reference or for an enum. -/
theorem ownNames_of_ofDocument (h : ofDocument tree document options = (.ok client, s)) :
    ∃ m, client.toModule document options = .ok m ∧ m.ownNames = fixedNames ∧
      (∀ n ∈ m.ownNames,
        n ∈ m.items.map Item.name ↔ n ∈ document.askedNames options) ∧
      (∀ e ∈ client.enums,
        (e.name ∈ document.askedNames options → e.name ∈ m.items.map Item.name) ∧
        (e.name ∈ m.items.map Item.name →
          ∃ asked ∈ document.askedNames options, e.name = asked ∨ Extends e.name asked)) ∧
      ∀ n ∈ ["Runtime", "QS", "HttpError"],
        n ∈ m.types.map TypeDecl.name ↔ ∃ given, s.Gave n given := by
  obtain ⟨m, hm, himports, hconstants, -, htypes, hitems⟩ := client.exists_toModule document options
  have hown : m.ownNames = fixedNames := by
    rw [Module.ownNames, himports, hconstants]
    rfl
  have hthree : ∀ n ∈ ["Runtime", "QS", "HttpError"], n ∈ fixedNames := by decide
  refine ⟨m, hm, hown, fun n hn => ?_, fun e _ => ?_, fun n hn => ?_⟩
  · rw [hitems]
    exact unnumbered_mem_functionNames_iff h (unnumbered_fixedNames n (hown ▸ hn))
  · rw [hitems]
    exact ⟨mem_functionNames h, asked_of_mem_functionNames h⟩
  · rw [htypes]
    exact unnumbered_mem_typeNames_iff h (unnumbered_fixedNames n (hthree n hn))

/-- Jobs are handled, and their status is one of the values of an enum. -/
def jobs : Json := .obj [
  ("openapi", .str "3.0.0"),
  ("info", .obj [("title", .str "Jobs"), ("version", .str "1")]),
  ("paths", .obj [
    ("/jobs", .obj [
      ("get", .obj [("operationId", .str "handle"), ("responses", .obj [])]),
      ("put", .obj [("operationId", .str "1status"), ("responses", .obj [])])])]),
  ("components", .obj [("schemas", .obj [
    ("Runtime", .obj [("type", .str "string")]),
    ("Status", .obj [("type", .str "string"), ("enum", .arr [.str "done"])])])])]

def jobsOptions : Options := { allSchemas := true, namedEnums := true }

theorem builds_jobs : builds jobs jobsOptions (fun document client _ =>
    document.askedNames jobsOptions = ["handle", "Status"] ∧
    client.endpoints.flatMap Endpoint.names = ["handle", "Status"] ∧
    client.types.map TypeDecl.name = ["Runtime"] ∧
    client.enums.map TypeDecl.name = ["Status"]) = true := by
  decide +kernel

theorem ownNames_of_ofDocument_jobs : ∃ document client s m,
    Document.ofJson jobs = .ok document ∧ ofDocument jobs document jobsOptions = (.ok client, s) ∧
    client.toModule document jobsOptions = .ok m ∧ m.ownNames = fixedNames ∧
    ("handle" ∈ m.items.map Item.name ∧ "ok" ∉ m.items.map Item.name) ∧
    "Status" ∈ m.items.map Item.name ∧ ∃ given, s.Gave "Runtime" given := by
  obtain ⟨document, client, s, hread, hbuilt, hparts⟩ := exists_ofDocument builds_jobs
  obtain ⟨hasked, -, htypes, henums⟩ := of_decide_eq_true hparts
  obtain ⟨m, hm, hown, hfixed, henum, hthree⟩ := ownNames_of_ofDocument hbuilt
  obtain ⟨m', hm', -, -, -, hdeclared, -⟩ := client.exists_toModule document jobsOptions
  cases hm.symm.trans hm'
  refine ⟨document, client, s, m, hread, hbuilt, hm, hown, ⟨?_, ?_⟩, ?_, ?_⟩
  · rw [hfixed "handle" (hown ▸ by decide), hasked]
    decide
  · rw [hfixed "ok" (hown ▸ by decide), hasked]
    decide
  · have hstatus : "Status" ∈ client.enums.map TypeDecl.name := henums ▸ List.mem_cons_self
    obtain ⟨e, he, hname⟩ := List.mem_map.1 hstatus
    have hgiven := (henum e he).1
    rw [hname] at hgiven
    exact hgiven (hasked ▸ by decide)
  · rw [← hthree "Runtime" (by decide), hdeclared, List.map_append, htypes]
    exact List.mem_cons_self

/-- A function may have a name that every module has, or that of an enum, and a type the name of an
import. -/
theorem ownNames_clash_jobs : ∃ document client s m,
    Document.ofJson jobs = .ok document ∧ ofDocument jobs document jobsOptions = (.ok client, s) ∧
    client.toModule document jobsOptions = .ok m ∧
    ("handle" ∈ m.items.map Item.name ∧ "handle" ∈ m.ownNames) ∧
    ("Status" ∈ m.items.map Item.name ∧ "Status" ∈ client.enums.map TypeDecl.name) ∧
    ("Runtime" ∈ m.types.map TypeDecl.name ∧ "Runtime" ∈ m.ownNames) := by
  obtain ⟨document, client, s, hread, hbuilt, hparts⟩ := exists_ofDocument builds_jobs
  obtain ⟨-, hnames, htypes, henums⟩ := of_decide_eq_true hparts
  obtain ⟨m, hm, himports, hconstants, -, hdeclared, hitems⟩ :=
    client.exists_toModule document jobsOptions
  refine ⟨document, client, s, m, hread, hbuilt, hm, ?_⟩
  rw [hitems, hnames, henums, hdeclared, List.map_append, htypes, henums, Module.ownNames,
    himports, hconstants]
  decide

end Client

end ClientGen
