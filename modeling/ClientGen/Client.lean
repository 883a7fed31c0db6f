import ClientGen.Endpoint.Code
import ClientGen.Endpoint.OfOperation
import ClientGen.Servers
import ClientGen.Source

namespace ClientGen

open TypeScript (Doc Import Module TypeDecl)

/-- The functions and types for a document. -/
structure Client where
  endpoints : List Endpoint
  /-- Type aliases, in the order in which they were completed. -/
  types : List TypeDecl
  enums : List TypeDecl

namespace Client

def build (c : Setting) (document : Document) : Run Client := do
  let endpoints := (← document.paths.mapM c.endpointsOf).flatten
  if c.options.allSchemas then
    c.typeComponents ((document.components.map (·.schemas)).getD [])
  let s ← get
  Run.report (.finished endpoints.length s.types.length s.enums.length)
  return { endpoints, types := s.types, enums := s.enums }

def ofDocument (tree : Json) (document : Document) (options : Options) :
    Except Failure Client × Session :=
  let c := Setting.ofDocument tree document options
  (build c document).run.run (Session.start c document)

/-- The comment at the head of a module. -/
def header (info : Info) : Doc :=
  ⟨[info.title, info.version].filter (!·.isEmpty) ++
    ["DO NOT MODIFY - This file has been generated using fetchgen."]⟩

def imports (runtimeModule : String) : List Import := [
  .all "Runtime" runtimeModule,
  .all "QS" (runtimeModule ++ "/query"),
  .passOn ["HttpError", "handle", "ok", "okify", "optimistic"] runtimeModule]

def toModule (client : Client) (document : Document) (options : Options) :
    Except Failure Module := do
  let constants ← setBaseUrl (defaultBaseUrl document.servers) (moduleConstants document.servers)
  return {
    header := header document.info
    imports := imports options.runtimeModule
    constants
    types := client.types ++ client.enums
    items := client.endpoints.flatMap (·.items options.optimistic) }

end Client

/-- The outcome of a run and the events up to its end. -/
abbrev Report := Except Failure String × List Event

def generateTree (tree : Json) (options : Options) : Report :=
  match Document.ofJson tree with
  | .error failure => (.error failure, [])
  | .ok document =>
    let (client, session) := Client.ofDocument tree document options
    let text := client.bind fun client =>
      (client.toModule document options).map TypeScript.Module.text
    (text, .loaded document.info.title document.paths.length :: session.events)

/-- Generate the module for the text of a document. -/
def generate (text : String) (options : Options) : Report :=
  match Json.ofSource? text with
  | none => (.error .malformedText, [])
  | some tree => generateTree tree options

end ClientGen
