import ClientGen.Document
import ClientGen.Failure
import ClientGen.Schema.Shape

namespace ClientGen

open Json (Reader)

/-- Read a value or a reference to one: an object whose `$ref` is a text is a reference, whatever
else it holds. -/
def Referable.read {α : Type} (value : Reader α) : Reader (Referable α) := fun j =>
  match j.member? "$ref" with
  | some (.str target) => some (.reference target)
  | _ => (value j).map .inline

def Info.read : Reader Info := fun j => do
  let r ← j.record? 3
  return {
    title := ← r.defaulted 0 "title" Reader.text ""
    version := ← r.defaulted 1 "version" Reader.text ""
    description := ← r.optional 2 "description" Reader.text }

def ServerVariable.read : Reader ServerVariable := fun j => do
  let r ← j.record? 2
  return {
    default := ← r.defaulted 0 "default" Reader.any .null
    values := ← r.optional 1 "enum" (Reader.list Reader.any) }

def Server.read : Reader Server := fun j => do
  let r ← j.record? 3
  return {
    url := ← r.required 0 "url" Reader.text
    description := ← r.optional 1 "description" Reader.text
    urlVariables := ← r.defaulted 2 "variables" (Reader.dict ServerVariable.read) [] }

def MediaType.read : Reader MediaType := fun j => do
  let r ← j.record? 1
  return { schema := ← r.optional 0 "schema" Schema.read }

def Location.ofText? : String → Option Location
  | "path" => some .path
  | "query" => some .query
  | "header" => some .header
  | "cookie" => some .cookie
  | _ => none

/-- Read a location: its text, or an object whose one member has that name and no value. -/
def Location.read : Reader Location
  | .str s => ofText? s
  | .obj [(s, .null)] => ofText? s
  | _ => none

def Parameter.read : Reader Parameter := fun j => do
  let r ← j.record? 8
  return {
    name := ← r.required 0 "name" Reader.text
    location := ← r.required 1 "in" Location.read
    required := ← r.defaulted 2 "required" Reader.truth false
    schema := ← r.optional 3 "schema" Schema.read
    content := ← r.optional 4 "content" (Reader.dict MediaType.read)
    style := ← r.optional 5 "style" Reader.text
    explode := ← r.optional 6 "explode" Reader.truth
    description := ← r.optional 7 "description" Reader.text }

def RequestBody.read : Reader RequestBody := fun j => do
  let r ← j.record? 3
  return {
    required := ← r.defaulted 0 "required" Reader.truth false
    content := ← r.defaulted 1 "content" (Reader.dict MediaType.read) []
    description := ← r.optional 2 "description" Reader.text }

def Response.read : Reader Response := fun j => do
  let r ← j.record? 2
  return {
    description := ← r.optional 0 "description" Reader.text
    content := ← r.optional 1 "content" (Reader.dict MediaType.read) }

def Operation.read : Reader Operation := fun j => do
  let r ← j.record? 8
  return {
    id := ← r.optional 0 "operationId" Reader.text
    summary := ← r.optional 1 "summary" Reader.text
    description := ← r.optional 2 "description" Reader.text
    tags := ← r.defaulted 3 "tags" (Reader.list Reader.text) []
    parameters := ← r.defaulted 4 "parameters" (Reader.list (Referable.read Parameter.read)) []
    body := ← r.optional 5 "requestBody" (Referable.read RequestBody.read)
    responses := ← r.defaulted 6 "responses" (Reader.dict (Referable.read Response.read)) []
    deprecated := ← r.defaulted 7 "deprecated" Reader.truth false }

def PathItem.read : Reader PathItem := fun j => do
  let r ← j.record? 9
  return {
    get := ← r.optional 0 "get" Operation.read
    put := ← r.optional 1 "put" Operation.read
    post := ← r.optional 2 "post" Operation.read
    delete := ← r.optional 3 "delete" Operation.read
    options := ← r.optional 4 "options" Operation.read
    head := ← r.optional 5 "head" Operation.read
    patch := ← r.optional 6 "patch" Operation.read
    trace := ← r.optional 7 "trace" Operation.read
    parameters := ← r.defaulted 8 "parameters" (Reader.list (Referable.read Parameter.read)) [] }

def Components.read : Reader Components := fun j => do
  let r ← j.record? 1
  return { schemas := ← r.defaulted 0 "schemas" (Reader.dict Schema.read) [] }

def Document.read : Reader Document := fun j => do
  let r ← j.record? 6
  return {
    openapi := ← r.optional 0 "openapi" Reader.text
    swagger := ← r.optional 1 "swagger" Reader.text
    info := ← r.defaulted 2 "info" Info.read {}
    servers := ← r.defaulted 3 "servers" (Reader.list Server.read) []
    paths := ← r.defaulted 4 "paths" (Reader.dict PathItem.read) []
    components := ← r.optional 5 "components" Components.read }

/-- The document in a tree. Its shape is looked at before its version. -/
def Document.ofJson (j : Json) : Except Failure Document :=
  match Document.read j with
  | none => .error (.misshapen "document")
  | some document =>
    match document.swagger with
    | some version => .error (.olderFormat version)
    | none => .ok document

end ClientGen
