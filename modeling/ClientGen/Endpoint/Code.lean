import ClientGen.Endpoint
import ClientGen.Template
import ClientGen.TypeScript.Module

namespace ClientGen

open TypeScript

def BodyEncoding.helper : BodyEncoding → String
  | .json => "runtime.json"
  | .form => "runtime.form"
  | .multipart => "runtime.multipart"

def ResponseFormat.fetcher : ResponseFormat → String
  | .json => "runtime.fetchJson"
  | .text => "runtime.fetchText"
  | .blob => "runtime.fetchBlob"

def Input.value (i : Input) : Expr := .name i.argument

/-- The entry that sends an input under its name. -/
def Input.entry (i : Input) : Entry := .of i.name i.value

def Outcome.type (o : Outcome) : TypeExpr :=
  let status := match o.status with
    | some code => TypeExpr.literal (.int code)
    | none => .keyword .number
  let data := match o.data with
    | some type => [{ name := "data", type }]
    | none => []
  .object ({ name := "status", type := status } :: data) none

/-- Entries by query style, in the order in which the styles first come. -/
abbrev QueryGroups := List (QueryStyle × List Entry)

def QueryGroups.add (style : QueryStyle) (entry : Entry) : QueryGroups → QueryGroups
  | [] => [(style, [entry])]
  | (s, entries) :: rest =>
    if s = style then (s, entries ++ [entry]) :: rest else (s, entries) :: add style entry rest

namespace Endpoint

def params (e : Endpoint) : List Param :=
  let required := e.requiredInputs.map fun i => Param.plain i.argument i.type
  let body := e.body.toList.map fun b => Param.plain b.argument b.type (!b.required)
  let bag := match e.optionalInputs with
    | [] => []
    | inputs =>
      let members : List (Member TypeExpr) := inputs.map fun i =>
        { name := i.argument, type := i.type, optional := true }
      [Param.bag (inputs.map fun i => Binding.mk i.argument none) (.object members none)]
  required ++ body ++ bag ++ [Param.plain "opts" (.named "Runtime.RequestOpts") true]

def queryGroups (e : Endpoint) : QueryGroups :=
  (e.inputsIn .query).foldl (fun groups i => groups.add (i.style.getD .form) i.entry) []

/-- The call that builds the query string, if there are query inputs. -/
def query? (e : Endpoint) : Option Expr :=
  match e.queryGroups with
  | [] => none
  | groups =>
    some (.apply "QS.query" (groups.map fun (style, entries) =>
      .apply ("QS." ++ style.text) [.object entries false]))

def pathValue? (e : Endpoint) (name : String) : Option Expr :=
  ((e.inputsIn .path).find? fun i => i.name = name).map fun i =>
    .apply "encodeURIComponent" [i.value]

def url (e : Endpoint) : Expr :=
  let path := Template.expr e.pathValue? e.path
  match e.query? with
  | none => path
  | some query =>
    let parts := match path with
      | .template parts => parts
      | .literal (.text s) => [.fixed s]
      | other => [.substitution other]
    .template (parts ++ [.substitution query])

/-- The entry that sends the header inputs, if there are any. -/
def headerEntries (e : Endpoint) : List Entry :=
  match e.inputsIn .header with
  | [] => []
  | inputs =>
    [.of "headers" (.apply "runtime.mergeHeaders"
      [.optionalMember (.name "opts") "headers", .object (inputs.map Input.entry) false])]

def request (e : Endpoint) : Expr :=
  let method := if e.method = .get then [] else [Entry.of "method" (.string e.method.verb)]
  let body := e.body.toList.map fun b => Entry.of "body" (.name b.argument)
  let settings :=
    Expr.object ([.spread (.name "opts")] ++ method ++ body ++ e.headerEntries) true
  match e.body.bind (·.encoding) with
  | some encoding => .apply encoding.helper [settings]
  | none => settings

def call (e : Endpoint) : Expr :=
  let types := match e.format with
    | .text => []
    | .json | .blob => [TypeExpr.union (e.outcomes.map Outcome.type)]
  .call (.name e.format.fetcher) types [e.url, e.request]

/-- The function and, if there is an older name, the constant for that. -/
def items (e : Endpoint) (optimistic : Bool) : List Item :=
  let result := if optimistic then .apply "runtime.ok" [e.call] else e.call
  let legacy := e.legacyName.toList.map fun name =>
    Item.constant {
      name
      value := .name e.name
      exported := true
      doc := some ⟨["@deprecated Use \x7b@link " ++ e.name ++ "\x7d instead"]⟩ }
  .function { name := e.name, params := e.params, result, doc := e.doc } :: legacy

end Endpoint

end ClientGen
