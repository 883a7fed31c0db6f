import ClientGen.Endpoint
import ClientGen.OperationName
import ClientGen.Typing

namespace ClientGen

open TypeScript (Doc)

namespace Parameter

/-- Whether two parameters have the same name and location. -/
def sameKey (p q : Parameter) : Bool := p.name = q.name && p.location = q.location

/-- Put a parameter in the place of the first one with its key, or at the end. -/
def override (p : Parameter) : List Parameter → List Parameter
  | [] => [p]
  | q :: rest => if q.sameKey p then p :: rest else q :: override p rest

def overrideAll (shared own : List Parameter) : List Parameter :=
  own.foldl (fun merged p => p.override merged) shared

/-- The argument for a parameter: if its identifier is taken, with the location after it. -/
def argument (p : Parameter) (taken : List String) : String :=
  let name := Identifier.ofText p.name false .base
  if taken.contains name then
    name ++ String.ofList (Text.capitalize p.location.text.toList)
  else name

def argumentsInTurn (taken : List String) : List (Parameter × Nat) → List (Nat × String)
  | [] => []
  | (p, i) :: rest =>
    let name := p.argument taken
    (i, name) :: argumentsInTurn (name :: taken) rest

/-- The arguments for parameters. Those with shorter names are named first. -/
def arguments (parameters : List Parameter) : List String :=
  let order := parameters.zipIdx.mergeSort fun p q => p.1.name.length ≤ q.1.name.length
  let named := argumentsInTurn [] order
  (List.range parameters.length).map fun i => (named.lookup i).getD ""

/-- The schema of a parameter: that of its first content, if it has a content map. -/
def schemaOf? (p : Parameter) : Option Schema :=
  match p.content with
  | some content => content.head?.bind fun entry => entry.2.schema
  | none => p.schema

end Parameter

/-- The number that a status key stands for: decimal digits, perhaps with a sign, of a number that
64 bits hold. -/
def status? (key : String) : Option Int :=
  let (negative, digits) := match key.toList with
    | '-' :: rest => (true, rest)
    | '+' :: rest => (false, rest)
    | cs => (false, cs)
  if digits.isEmpty || !digits.all Char.isDigit then none
  else
    let n : Nat := digits.foldl (fun n d => n * 10 + (d.toNat - '0'.toNat)) 0
    let value : Int := if negative then -n else n
    if -Int.pow 2 63 ≤ value ∧ value < Int.pow 2 63 then some value else none

namespace Setting

/-- The parameters of an operation with those that it shares with others of its path. -/
def parametersOf (c : Setting) (item : PathItem) (op : Operation) :
    Except Failure (List Parameter) := do
  let shared ← item.parameters.mapM (Referable.resolve c.document Parameter.read)
  let own ← op.parameters.mapM (Referable.resolve c.document Parameter.read)
  return Parameter.overrideAll shared own

def inputOf (c : Setting) (p : Parameter) (argument : String) : Run Input := do
  let type ← c.typeOf { view := .write, name := some p.name } p.schemaOf?
  let style ← if p.location = .query then some <$> QueryStyle.ofParameter p else pure none
  return {
    name := p.name
    argument
    location := p.location
    required := p.required || p.location = .path
    type
    style }

/-- The argument for a body: named after its type, if its schema is a reference. -/
def bodyArgument (s : Schema) : Run String := do
  match s.reference with
  | some reference =>
    let name := match (← get).references.get? reference with
      | some names => names.base
      | none => Reference.stableName reference
    return Identifier.ofText name false .base
  | none => return "body"

def payloadOf (c : Setting) (inputs : List Input) (body : RequestBody) : Run Payload := do
  let s := Content.schema body.content
  let type ← c.typeOf { view := .write } (some s)
  let argument ← bodyArgument s
  return {
    argument := if inputs.any (·.argument = argument) then argument ++ "Body" else argument
    type
    required := body.required
    encoding := Content.encoding body.content.keys }

def outcomeOf (c : Setting) (entry : String × Referable Response) :
    Run (Outcome × List String) := do
  let response ← entry.2.resolve c.document Response.read
  let status := status? entry.1
  match response.content with
  | some content =>
    let data ← c.typeOf { view := .read } (some (Content.schema content))
    return ({ status, data := some data }, content.keys)
  | none => return ({ status, data := none }, [])

/-- The function for an operation of a path. What it sends has types of the write view, what it
gives back types of the read view. -/
def endpointOf (c : Setting) (path : String) (item : PathItem) (method : Method) (op : Operation) :
    Run Endpoint := do
  let name ← Run.takeFunction (OperationName.primary method.text path op.id)
  let legacyName ← (OperationName.legacy? method.text path op.id).mapM Run.takeFunction
  let parameters ← c.parametersOf item op
  let inputs ← (parameters.zip (Parameter.arguments parameters)).mapM fun (p, argument) =>
    c.inputOf p argument
  let body ← op.body.mapM fun body => do
    c.payloadOf inputs (← body.resolve c.document RequestBody.read)
  let outcomes ← op.responses.mapM c.outcomeOf
  Run.report (.assembled name method path)
  return {
    name
    legacyName
    method
    path
    doc := Doc.ofParts? (op.summary.or op.description) op.deprecated
    inputs
    body
    format := Content.format (outcomes.flatMap Prod.snd)
    outcomes := outcomes.map Prod.fst }

/-- The function for an operation, unless its tags leave it out. -/
def keptEndpoint (c : Setting) (path : String) (item : PathItem)
    (operation : Method × Operation) : Run (Option Endpoint) := do
  let (method, op) := operation
  if c.options.keeps op.tags then some <$> c.endpointOf path item method op
  else
    Run.report (.skipped path method op.tags)
    return none

def endpointsOf (c : Setting) (entry : String × PathItem) : Run (List Endpoint) :=
  return (← entry.2.operations.mapM (c.keptEndpoint entry.1 entry.2)).filterMap id

end Setting

end ClientGen
