import ClientGen.Query
import ClientGen.TypeScript.TypeExpr

namespace ClientGen

open TypeScript (Doc TypeExpr)

structure Input where
  /-- The name under which it is sent. -/
  name : String
  argument : String
  location : Location
  required : Bool
  type : TypeExpr
  style : Option QueryStyle := none

structure Payload where
  argument : String
  type : TypeExpr
  required : Bool
  /-- Without an encoding the body is sent as it is. -/
  encoding : Option BodyEncoding

/-- A response that a function may give back. -/
structure Outcome where
  /-- The status, unless it stands for several. -/
  status : Option Int
  /-- The type of the data, if there are any. -/
  data : Option TypeExpr

structure Endpoint where
  name : String
  /-- The name by the older rule, if it is another one. -/
  legacyName : Option String
  method : Method
  path : String
  doc : Option Doc
  inputs : List Input
  body : Option Payload
  format : ResponseFormat
  outcomes : List Outcome

namespace Endpoint

def requiredInputs (e : Endpoint) : List Input := e.inputs.filter (·.required)

def optionalInputs (e : Endpoint) : List Input := e.inputs.filter (!·.required)

def inputsIn (e : Endpoint) (location : Location) : List Input :=
  e.inputs.filter (·.location = location)

end Endpoint

end ClientGen
