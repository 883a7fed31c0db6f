import ClientGen.Schema

namespace ClientGen

/-- A value that may also be given by a reference. -/
inductive Referable (α : Type) where
  | reference (target : String)
  | inline (value : α)

/-- What the heading of the module says. -/
structure Info where
  title : String := ""
  version : String := ""
  description : Option String := none
  deriving DecidableEq, Repr

structure ServerVariable where
  default : Json := .null
  values : Option (List Json) := none

/-- A server: a URL in which names in braces stand for variables. -/
structure Server where
  url : String
  description : Option String := none
  urlVariables : Dict ServerVariable := []

structure MediaType where
  schema : Option Schema := none

inductive Location where
  | path
  | query
  | header
  | cookie
  deriving DecidableEq, Repr

structure Parameter where
  name : String
  location : Location
  required : Bool := false
  schema : Option Schema := none
  content : Option (Dict MediaType) := none
  style : Option String := none
  explode : Option Bool := none
  description : Option String := none

structure RequestBody where
  required : Bool := false
  content : Dict MediaType := []
  description : Option String := none

structure Response where
  description : Option String := none
  content : Option (Dict MediaType) := none

structure Operation where
  id : Option String := none
  summary : Option String := none
  description : Option String := none
  tags : List String := []
  parameters : List (Referable Parameter) := []
  body : Option (Referable RequestBody) := none
  responses : Dict (Referable Response) := []
  deprecated : Bool := false

inductive Method where
  | get
  | put
  | post
  | delete
  | options
  | head
  | patch
  | trace
  deriving DecidableEq, Repr

structure PathItem where
  get : Option Operation := none
  put : Option Operation := none
  post : Option Operation := none
  delete : Option Operation := none
  options : Option Operation := none
  head : Option Operation := none
  patch : Option Operation := none
  trace : Option Operation := none
  parameters : List (Referable Parameter) := []

structure Components where
  schemas : Dict Schema := []

structure Document where
  openapi : Option String := none
  swagger : Option String := none
  info : Info := {}
  servers : List Server := []
  paths : Dict PathItem := []
  components : Option Components := none

def Location.text : Location → String
  | .path => "path"
  | .query => "query"
  | .header => "header"
  | .cookie => "cookie"

/-- All methods, in the order in which the operations of a path are visited. -/
def Method.all : List Method := [.get, .put, .post, .delete, .options, .head, .patch, .trace]

def Method.text : Method → String
  | .get => "get"
  | .put => "put"
  | .post => "post"
  | .delete => "delete"
  | .options => "options"
  | .head => "head"
  | .patch => "patch"
  | .trace => "trace"

def Method.verb : Method → String
  | .get => "GET"
  | .put => "PUT"
  | .post => "POST"
  | .delete => "DELETE"
  | .options => "OPTIONS"
  | .head => "HEAD"
  | .patch => "PATCH"
  | .trace => "TRACE"

def PathItem.operation? (item : PathItem) : Method → Option Operation
  | .get => item.get
  | .put => item.put
  | .post => item.post
  | .delete => item.delete
  | .options => item.options
  | .head => item.head
  | .patch => item.patch
  | .trace => item.trace

def PathItem.operations (item : PathItem) : List (Method × Operation) :=
  Method.all.filterMap fun method => (item.operation? method).map fun op => (method, op)

end ClientGen
