import ClientGen.Document
import ClientGen.Failure
import ClientGen.Json.Printer
import ClientGen.NameTable
import ClientGen.Template
import ClientGen.TypeScript.Module

namespace ClientGen

namespace Text

/-- Replace a text inside another, after `skip` characters. -/
def replaceAfter (old new : List Char) : Nat → List Char → List Char
  | _, [] => []
  | skip + 1, _ :: rest => replaceAfter old new skip rest
  | 0, c :: rest =>
    if old.isPrefixOf (c :: rest) then new ++ replaceAfter old new (old.length - 1) rest
    else c :: replaceAfter old new 0 rest

/-- Replace every occurrence of a nonempty text inside another, from left to right. -/
def replaceAll (old new cs : List Char) : List Char := replaceAfter old new 0 cs

end Text

open TypeScript (Binding Constant Entry Expr Keyword Literal Member Param TypeExpr)

namespace ServerVariable

def defaultText (v : ServerVariable) : String :=
  match v.default with
  | .str s => s
  | other => other.text

def type (v : ServerVariable) : TypeExpr :=
  match v.values with
  | some values => .ofValues values
  | none => .union [.keyword .string, .keyword .number]

end ServerVariable

def fillDefault (url : List Char) (entry : String × ServerVariable) : List Char :=
  Text.replaceAll ('\x7b' :: entry.1.toList ++ ['\x7d']) entry.2.defaultText.toList url

/-- The URL of a server with the defaults of its variables filled in, one after the other. -/
def Server.defaultUrl (s : Server) : String :=
  String.ofList (s.urlVariables.foldl fillDefault s.url.toList)

/-- The URL that requests go to by default: that of the first server. -/
def defaultBaseUrl : List Server → String
  | [] => "/"
  | server :: _ => server.defaultUrl

def variableArgument (name : String) : String := Identifier.ofText name false .base

def Server.urlFunction (s : Server) : Expr :=
  let bindings := s.urlVariables.map fun (name, v) =>
    Binding.mk (variableArgument name) ((Literal.ofJson? v.default).map .literal)
  let members : List (Member TypeExpr) := s.urlVariables.map fun (name, v) =>
    { name := variableArgument name, type := v.type, optional := true }
  let resolve (name : String) : Option Expr :=
    if s.urlVariables.has name then some (.name (variableArgument name)) else none
  .arrow [.bag bindings (.object members none)] (Template.expr resolve s.url)

/-- The value that stands for a server: its URL, or a function if that has variables. -/
def Server.value (s : Server) : Expr :=
  if s.urlVariables.isEmpty then .string s.url else s.urlFunction

/-- The key proposed for the server at a place: its description, or its number. -/
def Server.proposedKey (s : Server) (place : Nat) : String :=
  match s.description with
  | some description => Identifier.ofText description false .base
  | none => "server" ++ toString (place + 1)

def serverEntries (keys : FunctionNames) (place : Nat) : List Server → List Entry
  | [] => []
  | server :: rest =>
    let (key, keys) := keys.unique (server.proposedKey place)
    .field key server.value :: serverEntries keys (place + 1) rest

/-- The constants of a module with these servers; the base URL is still to be set. -/
def moduleConstants (servers : List Server) : List Constant := [
  { name := "servers", value := .object (serverEntries {} 0 servers) true, exported := true },
  { name := "defaults"
    type := some (.named "Runtime.Defaults<Runtime.CustomHeaders>")
    value := .object [.field "headers" .emptyObject, .field "baseUrl" (.string "/")] true
    exported := true },
  { name := "runtime", value := .apply "Runtime.runtime" [.name "defaults"] }]

def setField? (key : String) (value : Expr) : List Entry → Option (List Entry)
  | [] => none
  | .field k v :: rest =>
    if k = key then some (.field k value :: rest)
    else (setField? key value rest).map (.field k v :: ·)
  | entry :: rest => (setField? key value rest).map (entry :: ·)

def setBaseUrlIn? (url : String) (c : Constant) : Option Constant :=
  if c.name = "defaults" then
    match c.value with
    | .object entries multiline =>
      (setField? "baseUrl" (.string url) entries).map fun entries =>
        { c with value := .object entries multiline }
    | _ => none
  else none

/-- Set the default base URL in the first constant that holds it. -/
def setBaseUrl (url : String) : List Constant → Except Failure (List Constant)
  | [] => .error .noDefaults
  | c :: rest =>
    match setBaseUrlIn? url c with
    | some c => .ok (c :: rest)
    | none => (setBaseUrl url rest).map (c :: ·)

end ClientGen
