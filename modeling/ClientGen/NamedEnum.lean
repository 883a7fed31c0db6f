import ClientGen.Json.Printer
import ClientGen.Session

namespace ClientGen

open TypeScript (Doc EnumMember Literal TypeDecl TypeExpr)

namespace NamedEnum

def isNameChar (c : Char) : Bool := c.isAlphanum || c = '$' || c = '_'

def pieces : List Char → List (List Char)
  | [] => [[]]
  | c :: rest =>
    match pieces rest with
    | piece :: more => if isNameChar c then (c :: piece) :: more else [] :: piece :: more
    | [] => [[c]]

/-- The name of an enum: the pieces of a text, each with its first letter in upper case. -/
def typeName (raw : String) : String :=
  String.ofList (Identifier.marked ((pieces raw.toList).flatMap Text.capitalize))

/-- The text that a member is named after, if a value makes a member. -/
def basis? : Literal → Option String
  | .text s => some s
  | .int n => some (toString n)
  | .number x => some (Decimal.plain.text x)
  | .truth _ | .null => none

/-- The values that make members, each with the text that its member is named after: the name given
for it, or its own text. -/
def entries : List Json → List String → List (String × Literal)
  | [], _ => []
  | value :: rest, given =>
    match (Literal.ofJson? value).bind fun literal =>
      (basis? literal).map fun b => (b, literal) with
    | some (basis, literal) => (given.head?.getD basis, literal) :: entries rest given.tail
    | none => entries rest given.tail

def members (names : AliasNames) : List (String × Literal) → List EnumMember
  | [] => []
  | (basis, value) :: rest =>
    let (name, names) := names.unique (Identifier.ofText basis true .base)
    ⟨name, value⟩ :: members names rest

end NamedEnum

/-- Whether a schema that stands under a name becomes a declared enum. -/
def Setting.namesEnum (c : Setting) (s : Schema) : Bool :=
  c.options.namedEnums && s.values.isSome && !s.hasType "boolean"

/-- The type of a declared enum, which is declared at its first use. -/
def NamedEnum.declare (s : Schema) (name : String) : Run TypeExpr := do
  let values := s.values.getD []
  let proposed := typeName (s.title.getD name)
  let given := s.memberNames?.getD []
  if s.memberNames?.isSome && given.length ≠ values.length then
    throw (.memberNameCount proposed values.length given.length)
  match ← Run.takeEnum proposed (Json.text (.arr values)) with
  | .reused name => return .named name
  | .fresh name =>
    let members := members {} (entries values given)
    Run.report (.enumDeclared name members.length)
    Run.declareEnum { name, body := .enum members, doc := s.description.bind Doc.ofText? }
    return .named name

end ClientGen
