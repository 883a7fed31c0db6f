import ClientGen.Decimal.Layout
import ClientGen.Identifier
import ClientGen.Json
import ClientGen.TypeScript.Doc

namespace ClientGen.TypeScript

inductive Literal where
  | text (value : String)
  | int (value : Int)
  | number (value : Float)
  | truth (value : Bool)
  | null

namespace Literal

/-- The literal for a scalar. An integer that 64 bits with a sign cannot hold is a float. -/
def ofJson? : Json → Option Literal
  | .null => some .null
  | .bool b => some (.truth b)
  | .int n =>
    if -Int.pow 2 63 ≤ n ∧ n < Int.pow 2 63 then some (.int n)
    else some (.number (UInt64.ofNat n.toNat).toFloat)
  | .float x => some (.number x)
  | .str s => some (.text s)
  | .arr _ | .obj _ => none

def render : Literal → String
  | .text s => Text.quoted s
  | .int n => toString n
  | .number x => Decimal.plain.text x
  | .truth true => "true"
  | .truth false => "false"
  | .null => "null"

end Literal

inductive Keyword where
  | string
  | number
  | boolean
  | null
  | undefined
  | any
  | unknown
  deriving DecidableEq, Repr

def Keyword.text : Keyword → String
  | .string => "string"
  | .number => "number"
  | .boolean => "boolean"
  | .null => "null"
  | .undefined => "undefined"
  | .any => "any"
  | .unknown => "unknown"

structure Member (τ : Type) where
  name : String
  type : τ
  optional : Bool := false
  doc : Option Doc := none

/-- Types. A union or intersection of one member is that member, an empty union is `never` and an
empty intersection `unknown`. -/
inductive TypeExpr where
  | keyword (word : Keyword)
  | array (item : TypeExpr)
  | tuple (items : List TypeExpr)
  | union (members : List TypeExpr)
  | intersection (parts : List TypeExpr)
  /-- An object type, perhaps with an index signature. -/
  | object (members : List (Member TypeExpr)) (index : Option TypeExpr)
  | literal (value : Literal)
  | named (name : String)

namespace TypeExpr

instance : Inhabited TypeExpr := ⟨.keyword .any⟩

def tag (property value : String) : TypeExpr :=
  .object [{ name := property, type := .literal (.text value) }] none

/-- The union of the scalars among some values. -/
def ofValues (values : List Json) : TypeExpr :=
  .union ((values.filterMap Literal.ofJson?).map .literal)

def isKeyword (word : Keyword) : TypeExpr → Bool
  | .keyword other => other = word
  | _ => false

/-- Add a keyword to a type as a member of a union, unless it is there. -/
def orKeyword (word : Keyword) : TypeExpr → TypeExpr
  | .union members =>
    .union (if members.any (isKeyword word) then members else members ++ [.keyword word])
  | type => if type.isKeyword word then type else .union [type, .keyword word]

def isWideUnion : TypeExpr → Bool
  | .union members => 1 < members.length
  | _ => false

def isCompound : TypeExpr → Bool
  | .union members => 1 < members.length
  | .intersection parts => 1 < parts.length
  | _ => false

def grouped (inParentheses : Bool) (s : String) : String :=
  if inParentheses then "(" ++ s ++ ")" else s

mutual

/-- The text of a type that starts at a level. `[]` binds tighter than `&`, and `&` tighter than
`|`, so parentheses stand where the tree groups otherwise. -/
def text (level : Nat) : TypeExpr → String
  | .keyword word => word.text
  | .array item => grouped item.isCompound (text level item) ++ "[]"
  | .tuple items => "[" ++ ", ".intercalate (texts level items) ++ "]"
  | .union members =>
    if members.isEmpty then "never" else " | ".intercalate (texts level members)
  | .intersection parts =>
    match parts with
    | [] => "unknown"
    | [part] => text level part
    | first :: second :: rest => " & ".intercalate (operands level (first :: second :: rest))
  | .object members index =>
    if members.isEmpty && index.isNone then "\x7b\x7d"
    else
      "\x7b\n" ++ memberTexts (level + 1) members ++ indexText (level + 1) index ++
        indentation level ++ "\x7d"
  | .literal value => value.render
  | .named name => name

def texts (level : Nat) : List TypeExpr → List String
  | [] => []
  | type :: rest => text level type :: texts level rest

def operands (level : Nat) : List TypeExpr → List String
  | [] => []
  | type :: rest => grouped type.isWideUnion (text level type) :: operands level rest

def memberText (level : Nat) : Member TypeExpr → String
  | ⟨name, type, optional, doc⟩ =>
    Doc.textOf level doc ++ indentation level ++ Identifier.key name ++
      (if optional then "?: " else ": ") ++ text level type ++ ";\n"

def memberTexts (level : Nat) : List (Member TypeExpr) → String
  | [] => ""
  | member :: rest => memberText level member ++ memberTexts level rest

def indexText (level : Nat) : Option TypeExpr → String
  | none => ""
  | some type => indentation level ++ "[key: string]: " ++ text level type ++ ";\n"

end

end TypeExpr

end ClientGen.TypeScript
