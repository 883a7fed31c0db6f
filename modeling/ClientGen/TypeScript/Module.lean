import ClientGen.TypeScript.Expr

namespace ClientGen.TypeScript

structure Constant where
  name : String
  type : Option TypeExpr := none
  value : Expr
  exported : Bool := false
  doc : Option Doc := none

/-- An exported function that returns the value of an expression. -/
structure Function where
  name : String
  params : List Param
  result : Expr
  doc : Option Doc := none

structure EnumMember where
  name : String
  value : Literal

inductive TypeBody where
  | alias (type : TypeExpr)
  | enum (members : List EnumMember)

structure TypeDecl where
  name : String
  body : TypeBody
  doc : Option Doc := none

inductive Import where
  /-- All of a module under one name. -/
  | all (name source : String)
  /-- Names that are passed on. -/
  | passOn (names : List String) (source : String)
  deriving DecidableEq, Repr

/-- A function, or a constant among the functions. -/
inductive Item where
  | function (f : Function)
  | constant (c : Constant)

structure Module where
  header : Doc
  imports : List Import
  constants : List Constant
  types : List TypeDecl
  items : List Item

def Constant.text (c : Constant) : String :=
  Doc.textOf 0 c.doc ++ (if c.exported then "export " else "") ++ "const " ++ c.name ++
    (match c.type with
      | some type => ": " ++ type.text 0
      | none => "") ++
    " = " ++ c.value.text 0 ++ ";\n"

def Function.text (f : Function) : String :=
  Doc.textOf 0 f.doc ++ "export function " ++ f.name ++
    "(" ++ ", ".intercalate (Param.texts 0 f.params) ++ ") \x7b\n" ++
    indentation 1 ++ "return " ++ f.result.text 1 ++ ";\n\x7d\n"

def EnumMember.text (m : EnumMember) : String :=
  indentation 1 ++ Identifier.key m.name ++ " = " ++ m.value.render ++ ",\n"

def TypeDecl.text (d : TypeDecl) : String :=
  Doc.textOf 0 d.doc ++
    match d.body with
    | .alias type => "export type " ++ d.name ++ " = " ++ type.text 0 ++ ";\n"
    | .enum members =>
      "export enum " ++ d.name ++ " \x7b\n" ++ String.join (members.map EnumMember.text) ++ "\x7d\n"

def Import.text : Import → String
  | .all name source => "import * as " ++ name ++ " from " ++ Text.quoted source ++ ";\n"
  | .passOn names source =>
    "export \x7b " ++ ", ".intercalate names ++ " \x7d from " ++ Text.quoted source ++ ";\n"

def Item.text : Item → String
  | .function f => f.text
  | .constant c => c.text

def spaced (texts : List String) : String := String.join (texts.map (· ++ "\n"))

/-- The text of a module, which ends with one line feed. -/
def Module.text (m : Module) : String :=
  let whole := m.header.text 0 ++ spaced [String.join (m.imports.map Import.text)] ++
    spaced (m.constants.map Constant.text) ++ spaced (m.types.map TypeDecl.text) ++
    spaced (m.items.map Item.text)
  String.ofList (Text.trimEnd whole.toList) ++ "\n"

end ClientGen.TypeScript
