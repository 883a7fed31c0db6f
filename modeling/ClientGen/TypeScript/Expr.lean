import ClientGen.TypeScript.TypeExpr

namespace ClientGen.TypeScript

mutual

inductive Expr where
  /-- A name, perhaps with dots. -/
  | name (text : String)
  | literal (value : Literal)
  | call (callee : Expr) (types : List TypeExpr) (arguments : List Expr)
  /-- A function whose body is an expression. -/
  | arrow (params : List Param) (body : Expr)
  | object (entries : List Entry) (multiline : Bool)
  /-- A member of an object that may be absent. -/
  | optionalMember (object : Expr) (member : String)
  | template (parts : List Part)

inductive Entry where
  | field (key : String) (value : Expr)
  /-- A field whose value is the name that is its key. -/
  | shorthand (name : String)
  | spread (value : Expr)

inductive Part where
  | fixed (text : String)
  | substitution (value : Expr)

inductive Param where
  | mk (pattern : Pattern) (type : Option TypeExpr) (optional : Bool) (default : Option Expr)

/-- What a parameter binds: one name, or members of an object. -/
inductive Pattern where
  | name (text : String)
  | members (bindings : List Binding)

inductive Binding where
  | mk (name : String) (default : Option Expr)

end

namespace Expr

instance : Inhabited Expr := ⟨.name ""⟩

def string (s : String) : Expr := .literal (.text s)

def apply (callee : String) (arguments : List Expr) : Expr := .call (.name callee) [] arguments

def emptyObject : Expr := .object [] false

end Expr

/-- The entry of a key, in its short form if the value is the name that is the key. -/
def Entry.of (key : String) (value : Expr) : Entry :=
  match value with
  | .name text => if text = key then .shorthand text else .field key value
  | _ => .field key value

def Param.plain (name : String) (type : TypeExpr) (optional : Bool := false) : Param :=
  .mk (.name name) (some type) optional none

/-- A parameter that binds members of an object, which is empty by default. -/
def Param.bag (bindings : List Binding) (type : TypeExpr) : Param :=
  .mk (.members bindings) (some type) false (some .emptyObject)

mutual

def Expr.text (level : Nat) : Expr → String
  | .name text => text
  | .literal value => value.render
  | .call callee types arguments =>
    callee.text level ++
      (if types.isEmpty then "" else "<" ++ ", ".intercalate (TypeExpr.texts level types) ++ ">") ++
      "(" ++ ", ".intercalate (Expr.texts level arguments) ++ ")"
  | .arrow params body =>
    "(" ++ ", ".intercalate (Param.texts level params) ++ ") => " ++ body.text level
  | .object entries multiline =>
    if entries.isEmpty then "\x7b\x7d"
    else if multiline then
      "\x7b\n" ++ Entry.lines (level + 1) entries ++ indentation level ++ "\x7d"
    else "\x7b " ++ ", ".intercalate (Entry.texts level entries) ++ " \x7d"
  | .optionalMember object member => object.text level ++ "?." ++ member
  | .template parts => "`" ++ Part.texts level parts ++ "`"

def Expr.texts (level : Nat) : List Expr → List String
  | [] => []
  | e :: rest => e.text level :: Expr.texts level rest

def Entry.text (level : Nat) : Entry → String
  | .field key value => Identifier.key key ++ ": " ++ value.text level
  | .shorthand name => name
  | .spread value => "..." ++ value.text level

def Entry.texts (level : Nat) : List Entry → List String
  | [] => []
  | entry :: rest => entry.text level :: Entry.texts level rest

def Entry.lines (level : Nat) : List Entry → String
  | [] => ""
  | entry :: rest => indentation level ++ entry.text level ++ ",\n" ++ Entry.lines level rest

def Part.text (level : Nat) : Part → String
  | .fixed text => String.ofList (Text.escapeTemplate text.toList)
  | .substitution value => "$\x7b" ++ value.text level ++ "\x7d"

def Part.texts (level : Nat) : List Part → String
  | [] => ""
  | part :: rest => part.text level ++ Part.texts level rest

def Param.text (level : Nat) : Param → String
  | .mk pattern type optional default =>
    pattern.text level ++ (if optional then "?" else "") ++
      (match type with
        | some type => ": " ++ type.text level
        | none => "") ++
      Expr.defaultText level default

def Param.texts (level : Nat) : List Param → List String
  | [] => []
  | param :: rest => param.text level :: Param.texts level rest

def Pattern.text (level : Nat) : Pattern → String
  | .name text => text
  | .members bindings => "\x7b " ++ ", ".intercalate (Binding.texts level bindings) ++ " \x7d"

def Binding.text (level : Nat) : Binding → String
  | .mk name default => name ++ Expr.defaultText level default

def Binding.texts (level : Nat) : List Binding → List String
  | [] => []
  | binding :: rest => binding.text level :: Binding.texts level rest

def Expr.defaultText (level : Nat) : Option Expr → String
  | some e => " = " ++ e.text level
  | none => ""

end

end ClientGen.TypeScript
