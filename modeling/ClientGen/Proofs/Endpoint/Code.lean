import ClientGen.Endpoint.Code

namespace ClientGen

open TypeScript

namespace TypeScript

namespace Expr

def name? : Expr → Option String
  | .name text => some text
  | _ => none

end Expr

def Entry.field? : Entry → Option (String × Expr)
  | .field key value => some (key, value)
  | .shorthand name => some (name, .name name)
  | .spread _ => none

def Expr.fields : Expr → List (String × Expr)
  | .object entries _ => entries.filterMap Entry.field?
  | _ => []

mutual

/-- The expressions in an expression, itself included, names of called functions apart. -/
def Expr.inside : Expr → List Expr
  | .name text => [.name text]
  | .literal value => [.literal value]
  | .call callee types arguments =>
    .call callee types arguments ::
      ((if callee.name?.isSome then [] else callee.inside) ++ Expr.insideAll arguments)
  | .arrow params body => .arrow params body :: (Param.insideAll params ++ body.inside)
  | .object entries multiline => .object entries multiline :: Entry.insideAll entries
  | .optionalMember object member => .optionalMember object member :: object.inside
  | .template parts => .template parts :: Part.insideAll parts

def Expr.insideAll : List Expr → List Expr
  | [] => []
  | e :: rest => e.inside ++ Expr.insideAll rest

def Expr.insideOption : Option Expr → List Expr
  | none => []
  | some e => e.inside

def Entry.inside : Entry → List Expr
  | .field _ value => value.inside
  | .shorthand name => [.name name]
  | .spread value => value.inside

def Entry.insideAll : List Entry → List Expr
  | [] => []
  | entry :: rest => entry.inside ++ Entry.insideAll rest

def Part.inside : Part → List Expr
  | .fixed _ => []
  | .substitution value => value.inside

def Part.insideAll : List Part → List Expr
  | [] => []
  | part :: rest => part.inside ++ Part.insideAll rest

def Param.inside : Param → List Expr
  | .mk pattern _ _ default => pattern.inside ++ Expr.insideOption default

def Param.insideAll : List Param → List Expr
  | [] => []
  | param :: rest => param.inside ++ Param.insideAll rest

def Pattern.inside : Pattern → List Expr
  | .name _ => []
  | .members bindings => Binding.insideAll bindings

def Binding.inside : Binding → List Expr
  | .mk _ default => Expr.insideOption default

def Binding.insideAll : List Binding → List Expr
  | [] => []
  | binding :: rest => binding.inside ++ Binding.insideAll rest

end

/-- The names that an expression reads. -/
def Expr.reads (e : Expr) : List String := e.inside.filterMap Expr.name?

/-- What a call of some function is given, or the fields themselves. -/
def Expr.settings : Expr → List (String × Expr)
  | .call _ _ [settings] => settings.fields
  | settings => settings.fields

def Param.pattern : Param → Pattern
  | .mk pattern _ _ _ => pattern

def Pattern.bound : Pattern → List String
  | .name text => [text]
  | .members bindings => bindings.map fun | .mk text _ => text

/-- The names that the parameters of a function bind. -/
def Function.bound (f : Function) : List String := f.params.flatMap fun p => p.pattern.bound

end TypeScript

namespace Template

variable {resolve : String → Option Expr}

end Template

end ClientGen
