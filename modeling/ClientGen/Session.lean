import ClientGen.Discriminators
import ClientGen.Document.Resolve
import ClientGen.Event
import ClientGen.NameTable
import ClientGen.TypeScript.Module

namespace ClientGen

open TypeScript (TypeDecl TypeExpr)

/-- Whether something is read-only in part, and write-only in part. -/
structure ViewFlags where
  readOnly : Bool := false
  writeOnly : Bool := false
  deriving DecidableEq, Repr

namespace ViewFlags

/-- Whether there is nothing more to find. -/
def both (f : ViewFlags) : Bool := f.readOnly && f.writeOnly

def merge (f g : ViewFlags) : ViewFlags := ⟨f.readOnly || g.readOnly, f.writeOnly || g.writeOnly⟩

end ViewFlags

/-- The type names of a reference. A view that does not differ from the base has no name. -/
structure ViewNames where
  base : String
  read : Option String := none
  write : Option String := none
  deriving DecidableEq, Repr

namespace ViewNames

def own? (names : ViewNames) : View → Option String
  | .base => some names.base
  | .read => names.read
  | .write => names.write

def name (names : ViewNames) (view : View) : String := (names.own? view).getD names.base

/-- The views with a type of their own, in the order in which they are declared. -/
def views (names : ViewNames) : List (View × String) :=
  [View.base, .read, .write].filterMap fun view => (names.own? view).map fun n => (view, n)

end ViewNames

/-- What stays the same during a run. -/
structure Setting where
  document : Json
  options : Options := {}
  discriminators : Discriminators := []
  /-- How many values the trees hold that schemas are read from. -/
  size : Nat

/-- What a run has named and declared so far. -/
structure Session where
  aliases : AliasNames := {}
  enumNames : EnumNames := {}
  functions : FunctionNames := {}
  references : Dict ViewNames := []
  /-- The flags by reference that are known. -/
  flags : Dict ViewFlags := []
  types : List TypeDecl := []
  enums : List TypeDecl := []
  events : List Event := []

abbrev Run := ExceptT Failure (StateM Session)

namespace Run

def report (e : Event) : Run Unit := modify fun s => { s with events := s.events ++ [e] }

def takeAlias (name : String) : Run String :=
  modifyGet fun s =>
    let (found, aliases) := s.aliases.unique name
    (found, { s with aliases })

def takeFunction (name : String) : Run String :=
  modifyGet fun s =>
    let (found, functions) := s.functions.unique name
    (found, { s with functions })

def takeEnum (name values : String) : Run EnumName :=
  modifyGet fun s =>
    let (found, enumNames, aliases) := s.enumNames.nameFor name values s.aliases
    (found, { s with enumNames, aliases })

def declareType (d : TypeDecl) : Run Unit := modify fun s => { s with types := s.types ++ [d] }

def declareEnum (d : TypeDecl) : Run Unit := modify fun s => { s with enums := s.enums ++ [d] }

def register (reference : String) (names : ViewNames) : Run Unit :=
  modify fun s => { s with references := s.references.put reference names }

def rememberFlags (reference : String) (flags : ViewFlags) : Run Unit :=
  modify fun s => { s with flags := s.flags.put reference flags }

end Run

namespace Setting

def ofDocument (tree : Json) (document : Document) (options : Options) : Setting where
  document := tree
  options := options
  discriminators := Discriminators.ofDocument document
  size := tree.size

/-- The setting for schemas of one more tree. -/
def withTree (c : Setting) (tree : Json) : Setting := { c with size := c.size + tree.size }

def schema (c : Setting) (reference : String) : Except Failure Schema :=
  Reference.resolve c.document Schema.read reference

def anyType (c : Setting) : TypeExpr := .keyword (if c.options.useUnknown then .unknown else .any)

end Setting

def Session.start (c : Setting) (document : Document) : Session :=
  { events := if document.components.isSome then [.indexed c.discriminators.length] else [] }

end ClientGen
