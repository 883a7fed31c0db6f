import ClientGen.Json

namespace ClientGen

/-- The property by which the alternatives of a polymorphic schema are told apart. -/
structure Discriminator where
  propertyName : Option String
  /-- References by the tag that stands for them. -/
  mapping : Option (Dict String)
  deriving DecidableEq, Repr

inductive TypeNames where
  | single (name : String)
  | several (names : List String)
  deriving DecidableEq, Repr

/-- What properties a schema allows besides those that it names. -/
inductive Additional (σ : Type) where
  | allowed (answer : Bool)
  | like (schema : σ)

structure Schema where
  reference : Option String := none
  types : Option TypeNames := none
  format : Option String := none
  title : Option String := none
  description : Option String := none
  properties : Option (List (String × Schema)) := none
  required : Option (List String) := none
  additional : Option (Additional Schema) := none
  items : Option Schema := none
  tupleItems : Option (List Schema) := none
  values : Option (List Json) := none
  constant : Option Json := none
  oneOf : Option (List Schema) := none
  anyOf : Option (List Schema) := none
  allOf : Option (List Schema) := none
  discriminator : Option Discriminator := none
  nullable : Option Bool := none
  readOnly : Option Bool := none
  writeOnly : Option Bool := none
  deprecated : Option Bool := none
  enumNames : Option (List String) := none
  enumVarNames : Option (List String) := none

def TypeNames.includes : TypeNames → String → Bool
  | .single declared, name => declared = name
  | .several declared, name => declared.contains name

namespace Schema

instance : Inhabited Schema := ⟨{}⟩

def ofReference (reference : String) : Schema := { reference := some reference }

def ofType (name : String) (format : Option String := none) : Schema :=
  { types := some (.single name), format }

def isNullable (s : Schema) : Bool := s.nullable.getD false

def requires (s : Schema) (property : String) : Bool :=
  (s.required.getD []).contains property

/-- Names for the members of an enum: of the two keywords for them the first one present. -/
def memberNames? (s : Schema) : Option (List String) := s.enumNames.or s.enumVarNames

def hasType (s : Schema) (name : String) : Bool := s.types.any (·.includes name)

/-- The kinds of schemas, by which they have types: of the keywords that decide the kind, the first
present one in a fixed order counts. -/
inductive Kind where
  | reference (target : String)
  | oneOf (variants : List Schema) (discriminator : Option Discriminator)
  | anyOf (variants : List Schema)
  | discriminated (discriminator : Discriminator)
  | allOf (branches : List Schema)
  | array (items : Schema)
  | tuple (items : List Schema)
  | object
  | enum (values : List Json)
  | binary
  | const (value : Json)
  | primitive (types : Option TypeNames)

/-- The case of a schema that has none of the composing keywords. -/
def plainKind (s : Schema) : Kind :=
  if s.properties.isSome || s.additional.isSome then .object
  else match s.values with
    | some values => .enum values
    | none =>
      if s.format = some "binary" then .binary
      else match s.constant with
        | some value => .const value
        | none => .primitive s.types

def kind (s : Schema) : Kind :=
  match s.reference, s.oneOf, s.anyOf, s.discriminator, s.allOf, s.items, s.tupleItems with
  | some target, _, _, _, _, _, _ => .reference target
  | none, some variants, _, discriminator, _, _, _ => .oneOf variants discriminator
  | none, none, some variants, _, _, _, _ => .anyOf variants
  | none, none, none, some discriminator, _, _, _ => .discriminated discriminator
  | none, none, none, none, some branches, _, _ => .allOf branches
  | none, none, none, none, none, some items, _ => .array items
  | none, none, none, none, none, none, some items => .tuple items
  | none, none, none, none, none, none, none => s.plainKind

end Schema

end ClientGen
