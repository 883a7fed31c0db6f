import ClientGen.NamedEnum
import ClientGen.ViewFlags

namespace ClientGen

open TypeScript (Doc Member TypeExpr)

/-- Where a schema stands. -/
structure Place where
  view : View := .base
  /-- The name of the property or parameter that the schema belongs to. -/
  name : Option String := none
  /-- The reference whose schema this is. -/
  component : Option String := none
  deriving DecidableEq, Repr

/-- A typing: the type of a schema at its place. -/
abbrev Typing := Place → Schema → Run TypeExpr

namespace Setting

def namedType (c : Setting) (name : String) : TypeExpr :=
  match name with
  | "integer" | "number" => .keyword .number
  | "string" => .keyword .string
  | "boolean" => .keyword .boolean
  | "null" => .keyword .null
  | "object" => .object [] (some c.anyType)
  | "array" => .array c.anyType
  | _ => c.anyType

def primitiveType (c : Setting) : Option TypeNames → TypeExpr
  | none => c.anyType
  | some (.single name) => c.namedType name
  | some (.several names) => .union (names.map c.namedType)

/-- The union of the members of a schema's enum, declared under a name if there is one for it. -/
def enumType (c : Setting) (place : Place) (s : Schema) (values : List Json) : Run TypeExpr :=
  match place.name with
  | some name => if c.namesEnum s then NamedEnum.declare s name else return .ofValues values
  | none => return .ofValues values

/-- The flags that decide which views of a reference have names of their own. -/
def namingFlags (c : Setting) (reference : String) : Run ViewFlags :=
  if c.options.mergeViews then pure {} else c.flagsOf reference

def takeOwnName (name : String) (view : View) (own : Bool) : Run (Option String) :=
  if own then some <$> Run.takeAlias (Identifier.ofText name true view) else pure none

/-- Take the names of a reference and register them. -/
def takeNames (c : Setting) (reference name : String) : Run ViewNames := do
  let base ← Run.takeAlias (Identifier.ofText name true .base)
  let flags ← c.namingFlags reference
  let read ← takeOwnName name .read flags.readOnly
  let write ← takeOwnName name .write flags.writeOnly
  Run.report (.registered reference base read write)
  let names : ViewNames := { base, read, write }
  Run.register reference names
  return names

def declareView (typing : Typing) (reference : String) (s : Schema)
    (view : View × String) : Run Unit := do
  let type ← typing { view := view.1, component := some reference } s
  Run.declareType { name := view.2, body := .alias type, doc := s.description.bind Doc.ofText? }

/-- The type of a reference. At its first use its names are taken, before its schema is entered, and
then each of its views is declared. So a recursive schema becomes a type that refers to itself. -/
def referenceType (c : Setting) (typing : Typing) (view : View) (reference : String) :
    Run TypeExpr := do
  match (← get).references.get? reference with
  | some names => return .named (names.name view)
  | none =>
    let s ← c.schema reference
    let name := Reference.stableName reference
    if c.namesEnum s then NamedEnum.declare s name
    else
      let names ← c.takeNames reference name
      names.views.forM (declareView typing reference s)
      return .named (names.name view)

def typesOf (typing : Typing) (view : View) (schemas : List Schema) :
    Run (List TypeExpr) :=
  schemas.mapM (typing { view })

def memberOf (c : Setting) (typing : Typing) (view : View) (s : Schema)
    (property : String × Schema) : Run (Member TypeExpr) := do
  let (name, part) := property
  let optional := !s.requires name
  let type ← typing { view, name := some name } part
  return {
    name
    type := if optional && c.options.unionUndefined then type.orKeyword .undefined else type
    optional
    doc := Doc.ofParts? part.description (part.deprecated = some true) }

/-- The properties that an object has in a view, without the one to skip. -/
def propertiesOf (c : Setting) (view : View) (skip : Option String) (s : Schema) :
    List (String × Schema) :=
  (s.properties.getD []).filter fun property =>
    skip ≠ some property.1 && c.keeps view property.2

/-- The type of the members that an object may have besides. -/
def indexOf (c : Setting) (typing : Typing) (view : View) (s : Schema) :
    Run (Option TypeExpr) :=
  match s.additional with
  | some (.allowed true) => return some c.anyType
  | some (.like part) => some <$> typing { view } part
  | some (.allowed false) | none => return none

def objectType (c : Setting) (typing : Typing) (view : View) (skip : Option String)
    (s : Schema) : Run TypeExpr := do
  let members ← (c.propertiesOf view skip s).mapM (c.memberOf typing view s)
  let index ← c.indexOf typing view s
  return .object members index

/-- A variant of a tagged union: its tag and its type. The tag is the one mapped to its reference,
or the last segment of the reference. -/
def taggedVariant (typing : Typing) (view : View) (d : Discriminator)
    (property label : String) (variant : Schema) : Run TypeExpr := do
  match variant.reference with
  | none => throw (.badDiscriminator label .inlineVariant)
  | some reference =>
    let mapped := (d.mapping.getD []).find? fun entry => entry.2 = reference
    let tag := (mapped.map Prod.fst).getD (Reference.baseName reference)
    let type ← typing { view } variant
    return .intersection [.tag property tag, type]

def taggedUnion (typing : Typing) (place : Place) (d : Discriminator)
    (variants : List Schema) : Run TypeExpr := do
  let label := (place.component.or place.name).getD "inline schema"
  match d.propertyName with
  | none => throw (.badDiscriminator label .noPropertyName)
  | some property =>
    return .union (← variants.mapM (taggedVariant typing place.view d property label))

/-- The references to the subtypes of a schema with a discriminator, by the completed mapping if it
is that of a component. -/
def subtypes (c : Setting) (place : Place) (d : Discriminator) : List String :=
  match place.component.bind c.discriminators.get? with
  | some known => known.mapping.values
  | none => Dict.values (d.mapping.getD [])

/-- The union of the subtypes of a schema. Without any it has the type that it would have
without a discriminator. -/
def subtypeUnion (c : Setting) (typing : Typing) (place : Place) (d : Discriminator)
    (s : Schema) : Run TypeExpr := do
  match c.subtypes place d with
  | [] => typing place { s with discriminator := none, nullable := none }
  | targets => return .union (← targets.mapM (c.referenceType typing place.view))

/-- The types of a branch of an intersection. A branch that refers to a discriminating component
gives the tag of the component at this place and the properties of the other one without the tag. -/
def branchTypes (c : Setting) (typing : Typing) (place : Place) (branch : Schema) :
    Run (List TypeExpr) := do
  match branch.reference.bind fun r => (c.discriminators.get? r).map fun d => (r, d) with
  | none => return [← typing { view := place.view } branch]
  | some (reference, parent) =>
    let s ← c.schema reference
    let tag := match parent.property, place.component.bind parent.tag? with
      | some property, some tag => [TypeExpr.tag property tag]
      | _, _ => []
    let type ← c.objectType typing place.view parent.property s
    return tag ++ [type]

def intersectionType (c : Setting) (typing : Typing) (place : Place)
    (branches : List Schema) (s : Schema) : Run TypeExpr := do
  let types ← branches.mapM (c.branchTypes typing place)
  let own ← if s.properties.isSome then
      List.singleton <$> c.objectType typing place.view none s
    else pure []
  return .intersection (types.flatten ++ own)

/-- The type of a schema by its kind, null apart. -/
def kindType (c : Setting) (typing : Typing) (place : Place) (s : Schema) : Run TypeExpr := do
  match s.kind with
  | .reference target => c.referenceType typing place.view target
  | .oneOf variants (some d) => taggedUnion typing place d variants
  | .oneOf variants none => return .union (← typesOf typing place.view variants)
  | .anyOf variants => return .union (← typesOf typing place.view variants)
  | .discriminated d => c.subtypeUnion typing place d s
  | .allOf branches => c.intersectionType typing place branches s
  | .array items => return .array (← typing { view := place.view, name := place.name } items)
  | .tuple items => return .tuple (← typesOf typing place.view items)
  | .object => c.objectType typing place.view none s
  | .enum values => c.enumType place s values
  | .binary => return .named "Blob"
  | .const value => return ((TypeScript.Literal.ofJson? value).map TypeExpr.literal).getD c.anyType
  | .primitive types => return c.primitiveType types

/-- One step of the typing: the type of a schema, with null if it is nullable. -/
def typingStep (c : Setting) (typing : Typing) : Typing := fun place s => do
  let type ← c.kindType typing place s
  return if s.isNullable then type.orKeyword .null else type

/-- The typing that goes at most `fuel` schemas deep. -/
def typingWithin (c : Setting) : Nat → Typing
  | 0 => fun _ _ => throw .endless
  | fuel + 1 => c.typingStep (c.typingWithin fuel)

/-- How deep a typing goes at most: each reference is entered once, between two references each
discriminating component is inlined once, and between two of those lies a part of a tree, where a
schema may be entered once more without its discriminator. -/
def depth (c : Setting) : Nat := 4 * (c.size + 2).pow 3

def typing (c : Setting) : Typing := c.typingWithin c.depth

def typeOf (c : Setting) (place : Place) : Option Schema → Run TypeExpr
  | some s => c.typing place s
  | none => return c.anyType

/-- Declare all component schemas, in the order of the document. -/
def typeComponents (c : Setting) (schemas : Dict Schema) : Run Unit :=
  schemas.keys.forM fun name => do
    let _ ← c.referenceType c.typing .base (Reference.ofComponent name)

end Setting

end ClientGen
