import ClientGen.Document
import ClientGen.Reference

namespace ClientGen

/-- What is known of a discriminating component: one with a discriminator that is no choice among
variants itself. Its subtypes are the components that name it in a branch. -/
structure Discriminating where
  /-- The property that holds the tag. -/
  property : Option String := none
  /-- References to subtypes by tag, those of the document first. -/
  mapping : Dict String := []
  deriving DecidableEq, Repr

/-- The first tag under which a reference is mapped. -/
def Discriminating.tag? (d : Discriminating) (reference : String) : Option String :=
  (d.mapping.find? fun entry => entry.2 = reference).map Prod.fst

/-- Map a subtype under its name, unless it has a tag or the tag is taken. -/
def Discriminating.adopt (d : Discriminating) (name : String) : Discriminating :=
  let reference := Reference.ofComponent name
  if d.mapping.values.contains reference || d.mapping.has name then d
  else { d with mapping := d.mapping.put name reference }

/-- The discriminating components by reference. -/
abbrev Discriminators := Dict Discriminating

namespace Discriminators

/-- What the document itself says of a component, if it is discriminating. -/
def declared? (s : Schema) : Option Discriminating :=
  match s.discriminator, s.oneOf, s.anyOf with
  | some d, none, none => some { property := d.propertyName, mapping := d.mapping.getD [] }
  | _, _, _ => none

def declared (schemas : Dict Schema) : Discriminators :=
  schemas.foldl (fun index entry =>
    match declared? entry.2 with
    | some d => index.put (Reference.ofComponent entry.1) d
    | none => index) []

/-- Let a component that a branch refers to adopt the one with the branch. -/
def adoptBranch (name : String) (index : Discriminators) (branch : Schema) : Discriminators :=
  match branch.reference with
  | none => index
  | some parent =>
    match index.get? parent with
    | none => index
    | some d => index.put parent (d.adopt name)

/-- The discriminating components with their mappings completed. -/
def ofSchemas (schemas : Dict Schema) : Discriminators :=
  schemas.foldl (fun index entry => (entry.2.allOf.getD []).foldl (adoptBranch entry.1) index)
    (declared schemas)

def ofDocument (d : Document) : Discriminators :=
  match d.components with
  | some components => ofSchemas components.schemas
  | none => []

end Discriminators

end ClientGen
