import ClientGen.Content
import ClientGen.Failure
import ClientGen.Json.Printer
import ClientGen.Text.Percent

namespace ClientGen

inductive QueryStyle where
  /-- Items joined by commas. -/
  | form
  /-- One piece for each item. -/
  | explode
  /-- One piece for each leaf, its path in brackets. -/
  | deep
  /-- Items joined by encoded spaces. -/
  | space
  /-- Items joined by bars. -/
  | pipe
  /-- The JSON text of the value. -/
  | json
  deriving DecidableEq, Repr

def QueryStyle.text : QueryStyle → String
  | .form => "form"
  | .explode => "explode"
  | .deep => "deep"
  | .space => "space"
  | .pipe => "pipe"
  | .json => "json"

/-- The style of a query parameter with a content map, which must hold one JSON media type. -/
def QueryStyle.ofContent (name : String) (content : Dict MediaType) : Except Failure QueryStyle :=
  match content with
  | [] => .error (.badContent name .empty)
  | [(mediaType, _)] =>
    if Content.isJson mediaType then .ok .json else .error (.badContent name (.notJson mediaType))
  | several => .error (.badContent name (.several several.length))

/-- The style of a query parameter. A parameter is exploded unless it says otherwise, and then only
the deep style is told apart. -/
def QueryStyle.ofParameter (p : Parameter) : Except Failure QueryStyle :=
  match p.content with
  | some content => ofContent p.name content
  | none =>
    if p.explode.getD true then
      .ok (if p.style = some "deepObject" then .deep else .explode)
    else if p.style = some "spaceDelimited" then .ok .space
    else if p.style = some "pipeDelimited" then .ok .pipe
    else .ok .form

namespace Query

def component (s : String) : String := String.ofList (Text.Percent.encode s.toList)

/-- The text of an item: a string itself, of any other value the JSON text. -/
def itemText : Json → String
  | .str s => s
  | v => v.text

def piece (name : String) (value : Json) : String := name ++ "=" ++ component (itemText value)

def join (pieces : List String) : String := "&".intercalate pieces

/-- The members of an object that are not null. -/
def defined (fields : Dict Json) : Dict Json := fields.filter fun field => !field.2.isNull

/-- The encoded items of a value: those of an array, or names and values of an object in turn. -/
def items : Json → List String
  | .arr values => values.map fun v => component (itemText v)
  | .obj fields =>
    (defined fields).flatMap fun field => [component field.1, component (itemText field.2)]
  | v => [component (itemText v)]

def delimited (delimiter name : String) (value : Json) : String :=
  component name ++ "=" ++ delimiter.intercalate (items value)

mutual

/-- A value in the exploded style. The members of an object stand under their own names. -/
def exploded (name : String) : Json → String
  | .arr values => join (values.map (piece (component name)))
  | .obj fields => join (explodedFields fields)
  | v => piece (component name) v

def explodedFields : List (String × Json) → List String
  | [] => []
  | field :: rest =>
    if field.2.isNull then explodedFields rest
    else exploded field.1 field.2 :: explodedFields rest

end

mutual

/-- A value in the deep style under an encoded key. -/
def deep (key : String) : Json → String
  | .arr values => join (values.map (piece key))
  | .obj fields => join (deepFields key fields)
  | v => piece key v

def deepFields (key : String) : List (String × Json) → List String
  | [] => []
  | field :: rest =>
    if field.2.isNull then deepFields key rest
    else deep (key ++ "[" ++ component field.1 ++ "]") field.2 :: deepFields key rest

end

def encodeOne (style : QueryStyle) (name : String) (value : Json) : String :=
  match style with
  | .form => delimited "," name value
  | .explode => exploded name value
  | .deep => deep (component name) value
  | .space => delimited "%20" name value
  | .pipe => delimited "|" name value
  | .json => component name ++ "=" ++ component value.text

/-- The fragment for named values in a style. Null stands for an absent value. -/
def fragment (style : QueryStyle) (values : List (String × Json)) : String :=
  let parts := (defined values).map fun entry => encodeOne style entry.1 entry.2
  join (parts.filter fun part => !part.isEmpty)

/-- The query string of fragments, with its question mark unless it is empty. -/
def text (fragments : List String) : String :=
  let joined := join (fragments.filter fun fragment => !fragment.isEmpty)
  if joined.isEmpty then "" else "?" ++ joined

end Query

end ClientGen
