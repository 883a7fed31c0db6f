import ClientGen.Identifier
import ClientGen.Text.Blank

namespace ClientGen.OperationName

/-- The identifier made of the words of an id, without digits at its start. -/
def ofWords? (id : String) : Option String :=
  let name := (Text.camelCase id.toList).dropWhile Char.isDigit
  if Identifier.isValid name then some (String.ofList name) else none

def replacePlaceholder (word : List Char) (path : List Char) : List Char :=
  let before := path.takeWhile (· ≠ '\x7b')
  match path.dropWhile (· ≠ '\x7b') with
  | [] => path
  | _ :: rest =>
    let name := rest.takeWhile (· ≠ '\x7d')
    match rest.dropWhile (· ≠ '\x7d') with
    | [] => path
    | _ :: after =>
      if name.isEmpty then path else before ++ word ++ ' ' :: name ++ after

/-- The name made of verb and path; the first two placeholders are joined by `by` and `and`. -/
def ofPath (verb path : String) : String :=
  let path := replacePlaceholder "by".toList path.toList
  let path := replacePlaceholder "and".toList path
  Identifier.ofText (verb ++ " " ++ String.ofList path) false .base

/-- May occur in an id that the older rule reads. -/
def isPlain (c : Char) : Bool :=
  c.isAlphanum || c = '_' || Text.isBlank c || c = '.' || c = ':' || c = '-'

/-- The name by the older rule, which reads the id only if it has plain characters only, and
otherwise takes verb and path. -/
def legacy (verb path : String) (id : Option String) : String :=
  let fromId := id.bind fun id => if id.toList.all isPlain then ofWords? id else none
  fromId.getD (ofPath verb path)

def primary (verb path : String) (id : Option String) : String :=
  (id.bind ofWords?).getD (legacy verb path id)

/-- The name by the older rule, if it is another one. -/
def legacy? (verb path : String) (id : Option String) : Option String :=
  let old := legacy verb path id
  if primary verb path id = old then none else some old

end ClientGen.OperationName
