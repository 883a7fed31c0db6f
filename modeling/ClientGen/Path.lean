import ClientGen.Text.Blank

namespace ClientGen.Path

/-- The names of a path. A path from the root starts with an empty name. -/
def names (path : String) : List String :=
  (Text.splitAt '/' path.toList).map String.ofList

def ofNames (names : List String) : String :=
  if names = [""] then "/" else "/".intercalate names

def isTrivial (name : String) : Bool := name.isEmpty || name = "."

/-- Names without the trivial ones at the end, of which the first one is never dropped. -/
def trimmed : List String → List String
  | [] => []
  | first :: rest => first :: (rest.reverse.dropWhile isTrivial).reverse

/-- The directory of a path: the path without its last name, and empty for a path of one name. -/
def parent? (path : String) : Option String :=
  match trimmed (names path) with
  | [] | [""] => none
  | [_] => some ""
  | several => some (ofNames (trimmed several.dropLast))

def child (directory name : String) : String :=
  if directory.isEmpty then name
  else if directory.toList.getLast? = some '/' then directory ++ name
  else directory ++ "/" ++ name

end ClientGen.Path
