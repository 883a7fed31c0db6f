import ClientGen.Text.Quoted
import ClientGen.Text.Words

namespace ClientGen

/-- The views of a schema: all that is common, or what responses or requests see of it. -/
inductive View where
  /-- Properties that are neither read-only nor write-only. -/
  | base
  /-- Responses: no write-only properties. -/
  | read
  /-- Requests: no read-only properties. -/
  | write
  deriving DecidableEq, Repr

def View.suffix : View → String
  | .base => ""
  | .read => "Read"
  | .write => "Write"

namespace Identifier

/-- Words that no binding may be named. -/
def reservedWords : List String := [
  "break", "case", "catch", "class", "const", "continue", "debugger", "default", "delete", "do",
  "else", "enum", "export", "extends", "false", "finally", "for", "function", "if", "import", "in",
  "instanceof", "new", "null", "return", "super", "switch", "this", "throw", "true", "try",
  "typeof", "var", "void", "while", "with", "yield", "let", "static", "implements", "interface",
  "package", "private", "protected", "public", "await"]

/-- May start a bare key. -/
def isStart (c : Char) : Bool := c.isAlpha || c = '_' || c = '$'

def isContinue (c : Char) : Bool := c.isAlphanum || c = '_' || c = '$'

/-- May be written as a property key without quotes. -/
def isBareKey (cs : List Char) : Bool :=
  match cs with
  | [] => false
  | c :: _ => isStart c && cs.all isContinue

/-- May name a binding. -/
def isValid (cs : List Char) : Bool :=
  isBareKey cs && !reservedWords.contains (String.ofList cs)

/-- A property key, in quotes if it needs them. -/
def key (name : String) : String :=
  if isBareKey name.toList then name else Text.quoted name

/-- Mark what is no identifier with a dollar sign. -/
def marked (cs : List Char) : List Char := if isValid cs then cs else '$' :: cs

/-- The identifier for a text: its words in camel case and the suffix of a view, with an upper case
first letter if asked for. -/
def ofText (raw : String) (upperFirst : Bool) (view : View) : String :=
  let joined := Text.camelCase raw.toList ++ view.suffix.toList
  String.ofList (marked (if upperFirst then Text.capitalize joined else joined))

end Identifier

end ClientGen
