import ClientGen.Json.Reader
import ClientGen.Text.Blank
import ClientGen.Yaml.Node

namespace ClientGen

/-- Read the text of a document. It is JSON if its first character that is not white space is an
opening brace, and YAML otherwise. -/
def Json.ofSource? (text : String) : Option Json :=
  match Text.trimStart text.toList with
  | '\x7b' :: _ => Json.ofText? text
  | _ => (Yaml.ofText? text).bind Yaml.toJson?

end ClientGen
