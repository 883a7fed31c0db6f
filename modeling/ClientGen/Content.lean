import ClientGen.Document
import ClientGen.Text.Blank

namespace ClientGen

namespace Text

def occursIn (part : List Char) : List Char → Bool
  | [] => part.isEmpty
  | c :: rest => part.isPrefixOf (c :: rest) || occursIn part rest

end Text

inductive BodyEncoding where
  | json
  | form
  | multipart
  deriving DecidableEq, Repr

inductive ResponseFormat where
  | json
  | text
  | blob
  deriving DecidableEq, Repr

namespace Content

def lowerAscii (cs : List Char) : List Char := cs.map Char.toLower

/-- Whether a media type stands for JSON: it mentions JSON, or it is the full wildcard. -/
def isJson (mediaType : String) : Bool :=
  mediaType = "*/*" || Text.occursIn "json".toList (lowerAscii mediaType.toList)

def isText (mediaType : String) : Bool := "text/".toList.isPrefixOf mediaType.toList

/-- Whether a media type has a type and a subtype around its only slash. -/
def isMediaType (mediaType : String) : Bool :=
  match Text.splitAt '/' mediaType.toList with
  | [type, subtype] => !type.isEmpty && !subtype.isEmpty
  | _ => false

/-- A media type in lower case and without its parameters. -/
def essence (mediaType : String) : String :=
  let written := mediaType.toList.takeWhile (· ≠ ';')
  String.ofList (lowerAscii (Text.trim written))

/-- The schema of content that declares none: a text if there is no media type or one of text, else
binary data. -/
def undeclared (content : Dict MediaType) : Schema :=
  if content.isEmpty || content.keys.any isText then .ofType "string"
  else .ofType "string" (some "binary")

/-- The schema of a content map: that of the first media type that declares one. -/
def schema (content : Dict MediaType) : Schema :=
  let declared := content.findSome? fun entry =>
    if isMediaType entry.1 then entry.2.schema else none
  declared.getD (undeclared content)

/-- The encoding of a body with these media types: JSON before forms before multipart forms. -/
def encoding (mediaTypes : List String) : Option BodyEncoding :=
  let essences := (mediaTypes.filter isMediaType).map essence
  if essences.any isJson then some .json
  else if essences.contains "application/x-www-form-urlencoded" then some .form
  else if essences.contains "multipart/form-data" then some .multipart
  else none

/-- The format of responses with these media types: JSON before text before binary data, and text
if there are none. -/
def format (mediaTypes : List String) : ResponseFormat :=
  if mediaTypes.isEmpty then .text
  else if mediaTypes.any isJson then .json
  else if mediaTypes.any isText then .text
  else .blob

end Content

end ClientGen
