namespace ClientGen

/-- What keeps a discriminator from giving a tagged union. -/
inductive DiscriminatorFault where
  | noPropertyName
  | inlineVariant
  deriving DecidableEq, Repr

/-- What keeps the content of a parameter from being a query value. -/
inductive ContentFault where
  | empty
  | several (count : Nat)
  | notJson (mediaType : String)
  deriving DecidableEq, Repr

inductive Failure where
  /-- The text is neither JSON nor YAML. -/
  | malformedText
  /-- The document is of the older format, which is not read. -/
  | olderFormat (version : String)
  /-- The value at a place, a reference or the document as a whole, has not the expected shape. -/
  | misshapen (place : String)
  /-- A reference leads out of the document. -/
  | externalReference (reference : String)
  /-- A reference leads to no value; the path holds its decoded segments. -/
  | danglingReference (path : List String)
  | badDiscriminator (schema : String) (fault : DiscriminatorFault)
  | badContent (parameter : String) (fault : ContentFault)
  /-- The names given for the members of an enum are not as many as its values. -/
  | memberNameCount (enumName : String) (expected found : Nat)
  /-- The statement that holds the default base URL is missing. -/
  | noDefaults
  /-- Discriminating schemas inline each other without end. -/
  | endless
  deriving DecidableEq, Repr

def DiscriminatorFault.message : DiscriminatorFault → String
  | .noPropertyName => "discriminator has no propertyName"
  | .inlineVariant => "every oneOf variant must be a $ref"

def ContentFault.message : ContentFault → String
  | .empty => "content map is empty"
  | .several count => "expected one content type, found " ++ toString count
  | .notJson mediaType => "content type " ++ mediaType ++ " is not JSON"

def Failure.message : Failure → String
  | .malformedText => "Failed to parse OpenAPI document"
  | .olderFormat version =>
    "Unsupported document version " ++ version ++
      ": convert Swagger 2 documents to OpenAPI 3 before generating"
  | .misshapen place => "Invalid OpenAPI document at " ++ place
  | .externalReference reference =>
    "External refs are not supported (" ++ reference ++
      "); bundle the document into a single file first"
  | .danglingReference path => "Can't find " ++ ".".intercalate path
  | .badDiscriminator schema fault =>
    "Invalid discriminator usage in " ++ schema ++ ": " ++ fault.message
  | .badContent parameter fault => "Parameter " ++ parameter ++ ": " ++ fault.message
  | .memberNameCount enumName expected found =>
    "Enum " ++ enumName ++ ": expected " ++ toString expected ++ " member names, found " ++
      toString found
  | .noDefaults => "Module stub is missing the `defaults` literal with a `baseUrl` entry"
  | .endless => "Discriminating schemas inline each other without end"

end ClientGen
