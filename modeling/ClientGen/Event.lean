import ClientGen.Document
import ClientGen.Options
import ClientGen.Text.Visible

namespace ClientGen

/-- The levels of reports, the most urgent first. -/
inductive Level where
  | error
  | warn
  | info
  | debug
  | trace
  deriving DecidableEq, Repr

namespace Level

def rank : Level → Nat
  | .error => 0
  | .warn => 1
  | .info => 2
  | .debug => 3
  | .trace => 4

def text : Level → String
  | .error => "ERROR"
  | .warn => "WARN"
  | .info => "INFO"
  | .debug => "DEBUG"
  | .trace => "TRACE"

end Level

inductive Event where
  /-- The options are known; the document is read next. -/
  | started (path : String) (options : Options)
  /-- The document has the expected shape. -/
  | loaded (title : String) (paths : Nat)
  /-- The discriminating components are known. -/
  | indexed (count : Nat)
  /-- An operation is left out for its tags. -/
  | skipped (path : String) (method : Method) (tags : List String)
  /-- The function for an operation is complete. -/
  | assembled (name : String) (method : Method) (path : String)
  /-- A reference has got its names. -/
  | registered (reference base : String) (read write : Option String)
  /-- An enum has been declared. -/
  | enumDeclared (name : String) (members : Nat)
  /-- The client for the document is complete. -/
  | finished (operations types enums : Nat)
  /-- The support code has been written. -/
  | runtimeWritten (directory : String)
  deriving DecidableEq, Repr

def quotedList (texts : List String) : String :=
  "[" ++ ", ".intercalate (texts.map Text.quotedVisibly) ++ "]"

def quotedOption : Option String → String
  | some s => "Some(" ++ Text.quotedVisibly s ++ ")"
  | none => "None"

def truthText (b : Bool) : String := if b then "true" else "false"

def Options.text (o : Options) : String :=
  "GenerateOptions \x7b include: " ++ quotedList o.includeTags ++
    ", exclude: " ++ quotedList o.excludeTags ++
    ", optimistic: " ++ truthText o.optimistic ++
    ", use_enum_type: " ++ truthText o.namedEnums ++
    ", merge_read_write_only: " ++ truthText o.mergeViews ++
    ", use_unknown: " ++ truthText o.useUnknown ++
    ", union_undefined: " ++ truthText o.unionUndefined ++
    ", all_schemas: " ++ truthText o.allSchemas ++
    ", runtime_module: " ++ Text.quotedVisibly o.runtimeModule ++ " \x7d"

namespace Event

def level : Event → Level
  | .started .. | .loaded .. | .skipped .. | .finished .. | .runtimeWritten .. => .debug
  | .indexed .. | .assembled .. | .registered .. | .enumDeclared .. => .trace

/-- The part of the program that an event comes from. -/
def origin : Event → String
  | .started .. | .runtimeWritten .. => "fetchgen::generate"
  | .loaded .. => "fetchgen_core::openapi::emitter"
  | .indexed .. => "fetchgen_core::openapi::ir::discriminator"
  | .skipped .. | .assembled .. => "fetchgen_core::openapi::ir::operation"
  | .registered .. => "fetchgen_core::openapi::ir::schema"
  | .enumDeclared .. => "fetchgen_core::openapi::ir::enums"
  | .finished .. => "fetchgen_core::openapi::ir::context"

def message : Event → String
  | .started path options => "Generating client spec=" ++ path ++ " options=" ++ options.text
  | .loaded title paths => "Generating client title=" ++ title ++ " paths=" ++ toString paths
  | .indexed count => "Indexed discriminating schemas count=" ++ toString count
  | .skipped path method tags =>
    "Skipping operation excluded by tag filter path=" ++ path ++
      " method=" ++ Text.quotedVisibly method.verb ++ " tags=" ++ quotedList tags
  | .assembled name method path =>
    "Normalized operation name=" ++ name ++ " method=" ++ Text.quotedVisibly method.verb ++
      " path=" ++ Text.quotedVisibly path
  | .registered reference base read write =>
    "Registered alias reference=" ++ Text.quotedVisibly reference ++ " alias=" ++ base ++
      " read=" ++ quotedOption read ++ " write=" ++ quotedOption write
  | .enumDeclared name members =>
    "Declared enum name=" ++ name ++ " members=" ++ toString members
  | .finished operations types enums =>
    "Normalized document operations=" ++ toString operations ++ " types=" ++ toString types ++
      " enums=" ++ toString enums
  | .runtimeWritten directory => "Wrote runtime sources dir=" ++ directory

def text (e : Event) : String := e.level.text ++ " " ++ e.origin ++ ": " ++ e.message

end Event

end ClientGen
