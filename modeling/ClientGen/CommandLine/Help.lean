namespace ClientGen

def versionText : String := "fetchgen 0.1.0\n"

/-- An entry of the help: what is written, and what it means. -/
abbrev HelpEntry := String × String

def helpArguments : List HelpEntry := [
  ("<SPEC_PATH>", "OpenAPI document (JSON or YAML)"),
  ("[OUTPUT_PATH]", "Output file; the module is printed to stdout when omitted")]

def helpFlags : List HelpEntry := [
  ("    --include <TAG>", "Only keep operations with this tag (repeatable)"),
  ("    --exclude <TAG>", "Drop operations with this tag (repeatable)"),
  ("    --optimistic", "Return success payloads directly and throw on other statuses"),
  ("    --useEnumType", "Emit `enum` declarations instead of literal unions"),
  ("    --mergeReadWriteOnly", "One type per schema, ignoring readOnly/writeOnly"),
  ("    --useUnknown", "Use `unknown` instead of `any`"),
  ("    --unionUndefined", "Type optional properties as `T | undefined`"),
  ("    --allSchemas", "Emit every component schema, referenced or not"),
  ("    --runtimeModule <SPECIFIER>", "Module specifier generated code imports the runtime from"),
  ("    --emitRuntime <DIR>", "Also write the runtime sources into this directory"),
  ("    --config <PATH>", "TOML file with a `[generate]` table of options"),
  ("-h, --help", "Print help"),
  ("-V, --version", "Print version")]

def helpTable (entries : List HelpEntry) : String :=
  let width := entries.foldl (fun width entry => max width entry.1.length) 0
  String.join (entries.map fun (written, meaning) =>
    "  " ++ written ++ String.ofList (List.replicate (width - written.length + 2) ' ') ++
      meaning ++ "\n")

def helpText : String :=
  "Generate a typed TypeScript fetch client from an OpenAPI document\n\n" ++
    "Usage: fetchgen [OPTIONS] <SPEC_PATH> [OUTPUT_PATH]\n\n" ++
    "Arguments:\n" ++ helpTable helpArguments ++ "\nOptions:\n" ++ helpTable helpFlags

end ClientGen
