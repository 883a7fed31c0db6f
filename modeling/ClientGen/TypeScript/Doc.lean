import ClientGen.Text.Blank

namespace ClientGen.TypeScript

def indentation (level : Nat) : String := String.ofList (List.replicate (2 * level) ' ')

structure Doc where
  lines : List String
  deriving DecidableEq, Repr

namespace Doc

/-- The doc comment for free text, unless it is blank. -/
def ofText? (text : String) : Option Doc :=
  let lines := (Text.lines (Text.trim text.toList)).map Text.trimEnd
  if lines.all List.isEmpty then none else some ⟨lines.map String.ofList⟩

/-- The doc comment of something with a description that may be deprecated. -/
def ofParts? (description : Option String) (deprecated : Bool) : Option Doc :=
  let described := ((description.bind ofText?).map lines).getD []
  let lines := if deprecated then described ++ ["@deprecated"] else described
  if lines.isEmpty then none else some ⟨lines⟩

/-- Keep a text from ending the comment that it stands in. -/
def guarded : List Char → List Char
  | [] => []
  | '*' :: '/' :: rest => '*' :: '\\' :: '/' :: guarded rest
  | c :: rest => c :: guarded rest

def lineText (level : Nat) (line : String) : String :=
  if line.isEmpty then indentation level ++ " *\n"
  else indentation level ++ " * " ++ String.ofList (guarded line.toList) ++ "\n"

def text (level : Nat) (d : Doc) : String :=
  indentation level ++ "/**\n" ++ String.join (d.lines.map (lineText level)) ++
    indentation level ++ " */\n"

def textOf (level : Nat) : Option Doc → String
  | some d => d.text level
  | none => ""

end Doc

end ClientGen.TypeScript
