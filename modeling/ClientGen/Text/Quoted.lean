namespace ClientGen.Text

def quotedForm (c : Char) : List Char :=
  match c with
  | '\\' => ['\\', '\\']
  | '"' => ['\\', '"']
  | '\n' => ['\\', 'n']
  | '\r' => ['\\', 'r']
  | '\t' => ['\\', 't']
  | c => [c]

def escapeQuoted (cs : List Char) : List Char := cs.flatMap quotedForm

/-- The static part of a template literal that denotes a text: a backslash, a backtick and the
opening of a substitution are escaped. -/
def escapeTemplate : List Char → List Char
  | [] => []
  | '$' :: '\x7b' :: rest => '\\' :: '$' :: '\x7b' :: escapeTemplate rest
  | c :: rest =>
    if c = '\\' ∨ c = '`' then '\\' :: c :: escapeTemplate rest else c :: escapeTemplate rest

def quoted (s : String) : String :=
  String.ofList ('"' :: escapeQuoted s.toList ++ ['"'])

end ClientGen.Text
