import ClientGen.TypeScript.Expr

namespace ClientGen.Template

open TypeScript (Expr Part)

/-- A character of a text with placeholders, or a placeholder, which begins at an opening brace and
ends at the nearest closing one. -/
inductive Piece where
  | char (c : Char)
  | placeholder (name : List Char)
  deriving DecidableEq, Repr

/-- The pieces of a text; `opened` holds what was read after an opening brace, last first. -/
def scanFrom : Option (List Char) → List Char → List Piece
  | none, [] => []
  | some opened, [] => .char '\x7b' :: opened.reverse.map .char
  | none, c :: rest =>
    if c = '\x7b' then scanFrom (some []) rest else .char c :: scanFrom none rest
  | some opened, c :: rest =>
    if c = '\x7d' then .placeholder opened.reverse :: scanFrom none rest
    else scanFrom (some (c :: opened)) rest

def scan (cs : List Char) : List Piece := scanFrom none cs

def Piece.written : Piece → List Char
  | .char c => [c]
  | .placeholder name => '\x7b' :: name ++ ['\x7d']

def prepend (text : List Char) : List Part → List Part
  | .fixed more :: parts => .fixed (String.ofList text ++ more) :: parts
  | parts => .fixed (String.ofList text) :: parts

def parts (resolve : String → Option Expr) : List Piece → List Part
  | [] => []
  | .char c :: rest => prepend [c] (parts resolve rest)
  | .placeholder name :: rest =>
    match resolve (String.ofList name) with
    | some e => .substitution e :: parts resolve rest
    | none => prepend (Piece.placeholder name).written (parts resolve rest)

/-- The expression for parts: a string literal if nothing is substituted. -/
def ofParts : List Part → Expr
  | [] => .string ""
  | [.fixed text] => .string text
  | parts => .template parts

def expr (resolve : String → Option Expr) (source : String) : Expr :=
  ofParts (parts resolve (scan source.toList))

end ClientGen.Template
