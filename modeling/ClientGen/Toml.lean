import ClientGen.Json
import ClientGen.Text.Hex

namespace ClientGen.Toml

/-- A line that is not blank: the header of a table, or an assignment to a key. Values are texts,
truth values, lists and inline tables, read as JSON; no option takes a number or a date. -/
inductive Statement where
  | header (path : List String)
  | assign (path : List String) (value : Json)

def isInlineBlank (c : Char) : Bool := c = ' ' || c = '\t'

def skipInline (cs : List Char) : List Char := cs.dropWhile isInlineBlank

/-- May stand in a comment or in a text. -/
def isTextChar (c : Char) : Bool := c = '\t' || (0x20 ≤ c.toNat && c ≠ '\x7f')

def lineEnd? : List Char → Option (List Char)
  | '\n' :: rest => some rest
  | '\r' :: '\n' :: rest => some rest
  | _ => none

def skipFiller (inComment : Bool) : List Char → List Char
  | [] => []
  | '\n' :: rest => skipFiller false rest
  | '\r' :: '\n' :: rest => skipFiller false rest
  | c :: rest =>
    if inComment then if isTextChar c then skipFiller true rest else c :: rest
    else if c = '#' then skipFiller true rest
    else if isInlineBlank c then skipFiller false rest
    else c :: rest

/-- The text after the rest of a line, which may hold a comment. -/
def finishLine? (cs : List Char) : Option (List Char) :=
  let rest := match skipInline cs with
    | '#' :: comment => comment.dropWhile isTextChar
    | rest => rest
  if rest.isEmpty then some [] else lineEnd? rest

def shortEscape? : Char → Option Char
  | 'b' => some '\x08'
  | 't' => some '\t'
  | 'n' => some '\n'
  | 'f' => some '\x0c'
  | 'r' => some '\r'
  | '"' => some '"'
  | '\\' => some '\\'
  | _ => none

def codePoint? (digits : List Char) : Option Char :=
  (Text.hexNumber? digits).bind fun n => if n.isValidChar then some (Char.ofNat n) else none

def readEscape : List Char → Option (Char × List Char)
  | 'u' :: a :: b :: c :: d :: rest => (codePoint? [a, b, c, d]).map fun x => (x, rest)
  | 'U' :: a :: b :: c :: d :: e :: f :: g :: h :: rest =>
    (codePoint? [a, b, c, d, e, f, g, h]).map fun x => (x, rest)
  | c :: rest => (shortEscape? c).map fun x => (x, rest)
  | [] => none

/-- Read a text in double quotes after the opening one; `acc` holds its characters so far, last
first. -/
def readBasic : Nat → List Char → List Char → Option (String × List Char)
  | 0, _, _ => none
  | fuel + 1, acc, cs =>
    match cs with
    | '"' :: rest => some (String.ofList acc.reverse, rest)
    | '\\' :: rest => (readEscape rest).bind fun (c, rest) => readBasic fuel (c :: acc) rest
    | c :: rest => if isTextChar c then readBasic fuel (c :: acc) rest else none
    | [] => none

def readLiteral (acc : List Char) : List Char → Option (String × List Char)
  | [] => none
  | '\'' :: rest => some (String.ofList acc.reverse, rest)
  | c :: rest => if isTextChar c then readLiteral (c :: acc) rest else none

/-- Close a text after three quotes: up to two more of them are its last characters. -/
def closeLines (quote : Char) (acc cs : List Char) : String × List Char :=
  match cs with
  | c :: d :: rest =>
    if c = quote ∧ d = quote then (String.ofList (quote :: quote :: acc).reverse, rest)
    else if c = quote then (String.ofList (quote :: acc).reverse, d :: rest)
    else (String.ofList acc.reverse, c :: d :: rest)
  | [c] =>
    if c = quote then (String.ofList (quote :: acc).reverse, [])
    else (String.ofList acc.reverse, [c])
  | [] => (String.ofList acc.reverse, [])

def skipLines : List Char → List Char
  | '\n' :: rest => skipLines rest
  | '\r' :: '\n' :: rest => skipLines rest
  | c :: rest => if isInlineBlank c then skipLines rest else c :: rest
  | [] => []

/-- Read a text in three double quotes after the opening ones. A backslash at the end of a line
drops the white space up to the next character. -/
def readBasicLines : Nat → List Char → List Char → Option (String × List Char)
  | 0, _, _ => none
  | fuel + 1, acc, cs =>
    match cs with
    | '"' :: '"' :: '"' :: rest => some (closeLines '"' acc rest)
    | '\\' :: rest =>
      if (lineEnd? (skipInline rest)).isSome then readBasicLines fuel acc (skipLines rest)
      else (readEscape rest).bind fun (c, rest) => readBasicLines fuel (c :: acc) rest
    | '\n' :: rest => readBasicLines fuel ('\n' :: acc) rest
    | '\r' :: '\n' :: rest => readBasicLines fuel ('\n' :: acc) rest
    | c :: rest => if isTextChar c then readBasicLines fuel (c :: acc) rest else none
    | [] => none

def readLiteralLines (acc : List Char) : List Char → Option (String × List Char)
  | [] => none
  | '\'' :: '\'' :: '\'' :: rest => some (closeLines '\'' acc rest)
  | '\n' :: rest => readLiteralLines ('\n' :: acc) rest
  | '\r' :: '\n' :: rest => readLiteralLines ('\n' :: acc) rest
  | c :: rest => if isTextChar c then readLiteralLines (c :: acc) rest else none

def dropLineEnd (cs : List Char) : List Char := (lineEnd? cs).getD cs

def readText? : List Char → Option (String × List Char)
  | '"' :: '"' :: '"' :: rest => readBasicLines (rest.length + 1) [] (dropLineEnd rest)
  | '\'' :: '\'' :: '\'' :: rest => readLiteralLines [] (dropLineEnd rest)
  | '"' :: rest => readBasic (rest.length + 1) [] rest
  | '\'' :: rest => readLiteral [] rest
  | _ => none

/-- May stand in a key without quotes. -/
def isBareChar (c : Char) : Bool := c.isAlphanum || c = '_' || c = '-'

def readKey : List Char → Option (String × List Char)
  | '"' :: rest => readBasic (rest.length + 1) [] rest
  | '\'' :: rest => readLiteral [] rest
  | cs =>
    let key := cs.takeWhile isBareChar
    if key.isEmpty then none else some (String.ofList key, cs.dropWhile isBareChar)

/-- Read keys joined by dots, and the blanks after them. -/
def readPath : Nat → List Char → Option (List String × List Char)
  | 0, _ => none
  | fuel + 1, cs =>
    match readKey cs with
    | none => none
    | some (key, rest) =>
      match skipInline rest with
      | '.' :: rest => (readPath fuel (skipInline rest)).map fun (path, rest) => (key :: path, rest)
      | rest => some ([key], rest)

mutual

def readValue : Nat → List Char → Option (Json × List Char)
  | 0, _ => none
  | fuel + 1, cs =>
    match cs with
    | 't' :: 'r' :: 'u' :: 'e' :: rest => some (.bool true, rest)
    | 'f' :: 'a' :: 'l' :: 's' :: 'e' :: rest => some (.bool false, rest)
    | '[' :: rest => readItems fuel [] (skipFiller false rest)
    | '\x7b' :: rest =>
      match skipInline rest with
      | '\x7d' :: rest => some (.obj [], rest)
      | rest => readFields fuel [] rest
    | cs => (readText? cs).map fun (s, rest) => (.str s, rest)

def readItems : Nat → List Json → List Char → Option (Json × List Char)
  | 0, _, _ => none
  | fuel + 1, acc, cs =>
    match cs with
    | ']' :: rest => some (.arr acc.reverse, rest)
    | cs =>
      match readValue fuel cs with
      | none => none
      | some (item, rest) =>
        match skipFiller false rest with
        | ',' :: rest => readItems fuel (item :: acc) (skipFiller false rest)
        | ']' :: rest => some (.arr (item :: acc).reverse, rest)
        | _ => none

def readFields : Nat → List (String × Json) → List Char → Option (Json × List Char)
  | 0, _, _ => none
  | fuel + 1, acc, cs =>
    match readKey cs with
    | none => none
    | some (key, rest) =>
      match skipInline rest with
      | '=' :: rest =>
        match readValue fuel (skipInline rest) with
        | none => none
        | some (value, rest) =>
          if Dict.has acc key then none
          else
            match skipInline rest with
            | ',' :: rest => readFields fuel (acc ++ [(key, value)]) (skipInline rest)
            | '\x7d' :: rest => some (.obj (acc ++ [(key, value)]), rest)
            | _ => none
      | _ => none

end

def readStatement (cs : List Char) : Option (Statement × List Char) :=
  let fuel := cs.length + 1
  match cs with
  | '[' :: rest =>
    match readPath fuel (skipInline rest) with
    | some (path, ']' :: rest) => (finishLine? rest).map fun rest => (.header path, rest)
    | _ => none
  | cs =>
    match readPath fuel cs with
    | some (path, '=' :: rest) =>
      match readValue fuel (skipInline rest) with
      | some (value, rest) => (finishLine? rest).map fun rest => (.assign path value, rest)
      | none => none
    | _ => none

def readStatements : Nat → List Char → Option (List Statement)
  | 0, _ => none
  | fuel + 1, cs =>
    match skipFiller false cs with
    | [] => some []
    | cs =>
      match readStatement cs with
      | none => none
      | some (statement, rest) => (readStatements fuel rest).map (statement :: ·)

/-- The statements of a text. A byte order mark at its start is passed over. -/
def statements? (s : String) : Option (List Statement) :=
  let cs := match s.toList with
    | '\uFEFF' :: rest => rest
    | cs => cs
  readStatements (cs.length + 1) cs

end ClientGen.Toml
