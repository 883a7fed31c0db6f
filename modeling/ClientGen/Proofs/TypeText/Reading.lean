import ClientGen.TypeScript.TypeExpr

namespace ClientGen.TypeScript

/-- What a field of an object type stands for: a property with its key as it is written, or all
other properties. -/
inductive FieldName where
  | property (key : String) (optional : Bool)
  | index
  deriving DecidableEq

/-- A type as it is read. A union or intersection has several members, and none of them is of the
same kind. -/
inductive Reading where
  | word (text : String)
  | array (item : Reading)
  | tuple (items : List Reading)
  | union (members : List Reading)
  | intersection (parts : List Reading)
  | object (fields : List (FieldName × Reading))

namespace Reading

def members : Reading → List Reading
  | .union members => members
  | r => [r]

def parts : Reading → List Reading
  | .intersection parts => parts
  | r => [r]

/-- The union of types. Unions among them are flattened, and one member alone is the union. -/
def ofMembers (rs : List Reading) : Reading :=
  match rs.flatMap members with
  | [] => .word "never"
  | [r] => r
  | members => .union members

/-- The intersection of types. Intersections among them are flattened, and one part alone is the
intersection. -/
def ofParts (rs : List Reading) : Reading :=
  match rs.flatMap parts with
  | [] => .word "unknown"
  | [r] => r
  | parts => .intersection parts

def ofRows (rows : List (List Reading)) : Reading := ofMembers (rows.map ofParts)

end Reading

namespace Reader

/-- A word, which may be a quoted text, or a mark between words. -/
inductive Token where
  | word (text : String)
  | mark (c : Char)
  deriving DecidableEq

def delimiters : List Char := [
  ' ', '\n', '"', '/', '(', ')', '[', ']', '\x7b', '\x7d', '|', '&', ',', ';', ':', '?']

def isDelimiter (c : Char) : Bool := delimiters.contains c

/-- What the reader is in the middle of, with the characters before, the last one first. -/
inductive Mode where
  | plain
  | word (before : List Char)
  | quoted (before : List Char)
  /-- After a backslash in a quoted text. -/
  | escaped (before : List Char)
  | slash
  | comment
  /-- After a star in a comment. -/
  | star

def start (c : Char) : List Token × Mode :=
  if c = ' ' ∨ c = '\n' then ([], .plain)
  else if c = '"' then ([], .quoted [c])
  else if c = '/' then ([], .slash)
  else if isDelimiter c then ([.mark c], .plain)
  else ([], .word [c])

/-- The tokens that end with a character, and what goes on after it. -/
def step (c : Char) : Mode → List Token × Mode
  | .plain => start c
  | .word before =>
    if isDelimiter c then (.word (String.ofList before.reverse) :: (start c).1, (start c).2)
    else ([], .word (c :: before))
  | .quoted before =>
    if c = '"' then ([.word (String.ofList (c :: before).reverse)], .plain)
    else if c = '\\' then ([], .escaped (c :: before))
    else ([], .quoted (c :: before))
  | .escaped before => ([], .quoted (c :: before))
  | .slash => if c = '*' then ([], .comment) else (.mark '/' :: (start c).1, (start c).2)
  | .comment => ([], if c = '*' then .star else .comment)
  | .star => ([], if c = '/' then .plain else if c = '*' then .star else .comment)

/-- The tokens at the end of a text. A mark that no type has stands for what is not complete. -/
def final : Mode → List Token
  | .plain => []
  | .word before => [.word (String.ofList before.reverse)]
  | _ => [.mark '/']

def tokens (mode : Mode) : List Char → List Token
  | [] => final mode
  | c :: rest => (step c mode).1 ++ tokens (step c mode).2 rest

/-- What stands between two brackets, once the brackets inside are read. -/
inductive Item where
  | word (text : String)
  | mark (c : Char)
  | type (r : Reading)
  /-- Types in square brackets. -/
  | squares (items : List Reading)
  /-- The name of an index signature in square brackets. -/
  | index

def Item.isMark (c : Char) : Item → Bool
  | .mark d => d = c
  | _ => false

def operand? : Item → Option Reading
  | .word text => some (.word text)
  | .type r => some r
  | .squares items => some (.tuple items)
  | .mark _ | .index => none

def arrayOf? (r : Reading) : Item → Option Reading
  | .squares [] => some (.array r)
  | _ => none

def readPart : List Item → Option Reading
  | [] => none
  | first :: rest => (operand? first).bind fun r => rest.foldlM arrayOf? r

def readParts (items : List Item) : Option (List Reading) :=
  (items.splitOnP (Item.isMark '&')).mapM readPart

def readRows (items : List Item) : Option (List (List Reading)) :=
  (items.splitOnP (Item.isMark '|')).mapM readParts

def readType (items : List Item) : Option Reading := (readRows items).map Reading.ofRows

def readField : List Item → Option (FieldName × Reading)
  | .word key :: .mark '?' :: .mark ':' :: type =>
    (readType type).map fun r => (.property key true, r)
  | .word key :: .mark ':' :: type => (readType type).map fun r => (.property key false, r)
  | .index :: .mark ':' :: type => (readType type).map fun r => (.index, r)
  | _ => none

/-- The fields of an object type, each of which ends with a semicolon. -/
def readFields (items : List Item) : Option (List (FieldName × Reading)) :=
  let fields := items.splitOnP (Item.isMark ';')
  if fields.getLast?.any List.isEmpty then fields.dropLast.mapM readField else none

/-- What stands in square brackets: types, or else the name of an index signature. -/
def readSquares (items : List Item) : Option Item :=
  if items.isEmpty then some (.squares [])
  else
    match (items.splitOnP (Item.isMark ',')).mapM readType with
    | some rs => some (.squares rs)
    | none =>
      match items with
      | [.word _, .mark ':', .word "string"] => some .index
      | _ => none

def enclosed (close : Char) (items : List Item) : Option Item :=
  if close = ')' then (readType items).map .type
  else if close = ']' then readSquares items
  else (readFields items).map fun fields => .type (.object fields)

def closing? (c : Char) : Option Char :=
  if c = '(' then some ')'
  else if c = '[' then some ']'
  else if c = '\x7b' then some '\x7d'
  else none

/-- Read the brackets among tokens. For each pair of brackets that is not complete there is its end
and what came before it, the innermost first. -/
def unbracketed (outer : List (Char × List Item)) (items : List Item) :
    List Token → Option (List Item)
  | [] => if outer.isEmpty then some items else none
  | .word text :: rest => unbracketed outer (items ++ [.word text]) rest
  | .mark c :: rest =>
    match closing? c with
    | some close => unbracketed ((close, items) :: outer) [] rest
    | none =>
      if c = ')' ∨ c = ']' ∨ c = '\x7d' then
        match outer with
        | (close, before) :: outer =>
          if c = close then
            (enclosed close items).bind fun item => unbracketed outer (before ++ [item]) rest
          else none
        | [] => none
      else unbracketed outer (items ++ [.mark c]) rest

/-- The type that a text denotes. -/
def read (text : String) : Option Reading :=
  (unbracketed [] [] (tokens .plain text.toList)).bind readType

end Reader

end ClientGen.TypeScript
