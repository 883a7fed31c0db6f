import ClientGen.Text.Casing.Table

namespace ClientGen.Text

def isLowercase (c : Char) : Bool := inTable lowercaseRows c.toNat

def isUppercase (c : Char) : Bool := inTable uppercaseRows c.toNat

def isCased (c : Char) : Bool := inTable casedRows c.toNat

def isCaseIgnorable (c : Char) : Bool := inTable caseIgnorableRows c.toNat

/-- The full upper case mapping of one character. -/
def toUpper (c : Char) : List Char :=
  match upperSpecial.lookup c.toNat with
  | some image => image.map Char.ofNat
  | none => [Char.ofNat (shiftBy upperShifts c.toNat)]

/-- The full lower case mapping of one character, apart from its surroundings. -/
def toLower (c : Char) : List Char :=
  match lowerSpecial.lookup c.toNat with
  | some image => image.map Char.ofNat
  | none => [Char.ofNat (shiftBy lowerShifts c.toNat)]

/-- Whether the first character that case rules look at is cased. -/
def meetsCased (cs : List Char) : Bool :=
  match cs.dropWhile isCaseIgnorable with
  | c :: _ => isCased c
  | [] => false

/-- Lower case of a text whose earlier characters are `before`, nearest first. -/
def lowerAfter (before : List Char) : List Char → List Char
  | [] => []
  | c :: rest =>
    let image :=
      if c = 'Σ' then if meetsCased before && !meetsCased rest then ['ς'] else ['σ']
      else toLower c
    image ++ lowerAfter (c :: before) rest

def lower (cs : List Char) : List Char := lowerAfter [] cs

def capitalize : List Char → List Char
  | [] => []
  | c :: rest => toUpper c ++ rest

end ClientGen.Text
