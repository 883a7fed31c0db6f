import ClientGen.Text.Hex
import ClientGen.Yaml

namespace ClientGen.Yaml

/-- What the text of an integer says: a value that is in reach, one that is too large to be used, or
no integer. What 64 bits cannot hold is too large if 128 bits can, and no integer beyond that. -/
inductive IntText where
  | value (n : Int)
  | tooLarge
  | other
  deriving DecidableEq, Repr

def isNullText (s : List Char) : Bool :=
  ["~", "null", "Null", "NULL"].contains (String.ofList s)

def boolText? (s : List Char) : Option Bool :=
  if ["true", "True", "TRUE"].contains (String.ofList s) then some true
  else if ["false", "False", "FALSE"].contains (String.ofList s) then some false
  else none

/-- Digits after a leading zero, with or without a sign. -/
def isZeroLed (s : List Char) : Bool :=
  let body := match s with
    | '-' :: r => r
    | '+' :: r => r
    | r => r
  match body with
  | '0' :: d :: r => (d :: r).all Char.isDigit
  | _ => false

def digitsIn? (base : Nat) : List Char → Option Nat
  | [] => none
  | cs => cs.foldlM (fun n c => (Text.hexValue? c).bind fun d =>
      if d < base then some (n * base + d) else none) 0

def basedDigits? : List Char → Option Nat
  | '0' :: 'x' :: r => digitsIn? 16 r
  | '0' :: 'o' :: r => digitsIn? 8 r
  | '0' :: 'b' :: r => digitsIn? 2 r
  | _ => none

/-- The magnitude of an integer written without sign. -/
def magnitude? (zeroLed : Bool) (s : List Char) : Option Nat :=
  match basedDigits? s with
  | some n => some n
  | none => if zeroLed then none else digitsIn? 10 s

def intText (s : List Char) : IntText :=
  let (negative, body) := match s with
    | '-' :: r => (true, r)
    | '+' :: r => (false, r)
    | r => (false, r)
  match magnitude? (isZeroLed s) body with
  | none => .other
  | some n =>
    if negative then
      if n ≤ Nat.pow 2 63 then .value (-(n : Int))
      else if n ≤ Nat.pow 2 127 then .tooLarge
      else .other
    else if n < Nat.pow 2 64 then .value n
    else if n < Nat.pow 2 128 then .tooLarge
    else .other

/-- The decimal notation of a float: digits with an optional point and exponent. -/
def decimalText? (s : List Char) : Option Float :=
  let (negative, body) := match s with
    | '-' :: r => (true, r)
    | '+' :: r => (false, r)
    | r => (false, r)
  let whole := body.takeWhile Char.isDigit
  let rest := body.dropWhile Char.isDigit
  let (fraction, rest) := match rest with
    | '.' :: r => (r.takeWhile Char.isDigit, r.dropWhile Char.isDigit)
    | r => ([], r)
  let exponent? : Option Int := match rest with
    | [] => some 0
    | e :: r =>
      if e = 'e' ∨ e = 'E' then
        match r with
        | '-' :: r => (digitsIn? 10 r).map fun n => -(n : Int)
        | '+' :: r => (digitsIn? 10 r).map fun n => (n : Int)
        | r => (digitsIn? 10 r).map fun n => (n : Int)
      else none
  match digitsIn? 10 (whole ++ fraction), exponent? with
  | some n, some e =>
    let f := Decimal.nearest ⟨n, e - fraction.length⟩
    if f.isInf then none else some (if negative then -f else f)
  | _, _ => none

def floatText? (s : List Char) : Option Float :=
  let positive := match s with
    | '+' :: r => r
    | r => r
  if [".inf", ".Inf", ".INF"].contains (String.ofList positive) then some (1 / 0)
  else if ["-.inf", "-.Inf", "-.INF"].contains (String.ofList s) then some (-1 / 0)
  else if [".nan", ".NaN", ".NAN"].contains (String.ofList s) then some (0 / 0)
  else
    match s with
    | '+' :: '+' :: _ | '+' :: '-' :: _ => none
    | _ => decimalText? s

/-- The value of an untagged plain scalar; `none` for an integer out of reach. -/
def plainValue? (s : List Char) : Option Yaml :=
  if s.isEmpty || isNullText s then some .null
  else match boolText? s with
    | some b => some (.bool b)
    | none =>
      match intText s with
      | .value n => some (.int n)
      | .tooLarge => none
      | .other =>
        match if isZeroLed s then none else floatText? s with
        | some f => some (.float f)
        | none => some (.str (String.ofList s))

/-- The start of the tags of the types that every YAML text may use. -/
def coreTag (name : String) : String := "tag:yaml.org,2002:" ++ name

/-- Whether a tag is private to the text that uses it. -/
def isLocalTag (tag : String) : Bool := tag.toList.head? = some '!'

/-- The value of a scalar. A core tag asks for its type, a local tag leaves the value to the form
of the text, and any other tag makes it a string; so does quoting without a tag. -/
def scalarValue? (text : String) (plain : Bool) (tag : Option String) : Option Yaml :=
  let s := text.toList
  let untagged := if plain then plainValue? s else some (.str text)
  match tag with
  | none => untagged
  | some tag =>
    if tag = coreTag "bool" then (boolText? s).map .bool
    else if tag = coreTag "int" then
      match intText s with
      | .value n => some (.int n)
      | .tooLarge | .other => none
    else if tag = coreTag "float" then (floatText? s).map .float
    else if tag = coreTag "null" then if isNullText s then some .null else none
    else if isLocalTag tag then untagged.map .tagged
    else some (.str text)

end ClientGen.Yaml
