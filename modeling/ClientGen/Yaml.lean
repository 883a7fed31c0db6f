import ClientGen.Json
import ClientGen.Decimal.Layout

namespace ClientGen

inductive Yaml where
  | null
  | bool (value : Bool)
  | int (value : Int)
  | float (value : Float)
  | str (value : String)
  | seq (items : List Yaml)
  | map (entries : List (Yaml × Yaml))
  | tagged (value : Yaml)

namespace Yaml

instance : Inhabited Yaml := ⟨.null⟩

/-- Floats used as keys are laid out as in a JSON text, without the sign of a positive exponent. -/
def keyLayout : Decimal.Layout := { Decimal.json with plus := "" }

def floatText (x : Float) : String :=
  if x.isNaN then ".nan"
  else if x.isInf then if x < 0 then "-.inf" else ".inf"
  else keyLayout.text x

/-- The name that a scalar key becomes. -/
def keyText? : Yaml → Option String
  | .null => some "null"
  | .bool true => some "true"
  | .bool false => some "false"
  | .int n => some (toString n)
  | .float x => some (floatText x)
  | .str s => some s
  | .seq _ | .map _ | .tagged _ => none

/-- Whether two scalar keys are the same value. Integers and floats are never the same. -/
def sameScalar : Yaml → Yaml → Bool
  | .null, .null => true
  | .bool a, .bool b => a = b
  | .int a, .int b => a = b
  | .float a, .float b => (a.isNaN && b.isNaN) || a == b
  | .str a, .str b => a = b
  | _, _ => false

mutual

/-- The JSON value of a tree without its tags. Of the members whose keys have one text, the first
gives the place and the last the value; floats that are not finite become null. -/
def toJson? : Yaml → Option Json
  | .null => some .null
  | .bool b => some (.bool b)
  | .int n => some (.int n)
  | .float x => some (if x.isFinite then .float x else .null)
  | .str s => some (.str s)
  | .seq items => (itemsToJson? items).map .arr
  | .map entries => (entriesToJson? [] entries).map .obj
  | .tagged value => toJson? value

def itemsToJson? : List Yaml → Option (List Json)
  | [] => some []
  | item :: rest =>
    match toJson? item with
    | none => none
    | some item => (itemsToJson? rest).map (item :: ·)

def entriesToJson? (fields : List (String × Json)) :
    List (Yaml × Yaml) → Option (List (String × Json))
  | [] => some fields
  | entry :: rest =>
    match keyText? entry.1, toJson? entry.2 with
    | some name, some value => entriesToJson? (Dict.put fields name value) rest
    | _, _ => none

end

end Yaml

end ClientGen
