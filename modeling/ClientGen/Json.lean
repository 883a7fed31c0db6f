import ClientGen.Dict

namespace ClientGen

inductive Json where
  | null
  | bool (value : Bool)
  | int (value : Int)
  | float (value : Float)
  | str (value : String)
  | arr (items : List Json)
  | obj (fields : List (String × Json))

namespace Json

instance : Inhabited Json := ⟨.null⟩

def member? : Json → String → Option Json
  | .obj fields, name => Dict.get? fields name
  | _, _ => none

def isNull : Json → Bool
  | .null => true
  | _ => false

mutual

/-- How many values a tree holds, itself included. -/
def size : Json → Nat
  | .arr items => sizeItems items + 1
  | .obj fields => sizeFields fields + 1
  | _ => 1

def sizeItems : List Json → Nat
  | [] => 0
  | item :: rest => size item + sizeItems rest

def sizeFields : List (String × Json) → Nat
  | [] => 0
  | field :: rest => size field.2 + sizeFields rest

end

end Json

end ClientGen
