import ClientGen.Document.Shape
import ClientGen.Reference

namespace ClientGen

def Reference.resolve {α : Type} (document : Json) (read : Json.Reader α) (reference : String) :
    Except Failure α :=
  match lookup document reference with
  | .error failure => .error failure
  | .ok value =>
    match read value with
    | some a => .ok a
    | none => .error (.misshapen reference)

/-- A value itself, or what its reference leads to. -/
def Referable.resolve {α : Type} (document : Json) (read : Json.Reader α) :
    Referable α → Except Failure α
  | .inline value => .ok value
  | .reference target => Reference.resolve document read target

def Schema.resolve (document : Json) (s : Schema) : Except Failure Schema :=
  match s.reference with
  | some target => Reference.resolve document Schema.read target
  | none => .ok s

end ClientGen
