import ClientGen.Json

namespace ClientGen.Json

/-- A reader of typed values: `none` for a value of another shape. -/
abbrev Reader (α : Type) := Json → Option α

namespace Reader

def text : Reader String
  | .str s => some s
  | _ => none

def truth : Reader Bool
  | .bool b => some b
  | _ => none

def any : Reader Json := some

def list {α : Type} (item : Reader α) : Reader (List α)
  | .arr items => items.mapM item
  | _ => none

def dict {α : Type} (value : Reader α) : Reader (Dict α)
  | .obj fields => fields.mapM fun field => (value field.2).map fun v => (field.1, v)
  | _ => none

/-- A value of the first of two shapes that fits. -/
def either {α : Type} (first second : Reader α) : Reader α := fun j =>
  match first j with
  | some a => some a
  | none => second j

def map {α β : Type} (f : α → β) (r : Reader α) : Reader β := fun j => (r j).map f

end Reader

/-- The fields of a record: those of an object, where members of no interest are passed over, or a
list of their values in order. -/
inductive Record where
  | named (fields : Dict Json)
  | listed (values : List Json)

def record? (count : Nat) : Json → Option Record
  | .obj fields => some (.named fields)
  | .arr values => if values.length ≤ count then some (.listed values) else none
  | _ => none

namespace Record

/-- The value of a field, by its name or its place. -/
def value? (r : Record) (place : Nat) (name : String) : Option Json :=
  match r with
  | .named fields => Dict.get? fields name
  | .listed values => values[place]?

def required {α : Type} (r : Record) (place : Nat) (name : String) (read : Reader α) : Option α :=
  (r.value? place name).bind read

def defaulted {α : Type} (r : Record) (place : Nat) (name : String) (read : Reader α)
    (default : α) : Option α :=
  match r.value? place name with
  | some value => read value
  | none => some default

/-- A field that may be absent, which it is when it is missing or null. In a list it may not be
missing. -/
def optional {α : Type} (r : Record) (place : Nat) (name : String) (read : Reader α) :
    Option (Option α) :=
  match r.value? place name with
  | some .null => some none
  | some value => (read value).map some
  | none =>
    match r with
    | .named _ => some none
    | .listed _ => none

end Record

end ClientGen.Json
