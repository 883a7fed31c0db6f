import ClientGen.Failure
import ClientGen.Json
import ClientGen.Text.Blank
import ClientGen.Text.Percent

namespace ClientGen.Reference

def unescape : List Char → List Char
  | [] => []
  | '~' :: '1' :: rest => '/' :: unescape rest
  | '~' :: '0' :: rest => '~' :: unescape rest
  | c :: rest => c :: unescape rest

/-- The name that a written segment stands for: percent signs are undone first, and then `~1` stands
for a slash and `~0` for a tilde. -/
def decodeSegment (cs : List Char) : List Char := unescape (Text.Percent.decode cs)

def pointer? (reference : String) : Option (List Char) :=
  match reference.toList with
  | '#' :: '/' :: rest => some rest
  | _ => none

def decodePointer (cs : List Char) : List String :=
  (Text.splitAt '/' cs).map fun segment => String.ofList (decodeSegment segment)

def segments (reference : String) : Except Failure (List String) :=
  match pointer? reference with
  | some cs => .ok (decodePointer cs)
  | none => .error (.externalReference reference)

/-- The last segment as it is written. -/
def baseName (reference : String) : String :=
  String.ofList ((Text.splitAt '/' reference.toList).getLastD [])

/-- A name for a reference to build identifiers from. If the last segment starts with a digit, all
segments take part. -/
def stableName (reference : String) : String :=
  let base := baseName reference
  if base.toList.head?.any Char.isDigit then
    "_".intercalate (decodePointer ((pointer? reference).getD reference.toList))
  else base

/-- The index that a segment selects, if it is a number below `2 ^ 64`. -/
def index? (segment : String) : Option Nat :=
  let digits := match segment.toList with
    | '+' :: rest => rest
    | cs => cs
  if digits.isEmpty || !digits.all Char.isDigit then none
  else
    let n := digits.foldl (fun n d => n * 10 + (d.toNat - '0'.toNat)) 0
    if n < Nat.pow 2 64 then some n else none

def select? (value : Json) (segment : String) : Option Json :=
  match value with
  | .obj fields => Dict.get? fields segment
  | .arr items => (index? segment).bind fun i => items[i]?
  | _ => none

def follow? (value : Json) : List String → Option Json
  | [] => some value
  | segment :: rest =>
    match select? value segment with
    | some next => follow? next rest
    | none => none

def lookup (document : Json) (reference : String) : Except Failure Json :=
  match segments reference with
  | .error failure => .error failure
  | .ok path =>
    match follow? document path with
    | some value => .ok value
    | none => .error (.danglingReference path)

def isReference : Json → Bool
  | .obj fields => Dict.has fields "$ref"
  | _ => false

def componentStart : String := "#/components/schemas/"

/-- Write a name as a segment: tildes and slashes are escaped. -/
def escape : List Char → List Char
  | [] => []
  | c :: rest =>
    (if c = '~' then ['~', '0'] else if c = '/' then ['~', '1'] else [c]) ++ escape rest

def ofComponent (name : String) : String :=
  componentStart ++ String.ofList (escape name.toList)

end ClientGen.Reference
