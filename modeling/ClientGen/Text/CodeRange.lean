namespace ClientGen.Text

/-- The code points `first`, `first + step`, …, up to `last`. -/
structure CodeRange where
  first : Nat
  last : Nat
  step : Nat
  deriving Repr

def CodeRange.contains (r : CodeRange) (n : Nat) : Bool :=
  r.first ≤ n && n ≤ r.last && (n - r.first) % r.step == 0

/-- Whether a code point is in a table whose rows are sorted and disjoint: the first row that ends
at or after it decides. -/
def inTable (rows : List CodeRange) (n : Nat) : Bool :=
  match rows.find? (fun r => n ≤ r.last) with
  | some r => r.contains n
  | none => false

/-- Code points that a case map moves by one distance. -/
structure CaseShift where
  first : Nat
  last : Nat
  step : Nat
  shift : Int
  deriving Repr

def shiftBy (rows : List CaseShift) (n : Nat) : Nat :=
  match rows.find? (fun r => n ≤ r.last) with
  | some r =>
    if r.first ≤ n && (n - r.first) % r.step == 0 then ((n : Int) + r.shift).toNat else n
  | none => n

end ClientGen.Text
