import ClientGen.Json
import ClientGen.Decimal.Layout

namespace ClientGen.Json

def digitValue (c : Char) : Nat := c.toNat - '0'.toNat

/-- Append digits to a number as long as it fits 64 bits; the second part is what does not fit. -/
def absorb (n : Nat) : List Char → Nat × List Char
  | [] => (n, [])
  | d :: rest =>
    let next := n * 10 + digitValue d
    if next < Nat.pow 2 64 then absorb next rest else (n, d :: rest)

def tenTo (n : Nat) : Float := Float.ofScientific 1 false n

/-- A float divided by a power of ten, in steps that a double can hold. -/
def shrink (f : Float) (exponent : Nat) : Float :=
  if exponent ≤ 308 then f / tenTo exponent
  else if f == 0 then f
  else shrink (f / tenTo 308) (exponent - 308)
termination_by exponent

/-- The float of 64 bit digits and a decimal exponent; `none` if it is too large. -/
def scaled? (negative : Bool) (digits : Nat) (exponent : Int) : Option Float :=
  let f := (UInt64.ofNat digits).toFloat
  let sign (f : Float) := if negative then -f else f
  if 0 ≤ exponent then
    if exponent ≤ 308 then
      let f := f * tenTo exponent.toNat
      if f.isInf then none else some (sign f)
    else if digits = 0 then some (sign f)
    else none
  else some (sign (shrink f exponent.natAbs))

def clampExponent (e : Int) : Int := max (-Int.pow 2 31) (min (Int.pow 2 31 - 1) e)

/-- Read an exponent part if there is one, and make the float. -/
def readExponent (negative : Bool) (digits : Nat) (exponent : Int) (cs : List Char) :
    Option (Json × List Char) :=
  match cs with
  | c :: rest =>
    if c = 'e' ∨ c = 'E' then
      let (down, rest) := match rest with
        | '+' :: r => (false, r)
        | '-' :: r => (true, r)
        | r => (false, r)
      let written := rest.takeWhile Char.isDigit
      let after := rest.dropWhile Char.isDigit
      if written.isEmpty then none
      else
        let e := written.foldl (fun n d => n * 10 + digitValue d) 0
        if Nat.pow 2 31 ≤ e then
          if digits ≠ 0 ∧ !down then none
          else some (.float (if negative then -0.0 else 0.0), after)
        else
          let e := clampExponent (if down then exponent - e else exponent + e)
          (scaled? negative digits e).map fun f => (.float f, after)
    else (scaled? negative digits exponent).map fun f => (.float f, cs)
  | [] => (scaled? negative digits exponent).map fun f => (.float f, [])

/-- Read a number without its sign. Without point and exponent it is an integer if 64 bits hold it.
Any other is a float, made of its leading digits by one rounding and one multiplication or division
by a power of ten. -/
def readMagnitude (negative : Bool) (cs : List Char) : Option (Json × List Char) :=
  let whole := cs.takeWhile Char.isDigit
  let after := cs.dropWhile Char.isDigit
  match whole with
  | [] => none
  | '0' :: _ :: _ => none
  | _ =>
    let (digits, dropped) := absorb 0 whole
    match after with
    | '.' :: rest =>
      let written := rest.takeWhile Char.isDigit
      let after := rest.dropWhile Char.isDigit
      if written.isEmpty then none
      else
        let (digits, ignored) := absorb digits written
        let places := written.length - ignored.length
        readExponent negative digits ((dropped.length : Int) - places) after
    | c :: _ =>
      if c = 'e' ∨ c = 'E' ∨ !dropped.isEmpty then readExponent negative digits dropped.length after
      else some (integer negative digits, after)
    | [] =>
      if !dropped.isEmpty then readExponent negative digits dropped.length after
      else some (integer negative digits, after)
where
  /-- An integer; a negative one that 64 bits cannot hold, or a negative zero, is a float. -/
  integer (negative : Bool) (n : Nat) : Json :=
    if !negative then .int n
    else if n = 0 ∨ Nat.pow 2 63 < n then .float (-(UInt64.ofNat n).toFloat)
    else .int (-(n : Int))

def readNumber : List Char → Option (Json × List Char)
  | '-' :: rest => readMagnitude true rest
  | cs => readMagnitude false cs

end ClientGen.Json
