import ClientGen.Decimal.Shortest

namespace ClientGen.Decimal

/-- The choices of a number format. `positional` bounds the exponents of a first digit that are
written without an exponent part; `none` means all of them. `plus` stands before an exponent that
is not negative. -/
structure Layout where
  positional : Option (Int × Int)
  wholeMark : String
  plus : String
  tie : Tie

def zeros (count : Int) : String := String.ofList (List.replicate count.toNat '0')

/-- A positive number in positional notation, given its digits and the exponent of the last. -/
def positionalText (layout : Layout) (digits : List Char) (exponent : Int) : String :=
  let first := exponent + digits.length - 1
  if 0 ≤ exponent then String.ofList digits ++ zeros exponent ++ layout.wholeMark
  else if 0 ≤ first then
    let whole := first.toNat + 1
    String.ofList (digits.take whole) ++ "." ++ String.ofList (digits.drop whole)
  else "0." ++ zeros (-first - 1) ++ String.ofList digits

def exponentText (layout : Layout) (digits : List Char) (exponent : Int) : String :=
  let first := exponent + digits.length - 1
  let fraction := digits.drop 1
  let mark := if fraction.isEmpty then "" else "."
  String.ofList (digits.take 1) ++ mark ++ String.ofList fraction ++ "e" ++
    (if first < 0 then "" else layout.plus) ++ toString first

def Layout.text (layout : Layout) (x : Float) : String :=
  let bits := x.toBits
  let sign := if bits.toNat / Nat.pow 2 63 = 1 then "-" else ""
  match Binary.ofBits bits with
  | none => sign ++ "0" ++ layout.wholeMark
  | some b =>
    let d := b.shortest layout.tie
    let digits := Nat.toDigits 10 d.significand
    let first := d.exponent + digits.length - 1
    let positional := match layout.positional with
      | none => true
      | some (least, greatest) => least ≤ first && first ≤ greatest
    sign ++ if positional then positionalText layout digits d.exponent
      else exponentText layout digits d.exponent

/-- Never an exponent, and nothing after a whole number. -/
def plain : Layout := ⟨none, "", "", .larger⟩

/-- As in a JSON text: a point in every number without an exponent, and an exponent part with its
sign below `0.00001` and from `10 ^ 16` on. -/
def json : Layout := ⟨some (-5, 15), ".0", "+", .even⟩

/-- The double nearest to `significand * 10 ^ exponent`. Numbers far outside the range of doubles
are decided by their magnitude alone. -/
def nearest (d : Digits) : Float :=
  let first := d.exponent + (Nat.toDigits 10 d.significand).length - 1
  if d.significand = 0 ∨ first < -400 then 0
  else if 400 < first then 1 / 0
  else Float.ofScientific d.significand (d.exponent < 0) d.exponent.natAbs

end ClientGen.Decimal
