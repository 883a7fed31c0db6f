namespace ClientGen.Decimal

/-- The number `significand * 10 ^ exponent`. -/
structure Digits where
  significand : Nat
  exponent : Int
  deriving DecidableEq, Repr

/-- Which of two equally near neighbours is taken. -/
inductive Tie where
  | larger
  | even
  deriving DecidableEq, Repr

/-- A finite binary number `mantissa * 2 ^ exponent` with a positive mantissa. `narrow` says that
its lower neighbour is only half as far away as its upper one. -/
structure Binary where
  mantissa : Nat
  exponent : Int
  narrow : Bool
  deriving DecidableEq, Repr

/-- The magnitude of the finite double with these bits; `none` for zero. -/
def Binary.ofBits (bits : UInt64) : Option Binary :=
  let fraction : Nat := bits.toNat % Nat.pow 2 52
  let biased : Nat := bits.toNat / Nat.pow 2 52 % Nat.pow 2 11
  if biased = 0 then
    if fraction = 0 then none else some ⟨fraction, -1074, false⟩
  else some ⟨Nat.pow 2 52 + fraction, (biased : Int) - 1075, fraction = 0 && biased > 1⟩

/-- The factors that turn a multiple `x` of a quarter of the binary unit into the fraction
`x * up / down` in units of `10 ^ k`. -/
def Binary.scale (b : Binary) (k : Int) : Nat × Nat :=
  let q := b.exponent - 2
  (Nat.pow 2 q.toNat * Nat.pow 10 (-k).toNat, Nat.pow 2 (-q).toNat * Nat.pow 10 k.toNat)

def Binary.magnitude (b : Binary) : Int :=
  let estimate := (((Nat.log2 b.mantissa : Nat) : Int) + b.exponent) * 30103 / 100000
  let (up, down) := b.scale (estimate + 1)
  if down ≤ 4 * b.mantissa * up then estimate + 1 else estimate

/-- The neighbour of the number on the grid of `count` digits that reads back as it. -/
def Binary.onGrid? (b : Binary) (tie : Tie) (count : Nat) : Option Digits :=
  let k := b.magnitude - (count : Int) + 1
  let (up, down) := b.scale k
  let value := 4 * b.mantissa * up
  let least := (4 * b.mantissa - if b.narrow then 1 else 2) * up
  let greatest := (4 * b.mantissa + 2) * up
  let below := value / down
  let ends := b.mantissa % 2 = 0
  let fitsBelow := least < below * down ∨ (ends ∧ least = below * down)
  let fitsAbove := (below + 1) * down < greatest ∨ (ends ∧ (below + 1) * down = greatest)
  let rest := 2 * (value % down)
  let preferAbove := down < rest ∨ (rest = down ∧ (tie = .larger ∨ below % 2 = 1))
  if fitsAbove ∧ (preferAbove ∨ ¬ fitsBelow) then some ⟨below + 1, k⟩
  else if fitsBelow then some ⟨below, k⟩
  else none

def Digits.dropZeros (d : Digits) : Nat → Digits
  | 0 => d
  | fuel + 1 =>
    if d.significand ≠ 0 ∧ d.significand % 10 = 0 then
      dropZeros ⟨d.significand / 10, d.exponent + 1⟩ fuel
    else d

/-- The shortest digits of a number. The reals that round to it form an interval, whose ends belong
to it if the mantissa is even; the first grid of decimals with a neighbour of the number in the
interval gives the digits. Seventeen always suffice. -/
def Binary.shortest (b : Binary) (tie : Tie) : Digits :=
  let found := ((List.range 17).findSome? fun n => b.onGrid? tie (n + 1)).getD ⟨0, 0⟩
  found.dropZeros 17

end ClientGen.Decimal
