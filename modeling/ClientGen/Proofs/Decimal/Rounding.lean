import ClientGen.Decimal.Shortest
import Mathlib.Algebra.Order.Field.Rat
import Mathlib.Algebra.Order.Field.Power
import Mathlib.Tactic.Linarith
import Mathlib.Tactic.NormNum
import Mathlib.Tactic.Positivity
import Mathlib.Tactic.Ring

namespace ClientGen.Decimal

def Digits.value (d : Digits) : ℚ := d.significand * 10 ^ d.exponent

namespace Binary

variable {b b' : Binary} {x : ℚ}

/-- A quarter of the unit in the last place. -/
def quarter (b : Binary) : ℚ := 2 ^ (b.exponent - 2)

/-- How many quarters the interval reaches below the number. -/
def reach (b : Binary) : Nat := if b.narrow then 1 else 2

/-- The magnitude of a double that is not zero. -/
structure Proper (b : Binary) : Prop where
  mantissa_pos : 0 < b.mantissa
  mantissa_lt : b.mantissa < 2 ^ 53
  exponent_ge : -1074 ≤ b.exponent
  exponent_le : b.exponent ≤ 972
  normal : -1074 < b.exponent → 2 ^ 52 ≤ b.mantissa
  narrow_iff : b.narrow = true ↔ b.mantissa = 2 ^ 52 ∧ -1074 < b.exponent

/-- A number rounds to a double. The ends of the interval do if the mantissa is even. -/
structure Rounds (b : Binary) (x : ℚ) : Prop where
  least_le : (4 * b.mantissa - b.reach) * b.quarter ≤ x
  le_greatest : x ≤ (4 * b.mantissa + 2) * b.quarter
  even_of_least : x = (4 * b.mantissa - b.reach) * b.quarter → b.mantissa % 2 = 0
  even_of_greatest : x = (4 * b.mantissa + 2) * b.quarter → b.mantissa % 2 = 0

theorem quarter_pos (b : Binary) : 0 < b.quarter := by
  unfold quarter
  positivity

theorem proper_ofBits {bits : UInt64} (h : ofBits bits = some b) : b.Proper := by
  unfold ofBits at h
  have hfraction : bits.toNat % Nat.pow 2 52 < 2 ^ 52 := Nat.mod_lt _ (by decide)
  have hbiased : bits.toNat / Nat.pow 2 52 % Nat.pow 2 11 < 2 ^ 11 := Nat.mod_lt _ (by decide)
  generalize bits.toNat % Nat.pow 2 52 = fraction at h hfraction
  generalize bits.toNat / Nat.pow 2 52 % Nat.pow 2 11 = biased at h hbiased
  dsimp only [Nat.pow_eq] at h
  split at h
  · split at h
    · cases h
    · cases h
      constructor <;> dsimp only
      case narrow_iff => simp
      all_goals omega
  · cases h
    constructor <;> dsimp only
    case narrow_iff =>
      simp only [Bool.and_eq_true, decide_eq_true_eq]
      omega
    all_goals omega

theorem reach_le (b : Binary) : b.reach ≤ 2 := by
  unfold reach
  split <;> decide

theorem Rounds.least_le_greatest (h : b.Rounds x) (h' : b'.Rounds x) :
    (4 * b'.mantissa - b'.reach) * b'.quarter ≤ (4 * b.mantissa + 2) * b.quarter :=
  h'.least_le.trans h.le_greatest

/-- Of doubles with one exponent, the one with the larger mantissa lies above. -/
theorem Rounds.mantissa_le (h : b.Rounds x) (h' : b'.Rounds x)
    (he : b.exponent = b'.exponent) : b'.mantissa ≤ b.mantissa := by
  by_contra hlt
  have hquarter : b'.quarter = b.quarter := by rw [quarter, quarter, he]
  have hends := h.least_le_greatest h'
  rw [hquarter] at hends
  have hreach := b'.reach_le
  have hle : (4 * b'.mantissa : ℚ) ≤ 4 * b.mantissa + 2 + b'.reach := by
    linarith [le_of_mul_le_mul_right hends b.quarter_pos]
  have hle : 4 * b'.mantissa ≤ 4 * b.mantissa + 2 + b'.reach := by exact_mod_cast hle
  -- The upper end of the one is the lower end of the other.
  have hnext : b'.mantissa = b.mantissa + 1 := by omega
  have htwo : b'.reach = 2 := by omega
  have hmeet : (4 * b'.mantissa - b'.reach : ℚ) * b'.quarter =
      (4 * b.mantissa + 2) * b.quarter := by
    rw [hnext, htwo, hquarter]
    push_cast
    ring
  have hx : x = (4 * b.mantissa + 2) * b.quarter :=
    le_antisymm h.le_greatest (hmeet ▸ h'.least_le)
  have heven := h.even_of_greatest hx
  have heven' := h'.even_of_least (hx.trans hmeet.symm)
  omega

theorem two_mul_quarter_le (h : b.exponent < b'.exponent) : 2 * b.quarter ≤ b'.quarter := by
  have hstep : (2 : ℚ) * b.quarter = 2 ^ (b.exponent - 2 + 1) := by
    rw [quarter, zpow_add_one₀ (by norm_num)]
    ring
  rw [hstep, quarter]
  exact zpow_le_zpow_right₀ (by norm_num) (by omega)

/-- In quarters of its last place, a double has its upper end below `2 ^ 55`. -/
theorem Proper.greatest_le (hb : b.Proper) : (4 * b.mantissa + 2 : ℚ) ≤ 2 ^ 55 - 2 := by
  have hbelow := hb.mantissa_lt
  have hcast : 4 * b.mantissa + 4 ≤ 2 ^ 55 := by omega
  have hcast : (4 * b.mantissa + 4 : ℚ) ≤ 2 ^ 55 := by exact_mod_cast hcast
  linarith

theorem Proper.least_ge (hb : b.Proper) (hmin : -1074 < b.exponent) :
    (2 ^ 54 - 1 : ℚ) ≤ 4 * b.mantissa - b.reach := by
  have hnormal := hb.normal hmin
  have hcast : 2 ^ 54 + b.reach ≤ 4 * b.mantissa + 1 := by
    unfold reach
    split
    · omega
    · next hwide =>
      have hne : b.mantissa ≠ 2 ^ 52 := fun he => hwide (hb.narrow_iff.2 ⟨he, hmin⟩)
      omega
  have hcast : (2 ^ 54 + b.reach : ℚ) ≤ 4 * b.mantissa + 1 := by exact_mod_cast hcast
  linarith

theorem Rounds.exponent_le (h : b.Rounds x) (h' : b'.Rounds x) (hb : b.Proper) (hb' : b'.Proper) :
    b'.exponent ≤ b.exponent := by
  by_contra hlt
  have hlt : b.exponent < b'.exponent := by omega
  have hmin : -1074 < b'.exponent := lt_of_le_of_lt hb.exponent_ge hlt
  have hlow := hb'.least_ge hmin
  have hhigh := hb.greatest_le
  have hscale := two_mul_quarter_le hlt
  have hgap : (2 ^ 55 - 2 : ℚ) * b.quarter ≤ (4 * b'.mantissa - b'.reach) * b'.quarter := by
    calc (2 ^ 55 - 2 : ℚ) * b.quarter = (2 ^ 54 - 1) * (2 * b.quarter) := by ring
      _ ≤ (4 * b'.mantissa - b'.reach) * b'.quarter :=
        mul_le_mul hlow hscale (by linarith [b.quarter_pos]) (by linarith)
  -- Both ends meet, above the largest mantissa, which is odd.
  have hends := h.least_le_greatest h'
  have hmeet : (4 * b.mantissa + 2 : ℚ) = 2 ^ 55 - 2 :=
    le_antisymm hhigh (le_of_mul_le_mul_right (hgap.trans hends) b.quarter_pos)
  have hx : x = (4 * b.mantissa + 2) * b.quarter := by
    refine le_antisymm h.le_greatest ?_
    rw [hmeet]
    exact hgap.trans h'.least_le
  have heven := h.even_of_greatest hx
  have hmantissa : (4 * b.mantissa + 4 : ℚ) = 2 ^ 55 := by linarith
  have hmantissa : 4 * b.mantissa + 4 = 2 ^ 55 := by exact_mod_cast hmantissa
  omega

/-- A number rounds to one double at most: the intervals of two doubles have at most an end in
common, which belongs to the one with the even mantissa. -/
theorem Rounds.unique (h : b.Rounds x) (h' : b'.Rounds x) (hb : b.Proper) (hb' : b'.Proper) :
    b = b' := by
  have he : b.exponent = b'.exponent :=
    le_antisymm (h'.exponent_le h hb' hb) (h.exponent_le h' hb hb')
  have hm : b.mantissa = b'.mantissa :=
    Nat.le_antisymm (h'.mantissa_le h he.symm) (h.mantissa_le h' he)
  have hn : b.narrow = b'.narrow := by
    rw [Bool.eq_iff_iff, hb.narrow_iff, hb'.narrow_iff, he, hm]
  cases b
  cases b'
  cases he
  cases hm
  cases hn
  rfl

end Binary

end ClientGen.Decimal
