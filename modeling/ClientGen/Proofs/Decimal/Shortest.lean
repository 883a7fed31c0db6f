import ClientGen.Proofs.Decimal.Rounding

namespace ClientGen.Decimal

theorem zpow_mul_pow_toNat {a : ℚ} (ha : a ≠ 0) (n : ℤ) : a ^ n * a ^ (-n).toNat = a ^ n.toNat := by
  have hsplit : (n.toNat : ℤ) = n + (-n).toNat := by omega
  rw [← zpow_natCast a n.toNat, hsplit, zpow_add₀ ha, zpow_natCast]

namespace Binary

variable {b : Binary} {k : ℤ} {tie : Tie} {count : Nat} {d : Digits}

theorem scale_up_pos (b : Binary) (k : ℤ) : 0 < (b.scale k).1 := by
  unfold scale
  exact Nat.mul_pos (Nat.pow_pos (by decide)) (Nat.pow_pos (by decide))

theorem scale_down_pos (b : Binary) (k : ℤ) : 0 < (b.scale k).2 := by
  unfold scale
  exact Nat.mul_pos (Nat.pow_pos (by decide)) (Nat.pow_pos (by decide))

theorem scale_eq (b : Binary) (k : ℤ) :
    ((b.scale k).1 : ℚ) * 10 ^ k = (b.scale k).2 * b.quarter := by
  have htwo := zpow_mul_pow_toNat (a := 2) (by norm_num) (b.exponent - 2)
  have hten := zpow_mul_pow_toNat (a := 10) (by norm_num) k
  unfold scale quarter
  simp only [Nat.pow_eq]
  push_cast
  rw [← htwo, ← hten]
  ring

theorem grid_sub (b : Binary) (k : ℤ) (s q : ℚ) :
    (s * 10 ^ k - q * b.quarter) * (b.scale k).2 =
      (s * (b.scale k).2 - q * (b.scale k).1) * 10 ^ k := by
  have hscale := b.scale_eq k
  calc (s * 10 ^ k - q * b.quarter) * (b.scale k).2
      = s * (b.scale k).2 * 10 ^ k - q * ((b.scale k).2 * b.quarter) := by ring
    _ = (s * (b.scale k).2 - q * (b.scale k).1) * 10 ^ k := by
        rw [← hscale]
        ring

theorem le_grid_iff (b : Binary) (k : ℤ) (s q : ℚ) :
    q * b.quarter ≤ s * 10 ^ k ↔ q * (b.scale k).1 ≤ s * (b.scale k).2 := by
  have hten : (0 : ℚ) < 10 ^ k := by positivity
  have hdown : (0 : ℚ) < (b.scale k).2 := by exact_mod_cast b.scale_down_pos k
  rw [← sub_nonneg, ← mul_nonneg_iff_of_pos_right hdown, grid_sub,
    mul_nonneg_iff_of_pos_right hten, sub_nonneg]

theorem grid_le_iff (b : Binary) (k : ℤ) (s q : ℚ) :
    s * 10 ^ k ≤ q * b.quarter ↔ s * (b.scale k).2 ≤ q * (b.scale k).1 := by
  have hten : (0 : ℚ) < 10 ^ k := by positivity
  have hdown : (0 : ℚ) < (b.scale k).2 := by exact_mod_cast b.scale_down_pos k
  have hsub : (q * b.quarter - s * 10 ^ k) * (b.scale k).2 =
      (q * (b.scale k).1 - s * (b.scale k).2) * 10 ^ k := by linarith [b.grid_sub k s q]
  rw [← sub_nonneg, ← mul_nonneg_iff_of_pos_right hdown, hsub,
    mul_nonneg_iff_of_pos_right hten, sub_nonneg]

/-- A point of a grid lies in the interval of a double, counted in the units of `scale`. -/
structure OnInterval (b : Binary) (k : ℤ) (s : Nat) : Prop where
  least_le : (4 * b.mantissa - b.reach) * (b.scale k).1 ≤ s * (b.scale k).2
  le_greatest : s * (b.scale k).2 ≤ (4 * b.mantissa + 2) * (b.scale k).1
  even_of_least : s * (b.scale k).2 = (4 * b.mantissa - b.reach) * (b.scale k).1 →
    b.mantissa % 2 = 0
  even_of_greatest : s * (b.scale k).2 = (4 * b.mantissa + 2) * (b.scale k).1 →
    b.mantissa % 2 = 0

theorem OnInterval.rounds {s : Nat} (h : b.OnInterval k s) (hb : 0 < b.mantissa) :
    b.Rounds (Digits.value ⟨s, k⟩) := by
  have hreach : b.reach ≤ 4 * b.mantissa := b.reach_le.trans (by omega)
  have hlow : ((4 * b.mantissa - b.reach : Nat) : ℚ) = 4 * b.mantissa - b.reach := by
    rw [Nat.cast_sub hreach]
    push_cast
    rfl
  have hleast := h.least_le
  have hgreatest := h.le_greatest
  constructor
  · rw [Digits.value, le_grid_iff, ← hlow]
    exact_mod_cast hleast
  · rw [Digits.value, grid_le_iff]
    exact_mod_cast hgreatest
  · intro he
    apply h.even_of_least
    apply Nat.le_antisymm _ hleast
    have hle := (grid_le_iff b k s _).1 he.le
    rw [← hlow] at hle
    exact_mod_cast hle
  · intro he
    apply h.even_of_greatest
    apply Nat.le_antisymm hgreatest
    have hle := (le_grid_iff b k s _).1 he.ge
    exact_mod_cast hle

def below (b : Binary) (k : ℤ) : Nat := 4 * b.mantissa * (b.scale k).1 / (b.scale k).2

/-- The lower neighbour lies in the interval. -/
def FitsBelow (b : Binary) (k : ℤ) : Prop :=
  (4 * b.mantissa - b.reach) * (b.scale k).1 < b.below k * (b.scale k).2 ∨
    b.mantissa % 2 = 0 ∧ (4 * b.mantissa - b.reach) * (b.scale k).1 = b.below k * (b.scale k).2

def FitsAbove (b : Binary) (k : ℤ) : Prop :=
  (b.below k + 1) * (b.scale k).2 < (4 * b.mantissa + 2) * (b.scale k).1 ∨
    b.mantissa % 2 = 0 ∧ (b.below k + 1) * (b.scale k).2 = (4 * b.mantissa + 2) * (b.scale k).1

def gridExponent (b : Binary) (count : Nat) : ℤ := b.magnitude - count + 1

theorem onGrid?_eq (b : Binary) (tie : Tie) (count : Nat) :
    (∃ d, b.onGrid? tie count = some d ∧ d.exponent = b.gridExponent count ∧
      (d.significand = b.below d.exponent + 1 ∧ b.FitsAbove d.exponent ∨
        d.significand = b.below d.exponent ∧ b.FitsBelow d.exponent)) ∨
    b.onGrid? tie count = none ∧ ¬ b.FitsAbove (b.gridExponent count) ∧
      ¬ b.FitsBelow (b.gridExponent count) := by
  have hreach : (if b.narrow = true then 1 else 2) = b.reach := rfl
  unfold onGrid?
  simp only [hreach]
  split
  · next hfits => exact .inl ⟨_, rfl, rfl, .inl ⟨rfl, hfits.1⟩⟩
  · next habove =>
    split
    · next hfits => exact .inl ⟨_, rfl, rfl, .inr ⟨rfl, hfits⟩⟩
    · next hbelow =>
      refine .inr ⟨rfl, ?_, hbelow⟩
      intro hfits
      exact habove ⟨hfits, .inr hbelow⟩

variable (b k) in
theorem below_mul_le : b.below k * (b.scale k).2 ≤ 4 * b.mantissa * (b.scale k).1 :=
  Nat.div_mul_le_self _ _

variable (b k) in
theorem lt_below_succ_mul : 4 * b.mantissa * (b.scale k).1 < (b.below k + 1) * (b.scale k).2 := by
  rw [Nat.mul_comm (b.below k + 1)]
  exact Nat.lt_mul_div_succ _ (b.scale_down_pos k)

theorem onInterval_below (h : b.FitsBelow k) : b.OnInterval k (b.below k) := by
  have hup := b.scale_up_pos k
  have hle := b.below_mul_le k
  have hlt : b.below k * (b.scale k).2 < (4 * b.mantissa + 2) * (b.scale k).1 := by
    rw [Nat.add_mul]
    omega
  rcases h with hless | ⟨heven, heq⟩
  · exact ⟨hless.le, hlt.le, fun he => absurd he hless.ne', fun he => absurd he hlt.ne⟩
  · exact ⟨heq.le, hlt.le, fun _ => heven, fun _ => heven⟩

theorem onInterval_above (h : b.FitsAbove k) : b.OnInterval k (b.below k + 1) := by
  have hlt : (4 * b.mantissa - b.reach) * (b.scale k).1 < (b.below k + 1) * (b.scale k).2 :=
    lt_of_le_of_lt (Nat.mul_le_mul_right _ (Nat.sub_le _ _)) (b.lt_below_succ_mul k)
  rcases h with hless | ⟨heven, heq⟩
  · exact ⟨hlt.le, hless.le, fun he => absurd he hlt.ne', fun he => absurd he hless.ne⟩
  · exact ⟨hlt.le, heq.le, fun _ => heven, fun _ => heven⟩

/-- The digits of a grid that are taken lie in the interval. -/
theorem onInterval_of_onGrid? (h : b.onGrid? tie count = some d) :
    b.OnInterval d.exponent d.significand := by
  rcases b.onGrid?_eq tie count with ⟨d', hd', -, ⟨hs, hfits⟩ | ⟨hs, hfits⟩⟩ | ⟨hnone, -⟩
  · cases h.symm.trans hd'
    exact hs ▸ onInterval_above hfits
  · cases h.symm.trans hd'
    exact hs ▸ onInterval_below hfits
  · cases h.symm.trans hnone

/-- On a grid that is fine enough the nearer neighbour lies in the interval. -/
theorem fits_of_fine (hb : 0 < b.mantissa)
    (hfine : (b.scale k).2 < 2 * b.reach * (b.scale k).1) : b.FitsAbove k ∨ b.FitsBelow k := by
  have hreach := b.reach_le
  have hlow : b.reach * (b.scale k).1 ≤ 4 * b.mantissa * (b.scale k).1 :=
    Nat.mul_le_mul_right _ (by omega)
  have hwide : (b.reach : Nat) * (b.scale k).1 ≤ 2 * (b.scale k).1 :=
    Nat.mul_le_mul_right _ hreach
  have hle := b.below_mul_le k
  have hlt := b.lt_below_succ_mul k
  unfold FitsAbove FitsBelow
  rw [Nat.mul_assoc 2] at hfine
  rw [Nat.sub_mul, Nat.add_mul _ 2]
  rw [Nat.add_mul, Nat.one_mul] at hlt ⊢
  generalize b.below k * (b.scale k).2 = below at *
  generalize 4 * b.mantissa * (b.scale k).1 = value at *
  generalize b.reach * (b.scale k).1 = reach at *
  generalize (b.scale k).1 = up at *
  generalize (b.scale k).2 = down at *
  rcases Nat.lt_or_ge down (2 * (value - below)) with hnear | hnear
  · exact .inl (.inl (by omega))
  · exact .inr (.inl (by omega))

theorem ten_pow_le_two_pow : ∀ n < 1100, 10 ^ (n * 30103 / 100000) ≤ 2 ^ n := by decide +kernel

theorem two_pow_le_ten_pow : ∀ n < 1100, 2 ^ n ≤ 10 ^ ((n * 30103 + 99999) / 100000) := by
  decide +kernel

theorem ten_zpow_le_two_zpow {e : ℤ} (hlow : -1100 < e) (hhigh : e < 1100) :
    (10 : ℚ) ^ (e * 30103 / 100000) ≤ 2 ^ e := by
  obtain ⟨n, rfl | rfl⟩ := e.eq_nat_or_neg
  · have hpow := ten_pow_le_two_pow n (by omega)
    have hexp : (n * 30103 / 100000 : ℤ) = (n * 30103 / 100000 : Nat) := by omega
    rw [hexp, zpow_natCast, zpow_natCast]
    exact_mod_cast hpow
  · have hpow := two_pow_le_ten_pow n (by omega)
    have hexp : (-n * 30103 / 100000 : ℤ) = -((n * 30103 + 99999) / 100000 : Nat) := by omega
    rw [hexp, zpow_neg, zpow_neg, zpow_natCast, zpow_natCast]
    apply inv_anti₀ (by positivity)
    exact_mod_cast hpow

theorem two_zpow_log2_le (hb : 0 < b.mantissa) :
    (2 : ℚ) ^ (((Nat.log2 b.mantissa : Nat) : ℤ) + b.exponent) ≤ 4 * b.mantissa * b.quarter := by
  have hlog : 2 ^ Nat.log2 b.mantissa ≤ b.mantissa := Nat.log2_self_le (by omega)
  have hlog : (2 : ℚ) ^ Nat.log2 b.mantissa ≤ b.mantissa := by exact_mod_cast hlog
  have hquarter : 4 * b.quarter = 2 ^ b.exponent := by
    rw [quarter, zpow_sub₀ (by norm_num)]
    ring
  calc (2 : ℚ) ^ (((Nat.log2 b.mantissa : Nat) : ℤ) + b.exponent)
      = 2 ^ Nat.log2 b.mantissa * 2 ^ b.exponent := by
        rw [zpow_add₀ (by norm_num), zpow_natCast]
    _ ≤ b.mantissa * 2 ^ b.exponent := mul_le_mul_of_nonneg_right hlog (by positivity)
    _ = 4 * b.mantissa * b.quarter := by
        rw [← hquarter]
        ring

theorem ten_zpow_magnitude_le (hb : b.Proper) :
    (10 : ℚ) ^ b.magnitude ≤ 4 * b.mantissa * b.quarter := by
  have hpos := hb.mantissa_pos
  have hlog : Nat.log2 b.mantissa < 53 := (Nat.log2_lt (by omega)).2 hb.mantissa_lt
  have hlow := hb.exponent_ge
  have hhigh := hb.exponent_le
  unfold magnitude
  simp only
  split
  · next hle =>
    have hone := (grid_le_iff b (((Nat.log2 b.mantissa : Nat) + b.exponent) * 30103 / 100000 + 1) 1
      (4 * b.mantissa)).2
    rw [one_mul, one_mul] at hone
    apply hone
    exact_mod_cast hle
  · exact (ten_zpow_le_two_zpow (by omega) (by omega)).trans (two_zpow_log2_le hpos)

/-- Seventeen digits are enough. -/
theorem fine (hb : b.Proper) : (b.scale (b.gridExponent 17)).2 <
    2 * b.reach * (b.scale (b.gridExponent 17)).1 := by
  have hsmall : (4 * b.mantissa : ℚ) < 2 * b.reach * 10 ^ 16 := by
    have hnat : 4 * b.mantissa < 2 * b.reach * 10 ^ 16 := by
      have hbelow := hb.mantissa_lt
      unfold reach
      split
      · next hnarrow =>
        have hleast := (hb.narrow_iff.1 hnarrow).1
        omega
      · omega
    exact_mod_cast hnat
  have hgrid : (10 : ℚ) ^ b.gridExponent 17 * 10 ^ 16 = 10 ^ b.magnitude := by
    rw [← zpow_natCast, ← zpow_add₀ (by norm_num)]
    congr 1
    unfold gridExponent
    omega
  have hlt : (10 : ℚ) ^ b.gridExponent 17 * 10 ^ 16 < 2 * b.reach * b.quarter * 10 ^ 16 :=
    calc (10 : ℚ) ^ b.gridExponent 17 * 10 ^ 16 = 10 ^ b.magnitude := hgrid
      _ ≤ 4 * b.mantissa * b.quarter := ten_zpow_magnitude_le hb
      _ < 2 * b.reach * 10 ^ 16 * b.quarter := mul_lt_mul_of_pos_right hsmall b.quarter_pos
      _ = 2 * b.reach * b.quarter * 10 ^ 16 := by ring
  have hlt := lt_of_mul_lt_mul_right hlt (by positivity)
  have hnot : ¬ 2 * b.reach * ((b.scale (b.gridExponent 17)).1 : ℚ) ≤
      1 * (b.scale (b.gridExponent 17)).2 := by
    rw [← le_grid_iff, one_mul]
    exact not_le.2 hlt
  rw [one_mul, not_le] at hnot
  exact_mod_cast hnot

theorem exists_onGrid? (hb : b.Proper) (tie : Tie) : ∃ d, b.onGrid? tie 17 = some d := by
  rcases b.onGrid?_eq tie 17 with ⟨d, hd, -⟩ | ⟨-, habove, hbelow⟩
  · exact ⟨d, hd⟩
  · exact absurd (fits_of_fine hb.mantissa_pos (fine hb)) (not_or.2 ⟨habove, hbelow⟩)

end Binary

theorem Digits.dropZeros_value (d : Digits) (fuel : Nat) : (d.dropZeros fuel).value = d.value := by
  induction fuel generalizing d with
  | zero => rfl
  | succ fuel ih =>
    unfold dropZeros
    split
    · next hzero =>
      rw [ih]
      obtain ⟨s, hs⟩ := Nat.dvd_of_mod_eq_zero hzero.2
      have hdiv : d.significand / 10 = s := by omega
      rw [value, value, hdiv, hs, zpow_add_one₀ (by norm_num)]
      push_cast
      ring
    · rfl

namespace Binary

variable {b : Binary}

/-- The shortest digits of a double stand for a number that rounds to it. -/
theorem rounds_shortest (hb : b.Proper) (tie : Tie) : b.Rounds (b.shortest tie).value := by
  unfold shortest
  rw [Digits.dropZeros_value]
  cases hfound : (List.range 17).findSome? fun n => b.onGrid? tie (n + 1) with
  | some d =>
    obtain ⟨n, -, hd⟩ := List.exists_of_findSome?_eq_some hfound
    exact (onInterval_of_onGrid? hd).rounds hb.mantissa_pos
  | none =>
    obtain ⟨d, hd⟩ := exists_onGrid? hb tie
    have hnone := List.findSome?_eq_none_iff.1 hfound 16 (by decide)
    cases hd.symm.trans hnone

theorem Rounds.pos {x : ℚ} (h : b.Rounds x) (hb : b.Proper) : 0 < x := by
  have hreach : b.reach < 4 * b.mantissa := by
    have hle := b.reach_le
    have hpos := hb.mantissa_pos
    omega
  have hreach : (b.reach : ℚ) < 4 * b.mantissa := by exact_mod_cast hreach
  exact lt_of_lt_of_le (mul_pos (sub_pos.2 hreach) b.quarter_pos) h.least_le

theorem eq_of_shortest_value {b' : Binary} {tie tie' : Tie} (hb : b.Proper) (hb' : b'.Proper)
    (h : (b.shortest tie).value = (b'.shortest tie').value) : b = b' := by
  have hrounds' := rounds_shortest hb' tie'
  rw [← h] at hrounds'
  exact (rounds_shortest hb tie).unique hrounds' hb hb'

end Binary

end ClientGen.Decimal
