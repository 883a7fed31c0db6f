import ClientGen.Text.Utf8

namespace ClientGen.Text.Utf8

variable {p : Partial} {b low high : UInt8} {v n x : Nat}

/-- The next byte of a partial character is one that begins no character. -/
structure Partial.Proper (p : Partial) : Prop where
  low : 0x80 ≤ p.low
  high : p.high ≤ 0xBF

/-- What a partial character is read as if it gets no further. -/
def Partial.spoiled (p : Partial) : List Char := if p.owed = 0 then [] else [replacement]

theorem Partial.proper_default : Partial.Proper {} := by
  constructor <;> decide

theorem lead_bounds (h : lead b = some (v, n, low, high)) :
    0x80 ≤ low ∧ high ≤ 0xBF := by
  unfold lead at h
  grind

theorem proper_begin (b : UInt8) : (begin b).2.Proper := by
  unfold begin
  split
  · exact Partial.proper_default
  · exact Partial.proper_default
  · next h =>
    have hbounds := lead_bounds h
    exact ⟨hbounds.1, hbounds.2⟩

theorem proper_step (p : Partial) (b : UInt8) : (step p b).2.Proper := by
  unfold step
  split
  · exact proper_begin b
  · split
    · dsimp only
      split
      · exact Partial.proper_default
      · exact ⟨Partial.proper_default.low, Partial.proper_default.high⟩
    · exact proper_begin b

theorem length_begin (b : UInt8) : (begin b).1.length + (begin b).2.spoiled.length ≤ 1 := by
  unfold begin
  split <;> simp [Partial.spoiled]

theorem length_step (p : Partial) (b : UInt8) :
    (step p b).1.length + (step p b).2.spoiled.length ≤ p.spoiled.length + 1 := by
  have hbegin := length_begin b
  unfold step
  split
  · omega
  · next n hn =>
    have hp : p.spoiled.length = 1 := by simp [Partial.spoiled, hn]
    rw [hp]
    split
    · dsimp only
      split <;> simp [Partial.spoiled, *]
    · dsimp only
      rw [List.length_cons]
      omega

theorem not_tail_of_lead (h : (lead b).isSome) : b ≤ 0x7F ∨ 0xC0 ≤ b := by
  unfold lead at h
  grind

theorem step_of_lead (hp : p.Proper) (hb : (lead b).isSome) :
    step p b = (p.spoiled ++ (begin b).1, (begin b).2) := by
  have hlow := hp.low
  have hhigh := hp.high
  have hout := not_tail_of_lead hb
  unfold step Partial.spoiled
  split
  · next h => simp [h]
  · next n h =>
    rw [if_neg, h]
    · rfl
    · grind

theorem decodeFrom_whole (hp : p.Proper) (hb : lead b = some (v, 0, low, high))
    (rest : List UInt8) :
    decodeFrom p (b :: rest) = p.spoiled ++ Char.ofNat v :: decodeFrom {} rest := by
  rw [decodeFrom, step_of_lead hp (by rw [hb]; rfl), begin, hb]
  simp

theorem decodeFrom_first (hp : p.Proper) (hb : lead b = some (v, n + 1, low, high))
    (rest : List UInt8) :
    decodeFrom p (b :: rest) = p.spoiled ++ decodeFrom ⟨v, n + 1, low, high⟩ rest := by
  rw [decodeFrom, step_of_lead hp (by rw [hb]; rfl), begin, hb]
  simp

theorem step_of_tail (hx : x < 64) (hlow : low.toNat ≤ x + 128) (hhigh : x + 128 ≤ high.toNat) :
    step ⟨v, n + 1, low, high⟩ (UInt8.ofNat (x + 128)) =
      if n = 0 then ([Char.ofNat (v * 64 + x)], {})
      else ([], { value := v * 64 + x, owed := n }) := by
  have hbyte : (UInt8.ofNat (x + 128)).toNat = x + 128 := by
    rw [UInt8.toNat_ofNat']
    omega
  have hin : (decide (low ≤ UInt8.ofNat (x + 128)) &&
      decide (UInt8.ofNat (x + 128) ≤ high)) = true := by
    simp only [Bool.and_eq_true, decide_eq_true_eq, UInt8.le_iff_toNat_le, hbyte]
    exact ⟨hlow, hhigh⟩
  simp only [step, hin, if_true, hbyte, Nat.add_sub_cancel]

theorem decodeFrom_last (hx : x < 64) (hlow : low.toNat ≤ x + 128)
    (hhigh : x + 128 ≤ high.toNat) (rest : List UInt8) :
    decodeFrom ⟨v, 1, low, high⟩ (UInt8.ofNat (x + 128) :: rest) =
      Char.ofNat (v * 64 + x) :: decodeFrom {} rest := by
  rw [decodeFrom, step_of_tail hx hlow hhigh]
  simp

theorem decodeFrom_tail (hx : x < 64) (hlow : low.toNat ≤ x + 128)
    (hhigh : x + 128 ≤ high.toNat) (rest : List UInt8) :
    decodeFrom ⟨v, n + 2, low, high⟩ (UInt8.ofNat (x + 128) :: rest) =
      decodeFrom { value := v * 64 + x, owed := n + 1 } rest := by
  rw [decodeFrom, step_of_tail hx hlow hhigh]
  simp

theorem lead_one : ∀ n < 128, lead (UInt8.ofNat n) = some (n, 0, 0x80, 0xBF) := by decide

theorem lead_two : ∀ n < 32, n < 2 ∨ lead (UInt8.ofNat (n + 192)) = some (n, 1, 0x80, 0xBF) := by
  decide

theorem lead_three : ∀ n < 16, lead (UInt8.ofNat (n + 224)) =
    some (n, 2, if n = 0 then 0xA0 else 0x80, if n = 13 then 0x9F else 0xBF) := by
  decide

theorem lead_four : ∀ n < 5, lead (UInt8.ofNat (n + 240)) =
    some (n, 3, if n = 0 then 0x90 else 0x80, if n = 4 then 0x8F else 0xBF) := by
  decide

/-- The bytes of a character are read as this character. -/
theorem decodeFrom_char (hp : p.Proper) (c : Char) (rest : List UInt8) :
    decodeFrom p (String.utf8EncodeChar c ++ rest) = p.spoiled ++ c :: decodeFrom {} rest := by
  have hc : Char.ofNat c.val.toNat = c := Char.ofNat_toNat c
  have hvalid : c.val.toNat < 0xD800 ∨ 0xDFFF < c.val.toNat ∧ c.val.toNat < 0x110000 := c.valid
  have hlow : (0x80 : UInt8).toNat = 128 := rfl
  have hhigh : (0xBF : UInt8).toNat = 191 := rfl
  have hif {q : Prop} [Decidable q] (a b : UInt8) :
      (if q then a else b).toNat = if q then a.toNat else b.toNat := apply_ite UInt8.toNat q a b
  unfold String.utf8EncodeChar
  generalize c.val.toNat = v at hc hvalid
  dsimp only
  split
  · next hone =>
    have hlead := lead_one v (by omega)
    rw [List.singleton_append, decodeFrom_whole hp hlead, hc]
  split
  · next hone htwo =>
    have hlead := (lead_two (v / 64 % 32) (by omega)).resolve_left (by omega)
    have hvalue : v / 64 % 32 * 64 + v % 64 = v := by omega
    rw [List.cons_append, List.singleton_append, decodeFrom_first hp hlead,
      decodeFrom_last (by omega) (by omega) (by omega), hvalue, hc]
  split
  · next hone htwo hthree =>
    have hlead := lead_three (v / 4096 % 16) (by omega)
    -- a short form and a surrogate are excluded by the second byte
    have hleast : (if v / 4096 % 16 = 0 then 0xA0 else 0x80 : UInt8).toNat ≤
        v / 64 % 64 + 128 := by
      simp only [hif, UInt8.reduceToNat]
      split <;> omega
    have hmost : v / 64 % 64 + 128 ≤
        (if v / 4096 % 16 = 13 then 0x9F else 0xBF : UInt8).toNat := by
      simp only [hif, UInt8.reduceToNat]
      split <;> omega
    have hvalue : (v / 4096 % 16 * 64 + v / 64 % 64) * 64 + v % 64 = v := by omega
    rw [List.cons_append, List.cons_append, List.singleton_append, decodeFrom_first hp hlead,
      decodeFrom_tail (by omega) hleast hmost,
      decodeFrom_last (by omega) (by omega) (by omega), hvalue, hc]
  · next hone htwo hthree =>
    have hlead := lead_four (v / 262144 % 8) (by omega)
    have hleast : (if v / 262144 % 8 = 0 then 0x90 else 0x80 : UInt8).toNat ≤
        v / 4096 % 64 + 128 := by
      simp only [hif, UInt8.reduceToNat]
      split <;> omega
    have hmost : v / 4096 % 64 + 128 ≤
        (if v / 262144 % 8 = 4 then 0x8F else 0xBF : UInt8).toNat := by
      simp only [hif, UInt8.reduceToNat]
      split <;> omega
    have hvalue : ((v / 262144 % 8 * 64 + v / 4096 % 64) * 64 + v / 64 % 64) * 64 + v % 64 = v := by
      omega
    rw [List.cons_append, List.cons_append, List.cons_append, List.singleton_append,
      decodeFrom_first hp hlead,
      decodeFrom_tail (by omega) hleast hmost,
      decodeFrom_tail (by omega) (by omega) (by omega),
      decodeFrom_last (by omega) (by omega) (by omega), hvalue, hc]

theorem decode_encode (cs : List Char) : decode (encode cs) = cs := by
  unfold decode encode
  induction cs with
  | nil => rfl
  | cons c cs ih => rw [List.flatMap_cons, decodeFrom_char Partial.proper_default, ih]; rfl

end ClientGen.Text.Utf8
