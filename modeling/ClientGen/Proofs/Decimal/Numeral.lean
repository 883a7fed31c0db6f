import ClientGen.Decimal.Layout
import ClientGen.Proofs.Decimal.Shortest

namespace ClientGen.Decimal

def ofDigits (cs : List Char) : Nat := Nat.ofDigitChars 10 cs 0

/-- What stands before a mark, and what stands behind it. -/
def cut (mark : Char) : List Char → List Char × List Char
  | [] => ([], [])
  | c :: cs => if c = mark then ([], cs) else (c :: (cut mark cs).1, (cut mark cs).2)

def readExponent : List Char → ℤ
  | '-' :: cs => -ofDigits cs
  | '+' :: cs => ofDigits cs
  | cs => ofDigits cs

def readNumeral (cs : List Char) : Digits :=
  let (digits, exponent) := cut 'e' cs
  let (whole, fraction) := cut '.' digits
  ⟨ofDigits (whole ++ fraction), readExponent exponent - fraction.length⟩

theorem ofDigits_toDigits (n : Nat) : ofDigits (Nat.toDigits 10 n) = n :=
  Nat.ofDigitChars_toDigits (by decide) (by decide)

theorem ofDigits_append (cs ds : List Char) :
    ofDigits (cs ++ ds) = ofDigits cs * 10 ^ ds.length + ofDigits ds := by
  unfold ofDigits
  rw [Nat.ofDigitChars_append, Nat.ofDigitChars_eq_ofDigitChars_zero, Nat.mul_comm]

theorem ofDigits_zeros (count : Nat) : ofDigits (List.replicate count '0') = 0 := by
  unfold ofDigits
  rw [Nat.ofDigitChars_replicate_zero, Nat.mul_zero]

theorem cut_append {mark : Char} {cs : List Char} (h : mark ∉ cs) (rest : List Char) :
    cut mark (cs ++ mark :: rest) = (cs, rest) := by
  induction cs with
  | nil => rw [List.nil_append, cut, if_pos rfl]
  | cons c cs ih =>
    rw [List.mem_cons, not_or] at h
    rw [List.cons_append, cut, if_neg (Ne.symm h.1), ih h.2]

theorem cut_of_not_mem {mark : Char} {cs : List Char} (h : mark ∉ cs) :
    cut mark cs = (cs, []) := by
  induction cs with
  | nil => rfl
  | cons c cs ih =>
    rw [List.mem_cons, not_or] at h
    rw [cut, if_neg (Ne.symm h.1), ih h.2]

def Digital (cs : List Char) : Prop := ∀ c ∈ cs, c.isDigit = true

theorem digital_toDigits (n : Nat) : Digital (Nat.toDigits 10 n) :=
  fun _ hc => Nat.isDigit_of_mem_toDigits (by decide) (by decide) hc

theorem digital_zeros (count : Nat) : Digital (List.replicate count '0') := by
  intro c hc
  rw [List.eq_of_mem_replicate hc]
  rfl

theorem Digital.append {cs ds : List Char} (h : Digital cs) (h' : Digital ds) :
    Digital (cs ++ ds) := by
  intro c hc
  exact (List.mem_append.1 hc).elim (h c) (h' c)

theorem Digital.take {cs : List Char} (h : Digital cs) (n : Nat) : Digital (cs.take n) :=
  fun c hc => h c (List.mem_of_mem_take hc)

theorem Digital.drop {cs : List Char} (h : Digital cs) (n : Nat) : Digital (cs.drop n) :=
  fun c hc => h c (List.mem_of_mem_drop hc)

theorem Digital.not_mem {cs : List Char} {mark : Char} (h : Digital cs)
    (hmark : mark.isDigit = false) : mark ∉ cs := by
  intro hmem
  rw [h mark hmem] at hmark
  cases hmark

def exponentChars (e : ℤ) : List Char :=
  (if e < 0 then ['-'] else ['+']) ++ Nat.toDigits 10 e.natAbs

theorem readExponent_exponentChars (e : ℤ) : readExponent (exponentChars e) = e := by
  unfold exponentChars
  split
  · rw [List.singleton_append, readExponent, ofDigits_toDigits]
    omega
  · rw [List.singleton_append, readExponent, ofDigits_toDigits]
    omega

/-- A numeral with a point or an exponent part, and what it stands for. -/
inductive IsNumeral : List Char → Digits → Prop where
  | point {whole fraction : List Char} (hw : Digital whole) (hne : whole ≠ [])
      (hf : Digital fraction) :
      IsNumeral (whole ++ '.' :: fraction) ⟨ofDigits (whole ++ fraction), -fraction.length⟩
  | scaled {whole fraction : List Char} (hw : Digital whole) (hne : whole ≠ [])
      (hf : Digital fraction) (e : ℤ) :
      IsNumeral (whole ++ '.' :: fraction ++ 'e' :: exponentChars e)
        ⟨ofDigits (whole ++ fraction), e - fraction.length⟩
  | bare {whole : List Char} (hw : Digital whole) (hne : whole ≠ []) (e : ℤ) :
      IsNumeral (whole ++ 'e' :: exponentChars e) ⟨ofDigits whole, e⟩

namespace IsNumeral

variable {cs : List Char} {d d' : Digits}

theorem not_mem_point {whole fraction : List Char} (hw : Digital whole) (hf : Digital fraction) :
    'e' ∉ whole ++ '.' :: fraction := by
  simp only [List.mem_append, List.mem_cons, not_or]
  exact ⟨hw.not_mem rfl, by decide, hf.not_mem rfl⟩

theorem read (h : IsNumeral cs d) : readNumeral cs = d := by
  unfold readNumeral
  cases h with
  | point hw _ hf =>
    rw [cut_of_not_mem (not_mem_point hw hf)]
    dsimp only
    rw [cut_append (hw.not_mem rfl)]
    simp [readExponent, ofDigits]
  | scaled hw _ hf e =>
    rw [cut_append (not_mem_point hw hf)]
    dsimp only
    rw [cut_append (hw.not_mem rfl), readExponent_exponentChars]
  | bare hw _ e =>
    rw [cut_append (hw.not_mem rfl)]
    dsimp only
    rw [cut_of_not_mem (hw.not_mem rfl), readExponent_exponentChars]
    simp

theorem unique (h : IsNumeral cs d) (h' : IsNumeral cs d') : d = d' := h.read.symm.trans h'.read

end IsNumeral

/-- A text is a numeral for a number. -/
def Denotes (cs : List Char) (x : ℚ) : Prop := ∃ d, IsNumeral cs d ∧ d.value = x

theorem Denotes.unique {cs : List Char} {x y : ℚ} (h : Denotes cs x) (h' : Denotes cs y) :
    x = y := by
  obtain ⟨d, hd, rfl⟩ := h
  obtain ⟨d', hd', rfl⟩ := h'
  rw [hd.unique hd']

theorem value_mul_ten_pow (s n : Nat) (e : ℤ) :
    Digits.value ⟨s * 10 ^ n, e⟩ = Digits.value ⟨s, e + n⟩ := by
  unfold Digits.value
  rw [zpow_add₀ (by norm_num), zpow_natCast]
  push_cast
  ring

section layouts

variable {digits : List Char} (hdigits : Digital digits) (hne : digits ≠ [])
include hdigits

include hne in
theorem denotes_whole (count : Nat) :
    Denotes (digits ++ List.replicate count '0' ++ '.' :: List.replicate 1 '0')
      (Digits.value ⟨ofDigits digits, count⟩) := by
  refine ⟨_, .point (hdigits.append (digital_zeros _)) (by simp [hne]) (digital_zeros 1), ?_⟩
  have hread : ofDigits (digits ++ List.replicate count '0' ++ List.replicate 1 '0') =
      ofDigits digits * 10 ^ count * 10 ^ 1 := by
    simp only [ofDigits_append, ofDigits_zeros, List.length_replicate, Nat.add_zero]
  rw [hread, value_mul_ten_pow, value_mul_ten_pow, List.length_replicate]
  congr 2
  omega

theorem denotes_pointed {count : Nat} (htake : digits.take count ≠ []) :
    Denotes (digits.take count ++ '.' :: digits.drop count)
      (Digits.value ⟨ofDigits digits, -(digits.drop count).length⟩) := by
  refine ⟨_, .point (hdigits.take _) htake (hdigits.drop _), ?_⟩
  rw [List.take_append_drop]

theorem denotes_small (count : Nat) :
    Denotes (List.replicate 1 '0' ++ '.' :: (List.replicate count '0' ++ digits))
      (Digits.value ⟨ofDigits digits, -(count + digits.length)⟩) := by
  refine ⟨_, .point (digital_zeros 1) (by decide) ((digital_zeros _).append hdigits), ?_⟩
  have hread : ofDigits (List.replicate 1 '0' ++ (List.replicate count '0' ++ digits)) =
      ofDigits digits := by
    simp only [ofDigits_append, ofDigits_zeros, Nat.zero_mul, Nat.zero_add]
  rw [hread, List.length_append, List.length_replicate, Nat.cast_add]

theorem denotes_scaled (htake : digits.take 1 ≠ []) (e : ℤ) :
    Denotes (digits.take 1 ++ '.' :: digits.drop 1 ++ 'e' :: exponentChars e)
      (Digits.value ⟨ofDigits digits, e - (digits.drop 1).length⟩) := by
  refine ⟨_, .scaled (hdigits.take 1) htake (hdigits.drop 1) e, ?_⟩
  rw [List.take_append_drop]

end layouts

/-- In positional notation digits are a numeral that stands for the same number, wherever the point
is put. -/
theorem denotes_positional (s : Nat) (e : ℤ) :
    Denotes (positionalText json (Nat.toDigits 10 s) e).toList (Digits.value ⟨s, e⟩) := by
  have hdigits := digital_toDigits s
  have hvalue := ofDigits_toDigits s
  have hsome : 0 < (Nat.toDigits 10 s).length := Nat.length_toDigits_pos
  have hne : Nat.toDigits 10 s ≠ [] := Nat.toDigits_ne_nil
  generalize Nat.toDigits 10 s = digits at hdigits hvalue hsome hne
  subst hvalue
  unfold positionalText
  simp only
  split
  · next hwhole =>
    have htext : (String.ofList digits ++ zeros e ++ json.wholeMark).toList =
        digits ++ List.replicate e.toNat '0' ++ '.' :: List.replicate 1 '0' := by
      simp [zeros, json]
    have hexponent : (e.toNat : ℤ) = e := by omega
    have hall := denotes_whole hdigits hne e.toNat
    rw [hexponent] at hall
    rw [htext]
    exact hall
  · next hfraction =>
    split
    · next hfirst =>
      generalize hcount : (e + digits.length - 1).toNat + 1 = count
      have htext : (String.ofList (digits.take count) ++ "." ++
          String.ofList (digits.drop count)).toList =
          digits.take count ++ '.' :: digits.drop count := by simp
      have hlength : -((digits.drop count).length : ℤ) = e := by
        rw [List.length_drop]
        omega
      have htake : digits.take count ≠ [] := by
        simp [List.take_eq_nil_iff, hne, ← hcount]
      have hall := denotes_pointed hdigits htake
      rw [hlength] at hall
      rw [htext]
      exact hall
    · next hfirst =>
      generalize hcount : (-(e + digits.length - 1) - 1).toNat = count
      have htext : ("0." ++ zeros (-(e + digits.length - 1) - 1) ++ String.ofList digits).toList =
          List.replicate 1 '0' ++ '.' :: (List.replicate count '0' ++ digits) := by
        rw [zeros, hcount]
        simp
      have hexponent : -((count : ℤ) + digits.length) = e := by omega
      have hall := denotes_small hdigits count
      rw [hexponent] at hall
      rw [htext]
      exact hall

theorem toList_int (n : ℤ) :
    (toString n).toList = (if n < 0 then ['-'] else []) ++ Nat.toDigits 10 n.natAbs := by
  cases n with
  | ofNat n =>
    have htext : toString (Int.ofNat n) = String.ofList (Nat.toDigits 10 n) :=
      Nat.toString_eq_ofList_toDigits
    have hpos : ¬ Int.ofNat n < 0 := Int.not_lt.2 (Int.natCast_nonneg n)
    rw [htext, if_neg hpos, String.toList_ofList]
    rfl
  | negSucc n =>
    have htext : toString (Int.negSucc n) = "-" ++ String.ofList (Nat.toDigits 10 (n + 1)) := by
      rw [← Nat.toString_eq_ofList_toDigits]
      rfl
    rw [htext, if_pos (Int.negSucc_lt_zero n)]
    simp only [String.toList_append, String.toList_ofList]
    rfl

theorem toList_exponent (e : ℤ) :
    ((if e < 0 then "" else json.plus) ++ toString e).toList = exponentChars e := by
  rw [String.toList_append, toList_int, exponentChars]
  split <;> rfl

theorem denotes_exponent (s : Nat) (e : ℤ) :
    Denotes (exponentText json (Nat.toDigits 10 s) e).toList (Digits.value ⟨s, e⟩) := by
  have hdigits := digital_toDigits s
  have hvalue := ofDigits_toDigits s
  have hsome : 0 < (Nat.toDigits 10 s).length := Nat.length_toDigits_pos
  have hne : Nat.toDigits 10 s ≠ [] := Nat.toDigits_ne_nil
  generalize Nat.toDigits 10 s = digits at hdigits hvalue hsome hne
  subst hvalue
  have hlength := List.length_drop (i := 1) (l := digits)
  unfold exponentText
  simp only
  rw [String.append_assoc, String.toList_append, toList_exponent]
  split
  · next hone =>
    have hdrop : digits.drop 1 = [] := List.isEmpty_iff.1 hone
    have hjoin := List.take_append_drop 1 digits
    rw [hdrop, List.append_nil] at hjoin
    have htext : (String.ofList (digits.take 1) ++ "" ++ String.ofList (digits.drop 1) ++
        "e").toList ++ exponentChars (e + digits.length - 1) =
        digits ++ 'e' :: exponentChars (e + digits.length - 1) := by
      simp [hdrop, hjoin]
    rw [htext]
    refine ⟨_, .bare hdigits hne _, ?_⟩
    rw [hdrop, List.length_nil] at hlength
    congr 2
    omega
  · next hmore =>
    have htext : (String.ofList (digits.take 1) ++ "." ++ String.ofList (digits.drop 1) ++
        "e").toList ++ exponentChars (e + digits.length - 1) =
        digits.take 1 ++ '.' :: digits.drop 1 ++
          'e' :: exponentChars (e + digits.length - 1) := by
      simp
    have htake : digits.take 1 ≠ [] := by simp [List.take_eq_nil_iff, hne]
    have hall := denotes_scaled hdigits htake (e + digits.length - 1)
    have hexponent : e + digits.length - 1 - ((digits.drop 1).length : ℤ) = e := by omega
    rw [hexponent] at hall
    rw [htext]
    exact hall

/-- The number that a double stands for by its text, without its sign. -/
def magnitudeOf : Option Binary → ℚ
  | none => 0
  | some b => (b.shortest json.tie).value

def magnitudeText : Option Binary → String
  | none => "0" ++ json.wholeMark
  | some b =>
    let d := b.shortest json.tie
    let digits := Nat.toDigits 10 d.significand
    let first := d.exponent + digits.length - 1
    if -5 ≤ first && first ≤ 15 then positionalText json digits d.exponent
    else exponentText json digits d.exponent

theorem denotes_magnitude (b : Option Binary) :
    Denotes (magnitudeText b).toList (magnitudeOf b) := by
  cases b with
  | none =>
    have htext : (magnitudeText none).toList =
        List.replicate 1 '0' ++ '.' :: List.replicate 1 '0' := by simp [magnitudeText, json]
    rw [htext]
    refine ⟨_, .point (digital_zeros 1) (by decide) (digital_zeros 1), ?_⟩
    rw [List.replicate_append_replicate, ofDigits_zeros, Digits.value, Nat.cast_zero, zero_mul]
    rfl
  | some b =>
    unfold magnitudeText
    simp only
    split
    · exact denotes_positional _ _
    · exact denotes_exponent _ _

def isNegative (x : Float) : Prop := x.toBits.toNat / 2 ^ 63 = 1

instance (x : Float) : Decidable (isNegative x) := inferInstanceAs (Decidable (_ = _))

theorem text_eq (x : Float) : json.text x =
    (if isNegative x then "-" else "") ++ magnitudeText (Binary.ofBits x.toBits) := by
  unfold Layout.text magnitudeText isNegative
  simp only
  cases Binary.ofBits x.toBits with
  | none => exact String.append_assoc ..
  | some b => rfl

theorem magnitudeOf_injective {bits bits' : UInt64}
    (h : magnitudeOf (Binary.ofBits bits) = magnitudeOf (Binary.ofBits bits')) :
    Binary.ofBits bits = Binary.ofBits bits' := by
  cases hb : Binary.ofBits bits with
  | none =>
    cases hb' : Binary.ofBits bits' with
    | none => rfl
    | some b' =>
      have hpos := (Binary.rounds_shortest (Binary.proper_ofBits hb') json.tie).pos
        (Binary.proper_ofBits hb')
      rw [hb, hb'] at h
      exact absurd h hpos.ne
  | some b =>
    have hpos := (Binary.rounds_shortest (Binary.proper_ofBits hb) json.tie).pos
      (Binary.proper_ofBits hb)
    cases hb' : Binary.ofBits bits' with
    | none =>
      rw [hb, hb'] at h
      exact absurd h.symm hpos.ne
    | some b' =>
      rw [hb, hb'] at h
      rw [Binary.eq_of_shortest_value (Binary.proper_ofBits hb) (Binary.proper_ofBits hb') h]

def Binary.lowBits : Option Binary → Nat
  | none => 0
  | some b =>
    if b.mantissa < 2 ^ 52 then b.mantissa
    else (b.exponent + 1075).toNat * 2 ^ 52 + (b.mantissa - 2 ^ 52)

theorem Binary.lowBits_ofBits (bits : UInt64) : lowBits (ofBits bits) = bits.toNat % 2 ^ 63 := by
  have hsplit : bits.toNat % 2 ^ 63 =
      bits.toNat / 2 ^ 52 % 2 ^ 11 * 2 ^ 52 + bits.toNat % 2 ^ 52 := by omega
  have hfraction : bits.toNat % 2 ^ 52 < 2 ^ 52 := Nat.mod_lt _ (by decide)
  unfold ofBits
  simp only [Nat.pow_eq]
  rw [hsplit]
  generalize bits.toNat % 2 ^ 52 = fraction at *
  generalize bits.toNat / 2 ^ 52 % 2 ^ 11 = biased at *
  split
  · next hzero =>
    rw [hzero, Nat.zero_mul, Nat.zero_add]
    split
    · next hnone =>
      rw [hnone]
      rfl
    · exact if_pos hfraction
  · have hnormal : ¬ 2 ^ 52 + fraction < 2 ^ 52 := by omega
    have hexponent : ((biased : ℤ) - 1075 + 1075).toNat = biased := by omega
    unfold lowBits
    dsimp only
    rw [if_neg hnormal, hexponent, Nat.add_sub_cancel_left]

theorem eq_of_magnitude {x y : Float} (hsign : isNegative x ↔ isNegative y)
    (h : Binary.ofBits x.toBits = Binary.ofBits y.toBits) : x = y := by
  have hlow : x.toBits.toNat % 2 ^ 63 = y.toBits.toNat % 2 ^ 63 := by
    rw [← Binary.lowBits_ofBits, ← Binary.lowBits_ofBits, h]
  unfold isNegative at hsign
  have hx := x.toBits.toNat_lt
  have hy := y.toBits.toNat_lt
  have hbits : x.toBits.toNat = y.toBits.toNat := by omega
  have hbits : x.toBits = y.toBits := UInt64.toNat_inj.1 hbits
  obtain ⟨⟨_, _⟩⟩ := x
  obtain ⟨⟨_, _⟩⟩ := y
  cases hbits
  rfl

theorem exists_digit {cs rest : List Char} (h : Digital cs) (hne : cs ≠ []) :
    ∃ c rest', cs ++ rest = c :: rest' ∧ c.isDigit = true := by
  cases cs with
  | nil => exact absurd rfl hne
  | cons c cs => exact ⟨c, cs ++ rest, rfl, h c List.mem_cons_self⟩

theorem Denotes.head {cs : List Char} {x : ℚ} (h : Denotes cs x) :
    ∃ c rest, cs = c :: rest ∧ c.isDigit = true := by
  obtain ⟨d, hd, -⟩ := h
  cases hd with
  | point hw hne _ => exact exists_digit hw hne
  | scaled hw hne _ e =>
    rw [List.append_assoc]
    exact exists_digit hw hne
  | bare hw hne e => exact exists_digit hw hne

theorem toList_text (x : Float) : (json.text x).toList =
    (if isNegative x then ['-'] else []) ++ (magnitudeText (Binary.ofBits x.toBits)).toList := by
  rw [text_eq, String.toList_append]
  split <;> rfl

theorem Denotes.ne_minus {cs ds : List Char} {x : ℚ} (h : Denotes cs x) : cs ≠ '-' :: ds := by
  obtain ⟨c, rest, rfl, hc⟩ := h.head
  rintro ⟨⟩
  cases hc

/-- Different doubles have different texts. -/
theorem json_text_injective {x y : Float} (h : json.text x = json.text y) : x = y := by
  have hlists := congrArg String.toList h
  rw [toList_text, toList_text] at hlists
  have hx := denotes_magnitude (Binary.ofBits x.toBits)
  have hy := denotes_magnitude (Binary.ofBits y.toBits)
  by_cases hsx : isNegative x
  · by_cases hsy : isNegative y
    · rw [if_pos hsx, if_pos hsy] at hlists
      rw [List.append_cancel_left hlists] at hx
      exact eq_of_magnitude (iff_of_true hsx hsy) (magnitudeOf_injective (hx.unique hy))
    · rw [if_pos hsx, if_neg hsy] at hlists
      exact absurd hlists.symm hy.ne_minus
  · by_cases hsy : isNegative y
    · rw [if_neg hsx, if_pos hsy] at hlists
      exact absurd hlists hx.ne_minus
    · rw [if_neg hsx, if_neg hsy] at hlists
      rw [List.append_cancel_left hlists] at hx
      exact eq_of_magnitude (iff_of_false hsx hsy) (magnitudeOf_injective (hx.unique hy))

end ClientGen.Decimal
