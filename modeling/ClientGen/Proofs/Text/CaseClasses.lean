import ClientGen.Proofs.Text.Words

namespace ClientGen.Text

variable {rows : List CodeRange} {shifts : List CaseShift} {special : List (Nat × List Nat)}
  {targets : List Char} {side : Bool} {a b n : Nat} {c : Char}

theorem toNat_ofNat (h : n.isValidChar) : (Char.ofNat n).toNat = n := by
  have hchar : Char.ofNat n = Char.ofNatAux n h := dif_pos h
  exact congrArg Char.toNat hchar

theorem codes_of_isAlpha (h : c.isAlpha = true) :
    0x41 ≤ c.toNat ∧ c.toNat ≤ 0x5a ∨ 0x61 ≤ c.toNat ∧ c.toNat ≤ 0x7a := by
  have hcase : (c.isUpper || c.isLower) = true := h
  rcases Bool.or_eq_true_iff.1 hcase with hupper | hlower
  · have hcodes : 'A'.val ≤ c.val ∧ c.val ≤ 'Z'.val := of_decide_eq_true hupper
    exact .inl ⟨UInt32.le_iff_toNat_le.1 hcodes.1, UInt32.le_iff_toNat_le.1 hcodes.2⟩
  · have hcodes : (decide ('a'.val ≤ c.val) && decide (c.val ≤ 'z'.val)) = true := hlower
    rw [Bool.and_eq_true, decide_eq_true_eq, decide_eq_true_eq] at hcodes
    exact .inr ⟨UInt32.le_iff_toNat_le.1 hcodes.1, UInt32.le_iff_toNat_le.1 hcodes.2⟩

theorem codes_of_isDigit (h : c.isDigit = true) : 0x30 ≤ c.toNat ∧ c.toNat ≤ 0x39 := by
  have hcodes : (decide ('0'.val ≤ c.val) && decide (c.val ≤ '9'.val)) = true := h
  rw [Bool.and_eq_true, decide_eq_true_eq, decide_eq_true_eq] at hcodes
  exact ⟨UInt32.le_iff_toNat_le.1 hcodes.1, UInt32.le_iff_toNat_le.1 hcodes.2⟩

/-- What a case map makes of a character. -/
def image (special : List (Nat × List Nat)) (shifts : List CaseShift) (c : Char) : List Char :=
  match special.lookup c.toNat with
  | some image => image.map Char.ofNat
  | none => [Char.ofNat (shiftBy shifts c.toNat)]

theorem toUpper_eq (c : Char) : toUpper c = image upperSpecial upperShifts c := rfl

theorem image_cases (special : List (Nat × List Nat)) (shifts : List CaseShift) (c : Char) :
    (∃ codes, (c.toNat, codes) ∈ special ∧ image special shifts c = codes.map Char.ofNat) ∨
    image special shifts c = [Char.ofNat (shiftBy shifts c.toNat)] := by
  rw [image]
  split
  case h_1 codes hcodes =>
    obtain ⟨before, after, hspecial, -⟩ := List.lookup_eq_some_iff.1 hcodes
    have hentry : (c.toNat, codes) ∈ special := by
      rw [hspecial]
      exact List.mem_append_right _ List.mem_cons_self
    exact .inl ⟨codes, hentry, rfl⟩
  case h_2 => exact .inr rfl

theorem shiftBy_cases (shifts : List CaseShift) (n : Nat) :
    (∃ s ∈ shifts, s.first ≤ n ∧ n ≤ s.last ∧ (n - s.first) % s.step = 0 ∧
      shiftBy shifts n = ((n : Int) + s.shift).toNat) ∨
    shiftBy shifts n = n := by
  rw [shiftBy]
  split
  case h_1 s hs =>
    split
    case isTrue hrow =>
      have hlast : n ≤ s.last := by simpa using List.find?_some hs
      rw [Bool.and_eq_true, decide_eq_true_eq, beq_iff_eq] at hrow
      exact .inl ⟨s, List.mem_of_find?_eq_some hs, hrow.1, hlast, hrow.2, rfl⟩
    case isFalse => exact .inr rfl
  case h_2 => exact .inr rfl

def CaseShift.avoids (targets : List Char) (s : CaseShift) : Bool :=
  targets.all fun d => (d.toNat : Int) < s.first + s.shift || s.last + s.shift < d.toNat

/-- No row of a case map and no special image leads to some characters. -/
structure Avoids (special : List (Nat × List Nat)) (shifts : List CaseShift)
    (targets : List Char) : Prop where
  rows : ∀ s ∈ shifts, s.avoids targets = true
  images : ∀ e ∈ special, ∀ n ∈ e.2, Char.ofNat n ∉ targets
  zero : '\x00' ∉ targets

theorem Avoids.not_mem_image (h : Avoids special shifts targets)
    (hc : c ∈ targets → shiftBy shifts c.toNat ≠ c.toNat) :
    ∀ d ∈ image special shifts c, d ∉ targets := by
  intro d hd
  rcases image_cases special shifts c with ⟨codes, hcodes, himage⟩ | himage
  · rw [himage] at hd
    obtain ⟨n, hn, rfl⟩ := List.mem_map.1 hd
    exact h.images _ hcodes n hn
  · rw [himage, List.mem_singleton] at hd
    intro hmem
    rcases shiftBy_cases shifts c.toNat with ⟨s, hs, hfirst, hlast, -, hmoved⟩ | hstays
    · by_cases hvalid : (shiftBy shifts c.toNat).isValidChar
      · have hcode : d.toNat = shiftBy shifts c.toNat := hd ▸ toNat_ofNat hvalid
        have havoid := List.all_eq_true.1 (h.rows s hs) d hmem
        rw [Bool.or_eq_true, decide_eq_true_eq, decide_eq_true_eq] at havoid
        have hpos : d.toNat ≠ 0 := by
          intro hzero
          have hchar : d = '\x00' := Char.toNat_inj.1 hzero
          exact h.zero (hchar ▸ hmem)
        omega
      · have hzero : d = '\x00' := hd.trans (dif_neg hvalid)
        exact h.zero (hzero ▸ hmem)
    · rw [hstays, Char.ofNat_toNat] at hd
      exact hc (hd ▸ hmem) hstays

/-- Whether a table holds all code points of a range, or none. -/
def side? (rows : List CodeRange) (a b : Nat) : Option Bool :=
  match rows.find? (fun r => a ≤ r.last) with
  | some r =>
    if b ≤ r.last then
      if b < r.first then some false
      else if r.first ≤ a ∧ r.step = 1 then some true
      else none
    else none
  | none => some false

theorem find?_last {r : CodeRange} (h : rows.find? (fun r => a ≤ r.last) = some r) (ha : a ≤ n)
    (hn : n ≤ r.last) : rows.find? (fun r => n ≤ r.last) = some r := by
  obtain ⟨-, before, after, hrows, hbefore⟩ := List.find?_eq_some_iff_append.1 h
  refine List.find?_eq_some_iff_append.2 ⟨decide_eq_true hn, before, after, hrows, ?_⟩
  intro x hx
  have hx := hbefore x hx
  simp only [Bool.not_eq_true', decide_eq_false_iff_not] at hx ⊢
  omega

theorem inTable_of_side? (h : side? rows a b = some side) (ha : a ≤ n) (hb : n ≤ b) :
    inTable rows n = side := by
  rw [side?] at h
  rw [inTable]
  split at h
  case h_1 r hr =>
    split at h
    case isFalse => cases h
    case isTrue hlast =>
      rw [find?_last hr ha (Nat.le_trans hb hlast)]
      split at h
      case isTrue hout =>
        have hfirst : ¬ r.first ≤ n := by omega
        cases h
        simp [CodeRange.contains, hfirst]
      case isFalse =>
        split at h
        case isFalse => cases h
        case isTrue hin =>
          have hfirst : r.first ≤ n := Nat.le_trans hin.1 ha
          have hn : n ≤ r.last := Nat.le_trans hb hlast
          cases h
          simp [CodeRange.contains, hfirst, hn, hin.2, Nat.mod_one]
  case h_2 hnone =>
    cases h
    have hlater : rows.find? (fun r => n ≤ r.last) = none := by
      rw [List.find?_eq_none] at hnone ⊢
      intro r hr hn
      exact hnone r hr (decide_eq_true (Nat.le_trans ha (of_decide_eq_true hn)))
    rw [hlater]

def liesWithin (blocks : List CodeRange) (a b : Nat) : Bool :=
  blocks.any fun r => r.first ≤ a && b ≤ r.last

theorem inTable_of_liesWithin {blocks : List CodeRange}
    (hblocks : ∀ r ∈ blocks, side? rows r.first r.last = some side)
    (h : liesWithin blocks a b = true) (ha : a ≤ n) (hb : n ≤ b) : inTable rows n = side := by
  obtain ⟨r, hr, hlies⟩ := List.any_eq_true.1 h
  rw [Bool.and_eq_true, decide_eq_true_eq, decide_eq_true_eq] at hlies
  exact inTable_of_side? (hblocks r hr) (Nat.le_trans hlies.1 ha) (Nat.le_trans hb hlies.2)

/-- Blocks of code points that a table holds, and blocks of others. -/
structure Sides (rows : List CodeRange) where
  inside : List CodeRange
  outside : List CodeRange
  holds : ∀ r ∈ inside, side? rows r.first r.last = some true
  lacks : ∀ r ∈ outside, side? rows r.first r.last = some false

namespace CaseShift

variable {s : CaseShift}

def isValid (s : CaseShift) : Bool :=
  0 ≤ s.first + s.shift &&
  (s.last + s.shift < 0xd800 || (0xdfff < s.first + s.shift && s.last + s.shift < 0x110000))

/-- A row lies in one of some blocks, and so does its image. -/
def keepsWithin (blocks : List CodeRange) (s : CaseShift) : Bool :=
  liesWithin blocks s.first s.last &&
  liesWithin blocks (s.first + s.shift).toNat (s.last + s.shift).toNat

def keepsEach (rows : List CodeRange) (s : CaseShift) : Bool :=
  (List.range ((s.last - s.first) / s.step + 1)).all fun k =>
    inTable rows (s.first + s.step * k) ==
      inTable rows (((s.first + s.step * k : Nat) : Int) + s.shift).toNat

/-- A row leads neither into the class of a table nor out of it. -/
def keeps (rows : List CodeRange) (sides : Sides rows) (s : CaseShift) : Bool :=
  s.isValid &&
    (s.keepsWithin sides.inside || s.keepsWithin sides.outside || s.keepsEach rows)

theorem isValidChar_image (h : s.isValid = true) (hfirst : s.first ≤ n) (hlast : n ≤ s.last) :
    Nat.isValidChar ((n : Int) + s.shift).toNat := by
  simp only [isValid, Bool.and_eq_true, Bool.or_eq_true, decide_eq_true_eq] at h
  rw [Nat.isValidChar]
  omega

theorem inTable_image_of_keepsWithin {blocks : List CodeRange}
    (hblocks : ∀ r ∈ blocks, side? rows r.first r.last = some side)
    (h : s.keepsWithin blocks = true) (hfirst : s.first ≤ n) (hlast : n ≤ s.last) :
    inTable rows ((n : Int) + s.shift).toNat = inTable rows n := by
  rw [keepsWithin, Bool.and_eq_true] at h
  rw [inTable_of_liesWithin hblocks h.1 hfirst hlast]
  apply inTable_of_liesWithin hblocks h.2
  · omega
  · omega

theorem inTable_image_of_keepsEach (h : s.keepsEach rows = true) (hfirst : s.first ≤ n)
    (hlast : n ≤ s.last) (hstep : (n - s.first) % s.step = 0) :
    inTable rows ((n : Int) + s.shift).toNat = inTable rows n := by
  have hcode : s.first + s.step * ((n - s.first) / s.step) = n := by
    have hdiv := Nat.div_add_mod (n - s.first) s.step
    omega
  have hk : (n - s.first) / s.step ∈ List.range ((s.last - s.first) / s.step + 1) :=
    List.mem_range.2 (Nat.lt_succ_of_le (Nat.div_le_div_right (by omega)))
  have hsame := List.all_eq_true.1 h _ hk
  rw [hcode, beq_iff_eq] at hsame
  exact hsame.symm

end CaseShift

theorem inTable_shiftBy {sides : Sides rows} (h : ∀ s ∈ shifts, s.keeps rows sides = true)
    (c : Char) :
    inTable rows (Char.ofNat (shiftBy shifts c.toNat)).toNat = inTable rows c.toNat := by
  rcases shiftBy_cases shifts c.toNat with ⟨s, hs, hfirst, hlast, hstep, hmoved⟩ | hstays
  · have hkeeps := h s hs
    rw [CaseShift.keeps, Bool.and_eq_true, Bool.or_eq_true, Bool.or_eq_true] at hkeeps
    rw [hmoved, toNat_ofNat (CaseShift.isValidChar_image hkeeps.1 hfirst hlast)]
    rcases hkeeps.2 with (hinside | houtside) | heach
    · exact CaseShift.inTable_image_of_keepsWithin sides.holds hinside hfirst hlast
    · exact CaseShift.inTable_image_of_keepsWithin sides.lacks houtside hfirst hlast
    · exact CaseShift.inTable_image_of_keepsEach heach hfirst hlast hstep
  · rw [hstays, Char.ofNat_toNat]

/-- Letter case leads neither into a class of characters nor out of it, since no row of a case map
crosses the border of the class. -/
structure CaseClosed (p : Char → Bool) : Prop where
  lower : ∀ c, (toLower c).all p = p c
  upper : ∀ c, (toUpper c).all p = p c

def specialWithin (blocks : List CodeRange) (e : Nat × List Nat) : Bool :=
  (e.1 :: e.2.map fun n => (Char.ofNat n).toNat).all fun n => liesWithin blocks n n

theorem all_image {sides : Sides rows} (h : ∀ s ∈ shifts, s.keeps rows sides = true)
    (hspecial : ∀ e ∈ special, specialWithin sides.inside e = true) (c : Char) :
    (image special shifts c).all (fun d => inTable rows d.toNat) = inTable rows c.toNat := by
  rcases image_cases special shifts c with ⟨codes, hcodes, himage⟩ | himage
  · have hwithin := hspecial _ hcodes
    rw [specialWithin, List.all_cons, List.all_map, Bool.and_eq_true, List.all_eq_true] at hwithin
    have hcode (n : Nat) (hn : liesWithin sides.inside n n = true) : inTable rows n = true :=
      inTable_of_liesWithin sides.holds hn (Nat.le_refl n) (Nat.le_refl n)
    rw [himage, hcode _ hwithin.1, List.all_map, List.all_eq_true]
    exact fun n hn => hcode _ (hwithin.2 n hn)
  · rw [himage, List.all_cons, List.all_nil, Bool.and_true]
    exact inTable_shiftBy h c

/-- A class is closed if the rows and the special images of both case maps keep to it. -/
theorem CaseClosed.ofSides (sides : Sides rows)
    (hlower : ∀ s ∈ lowerShifts, s.keeps rows sides = true)
    (hupper : ∀ s ∈ upperShifts, s.keeps rows sides = true)
    (hspecial : ∀ e ∈ lowerSpecial ++ upperSpecial, specialWithin sides.inside e = true) :
    CaseClosed fun c => inTable rows c.toNat where
  lower := all_image hlower fun e he => hspecial e (List.mem_append_left _ he)
  upper := all_image hupper fun e he => hspecial e (List.mem_append_right _ he)

theorem CaseClosed.ofAvoids (hlower : Avoids lowerSpecial lowerShifts targets)
    (hupper : Avoids upperSpecial upperShifts targets)
    (hstay : targets.all (fun c => toLower c == [c] && toUpper c == [c]) = true) :
    CaseClosed fun c => !targets.contains c := by
  have hclass (f : Char → List Char) (hf : ∀ c ∉ targets, ∀ d ∈ f c, d ∉ targets)
      (hself : ∀ c ∈ targets, f c = [c]) (c : Char) :
      (f c).all (fun d => !targets.contains d) = !targets.contains c := by
    by_cases hc : c ∈ targets
    · rw [hself c hc, List.all_cons, List.all_nil, Bool.and_true]
    · rw [List.all_eq_true.2 fun d hd => by simpa using hf c hc d hd]
      simpa using hc
  simp only [List.all_eq_true, Bool.and_eq_true, beq_iff_eq] at hstay
  exact ⟨hclass toLower (fun c hc => hlower.not_mem_image fun h => absurd h hc)
      fun c hc => (hstay c hc).1,
    hclass toUpper (fun c hc => hupper.not_mem_image fun h => absurd h hc)
      fun c hc => (hstay c hc).2⟩

section Closed

variable {p : Char → Bool} (hp : CaseClosed p)
include hp

theorem all_lower (cs : List Char) : (lower cs).all p = cs.all p := by
  have hfinal : p 'ς' = p 'Σ' := by
    have h := hp.upper 'ς'
    have himage : toUpper 'ς' = ['Σ'] := by decide +kernel
    simpa [himage] using h.symm
  have hsigma : p 'σ' = p 'Σ' := by
    have h := hp.lower 'Σ'
    have himage : toLower 'Σ' = ['σ'] := by decide +kernel
    simpa [himage] using h
  have hafter (before : List Char) : (lowerAfter before cs).all p = cs.all p := by
    induction cs generalizing before with
    | nil => rfl
    | cons c cs ih =>
      rw [lowerAfter, List.all_append, ih, List.all_cons]
      by_cases hc : c = 'Σ'
      · rw [if_pos hc]
        split <;> simp [hc, hfinal, hsigma]
      · rw [if_neg hc, hp.lower]
  exact hafter []

theorem all_capitalize (cs : List Char) : (capitalize cs).all p = cs.all p := by
  cases cs with
  | nil => rfl
  | cons c cs => rw [capitalize, List.all_append, hp.upper, List.all_cons]

end Closed

theorem all_camelCase {p : Char → Bool} (hp : CaseClosed p) (cs : List Char) :
    (camelCase cs).all p = (cs.filter isWordChar).all p := by
  rw [← flatten_words, camelCase]
  split
  case h_1 hwords => rw [hwords, List.flatten_nil]
  case h_2 first others hwords =>
    have hothers : others.all (fun word => (capitalize (lower word)).all p) =
        others.all fun word => word.all p := by
      simp only [all_capitalize hp, all_lower hp]
    rw [hwords, List.all_append, all_lower hp, List.all_flatMap, hothers, List.flatten_cons,
      List.all_append, List.all_flatten]

end ClientGen.Text
