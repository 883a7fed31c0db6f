import ClientGen.Proofs.Text.Utf8
import ClientGen.Text.Percent

namespace ClientGen.Text.Percent

open Utf8 (Partial decodeFrom)

variable {c h l : Char} {cs rest : List Char} {a b : Nat}

/-- A percent sign that two hexadecimal digits follow stands somewhere in the text. -/
inductive HasEscape : List Char → Prop where
  | here {h l : Char} (hh : (hexValue? h).isSome) (hl : (hexValue? l).isSome) (rest : List Char) :
      HasEscape ('%' :: h :: l :: rest)
  | later (c : Char) {rest : List Char} (hrest : HasEscape rest) : HasEscape (c :: rest)

def BeginsEscape : List Char → Prop
  | '%' :: h :: l :: _ => (hexValue? h).isSome ∧ (hexValue? l).isSome
  | _ => False

theorem beginsEscape_iff : BeginsEscape cs ↔ ∃ h l rest, cs = '%' :: h :: l :: rest ∧
    (hexValue? h).isSome ∧ (hexValue? l).isSome := by
  constructor
  · intro hcs
    unfold BeginsEscape at hcs
    split at hcs
    · next h l rest => exact ⟨h, l, rest, rfl, hcs⟩
    · cases hcs
  · rintro ⟨h, l, rest, rfl, hcs⟩
    exact hcs

theorem BeginsEscape.hasEscape (hcs : BeginsEscape cs) : HasEscape cs := by
  obtain ⟨h, l, rest, rfl, hh, hl⟩ := beginsEscape_iff.1 hcs
  exact .here hh hl rest

theorem hasEscape_cons : HasEscape (c :: rest) ↔ BeginsEscape (c :: rest) ∨ HasEscape rest := by
  constructor
  · intro hcs
    cases hcs with
    | here hh hl rest => exact .inl ⟨hh, hl⟩
    | later c hrest => exact .inr hrest
  · intro hcs
    rcases hcs with hcs | hcs
    · exact hcs.hasEscape
    · exact .later c hcs

theorem not_beginsEscape_of_ne (hc : c ≠ '%') : ¬ BeginsEscape (c :: rest) := by
  intro hcs
  obtain ⟨_, _, _, he, -⟩ := beginsEscape_iff.1 hcs
  exact hc (List.cons.inj he).1

theorem hasEscape_cons_of_ne (hc : c ≠ '%') : HasEscape (c :: rest) ↔ HasEscape rest := by
  rw [hasEscape_cons]
  exact or_iff_right (not_beginsEscape_of_ne hc)

theorem bytes_escape (hh : hexValue? h = some a) (hl : hexValue? l = some b) :
    bytes ('%' :: h :: l :: rest) = UInt8.ofNat (a * 16 + b) :: bytes rest := by
  simp only [bytes, hh, hl]

theorem bytes_cons (hcs : ¬ BeginsEscape (c :: rest)) :
    bytes (c :: rest) = String.utf8EncodeChar c ++ bytes rest := by
  rw [bytes.eq_def]
  split
  · next h => cases h
  · next h l rest' he =>
    cases he
    split
    · next a b hh hl =>
      refine absurd ?_ hcs
      rw [BeginsEscape, hh, hl]
      exact ⟨rfl, rfl⟩
    · rfl
  · next he =>
    cases he
    rfl

theorem bytes_cons_of_ne (hc : c ≠ '%') (rest : List Char) :
    bytes (c :: rest) = String.utf8EncodeChar c ++ bytes rest :=
  bytes_cons (not_beginsEscape_of_ne hc)

theorem bytes_of_not_hasEscape (hcs : ¬ HasEscape cs) : bytes cs = Utf8.encode cs := by
  induction cs with
  | nil => rfl
  | cons c rest ih =>
    rw [hasEscape_cons, not_or] at hcs
    rw [bytes_cons hcs.1, ih hcs.2]
    rfl

theorem decode_of_not_hasEscape (hcs : ¬ HasEscape cs) : decode cs = cs := by
  rw [decode, bytes_of_not_hasEscape hcs, Utf8.decode_encode]

theorem hexValue?_upperHexDigit : ∀ n < 16, hexValue? (upperHexDigit n) = some n := by decide

theorem utf8EncodeChar_of_isPlain : ∀ n < 256, isPlain (UInt8.ofNat n) = true →
    Char.ofNat n ≠ '%' ∧ String.utf8EncodeChar (Char.ofNat n) = [UInt8.ofNat n] := by
  decide +kernel

theorem bytes_encodeByte (b : UInt8) (rest : List Char) :
    bytes (encodeByte b ++ rest) = b :: bytes rest := by
  have hlt : b.toNat < 256 := b.toNat_lt
  unfold encodeByte
  split
  · next hplain =>
    rw [← b.ofNat_toNat] at hplain
    obtain ⟨hne, hbyte⟩ := utf8EncodeChar_of_isPlain b.toNat hlt hplain
    rw [List.singleton_append, bytes_cons_of_ne hne, hbyte, b.ofNat_toNat, List.singleton_append]
  · have hhigh := hexValue?_upperHexDigit (b.toNat / 16) (by omega)
    have hlow := hexValue?_upperHexDigit (b.toNat % 16) (by omega)
    have hvalue : b.toNat / 16 * 16 + b.toNat % 16 = b.toNat := by omega
    rw [List.cons_append, List.cons_append, List.singleton_append, bytes_escape hhigh hlow, hvalue,
      b.ofNat_toNat]

theorem bytes_flatMap_encodeByte (bs : List UInt8) : bytes (bs.flatMap encodeByte) = bs := by
  induction bs with
  | nil => rfl
  | cons b bs ih => rw [List.flatMap_cons, bytes_encodeByte, ih]

/-- What was encoded is read back. -/
theorem decode_encode (cs : List Char) : decode (encode cs) = cs := by
  rw [decode, encode, bytes_flatMap_encodeByte, Utf8.decode_encode]

theorem isAlphanum_upperHexDigit : ∀ n < 16, (upperHexDigit n).isAlphanum = true := by decide

/-- Whether no byte is written with a character. -/
def isFree (d : Char) : Bool :=
  !(d.isAlphanum || d ∈ ['-', '_', '.', '!', '~', '*', '\'', '(', ')']) && d ≠ '%'

theorem not_mem_encodeByte {d : Char} (hd : isFree d = true) (b : UInt8) : d ∉ encodeByte b := by
  have hlt : b.toNat < 256 := b.toNat_lt
  obtain ⟨hplain, hpercent⟩ := Bool.and_eq_true_iff.1 hd
  have hdigit : ∀ n < 16, d ≠ upperHexDigit n := by
    rintro n hn rfl
    rw [isAlphanum_upperHexDigit n hn] at hplain
    cases hplain
  intro h
  unfold encodeByte at h
  split at h
  · next hb =>
    rw [List.mem_singleton.1 h] at hplain
    exact absurd hb (by simpa [isPlain] using hplain)
  · rcases List.mem_cons.1 h with rfl | h
    · cases hpercent
    · rcases List.mem_cons.1 h with h | h
      · exact hdigit _ (by omega) h
      · exact hdigit _ (by omega) (List.mem_singleton.1 h)

theorem not_mem_encode {d : Char} (hd : isFree d = true) (cs : List Char) : d ∉ encode cs := by
  intro h
  obtain ⟨b, -, hb⟩ := List.mem_flatMap.1 h
  exact not_mem_encodeByte hd b hb

/-- What a query puts between names, values and items. -/
def delimiters : List Char := ['&', '=', ',', '|', '[', ']']

theorem isFree_of_mem_delimiters {d : Char} (hd : d ∈ delimiters) : isFree d = true := by
  have hall : delimiters.all isFree = true := by decide
  exact List.all_eq_true.1 hall d hd

end ClientGen.Text.Percent
