import ClientGen.Proofs.Text.Percent
import ClientGen.Proofs.Text.Split
import ClientGen.Reference

namespace ClientGen

namespace Text

/-- Replace every occurrence of two characters by one, from the start on. -/
def replacePair (first second replacement : Char) : List Char → List Char
  | [] => []
  | [c] => [c]
  | c :: d :: rest =>
    if c = first ∧ d = second then replacement :: replacePair first second replacement rest
    else c :: replacePair first second replacement (d :: rest)

section ReplacePair

variable {first second replacement c : Char} {rest : List Char}

theorem replacePair_cons_cons (rest : List Char) :
    replacePair first second replacement (first :: second :: rest) =
      replacement :: replacePair first second replacement rest := by
  rw [replacePair, if_pos ⟨rfl, rfl⟩]

theorem replacePair_cons (h : ¬ (c = first ∧ rest.head? = some second)) :
    replacePair first second replacement (c :: rest) =
      c :: replacePair first second replacement rest := by
  cases rest with
  | nil => rfl
  | cons d rest =>
    rw [replacePair, if_neg]
    rintro ⟨hc, hd⟩
    exact h ⟨hc, congrArg some hd⟩

theorem head?_of_head?_replacePair (hc : c ≠ replacement)
    (h : (replacePair first second replacement rest).head? = some c) : rest.head? = some c := by
  unfold replacePair at h
  split at h
  · exact h
  · exact h
  · split at h
    · cases h
      exact absurd rfl hc
    · exact h

end ReplacePair

end Text

namespace Reference

open Text Text.Percent

variable {c : Char} {cs rest : List Char}

theorem unescape_slash (rest : List Char) : unescape ('~' :: '1' :: rest) = '/' :: unescape rest :=
  rfl

theorem unescape_tilde (rest : List Char) : unescape ('~' :: '0' :: rest) = '~' :: unescape rest :=
  rfl

theorem unescape_cons_of_ne (hc : c ≠ '~') (rest : List Char) :
    unescape (c :: rest) = c :: unescape rest := by
  rw [unescape.eq_def]
  split
  · next h => cases h
  · next h =>
    cases h
    exact absurd rfl hc
  · next h =>
    cases h
    exact absurd rfl hc
  · next h =>
    cases h
    rfl

theorem unescape_escape (cs : List Char) : unescape (escape cs) = cs := by
  induction cs with
  | nil => rfl
  | cons c cs ih =>
    rw [escape]
    by_cases htilde : c = '~'
    · rw [if_pos htilde, List.cons_append, List.singleton_append, unescape_tilde, ih, htilde]
    · rw [if_neg htilde]
      by_cases hslash : c = '/'
      · rw [if_pos hslash, List.cons_append, List.singleton_append, unescape_slash, ih, hslash]
      · rw [if_neg hslash, List.singleton_append, unescape_cons_of_ne htilde, ih]

theorem escape_injective {cs cs' : List Char} (h : escape cs = escape cs') : cs = cs' := by
  rw [← unescape_escape cs, h, unescape_escape]

/-- Undoing the escapes in one pass is the same as replacing `~1` first and `~0` after it. -/
theorem unescape_eq_replacePair (cs : List Char) :
    unescape cs = replacePair '~' '0' '~' (replacePair '~' '1' '/' cs) := by
  fun_induction unescape cs with
  | case1 => rfl
  | case2 rest ih =>
    rw [ih, replacePair_cons_cons, replacePair_cons]
    intro h
    exact absurd h.1 (by decide)
  | case3 rest ih =>
    have htilde : ¬ ('~' = '~' ∧ ('0' :: rest).head? = some '1') := by
      rintro ⟨-, hhead⟩
      cases hhead
    have hzero : ¬ ('0' = '~' ∧ rest.head? = some '1') := fun h => absurd h.1 (by decide)
    rw [ih, replacePair_cons htilde, replacePair_cons hzero, replacePair_cons_cons]
  | case4 c rest hslash htilde ih =>
    have hone : ¬ (c = '~' ∧ rest.head? = some '1') := by
      rintro ⟨hc, hhead⟩
      obtain ⟨rest', hrest⟩ := List.head?_eq_some_iff.1 hhead
      exact hslash rest' hc hrest
    rw [ih, replacePair_cons hone, replacePair_cons]
    rintro ⟨hc, hhead⟩
    have hrest := head?_of_head?_replacePair (by decide) hhead
    obtain ⟨rest', hrest⟩ := List.head?_eq_some_iff.1 hrest
    exact htilde rest' hc hrest

theorem length_unescape_cons_le (c : Char) (rest : List Char) :
    (unescape (c :: rest)).length ≤ (unescape rest).length + 1 := by
  rw [unescape.eq_def (c :: rest)]
  split
  · next h => cases h
  · next h =>
    cases h
    rw [unescape_cons_of_ne (by decide), List.length_cons, List.length_cons]
    omega
  · next h =>
    cases h
    rw [unescape_cons_of_ne (by decide), List.length_cons, List.length_cons]
    omega
  · next h =>
    cases h
    exact Nat.le_refl _

theorem length_unescape_append_le (cs rest : List Char) :
    (unescape (cs ++ rest)).length ≤ cs.length + (unescape rest).length := by
  induction cs with
  | nil => simp
  | cons c cs ih =>
    have hcons := length_unescape_cons_le c (cs ++ rest)
    rw [List.cons_append, List.length_cons]
    omega

theorem escape_cons_of_ne (htilde : c ≠ '~') (hslash : c ≠ '/') (rest : List Char) :
    escape (c :: rest) = c :: escape rest := by
  rw [escape, if_neg htilde, if_neg hslash, List.singleton_append]

theorem ne_of_isSome_hexValue? (h : (hexValue? c).isSome) : c ≠ '~' ∧ c ≠ '/' := by
  constructor <;> (rintro rfl; exact absurd h (by decide))

theorem escape_eq_cons_iff (hc : (hexValue? c).isSome) {tail : List Char} :
    escape cs = c :: tail ↔ ∃ rest, cs = c :: rest ∧ escape rest = tail := by
  obtain ⟨htilde, hslash⟩ := ne_of_isSome_hexValue? hc
  constructor
  · intro h
    cases cs with
    | nil => cases h
    | cons d rest =>
      rw [escape] at h
      split at h
      · cases h
        exact absurd rfl htilde
      split at h
      · cases h
        exact absurd rfl htilde
      · cases h
        exact ⟨rest, rfl, rfl⟩
  · rintro ⟨rest, rfl, rfl⟩
    exact escape_cons_of_ne htilde hslash rest

theorem beginsEscape_escape : BeginsEscape (c :: escape rest) ↔ BeginsEscape (c :: rest) := by
  rw [beginsEscape_iff, beginsEscape_iff]
  constructor
  · rintro ⟨d, e, tail, he, hd, hh⟩
    obtain ⟨rfl, htail⟩ := List.cons.inj he
    obtain ⟨rest', rfl, hrest'⟩ := (escape_eq_cons_iff hd).1 htail
    obtain ⟨rest'', rfl, -⟩ := (escape_eq_cons_iff hh).1 hrest'
    exact ⟨d, e, rest'', rfl, hd, hh⟩
  · rintro ⟨d, e, tail, he, hd, hh⟩
    obtain ⟨rfl, rfl⟩ := List.cons.inj he
    have htail := (escape_eq_cons_iff hh).2 ⟨tail, rfl, rfl⟩
    have hrest := (escape_eq_cons_iff hd).2 ⟨_, rfl, htail⟩
    exact ⟨d, e, escape tail, by rw [hrest], hd, hh⟩

theorem hasEscape_escape : HasEscape (escape cs) ↔ HasEscape cs := by
  induction cs with
  | nil => exact Iff.rfl
  | cons c cs ih =>
    by_cases htilde : c = '~'
    · subst htilde
      change HasEscape ('~' :: '0' :: escape cs) ↔ _
      rw [hasEscape_cons_of_ne (by decide), hasEscape_cons_of_ne (by decide),
        hasEscape_cons_of_ne (by decide), ih]
    by_cases hslash : c = '/'
    · subst hslash
      change HasEscape ('~' :: '1' :: escape cs) ↔ _
      rw [hasEscape_cons_of_ne (by decide), hasEscape_cons_of_ne (by decide),
        hasEscape_cons_of_ne (by decide), ih]
    · rw [escape_cons_of_ne htilde hslash, hasEscape_cons, hasEscape_cons, beginsEscape_escape, ih]

section Length

variable {p : Utf8.Partial}

/-- How many characters a written text gives at most after a partial character. -/
def Shrinks (p : Utf8.Partial) (cs : List Char) : Prop :=
  (unescape (Utf8.decodeFrom p (bytes cs))).length ≤ p.spoiled.length + (unescape cs).length ∧
    (HasEscape cs → (unescape (Utf8.decodeFrom p (bytes cs))).length <
      p.spoiled.length + (unescape cs).length)

theorem shrinks_nil (p : Utf8.Partial) : Shrinks p [] := by
  have hspoiled := length_unescape_append_le p.spoiled []
  rw [List.append_nil] at hspoiled
  exact ⟨hspoiled, nofun⟩

theorem Shrinks.escape {d e : Char} (hd : (hexValue? d).isSome) (he : (hexValue? e).isSome)
    (h : ∀ p : Utf8.Partial, p.Proper → Shrinks p rest) (p : Utf8.Partial) :
    Shrinks p ('%' :: d :: e :: rest) := by
  obtain ⟨a, ha⟩ := Option.isSome_iff_exists.1 hd
  obtain ⟨b, hb⟩ := Option.isSome_iff_exists.1 he
  have hlt : (unescape (Utf8.decodeFrom p (bytes ('%' :: d :: e :: rest)))).length <
      p.spoiled.length + (unescape ('%' :: d :: e :: rest)).length := by
    have hrest := (h _ (Utf8.proper_step p (UInt8.ofNat (a * 16 + b)))).1
    have hstep := Utf8.length_step p (UInt8.ofNat (a * 16 + b))
    have happend := length_unescape_append_le (Utf8.step p (UInt8.ofNat (a * 16 + b))).1
      (Utf8.decodeFrom (Utf8.step p (UInt8.ofNat (a * 16 + b))).2 (bytes rest))
    rw [bytes_escape ha hb, Utf8.decodeFrom, unescape_cons_of_ne (by decide),
      unescape_cons_of_ne (ne_of_isSome_hexValue? hd).1,
      unescape_cons_of_ne (ne_of_isSome_hexValue? he).1]
    simp only [List.length_cons]
    omega
  exact ⟨Nat.le_of_lt hlt, fun _ => hlt⟩

theorem decodeFrom_bytes_cons (hp : p.Proper) (hcs : ¬ BeginsEscape (c :: rest)) :
    Utf8.decodeFrom p (bytes (c :: rest)) =
      p.spoiled ++ c :: Utf8.decodeFrom {} (bytes rest) := by
  rw [bytes_cons hcs, Utf8.decodeFrom_char hp]

theorem Shrinks.cons (hp : p.Proper) (hcs : ¬ BeginsEscape (c :: rest))
    (hc : unescape (c :: rest) = c :: unescape rest) (h : Shrinks {} rest) :
    Shrinks p (c :: rest) := by
  have happend := length_unescape_append_le p.spoiled (c :: Utf8.decodeFrom {} (bytes rest))
  have hcons := length_unescape_cons_le c (Utf8.decodeFrom {} (bytes rest))
  have hnone : (Utf8.Partial.spoiled {}).length = 0 := rfl
  unfold Shrinks at h ⊢
  rw [decodeFrom_bytes_cons hp hcs, hc, List.length_cons, hasEscape_cons, or_iff_right hcs]
  refine ⟨by omega, fun hrest => ?_⟩
  have hlt := h.2 hrest
  omega

theorem Shrinks.pair {d e : Char} (hp : p.Proper) (hd : d ≠ '%')
    (hpair : ∀ rest, unescape ('~' :: d :: rest) = e :: unescape rest) (h : Shrinks {} rest) :
    Shrinks p ('~' :: d :: rest) := by
  have hread : Utf8.decodeFrom p (bytes ('~' :: d :: rest)) =
      p.spoiled ++ '~' :: d :: Utf8.decodeFrom {} (bytes rest) := by
    rw [decodeFrom_bytes_cons hp (not_beginsEscape_of_ne (by decide)),
      decodeFrom_bytes_cons Utf8.Partial.proper_default (not_beginsEscape_of_ne hd)]
    rfl
  have happend := length_unescape_append_le p.spoiled
    ('~' :: d :: Utf8.decodeFrom {} (bytes rest))
  have hnone : (Utf8.Partial.spoiled {}).length = 0 := rfl
  unfold Shrinks at h ⊢
  rw [hread, hpair, List.length_cons, hasEscape_cons_of_ne (by decide), hasEscape_cons_of_ne hd]
  rw [hpair, List.length_cons] at happend
  refine ⟨by omega, fun hrest => ?_⟩
  have hlt := h.2 hrest
  omega

/-- Read with percent signs and then tildes, a text gives no more characters than with tildes only,
and fewer if it has an escape with a percent sign. -/
theorem shrinks (hp : p.Proper) (cs : List Char) : Shrinks p cs := by
  induction hn : cs.length using Nat.strongRecOn generalizing p cs with
  | ind n ih =>
    subst hn
    by_cases hcs : BeginsEscape cs
    · obtain ⟨d, e, rest, rfl, hd, he⟩ := beginsEscape_iff.1 hcs
      apply Shrinks.escape hd he
      intro p hp
      apply ih rest.length _ hp rest rfl
      simp only [List.length_cons]
      omega
    · fun_cases unescape cs with
      | case1 => exact shrinks_nil p
      | case2 rest =>
        apply Shrinks.pair hp (by decide) unescape_slash
        exact ih rest.length (by simp only [List.length_cons]; omega) Utf8.Partial.proper_default
          rest rfl
      | case3 rest =>
        apply Shrinks.pair hp (by decide) unescape_tilde
        exact ih rest.length (by simp only [List.length_cons]; omega) Utf8.Partial.proper_default
          rest rfl
      | case4 c rest hslash htilde =>
        apply Shrinks.cons hp hcs (unescape.eq_4 c rest hslash htilde)
        exact ih rest.length (by simp) Utf8.Partial.proper_default rest rfl

end Length

/-- An escaped name is read back, unless it holds what reads as an escape with a percent sign. -/
theorem decodeSegment_escape_iff : decodeSegment (escape cs) = cs ↔ ¬ HasEscape cs := by
  rw [← hasEscape_escape, decodeSegment]
  constructor
  · intro h hcs
    have hlt := (shrinks Utf8.Partial.proper_default (escape cs)).2 hcs
    have hnone : (Utf8.Partial.spoiled {}).length = 0 := rfl
    rw [unescape_escape, hnone, Nat.zero_add] at hlt
    change (unescape (decode (escape cs))).length < _ at hlt
    rw [h] at hlt
    exact absurd hlt (Nat.lt_irrefl _)
  · intro h
    rw [decode_of_not_hasEscape h, unescape_escape]

/-- How a character of a name is written so that it is read back. -/
def writeChar (c : Char) : List Char :=
  if c = '~' then ['~', '0'] else if c = '/' then ['~', '1']
  else if c = '%' then ['%', '2', '5'] else [c]

def writeName (cs : List Char) : List Char := cs.flatMap writeChar

theorem bytes_writeChar (c : Char) (rest : List Char) :
    bytes (writeChar c ++ rest) = Utf8.encode (escape [c]) ++ bytes rest := by
  unfold writeChar
  by_cases htilde : c = '~'
  · rw [if_pos htilde, htilde, List.cons_append, List.singleton_append,
      bytes_cons_of_ne (by decide), bytes_cons_of_ne (by decide)]
    rfl
  rw [if_neg htilde]
  by_cases hslash : c = '/'
  · rw [if_pos hslash, hslash, List.cons_append, List.singleton_append,
      bytes_cons_of_ne (by decide), bytes_cons_of_ne (by decide)]
    rfl
  rw [if_neg hslash, escape_cons_of_ne htilde hslash]
  by_cases hpercent : c = '%'
  · rw [if_pos hpercent, hpercent]
    rfl
  · rw [if_neg hpercent, List.singleton_append, bytes_cons_of_ne hpercent]
    simp [Utf8.encode, escape]

theorem bytes_writeName (cs : List Char) : bytes (writeName cs) = Utf8.encode (escape cs) := by
  induction cs with
  | nil => rfl
  | cons c cs ih =>
    have hescape : escape (c :: cs) = escape [c] ++ escape cs := by simp [escape]
    rw [writeName, List.flatMap_cons, bytes_writeChar, ← writeName, ih, hescape, Utf8.encode,
      Utf8.encode, Utf8.encode, List.flatMap_append]

theorem decodeSegment_writeName (cs : List Char) : decodeSegment (writeName cs) = cs := by
  rw [decodeSegment, decode, bytes_writeName, Utf8.decode_encode, unescape_escape]

theorem slash_not_mem_writeName (cs : List Char) : '/' ∉ writeName cs := by
  intro h
  obtain ⟨c, -, hc⟩ := List.mem_flatMap.1 h
  unfold writeChar at hc
  grind

theorem slash_not_mem_escape (cs : List Char) : '/' ∉ escape cs := by
  induction cs with
  | nil => exact List.not_mem_nil
  | cons c cs ih =>
    rw [escape, List.mem_append, not_or]
    refine ⟨?_, ih⟩
    split
    · decide
    split
    · decide
    · next hslash =>
      rw [List.mem_singleton]
      exact Ne.symm hslash

end Reference

end ClientGen
