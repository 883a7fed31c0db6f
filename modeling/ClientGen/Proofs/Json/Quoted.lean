import ClientGen.Json.Printer

namespace ClientGen.Json

variable {c : Char} {cs ds rest rest' : List Char}

/-- Read the character at the start of the inside of a JSON string. -/
def unescape : List Char → Option (Char × List Char)
  | '\\' :: 'b' :: rest => some ('\x08', rest)
  | '\\' :: 't' :: rest => some ('\t', rest)
  | '\\' :: 'n' :: rest => some ('\n', rest)
  | '\\' :: 'f' :: rest => some ('\x0c', rest)
  | '\\' :: 'r' :: rest => some ('\r', rest)
  | '\\' :: 'u' :: '0' :: '0' :: high :: low :: rest =>
    (Text.hexNumber? [high, low]).map fun n => (Char.ofNat n, rest)
  | '\\' :: c :: rest => some (c, rest)
  | '"' :: _ => none
  | c :: rest => some (c, rest)
  | [] => none

theorem hexNumber?_digits : ∀ n < 0x20,
    Text.hexNumber? [Text.lowerHexDigit (n / 16), Text.lowerHexDigit (n % 16)] = some n := by
  decide

theorem unescape_plain (hquote : c ≠ '"') (hslash : c ≠ '\\') :
    unescape (c :: rest) = some (c, rest) := by
  unfold unescape
  split <;> simp_all

theorem unescape_escapeChar (c : Char) (rest : List Char) :
    unescape (escapeChar c ++ rest) = some (c, rest) := by
  unfold escapeChar
  split
  · rfl
  · rfl
  · rfl
  · rfl
  · rfl
  · rfl
  · rfl
  · next hquote hslash _ _ _ _ _ =>
    split
    · next hlow =>
      have hnumber := hexNumber?_digits c.toNat hlow
      simp only [List.cons_append, List.nil_append, unescape, hnumber, Option.map_some,
        Char.ofNat_toNat]
    · exact unescape_plain hquote hslash

theorem escaped_cancel
    (h : cs.flatMap escapeChar ++ '"' :: rest = ds.flatMap escapeChar ++ '"' :: rest') :
    cs = ds ∧ rest = rest' := by
  have hend (rest : List Char) : unescape ('"' :: rest) = none := rfl
  induction cs generalizing ds with
  | nil =>
    cases ds with
    | nil => exact ⟨rfl, List.tail_eq_of_cons_eq h⟩
    | cons d ds =>
      rw [List.flatMap_cons, List.append_assoc] at h
      have hread := congrArg unescape h
      rw [unescape_escapeChar, List.flatMap_nil, List.nil_append, hend] at hread
      cases hread
  | cons c cs ih =>
    rw [List.flatMap_cons, List.append_assoc] at h
    have hread := congrArg unescape h
    rw [unescape_escapeChar] at hread
    cases ds with
    | nil =>
      rw [List.flatMap_nil, List.nil_append, hend] at hread
      cases hread
    | cons d ds =>
      rw [List.flatMap_cons, List.append_assoc, unescape_escapeChar] at hread
      obtain ⟨rfl, hrest⟩ := Prod.mk.inj (Option.some.inj hread)
      obtain ⟨rfl, rfl⟩ := ih hrest
      exact ⟨rfl, rfl⟩

theorem toList_quote (s : String) :
    (quote s).toList = '"' :: s.toList.flatMap escapeChar ++ ['"'] := by
  rw [quote, String.toList_ofList]

/-- A JSON string tells its text and what stands behind it. -/
theorem quote_cancel {s t : String} (h : (quote s).toList ++ rest = (quote t).toList ++ rest') :
    s = t ∧ rest = rest' := by
  rw [toList_quote, toList_quote, List.append_assoc, List.append_assoc, List.cons_append,
    List.cons_append] at h
  obtain ⟨htext, hrest⟩ := escaped_cancel (List.tail_eq_of_cons_eq h)
  exact ⟨String.toList_inj.1 htext, hrest⟩

end ClientGen.Json
