import ClientGen.Proofs.Decimal.Numeral
import ClientGen.Proofs.Json.Parts
import ClientGen.Proofs.Json.Quoted

namespace ClientGen

open Decimal

def isNumeric (c : Char) : Bool := c.isDigit || c = '-' || c = '+' || c = '.' || c = 'e'

namespace Decimal

theorem Digital.isNumeric {cs : List Char} (h : Digital cs) : ∀ c ∈ cs, isNumeric c = true := by
  intro c hc
  unfold ClientGen.isNumeric
  rw [h c hc]
  rfl

theorem isNumeric_exponentChars (e : ℤ) : ∀ c ∈ exponentChars e, isNumeric c = true := by
  intro c hc
  rcases List.mem_append.1 hc with hc | hc
  · split at hc
    · rw [List.mem_singleton.1 hc]
      rfl
    · rw [List.mem_singleton.1 hc]
      rfl
  · exact (digital_toDigits _).isNumeric c hc

variable {cs : List Char} {x : ℚ}

theorem Denotes.isNumeric (h : Denotes cs x) : ∀ c ∈ cs, isNumeric c = true := by
  intro c hc
  obtain ⟨d, hd, -⟩ := h
  cases hd with
  | point hw _ hf =>
    simp only [List.mem_append, List.mem_cons] at hc
    rcases hc with hc | rfl | hc
    · exact hw.isNumeric c hc
    · rfl
    · exact hf.isNumeric c hc
  | scaled hw _ hf e =>
    simp only [List.mem_append, List.mem_cons] at hc
    rcases hc with (hc | rfl | hc) | rfl | hc
    · exact hw.isNumeric c hc
    · rfl
    · exact hf.isNumeric c hc
    · rfl
    · exact isNumeric_exponentChars e c hc
  | bare hw _ e =>
    simp only [List.mem_append, List.mem_cons] at hc
    rcases hc with hc | rfl | hc
    · exact hw.isNumeric c hc
    · rfl
    · exact isNumeric_exponentChars e c hc

theorem Denotes.mem_mark (h : Denotes cs x) : '.' ∈ cs ∨ 'e' ∈ cs := by
  obtain ⟨d, hd, -⟩ := h
  cases hd <;> simp

theorem mem_signed {negative : Prop} [Decidable negative] {c : Char}
    (hc : c ∈ (if negative then ['-'] else []) ++ cs) : c = '-' ∨ c ∈ cs := by
  rcases List.mem_append.1 hc with hc | hc
  · split at hc
    · exact .inl (List.mem_singleton.1 hc)
    · cases hc
  · exact .inr hc

theorem isNumeric_text (x : Float) : ∀ c ∈ (json.text x).toList, isNumeric c = true := by
  intro c hc
  rw [toList_text] at hc
  rcases mem_signed hc with rfl | hc
  · rfl
  · exact (denotes_magnitude _).isNumeric c hc

theorem mem_mark_text (x : Float) :
    '.' ∈ (json.text x).toList ∨ 'e' ∈ (json.text x).toList := by
  rw [toList_text]
  rcases (denotes_magnitude (Binary.ofBits x.toBits)).mem_mark with hmark | hmark
  · exact .inl (List.mem_append_right _ hmark)
  · exact .inr (List.mem_append_right _ hmark)

theorem mem_toList_int {n : ℤ} {c : Char} (hc : c ∈ (toString n).toList) :
    c.isDigit = true ∨ c = '-' := by
  rw [toList_int] at hc
  rcases mem_signed hc with rfl | hc
  · exact .inr rfl
  · exact .inl (digital_toDigits _ c hc)

theorem isNumeric_int (n : ℤ) : ∀ c ∈ (toString n).toList, isNumeric c = true := by
  intro c hc
  unfold isNumeric
  rcases mem_toList_int hc with hdigit | rfl
  · rw [hdigit]
    rfl
  · rfl

theorem int_text_injective {n m : ℤ} (h : (toString n).toList = (toString m).toList) : n = m := by
  have hsign (k l : ℤ) : Nat.toDigits 10 k.natAbs ≠ '-' :: Nat.toDigits 10 l.natAbs := by
    intro he
    have hminus := digital_toDigits k.natAbs '-' (he ▸ List.mem_cons_self)
    cases hminus
  have habs (he : Nat.toDigits 10 n.natAbs = Nat.toDigits 10 m.natAbs) : n.natAbs = m.natAbs := by
    rw [← ofDigits_toDigits n.natAbs, he, ofDigits_toDigits]
  rw [toList_int, toList_int] at h
  split at h
  · split at h
    · have hsame := habs (List.append_cancel_left h)
      omega
    · exact absurd h.symm (hsign m n)
  · split at h
    · exact absurd h (hsign n m)
    · have hsame := habs h
      omega

theorem int_ne_float (n : ℤ) (x : Float) : (toString n).toList ≠ (json.text x).toList := by
  intro he
  have hint : ∀ c ∈ (json.text x).toList, c.isDigit = true ∨ c = '-' := by
    intro c hc
    exact mem_toList_int (he ▸ hc)
  rcases mem_mark_text x with hmark | hmark
  · exact absurd (hint _ hmark) (by decide)
  · exact absurd (hint _ hmark) (by decide)

end Decimal

namespace Json

variable {α : Type} {f : α → List Char} {x y : α} {xs ys : List α} {r r' : List Char}

/-- What ends a value inside another one: its end, or a comma. -/
def Ends (cs : List Char) : Prop := ∀ c ∈ cs.head?, c = ',' ∨ c = ']' ∨ c = '\x7d'

theorem Ends.not_isNumeric (h : Ends r) : ∀ c ∈ r.head?, isNumeric c = false := by
  intro c hc
  rcases h c hc with rfl | rfl | rfl <;> rfl

/-- Where a text of some characters stops is seen from a character that is none of them. -/
theorem run_cancel {p : Char → Bool} {cs ds : List Char} (hcs : ∀ c ∈ cs, p c = true)
    (hds : ∀ c ∈ ds, p c = true) (hr : ∀ c ∈ r.head?, p c = false)
    (hr' : ∀ c ∈ r'.head?, p c = false) (h : cs ++ r = ds ++ r') : cs = ds ∧ r = r' := by
  have htake {ts rest : List Char} (hts : ∀ c ∈ ts, p c = true)
      (hrest : ∀ c ∈ rest.head?, p c = false) : (ts ++ rest).takeWhile p = ts := by
    rw [List.takeWhile_append_of_pos hts]
    cases rest with
    | nil => simp
    | cons c rest =>
      have hc := hrest c rfl
      rw [List.takeWhile_cons_of_neg (by rw [hc]; exact Bool.false_ne_true), List.append_nil]
  have hsame : cs = ds := by rw [← htake hcs hr, ← htake hds hr', h]
  subst hsame
  exact ⟨rfl, List.append_cancel_left h⟩

/-- A value can be told from its text, whatever ends it. -/
def Told (f : α → List Char) (x : α) : Prop := ∀ y r r', Ends r → Ends r' →
  f x ++ r = f y ++ r' → x = y ∧ r = r'

/-- The texts of further values, each behind a comma, and the mark that closes them. -/
def listed (f : α → List Char) (close : Char) (xs : List α) : List Char :=
  xs.flatMap (fun x => ',' :: f x) ++ [close]

theorem ends_listed {close : Char} (hclose : close = ']' ∨ close = '\x7d') (xs : List α)
    (r : List Char) : Ends (listed f close xs ++ r) := by
  intro c hc
  cases xs with
  | nil =>
    cases hc
    exact .inr hclose
  | cons x xs =>
    cases hc
    exact .inl rfl

theorem listed_cons (close : Char) (x : α) (xs : List α) (r : List Char) :
    listed f close (x :: xs) ++ r = ',' :: (f x ++ (listed f close xs ++ r)) := by
  simp [listed]

theorem listed_cancel {close : Char} (hclose : close = ']' ∨ close = '\x7d')
    (htold : ∀ x ∈ xs, Told f x) (h : listed f close xs ++ r = listed f close ys ++ r') :
    xs = ys ∧ r = r' := by
  have hcomma : close ≠ ',' := by rcases hclose with rfl | rfl <;> decide
  have hnil (rest : List Char) : listed f close [] ++ rest = close :: rest := rfl
  induction xs generalizing ys with
  | nil =>
    cases ys with
    | nil => exact ⟨rfl, List.tail_eq_of_cons_eq h⟩
    | cons y ys =>
      rw [hnil, listed_cons] at h
      exact absurd (List.head_eq_of_cons_eq h) hcomma
  | cons x xs ih =>
    cases ys with
    | nil =>
      rw [hnil, listed_cons] at h
      exact absurd (List.head_eq_of_cons_eq h).symm hcomma
    | cons y ys =>
      rw [listed_cons, listed_cons] at h
      obtain ⟨rfl, hrest⟩ := htold x List.mem_cons_self y _ _ (ends_listed hclose xs r)
        (ends_listed hclose ys r') (List.tail_eq_of_cons_eq h)
      obtain ⟨rfl, rfl⟩ := ih (fun x hx => htold x (List.mem_cons_of_mem _ hx)) hrest
      exact ⟨rfl, rfl⟩

def enclosed (f : α → List Char) (close : Char) : List α → List Char
  | [] => [close]
  | x :: xs => f x ++ listed f close xs

theorem enclosed_cancel {close : Char} (hclose : close = ']' ∨ close = '\x7d')
    (hopen : ∀ x rest, f x ≠ close :: rest) (hne : ∀ x, f x ≠ []) (htold : ∀ x ∈ xs, Told f x)
    (h : enclosed f close xs ++ r = enclosed f close ys ++ r') : xs = ys ∧ r = r' := by
  have hfirst (x : α) (rest rest' : List Char) : f x ++ rest ≠ close :: rest' := by
    intro he
    obtain ⟨c, cs, hc⟩ := List.exists_cons_of_ne_nil (hne x)
    rw [hc, List.cons_append] at he
    exact hopen x cs (List.head_eq_of_cons_eq he ▸ hc)
  cases xs with
  | nil =>
    cases ys with
    | nil => exact ⟨rfl, List.tail_eq_of_cons_eq h⟩
    | cons y ys =>
      rw [enclosed, enclosed, List.append_assoc] at h
      exact absurd h.symm (hfirst y _ _)
  | cons x xs =>
    cases ys with
    | nil =>
      rw [enclosed, enclosed, List.append_assoc] at h
      exact absurd h (hfirst x _ _)
    | cons y ys =>
      rw [enclosed, enclosed, List.append_assoc, List.append_assoc] at h
      obtain ⟨rfl, hrest⟩ := htold x List.mem_cons_self y _ _ (ends_listed hclose xs r)
        (ends_listed hclose ys r') h
      obtain ⟨rfl, rfl⟩ := listed_cancel hclose
        (fun x hx => htold x (List.mem_cons_of_mem _ hx)) hrest
      exact ⟨rfl, rfl⟩

def chars (j : Json) : List Char := (text j).toList

def fieldChars (field : String × Json) : List Char :=
  (quote field.1).toList ++ ':' :: chars field.2

theorem itemTexts_eq (items : List Json) : itemTexts items = items.map text := by
  induction items with
  | nil => rfl
  | cons item rest ih => rw [itemTexts, ih, List.map_cons]

theorem fieldTexts_eq (fields : List (String × Json)) : fieldTexts fields =
    fields.map fun field => quote field.1 ++ ":" ++ text field.2 := by
  induction fields with
  | nil => rfl
  | cons field rest ih => rw [fieldTexts, ih, List.map_cons]

theorem toList_intercalate {g : α → String} (hg : ∀ x, (g x).toList = f x) (x : α)
    (xs : List α) : (",".intercalate ((x :: xs).map g)).toList =
      f x ++ xs.flatMap fun x => ',' :: f x := by
  induction xs generalizing x with
  | nil =>
    rw [List.map_singleton, String.intercalate_singleton, hg, List.flatMap_nil, List.append_nil]
  | cons y xs ih =>
    rw [List.map_cons, List.map_cons, String.intercalate_cons_cons, String.toList_append,
      String.toList_append, hg, List.append_assoc, ← List.map_cons, ih, List.flatMap_cons]
    rfl

theorem toList_enclosed {g : α → String} (hg : ∀ x, (g x).toList = f x) (close : Char)
    (xs : List α) : (",".intercalate (xs.map g)).toList ++ [close] = enclosed f close xs := by
  cases xs with
  | nil => rfl
  | cons x xs => rw [toList_intercalate hg, enclosed, listed, List.append_assoc]

theorem chars_arr (items : List Json) : chars (.arr items) = '[' :: enclosed chars ']' items := by
  have henclosed : (",".intercalate (items.map text)).toList ++ [']'] = enclosed chars ']' items :=
    toList_enclosed (fun _ => rfl) ']' items
  rw [← henclosed, chars, text, itemTexts_eq]
  simp only [String.toList_append]
  rfl

theorem chars_obj (fields : List (String × Json)) :
    chars (.obj fields) = '\x7b' :: enclosed fieldChars '\x7d' fields := by
  have hfield (field : String × Json) :
      (quote field.1 ++ ":" ++ text field.2).toList = fieldChars field := by
    rw [String.toList_append, String.toList_append, List.append_assoc]
    rfl
  rw [← toList_enclosed hfield '\x7d' fields, chars, text, fieldTexts_eq]
  simp only [String.toList_append]
  rfl

/-- The kind of a value by the first character of its text, where all numbers are of one kind. -/
def leadOf (c : Char) : Char :=
  if c.isDigit || c = '-' then '0' else if c = 'f' then 't' else c

def lead : Json → Char
  | .null => 'n'
  | .bool _ => 't'
  | .int _ | .float _ => '0'
  | .str _ => '"'
  | .arr _ => '['
  | .obj _ => '\x7b'

theorem lead_ne {j : Json} : j.lead ≠ ']' := by
  cases j <;> simp [lead]

theorem exists_head {cs : List Char} (hdigit : ∃ c rest, cs = c :: rest ∧ c.isDigit = true)
    (negative : Prop) [Decidable negative] :
    ∃ c rest, (if negative then ['-'] else []) ++ cs = c :: rest ∧ leadOf c = '0' := by
  obtain ⟨c, rest, rfl, hc⟩ := hdigit
  split
  · exact ⟨'-', c :: rest, rfl, rfl⟩
  · refine ⟨c, rest, rfl, ?_⟩
    rw [leadOf, hc]
    rfl

theorem exists_lead (j : Json) : ∃ c rest, j.chars = c :: rest ∧ leadOf c = j.lead := by
  cases j with
  | null => exact ⟨'n', "ull".toList, rfl, rfl⟩
  | bool b =>
    cases b with
    | true => exact ⟨'t', "rue".toList, rfl, rfl⟩
    | false => exact ⟨'f', "alse".toList, rfl, rfl⟩
  | int n =>
    have hdigit : ∃ c rest, Nat.toDigits 10 n.natAbs ++ [] = c :: rest ∧ c.isDigit = true :=
      exists_digit (digital_toDigits n.natAbs) Nat.toDigits_ne_nil
    rw [List.append_nil] at hdigit
    rw [chars, text, toList_int]
    exact exists_head hdigit _
  | float x =>
    rw [chars, text, toList_text]
    exact exists_head (denotes_magnitude _).head _
  | str s => exact ⟨'"', _, by rw [chars, text, toList_quote]; rfl, rfl⟩
  | arr items => exact ⟨'[', _, chars_arr items, rfl⟩
  | obj fields => exact ⟨'\x7b', _, chars_obj fields, rfl⟩

theorem lead_eq {j k : Json} (h : j.chars ++ r = k.chars ++ r') : j.lead = k.lead := by
  obtain ⟨c, rest, hj, hc⟩ := j.exists_lead
  obtain ⟨d, rest', hk, hd⟩ := k.exists_lead
  rw [hj, hk] at h
  rw [← hc, ← hd, List.head_eq_of_cons_eq h]

theorem chars_ne_nil (j : Json) : j.chars ≠ [] := by
  obtain ⟨c, rest, hc, -⟩ := j.exists_lead
  rw [hc]
  exact List.cons_ne_nil _ _

theorem told_null : Told chars .null := by
  intro k r r' _ _ h
  have hlead := lead_eq h
  cases k with
  | null => exact ⟨rfl, List.append_cancel_left h⟩
  | _ => cases hlead

theorem told_bool (b : Bool) : Told chars (.bool b) := by
  intro k r r' _ _ h
  have hlead := lead_eq h
  cases k with
  | bool b' =>
    cases b with
    | true =>
      cases b' with
      | true => exact ⟨rfl, List.append_cancel_left h⟩
      | false => cases h
    | false =>
      cases b' with
      | true => cases h
      | false => exact ⟨rfl, List.append_cancel_left h⟩
  | _ => cases hlead

theorem told_int (n : ℤ) : Told chars (.int n) := by
  intro k r r' hr hr' h
  have hlead := lead_eq h
  cases k with
  | int m =>
    obtain ⟨htext, hrest⟩ := run_cancel (isNumeric_int n) (isNumeric_int m) hr.not_isNumeric
      hr'.not_isNumeric h
    rw [int_text_injective htext]
    exact ⟨rfl, hrest⟩
  | float x =>
    obtain ⟨htext, -⟩ := run_cancel (isNumeric_int n) (isNumeric_text x) hr.not_isNumeric
      hr'.not_isNumeric h
    exact absurd htext (int_ne_float n x)
  | _ => cases hlead

theorem told_float (x : Float) : Told chars (.float x) := by
  intro k r r' hr hr' h
  have hlead := lead_eq h
  cases k with
  | int n =>
    obtain ⟨htext, -⟩ := run_cancel (isNumeric_text x) (isNumeric_int n) hr.not_isNumeric
      hr'.not_isNumeric h
    exact absurd htext.symm (int_ne_float n x)
  | float y =>
    obtain ⟨htext, hrest⟩ := run_cancel (isNumeric_text x) (isNumeric_text y) hr.not_isNumeric
      hr'.not_isNumeric h
    rw [json_text_injective (String.toList_inj.1 htext)]
    exact ⟨rfl, hrest⟩
  | _ => cases hlead

theorem told_str (s : String) : Told chars (.str s) := by
  intro k r r' _ _ h
  have hlead := lead_eq h
  cases k with
  | str t =>
    obtain ⟨rfl, hrest⟩ := quote_cancel h
    exact ⟨rfl, hrest⟩
  | _ => cases hlead

theorem told_arr {items : List Json} (hitems : ∀ item ∈ items, Told chars item) :
    Told chars (.arr items) := by
  intro k r r' _ _ h
  have hlead := lead_eq h
  cases k with
  | arr others =>
    rw [chars_arr, chars_arr, List.cons_append, List.cons_append] at h
    have hopen (item : Json) (rest : List Char) : item.chars ≠ ']' :: rest := by
      obtain ⟨c, cs, hc, hkind⟩ := item.exists_lead
      rw [hc]
      rintro ⟨⟩
      exact lead_ne hkind.symm
    obtain ⟨rfl, hrest⟩ := enclosed_cancel (.inl rfl) hopen chars_ne_nil hitems
      (List.tail_eq_of_cons_eq h)
    exact ⟨rfl, hrest⟩
  | _ => cases hlead

theorem told_field {field : String × Json} (hvalue : Told chars field.2) :
    Told fieldChars field := by
  intro other r r' hr hr' h
  rw [fieldChars, fieldChars, List.append_assoc, List.append_assoc] at h
  obtain ⟨hname, hrest⟩ := quote_cancel h
  obtain ⟨hfield, hend⟩ := hvalue other.2 r r' hr hr' (List.tail_eq_of_cons_eq hrest)
  exact ⟨Prod.ext hname hfield, hend⟩

theorem told_obj {fields : List (String × Json)} (hfields : ∀ field ∈ fields, Told chars field.2) :
    Told chars (.obj fields) := by
  intro k r r' _ _ h
  have hlead := lead_eq h
  cases k with
  | obj others =>
    rw [chars_obj, chars_obj, List.cons_append, List.cons_append] at h
    have hquote (field : String × Json) : fieldChars field = '"' :: (field.1.toList.flatMap
        escapeChar ++ ['"'] ++ ':' :: chars field.2) := by
      rw [fieldChars, toList_quote]
      rfl
    obtain ⟨rfl, hrest⟩ := enclosed_cancel (.inr rfl)
      (fun field rest => by rw [hquote]; rintro ⟨⟩) (fun field => by rw [hquote]; nofun)
      (fun field hfield => told_field (hfields field hfield)) (List.tail_eq_of_cons_eq h)
    exact ⟨rfl, hrest⟩
  | _ => cases hlead

/-- Every value can be told from its text. The text of a number ends where the characters of a
numeral do, and all other values end by themselves. -/
theorem told (j : Json) : Told chars j := by
  induction j using children_induction with
  | step j ih =>
    cases j with
    | null => exact told_null
    | bool b => exact told_bool b
    | int n => exact told_int n
    | float x => exact told_float x
    | str s => exact told_str s
    | arr items => exact told_arr ih
    | obj fields =>
      exact told_obj fun field hfield => ih field.2 (List.mem_map.2 ⟨field, hfield, rfl⟩)

theorem text_injective {j k : Json} (h : text j = text k) : j = k := by
  have hsame : j.chars ++ [] = k.chars ++ [] := by rw [chars, chars, h]
  exact (told j k [] [] nofun nofun hsame).1

end Json

end ClientGen
