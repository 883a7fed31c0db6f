import ClientGen.Content
import Mathlib.Data.List.TakeWhile

namespace ClientGen.Text

variable {c d : Char} {part before after xs ys cs blanks : List Char}

/-- A part occurs in a text just once, between two others. -/
def OccursOnce (part before after cs : List Char) : Prop :=
  ∀ xs ys, cs = xs ++ part ++ ys ↔ xs = before ∧ ys = after

theorem occursIn_iff : occursIn part cs = true ↔ part <:+: cs := by
  induction cs with
  | nil => rw [occursIn, List.isEmpty_iff, List.infix_nil]
  | cons c cs ih => rw [occursIn, Bool.or_eq_true, List.isPrefixOf_iff_prefix, ih,
      List.infix_cons_iff]

theorem prefix_append_cons_iff (h : c ∉ part) (xs ys : List Char) :
    part <+: xs ++ c :: ys ↔ part <+: xs := by
  induction part generalizing xs with
  | nil => exact iff_of_true List.nil_prefix List.nil_prefix
  | cons d part ih =>
    obtain ⟨hd, hpart⟩ := not_or.1 (mt List.mem_cons.2 h)
    cases xs with
    | nil =>
      rw [List.nil_append, List.cons_prefix_cons, List.prefix_nil]
      exact iff_of_false (fun hc => hd hc.1.symm) (List.cons_ne_nil _ _)
    | cons x xs => rw [List.cons_append, List.cons_prefix_cons, List.cons_prefix_cons, ih hpart]

/-- What occurs around a character that is not in it occurs on one side of the character. -/
theorem infix_append_cons_iff (h : c ∉ part) :
    part <:+: xs ++ c :: ys ↔ part <:+: xs ∨ part <:+: ys := by
  induction xs with
  | nil =>
    have hstart := prefix_append_cons_iff h [] ys
    rw [List.nil_append] at hstart
    rw [List.nil_append, List.infix_cons_iff, hstart, List.prefix_nil, List.infix_nil]
  | cons x xs ih =>
    have hstart := prefix_append_cons_iff h (x :: xs) ys
    rw [List.cons_append] at hstart
    rw [List.cons_append, List.infix_cons_iff, hstart, ih, List.infix_cons_iff, or_assoc]

theorem exists_eq_append_cons (hc : c ∉ part) (hbefore : ¬ part <:+: before)
    (h : before ++ c :: cs = xs ++ part ++ ys) : ∃ more, xs = before ++ c :: more := by
  induction before generalizing xs with
  | nil =>
    cases xs with
    | nil =>
      have hstart : part <+: [] ++ c :: cs := ⟨ys, h.symm⟩
      exact absurd ((prefix_append_cons_iff hc [] cs).1 hstart).isInfix hbefore
    | cons x xs => exact ⟨xs, by rw [List.head_eq_of_cons_eq h, List.nil_append]⟩
  | cons b before ih =>
    cases xs with
    | nil =>
      have hstart : part <+: (b :: before) ++ c :: cs := ⟨ys, h.symm⟩
      exact absurd ((prefix_append_cons_iff hc _ cs).1 hstart).isInfix hbefore
    | cons x xs =>
      rw [List.infix_cons_iff, not_or] at hbefore
      obtain ⟨more, rfl⟩ := ih hbefore.2 (List.tail_eq_of_cons_eq h)
      exact ⟨more, by rw [List.head_eq_of_cons_eq h, List.cons_append]⟩

/-- A part between two characters that it lacks occurs just there, if it does not occur before the
one or behind the other. -/
theorem occursOnce_between (hc : c ∉ part) (hd : d ∉ part) (hbefore : ¬ part <:+: before)
    (hafter : ¬ part <:+: after) :
    OccursOnce part (before ++ [c]) (d :: after) (before ++ c :: part ++ d :: after) := by
  intro xs ys
  constructor
  · intro h
    rw [List.append_assoc, List.cons_append] at h
    obtain ⟨more, rfl⟩ := exists_eq_append_cons hc hbefore h
    have hrest : part ++ d :: after = more ++ part ++ ys := by simpa using h
    cases more with
    | nil => exact ⟨rfl, (List.append_cancel_left hrest).symm⟩
    | cons m more =>
      cases part with
      | nil => exact absurd List.nil_infix hafter
      | cons p part =>
        have hlater : p :: part <:+: part ++ d :: after :=
          ⟨more, ys, (List.tail_eq_of_cons_eq hrest).symm⟩
        rcases (infix_append_cons_iff hd).1 hlater with hinner | hlater
        · exact absurd hinner.length_le (Nat.not_succ_le_self _)
        · exact absurd hlater hafter
  · rintro ⟨rfl, rfl⟩
    simp

theorem dropWhile_eq_self {p : Char → Bool} (h : ∀ c ∈ cs, p c = false) :
    cs.dropWhile p = cs := by
  cases cs with
  | nil => rfl
  | cons c cs => exact List.dropWhile_cons_of_neg (by simp [h c List.mem_cons_self])

theorem trim_append (hcs : ∀ c ∈ cs, isBlank c = false) (hblanks : ∀ c ∈ blanks, isBlank c = true)
    (hne : cs ≠ []) : trim (cs ++ blanks) = cs := by
  obtain ⟨c, rest, rfl⟩ := List.exists_cons_of_ne_nil hne
  have hstart : trimStart (c :: rest ++ blanks) = c :: rest ++ blanks :=
    List.dropWhile_cons_of_neg (by simp [hcs c List.mem_cons_self])
  have hends : ∀ d ∈ (c :: rest).reverse, isBlank d = false :=
    fun d hd => hcs d (List.mem_reverse.1 hd)
  rw [trim, hstart, trimEnd, List.reverse_append,
    List.dropWhile_append_of_pos fun d hd => hblanks d (List.mem_reverse.1 hd),
    dropWhile_eq_self hends, List.reverse_reverse]

end ClientGen.Text
