import ClientGen.Proofs.Template.Scan
import ClientGen.Servers
import Mathlib.Data.List.Infix

namespace ClientGen

namespace Text

variable {sep : Char} {old new part cs xs : List Char}

theorem replaceAfter_append (old new xs rest : List Char) :
    replaceAfter old new xs.length (xs ++ rest) = replaceAll old new rest := by
  induction xs with
  | nil => rfl
  | cons x xs ih => exact ih

theorem replaceAll_cons {c : Char} {rest : List Char} (h : ¬ old <+: c :: rest) :
    replaceAll old new (c :: rest) = c :: replaceAll old new rest := by
  rw [replaceAll, replaceAfter, if_neg (mt List.isPrefixOf_iff_prefix.1 h)]
  rfl

theorem replaceAll_append (hne : old ≠ []) (rest : List Char) :
    replaceAll old new (old ++ rest) = new ++ replaceAll old new rest := by
  obtain ⟨c, tail, rfl⟩ := List.exists_cons_of_ne_nil hne
  have hfound : (c :: tail).isPrefixOf (c :: (tail ++ rest)) = true :=
    List.isPrefixOf_iff_prefix.2 (List.prefix_append (c :: tail) rest)
  rw [List.cons_append, replaceAll, replaceAfter, if_pos hfound, List.length_cons,
    Nat.add_sub_cancel, replaceAfter_append]

theorem replaceAll_eq_self (h : ¬ old <:+: cs) : replaceAll old new cs = cs := by
  induction cs with
  | nil => rfl
  | cons c cs ih =>
    rw [List.infix_cons_iff, not_or] at h
    rw [replaceAll_cons h.1, ih h.2]

theorem not_prefix_mark (hpart : sep ∉ part) (hxs : sep ∉ xs) (h : ¬ part <:+ xs)
    (rest : List Char) : ¬ part ++ [sep] <+: xs ++ sep :: rest := by
  rintro ⟨tail, htail⟩
  rw [List.append_assoc, List.singleton_append, append_cons_inj hpart hxs] at htail
  exact h (htail.1 ▸ List.suffix_rfl)

/-- What ends at a mark is found before the first mark only if the rest of it stands there. -/
theorem replaceAll_append_cons (hpart : sep ∉ part) (hxs : sep ∉ xs) (h : ¬ part <:+ xs)
    (rest : List Char) :
    replaceAll (part ++ [sep]) new (xs ++ sep :: rest) =
      xs ++ sep :: replaceAll (part ++ [sep]) new rest := by
  induction xs with
  | nil => exact replaceAll_cons (not_prefix_mark hpart hxs h rest)
  | cons x xs ih =>
    have habsent := not_prefix_mark hpart hxs h rest
    have hmem := not_or.1 (mt List.mem_cons.2 hxs)
    rw [List.suffix_cons_iff, not_or] at h
    rw [List.cons_append] at habsent
    rw [List.cons_append, replaceAll_cons habsent, ih hmem.2 h.2, List.cons_append]

end Text

namespace Template

variable {name cs : List Char} {value : String → Option String}

/-- A longer placeholder that ends as the one for a name, as `{{a}` ends with `{a}`. A search for
the shorter one also finds it there. -/
def Piece.hides (name : List Char) : Piece → Bool
  | .char _ => false
  | .placeholder longer => ('\x7b' :: name).isSuffixOf longer

/-- No placeholder of the text has the one for a name inside. -/
def Plain (name cs : List Char) : Prop := ∀ p ∈ scan cs, p.hides name = false

instance (name cs : List Char) : Decidable (Plain name cs) :=
  inferInstanceAs (Decidable (∀ p ∈ scan cs, p.hides name = false))

def only (name text : String) : String → Option String :=
  fun other => if other = name then some text else none

theorem Plain.fill (hcs : Plain name cs)
    (h : ∀ other text, value other = some text → Closed text.toList ∧ Plain name text.toList) :
    Plain name (fill value cs) := by
  intro p hp
  rw [scan_fill fun other text htext => (h other text htext).1, List.mem_flatMap] at hp
  obtain ⟨q, hq, hp⟩ := hp
  cases q with
  | char c =>
    rw [Piece.scanned, List.mem_singleton] at hp
    exact hp ▸ hcs _ hq
  | placeholder other =>
    rw [Piece.scanned] at hp
    cases hvalue : value (String.ofList other) with
    | none =>
      rw [hvalue, List.mem_singleton] at hp
      exact hp ▸ hcs _ hq
    | some text =>
      rw [hvalue] at hp
      exact (h _ _ hvalue).2 p hp

/-- Replacing the text of a placeholder fills the placeholder. -/
theorem replaceAll_eq_fill {name text : String} (hname : '\x7d' ∉ name.toList)
    (h : Plain name.toList cs) :
    Text.replaceAll ('\x7b' :: name.toList ++ ['\x7d']) text.toList cs =
      fill (only name text) cs := by
  rw [Plain] at h
  have hopen : '\x7d' ∉ '\x7b' :: name.toList := by simpa using hname
  induction cs using scan_induction with
  | nil => rfl
  | char c rest hc ih =>
    rw [scan_char hc, List.forall_mem_cons] at h
    have habsent : ¬ '\x7b' :: name.toList ++ ['\x7d'] <+: c :: rest := by
      rw [List.cons_append, List.cons_prefix_cons]
      exact fun hstart => hc hstart.1.symm
    rw [Text.replaceAll_cons habsent, ih h.2, fill_char hc]
  | placeholder found rest hfound ih =>
    rw [scan_placeholder hfound, List.forall_mem_cons] at h
    rw [fill_placeholder hfound, ← ih h.2, Piece.filled, only]
    by_cases heq : String.ofList found = name
    · have hwritten : '\x7b' :: (found ++ '\x7d' :: rest) =
          ('\x7b' :: name.toList ++ ['\x7d']) ++ rest := by simp [← heq]
      have hne : '\x7b' :: name.toList ++ ['\x7d'] ≠ [] := List.cons_ne_nil _ _
      rw [hwritten, Text.replaceAll_append hne, if_pos heq]
    · have hsuffix : ¬ '\x7b' :: name.toList <:+ '\x7b' :: found := by
        rw [List.suffix_cons_iff, List.cons.injEq, not_or]
        refine ⟨fun hsame => heq (by simp [← hsame.2]), fun hlonger => ?_⟩
        rw [Piece.hides, List.isSuffixOf_iff_suffix.2 hlonger] at h
        exact absurd h.1 Bool.true_eq_false.mp
      have hother : '\x7d' ∉ '\x7b' :: found := by simpa using hfound
      rw [if_neg heq, ← List.cons_append, Text.replaceAll_append_cons hopen hother hsuffix]
      simp [Piece.written]
  | unclosed rest hrest =>
    have habsent : ¬ '\x7b' :: name.toList ++ ['\x7d'] <:+: '\x7b' :: rest := by
      intro hfound
      have hmem := hfound.subset (List.mem_append_right _ (List.mem_singleton_self '\x7d'))
      simp [hrest] at hmem
    rw [Text.replaceAll_eq_self habsent, fill_unclosed hrest]

end Template

end ClientGen
