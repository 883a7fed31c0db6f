import ClientGen.NameTable

namespace ClientGen.FunctionNames

variable {m n : String} {j k : Nat}

/-- What stands behind a name in its `k`-th form. -/
def formEnd (k : Nat) : List Char := if k = 1 then [] else Nat.toDigits 10 k

theorem toList_form (n : String) (k : Nat) : (form n k).toList = n.toList ++ formEnd k := by
  unfold form formEnd
  split
  · rw [List.append_nil]
  · rw [String.toList_append, Nat.toString_eq_ofList_toDigits, String.toList_ofList]

theorem isDigit_of_mem_formEnd : ∀ c ∈ formEnd k, c.isDigit = true := by
  intro c hc
  unfold formEnd at hc
  split at hc
  · cases hc
  · exact Nat.isDigit_of_mem_toDigits (by decide) (by decide) hc

theorem formEnd_eq_nil_iff : formEnd k = [] ↔ k = 1 := by
  unfold formEnd
  split
  · next h => exact iff_of_true rfl h
  · next h => exact iff_of_false Nat.toDigits_ne_nil h

theorem formEnd_injective (h : formEnd j = formEnd k) : j = k := by
  by_cases hj : j = 1
  · rw [formEnd_eq_nil_iff.2 hj] at h
    rw [hj, formEnd_eq_nil_iff.1 h.symm]
  · have hk : k ≠ 1 := by
      rintro rfl
      exact hj (formEnd_eq_nil_iff.1 h)
    rw [formEnd, formEnd, if_neg hj, if_neg hk] at h
    -- the digits are read back
    have hvalue := congrArg (fun ds => Nat.ofDigitChars 10 ds 0) h
    simpa using hvalue

theorem form_one (n : String) : form n 1 = n := rfl

theorem form_eq_self_iff : form n k = n ↔ k = 1 := by
  rw [← String.toList_inj, toList_form, List.append_right_eq_self, formEnd_eq_nil_iff]

theorem form_injective (h : form n j = form n k) : j = k := by
  rw [← String.toList_inj, toList_form, toList_form] at h
  exact formEnd_injective (List.append_cancel_left h)

/-- A name is another one with digits behind it. -/
def Extends (m n : String) : Prop :=
  ∃ digits : List Char, digits ≠ [] ∧ (∀ c ∈ digits, c.isDigit = true) ∧
    m.toList = n.toList ++ digits

theorem eq_or_extends {as : List Char} (has : ∀ c ∈ as, c.isDigit = true)
    (h : m.toList = n.toList ++ as) : as = [] ∧ m = n ∨ Extends m n := by
  by_cases hnil : as = []
  · rw [hnil, List.append_nil] at h
    exact .inl ⟨hnil, String.toList_inj.1 h⟩
  · exact .inr ⟨as, hnil, has, h⟩

theorem eq_or_extends_of_form (h : form m k = n) : m = n ∧ k = 1 ∨ Extends n m := by
  have hlist := toList_form m k
  rw [h] at hlist
  rcases eq_or_extends isDigit_of_mem_formEnd hlist with ⟨hend, he⟩ | hext
  · exact .inl ⟨he.symm, formEnd_eq_nil_iff.1 hend⟩
  · exact .inr hext

/-- Two forms that are the same are those of one name, unless digits alone tell the names apart. -/
theorem form_eq_form (h : form m j = form n k) : m = n ∧ j = k ∨ Extends m n ∨ Extends n m := by
  have hlist := congrArg String.toList h
  rw [toList_form, toList_form, List.append_eq_append_iff] at hlist
  have hsame (he : m = n) : m = n ∧ j = k := by
    subst he
    exact ⟨rfl, form_injective h⟩
  -- What the longer name has more stands in the end of the form of the shorter one.
  rcases hlist with ⟨as, hn, hj⟩ | ⟨as, hm, hk⟩
  · have has : ∀ c ∈ as, c.isDigit = true := fun c hc =>
      isDigit_of_mem_formEnd c (hj ▸ List.mem_append_left _ hc)
    rcases eq_or_extends has hn with ⟨-, he⟩ | hext
    · exact .inl (hsame he.symm)
    · exact .inr (.inr hext)
  · have has : ∀ c ∈ as, c.isDigit = true := fun c hc =>
      isDigit_of_mem_formEnd c (hk ▸ List.mem_append_left _ hc)
    rcases eq_or_extends has hm with ⟨-, he⟩ | hext
    · exact .inl (hsame he)
    · exact .inr (.inl hext)

/-- A name that does not end in a digit. -/
def Unnumbered (n : String) : Prop := n.toList.getLast?.any Char.isDigit = false

instance (n : String) : Decidable (Unnumbered n) :=
  inferInstanceAs (Decidable (n.toList.getLast?.any Char.isDigit = false))

theorem not_unnumbered_of_extends (h : Extends m n) : ¬ Unnumbered m := by
  obtain ⟨digits, hne, hdigits, hm⟩ := h
  intro hplain
  have hlast : m.toList.getLast? = some (digits.getLast hne) := by
    rw [hm, List.getLast?_append, List.getLast?_eq_some_getLast hne]
    rfl
  have hdigit := hdigits _ (List.getLast_mem hne)
  rw [Unnumbered, hlast, Option.any_some, hdigit] at hplain
  cases hplain

/-- A name without a number at its end is a form of no other name. -/
theorem form_eq_unnumbered_iff (hn : Unnumbered n) : form m k = n ↔ m = n ∧ k = 1 := by
  constructor
  · intro h
    rcases eq_or_extends_of_form h with hself | hext
    · exact hself
    · exact absurd hn (not_unnumbered_of_extends hext)
  · rintro ⟨rfl, rfl⟩
    exact form_one m

end ClientGen.FunctionNames
