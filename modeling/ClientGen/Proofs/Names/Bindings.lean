import ClientGen.Identifier
import ClientGen.Proofs.Text.CaseClasses
import ClientGen.Proofs.Text.IdentifierTable

namespace ClientGen.Identifier

open Text

variable {c : Char} {cs : List Char}

def isBindingStart (c : Char) : Bool := c = '$' || c = '_' || isIdStart c

def isBindingContinue (c : Char) : Bool := c = '$' || isIdContinue c

/-- The words that no binding of a module may be named: the reserved words, those that are reserved
in modules and in strict code, and the two names that strict code does not bind. -/
def unbindableWords : List String := [
  "arguments", "await", "break", "case", "catch", "class", "const", "continue", "debugger",
  "default", "delete", "do", "else", "enum", "eval", "export", "extends", "false", "finally",
  "for", "function", "if", "implements", "import", "in", "instanceof", "interface", "let", "new",
  "null", "package", "private", "protected", "public", "return", "static", "super", "switch",
  "this", "throw", "true", "try", "typeof", "var", "void", "while", "with", "yield"]

def isBinding (cs : List Char) : Bool :=
  match cs with
  | [] => false
  | c :: rest =>
    isBindingStart c && rest.all isBindingContinue && !unbindableWords.contains (String.ofList cs)

/-- The words that name no binding though they are not reserved. -/
def unreservedWords : List String := ["eval", "arguments"]

theorem contains_unbindableWords (word : String) :
    unbindableWords.contains word =
      (reservedWords.contains word || unreservedWords.contains word) := by
  have hleft : ∀ w ∈ unbindableWords, w ∈ reservedWords ∨ w ∈ unreservedWords := by decide +kernel
  have hreserved : ∀ w ∈ reservedWords, w ∈ unbindableWords := by decide +kernel
  have hunreserved : ∀ w ∈ unreservedWords, w ∈ unbindableWords := by decide +kernel
  rw [Bool.eq_iff_iff, Bool.or_eq_true, List.contains_iff_mem, List.contains_iff_mem,
    List.contains_iff_mem]
  exact ⟨hleft word, fun h => h.elim (hreserved word) (hunreserved word)⟩

/-- The dollar sign and the code points that go on with an identifier. -/
def bindingRows : List CodeRange := ⟨0x24, 0x24, 1⟩ :: idContinueRows

theorem isBindingContinue_eq (c : Char) : isBindingContinue c = inTable bindingRows c.toNat := by
  have hdollar : c = '$' ↔ c.toNat = 0x24 := by
    rw [← Char.toNat_inj]
    rfl
  by_cases hc : c.toNat ≤ 0x24
  · have hrow : side? idContinueRows 0 0x24 = some false := by decide +kernel
    have hcontinue : isIdContinue c = false := inTable_of_side? hrow (Nat.zero_le _) hc
    have hfind : bindingRows.find? (fun r => c.toNat ≤ r.last) = some ⟨0x24, 0x24, 1⟩ :=
      List.find?_cons_of_pos (decide_eq_true hc)
    rw [isBindingContinue, hcontinue, Bool.or_false, inTable, hfind, Bool.eq_iff_iff]
    simp only [CodeRange.contains, hdollar, decide_eq_true_eq, Bool.and_eq_true, Nat.mod_one,
      beq_self_eq_true, and_true]
    rw [and_comm]
    exact Nat.le_antisymm_iff
  · have hother : c ≠ '$' := fun h => hc (Nat.le_of_eq (hdollar.1 h))
    have hfind : bindingRows.find? (fun r => c.toNat ≤ r.last) =
        idContinueRows.find? fun r => c.toNat ≤ r.last :=
      List.find?_cons_of_neg (by simpa using hc)
    rw [isBindingContinue, decide_eq_false hother, Bool.false_or, isIdContinue, inTable, inTable,
      hfind]

/-- Of the characters that go on with no identifier only circled letters have a case. -/
def letterSides : Sides bindingRows where
  inside := letterBlocks
  outside := [⟨0x24b6, 0x24e9, 1⟩]
  holds := by decide +kernel
  lacks := by decide +kernel

theorem caseClosed_isBindingContinue : CaseClosed isBindingContinue := by
  have hclosed : CaseClosed fun c => inTable bindingRows c.toNat :=
    .ofSides letterSides (by decide +kernel) (by decide +kernel) (by decide +kernel)
  rwa [← funext isBindingContinue_eq] at hclosed

theorem isBindingStart_of_isStart (h : isStart c = true) : isBindingStart c = true := by
  have hupper : side? idStartRows 0x41 0x5a = some true := by decide +kernel
  have hlower : side? idStartRows 0x61 0x7a = some true := by decide +kernel
  rw [isStart, Bool.or_eq_true, Bool.or_eq_true, decide_eq_true_eq, decide_eq_true_eq] at h
  rw [isBindingStart, Bool.or_eq_true, Bool.or_eq_true, decide_eq_true_eq, decide_eq_true_eq]
  rcases h with (halpha | hunder) | hdollar
  · right
    rcases codes_of_isAlpha halpha with hc | hc
    · exact inTable_of_side? hupper hc.1 hc.2
    · exact inTable_of_side? hlower hc.1 hc.2
  · exact .inl (.inr hunder)
  · exact .inl (.inl hdollar)

theorem isBindingContinue_of_isContinue (h : isContinue c = true) :
    isBindingContinue c = true := by
  have hupper : side? idContinueRows 0x41 0x5a = some true := by decide +kernel
  have hlower : side? idContinueRows 0x61 0x7a = some true := by decide +kernel
  have hdigit : side? idContinueRows 0x30 0x39 = some true := by decide +kernel
  have hunder : isIdContinue '_' = true := by decide +kernel
  rw [isContinue, Bool.or_eq_true, Bool.or_eq_true, decide_eq_true_eq, decide_eq_true_eq] at h
  rw [isBindingContinue, Bool.or_eq_true, decide_eq_true_eq]
  rcases h with (halnum | rfl) | hdollar
  · right
    have hkind : (c.isAlpha || c.isDigit) = true := halnum
    rcases Bool.or_eq_true_iff.1 hkind with halpha | hc
    · rcases codes_of_isAlpha halpha with hc | hc
      · exact inTable_of_side? hupper hc.1 hc.2
      · exact inTable_of_side? hlower hc.1 hc.2
    · have hcodes := codes_of_isDigit hc
      exact inTable_of_side? hdigit hcodes.1 hcodes.2
  · exact .inr hunder
  · exact .inl hdollar

theorem isBinding_of_isValid (h : isValid cs = true) : cs.all isBindingContinue = true ∧
    isBinding cs = !unreservedWords.contains (String.ofList cs) := by
  rw [isValid, Bool.and_eq_true, Bool.not_eq_true'] at h
  cases cs with
  | nil => exact absurd h.1 Bool.false_ne_true
  | cons c rest =>
    rw [isBareKey, Bool.and_eq_true] at h
    obtain ⟨⟨hstart, hall⟩, hreserved⟩ := h
    have hcontinue : (c :: rest).all isBindingContinue = true :=
      List.all_eq_true.2 fun d hd => isBindingContinue_of_isContinue (List.all_eq_true.1 hall d hd)
    have hrest := (Bool.and_eq_true_iff.1 hcontinue).2
    refine ⟨hcontinue, ?_⟩
    rw [isBinding, contains_unbindableWords, hreserved, isBindingStart_of_isStart hstart, hrest]
    rfl

theorem isBinding_dollar (cs : List Char) : isBinding ('$' :: cs) = cs.all isBindingContinue := by
  have hinitials : ∀ w ∈ unbindableWords, w.toList.head? ≠ some '$' := by decide +kernel
  have hword : ¬ unbindableWords.contains (String.ofList ('$' :: cs)) := by
    intro hword
    apply hinitials _ (List.contains_iff_mem.1 hword)
    rw [String.toList_ofList]
    rfl
  rw [isBinding, Bool.eq_false_iff.2 hword, Bool.not_false, Bool.and_true]
  rfl

theorem isBinding_marked (cs : List Char) :
    isBinding (marked cs) =
      (cs.all isBindingContinue && !unreservedWords.contains (String.ofList cs)) := by
  have hwords : ∀ w ∈ unreservedWords, isValid w.toList = true := by decide +kernel
  rw [marked]
  by_cases hvalid : isValid cs
  · obtain ⟨hcontinue, hbinding⟩ := isBinding_of_isValid hvalid
    rw [if_pos hvalid, hbinding, hcontinue, Bool.true_and]
  · have hother : ¬ unreservedWords.contains (String.ofList cs) := by
      intro hword
      have hcs := hwords _ (List.contains_iff_mem.1 hword)
      rw [String.toList_ofList] at hcs
      exact hvalid hcs
    rw [if_neg hvalid, isBinding_dollar, Bool.eq_false_iff.2 hother, Bool.not_false, Bool.and_true]

def unreservedInitials : List Char := ['e', 'a']

theorem not_mem_toUpper (c : Char) : ∀ d ∈ toUpper c, d ∉ unreservedInitials := by
  have havoids : Avoids upperSpecial upperShifts unreservedInitials :=
    ⟨by decide +kernel, by decide +kernel, by decide⟩
  have hmoved : unreservedInitials.all fun d => shiftBy upperShifts d.toNat != d.toNat := by
    decide +kernel
  exact havoids.not_mem_image fun hc => bne_iff_ne.1 (List.all_eq_true.1 hmoved c hc)

theorem toUpper_ne_nil (c : Char) : toUpper c ≠ [] := by
  have hspecial : ∀ e ∈ upperSpecial, e.2 ≠ [] := by decide +kernel
  rw [toUpper_eq]
  rcases image_cases upperSpecial upperShifts c with ⟨codes, hcodes, himage⟩ | himage
  · exact himage ▸ mt List.map_eq_nil_iff.1 (hspecial _ hcodes)
  · exact himage ▸ List.cons_ne_nil _ _

theorem capitalize_unreserved (cs : List Char) :
    String.ofList (capitalize cs) ∉ unreservedWords := by
  have hhead : ∀ w ∈ unreservedWords, w.toList.head?.all unreservedInitials.contains := by decide
  intro hword
  have hfirst := hhead _ hword
  rw [String.toList_ofList] at hfirst
  cases cs with
  | nil => exact absurd hword (by decide)
  | cons c rest =>
    obtain ⟨d, image, himage⟩ := List.exists_cons_of_ne_nil (toUpper_ne_nil c)
    rw [capitalize, himage, List.cons_append] at hfirst
    have hmem : d ∈ toUpper c := himage ▸ List.mem_cons_self
    exact not_mem_toUpper c d hmem (List.contains_iff_mem.1 hfirst)

theorem suffixed_unreserved {view : View} (h : view ≠ .base) (cs : List Char) :
    String.ofList (cs ++ view.suffix.toList) ∉ unreservedWords := by
  have hends : ∀ v ∈ [View.read, View.write], ∀ w ∈ unreservedWords,
      ¬ v.suffix.toList <:+ w.toList := by decide
  have hview : view ∈ [View.read, View.write] := by
    cases view with
    | base => exact absurd rfl h
    | read => exact List.mem_cons_self
    | write => exact List.mem_cons_of_mem _ List.mem_cons_self
  intro hword
  have hend := hends view hview _ hword
  rw [String.toList_ofList] at hend
  exact hend (List.suffix_append cs _)

/-- What an identifier is made of: the words of the text, and the suffix of the view. -/
def assembled (raw : String) (upperFirst : Bool) (view : View) : List Char :=
  let joined := camelCase raw.toList ++ view.suffix.toList
  if upperFirst then capitalize joined else joined

theorem ofText_eq (raw : String) (upperFirst : Bool) (view : View) :
    ofText raw upperFirst view = String.ofList (marked (assembled raw upperFirst view)) := rfl

theorem all_assembled (raw : String) (upperFirst : Bool) (view : View) :
    (assembled raw upperFirst view).all isBindingContinue =
      (raw.toList.filter isWordChar).all isBindingContinue := by
  have hsuffix : view.suffix.toList.all isBindingContinue = true := by
    cases view <;> decide +kernel
  have hjoined : (camelCase raw.toList ++ view.suffix.toList).all isBindingContinue =
      (raw.toList.filter isWordChar).all isBindingContinue := by
    rw [List.all_append, hsuffix, Bool.and_true, all_camelCase caseClosed_isBindingContinue]
  cases upperFirst with
  | true => exact (all_capitalize caseClosed_isBindingContinue _).trans hjoined
  | false => exact hjoined

theorem assembled_mem_unreserved_iff (raw : String) (upperFirst : Bool) (view : View) :
    String.ofList (assembled raw upperFirst view) ∈ unreservedWords ↔
      upperFirst = false ∧ view = .base ∧
        String.ofList (camelCase raw.toList) ∈ unreservedWords := by
  cases upperFirst with
  | true => exact iff_of_false (capitalize_unreserved _) fun h => nomatch h.1
  | false =>
    by_cases hview : view = .base
    · rw [hview, assembled]
      simp [View.suffix]
    · exact iff_of_false (suffixed_unreserved hview _) fun h => hview h.2.1

theorem head_marked (cs : List Char) :
    ∃ c rest, marked cs = c :: rest ∧ isBindingStart c = true := by
  rw [marked]
  by_cases hvalid : isValid cs
  · rw [if_pos hvalid]
    rw [isValid, Bool.and_eq_true] at hvalid
    cases cs with
    | nil => exact absurd hvalid.1 Bool.false_ne_true
    | cons c rest =>
      rw [isBareKey, Bool.and_eq_true] at hvalid
      exact ⟨c, rest, rfl, isBindingStart_of_isStart hvalid.1.1⟩
  · rw [if_neg hvalid]
    exact ⟨'$', cs, rfl, rfl⟩

theorem all_wordChars_iff : (cs.filter isWordChar).all isBindingContinue = true ↔
    ∀ c ∈ cs, isWordChar c = true → isIdContinue c = true := by
  have hdollar : isWordChar '$' = false := by decide +kernel
  rw [List.all_eq_true]
  constructor
  · intro h c hc hword
    have hmay := h c (List.mem_filter.2 ⟨hc, hword⟩)
    have hother : c ≠ '$' := by
      rintro rfl
      rw [hdollar] at hword
      cases hword
    rwa [isBindingContinue, decide_eq_false hother, Bool.false_or] at hmay
  · intro h c hc
    rw [List.mem_filter] at hc
    rw [isBindingContinue, h c hc.1 hc.2, Bool.or_true]

/-- The identifier of a text begins as a binding. It is one unless the text has a word character
that goes on with no identifier, or is, in camel case and with no suffix, one of the two words. -/
theorem isBinding_ofText (raw : String) (upperFirst : Bool) (view : View) :
    (∃ c rest, (ofText raw upperFirst view).toList = c :: rest ∧ isBindingStart c = true) ∧
    (isBinding (ofText raw upperFirst view).toList = true ↔
      (∀ c ∈ raw.toList, isWordChar c = true → isIdContinue c = true) ∧
      ¬ (upperFirst = false ∧ view = .base ∧
        String.ofList (camelCase raw.toList) ∈ unreservedWords)) := by
  rw [ofText_eq, String.toList_ofList]
  constructor
  · exact head_marked (assembled raw upperFirst view)
  · rw [isBinding_marked, all_assembled, Bool.and_eq_true, all_wordChars_iff, Bool.not_eq_true',
      ← assembled_mem_unreserved_iff, ← List.contains_iff_mem, Bool.not_eq_true]

/-- The name `arguments` binds nothing in strict code, and `½` stands in no identifier. -/
theorem ofText_no_binding :
    ofText "arguments" false .base = "arguments" ∧ isBinding "arguments".toList = false ∧
    ofText "½" false .base = "$½" ∧ isBinding "$½".toList = false := by
  decide +kernel

end ClientGen.Identifier
