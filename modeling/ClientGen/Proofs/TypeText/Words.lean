import ClientGen.Proofs.TypeText.Lexing

namespace ClientGen.TypeScript.Reader

def isNumeral (c : Char) : Bool := c.isDigit || c = '-' || c = '.'

def Numeral (s : String) : Prop := ∀ c ∈ s.toList, isNumeral c = true

instance (s : String) : Decidable (Numeral s) :=
  List.decidableBAll (fun c => isNumeral c = true) s.toList

instance (s : String) : Decidable (IsWord s) :=
  @instDecidableAnd _ _ inferInstance
    (List.decidableBAll (fun c => isDelimiter c = false) s.toList)

theorem Numeral.append {s s' : String} (h : Numeral s) (h' : Numeral s') : Numeral (s ++ s') := by
  intro c hc
  rw [String.toList_append] at hc
  exact (List.mem_append.1 hc).elim (h c) (h' c)

theorem Numeral.isWord {s : String} (h : Numeral s) (hne : s.toList ≠ []) : IsWord s :=
  ⟨hne, fun c hc => isDelimiter_of (by decide) (h c hc)⟩

theorem isNumeral_of_isDigit {c : Char} (h : c.isDigit = true) : isNumeral c = true := by
  simp [isNumeral, h]

theorem numeral_ofList {cs : List Char} (h : ∀ c ∈ cs, c.isDigit = true) :
    Numeral (String.ofList cs) := by
  intro c hc
  rw [String.toList_ofList] at hc
  exact isNumeral_of_isDigit (h c hc)

theorem isDigit_of_toDigits {n : Nat} : ∀ c ∈ Nat.toDigits 10 n, c.isDigit = true :=
  fun _ => Nat.isDigit_of_mem_toDigits (by decide) (by decide)

theorem numeral_repr (n : Nat) : Numeral n.repr := by
  rw [Nat.repr_eq_ofList_toDigits]
  exact numeral_ofList isDigit_of_toDigits

theorem isWord_repr (n : Nat) : IsWord n.repr := by
  refine (numeral_repr n).isWord ?_
  rw [Nat.toList_repr]
  exact Nat.toDigits_ne_nil

theorem numeral_int (n : Int) : Numeral (toString n) := by
  cases n with
  | ofNat n => exact numeral_repr n
  | negSucc n =>
    have hminus : Numeral "-" := by decide
    exact hminus.append (numeral_repr (n + 1))

theorem isWord_int (n : Int) : IsWord (toString n) := by
  refine (numeral_int n).isWord ?_
  cases n with
  | ofNat n => exact (isWord_repr n).1
  | negSucc n =>
    change ("-" ++ (n + 1).repr).toList ≠ []
    simp

theorem numeral_positionalText {layout : Decimal.Layout} {digits : List Char}
    (h : ∀ c ∈ digits, c.isDigit = true) (hmark : Numeral layout.wholeMark) (exponent : Int) :
    Numeral (Decimal.positionalText layout digits exponent) := by
  have hzeros (count : Int) : Numeral (Decimal.zeros count) :=
    numeral_ofList fun c hc => by rw [List.eq_of_mem_replicate hc]; rfl
  unfold Decimal.positionalText
  split
  · exact ((numeral_ofList h).append (hzeros _)).append hmark
  · dsimp only
    split
    · exact ((numeral_ofList fun c hc => h c (List.mem_of_mem_take hc)).append
        (by decide : Numeral ".")).append (numeral_ofList fun c hc => h c (List.mem_of_mem_drop hc))
    · exact ((by decide : Numeral "0.").append (hzeros _)).append (numeral_ofList h)

theorem positionalText_ne_nil {layout : Decimal.Layout} {digits : List Char} (h : digits ≠ [])
    (exponent : Int) : (Decimal.positionalText layout digits exponent).toList ≠ [] := by
  unfold Decimal.positionalText
  split
  · simp [h]
  · dsimp only
    split <;> simp

theorem numeral_number (x : Float) : Numeral (Decimal.plain.text x) := by
  have hsign : Numeral (if x.toBits.toNat / Nat.pow 2 63 = 1 then "-" else "") := by
    split <;> decide
  have hmark : Numeral Decimal.plain.wholeMark := by decide
  unfold Decimal.Layout.text
  dsimp only
  split
  · exact (hsign.append (by decide : Numeral "0")).append hmark
  · exact hsign.append (numeral_positionalText isDigit_of_toDigits hmark _)

theorem isWord_number (x : Float) : IsWord (Decimal.plain.text x) := by
  refine (numeral_number x).isWord ?_
  unfold Decimal.Layout.text
  dsimp only
  split
  · simp
  · rw [String.toList_append]
    exact List.append_ne_nil_of_right_ne_nil _ (positionalText_ne_nil Nat.toDigits_ne_nil _)

theorem isWord_of_isBareKey {name : String} (h : Identifier.isBareKey name.toList = true) :
    IsWord name := by
  unfold Identifier.isBareKey at h
  split at h
  · cases h
  · next c cs hname =>
    refine ⟨by simp [hname], fun d hd => ?_⟩
    exact isDelimiter_of (q := Identifier.isContinue) (by decide)
      (List.all_eq_true.1 (Bool.and_eq_true_iff.1 h).2 d hd)

theorem isWord_keyword (word : Keyword) : IsWord word.text := by
  cases word <;> decide

end ClientGen.TypeScript.Reader
