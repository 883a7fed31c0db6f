import ClientGen.Proofs.TypeText.Reading

namespace ClientGen.TypeScript.Reader

variable {a b rest : List Char} {ts ts' : List Token}

/-- No word goes on after what comes before this text. -/
def Stops (rest : List Char) : Prop := ∀ c ∈ rest.head?, isDelimiter c = true

/-- A text has these tokens wherever it stands before the end of a word. -/
def Lexes (cs : List Char) (ts : List Token) : Prop :=
  ∀ rest, Stops rest → tokens .plain (cs ++ rest) = ts ++ tokens .plain rest

/-- A text has these tokens wherever it stands. -/
def Closed (cs : List Char) (ts : List Token) : Prop :=
  ∀ rest, tokens .plain (cs ++ rest) = ts ++ tokens .plain rest

theorem Closed.lexes (h : Closed a ts) : Lexes a ts := fun rest _ => h rest

theorem Closed.nil : Closed [] [] := fun _ => rfl

theorem Closed.append (h : Closed a ts) (h' : Closed b ts') : Closed (a ++ b) (ts ++ ts') := by
  intro rest
  rw [List.append_assoc, h, h', List.append_assoc]

theorem Closed.append_lexes (h : Closed a ts) (h' : Lexes b ts') :
    Lexes (a ++ b) (ts ++ ts') := by
  intro rest hrest
  rw [List.append_assoc, h, h' rest hrest, List.append_assoc]

theorem Lexes.append_closed {c : Char} (h : Lexes a ts) (h' : Closed (c :: b) ts')
    (hc : isDelimiter c = true) : Closed (a ++ c :: b) (ts ++ ts') := by
  intro rest
  have hstops : Stops (c :: b ++ rest) := by
    rintro d ⟨⟩
    exact hc
  rw [List.append_assoc, h _ hstops, h', List.append_assoc]

def IsWord (s : String) : Prop := s.toList ≠ [] ∧ ∀ c ∈ s.toList, isDelimiter c = false

theorem isDelimiter_of {q : Char → Bool} {c : Char} (hq : delimiters.any q = false)
    (h : q c = true) : isDelimiter c = false := by
  refine Bool.eq_false_iff.2 fun hc => ?_
  exact List.any_eq_false.1 hq c (List.contains_iff_mem.1 hc) h

theorem start_of_not_delimiter {c : Char} (h : isDelimiter c = false) :
    start c = ([], .word [c]) := by
  have hne (d : Char) (hd : isDelimiter d = true) : c ≠ d := by
    rintro rfl
    cases h.symm.trans hd
  simp [start, h, hne ' ' rfl, hne '\n' rfl, hne '"' rfl, hne '/' rfl]

theorem tokens_word (h : ∀ c ∈ a, isDelimiter c = false) (before : List Char)
    (hrest : Stops rest) : tokens (.word before) (a ++ rest) =
      .word (String.ofList (before.reverse ++ a)) :: tokens .plain rest := by
  induction a generalizing before with
  | nil =>
    rw [List.append_nil, List.nil_append]
    cases rest with
    | nil => rfl
    | cons c rest =>
      simp only [tokens, step, hrest c rfl, if_true]
      rfl
  | cons c a ih =>
    have hc := h c List.mem_cons_self
    simp only [List.cons_append, tokens, step, hc, Bool.false_eq_true, if_false, List.nil_append]
    rw [ih (fun d hd => h d (List.mem_cons_of_mem c hd)), List.reverse_cons, List.append_assoc]
    rfl

theorem IsWord.lexes {s : String} (h : IsWord s) : Lexes s.toList [.word s] := by
  intro rest hrest
  obtain ⟨c, cs, hs⟩ := List.exists_cons_of_ne_nil h.1
  have hall := h.2
  rw [hs] at hall
  have hc := hall c List.mem_cons_self
  have he : String.ofList (c :: cs) = s := by rw [← hs, String.ofList_toList]
  rw [hs, List.cons_append, tokens, step, start_of_not_delimiter hc]
  simp only [List.nil_append]
  rw [tokens_word (fun d hd => hall d (List.mem_cons_of_mem c hd)) [c] hrest]
  simp only [List.reverse_singleton, List.singleton_append, he]

theorem tokens_quoted (s before : List Char) : tokens (.quoted before)
    (Text.escapeQuoted s ++ '"' :: rest) =
      .word (String.ofList (before.reverse ++ Text.escapeQuoted s ++ ['"'])) ::
        tokens .plain rest := by
  induction s generalizing before with
  | nil => simp [Text.escapeQuoted, tokens, step]
  | cons c s ih =>
    have hcons : Text.escapeQuoted (c :: s) = Text.quotedForm c ++ Text.escapeQuoted s := rfl
    have hform : ∃ before', tokens (.quoted before)
        (Text.quotedForm c ++ (Text.escapeQuoted s ++ '"' :: rest)) =
          tokens (.quoted before') (Text.escapeQuoted s ++ '"' :: rest) ∧
        before'.reverse = before.reverse ++ Text.quotedForm c := by
      unfold Text.quotedForm
      split
      case h_6 _ h₁ h₂ _ _ _ =>
        refine ⟨c :: before, ?_, List.reverse_cons⟩
        simp only [List.singleton_append, tokens, step, if_neg h₁, if_neg h₂, List.nil_append]
      all_goals exact ⟨_, rfl, by simp⟩
    obtain ⟨before', ht, hb⟩ := hform
    rw [hcons, List.append_assoc, ht, ih, hb, List.append_assoc before.reverse]

theorem closed_quoted (s : String) : Closed (Text.quoted s).toList [.word (Text.quoted s)] := by
  intro rest
  have hq : (Text.quoted s).toList = '"' :: (Text.escapeQuoted s.toList ++ ['"']) := by
    rw [Text.quoted, String.toList_ofList]
    rfl
  have he : String.ofList ('"' :: (Text.escapeQuoted s.toList ++ ['"'])) = Text.quoted s := rfl
  rw [hq, List.cons_append, List.append_assoc]
  change tokens (.quoted ['"']) _ = _
  rw [List.singleton_append, tokens_quoted]
  simp only [List.reverse_singleton, List.cons_append, List.nil_append, he]

theorem closed_indentation (level : Nat) : Closed (indentation level).toList [] := by
  rw [indentation, String.toList_ofList]
  induction 2 * level with
  | zero => exact .nil
  | succ n ih => exact fun rest => ih rest

/-- A comment goes on after a text of one of its lines. -/
theorem tokens_guarded (s : List Char) (rest : List Char) :
    tokens .comment (Doc.guarded s ++ '\n' :: rest) = tokens .comment rest ∧
      (s.head? ≠ some '/' →
        tokens .star (Doc.guarded s ++ '\n' :: rest) = tokens .comment rest) := by
  fun_induction Doc.guarded s with
  | case1 => exact ⟨rfl, fun _ => rfl⟩
  | case2 s ih => exact ⟨ih.1, fun _ => ih.1⟩
  | case3 c s hno ih =>
    have hstep : tokens (if c = '*' then .star else .comment) (Doc.guarded s ++ '\n' :: rest) =
        tokens .comment rest := by
      split
      · next hc =>
        refine ih.2 fun hs => ?_
        obtain ⟨t, rfl⟩ := List.head?_eq_some_iff.1 hs
        exact hno t hc rfl
      · exact ih.1
    refine ⟨hstep, fun hc => ?_⟩
    have hslash : c ≠ '/' := fun h => hc (congrArg some h)
    simp only [List.cons_append, tokens, step, if_neg hslash, List.nil_append]
    exact hstep

theorem tokens_comment_indentation (level : Nat) (rest : List Char) :
    tokens .comment ((indentation level).toList ++ rest) = tokens .comment rest := by
  rw [indentation, String.toList_ofList]
  induction 2 * level with
  | zero => rfl
  | succ n ih => exact ih

theorem tokens_docLine (level : Nat) (line : String) (rest : List Char) :
    tokens .comment ((Doc.lineText level line).toList ++ rest) = tokens .comment rest := by
  unfold Doc.lineText
  split
  · rw [String.toList_append, List.append_assoc, tokens_comment_indentation]
    rfl
  · simp only [String.toList_append, String.toList_ofList, List.append_assoc,
      tokens_comment_indentation]
    exact (tokens_guarded line.toList rest).1

theorem tokens_docLines (level : Nat) (lines : List String) (rest : List Char) :
    tokens .comment ((String.join (lines.map (Doc.lineText level))).toList ++ rest) =
      tokens .comment rest := by
  rw [String.toList_join]
  induction lines with
  | nil => rfl
  | cons line lines ih =>
    rw [List.map_cons, List.flatMap_cons, List.append_assoc, tokens_docLine, ih]

theorem closed_doc (level : Nat) (doc : Option Doc) : Closed (Doc.textOf level doc).toList [] := by
  cases doc with
  | none => exact .nil
  | some d =>
    intro rest
    have hopening (rest : List Char) :
        tokens .plain ("/**\n".toList ++ rest) = tokens .comment rest := rfl
    simp only [Doc.textOf, Doc.text, String.toList_append, List.append_assoc]
    rw [closed_indentation level, List.nil_append, hopening, tokens_docLines,
      tokens_comment_indentation]
    rfl

end ClientGen.TypeScript.Reader
