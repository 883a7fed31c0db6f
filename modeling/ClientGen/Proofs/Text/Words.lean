import ClientGen.Text.Words

namespace ClientGen.Text

variable {c d sep : Char} {rest after run word : List Char} {more others : List (List Char)}

theorem splitRun_cons_cons (h : splitRun (d :: rest) = word :: others) :
    splitRun (c :: d :: rest) =
      if wordBreak c d rest.head? then [c] :: word :: others else (c :: word) :: others := by
  rw [splitRun, h]

theorem exists_splitRun_cons (c : Char) (rest : List Char) :
    ∃ word others, splitRun (c :: rest) = (c :: word) :: others := by
  cases rest with
  | nil => exact ⟨[], [], rfl⟩
  | cons d rest =>
    cases h : splitRun (d :: rest) with
    | nil => exact ⟨[], [], by rw [splitRun, h]⟩
    | cons word others =>
      rw [splitRun_cons_cons h]
      by_cases hbreak : wordBreak c d rest.head? = true
      · exact ⟨[], word :: others, if_pos hbreak⟩
      · exact ⟨word, others, if_neg hbreak⟩

theorem runs_ne_nil (cs : List Char) : runs cs ≠ [] := by
  cases cs with
  | nil => exact List.cons_ne_nil _ _
  | cons c rest =>
    unfold runs
    split
    · split <;> exact List.cons_ne_nil _ _
    · exact List.cons_ne_nil _ _

theorem runs_cons (hc : isWordChar c = true) (h : runs rest = run :: more) :
    runs (c :: rest) = (c :: run) :: more := by
  rw [runs, h]
  exact if_pos hc

theorem runs_append_cons (hsep : isWordChar sep = false) (before after : List Char) :
    runs (before ++ sep :: after) = runs before ++ runs after := by
  induction before with
  | nil =>
    obtain ⟨run, more, h⟩ := List.exists_cons_of_ne_nil (runs_ne_nil after)
    rw [List.nil_append, runs, runs, h]
    exact if_neg (Bool.eq_false_iff.1 hsep)
  | cons c before ih =>
    obtain ⟨run, more, h⟩ := List.exists_cons_of_ne_nil (runs_ne_nil before)
    rw [List.cons_append, runs, ih, runs, h]
    dsimp only [List.cons_append]
    split <;> rfl

theorem head?_of_runs (h : runs rest = run :: more) :
    run.head? = rest.head?.filter isWordChar := by
  cases rest with
  | nil =>
    cases h
    rfl
  | cons c rest =>
    obtain ⟨next, others, hrest⟩ := List.exists_cons_of_ne_nil (runs_ne_nil rest)
    rw [runs, hrest] at h
    dsimp only at h
    cases hc : isWordChar c with
    | false =>
      rw [hc, if_neg Bool.false_ne_true] at h
      cases h
      exact (Option.filter_some_neg hc).symm
    | true =>
      rw [hc, if_pos rfl] at h
      cases h
      exact (Option.filter_some_pos hc).symm

theorem words_append_cons (hsep : isWordChar sep = false) (before after : List Char) :
    words (before ++ sep :: after) = words before ++ words after := by
  rw [words, runs_append_cons hsep, List.flatMap_append, words, words]

theorem words_cons_of_not (hsep : isWordChar sep = false) (rest : List Char) :
    words (sep :: rest) = words rest :=
  words_append_cons hsep [] rest

theorem words_singleton (hc : isWordChar c = true) : words [c] = [[c]] := by
  rw [words, runs_cons hc rfl]
  rfl

theorem exists_words_cons (hc : isWordChar c = true) (rest : List Char) :
    ∃ word others, words (c :: rest) = (c :: word) :: others := by
  obtain ⟨run, more, hruns⟩ := List.exists_cons_of_ne_nil (runs_ne_nil rest)
  obtain ⟨word, others, hrun⟩ := exists_splitRun_cons c run
  refine ⟨word, others ++ more.flatMap splitRun, ?_⟩
  rw [words, runs_cons hc hruns, List.flatMap_cons, hrun, List.cons_append]

/-- Of two word characters side by side the first is a word of its own where a word ends between
them, and else is in the word of the second. The character after them counts if it is in the same
run. -/
theorem words_cons_cons (hc : isWordChar c = true) (hd : isWordChar d = true)
    (h : words (d :: rest) = word :: others) :
    words (c :: d :: rest) =
      if wordBreak c d (rest.head?.filter isWordChar) then [c] :: word :: others
      else (c :: word) :: others := by
  obtain ⟨run, more, hruns⟩ := List.exists_cons_of_ne_nil (runs_ne_nil rest)
  obtain ⟨first, next, hrun⟩ := exists_splitRun_cons d run
  have hrest : runs (d :: rest) = (d :: run) :: more := runs_cons hd hruns
  rw [words, hrest, List.flatMap_cons, hrun, List.cons_append, List.cons.injEq] at h
  rw [words, runs_cons hc hrest, List.flatMap_cons, splitRun_cons_cons hrun, head?_of_runs hruns,
    ← h.1, ← h.2]
  split <;> rfl

/-- A word character in front of a text is a word of its own or begins the first word. Every fact
about the words of a text goes by this step and the one at a separator. -/
theorem words_cons_cases (hc : isWordChar c = true) (rest : List Char) :
    words (c :: rest) = [c] :: words rest ∨
      ∃ word others, words rest = word :: others ∧ words (c :: rest) = (c :: word) :: others := by
  cases rest with
  | nil => exact .inl (words_singleton hc)
  | cons d rest =>
    cases hd : isWordChar d with
    | false =>
      have happend := words_append_cons hd [c] rest
      rw [words_singleton hc] at happend
      exact .inl (happend.trans (by rw [words_cons_of_not hd, List.singleton_append]))
    | true =>
      obtain ⟨word, others, h⟩ := exists_words_cons hd rest
      rw [words_cons_cons hc hd h, h]
      split
      · exact .inl rfl
      · exact .inr ⟨d :: word, others, rfl, rfl⟩

/-- Cutting a text into words keeps its word characters. -/
theorem flatten_words (cs : List Char) : (words cs).flatten = cs.filter isWordChar := by
  induction cs with
  | nil => rfl
  | cons c rest ih =>
    cases hc : isWordChar c with
    | false => rw [words_cons_of_not hc, List.filter_cons_of_neg (Bool.eq_false_iff.1 hc), ih]
    | true =>
      rw [List.filter_cons_of_pos hc, ← ih]
      rcases words_cons_cases hc rest with h | ⟨word, others, hrest, h⟩
      · rw [h]
        rfl
      · rw [h, hrest]
        rfl

theorem ne_nil_of_mem_words {cs : List Char} (h : word ∈ words cs) : word ≠ [] := by
  induction cs with
  | nil => exact absurd h List.not_mem_nil
  | cons c rest ih =>
    cases hc : isWordChar c with
    | false => exact ih (words_cons_of_not hc rest ▸ h)
    | true =>
      rcases words_cons_cases hc rest with halone | ⟨first, others, hrest, hjoined⟩
      · rw [halone] at h
        rcases List.mem_cons.1 h with rfl | h
        · exact List.cons_ne_nil c []
        · exact ih h
      · rw [hjoined] at h
        rcases List.mem_cons.1 h with rfl | h
        · exact List.cons_ne_nil c first
        · exact ih (hrest ▸ List.mem_cons_of_mem first h)

theorem isWordChar_of_mem_words {cs : List Char} (h : word ∈ words cs) (hc : c ∈ word) :
    isWordChar c = true := by
  have hmem : c ∈ (words cs).flatten := List.mem_flatten.2 ⟨word, h, hc⟩
  rw [flatten_words] at hmem
  exact (List.mem_filter.1 hmem).2

/-- The number of the word that has the character at a place, where places are counted through all
words one after the other. -/
def wordIndex : List (List Char) → Nat → Nat
  | [], _ => 0
  | word :: others, place =>
    if place < word.length then 0 else wordIndex others (place - word.length) + 1

theorem wordIndex_nil_cons (others : List (List Char)) (place : Nat) :
    wordIndex ([] :: others) place = wordIndex others place + 1 := rfl

theorem wordIndex_cons_succ (c : Char) (word : List Char) (others : List (List Char))
    (place : Nat) :
    wordIndex ((c :: word) :: others) (place + 1) = wordIndex (word :: others) place := by
  simp [wordIndex]

/-- Two neighbours are in different words if a word ends between them. -/
theorem wordIndex_ne_iff (hc : isWordChar c = true) (hd : isWordChar d = true)
    (before after : List Char) :
    wordIndex (words (before ++ c :: d :: after)) (before.countP isWordChar) ≠
        wordIndex (words (before ++ c :: d :: after)) (before.countP isWordChar + 1) ↔
      wordBreak c d (after.head?.filter isWordChar) = true := by
  induction before with
  | nil =>
    obtain ⟨word, others, h⟩ := exists_words_cons hd after
    rw [List.nil_append, words_cons_cons hc hd h, List.countP_nil]
    split
    · next hbreak => simp [wordIndex, hbreak]
    · next hbreak => simp [wordIndex, hbreak]
  | cons b before ih =>
    rw [List.cons_append]
    cases hb : isWordChar b with
    | false =>
      rw [List.countP_cons_of_neg (Bool.eq_false_iff.1 hb), words_cons_of_not hb]
      exact ih
    | true =>
      -- A word character in front moves both places by one, in a word of its own or in the first.
      rw [List.countP_cons_of_pos hb]
      rcases words_cons_cases hb (before ++ c :: d :: after) with h | ⟨word, others, hrest, h⟩
      · rw [h, wordIndex_cons_succ, wordIndex_cons_succ, wordIndex_nil_cons, wordIndex_nil_cons,
          ← ih, ne_eq, ne_eq, Nat.add_right_cancel_iff]
      · rw [h, wordIndex_cons_succ, wordIndex_cons_succ, ← hrest]
        exact ih

theorem wordBreak_iff :
    wordBreak c d (after.head?.filter isWordChar) = true ↔
      (isLowercase c ∧ isUppercase d) ∨
      (isUppercase c ∧ isUppercase d ∧
        ∃ e rest, after = e :: rest ∧ isWordChar e ∧ isLowercase e) ∨
      (isAlphabetic c ∧ isNumeric d) ∨ (isNumeric c ∧ isAlphabetic d) := by
  have hnext : (after.head?.filter isWordChar).any isLowercase = true ↔
      ∃ e rest, after = e :: rest ∧ isWordChar e ∧ isLowercase e := by
    cases after with
    | nil => simp
    | cons e rest => cases he : isWordChar e <;> simp [he]
  simp only [wordBreak, Bool.or_eq_true, Bool.and_eq_true, hnext, or_assoc, and_assoc]

/-- The words of a text are made of word characters, at least one each, and all of those in the
text one after the other. They are cut at every separator, and between two neighbours from lower to
upper case, between letters and digits, and before the last capital of several if a lower case
letter of the same run follows. -/
theorem words_partition (cs : List Char) :
    (∀ word ∈ words cs, word ≠ [] ∧ ∀ c ∈ word, isWordChar c) ∧
    (words cs).flatten = cs.filter isWordChar ∧
    (∀ before sep after, cs = before ++ sep :: after → isWordChar sep = false →
      words cs = words before ++ words after) ∧
    ∀ before c d after, cs = before ++ c :: d :: after → isWordChar c → isWordChar d →
      (wordIndex (words cs) (before.countP isWordChar) ≠
          wordIndex (words cs) (before.countP isWordChar + 1) ↔
        (isLowercase c ∧ isUppercase d) ∨
        (isUppercase c ∧ isUppercase d ∧
          ∃ e rest, after = e :: rest ∧ isWordChar e ∧ isLowercase e) ∨
        (isAlphabetic c ∧ isNumeric d) ∨ (isNumeric c ∧ isAlphabetic d)) := by
  refine ⟨fun word hword => ⟨ne_nil_of_mem_words hword, fun c => isWordChar_of_mem_words hword⟩,
    flatten_words cs, ?_, ?_⟩
  · rintro before sep after rfl hsep
    exact words_append_cons hsep before after
  · rintro before c d after rfl hc hd
    rw [wordIndex_ne_iff hc hd, wordBreak_iff]

def httpServer : String := "get HTTPServer2"

theorem words_partition_httpServer :
    ['H', 'T', 'T', 'P'] ∈ words httpServer.toList ∧ ['H', 'T', 'T', 'P'] ≠ [] ∧
    isWordChar ' ' = false ∧
    words httpServer.toList = words "get".toList ++ words "HTTPServer2".toList ∧
    isWordChar 'P' ∧ isWordChar 'S' ∧
    wordIndex (words httpServer.toList) 6 ≠ wordIndex (words httpServer.toList) 7 := by
  obtain ⟨hparts, -, hcut, hbreak⟩ := words_partition httpServer.toList
  have hword : ['H', 'T', 'T', 'P'] ∈ words httpServer.toList := by decide +kernel
  have hspace : isWordChar ' ' = false := by decide +kernel
  have hp : isWordChar 'P' = true := by decide +kernel
  have hs : isWordChar 'S' = true := by decide +kernel
  have hplace : "get HTT".toList.countP isWordChar = 6 := by decide +kernel
  have hneighbours := hbreak "get HTT".toList 'P' 'S' "erver2".toList (by decide +kernel) hp hs
  have hlast : isUppercase 'P' ∧ isUppercase 'S' ∧
      ∃ e rest, "erver2".toList = e :: rest ∧ isWordChar e ∧ isLowercase e :=
    ⟨by decide +kernel, by decide +kernel, 'e', "rver2".toList, by decide +kernel,
      by decide +kernel, by decide +kernel⟩
  rw [hplace] at hneighbours
  exact ⟨hword, (hparts _ hword).1, hspace, hcut _ _ _ (by decide +kernel) hspace, hp, hs,
    hneighbours.2 (.inr (.inl hlast))⟩

end ClientGen.Text
