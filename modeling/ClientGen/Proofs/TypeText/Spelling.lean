import ClientGen.Proofs.Lists
import ClientGen.Proofs.TypeText.Rows
import ClientGen.Proofs.TypeText.Words
import Mathlib.Data.List.Forall2

namespace ClientGen.TypeScript.Reader

open Reading

variable {s s' : String} {rows rows' : Rows} {ts ts' : List Token} {items items' : List Item}
  {item : Item} {c : Char}

/-- Among other tokens, tokens bring these items. -/
def Brings (ts : List Token) (items : List Item) : Prop :=
  ∀ outer before rest,
    unbracketed outer before (ts ++ rest) = unbracketed outer (before ++ items) rest

theorem Brings.nil : Brings [] [] := fun outer before rest => by
  rw [List.nil_append, List.append_nil]

theorem Brings.append (h : Brings ts items) (h' : Brings ts' items') :
    Brings (ts ++ ts') (items ++ items') := by
  intro outer before rest
  rw [List.append_assoc, h, h', List.append_assoc]

theorem Brings.word (w : String) : Brings [.word w] [.word w] := fun _ _ _ => rfl

theorem Brings.mark (h : closing? c = none) (hc : ¬ (c = ')' ∨ c = ']' ∨ c = '\x7d')) :
    Brings [.mark c] [.mark c] := by
  intro outer before rest
  simp only [List.singleton_append, unbracketed, h, if_neg hc]

structure Brackets (o c : Char) : Prop where
  closes : closing? o = some c
  opens : closing? c = none
  ends : c = ')' ∨ c = ']' ∨ c = '\x7d'
  first : start o = ([.mark o], .plain)
  last : start c = ([.mark c], .plain)
  stops : isDelimiter c = true

theorem brackets_round : Brackets '(' ')' := ⟨rfl, rfl, .inl rfl, rfl, rfl, rfl⟩

theorem brackets_square : Brackets '[' ']' := ⟨rfl, rfl, .inr (.inl rfl), rfl, rfl, rfl⟩

theorem brackets_curly : Brackets '\x7b' '\x7d' := ⟨rfl, rfl, .inr (.inr rfl), rfl, rfl, rfl⟩

theorem Brings.enclosed {o : Char} (hk : Brackets o c) (h : Brings ts items)
    (hi : Reader.enclosed c items = some item) :
    Brings (.mark o :: (ts ++ [.mark c])) [item] := by
  intro outer before rest
  rw [List.cons_append, List.append_assoc]
  simp only [unbracketed, hk.closes]
  rw [h]
  simp only [List.nil_append, List.singleton_append, unbracketed, hk.opens, if_pos hk.ends,
    if_true, hi, Option.bind_some]

/-- A text spells these rows. -/
def Spells (s : String) (rows : Rows) : Prop :=
  ∃ ts items, Lexes s.toList ts ∧ Brings ts items ∧ readRows items = some rows

theorem Spells.read (h : Spells s rows) : Reader.read s = some (ofRows rows) := by
  obtain ⟨ts, items, hlex, hbrings, hrows⟩ := h
  have hts : tokens .plain s.toList = ts := by
    simpa [tokens, final] using hlex [] (fun _ hc => by cases hc)
  have hitems : unbracketed [] [] ts = some items := by
    simpa [unbracketed] using hbrings [] [] []
  simp only [Reader.read, hts, hitems, Option.bind_some, readType, hrows, Option.map_some]

theorem Spells.word (h : IsWord s) : Spells s [[.word s]] :=
  ⟨_, _, h.lexes, .word s, readRows_operand rfl⟩

theorem Spells.quoted (s : String) : Spells (Text.quoted s) [[.word (Text.quoted s)]] :=
  ⟨_, _, (closed_quoted s).lexes, .word _, readRows_operand rfl⟩

theorem closed_mark (c : Char) (h : start c = ([.mark c], .plain)) : Closed [c] [.mark c] := by
  intro rest
  rw [List.singleton_append, tokens, step, h]

theorem Spells.enclosed {o : Char} {r : Reading} (hk : Brackets o c) (h : Lexes s.toList ts)
    (hb : Brings ts items) (hi : Reader.enclosed c items = some item)
    (hr : operand? item = some r) :
    Spells (String.singleton o ++ s ++ String.singleton c) [[r]] := by
  refine ⟨.mark o :: (ts ++ [.mark c]), [item], ?_, hb.enclosed hk hi, readRows_operand hr⟩
  have hclosed : Closed (s.toList ++ [c]) (ts ++ [.mark c]) :=
    h.append_closed (closed_mark c hk.last) hk.stops
  have hall := (closed_mark o hk.first).append hclosed
  simpa using hall.lexes

theorem Spells.grouped (h : Spells s rows) : Spells ("(" ++ s ++ ")") [[ofRows rows]] := by
  obtain ⟨ts, items, hlex, hbrings, hrows⟩ := h
  have hread : Reader.enclosed ')' items = some (.type (ofRows rows)) := by
    simp [Reader.enclosed, readType, hrows]
  have hall := Spells.enclosed brackets_round hlex hbrings hread rfl
  exact hall

theorem Spells.array (h : Spells s rows) : Spells (s ++ "[]") rows.array := by
  obtain ⟨ts, items, hlex, hbrings, hrows⟩ := h
  have hsquares : Brings [.mark '[', .mark ']'] [.squares []] :=
    Brings.nil.enclosed brackets_square rfl
  refine ⟨_, _, ?_, hbrings.append hsquares, readRows_array hrows⟩
  have hclosed : Closed ('[' :: [']']) [.mark '[', .mark ']'] := fun rest => rfl
  simpa using (hlex.append_closed hclosed rfl).lexes

theorem Lexes.between {sep : String} {marks : List Token} (h : Lexes s.toList ts)
    (hsep : Closed sep.toList marks) (hd : ∀ rest, Stops (sep.toList ++ rest))
    (h' : Lexes s'.toList ts') : Lexes (s ++ sep ++ s').toList (ts ++ (marks ++ ts')) := by
  intro rest hrest
  simp only [String.toList_append, List.append_assoc]
  rw [h _ (hd _), hsep, h' rest hrest]

theorem Spells.bar (h : Spells s rows) (h' : Spells s' rows') :
    Spells (s ++ " | " ++ s') (rows ++ rows') := by
  obtain ⟨ts, items, hlex, hbrings, hrows⟩ := h
  obtain ⟨ts', items', hlex', hbrings', hrows'⟩ := h'
  refine ⟨_, _, hlex.between (fun _ => rfl) (fun _ => ?_) hlex',
    hbrings.append ((Brings.mark rfl (by decide)).append hbrings'), readRows_bar hrows hrows'⟩
  rintro d ⟨⟩
  rfl

theorem Spells.amp (h : Spells s rows) (h' : Spells s' rows') :
    Spells (s ++ " & " ++ s') (rows.join rows') := by
  obtain ⟨ts, items, hlex, hbrings, hrows⟩ := h
  obtain ⟨ts', items', hlex', hbrings', hrows'⟩ := h'
  refine ⟨_, _, hlex.between (fun _ => rfl) (fun _ => ?_) hlex',
    hbrings.append ((Brings.mark rfl (by decide)).append hbrings'), readRows_amp hrows hrows'⟩
  rintro d ⟨⟩
  rfl

theorem Spells.union {texts : List String} {rowss : List Rows} (hne : texts ≠ [])
    (h : List.Forall₂ Spells texts rowss) :
    Spells (" | ".intercalate texts) rowss.flatten := by
  induction h with
  | nil => exact absurd rfl hne
  | @cons s rows texts rowss h hrest ih =>
    cases hrest with
    | nil =>
      rw [String.intercalate_singleton, List.flatten_singleton]
      exact h
    | cons h' hrest =>
      rw [String.intercalate_cons_cons, List.flatten_cons]
      exact h.bar (ih (List.cons_ne_nil _ _))

theorem Spells.intersection {texts : List String} {rowss : List Rows} (hne : texts ≠ [])
    (h : List.Forall₂ Spells texts rowss) :
    Spells (" & ".intercalate texts) (rowss.foldr Rows.join []) := by
  induction h with
  | nil => exact absurd rfl hne
  | @cons s rows texts rowss h hrest ih =>
    cases hrest with
    | nil =>
      rw [String.intercalate_singleton, List.foldr_cons, List.foldr_nil, Rows.join, merge_nil]
      exact h
    | cons h' hrest =>
      rw [String.intercalate_cons_cons, List.foldr_cons]
      exact h.amp (ih (List.cons_ne_nil _ _))

theorem mem_splitOnP {α : Type} {p : α → Bool} {l : List α} {x : α} (hx : x ∈ l)
    (hp : p x = false) : ∃ piece ∈ l.splitOnP p, x ∈ piece := by
  induction l with
  | nil => cases hx
  | cons y l ih =>
    obtain ⟨piece, pieces, hl⟩ := List.exists_cons_of_ne_nil (List.splitOnP_ne_nil p l)
    rw [List.splitOnP_cons_eq_if_modifyHead]
    rw [hl] at ih ⊢
    rcases List.mem_cons.1 hx with rfl | hx
    · rw [hp]
      exact ⟨x :: piece, List.mem_cons_self, List.mem_cons_self⟩
    · obtain ⟨piece', hmem, hx⟩ := ih hx
      split
      · exact ⟨piece', List.mem_cons_of_mem _ hmem, hx⟩
      · rcases List.mem_cons.1 hmem with rfl | hmem
        · exact ⟨y :: piece', List.mem_cons_self, List.mem_cons_of_mem _ hx⟩
        · exact ⟨piece', List.mem_cons_of_mem _ hmem, hx⟩

theorem isMark_of_foldlM {r r' : Reading} (h : items.foldlM arrayOf? r = some r') :
    ∀ i ∈ items, ∀ c, i.isMark c = false := by
  induction items generalizing r with
  | nil => exact fun _ hi => absurd hi List.not_mem_nil
  | cons i items ih =>
    rw [List.foldlM_cons] at h
    obtain ⟨r₁, hr₁, h⟩ := Option.bind_eq_some_iff.1 h
    refine List.forall_mem_cons.2 ⟨fun c => ?_, ih h⟩
    cases i with
    | mark => cases hr₁
    | _ => rfl

theorem isMark_of_readPart {r : Reading} (h : readPart items = some r) :
    ∀ i ∈ items, ∀ c, i.isMark c = false := by
  cases items with
  | nil => cases h
  | cons i items =>
    obtain ⟨r₁, hr₁, h⟩ := Option.bind_eq_some_iff.1 h
    refine List.forall_mem_cons.2 ⟨fun c => ?_, isMark_of_foldlM h⟩
    cases i with
    | mark => cases hr₁
    | _ => rfl

theorem isMark_of_readRows (h : readRows items = some rows) (hbar : c ≠ '|') (hamp : c ≠ '&') :
    ∀ i ∈ items, i.isMark c = false := by
  intro i hi
  cases i with
  | mark d =>
    refine decide_eq_false fun hd => ?_
    subst hd
    obtain ⟨member, hmember, hi⟩ := mem_splitOnP hi (p := Item.isMark '|') (decide_eq_false hbar)
    obtain ⟨parts, -, hparts⟩ := exists_of_mapM h _ hmember
    obtain ⟨part, hpart, hi⟩ := mem_splitOnP hi (p := Item.isMark '&') (decide_eq_false hamp)
    obtain ⟨r, -, hr⟩ := exists_of_mapM hparts _ hpart
    exact absurd (isMark_of_readPart hr _ hi d) (by simp [Item.isMark])
  | _ => rfl

theorem spells_items {texts : List String} {rowss : List Rows} (hne : texts ≠ [])
    (h : List.Forall₂ Spells texts rowss) : ∃ ts items, items ≠ [] ∧
      Lexes (", ".intercalate texts).toList ts ∧ Brings ts items ∧
      (items.splitOnP (Item.isMark ',')).mapM readType = some (rowss.map ofRows) := by
  induction h with
  | nil => exact absurd rfl hne
  | @cons s rows texts rowss h hrest ih =>
    obtain ⟨ts, items, hlex, hbrings, hrows⟩ := h
    have hcut : items.splitOnP (Item.isMark ',') = [items] :=
      List.splitOnP_eq_singleton (isMark_of_readRows hrows (by decide) (by decide))
    have hread : readType items = some (ofRows rows) := by rw [readType, hrows]; rfl
    have hitems : items ≠ [] := by
      rintro rfl
      cases hrows
    cases hrest with
    | nil =>
      refine ⟨ts, items, hitems, ?_, hbrings, ?_⟩
      · rwa [String.intercalate_singleton]
      · rw [hcut]
        simp [hread]
    | @cons s' rows' texts rowss h' hrest =>
      obtain ⟨ts', items', hne', hlex', hbrings', hread'⟩ := ih (List.cons_ne_nil _ _)
      have hcomma : Brings [.mark ','] [.mark ','] := .mark rfl (by decide)
      refine ⟨_, _, ?_, ?_, hbrings.append (hcomma.append hbrings'), ?_⟩
      · simp
      · rw [String.intercalate_cons_cons]
        refine hlex.between (fun _ => rfl) (fun _ => ?_) hlex'
        rintro d ⟨⟩
        rfl
      · rw [List.singleton_append, List.splitOnP_append_cons items items' (by rfl), hcut,
          List.mapM_append, hread']
        simp [hread]

theorem Spells.tuple {texts : List String} {rowss : List Rows}
    (h : List.Forall₂ Spells texts rowss) :
    Spells ("[" ++ ", ".intercalate texts ++ "]") [[.tuple (rowss.map ofRows)]] := by
  cases texts with
  | nil =>
    cases h
    have hall := Spells.enclosed (s := "") brackets_square Closed.nil.lexes .nil rfl rfl
    exact hall
  | cons text texts =>
    obtain ⟨ts, items, hne, hlex, hbrings, hread⟩ := spells_items (List.cons_ne_nil _ _) h
    have hsquares : Reader.enclosed ']' items = some (.squares (rowss.map ofRows)) := by
      simp [Reader.enclosed, readSquares, hne, hread]
    have hall := Spells.enclosed brackets_square hlex hbrings hsquares rfl
    exact hall

def SpellsField (s : String) (field : FieldName × Reading) : Prop :=
  ∃ ts items, Lexes s.toList ts ∧ Brings ts items ∧ (∀ i ∈ items, i.isMark ';' = false) ∧
    readField items = some field

def SpellsFields (s : String) (fields : List (FieldName × Reading)) : Prop :=
  ∃ ts items, Closed s.toList ts ∧ Brings ts items ∧ readFields items = some fields

theorem SpellsFields.blank (h : Closed s.toList []) : SpellsFields s [] :=
  ⟨[], [], h, .nil, rfl⟩

theorem SpellsFields.after {fields : List (FieldName × Reading)} (hs : Closed s.toList [])
    (h : SpellsFields s' fields) : SpellsFields (s ++ s') fields := by
  obtain ⟨ts, items, hclosed, hrest⟩ := h
  refine ⟨ts, items, ?_, hrest⟩
  rw [String.toList_append]
  exact hs.append hclosed

theorem readFields_cons {field : FieldName × Reading} {fields : List (FieldName × Reading)}
    (hno : ∀ i ∈ items, i.isMark ';' = false) (h : readField items = some field)
    (h' : readFields items' = some fields) :
    readFields (items ++ .mark ';' :: items') = some (field :: fields) := by
  obtain ⟨piece, pieces, hp⟩ :=
    List.exists_cons_of_ne_nil (List.splitOnP_ne_nil (Item.isMark ';') items')
  simp only [readFields] at h' ⊢
  rw [List.splitOnP_append_cons items items' (by rfl), List.splitOnP_eq_singleton hno,
    List.singleton_append]
  rw [hp] at h' ⊢
  split at h'
  · next hlast =>
    rw [if_pos (by rwa [List.getLast?_cons_cons]), List.dropLast_cons_cons]
    exact mapM_cons_eq_some.2 ⟨_, _, h, h', rfl⟩
  · cases h'

theorem SpellsFields.cons {field : FieldName × Reading} {fields : List (FieldName × Reading)}
    (h : SpellsField s field) (h' : SpellsFields s' fields) :
    SpellsFields (s ++ ";\n" ++ s') (field :: fields) := by
  obtain ⟨ts, items, hlex, hbrings, hno, hread⟩ := h
  obtain ⟨ts', items', hclosed, hbrings', hread'⟩ := h'
  refine ⟨ts ++ (.mark ';' :: ts'), items ++ .mark ';' :: items', ?_,
    hbrings.append ((Brings.mark rfl (by decide)).append hbrings'),
    readFields_cons hno hread hread'⟩
  have hsemicolon : Closed (';' :: '\n' :: s'.toList) (.mark ';' :: ts') := fun rest => by
    change Token.mark ';' :: tokens .plain (s'.toList ++ rest) = _
    rw [hclosed]
    rfl
  simpa using hlex.append_closed hsemicolon rfl

theorem SpellsField.after {field : FieldName × Reading} (hs : Closed s.toList [])
    (h : SpellsField s' field) : SpellsField (s ++ s') field := by
  obtain ⟨ts, items, hlex, hrest⟩ := h
  refine ⟨ts, items, ?_, hrest⟩
  rw [String.toList_append]
  exact hs.append_lexes hlex

theorem lexes_key (name : String) :
    Lexes (Identifier.key name).toList [.word (Identifier.key name)] := by
  unfold Identifier.key
  split
  · next h => exact (isWord_of_isBareKey h).lexes
  · exact (closed_quoted name).lexes

theorem SpellsField.property (name : String) (optional : Bool) (h : Spells s rows) :
    SpellsField (Identifier.key name ++ (if optional then "?: " else ": ") ++ s)
      (.property (Identifier.key name) optional, ofRows rows) := by
  obtain ⟨ts, items, hlex, hbrings, hrows⟩ := h
  have hno := isMark_of_readRows hrows (c := ';') (by decide) (by decide)
  have hkey := lexes_key name
  have hcolon : Brings [.mark ':'] [.mark ':'] := .mark rfl (by decide)
  cases optional with
  | true =>
    have hmarks : Closed "?: ".toList [.mark '?', .mark ':'] := fun _ => rfl
    have hbringsMarks : Brings [.mark '?', .mark ':'] [.mark '?', .mark ':'] :=
      (Brings.mark rfl (by decide)).append hcolon
    refine ⟨_, .word (Identifier.key name) :: .mark '?' :: .mark ':' :: items,
      hkey.between hmarks (fun _ => ?_) hlex,
      (Brings.word _).append (hbringsMarks.append hbrings), ?_, ?_⟩
    · rintro d ⟨⟩
      rfl
    · simpa [Item.isMark] using hno
    · simp [readField, readType, hrows]
  | false =>
    have hmarks : Closed ": ".toList [.mark ':'] := fun _ => rfl
    refine ⟨_, .word (Identifier.key name) :: .mark ':' :: items,
      hkey.between hmarks (fun _ => ?_) hlex, (Brings.word _).append (hcolon.append hbrings),
      ?_, ?_⟩
    · rintro d ⟨⟩
      rfl
    · simpa [Item.isMark] using hno
    · simp [readField, readType, hrows]

theorem SpellsField.index (h : Spells s rows) :
    SpellsField ("[key: string]: " ++ s) (.index, ofRows rows) := by
  obtain ⟨ts, items, hlex, hbrings, hrows⟩ := h
  have hno := isMark_of_readRows hrows (c := ';') (by decide) (by decide)
  have hinner : Brings [.word "key", .mark ':', .word "string"]
      [.word "key", .mark ':', .word "string"] :=
    (Brings.word _).append ((Brings.mark rfl (by decide)).append (Brings.word _))
  have hindex : Brings (.mark '[' :: ([.word "key", .mark ':', .word "string"] ++ [.mark ']']))
      [.index] := by
    refine hinner.enclosed brackets_square ?_
    simp [Reader.enclosed, readSquares, List.splitOnP_cons_eq_if_modifyHead, Item.isMark, readType,
      readRows, readParts, readPart, operand?, arrayOf?]
  refine ⟨_, .index :: .mark ':' :: items, ?_,
    (hindex.append (Brings.mark (c := ':') rfl (by decide))).append hbrings, ?_, ?_⟩
  · rw [String.toList_append]
    exact Closed.append_lexes (fun _ => rfl) hlex
  · simpa [Item.isMark] using hno
  · simp [readField, readType, hrows]

theorem Spells.object {fields : List (FieldName × Reading)} (h : SpellsFields s fields) :
    Spells ("\x7b" ++ s ++ "\x7d") [[.object fields]] := by
  obtain ⟨ts, items, hclosed, hbrings, hread⟩ := h
  have hcurly : Reader.enclosed '\x7d' items = some (.type (.object fields)) := by
    simp [Reader.enclosed, hread]
  have hall := Spells.enclosed brackets_curly hclosed.lexes hbrings hcurly rfl
  exact hall

end ClientGen.TypeScript.Reader
