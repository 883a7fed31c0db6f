import ClientGen.Proofs.TypeText.Reading

namespace ClientGen.TypeScript

/-- The members of a union, each with the parts of an intersection. -/
abbrev Rows := List (List Reading)

/-- Two lists one after the other, the last of the first and the first of the second made one. -/
def merge {α : Type} (f : α → α → α) : List α → List α → List α
  | [], l' => l'
  | a :: l, [] => a :: l
  | [a], b :: l' => f a b :: l'
  | a :: b :: l, c :: l' => a :: merge f (b :: l) (c :: l')

def mapLast {α : Type} (f : α → α) : List α → List α
  | [] => []
  | [a] => [f a]
  | a :: b :: l => a :: mapLast f (b :: l)

section Ends

variable {α : Type} {g : α → α → α}

theorem merge_nil (l : List α) : merge g l [] = l := by
  cases l <;> rfl

theorem merge_cons_cons {l : List α} (h : l ≠ []) (a c : α) (l' : List α) :
    merge g (a :: l) (c :: l') = a :: merge g l (c :: l') := by
  cases l with
  | nil => exact absurd rfl h
  | cons b l => rfl

theorem merge_singleton {l : List α} (h : l ≠ []) (c : α) :
    merge g l [c] = mapLast (g · c) l := by
  induction l with
  | nil => exact absurd rfl h
  | cons a l ih =>
    cases l with
    | nil => rfl
    | cons b l => exact congrArg (a :: ·) (ih (List.cons_ne_nil b l))

theorem merge_append (l : List α) (a b : α) (l' : List α) :
    merge g (l ++ [a]) (b :: l') = l ++ g a b :: l' := by
  induction l with
  | nil => rfl
  | cons c l ih =>
    rw [List.cons_append, merge_cons_cons (List.append_ne_nil_of_right_ne_nil _
      (List.cons_ne_nil _ _)), ih, List.cons_append]

theorem mapLast_append {f : α → α} (l : List α) (a : α) :
    mapLast f (l ++ [a]) = l ++ [f a] := by
  rw [← merge_singleton (g := fun a _ => f a) (List.append_ne_nil_of_right_ne_nil _
    (List.cons_ne_nil _ _)) a, merge_append]

@[elab_as_elim] theorem casesFew {motive : List α → Prop} (nil : motive [])
    (one : ∀ a, motive [a]) (several : ∀ a b l, motive (a :: b :: l)) (l : List α) : motive l := by
  rcases l with _ | ⟨a, _ | ⟨b, l⟩⟩
  · exact nil
  · exact one a
  · exact several a b l

theorem exists_append_of_ne_nil {l : List α} (h : l ≠ []) : ∃ init last, l = init ++ [last] :=
  ⟨l.dropLast, l.getLast h, (List.dropLast_concat_getLast h).symm⟩

end Ends

namespace Rows

/-- The rows where one text stands after another with `&` between them. -/
def join (rows rows' : Rows) : Rows := merge (· ++ ·) rows rows'

/-- The rows of a text with `[]` after it. -/
def array (rows : Rows) : Rows := mapLast (mapLast .array) rows

def grouped (inParentheses : Bool) (rows : Rows) : Rows :=
  if inParentheses then [[Reading.ofRows rows]] else rows

variable {rows rows' : Rows}

theorem join_ne_nil (h : rows ≠ []) : rows.join rows' ≠ [] := by
  obtain ⟨init, last, rfl⟩ := exists_append_of_ne_nil h
  cases rows' with
  | nil => rwa [Rows.join, merge_nil]
  | cons => simp [Rows.join, merge_append]

theorem array_ne_nil (h : rows ≠ []) : rows.array ≠ [] := by
  obtain ⟨init, last, rfl⟩ := exists_append_of_ne_nil h
  simp [Rows.array, mapLast_append]

theorem grouped_ne_nil (h : rows ≠ []) (inParentheses : Bool) :
    rows.grouped inParentheses ≠ [] := by
  cases inParentheses with
  | false => exact h
  | true => exact List.cons_ne_nil _ _

theorem flatten_join (rows rows' : Rows) :
    (rows.join rows').flatten = rows.flatten ++ rows'.flatten := by
  cases rows' with
  | nil => rw [Rows.join, merge_nil, List.flatten_nil, List.append_nil]
  | cons first rest =>
    by_cases hne : rows = []
    · rw [hne]
      rfl
    · obtain ⟨init, last, rfl⟩ := exists_append_of_ne_nil hne
      simp [Rows.join, merge_append]

theorem flatten_foldr_join (rowss : List Rows) :
    (rowss.foldr Rows.join []).flatten = rowss.flatMap List.flatten := by
  induction rowss with
  | nil => rfl
  | cons rows rest ih => rw [List.foldr_cons, flatten_join, ih, List.flatMap_cons]

theorem length_join (h : rows ≠ []) (h' : rows' ≠ []) :
    (rows.join rows').length + 1 = rows.length + rows'.length := by
  obtain ⟨init, last, rfl⟩ := exists_append_of_ne_nil h
  obtain ⟨first, rest, rfl⟩ := List.exists_cons_of_ne_nil h'
  simp only [Rows.join, merge_append, List.length_append, List.length_cons, List.length_nil]
  omega

theorem foldr_join_ne_nil {rowss : List Rows} (h : ∀ rows ∈ rowss, rows ≠ [])
    (hne : rowss ≠ []) : rowss.foldr Rows.join [] ≠ [] := by
  obtain ⟨rows, rest, rfl⟩ := List.exists_cons_of_ne_nil hne
  exact join_ne_nil (h rows List.mem_cons_self)

theorem length_eq_one_of_foldr_join {rowss : List Rows} (h : ∀ rows ∈ rowss, rows ≠ [])
    (hone : (rowss.foldr Rows.join []).length = 1) : ∀ rows ∈ rowss, rows.length = 1 := by
  induction rowss with
  | nil => exact fun _ hrows => absurd hrows List.not_mem_nil
  | cons rows rest ih =>
    obtain ⟨hrows, hrest⟩ := List.forall_mem_cons.1 h
    rw [List.foldr_cons] at hone
    cases rest with
    | nil =>
      rw [List.foldr_nil, Rows.join, merge_nil] at hone
      simpa using hone
    | cons rows' rest =>
      have hne := foldr_join_ne_nil hrest (List.cons_ne_nil _ _)
      have hlen := length_join hrows hne
      have hpos := List.length_pos_iff.2 hrows
      have hpos' := List.length_pos_iff.2 hne
      exact List.forall_mem_cons.2 ⟨by omega, ih hrest (by omega)⟩

theorem foldr_join_singleton {α : Type} (f : α → List Reading) {l : List α} (h : l ≠ []) :
    (l.map fun a => [f a]).foldr Rows.join [] = [l.flatMap f] := by
  induction l with
  | nil => exact absurd rfl h
  | cons a l ih =>
    cases l with
    | nil => rw [List.flatMap_singleton]; rfl
    | cons b l =>
      rw [List.map_cons, List.foldr_cons, ih (List.cons_ne_nil _ _), List.flatMap_cons]
      rfl

end Rows

namespace Reader

variable {α β : Type} {p : α → Bool} {a b : List α} {x : α} {f : α → Option β}

theorem splitOnP_append_cons_of_not (h : p x = false) (a b : List α) :
    (a ++ x :: b).splitOnP p = merge (fun l r => l ++ x :: r) (a.splitOnP p) (b.splitOnP p) := by
  obtain ⟨r, rs, hb⟩ := List.exists_cons_of_ne_nil (List.splitOnP_ne_nil p b)
  induction a with
  | nil =>
    rw [List.nil_append, List.splitOnP_cons_eq_if_modifyHead, hb]
    simp [h, merge]
  | cons y a ih =>
    obtain ⟨l, ls, ha⟩ := List.exists_cons_of_ne_nil (List.splitOnP_ne_nil p a)
    rw [List.cons_append, List.splitOnP_cons_eq_if_modifyHead,
      List.splitOnP_cons_eq_if_modifyHead, ih, ha, hb]
    split
    · cases ls <;> rfl
    · cases ls <;> rfl

theorem splitOnP_append_singleton (h : p x = false) (a : List α) :
    (a ++ [x]).splitOnP p = mapLast (· ++ [x]) (a.splitOnP p) := by
  rw [splitOnP_append_cons_of_not h, List.splitOnP_nil,
    merge_singleton (List.splitOnP_ne_nil p a)]

theorem mapM_cons_eq_some {l : List α} {bs : List β} :
    (x :: l).mapM f = some bs ↔ ∃ y ys, f x = some y ∧ l.mapM f = some ys ∧ y :: ys = bs := by
  simp [List.mapM_cons, Option.bind_eq_some_iff]

theorem mapM_merge {g : α → α → α} {g' : β → β → β} (hf : ∀ a b c d, f a = some c →
    f b = some d → f (g a b) = some (g' c d)) {l l' : List α} {bs bs' : List β}
    (h : l.mapM f = some bs) (h' : l'.mapM f = some bs') :
    (merge g l l').mapM f = some (merge g' bs bs') := by
  induction l generalizing l' bs bs' with
  | nil =>
    cases h
    exact h'
  | cons a l ih =>
    obtain ⟨b, bs, ha, hl, rfl⟩ := mapM_cons_eq_some.1 h
    cases l' with
    | nil =>
      rw [List.mapM_nil] at h'
      cases h'
      rw [merge_nil, merge_nil]
      exact h
    | cons a' l' =>
      obtain ⟨b', bs', ha', hl', rfl⟩ := mapM_cons_eq_some.1 h'
      cases l with
      | nil =>
        cases hl
        exact mapM_cons_eq_some.2 ⟨_, _, hf _ _ _ _ ha ha', hl', rfl⟩
      | cons a₂ l =>
        obtain ⟨b₂, bs, -, -, rfl⟩ := mapM_cons_eq_some.1 hl
        exact mapM_cons_eq_some.2 ⟨_, _, ha, ih hl h', rfl⟩

theorem mapM_mapLast {g : α → α} {g' : β → β} (hf : ∀ a b, f a = some b →
    f (g a) = some (g' b)) {l : List α} {bs : List β} (h : l.mapM f = some bs) :
    (mapLast g l).mapM f = some (mapLast g' bs) := by
  induction l generalizing bs with
  | nil =>
    cases h
    rfl
  | cons a l ih =>
    obtain ⟨b, bs, ha, hl, rfl⟩ := mapM_cons_eq_some.1 h
    cases l with
    | nil =>
      cases hl
      exact mapM_cons_eq_some.2 ⟨_, _, hf _ _ ha, rfl, rfl⟩
    | cons a₂ l =>
      obtain ⟨b₂, bs, -, -, rfl⟩ := mapM_cons_eq_some.1 hl
      exact mapM_cons_eq_some.2 ⟨_, _, ha, ih hl, rfl⟩

theorem readParts_amp {a b : List Item} {l l' : List Reading} (h : readParts a = some l)
    (h' : readParts b = some l') : readParts (a ++ .mark '&' :: b) = some (l ++ l') := by
  simp only [readParts] at h h' ⊢
  rw [List.splitOnP_append_cons a b (by rfl), List.mapM_append, h, h']
  rfl

theorem readPart_array {a : List Item} {r : Reading} (h : readPart a = some r) :
    readPart (a ++ [.squares []]) = some (.array r) := by
  cases a with
  | nil => cases h
  | cons first rest =>
    obtain ⟨r', hr', h⟩ := Option.bind_eq_some_iff.1 h
    simp only [List.cons_append, readPart, hr', Option.bind_some, List.foldlM_append, h]
    rfl

theorem readRows_operand {i : Item} {r : Reading} (h : operand? i = some r) :
    readRows [i] = some [[r]] := by
  have hmark (c : Char) : i.isMark c = false := by
    cases i with
    | mark => cases h
    | _ => rfl
  simp [readRows, readParts, List.splitOnP_cons_eq_if_modifyHead, hmark, readPart, h]

theorem readRows_bar {a b : List Item} {rows rows' : Rows} (h : readRows a = some rows)
    (h' : readRows b = some rows') : readRows (a ++ .mark '|' :: b) = some (rows ++ rows') := by
  simp only [readRows] at h h' ⊢
  rw [List.splitOnP_append_cons a b (by rfl), List.mapM_append, h, h']
  rfl

theorem readRows_amp {a b : List Item} {rows rows' : Rows} (h : readRows a = some rows)
    (h' : readRows b = some rows') :
    readRows (a ++ .mark '&' :: b) = some (rows.join rows') := by
  rw [readRows, splitOnP_append_cons_of_not (by rfl)]
  exact mapM_merge (fun _ _ _ _ => readParts_amp) h h'

theorem readRows_array {a : List Item} {rows : Rows} (h : readRows a = some rows) :
    readRows (a ++ [.squares []]) = some rows.array := by
  rw [readRows, splitOnP_append_singleton (by rfl)]
  refine mapM_mapLast (fun a l h => ?_) h
  rw [readParts, splitOnP_append_singleton (by rfl)]
  exact mapM_mapLast (fun _ _ => readPart_array) h

end Reader

end ClientGen.TypeScript
