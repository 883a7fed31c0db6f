import ClientGen.Text.Blank

namespace ClientGen.Text

variable {sep : Char} {piece cs rest : List Char} {pieces : List (List Char)}

theorem splitAt_of_not_mem (h : sep ∉ piece) : splitAt sep piece = [piece] := by
  induction piece with
  | nil => rfl
  | cons c piece ih =>
    rw [List.mem_cons, not_or] at h
    rw [splitAt, ih h.2]
    dsimp only
    rw [if_neg (Ne.symm h.1)]

theorem splitAt_append (sep : Char) (cs rest : List Char) :
    splitAt sep (cs ++ sep :: rest) = splitAt sep cs ++ splitAt sep rest := by
  induction cs with
  | nil =>
    obtain ⟨first, pieces, hrest⟩ := List.exists_cons_of_ne_nil (splitAt_ne_nil sep rest)
    rw [List.nil_append, splitAt, splitAt, hrest]
    exact if_pos rfl
  | cons c cs ih =>
    obtain ⟨first, pieces, hcs⟩ := List.exists_cons_of_ne_nil (splitAt_ne_nil sep cs)
    rw [List.cons_append, splitAt, ih, splitAt, hcs]
    dsimp only [List.cons_append]
    split <;> rfl

theorem splitAt_append_cons (h : sep ∉ piece) (cs : List Char) :
    splitAt sep (piece ++ sep :: cs) = piece :: splitAt sep cs := by
  rw [splitAt_append, splitAt_of_not_mem h, List.singleton_append]

theorem splitAt_append_flatMap {α : Type} {l : List α} {f : α → List Char} (h : sep ∉ piece)
    (hf : ∀ a, sep ∉ f a) :
    splitAt sep (piece ++ l.flatMap fun a => sep :: f a) = piece :: l.map f := by
  induction l generalizing piece with
  | nil => rw [List.flatMap_nil, List.append_nil, splitAt_of_not_mem h, List.map_nil]
  | cons a l ih =>
    rw [List.flatMap_cons, List.cons_append, splitAt_append_cons h, ih (hf a), List.map_cons]

/-- The pieces of joined texts are those of each text in turn. -/
theorem splitAt_intercalate_eq (hne : pieces ≠ []) :
    splitAt sep ([sep].intercalate pieces) = pieces.flatMap (splitAt sep) := by
  induction pieces with
  | nil => exact absurd rfl hne
  | cons piece pieces ih =>
    cases pieces with
    | nil => rw [List.intercalate_singleton, List.flatMap_singleton]
    | cons next pieces =>
      rw [List.intercalate_cons_cons, List.append_assoc, List.singleton_append, splitAt_append,
        ih (List.cons_ne_nil _ _), List.flatMap_cons (x := piece)]

theorem splitAt_intercalate (hne : pieces ≠ []) (h : ∀ piece ∈ pieces, sep ∉ piece) :
    splitAt sep ([sep].intercalate pieces) = pieces := by
  have hwhole : pieces.map (splitAt sep) = pieces.map fun piece => [piece] :=
    List.map_congr_left fun piece hpiece => splitAt_of_not_mem (h piece hpiece)
  rw [splitAt_intercalate_eq hne, List.flatMap_def, hwhole, ← List.flatMap_def,
    List.flatMap_singleton']

theorem splitAt_eq_singleton_iff :
    splitAt sep cs = [piece] ↔ cs = piece ∧ sep ∉ cs := by
  by_cases hsep : sep ∈ cs
  · obtain ⟨before, after, rfl⟩ := List.append_of_mem hsep
    refine iff_of_false (fun h => ?_) fun h => h.2 hsep
    have hlength := congrArg List.length h
    have hbefore := List.length_pos_iff.2 (splitAt_ne_nil sep before)
    have hafter := List.length_pos_iff.2 (splitAt_ne_nil sep after)
    rw [splitAt_append, List.length_append, List.length_singleton] at hlength
    omega
  · rw [splitAt_of_not_mem hsep, List.cons.injEq, and_iff_left rfl, and_iff_left hsep]

theorem not_mem_intercalate {c : Char} (hsep : c ∉ piece) (h : ∀ p ∈ pieces, c ∉ p) :
    c ∉ piece.intercalate pieces := by
  induction pieces with
  | nil => exact List.not_mem_nil
  | cons first pieces ih =>
    have hfirst := h first List.mem_cons_self
    have hpieces := ih fun p hp => h p (List.mem_cons_of_mem first hp)
    cases pieces with
    | nil => rwa [List.intercalate_singleton]
    | cons next pieces =>
      rw [List.intercalate_cons_cons, List.mem_append, List.mem_append, not_or, not_or]
      exact ⟨⟨hfirst, hsep⟩, hpieces⟩

/-- Cut a text at the first occurrence of a character, if it occurs. -/
def cut? (sep : Char) : List Char → Option (List Char × List Char)
  | [] => none
  | c :: rest =>
    if c = sep then some ([], rest)
    else (cut? sep rest).map fun sides => (c :: sides.1, sides.2)

theorem cut?_append_cons (h : sep ∉ cs) (rest : List Char) :
    cut? sep (cs ++ sep :: rest) = some (cs, rest) := by
  induction cs with
  | nil => exact if_pos rfl
  | cons c cs ih =>
    rw [List.mem_cons, not_or] at h
    rw [List.cons_append, cut?, if_neg (Ne.symm h.1), ih h.2]
    rfl

theorem append_cons_inj {xs ys rest' : List Char} (hxs : sep ∉ xs) (hys : sep ∉ ys) :
    xs ++ sep :: rest = ys ++ sep :: rest' ↔ xs = ys ∧ rest = rest' := by
  constructor
  · intro h
    have hcut := congrArg (cut? sep) h
    rw [cut?_append_cons hxs, cut?_append_cons hys] at hcut
    cases hcut
    exact ⟨rfl, rfl⟩
  · rintro ⟨rfl, rfl⟩
    rfl

end ClientGen.Text
