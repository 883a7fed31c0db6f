import ClientGen.Proofs.Json.Parts
import ClientGen.Proofs.Text.Percent
import ClientGen.Proofs.Text.Split
import ClientGen.Query

namespace ClientGen.Query

variable {s key delimiter : String} {parts : List String} {c : Char} {v : Json}

/-- The pieces of a fragment, between its ampersands. An empty fragment has none. -/
def pieces (s : String) : List (List Char) := if s = "" then [] else Text.splitAt '&' s.toList

theorem pieces_of_ne (hs : s ≠ "") : pieces s = Text.splitAt '&' s.toList := if_neg hs

theorem pieces_eq_nil_iff : pieces s = [] ↔ s = "" := by
  constructor
  · intro h
    by_contra hs
    rw [pieces_of_ne hs] at h
    exact Text.splitAt_ne_nil '&' s.toList h
  · intro hs
    exact if_pos hs

theorem pieces_of_not_mem (hs : s ≠ "") (hamp : '&' ∉ s.toList) : pieces s = [s.toList] := by
  rw [pieces_of_ne hs, Text.splitAt_of_not_mem hamp]

theorem join_eq_empty_iff : join parts = "" ↔ parts = [] ∨ parts = [""] := by
  unfold join
  cases parts with
  | nil => simp
  | cons first rest =>
    cases rest with
    | nil => simp
    | cons second rest =>
      rw [String.intercalate_cons_cons, ← String.toList_inj]
      simp

theorem splitAt_join (hne : parts ≠ []) :
    Text.splitAt '&' (join parts).toList = parts.flatMap fun p => Text.splitAt '&' p.toList := by
  have hchars : parts.map String.toList ≠ [] := fun h => hne (List.map_eq_nil_iff.1 h)
  have hjoin : (join parts).toList = ['&'].intercalate (parts.map String.toList) :=
    String.toList_intercalate
  rw [hjoin, Text.splitAt_intercalate_eq hchars, List.flatMap_map]

theorem pieces_join (h : ∀ p ∈ parts, p ≠ "") : pieces (join parts) = parts.flatMap pieces := by
  by_cases hnil : parts = []
  · subst hnil
    rfl
  · have hne : join parts ≠ "" := by
      intro he
      rcases join_eq_empty_iff.1 he with he | he
      · exact hnil he
      · exact h "" (he ▸ List.mem_singleton_self _) rfl
    have hpieces : parts.map pieces = parts.map fun p => Text.splitAt '&' p.toList :=
      List.map_congr_left fun p hp => pieces_of_ne (h p hp)
    rw [pieces_of_ne hne, splitAt_join hnil, List.flatMap_def, List.flatMap_def, hpieces]

theorem flatMap_filter_pieces (parts : List String) :
    (parts.filter fun p => !p.isEmpty).flatMap pieces = parts.flatMap pieces := by
  induction parts with
  | nil => rfl
  | cons p parts ih =>
    by_cases hp : p = ""
    · subst hp
      exact ih
    · have hkept : (!p.isEmpty) = true := by simpa using hp
      rw [List.filter_cons_of_pos (p := fun p : String => !p.isEmpty) hkept, List.flatMap_cons,
        List.flatMap_cons, ih]

/-- The pieces of texts that are joined without the empty ones. -/
theorem pieces_join_filter (parts : List String) :
    pieces (join (parts.filter fun p => !p.isEmpty)) = parts.flatMap pieces := by
  rw [pieces_join, flatMap_filter_pieces]
  intro p hp
  simpa using (List.mem_filter.1 hp).2

theorem pieces_fragment (style : QueryStyle) (values : List (String × Json)) :
    pieces (fragment style values) =
      (defined values).flatMap fun e => pieces (encodeOne style e.1 e.2) := by
  unfold fragment
  dsimp only
  rw [pieces_join_filter, List.flatMap_map]

theorem not_mem_component (hc : c ∈ Text.Percent.delimiters) (s : String) :
    c ∉ (component s).toList := by
  rw [component, String.toList_ofList]
  exact Text.Percent.not_mem_encode (Text.Percent.isFree_of_mem_delimiters hc) _

theorem pieces_of_toList {k v : List Char} (hs : s.toList = k ++ '=' :: v) (hk : '&' ∉ k)
    (hv : '&' ∉ v) : pieces s = [k ++ '=' :: v] := by
  have hne : s ≠ "" := by
    rintro rfl
    exact List.append_ne_nil_of_right_ne_nil _ (List.cons_ne_nil _ _) hs.symm
  rw [pieces_of_not_mem hne, hs]
  rw [hs, List.mem_append, List.mem_cons, not_or, not_or]
  exact ⟨hk, by decide, hv⟩

theorem toList_piece (key : String) (v : Json) :
    (piece key v).toList = key.toList ++ '=' :: (component (itemText v)).toList := by
  rw [piece, String.toList_append, String.toList_append, List.append_assoc]
  rfl

theorem piece_ne (key : String) (v : Json) : piece key v ≠ "" := by
  intro h
  have hchars := toList_piece key v
  rw [h] at hchars
  exact List.append_ne_nil_of_right_ne_nil _ (List.cons_ne_nil _ _) hchars.symm

theorem pieces_piece (hkey : '&' ∉ key.toList) (v : Json) :
    pieces (piece key v) = [key.toList ++ '=' :: (component (itemText v)).toList] :=
  pieces_of_toList (toList_piece key v) hkey (not_mem_component (by decide) _)

theorem pieces_items (hkey : '&' ∉ key.toList) (values : List Json) :
    pieces (join (values.map (piece key))) =
      values.map fun v => key.toList ++ '=' :: (component (itemText v)).toList := by
  have hne : ∀ p ∈ values.map (piece key), p ≠ "" := by
    intro p hp
    obtain ⟨v, -, rfl⟩ := List.mem_map.1 hp
    exact piece_ne key v
  rw [pieces_join hne, List.flatMap_map]
  simp only [pieces_piece hkey]
  exact List.map_eq_flatMap.symm

theorem exists_component_of_mem_items (h : s ∈ items v) : ∃ text, s = component text := by
  unfold items at h
  split at h
  · obtain ⟨v, -, rfl⟩ := List.mem_map.1 h
    exact ⟨_, rfl⟩
  · obtain ⟨field, -, h⟩ := List.mem_flatMap.1 h
    rcases List.mem_cons.1 h with rfl | h
    · exact ⟨_, rfl⟩
    · exact ⟨_, List.mem_singleton.1 h⟩
  · exact ⟨_, List.mem_singleton.1 h⟩

theorem toList_delimited (delimiter name : String) (v : Json) :
    (delimited delimiter name v).toList =
      (component name).toList ++ '=' :: (delimiter.intercalate (items v)).toList := by
  rw [delimited, String.toList_append, String.toList_append, List.append_assoc]
  rfl

theorem pieces_delimited (hdelimiter : '&' ∉ delimiter.toList) (name : String) (v : Json) :
    pieces (delimited delimiter name v) =
      [(component name).toList ++ '=' :: (delimiter.intercalate (items v)).toList] := by
  apply pieces_of_toList (toList_delimited delimiter name v) (not_mem_component (by decide) name)
  rw [String.toList_intercalate]
  apply Text.not_mem_intercalate hdelimiter
  intro p hp
  obtain ⟨s, hs, rfl⟩ := List.mem_map.1 hp
  obtain ⟨text, rfl⟩ := exists_component_of_mem_items hs
  exact not_mem_component (by decide) text

end ClientGen.Query
