import ClientGen.Proofs.TypeText.Rows
import Mathlib.Data.List.Basic
import Mathlib.Data.List.Forall2

namespace ClientGen.TypeScript

open Reading (ofRows ofParts ofMembers)

variable {α : Type} {row : List Reading} {rows rows' : Rows} {r : Reading}

/-- The parts of one member of a union: not none, and none of them an intersection. -/
def IsRow (row : List Reading) : Prop := row ≠ [] ∧ ∀ r ∈ row, r.parts = [r]

/-- Rows of which none is empty, no part is an intersection and no part alone is a union. -/
structure Rows.Proper (rows : Rows) : Prop where
  ne_nil : rows ≠ []
  isRow : ∀ row ∈ rows, IsRow row
  alone : ∀ r, [r] ∈ rows → r.members = [r]

/-- Rows that are proper but for one part alone, which may be a union. -/
structure Rows.Operand (rows : Rows) : Prop where
  ne_nil : rows ≠ []
  isRow : ∀ row ∈ rows, IsRow row
  alone : 1 < rows.length → ∀ r, [r] ∈ rows → r.members = [r]

theorem Rows.Proper.operand (h : rows.Proper) : rows.Operand :=
  ⟨h.ne_nil, h.isRow, fun _ => h.alone⟩

theorem Rows.proper_leaf (hp : r.parts = [r]) (hm : r.members = [r]) : Rows.Proper [[r]] := by
  refine ⟨List.cons_ne_nil _ _, ?_, ?_⟩
  · simp [IsRow, hp]
  · simpa using hm

theorem flatMap_eq_self {f : α → List α} {l : List α} (h : ∀ a ∈ l, f a = [a]) :
    l.flatMap f = l := by
  rw [List.flatMap_congr h, List.flatMap_singleton']

theorem IsRow.ofParts_cons_cons {r' : Reading} (h : IsRow (r :: r' :: row)) :
    ofParts (r :: r' :: row) = .intersection (r :: r' :: row) := by
  rw [ofParts, flatMap_eq_self h.2]

theorem IsRow.ofParts_singleton (h : IsRow [r]) : ofParts [r] = r := by
  rw [ofParts, flatMap_eq_self h.2]

theorem IsRow.parts_ofParts (h : IsRow row) : (ofParts row).parts = row := by
  cases row using casesFew with
  | nil => exact absurd rfl h.1
  | one r => rw [h.ofParts_singleton, h.2 r List.mem_cons_self]
  | several r r' row => rw [h.ofParts_cons_cons, Reading.parts]

theorem IsRow.members_ofParts (h : IsRow row) (halone : ∀ r, row = [r] → r.members = [r]) :
    (ofParts row).members = [ofParts row] := by
  cases row using casesFew with
  | nil => exact absurd rfl h.1
  | one r => rw [h.ofParts_singleton, halone r rfl]
  | several r r' row =>
    rw [h.ofParts_cons_cons]
    rfl

theorem ofMembers_congr {rs rs' : List Reading}
    (h : rs.flatMap Reading.members = rs'.flatMap Reading.members) :
    ofMembers rs = ofMembers rs' := by
  rw [ofMembers, h, ofMembers]

theorem ofParts_congr {rs rs' : List Reading}
    (h : rs.flatMap Reading.parts = rs'.flatMap Reading.parts) : ofParts rs = ofParts rs' := by
  rw [ofParts, h, ofParts]

theorem Rows.Operand.length_flatten_pos (h : rows.Operand) : 0 < rows.flatten.length := by
  obtain ⟨row, rest, rfl⟩ := List.exists_cons_of_ne_nil h.ne_nil
  have hrow := List.length_pos_iff.2 (h.isRow row List.mem_cons_self).1
  rw [List.flatten_cons, List.length_append]
  omega

namespace Rows.Proper

theorem flatMap_members (h : rows.Proper) :
    (rows.map ofParts).flatMap Reading.members = rows.map ofParts := by
  refine flatMap_eq_self fun r hr => ?_
  obtain ⟨row, hrow, rfl⟩ := List.mem_map.1 hr
  exact (h.isRow row hrow).members_ofParts fun r hr => h.alone r (hr ▸ hrow)

theorem ofRows_singleton (h : Rows.Proper [row]) : ofRows [row] = ofParts row := by
  have hm := h.flatMap_members
  rw [List.map_singleton] at hm
  rw [ofRows, List.map_singleton, ofMembers, hm]

theorem ofRows_of_wide (h : rows.Proper) (hwide : 1 < rows.length) :
    ofRows rows = .union (rows.map ofParts) := by
  cases rows using casesFew with
  | nil | one => simp at hwide
  | several row row' rows =>
    rw [ofRows, ofMembers, h.flatMap_members]
    rfl

theorem members_ofRows (h : rows.Proper) : (ofRows rows).members = rows.map ofParts := by
  cases rows using casesFew with
  | nil => exact absurd rfl h.ne_nil
  | one row =>
    rw [h.ofRows_singleton, List.map_singleton]
    exact (h.isRow row List.mem_cons_self).members_ofParts fun r hr =>
      h.alone r (hr ▸ List.mem_cons_self)
  | several row row' rows => rw [h.ofRows_of_wide (by simp), Reading.members]

theorem parts_of_wide (h : rows.Proper) (hwide : 1 < rows.length) :
    (ofRows rows).parts = [ofRows rows] := by
  rw [h.ofRows_of_wide hwide]
  rfl

theorem parts_singleton (h : Rows.Proper [row]) : (ofRows [row]).parts = row := by
  rw [h.ofRows_singleton]
  exact (h.isRow row List.mem_cons_self).parts_ofParts

theorem ofRows_part (h : Rows.Proper [[r]]) : ofRows [[r]] = r := by
  rw [h.ofRows_singleton, (h.isRow _ List.mem_cons_self).ofParts_singleton]

theorem ofParts_ofRows (h : rows.Proper) : ofParts [ofRows rows] = ofRows rows := by
  cases rows using casesFew with
  | nil => exact absurd rfl h.ne_nil
  | one row =>
    rw [h.ofRows_singleton]
    have hrow := h.isRow row List.mem_cons_self
    cases row using casesFew with
    | nil => exact absurd rfl hrow.1
    | one r => rw [hrow.ofParts_singleton, hrow.ofParts_singleton]
    | several r r' row =>
      rw [hrow.ofParts_cons_cons, ofParts, List.flatMap_singleton]
      rfl
  | several row row' rows =>
    rw [h.ofRows_of_wide (by simp)]
    rfl

/-- Rows are determined by the type that they denote. -/
theorem eq_of_ofRows_eq (h : rows.Proper) (h' : rows'.Proper) (he : ofRows rows = ofRows rows') :
    rows = rows' := by
  have hparts {rows : Rows} (h : rows.Proper) :
      (ofRows rows).members.map Reading.parts = rows := by
    calc (ofRows rows).members.map Reading.parts
      _ = rows.map fun row => (ofParts row).parts := by rw [h.members_ofRows, List.map_map]; rfl
      _ = rows.map id := List.map_congr_left fun row hrow => (h.isRow row hrow).parts_ofParts
      _ = rows := List.map_id rows
  rw [← hparts h, he, hparts h']

theorem length_parts_le (h : rows.Proper) :
    (ofRows rows).parts.length ≤ rows.flatten.length := by
  cases rows using casesFew with
  | nil => exact absurd rfl h.ne_nil
  | one row =>
    have hparts : (ofRows [row]).parts = [row].flatten := by
      rw [h.parts_singleton, List.flatten_singleton]
    exact Nat.le_of_eq (congrArg List.length hparts)
  | several row row' rest =>
    rw [h.parts_of_wide (by simp)]
    exact h.operand.length_flatten_pos

theorem eq_of_array_eq (h : rows.Proper)
    (he : rows.array = [[.array r]]) : rows = [[r]] := by
  obtain ⟨init, last, rfl⟩ := exists_append_of_ne_nil h.ne_nil
  obtain ⟨parts, part, rfl⟩ := exists_append_of_ne_nil (h.isRow last (by simp)).1
  have hrows : init ++ [parts ++ [.array part]] = [] ++ [[.array r]] := by
    rwa [Rows.array, mapLast_append, mapLast_append] at he
  obtain ⟨hinit, hlast⟩ := List.append_inj' hrows rfl
  have hrow : parts ++ [.array part] = [] ++ [.array r] := (List.cons.inj hlast).1
  obtain ⟨hparts, hpart⟩ := List.append_inj' hrow rfl
  cases hinit
  cases hparts
  cases hpart
  rfl

end Rows.Proper

theorem Rows.Operand.join (h : rows.Operand) (h' : rows'.Operand) : (rows.join rows').Proper := by
  obtain ⟨init, last, rfl⟩ := exists_append_of_ne_nil h.ne_nil
  obtain ⟨first, rest, rfl⟩ := List.exists_cons_of_ne_nil h'.ne_nil
  have hlast := h.isRow last (by simp)
  have hfirst := h'.isRow first (by simp)
  rw [Rows.join, merge_append]
  refine ⟨by simp, fun row hrow => ?_, fun r hr => ?_⟩
  · rcases List.mem_append.1 hrow with hinit | hrow
    · exact h.isRow row (List.mem_append_left _ hinit)
    · rcases List.mem_cons.1 hrow with rfl | hrest
      · refine ⟨by simp [hlast.1], fun r hr => ?_⟩
        exact (List.mem_append.1 hr).elim (hlast.2 r) (hfirst.2 r)
      · exact h'.isRow row (List.mem_cons_of_mem _ hrest)
  · rcases List.mem_append.1 hr with hinit | hr
    · have hlen : 1 < (init ++ [last]).length := by
        have := List.length_pos_of_mem hinit
        simpa using this
      exact h.alone hlen r (List.mem_append_left _ hinit)
    · rcases List.mem_cons.1 hr with heq | hrest
      · have hlen := congrArg List.length heq
        have := List.length_pos_iff.2 hlast.1
        have := List.length_pos_iff.2 hfirst.1
        simp only [List.length_append, List.length_singleton] at hlen
        omega
      · have hlen : 1 < (first :: rest).length := by
          have := List.length_pos_of_mem hrest
          simpa using this
        exact h'.alone hlen r (List.mem_cons_of_mem _ hrest)

theorem Rows.Proper.array (h : rows.Proper) : rows.array.Proper := by
  obtain ⟨init, last, rfl⟩ := exists_append_of_ne_nil h.ne_nil
  have hlast := h.isRow last (by simp)
  obtain ⟨parts, part, rfl⟩ := exists_append_of_ne_nil hlast.1
  rw [Rows.array, mapLast_append, mapLast_append]
  refine ⟨by simp, fun row hrow => ?_, fun r hr => ?_⟩
  · rcases List.mem_append.1 hrow with hinit | hrow
    · exact h.isRow row (List.mem_append_left _ hinit)
    · rw [List.mem_singleton.1 hrow]
      refine ⟨by simp, fun r hr => ?_⟩
      rcases List.mem_append.1 hr with hr | hr
      · exact hlast.2 r (List.mem_append_left _ hr)
      · rw [List.mem_singleton.1 hr]
        rfl
  · rcases List.mem_append.1 hr with hinit | hr
    · exact h.alone r (List.mem_append_left _ hinit)
    · have heq := List.mem_singleton.1 hr
      have hmem : r ∈ parts ++ [Reading.array part] := by
        rw [← heq]
        exact List.mem_cons_self
      cases parts with
      | nil =>
        rw [List.mem_singleton.1 hmem]
        rfl
      | cons p parts => simp at heq

theorem Rows.Proper.flatten {rowss : List Rows} (hne : rowss ≠ [])
    (h : ∀ rows ∈ rowss, rows.Proper) : Rows.Proper rowss.flatten := by
  refine ⟨?_, fun row hrow => ?_, fun r hr => ?_⟩
  · obtain ⟨rows, rest, rfl⟩ := List.exists_cons_of_ne_nil hne
    rw [List.flatten_cons]
    exact List.append_ne_nil_of_left_ne_nil (h rows List.mem_cons_self).ne_nil _
  · obtain ⟨rows, hrows, hrow⟩ := List.mem_flatten.1 hrow
    exact (h rows hrows).isRow row hrow
  · obtain ⟨rows, hrows, hr⟩ := List.mem_flatten.1 hr
    exact (h rows hrows).alone r hr

theorem Rows.Operand.foldr_join {rowss : List Rows} (h : ∀ rows ∈ rowss, rows.Operand)
    (hwide : 1 < rowss.length) : Rows.Proper (rowss.foldr Rows.join []) := by
  have hone {rowss : List Rows} (h : ∀ rows ∈ rowss, rows.Operand) (hne : rowss ≠ []) :
      Rows.Operand (rowss.foldr Rows.join []) := by
    induction rowss with
    | nil => exact absurd rfl hne
    | cons rows rest ih =>
      obtain ⟨hrows, hrest⟩ := List.forall_mem_cons.1 h
      cases rest with
      | nil =>
        rw [List.foldr_cons, List.foldr_nil, Rows.join, merge_nil]
        exact hrows
      | cons rows' rest => exact (hrows.join (ih hrest (List.cons_ne_nil _ _))).operand
  cases rowss using casesFew with
  | nil | one => simp at hwide
  | several rows rows' rest =>
    obtain ⟨hrows, hrest⟩ := List.forall_mem_cons.1 h
    exact hrows.join (hone hrest (List.cons_ne_nil _ _))

theorem Rows.Proper.grouped (h : rows.Proper) {inParentheses : Bool}
    (hwide : inParentheses = true → 1 < rows.length) : (rows.grouped inParentheses).Operand := by
  cases inParentheses with
  | false => exact h.operand
  | true =>
    refine ⟨List.cons_ne_nil _ _, ?_, ?_⟩
    · simp [IsRow, Rows.grouped, h.parts_of_wide (hwide rfl)]
    · simp [Rows.grouped]

end ClientGen.TypeScript
