import ClientGen.Proofs.TypeText.Shape
import Mathlib.Algebra.Order.BigOperators.Group.List
import Mathlib.Algebra.Order.Group.Nat

namespace ClientGen.TypeScript

open Reading (ofRows)

theorem length_flatMap_le {α β : Type} {f f' : α → List β} {l : List α}
    (h : ∀ a ∈ l, (f' a).length ≤ (f a).length) :
    (l.flatMap f').length ≤ (l.flatMap f).length := by
  rw [List.length_flatMap, List.length_flatMap]
  exact List.sum_le_sum h

/-- Lists that are the same one after the other are the same each, if none is shorter. -/
theorem eq_of_flatMap_eq {α β : Type} {f f' : α → List β} {l : List α}
    (hle : ∀ a ∈ l, (f' a).length ≤ (f a).length) (h : l.flatMap f = l.flatMap f') :
    ∀ a ∈ l, f a = f' a := by
  induction l with
  | nil => exact fun _ ha => absurd ha List.not_mem_nil
  | cons a l ih =>
    obtain ⟨ha, hl⟩ := List.forall_mem_cons.1 hle
    rw [List.flatMap_cons, List.flatMap_cons] at h
    have hsum := length_flatMap_le hl
    have hlen := congrArg List.length h
    rw [List.length_append, List.length_append] at hlen
    obtain ⟨hhead, htail⟩ := List.append_inj h (by omega)
    exact List.forall_mem_cons.2 ⟨hhead, ih hl htail⟩

namespace TypeExpr

variable {g : Grouping} {t : TypeExpr}

theorem operand_ne_nil (g : Grouping) (t : TypeExpr) : operand g t ≠ [] :=
  Rows.grouped_ne_nil (rows_ne_nil g t) _

theorem flatten_union {members : List TypeExpr} (h : members ≠ []) :
    (rows g (.union members)).flatten = members.flatMap fun t => (rows g t).flatten := by
  rw [rows_union h, ← List.flatMap_id, List.flatMap_assoc]
  simp only [List.flatMap_id]

theorem flatten_intersection {parts : List TypeExpr} (h : 1 < parts.length) :
    (rows g (.intersection parts)).flatten = parts.flatMap fun t => (operand g t).flatten := by
  rw [rows_intersection h, Rows.flatten_foldr_join, List.flatMap_map]

theorem rows_ne_singleton (hg : g.Sound) (h : t.core.isCompound = true) (r : Reading) :
    rows g t ≠ [[r]] := by
  rw [← rows_core]
  intro heq
  cases hcore : t.core with
  | union members =>
    rw [hcore] at h heq
    have hwide := one_lt_of_isWideUnion (g := g) (t := .union members) h
    rw [heq] at hwide
    simp at hwide
  | intersection parts =>
    rw [hcore] at h heq
    cases parts using casesFew with
    | nil | one => simp [isCompound] at h
    | several first second rest =>
      have hfirst := (operand_of_proper hg (rows_proper hg first)).length_flatten_pos
      have hsecond := (operand_of_proper hg (rows_proper hg second)).length_flatten_pos
      have hflatten := congrArg List.flatten heq
      rw [flatten_intersection (by simp), List.flatMap_cons, List.flatMap_cons] at hflatten
      have hlen := congrArg List.length hflatten
      simp only [List.length_append, List.flatten_singleton, List.length_singleton] at hlen
      omega
  | _ =>
    rw [hcore] at h
    simp [isCompound] at h

theorem core_ne (t part : TypeExpr) : t.core ≠ .union [part] ∧ t.core ≠ .intersection [part] := by
  fun_induction core t with
  | case1 _ ih => exact ih
  | case2 _ ih => exact ih
  | case3 t hu hi => exact ⟨fun h => hu part h, fun h => hi part h⟩

theorem length_rows_exact (h : t.core.isWideUnion = false) : (rows .exact t).length = 1 := by
  rw [← rows_core]
  cases hcore : t.core with
  | union members =>
    cases members using casesFew with
    | nil => rfl
    | one part => exact absurd hcore (core_ne t part).1
    | several => simp [hcore, isWideUnion] at h
  | intersection parts =>
    cases parts using casesFew with
    | nil => rfl
    | one part => exact absurd hcore (core_ne t part).2
    | several =>
      rw [rows_exact_intersection (by simp)]
      rfl
  | _ => rfl

theorem rows_exact_singleton (h : t.core.isCompound = false) : ∃ r, rows .exact t = [[r]] := by
  rw [← rows_core]
  cases hcore : t.core with
  | union members =>
    cases members using casesFew with
    | nil => exact ⟨_, rfl⟩
    | one part => exact absurd hcore (core_ne t part).1
    | several => simp [hcore, isCompound] at h
  | intersection parts =>
    cases parts using casesFew with
    | nil => exact ⟨_, rfl⟩
    | one part => exact absurd hcore (core_ne t part).2
    | several => simp [hcore, isCompound] at h
  | _ => exact ⟨_, rfl⟩

theorem operand_exact_le_printed
    (h : (rows .exact t).flatten.length ≤ (rows .printed t).flatten.length) :
    (operand .exact t).flatten.length ≤ (operand .printed t).flatten.length := by
  have hproper := rows_proper Grouping.sound_exact t
  rw [operand_exact, List.flatten_singleton]
  cases hwide : t.isWideUnion with
  | true =>
    rw [hproper.parts_of_wide (one_lt_of_isWideUnion hwide)]
    have hprinted := rows_proper Grouping.sound_printed t
    exact (operand_of_proper Grouping.sound_printed hprinted).length_flatten_pos
  | false =>
    have hoperand : operand .printed t = rows .printed t := by
      simp [operand, Grouping.printed, hwide, Rows.grouped]
    rw [hoperand]
    exact hproper.length_parts_le.trans h

theorem exact_le_printed (t : TypeExpr) :
    (rows .exact t).length ≤ (rows .printed t).length ∧
      (rows .exact t).flatten.length ≤ (rows .printed t).flatten.length := by
  induction t using induct with
  | array item ih =>
    have hproper := rows_proper Grouping.sound_printed (.array item)
    exact ⟨List.length_pos_iff.2 hproper.ne_nil, hproper.operand.length_flatten_pos⟩
  | union members ih =>
    cases members with
    | nil => exact ⟨le_rfl, le_rfl⟩
    | cons first rest =>
      have hne := List.cons_ne_nil first rest
      rw [flatten_union hne, flatten_union hne, rows_union hne, rows_union hne]
      exact ⟨length_flatMap_le fun t ht => (ih t ht).1, length_flatMap_le fun t ht => (ih t ht).2⟩
  | intersection parts ih =>
    cases parts using casesFew with
    | nil => exact ⟨le_rfl, le_rfl⟩
    | one part => exact ih part List.mem_cons_self
    | several first second rest =>
      rw [flatten_intersection (by simp), flatten_intersection (by simp)]
      refine ⟨?_, length_flatMap_le fun t ht => operand_exact_le_printed (ih t ht).2⟩
      rw [rows_exact_intersection (by simp)]
      exact List.length_pos_iff.2 (rows_ne_nil _ _)
  | keyword | tuple | object | literal | named => exact ⟨le_rfl, le_rfl⟩

theorem ofRows_printed_iff : ofRows (rows .printed t) = ofRows (rows .exact t) ↔
    rows .printed t = rows .exact t :=
  ⟨(rows_proper Grouping.sound_printed t).eq_of_ofRows_eq (rows_proper Grouping.sound_exact t),
    congrArg ofRows⟩

theorem rows_array (g : Grouping) (item : TypeExpr) : rows g (.array item) =
    ((rows g item).grouped (g.item item (rows g item))).array := by
  rw [rows]

theorem printed_array_iff {item : TypeExpr}
    (ih : rows .printed item = rows .exact item ↔ item.keepsGrouping = true) :
    rows .printed (.array item) = rows .exact (.array item) ↔
      keepsGrouping (.array item) = true := by
  have hprinted := rows_proper Grouping.sound_printed item
  have hexact := rows_proper Grouping.sound_exact item
  rw [rows_array, rows_array, keepsGrouping, Bool.and_eq_true_iff, Bool.or_eq_true_iff, ← ih]
  -- With all parentheses an array is one part alone; the text has them if the item is compound.
  change (Rows.grouped item.isCompound _).array = [[.array (ofRows (rows .exact item))]] ↔ _
  cases hcompound : item.isCompound with
  | true =>
    refine ⟨fun h => ⟨.inl rfl, ?_⟩, fun h => ?_⟩
    · have hinner : ofRows (rows .printed item) = ofRows (rows .exact item) := by
        injection h with h
        injection h with h
        injection h
      exact ofRows_printed_iff.1 hinner
    · rw [← h.2]
      rfl
  | false =>
    refine ⟨fun h => ?_, fun ⟨hcore, h⟩ => ?_⟩
    · have hrows : rows .printed item = [[ofRows (rows .exact item)]] := hprinted.eq_of_array_eq h
      have hinner : ofRows (rows .printed item) = ofRows (rows .exact item) := by
        rw [hrows] at hprinted ⊢
        exact hprinted.ofRows_part
      refine ⟨.inr ?_, ofRows_printed_iff.1 hinner⟩
      rw [Bool.not_eq_true', Bool.eq_false_iff]
      exact fun hcore => rows_ne_singleton Grouping.sound_printed hcore _ hrows
    · have hcore := hcore.resolve_left Bool.false_ne_true
      obtain ⟨r, hr⟩ := rows_exact_singleton (t := item) (by simpa using hcore)
      rw [hr] at hexact
      rw [h, hr, hexact.ofRows_part]
      rfl

theorem operand_grouped (h : g.operand t (rows g t) = true) :
    operand g t = [[ofRows (rows g t)]] := by
  rw [operand, h]
  rfl

theorem operand_bare (h : g.operand t (rows g t) = false) : operand g t = rows g t := by
  rw [operand, h]
  rfl

theorem printed_operand_iff (ih : rows .printed t = rows .exact t ↔ t.keepsGrouping = true) :
    operand .printed t = operand .exact t ↔
      (t.isWideUnion || !t.core.isWideUnion) = true ∧ t.keepsGrouping = true := by
  have hexact := rows_proper Grouping.sound_exact t
  rw [← ih]
  cases hwide : t.isWideUnion with
  | true =>
    rw [operand_grouped (g := .printed) hwide,
      operand_grouped (g := .exact) (decide_eq_true (one_lt_of_isWideUnion hwide))]
    refine ⟨fun h => ⟨rfl, ofRows_printed_iff.1 ?_⟩, fun h => by rw [h.2]⟩
    injection h with h
    injection h
  | false =>
    rw [operand_bare (g := .printed) hwide, Bool.false_or, Bool.not_eq_true']
    have hbare (hone : (rows .exact t).length = 1) : operand .exact t = rows .exact t :=
      operand_bare (decide_eq_false (by omega))
    refine ⟨fun h => ?_, fun ⟨hcore, h⟩ => by rw [h, hbare (length_rows_exact hcore)]⟩
    -- An operand of the shape is one row, and the text has no fewer rows than the shape.
    have hone : (rows .printed t).length = 1 := by
      rw [h, operand_exact]
      rfl
    have hle := (exact_le_printed t).1
    have hpos := List.length_pos_iff.2 hexact.ne_nil
    refine ⟨Bool.eq_false_iff.2 fun hcore => ?_, h.trans (hbare (by omega))⟩
    have hlt := one_lt_of_isWideUnion (g := .printed) hcore
    rw [rows_core] at hlt
    omega

theorem printed_union_iff {members : List TypeExpr} (hne : members ≠ []) :
    rows .printed (.union members) = rows .exact (.union members) ↔
      ∀ t ∈ members, rows .printed t = rows .exact t := by
  rw [rows_union hne, rows_union hne]
  exact ⟨eq_of_flatMap_eq fun t _ => (exact_le_printed t).1, List.flatMap_congr⟩

theorem printed_intersection_iff {parts : List TypeExpr} (hwide : 1 < parts.length) :
    rows .printed (.intersection parts) = rows .exact (.intersection parts) ↔
      ∀ t ∈ parts, operand .printed t = operand .exact t := by
  constructor
  · intro h t ht
    -- The parts agree block by block, since no operand has more of them in the shape.
    have hflatten := congrArg List.flatten h
    rw [flatten_intersection hwide, flatten_intersection hwide] at hflatten
    have hrow : (operand .printed t).flatten = (operand .exact t).flatten :=
      eq_of_flatMap_eq (fun t _ => operand_exact_le_printed (exact_le_printed t).2) hflatten t ht
    rw [rows_exact_intersection hwide, rows_intersection hwide] at h
    have hone : (operand .printed t).length = 1 :=
      Rows.length_eq_one_of_foldr_join (List.forall_mem_map.2 fun t _ => operand_ne_nil _ t)
        (by rw [h]; rfl) _ (List.mem_map_of_mem ht)
    obtain ⟨row, hprinted⟩ := List.length_eq_one_iff.1 hone
    rw [hprinted, operand_exact, List.flatten_singleton, List.flatten_singleton] at hrow
    rw [hprinted, hrow, operand_exact]
  · intro h
    rw [rows_intersection hwide, rows_intersection hwide, List.map_congr_left h]

theorem printed_tuple_iff {items : List TypeExpr} :
    rows .printed (.tuple items) = rows .exact (.tuple items) ↔
      ∀ t ∈ items, rows .printed t = rows .exact t := by
  simp [rows, rowsEach_eq, ofRows_printed_iff]

theorem printed_object_iff {members : List (Member TypeExpr)} {index : Option TypeExpr} :
    rows .printed (.object members index) = rows .exact (.object members index) ↔
      (∀ m ∈ members, rows .printed m.type = rows .exact m.type) ∧
        ∀ t ∈ index, rows .printed t = rows .exact t := by
  have hfields : fields .printed members = fields .exact members ↔
      ∀ m ∈ members, rows .printed m.type = rows .exact m.type := by
    simp [fields_eq, ofRows_printed_iff]
  have hlength : (fields .printed members).length = (fields .exact members).length := by
    simp [fields_eq]
  have hindex : indexField .printed index = indexField .exact index ↔
      ∀ t ∈ index, rows .printed t = rows .exact t := by
    cases index <;> simp [indexField, ofRows_printed_iff]
  rw [← hfields, ← hindex, rows, rows]
  constructor
  · intro h
    injection h with h
    injection h with h
    injection h with h
    exact List.append_inj h hlength
  · rintro ⟨hfields, hindex⟩
    rw [hfields, hindex]

/-- The text of a type has the rows of its shape just if it keeps the grouping. -/
theorem rows_printed_iff (t : TypeExpr) :
    rows .printed t = rows .exact t ↔ t.keepsGrouping = true := by
  induction t using induct with
  | keyword | literal | named => exact iff_of_true rfl rfl
  | array item ih => exact printed_array_iff ih
  | tuple items ih =>
    rw [keepsGrouping, allKeepGrouping_iff, printed_tuple_iff]
    exact forall₂_congr ih
  | union members ih =>
    rw [keepsGrouping, allKeepGrouping_iff]
    cases members with
    | nil => exact iff_of_true rfl (fun _ h => absurd h List.not_mem_nil)
    | cons first rest =>
      rw [printed_union_iff (List.cons_ne_nil _ _)]
      exact forall₂_congr ih
  | intersection parts ih =>
    rw [keepsGrouping, Bool.and_eq_true_iff, allKeepGrouping_iff]
    cases parts using casesFew with
    | nil => exact iff_of_true rfl ⟨rfl, fun _ h => absurd h List.not_mem_nil⟩
    | one part => simpa [rows] using ih part List.mem_cons_self
    | several first second rest =>
      rw [printed_intersection_iff (by simp),
        forall₂_congr fun t ht => printed_operand_iff (ih t ht)]
      simp [forall_and]
  | object members index ihm ihi =>
    rw [keepsGrouping, Bool.and_eq_true_iff, membersKeepGrouping_iff, printed_object_iff,
      forall₂_congr ihm]
    refine and_congr_right fun _ => ?_
    cases index with
    | none => exact iff_of_true (fun _ h => absurd h (Option.not_mem_none _)) rfl
    | some t => simpa [indexKeepsGrouping] using ihi t rfl

end TypeExpr

end ClientGen.TypeScript
