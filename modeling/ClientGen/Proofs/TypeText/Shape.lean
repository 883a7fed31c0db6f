import ClientGen.Proofs.TypeText.Grouping
import ClientGen.Proofs.TypeText.Proper

namespace ClientGen.TypeScript

open Reading (ofRows ofParts ofMembers)

namespace TypeExpr

mutual

/-- What a type is read as if all its parentheses are printed. A union or intersection of one member
is that member, and those directly inside others of their kind are flattened. -/
def shape : TypeExpr → Reading
  | .keyword word => .word word.text
  | .array item => .array (shape item)
  | .tuple items => .tuple (shapes items)
  | .union members => ofMembers (shapes members)
  | .intersection parts => ofParts (shapes parts)
  | .object members index => .object (memberShapes members ++ indexShape index)
  | .literal value => .word value.render
  | .named name => .word name

def shapes : List TypeExpr → List Reading
  | [] => []
  | type :: rest => shape type :: shapes rest

def memberShapes : List (Member TypeExpr) → List (FieldName × Reading)
  | [] => []
  | ⟨name, type, optional, _⟩ :: rest =>
    (.property (Identifier.key name) optional, shape type) :: memberShapes rest

def indexShape : Option TypeExpr → List (FieldName × Reading)
  | none => []
  | some type => [(.index, shape type)]

end

/-- A type without the unions and intersections of one member around it. -/
def core : TypeExpr → TypeExpr
  | .union [member] => core member
  | .intersection [part] => core part
  | type => type

mutual

/-- Whether parentheses stand wherever the tree groups otherwise than the text: no item of an array
and no operand of an intersection hides what is grouped behind a union or intersection of one
member. -/
def keepsGrouping : TypeExpr → Bool
  | .array item => (item.isCompound || !item.core.isCompound) && keepsGrouping item
  | .tuple items => allKeepGrouping items
  | .union members => allKeepGrouping members
  | .intersection parts =>
    (parts.length ≤ 1 || parts.all fun part => part.isWideUnion || !part.core.isWideUnion) &&
      allKeepGrouping parts
  | .object members index => membersKeepGrouping members && indexKeepsGrouping index
  | .keyword _ | .literal _ | .named _ => true

def allKeepGrouping : List TypeExpr → Bool
  | [] => true
  | type :: rest => keepsGrouping type && allKeepGrouping rest

def membersKeepGrouping : List (Member TypeExpr) → Bool
  | [] => true
  | ⟨_, type, _, _⟩ :: rest => keepsGrouping type && membersKeepGrouping rest

def indexKeepsGrouping : Option TypeExpr → Bool
  | none => true
  | some type => keepsGrouping type

end

variable {g : Grouping} {t : TypeExpr}

theorem shapes_eq (types : List TypeExpr) : shapes types = types.map shape := by
  induction types with
  | nil => rfl
  | cons t rest ih => rw [shapes, ih, List.map_cons]

theorem memberShapes_eq (members : List (Member TypeExpr)) : memberShapes members =
    members.map fun m => (.property (Identifier.key m.name) m.optional, shape m.type) := by
  induction members with
  | nil => rfl
  | cons m rest ih => rw [memberShapes, ih, List.map_cons]

theorem fields_eq (members : List (Member TypeExpr)) : fields g members =
    members.map fun m =>
      (.property (Identifier.key m.name) m.optional, ofRows (rows g m.type)) := by
  induction members with
  | nil => rfl
  | cons m rest ih => rw [fields, ih, List.map_cons]

theorem allKeepGrouping_iff {types : List TypeExpr} :
    allKeepGrouping types = true ↔ ∀ t ∈ types, keepsGrouping t = true := by
  induction types with
  | nil => simp [allKeepGrouping]
  | cons t rest ih => simp [allKeepGrouping, ih]

theorem membersKeepGrouping_iff {members : List (Member TypeExpr)} :
    membersKeepGrouping members = true ↔ ∀ m ∈ members, keepsGrouping m.type = true := by
  induction members with
  | nil => simp [membersKeepGrouping]
  | cons m rest ih => simp [membersKeepGrouping, ih]

theorem rows_union {members : List TypeExpr} (h : members ≠ []) :
    rows g (.union members) = members.flatMap (rows g) := by
  rw [rows, if_neg (by simpa using h), rowsEach_eq, List.flatMap_def]

def operand (g : Grouping) (t : TypeExpr) : Rows := (rows g t).grouped (g.operand t (rows g t))

theorem rows_intersection {parts : List TypeExpr} (h : 1 < parts.length) :
    rows g (.intersection parts) = (parts.map (operand g)).foldr Rows.join [] := by
  cases parts using casesFew with
  | nil | one => simp at h
  | several first second rest =>
    rw [rows, operandRows_eq]
    rfl

theorem rows_core (t : TypeExpr) : rows g t.core = rows g t := by
  fun_induction core t with
  | case1 member ih => rw [ih, rows_union (List.cons_ne_nil _ _), List.flatMap_singleton]
  | case2 part ih => rw [ih, rows]
  | case3 => rfl

theorem rows_ne_nil (g : Grouping) (t : TypeExpr) : rows g t ≠ [] := by
  induction t using induct with
  | array item ih => exact Rows.array_ne_nil (Rows.grouped_ne_nil ih _)
  | union members ih =>
    cases members with
    | nil => exact List.cons_ne_nil _ _
    | cons t rest =>
      rw [rows_union (List.cons_ne_nil _ _), List.flatMap_cons]
      exact List.append_ne_nil_of_left_ne_nil (ih t List.mem_cons_self) _
  | intersection parts ih =>
    cases parts using casesFew with
    | nil => exact List.cons_ne_nil _ _
    | one part => exact ih part List.mem_cons_self
    | several first second rest => 
      exact Rows.join_ne_nil (Rows.grouped_ne_nil (ih first List.mem_cons_self) _)
  | keyword | tuple | object | literal | named => exact List.cons_ne_nil _ _

theorem one_lt_of_isWideUnion (h : t.isWideUnion = true) : 1 < (rows g t).length := by
  cases t with
  | union members =>
    cases members using casesFew with
    | nil | one => simp [isWideUnion] at h
    | several first second rest =>
      have hfirst := List.length_pos_iff.2 (rows_ne_nil g first)
      have hsecond := List.length_pos_iff.2 (rows_ne_nil g second)
      rw [rows_union (List.cons_ne_nil _ _), List.flatMap_cons, List.flatMap_cons]
      simp only [List.length_append]
      omega
  | _ => simp [isWideUnion] at h

end TypeExpr

/-- Among operands only what has several rows stands in parentheses. -/
def Grouping.Sound (g : Grouping) : Prop :=
  ∀ t, g.operand t (t.rows g) = true → 1 < (t.rows g).length

theorem Grouping.sound_printed : Grouping.printed.Sound := fun _ => TypeExpr.one_lt_of_isWideUnion

theorem Grouping.sound_exact : Grouping.exact.Sound := fun _ h => of_decide_eq_true h

namespace TypeExpr

theorem operand_of_proper (hg : g.Sound) (h : (rows g t).Proper) : (operand g t).Operand :=
  h.grouped (hg t)

theorem rows_proper (hg : g.Sound) (t : TypeExpr) : (rows g t).Proper := by
  induction t using induct with
  | array item ih =>
    rw [rows]
    cases g.item item (rows g item) with
    | false => exact ih.array
    | true => exact Rows.proper_leaf rfl rfl
  | union members ih =>
    cases members with
    | nil => exact Rows.proper_leaf rfl rfl
    | cons t rest =>
      rw [rows_union (List.cons_ne_nil _ _), List.flatMap_def]
      refine Rows.Proper.flatten (by simp) fun rows hrows => ?_
      obtain ⟨t', ht', rfl⟩ := List.mem_map.1 hrows
      exact ih t' ht'
  | intersection parts ih =>
    cases parts using casesFew with
    | nil => exact Rows.proper_leaf rfl rfl
    | one part => exact ih part List.mem_cons_self
    | several first second rest =>
      rw [rows_intersection (by simp)]
      refine Rows.Operand.foldr_join (fun rows hrows => ?_) (by simp)
      obtain ⟨t', ht', rfl⟩ := List.mem_map.1 hrows
      exact operand_of_proper hg (ih t' ht')
  | keyword | tuple | object | literal | named => exact Rows.proper_leaf rfl rfl

theorem ofMembers_eq {types : List TypeExpr} (hg : g.Sound) (hne : types ≠ []) :
    ofMembers (types.map fun t => ofRows (rows g t)) = ofRows (rows g (.union types)) := by
  have hproper := rows_proper hg (.union types)
  rw [rows_union hne] at hproper ⊢
  refine ofMembers_congr ?_
  rw [hproper.flatMap_members, List.map_flatMap, List.flatMap_map]
  exact List.flatMap_congr fun t _ => (rows_proper hg t).members_ofRows

theorem operand_exact (t : TypeExpr) :
    operand .exact t = [(ofRows (rows .exact t)).parts] := by
  have hproper := rows_proper Grouping.sound_exact t
  rw [operand]
  by_cases hwide : 1 < (rows .exact t).length
  · rw [hproper.parts_of_wide hwide]
    simp only [Grouping.exact] at hwide ⊢
    rw [decide_eq_true hwide]
    rfl
  · have hpos := List.length_pos_iff.2 hproper.ne_nil
    obtain ⟨row, hrow⟩ := List.length_eq_one_iff.1 (by omega : (rows .exact t).length = 1)
    rw [hrow] at hproper ⊢
    rw [hproper.parts_singleton]
    rfl

theorem rows_exact_intersection {parts : List TypeExpr} (h : 1 < parts.length) :
    rows .exact (.intersection parts) =
      [parts.flatMap fun t => (ofRows (rows .exact t)).parts] := by
  rw [rows_intersection h, List.map_congr_left fun t _ => operand_exact t,
    Rows.foldr_join_singleton _ (List.ne_nil_of_length_pos (by omega))]

theorem ofParts_eq {types : List TypeExpr} (hne : types ≠ []) :
    ofParts (types.map fun t => ofRows (rows .exact t)) =
      ofRows (rows .exact (.intersection types)) := by
  cases types using casesFew with
  | nil => exact absurd rfl hne
  | one t => exact (rows_proper Grouping.sound_exact t).ofParts_ofRows
  | several first second rest =>
    have hproper := rows_proper Grouping.sound_exact (.intersection (first :: second :: rest))
    rw [rows_exact_intersection (by simp)] at hproper ⊢
    rw [hproper.ofRows_singleton]
    refine ofParts_congr ?_
    rw [List.flatMap_map, flatMap_eq_self (hproper.isRow _ List.mem_cons_self).2]

/-- The shape of a type is what its rows with all parentheses denote. -/
theorem shape_eq (t : TypeExpr) : t.shape = ofRows (t.rows .exact) := by
  induction t using induct with
  | keyword | literal | named => rfl
  | array item ih => rw [shape, ih]; rfl
  | tuple items ih =>
    rw [shape, shapes_eq, List.map_congr_left ih, rows, rowsEach_eq, List.map_map]
    rfl
  | union members ih =>
    cases members with
    | nil => rfl
    | cons t rest =>
      rw [shape, shapes_eq, List.map_congr_left ih]
      exact ofMembers_eq Grouping.sound_exact (List.cons_ne_nil _ _)
  | intersection parts ih =>
    cases parts with
    | nil => rfl
    | cons t rest =>
      rw [shape, shapes_eq, List.map_congr_left ih]
      exact ofParts_eq (List.cons_ne_nil _ _)
  | object members index ihm ihi =>
    have hmembers : memberShapes members = fields .exact members := by
      rw [memberShapes_eq, fields_eq]
      exact List.map_congr_left fun m hm => by rw [ihm m hm]
    have hindex : indexShape index = indexField .exact index := by
      cases index with
      | none => rfl
      | some t => rw [indexShape, indexField, ihi t rfl]
    rw [shape, hmembers, hindex]
    rfl

end TypeExpr

end ClientGen.TypeScript
