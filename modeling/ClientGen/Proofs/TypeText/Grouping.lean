import ClientGen.Proofs.TypeText.Spelling
import ClientGen.Proofs.Typing.TypeNames

namespace ClientGen.TypeScript

open Reading (ofRows)

/-- Which items of arrays and operands of intersections stand in parentheses, given the rows they
have without. -/
structure Grouping where
  item : TypeExpr → Rows → Bool
  operand : TypeExpr → Rows → Bool

def Grouping.printed : Grouping where
  item type _ := type.isCompound
  operand type _ := type.isWideUnion

/-- Parentheses around all that is read apart without them. -/
def Grouping.exact : Grouping where
  item _ _ := true
  operand _ rows := 1 < rows.length

namespace TypeExpr

variable {g : Grouping}

mutual

/-- The rows of a type with the parentheses of a grouping. -/
def rows (g : Grouping) : TypeExpr → Rows
  | .keyword word => [[.word word.text]]
  | .array item => ((rows g item).grouped (g.item item (rows g item))).array
  | .tuple items => [[.tuple ((rowsEach g items).map ofRows)]]
  | .union members =>
    if members.isEmpty then [[.word "never"]] else (rowsEach g members).flatten
  | .intersection parts =>
    match parts with
    | [] => [[.word "unknown"]]
    | [part] => rows g part
    | first :: second :: rest => (operandRows g (first :: second :: rest)).foldr Rows.join []
  | .object members index => [[.object (fields g members ++ indexField g index)]]
  | .literal value => [[.word value.render]]
  | .named name => [[.word name]]

def rowsEach (g : Grouping) : List TypeExpr → List Rows
  | [] => []
  | type :: rest => rows g type :: rowsEach g rest

def operandRows (g : Grouping) : List TypeExpr → List Rows
  | [] => []
  | type :: rest => (rows g type).grouped (g.operand type (rows g type)) :: operandRows g rest

def fields (g : Grouping) : List (Member TypeExpr) → List (FieldName × Reading)
  | [] => []
  | ⟨name, type, optional, _⟩ :: rest =>
    (.property (Identifier.key name) optional, ofRows (rows g type)) :: fields g rest

def indexField (g : Grouping) : Option TypeExpr → List (FieldName × Reading)
  | none => []
  | some type => [(.index, ofRows (rows g type))]

end

@[elab_as_elim] theorem induct {motive : TypeExpr → Prop}
    (keyword : ∀ word, motive (.keyword word))
    (array : ∀ item, motive item → motive (.array item))
    (tuple : ∀ items, (∀ t ∈ items, motive t) → motive (.tuple items))
    (union : ∀ members, (∀ t ∈ members, motive t) → motive (.union members))
    (intersection : ∀ parts, (∀ t ∈ parts, motive t) → motive (.intersection parts))
    (object : ∀ members index, (∀ m ∈ members, motive m.type) → (∀ t ∈ index, motive t) →
      motive (.object members index))
    (literal : ∀ value, motive (.literal value)) (named : ∀ name, motive (.named name))
    (t : TypeExpr) : motive t :=
  @TypeExpr.rec motive (fun types => ∀ t ∈ types, motive t)
    (fun members => ∀ m ∈ members, motive m.type) (fun index => ∀ t ∈ index, motive t)
    (fun m => motive m.type) keyword array tuple union intersection object literal named
    (fun _ h => absurd h List.not_mem_nil) (fun _ _ h hrest => List.forall_mem_cons.2 ⟨h, hrest⟩)
    (fun _ h => absurd h List.not_mem_nil) (fun _ _ h hrest => List.forall_mem_cons.2 ⟨h, hrest⟩)
    (fun _ h => nomatch h) (fun _ h _ ht => Option.some_inj.1 ht ▸ h) (fun _ _ _ _ h => h) t

theorem rowsEach_eq (types : List TypeExpr) : rowsEach g types = types.map (rows g) := by
  induction types with
  | nil => rfl
  | cons t rest ih => rw [rowsEach, ih, List.map_cons]

theorem texts_eq (level : Nat) (types : List TypeExpr) :
    texts level types = types.map (text level) := by
  induction types with
  | nil => rfl
  | cons t rest ih => rw [texts, ih, List.map_cons]

theorem operands_eq (level : Nat) (types : List TypeExpr) :
    operands level types = types.map fun t => grouped t.isWideUnion (text level t) := by
  induction types with
  | nil => rfl
  | cons t rest ih => rw [operands, ih, List.map_cons]

theorem operandRows_eq (types : List TypeExpr) :
    operandRows g types = types.map fun t => (rows g t).grouped (g.operand t (rows g t)) := by
  induction types with
  | nil => rfl
  | cons t rest ih => rw [operandRows, ih, List.map_cons]

open Reader

theorem spells_grouped {s : String} {rows : Rows} (h : Spells s rows) (inParentheses : Bool) :
    Spells (grouped inParentheses s) (rows.grouped inParentheses) := by
  cases inParentheses with
  | true => exact h.grouped
  | false => exact h

theorem spells_texts {level : Nat} {types : List TypeExpr}
    (h : ∀ t ∈ types, Spells (text level t) (rows .printed t)) :
    List.Forall₂ Spells (texts level types) (rowsEach .printed types) := by
  rw [texts_eq, rowsEach_eq, List.forall₂_map_left_iff, List.forall₂_map_right_iff,
    List.forall₂_same]
  exact h

theorem spells_operands {level : Nat} {types : List TypeExpr}
    (h : ∀ t ∈ types, Spells (text level t) (rows .printed t)) :
    List.Forall₂ Spells (operands level types) (operandRows .printed types) := by
  rw [operands_eq, operandRows_eq, List.forall₂_map_left_iff, List.forall₂_map_right_iff,
    List.forall₂_same]
  exact fun t ht => spells_grouped (h t ht) _

theorem spells_index {level : Nat} {index : Option TypeExpr} {s : String}
    (h : ∀ t ∈ index, Spells (text level t) (rows .printed t)) (hs : SpellsFields s []) :
    SpellsFields (indexText level index ++ s) (indexField .printed index) := by
  cases index with
  | none =>
    rw [indexText, String.empty_append]
    exact hs
  | some t =>
    have hfield := (SpellsField.index (h t rfl)).after (closed_indentation level)
    have hall := SpellsFields.cons hfield hs
    simpa only [indexText, indexField, String.append_assoc] using hall

theorem spells_members {level : Nat} {members : List (Member TypeExpr)} {s : String}
    {fields : List (FieldName × Reading)}
    (h : ∀ m ∈ members, Spells (text level m.type) (rows .printed m.type))
    (hs : SpellsFields s fields) :
    SpellsFields (memberTexts level members ++ s) (TypeExpr.fields .printed members ++ fields) := by
  induction members with
  | nil =>
    rw [memberTexts, String.empty_append]
    exact hs
  | cons m rest ih =>
    obtain ⟨hm, hrest⟩ := List.forall_mem_cons.1 h
    obtain ⟨name, type, optional, doc⟩ := m
    have hblank : Closed (Doc.textOf level doc ++ indentation level).toList [] := by
      rw [String.toList_append]
      exact (closed_doc level doc).append (closed_indentation level)
    have hall := SpellsFields.cons ((SpellsField.property name optional hm).after hblank) (ih hrest)
    simpa only [memberTexts, memberText, TypeExpr.fields, String.append_assoc, List.cons_append]
      using hall

theorem spells_object {level : Nat} {members : List (Member TypeExpr)} {index : Option TypeExpr}
    (hm : ∀ m ∈ members, ∀ level, Spells (text level m.type) (rows .printed m.type))
    (hi : ∀ t ∈ index, ∀ level, Spells (text level t) (rows .printed t)) :
    Spells (text level (.object members index)) (rows .printed (.object members index)) := by
  rw [text]
  split
  · next hempty =>
    obtain ⟨hmembers, hindex⟩ := Bool.and_eq_true_iff.1 hempty
    rw [List.isEmpty_iff.1 hmembers, Option.isNone_iff_eq_none.1 hindex]
    have hall := Spells.object (s := "") (.blank .nil)
    have hbraces : "\x7b" ++ "" ++ "\x7d" = "\x7b\x7d" := by decide
    rwa [hbraces] at hall
  · have hindex :=
      spells_index (fun t ht => hi t ht (level + 1)) (.blank (closed_indentation level))
    have hfields := spells_members (fun m h => hm m h (level + 1)) hindex
    have hopening : Closed "\n".toList [] := fun _ => rfl
    have hall := Spells.object (hfields.after hopening)
    have hbrace : "\x7b\n" = "\x7b" ++ "\n" := rfl
    rw [hbrace]
    simpa only [rows, String.append_assoc] using hall

theorem spells_literal (value : Literal) : Spells value.render [[.word value.render]] := by
  cases value with
  | text s => exact .quoted s
  | int n => exact .word (isWord_int n)
  | number x => exact .word (isWord_number x)
  | truth b => cases b <;> exact .word (by decide)
  | null => exact .word (by decide)

/-- The text of a type spells its rows with the parentheses that are printed. -/
theorem text_spells (t : TypeExpr) (hnames : ∀ n ∈ t.names, IsWord n) (level : Nat) :
    Spells (t.text level) (t.rows .printed) := by
  induction t using induct generalizing level with
  | keyword word => exact .word (isWord_keyword word)
  | array item ih => exact (spells_grouped (ih hnames level) _).array
  | tuple items ih =>
    refine .tuple (spells_texts fun t ht => ih t ht (fun n hn => ?_) level)
    exact hnames n (mem_namesOf.2 ⟨t, ht, hn⟩)
  | union members ih =>
    have hmembers : ∀ t ∈ members, Spells (text level t) (rows .printed t) := fun t ht =>
      ih t ht (fun n hn => hnames n (mem_namesOf.2 ⟨t, ht, hn⟩)) level
    cases members with
    | nil => exact .word (s := "never") (by decide)
    | cons t rest =>
      have hall := Spells.union (List.cons_ne_nil _ _) (spells_texts hmembers)
      exact hall
  | intersection parts ih =>
    have hparts : ∀ t ∈ parts, Spells (text level t) (rows .printed t) := fun t ht =>
      ih t ht (fun n hn => hnames n (mem_namesOf.2 ⟨t, ht, hn⟩)) level
    cases parts using casesFew with
    | nil => exact .word (s := "unknown") (by decide)
    | one part => exact hparts part List.mem_cons_self
    | several first second rest =>
      have hall := Spells.intersection (List.cons_ne_nil _ _) (spells_operands hparts)
      exact hall
  | object members index ihm ihi =>
    refine spells_object (fun m hm => ihm m hm fun n hn => ?_) (fun t ht => ihi t ht fun n hn => ?_)
    · exact hnames n (List.mem_append_left _ (mem_memberNames.2 ⟨m, hm, hn⟩))
    · exact hnames n (List.mem_append_right _ (mem_indexNames.2 ⟨t, ht, hn⟩))
  | literal value => exact spells_literal value
  | named name => exact .word (hnames name List.mem_cons_self)

end TypeExpr

end ClientGen.TypeScript
