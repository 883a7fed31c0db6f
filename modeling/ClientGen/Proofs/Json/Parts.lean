import ClientGen.Document.Resolve
import ClientGen.Proofs.Lists
import Mathlib.Algebra.GroupWithZero.Nat
import Mathlib.Algebra.Order.BigOperators.Group.List
import Mathlib.Algebra.Order.Group.Nat
import Mathlib.Logic.Relation

namespace ClientGen

namespace Json

variable {α : Type} {i j k : Json}

def children : Json → List Json
  | .arr items => items
  | .obj fields => fields.map Prod.snd
  | _ => []

/-- A value inside a tree, or the tree itself. -/
def Part : Json → Json → Prop := Relation.ReflTransGen fun k j => k ∈ j.children

mutual

def texts : Json → List String
  | .str s => [s]
  | .arr items => textsOfItems items
  | .obj fields => textsOfFields fields
  | _ => []

def textsOfItems : List Json → List String
  | [] => []
  | item :: rest => texts item ++ textsOfItems rest

def textsOfFields : List (String × Json) → List String
  | [] => []
  | field :: rest => texts field.2 ++ textsOfFields rest

end

theorem textsOfItems_eq (items : List Json) : textsOfItems items = items.flatMap texts := by
  induction items with
  | nil => rfl
  | cons item rest ih => rw [textsOfItems, ih, List.flatMap_cons]

theorem textsOfFields_eq (fields : List (String × Json)) :
    textsOfFields fields = (fields.map Prod.snd).flatMap texts := by
  induction fields with
  | nil => rfl
  | cons field rest ih => rw [textsOfFields, ih, List.map_cons, List.flatMap_cons]

theorem sizeItems_eq (items : List Json) : sizeItems items = (items.map size).sum := by
  induction items with
  | nil => rfl
  | cons item rest ih => rw [sizeItems, ih, List.map_cons, List.sum_cons]

theorem sizeFields_eq (fields : List (String × Json)) :
    sizeFields fields = ((fields.map Prod.snd).map size).sum := by
  induction fields with
  | nil => rfl
  | cons field rest ih => rw [sizeFields, ih, List.map_cons, List.map_cons, List.sum_cons]

theorem size_pos (j : Json) : 0 < j.size := by
  cases j <;> simp [size]

theorem texts_subset_of_mem_children (h : k ∈ j.children) : k.texts ⊆ j.texts := by
  have listed {l : List Json} (h : k ∈ l) : k.texts ⊆ l.flatMap texts :=
    fun r hr => List.mem_flatMap.2 ⟨k, h, hr⟩
  cases j with
  | arr items =>
    rw [texts, textsOfItems_eq]
    exact listed h
  | obj fields =>
    rw [texts, textsOfFields_eq]
    exact listed h
  | _ => cases h

theorem size_eq_of_mem_children (h : k ∈ j.children) :
    j.size = (j.children.map size).sum + 1 := by
  cases j with
  | arr items => rw [size, sizeItems_eq, children]
  | obj fields => rw [size, sizeFields_eq, children]
  | _ => cases h

theorem size_lt_of_mem_children (h : k ∈ j.children) : k.size < j.size := by
  have hle : k.size ≤ (j.children.map size).sum :=
    List.le_sum_of_mem (List.mem_map.2 ⟨k, h, rfl⟩)
  rw [size_eq_of_mem_children h]
  omega

@[elab_as_elim]
theorem children_induction {motive : Json → Prop}
    (step : ∀ j, (∀ k ∈ j.children, motive k) → motive j) (j : Json) : motive j := by
  induction hn : j.size using Nat.strongRecOn generalizing j with
  | ind n ih =>
    subst hn
    exact step j fun k hk => ih k.size (size_lt_of_mem_children hk) k rfl

mutual

theorem length_texts_le : ∀ j : Json, j.texts.length ≤ j.size
  | .arr items => Nat.le_succ_of_le (length_textsOfItems_le items)
  | .obj fields => Nat.le_succ_of_le (length_textsOfFields_le fields)
  | .str _ => Nat.le_refl 1
  | .null | .bool _ | .int _ | .float _ => Nat.zero_le 1

theorem length_textsOfItems_le : ∀ items, (textsOfItems items).length ≤ sizeItems items
  | [] => Nat.le_refl 0
  | item :: rest => by
    rw [textsOfItems, sizeItems, List.length_append]
    exact Nat.add_le_add (length_texts_le item) (length_textsOfItems_le rest)

theorem length_textsOfFields_le : ∀ fields, (textsOfFields fields).length ≤ sizeFields fields
  | [] => Nat.le_refl 0
  | field :: rest => by
    rw [textsOfFields, sizeFields, List.length_append]
    exact Nat.add_le_add (length_texts_le field.2) (length_textsOfFields_le rest)

end

namespace Part

theorem refl (j : Json) : Part j j := Relation.ReflTransGen.refl

theorem child (h : k ∈ j.children) : Part k j := Relation.ReflTransGen.single h

theorem trans (h : Part k i) (h' : Part i j) : Part k j := Relation.ReflTransGen.trans h h'

theorem texts_subset (h : Part k j) : k.texts ⊆ j.texts := by
  induction h with
  | refl => exact List.Subset.refl _
  | tail _ hj ih => exact List.Subset.trans ih (texts_subset_of_mem_children hj)

theorem size_le (h : Part k j) : k.size ≤ j.size := by
  induction h with
  | refl => exact Nat.le_refl _
  | tail _ hj ih => exact Nat.le_trans ih (Nat.le_of_lt (size_lt_of_mem_children hj))

end Part

theorem length_children_lt (j : Json) : j.children.length < j.size := by
  cases hc : j.children with
  | nil => exact size_pos j
  | cons k l =>
    have hk : k ∈ j.children := hc ▸ List.mem_cons_self
    have hone : ∀ n ∈ j.children.map size, 1 ≤ n := by
      intro n hn
      obtain ⟨i, -, rfl⟩ := List.mem_map.1 hn
      exact size_pos i
    have hlength := List.length_le_sum_of_one_le _ hone
    rw [List.length_map] at hlength
    rw [size_eq_of_mem_children hk, ← hc]
    exact Nat.lt_succ_of_le hlength

theorem mem_children_of_get? {fields : Dict Json} {name : String}
    (h : Dict.get? fields name = some k) : k ∈ (Json.obj fields).children :=
  List.mem_map.2 ⟨_, Dict.mem_of_get? h, rfl⟩

namespace Reader

theorem eq_of_text {r : String} (h : text j = some r) : j = .str r := by
  cases j with
  | str s =>
    cases h
    rfl
  | _ => cases h

theorem mem_texts_of_text {r : String} (h : text j = some r) : r ∈ j.texts := by
  rw [eq_of_text h]
  exact List.mem_cons_self

theorem exists_of_list {item : Reader α} {l : List α} (h : list item j = some l) :
    ∀ a ∈ l, ∃ k ∈ j.children, item k = some a := by
  cases j with
  | arr items => exact exists_mem_of_mapM h
  | _ => cases h

theorem exists_of_dict {value : Reader α} {d : Dict α} (h : dict value j = some d) :
    ∀ e ∈ d, ∃ k ∈ j.children, value k = some e.2 := by
  cases j with
  | obj fields =>
    intro e he
    obtain ⟨field, hfield, hvalue⟩ := exists_mem_of_mapM h e he
    obtain ⟨a, ha, rfl⟩ := Option.map_eq_some_iff.1 hvalue
    exact ⟨field.2, List.mem_map.2 ⟨field, hfield, rfl⟩, ha⟩
  | _ => cases h

theorem length_dict_lt {value : Reader α} {d : Dict α} (h : dict value j = some d) :
    d.length < j.size := by
  cases j with
  | obj fields =>
    have hlength : d.length = fields.length := length_eq_of_mapM h
    have hchildren := length_children_lt (.obj fields)
    rw [children, List.length_map] at hchildren
    rw [hlength]
    exact hchildren
  | _ => cases h

end Reader

namespace Record

variable {r : Record} {count place : Nat} {name : String} {read : Reader α} {a : α}

theorem mem_children_of_value? (hr : j.record? count = some r)
    (hk : r.value? place name = some k) : k ∈ j.children := by
  cases j with
  | arr values =>
    simp only [record?, Option.ite_none_right_eq_some, Option.some.injEq] at hr
    obtain ⟨-, rfl⟩ := hr
    exact List.mem_of_getElem? hk
  | obj fields =>
    cases hr
    exact mem_children_of_get? hk
  | _ => cases hr

theorem exists_of_optional (hr : j.record? count = some r)
    (h : r.optional place name read = some (some a)) : ∃ k ∈ j.children, read k = some a := by
  unfold optional at h
  split at h
  · cases h
  · next k _ hk =>
    obtain ⟨b, hb, he⟩ := Option.map_eq_some_iff.1 h
    cases he
    exact ⟨k, mem_children_of_value? hr hk, hb⟩
  · split at h <;> cases h

theorem exists_of_defaulted {default : α} (hr : j.record? count = some r)
    (h : r.defaulted place name read default = some a) :
    a = default ∨ ∃ k ∈ j.children, read k = some a := by
  unfold defaulted at h
  split at h
  · next k hk => exact .inr ⟨k, mem_children_of_value? hr hk, h⟩
  · cases h
    exact .inl rfl

end Record

end Json

namespace Reference

open Json (Part)

theorem part_of_select? {j k : Json} {segment : String} (h : select? j segment = some k) :
    Part k j := by
  cases j with
  | obj fields => exact .child (Json.mem_children_of_get? h)
  | arr items =>
    obtain ⟨i, -, hi⟩ := Option.bind_eq_some_iff.1 h
    exact .child (List.mem_of_getElem? hi)
  | _ => cases h

theorem part_of_follow? {j k : Json} {path : List String} (h : follow? j path = some k) :
    Part k j := by
  induction path generalizing j with
  | nil =>
    cases h
    exact .refl k
  | cons segment path ih =>
    unfold follow? at h
    split at h
    · next i hi => exact (ih h).trans (part_of_select? hi)
    · cases h

theorem part_of_lookup {document k : Json} {reference : String}
    (h : lookup document reference = .ok k) : Part k document := by
  unfold lookup at h
  split at h
  · cases h
  · split at h
    · next i hi =>
      cases h
      exact part_of_follow? hi
    · cases h

/-- What a reference leads to is read from a part of the document. -/
theorem exists_part_of_resolve {α : Type} {document : Json} {read : Json.Reader α}
    {reference : String} {a : α} (h : resolve document read reference = .ok a) :
    ∃ k, Part k document ∧ read k = some a := by
  unfold resolve at h
  split at h
  · cases h
  · next k hk =>
    split at h
    · next b hb =>
      cases h
      exact ⟨k, part_of_lookup hk, hb⟩
    · cases h

end Reference

end ClientGen
