import ClientGen.Dict
import Mathlib.Data.List.Basic
import Mathlib.Data.List.Forall2
import Mathlib.Data.List.Induction
import Mathlib.Data.List.Nodup

namespace ClientGen

section Read

variable {α β : Type} {f : α → Option β} {l : List α} {bs : List β}

theorem exists_of_mem_forall₂ {R : α → β → Prop} (h : List.Forall₂ R l bs) :
    ∀ a ∈ l, ∃ b ∈ bs, R a b := by
  induction h with
  | nil => exact fun _ ha => absurd ha List.not_mem_nil
  | cons hab _ ih =>
    refine List.forall_mem_cons.2 ⟨⟨_, List.mem_cons_self, hab⟩, fun a ha => ?_⟩
    obtain ⟨b, hb, h⟩ := ih a ha
    exact ⟨b, List.mem_cons_of_mem _ hb, h⟩

theorem forall₂_unique {R : α → β → Prop} {bs' : List β}
    (hR : ∀ a ∈ l, ∀ b b', R a b → R a b' → b = b') (h : List.Forall₂ R l bs)
    (h' : List.Forall₂ R l bs') : bs = bs' := by
  have hright : Relator.RightUnique fun a b => (∀ b b', R a b → R a b' → b = b') ∧ R a b :=
    fun _ b b' hb hb' => hb.1 b b' hb.2 hb'.2
  exact List.right_unique_forall₂' hright ((List.forall₂_and_left l bs).2 ⟨hR, h⟩)
    ((List.forall₂_and_left l bs').2 ⟨hR, h'⟩)

theorem exists_last {p : α → Prop} (h : ∃ a ∈ l, p a) :
    ∃ before a after, l = before ++ a :: after ∧ p a ∧ ∀ b ∈ after, ¬ p b := by
  induction l with
  | nil =>
    obtain ⟨a, ha, -⟩ := h
    cases ha
  | cons a l ih =>
    by_cases hl : ∃ b ∈ l, p b
    · obtain ⟨before, b, after, rfl, hb, hafter⟩ := ih hl
      exact ⟨a :: before, b, after, rfl, hb, hafter⟩
    · obtain ⟨b, hb, hp⟩ := h
      rcases List.mem_cons.1 hb with rfl | hb
      · exact ⟨[], b, l, rfl, hp, fun c hc hpc => hl ⟨c, hc, hpc⟩⟩
      · exact absurd ⟨b, hb, hp⟩ hl

theorem mapM_eq_some_iff : l.mapM f = some bs ↔ List.Forall₂ (fun a b => f a = some b) l bs := by
  induction l generalizing bs with
  | nil => simp [eq_comm]
  | cons a l ih =>
    simp only [List.mapM_cons, Option.bind_eq_bind, Option.bind_eq_some_iff, Option.pure_def,
      Option.some.injEq, ih, List.forall₂_cons_left_iff]
    constructor
    · rintro ⟨b, hb, bs', hbs, rfl⟩
      exact ⟨b, bs', hb, hbs, rfl⟩
    · rintro ⟨b, bs', hb, hbs, rfl⟩
      exact ⟨b, hb, bs', hbs, rfl⟩

theorem mapM_eq_none_iff : l.mapM f = none ↔ ∃ a ∈ l, f a = none := by
  induction l with
  | nil => simp
  | cons a l ih =>
    rw [List.mapM_cons, List.exists_mem_cons_iff, ← ih]
    cases f a with
    | none => simp
    | some b => cases l.mapM f <;> simp

theorem length_eq_of_mapM (h : l.mapM f = some bs) : bs.length = l.length :=
  (mapM_eq_some_iff.1 h).length_eq.symm

theorem exists_of_mapM (h : l.mapM f = some bs) : ∀ a ∈ l, ∃ b ∈ bs, f a = some b :=
  exists_of_mem_forall₂ (mapM_eq_some_iff.1 h)

theorem exists_mem_of_mapM (h : l.mapM f = some bs) : ∀ b ∈ bs, ∃ a ∈ l, f a = some b :=
  exists_of_mem_forall₂ (mapM_eq_some_iff.1 h).flip

end Read

section Distinct

variable {β : Type} [BEq β] [LawfulBEq β]

theorem eraseDups_append_singleton (l : List β) (b : β) :
    (l ++ [b]).eraseDups = if b ∈ l then l.eraseDups else l.eraseDups ++ [b] := by
  rw [List.eraseDups_append]
  split
  · next hb => simp [List.removeAll, hb]
  · next hb => simp [List.removeAll, hb, List.eraseDups_cons]

theorem nodup_eraseDups (l : List β) : l.eraseDups.Nodup := by
  induction l using List.reverseRecOn with
  | nil => simp
  | append_singleton l b ih =>
    rw [eraseDups_append_singleton]
    split
    · exact ih
    · next hb =>
      have hnew : b ∉ l.eraseDups := fun h => hb (List.mem_eraseDups.1 h)
      exact List.nodup_append.2 ⟨ih, by simp, by grind⟩

end Distinct

namespace Dict

variable {α : Type}

theorem get?_of_mem {d : Dict α} {name : String} {value : α} (hkeys : d.keys.Nodup)
    (h : (name, value) ∈ d) : d.get? name = some value := by
  induction d with
  | nil => cases h
  | cons p rest ih =>
    obtain ⟨hp, hrest⟩ := List.nodup_cons.1 hkeys
    rcases List.mem_cons.1 h with rfl | h
    · exact if_pos rfl
    · have hne : p.1 ≠ name := by
        rintro rfl
        exact hp (List.mem_map.2 ⟨_, h, rfl⟩)
      rw [get?, if_neg hne]
      exact ih hrest h

theorem eq_of_keys_eq {d d' : Dict α} (hkeys : d.keys = d'.keys)
    (h : ∀ name value value', (name, value) ∈ d → (name, value') ∈ d' → value = value') :
    d = d' := by
  induction d generalizing d' with
  | nil => exact (List.map_eq_nil_iff.1 hkeys.symm).symm
  | cons entry d ih =>
    obtain ⟨name, value⟩ := entry
    cases d' with
    | nil => cases hkeys
    | cons entry' d' =>
      obtain ⟨name', value'⟩ := entry'
      obtain ⟨rfl, hrest⟩ := List.cons_eq_cons.1 hkeys
      cases h name value value' List.mem_cons_self List.mem_cons_self
      rw [ih hrest fun name value value' hd hd' =>
        h name value value' (List.mem_cons_of_mem _ hd) (List.mem_cons_of_mem _ hd')]

end Dict

end ClientGen
