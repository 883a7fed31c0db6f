import ClientGen.Endpoint.OfOperation
import Mathlib.Data.List.Induction
import Mathlib.Data.List.Nodup

namespace ClientGen

/-- A wish for a name, and for a second name should the first one be taken. -/
structure Wish where
  first : String
  second : String
  deriving DecidableEq, Repr

namespace Wish

def grant (taken : List String) (w : Wish) : String :=
  if taken.contains w.first then w.second else w.first

/-- The names that are granted to wishes in turn. Whether the second name of a wish is taken is not
looked at. -/
def granted (taken : List String) : List Wish → List String
  | [] => []
  | w :: rest => w.grant taken :: granted (w.grant taken :: taken) rest

/-- Both names of the wish were granted to earlier ones. -/
def Refused (before : List Wish) (w : Wish) : Prop :=
  w.first ∈ granted [] before ∧ w.second ∈ granted [] before

/-- No wish has both of its names granted to earlier ones. -/
def Compatible (ws : List Wish) : Prop :=
  ∀ before w after, ws = before ++ w :: after → ¬ Refused before w

variable {taken taken' : List String} {ws : List Wish} {w : Wish} {n : String}

theorem grant_congr (h : ∀ n, n ∈ taken ↔ n ∈ taken') (w : Wish) :
    w.grant taken = w.grant taken' := by
  have hcontains : taken.contains w.first = taken'.contains w.first := by
    rw [Bool.eq_iff_iff, List.contains_iff_mem, List.contains_iff_mem, h]
  rw [grant, grant, hcontains]

theorem granted_congr (h : ∀ n, n ∈ taken ↔ n ∈ taken') (ws : List Wish) :
    granted taken ws = granted taken' ws := by
  induction ws generalizing taken taken' with
  | nil => rfl
  | cons w rest ih =>
    rw [granted, granted, grant_congr h w]
    congr 1
    apply ih
    intro n
    rw [List.mem_cons, List.mem_cons, h]

theorem granted_append (taken : List String) (ws ws' : List Wish) :
    granted taken (ws ++ ws') = granted taken ws ++ granted (granted taken ws ++ taken) ws' := by
  induction ws generalizing taken with
  | nil => rfl
  | cons w rest ih =>
    rw [List.cons_append, granted, granted, ih, List.cons_append]
    congr 2
    apply granted_congr
    intro n
    simp only [List.mem_append, List.mem_cons]
    grind

theorem granted_append_singleton (ws : List Wish) (w : Wish) :
    granted [] (ws ++ [w]) = granted [] ws ++ [w.grant (granted [] ws)] := by
  rw [granted_append, List.append_nil]
  rfl

theorem mem_granted (h : n ∈ granted taken ws) : ∃ w ∈ ws, n = w.first ∨ n = w.second := by
  induction ws generalizing taken with
  | nil => cases h
  | cons w rest ih =>
    rcases List.mem_cons.1 h with rfl | h
    · refine ⟨w, List.mem_cons_self, ?_⟩
      unfold grant
      split
      · exact .inr rfl
      · exact .inl rfl
    · obtain ⟨w', hw', hn⟩ := ih h
      exact ⟨w', List.mem_cons_of_mem w hw', hn⟩

theorem grant_mem_iff : w.grant taken ∈ taken ↔ w.first ∈ taken ∧ w.second ∈ taken := by
  unfold grant
  split
  · next h => simp [List.contains_iff_mem.1 h]
  · next h =>
    have hfirst : w.first ∉ taken := fun hm => h (List.contains_iff_mem.2 hm)
    simp [hfirst]

theorem compatible_append_singleton :
    Compatible (ws ++ [w]) ↔ Compatible ws ∧ ¬ Refused ws w := by
  constructor
  · intro h
    refine ⟨fun before v after hws => ?_, h ws w [] rfl⟩
    exact h before v (after ++ [w]) (by rw [hws, List.append_assoc, List.cons_append])
  · rintro ⟨hws, hw⟩ before v after he
    rcases List.eq_nil_or_concat after with rfl | ⟨after, u, rfl⟩
    · obtain ⟨rfl, hv⟩ := List.append_inj' he rfl
      cases hv
      exact hw
    · rw [List.concat_eq_append, ← List.cons_append, ← List.append_assoc] at he
      exact hws before v after (List.append_inj' he rfl).1

/-- The names that are granted differ from each other if and only if the wishes are compatible. -/
theorem nodup_granted_iff : (granted [] ws).Nodup ↔ Compatible ws := by
  induction ws using List.reverseRecOn with
  | nil =>
    have hnil : Compatible [] := by
      intro before w after h
      cases before <;> cases h
    exact iff_of_true .nil hnil
  | append_singleton ws w ih =>
    rw [granted_append_singleton, compatible_append_singleton, ← ih, Refused, ← grant_mem_iff,
      ← List.concat_eq_append, List.nodup_concat, and_comm]

theorem compatible_of_distinct (hsecond : (ws.map second).Nodup)
    (hfirst : ∀ w ∈ ws, ∀ v ∈ ws, w.first ≠ v.second) : Compatible ws := by
  rintro before w after rfl ⟨-, h⟩
  obtain ⟨v, hv, he⟩ := mem_granted h
  have hvmem : v ∈ before ++ w :: after := List.mem_append_left _ hv
  have hwmem : w ∈ before ++ w :: after := List.mem_append_right _ List.mem_cons_self
  rcases he with he | he
  · exact hfirst v hvmem w hwmem he.symm
  · rw [List.map_append, List.map_cons] at hsecond
    have hne := (List.nodup_append.1 hsecond).2.2
    exact hne _ (List.mem_map.2 ⟨v, hv, rfl⟩) _ List.mem_cons_self he.symm

end Wish

end ClientGen
