import ClientGen.Proofs.Names.Forms
import Mathlib.Data.List.Induction
import Mathlib.Data.List.Nodup
import Mathlib.Data.List.Perm.Subperm
import Mathlib.Data.List.Range

namespace ClientGen

/-- Every element of a list stands in a relation to the elements before it. -/
def EachAfter {α : Type} (P : List α → α → Prop) (l : List α) : Prop :=
  ∀ before a later, l = before ++ a :: later → P before a

section EachAfter

variable {α β : Type} {P Q : List α → α → Prop} {l : List α} {a : α}

theorem eachAfter_nil : EachAfter P [] := by
  intro before a later h
  exact absurd h.symm (List.append_ne_nil_of_right_ne_nil _ (List.cons_ne_nil _ _))

theorem eachAfter_concat : EachAfter P (l ++ [a]) ↔ EachAfter P l ∧ P l a := by
  constructor
  · refine fun h => ⟨fun before b later hl => ?_, h l a [] rfl⟩
    apply h before b (later ++ [a])
    rw [hl, List.append_assoc, List.cons_append]
  · rintro ⟨hl, ha⟩ before b later hsplit
    rcases List.eq_nil_or_concat later with rfl | ⟨later, last, rfl⟩
    · obtain ⟨rfl, hlast⟩ := List.append_inj' hsplit rfl
      cases hlast
      exact ha
    · rw [List.concat_eq_append, ← List.cons_append, ← List.append_assoc] at hsplit
      exact hl before b later (List.append_inj' hsplit rfl).1

theorem EachAfter.congr (h : EachAfter (fun before a => P before a ↔ Q before a) l) :
    EachAfter P l ↔ EachAfter Q l :=
  forall₄_congr fun before a later hl => h before a later hl

theorem nodup_map_iff_eachAfter {f : α → β} :
    (l.map f).Nodup ↔ EachAfter (fun before a => f a ∉ before.map f) l := by
  induction l using List.reverseRecOn with
  | nil => exact iff_of_true .nil eachAfter_nil
  | append_singleton l a ih =>
    rw [eachAfter_concat, ← ih, List.map_append, List.nodup_append]
    simp only [List.map_singleton, List.nodup_singleton, List.mem_singleton, true_and]
    refine and_congr_right fun _ => ⟨fun h hmem => h _ hmem _ rfl rfl, ?_⟩
    rintro h _ hb _ rfl rfl
    exact h hb

end EachAfter

namespace InTurn

variable {τ α β : Type} {ask : τ → α → β × τ} {t : τ}

/-- What a table answers to requests in turn. -/
def answers (ask : τ → α → β × τ) (t : τ) : List α → List β
  | [] => []
  | a :: rest => (ask t a).1 :: answers ask (ask t a).2 rest

def after (ask : τ → α → β × τ) (t : τ) (requests : List α) : τ :=
  requests.foldl (fun t a => (ask t a).2) t

theorem after_append (l l' : List α) : after ask t (l ++ l') = after ask (after ask t l) l' :=
  List.foldl_append

theorem answers_append (l l' : List α) :
    answers ask t (l ++ l') = answers ask t l ++ answers ask (after ask t l) l' := by
  induction l generalizing t with
  | nil => rfl
  | cons a l ih =>
    rw [List.cons_append, answers, ih]
    rfl

theorem length_answers (ask : τ → α → β × τ) (t : τ) (l : List α) :
    (answers ask t l).length = l.length := by
  induction l generalizing t with
  | nil => rfl
  | cons a l ih => rw [answers, List.length_cons, List.length_cons, ih]

theorem answers_append_singleton (l : List α) (a : α) :
    answers ask t (l ++ [a]) = answers ask t l ++ [(ask (after ask t l) a).1] :=
  answers_append l [a]

end InTurn

open FunctionNames (form form_one form_eq_self_iff)

theorem Dict.getD_get?_put {α : Type} (d : Dict α) (m n : String) (value default : α) :
    ((d.put m value).get? n).getD default = if m = n then value else (d.get? n).getD default := by
  rw [Dict.get?_put]
  split <;> rfl

namespace AliasNames

variable {t : AliasNames} {m n : String}

theorem unique_of_count_eq_zero (h : t.count n = 0) : t.unique n = (n, ⟨t.used.put n 1⟩) := by
  unfold unique
  dsimp only
  rw [if_neg (by omega)]

theorem unique_of_count_pos (h : 0 < t.count n) : t.unique n = (form n (t.count n + 1),
    ⟨(t.used.put n (t.count n + 1)).put (form n (t.count n + 1)) 1⟩) := by
  have hform : form n (t.count n + 1) = n ++ toString (t.count n + 1) := if_neg (by omega)
  unfold unique
  dsimp only
  rw [if_pos h, hform]

theorem unique_fst (t : AliasNames) (n : String) : (t.unique n).1 = form n (t.count n + 1) := by
  rcases Nat.eq_zero_or_pos (t.count n) with h | h
  · rw [unique_of_count_eq_zero h, h, form_one]
  · rw [unique_of_count_pos h]

theorem count_unique (t : AliasNames) (m n : String) : (t.unique m).2.count n =
    if m = n then t.count m + 1
    else if 0 < t.count m ∧ (t.unique m).1 = n then 1
    else t.count n := by
  rcases Nat.eq_zero_or_pos (t.count m) with h | h
  · rw [unique_of_count_eq_zero h, count, Dict.getD_get?_put, h]
    simp only [Nat.lt_irrefl, false_and, if_false]
    rfl
  · have hlonger : form m (t.count m + 1) ≠ m := by
      rw [Ne, form_eq_self_iff]
      omega
    rw [unique_of_count_pos h, count, Dict.getD_get?_put, Dict.getD_get?_put]
    simp only [h, true_and]
    by_cases hm : m = n
    · rw [if_neg (hm ▸ hlonger), if_pos hm, if_pos hm]
    · rw [if_neg hm, if_neg hm]
      rfl

end AliasNames

namespace FunctionNames

variable {t : FunctionNames} {taken : List String} {m n name : String} {j k fuel : Nat}
  {requests : List String}

/-- The search for a form that nobody has, on from the `n`-th one and without any bound. -/
inductive Search (taken : List String) (name : String) : Nat → Nat → Prop where
  | free {n : Nat} (h : form name (n + 1) ∉ taken) : Search taken name n (n + 1)
  | next {n k : Nat} (h : form name (n + 1) ∈ taken) (rest : Search taken name (n + 1) k) :
      Search taken name n k

theorem Search.not_mem (h : Search taken name j k) : form name k ∉ taken := by
  induction h with
  | free h => exact h
  | next _ _ ih => exact ih

theorem Search.lt (h : Search taken name j k) : j < k := by
  induction h with
  | free => omega
  | next _ _ ih => omega

theorem Search.unique {k' : Nat} (h : Search taken name j k) (h' : Search taken name j k') :
    k = k' := by
  induction h with
  | free h =>
    cases h' with
    | free => rfl
    | next hmem => exact absurd hmem h
  | next h _ ih =>
    cases h' with
    | free hfree => exact absurd h hfree
    | next _ rest => exact ih rest

/-- Among one more forms than names were handed out one is free. -/
theorem exists_free (taken : List String) (name : String) (n : Nat) :
    ∃ i ≤ taken.length, form name (n + 1 + i) ∉ taken := by
  by_contra hall
  push Not at hall
  -- They are all different, so there are too many of them to be taken.
  let forms := (List.range (taken.length + 1)).map fun i => form name (n + 1 + i)
  have hnodup : forms.Nodup := by
    refine List.nodup_range.map fun i j h => ?_
    have := form_injective h
    omega
  have hsubset : forms ⊆ taken := by
    intro f hf
    obtain ⟨i, hi, rfl⟩ := List.mem_map.1 hf
    exact hall i (Nat.le_of_lt_succ (List.mem_range.1 hi))
  have hlength := (List.subperm_of_subset hnodup hsubset).length_le
  rw [List.length_map, List.length_range] at hlength
  omega

theorem search_firstFree (h : ∃ i ≤ fuel, form name (j + 1 + i) ∉ taken) :
    Search taken name j (firstFree taken name fuel j) := by
  induction fuel generalizing j with
  | zero =>
    obtain ⟨i, hi, hfree⟩ := h
    rw [Nat.le_zero.1 hi] at hfree
    exact .free hfree
  | succ fuel ih =>
    unfold firstFree
    split
    · next hmem =>
      rw [List.contains_iff_mem] at hmem
      refine .next hmem (ih ?_)
      obtain ⟨i, hi, hfree⟩ := h
      cases i with
      | zero => exact absurd hmem hfree
      | succ i => exact ⟨i, by omega, by rwa [Nat.add_right_comm (j + 1) 1 i]⟩
    · next hfree => exact .free fun hmem => hfree (List.contains_iff_mem.2 hmem)

def count (t : FunctionNames) (name : String) : Nat := (Dict.get? t.counts name).getD 0

def nextNumber (t : FunctionNames) (name : String) : Nat :=
  firstFree t.taken name t.taken.length (t.count name)

/-- The search comes to an end, and at the number of the form that is given. -/
theorem search_iff : Search t.taken n (t.count n) k ↔ k = t.nextNumber n := by
  have hends := search_firstFree (exists_free t.taken n (t.count n))
  constructor
  · exact fun h => h.unique hends
  · rintro rfl
    exact hends

theorem unique_fst (t : FunctionNames) (n : String) : (t.unique n).1 = form n (t.nextNumber n) :=
  rfl

theorem taken_unique (t : FunctionNames) (n : String) :
    (t.unique n).2.taken = t.taken ++ [(t.unique n).1] :=
  rfl

theorem count_unique (t : FunctionNames) (m n : String) :
    (t.unique m).2.count n = if m = n then t.nextNumber m else t.count n := by
  exact Dict.getD_get?_put t.counts m n (t.nextNumber m) 0

theorem unique_fst_not_mem (t : FunctionNames) (n : String) : (t.unique n).1 ∉ t.taken := by
  rw [unique_fst]
  exact (search_iff.2 rfl).not_mem

theorem count_lt_nextNumber (t : FunctionNames) (n : String) : t.count n < t.nextNumber n :=
  (search_iff.2 rfl).lt

theorem nextNumber_eq_one_iff : t.nextNumber n = 1 ↔ t.count n = 0 ∧ n ∉ t.taken := by
  constructor
  · intro h
    have hsearch : Search t.taken n (t.count n) 1 := search_iff.2 h.symm
    exact ⟨Nat.lt_one_iff.1 hsearch.lt, hsearch.not_mem⟩
  · rintro ⟨hcount, hfree⟩
    apply Eq.symm
    apply search_iff.1
    rw [hcount]
    exact .free hfree

theorem taken_after (t : FunctionNames) (requests : List String) :
    (InTurn.after unique t requests).taken = t.taken ++ InTurn.answers unique t requests := by
  induction requests generalizing t with
  | nil => exact (List.append_nil _).symm
  | cons m requests ih =>
    have hrest := ih (t.unique m).2
    rw [taken_unique, List.append_assoc] at hrest
    exact hrest

theorem nodup_taken_after (h : t.taken.Nodup) : (InTurn.after unique t requests).taken.Nodup := by
  induction requests generalizing t with
  | nil => exact h
  | cons m requests ih =>
    apply ih
    rw [taken_unique, ← List.concat_eq_append]
    exact h.concat (unique_fst_not_mem t m)

theorem nodup_answers (requests : List String) : (InTurn.answers unique {} requests).Nodup := by
  have h : (InTurn.after unique {} requests).taken.Nodup := nodup_taken_after .nil
  rwa [taken_after] at h

theorem count_le_count_after (t : FunctionNames) (requests : List String) (n : String) :
    t.count n ≤ (InTurn.after unique t requests).count n := by
  induction requests generalizing t with
  | nil => exact Nat.le_refl _
  | cons m requests ih =>
    apply Nat.le_trans _ (ih (t.unique m).2)
    rw [count_unique]
    split
    · next he => exact he ▸ (count_lt_nextNumber t m).le
    · exact Nat.le_refl _

theorem count_after_eq_zero_iff :
    (InTurn.after unique t requests).count n = 0 ↔ t.count n = 0 ∧ n ∉ requests := by
  induction requests generalizing t with
  | nil => simp [InTurn.after]
  | cons m requests ih =>
    have hnext := count_lt_nextNumber t m
    have hrest := ih (t := (t.unique m).2)
    rw [count_unique] at hrest
    apply hrest.trans
    by_cases he : m = n
    · subst he
      simp only [if_pos, List.mem_cons_self, not_true_eq_false, and_false, iff_false, not_and]
      omega
    · simp [he, Ne.symm he]

/-- A later request for a name is given a form with a larger number. -/
theorem nextNumber_lt_after (t : FunctionNames) (n : String) (between : List String) :
    t.nextNumber n < (InTurn.after unique t (n :: between)).nextNumber n := by
  have hgiven : (t.unique n).2.count n = t.nextNumber n := by rw [count_unique, if_pos rfl]
  calc t.nextNumber n = (t.unique n).2.count n := hgiven.symm
    _ ≤ (InTurn.after unique t (n :: between)).count n := count_le_count_after _ _ _
    _ < _ := count_lt_nextNumber _ _

theorem unique_fst_eq_self_iff {before : List String} :
    ((InTurn.after unique {} before).unique n).1 = n ↔
      n ∉ before ∧ n ∉ InTurn.answers unique {} before := by
  have hcount : (InTurn.after unique {} before).count n = 0 ↔ n ∉ before := by
    rw [count_after_eq_zero_iff]
    exact and_iff_right rfl
  rw [unique_fst, form_eq_self_iff, nextNumber_eq_one_iff, hcount, taken_after]
  rfl

theorem mem_answers (h : n ∈ requests) : n ∈ InTurn.answers unique {} requests := by
  induction requests using List.reverseRecOn with
  | nil => cases h
  | append_singleton before m ih =>
    -- Before it is asked for, the name may have been given as a form of a shorter one.
    rw [InTurn.answers_append_singleton, List.mem_append, List.mem_singleton]
    by_cases hbefore : n ∈ before
    · exact .inl (ih hbefore)
    · obtain rfl : n = m := by simpa [hbefore] using h
      by_cases hgiven : n ∈ InTurn.answers unique {} before
      · exact .inl hgiven
      · exact .inr (unique_fst_eq_self_iff.2 ⟨hbefore, hgiven⟩).symm

theorem exists_of_mem_answers (h : m ∈ InTurn.answers unique t requests) :
    ∃ n ∈ requests, ∃ k, m = form n k := by
  induction requests generalizing t with
  | nil => cases h
  | cons n requests ih =>
    rcases List.mem_cons.1 h with rfl | h
    · exact ⟨n, List.mem_cons_self, _, rfl⟩
    · obtain ⟨n', hn', hk⟩ := ih h
      exact ⟨n', List.mem_cons_of_mem _ hn', hk⟩

end FunctionNames

end ClientGen
