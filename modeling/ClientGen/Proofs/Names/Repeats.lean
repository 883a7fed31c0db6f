import ClientGen.Proofs.Names.TypeRequests
import Mathlib.Data.List.DropRight

namespace ClientGen

namespace AliasNames

open FunctionNames (form form_eq_self_iff form_one Extends)

variable {n : String} {requests : List String}

/-- How often a name was asked for since somebody got it last. -/
def sinceGiven (n : String) (pairs : List (String × String)) : Nat :=
  ((pairs.rtakeWhile fun e => e.2 ≠ n).map Prod.fst).count n

/-- The form of a name with the number of the request, counted from the one that took the name. -/
def numbered (n : String) (pairs : List (String × String)) : String :=
  form n (sinceGiven n pairs + 2)

def next (n : String) (pairs : List (String × String)) : String :=
  if n ∈ pairs.map Prod.snd then numbered n pairs else n

/-- The names that are asked for, each with the one that is given. -/
def given (requests : List String) : List (String × String) :=
  requests.zip (InTurn.answers unique {} requests)

theorem sinceGiven_concat (n asked name : String) (pairs : List (String × String)) :
    sinceGiven n (pairs ++ [(asked, name)]) =
      if name = n then 0 else sinceGiven n pairs + if asked = n then 1 else 0 := by
  rw [sinceGiven]
  by_cases hname : name = n
  · rw [List.rtakeWhile_concat_neg _ _ _ (by simp [hname])]
    simp [hname]
  · rw [List.rtakeWhile_concat_pos _ _ _ (by simp [hname]), if_neg hname, List.map_append,
      List.count_append, sinceGiven]
    simp [List.count_singleton]

theorem map_snd_given (requests : List String) :
    (given requests).map Prod.snd = InTurn.answers unique {} requests :=
  List.map_snd_zip (InTurn.length_answers _ _ _).le

theorem given_concat (requests : List String) (n : String) :
    given (requests ++ [n]) =
      given requests ++ [(n, ((InTurn.after unique {} requests).unique n).1)] := by
  rw [given, InTurn.answers_append_singleton, List.zip_append (InTurn.length_answers _ _ _).symm]
  rfl

/-- A name that nobody has counts nothing, and one that somebody has counts that and the requests
since then. -/
theorem count_after_requests (requests : List String) (n : String) :
    (InTurn.after unique {} requests).count n =
      if n ∈ (given requests).map Prod.snd then sinceGiven n (given requests) + 1 else 0 := by
  induction requests using List.reverseRecOn generalizing n with
  | nil => rfl
  | append_singleton requests m ih =>
    have hasked := ih m
    have hname := unique_fst (InTurn.after unique {} requests) m
    rw [InTurn.after_append]
    change ((InTurn.after unique {} requests).unique m).2.count n = _
    rw [count_unique, given_concat, sinceGiven_concat, List.map_append, ih n]
    simp only [List.mem_append, List.map_singleton, List.mem_singleton]
    generalize (InTurn.after unique {} requests).count m = count at hasked hname ⊢
    generalize ((InTurn.after unique {} requests).unique m).1 = name at hname ⊢
    by_cases hm : m = n
    · subst hm
      by_cases htaken : m ∈ (given requests).map Prod.snd
      · have hother : name ≠ m := by
          rw [hname, hasked, if_pos htaken, Ne, form_eq_self_iff]
          omega
        simp [htaken, hasked, hother]
      · have hself : name = m := by rw [hname, hasked, if_neg htaken, form_one]
        simp [htaken, hasked, hself]
    · by_cases hgiven : name = n
      · -- Only a numbered form can be another name.
        have hcount : 0 < count := by
          rw [Nat.pos_iff_ne_zero]
          rintro rfl
          exact hm (hname.symm.trans hgiven)
        simp [hm, hgiven, hcount]
      · have hother : ¬ n = name := fun h => hgiven h.symm
        simp only [hm, hgiven, hother, if_false, and_false, or_false, Nat.add_zero]

theorem unique_fst_after (requests : List String) (n : String) :
    ((InTurn.after unique {} requests).unique n).1 = next n (given requests) := by
  rw [unique_fst, count_after_requests, next]
  split
  · rfl
  · exact form_one n

theorem eachAfter_given (requests : List String) :
    EachAfter (fun before e => e.2 = next e.1 before) (given requests) := by
  induction requests using List.reverseRecOn with
  | nil => exact eachAfter_nil
  | append_singleton requests n ih =>
    rw [given_concat, eachAfter_concat]
    exact ⟨ih, unique_fst_after requests n⟩

/-- The table repeats a name where the name that is asked for and its numbered form are both given
already. -/
theorem nodup_given_iff (requests : List String) :
    (InTurn.answers unique {} requests).Nodup ↔
      EachAfter (fun before e => ¬ (e.1 ∈ before.map Prod.snd ∧
        numbered e.1 before ∈ before.map Prod.snd)) (given requests) := by
  rw [← map_snd_given, nodup_map_iff_eachAfter]
  apply EachAfter.congr
  intro before e later hsplit
  rw [eachAfter_given requests before e later hsplit, next]
  split
  · next hmem => rw [not_and_or, or_iff_right (not_not_intro hmem)]
  · next hmem => exact iff_of_true hmem fun h => hmem h.1

theorem handedOut_types (t : TypeTables) (requests : List String) :
    (t.handedOut (requests.map .type)).map Prod.snd =
      InTurn.answers unique t.aliases requests := by
  induction requests generalizing t with
  | nil => rfl
  | cons n requests ih => exact congrArg _ (ih _)

theorem nodup_answers_of_apart (h : ∀ m ∈ requests, ∀ n ∈ requests, ¬ Extends m n) :
    (InTurn.answers unique {} requests).Nodup := by
  have hapart : TypeTables.Apart (requests.map .type) := by
    intro r hr r' hr'
    obtain ⟨m, hm, rfl⟩ := List.mem_map.1 hr
    obtain ⟨n, hn, rfl⟩ := List.mem_map.1 hr'
    exact h m hm n hn
  rw [← handedOut_types {}]
  exact TypeTables.nodup_handedOut hapart

end AliasNames

end ClientGen
