import ClientGen.NamedEnum
import ClientGen.Proofs.Text.CaseClasses
import ClientGen.Proofs.TypeText.Words

namespace ClientGen

open TypeScript Reader

variable {cs : List Char} {c : Char}

def Unbroken (cs : List Char) : Prop := ∀ c ∈ cs, isDelimiter c = false

instance (cs : List Char) : Decidable (Unbroken cs) :=
  List.decidableBAll (fun c => isDelimiter c = false) cs

namespace Unbroken

theorem append {cs' : List Char} (h : Unbroken cs) (h' : Unbroken cs') : Unbroken (cs ++ cs') :=
  fun c hc => (List.mem_append.1 hc).elim (h c) (h' c)

theorem flatMap {α : Type} {f : α → List Char} {l : List α} (h : ∀ a ∈ l, Unbroken (f a)) :
    Unbroken (l.flatMap f) := by
  intro c hc
  obtain ⟨a, ha, hc⟩ := List.mem_flatMap.1 hc
  exact h a ha c hc

end Unbroken

theorem unbroken_iff : Unbroken cs ↔ cs.all (fun c => !isDelimiter c) = true := by
  simp [Unbroken, List.all_eq_true]

namespace Text

theorem avoids_lower : Avoids lowerSpecial lowerShifts delimiters :=
  ⟨by decide +kernel, by decide +kernel, by decide⟩

theorem avoids_upper : Avoids upperSpecial upperShifts delimiters :=
  ⟨by decide +kernel, by decide +kernel, by decide⟩

theorem caseClosed_unbroken : CaseClosed fun c => !isDelimiter c :=
  .ofAvoids avoids_lower avoids_upper (by decide +kernel)

theorem unbroken_capitalize (h : Unbroken cs) : Unbroken (capitalize cs) := by
  rwa [unbroken_iff, all_capitalize caseClosed_unbroken, ← unbroken_iff]

theorem unbroken_camelCase (cs : List Char) : Unbroken (camelCase cs) := by
  rw [unbroken_iff, all_camelCase caseClosed_unbroken, ← unbroken_iff]
  intro c hc
  exact isDelimiter_of (q := isWordChar) (by decide) (List.mem_filter.1 hc).2

end Text

theorem isWord_marked (h : Unbroken cs) : IsWord (String.ofList (Identifier.marked cs)) := by
  unfold Identifier.marked
  split
  · next hvalid =>
    cases cs with
    | nil => cases hvalid
    | cons c cs => exact ⟨by simp, by rwa [String.toList_ofList]⟩
  · refine ⟨by simp, ?_⟩
    rw [String.toList_ofList]
    exact List.forall_mem_cons.2 ⟨by decide, h⟩

theorem isWord_ofText (raw : String) (upperFirst : Bool) (view : View) :
    IsWord (Identifier.ofText raw upperFirst view) := by
  have hsuffix : Unbroken view.suffix.toList := by cases view <;> decide
  have hjoined := (Text.unbroken_camelCase raw.toList).append hsuffix
  unfold Identifier.ofText
  cases upperFirst with
  | true => exact isWord_marked (Text.unbroken_capitalize hjoined)
  | false => exact isWord_marked hjoined

namespace NamedEnum

theorem pieces_ne_nil (cs : List Char) : pieces cs ≠ [] := by
  cases cs with
  | nil => exact List.cons_ne_nil _ _
  | cons c rest =>
    unfold pieces
    split
    · split <;> exact List.cons_ne_nil _ _
    · exact List.cons_ne_nil _ _

theorem unbroken_pieces (cs : List Char) : ∀ piece ∈ pieces cs, Unbroken piece := by
  fun_induction pieces cs with
  | case1 => exact List.forall_mem_singleton.2 (by decide)
  | case2 c rest piece more hpieces hc ih =>
    rw [hpieces] at ih
    obtain ⟨hpiece, hmore⟩ := List.forall_mem_cons.1 ih
    refine List.forall_mem_cons.2 ⟨List.forall_mem_cons.2 ⟨?_, hpiece⟩, hmore⟩
    exact isDelimiter_of (q := isNameChar) (by decide) hc
  | case3 c rest piece more hpieces hc ih =>
    rw [hpieces] at ih
    exact List.forall_mem_cons.2 ⟨by decide, ih⟩
  | case4 c rest hpieces => exact absurd hpieces (pieces_ne_nil rest)

theorem isWord_typeName (raw : String) : IsWord (typeName raw) :=
  isWord_marked (.flatMap fun piece h => Text.unbroken_capitalize (unbroken_pieces _ piece h))

end NamedEnum

theorem isWord_unique {name : String} (h : IsWord name) (t : AliasNames) :
    IsWord (t.unique name).1 := by
  unfold AliasNames.unique
  dsimp only
  split
  · refine ⟨by simp [h.1], ?_⟩
    rw [String.toList_append]
    exact Unbroken.append h.2 (isWord_repr (t.count name + 1)).2
  · exact h

end ClientGen
