import ClientGen.Proofs.TypeText.Reached
import ClientGen.Proofs.TypeText.Shape
import ClientGen.Proofs.Names.Tables

namespace ClientGen

open FunctionNames (form_eq_unnumbered_iff)
open Run TypeScript
open TypeScript.Reader (Numeral numeral_int numeral_number)

namespace TypeScript

theorem ne_null_of_mem {s : String} {c : Char} (h : c ∈ s.toList)
    (hc : c ∉ ['n', 'u', 'l', 'l']) : s ≠ "null" := by
  rintro rfl
  exact hc h

theorem not_numeral_null : ¬ Numeral "null" := by decide

theorem Literal.render_eq_null_iff {l : Literal} : l.render = "null" ↔ l = .null := by
  cases l with
  | text s =>
    refine iff_of_false (ne_null_of_mem (c := '"') ?_ (by decide)) (by simp)
    simp [render, Text.quoted]
  | int n => exact iff_of_false (fun h => not_numeral_null (h ▸ numeral_int n)) (by simp)
  | number x => exact iff_of_false (fun h => not_numeral_null (h ▸ numeral_number x)) (by simp)
  | truth b => cases b <;> exact iff_of_false (by decide) (by simp)
  | null => exact iff_of_true rfl rfl

namespace TypeExpr

variable {level : Nat} {t : TypeExpr}

theorem text_union_singleton (t : TypeExpr) : text level (.union [t]) = text level t := by
  rw [text, if_neg (by simp), texts, texts, String.intercalate_singleton]

theorem text_intersection_singleton (t : TypeExpr) :
    text level (.intersection [t]) = text level t := by
  rw [text]

/-- Null, as a keyword or as a literal. -/
def IsNull (t : TypeExpr) : Prop := t = .keyword .null ∨ t = .literal .null

theorem text_wide_ne_null (t u : TypeExpr) (rest : List TypeExpr) :
    text level (.union (t :: u :: rest)) ≠ "null" ∧
      text level (.intersection (t :: u :: rest)) ≠ "null" := by
  constructor
  · apply ne_null_of_mem (c := '|') _ (by decide)
    rw [text, if_neg (by simp), texts, texts, String.intercalate_cons_cons]
    simp
  · apply ne_null_of_mem (c := '&') _ (by decide)
    rw [text, operands, operands, String.intercalate_cons_cons]
    simp

theorem text_eq_null_iff (hnames : ∀ n ∈ t.names, n ≠ "null") :
    text level t = "null" ↔ t.core.IsNull := by
  fun_induction core t with
  | case1 member ih =>
    rw [text_union_singleton]
    exact ih fun n hn => hnames n (mem_namesOf.2 ⟨_, List.mem_cons_self, hn⟩)
  | case2 part ih =>
    rw [text_intersection_singleton]
    exact ih fun n hn => hnames n (mem_namesOf.2 ⟨_, List.mem_cons_self, hn⟩)
  | case3 t hunion hintersection =>
    -- Every other type shows a character that is not in the word, or is a word itself.
    cases t with
    | keyword word =>
      rw [text]
      cases word with
      | null => exact iff_of_true rfl (.inl rfl)
      | _ => exact iff_of_false (by decide) (by simp [IsNull])
    | array item =>
      refine iff_of_false (ne_null_of_mem (c := ']') ?_ (by decide)) (by simp [IsNull])
      simp [text]
    | tuple items =>
      refine iff_of_false (ne_null_of_mem (c := '[') ?_ (by decide)) (by simp [IsNull])
      simp [text]
    | union members =>
      refine iff_of_false ?_ (by simp [IsNull])
      cases members using casesFew with
      | nil => simp [text]
      | one member => exact absurd rfl (hunion member)
      | several first second rest => exact (text_wide_ne_null first second rest).1
    | intersection parts =>
      refine iff_of_false ?_ (by simp [IsNull])
      cases parts using casesFew with
      | nil => simp [text]
      | one part => exact absurd rfl (hintersection part)
      | several first second rest => exact (text_wide_ne_null first second rest).2
    | object members index =>
      refine iff_of_false (ne_null_of_mem (c := '\x7b') ?_ (by decide)) (by simp [IsNull])
      rw [text]
      split <;> simp
    | literal value =>
      rw [text, Literal.render_eq_null_iff]
      simp [IsNull]
    | named n => exact iff_of_false (hnames n List.mem_cons_self) (by simp [IsNull])

end TypeExpr

end TypeScript

theorem marked_ne_null (cs : List Char) : String.ofList (Identifier.marked cs) ≠ "null" := by
  unfold Identifier.marked
  split
  · next hvalid =>
    intro hnull
    rw [Identifier.isValid, hnull, Bool.and_eq_true] at hvalid
    exact absurd hvalid.2 (by decide)
  · exact ne_null_of_mem (c := '$') (by simp) (by decide)

theorem ne_null_holdsOfTaken : Session.HoldsOfTaken (· ≠ "null") where
  binary := by decide
  ofText _ _ _ := marked_ne_null _
  typeName _ := marked_ne_null _
  unique h t := by
    rw [AliasNames.unique_fst]
    exact fun hnull => h ((form_eq_unnumbered_iff (by decide)).1 hnull).1

/-- A type that a schema gets is written `null` just if it is null, perhaps alone in unions and
intersections. -/
theorem Setting.text_typing_eq_null_iff {c : Setting} {fuel : Nat} {place : Place} {x : Schema}
    {s s' : Session} {t u : TypeExpr} {level : Nat} (hs : s.Reached) (hfuel : fuel ≤ c.depth)
    (h : (c.typingWithin fuel place x).Gives s t s') (hu : ∀ n ∈ u.names, n ∈ t.names) :
    u.text level = "null" ↔ u.core.IsNull := by
  have hnames := (c.growth.obeys_typingWithin hfuel _ _ _ _ _ h).2
  have htaken := (hs.typing hfuel h).holds (Session.invariant_namesAre ne_null_holdsOfTaken)
  exact TypeExpr.text_eq_null_iff fun n hn => htaken n (hnames n (hu n hn))

end ClientGen
