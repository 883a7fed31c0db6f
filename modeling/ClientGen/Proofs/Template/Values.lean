import ClientGen.Proofs.Template.Scan

namespace ClientGen

namespace TypeScript

mutual

/-- The text that an expression comes to where names have values. -/
def Expr.value? (env : String → String) : Expr → Option (List Char)
  | .name text => some (env text).toList
  | .literal (.text value) => some value.toList
  | .template parts => Part.values? env parts
  | _ => none

def Part.value? (env : String → String) : Part → Option (List Char)
  | .fixed text => some text.toList
  | .substitution value => value.value? env

def Part.values? (env : String → String) : List Part → Option (List Char)
  | [] => some []
  | part :: rest =>
    match part.value? env, Part.values? env rest with
    | some text, some more => some (text ++ more)
    | _, _ => none

end

end TypeScript

namespace Template

open TypeScript (Expr Part)

variable {env : String → String} {resolve : String → Option Expr}
  {value : String → Option String}

theorem values?_cons {part : Part} {parts : List Part} {text more : List Char}
    (hpart : part.value? env = some text) (hparts : Part.values? env parts = some more) :
    Part.values? env (part :: parts) = some (text ++ more) := by
  rw [Part.values?, hpart, hparts]

theorem values?_prepend (text : List Char) {parts : List Part} {more : List Char}
    (h : Part.values? env parts = some more) :
    Part.values? env (prepend text parts) = some (text ++ more) := by
  have hfixed : (Part.fixed (String.ofList text)).value? env = some text := by
    rw [Part.value?, String.toList_ofList]
  cases parts with
  | nil => exact values?_cons hfixed h
  | cons part rest =>
    cases part with
    | substitution e => exact values?_cons hfixed h
    | fixed first =>
      rw [Part.values?, Part.value?] at h
      cases hrest : Part.values? env rest with
      | none => simp [hrest] at h
      | some last =>
        rw [hrest, Option.some.injEq] at h
        have hjoined : (Part.fixed (String.ofList text ++ first)).value? env =
            some (text ++ first.toList) := by simp [Part.value?]
        rw [prepend, values?_cons hjoined hrest, ← h, List.append_assoc]

theorem values?_parts
    (h : ∀ name, (resolve name).map (Expr.value? env) =
      (value name).map fun text => some text.toList) (pieces : List Piece) :
    Part.values? env (parts resolve pieces) = some (pieces.flatMap (Piece.filled value)) := by
  induction pieces with
  | nil => rfl
  | cons piece rest ih =>
    cases piece with
    | char c => exact values?_prepend [c] ih
    | placeholder name =>
      have hname := h (String.ofList name)
      rw [parts, List.flatMap_cons, Piece.filled]
      cases hvalue : value (String.ofList name) with
      | none =>
        rw [hvalue, Option.map_none, Option.map_eq_none_iff] at hname
        rw [hname]
        exact values?_prepend _ ih
      | some text =>
        rw [hvalue, Option.map_some, Option.map_eq_some_iff] at hname
        obtain ⟨e, he, htext⟩ := hname
        rw [he]
        exact values?_cons htext ih

theorem value?_ofParts (parts : List Part) :
    (ofParts parts).value? env = Part.values? env parts := by
  match parts with
  | [] => rfl
  | [.fixed text] => simp [ofParts, Expr.string, Expr.value?, Part.values?, Part.value?]
  | [.substitution e] => rfl
  | first :: second :: rest => simp [ofParts, Expr.value?]

/-- The expression for a text comes to the text with its placeholders filled at once. -/
theorem value?_expr
    (h : ∀ name, (resolve name).map (Expr.value? env) =
      (value name).map fun text => some text.toList) (source : String) :
    (expr resolve source).value? env = some (fill value source.toList) := by
  rw [expr, value?_ofParts, values?_parts h, fill]

end Template

end ClientGen
