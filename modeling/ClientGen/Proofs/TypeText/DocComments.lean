import ClientGen.Proofs.Text.Occurs
import ClientGen.TypeScript.Doc

namespace ClientGen

namespace TypeScript.Doc

open Text

variable {level : Nat} {c : Char} {cs rest : List Char}

def closing : List Char := ['*', '/']

theorem infix_cons_iff :
    closing <:+: c :: cs ↔ c = '*' ∧ cs.head? = some '/' ∨ closing <:+: cs := by
  rw [List.infix_cons_iff, closing, List.cons_prefix_cons, List.cons_prefix_iff]
  simp [eq_comm, List.head?_eq_some_iff]

theorem head?_guarded (cs : List Char) : (guarded cs).head? = cs.head? := by
  unfold guarded
  split <;> rfl

theorem not_infix_guarded (cs : List Char) : ¬ closing <:+: guarded cs := by
  induction cs using guarded.induct with
  | case1 => decide
  | case2 rest ih => simpa [guarded, infix_cons_iff] using ih
  | case3 c rest hmark ih =>
    rw [guarded.eq_3 c rest hmark, infix_cons_iff, head?_guarded]
    rintro (⟨rfl, hslash⟩ | hrest)
    · obtain ⟨rest, rfl⟩ := List.head?_eq_some_iff.1 hslash
      exact hmark rest rfl rfl
    · exact ih hrest

theorem infix_indentation_append (level : Nat) :
    closing <:+: (indentation level).toList ++ rest ↔ closing <:+: rest := by
  rw [indentation, String.toList_ofList]
  induction 2 * level with
  | zero => rfl
  | succ n ih => simpa [List.replicate_succ, infix_cons_iff] using ih

theorem infix_lineText_append (line : String) :
    closing <:+: (lineText level line).toList ++ rest ↔ closing <:+: rest := by
  unfold lineText
  split
  · simp [infix_indentation_append, infix_cons_iff]
  · have hline : closing <:+: guarded line.toList ++ '\n' :: rest ↔ closing <:+: rest := by
      rw [infix_append_cons_iff (by decide), or_iff_right (not_infix_guarded line.toList)]
    simpa [infix_indentation_append, infix_cons_iff] using hline

theorem infix_lines_append (level : Nat) (lines : List String) :
    closing <:+: (String.join (lines.map (lineText level))).toList ++ rest ↔
      closing <:+: rest := by
  rw [String.toList_join]
  induction lines with
  | nil => rfl
  | cons line lines ih =>
    rw [List.map_cons, List.flatMap_cons, List.append_assoc, infix_lineText_append, ih]

/-- A doc comment without its last mark and the blank before it. -/
def unclosed (level : Nat) (d : Doc) : String :=
  indentation level ++ "/**\n" ++ String.join (d.lines.map (lineText level)) ++ indentation level

theorem toList_text (level : Nat) (d : Doc) :
    (d.text level).toList = (d.unclosed level).toList ++ ' ' :: closing ++ ['\n'] := by
  simp [text, unclosed, closing]

theorem not_infix_unclosed (level : Nat) (d : Doc) : ¬ closing <:+: (d.unclosed level).toList := by
  have hindent : ¬ closing <:+: (indentation level).toList ++ [] :=
    mt (infix_indentation_append level).1 (by decide)
  rw [List.append_nil] at hindent
  have hlines := mt (infix_lines_append level d.lines).1 hindent
  simpa [unclosed, infix_indentation_append, infix_cons_iff] using hlines

/-- A doc comment has the mark that ends it just once, at its end. Blanks and line feeds, which are
not in the mark, stand around every line, and a backslash stands in each such mark of a line. -/
theorem closing_occursOnce (level : Nat) (d : Doc) :
    OccursOnce closing ((d.unclosed level).toList ++ [' ']) ['\n'] (d.text level).toList := by
  rw [toList_text]
  exact occursOnce_between (by decide) (by decide) (not_infix_unclosed level d) (by decide)

end TypeScript.Doc

end ClientGen
