import ClientGen.Proofs.Text.Split
import ClientGen.Template

namespace ClientGen.Template

variable {c : Char} {cs name opened rest : List Char} {value value' : String → Option String}

theorem scanFrom_of_not_mem (h : '\x7d' ∉ rest) :
    scanFrom (some opened) rest = .char '\x7b' :: (opened.reverse ++ rest).map .char := by
  induction rest generalizing opened with
  | nil => simp [scanFrom]
  | cons c rest ih =>
    rw [List.mem_cons, not_or] at h
    rw [scanFrom, if_neg (Ne.symm h.1), ih h.2]
    simp

theorem scanFrom_append_cons (h : '\x7d' ∉ name) (rest : List Char) :
    scanFrom (some opened) (name ++ '\x7d' :: rest) =
      .placeholder (opened.reverse ++ name) :: scan rest := by
  induction name generalizing opened with
  | nil => simp [scanFrom, scan]
  | cons c name ih =>
    rw [List.mem_cons, not_or] at h
    rw [List.cons_append, scanFrom, if_neg (Ne.symm h.1), ih h.2]
    simp

theorem scan_char (h : c ≠ '\x7b') (rest : List Char) :
    scan (c :: rest) = .char c :: scan rest := by
  rw [scan, scanFrom, if_neg h]
  rfl

theorem scan_placeholder (h : '\x7d' ∉ name) (rest : List Char) :
    scan ('\x7b' :: (name ++ '\x7d' :: rest)) = .placeholder name :: scan rest := by
  rw [scan, scanFrom, if_pos rfl, scanFrom_append_cons h]
  rfl

theorem scan_unclosed (h : '\x7d' ∉ rest) :
    scan ('\x7b' :: rest) = .char '\x7b' :: rest.map .char := by
  rw [scan, scanFrom, if_pos rfl, scanFrom_of_not_mem h]
  rfl

/-- A text begins with a character, with a placeholder, or with a brace that is not closed. Every
fact about the pieces of a text goes through these cases. -/
@[elab_as_elim]
theorem scan_induction {motive : List Char → Prop} (nil : motive [])
    (char : ∀ c rest, c ≠ '\x7b' → motive rest → motive (c :: rest))
    (placeholder : ∀ name rest, '\x7d' ∉ name → motive rest →
      motive ('\x7b' :: (name ++ '\x7d' :: rest)))
    (unclosed : ∀ rest, '\x7d' ∉ rest → motive ('\x7b' :: rest)) (cs : List Char) :
    motive cs := by
  match cs with
  | [] => exact nil
  | c :: rest =>
    by_cases hc : c = '\x7b'
    · subst hc
      by_cases hclose : '\x7d' ∈ rest
      · obtain ⟨name, after, hrest, hname⟩ := List.eq_append_cons_of_mem hclose
        have hshorter : after.length < rest.length := by simp [hrest]; omega
        rw [hrest]
        exact placeholder name after hname (scan_induction nil char placeholder unclosed after)
      · exact unclosed rest hclose
    · exact char c rest hc (scan_induction nil char placeholder unclosed rest)
termination_by cs.length
decreasing_by all_goals simp only [List.length_cons]; omega

theorem flatMap_written (cs : List Char) : (scan cs).flatMap Piece.written = cs := by
  induction cs using scan_induction with
  | nil => rfl
  | char c rest hc ih => rw [scan_char hc, List.flatMap_cons, ih]; rfl
  | placeholder name rest hname ih =>
    rw [scan_placeholder hname, List.flatMap_cons, ih]
    simp [Piece.written]
  | unclosed rest hrest =>
    rw [scan_unclosed hrest, List.flatMap_cons, List.flatMap_map]
    exact congrArg ('\x7b' :: ·) (List.flatMap_singleton' rest)

/-- Every opening brace of the text is closed. -/
def Closed (cs : List Char) : Prop := .char '\x7b' ∉ scan cs

instance (cs : List Char) : Decidable (Closed cs) :=
  inferInstanceAs (Decidable (.char '\x7b' ∉ scan cs))

theorem scan_append (h : Closed cs) (rest : List Char) :
    scan (cs ++ rest) = scan cs ++ scan rest := by
  rw [Closed] at h
  induction cs using scan_induction with
  | nil => rfl
  | char c cs hc ih =>
    rw [scan_char hc, List.mem_cons, not_or] at h
    rw [List.cons_append, scan_char hc, scan_char hc, ih h.2, List.cons_append]
  | placeholder name cs hname ih =>
    rw [scan_placeholder hname, List.mem_cons, not_or] at h
    rw [List.cons_append, List.append_assoc, List.cons_append, scan_placeholder hname,
      scan_placeholder hname, ih h.2, List.cons_append]
  | unclosed cs hcs =>
    rw [scan_unclosed hcs] at h
    exact absurd List.mem_cons_self h

def Piece.filled (value : String → Option String) : Piece → List Char
  | .char c => [c]
  | .placeholder name =>
    match value (String.ofList name) with
    | some text => text.toList
    | none => (Piece.placeholder name).written

/-- A text in which each placeholder that has a value is replaced by it, all at once. -/
def fill (value : String → Option String) (cs : List Char) : List Char :=
  (scan cs).flatMap (Piece.filled value)

theorem fill_char (h : c ≠ '\x7b') (rest : List Char) :
    fill value (c :: rest) = c :: fill value rest := by
  rw [fill, scan_char h, List.flatMap_cons]
  rfl

theorem fill_placeholder (h : '\x7d' ∉ name) (rest : List Char) :
    fill value ('\x7b' :: (name ++ '\x7d' :: rest)) =
      (Piece.placeholder name).filled value ++ fill value rest := by
  rw [fill, scan_placeholder h, List.flatMap_cons]
  rfl

theorem fill_eq_self
    (h : ∀ name, .placeholder name ∈ scan cs → value (String.ofList name) = none) :
    fill value cs = cs := by
  have hwritten : ∀ p ∈ scan cs, p.filled value = p.written := by
    intro p hp
    cases p with
    | char c => rfl
    | placeholder name => rw [Piece.filled, h name hp]
  rw [fill, List.flatMap_def, List.map_congr_left hwritten, ← List.flatMap_def, flatMap_written]

theorem fill_unclosed (h : '\x7d' ∉ rest) : fill value ('\x7b' :: rest) = '\x7b' :: rest := by
  apply fill_eq_self
  intro name hname
  rw [scan_unclosed h] at hname
  simp at hname

def Piece.scanned (value : String → Option String) : Piece → List Piece
  | .char c => [.char c]
  | .placeholder name =>
    match value (String.ofList name) with
    | some text => scan text.toList
    | none => [.placeholder name]

/-- Closed values are scanned apart from what stands around them. -/
theorem scan_fill (h : ∀ name text, value name = some text → Closed text.toList)
    (cs : List Char) : scan (fill value cs) = (scan cs).flatMap (Piece.scanned value) := by
  induction cs using scan_induction with
  | nil => rfl
  | char c rest hc ih => rw [fill_char hc, scan_char hc, scan_char hc, List.flatMap_cons, ih]; rfl
  | placeholder name rest hname ih =>
    rw [fill_placeholder hname, scan_placeholder hname, List.flatMap_cons, ← ih, Piece.filled,
      Piece.scanned]
    cases hvalue : value (String.ofList name) with
    | none =>
      have hwritten : (Piece.placeholder name).written ++ fill value rest =
          '\x7b' :: (name ++ '\x7d' :: fill value rest) := by simp [Piece.written]
      dsimp only
      rw [hwritten, scan_placeholder hname]
      rfl
    | some text => exact scan_append (h _ _ hvalue) _
  | unclosed rest hrest =>
    have hchars : (rest.map Piece.char).flatMap (Piece.scanned value) = rest.map Piece.char := by
      rw [List.flatMap_map, List.map_eq_flatMap]
      rfl
    rw [fill_unclosed hrest, scan_unclosed hrest, List.flatMap_cons, hchars]
    rfl

/-- The values of placeholders that are filled once more. -/
def refill (value value' : String → Option String) (name : String) : Option String :=
  match value name with
  | some text => some (String.ofList (fill value' text.toList))
  | none => value' name

/-- To fill a text twice is to fill it once with filled values. -/
theorem fill_fill (h : ∀ name text, value name = some text → Closed text.toList)
    (cs : List Char) : fill value' (fill value cs) = fill (refill value value') cs := by
  rw [fill, scan_fill h, List.flatMap_assoc, fill]
  congr 1
  funext p
  cases p with
  | char c => rfl
  | placeholder name =>
    simp only [Piece.scanned, Piece.filled, refill]
    cases value (String.ofList name) with
    | none => simp [Piece.filled]
    | some text => simp [fill]

end ClientGen.Template
