import ClientGen.Proofs.Template.Scan
import Mathlib.Data.List.Chain

namespace ClientGen.Template

open TypeScript (Expr Part)

/-- The placeholders of a text: one from the leftmost opening brace to the nearest closing one after
it, and those of what follows. -/
inductive HasPlaceholders : List Char → List (List Char) → Prop where
  | last {cs} (h : ∀ before name after, cs ≠ before ++ '\x7b' :: (name ++ '\x7d' :: after)) :
    HasPlaceholders cs []
  | next {before name after names} (hbefore : '\x7b' ∉ before) (hname : '\x7d' ∉ name)
      (h : HasPlaceholders after names) :
    HasPlaceholders (before ++ '\x7b' :: (name ++ '\x7d' :: after)) (name :: names)

variable {c : Char} {cs before name rest text : List Char} {names : List (List Char)}
  {resolve : String → Option Expr} {ps : List Part}

theorem HasPlaceholders.cons (hc : c ≠ '\x7b') (h : HasPlaceholders rest names) :
    HasPlaceholders (c :: rest) names := by
  cases h with
  | last hnone =>
    apply HasPlaceholders.last
    intro before name after heq
    cases before with
    | nil => exact hc (List.cons.inj heq).1
    | cons b before => exact hnone before name after (List.cons.inj heq).2
  | @next before name after more hbefore hname hafter =>
    have hmem : '\x7b' ∉ c :: before := List.not_mem_cons_of_ne_of_not_mem (Ne.symm hc) hbefore
    exact .next hmem hname hafter

theorem HasPlaceholders.unclosed (h : '\x7d' ∉ rest) : HasPlaceholders ('\x7b' :: rest) [] := by
  apply HasPlaceholders.last
  intro before name after heq
  have hmem : '\x7d' ∈ '\x7b' :: rest := by simp [heq]
  simp [h] at hmem

def Piece.name? : Piece → Option (List Char)
  | .char _ => none
  | .placeholder name => some name

def placeholders (cs : List Char) : List (List Char) := (scan cs).filterMap Piece.name?

theorem placeholders_char (h : c ≠ '\x7b') (rest : List Char) :
    placeholders (c :: rest) = placeholders rest := by
  rw [placeholders, scan_char h]
  rfl

theorem placeholders_placeholder (h : '\x7d' ∉ name) (rest : List Char) :
    placeholders ('\x7b' :: (name ++ '\x7d' :: rest)) = name :: placeholders rest := by
  rw [placeholders, scan_placeholder h]
  rfl

theorem placeholders_unclosed (h : '\x7d' ∉ rest) : placeholders ('\x7b' :: rest) = [] := by
  rw [placeholders, scan_unclosed h]
  simp [Piece.name?]

theorem placeholders_append (h : '\x7b' ∉ before) (rest : List Char) :
    placeholders (before ++ rest) = placeholders rest := by
  induction before with
  | nil => rfl
  | cons c before ih =>
    rw [List.mem_cons, not_or] at h
    rw [List.cons_append, placeholders_char (Ne.symm h.1), ih h.2]

theorem hasPlaceholders_scanned (cs : List Char) : HasPlaceholders cs (placeholders cs) := by
  induction cs using scan_induction with
  | nil => exact .last fun before name after => by simp
  | char c rest hc ih => exact placeholders_char hc rest ▸ ih.cons hc
  | placeholder name rest hname ih =>
    rw [placeholders_placeholder hname]
    exact .next List.not_mem_nil hname ih
  | unclosed rest hrest => exact placeholders_unclosed hrest ▸ .unclosed hrest

theorem HasPlaceholders.unique (h : HasPlaceholders cs names) : names = placeholders cs := by
  induction h with
  | @last cs hnone =>
    have hscanned := hasPlaceholders_scanned cs
    generalize placeholders cs = names at hscanned ⊢
    cases hscanned with
    | last => rfl
    | next => exact absurd rfl (hnone _ _ _)
  | next hbefore hname _ ih =>
    rw [placeholders_append hbefore, placeholders_placeholder hname, ih]

def substitution? : Part → Option Expr
  | .fixed _ => none
  | .substitution e => some e

def substitutions (ps : List Part) : List Expr := ps.filterMap substitution?

/-- The text of parts where placeholders are written for the substitutions, one after the other. -/
def written : List Part → List (List Char) → List Char
  | [], _ => []
  | .fixed text :: ps, names => text.toList ++ written ps names
  | .substitution _ :: ps, name :: names => (Piece.placeholder name).written ++ written ps names
  | .substitution _ :: _, [] => []

/-- No fixed part is empty or next to another one. -/
structure Tight (ps : List Part) : Prop where
  nonempty : .fixed "" ∉ ps
  apart : ps.IsChain fun p q => substitution? p ≠ none ∨ substitution? q ≠ none

theorem tight_nil : Tight [] := ⟨List.not_mem_nil, .nil⟩

theorem Tight.substitution (h : Tight ps) (e : Expr) : Tight (.substitution e :: ps) where
  nonempty := by simp [h.nonempty]
  apart := List.isChain_cons.2 ⟨fun _ _ => .inl (Option.some_ne_none e), h.apart⟩

theorem Tight.fixed {text : String} (h : Tight ps) (htext : text ≠ "")
    (hhead : ∀ p ∈ ps.head?, substitution? p ≠ none) : Tight (.fixed text :: ps) where
  nonempty := by simp [h.nonempty, htext.symm]
  apart := List.isChain_cons.2 ⟨fun p hp => .inr (hhead p hp), h.apart⟩

theorem Tight.prepend (h : Tight ps) (htext : text ≠ []) : Tight (prepend text ps) := by
  have hne : String.ofList text ≠ "" := by simpa using htext
  cases ps with
  | nil => exact h.fixed hne fun p hp => by cases hp
  | cons part ps =>
    obtain ⟨hhead, hrest⟩ := List.isChain_cons.1 h.apart
    cases part with
    | substitution e =>
      apply h.fixed hne
      intro p hp
      cases hp
      exact Option.some_ne_none e
    | fixed more =>
      -- The text becomes the beginning of this part, which has the same part behind it as before.
      have hps : Tight ps := ⟨fun hmem => h.nonempty (List.mem_cons_of_mem _ hmem), hrest⟩
      have hjoined : String.ofList text ++ more ≠ "" := by simp [hne]
      apply hps.fixed hjoined
      intro p hp
      exact (hhead p hp).resolve_left fun hfixed => hfixed rfl

theorem substitutions_prepend (text : List Char) (ps : List Part) :
    substitutions (prepend text ps) = substitutions ps := by
  cases ps with
  | nil => rfl
  | cons part ps => cases part <;> rfl

theorem written_prepend (text : List Char) (ps : List Part) (names : List (List Char)) :
    written (prepend text ps) names = text ++ written ps names := by
  cases ps with
  | nil => simp [prepend, written]
  | cons part ps => cases part <;> simp [prepend, written]

theorem tight_parts (resolve : String → Option Expr) (pieces : List Piece) :
    Tight (parts resolve pieces) := by
  induction pieces with
  | nil => exact tight_nil
  | cons piece rest ih =>
    cases piece with
    | char c => exact ih.prepend (List.cons_ne_nil c [])
    | placeholder name =>
      rw [parts]
      cases resolve (String.ofList name) with
      | none => exact ih.prepend (List.cons_ne_nil _ _)
      | some e => exact ih.substitution e

theorem substitutions_parts (resolve : String → Option Expr) (pieces : List Piece) :
    substitutions (parts resolve pieces) =
      (pieces.filterMap Piece.name?).filterMap fun name => resolve (String.ofList name) := by
  induction pieces with
  | nil => rfl
  | cons piece rest ih =>
    cases piece with
    | char c =>
      rw [parts, substitutions_prepend, ih]
      rfl
    | placeholder name =>
      rw [parts, List.filterMap_cons_some (f := Piece.name?) rfl, List.filterMap_cons]
      cases resolve (String.ofList name) with
      | none => exact (substitutions_prepend _ _).trans ih
      | some e => exact congrArg (e :: ·) ih

/-- The names that stand for an expression. -/
def resolved (resolve : String → Option Expr) (names : List (List Char)) : List (List Char) :=
  names.filter fun name => (resolve (String.ofList name)).isSome

theorem written_parts (resolve : String → Option Expr) (pieces : List Piece) :
    written (parts resolve pieces) (resolved resolve (pieces.filterMap Piece.name?)) =
      pieces.flatMap Piece.written := by
  induction pieces with
  | nil => rfl
  | cons piece rest ih =>
    cases piece with
    | char c =>
      rw [parts, written_prepend, List.filterMap_cons_none (f := Piece.name?) rfl, ih]
      rfl
    | placeholder name =>
      rw [parts, List.filterMap_cons_some (f := Piece.name?) rfl, List.flatMap_cons, ← ih, resolved,
        List.filter_cons]
      cases resolve (String.ofList name) with
      | none => exact written_prepend _ _ _
      | some e => rfl

theorem ofParts_eq_string (h : Tight ps) (hnone : substitutions ps = []) :
    ofParts ps = .string (String.ofList (written ps [])) := by
  match ps with
  | [] => rfl
  | [.fixed text] => simp [ofParts, written]
  | .substitution e :: rest => cases hnone
  | .fixed text :: .substitution e :: rest => cases hnone
  | .fixed text :: .fixed more :: rest =>
    have hapart := (List.isChain_cons_cons.1 h.apart).1
    simp [substitution?] at hapart

theorem ofParts_eq_template (h : substitutions ps ≠ []) : ofParts ps = .template ps := by
  match ps with
  | [] => exact absurd rfl h
  | [.fixed text] => exact absurd rfl h
  | [.substitution e] => rfl
  | first :: second :: rest => simp [ofParts]

/-- The template literal for a text has substitutions for just the placeholders that stand for an
expression, in the order in which they are found, and is the text where these are written instead.
It is a string literal, of the text, if there are none. -/
theorem expr_lossless (resolve : String → Option Expr) (source : String) :
    (∀ names, HasPlaceholders source.toList names ↔ names = placeholders source.toList) ∧
    (expr resolve source = .string source ↔
      ∀ name ∈ placeholders source.toList, resolve (String.ofList name) = none) ∧
    (expr resolve source = .string source ∨
      ∃ ps, expr resolve source = .template ps ∧ Tight ps ∧
        written ps (resolved resolve (placeholders source.toList)) = source.toList ∧
        substitutions ps =
          (placeholders source.toList).filterMap fun name => resolve (String.ofList name)) := by
  have hwritten := written_parts resolve (scan source.toList)
  have hsubstitutions := substitutions_parts resolve (scan source.toList)
  rw [flatMap_written, ← placeholders] at hwritten
  rw [← placeholders] at hsubstitutions
  refine ⟨fun names => ⟨HasPlaceholders.unique, fun h => h ▸ hasPlaceholders_scanned _⟩, ?_⟩
  by_cases hnone : ∀ name ∈ placeholders source.toList, resolve (String.ofList name) = none
  · have hempty := hsubstitutions.trans (List.filterMap_eq_nil_iff.2 hnone)
    have hresolved : resolved resolve (placeholders source.toList) = [] :=
      List.filter_eq_nil_iff.2 fun name hname => by simp [hnone name hname]
    have hexpr : expr resolve source = .string source := by
      rw [expr, ofParts_eq_string (tight_parts resolve _) hempty, ← hresolved, hwritten,
        String.ofList_toList]
    exact ⟨iff_of_true hexpr hnone, .inl hexpr⟩
  · have hne := hsubstitutions ▸ mt List.filterMap_eq_nil_iff.1 hnone
    have hexpr := ofParts_eq_template hne
    rw [← expr] at hexpr
    refine ⟨iff_of_false (fun h => ?_) hnone,
      .inr ⟨_, hexpr, tight_parts resolve _, hwritten, hsubstitutions⟩⟩
    cases hexpr.symm.trans h

def photoPath : String := "/pets/\x7bpetId\x7d/photos/\x7bphoto\x7d/raw"

def petValue? (name : String) : Option Expr :=
  if name = "petId" then some (.name "petId") else none

theorem expr_lossless_photoPath :
    HasPlaceholders photoPath.toList ["petId".toList, "photo".toList] ∧
    ∃ ps, expr petValue? photoPath = .template ps ∧ Tight ps ∧
      written ps ["petId".toList] = photoPath.toList ∧ substitutions ps = [.name "petId"] := by
  obtain ⟨hscanned, hstring, hexpr⟩ := expr_lossless petValue? photoPath
  have hnames : placeholders photoPath.toList = ["petId".toList, "photo".toList] := by
    decide +kernel
  have hresolved : resolved petValue? ["petId".toList, "photo".toList] = ["petId".toList] := by
    decide +kernel
  have hvalues : ["petId".toList, "photo".toList].filterMap
      (fun name => petValue? (String.ofList name)) = [.name "petId"] := by simp [petValue?]
  rw [hnames] at hscanned hstring hexpr
  rw [hresolved, hvalues] at hexpr
  have hne : expr petValue? photoPath ≠ .string photoPath := by
    intro h
    have hnone := List.filterMap_eq_nil_iff.2 (hstring.1 h)
    cases hvalues.symm.trans hnone
  exact ⟨(hscanned _).2 rfl, hexpr.resolve_left hne⟩

end ClientGen.Template
