import ClientGen.Proofs.Template.Replace
import ClientGen.TypeScript.Module

namespace ClientGen

namespace Text

variable {c : Char} {cs rest : List Char}

def escape? : Char → Option Char
  | '\\' => some '\\'
  | '"' => some '"'
  | 'n' => some '\n'
  | 'r' => some '\r'
  | 't' => some '\t'
  | _ => none

/-- Read the inside of a double-quoted literal: the text that it denotes up to the first quote that
is not escaped, and what stands from that quote on. -/
def readQuoted? : List Char → Option (List Char × List Char)
  | [] => some ([], [])
  | '"' :: rest => some ([], '"' :: rest)
  | '\n' :: _ | '\r' :: _ | ['\\'] => none
  | '\\' :: c :: rest =>
    (escape? c).bind fun d => (readQuoted? rest).map fun read => (d :: read.1, read.2)
  | c :: rest => (readQuoted? rest).map fun read => (c :: read.1, read.2)

theorem readQuoted?_quotedForm_append (c : Char) (rest : List Char) :
    readQuoted? (quotedForm c ++ rest) =
      (readQuoted? rest).map fun read => (c :: read.1, read.2) := by
  unfold quotedForm
  split
  · rfl
  · rfl
  · rfl
  · rfl
  · rfl
  · next hslash hquote hfeed hreturn _ =>
    rw [List.singleton_append]
    conv_lhs => unfold readQuoted?
    split <;> simp_all

theorem readQuoted?_escapeQuoted_append (cs rest : List Char) :
    readQuoted? (escapeQuoted cs ++ rest) =
      (readQuoted? rest).map fun read => (cs ++ read.1, read.2) := by
  induction cs with
  | nil => simp [escapeQuoted]
  | cons c cs ih =>
    have hcons : escapeQuoted (c :: cs) = quotedForm c ++ escapeQuoted cs := rfl
    rw [hcons, List.append_assoc, readQuoted?_quotedForm_append, ih, Option.map_map]
    rfl

theorem not_mem_escapeQuoted (h : ∀ d, c ∉ quotedForm d) : c ∉ escapeQuoted cs := by
  intro hc
  obtain ⟨d, -, hd⟩ := List.mem_flatMap.1 hc
  exact h d hd

theorem feed_not_mem_quotedForm (c : Char) : '\n' ∉ quotedForm c ∧ '\r' ∉ quotedForm c := by
  unfold quotedForm
  split <;> simp_all [eq_comm]

theorem readQuoted?_escapeQuoted (cs : List Char) :
    readQuoted? (escapeQuoted cs) = some (cs, []) := by
  have hread := readQuoted?_escapeQuoted_append cs []
  rwa [List.append_nil, readQuoted?, Option.map_some, List.append_nil] at hread

def readString? : List Char → Option (String × List Char)
  | '"' :: inside =>
    match readQuoted? inside with
    | some (cs, '"' :: rest) => some (String.ofList cs, rest)
    | _ => none
  | _ => none

theorem readString?_quoted (s : String) (rest : List Char) :
    readString? ((quoted s).toList ++ rest) = some (s, rest) := by
  have hread :
      readQuoted? (escapeQuoted s.toList ++ '"' :: rest) = some (s.toList, '"' :: rest) := by
    rw [readQuoted?_escapeQuoted_append]
    simp [readQuoted?]
  have hliteral : (quoted s).toList ++ rest = '"' :: (escapeQuoted s.toList ++ '"' :: rest) := by
    simp [quoted]
  rw [hliteral, readString?, hread]
  simp

/-- Read the inside of a template literal, where a backslash takes the next character as it is: the
text up to the first backtick or opening of a substitution, and what stands from there on. -/
def readTemplate : List Char → List Char × List Char
  | [] => ([], [])
  | '\\' :: c :: rest => (c :: (readTemplate rest).1, (readTemplate rest).2)
  | '`' :: rest => ([], '`' :: rest)
  | '$' :: '\x7b' :: rest => ([], '$' :: '\x7b' :: rest)
  | c :: rest => (c :: (readTemplate rest).1, (readTemplate rest).2)

theorem readTemplate_cons (hslash : c ≠ '\\') (htick : c ≠ '`')
    (hopen : ¬ (c = '$' ∧ rest.head? = some '\x7b')) :
    readTemplate (c :: rest) = (c :: (readTemplate rest).1, (readTemplate rest).2) := by
  conv_lhs => unfold readTemplate
  split <;> simp_all

theorem head?_escapeTemplate_append (hrest : rest.head? ≠ some '\x7b')
    (h : (escapeTemplate cs ++ rest).head? = some '\x7b') : cs.head? = some '\x7b' := by
  fun_cases escapeTemplate cs <;> simp_all [escapeTemplate]

theorem readTemplate_escapeTemplate_append (hrest : rest.head? ≠ some '\x7b') :
    readTemplate (escapeTemplate cs ++ rest) =
      (cs ++ (readTemplate rest).1, (readTemplate rest).2) := by
  fun_induction escapeTemplate cs with
  | case1 => rfl
  | case2 cs ih =>
    have hbrace : readTemplate ('\x7b' :: (escapeTemplate cs ++ rest)) = _ :=
      readTemplate_cons (by decide) (by decide) (by simp)
    simp only [List.cons_append, readTemplate, hbrace, ih]
  | case3 c cs hopen hc ih => simp only [List.cons_append, readTemplate, ih]
  | case4 c cs hopen hc ih =>
    obtain ⟨hslash, htick⟩ := not_or.1 hc
    -- Escaping puts no brace behind a dollar, so one that stood there would have been escaped.
    have hplain : ¬ (c = '$' ∧ (escapeTemplate cs ++ rest).head? = some '\x7b') := by
      rintro ⟨rfl, hhead⟩
      obtain ⟨more, rfl⟩ := List.head?_eq_some_iff.1 (head?_escapeTemplate_append hrest hhead)
      exact hopen more rfl rfl
    rw [List.cons_append, readTemplate_cons hslash htick hplain, ih]
    rfl

theorem readTemplate_escapeTemplate (cs : List Char) :
    readTemplate (escapeTemplate cs) = (cs, []) := by
  have hread : readTemplate (escapeTemplate cs ++ []) = _ :=
    readTemplate_escapeTemplate_append (by decide)
  rwa [List.append_nil, readTemplate, List.append_nil] at hread

section Passes

theorem replaceAll_singleton (c : Char) (new cs : List Char) :
    replaceAll [c] new cs = cs.flatMap fun d => if d = c then new else [d] := by
  induction cs with
  | nil => rfl
  | cons d cs ih =>
    rw [List.flatMap_cons, ← ih]
    split
    · next hd => exact hd ▸ replaceAll_append (List.cons_ne_nil d []) cs
    · next hd =>
      have habsent : ¬ [c] <+: d :: cs := fun h => hd (List.cons_prefix_cons.1 h).1.symm
      exact replaceAll_cons habsent

/-- A character with a backslash before it if it is a backslash or a backtick. -/
def marked (c : Char) : List Char := if c = '\\' ∨ c = '`' then ['\\', c] else [c]

theorem marked_passes (cs : List Char) :
    replaceAll ['`'] ['\\', '`'] (replaceAll ['\\'] ['\\', '\\'] cs) = cs.flatMap marked := by
  rw [replaceAll_singleton, replaceAll_singleton, List.flatMap_assoc]
  refine List.flatMap_congr fun c _ => ?_
  by_cases hslash : c = '\\'
  · subst hslash
    rfl
  · by_cases htick : c = '`' <;> simp [marked, hslash, htick]

theorem head?_flatMap_marked (h : (cs.flatMap marked).head? = some '\x7b') :
    cs.head? = some '\x7b' := by
  cases cs with
  | nil => cases h
  | cons c cs =>
    rw [List.flatMap_cons, marked] at h
    split at h
    · cases h
    · exact h

theorem replaceAll_open_cons (h : ¬ (c = '$' ∧ cs.head? = some '\x7b')) :
    replaceAll ['$', '\x7b'] ['\\', '$', '\x7b'] (c :: cs) =
      c :: replaceAll ['$', '\x7b'] ['\\', '$', '\x7b'] cs := by
  apply replaceAll_cons
  rintro ⟨more, hmore⟩
  cases hmore
  exact h ⟨rfl, rfl⟩

/-- The mark of one pass is not found in what another one has put in. -/
theorem escapeTemplate_eq_passes (cs : List Char) : escapeTemplate cs =
    replaceAll ['$', '\x7b'] ['\\', '$', '\x7b']
      (replaceAll ['`'] ['\\', '`'] (replaceAll ['\\'] ['\\', '\\'] cs)) := by
  rw [marked_passes]
  fun_induction escapeTemplate cs with
  | case1 => rfl
  | case2 cs ih =>
    have hsplit : ('$' :: '\x7b' :: cs).flatMap marked = ['$', '\x7b'] ++ cs.flatMap marked := by
      simp [marked]
    rw [ih, hsplit, replaceAll_append (List.cons_ne_nil '$' ['\x7b'])]
    rfl
  | case3 c cs hopen hc ih =>
    have hdollar : c ≠ '$' := by rcases hc with rfl | rfl <;> decide
    rw [List.flatMap_cons, marked, if_pos hc, List.cons_append, List.singleton_append,
      replaceAll_open_cons fun h => absurd h.1 (by decide),
      replaceAll_open_cons fun h => hdollar h.1, ih]
  | case4 c cs hopen hc ih =>
    rw [List.flatMap_cons, marked, if_neg hc, List.singleton_append, ih, replaceAll_open_cons]
    rintro ⟨rfl, hbrace⟩
    obtain ⟨more, rfl⟩ := List.head?_eq_some_iff.1 (head?_flatMap_marked hbrace)
    exact hopen more rfl rfl

end Passes

end Text

open Text

variable {c : Char} {rest : List Char}

namespace Identifier

/-- Read a property key at the start of a text: a double-quoted literal, or a bare key. -/
def readKey? (cs : List Char) : Option (String × List Char) :=
  if cs.head? = some '"' then readString? cs
  else
    let name := cs.takeWhile isContinue
    if isBareKey name then some (String.ofList name, cs.dropWhile isContinue) else none

theorem readKey?_bare {cs : List Char} (h : isBareKey cs = true) (hc : isContinue c = false) :
    readKey? (cs ++ c :: rest) = some (String.ofList cs, c :: rest) := by
  cases cs with
  | nil => cases h
  | cons first cs =>
    have hparts := h
    rw [isBareKey, Bool.and_eq_true, List.all_eq_true] at hparts
    obtain ⟨hstart, hall⟩ := hparts
    have hquote : (first :: cs ++ c :: rest).head? ≠ some '"' := by
      rintro hhead
      cases hhead
      exact absurd hstart (by decide)
    have hstop : ¬ isContinue c = true := Bool.eq_false_iff.1 hc
    rw [readKey?, if_neg hquote, List.takeWhile_append_of_pos hall,
      List.dropWhile_append_of_pos hall, List.takeWhile_cons_of_neg hstop,
      List.dropWhile_cons_of_neg hstop, List.append_nil]
    exact if_pos h

theorem readKey?_key (name : String) (hc : isContinue c = false) :
    readKey? ((key name).toList ++ c :: rest) = some (name, c :: rest) := by
  unfold key
  split
  · next hbare => rw [readKey?_bare hbare hc, String.ofList_toList]
  · have hquote : ((quoted name).toList ++ c :: rest).head? = some '"' := by simp [quoted]
    rw [readKey?, if_pos hquote, readString?_quoted]

end Identifier

namespace TypeScript

def Import.source : Import → String
  | .all _ source | .passOn _ source => source

def Import.lead : Import → String
  | .all name _ => "import * as " ++ name ++ " from "
  | .passOn names _ => "export \x7b " ++ ", ".intercalate names ++ " \x7d from "

theorem Import.text_eq (i : Import) : i.text = i.lead ++ (quoted i.source ++ ";\n") := by
  cases i <;> simp [text, lead, source, String.append_assoc]

/-- Literals are read back as the texts that they are written for: those in double quotes and those
that are parts of templates, as keys and as names of modules too. -/
theorem literals_readBack :
    (∀ cs, '\n' ∉ escapeQuoted cs ∧ '\r' ∉ escapeQuoted cs ∧
      readQuoted? (escapeQuoted cs) = some (cs, [])) ∧
    (∀ s rest, readString? ((Literal.text s).render.toList ++ rest) = some (s, rest)) ∧
    (∀ name c rest, Identifier.isContinue c = false →
      Identifier.readKey? ((Identifier.key name).toList ++ c :: rest) = some (name, c :: rest)) ∧
    (∀ i : Import, ∃ path, i.text = i.lead ++ path ∧
      readString? path.toList = some (i.source, [';', '\n'])) ∧
    ∀ cs, escapeTemplate cs = replaceAll ['$', '\x7b'] ['\\', '$', '\x7b']
        (replaceAll ['`'] ['\\', '`'] (replaceAll ['\\'] ['\\', '\\'] cs)) ∧
      readTemplate (escapeTemplate cs) = (cs, []) ∧
      ∀ rest, readTemplate (escapeTemplate cs ++ '`' :: rest) = (cs, '`' :: rest) ∧
        readTemplate (escapeTemplate cs ++ '$' :: '\x7b' :: rest) =
          (cs, '$' :: '\x7b' :: rest) := by
  refine ⟨fun cs => ⟨?_, ?_, readQuoted?_escapeQuoted cs⟩, readString?_quoted,
    fun name c rest => Identifier.readKey?_key name, fun i => ⟨_, i.text_eq, ?_⟩,
    fun cs => ⟨escapeTemplate_eq_passes cs, readTemplate_escapeTemplate cs, fun rest => ⟨?_, ?_⟩⟩⟩
  · exact not_mem_escapeQuoted fun d => (feed_not_mem_quotedForm d).1
  · exact not_mem_escapeQuoted fun d => (feed_not_mem_quotedForm d).2
  · rw [String.toList_append]
    exact readString?_quoted i.source _
  · rw [readTemplate_escapeTemplate_append (by simp), readTemplate, List.append_nil]
  · rw [readTemplate_escapeTemplate_append (by simp), readTemplate, List.append_nil]

theorem literals_readBack_marks :
    Identifier.isContinue ':' = false ∧
    Identifier.readKey? "\"a \\\"b\\\"\": string".toList = some ("a \"b\"", ": string".toList) ∧
    readTemplate "\\\\\\$\x7b\\`$$\x7bid\x7d".toList =
      ("\\$\x7b`$".toList, "$\x7bid\x7d".toList) := by
  obtain ⟨-, -, hkey, -, htemplate⟩ := literals_readBack
  obtain ⟨-, -, hafter⟩ := htemplate "\\$\x7b`$".toList
  have hstop : Identifier.isContinue ':' = false := by decide
  exact ⟨hstop, hkey "a \"b\"" ':' " string".toList hstop, (hafter "id\x7d".toList).2⟩

end TypeScript

end ClientGen
