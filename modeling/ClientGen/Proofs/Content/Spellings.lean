import ClientGen.Proofs.Text.CaseClasses
import ClientGen.Proofs.Text.Occurs
import ClientGen.Proofs.Text.Split

namespace ClientGen

namespace Content

open Text (isBlank)

/-- Whether a character can stand in the type or the subtype of a media type. -/
def isPartChar (c : Char) : Bool := c ≠ '/' && c ≠ ';' && !isBlank c

theorem isPartChar_of_isAlpha {c : Char} (h : c.isAlpha = true) : isPartChar c = true := by
  have hletters : ∀ n < 123, 65 ≤ n → Text.inTable Text.blankRows n = false := by decide
  have hbounds := Text.codes_of_isAlpha h
  have hblank : isBlank c = false := hletters c.toNat (by omega) (by omega)
  have hslash : c ≠ '/' := by
    rintro rfl
    exact absurd h (by decide)
  have hsemicolon : c ≠ ';' := by
    rintro rfl
    exact absurd h (by decide)
  simp [isPartChar, hblank, hslash, hsemicolon]

theorem toLower_cases (c : Char) :
    c.isUpper = false ∧ c.toLower = c ∨
      c.isUpper = true ∧ c.toLower.isUpper = false ∧ c.toLower.isLower = true := by
  by_cases h : 'A'.val ≤ c.val ∧ c.val ≤ 'Z'.val
  · have hcodes : 65 ≤ c.val.toNat ∧ c.val.toNat ≤ 90 :=
      ⟨UInt32.le_iff_toNat_le.1 h.1, UInt32.le_iff_toNat_le.1 h.2⟩
    have hmoved : c.toLower.val = c.val + ('a'.val - 'A'.val) := congrArg Char.val (dif_pos h)
    have hcode : c.toLower.val.toNat = c.val.toNat + 32 := by
      have hfits : c.val.toNat + 32 < 2 ^ 32 := by omega
      rw [hmoved, UInt32.toNat_add]
      exact Nat.mod_eq_of_lt hfits
    have hafter : ¬ c.toLower.val ≤ 'Z'.val := by
      rw [UInt32.le_iff_toNat_le, hcode]
      exact Nat.not_le.2 (Nat.lt_of_lt_of_le (by decide) (Nat.add_le_add_right hcodes.1 32))
    have hlower : 97 ≤ c.toLower.val.toNat ∧ c.toLower.val.toNat ≤ 122 := by omega
    refine .inr ⟨decide_eq_true h, decide_eq_false fun hupper => hafter hupper.2, ?_⟩
    exact Bool.and_eq_true_iff.2 ⟨decide_eq_true (UInt32.le_iff_toNat_le.2 hlower.1),
      decide_eq_true (UInt32.le_iff_toNat_le.2 hlower.2)⟩
  · exact .inl ⟨decide_eq_false h, dif_neg h⟩

theorem isUpper_toLower (c : Char) : c.toLower.isUpper = false := by
  rcases toLower_cases c with ⟨h, hc⟩ | ⟨-, h, -⟩
  · rwa [hc]
  · exact h

theorem isPartChar_toLower {c : Char} (h : isPartChar c = true) : isPartChar c.toLower = true := by
  rcases toLower_cases c with ⟨-, hc⟩ | ⟨-, -, hlower⟩
  · rwa [hc]
  · exact isPartChar_of_isAlpha (Bool.or_eq_true_iff.2 (.inr hlower))

def IsPart (cs : List Char) : Prop := cs ≠ [] ∧ cs.all isPartChar = true

instance (cs : List Char) : Decidable (IsPart cs) := inferInstanceAs (Decidable (_ ∧ _))

theorem IsPart.isPartChar {cs : List Char} {c : Char} (h : IsPart cs) (hc : c ∈ cs) :
    isPartChar c = true :=
  List.all_eq_true.1 h.2 c hc

theorem IsPart.lowerAscii {cs : List Char} (h : IsPart cs) : IsPart (lowerAscii cs) := by
  refine ⟨mt List.map_eq_nil_iff.1 h.1, List.all_eq_true.2 fun c hc => ?_⟩
  obtain ⟨d, hd, rfl⟩ := List.mem_map.1 hc
  exact isPartChar_toLower (h.isPartChar hd)

theorem IsPart.not_mem {cs : List Char} {c : Char} (h : IsPart cs)
    (hc : Content.isPartChar c = false) : c ∉ cs := by
  intro hmem
  rw [h.isPartChar hmem] at hc
  cases hc

/-- The encodings of bodies, those that come first in front. -/
def encodings : List BodyEncoding := [.json, .form, .multipart]

def offers (mediaType : String) : BodyEncoding → Bool
  | .json => isJson mediaType
  | .form => mediaType = "application/x-www-form-urlencoded"
  | .multipart => mediaType = "multipart/form-data"

/-- The encoding of a body is the first one that a media type offers. -/
theorem encoding_eq_find? (mediaTypes : List String) : encoding mediaTypes =
    encodings.find? fun e => ((mediaTypes.filter isMediaType).map essence).any (offers · e) := by
  rw [encoding, encodings]
  generalize (mediaTypes.filter isMediaType).map essence = essences
  have hcontains : ∀ e word, (∀ m, offers m e = decide (m = word)) →
      essences.any (offers · e) = essences.contains word := by
    intro e word h
    rw [Bool.eq_iff_iff, List.any_eq_true, List.contains_iff_mem]
    simp only [h, decide_eq_true_eq, exists_eq_right]
  rw [List.find?_cons, List.find?_cons, List.find?_cons, List.find?_nil,
    hcontains .form _ fun _ => rfl, hcontains .multipart _ fun _ => rfl]
  change (if essences.any (offers · .json) then _ else _) = _
  cases essences.any (offers · .json)
  · cases essences.contains "application/x-www-form-urlencoded"
    · cases essences.contains "multipart/form-data" <;> rfl
    · rfl
  · rfl

theorem find?_eq_find?_iff {α : Type} {l : List α} {p q : α → Bool}
    (h : ∀ a, q a = true → p a = true) :
    l.find? q = l.find? p ↔ ∀ a, l.find? p = some a → q a = true := by
  constructor
  · intro heq a ha
    exact List.find?_some (heq.trans ha)
  · intro hfound
    cases hp : l.find? p with
    | none =>
      rw [List.find?_eq_none] at hp ⊢
      exact fun a ha hq => hp a ha (h a hq)
    | some a =>
      obtain ⟨-, before, after, hl, hbefore⟩ := List.find?_eq_some_iff_append.1 hp
      refine List.find?_eq_some_iff_append.2 ⟨hfound a hp, before, after, hl, fun b hb => ?_⟩
      have hnot := hbefore b hb
      rw [Bool.not_eq_true'] at hnot ⊢
      exact Bool.eq_false_iff.2 fun hq => Bool.eq_false_iff.1 hnot (h b hq)

/-- A media type as it is spelled: a type and a subtype, and what stands behind them from the first
semicolon on, with the blanks before it. -/
@[ext]
structure Spelling where
  type : List Char
  subtype : List Char
  parameters : List Char := []
  isPart_type : IsPart type := by decide
  isPart_subtype : IsPart subtype := by decide
  opens : parameters = [] ∨ (Text.trimStart parameters).head? = some ';' := by decide
  deriving DecidableEq

namespace Spelling

variable {m : Spelling} {ms : List Spelling}

def text (m : Spelling) : String :=
  String.ofList (m.type ++ '/' :: (m.subtype ++ m.parameters))

/-- The plain spelling of the same media type: in lower case, and without parameters. -/
def plain (m : Spelling) : Spelling where
  type := lowerAscii m.type
  subtype := lowerAscii m.subtype
  isPart_type := m.isPart_type.lowerAscii
  isPart_subtype := m.isPart_subtype.lowerAscii
  opens := .inl rfl

@[simp] theorem plain_type (m : Spelling) : m.plain.type = lowerAscii m.type := rfl

@[simp] theorem plain_subtype (m : Spelling) : m.plain.subtype = lowerAscii m.subtype := rfl

@[simp] theorem plain_parameters (m : Spelling) : m.plain.parameters = [] := rfl

@[simp] theorem lowerAscii_lowerAscii (cs : List Char) :
    lowerAscii (lowerAscii cs) = lowerAscii cs := by
  rw [lowerAscii, lowerAscii, List.map_map, List.map_inj_left]
  rintro c -
  rcases toLower_cases c.toLower with ⟨-, hc⟩ | ⟨hupper, -⟩
  · exact hc
  · rw [isUpper_toLower] at hupper
    cases hupper

@[simp] theorem plain_plain (m : Spelling) : m.plain.plain = m.plain := by
  ext1 <;> simp

theorem toList_text (m : Spelling) :
    m.text.toList = m.type ++ '/' :: (m.subtype ++ m.parameters) :=
  String.toList_ofList

theorem exists_parameters (m : Spelling) (h : m.parameters ≠ []) :
    ∃ blanks rest, m.parameters = blanks ++ ';' :: rest ∧ ∀ c ∈ blanks, isBlank c = true := by
  obtain ⟨rest, hrest⟩ := List.head?_eq_some_iff.1 (m.opens.resolve_left h)
  refine ⟨m.parameters.takeWhile isBlank, rest, ?_, fun c hc => List.mem_takeWhile_imp hc⟩
  rw [← hrest]
  exact List.takeWhile_append_dropWhile.symm

/-- Just without a slash in its parameters does a media type pass for one. -/
theorem isMediaType_text : isMediaType m.text = true ↔ '/' ∉ m.parameters := by
  have hslash : isPartChar '/' = false := by decide
  have hsplit : Text.splitAt '/' m.text.toList =
      m.type :: Text.splitAt '/' (m.subtype ++ m.parameters) := by
    rw [toList_text, Text.splitAt_append_cons (m.isPart_type.not_mem hslash)]
  have hsubtype : '/' ∈ m.subtype ++ m.parameters ↔ '/' ∈ m.parameters := by
    rw [List.mem_append, or_iff_right (m.isPart_subtype.not_mem hslash)]
  rw [isMediaType, hsplit, ← hsubtype]
  split
  · next heq =>
    obtain ⟨rfl, hrest⟩ := List.cons.inj heq
    obtain ⟨rfl, hnone⟩ := Text.splitAt_eq_singleton_iff.1 hrest
    simp [hnone, m.isPart_type.1, m.isPart_subtype.1]
  · next hne =>
    refine iff_of_false Bool.false_ne_true fun hnone => ?_
    exact hne _ _ (congrArg _ (Text.splitAt_of_not_mem hnone))

theorem trim_takeWhile (m : Spelling) :
    Text.trim (m.text.toList.takeWhile (· ≠ ';')) = m.type ++ '/' :: m.subtype := by
  have hchars : ∀ c ∈ m.type ++ '/' :: m.subtype, c ≠ ';' ∧ isBlank c = false := by
    intro c hc
    have hpart : c = '/' ∨ isPartChar c = true := by
      rcases List.mem_append.1 hc with htype | hrest
      · exact .inr (m.isPart_type.isPartChar htype)
      · exact (List.mem_cons.1 hrest).imp_right m.isPart_subtype.isPartChar
    rcases hpart with rfl | hpart
    · decide
    · simp only [isPartChar, Bool.and_eq_true, decide_eq_true_eq, Bool.not_eq_true'] at hpart
      exact ⟨hpart.1.2, hpart.2⟩
  have hblanks : ∀ c ∈ m.parameters.takeWhile (· ≠ ';'), isBlank c = true := by
    by_cases hnone : m.parameters = []
    · simp [hnone]
    obtain ⟨blanks, rest, hparameters, hblanks⟩ := m.exists_parameters hnone
    have hne : ∀ c ∈ blanks, decide (c ≠ ';') = true := by
      rintro c hc
      rw [decide_eq_true_eq]
      rintro rfl
      exact absurd (hblanks _ hc) (by decide)
    rw [hparameters, List.takeWhile_append_of_pos hne]
    simpa using hblanks
  have htext : m.text.toList = (m.type ++ '/' :: m.subtype) ++ m.parameters := by
    rw [toList_text, List.append_assoc, List.cons_append]
  rw [htext, List.takeWhile_append_of_pos fun c hc => decide_eq_true (hchars c hc).1]
  exact Text.trim_append (fun c hc => (hchars c hc).2) hblanks
    (List.append_ne_nil_of_right_ne_nil _ (List.cons_ne_nil _ _))

theorem essence_text (m : Spelling) : essence m.text = m.plain.text := by
  change String.ofList (lowerAscii (Text.trim (m.text.toList.takeWhile (· ≠ ';')))) = _
  rw [trim_takeWhile, lowerAscii, List.map_append, List.map_cons, text, plain_parameters,
    List.append_nil]
  rfl

/-- JSON is mentioned, in any letter case. -/
def MentionsJson (cs : List Char) : Prop := "json".toList <:+: lowerAscii cs

/-- The type and the subtype stand for JSON: one mentions it, or both are wildcards. -/
def StandsForJson (m : Spelling) : Prop :=
  (m.type = ['*'] ∧ m.subtype = ['*']) ∨ MentionsJson m.type ∨ MentionsJson m.subtype

/-- The spelling is read as one of JSON: JSON is mentioned anywhere, or there are just the two
wildcards. -/
def ReadsAsJson (m : Spelling) : Prop :=
  (m.type = ['*'] ∧ m.subtype = ['*'] ∧ m.parameters = []) ∨
    MentionsJson m.type ∨ MentionsJson m.subtype ∨ MentionsJson m.parameters

instance (cs : List Char) : Decidable (MentionsJson cs) := inferInstanceAs (Decidable (_ <:+: _))

instance (m : Spelling) : Decidable m.StandsForJson := inferInstanceAs (Decidable (_ ∨ _))

instance (m : Spelling) : Decidable m.ReadsAsJson := inferInstanceAs (Decidable (_ ∨ _))

theorem not_mentionsJson_nil : ¬ MentionsJson [] :=
  mt List.infix_nil.1 (by decide)

theorem not_mem_json {c : Char} (hc : isPartChar c = false) : c.toLower ∉ "json".toList := by
  have hword : "json".toList = ['j', 's', 'o', 'n'] := by decide
  have hletters : ∀ d ∈ ['j', 's', 'o', 'n'], d.isAlpha = true := by simp
  rw [hword]
  intro hmem
  have halpha : isPartChar c.toLower = true := isPartChar_of_isAlpha (hletters _ hmem)
  rcases toLower_cases c with ⟨-, hstays⟩ | ⟨hupper, -⟩
  · rw [hstays, hc] at halpha
    cases halpha
  · rw [isPartChar_of_isAlpha (Bool.or_eq_true_iff.2 (.inl hupper))] at hc
    cases hc

theorem mentionsJson_append_cons {c : Char} (hc : isPartChar c = false) (xs ys : List Char) :
    MentionsJson (xs ++ c :: ys) ↔ MentionsJson xs ∨ MentionsJson ys := by
  rw [MentionsJson, lowerAscii, List.map_append, List.map_cons,
    Text.infix_append_cons_iff (not_mem_json hc)]
  rfl

theorem mentionsJson_append_parameters (m : Spelling) (cs : List Char) :
    MentionsJson (cs ++ m.parameters) ↔ MentionsJson cs ∨ MentionsJson m.parameters := by
  -- Parameters open with a character that is not in the word, so it cannot reach into them.
  by_cases hnone : m.parameters = []
  · rw [hnone, List.append_nil, or_iff_left not_mentionsJson_nil]
  obtain ⟨blanks, rest, hparameters, hblanks⟩ := m.exists_parameters hnone
  obtain ⟨c, after, hopens, hc⟩ : ∃ c after, m.parameters = c :: after ∧ isPartChar c = false := by
    cases blanks with
    | nil => exact ⟨';', rest, hparameters, by decide⟩
    | cons c blanks => exact ⟨_, _, hparameters, by simp [isPartChar, hblanks c]⟩
  have hafter := mentionsJson_append_cons hc [] after
  rw [List.nil_append, or_iff_right not_mentionsJson_nil] at hafter
  rw [hopens, mentionsJson_append_cons hc, hafter]

theorem text_eq_wildcards_iff :
    m.text = "*/*" ↔ m.type = ['*'] ∧ m.subtype = ['*'] ∧ m.parameters = [] := by
  have hslash : isPartChar '/' = false := by decide
  have hwritten : "*/*".toList = ['*'] ++ '/' :: ['*'] := by decide
  rw [← String.toList_inj, toList_text, hwritten,
    Text.append_cons_inj (m.isPart_type.not_mem hslash) (by decide), List.append_eq_singleton_iff,
    or_iff_right fun h => m.isPart_subtype.1 h.1]

theorem isJson_text : isJson m.text = true ↔ m.ReadsAsJson := by
  have hslash : isPartChar '/' = false := by decide
  rw [isJson, Bool.or_eq_true, decide_eq_true_eq, text_eq_wildcards_iff, Text.occursIn_iff,
    toList_text]
  change _ ∨ MentionsJson _ ↔ _
  rw [mentionsJson_append_cons hslash, mentionsJson_append_parameters]
  rfl

theorem lowerAscii_eq_wildcard_iff {cs : List Char} : lowerAscii cs = ['*'] ↔ cs = ['*'] := by
  have hstar : ∀ c : Char, c.toLower = '*' ↔ c = '*' := by
    intro c
    rcases toLower_cases c with ⟨-, hc⟩ | ⟨hupper, -, hlower⟩
    · rw [hc]
    · exact iff_of_false (fun h => absurd (h ▸ hlower) (by decide))
        fun h => absurd (h ▸ hupper) (by decide)
  rw [lowerAscii, List.map_eq_singleton_iff]
  simp [hstar]

theorem readsAsJson_plain : m.plain.ReadsAsJson ↔ m.StandsForJson := by
  simp only [ReadsAsJson, StandsForJson, MentionsJson, plain_type, plain_subtype,
    plain_parameters, lowerAscii_lowerAscii, lowerAscii_eq_wildcard_iff, and_true]
  exact or_congr_right (or_congr_right (or_iff_left not_mentionsJson_nil))

theorem isText_text : isText m.text = true ↔ m.type = "text".toList := by
  have hslash : isPartChar '/' = false := by decide
  have hwritten : "text/".toList = "text".toList ++ '/' :: [] := by decide
  rw [isText, List.isPrefixOf_iff_prefix, toList_text, hwritten]
  constructor
  · rintro ⟨rest, hrest⟩
    rw [List.append_assoc, List.cons_append,
      Text.append_cons_inj (by decide) (m.isPart_type.not_mem hslash)] at hrest
    exact hrest.1.symm
  · intro htype
    exact ⟨m.subtype ++ m.parameters, by rw [htype, List.append_assoc]; rfl⟩

/-- Some media type of the encoding has no slash in its parameters. -/
def ShowsEncoding (ms : List Spelling) : Prop :=
  ∀ e, encoding ((ms.map plain).map text) = some e →
    ∃ m ∈ ms, '/' ∉ m.parameters ∧ offers m.plain.text e = true

/-- If a media type is one of text, the type of some media type is `text` as it is spelled. -/
def ShowsText (ms : List Spelling) : Prop :=
  (∃ m ∈ ms, m.plain.type = "text".toList) → ∃ m ∈ ms, m.type = "text".toList

/-- The spellings are read as JSON just if a media type stands for it, and if none does, they show
text. -/
def ShowsFormat (ms : List Spelling) : Prop :=
  ((∃ m ∈ ms, m.ReadsAsJson) ↔ ∃ m ∈ ms, m.StandsForJson) ∧
    ((∀ m ∈ ms, ¬ m.StandsForJson) → ShowsText ms)

instance (ms : List Spelling) : Decidable (ShowsText ms) := inferInstanceAs (Decidable (_ → _))

instance (ms : List Spelling) : Decidable (ShowsFormat ms) := inferInstanceAs (Decidable (_ ∧ _))

theorem encoding_map_text (ms : List Spelling) :
    encoding (ms.map text) = encodings.find? fun e =>
      ms.any fun m => '/' ∉ m.parameters ∧ offers m.plain.text e = true := by
  rw [encoding_eq_find?]
  congr 1
  funext e
  rw [Bool.eq_iff_iff]
  simp [isMediaType_text, essence_text]

theorem encoding_eq_plain_iff :
    encoding (ms.map text) = encoding ((ms.map plain).map text) ↔ ShowsEncoding ms := by
  have hplain : encoding ((ms.map plain).map text) =
      encodings.find? fun e => ms.any fun m => offers m.plain.text e := by
    rw [encoding_map_text]
    simp [Function.comp_def]
  rw [ShowsEncoding, hplain, encoding_map_text, find?_eq_find?_iff]
  · simp
  · intro e he
    obtain ⟨m, hm, hoffers⟩ := List.any_eq_true.1 he
    exact List.any_eq_true.2 ⟨m, hm, (of_decide_eq_true hoffers).2⟩

theorem any_isJson (ms : List Spelling) :
    (ms.map text).any isJson = true ↔ ∃ m ∈ ms, m.ReadsAsJson := by
  simp [isJson_text]

theorem any_isJson_plain (ms : List Spelling) :
    ((ms.map plain).map text).any isJson = true ↔ ∃ m ∈ ms, m.StandsForJson := by
  simp [isJson_text, readsAsJson_plain]

theorem any_isText (ms : List Spelling) :
    (ms.map text).any isText = true ↔ ∃ m ∈ ms, m.type = "text".toList := by
  simp [isText_text]

theorem showsText_iff :
    ShowsText ms ↔ (ms.map text).any isText = ((ms.map plain).map text).any isText := by
  have hlower : (∃ m ∈ ms, m.type = "text".toList) → ∃ m ∈ ms, m.plain.type = "text".toList := by
    rintro ⟨m, hm, htype⟩
    exact ⟨m, hm, by rw [plain_type, htype]; decide⟩
  have hplain : ((ms.map plain).map text).any isText = true ↔
      ∃ m ∈ ms, m.plain.type = "text".toList := by
    simp [isText_text]
  rw [Bool.eq_iff_iff, any_isText, hplain]
  exact ⟨fun h => ⟨hlower, h⟩, Iff.mpr⟩

theorem format_eq_plain_iff :
    format (ms.map text) = format ((ms.map plain).map text) ↔ ShowsFormat ms := by
  have hnone : (∀ m ∈ ms, ¬ m.StandsForJson) ↔
      ((ms.map plain).map text).any isJson = false := by
    rw [← Bool.not_eq_true, any_isJson_plain]
    simp
  have hformat : ∀ types : List String, types ≠ [] → format types =
      if types.any isJson then .json else if types.any isText then .text else .blob := by
    intro types hne
    rw [format, if_neg (by simpa using hne)]
  rw [ShowsFormat, ← any_isJson, ← any_isJson_plain, ← Bool.eq_iff_iff, showsText_iff, hnone]
  by_cases hms : ms = []
  · simp [hms]
  rw [hformat (ms.map text) (by simpa using hms),
    hformat ((ms.map plain).map text) (by simpa using hms)]
  -- The formats go by what is found in either list, JSON and text, and by nothing else.
  generalize (ms.map text).any isJson = json
  generalize ((ms.map plain).map text).any isJson = json'
  generalize (ms.map text).any isText = words
  generalize ((ms.map plain).map text).any isText = words'
  cases json <;> cases json' <;> cases words <;> cases words' <;> decide

/-- A content map of these media types, none of which declares a schema. -/
def Bare (content : Dict MediaType) (ms : List Spelling) : Prop :=
  content.keys = ms.map text ∧ ∀ entry ∈ content, entry.2.schema = none

theorem bare_map (ms : List Spelling) : Bare (ms.map fun m => (m.text, {})) ms := by
  constructor
  · simp [Dict.keys, Function.comp_def]
  · simp

theorem schema_of_bare {content : Dict MediaType} (h : Bare content ms) :
    schema content = if ms = [] ∨ (ms.map text).any isText = true then .ofType "string"
      else .ofType "string" (some "binary") := by
  have hnone : content.findSome? (fun entry =>
      if isMediaType entry.1 then entry.2.schema else none) = none := by
    rw [List.findSome?_eq_none_iff]
    intro entry hentry
    rw [h.2 entry hentry, ite_self]
  have hempty : content.isEmpty = true ↔ ms = [] := by
    rw [List.isEmpty_iff, ← List.map_eq_nil_iff (f := text), ← h.1, Dict.keys, List.map_eq_nil_iff]
  rw [schema, hnone, Option.getD_none, undeclared, h.1]
  simp only [Bool.or_eq_true, hempty]

theorem schema_eq_plain_iff {content content' : Dict MediaType} (h : Bare content ms)
    (h' : Bare content' (ms.map plain)) : schema content = schema content' ↔ ShowsText ms := by
  have hne : Schema.ofType "string" ≠ .ofType "string" (some "binary") := by
    intro he
    exact absurd (congrArg Schema.format he) (by decide)
  rw [schema_of_bare h, schema_of_bare h', showsText_iff]
  by_cases hms : ms = []
  · simp [hms]
  cases (ms.map text).any isText <;> cases ((ms.map plain).map text).any isText <;>
    simp [hms, hne, hne.symm]

theorem showsEncoding_of_no_slash (h : ∀ m ∈ ms, '/' ∉ m.parameters) : ShowsEncoding ms := by
  rw [← encoding_eq_plain_iff, encoding_map_text, encoding_map_text]
  congr 1
  funext e
  rw [List.any_map, Bool.eq_iff_iff, List.any_eq_true, List.any_eq_true]
  refine exists_congr fun m => and_congr_right fun hm => ?_
  simp [h m hm]

/-- Spellings of the same media types that show what decides are decided alike. Against the plain
spellings, nothing less will do. -/
theorem decisions_of_respelled {ms' : List Spelling} (h : ms.map plain = ms'.map plain)
    {content content' : Dict MediaType} (hbare : Bare content ms) (hbare' : Bare content' ms') :
    (ShowsEncoding ms → ShowsEncoding ms' →
      encoding (ms.map text) = encoding (ms'.map text)) ∧
    (ShowsFormat ms → ShowsFormat ms' → format (ms.map text) = format (ms'.map text)) ∧
    (ShowsText ms → ShowsText ms' → schema content = schema content') ∧
    ((∀ m ∈ ms', m.plain = m) →
      (encoding (ms.map text) = encoding (ms'.map text) ↔ ShowsEncoding ms) ∧
      (format (ms.map text) = format (ms'.map text) ↔ ShowsFormat ms) ∧
      (schema content = schema content' ↔ ShowsText ms)) := by
  refine ⟨fun hms hms' => ?_, fun hms hms' => ?_, fun hms hms' => ?_, fun hplain => ?_⟩
  · rw [encoding_eq_plain_iff.2 hms, encoding_eq_plain_iff.2 hms', h]
  · rw [format_eq_plain_iff.2 hms, format_eq_plain_iff.2 hms', h]
  · rw [(schema_eq_plain_iff hbare (bare_map _)).2 hms, h,
      (schema_eq_plain_iff hbare' (bare_map _)).2 hms']
  · have hsame : ms' = ms.map plain := by
      rw [h]
      exact ((List.map_congr_left hplain).trans (List.map_id' ms')).symm
    subst hsame
    exact ⟨encoding_eq_plain_iff, format_eq_plain_iff, schema_eq_plain_iff hbare hbare'⟩

def note : List Spelling := [
  { type := "text".toList, subtype := "Plain".toList, parameters := "; charset=utf-8".toList },
  { type := "Application".toList, subtype := "JSON".toList }]

theorem note_decisions : ∃ content content',
    Bare content note ∧ Bare content' (note.map plain) ∧
    encoding (note.map text) = encoding ((note.map plain).map text) ∧
    format (note.map text) = format ((note.map plain).map text) ∧
    schema content = schema content' := by
  have hsame : note.map plain = (note.map plain).map plain := by decide +kernel
  have hall := decisions_of_respelled hsame (bare_map _) (bare_map _)
  refine ⟨_, _, bare_map note, bare_map (note.map plain), hall.1 ?_ ?_, hall.2.1 ?_ ?_,
    hall.2.2.1 ?_ ?_⟩
  · exact showsEncoding_of_no_slash (by decide +kernel)
  · exact showsEncoding_of_no_slash (by decide +kernel)
  all_goals decide +kernel

/-- Text in upper case is binary data, and in lower case it is text. -/
theorem upper_case_text_differs : ∃ m m' : Spelling,
    m.text = "Text/Plain" ∧ m'.text = "text/plain" ∧ m.plain = m'.plain ∧
    format [m.text] = .blob ∧ format [m'.text] = .text := by
  refine ⟨{ type := "Text".toList, subtype := "Plain".toList },
    { type := "text".toList, subtype := "plain".toList }, ?_⟩
  decide +kernel

end Spelling

end Content

end ClientGen
