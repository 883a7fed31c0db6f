import ClientGen.Proofs.Reference.Segments

namespace ClientGen

namespace Json

/-- A step from a value to one right inside it: to a member of an object, or to an item of an array.
Machine words count the items of an array. -/
inductive Step where
  | member (name : String)
  | item (index : UInt64)
  deriving DecidableEq, Repr

variable {j k k' : Json} {step step' : Step} {path path' : List Step}

def step? : Json → Step → Option Json
  | .obj fields, .member name => Dict.get? fields name
  | .arr items, .item index => items[index.toNat]?
  | _, _ => none

/-- The value at the end of a path, if the path exists in the tree. -/
def at? (j : Json) : List Step → Option Json
  | [] => some j
  | step :: path => (j.step? step).bind fun k => k.at? path

/-- What a step is called: the name of the member, or the index in decimal digits. -/
def Step.label : Step → String
  | .member name => name
  | .item index => index.toNat.repr

end Json

namespace Reference

open Json Text

variable {tree node j k k' : Json} {step step' : Step} {path other : List Step}

theorem index?_of_digits {cs : List Char} (hne : cs ≠ []) (hcs : ∀ c ∈ cs, c.isDigit)
    (hlt : Nat.ofDigitChars 10 cs 0 < Nat.pow 2 64) :
    index? (String.ofList cs) = some (Nat.ofDigitChars 10 cs 0) := by
  have hempty : cs.isEmpty = false := List.isEmpty_eq_false_iff.2 hne
  have hall : cs.all Char.isDigit = true := List.all_eq_true.2 hcs
  have hvalue : cs.foldl (fun n d => n * 10 + (d.toNat - '0'.toNat)) 0 =
      Nat.ofDigitChars 10 cs 0 := by
    simp only [Nat.ofDigitChars, Nat.mul_comm]
  unfold index?
  rw [String.toList_ofList]
  dsimp only
  split
  · next rest =>
    have hplus := hcs '+' List.mem_cons_self
    exact absurd hplus (by decide)
  · rw [hempty, hall, hvalue]
    exact if_pos hlt

theorem index?_repr (n : UInt64) : index? n.toNat.repr = some n.toNat := by
  have hvalue : Nat.ofDigitChars 10 (Nat.toDigits 10 n.toNat) 0 = n.toNat :=
    Nat.ofDigitChars_toDigits (by decide) (by decide)
  rw [Nat.repr_eq_ofList_toDigits, index?_of_digits Nat.toDigits_ne_nil, hvalue]
  · intro c hc
    exact Nat.isDigit_of_mem_toDigits (by decide) (by decide) hc
  · rw [hvalue]
    exact n.toNat_lt

theorem select?_label (h : j.step? step = some k) : select? j step.label = some k := by
  unfold Json.step? at h
  split at h
  · exact h
  · next items index =>
    rw [Step.label, select?, index?_repr]
    exact h
  · cases h

theorem follow?_labels_append (h : tree.at? path = some node) (rest : List String) :
    follow? tree (path.map Step.label ++ rest) = follow? node rest := by
  induction path generalizing tree with
  | nil =>
    cases h
    rfl
  | cons step path ih =>
    obtain ⟨k, hk, hnode⟩ := Option.bind_eq_some_iff.1 h
    rw [List.map_cons, List.cons_append, follow?, select?_label hk]
    exact ih hnode

/-- The steps that a value has are told apart by what they are called. -/
theorem eq_of_label_eq (h : j.step? step = some k) (h' : j.step? step' = some k')
    (he : step.label = step'.label) : step = step' := by
  unfold Json.step? at h h'
  split at h
  · next fields name =>
    split at h'
    · next fields' name' => exact congrArg Step.member he
    · contradiction
    · cases h'
  · next items index =>
    split at h'
    · contradiction
    · next items' index' =>
      have hindex := congrArg index? he
      rw [Step.label, Step.label, index?_repr, index?_repr] at hindex
      exact congrArg Step.item (UInt64.toNat_inj.1 (Option.some.inj hindex))
    · cases h'
  · cases h

theorem eq_of_labels_eq (h : tree.at? path = some k) (h' : tree.at? other = some k')
    (he : path.map Step.label = other.map Step.label) : path = other := by
  induction path generalizing tree other with
  | nil =>
    rw [List.map_nil] at he
    exact (List.map_eq_nil_iff.1 he.symm).symm
  | cons step path ih =>
    cases other with
    | nil => cases he
    | cons step' other =>
      obtain ⟨i, hi, hk⟩ := Option.bind_eq_some_iff.1 h
      obtain ⟨i', hi', hk'⟩ := Option.bind_eq_some_iff.1 h'
      obtain ⟨hlabel, hlabels⟩ := List.cons.inj he
      obtain rfl := eq_of_label_eq hi hi' hlabel
      rw [hi] at hi'
      cases hi'
      rw [ih hk hk' hlabels]

/-- How a step is written: names are escaped, and digits need not be. -/
def writeStep : Step → List Char
  | .member name => writeName name.toList
  | .item index => index.toNat.repr.toList

theorem writeName_of_isDigit {cs : List Char} (h : ∀ c ∈ cs, c.isDigit) : writeName cs = cs := by
  induction cs with
  | nil => rfl
  | cons c cs ih =>
    have hc := h c List.mem_cons_self
    have hne {d : Char} (hd : ¬ d.isDigit) : c ≠ d := fun he => hd (he ▸ hc)
    have hchar : writeChar c = [c] := by
      rw [writeChar, if_neg (hne (by decide)), if_neg (hne (by decide)), if_neg (hne (by decide))]
    have hcs := ih fun d hd => h d (List.mem_cons_of_mem c hd)
    rw [writeName, List.flatMap_cons, hchar, ← writeName, hcs, List.singleton_append]

theorem writeStep_eq (step : Step) : writeStep step = writeName step.label.toList := by
  cases step with
  | member name => rfl
  | item index =>
    apply Eq.symm
    apply writeName_of_isDigit
    intro c hc
    rw [Step.label, Nat.toList_repr] at hc
    exact Nat.isDigit_of_mem_toDigits (by decide) (by decide) hc

def ofPath (path : List Step) : String :=
  "#/" ++ String.ofList (['/'].intercalate (path.map writeStep))

theorem pointer?_append (cs : List Char) : pointer? ("#/" ++ String.ofList cs) = some cs := by
  simp [pointer?]

/-- The segments of the reference for a path are what its steps are called. -/
theorem segments_ofPath (h : path ≠ []) : segments (ofPath path) = .ok (path.map Step.label) := by
  have hne : path.map writeStep ≠ [] := fun he => h (List.map_eq_nil_iff.1 he)
  have hslash : ∀ piece ∈ path.map writeStep, '/' ∉ piece := by
    intro piece hpiece
    obtain ⟨step, -, rfl⟩ := List.mem_map.1 hpiece
    rw [writeStep_eq]
    exact slash_not_mem_writeName step.label.toList
  have hlabel : ∀ step ∈ path, String.ofList (decodeSegment (writeStep step)) = step.label := by
    intro step _
    rw [writeStep_eq, decodeSegment_writeName, String.ofList_toList]
  unfold segments
  rw [ofPath, pointer?_append]
  dsimp only
  rw [decodePointer, splitAt_intercalate hne hslash, List.map_map]
  exact congrArg Except.ok (List.map_congr_left hlabel)

/-- Every value of a tree has a reference that leads to it: the one written for its path. No two
paths in the tree are written alike. -/
theorem lookup_ofPath (hne : path ≠ []) (h : tree.at? path = some node) :
    lookup tree (ofPath path) = .ok node ∧
    ∀ other node', other ≠ [] → tree.at? other = some node' →
      segments (ofPath other) = segments (ofPath path) → other = path := by
  constructor
  · rw [lookup, segments_ofPath hne]
    dsimp only
    rw [← List.append_nil (path.map Step.label), follow?_labels_append h, follow?]
  · intro other node' hne' h' he
    rw [segments_ofPath hne, segments_ofPath hne'] at he
    exact eq_of_labels_eq h' h (Except.ok.inj he)

/-- Names of every kind that reads as something else unless it is escaped. -/
def drawers : Json := .obj [
  ("~1", .obj [("%7E1", .arr [.obj [("", .null)], .obj [("a%2Fb/~0", .str "here")]])]),
  ("/", .obj [("~1", .null)])]

theorem lookup_ofPath_drawers :
    drawers.at? [.member "~1", .member "%7E1", .item 1, .member "a%2Fb/~0"] =
      some (.str "here") ∧
    lookup drawers "#/~01/%257E1/1/a%252Fb~1~00" = .ok (.str "here") := by
  have hat : drawers.at? [.member "~1", .member "%7E1", .item 1, .member "a%2Fb/~0"] =
      some (.str "here") := by
    simp [drawers, at?, step?, Dict.get?]
  have hwritten : ofPath [.member "~1", .member "%7E1", .item 1, .member "a%2Fb/~0"] =
      "#/~01/%257E1/1/a%252Fb~1~00" := by
    decide +kernel
  rw [← hwritten]
  exact ⟨hat, (lookup_ofPath (List.cons_ne_nil _ _) hat).1⟩

end Reference

end ClientGen
