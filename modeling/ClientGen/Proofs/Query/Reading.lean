import ClientGen.Proofs.Query.WellFormed

namespace ClientGen

def Json.hasItems : Json → Bool
  | .obj _ | .arr [] => false
  | _ => true

def Json.isObject : Json → Bool
  | .obj _ => true
  | _ => false

namespace Query

variable {s : String} {v : Json} {values : List (String × Json)}

def itemTexts : Json → List String
  | .arr values => values.map itemText
  | v => [itemText v]

mutual

/-- The leaves of a value in their order: scalars and items of arrays, with the paths to them. -/
def leaves (p : KeyPath) : Json → List (KeyPath × String)
  | .arr values => values.map fun v => (p, itemText v)
  | .obj fields => leavesBelow p fields
  | v => [(p, itemText v)]

def leavesBelow (p : KeyPath) : List (String × Json) → List (KeyPath × String)
  | [] => []
  | m :: rest =>
    if m.2.isNull then leavesBelow p rest else leaves (p.below m.1) m.2 ++ leavesBelow p rest

end

theorem leavesBelow_eq (p : KeyPath) (fields : Dict Json) :
    leavesBelow p fields = (defined fields).flatMap fun m => leaves (p.below m.1) m.2 := by
  induction fields with
  | nil => rfl
  | cons m rest ih =>
    rw [leavesBelow, defined_cons, ih]
    split
    · rfl
    · rw [List.flatMap_cons]

/-- Every array and every object that is reached through objects has something in it. -/
inductive Full : Json → Prop where
  | scalar {v : Json} (h : v.isScalar = true) : Full v
  | items {values : List Json} (h : values ≠ []) : Full (.arr values)
  | members {fields : Dict Json} (hne : defined fields ≠ [])
      (h : ∀ m ∈ defined fields, Full m.2) : Full (.obj fields)

theorem Full.not_blank (h : Full v) : ¬ Blank v := by
  induction h with
  | scalar h =>
    intro hblank
    cases hblank <;> cases h
  | items h =>
    rintro ⟨⟩
    exact h rfl
  | members hne _ ih =>
    intro hblank
    cases hblank with
    | none hnone => exact hne hnone
    | only hone hblank => exact ih _ (hone ▸ List.mem_singleton_self _) hblank

def readText (cs : List Char) : String := String.ofList (Text.Percent.decode cs)

def readName? (cs : List Char) : Option String := some (readText cs)

def closed? (cs : List Char) : Option (List Char) :=
  if cs.getLast? = some ']' then some cs.dropLast else none

/-- A name and the names behind it that stand in brackets. -/
def readPath? (cs : List Char) : Option KeyPath :=
  match Text.splitAt '[' cs with
  | [] => none
  | name :: members =>
    (members.mapM closed?).map fun members => ⟨readText name, members.map readText⟩

section Read

variable {α β γ : Type} {key : List Char → Option α} {value : List Char → β} {l : List γ}

/-- The pieces of a fragment, both sides of their first equals signs read. -/
def read? (key : List Char → Option α) (value : List Char → β) (s : String) :
    Option (List (α × β)) :=
  (pieces s).mapM fun p => (Text.cut? '=' p).bind fun sides =>
    (key sides.1).map fun k => (k, value sides.2)

def readPairs? : String → Option (List (String × String)) :=
  read? readName? readText

/-- The names of a fragment, and their values as lists of items. -/
def readLists? (delimiter : Char) : String → Option (List (String × List String)) :=
  read? readName? fun v => (Text.splitAt delimiter v).map readText

/-- The paths and values of a fragment. -/
def readPaths? : String → Option (List (KeyPath × String)) := read? readPath? readText

theorem read?_of_pieces {left right : γ → List Char} {name : γ → α}
    (hs : pieces s = l.map fun a => left a ++ '=' :: right a) (hcut : ∀ a, '=' ∉ left a)
    (hkey : ∀ a, key (left a) = some (name a)) :
    read? key value s = some (l.map fun a => (name a, value (right a))) := by
  rw [read?, hs, List.mapM_map]
  simp only [Function.comp_def, Text.cut?_append_cons (hcut _), Option.bind_some, hkey,
    Option.map_some]
  exact List.mapM_pure

end Read

theorem readText_component (s : String) : readText (component s).toList = s := by
  rw [readText, component, String.toList_ofList, Text.Percent.decode_encode, String.ofList_toList]

theorem readName?_component (s : String) : readName? (component s).toList = some s :=
  congrArg some (readText_component s)

theorem closed?_concat (cs : List Char) : closed? (cs ++ [']']) = some cs := by
  rw [closed?, List.getLast?_concat, if_pos rfl, List.dropLast_concat]

/-- A path is read back from its key. -/
theorem readPath?_key (p : KeyPath) : readPath? p.key.toList = some p := by
  have hname : '[' ∉ (component p.name).toList := not_mem_component (by decide) p.name
  have hmember : ∀ member : String, '[' ∉ (component member).toList ++ [']'] := by
    intro member h
    rcases List.mem_append.1 h with h | h
    · exact not_mem_component (by decide) member h
    · cases List.mem_singleton.1 h
  have hclosed : (p.members.map fun member => (component member).toList ++ [']']).mapM closed? =
      some (p.members.map fun member => (component member).toList) := by
    rw [List.mapM_map]
    simp only [Function.comp_def, closed?_concat]
    exact List.mapM_pure
  have hread : (p.members.map fun member => (component member).toList).map readText =
      p.members := by
    rw [List.map_map]
    simp only [Function.comp_def, readText_component, List.map_id']
  rw [readPath?, KeyPath.key, String.toList_append, String.toList_ofList]
  simp only [List.cons_append, Text.splitAt_append_flatMap hname hmember, hclosed, Option.map_some,
    hread, readText_component]

theorem items_eq (hv : v.isObject = false) : items v = (itemTexts v).map component := by
  cases v with
  | obj fields => cases hv
  | arr values => rw [items, itemTexts, List.map_map]; rfl
  | _ => rfl

theorem pieces_exploded (hv : v.isObject = false) (name : String) :
    pieces (exploded name v) =
      (itemTexts v).map fun t => (component name).toList ++ '=' :: (component t).toList := by
  cases v with
  | obj fields => cases hv
  | arr values => rw [spreads_exploded.pieces_array, itemTexts, List.map_map]; rfl
  | _ => exact spreads_exploded.pieces_scalar rfl

def pairs (values : List (String × Json)) : List (String × String) :=
  (defined values).flatMap fun e => (itemTexts e.2).map fun t => (e.1, t)

theorem not_equals_mem_component (s : String) : '=' ∉ (component s).toList :=
  not_mem_component (by decide) s

theorem pieces_explode (h : ∀ e ∈ defined values, e.2.isObject = false) :
    pieces (fragment .explode values) =
      (pairs values).map fun p => (component p.1).toList ++ '=' :: (component p.2).toList := by
  have heach : (defined values).map (fun e => pieces (exploded e.1 e.2)) =
      (defined values).map fun e =>
        (itemTexts e.2).map fun t => (component e.1).toList ++ '=' :: (component t).toList :=
    List.map_congr_left fun e he => pieces_exploded (h e he) e.1
  rw [pieces_fragment, pairs, List.map_flatMap, List.flatMap_def, List.flatMap_def]
  simp only [encodeOne, heach, List.map_map, Function.comp_def]

theorem readPairs?_fragment (h : ∀ e ∈ defined values, e.2.isObject = false) :
    readPairs? (fragment .explode values) = some (pairs values) := by
  rw [readPairs?, read?_of_pieces (pieces_explode h) (fun p => not_equals_mem_component p.1)
    fun p => readName?_component p.1]
  simp only [readText_component, Prod.mk.eta, List.map_id']

theorem readItems {delimiter : Char} (hdelimiter : delimiter ∈ Text.Percent.delimiters)
    (hv : v.hasItems = true) :
    (Text.splitAt delimiter ((String.singleton delimiter).intercalate (items v)).toList).map
      readText = itemTexts v := by
  have hflat : v.isObject = false := by
    cases v with
    | obj fields => cases hv
    | _ => rfl
  have hne : itemTexts v ≠ [] := by
    cases v with
    | obj fields => cases hv
    | arr values =>
      intro h
      rw [List.map_eq_nil_iff.1 h] at hv
      cases hv
    | _ => exact List.cons_ne_nil _ _
  have hitem : ∀ t ∈ (itemTexts v).map fun t => (component t).toList, delimiter ∉ t := by
    intro t ht
    obtain ⟨t, -, rfl⟩ := List.mem_map.1 ht
    exact not_mem_component hdelimiter t
  have hitems : (items v).map String.toList = (itemTexts v).map fun t => (component t).toList := by
    rw [items_eq hflat, List.map_map]
    rfl
  rw [String.toList_intercalate, hitems, String.toList_singleton,
    Text.splitAt_intercalate (fun h => hne (List.map_eq_nil_iff.1 h)) hitem, List.map_map]
  simp only [Function.comp_def, readText_component, List.map_id']

theorem readLists?_fragment {style : QueryStyle} {delimiter : Char}
    (hdelimiter : delimiter ∈ Text.Percent.delimiters) (hne : delimiter ≠ '&')
    (hstyle : ∀ name v, encodeOne style name v = delimited (String.singleton delimiter) name v)
    (h : ∀ e ∈ defined values, e.2.hasItems = true) :
    readLists? delimiter (fragment style values) =
      some ((defined values).map fun e => (e.1, itemTexts e.2)) := by
  have hamp : '&' ∉ (String.singleton delimiter).toList := by
    rw [String.toList_singleton, List.mem_singleton]
    exact hne.symm
  have hpieces : pieces (fragment style values) = (defined values).map fun e =>
      (component e.1).toList ++
        '=' :: ((String.singleton delimiter).intercalate (items e.2)).toList := by
    rw [pieces_fragment]
    simp only [hstyle, pieces_delimited hamp]
    exact List.map_eq_flatMap.symm
  rw [readLists?, read?_of_pieces hpieces (fun e => not_equals_mem_component e.1)
    fun e => readName?_component e.1]
  exact congrArg some (List.map_congr_left fun e he => by rw [readItems hdelimiter (h e he)])

/-- The pieces of a full value are its leaves. -/
theorem pieces_deep (h : Full v) (p : KeyPath) : pieces (deep p.key v) =
    (leaves p v).map fun leaf => leaf.1.key.toList ++ '=' :: (component leaf.2).toList := by
  induction h generalizing p with
  | @scalar v hv =>
    rw [spreads_deep.pieces_scalar hv]
    cases v with
    | arr | obj => cases hv
    | _ => rfl
  | @items values hne =>
    rw [spreads_deep.pieces_array, leaves, List.map_map]
    rfl
  | @members fields hne hfull ih =>
    -- No member is lost where they are joined, for none is blank.
    have hwritten : ∀ w ∈ (defined fields).map fun m => deep (p.below m.1).key m.2, w ≠ "" := by
      intro w hw
      obtain ⟨m, hm, rfl⟩ := List.mem_map.1 hw
      exact fun he => (hfull m hm).not_blank (spreads_deep.eq_empty_iff.1 he)
    rw [spreads_deep.object, pieces_join hwritten, List.flatMap_map, leaves, leavesBelow_eq,
      List.map_flatMap, List.flatMap_def, List.flatMap_def,
      List.map_congr_left fun m hm => ih m hm (p.below m.1)]

theorem readPaths?_fragment (h : ∀ e ∈ defined values, Full e.2) :
    readPaths? (fragment .deep values) =
      some ((defined values).flatMap fun e => leaves { name := e.1 } e.2) := by
  have hpieces : pieces (fragment .deep values) =
      ((defined values).flatMap fun e => leaves { name := e.1 } e.2).map fun leaf =>
        leaf.1.key.toList ++ '=' :: (component leaf.2).toList := by
    have heach := List.map_congr_left fun e he => pieces_deep (h e he) { name := e.1 }
    simp only [KeyPath.key_name] at heach
    rw [pieces_fragment, List.map_flatMap, List.flatMap_def, List.flatMap_def]
    simp only [encodeOne, heach]
  have hcut : ∀ leaf : KeyPath × String, '=' ∉ leaf.1.key.toList :=
    fun leaf => KeyPath.not_mem_key (by decide) (by decide) (by decide) leaf.1
  rw [readPaths?, read?_of_pieces hpieces hcut fun leaf => readPath?_key leaf.1]
  simp only [readText_component, Prod.mk.eta, List.map_id']

/-- Fragments are read back: in the exploded style as one pair for each item, in the form and the
bar style as names with their items, and in the deep style as paths with the texts of the leaves. -/
theorem fragment_readBack (values : List (String × Json)) :
    ((∀ e ∈ defined values, e.2.isObject = false) →
      readPairs? (fragment .explode values) = some (pairs values) ∧
        (fragment .explode values = "" ↔ pairs values = [])) ∧
    ((∀ e ∈ defined values, e.2.hasItems = true) →
      readLists? ',' (fragment .form values) =
          some ((defined values).map fun e => (e.1, itemTexts e.2)) ∧
        readLists? '|' (fragment .pipe values) =
          some ((defined values).map fun e => (e.1, itemTexts e.2))) ∧
    ((∀ e ∈ defined values, Full e.2) →
      readPaths? (fragment .deep values) =
        some ((defined values).flatMap fun e => leaves { name := e.1 } e.2)) := by
  refine ⟨fun h => ⟨readPairs?_fragment h, ?_⟩, fun h => ⟨?_, ?_⟩, readPaths?_fragment⟩
  · rw [← pieces_eq_nil_iff, pieces_explode h, List.map_eq_nil_iff]
  · exact readLists?_fragment (by decide) (by decide) (fun _ _ => rfl) h
  · exact readLists?_fragment (by decide) (by decide) (fun _ _ => rfl) h

theorem fragment_readBack_search :
    readPairs? (fragment .explode
        [("a&b=c", .arr [.str "1,2", .int 3, .null]), ("gone", .null), ("é", .str "50% [x]")]) =
      some [("a&b=c", "1,2"), ("a&b=c", "3"), ("a&b=c", "null"), ("é", "50% [x]")] ∧
    readLists? '|' (fragment .pipe [("tags", .arr [.str "a|b", .str ""]), ("page", .int 2)]) =
      some [("tags", ["a|b", ""]), ("page", ["2"])] ∧
    readPaths? (fragment .deep
        [("q", .obj [("a[b]", .obj [("none", .null), ("c=d", .arr [.int 1, .str "&"])]),
          ("last", .bool true)])]) =
      some [(⟨"q", ["a[b]", "c=d"]⟩, "1"), (⟨"q", ["a[b]", "c=d"]⟩, "&"),
        (⟨"q", ["last"]⟩, "true")] := by
  have hinner : Full (.obj [("none", .null), ("c=d", .arr [.int 1, .str "&"])]) :=
    .members (List.cons_ne_nil _ _) (List.forall_mem_singleton.2 (.items (List.cons_ne_nil _ _)))
  refine ⟨?_, ?_, ?_⟩
  · exact ((fragment_readBack _).1 (by decide)).1.trans (by decide +kernel)
  · exact ((fragment_readBack _).2.1 (by decide)).2.trans (by decide +kernel)
  · refine ((fragment_readBack _).2.2 (List.forall_mem_singleton.2 ?_)).trans (by decide +kernel)
    exact .members (List.cons_ne_nil _ _)
      (List.forall_mem_cons.2 ⟨hinner, List.forall_mem_singleton.2 (.scalar rfl)⟩)

end Query

end ClientGen
