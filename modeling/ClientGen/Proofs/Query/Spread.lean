import ClientGen.Proofs.Query.Pieces

namespace ClientGen

def Json.isScalar : Json → Bool
  | .arr _ | .obj _ => false
  | _ => true

namespace Query

/-- A name, and the names of members that lead from its value to a value inside. -/
structure KeyPath where
  name : String
  members : List String := []
  deriving DecidableEq, Repr

namespace KeyPath

def below (p : KeyPath) (member : String) : KeyPath := { p with members := p.members ++ [member] }

/-- The key for a path: its names, all but the first one in brackets. -/
def key (p : KeyPath) : String :=
  component p.name ++
    String.ofList (p.members.flatMap fun member => '[' :: (component member).toList ++ [']'])

theorem key_name (name : String) : key { name } = component name := by
  apply String.toList_inj.1
  simp [key]

theorem key_below (p : KeyPath) (member : String) :
    (p.below member).key = p.key ++ "[" ++ component member ++ "]" := by
  apply String.toList_inj.1
  simp [key, below]

theorem not_mem_key {c : Char} (hc : c ∈ Text.Percent.delimiters) (hopen : c ≠ '[')
    (hclose : c ≠ ']') (p : KeyPath) : c ∉ p.key.toList := by
  rw [key, String.toList_append, String.toList_ofList, List.mem_append, not_or]
  refine ⟨not_mem_component hc p.name, fun h => ?_⟩
  obtain ⟨member, -, h⟩ := List.mem_flatMap.1 h
  rw [List.mem_append, List.mem_cons, List.mem_singleton] at h
  rcases h with (h | h) | h
  · exact hopen h
  · exact not_mem_component hc member h
  · exact hclose h

end KeyPath

theorem defined_cons (field : String × Json) (rest : Dict Json) :
    defined (field :: rest) = if field.2.isNull then defined rest else field :: defined rest := by
  unfold defined
  cases h : field.2.isNull <;> simp [h]

theorem mem_children_of_mem_defined {fields : Dict Json} {m : String × Json}
    (hm : m ∈ defined fields) : m.2 ∈ (Json.obj fields).children :=
  List.mem_map_of_mem (List.mem_of_mem_filter hm)

theorem explodedFields_eq (fields : Dict Json) :
    explodedFields fields = (defined fields).map fun m => exploded m.1 m.2 := by
  induction fields with
  | nil => rfl
  | cons field rest ih =>
    rw [explodedFields, defined_cons, ih]
    split <;> rfl

theorem deepFields_eq (key : String) (fields : Dict Json) : deepFields key fields =
    (defined fields).map fun m => deep (key ++ "[" ++ component m.1 ++ "]") m.2 := by
  induction fields with
  | nil => rfl
  | cons field rest ih =>
    rw [deepFields, defined_cons, ih]
    split <;> rfl

section Spreads

variable {κ : Type} {write : κ → Json → String} {key : κ → String} {below : κ → String → κ}

/-- A value is written under a key: a scalar and each item of an array as a piece, and the members
of an object under the keys below. -/
structure Spreads (write : κ → Json → String) (key : κ → String) (below : κ → String → κ) :
    Prop where
  plain : ∀ k, '&' ∉ (key k).toList
  scalar : ∀ k v, v.isScalar = true → write k v = piece (key k) v
  array : ∀ k values, write k (.arr values) = join (values.map (piece (key k)))
  object : ∀ k fields, write k (.obj fields) =
    join ((defined fields).map fun m => write (below k m.1) m.2)

theorem spreads_exploded : Spreads exploded component fun _ member => member where
  plain := not_mem_component (by decide)
  scalar name v hv := by
    cases v with
    | arr | obj => cases hv
    | _ => rfl
  array _ _ := rfl
  object name fields := by rw [exploded, explodedFields_eq]

theorem spreads_deep : Spreads (fun p v => deep p.key v) KeyPath.key KeyPath.below where
  plain := KeyPath.not_mem_key (by decide) (by decide) (by decide)
  scalar p v hv := by
    cases v with
    | arr | obj => cases hv
    | _ => rfl
  array _ _ := rfl
  object p fields := by simp only [deep, deepFields_eq, KeyPath.key_below]

variable {k : κ}

theorem Spreads.pieces_scalar (h : Spreads write key below) {v : Json} (hv : v.isScalar = true) :
    pieces (write k v) = [(key k).toList ++ '=' :: (component (itemText v)).toList] := by
  rw [h.scalar k v hv, pieces_piece (h.plain k)]

theorem Spreads.pieces_array (h : Spreads write key below) (values : List Json) :
    pieces (write k (.arr values)) =
      values.map fun v => (key k).toList ++ '=' :: (component (itemText v)).toList := by
  rw [h.array, pieces_items (h.plain k)]

end Spreads

end Query

end ClientGen
