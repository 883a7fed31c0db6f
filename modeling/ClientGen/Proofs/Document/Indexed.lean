import ClientGen.Discriminators
import ClientGen.Proofs.Schema.Inside

namespace ClientGen

open Json (Part Reader)

theorem Dict.mem_put {α : Type} {d : Dict α} {name : String} {value : α} {e : String × α}
    (h : e ∈ d.put name value) : e ∈ d ∨ e = (name, value) := by
  induction d with
  | nil => exact .inr (List.mem_singleton.1 h)
  | cons p rest ih =>
    obtain ⟨k, v⟩ := p
    unfold put at h
    split at h
    · next hk =>
      subst hk
      rcases List.mem_cons.1 h with rfl | h
      · exact .inr rfl
      · exact .inl (List.mem_cons_of_mem _ h)
    · rcases List.mem_cons.1 h with rfl | h
      · exact .inl List.mem_cons_self
      · exact (ih h).imp_left (List.mem_cons_of_mem _)

namespace Discriminators

variable {schemas : Dict Schema} {Known : String → Prop} {index : Discriminators}

def components (schemas : Dict Schema) : List String := schemas.keys.map Reference.ofComponent

/-- The index holds components only, and their subtypes are components or known otherwise. -/
def Indexes (schemas : Dict Schema) (Known : String → Prop) (index : Discriminators) : Prop :=
  ∀ e ∈ index, e.1 ∈ components schemas ∧
    ∀ r ∈ e.2.mapping.values, Known r ∨ r ∈ components schemas

theorem Indexes.put {r : String} {d : Discriminating} (h : Indexes schemas Known index)
    (hr : r ∈ components schemas) (hd : ∀ q ∈ d.mapping.values, Known q ∨ q ∈ components schemas) :
    Indexes schemas Known (Dict.put index r d) := by
  intro e he
  rcases Dict.mem_put he with he | rfl
  · exact h e he
  · exact ⟨hr, hd⟩

theorem mem_components {e : String × Schema} (he : e ∈ schemas) :
    Reference.ofComponent e.1 ∈ components schemas :=
  List.mem_map.2 ⟨e.1, List.mem_map.2 ⟨e, he, rfl⟩, rfl⟩

theorem values_adopt {d : Discriminating} {name r : String}
    (h : r ∈ (d.adopt name).mapping.values) :
    r ∈ d.mapping.values ∨ r = Reference.ofComponent name := by
  unfold Discriminating.adopt at h
  dsimp only at h
  split at h
  · exact .inl h
  · obtain ⟨e, he, rfl⟩ := List.mem_map.1 h
    rcases Dict.mem_put he with he | rfl
    · exact .inl (List.mem_map.2 ⟨e, he, rfl⟩)
    · exact .inr rfl

theorem indexes_declared (h : ∀ e ∈ schemas, ∀ r, e.2.Mentions r → Known r) :
    Indexes schemas Known (declared schemas) := by
  refine List.foldlRecOn schemas _ (motive := Indexes schemas Known) nofun ?_
  intro index hindex e he
  split
  · next d hd =>
    refine hindex.put (mem_components he) fun r hr => .inl (h e he r ?_)
    unfold declared? at hd
    split at hd
    · next d' hd' _ _ =>
      cases hd
      exact .mapped hd' hr
    · cases hd
  · exact hindex

theorem Indexes.adoptBranch {e : String × Schema} (h : Indexes schemas Known index)
    (he : e ∈ schemas) (branch : Schema) :
    Indexes schemas Known (adoptBranch e.1 index branch) := by
  unfold Discriminators.adoptBranch
  split
  · exact h
  · next parent _ =>
    split
    · exact h
    · next d hd =>
      obtain ⟨hparent, hvalues⟩ := h _ (Dict.mem_of_get? hd)
      refine h.put hparent fun r hr => ?_
      rcases values_adopt hr with hr | rfl
      · exact hvalues r hr
      · exact .inr (mem_components he)

theorem indexes_ofSchemas (h : ∀ e ∈ schemas, ∀ r, e.2.Mentions r → Known r) :
    Indexes schemas Known (ofSchemas schemas) := by
  refine List.foldlRecOn schemas _ (motive := Indexes schemas Known) (indexes_declared h) ?_
  intro index hindex e he
  refine List.foldlRecOn _ _ (motive := Indexes schemas Known) hindex ?_
  intro index hindex branch _
  exact hindex.adoptBranch he branch

end Discriminators

namespace Document

variable {tree : Json} {document : Document}

def reads (tree : Json) (p : Document → Bool) : Bool :=
  match ofJson tree with
  | .ok document => p document
  | .error _ => false

theorem exists_ofJson {p : Document → Bool} (h : reads tree p = true) :
    ∃ document, ofJson tree = .ok document ∧ p document = true := by
  unfold reads at h
  split at h
  · next document hread => exact ⟨document, hread, h⟩
  · cases h

theorem record_of_ofJson {components : Components} (h : ofJson tree = .ok document)
    (hc : document.components = some components) : ∃ r, tree.record? 6 = some r ∧
      r.optional 5 "components" Components.read = some (some components) := by
  unfold ofJson at h
  split at h
  · cases h
  · next d hd =>
    split at h
    · cases h
    · cases h
      simp only [Document.read, Option.bind_eq_bind, Option.bind_eq_some_iff, Option.pure_def,
        Option.some.injEq] at hd
      obtain ⟨r, hr, _, -, _, -, _, -, _, -, _, -, _, hcomponents, rfl⟩ := hd
      cases hc
      exact ⟨r, hr, hcomponents⟩

theorem record_of_read {components : Components} {j : Json}
    (h : Components.read j = some components) : ∃ r, j.record? 1 = some r ∧
      r.defaulted 0 "schemas" (Reader.dict Schema.read) [] = some components.schemas := by
  simp only [Components.read, Option.bind_eq_bind, Option.bind_eq_some_iff, Option.pure_def,
    Option.some.injEq] at h
  obtain ⟨r, hr, _, hschemas, rfl⟩ := h
  exact ⟨r, hr, hschemas⟩

theorem components_of_ofJson {components : Components} (h : ofJson tree = .ok document)
    (hc : document.components = some components) : components.schemas.length ≤ tree.size ∧
      ∀ e ∈ components.schemas, ∃ k, Part k tree ∧ Schema.read k = some e.2 := by
  obtain ⟨r, hr, hcomponents⟩ := record_of_ofJson h hc
  obtain ⟨j, hj, hread⟩ := Json.Record.exists_of_optional hr hcomponents
  obtain ⟨r', hr', hschemas⟩ := record_of_read hread
  rcases Json.Record.exists_of_defaulted hr' hschemas with hnil | ⟨i, hi, hread⟩
  · rw [hnil]
    exact ⟨Nat.zero_le _, nofun⟩
  · have hpart : Part i tree := (Part.child hi).trans (.child hj)
    have hlength := Reader.length_dict_lt hread
    refine ⟨Nat.le_trans (Nat.le_of_lt hlength) hpart.size_le, fun e he => ?_⟩
    obtain ⟨k, hk, hread⟩ := Reader.exists_of_dict hread e he
    exact ⟨k, (Part.child hk).trans hpart, hread⟩

/-- The discriminating components of a document, and the subtypes of each. -/
theorem discriminators_of_ofJson (h : ofJson tree = .ok document) :
    ∃ names : List String, names.length ≤ tree.size ∧
      ∀ r d, (Discriminators.ofDocument document).get? r = some d →
        r ∈ names ∧ ∀ q ∈ d.mapping.values, q ∈ tree.texts ++ names := by
  cases hc : document.components with
  | none =>
    refine ⟨[], Nat.zero_le _, fun r d hd => ?_⟩
    unfold Discriminators.ofDocument at hd
    rw [hc] at hd
    cases hd
  | some components =>
    obtain ⟨hlength, hparts⟩ := components_of_ofJson h hc
    refine ⟨Discriminators.components components.schemas, ?_, fun r d hd => ?_⟩
    · unfold Discriminators.components Dict.keys
      rwa [List.length_map, List.length_map]
    · unfold Discriminators.ofDocument at hd
      rw [hc] at hd
      have hknown : ∀ e ∈ components.schemas, ∀ r, e.2.Mentions r → r ∈ tree.texts := by
        intro e he r hr
        obtain ⟨k, hk, hread⟩ := hparts e he
        exact hk.texts_subset (Schema.mem_texts_of_mentions hread hr)
      obtain ⟨hr, hvalues⟩ :=
        Discriminators.indexes_ofSchemas hknown _ (Dict.mem_of_get? hd)
      exact ⟨hr, fun q hq => List.mem_append.2 (hvalues q hq)⟩

end Document

end ClientGen
