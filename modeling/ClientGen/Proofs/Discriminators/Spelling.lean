import ClientGen.Proofs.Discriminators.Completion
import ClientGen.Proofs.Typing.Pieces

namespace ClientGen

open Reference (componentPath ofComponent ofComponent_injective readBack readBack_eq_iff segments
  segments_ofComponent)
open Text.Percent (HasEscape)

variable {tree : Json} {fields : Dict Json} {document : Document} {components : Components}
  {schemas : Dict Schema} {r name other : String} {x : Schema}

theorem Discriminators.isSome_get?_ofSchemas (hkeys : schemas.keys.Nodup) :
    ((ofSchemas schemas).get? r).isSome ↔
      ∃ name x, (name, x) ∈ schemas ∧ x.Discriminates ∧ r = ofComponent name := by
  rw [Option.isSome_iff_ne_none, ne_eq, Dict.get?_eq_none_iff, not_not, keys_ofSchemas,
    keys_declared hkeys, List.mem_map]
  constructor
  · rintro ⟨e, he, rfl⟩
    obtain ⟨he, hd⟩ := List.mem_filter.1 he
    exact ⟨e.1, e.2, he, of_decide_eq_true hd, rfl⟩
  · rintro ⟨name, x, hx, hd, rfl⟩
    exact ⟨(name, x), List.mem_filter.2 ⟨hx, decide_eq_true hd⟩, rfl⟩

theorem Reference.readBack_of_segments (hr : segments r = .ok ["components", "schemas", name])
    (h : r = ofComponent other) : readBack other = name := by
  subst h
  cases (segments_ofComponent other).symm.trans hr
  rfl

namespace Setting

variable {c : Setting}

theorem branchTypes_of_get?_eq_none (h : c.discriminators.get? r = none) (typing : Typing)
    (place : Place) {branch : Schema} (hbranch : branch.reference = some r) :
    c.branchTypes typing place branch = do return [← typing { view := place.view } branch] := by
  unfold branchTypes
  rw [hbranch, Option.bind_some, h]
  rfl

theorem subtypes_of_get?_eq_none (h : c.discriminators.get? r = none) {place : Place}
    (hplace : place.component = some r) (d : Discriminator) :
    c.subtypes place d = (d.mapping.getD []).values := by
  unfold subtypes
  rw [hplace, Option.bind_some, h]

theorem subtypes_of_get? {known : Discriminating} (h : c.discriminators.get? r = some known)
    {place : Place} (hplace : place.component = some r) (d : Discriminator) :
    c.subtypes place d = known.mapping.values := by
  unfold subtypes
  rw [hplace, Option.bind_some, h]

theorem discriminators_ofDocument (options : Options)
    (hcomponents : document.components = some components) :
    (ofDocument tree document options).discriminators = .ofSchemas components.schemas := by
  show Discriminators.ofDocument document = _
  rw [Discriminators.ofDocument, hcomponents]

section Indexed

variable (options : Options) (hcomponents : document.components = some components)
  (hkeys : components.schemas.keys.Nodup)

include hcomponents hkeys

/-- A reference that leads to a component is indexed just if it is the one that is written to a
discriminating component whose name is read as that of the former. -/
theorem isSome_discriminators_iff (hr : segments r = .ok ["components", "schemas", name]) :
    ((ofDocument tree document options).discriminators.get? r).isSome ↔
      ∃ other y, (other, y) ∈ components.schemas ∧ y.Discriminates ∧ r = ofComponent other ∧
        readBack other = name := by
  rw [discriminators_ofDocument options hcomponents, Discriminators.isSome_get?_ofSchemas hkeys]
  constructor
  · rintro ⟨other, y, hy, hd, hother⟩
    exact ⟨other, y, hy, hd, hother, Reference.readBack_of_segments hr hother⟩
  · rintro ⟨other, y, hy, hd, hother, -⟩
    exact ⟨other, y, hy, hd, hother⟩

theorem isSome_discriminators_iff_eq (hr : segments r = .ok ["components", "schemas", name])
    (hx : (name, x) ∈ components.schemas) (hdiscriminates : x.Discriminates)
    (hnames : ∀ other ∈ components.schemas.keys, ¬ HasEscape other.toList) :
    ((ofDocument tree document options).discriminators.get? r).isSome ↔ r = ofComponent name := by
  rw [isSome_discriminators_iff options hcomponents hkeys hr]
  constructor
  · rintro ⟨other, y, hy, -, hother, hback⟩
    have hname : ¬ HasEscape other.toList := hnames other (List.mem_map.2 ⟨_, hy, rfl⟩)
    rw [hother, ← hback, readBack_eq_iff.2 hname]
  · rintro rfl
    exact ⟨name, x, hx, hdiscriminates, rfl, Reference.readBack_of_segments hr rfl⟩

/-- Under the reference that is written to it, a component has its completed mapping. -/
theorem exists_completed (hx : (name, x) ∈ components.schemas) (hdiscriminates : x.Discriminates) :
    let c := ofDocument tree document options
    ∃ d full added, x.discriminator = some d ∧
      Discriminators.Completes components.schemas name (d.mapping.getD []) full added ∧
      c.discriminators.get? (ofComponent name) =
        some { property := d.propertyName, mapping := full } ∧
      ∀ place, place.component = some (ofComponent name) → c.subtypes place d = full.values := by
  intro c
  obtain ⟨hd, hone, hany⟩ := hdiscriminates
  obtain ⟨d, hd⟩ := Option.isSome_iff_exists.1 hd
  obtain ⟨full, added, hget, hcompletes⟩ := Discriminators.exists_completes hkeys hx hd hone hany
  rw [← discriminators_ofDocument options hcomponents] at hget
  exact ⟨d, full, added, hd, hcompletes, hget, fun place hplace => subtypes_of_get? hget hplace d⟩

end Indexed

/-- However a reference to a discriminating component is spelled, it leads to the schema of the
component. It is indexed just if it is the reference that is written to a discriminating component
whose name is read from it; where no name of a component holds the escape of a byte, just if it is
the one that is written to the component itself. Under that one the mapping is completed. Under a
spelling that is not indexed, the subtypes are those that the document lists, and a branch is typed
without a tag. -/
theorem indexed_iff_written (hread : Document.ofJson tree = .ok document)
    (hcomponents : document.components = some components)
    (h : tree.at? componentPath = some (.obj fields)) (hkeys : components.schemas.keys.Nodup)
    (hr : segments r = .ok ["components", "schemas", name])
    (hx : (name, x) ∈ components.schemas) (hdiscriminates : x.Discriminates)
    (options : Options) :
    let c := ofDocument tree document options
    c.schema r = .ok x ∧
    ((c.discriminators.get? r).isSome ↔ ∃ other y, (other, y) ∈ components.schemas ∧
      y.Discriminates ∧ r = ofComponent other ∧ readBack other = name) ∧
    ((∀ other ∈ components.schemas.keys, ¬ HasEscape other.toList) →
      ((c.discriminators.get? r).isSome ↔ r = ofComponent name)) ∧
    (∃ d full added, x.discriminator = some d ∧
      Discriminators.Completes components.schemas name (d.mapping.getD []) full added ∧
      c.discriminators.get? (ofComponent name) =
        some { property := d.propertyName, mapping := full } ∧
      ∀ place, place.component = some (ofComponent name) → c.subtypes place d = full.values) ∧
    (c.discriminators.get? r = none →
      (∀ place d, place.component = some r → c.subtypes place d = (d.mapping.getD []).values) ∧
      ∀ typing place branch, branch.reference = some r → c.branchTypes typing place branch =
        do return [← typing { view := place.view } branch]) := by
  intro c
  refine ⟨?_, ?_, ?_, ?_, fun hnone => ⟨?_, ?_⟩⟩
  · exact schema_of_segments hread hcomponents h hr (Dict.get?_of_mem hkeys hx)
  · exact isSome_discriminators_iff options hcomponents hkeys hr
  · exact isSome_discriminators_iff_eq options hcomponents hkeys hr hx hdiscriminates
  · exact exists_completed options hcomponents hkeys hx hdiscriminates
  · exact fun place d hplace => subtypes_of_get?_eq_none hnone hplace d
  · exact fun typing place branch hbranch => branchTypes_of_get?_eq_none hnone typing place hbranch

end Setting

/-- Big pets are told apart by their kind. A dog and a cat extend them, the cat by another spelling
of the reference. -/
def Client.shelter : Json := .obj [
  ("info", .obj [("title", .str "Shelter"), ("version", .str "1")]),
  ("paths", .obj []),
  ("components", .obj [("schemas", .obj [
    ("Big Pet", .obj [
      ("discriminator", .obj [("propertyName", .str "kind")]),
      ("properties", .obj [
        ("kind", .obj [("type", .str "string")]), ("name", .obj [("type", .str "string")])])]),
    ("Dog", .obj [("allOf", .arr [.obj [("$ref", .str "#/components/schemas/Big Pet")]])]),
    ("Cat", .obj [("allOf", .arr [.obj [("$ref", .str "#/components/schemas/Big%20Pet")]])])])])]

theorem Setting.indexed_iff_written_shelter : ∃ document components x d, ∃ full : Dict String,
    Document.ofJson Client.shelter = .ok document ∧ document.components = some components ∧
    let c := ofDocument Client.shelter document {}
    c.schema "#/components/schemas/Big%20Pet" = .ok x ∧ x.discriminator = some d ∧
    c.subtypes { component := some "#/components/schemas/Big%20Pet" } d = [] ∧
    c.subtypes { component := some "#/components/schemas/Big Pet" } d = full.values ∧
    full = [("Dog", "#/components/schemas/Dog")] := by
  have hreads : Document.reads Client.shelter (fun document =>
      let c := ofDocument Client.shelter document {}
      document.components.any fun components =>
        decide (components.schemas.keys = ["Big Pet", "Dog", "Cat"]) &&
        (components.schemas.get? "Big Pet").any fun x => decide x.Discriminates &&
          decide (x.discriminator = some ⟨some "kind", none⟩) &&
          (c.discriminators.get? (ofComponent "Big Pet")).any (fun known =>
            known.mapping = [("Dog", "#/components/schemas/Dog")])) = true := by
    decide +kernel
  have hsegments : segments "#/components/schemas/Big%20Pet" =
      .ok ["components", "schemas", "Big Pet"] := by
    decide +kernel
  have hnames : ∀ name ∈ ["Big Pet", "Dog", "Cat"], readBack name = name := by
    decide +kernel
  have hwritten : ofComponent "Big Pet" = "#/components/schemas/Big Pet" := by
    decide +kernel
  obtain ⟨document, hread, hp⟩ := Document.exists_ofJson hreads
  obtain ⟨components, hcomponents, hp⟩ := (Option.any_eq_true _ _).1 hp
  obtain ⟨hkeys, hp⟩ := Bool.and_eq_true_iff.1 hp
  have hkeys := of_decide_eq_true hkeys
  obtain ⟨x, hx, hp⟩ := (Option.any_eq_true _ _).1 hp
  simp only [Bool.and_eq_true, decide_eq_true_eq] at hp
  obtain ⟨⟨hdiscriminates, hd⟩, hknown⟩ := hp
  obtain ⟨known, hknown, hfull⟩ := (Option.any_eq_true _ _).1 hknown
  have hnodup : components.schemas.keys.Nodup := by
    rw [hkeys]
    decide
  obtain ⟨hschema, -, hcanonical, ⟨d, full, added, hd', -, hget, hsubtypes⟩, hmissed⟩ :=
    indexed_iff_written hread hcomponents rfl hnodup hsegments (Dict.mem_of_get? hx)
      hdiscriminates {}
  have hnone : (ofDocument Client.shelter document {}).discriminators.get?
      "#/components/schemas/Big%20Pet" = none := by
    rw [← Option.not_isSome_iff_eq_none, hcanonical, hwritten]
    · decide
    · intro name hname
      exact readBack_eq_iff.1 (hnames name (hkeys ▸ hname))
  cases hd.symm.trans hd'
  cases hknown.symm.trans hget
  refine ⟨document, components, x, _, full, hread, hcomponents, hschema, hd,
    (hmissed hnone).1 _ _ rfl, hsubtypes _ (congrArg some hwritten.symm), of_decide_eq_true hfull⟩

/-- Two spellings lead to the same component. Under one of them it is indexed and gives a tag to a
dog, under the other one neither. -/
theorem Setting.branchTags_shelter : ∃ document,
    Document.ofJson Client.shelter = .ok document ∧
    Reference.lookup Client.shelter "#/components/schemas/Big%20Pet" =
      Reference.lookup Client.shelter "#/components/schemas/Big Pet" ∧
    let c := ofDocument Client.shelter document {}
    (c.discriminators.get? "#/components/schemas/Big Pet").isSome ∧
    (c.branchTags (some "#/components/schemas/Dog")
      (.ofReference "#/components/schemas/Big Pet")).length = 1 ∧
    c.discriminators.get? "#/components/schemas/Big%20Pet" = none ∧
    c.branchTags (some "#/components/schemas/Dog")
      (.ofReference "#/components/schemas/Big%20Pet") = [] := by
  have hreads : Document.reads Client.shelter (fun document =>
      let c := ofDocument Client.shelter document {}
      (c.discriminators.get? "#/components/schemas/Big Pet").isSome &&
      decide ((c.branchTags (some "#/components/schemas/Dog")
        (.ofReference "#/components/schemas/Big Pet")).length = 1) &&
      (c.discriminators.get? "#/components/schemas/Big%20Pet").isNone) = true := by
    decide +kernel
  obtain ⟨document, hread, hp⟩ := Document.exists_ofJson hreads
  simp only [Bool.and_eq_true, decide_eq_true_eq, Option.isNone_iff_eq_none] at hp
  obtain ⟨⟨hsome, htag⟩, hnone⟩ := hp
  refine ⟨document, hread, ?_, hsome, htag, hnone, ?_⟩
  · have hencoded : segments "#/components/schemas/Big%20Pet" =
        .ok ["components", "schemas", "Big Pet"] := by
      decide +kernel
    have hplain : segments "#/components/schemas/Big Pet" =
        .ok ["components", "schemas", "Big Pet"] := by
      decide +kernel
    rw [Reference.lookup_of_segments rfl hencoded, Reference.lookup_of_segments rfl hplain]
  · unfold branchTags parent?
    dsimp only [Schema.ofReference, Option.bind_some]
    rw [hnone]
    rfl

end ClientGen
