import ClientGen.Proofs.Typing.Inlines
import ClientGen.Proofs.Typing.Members
import ClientGen.Proofs.Typing.SubtypeUnion

namespace ClientGen

open Run TypeScript

def Schema.untagged (s : Schema) : Schema := { s with discriminator := none }

theorem Schema.kind_of_allOf {x : Schema} {branches : List Schema} (hr : x.reference = none)
    (hone : x.oneOf = none) (hany : x.anyOf = none) (hd : x.discriminator = none)
    (hall : x.allOf = some branches) : x.kind = .allOf branches := by
  rw [kind, hr, hone, hany, hd, hall]

namespace Setting

open TypeExpr

variable {c : Setting} {types : List TypeDecl} {typing : Typing} {n : Nat} {view : View}
  {name component skip : Option String} {p r : String} {x y b : Schema} {branches : List Schema}
  {d : Discriminating} {s s' v : Session} {t t' : TypeExpr} {ts : List TypeExpr}

theorem mem_keys_propertiesOf : p ∈ Dict.keys (c.propertiesOf view skip y) ↔
    skip ≠ some p ∧ p ∈ Dict.keys (c.propertiesOf view none y) := by
  simp only [Dict.keys, propertiesOf, List.mem_map, List.mem_filter, Bool.and_eq_true,
    decide_eq_true_eq]
  constructor
  · rintro ⟨e, ⟨he, hskip, hkeeps⟩, rfl⟩
    exact ⟨hskip, e, ⟨he, (Option.some_ne_none e.1).symm, hkeeps⟩, rfl⟩
  · rintro ⟨hskip, e, ⟨he, -, hkeeps⟩, rfl⟩
    exact ⟨e, ⟨he, hskip, hkeeps⟩, rfl⟩

theorem names_members {properties : List (String × Schema)} (h : ts.length = properties.length) :
    (List.zipWith (c.member x) properties ts).map Member.name = Dict.keys properties := by
  induction properties generalizing ts with
  | nil => rfl
  | cons property properties ih =>
    obtain ⟨t, ts, rfl⟩ := List.exists_cons_of_length_eq_add_one h
    rw [List.zipWith_cons_cons, List.map_cons, ih (Nat.succ.inj h)]
    rfl

theorem has_objectType (h : (c.objectType typing view skip y).Gives s t s') :
    t.Has types p ↔ p ∈ Dict.keys (c.propertiesOf view skip y) := by
  obtain ⟨ts, s₁, is, hts, -, rfl⟩ := objectType_gives.1 h
  have hlength : ts.length = (c.propertiesOf view skip y).length := by
    simpa using hts.length_eq
  rw [has_object, names_members hlength]

/-- A branch of a schema that stands under a component brings a property: one of its own type, or if
it refers to a discriminating component, the tag of the component at this place or another property
of the discriminating one. -/
def Brings (c : Setting) (types : List TypeDecl) (v : Session) (view : View)
    (component : Option String) (b : Schema) (p : String) : Prop :=
  match c.parent? b with
  | none => ∃ t, (c.typing { view } b).Gives v t v ∧ t.Has types p
  | some (r, d) =>
    (d.property = some p ∧ (component.bind d.tag?).isSome) ∨
      ∃ y, c.schema r = .ok y ∧ p ∈ Dict.keys (c.propertiesOf view d.property y)

theorem has_branchTags (h : c.parent? b = some (r, d)) :
    (∃ u ∈ c.branchTags component b, u.Has types p) ↔
      d.property = some p ∧ (component.bind d.tag?).isSome := by
  unfold branchTags
  rw [h]
  dsimp only
  cases d.property with
  | none => simp
  | some property =>
    cases component.bind d.tag? with
    | none => simp
    | some tag => simp [has_tag]

theorem has_branch (hn : n ≤ c.depth)
    (hok : ∀ r d, c.parent? b = some (r, d) → ∃ y, c.schema r = .ok y)
    (h : (c.pieceType (c.typingWithin n) view (c.branchPiece b)).Gives s t s')
    (hv : c.Later s' v) : (∃ u ∈ c.branchTags component b ++ [t], u.Has types p) ↔
      c.Brings types v view component b p := by
  have hsplit : (∃ u ∈ c.branchTags component b ++ [t], u.Has types p) ↔
      (∃ u ∈ c.branchTags component b, u.Has types p) ∨ t.Has types p := by
    simp [or_and_right, exists_or]
  rw [hsplit]
  cases hb : c.parent? b with
  | none =>
    have hnone : c.branchTags component b = [] := by
      rw [branchTags, hb]
    rw [branchPiece, hb] at h
    have hagain : (c.typing { view } b).Gives v t v :=
      typingWithin_repeats hn hn h hv (not_differs_self _)
    rw [hnone, Brings, hb]
    constructor
    · rintro (⟨_, hu, -⟩ | ht)
      · cases hu
      · exact ⟨t, hagain, ht⟩
    · rintro ⟨t', ht', h'⟩
      obtain ⟨rfl, -⟩ := hagain.unique ht'
      exact .inr h'
  | some found =>
    obtain ⟨r, d⟩ := found
    obtain ⟨y, hy⟩ := hok r d hb
    rw [branchPiece, hb] at h
    dsimp only at h
    rw [hy] at h
    rw [has_branchTags hb, has_objectType (t := t) h, Brings, hb]
    simp [hy, Except.toOption]

theorem has_branches (hn : n ≤ c.depth)
    (hok : ∀ b ∈ branches, ∀ r d, c.parent? b = some (r, d) → ∃ y, c.schema r = .ok y)
    (h : Each (c.pieceType (c.typingWithin n) view) (branches.map c.branchPiece) s ts s')
    (hv : c.Later s' v) :
    (∃ u ∈ (List.zipWith (fun b t => c.branchTags component b ++ [t]) branches ts).flatten,
      u.Has types p) ↔ ∃ b ∈ branches, c.Brings types v view component b p := by
  induction branches generalizing s ts with
  | nil => simp
  | cons b branches ih =>
    obtain ⟨hb, hok⟩ := List.forall_mem_cons.1 hok
    obtain ⟨t, s₁, ts, hhead, htail, rfl⟩ := each_cons.1 h
    have hlater := (later_pieces hn htail).trans hv
    have hbranch : (∃ u ∈ c.branchTags component b ++ [t], u.Has types p) ↔
        c.Brings types v view component b p := has_branch hn hb hhead hlater
    have hrest := ih hok htail
    simp only [List.zipWith_cons_cons, List.flatten_cons, List.mem_append, or_and_right, exists_or,
      List.mem_cons, exists_eq_left] at hbranch hrest ⊢
    rw [hrest, hbranch]

theorem has_own (h : Each (c.pieceType typing view)
      (if x.properties.isSome then [.object none x] else []) s ts s') :
    (∃ u ∈ ts, u.Has types p) ↔ p ∈ Dict.keys (c.propertiesOf view none x) := by
  split at h
  · obtain ⟨t, s₁, _, ht, hnil, rfl⟩ := each_cons.1 h
    obtain ⟨rfl, -⟩ := each_nil.1 hnil
    have hobject : t.Has types p ↔ p ∈ Dict.keys (c.propertiesOf view none x) := has_objectType ht
    simpa using hobject
  · next hnone =>
    obtain ⟨rfl, -⟩ := each_nil.1 h
    have hproperties : x.properties = none := by simpa using hnone
    simp [propertiesOf, hproperties]

theorem has_nullable {q : Prop} [Decidable q] :
    (if q then t.orKeyword .null else t).Has types p ↔ t.Has types p := by
  split
  · exact has_orKeyword
  · rfl

theorem has_allOf (hkind : x.kind = .allOf branches)
    (h : (c.typing { view, name, component } x).Gives s t s') (hv : c.Later s' v) :
    t.Has types p ↔ p ∈ Dict.keys (c.propertiesOf view none x) ∨
      ∃ b ∈ branches, c.Brings types v view component b p := by
  obtain ⟨n, hn, hok, _, hts, rfl⟩ := exists_pieces h
  simp only [Sensible, pieces, hkind] at hok hts
  obtain ⟨ts, s₁, own, hbranches, hown, rfl⟩ := each_append.1 hts
  have hlength : ts.length = branches.length := by simpa using hbranches.length_eq
  have hassemble : c.assemble component x (ts ++ own) = .intersection
      ((List.zipWith (fun b t => c.branchTags component b ++ [t]) branches ts).flatten ++ own) := by
    unfold assemble
    rw [hkind]
    dsimp only
    rw [List.take_left' hlength, List.drop_left' hlength]
  have hlater := (later_pieces hn hown).trans hv
  have howns : (∃ u ∈ own, u.Has types p) ↔ p ∈ Dict.keys (c.propertiesOf view none x) :=
    has_own hown
  rw [has_nullable, hassemble, has_intersection, ← howns, ← has_branches hn hok hbranches hlater]
  simp only [List.mem_append, or_and_right, exists_or]
  exact or_comm

theorem schema_of_branch (hkind : x.kind = .allOf branches)
    (h : (c.typing { view, name, component } x).Gives s t s') (hb : b ∈ branches)
    (hr : c.parent? b = some (r, d)) : ∃ y, c.schema r = .ok y := by
  obtain ⟨_, -, hok, -⟩ := exists_pieces h
  simp only [Sensible, hkind] at hok
  exact hok b hb r d hr

theorem has_object_of_kind (hkind : x.kind = .object)
    (h : (c.typing { view, name, component } x).Gives s t s') :
    t.Has types p ↔ p ∈ Dict.keys (c.propertiesOf view none x) := by
  obtain ⟨_, -, -, ts, hts, rfl⟩ := exists_pieces h
  simp only [pieces, assemble, hkind] at hts ⊢
  obtain ⟨t, s₁, _, ht, hnil, rfl⟩ := each_cons.1 hts
  rw [has_nullable]
  exact has_objectType ht

/-- What a discriminating component inherits: what its branches bring, or if it is neither an object
nor has branches, whatever its type has, its discriminator apart. -/
def Inherits (c : Setting) (types : List TypeDecl) (v : Session) (view : View) (r : String)
    (y : Schema) (p : String) : Prop :=
  match y.untagged.kind with
  | .object => False
  | .allOf branches => ∃ b ∈ branches, c.Brings types v view (some r) b p
  | _ => ∃ t, (c.typing { view, component := some r } y.untagged).Gives v t v ∧ t.Has types p

theorem again (h : (c.typing { view, name, component } x).Gives s t s') :
    (c.typing { view, name, component } x).Gives s' t s' :=
  typingWithin_repeats (Nat.le_refl _) (Nat.le_refl _) h (.refl c s') (not_differs_self _)

theorem later_typing (h : (c.typing { view, name, component } x).Gives s t s') : c.Later s s' :=
  (c.growth.obeys_typingWithin (Nat.le_refl _) _ _ _ _ _ h).1.later

theorem has_of_inherits (h : (c.typing { view, component := some r } y.untagged).Gives s t v)
    (hp : c.Inherits types v view r y p) : t.Has types p := by
  unfold Inherits at hp
  split at hp
  · cases hp
  · next branches hkind => exact (has_allOf hkind h (.refl c v)).2 (.inr hp)
  · obtain ⟨t', ht', hp⟩ := hp
    obtain ⟨rfl, -⟩ := (again h).unique ht'
    exact hp

/-- Without its discriminator, a component has nothing but its own properties and what it
inherits. -/
theorem own_or_inherits (h : (c.typing { view, component := some r } y.untagged).Gives s t v)
    (hp : t.Has types p) :
    p ∈ Dict.keys (c.propertiesOf view none y) ∨ c.Inherits types v view r y p := by
  unfold Inherits
  split
  · next hkind => exact .inl ((has_object_of_kind hkind h).1 hp)
  · next branches hkind => exact (has_allOf hkind h (.refl c v)).1 hp
  · exact .inr ⟨t, again h, hp⟩

theorem brings_parent (hr : c.parent? b = some (r, d)) (hy : c.schema r = .ok y)
    (hp : d.property ≠ some p) : c.Brings types v view component b p ↔
      p ∈ Dict.keys (c.propertiesOf view none y) := by
  have hkept : p ∈ Dict.keys (c.propertiesOf view d.property y) ↔
      p ∈ Dict.keys (c.propertiesOf view none y) := by
    rw [mem_keys_propertiesOf]
    exact and_iff_right hp
  simp [Brings, hr, hy, hp, hkept]

/-- Besides its tag, a schema with a branch to a discriminating component has the properties of the
component, its own, and those that branches to others bring. -/
theorem has_extending (hkind : x.kind = .allOf branches)
    (h : (c.typing { view, name, component } x).Gives s t s') (hv : c.Later s' v)
    (hb : b ∈ branches) (hr : c.parent? b = some (r, d)) (hy : c.schema r = .ok y)
    (hp : d.property ≠ some p) : t.Has types p ↔
      p ∈ Dict.keys (c.propertiesOf view none y) ∨ p ∈ Dict.keys (c.propertiesOf view none x) ∨
        ∃ b' ∈ branches, b'.reference ≠ some r ∧ c.Brings types v view component b' p := by
  obtain ⟨href, hd⟩ := parent?_eq_some.1 hr
  rw [has_allOf hkind h hv]
  constructor
  · rintro (hown | ⟨b', hb', hbrings⟩)
    · exact .inr (.inl hown)
    · -- Another branch to the same component brings what `b` brings.
      by_cases href' : b'.reference = some r
      · exact .inl ((brings_parent (parent?_eq_some.2 ⟨href', hd⟩) hy hp).1 hbrings)
      · exact .inr (.inr ⟨b', hb', href', hbrings⟩)
  · rintro (hparent | hown | ⟨b', hb', -, hbrings⟩)
    · exact .inr ⟨b, hb, (brings_parent hr hy hp).2 hparent⟩
    · exact .inl hown
    · exact .inr ⟨b', hb', hbrings⟩

/-- A schema with a branch to a discriminating component has the properties of the component, the
tag apart. What the component inherits it has just if each such property is found once more: in the
component itself, in the schema, or through another branch. -/
theorem extending_iff (hkind : x.kind = .allOf branches)
    (h : (c.typing { view, name, component } x).Gives s t s') (hb : b ∈ branches)
    (hr : c.parent? b = some (r, d)) (types : List TypeDecl) : ∃ y, c.schema r = .ok y ∧
      (∀ p ∈ Dict.keys (c.propertiesOf view none y), d.property ≠ some p → t.Has types p) ∧
      ∀ t' v, (c.typing { view, component := some r } y.untagged).Gives s' t' v →
        ((∀ p, t'.Has types p → d.property ≠ some p → t.Has types p) ↔
          ∀ p, c.Inherits types v view r y p → d.property ≠ some p →
            p ∈ Dict.keys (c.propertiesOf view none y) ∨
            p ∈ Dict.keys (c.propertiesOf view none x) ∨
            ∃ b' ∈ branches, b'.reference ≠ some r ∧ c.Brings types v view component b' p) := by
  obtain ⟨y, hy⟩ := schema_of_branch hkind h hb hr
  refine ⟨y, hy, ?_, ?_⟩
  · intro p hp hne
    exact (has_extending hkind h (.refl c s') hb hr hy hne).2 (.inl hp)
  · intro t' v h'
    -- Both types are looked at in the last session, where all branches repeat their types.
    have hlater := later_typing h'
    constructor
    · intro hkeeps p hp hne
      have hhas := hkeeps p (has_of_inherits h' hp) hne
      exact (has_extending hkind h hlater hb hr hy hne).1 hhas
    · intro hfound p hp hne
      apply (has_extending hkind h hlater hb hr hy hne).2
      rcases own_or_inherits h' hp with hown | hinherits
      · exact .inl hown
      · exact hfound p hinherits hne

end Setting

/-- Pets extend animals, and dogs extend pets. -/
def Client.kennel : Json := .obj [
  ("openapi", .str "3.0.0"),
  ("info", .obj [("title", .str "Kennel"), ("version", .str "1")]),
  ("paths", .obj []),
  ("components", .obj [("schemas", .obj [
    ("Animal", .obj [("properties", .obj [("legs", .obj [("type", .str "integer")])])]),
    ("Pet", .obj [
      ("allOf", .arr [.obj [("$ref", .str "#/components/schemas/Animal")]]),
      ("discriminator", .obj [("propertyName", .str "kind")]),
      ("properties", .obj [
        ("kind", .obj [("type", .str "string")]), ("name", .obj [("type", .str "string")])])]),
    ("Dog", .obj [("allOf", .arr [
      .obj [("$ref", .str "#/components/schemas/Pet")],
      .obj [("properties", .obj [("bark", .obj [("type", .str "boolean")])])]])])])])]

namespace Setting

open TypeExpr

def typeDogs (c : Setting) : Run (TypeExpr × TypeExpr × List TypeDecl) := do
  let dog ← c.schema "#/components/schemas/Dog"
  let pet ← c.schema "#/components/schemas/Pet"
  let type ← c.typing { component := some "#/components/schemas/Dog" } dog
  let plain ← c.typing { component := some "#/components/schemas/Pet" } pet.untagged
  return (type, plain, (← get).types)

theorem exists_typeDogs : ∃ document dog pet branches b t s t' v,
    Document.ofJson Client.kennel = .ok document ∧
    let c := ofDocument Client.kennel document {}
    c.schema "#/components/schemas/Dog" = .ok dog ∧
    c.schema "#/components/schemas/Pet" = .ok pet ∧
    dog.kind = .allOf branches ∧ b ∈ branches ∧
    c.parent? b = some ("#/components/schemas/Pet",
      { property := some "kind", mapping := [("Dog", "#/components/schemas/Dog")] }) ∧
    (c.typing { component := some "#/components/schemas/Dog" } dog).Gives {} t s ∧
    (c.typing { component := some "#/components/schemas/Pet" } pet.untagged).Gives s t' v ∧
    t'.Has v.types "legs" ∧ ¬ t.Has v.types "legs" := by
  have hreads : Document.reads Client.kennel (fun document =>
      let c := ofDocument Client.kennel document {}
      c.typeDogs.succeeds (fun found =>
        found.1.furtherNames = [] && "legs" ∉ found.1.ownMembers &&
        "Animal" ∈ found.2.1.furtherNames && declares found.2.2 "Animal" "legs") {} &&
      (c.schema "#/components/schemas/Dog").toOption.any fun dog =>
        dog.reference = none && dog.oneOf.isNone && dog.anyOf.isNone && dog.discriminator = none &&
        dog.allOf.any fun branches => branches.any fun b =>
          c.parent? b = some ("#/components/schemas/Pet",
            { property := some "kind", mapping := [("Dog", "#/components/schemas/Dog")] })) =
      true := by
    decide +kernel
  obtain ⟨document, hread, h⟩ := Document.exists_ofJson hreads
  obtain ⟨hrun, h⟩ := Bool.and_eq_true_iff.1 h
  obtain ⟨dog, hdog, h⟩ := (Option.any_eq_true _ _).1 h
  simp only [Bool.and_eq_true, decide_eq_true_eq, Option.isNone_iff_eq_none] at h
  obtain ⟨⟨⟨⟨hr, hone⟩, hany⟩, hd⟩, hall⟩ := h
  obtain ⟨branches, hbranches, hb⟩ := (Option.any_eq_true _ _).1 hall
  obtain ⟨b, hb, hparent⟩ := List.any_eq_true.1 hb
  have hkind : dog.kind = .allOf branches := Schema.kind_of_allOf hr hone hany hd hbranches
  obtain ⟨found, _, hgives, htest⟩ := exists_gives hrun
  simp only [typeDogs, gives_bind, gives_lift, gives_get, gives_pure] at hgives
  obtain ⟨dog', _, ⟨hdog', rfl⟩, pet, _, ⟨hpet, rfl⟩, t, s, ht, t', v, ht', _, _, ⟨rfl, rfl⟩, rfl,
    -⟩ := hgives
  rw [hdog'] at hdog
  cases hdog
  simp only [Bool.and_eq_true, decide_eq_true_eq] at htest
  obtain ⟨⟨⟨hnone, hmembers⟩, hanimal⟩, hlegs⟩ := htest
  exact ⟨document, dog, pet, branches, b, t, s, t', _, hread, hdog', hpet, hkind, hb,
    of_decide_eq_true hparent, ht, ht', has_of_declares hanimal hlegs,
    not_has_of_ownMembers hnone hmembers⟩

theorem extending_iff_dogs : ∃ document dog pet branches b t s t' v,
    Document.ofJson Client.kennel = .ok document ∧
    let c := ofDocument Client.kennel document {}
    dog.kind = .allOf branches ∧ b ∈ branches ∧
    (c.typing { component := some "#/components/schemas/Dog" } dog).Gives {} t s ∧
    c.schema "#/components/schemas/Pet" = .ok pet ∧
    (c.typing { component := some "#/components/schemas/Pet" } pet.untagged).Gives s t' v ∧
    (∀ p ∈ Dict.keys (c.propertiesOf .base none pet), some "kind" ≠ some p → t.Has v.types p) ∧
    ((∀ p, t'.Has v.types p → some "kind" ≠ some p → t.Has v.types p) ↔
      ∀ p, c.Inherits v.types v .base "#/components/schemas/Pet" pet p → some "kind" ≠ some p →
        p ∈ Dict.keys (c.propertiesOf .base none pet) ∨
        p ∈ Dict.keys (c.propertiesOf .base none dog) ∨
        ∃ b' ∈ branches, b'.reference ≠ some "#/components/schemas/Pet" ∧
          c.Brings v.types v .base (some "#/components/schemas/Dog") b' p) := by
  obtain ⟨document, dog, pet, branches, b, t, s, t', v, hread, -, hpet, hkind, hb, hparent, ht, ht',
    -⟩ := exists_typeDogs
  obtain ⟨y, hy, hown, hiff⟩ := extending_iff hkind ht hb hparent v.types
  cases hpet.symm.trans hy
  exact ⟨document, dog, pet, branches, b, t, s, t', v, hread, hkind, hb, ht, hpet, ht', hown,
    hiff t' v ht'⟩

/-- Without its discriminator a pet would have legs, as animals do. A dog has none, although it
extends pets. -/
theorem dog_without_legs : ∃ document dog pet branches b d t s t' v,
    Document.ofJson Client.kennel = .ok document ∧
    let c := ofDocument Client.kennel document {}
    c.schema "#/components/schemas/Dog" = .ok dog ∧
    c.schema "#/components/schemas/Pet" = .ok pet ∧
    dog.kind = .allOf branches ∧ b ∈ branches ∧
    c.parent? b = some ("#/components/schemas/Pet", d) ∧
    (c.typing { component := some "#/components/schemas/Dog" } dog).Gives {} t s ∧
    (c.typing { component := some "#/components/schemas/Pet" } pet.untagged).Gives s t' v ∧
    t'.Has v.types "legs" ∧ d.property ≠ some "legs" ∧ ¬ t.Has v.types "legs" := by
  obtain ⟨document, dog, pet, branches, b, t, s, t', v, hread, hdog, hpet, hkind, hb, hparent, ht,
    ht', hlegs, hnone⟩ := exists_typeDogs
  exact ⟨document, dog, pet, branches, b, _, t, s, t', v, hread, hdog, hpet, hkind, hb, hparent, ht,
    ht', hlegs, by simp, hnone⟩

end Setting

end ClientGen
