import ClientGen.Proofs.Run
import ClientGen.Typing

namespace ClientGen

open Run TypeScript

/-- A piece of a type, in no view yet. The views of a schema have the same pieces, put together in
the same way; they differ in the properties of objects and the names of references. -/
inductive Piece where
  /-- A schema, and the name and the component that it stands under. -/
  | schema (name component : Option String) (s : Schema)
  /-- The object that a schema describes, without the property to skip. -/
  | object (skip : Option String) (s : Schema)
  | reference (target : String)
  | enum (name : String) (s : Schema)

namespace Setting

variable {c : Setting} {typing : Typing} {view : View} {name component : Option String}
  {x : Schema} {s s' : Session} {t : TypeExpr}

def pieceType (c : Setting) (typing : Typing) (view : View) : Piece → Run TypeExpr
  | .schema name component s => typing { view, name, component } s
  | .object skip s => c.objectType typing view skip s
  | .reference target => c.referenceType typing view target
  | .enum name s => NamedEnum.declare s name

def parent? (c : Setting) (branch : Schema) : Option (String × Discriminating) :=
  branch.reference.bind fun r => (c.discriminators.get? r).map fun d => (r, d)

/-- The piece for a branch: the schema itself, or the object of the discriminating component that
it refers to, without the tag. -/
def branchPiece (c : Setting) (branch : Schema) : Piece :=
  match c.parent? branch with
  | none => .schema none none branch
  | some (r, d) => .object d.property ((c.schema r).toOption.getD {})

def branchTags (c : Setting) (component : Option String) (branch : Schema) : List TypeExpr :=
  match c.parent? branch with
  | none => []
  | some (_, d) =>
    match d.property, component.bind d.tag? with
    | some property, some tag => [.tag property tag]
    | _, _ => []

def variantTag (d : Discriminator) (variant : Schema) : TypeExpr :=
  let reference := variant.reference.getD ""
  let mapped := (d.mapping.getD []).find? fun entry => entry.2 = reference
  .tag (d.propertyName.getD "") ((mapped.map Prod.fst).getD (Reference.baseName reference))

def pieces (c : Setting) (name component : Option String) (s : Schema) : List Piece :=
  match s.kind with
  | .reference target => [.reference target]
  | .oneOf variants _ | .anyOf variants => variants.map (.schema none none)
  | .discriminated d =>
    match c.subtypes { component } d with
    | [] => [.schema name component { s with discriminator := none, nullable := none }]
    | targets => targets.map .reference
  | .allOf branches =>
    branches.map c.branchPiece ++ if s.properties.isSome then [.object none s] else []
  | .array items => [.schema name none items]
  | .tuple items => items.map (.schema none none)
  | .object => [.object none s]
  | .enum _ =>
    match name with
    | some name => if c.namesEnum s then [.enum name s] else []
    | none => []
  | .binary | .const _ | .primitive _ => []

/-- The type of a schema that stands under a component, null apart, by the types of its pieces. -/
def assemble (c : Setting) (component : Option String) (s : Schema) (ts : List TypeExpr) :
    TypeExpr :=
  match s.kind with
  | .reference _ | .object => ts.headD c.anyType
  | .oneOf variants (some d) =>
    .union (List.zipWith (fun variant t => .intersection [variantTag d variant, t]) variants ts)
  | .oneOf _ none | .anyOf _ => .union ts
  | .discriminated d =>
    match c.subtypes { component } d with
    | [] => ts.headD c.anyType
    | _ => .union ts
  | .allOf branches =>
    .intersection ((List.zipWith (fun b t => c.branchTags component b ++ [t]) branches
      (ts.take branches.length)).flatten ++ ts.drop branches.length)
  | .array _ => .array (ts.headD c.anyType)
  | .tuple _ => .tuple ts
  | .enum values => ts.headD (.ofValues values)
  | .binary => .named "Blob"
  | .const value => ((Literal.ofJson? value).map TypeExpr.literal).getD c.anyType
  | .primitive types => c.primitiveType types

/-- A schema is sensible if the variants that are told apart by a property are references, and the
discriminating components that its branches refer to exist. -/
def Sensible (c : Setting) (s : Schema) : Prop :=
  match s.kind with
  | .oneOf variants (some d) => d.propertyName.isSome ∧ ∀ v ∈ variants, v.reference.isSome
  | .allOf branches => ∀ b ∈ branches, ∀ r d, c.parent? b = some (r, d) →
    ∃ y, c.schema r = .ok y
  | _ => True

theorem mem_zipWith {α β γ : Type} {f : α → β → γ} {l : List α} {l' : List β} {x : γ}
    (h : x ∈ List.zipWith f l l') : ∃ a ∈ l, ∃ b ∈ l', f a b = x := by
  rw [← List.map_uncurry_zip_eq_zipWith] at h
  obtain ⟨⟨a, b⟩, hab, rfl⟩ := List.mem_map.1 h
  obtain ⟨ha, hb⟩ := List.of_mem_zip hab
  exact ⟨a, ha, b, hb, rfl⟩

theorem taggedVariant_gives {d : Discriminator} {property label : String}
    (hd : d.propertyName = some property) {variant : Schema} :
    (taggedVariant typing view d property label variant).Gives s t s' ↔
      variant.reference.isSome ∧
        ∃ t', (c.pieceType typing view (.schema none none variant)).Gives s t' s' ∧
          .intersection [variantTag d variant, t'] = t := by
  unfold taggedVariant variantTag pieceType
  rw [hd]
  cases variant.reference with
  | none => simp
  | some r => simp

theorem branchTypes_gives {branch : Schema} {ts : List TypeExpr} :
    (c.branchTypes typing { view, name, component } branch).Gives s ts s' ↔
      (∀ r d, c.parent? branch = some (r, d) → ∃ y, c.schema r = .ok y) ∧
      ∃ t, (c.pieceType typing view (c.branchPiece branch)).Gives s t s' ∧
        c.branchTags component branch ++ [t] = ts := by
  unfold branchTypes branchPiece branchTags
  change Gives (match c.parent? branch with | none => _ | some (reference, parent) => _) s ts s' ↔ _
  cases c.parent? branch with
  | none =>
    simp only [gives_bind, gives_pure]
    constructor
    · rintro ⟨t, _, ht, rfl, rfl⟩
      exact ⟨fun _ _ h => (by cases h), t, ht, rfl⟩
    · rintro ⟨-, t, ht, rfl⟩
      exact ⟨t, _, ht, rfl, rfl⟩
  | some found =>
    obtain ⟨r, d⟩ := found
    simp only [gives_bind, gives_lift, gives_pure]
    constructor
    · rintro ⟨y, _, ⟨hy, rfl⟩, t, _, ht, rfl, rfl⟩
      refine ⟨fun r' d' h => ?_, t, ?_, rfl⟩
      · cases h
        exact ⟨y, hy⟩
      · rw [hy]
        exact ht
    · rintro ⟨hok, t, ht, rfl⟩
      obtain ⟨y, hy⟩ := hok r d rfl
      rw [hy] at ht
      exact ⟨y, _, ⟨hy, rfl⟩, t, _, ht, rfl, rfl⟩

theorem taggedVariants_give {d : Discriminator} {property label : String}
    (hd : d.propertyName = some property) {variants : List Schema} {ts : List TypeExpr} :
    Each (taggedVariant typing view d property label) variants s ts s' ↔
      (∀ v ∈ variants, v.reference.isSome) ∧
        ∃ ts', Each (c.pieceType typing view) (variants.map (.schema none none)) s ts' s' ∧
          List.zipWith (fun v t => .intersection [variantTag d v, t]) variants ts' = ts :=
  each_iff_zipWith (q := fun v : Schema => v.reference.isSome) fun _ _ _ _ => taggedVariant_gives hd

theorem branches_give {branches : List Schema} {tss : List (List TypeExpr)} :
    Each (c.branchTypes typing { view, name, component }) branches s tss s' ↔
      (∀ b ∈ branches, ∀ r d, c.parent? b = some (r, d) → ∃ y, c.schema r = .ok y) ∧
        ∃ ts, Each (c.pieceType typing view) (branches.map c.branchPiece) s ts s' ∧
          List.zipWith (fun b t => c.branchTags component b ++ [t]) branches ts = tss :=
  each_iff_zipWith (q := fun b => ∀ r d, c.parent? b = some (r, d) → ∃ y, c.schema r = .ok y)
    fun _ _ _ _ => branchTypes_gives

theorem ownObject_gives {ts : List TypeExpr} :
    Gives (do
      let own ← if x.properties.isSome then List.singleton <$> c.objectType typing view none x
        else pure []
      return .intersection (ts ++ own)) s t s' ↔
      ∃ own, Each (c.pieceType typing view) (if x.properties.isSome then [.object none x] else [])
        s own s' ∧ .intersection (ts ++ own) = t := by
  split
  · rw [exists_each_singleton]
    simp only [gives_bind, gives_map, gives_pure, pieceType]
    constructor
    · rintro ⟨_, _, ⟨o, ho, rfl⟩, rfl, rfl⟩
      exact ⟨o, ho, rfl⟩
    · rintro ⟨o, ho, rfl⟩
      exact ⟨_, _, ⟨o, ho, rfl⟩, rfl, rfl⟩
  · rw [exists_each_nil]
    simp [and_comm]

/-- The kind of a schema has its pieces typed in order and puts them together. -/
theorem kindType_gives :
    (c.kindType typing { view, name, component } x).Gives s t s' ↔
      c.Sensible x ∧ ∃ ts, Each (c.pieceType typing view) (c.pieces name component x) s ts s' ∧
        c.assemble component x ts = t := by
  unfold kindType Sensible pieces assemble
  cases hk : x.kind with
  | reference target =>
    rw [exists_each_singleton]
    simp [pieceType]
  | oneOf variants d =>
    cases d with
    | none => simp [typesOf, each_map, pieceType]
    | some d =>
      dsimp only
      unfold taggedUnion
      cases hd : d.propertyName with
      | none => simp
      | some property =>
        simp only [gives_bind, gives_mapM, gives_pure, taggedVariants_give (c := c) hd]
        constructor
        · rintro ⟨_, _, ⟨hv, ts, hts, rfl⟩, rfl, rfl⟩
          exact ⟨⟨rfl, hv⟩, ts, hts, rfl⟩
        · rintro ⟨⟨-, hv⟩, ts, hts, rfl⟩
          exact ⟨_, _, ⟨hv, ts, hts, rfl⟩, rfl, rfl⟩
  | anyOf variants => simp [typesOf, each_map, pieceType]
  | discriminated d =>
    unfold subtypeUnion
    dsimp only
    change Gives (match c.subtypes { component } d with | [] => _ | targets => _) s t s' ↔ _
    cases c.subtypes { component } d with
    | nil =>
      rw [exists_each_singleton]
      simp [pieceType]
    | cons r rest =>
      simp only [gives_bind, gives_mapM, gives_pure, true_and, each_map, pieceType]
      constructor
      · rintro ⟨ts, _, hts, rfl, rfl⟩
        exact ⟨ts, hts, rfl⟩
      · rintro ⟨ts, hts, rfl⟩
        exact ⟨ts, _, hts, rfl, rfl⟩
  | allOf branches =>
    unfold intersectionType
    simp only [gives_bind, gives_mapM, branches_give, ownObject_gives, each_append]
    constructor
    · rintro ⟨_, s₁, ⟨hb, ts, hts, rfl⟩, own, hown, rfl⟩
      have hlen : ts.length = branches.length := by simpa using hts.length_eq
      refine ⟨hb, ts ++ own, ⟨ts, s₁, own, hts, hown, rfl⟩, ?_⟩
      rw [List.take_left' hlen, List.drop_left' hlen]
    · rintro ⟨hb, _, ⟨ts, s₁, own, hts, hown, rfl⟩, rfl⟩
      have hlen : ts.length = branches.length := by simpa using hts.length_eq
      refine ⟨_, s₁, ⟨hb, ts, hts, rfl⟩, own, hown, ?_⟩
      rw [List.take_left' hlen, List.drop_left' hlen]
  | array items =>
    rw [exists_each_singleton]
    simp [pieceType]
  | tuple items => simp [typesOf, each_map, pieceType]
  | object =>
    rw [exists_each_singleton]
    simp [pieceType]
  | enum values =>
    cases name with
    | none =>
      rw [exists_each_nil]
      simp [enumType, and_comm]
    | some name =>
      simp only [enumType]
      split
      · rw [exists_each_singleton]
        simp [pieceType]
      · rw [exists_each_nil]
        simp [and_comm]
  | binary =>
    rw [exists_each_nil]
    simp [and_comm]
  | const value =>
    rw [exists_each_nil]
    simp [and_comm]
  | primitive types =>
    rw [exists_each_nil]
    simp [and_comm]

theorem typingStep_gives :
    (c.typingStep typing { view, name, component } x).Gives s t s' ↔
      c.Sensible x ∧ ∃ ts, Each (c.pieceType typing view) (c.pieces name component x) s ts s' ∧
        (if x.isNullable then (c.assemble component x ts).orKeyword .null
          else c.assemble component x ts) = t := by
  simp only [typingStep, gives_bind, kindType_gives, gives_pure]
  constructor
  · rintro ⟨_, _, ⟨hx, ts, hts, rfl⟩, rfl, rfl⟩
    exact ⟨hx, ts, hts, rfl⟩
  · rintro ⟨hx, ts, hts, rfl⟩
    exact ⟨_, _, ⟨hx, ts, hts, rfl⟩, rfl, rfl⟩

/-- A schema that has a type is sensible, and its pieces have types at a depth that is in reach. -/
theorem exists_pieces (h : (c.typing { view, name, component } x).Gives s t s') :
    ∃ n ≤ c.depth, c.Sensible x ∧ ∃ ts,
      Each (c.pieceType (c.typingWithin n) view) (c.pieces name component x) s ts s' ∧
      (if x.isNullable then (c.assemble component x ts).orKeyword .null
        else c.assemble component x ts) = t := by
  obtain ⟨n, hn⟩ : ∃ n, c.depth = n + 1 := Nat.exists_eq_add_one_of_ne_zero
    (Nat.ne_of_gt (Nat.mul_pos (by decide) (Nat.pow_pos (by omega))))
  rw [typing, hn] at h
  exact ⟨n, by omega, typingStep_gives.1 h⟩

def member (c : Setting) (s : Schema) (property : String × Schema) (t : TypeExpr) :
    Member TypeExpr where
  name := property.1
  type := if !s.requires property.1 && c.options.unionUndefined then t.orKeyword .undefined else t
  optional := !s.requires property.1
  doc := Doc.ofParts? property.2.description (property.2.deprecated = some true)

def propertyPiece (property : String × Schema) : Piece := .schema (some property.1) none property.2

def indexPieces (s : Schema) : List Piece :=
  match s.additional with
  | some (.like part) => [.schema none none part]
  | _ => []

theorem mem_indexPieces {p : Piece} :
    p ∈ indexPieces x ↔ ∃ part, x.additional = some (.like part) ∧ p = .schema none none part := by
  unfold indexPieces
  split
  · next part hx =>
    rw [hx, List.mem_singleton]
    constructor
    · rintro rfl
      exact ⟨part, rfl, rfl⟩
    · rintro ⟨_, he, rfl⟩
      cases he
      rfl
  · next hx =>
    constructor
    · intro h
      cases h
    · rintro ⟨part, he, -⟩
      exact absurd he (hx part)

def index (c : Setting) (s : Schema) (ts : List TypeExpr) : Option TypeExpr :=
  match s.additional with
  | some (.like _) => ts.head?
  | some (.allowed true) => some c.anyType
  | some (.allowed false) | none => none

theorem indexOf_gives {i : Option TypeExpr} :
    (c.indexOf typing view x).Gives s i s' ↔
      ∃ ts, Each (c.pieceType typing view) (indexPieces x) s ts s' ∧ c.index x ts = i := by
  unfold indexOf indexPieces index
  cases x.additional with
  | none =>
    rw [exists_each_nil]
    simp [and_comm]
  | some additional =>
    cases additional with
    | allowed answer =>
      rw [exists_each_nil]
      cases answer <;> simp [and_comm]
    | like part =>
      rw [exists_each_singleton]
      simp [pieceType]

theorem members_give {properties : List (String × Schema)} {members : List (Member TypeExpr)} :
    Each (c.memberOf typing view x) properties s members s' ↔
      ∃ ts, Each (c.pieceType typing view) (properties.map propertyPiece) s ts s' ∧
        List.zipWith (c.member x) properties ts = members := by
  rw [each_iff_zipWith (g := c.pieceType typing view) (p := propertyPiece) (h := c.member x)
    (q := fun _ => True) fun p s m s' => ?_]
  · simp
  · simp only [memberOf, gives_bind, gives_pure, true_and, propertyPiece, pieceType]
    constructor
    · rintro ⟨t, _, ht, rfl, rfl⟩
      exact ⟨t, ht, rfl⟩
    · rintro ⟨t, ht, rfl⟩
      exact ⟨t, _, ht, rfl, rfl⟩

theorem objectType_gives {skip : Option String} :
    (c.objectType typing view skip x).Gives s t s' ↔
      ∃ ts s₁ is,
        Each (c.pieceType typing view) ((c.propertiesOf view skip x).map propertyPiece) s ts s₁ ∧
        Each (c.pieceType typing view) (indexPieces x) s₁ is s' ∧
        .object (List.zipWith (c.member x) (c.propertiesOf view skip x) ts) (c.index x is) = t := by
  simp only [objectType, gives_bind, gives_mapM, gives_pure, members_give, indexOf_gives]
  constructor
  · rintro ⟨_, s₁, ⟨ts, hts, rfl⟩, _, _, ⟨is, his, rfl⟩, rfl, rfl⟩
    exact ⟨ts, s₁, is, hts, his, rfl⟩
  · rintro ⟨ts, s₁, is, hts, his, rfl⟩
    exact ⟨_, s₁, ⟨ts, hts, rfl⟩, _, _, ⟨is, his, rfl⟩, rfl, rfl⟩

end Setting

end ClientGen
