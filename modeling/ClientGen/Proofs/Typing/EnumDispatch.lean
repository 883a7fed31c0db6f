import ClientGen.Proofs.Typing.Repeat

namespace ClientGen

open Run TypeScript

namespace Schema

variable {x : Schema}

/-- The keywords of an enum: values, and no boolean among the types. -/
def HasEnum (x : Schema) : Prop := x.values.isSome = true ∧ x.hasType "boolean" = false

/-- A schema is of the enum kind, and no boolean. -/
def EnumByKind (x : Schema) : Prop :=
  (∃ values, x.kind = .enum values) ∧ x.hasType "boolean" = false

/-- One of the keywords is there that come before the values when a kind is found. -/
def hasPrior (x : Schema) : Bool :=
  x.reference.isSome || x.oneOf.isSome || x.anyOf.isSome || x.discriminator.isSome ||
    x.allOf.isSome || x.items.isSome || x.tupleItems.isSome || x.properties.isSome ||
    x.additional.isSome

theorem exists_plainKind_enum : (∃ values, x.plainKind = .enum values) ↔
    x.values.isSome = true ∧ (x.properties.isSome || x.additional.isSome) = false := by
  unfold plainKind
  cases x.properties.isSome || x.additional.isSome with
  | true => simp
  | false =>
    cases x.values with
    | some values => simp
    | none =>
      simp only [Bool.false_eq_true, if_false, Option.isSome_none, false_and, iff_false]
      rintro ⟨values, h⟩
      split at h
      · cases h
      · split at h <;> cases h

theorem exists_kind_enum :
    (∃ values, x.kind = .enum values) ↔ x.values.isSome = true ∧ x.hasPrior = false := by
  unfold kind hasPrior
  split <;> simp_all [exists_plainKind_enum]

theorem enumByKind_iff : x.EnumByKind ↔ x.HasEnum ∧ x.hasPrior = false := by
  unfold EnumByKind HasEnum
  rw [exists_kind_enum, and_right_comm]

end Schema

namespace NamedEnum

variable {x : Schema} {name : String} {s s' : Session} {t : TypeExpr}

/-- A schema becomes an enum under a name, which is declared or was declared before. -/
def Becomes (x : Schema) (name : String) (s : Session) (t : TypeExpr) (s' : Session) : Prop :=
  ∃ n, t = .named n ∧ s'.enumNames.lookup (proposed x name) (valuesText x) = some n ∧
    (s' = s ∨ Added x name n s s')

theorem exists_declare (hcount : ¬ Miscounted x) (name : String) (s : Session) :
    ∃ t s', (declare x name).Gives s t s' := by
  cases hlookup : s.enumNames.lookup (proposed x name) (valuesText x) with
  | some n => exact ⟨_, _, declare_of_lookup hcount hlookup⟩
  | none =>
    obtain ⟨enumNames, hfound⟩ := EnumNames.nameFor_of_lookup_eq_none s.aliases hlookup
    obtain ⟨s', hgives, -⟩ := declare_of_fresh hcount hfound
    exact ⟨_, s', hgives⟩

theorem Becomes.references (h : Becomes x name s t s') : s'.references = s.references := by
  obtain ⟨n, -, -, rfl | hadd⟩ := h
  · rfl
  · obtain ⟨_, _, _, _, _, rfl⟩ := hadd.only
    rfl

end NamedEnum

namespace Setting

variable {c : Setting} {w : View} {r : String} {x : Schema} {s s' : Session} {t : TypeExpr}
  {n : Nat}

theorem namesEnum_iff (hon : c.options.namedEnums = true) : c.namesEnum x = true ↔ x.HasEnum := by
  unfold namesEnum Schema.HasEnum
  rw [hon]
  simp

/-- Inline under a name, a schema is an enum to be declared exactly when its kind says so. -/
theorem enum_mem_pieces (hon : c.options.namedEnums = true) (name : String)
    (component : Option String) :
    Piece.enum name x ∈ c.pieces (some name) component x ↔ x.EnumByKind := by
  unfold pieces Schema.EnumByKind
  cases hk : x.kind with
  | enum values =>
    have hvalues := (Schema.exists_kind_enum.1 ⟨values, hk⟩).1
    have hnamed := namesEnum_iff (x := x) hon
    rw [Schema.HasEnum, and_iff_right hvalues] at hnamed
    simp [hnamed]
  | discriminated d => cases hsub : c.subtypes { component } d <;> simp [hsub]
  | allOf branches =>
    have hbranch (branch : Schema) : c.branchPiece branch ≠ .enum name x := by
      unfold branchPiece
      split <;> exact nofun
    cases x.properties.isSome <;> simp [hbranch]
  | _ => simp

/-- The reference to a schema gives an enum that is declared, then or before. -/
def DeclaresEnum (c : Setting) (n : Nat) (w : View) (r : String) (x : Schema) (s : Session) :
    Prop :=
  ∃ t s', (c.referenceType (c.typingWithin n) w r).Gives s t s' ∧
    NamedEnum.Becomes x (Reference.stableName r) s t s'

theorem declaresEnum_iff (hon : c.options.namedEnums = true) (hn : n ≤ c.depth)
    (hr : s.references.get? r = none) (hx : c.schema r = .ok x) :
    c.DeclaresEnum n w r x s ↔ x.HasEnum ∧ ¬ NamedEnum.Miscounted x := by
  constructor
  · rintro ⟨t, s', hgives, hbecomes⟩
    rcases referenceType_gives hn hgives with ⟨names, hnames, -⟩ | ⟨y, -, hy, henum, hdeclare⟩
    · rw [hbecomes.references, hr] at hnames
      cases hnames
    · cases hx.symm.trans hy
      obtain ⟨_, -, hcount, -⟩ := NamedEnum.declare_gives hdeclare
      exact ⟨(namesEnum_iff hon).1 henum, hcount⟩
  · rintro ⟨henum, hcount⟩
    obtain ⟨t, s', hdeclare⟩ := NamedEnum.exists_declare hcount (Reference.stableName r) s
    refine ⟨t, s', (referenceType_enum hr hx ((namesEnum_iff hon).2 henum)).2 hdeclare, ?_⟩
    obtain ⟨m, rfl, -, hlookup, hadded⟩ := NamedEnum.declare_gives hdeclare
    exact ⟨m, rfl, hlookup, hadded⟩

/-- The views of a reference are registered, and declared with the types of its schema. -/
def Registered (c : Setting) (w : View) (r : String) (t : TypeExpr) (s' : Session) : Prop :=
  ∃ names, s'.references.get? r = some names ∧ t = .named (names.name w) ∧
    ∀ v m, names.own? v = some m →
      ∃ a : Alias, a.label = (r, v, m) ∧ a.decl ∈ s'.types ∧ c.Describes s' a

theorem registered_of_gives (hn : n ≤ c.depth) (hr : s.references.get? r = none)
    (hx : c.schema r = .ok x) (hplain : c.namesEnum x = false)
    (h : (c.referenceType (c.typingWithin n) w r).Gives s t s') :
    c.Registered w r t s' := by
  rcases referenceType_gives hn h with ⟨names, hnames, rfl⟩ | ⟨y, -, hy, henum, -⟩
  · refine ⟨names, hnames, rfl, ?_⟩
    intro v m hm
    obtain ⟨references, aliases, enums, hall, htypes, -, -, hperm, haliases⟩ :=
      ((c.growth.obeys_typingWithin hn).referenceType hn h).1.parts
    have hmem := Dict.mem_of_get? hnames
    rw [hall, List.mem_append] at hmem
    have hnew : (r, names) ∈ references := by
      apply hmem.resolve_left
      intro hold
      exact (Dict.get?_eq_none_iff _ _).1 hr (List.mem_map_of_mem hold)
    have hlabel : (r, v, m) ∈ Dict.labels references := by
      refine List.mem_flatMap.2 ⟨_, hnew, List.mem_map_of_mem ?_⟩
      refine List.mem_filterMap.2 ⟨v, by cases v <;> simp, ?_⟩
      rw [hm, Option.map_some]
    obtain ⟨a, ha, hlabel⟩ := List.mem_map.1 (hperm.mem_iff.2 hlabel)
    refine ⟨a, hlabel, ?_, (haliases a ha).1⟩
    rw [htypes]
    exact List.mem_append_right _ (List.mem_map_of_mem ha)
  · cases hx.symm.trans hy
    cases hplain.symm.trans henum

/-- A reference gives a declared enum exactly when its schema has the keywords of one, and so it
agrees with the kind of the schema unless a keyword stands beside them that comes first. Any other
reference is registered, and its views have their types by the kind of its schema. -/
theorem referenceType_dispatch (hon : c.options.namedEnums = true) (hn : n ≤ c.depth)
    (hr : s.references.get? r = none) (hx : c.schema r = .ok x) :
    (c.DeclaresEnum n w r x s ↔ x.HasEnum ∧ ¬ NamedEnum.Miscounted x) ∧
    ((c.DeclaresEnum n w r x s ↔ x.EnumByKind ∧ ¬ NamedEnum.Miscounted x) ↔
      ¬ (x.HasEnum ∧ ¬ NamedEnum.Miscounted x ∧ x.hasPrior = true)) ∧
    (∀ name component, Piece.enum name x ∈ c.pieces (some name) component x ↔ x.EnumByKind) ∧
    ∀ t s', (c.referenceType (c.typingWithin n) w r).Gives s t s' →
      ¬ c.DeclaresEnum n w r x s → c.Registered w r t s' := by
  have hdeclares := declaresEnum_iff (w := w) hon hn hr hx
  refine ⟨hdeclares, ?_, enum_mem_pieces hon, ?_⟩
  · rw [hdeclares, Schema.enumByKind_iff]
    cases x.hasPrior <;> simp
  · intro t s' hgives hnone
    apply registered_of_gives hn hr hx _ hgives
    rw [← Bool.not_eq_true]
    intro henum
    obtain ⟨m, rfl, -, hlookup, hadded⟩ :=
      NamedEnum.declare_gives ((referenceType_enum hr hx henum).1 hgives)
    exact hnone ⟨_, s', hgives, m, rfl, hlookup, hadded⟩

def shapes : Setting := ofDocument (.obj [
  ("components", .obj [("schemas", .obj [
    ("Color", .obj [("type", .str "string"), ("enum", .arr [.str "red"])]),
    ("Point", .obj [("type", .str "object"), ("enum", .arr [.str "origin"]),
      ("properties", .obj [("x", .obj [("type", .str "integer")])])])])])])
  {} { namedEnums := true }

theorem exists_schema_hasEnum (prior : Bool) (h : (match c.schema r with
      | .ok x => x.values.isSome && !x.hasType "boolean" && x.memberNames?.isNone &&
        x.hasPrior == prior
      | .error _ => false) = true) :
    ∃ x, c.schema r = .ok x ∧ x.HasEnum ∧ ¬ NamedEnum.Miscounted x ∧ x.hasPrior = prior := by
  split at h
  · next x hx =>
    simp only [Bool.and_eq_true, Bool.not_eq_true', beq_iff_eq, Option.isNone_iff_eq_none] at h
    obtain ⟨⟨⟨hvalues, htype⟩, hnames⟩, hprior⟩ := h
    refine ⟨x, hx, ⟨hvalues, htype⟩, ?_, hprior⟩
    rintro ⟨hsome, -⟩
    rw [hnames] at hsome
    cases hsome
  · cases h

theorem referenceType_dispatch_shapes : ∃ x,
    shapes.schema "#/components/schemas/Color" = .ok x ∧ x.EnumByKind ∧
    shapes.DeclaresEnum shapes.depth .read "#/components/schemas/Color" x {} := by
  obtain ⟨x, hx, henum, hcount, hprior⟩ :=
    exists_schema_hasEnum (c := shapes) (r := "#/components/schemas/Color") false
      (by decide +kernel)
  have hkind := Schema.enumByKind_iff.2 ⟨henum, hprior⟩
  have hall := referenceType_dispatch (w := .read) (s := {}) rfl (Nat.le_refl _) rfl hx
  exact ⟨x, hx, hkind, hall.1.2 ⟨henum, hcount⟩⟩

/-- The reference to an object that has the keywords of an enum becomes one. -/
theorem point_declaresEnum : ∃ x,
    shapes.schema "#/components/schemas/Point" = .ok x ∧ ¬ x.EnumByKind ∧
    shapes.DeclaresEnum shapes.depth .base "#/components/schemas/Point" x {} := by
  obtain ⟨x, hx, henum, hcount, hprior⟩ :=
    exists_schema_hasEnum (c := shapes) (r := "#/components/schemas/Point") true
      (by decide +kernel)
  refine ⟨x, hx, ?_, (declaresEnum_iff rfl (Nat.le_refl _) rfl hx).2 ⟨henum, hcount⟩⟩
  rw [Schema.enumByKind_iff, hprior]
  exact fun h => Bool.noConfusion h.2

end Setting

end ClientGen
