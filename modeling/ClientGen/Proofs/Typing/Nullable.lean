import ClientGen.Proofs.Typing.Closed
import ClientGen.Proofs.Typing.Repeat

namespace ClientGen

open Run TypeScript

namespace TypeScript.TypeExpr

/-- Whether a type is null or a union of null and others. -/
def holdsNull : TypeExpr → Bool
  | .union members => members.any (isKeyword .null)
  | type => type.isKeyword .null

theorem holdsNull_orKeyword (t : TypeExpr) : (t.orKeyword .null).holdsNull = true := by
  cases t with
  | union members =>
    simp only [orKeyword, holdsNull]
    split
    · next hmem => exact hmem
    · simp [isKeyword]
  | keyword word => by_cases h : word = .null <;> simp [orKeyword, isKeyword, holdsNull, h]
  | _ => rfl

/-- A type admits null if it holds null or is the name of a declared type that does. -/
def AdmitsNull (types : List TypeDecl) (t : TypeExpr) : Prop :=
  t.holdsNull = true ∨
    ∃ d ∈ types, t = .named d.name ∧ ∃ body, d.body = .alias body ∧ body.holdsNull = true

end TypeScript.TypeExpr

namespace Setting

variable {c : Setting} {s s' u : Session} {t : TypeExpr} {r : String} {x : Schema} {view : View}
  {n : Nat}

/-- The sessions between the steps of runs, in which nothing is being entered: a step builds a whole
client, or gives one schema or reference its type. -/
inductive AtRest (c : Setting) : Session → Prop where
  | start (events : List Event) : AtRest c { events }
  | built {document : Document} {client : Client} {s s' : Session} (h : AtRest c s)
      (gives : (Client.build c document).Gives s client s') : AtRest c s'
  | typed {place : Place} {x : Option Schema} {t : TypeExpr} {s s' : Session} (h : AtRest c s)
      (gives : (c.typeOf place x).Gives s t s') : AtRest c s'
  | referred {view : View} {r : String} {t : TypeExpr} {s s' : Session} (h : AtRest c s)
      (gives : (c.referenceType c.typing view r).Gives s t s') : AtRest c s'

/-- A session at rest has grown from an empty one, and owes no types. -/
theorem AtRest.grows (h : c.AtRest u) : ∃ events, c.Grows [] { events } u := by
  induction h with
  | start events => exact ⟨events, .refl c _⟩
  | built _ gives ih =>
    obtain ⟨events, ih⟩ := ih
    exact ⟨events, ih.trans (c.growth.build gives).1⟩
  | typed _ gives ih =>
    obtain ⟨events, ih⟩ := ih
    exact ⟨events, ih.trans (c.growth.typeOf gives).1⟩
  | referred _ gives ih =>
    obtain ⟨events, ih⟩ := ih
    have hstep := (c.growth.obeys_typing.referenceType (Nat.le_refl _) gives).1
    exact ⟨events, ih.trans hstep⟩

theorem AtRest.exists_alias (h : c.AtRest u) {names : ViewNames}
    (hr : u.references.get? r = some names) (view : View) :
    ∃ a : Alias, a.decl ∈ u.types ∧ a.reference = r ∧ a.name = names.name view ∧
      c.Describes u a := by
  obtain ⟨events, hgrows⟩ := h.grows
  obtain ⟨references, aliases, -, hreferences, htypes, -, -, hperm, hdescribes⟩ := hgrows.parts
  rw [List.nil_append] at hreferences htypes hperm
  obtain ⟨v, hlabel⟩ := Dict.exists_label (Dict.mem_of_get? hr) view
  rw [hreferences] at hlabel
  obtain ⟨a, ha, he⟩ := List.mem_map.1 (hperm.mem_iff.2 hlabel)
  exact ⟨a, htypes ▸ List.mem_map_of_mem ha, congrArg Prod.fst he,
    congrArg (fun l : Label => l.2.2) he, (hdescribes a ha).1⟩

theorem Describes.holdsNull {a : Alias} (h : c.Describes u a)
    (hx : c.schema a.reference = .ok x) (hnull : x.isNullable = true) :
    a.type.holdsNull = true := by
  obtain ⟨y, fuel, v, v', hy, -, -, -, hgives⟩ := h
  cases hx.symm.trans hy
  cases fuel with
  | zero => exact absurd hgives not_gives_throw
  | succ fuel =>
    obtain ⟨-, ts, -, htype⟩ := typingStep_gives.1 hgives
    rw [if_pos hnull] at htype
    rw [← htype]
    exact TypeExpr.holdsNull_orKeyword _

theorem AtRest.namesEnum_eq_false (h : c.AtRest u) {names : ViewNames}
    (hr : u.references.get? r = some names) (hx : c.schema r = .ok x) :
    c.namesEnum x = false := by
  obtain ⟨events, hgrows⟩ := h.grows
  obtain ⟨y, hy, hn⟩ := hgrows.later.fresh hr rfl
  cases hx.symm.trans hy
  exact hn

/-- When a reference to a nullable schema got a type, and everything that was being entered then is
complete, that type admits null if the schema does not become a declared enum. If it does, the type
is the name of an enum, and no type but one that is declared under the same name makes it admit
null. -/
theorem referenceType_nullable (hn : n ≤ c.depth)
    (h : (c.referenceType (c.typingWithin n) view r).Gives s t s') (hlater : c.Later s' u)
    (hrest : c.AtRest u) (hx : c.schema r = .ok x) (hnull : x.isNullable = true) :
    (c.namesEnum x = false → t.AdmitsNull u.types) ∧
    (c.namesEnum x = true → (∃ d ∈ u.enums, t = .named d.name) ∧
      ((∀ d ∈ u.types, t ≠ .named d.name) → ¬ t.AdmitsNull u.types)) := by
  obtain ⟨events, hgrows⟩ := hrest.grows
  rcases referenceType_gives hn h with ⟨names, hr, rfl⟩ | ⟨y, -, hy, he, henum⟩
  · -- What is registered goes by an alias, whose type comes from the wrapper that adds null.
    have hregistered := hlater.known hr
    have hplain := hrest.namesEnum_eq_false hregistered hx
    refine ⟨fun _ => ?_, fun he => ?_⟩
    · obtain ⟨a, ha, rfl, hname, hdescribes⟩ := hrest.exists_alias hregistered view
      exact .inr ⟨a.decl, ha, congrArg _ hname.symm, a.type, rfl, hdescribes.holdsNull hx hnull⟩
    · rw [hplain] at he
      cases he
  · -- The name of an enum is the type as it is, without that wrapper.
    cases hx.symm.trans hy
    obtain ⟨name, rfl, -, hlookup, -⟩ := NamedEnum.declare_gives henum
    refine ⟨fun hplain => ?_, fun _ => ⟨?_, ?_⟩⟩
    · rw [hplain] at he
      cases he
    · have hdeclared : EnumsDeclared u := hgrows.enums fun p v n hn => by cases hn
      obtain ⟨d, hd, rfl⟩ := List.mem_map.1 (hdeclared _ _ _ (hlater.lookup hlookup))
      exact ⟨d, hd, rfl⟩
    · rintro hother (hnull | ⟨d, hd, hname, -⟩)
      · cases hnull
      · exact hother d hd hname

def palette : Setting := ofDocument (.obj [
  ("components", .obj [("schemas", .obj [
    ("Shade", .obj [("type", .str "string"), ("nullable", .bool true)]),
    ("Color", .obj [
      ("type", .str "string"), ("enum", .arr [.str "red"]), ("nullable", .bool true)])])])])
  {} { namedEnums := true }

/-- Whether the schema of a reference is nullable, and becomes a declared enum or does not. -/
def isNullableTarget (c : Setting) (r : String) (named : Bool) : Bool :=
  match c.schema r with
  | .ok x => x.isNullable && c.namesEnum x == named
  | .error _ => false

theorem exists_schema {named : Bool} (h : c.isNullableTarget r named = true) :
    ∃ x, c.schema r = .ok x ∧ x.isNullable = true ∧ c.namesEnum x = named := by
  unfold isNullableTarget at h
  split at h
  · next x hx =>
    rw [Bool.and_eq_true, beq_iff_eq] at h
    exact ⟨x, hx, h⟩
  · cases h

theorem referenceType_nullable_palette : ∃ x t s',
    palette.schema "#/components/schemas/Shade" = .ok x ∧ x.isNullable = true ∧
    (palette.referenceType (palette.typingWithin palette.depth) .read
      "#/components/schemas/Shade").Gives {} t s' ∧
    palette.AtRest s' ∧ t.AdmitsNull s'.types := by
  obtain ⟨x, hx, hnull, hplain⟩ := exists_schema
    (show palette.isNullableTarget "#/components/schemas/Shade" false = true by decide +kernel)
  obtain ⟨t, s', hgives, -⟩ := exists_gives
    (r := palette.referenceType (palette.typingWithin palette.depth) .read
      "#/components/schemas/Shade") (s := {}) (p := fun _ => true) (by decide +kernel)
  have hrest : palette.AtRest s' := .referred (.start []) hgives
  have hboth := referenceType_nullable (Nat.le_refl _) hgives (.refl _ s') hrest hx hnull
  exact ⟨x, t, s', hx, hnull, hgives, hrest, hboth.1 hplain⟩

/-- The reference to a nullable enum that is declared under a name does not admit null. -/
theorem color_without_null : ∃ x t s',
    palette.schema "#/components/schemas/Color" = .ok x ∧ x.isNullable = true ∧
    (palette.referenceType palette.typing .base "#/components/schemas/Color").Gives {} t s' ∧
    palette.AtRest s' ∧ t = .named "Color" ∧ s'.enums.map TypeDecl.name = ["Color"] ∧
    ¬ t.AdmitsNull s'.types := by
  obtain ⟨x, hx, hnull, -⟩ := exists_schema
    (show palette.isNullableTarget "#/components/schemas/Color" true = true by decide +kernel)
  obtain ⟨⟨t, types, enums⟩, _, hrun, hparts⟩ := exists_gives
    (r := do
      let t ← palette.referenceType palette.typing .base "#/components/schemas/Color"
      let s ← get
      return (t, s.types, s.enums))
    (s := {})
    (p := fun (t, types, enums) => (match t with | .named name => name = "Color" | _ => false) &&
      types.isEmpty && enums.map TypeDecl.name = ["Color"])
    (by decide +kernel)
  simp only [gives_bind, gives_get, gives_pure] at hrun
  obtain ⟨_, s', hgives, _, _, ⟨rfl, rfl⟩, he, rfl⟩ := hrun
  cases he
  simp only [Bool.and_eq_true, List.isEmpty_iff, decide_eq_true_eq] at hparts
  obtain ⟨⟨hname, htypes⟩, henums⟩ := hparts
  split at hname
  · next name =>
    obtain rfl := of_decide_eq_true hname
    refine ⟨x, _, _, hx, hnull, hgives, .referred (.start []) hgives, rfl, henums, ?_⟩
    rintro (hnull | ⟨d, hd, -⟩)
    · cases hnull
    · rw [htypes] at hd
      cases hd
  · cases hname

end Setting

end ClientGen
