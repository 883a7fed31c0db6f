import ClientGen.Proofs.Typing.Members
import ClientGen.Proofs.Typing.Pieces
import ClientGen.Proofs.ViewFlags.Inside

namespace ClientGen

open Run TypeScript TypeExpr

/-- The properties of a schema that a view has, one apart, each with whether it may be absent. -/
def Schema.outlineIn (view : View) (skip : Option String) (x : Schema) : List (String × Bool) :=
  ((x.properties.getD []).filter fun p => skip ≠ some p.1 ∧ p.2.VisibleIn view).map
    fun p => (p.1, decide (p.1 ∉ x.required.getD []))

/-- The members show the properties of a schema that a view has, in their order, and those of
different names only once. -/
structure Schema.Shown (view : View) (skip : Option String) (x : Schema)
    (members : List (Member TypeExpr)) : Prop where
  outline : members.map (fun m => (m.name, m.optional)) = x.outlineIn view skip
  once : (Dict.keys (x.properties.getD [])).Nodup → (members.map Member.name).Nodup

namespace Setting

variable {c : Setting} {typing : Typing} {view view' : View} {name component skip : Option String}
  {p : String} {x : Schema} {s s' : Session} {t t' : TypeExpr} {members : List (Member TypeExpr)}

theorem propertiesOf_split (hsplit : c.options.mergeViews = false) (view : View)
    (skip : Option String) (x : Schema) : c.propertiesOf view skip x =
      (x.properties.getD []).filter fun p => skip ≠ some p.1 ∧ p.2.VisibleIn view := by
  apply List.filter_congr
  intro p _
  rw [Bool.eq_iff_iff, Bool.and_eq_true, keeps_iff hsplit]
  simp

theorem memberOf_tells {property : String × Schema} {m : Member TypeExpr}
    (h : (c.memberOf typing view x property).Gives s m s') :
    (m.name, m.optional) = (property.1, decide (property.1 ∉ x.required.getD [])) := by
  simp only [memberOf, gives_bind, gives_pure] at h
  obtain ⟨_, _, -, rfl, -⟩ := h
  simp [Schema.requires]

theorem names_of_outline
    (h : members.map (fun m => (m.name, m.optional)) = x.outlineIn view skip) :
    members.map Member.name =
      Dict.keys ((x.properties.getD []).filter fun p => skip ≠ some p.1 ∧ p.2.VisibleIn view) := by
  have hnames := congrArg (List.map Prod.fst) h
  rw [Schema.outlineIn, List.map_map, List.map_map] at hnames
  exact hnames

theorem objectType_shown (hsplit : c.options.mergeViews = false)
    (h : (c.objectType typing view skip x).Gives s t s') :
    ∃ members index, t = .object members index ∧ x.Shown view skip members := by
  simp only [objectType, gives_bind, gives_mapM, gives_pure, propertiesOf_split hsplit] at h
  obtain ⟨members, _, hmembers, index, _, -, rfl, -⟩ := h
  have houtline := hmembers.map_eq (g := fun m => (m.name, m.optional))
    fun _ _ _ _ h => memberOf_tells h
  refine ⟨members, index, rfl, houtline, fun hnodup => ?_⟩
  rw [names_of_outline houtline]
  exact hnodup.sublist (List.filter_sublist.map _)

theorem typing_shown (hsplit : c.options.mergeViews = false) (hkind : x.kind = .object)
    (h : (c.typing { view, name, component } x).Gives s t s') : ∃ members index,
      t = (if x.isNullable then .union [.object members index, .keyword .null]
        else .object members index) ∧ x.Shown view none members := by
  obtain ⟨_, -, -, ts, hts, rfl⟩ := exists_pieces h
  simp only [pieces, assemble, hkind] at hts ⊢
  obtain ⟨t, _, _, ht, hnil, rfl⟩ := each_cons.1 hts
  obtain ⟨members, index, rfl, hshown⟩ := objectType_shown hsplit ht
  exact ⟨members, index, rfl, hshown⟩

theorem mem_ownMembers_iff (hsplit : c.options.mergeViews = false) (hkind : x.kind = .object)
    (h : (c.typing { view, name, component } x).Gives s t s') :
    p ∈ t.ownMembers ↔ ∃ y, (p, y) ∈ x.properties.getD [] ∧ y.VisibleIn view := by
  obtain ⟨members, index, rfl, hshown⟩ := typing_shown hsplit hkind h
  have hnames : p ∈ members.map Member.name ↔
      ∃ y, (p, y) ∈ x.properties.getD [] ∧ y.VisibleIn view := by
    rw [names_of_outline hshown.outline]
    simp [Dict.keys]
  split
  · simpa [ownMembers, ownMembersOf] using hnames
  · exact hnames

/-- Where views are not merged, every object shows the properties that its view has. -/
theorem object_views (hsplit : c.options.mergeViews = false) (x : Schema) :
    (∀ typing view skip s t s', (c.objectType typing view skip x).Gives s t s' →
      ∃ members index, t = .object members index ∧ x.Shown view skip members) ∧
    (x.kind = .object → ∀ name component,
      (∀ view s t s', (c.typing { view, name, component } x).Gives s t s' →
        ∃ members index, t = (if x.isNullable then .union [.object members index, .keyword .null]
          else .object members index) ∧ x.Shown view none members) ∧
      (∀ view s t s' u t' u', (c.typing { view := .base, name, component } x).Gives s t s' →
        (c.typing { view, name, component } x).Gives u t' u' → t.ownMembers ⊆ t'.ownMembers) ∧
      ∀ s t s' u t' u', (c.typing { view := .read, name, component } x).Gives s t s' →
        (c.typing { view := .write, name, component } x).Gives u t' u' →
        Dict.keys (x.properties.getD []) ⊆ t.ownMembers ++ t'.ownMembers) := by
  refine ⟨fun _ _ _ _ _ _ h => objectType_shown hsplit h, fun hkind name component =>
    ⟨fun _ _ _ _ h => typing_shown hsplit hkind h, ?_, ?_⟩⟩
  · intro view s t s' u t' u' hbase hview p hp
    obtain ⟨y, hy, hvisible⟩ := (mem_ownMembers_iff hsplit hkind hbase).1 hp
    exact (mem_ownMembers_iff hsplit hkind hview).2 ⟨y, hy, hvisible.of_base view⟩
  · intro s t s' u t' u' hread hwrite p hp
    obtain ⟨⟨_, y⟩, hy, rfl⟩ := List.mem_map.1 hp
    rw [List.mem_append]
    rcases y.visible_read_or_write with hvisible | hvisible
    · exact .inl ((mem_ownMembers_iff hsplit hkind hread).2 ⟨y, hy, hvisible⟩)
    · exact .inr ((mem_ownMembers_iff hsplit hkind hwrite).2 ⟨y, hy, hvisible⟩)

/-- An account has a number that is only read, a password that is only written, and a profile with
properties of both sorts. -/
def account : Schema where
  required := some ["number", "password"]
  properties := some [
    ("number", { types := some (.single "integer"), readOnly := some true }),
    ("name", .ofType "string"),
    ("password", { types := some (.single "string"), writeOnly := some true }),
    ("profile", { allOf := some [{ properties := some [
      ("born", { types := some (.single "string"), readOnly := some true }),
      ("token", { types := some (.single "string"), writeOnly := some true })] }] })]

theorem object_views_account : ∃ members index s',
    ((ofDocument .null {} {}).typing { view := .read } account).Gives {}
      (.object members index) s' ∧ account.Shown .read none members ∧
    account.outlineIn .read none = [("number", false), ("name", true), ("profile", true)] := by
  have hruns : ((ofDocument .null {} {}).typing { view := .read } account).succeeds
      (fun _ => true) {} = true := by
    decide +kernel
  obtain ⟨t, s', h, -⟩ := exists_gives hruns
  obtain ⟨-, htyping⟩ := object_views (c := ofDocument .null {} {}) rfl account
  obtain ⟨members, index, rfl, hshown⟩ := (htyping rfl none none).1 .read {} t s' h
  exact ⟨members, index, s', h, hshown, by decide +kernel⟩

end Setting

end ClientGen
