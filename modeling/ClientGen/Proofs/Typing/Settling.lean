import ClientGen.Proofs.Typing.Pieces
import ClientGen.Proofs.ViewFlags.Ends

namespace ClientGen

open Run TypeScript

namespace NamedEnum

theorem declare_ends {x : Schema} {name : String} {s : Session} : (declare x name).Ends s := by
  unfold declare
  dsimp only
  split
  · exact ends_throw nofun
  · refine (ends_modifyGet _).bind fun found _ _ => ?_
    cases found with
    | reused n => exact ends_pure _
    | fresh n =>
      exact (ends_modify _).bind fun _ _ _ => (ends_modify _).bind fun _ _ _ => ends_pure _

end NamedEnum

namespace Setting

variable {c : Setting} {typing typing' : Typing} {view : View} {name component : Option String}
  {x : Schema} {I : Session → Prop}

def PieceSettles (c : Setting) (I : Session → Prop) (typing typing' : Typing) (view : View)
    (p : Piece) : Prop :=
  SettlesUnder I (c.pieceType typing view p) (c.pieceType typing' view p)

theorem memberOf_settles {property : String × Schema}
    (h : ∀ place, SettlesUnder I (typing place property.2) (typing' place property.2)) :
    SettlesUnder I (c.memberOf typing view x property) (c.memberOf typing' view x property) := by
  unfold memberOf
  exact (h _).value _

theorem indexOf_settles
    (h : ∀ part, x.additional = some (.like part) → ∀ place,
      SettlesUnder I (typing place part) (typing' place part)) :
    SettlesUnder I (c.indexOf typing view x) (c.indexOf typing' view x) := by
  unfold indexOf
  split
  · exact .pure _
  · next part hpart => exact (h part hpart _).map some
  · exact .pure _
  · exact .pure _

theorem objectType_settles {skip : Option String}
    (h : ∀ part ∈ x.objectParts skip, ∀ place,
      SettlesUnder I (typing place part) (typing' place part)) :
    SettlesUnder I (c.objectType typing view skip x) (c.objectType typing' view skip x) := by
  have hproperty : ∀ property ∈ c.propertiesOf view skip x,
      SettlesUnder I (c.memberOf typing view x property) (c.memberOf typing' view x property) := by
    intro property hmem
    apply memberOf_settles
    apply h
    rw [Schema.mem_objectParts]
    obtain ⟨hin, hkept⟩ := List.mem_filter.1 hmem
    rw [Bool.and_eq_true, decide_eq_true_eq] at hkept
    exact .inl ⟨property.1, hin, hkept.1⟩
  have hindex : SettlesUnder I (c.indexOf typing view x) (c.indexOf typing' view x) :=
    indexOf_settles fun part hpart => h part (Schema.mem_objectParts.2 (.inr hpart))
  unfold objectType
  exact (SettlesUnder.mapM hproperty).bind fun members => hindex.value _

theorem typesOf_settles {schemas : List Schema}
    (h : ∀ p ∈ schemas.map (Piece.schema none none), c.PieceSettles I typing typing' view p) :
    SettlesUnder I (typesOf typing view schemas) (typesOf typing' view schemas) :=
  .mapM fun t ht => h (.schema none none t) (List.mem_map.2 ⟨t, ht, rfl⟩)

theorem taggedVariant_settles {d : Discriminator} {property label : String} {variant : Schema}
    (h : c.PieceSettles I typing typing' view (.schema none none variant)) :
    SettlesUnder I (taggedVariant typing view d property label variant)
      (taggedVariant typing' view d property label variant) := by
  unfold taggedVariant
  split
  · exact .throw nofun
  · exact SettlesUnder.value h _

theorem taggedUnion_settles {d : Discriminator} {variants : List Schema}
    (h : ∀ p ∈ variants.map (Piece.schema none none), c.PieceSettles I typing typing' view p) :
    SettlesUnder I (taggedUnion typing { view, name, component } d variants)
      (taggedUnion typing' { view, name, component } d variants) := by
  unfold taggedUnion
  dsimp only
  split
  · exact .throw nofun
  · refine SettlesUnder.value (.mapM fun variant hvariant => ?_) _
    exact taggedVariant_settles (h _ (List.mem_map.2 ⟨variant, hvariant, rfl⟩))

theorem branchTypes_settles {branch : Schema}
    (h : c.PieceSettles I typing typing' view (c.branchPiece branch)) :
    SettlesUnder I (c.branchTypes typing { view, name, component } branch)
      (c.branchTypes typing' { view, name, component } branch) := by
  have hparent : (branch.reference.bind fun r => (c.discriminators.get? r).map fun d => (r, d)) =
      c.parent? branch := rfl
  unfold branchTypes
  rw [hparent]
  unfold branchPiece at h
  cases hp : c.parent? branch with
  | none =>
    rw [hp] at h
    exact SettlesUnder.value h _
  | some found =>
    obtain ⟨r, d⟩ := found
    rw [hp] at h
    refine .lift schema_ne_endless fun y hy => ?_
    dsimp only at h
    rw [hy] at h
    exact SettlesUnder.value h _

theorem intersectionType_settles {branches : List Schema}
    (h : ∀ p ∈ branches.map c.branchPiece, c.PieceSettles I typing typing' view p)
    (hown : x.properties.isSome → c.PieceSettles I typing typing' view (.object none x)) :
    SettlesUnder I (c.intersectionType typing { view, name, component } branches x)
      (c.intersectionType typing' { view, name, component } branches x) := by
  unfold intersectionType
  refine .bind (.mapM fun branch hbranch => ?_) fun types => ?_
  · exact branchTypes_settles (h _ (List.mem_map.2 ⟨branch, hbranch, rfl⟩))
  · split
    · next hx => exact SettlesUnder.bind ((hown hx).map _) fun own => .pure _
    · exact SettlesUnder.bind (.pure _) fun own => .pure _

/-- The kind of a schema settles if its pieces do. -/
theorem kindType_settles
    (h : ∀ p ∈ c.pieces name component x, c.PieceSettles I typing typing' view p) :
    SettlesUnder I (c.kindType typing { view, name, component } x)
      (c.kindType typing' { view, name, component } x) := by
  unfold kindType
  unfold pieces at h
  cases hk : x.kind with
  | reference target =>
    rw [hk] at h
    exact h (.reference target) List.mem_cons_self
  | oneOf variants d =>
    rw [hk] at h
    cases d with
    | none => exact (typesOf_settles h).value _
    | some d => exact taggedUnion_settles h
  | anyOf variants =>
    rw [hk] at h
    exact (typesOf_settles h).value _
  | discriminated d =>
    rw [hk] at h
    dsimp only at h ⊢
    have hsubtypes : c.subtypes { view, name, component } d = c.subtypes { component } d := rfl
    unfold subtypeUnion
    rw [hsubtypes]
    cases hs : c.subtypes { component } d with
    | nil =>
      rw [hs] at h
      exact h _ List.mem_cons_self
    | cons r rest =>
      rw [hs] at h
      refine SettlesUnder.value (.mapM fun q hq => ?_) _
      exact h (.reference q) (List.mem_map.2 ⟨q, hq, rfl⟩)
  | allOf branches =>
    rw [hk] at h
    apply intersectionType_settles
    · exact fun p hp => h p (List.mem_append_left _ hp)
    · intro hx
      apply h
      rw [if_pos hx]
      exact List.mem_append_right _ List.mem_cons_self
  | array items =>
    rw [hk] at h
    exact SettlesUnder.value (h (.schema name none items) List.mem_cons_self) _
  | tuple items =>
    rw [hk] at h
    exact (typesOf_settles h).value _
  | object =>
    rw [hk] at h
    exact h (.object none x) List.mem_cons_self
  | enum values =>
    rw [hk] at h
    dsimp only at h ⊢
    unfold enumType
    cases name with
    | none => exact .pure _
    | some n =>
      dsimp only at h ⊢
      split
      · next hn =>
        rw [if_pos hn] at h
        exact h (.enum n x) List.mem_cons_self
      · exact .pure _
  | binary => exact .pure _
  | const value => exact .pure _
  | primitive types => exact .pure _

theorem typingStep_settles
    (h : ∀ p ∈ c.pieces name component x, c.PieceSettles I typing typing' view p) :
    SettlesUnder I (c.typingStep typing { view, name, component } x)
      (c.typingStep typing' { view, name, component } x) :=
  (kindType_settles h).value _

end Setting

end ClientGen
