import ClientGen.Proofs.Schema.Inside
import ClientGen.Proofs.Typing.Pieces

namespace ClientGen

namespace Schema

/-- The schema, or one inside it and behind no reference, has a branch that refers to `q`. -/
inductive Extends (q : String) : Schema → Prop where
  | branch {s b : Schema} (hs : s.reference = none) (hb : b ∈ s.allOf.getD [])
      (hq : b.reference = some q) : Extends q s
  | inside {s t : Schema} (hs : s.reference = none) (ht : t ∈ s.inside) (h : Extends q t) :
      Extends q s

end Schema

namespace Setting

variable {c : Setting} {p q r : String} {x y t b : Schema} {d : Discriminating}
  {name component : Option String} {piece : Piece}

/-- The object of the discriminating component `p`, its tag apart, has a branch inside that refers
to the discriminating component `q`. -/
def Inlines (c : Setting) (p q : String) : Prop :=
  ∃ d x part, c.discriminators.get? p = some d ∧ c.schema p = .ok x ∧
    part ∈ x.objectParts d.property ∧ part.Extends q ∧ (c.discriminators.get? q).isSome

/-- No component is inlined into itself, in however many steps. -/
def InlinesWithoutCycle (c : Setting) : Prop := ∀ r, ¬ Relation.TransGen c.Inlines r r

/-- The discriminating components that are inlined somewhere in the type of a schema. -/
def InlinedIn (c : Setting) (x : Schema) (q : String) : Prop :=
  ∃ p, x.Extends p ∧ (c.discriminators.get? p).isSome ∧ Relation.ReflTransGen c.Inlines p q

theorem InlinedIn.inside (hx : x.reference = none) (ht : t ∈ x.inside) (h : c.InlinedIn t q) :
    c.InlinedIn x q := by
  obtain ⟨p, hp, hd, hq⟩ := h
  exact ⟨p, .inside hx ht hp, hd, hq⟩

theorem InlinedIn.isSome (h : c.InlinedIn x q) : (c.discriminators.get? q).isSome := by
  obtain ⟨p, -, hd, hq⟩ := h
  cases hq with
  | refl => exact hd
  | tail _ hlast =>
    obtain ⟨_, _, _, -, -, -, -, hd⟩ := hlast
    exact hd

theorem parent?_eq_some :
    c.parent? b = some (r, d) ↔ b.reference = some r ∧ c.discriminators.get? r = some d := by
  unfold parent?
  simp only [Option.bind_eq_some_iff, Option.map_eq_some_iff, Prod.mk.injEq]
  constructor
  · rintro ⟨_, hr, _, hd, rfl, rfl⟩
    exact ⟨hr, hd⟩
  · rintro ⟨hr, hd⟩
    exact ⟨r, hr, d, hd, rfl, rfl⟩

theorem inlinedIn_parent (hx : x.reference = none) (hb : b ∈ x.allOf.getD [])
    (hr : c.parent? b = some (r, d)) : c.InlinedIn x r := by
  obtain ⟨href, hd⟩ := parent?_eq_some.1 hr
  exact ⟨r, .branch hx hb href, Option.isSome_of_mem hd, .refl⟩

/-- Where a component is inlined, everything that is inlined into its object is inlined too, and
without cycles that is not the component again. -/
theorem InlinedIn.parent (hc : c.InlinesWithoutCycle) (hx : x.reference = none)
    (hb : b ∈ x.allOf.getD []) (hr : c.parent? b = some (r, d)) (hy : c.schema r = .ok y)
    (ht : t ∈ y.objectParts d.property) (h : c.InlinedIn t q) : c.InlinedIn x q ∧ q ≠ r := by
  obtain ⟨href, hd⟩ := parent?_eq_some.1 hr
  obtain ⟨p, hp, hsome, hq⟩ := h
  have hinlines : c.Inlines r p := ⟨d, y, t, hd, hy, ht, hp, hsome⟩
  constructor
  · exact ⟨r, .branch hx hb href, Option.isSome_of_mem hd, .head hinlines hq⟩
  · rintro rfl
    exact hc q (Relation.TransGen.head' hinlines hq)

/-- Where a piece of the type of a schema comes from. -/
inductive PieceOf (c : Setting) (x : Schema) : Piece → Prop where
  | reference {r : String} (hr : x.Mentions r) : PieceOf c x (.reference r)
  | subtype {q r : String} {d : Discriminating} (hd : c.discriminators.get? q = some d)
      (hr : r ∈ d.mapping.values) : PieceOf c x (.reference r)
  | inside {name component : Option String} {t : Schema} (hx : x.reference = none)
      (ht : t ∈ x.inside) : PieceOf c x (.schema name component t)
  | bare {name component : Option String} {d : Discriminator} (hd : x.discriminator = some d) :
      PieceOf c x (.schema name component { x with discriminator := none, nullable := none })
  | object (hx : x.reference = none) : PieceOf c x (.object none x)
  | parent {b : Schema} {r : String} {d : Discriminating} (hx : x.reference = none)
      (hb : b ∈ x.allOf.getD []) (hr : c.parent? b = some (r, d)) :
      PieceOf c x (.object d.property ((c.schema r).toOption.getD {}))
  | enum {name : String} : PieceOf c x (.enum name x)

theorem pieceOf_branchPiece {b : Schema} (hx : x.reference = none) (hb : b ∈ x.allOf.getD []) :
    c.PieceOf x (c.branchPiece b) := by
  unfold branchPiece
  split
  · exact .inside hx (by rw [Schema.mem_inside]; tauto)
  · next hr => exact .parent hx hb hr

theorem pieceOf_subtype {d : Discriminator} {r : String} (hd : x.discriminator = some d)
    (hr : r ∈ c.subtypes { component } d) : c.PieceOf x (.reference r) := by
  unfold subtypes at hr
  split at hr
  · next known hknown =>
    obtain ⟨q, -, hq⟩ := Option.bind_eq_some_iff.1 hknown
    exact .subtype hq hr
  · exact .reference (.mapped hd hr)

theorem pieceOf_of_mem (hp : piece ∈ c.pieces name component x) : c.PieceOf x piece := by
  have listed {l : List Schema} (hx : x.reference = none) (hl : l ⊆ x.inside)
      (hp : piece ∈ l.map (Piece.schema none none)) : c.PieceOf x piece := by
    obtain ⟨t, ht, rfl⟩ := List.mem_map.1 hp
    exact .inside hx (hl ht)
  have hin {t : Schema} := (Schema.mem_inside (s := x) (t := t)).2
  unfold pieces at hp
  generalize hk : x.kind = kind at hp
  unfold Schema.kind at hk
  split at hk
  · next r hr =>
    subst hk
    rw [List.mem_singleton.1 hp]
    exact .reference (.reference hr)
  · next variants d hr hone =>
    subst hk
    exact listed hr (fun t ht => hin (by rw [hone]; tauto)) hp
  · next variants hr hone hany =>
    subst hk
    exact listed hr (fun t ht => hin (by rw [hany]; tauto)) hp
  · next d hr hone hany hd =>
    subst hk
    dsimp only at hp
    split at hp
    · rw [List.mem_singleton.1 hp]
      exact .bare hd
    · obtain ⟨q, hq, rfl⟩ := List.mem_map.1 hp
      exact pieceOf_subtype hd hq
  · next branches hr hone hany hd hall =>
    subst hk
    rcases List.mem_append.1 hp with hp | hp
    · obtain ⟨b, hb, rfl⟩ := List.mem_map.1 hp
      exact pieceOf_branchPiece hr (by rw [hall]; exact hb)
    · split at hp
      · rw [List.mem_singleton.1 hp]
        exact .object hr
      · cases hp
  · next items hr hone hany hd hall hitems =>
    subst hk
    rw [List.mem_singleton.1 hp]
    exact .inside hr (hin (.inr (.inl hitems)))
  · next items hr hone hany hd hall hitems htuple =>
    subst hk
    exact listed hr (fun t ht => hin (by rw [htuple]; tauto)) hp
  · next hr hone hany hd hall hitems htuple =>
    unfold Schema.plainKind at hk
    split at hk
    · subst hk
      rw [List.mem_singleton.1 hp]
      exact .object hr
    · split at hk
      · subst hk
        dsimp only at hp
        split at hp
        · split at hp
          · rw [List.mem_singleton.1 hp]
            exact .enum
          · cases hp
        · cases hp
      · split at hk
        · subst hk
          cases hp
        · split at hk
          all_goals
            subst hk
            cases hp
end Setting

end ClientGen
