import ClientGen.Proofs.Discriminators.Completion
import ClientGen.Proofs.Typing.Repeat

namespace ClientGen

open Discriminators Reference Run TypeScript

variable {c : Setting} {n : Nat} {view : View} {name component : Option String}
  {targets : List String} {ts : List TypeExpr} {x : Schema} {d : Discriminator} {s s' v : Session}
  {t : TypeExpr}

theorem Schema.kind_of_discriminator (hr : x.reference = none) (hone : x.oneOf = none)
    (hany : x.anyOf = none) (hd : x.discriminator = some d) : x.kind = .discriminated d := by
  rw [kind, hr, hone, hany, hd]

namespace Setting

theorem references_repeat (hn : n ≤ c.depth) {typing : Typing}
    (h : Each (c.pieceType (c.typingWithin n) view) (targets.map .reference) s ts s')
    (hv : c.Later s' v) :
    List.Forall₂ (fun r t => (c.referenceType typing view r).Gives v t v) targets ts := by
  induction targets generalizing s ts with
  | nil =>
    cases h
    exact .nil
  | cons r targets ih =>
    cases h with
    | cons head tail =>
      have hlater := (later_pieces hn tail).trans hv
      exact .cons (reference_repeats hn head hlater (not_differs_self _)) (ih tail)

/-- A schema whose subtypes are known has the union of their types. -/
theorem subtypeUnion_gives (hkind : x.kind = .discriminated d)
    (htargets : c.subtypes { component } d = targets) (hne : targets ≠ [])
    (h : (c.typing { view, name, component } x).Gives s t s') : ∃ types,
      t = (if x.isNullable then (TypeExpr.union types).orKeyword .null else .union types) ∧
      List.Forall₂ (fun r type => (c.referenceType c.typing view r).Gives s' type s')
        targets types := by
  obtain ⟨n, hn, -, types, htypes, rfl⟩ := exists_pieces h
  obtain ⟨r, rest, rfl⟩ := List.exists_cons_of_ne_nil hne
  have hpieces : c.pieces name component x = (r :: rest).map .reference := by
    unfold pieces
    rw [hkind]
    dsimp only
    rw [htargets]
  have hassemble : c.assemble component x types = .union types := by
    unfold assemble
    rw [hkind]
    dsimp only
    rw [htargets]
  rw [hpieces] at htypes
  rw [hassemble]
  exact ⟨types, rfl, references_repeat hn htypes (.refl c s')⟩

/-- Of components with different names, just those with a discriminator that are no choice are
indexed. Their mappings are completed, and each of them has the union of the types of the targets,
in their order. -/
theorem subtypes_complete {schemas : Dict Schema} (hkeys : schemas.keys.Nodup) :
    (ofSchemas schemas).keys =
      ((schemas.filter fun e => e.2.Discriminates).map fun e => ofComponent e.1) ∧
    ∀ parent x d, (parent, x) ∈ schemas → x.discriminator = some d → x.oneOf = none →
      x.anyOf = none → ∃ full added,
        (ofSchemas schemas).get? (ofComponent parent) =
          some { property := d.propertyName, mapping := full } ∧
        Completes schemas parent (d.mapping.getD []) full added ∧
        ∀ (c : Setting) view s t s', c.discriminators = ofSchemas schemas →
          x.kind = .discriminated d → full ≠ [] →
          (c.typing { view, component := some (ofComponent parent) } x).Gives s t s' →
          ∃ types,
            t = (if x.isNullable then (TypeExpr.union types).orKeyword .null else .union types) ∧
            List.Forall₂ (fun r type => (c.referenceType c.typing view r).Gives s' type s')
              full.values types := by
  refine ⟨by rw [keys_ofSchemas, keys_declared hkeys], ?_⟩
  intro parent x d hx hd hone hany
  obtain ⟨full, added, hget, hcompletes⟩ := exists_completes hkeys hx hd hone hany
  refine ⟨full, added, hget, hcompletes, ?_⟩
  intro c view s t s' hc hkind hfull hgives
  have htargets : c.subtypes { component := some (ofComponent parent) } d = full.values := by
    rw [subtypes, Option.bind_some, hc, hget]
  have hne : full.values ≠ [] := fun he => hfull (List.map_eq_nil_iff.1 he)
  exact subtypeUnion_gives hkind htargets hne hgives

end Setting

/-- Animals with tags: dogs have two from the document, one of them the name of birds, cats refer to
animals twice, and fish stand behind them. -/
def Client.animals : Json := .obj [
  ("info", .obj [("title", .str "Animals"), ("version", .str "1")]),
  ("paths", .obj []),
  ("components", .obj [("schemas", .obj [
    ("Cat", .obj [("allOf", .arr [
      .obj [("$ref", .str "#/components/schemas/Animal")],
      .obj [("$ref", .str "#/components/schemas/Animal")]])]),
    ("Animal", .obj [
      ("nullable", .bool true),
      ("discriminator", .obj [("propertyName", .str "kind"), ("mapping", .obj [
        ("puppy", .str "#/components/schemas/Dog"),
        ("Bird", .str "#/components/schemas/Dog")])]),
      ("properties", .obj [("kind", .obj [("type", .str "string")])])]),
    ("Dog", .obj [("allOf", .arr [.obj [("$ref", .str "#/components/schemas/Animal")]])]),
    ("Bird", .obj [("allOf", .arr [.obj [("$ref", .str "#/components/schemas/Animal")]])]),
    ("Fish", .obj [("allOf", .arr [.obj [("$ref", .str "#/components/schemas/Animal")]])])])])]

theorem Setting.subtypes_complete_animals : ∃ document components x full added t s' types,
    Document.ofJson Client.animals = .ok document ∧ document.components = some components ∧
    ("Animal", x) ∈ components.schemas ∧
    full.keys = ["puppy", "Bird", "Cat", "Fish"] ∧
    Completes components.schemas "Animal" [("puppy", "#/components/schemas/Dog"),
      ("Bird", "#/components/schemas/Dog")] full added ∧
    let c := ofDocument Client.animals document {}
    (c.typing { component := some "#/components/schemas/Animal" } x).Gives {} t s' ∧
    t = (TypeExpr.union types).orKeyword .null ∧
    List.Forall₂ (fun r type => (c.referenceType c.typing .base r).Gives s' type s')
      full.values types := by
  have hreads : Document.reads Client.animals (fun document =>
      let c := ofDocument Client.animals document {}
      document.components.any fun components => components.schemas.keys.Nodup &&
        (components.schemas.get? "Animal").any fun x =>
          (c.typing { component := some "#/components/schemas/Animal" } x).succeeds
            (fun _ => true) {} &&
          (c.discriminators.get? "#/components/schemas/Animal").any (fun known =>
            known.mapping.keys = ["puppy", "Bird", "Cat", "Fish"]) &&
          (x.isNullable && x.reference = none && x.oneOf.isNone && x.anyOf.isNone &&
            x.discriminator = some ⟨some "kind", some [
              ("puppy", "#/components/schemas/Dog"), ("Bird", "#/components/schemas/Dog")]⟩)) =
        true := by
    decide +kernel
  obtain ⟨document, hread, h⟩ := Document.exists_ofJson hreads
  obtain ⟨components, hcomponents, h⟩ := (Option.any_eq_true _ _).1 h
  obtain ⟨hkeys, h⟩ := Bool.and_eq_true_iff.1 h
  obtain ⟨x, hx, h⟩ := (Option.any_eq_true _ _).1 h
  simp only [Bool.and_eq_true, decide_eq_true_eq, Option.isNone_iff_eq_none] at h
  obtain ⟨⟨htyped, hindexed⟩, ⟨⟨⟨hnullable, hr⟩, hone⟩, hany⟩, hd⟩ := h
  obtain ⟨known, hknown, hmapping⟩ := (Option.any_eq_true _ _).1 hindexed
  have hfull := of_decide_eq_true hmapping
  obtain ⟨t, s', hgives, -⟩ := exists_gives htyped
  have hwritten : ofComponent "Animal" = "#/components/schemas/Animal" := by
    decide +kernel
  have hindex : (ofDocument Client.animals document {}).discriminators =
      ofSchemas components.schemas := by
    rw [ofDocument, Discriminators.ofDocument, hcomponents]
  obtain ⟨full, added, hget, hcompletes, htype⟩ :=
    (subtypes_complete (of_decide_eq_true hkeys)).2 "Animal" x _ (Dict.mem_of_get? hx) hd hone hany
  rw [hwritten, ← hindex, hknown] at hget
  cases hget
  have hne : full ≠ [] := by
    rintro rfl
    cases hfull
  rw [hwritten] at htype
  obtain ⟨types, ht, htypes⟩ := htype _ .base {} t s' hindex
    (Schema.kind_of_discriminator hr hone hany hd) hne hgives
  rw [if_pos hnullable] at ht
  exact ⟨document, components, x, full, added, t, s', types, hread, hcomponents,
    Dict.mem_of_get? hx, hfull, hcompletes, hgives, ht, htypes⟩

end ClientGen
