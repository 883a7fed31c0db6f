import ClientGen.Proofs.Discriminators.Completion
import ClientGen.Proofs.Typing.Pieces

namespace ClientGen

open Reference (ofComponent ofComponent_injective baseName escape unescape)
open Run TypeScript

namespace Reference

variable {cs : List Char}

theorem length_le_length_escape (cs : List Char) : cs.length ≤ (escape cs).length := by
  induction cs with
  | nil => exact Nat.le_refl 0
  | cons c cs ih =>
    have hc : 1 ≤ (if c = '~' then ['~', '0'] else if c = '/' then ['~', '1'] else [c]).length := by
      split
      · decide
      split
      · decide
      · exact Nat.le_refl 1
    rw [escape, List.length_append, List.length_cons]
    omega

/-- Just the names without tildes and slashes are written as they are. -/
theorem escape_eq_self_iff : escape cs = cs ↔ '~' ∉ cs ∧ '/' ∉ cs := by
  induction cs with
  | nil => exact iff_of_true rfl ⟨List.not_mem_nil, List.not_mem_nil⟩
  | cons c cs ih =>
    by_cases htilde : c = '~'
    · refine iff_of_false (fun h => ?_) fun h => h.1 (htilde ▸ List.mem_cons_self)
      -- The escape of a tilde is two characters long, so the rest would have to be shorter.
      have hlength := congrArg List.length h
      have hrest := length_le_length_escape cs
      rw [escape, if_pos htilde, List.length_append, List.length_cons, List.length_cons,
        List.length_cons] at hlength
      omega
    by_cases hslash : c = '/'
    · refine iff_of_false (fun h => ?_) fun h => h.2 (hslash ▸ List.mem_cons_self)
      have hmem := slash_not_mem_escape (c :: cs)
      rw [h, hslash] at hmem
      exact hmem List.mem_cons_self
    · rw [escape_cons_of_ne htilde hslash, List.cons.injEq, and_iff_right rfl, ih, List.mem_cons,
        List.mem_cons, not_or, not_or, and_iff_right (Ne.symm htilde),
        and_iff_right (Ne.symm hslash)]

theorem baseName_ofComponent (name : String) :
    (baseName (ofComponent name)).toList = escape name.toList := by
  have hreference : (ofComponent name).toList =
      "#/components/schemas".toList ++ '/' :: escape name.toList := by
    rw [ofComponent, String.toList_append, String.toList_ofList]
    rfl
  rw [baseName, hreference, Text.splitAt_append,
    Text.splitAt_of_not_mem (slash_not_mem_escape name.toList), List.getLastD_concat,
    String.toList_ofList]

end Reference

theorem Discriminating.tag?_isSome_iff {d : Discriminating} {r : String} :
    (d.tag? r).isSome ↔ r ∈ d.mapping.values := by
  simp [tag?, Dict.values]

theorem Discriminating.tag?_ofComponent {d : Discriminating} {names : List String} {name : String}
    (hmapping : d.mapping = names.map fun n => (n, ofComponent n))
    (h : ofComponent name ∈ d.mapping.values) : d.tag? (ofComponent name) = some name := by
  obtain ⟨tag, htag⟩ := Option.isSome_iff_exists.1 (tag?_isSome_iff.2 h)
  obtain ⟨entry, hentry, rfl⟩ := Option.map_eq_some_iff.1 htag
  have htarget : entry.2 = ofComponent name := by simpa using List.find?_some hentry
  have hmem := List.mem_of_find?_eq_some hentry
  rw [hmapping] at hmem
  obtain ⟨n, -, rfl⟩ := List.mem_map.1 hmem
  rw [htag, ofComponent_injective htarget]

/-- A component that extends a discriminating one without a mapping has its name for its tag. -/
theorem Discriminators.tag?_of_branch {schemas : Dict Schema} {parent name : String}
    {p x : Schema} {d : Discriminator} (hkeys : schemas.keys.Nodup) (hp : (parent, p) ∈ schemas)
    (hd : p.discriminator = some d) (hone : p.oneOf = none) (hany : p.anyOf = none)
    (hmapping : d.mapping = none) (hx : (name, x) ∈ schemas)
    (hbranch : x.HasBranch (ofComponent parent)) :
    ∃ known, (ofSchemas schemas).get? (ofComponent parent) = some known ∧
      known.tag? (ofComponent name) = some name := by
  obtain ⟨full, added, hget, hcompletes⟩ := exists_completes hkeys hp hd hone hany
  have hfull : full = added.map fun n => (n, ofComponent n) := by
    rw [hcompletes.full_eq, hmapping]
    rfl
  refine ⟨_, hget, Discriminating.tag?_ofComponent hfull ?_⟩
  rcases hcompletes.complete name x hx hbranch with hmem | ⟨target, hne, hmem⟩
  · exact hmem
  · -- Under its name there is no other component, since all stand under their own names.
    rw [hfull] at hmem
    obtain ⟨n, -, he⟩ := List.mem_map.1 hmem
    cases he
    exact absurd rfl hne

theorem TypeScript.TypeExpr.exists_union_append (nullable : Bool) (members : List TypeExpr) :
    ∃ rest, (if nullable then (TypeExpr.union members).orKeyword .null else .union members) =
      .union (members ++ rest) := by
  cases nullable with
  | false => exact ⟨[], congrArg TypeExpr.union (List.append_nil members).symm⟩
  | true =>
    rw [if_pos rfl, orKeyword]
    split
    · exact ⟨[], congrArg TypeExpr.union (List.append_nil members).symm⟩
    · exact ⟨_, rfl⟩

namespace Setting

variable {c : Setting} {n : Nat} {place : Place} {d : Discriminator} {variants : List Schema}
  {y : Schema} {s s' : Session} {t : TypeExpr}

def tagged (d : Discriminator) (variant : Schema) (u : TypeExpr) : TypeExpr :=
  .intersection [variantTag d variant, u]

theorem variantTag_of_mapping_eq_none {property r : String} {variant : Schema}
    (hd : d.propertyName = some property) (hmapping : d.mapping = none)
    (hr : variant.reference = some r) : variantTag d variant = .tag property (baseName r) := by
  rw [variantTag, hd, hmapping, hr]
  rfl

/-- A tagged union has its variants in their places, each behind its tag. -/
theorem exists_tagged (hkind : y.kind = .oneOf variants (some d))
    (h : (c.typingWithin n place y).Gives s t s') : ∃ property members,
      d.propertyName = some property ∧ t = .union members ∧
      ∀ (i : Nat) (variant : Schema), variants[i]? = some variant →
        ∃ u, members[i]? = some (tagged d variant u) := by
  cases n with
  | zero => exact absurd h not_gives_throw
  | succ n =>
    obtain ⟨hsensible, types, htypes, ht⟩ := typingStep_gives.1 h
    have hlength := htypes.length_eq
    simp only [Sensible, pieces, assemble, hkind, List.length_map] at hsensible hlength ht
    obtain ⟨property, hproperty⟩ := Option.isSome_iff_exists.1 hsensible.1
    obtain ⟨rest, hrest⟩ := TypeExpr.exists_union_append y.isNullable
      (List.zipWith (tagged d) variants types)
    refine ⟨property, _, hproperty, ht.symm.trans hrest, fun i variant hi => ?_⟩
    obtain ⟨hlt, -⟩ := List.getElem?_eq_some_iff.1 hi
    obtain ⟨u, hu⟩ : ∃ u, types[i]? = some u := ⟨_, List.getElem?_eq_getElem (hlength ▸ hlt)⟩
    have hmember : (List.zipWith (tagged d) variants types)[i]? = some (tagged d variant u) :=
      List.getElem?_zipWith_eq_some.2 ⟨variant, u, hi, hu, rfl⟩
    exact ⟨u, (List.getElem?_append_left (List.getElem?_eq_some_iff.1 hmember).1).trans hmember⟩

/-- Where no mapping says it, a component has its written name for its tag as a variant of a tagged
union, and its name as a subtype of a component that it extends. Its name is what is read from the
written one, but they are the same just if no tilde and no slash is in it. -/
theorem implied_tags {name : String} {i : Nat} {variant : Schema}
    (hkind : y.kind = .oneOf variants (some d)) (hmapping : d.mapping = none)
    (hi : variants[i]? = some variant) (hr : variant.reference = some (ofComponent name))
    (h : (c.typingWithin n place y).Gives s t s')
    {schemas : Dict Schema} {parent : String} {p x : Schema} {e : Discriminator}
    (hkeys : schemas.keys.Nodup) (hp : (parent, p) ∈ schemas) (he : p.discriminator = some e)
    (hone : p.oneOf = none) (hany : p.anyOf = none) (hplain : e.mapping = none)
    (hx : (name, x) ∈ schemas) (hbranch : x.HasBranch (ofComponent parent)) :
    ∃ property members u known tag,
      d.propertyName = some property ∧ t = .union members ∧
      members[i]? = some (.intersection [.tag property tag, u]) ∧
      (Discriminators.ofSchemas schemas).get? (ofComponent parent) = some known ∧
      known.tag? (ofComponent name) = some name ∧
      tag.toList = escape name.toList ∧ unescape tag.toList = name.toList ∧
      (tag = name ↔ '~' ∉ name.toList ∧ '/' ∉ name.toList) := by
  obtain ⟨property, members, hproperty, rfl, hmembers⟩ := exists_tagged hkind h
  obtain ⟨u, hu⟩ := hmembers i variant hi
  obtain ⟨known, hknown, htag⟩ :=
    Discriminators.tag?_of_branch hkeys hp he hone hany hplain hx hbranch
  rw [tagged, variantTag_of_mapping_eq_none hproperty hmapping hr] at hu
  have hwritten := Reference.baseName_ofComponent name
  refine ⟨property, members, u, known, _, hproperty, rfl, hu, hknown, htag, hwritten, ?_, ?_⟩
  · rw [hwritten, Reference.unescape_escape]
  · rw [← String.toList_inj, hwritten, Reference.escape_eq_self_iff]

/-- A document with an animal and two that extend it, of which one has a slash in its name. -/
def zoo : Setting := ofDocument (.obj [
  ("components", .obj [("schemas", .obj [
    ("Animal", .obj [("discriminator", .obj [("propertyName", .str "kind")])]),
    ("Dog", .obj [("allOf", .arr [.obj [("$ref", .str "#/components/schemas/Animal")]])]),
    ("cats/big", .obj [("allOf", .arr [.obj [("$ref", .str "#/components/schemas/Animal")]])])])])])
  {} {}

def zooSchemas : Dict Schema := [
  ("Animal", { discriminator := some ⟨some "kind", none⟩ }),
  ("Dog", { allOf := some [.ofReference "#/components/schemas/Animal"] }),
  ("cats/big", { allOf := some [.ofReference "#/components/schemas/Animal"] })]

/-- A choice among the components that extend the animal, told apart by a tag. -/
def zooChoice : Schema :=
  { oneOf := some [.ofReference "#/components/schemas/Dog",
      .ofReference "#/components/schemas/cats~1big"]
    discriminator := some ⟨some "kind", none⟩ }

theorem mem_zooSchemas {name : String}
    (h : (name, { allOf := some [.ofReference "#/components/schemas/Animal"] }) ∈ zooSchemas) :
    ∃ x, (name, x) ∈ zooSchemas ∧ x.HasBranch (ofComponent "Animal") := by
  have hwritten : ofComponent "Animal" = "#/components/schemas/Animal" := by decide +kernel
  exact ⟨_, h, _, List.mem_cons_self, congrArg some hwritten.symm⟩

theorem implied_tags_zoo : ∃ members s' u known,
    (zoo.typing {} zooChoice).Gives {} (.union members) s' ∧
    members[0]? = some (.intersection [.tag "kind" "Dog", u]) ∧
    (Discriminators.ofSchemas zooSchemas).get? (ofComponent "Animal") = some known ∧
    known.tag? (ofComponent "Dog") = some "Dog" := by
  obtain ⟨t, s', h, -⟩ := exists_gives (r := zoo.typing {} zooChoice) (p := fun _ => true)
    (s := {}) (by decide +kernel)
  have hdog : (Schema.ofReference "#/components/schemas/Dog").reference =
      some (ofComponent "Dog") := by
    decide +kernel
  have hkeys : zooSchemas.keys.Nodup := by decide
  obtain ⟨x, hx, hbranch⟩ := mem_zooSchemas (List.mem_cons_of_mem _ List.mem_cons_self)
  obtain ⟨property, members, u, known, tag, hproperty, rfl, hmember, hknown, htag, -, -, hsame⟩ :=
    implied_tags (i := 0) rfl rfl rfl hdog h hkeys List.mem_cons_self rfl rfl rfl rfl hx hbranch
  cases hproperty
  rw [hsame.2 (by decide)] at hmember
  exact ⟨members, s', u, known, h, hmember, hknown, htag⟩

/-- The tag of a component with a slash in its name is the written one in a choice, and the name
itself where it extends the animal. -/
theorem cats_big_tags_differ : ∃ members s' u known,
    ofComponent "cats/big" = "#/components/schemas/cats~1big" ∧
    (zoo.typing {} zooChoice).Gives {} (.union members) s' ∧
    members[1]? = some (.intersection [.tag "kind" "cats~1big", u]) ∧
    (Discriminators.ofSchemas zooSchemas).get? (ofComponent "Animal") = some known ∧
    known.tag? (ofComponent "cats/big") = some "cats/big" := by
  obtain ⟨t, s', h, -⟩ := exists_gives (r := zoo.typing {} zooChoice) (p := fun _ => true)
    (s := {}) (by decide +kernel)
  have hwritten : ofComponent "cats/big" = "#/components/schemas/cats~1big" := by decide +kernel
  have hkeys : zooSchemas.keys.Nodup := by decide
  obtain ⟨property, members, hproperty, rfl, hmembers⟩ := exists_tagged rfl h
  cases hproperty
  obtain ⟨u, hu⟩ := hmembers 1 _ rfl
  have htag : baseName "#/components/schemas/cats~1big" = "cats~1big" := by decide +kernel
  rw [tagged, variantTag_of_mapping_eq_none rfl rfl rfl, htag] at hu
  obtain ⟨x, hx, hbranch⟩ := mem_zooSchemas
    (List.mem_cons_of_mem _ (List.mem_cons_of_mem _ List.mem_cons_self))
  obtain ⟨known, hknown, hbranch⟩ :=
    Discriminators.tag?_of_branch hkeys List.mem_cons_self rfl rfl rfl rfl hx hbranch
  exact ⟨members, s', u, known, hwritten, h, hu, hknown, hbranch⟩

end Setting

end ClientGen
