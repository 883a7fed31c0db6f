import ClientGen.Proofs.Document.Indexed
import ClientGen.Proofs.Typing.Ends

namespace ClientGen

open Json (Part)
open Run

namespace Schema

/-- The references in branches of the schema and of those inside it, `depth` deep. -/
def extensions : Nat → Schema → List String
  | 0, _ => []
  | depth + 1, s =>
    if s.reference.isSome then []
    else (s.allOf.getD []).filterMap reference ++ s.inside.flatMap (extensions depth)

theorem mem_extensions {n : Nat} {q : String} {s : Schema} (hs : s.Nested n) (h : s.Extends q) :
    q ∈ s.extensions n := by
  induction h generalizing n with
  | branch hs' hb hq =>
    cases n with
    | zero => cases hs
    | succ n =>
      rw [extensions, hs', if_neg (by simp)]
      exact List.mem_append_left _ (List.mem_filterMap.2 ⟨_, hb, hq⟩)
  | inside hs' ht _ ih =>
    cases n with
    | zero => cases hs
    | succ n =>
      rw [extensions, hs', if_neg (by simp)]
      exact List.mem_append_right _ (List.mem_flatMap.2 ⟨_, ht, ih (hs _ ht)⟩)

end Schema

namespace Setting

variable {tree : Json} {document : Document} {options : Options} {n : Nat} {x : Schema}

/-- In every place and every session the typing of the schema is not cut off, and one that may go
deeper comes to the same. -/
def Terminates (c : Setting) (x : Schema) : Prop :=
  ∀ place s m, c.depth ≤ m → Settles (c.typing place x) (c.typingWithin m place x) s

def ofSize (tree : Json) (document : Document) (options : Options) (n : Nat) : Setting :=
  { ofDocument tree document options with size := n }

theorem Limits.stepsLeft_le_depth {c : Setting} {refs known names : List String}
    (hc : c.Limits refs known names) (s : Session) :
    c.stepsLeft known s names.toFinset (2 * c.size + 1) ≤ c.depth := by
  have hunmet : (unmet known s).card ≤ 2 * c.size :=
    calc (unmet known s).card ≤ known.toFinset.card := Finset.card_filter_le _ _
      _ ≤ known.length := known.toFinset_card_le
      _ ≤ 2 * c.size := hc.known_le
  have hnames : names.toFinset.card ≤ c.size := Nat.le_trans names.toFinset_card_le hc.names_le
  unfold stepsLeft
  calc ((unmet known s).card * (c.size + 1) + names.toFinset.card) * (2 * c.size + 1) +
        (2 * c.size + 1)
      ≤ (2 * c.size * (c.size + 1) + c.size) * (2 * c.size + 1) + (2 * c.size + 1) := by gcongr
    _ ≤ 4 * (c.size + 2) ^ 3 := by
      ring_nf
      omega

/-- A document has no more to enter than it has values, apart from what a schema brings along. -/
theorem exists_limits (h : Document.ofJson tree = .ok document) (options : Options)
    (more : List String) (hn : tree.size + more.length ≤ n) : ∃ names known,
      (ofSize tree document options n).Limits tree.texts known names ∧
      tree.texts ++ more ⊆ known := by
  obtain ⟨names, hlength, hindexed⟩ := Document.discriminators_of_ofJson h
  have htexts := tree.length_texts_le
  have hread {r : String} {y : Schema} (hy : (ofSize tree document options n).schema r = .ok y) :
      ∃ k, Part k tree ∧ Schema.read k = some y := Reference.exists_part_of_resolve hy
  have hnested : ∀ {r y}, (ofSize tree document options n).schema r = .ok y → y.Nested n := by
    intro r y hy
    obtain ⟨k, hpart, hk⟩ := hread hy
    have hsize := hpart.size_le
    exact (Schema.nested_of_readWithin hk).mono (by omega)
  have hmentions : ∀ {r y}, (ofSize tree document options n).schema r = .ok y →
      ∀ q, y.Mentions q → q ∈ tree.texts := by
    intro r y hy q hq
    obtain ⟨k, hpart, hk⟩ := hread hy
    exact hpart.texts_subset (Schema.mem_texts_of_mentions hk hq)
  have hknown : (tree.texts ++ names ++ more).length ≤ 2 * n := by
    rw [List.length_append, List.length_append]
    omega
  have hrefs : tree.texts.length ≤ n := by omega
  have hnames : names.length ≤ n := by omega
  refine ⟨names, tree.texts ++ names ++ more, ⟨⟨hnested, hmentions⟩, hrefs, hknown, hnames,
    fun q hq => ?_, fun {r d} hd => ?_⟩, fun q hq => ?_⟩
  · exact List.mem_append_left _ (List.mem_append_left _ hq)
  · obtain ⟨hr, hvalues⟩ := hindexed r d hd
    exact ⟨hr, fun q hq => List.mem_append_left _ (hvalues q hq)⟩
  · rcases List.mem_append.1 hq with hq | hq
    · exact List.mem_append_left _ (List.mem_append_left _ hq)
    · exact List.mem_append_right _ hq

def inlinedBy (c : Setting) (p : String) : List String :=
  match c.discriminators.get? p, c.schema p with
  | some d, .ok x =>
    ((x.objectParts d.property).flatMap (Schema.extensions c.size)).filter c.discriminators.has
  | _, _ => []

theorem mem_inlinedBy {c : Setting} {refs : List String} {p q : String}
    (hc : c.Bounded refs c.size) (h : c.Inlines p q) : q ∈ c.inlinedBy p := by
  obtain ⟨d, y, part, hd, hy, hpart, hq, hsome⟩ := h
  have hin : part ∈ y.inside := y.objectParts_subset_inside d.property hpart
  have hnested : part.Nested c.size := ((hc.nested hy).inside hin).mono (Nat.sub_le c.size 1)
  unfold inlinedBy
  rw [hd, hy]
  apply List.mem_filter.2
  exact ⟨List.mem_flatMap.2 ⟨part, hpart, Schema.mem_extensions hnested hq⟩, hsome⟩

/-- A list of the discriminating components in which those that are inlined into another one stand
before it shows that none gets into itself. -/
theorem inlinesWithoutCycle_of_order (h : Document.ofJson tree = .ok document)
    (order : List String) (horder : ∀ p ∈ (ofDocument tree document options).discriminators.keys,
      ∀ q ∈ (ofDocument tree document options).inlinedBy p, order.idxOf q < order.idxOf p) :
    (ofDocument tree document options).InlinesWithoutCycle := by
  obtain ⟨names, known, hlimits, -⟩ := exists_limits h options [] (Nat.le_refl tree.size)
  have hdown : ∀ p q, (ofDocument tree document options).Inlines p q →
      order.idxOf q < order.idxOf p := by
    intro p q hpq
    have hmem := mem_inlinedBy hlimits.toBounded hpq
    obtain ⟨d, -, -, hd, -⟩ := hpq
    exact horder p (List.mem_map.2 ⟨_, Dict.mem_of_get? hd, rfl⟩) q hmem
  have hdowns : ∀ p q, Relation.TransGen (ofDocument tree document options).Inlines p q →
      order.idxOf q < order.idxOf p := by
    intro p q hpq
    induction hpq with
    | single hstep => exact hdown _ _ hstep
    | tail _ hstep ih => exact Nat.lt_trans (hdown _ _ hstep) ih
  exact fun r hr => Nat.lt_irrefl _ (hdowns r r hr)

theorem terminates_ofSize (h : Document.ofJson tree = .ok document)
    (hacyclic : (ofDocument tree document options).InlinesWithoutCycle) (more : List String)
    (hn : tree.size + more.length ≤ n) (hx : x.Nested n)
    (hrefs : ∀ r, x.Mentions r → r ∈ tree.texts ++ more) :
    (ofSize tree document options n).Terminates x := by
  intro place s m hm
  obtain ⟨names, known, hlimits, hsubset⟩ := exists_limits h options more hn
  have hfits := hlimits.fits hx fun r hr => hsubset (hrefs r hr)
  have hsettled := typingWithin_settles hlimits hacyclic (Nat.le_refl _) hm
  exact hsettled place x names.toFinset _ s hfits (hlimits.stepsLeft_le_depth s)

theorem flagsOf_terminates (h : Document.ofJson tree = .ok document) {r : String} {s : Session} :
    ((ofDocument tree document options).flagsOf r).Ends s := by
  obtain ⟨names, known, hlimits, -⟩ := exists_limits h options [] (Nat.le_refl tree.size)
  exact flagsOf_ends hlimits.toBounded (Nat.le_refl _) hlimits.refs_le

/-- The search for flags terminates for every reference. Where no discriminating component is
inlined into itself, typing terminates for every schema of the document, for every schema of another
tree that the setting takes in, and for any schema at all if the setting is big enough. -/
theorem typing_terminates (h : Document.ofJson tree = .ok document)
    (hacyclic : (ofDocument tree document options).InlinesWithoutCycle) (x : Schema) :
    (∀ r s, ((ofDocument tree document options).flagsOf r).Ends s) ∧
    (∀ j, Part j tree → Schema.read j = some x → (ofDocument tree document options).Terminates x) ∧
    (∀ j, Schema.read j = some x →
      ((ofDocument tree document options).withTree j).Terminates x) ∧
    (∃ n, ∀ m ≥ n, (ofSize tree document options m).Terminates x) := by
  refine ⟨fun r s => flagsOf_terminates h, fun j hpart hj => ?_, fun j hj => ?_, ?_⟩
  · have hsize := hpart.size_le
    refine terminates_ofSize (n := tree.size) h hacyclic [] (Nat.le_refl _) ?_ ?_
    · exact (Schema.nested_of_readWithin hj).mono hsize
    · intro r hr
      rw [List.append_nil]
      exact hpart.texts_subset (Schema.mem_texts_of_mentions hj hr)
  · have htexts := j.length_texts_le
    refine terminates_ofSize (n := tree.size + j.size) h hacyclic j.texts (by omega) ?_ ?_
    · exact (Schema.nested_of_readWithin hj).mono (by omega)
    · exact fun r hr => List.mem_append_right _ (Schema.mem_texts_of_mentions hj hr)
  · obtain ⟨k, refs, hk, hrefs⟩ := x.exists_bounds
    refine ⟨tree.size + refs.length + k, fun m hm => ?_⟩
    refine terminates_ofSize h hacyclic refs (by omega) (hk.mono (by omega)) ?_
    exact fun r hr => List.mem_append_right _ (hrefs r hr)

end Setting

/-- A pet has a home, which is inlined into it, and the home has a pet as its owner. Cats extend
pets, the mapping of pets leads back to them, a leash is part of another one, and two names stand
for each other. -/
def Client.pets : Json := .obj [
  ("info", .obj [("title", .str "Pets"), ("version", .str "1")]),
  ("paths", .obj []),
  ("components", .obj [("schemas", .obj [
    ("Pet", .obj [
      ("discriminator", .obj [("propertyName", .str "kind"), ("mapping", .obj [
        ("cat", .str "#/components/schemas/Cat"), ("pet", .str "#/components/schemas/Pet")])]),
      ("properties", .obj [
        ("kind", .obj [("type", .str "string")]),
        ("home", .obj [("allOf", .arr [.obj [("$ref", .str "#/components/schemas/Home")]])]),
        ("leash", .obj [("$ref", .str "#/components/schemas/Leash")])])]),
    ("Home", .obj [
      ("discriminator", .obj [("propertyName", .str "style")]),
      ("properties", .obj [("owner", .obj [("$ref", .str "#/components/schemas/Pet")])])]),
    ("Cat", .obj [("allOf", .arr [.obj [("$ref", .str "#/components/schemas/Pet")]])]),
    ("Leash", .obj [("properties", .obj [
      ("rest", .obj [("$ref", .str "#/components/schemas/Leash")]),
      ("owner", .obj [("$ref", .str "#/components/schemas/This")])])]),
    ("This", .obj [("$ref", .str "#/components/schemas/That")]),
    ("That", .obj [("$ref", .str "#/components/schemas/This")])])])]

namespace Setting

def typeCat (c : Setting) : Run (List String) := do
  let cat ← c.schema "#/components/schemas/Cat"
  let _ ← c.typing {} cat
  return (← get).references.keys

theorem typing_terminates_pets : ∃ document cat t s,
    Document.ofJson Client.pets = .ok document ∧
    (ofDocument Client.pets document {}).inlinedBy "#/components/schemas/Pet" =
      ["#/components/schemas/Home"] ∧
    (ofDocument Client.pets document {}).InlinesWithoutCycle ∧
    (ofDocument Client.pets document {}).schema "#/components/schemas/Cat" = .ok cat ∧
    (ofDocument Client.pets document {}).Terminates cat ∧
    ((ofDocument Client.pets document {}).typing {} cat).Gives {} t s ∧
    s.references.keys = ["Pet", "Cat", "Leash", "This", "That"].map Reference.ofComponent := by
  have hreads : Document.reads Client.pets (fun document =>
      let c := ofDocument Client.pets document {}
      let order := ["Home", "Pet"].map Reference.ofComponent
      (∀ p ∈ c.discriminators.keys, ∀ q ∈ c.inlinedBy p, order.idxOf q < order.idxOf p) ∧
      c.inlinedBy "#/components/schemas/Pet" = ["#/components/schemas/Home"] ∧
      c.typeCat.succeeds
        (· = ["Pet", "Cat", "Leash", "This", "That"].map Reference.ofComponent) {}) = true := by
    decide +kernel
  obtain ⟨document, hread, hp⟩ := Document.exists_ofJson hreads
  obtain ⟨horder, hpet, hcat⟩ := of_decide_eq_true hp
  have hacyclic := inlinesWithoutCycle_of_order hread _ horder
  obtain ⟨keys, s, hrun, hkeys⟩ := exists_gives hcat
  simp only [typeCat, gives_bind, gives_lift, gives_get, gives_pure] at hrun
  obtain ⟨cat, _, ⟨hschema, rfl⟩, t, s, htype, _, _, ⟨rfl, rfl⟩, rfl, rfl⟩ := hrun
  obtain ⟨j, hpart, hj⟩ := Reference.exists_part_of_resolve hschema
  obtain ⟨-, hterminates, -⟩ := typing_terminates hread hacyclic cat
  exact ⟨document, cat, t, _, hread, hpet, hacyclic, hschema, hterminates j hpart hj, htype,
    of_decide_eq_true hkeys⟩

end Setting

end ClientGen
