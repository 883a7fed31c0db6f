import ClientGen.Proofs.Typing.Closed
import ClientGen.Proofs.Typing.Outline
import ClientGen.Proofs.Typing.Repeat

namespace ClientGen

open Run TypeScript TypeExpr

namespace Setting

variable {c : Setting} {m : View} {s s' u v v' : Session} {t t' : TypeExpr} {ts ts' : List TypeExpr}
  {n k : Nat}

theorem keeps_of_base {x : Schema} (h : c.keeps .base x = true) (m : View) :
    c.keeps m x = true := by
  unfold keeps at h ⊢
  cases hm : c.options.mergeViews with
  | true => rfl
  | false =>
    simp only [hm, Bool.false_or, Bool.and_eq_true, Bool.not_eq_true'] at h
    cases m <;> simp [h]

theorem length_propertiesOf_lt {skip : Option String} {x : Schema} {p : String × Schema}
    (hp : p ∈ x.properties.getD []) (hskip : skip ≠ some p.1)
    (h : c.keeps .base p.2 ≠ c.keeps m p.2) :
    (c.propertiesOf .base skip x).length < (c.propertiesOf m skip x).length := by
  have hbase : c.keeps .base p.2 = false := by
    cases hb : c.keeps .base p.2 with
    | false => rfl
    | true => exact absurd (hb.trans (keeps_of_base hb m).symm) h
  have hm : c.keeps m p.2 = true := by
    cases hm : c.keeps m p.2 with
    | false => exact absurd (hbase.trans hm.symm) h
    | true => rfl
  have hfilter : c.propertiesOf .base skip x =
      (c.propertiesOf m skip x).filter fun p => c.keeps .base p.2 := by
    unfold propertiesOf
    rw [List.filter_filter]
    refine List.filter_congr fun q _ => ?_
    cases hq : c.keeps .base q.2 with
    | false => simp
    | true => simp [keeps_of_base hq m]
  rw [hfilter, List.length_filter_lt_length_iff_exists]
  refine ⟨p, List.mem_filter.2 ⟨hp, ?_⟩, by simp [hbase]⟩
  simp [hskip, hm]

/-- Where `typing` gave a type in the base view, a later type by `typing'` in a view has the same
outline, and it is another one if the views differ. -/
def Tells (c : Setting) (typing typing' : Typing) : Prop :=
  ∀ {m name component x s t s' u v t' v'}, (typing ⟨.base, name, component⟩ x).Gives s t s' →
    c.Later s' u → c.Later u v → (typing' ⟨m, name, component⟩ x).Gives v t' v' →
    SameOutline t t' ∧ (c.Differs u .base m (.schema name component x) → t ≠ t')

theorem each_tells (hn : n ≤ c.depth) (hk : k ≤ c.depth) {pieces : List Piece}
    (h : Each (c.pieceType (c.typingWithin n) .base) pieces s ts s') (hu : c.Later s' u)
    (hv : c.Later u v) (h' : Each (c.pieceType (c.typingWithin k) m) pieces v ts' v')
    (hp : ∀ p ∈ pieces, ∀ s t s' v t' v',
      (c.pieceType (c.typingWithin n) .base p).Gives s t s' → c.Later s' u → c.Later u v →
      (c.pieceType (c.typingWithin k) m p).Gives v t' v' →
      SameOutline t t' ∧ (c.Differs u .base m p → t ≠ t')) :
    List.Forall₂ SameOutline ts ts' ∧ ((∃ p ∈ pieces, c.Differs u .base m p) → ts ≠ ts') := by
  induction pieces generalizing s ts v ts' with
  | nil =>
    cases h
    cases h'
    exact ⟨.nil, fun ⟨p, hp, _⟩ => absurd hp List.not_mem_nil⟩
  | cons p pieces ih =>
    cases h with
    | cons head tail =>
      cases h' with
      | cons head' tail' =>
        have hlater := (later_pieces hn tail).trans hu
        have hone : Each (c.pieceType (c.typingWithin k) m) [p] v [_] _ := .cons head' (.nil _)
        have hlater' := later_pieces hk hone
        obtain ⟨hout, hne⟩ := hp p List.mem_cons_self _ _ _ _ _ _ head hlater hv head'
        obtain ⟨hout', hne'⟩ := ih tail (hv.trans hlater') tail'
          fun p' hp' => hp p' (List.mem_cons_of_mem p hp')
        refine ⟨.cons hout hout', ?_⟩
        rintro ⟨q, hq, hd⟩ he
        obtain ⟨ht, hts⟩ := List.cons.inj he
        rcases List.mem_cons.1 hq with rfl | hq
        · exact hne hd ht
        · exact hne' ⟨q, hq, hd⟩ hts

theorem enum_tells {name : String} {x : Schema} (h : (NamedEnum.declare x name).Gives s t s')
    (h' : (NamedEnum.declare x name).Gives v t' v') : SameOutline t t' := by
  obtain ⟨n, rfl, -⟩ := NamedEnum.declare_gives h
  obtain ⟨n', rfl, -⟩ := NamedEnum.declare_gives h'
  exact ⟨nofun, fun _ => rfl⟩

theorem reference_tells (hn : n ≤ c.depth) {typing : Typing} {r : String}
    (h : (c.referenceType (c.typingWithin n) .base r).Gives s t s') (hu : c.Later s' u)
    (hv : c.Later u v) (h' : (c.referenceType typing m r).Gives v t' v') :
    SameOutline t t' ∧ (c.Differs u .base m (.reference r) → t ≠ t') := by
  rcases referenceType_gives hn h with ⟨names, hr, rfl⟩ | ⟨x, hr, hx, he, h⟩
  · have hru := hu.known hr
    obtain ⟨rfl, -⟩ := (referenceType_known (hv.known hru) m).unique h'
    refine ⟨⟨nofun, fun _ => rfl⟩, fun hd he => ?_⟩
    cases hd with
    | reference hr' hne =>
      cases hru.symm.trans hr'
      exact hne (named.inj he)
  · have hlater : c.Later s u := (c.growth.enum h).1.later.trans hu
    have hnone := hlater.get?_eq_none hr hx he
    rw [referenceType_enum ((hlater.trans hv).get?_eq_none hr hx he) hx he] at h'
    refine ⟨enum_tells h h', fun hd => ?_⟩
    cases hd with
    | reference hr' hne => cases hnone.symm.trans hr'

theorem object_tells (hn : n ≤ c.depth) (hk : k ≤ c.depth)
    (ho : c.Tells (c.typingWithin n) (c.typingWithin k)) {skip : Option String} {x : Schema}
    (h : (c.objectType (c.typingWithin n) .base skip x).Gives s t s') (hu : c.Later s' u)
    (hv : c.Later u v) (h' : (c.objectType (c.typingWithin k) m skip x).Gives v t' v') :
    SameOutline t t' ∧ (c.Differs u .base m (.object skip x) → t ≠ t') := by
  obtain ⟨ts, s₁, is, hts, his, rfl⟩ := objectType_gives.1 h
  obtain ⟨ts', v₁, is', hts', his', rfl⟩ := objectType_gives.1 h'
  refine ⟨⟨nofun, fun _ => rfl⟩, fun hd he => ?_⟩
  obtain ⟨hmembers, hindex⟩ := object.inj he
  have hlen : ts.length = (c.propertiesOf .base skip x).length := by simpa using hts.length_eq
  have hlen' : ts'.length = (c.propertiesOf m skip x).length := by simpa using hts'.length_eq
  -- a property that only one view keeps makes one object longer
  have hkeeps : ∀ p ∈ x.properties.getD [], skip ≠ some p.1 →
      c.keeps .base p.2 = c.keeps m p.2 := by
    refine fun p hp hskip => Decidable.byContradiction fun hne => ?_
    have hlt := length_propertiesOf_lt hp hskip hne
    have heq := congrArg List.length hmembers
    simp only [List.length_zipWith, hlen, hlen', Nat.min_self] at heq
    omega
  have hprops := propertiesOf_eq hkeeps
  rw [← hprops] at hts' hmembers
  have hs₁ := (later_pieces hn his).trans hu
  have hv₁ := hv.trans (later_pieces hk hts')
  obtain ⟨hout, hne⟩ := each_tells hn hk hts hs₁ hv hts' fun p hp s t s' v t' v' h hu hv h' => by
    obtain ⟨property, -, rfl⟩ := List.mem_map.1 hp
    exact ho h hu hv h'
  obtain ⟨hout', hne'⟩ := each_tells hn hk his hu hv₁ his' fun p hp s t s' v t' v' h hu hv h' => by
    obtain ⟨part, -, rfl⟩ := mem_indexPieces.1 hp
    exact ho h hu hv h'
  cases hd with
  | kept hp hskip h => exact h (hkeeps _ hp hskip)
  | property hp h =>
    refine hne ⟨_, List.mem_map.2 ⟨_, hp, rfl⟩, h⟩ ?_
    exact zipWith_inj (f := c.member x) (fun _ {_ _} => member_inj) hout hlen hmembers
  | index hp h => exact hne' ⟨_, hp, h⟩ (index_inj his.length_eq hout' hindex)

theorem piece_tells (hn : n ≤ c.depth) (hk : k ≤ c.depth)
    (ho : c.Tells (c.typingWithin n) (c.typingWithin k)) {p : Piece}
    (h : (c.pieceType (c.typingWithin n) .base p).Gives s t s') (hu : c.Later s' u)
    (hv : c.Later u v) (h' : (c.pieceType (c.typingWithin k) m p).Gives v t' v') :
    SameOutline t t' ∧ (c.Differs u .base m p → t ≠ t') := by
  cases p with
  | schema name component x => exact ho h hu hv h'
  | object skip x => exact object_tells hn hk ho h hu hv h'
  | reference r => exact reference_tells hn h hu hv h'
  | enum name x => exact ⟨enum_tells h h', fun hd => by cases hd⟩

theorem typingWithin_tells (hn : n ≤ c.depth) (hk : k ≤ c.depth) :
    c.Tells (c.typingWithin n) (c.typingWithin k) := by
  induction n generalizing k with
  | zero => exact fun h => absurd h not_gives_throw
  | succ n ih =>
    intro m name component x s t s' u v t' v' h hu hv h'
    cases k with
    | zero => exact absurd h' not_gives_throw
    | succ k =>
      have hn := Nat.le_of_succ_le hn
      have hk := Nat.le_of_succ_le hk
      obtain ⟨-, ts, hts, rfl⟩ := typingStep_gives.1 h
      obtain ⟨-, ts', hts', rfl⟩ := typingStep_gives.1 h'
      obtain ⟨hout, hne⟩ := each_tells hn hk hts hu hv hts'
        fun p _ s t s' v t' v' h hu hv h' => piece_tells hn hk (ih hn hk) h hu hv h'
      obtain ⟨hout, hinj⟩ := assemble_outline hts.length_eq hout
      have hd (h : c.Differs u .base m (.schema name component x)) : ts ≠ ts' := by
        cases h with
        | part hp h => exact hne ⟨_, hp, h⟩
      split
      · exact ⟨hout.orKeyword _, fun h he => hd h (hinj (hout.orKeyword_inj he))⟩
      · exact ⟨hout, fun h he => hd h (hinj he)⟩

end Setting

/-- After a run, a view of a registered reference that has no type of its own goes by a declared
type. It is the type of the schema of the reference in the base view, and that type is the one in
the view itself if and only if the views do not differ. -/
theorem Client.fallback_iff {tree : Json} {document : Document} {options : Options}
    {client : Client} {u : Session} (h : ofDocument tree document options = (.ok client, u))
    {r : String} {names : ViewNames} (hr : u.references.get? r = some names) {m : View}
    (hm : names.own? m = none) :
    ∃ x t, (Setting.ofDocument tree document options).schema r = .ok x ∧
      (∃ d ∈ client.types, d.name = names.name m ∧ d.body = .alias t) ∧
      ((Setting.ofDocument tree document options).typing { component := some r } x).Gives u t u ∧
      ((∃ u', ((Setting.ofDocument tree document options).typing
          { view := m, component := some r } x).Gives u t u') ↔
        ¬ (Setting.ofDocument tree document options).Differs u .base m
          (.schema none (some r) x)) := by
  obtain ⟨aliases, htypes, hperm, hall⟩ := exists_aliases h
  have hlabel : (r, View.base, names.base) ∈ u.references.labels :=
    List.mem_flatMap.2 ⟨_, Dict.mem_of_get? hr, List.mem_map.2 ⟨(.base, names.base), by
      simp [ViewNames.views, ViewNames.own?], rfl⟩⟩
  obtain ⟨a, ha, hl⟩ := List.mem_map.1 (hperm.mem_iff.2 hlabel)
  obtain ⟨⟨x, fuel, s, s', hx, -, hfuel, hlater, hgives⟩, -⟩ := hall a ha
  obtain ⟨reference, view, name, doc, t⟩ := a
  cases hl
  have hbase := Setting.typingWithin_repeats hfuel hfuel hgives hlater (Setting.not_differs_self _)
  have hdeclared : ∃ d ∈ client.types, d.name = names.name m ∧ d.body = .alias t := by
    refine ⟨_, htypes ▸ List.mem_map.2 ⟨_, ha, rfl⟩, ?_, rfl⟩
    simp [ViewNames.name, hm, Alias.decl]
  refine ⟨x, t, hx, hdeclared, hbase, ?_, fun hd => ⟨u, ?_⟩⟩
  · rintro ⟨u', hm'⟩ hd
    have htells := Setting.typingWithin_tells hfuel (Nat.le_refl _) hgives hlater (.refl _ u) hm'
    exact htells.2 hd rfl
  · exact Setting.typingWithin_repeats hfuel hfuel hgives hlater hd

namespace Client

/-- The rows of a table are items, and the number of an item is read-only. -/
def tables : Json := .obj [
  ("openapi", .str "3.0.0"),
  ("info", .obj [("title", .str "Tables"), ("version", .str "1")]),
  ("paths", .obj []),
  ("components", .obj [("schemas", .obj [
    ("Item", .obj [("properties", .obj [
      ("id", .obj [("type", .str "integer"), ("readOnly", .bool true)]),
      ("name", .obj [("type", .str "string")])])]),
    ("Table", .obj [("additionalProperties",
      .obj [("$ref", .str "#/components/schemas/Item")])])])])]

theorem fallback_iff_tables : ∃ document client u x t,
    ofDocument tables document { allSchemas := true } = (.ok client, u) ∧
    u.references.get? "#/components/schemas/Table" = some { base := "Table" } ∧
    (∃ d ∈ client.types, d.name = "Table" ∧ d.body = .alias t) ∧
    ((∃ u', ((Setting.ofDocument tables document { allSchemas := true }).typing
        { view := .read, component := some "#/components/schemas/Table" } x).Gives u t u') ↔
      ¬ (Setting.ofDocument tables document { allSchemas := true }).Differs u .base .read
        (.schema none (some "#/components/schemas/Table") x)) := by
  have hbuilds : builds tables { allSchemas := true } (fun _ _ u =>
      u.references.get? "#/components/schemas/Table" = some { base := "Table" }) = true := by
    decide +kernel
  obtain ⟨document, client, u, -, hbuilt, hnames⟩ := exists_ofDocument hbuilds
  have hnames := of_decide_eq_true hnames
  obtain ⟨x, t, -, hdeclared, -, hiff⟩ := fallback_iff hbuilt hnames (m := .read) rfl
  exact ⟨document, client, u, x, t, hbuilt, hnames, hdeclared, hiff⟩

def hasText (c : Setting) (u : Session) (r : String) (view : View) (text : String) : Bool :=
  match c.schema r with
  | .ok x => (c.typing { view, component := some r } x).succeeds (fun t => t.text 0 = text) u
  | .error _ => false

theorem exists_hasText {c : Setting} {u : Session} {r text : String} {view : View}
    (h : hasText c u r view text = true) : ∃ x t u', c.schema r = .ok x ∧
      (c.typing { view, component := some r } x).Gives u t u' ∧ t.text 0 = text := by
  unfold hasText at h
  split at h
  · next x hx =>
    obtain ⟨t, u', ht, htext⟩ := exists_gives h
    exact ⟨x, t, u', hx, ht, of_decide_eq_true htext⟩
  · cases h

/-- A table has no type of its own for reading, since its rows are not looked at. Read, its type
would be that of rows with their numbers. -/
theorem fallback_tables : ∃ document client u names x t t' u₁ u₂,
    Document.ofJson tables = .ok document ∧
    ofDocument tables document { allSchemas := true } = (.ok client, u) ∧
    u.references.get? "#/components/schemas/Table" = some names ∧ names.own? .read = none ∧
    (Setting.ofDocument tables document { allSchemas := true }).schema
      "#/components/schemas/Table" = .ok x ∧
    ((Setting.ofDocument tables document { allSchemas := true }).typing
      { component := some "#/components/schemas/Table" } x).Gives u t u₁ ∧
    ((Setting.ofDocument tables document { allSchemas := true }).typing
      { view := .read, component := some "#/components/schemas/Table" } x).Gives u t' u₂ ∧
    t ≠ t' := by
  have hbuilds : builds tables { allSchemas := true } (fun document _ u =>
      let c := Setting.ofDocument tables document { allSchemas := true }
      u.references.get? "#/components/schemas/Table" = some { base := "Table" } &&
      hasText c u "#/components/schemas/Table" .base "\x7b\n  [key: string]: Item;\n\x7d" &&
      hasText c u "#/components/schemas/Table" .read "\x7b\n  [key: string]: ItemRead;\n\x7d")
      = true := by
    decide +kernel
  obtain ⟨document, client, u, hread, hbuilt, h⟩ := exists_ofDocument hbuilds
  simp only [Bool.and_eq_true, decide_eq_true_eq] at h
  obtain ⟨⟨hnames, hbase⟩, hview⟩ := h
  obtain ⟨x, t, u₁, hx, ht, htext⟩ := exists_hasText hbase
  obtain ⟨y, t', u₂, hy, ht', htext'⟩ := exists_hasText hview
  cases hx.symm.trans hy
  refine ⟨document, client, u, _, x, t, t', u₁, u₂, hread, hbuilt, hnames, rfl, hx, ht, ht', ?_⟩
  rintro rfl
  exact absurd (htext.symm.trans htext') (by decide)

end Client

end ClientGen
