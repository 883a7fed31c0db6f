import ClientGen.Proofs.Typing.Growth
import ClientGen.Proofs.Typing.Inlines
import ClientGen.Proofs.Typing.Settling
import Mathlib.Tactic.Ring

namespace ClientGen

open Run TypeScript

namespace Setting

variable {c : Setting} {refs known names : List String} {w fuel m : Nat} {rest : Finset String}
  {x y t b : Schema} {r : String} {d : Discriminating} {s s' s₁ : Session} {view : View}

/-- What there is to enter and to inline, against the size of the setting: schemas that mention
`refs`, all the `known` references and the discriminating components `names`. -/
structure Limits (c : Setting) (refs known names : List String) : Prop
    extends c.Bounded refs c.size where
  refs_le : refs.length ≤ c.size
  known_le : known.length ≤ 2 * c.size
  names_le : names.length ≤ c.size
  refs_subset : refs ⊆ known
  discriminating : ∀ {r d}, c.discriminators.get? r = some d →
    r ∈ names ∧ ∀ q ∈ d.mapping.values, q ∈ known

/-- A schema that takes less than `w` steps up to the next references and inlined components. The
references are `known` and the components in `rest`. -/
structure Fits (c : Setting) (known : List String) (rest : Finset String) (w : Nat) (x : Schema) :
    Prop where
  weight : ∃ h, x.Nested h ∧ 2 * h + x.discriminator.toList.length ≤ w
  mentions : ∀ r, x.Mentions r → r ∈ known
  inlined : ∀ q, c.InlinedIn x q → q ∈ rest

theorem Fits.pos (h : c.Fits known rest w x) : 0 < w := by
  obtain ⟨k, hk, hw⟩ := h.weight
  have := hk.pos
  omega

theorem Fits.inside (h : c.Fits known rest w x) (hx : x.reference = none) (ht : t ∈ x.inside) :
    c.Fits known rest (w - 1) t := by
  obtain ⟨k, hk, hw⟩ := h.weight
  have hpos := hk.pos
  have hone : t.discriminator.toList.length ≤ 1 := Option.length_toList_le
  exact ⟨⟨k - 1, hk.inside ht, by omega⟩, fun r hr => h.mentions r (.inside ht hr),
    fun q hq => h.inlined q (hq.inside hx ht)⟩

theorem Fits.bare {d : Discriminator} (h : c.Fits known rest w x)
    (hd : x.discriminator = some d) :
    c.Fits known rest (w - 1) { x with discriminator := none, nullable := none } := by
  obtain ⟨k, hk, hw⟩ := h.weight
  rw [hd] at hw
  refine ⟨⟨k, ?_, Nat.le_sub_one_of_lt hw⟩, fun r hr => h.mentions r ?_, fun q hq => h.inlined q ?_⟩
  · cases k with
    | zero => cases hk
    | succ k => exact hk
  · cases hr with
    | reference hr => exact .reference hr
    | mapped hd => cases hd
    | inside ht hr => exact .inside ht hr
  · obtain ⟨p, hp, hsome, hq⟩ := hq
    refine ⟨p, ?_, hsome, hq⟩
    cases hp with
    | branch hs hb hp => exact .branch hs hb hp
    | inside hs ht hp => exact .inside hs ht hp

section Limits

variable (hc : c.Limits refs known names)

include hc

/-- From a reference on, every component may be inlined. -/
theorem Limits.fits (hx : x.Nested c.size) (hrefs : ∀ r, x.Mentions r → r ∈ known) :
    c.Fits known names.toFinset (2 * c.size + 1) x := by
  have hone : x.discriminator.toList.length ≤ 1 := Option.length_toList_le
  refine ⟨⟨c.size, hx, by omega⟩, hrefs, fun q hq => ?_⟩
  obtain ⟨d, hd⟩ := Option.isSome_iff_exists.1 hq.isSome
  exact List.mem_toFinset.2 (hc.discriminating hd).1

theorem Limits.schema (hy : c.schema r = .ok y) : c.Fits known names.toFinset (2 * c.size + 1) y :=
  hc.fits (hc.nested hy) fun q hq => hc.refs_subset (hc.mentions hy q hq)

/-- From an inlined component on, the other ones may be inlined that could be before. -/
theorem Limits.parent (hacyclic : c.InlinesWithoutCycle) (h : c.Fits known rest w x)
    (hx : x.reference = none) (hb : b ∈ x.allOf.getD []) (hr : c.parent? b = some (r, d))
    (hy : c.schema r = .ok y) (ht : t ∈ y.objectParts d.property) :
    c.Fits known (rest.erase r) (2 * c.size + 1) t := by
  have hin : t ∈ y.inside := y.objectParts_subset_inside d.property ht
  have hfits := hc.schema hy
  have hnested : t.Nested c.size := ((hc.nested hy).inside hin).mono (Nat.sub_le c.size 1)
  have hone : t.discriminator.toList.length ≤ 1 := Option.length_toList_le
  refine ⟨⟨c.size, hnested, by omega⟩, fun q hq => hfits.mentions q (.inside hin hq),
    fun q hq => ?_⟩
  obtain ⟨hq, hne⟩ := hq.parent hacyclic hx hb hr hy ht
  exact Finset.mem_erase.2 ⟨hne, h.inlined q hq⟩

theorem Limits.takeNames_ends {name : String} : (c.takeNames r name).Ends s := by
  have hown (view : View) (own : Bool) (s : Session) : (takeOwnName name view own).Ends s := by
    unfold takeOwnName
    split
    · rw [map_eq_pure_bind]
      exact (ends_modifyGet _).bind fun _ _ _ => ends_pure _
    · exact ends_pure none
  have hflags (s : Session) : (c.namingFlags r).Ends s := by
    unfold namingFlags
    split
    · exact ends_pure _
    · exact flagsOf_ends hc.toBounded (Nat.le_refl c.size) hc.refs_le
  unfold takeNames
  refine (ends_modifyGet _).bind fun base s₁ _ => (hflags s₁).bind fun flags s₂ _ => ?_
  refine (hown .read flags.readOnly s₂).bind fun read s₃ _ => ?_
  refine (hown .write flags.writeOnly s₃).bind fun write _ _ => ?_
  exact (ends_modify _).bind fun _ _ _ => (ends_modify _).bind fun _ _ _ => ends_pure _

end Limits

def unmet (known : List String) (s : Session) : Finset String :=
  known.toFinset.filter fun r => s.references.get? r = none

theorem mem_unmet : r ∈ unmet known s ↔ r ∈ known ∧ s.references.get? r = none := by
  rw [unmet, Finset.mem_filter, List.mem_toFinset]

theorem card_unmet_later (h : c.Later s s') : (unmet known s').card ≤ (unmet known s).card := by
  apply Finset.card_le_card
  intro r hr
  obtain ⟨hknown, hnone⟩ := mem_unmet.1 hr
  refine mem_unmet.2 ⟨hknown, ?_⟩
  cases hs : s.references.get? r with
  | none => rfl
  | some found => cases (h.known hs).symm.trans hnone

theorem card_unmet_takeNames {name : String} {found : ViewNames} (hr : r ∈ known)
    (hs : s.references.get? r = none) (h : (c.takeNames r name).Gives s found s₁) :
    (unmet known s₁).card < (unmet known s).card := by
  obtain ⟨⟨_, _, _, rfl⟩, -⟩ := takeNames_gives h
  apply Finset.card_lt_card
  refine (Finset.ssubset_iff_of_subset fun q hq => ?_).2 ⟨r, mem_unmet.2 ⟨hr, hs⟩, fun hmem => ?_⟩
  · obtain ⟨hknown, hnone⟩ := mem_unmet.1 hq
    rw [Dict.get?_put] at hnone
    split at hnone
    · cases hnone
    · exact mem_unmet.2 ⟨hknown, hnone⟩
  · obtain ⟨-, hnone⟩ := mem_unmet.1 hmem
    rw [Dict.get?_put, if_pos rfl] at hnone
    cases hnone

/-- How many steps are left: for each reference that is not registered yet, and on from here, each
component that may be inlined takes the steps of one schema. -/
def stepsLeft (c : Setting) (known : List String) (s : Session) (rest : Finset String) (w : Nat) :
    Nat :=
  ((unmet known s).card * (c.size + 1) + rest.card) * (2 * c.size + 1) + w

theorem stepsLeft_later (h : c.Later s s') :
    c.stepsLeft known s' rest w ≤ c.stepsLeft known s rest w := by
  have hcard : (unmet known s').card ≤ (unmet known s).card := card_unmet_later h
  unfold stepsLeft
  gcongr

theorem Limits.stepsLeft_takeNames (hc : c.Limits refs known names)
    (h : (unmet known s₁).card < (unmet known s).card) :
    c.stepsLeft known s₁ names.toFinset (2 * c.size + 1) ≤ c.stepsLeft known s rest 0 := by
  have hnames : names.toFinset.card ≤ c.size := Nat.le_trans names.toFinset_card_le hc.names_le
  unfold stepsLeft
  calc ((unmet known s₁).card * (c.size + 1) + names.toFinset.card) * (2 * c.size + 1) +
        (2 * c.size + 1)
      = ((unmet known s₁).card * (c.size + 1) + (names.toFinset.card + 1)) * (2 * c.size + 1) := by
        ring
    _ ≤ ((unmet known s₁).card * (c.size + 1) + (c.size + 1)) * (2 * c.size + 1) := by
        gcongr
    _ = ((unmet known s₁).card + 1) * (c.size + 1) * (2 * c.size + 1) := by ring
    _ ≤ (unmet known s).card * (c.size + 1) * (2 * c.size + 1) := by
        gcongr
        exact h
    _ ≤ ((unmet known s).card * (c.size + 1) + rest.card) * (2 * c.size + 1) + 0 := by
        exact Nat.mul_le_mul_right _ (Nat.le_add_right _ _)

theorem stepsLeft_inline (hr : r ∈ rest) :
    c.stepsLeft known s (rest.erase r) (2 * c.size + 1) = c.stepsLeft known s rest 0 := by
  unfold stepsLeft
  rw [← Finset.card_erase_add_one hr]
  ring

/-- Every schema that fits into the steps that are left in a session settles there. -/
def Settled (c : Setting) (known : List String) (fuel m : Nat) : Prop :=
  ∀ place x rest w s, c.Fits known rest w x → c.stepsLeft known s rest w ≤ fuel →
    Settles (c.typingWithin fuel place x) (c.typingWithin m place x) s

section Settled

variable (ih : c.Settled known fuel m) (hfuel : fuel ≤ c.depth)

include ih hfuel

theorem Settled.later (hx : c.Fits known rest w x)
    (hw : c.stepsLeft known s rest w ≤ fuel) (place : Place) :
    SettlesUnder (c.Later s) (c.typingWithin fuel place x) (c.typingWithin m place x) := by
  intro s' hs'
  refine ⟨ih place x rest w s' hx (Nat.le_trans (stepsLeft_later hs') hw), fun t s'' ht => ?_⟩
  have hgrows := (c.growth.obeys_typingWithin hfuel place x s' t s'' ht).1
  exact hs'.trans hgrows.later

theorem Settled.declareView (hx : c.Fits known rest w x)
    (hw : c.stepsLeft known s rest w ≤ fuel) (v : View × String) :
    SettlesUnder (c.Later s) (declareView (c.typingWithin fuel) r x v)
      (declareView (c.typingWithin m) r x v) := by
  unfold Setting.declareView
  refine (ih.later hfuel hx hw _).bind fun t => .of_ends (fun _ => ends_modify _) ?_
  intro s₁ _ s₂ hs₁ h
  cases gives_modify.1 h
  exact hs₁.trans (.of_eq rfl rfl)

theorem Settled.referenceType (hc : c.Limits refs known names) (hr : r ∈ known)
    (hw : c.stepsLeft known s rest 0 ≤ fuel) :
    c.PieceSettles (c.Later s) (c.typingWithin fuel) (c.typingWithin m) view (.reference r) := by
  intro s' hs'
  constructor
  · unfold pieceType Setting.referenceType
    refine ends_get.settles.bind fun _ _ hget => ?_
    obtain ⟨rfl, rfl⟩ := gives_get.1 hget
    split
    · exact (ends_pure _).settles
    · next hnone =>
      refine (ends_lift schema_ne_endless).settles.bind fun y _ hy => ?_
      obtain ⟨hschema, rfl⟩ := gives_lift.1 hy
      split
      · exact NamedEnum.declare_ends.settles
      · -- The names are taken before any view is typed, so the views start with one reference less.
        refine hc.takeNames_ends.settles.bind fun found s₁ hfound => ?_
        have hless := card_unmet_takeNames hr hnone hfound
        have hleft := Nat.le_trans (hc.stepsLeft_takeNames hless)
          (Nat.le_trans (stepsLeft_later hs') hw)
        have hviews := SettlesUnder.forM (l := found.views) fun v _ =>
          ih.declareView (r := r) hfuel (hc.schema hschema) hleft v
        exact (hviews s₁ (.refl c s₁)).1.bind fun _ _ _ => (ends_pure _).settles
  · intro t s'' ht
    have hgrows := ((c.growth.obeys_typingWithin hfuel).referenceType hfuel ht).1
    exact hs'.trans hgrows.later

theorem Settled.objectType {skip : Option String}
    (hx : ∀ t ∈ x.objectParts skip, c.Fits known rest w t)
    (hw : c.stepsLeft known s rest w ≤ fuel) :
    c.PieceSettles (c.Later s) (c.typingWithin fuel) (c.typingWithin m) view (.object skip x) :=
  objectType_settles fun t ht place => ih.later hfuel (hx t ht) hw place

theorem Settled.piece (hc : c.Limits refs known names) (hacyclic : c.InlinesWithoutCycle)
    (hx : c.Fits known rest w x) (hw : c.stepsLeft known s rest w ≤ fuel + 1) {p : Piece}
    (hp : c.PieceOf x p) :
    c.PieceSettles (c.Later s) (c.typingWithin fuel) (c.typingWithin m) view p := by
  have hpos := hx.pos
  have hless : c.stepsLeft known s rest (w - 1) ≤ fuel := by
    unfold stepsLeft at hw ⊢
    omega
  have hnone : c.stepsLeft known s rest 0 ≤ fuel := by
    unfold stepsLeft at hless ⊢
    omega
  cases hp with
  | reference hr => exact ih.referenceType hfuel hc (hx.mentions _ hr) hnone
  | subtype hd hr => exact ih.referenceType hfuel hc ((hc.discriminating hd).2 _ hr) hnone
  | inside hs ht => exact ih.later hfuel (hx.inside hs ht) hless _
  | bare hd => exact ih.later hfuel (hx.bare hd) hless _
  | object hs =>
    refine ih.objectType hfuel (fun t ht => ?_) hless
    exact hx.inside hs (x.objectParts_subset_inside none ht)
  | @parent b r d hs hb hr =>
    -- The component is not inlined a second time, which pays for the whole schema behind it.
    have hrest : r ∈ rest := hx.inlined r (inlinedIn_parent hs hb hr)
    have hleft := Nat.le_trans (Nat.le_of_eq (stepsLeft_inline hrest)) hnone
    refine ih.objectType hfuel (fun t ht => ?_) hleft
    cases hy : c.schema r with
    | ok y =>
      rw [hy] at ht
      exact hc.parent hacyclic hx hs hb hr hy ht
    | error e =>
      rw [hy] at ht
      cases ht
  | enum =>
    refine .of_ends (fun _ => NamedEnum.declare_ends) fun s₁ t s₂ hs₁ ht => ?_
    exact hs₁.trans (Grows.enum ht).1.later

end Settled

/-- Where no component is inlined into itself, a typing that may go as deep as there are steps
settles, and one that may go deeper gives the same. Every reference is entered once, between two
references every component is inlined once, and between two of those lies one schema, in which each
schema inside is entered at most twice. -/
theorem typingWithin_settles (hc : c.Limits refs known names)
    (hacyclic : c.InlinesWithoutCycle) (hfuel : fuel ≤ c.depth) (hm : fuel ≤ m) :
    c.Settled known fuel m := by
  -- On the fuel. What is left of the steps bounds it at every piece, in whatever session the piece
  -- gets its type, since later sessions have no more references to register.
  induction fuel generalizing m with
  | zero =>
    intro place x rest w s hx hw
    have hpos := hx.pos
    unfold stepsLeft at hw
    omega
  | succ fuel ih =>
    intro place x rest w s hx hw
    obtain ⟨m, rfl⟩ : ∃ k, m = k + 1 := ⟨m - 1, by omega⟩
    have hless : fuel ≤ c.depth := Nat.le_of_succ_le hfuel
    have hsettled := ih hless (Nat.le_of_succ_le_succ hm)
    have hpieces : ∀ p ∈ c.pieces place.name place.component x,
        c.PieceSettles (c.Later s) (c.typingWithin fuel) (c.typingWithin m) place.view p :=
      fun p hp => hsettled.piece hless hc hacyclic hx hw (pieceOf_of_mem hp)
    exact (typingStep_settles hpieces s (.refl c s)).1

end Setting

end ClientGen
