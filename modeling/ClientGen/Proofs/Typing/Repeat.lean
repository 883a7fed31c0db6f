import ClientGen.Proofs.Typing.Growth

namespace ClientGen

open Run TypeScript

namespace Setting

variable {c : Setting} {w w' : View} {s s' v : Session} {t : TypeExpr} {ts : List TypeExpr}
  {n m : Nat}

/-- Two views of a piece differ, by the names that references have in a session. -/
inductive Differs (c : Setting) (s : Session) (w w' : View) : Piece → Prop where
  | reference {r : String} {names : ViewNames} (hr : s.references.get? r = some names)
      (h : names.name w ≠ names.name w') : Differs c s w w' (.reference r)
  | kept {skip : Option String} {x : Schema} {p : String × Schema}
      (hp : p ∈ x.properties.getD []) (hskip : skip ≠ some p.1)
      (h : c.keeps w p.2 ≠ c.keeps w' p.2) : Differs c s w w' (.object skip x)
  | property {skip : Option String} {x : Schema} {p : String × Schema}
      (hp : p ∈ c.propertiesOf w skip x) (h : Differs c s w w' (propertyPiece p)) :
      Differs c s w w' (.object skip x)
  | index {skip : Option String} {x : Schema} {p : Piece} (hp : p ∈ indexPieces x)
      (h : Differs c s w w' p) : Differs c s w w' (.object skip x)
  | part {name component : Option String} {x : Schema} {p : Piece}
      (hp : p ∈ c.pieces name component x) (h : Differs c s w w' p) :
      Differs c s w w' (.schema name component x)

theorem not_differs_self (p : Piece) : ¬ c.Differs s w w p := by
  intro h
  induction h with
  | reference _ h => exact h rfl
  | kept _ _ h => exact h rfl
  | property _ _ ih => exact ih
  | index _ _ ih => exact ih
  | part _ _ ih => exact ih

theorem propertiesOf_eq {skip : Option String} {x : Schema}
    (h : ∀ p ∈ x.properties.getD [], skip ≠ some p.1 → c.keeps w p.2 = c.keeps w' p.2) :
    c.propertiesOf w skip x = c.propertiesOf w' skip x := by
  refine List.filter_congr fun p hp => ?_
  by_cases hskip : skip = some p.1
  · simp [hskip]
  · rw [h p hp hskip]

/-- Where `typing` gave a type, `typing'` gives the same one later on, in any view that does not
differ. -/
def Repeats (c : Setting) (typing typing' : Typing) : Prop :=
  ∀ {w w' name component x s t s' v}, (typing ⟨w, name, component⟩ x).Gives s t s' →
    c.Later s' v → ¬ c.Differs v w w' (.schema name component x) →
    (typing' ⟨w', name, component⟩ x).Gives v t v

theorem later_pieces (hn : n ≤ c.depth) {pieces : List Piece}
    (h : Each (c.pieceType (c.typingWithin n) w) pieces s ts s') : c.Later s s' :=
  ((c.growth.obeys_typingWithin hn).pieces hn h).1.later

theorem each_repeats {typing : Typing} (hn : n ≤ c.depth) {pieces : List Piece}
    (h : Each (c.pieceType (c.typingWithin n) w) pieces s ts s') (hv : c.Later s' v)
    (hp : ∀ p ∈ pieces, ∀ s t s', (c.pieceType (c.typingWithin n) w p).Gives s t s' →
      c.Later s' v → (c.pieceType typing w' p).Gives v t v) :
    Each (c.pieceType typing w') pieces v ts v := by
  induction pieces generalizing s ts with
  | nil =>
    cases h
    exact .nil v
  | cons p pieces ih =>
    cases h with
    | cons head tail =>
      have hlater := (later_pieces hn tail).trans hv
      exact .cons (hp p List.mem_cons_self _ _ _ head hlater)
        (ih tail fun p' hp' => hp p' (List.mem_cons_of_mem p hp'))

theorem enum_repeats {name : String} {x : Schema}
    (h : (NamedEnum.declare x name).Gives s t s') (hv : c.Later s' v) :
    (NamedEnum.declare x name).Gives v t v := by
  obtain ⟨n, rfl, hcount, hlookup, -⟩ := NamedEnum.declare_gives h
  exact NamedEnum.declare_of_lookup hcount (hv.lookup hlookup)

theorem referenceType_known {typing : Typing} {r : String} {names : ViewNames}
    (h : s.references.get? r = some names) (w : View) :
    (c.referenceType typing w r).Gives s (.named (names.name w)) s := by
  simp only [referenceType, gives_bind, gives_get]
  exact ⟨s, s, ⟨rfl, rfl⟩, by rw [h]; exact gives_pure.2 ⟨rfl, rfl⟩⟩

theorem referenceType_enum {typing : Typing} {r : String} {x : Schema}
    (hr : s.references.get? r = none) (hx : c.schema r = .ok x) (hn : c.namesEnum x = true) :
    (c.referenceType typing w r).Gives s t s' ↔
      (NamedEnum.declare x (Reference.stableName r)).Gives s t s' := by
  simp only [referenceType, gives_bind, gives_get]
  constructor
  · rintro ⟨_, _, ⟨rfl, rfl⟩, h⟩
    rw [hr] at h
    simp only [gives_bind, gives_lift] at h
    obtain ⟨y, _, ⟨hy, rfl⟩, h⟩ := h
    cases hx.symm.trans hy
    rwa [if_pos hn] at h
  · intro h
    refine ⟨s, s, ⟨rfl, rfl⟩, ?_⟩
    rw [hr]
    simp only [gives_bind, gives_lift]
    refine ⟨x, s, ⟨hx, rfl⟩, ?_⟩
    rwa [if_pos hn]

theorem referenceType_gives (hn : n ≤ c.depth) {r : String}
    (h : (c.referenceType (c.typingWithin n) w r).Gives s t s') :
    (∃ names, s'.references.get? r = some names ∧ t = .named (names.name w)) ∨
    ∃ x, s.references.get? r = none ∧ c.schema r = .ok x ∧ c.namesEnum x = true ∧
      (NamedEnum.declare x (Reference.stableName r)).Gives s t s' := by
  have hgives := h
  simp only [referenceType, gives_bind, gives_get] at h
  obtain ⟨_, _, ⟨rfl, rfl⟩, h⟩ := h
  split at h
  · next names hr =>
    obtain ⟨rfl, rfl⟩ := gives_pure.1 h
    exact .inl ⟨names, hr, rfl⟩
  · next hr =>
    simp only [gives_bind, gives_lift] at h
    obtain ⟨x, _, ⟨hx, rfl⟩, h⟩ := h
    split at h
    · next he => exact .inr ⟨x, hr, hx, he, h⟩
    · simp only [gives_bind, gives_forM, gives_pure] at h
      obtain ⟨names, s₁, hnames, _, s₂, ⟨us, hus⟩, rfl, rfl⟩ := h
      refine .inl ⟨names, ?_, rfl⟩
      have hw := Grows.written hx ((c.growth.obeys_typingWithin hn).written hn hus)
      obtain ⟨⟨_, _, _, rfl⟩, -⟩ := takeNames_gives hnames
      refine hw.later.known ?_
      rw [Dict.get?_put, if_pos rfl]

theorem Later.get?_eq_none (h : c.Later s v) {r : String} {x : Schema}
    (hr : s.references.get? r = none) (hx : c.schema r = .ok x) (hn : c.namesEnum x = true) :
    v.references.get? r = none := by
  cases hv : v.references.get? r with
  | none => rfl
  | some names =>
    obtain ⟨y, hy, hf⟩ := h.fresh hv hr
    cases hx.symm.trans hy
    cases hn.symm.trans hf

theorem reference_repeats (hn : n ≤ c.depth) {typing : Typing} {r : String}
    (h : (c.referenceType (c.typingWithin n) w r).Gives s t s') (hv : c.Later s' v)
    (hd : ¬ c.Differs v w w' (.reference r)) : (c.referenceType typing w' r).Gives v t v := by
  rcases referenceType_gives hn h with ⟨names, hr, rfl⟩ | ⟨x, hr, hx, he, h⟩
  · have hnames : names.name w = names.name w' :=
      Decidable.byContradiction fun hne => hd (.reference (hv.known hr) hne)
    rw [hnames]
    exact referenceType_known (hv.known hr) w'
  · have hlater : c.Later s v := (c.growth.enum h).1.later.trans hv
    rw [referenceType_enum (hlater.get?_eq_none hr hx he) hx he]
    exact enum_repeats h hv

theorem object_repeats (hn : n ≤ c.depth) {typing : Typing}
    (ho : c.Repeats (c.typingWithin n) typing) {skip : Option String} {x : Schema}
    (h : (c.objectType (c.typingWithin n) w skip x).Gives s t s') (hv : c.Later s' v)
    (hd : ¬ c.Differs v w w' (.object skip x)) : (c.objectType typing w' skip x).Gives v t v := by
  obtain ⟨ts, s₁, is, hts, his, rfl⟩ := objectType_gives.1 h
  have hmembers : Each (c.pieceType typing w') ((c.propertiesOf w skip x).map propertyPiece)
      v ts v := by
    refine each_repeats hn hts ((later_pieces hn his).trans hv) fun p hp s t s' h hv' => ?_
    obtain ⟨property, hproperty, rfl⟩ := List.mem_map.1 hp
    exact ho h hv' fun hd' => hd (.property hproperty hd')
  have hindex : Each (c.pieceType typing w') (indexPieces x) v is v := by
    refine each_repeats hn his hv fun p hp s t s' h hv' => ?_
    obtain ⟨part, -, rfl⟩ := mem_indexPieces.1 hp
    exact ho h hv' fun hd' => hd (.index hp hd')
  have hkeeps : ∀ p ∈ x.properties.getD [], skip ≠ some p.1 → c.keeps w p.2 = c.keeps w' p.2 :=
    fun p hp hskip => Decidable.byContradiction fun hne => hd (.kept hp hskip hne)
  rw [objectType_gives, ← propertiesOf_eq hkeeps]
  exact ⟨ts, v, is, hmembers, hindex, rfl⟩

theorem piece_repeats (hn : n ≤ c.depth) {typing : Typing}
    (ho : c.Repeats (c.typingWithin n) typing) {p : Piece}
    (h : (c.pieceType (c.typingWithin n) w p).Gives s t s') (hv : c.Later s' v)
    (hd : ¬ c.Differs v w w' p) : (c.pieceType typing w' p).Gives v t v := by
  cases p with
  | schema name component x => exact ho h hv hd
  | object skip x => exact object_repeats hn ho h hv hd
  | reference r => exact reference_repeats hn h hv hd
  | enum name x => exact enum_repeats h hv

/-- A typing repeats what one that goes less deep gave, unless on the way, without entering a
reference, it meets a property that only one of the views has, or a reference with different names
in them. -/
theorem typingWithin_repeats (hn : n ≤ c.depth) (hnm : n ≤ m) :
    c.Repeats (c.typingWithin n) (c.typingWithin m) := by
  induction n generalizing m with
  | zero => exact fun h => absurd h not_gives_throw
  | succ n ih =>
    intro w w' name component x s t s' v h hv hd
    have hpos : 0 < m := Nat.lt_of_lt_of_le n.succ_pos hnm
    obtain ⟨m, rfl⟩ := Nat.exists_eq_succ_of_ne_zero (Nat.ne_of_gt hpos)
    have hn' : n ≤ c.depth := Nat.le_of_succ_le hn
    obtain ⟨hx, ts, hts, rfl⟩ := typingStep_gives.1 h
    refine typingStep_gives.2 ⟨hx, ts, ?_, rfl⟩
    exact each_repeats hn' hts hv fun p hp s t s' h hv' =>
      piece_repeats hn' (ih hn' (Nat.le_of_succ_le_succ hnm)) h hv' fun hd' => hd (.part hp hd')

end Setting

end ClientGen
