import ClientGen.Proofs.Typing.Pieces
import ClientGen.Proofs.Typing.TypeNames

namespace ClientGen

open Run TypeScript

namespace Setting

variable {c : Setting}

/-- The views of the schema of a reference are declared in turn. Giving a view its type, which
succeeds within some depth, changes the session by `Step` and mentions names that are `Named`. -/
inductive Written (c : Setting) (Step : Session → Session → Prop)
    (Named : Session → String → Prop) (reference : String) (x : Schema) :
    List (View × String) → Session → Session → Prop where
  | nil (s : Session) : Written c Step Named reference x [] s s
  | cons {view : View} {name : String} {rest : List (View × String)} {fuel : Nat} {t : TypeExpr}
      {s s₁ s' : Session} (hfuel : fuel ≤ c.depth)
      (gives : (c.typingWithin fuel { view, component := some reference } x).Gives s t s₁)
      (step : Step s s₁) (named : ∀ n ∈ t.names, Named s₁ n)
      (tail : Written c Step Named reference x rest { s₁ with
        types := s₁.types ++ [{ name, body := .alias t, doc := x.description.bind Doc.ofText? }] }
        s') :
      Written c Step Named reference x ((view, name) :: rest) s s'

theorem Written.step {Step : Session → Session → Prop} {Named : Session → String → Prop}
    {r : String} {x : Schema} {views : List (View × String)} {s s' : Session}
    (h : Written c Step Named r x views s s') (refl : ∀ s, Step s s)
    (trans : ∀ {s s' s''}, Step s s' → Step s' s'' → Step s s'')
    (declare : ∀ s d, Step s { s with types := s.types ++ [d] }) : Step s s' := by
  induction h with
  | nil s => exact refl s
  | cons _ _ step _ _ ih => exact trans (trans step (declare _ _)) ih

/-- What every typing of a schema obeys. It has to hold where a reference is known already, where an
enum is declared, and where a reference is entered: its names are taken, and then its views are
declared one after the other. -/
structure Law (c : Setting) where
  /-- How a session changes. -/
  Step : Session → Session → Prop
  /-- Which names may stand in a type. -/
  Named : Session → String → Prop
  refl : ∀ s, Step s s
  trans : ∀ {s s' s''}, Step s s' → Step s' s'' → Step s s''
  keep : ∀ {s s' n}, Step s s' → Named s n → Named s' n
  binary : ∀ s, Named s "Blob"
  known : ∀ {s r names}, s.references.get? r = some names → ∀ view, Named s (names.name view)
  enum : ∀ {x name s t s'}, (NamedEnum.declare x name).Gives s t s' →
    Step s s' ∧ ∀ n ∈ t.names, Named s' n
  enter : ∀ {r x s names s₁ s'}, s.references.get? r = none → c.schema r = .ok x →
    c.namesEnum x = false → (c.takeNames r (Reference.stableName r)).Gives s names s₁ →
    Written c Step Named r x names.views s₁ s' →
    Step s s' ∧ ∀ view, Named s' (names.name view)

/-- A law that whole runs obey, which give names to functions and report as well. -/
structure RunLaw (c : Setting) extends Law c where
  aside : ∀ s functions events, Step s { s with functions, events }

namespace Law

variable (L : Law c)

def Fits (s : Session) (t : TypeExpr) : Prop := ∀ n ∈ t.names, L.Named s n

def Obeys (typing : Typing) : Prop :=
  ∀ place x s t s', (typing place x).Gives s t s' → L.Step s s' ∧ L.Fits s' t

variable {L} {typing : Typing} {view : View} {place : Place} {x : Schema} {s s' : Session}
  {t : TypeExpr} {ts : List TypeExpr}

theorem Fits.keep (h : L.Fits s t) (hs : L.Step s s') : L.Fits s' t :=
  fun n hn => L.keep hs (h n hn)

theorem Fits.tuple (h : ∀ t ∈ ts, L.Fits s t) : L.Fits s (.tuple ts) := by
  intro n hn
  obtain ⟨t, ht, hn⟩ := TypeExpr.mem_namesOf.1 hn
  exact h t ht n hn

theorem Fits.union (h : ∀ t ∈ ts, L.Fits s t) : L.Fits s (.union ts) := Fits.tuple h

theorem Fits.intersection (h : ∀ t ∈ ts, L.Fits s t) : L.Fits s (.intersection ts) := Fits.tuple h

theorem Fits.object {members : List (Member TypeExpr)} {index : Option TypeExpr}
    (hm : ∀ m ∈ members, L.Fits s m.type) (hi : ∀ t, index = some t → L.Fits s t) :
    L.Fits s (.object members index) := by
  intro n hn
  rcases List.mem_append.1 hn with hn | hn
  · obtain ⟨m, hmem, hn⟩ := TypeExpr.mem_memberNames.1 hn
    exact hm m hmem n hn
  · obtain ⟨t, ht, hn⟩ := TypeExpr.mem_indexNames.1 hn
    exact hi t ht n hn

theorem Fits.orKeyword {word : Keyword} (h : L.Fits s t) : L.Fits s (t.orKeyword word) :=
  fun n hn => h n (TypeExpr.mem_names_orKeyword.1 hn)

theorem Fits.named {n : String} (h : L.Named s n) : L.Fits s (.named n) := by
  intro m hm
  rw [List.mem_singleton.1 hm]
  exact h

theorem Fits.of_names_eq_nil (h : t.names = []) : L.Fits s t := by
  intro n hn
  rw [h] at hn
  cases hn

theorem fits_anyType : L.Fits s c.anyType := .of_names_eq_nil rfl

theorem fits_namedType (name : String) : L.Fits s (c.namedType name) := by
  apply Fits.of_names_eq_nil
  unfold namedType
  split <;> rfl

theorem fits_primitiveType (types : Option TypeNames) : L.Fits s (c.primitiveType types) := by
  unfold primitiveType
  split
  · exact fits_anyType
  · exact fits_namedType _
  · apply Fits.union
    intro t ht
    obtain ⟨name, -, rfl⟩ := List.mem_map.1 ht
    exact fits_namedType name

theorem fits_ofValues (values : List Json) : L.Fits s (.ofValues values) := by
  apply Fits.union
  intro t ht
  obtain ⟨v, -, rfl⟩ := List.mem_map.1 ht
  exact .of_names_eq_nil rfl

theorem fits_tag (property value : String) : L.Fits s (.tag property value) :=
  .of_names_eq_nil rfl

theorem each {α β : Type} {f : α → Run β} {l : List α} {bs : List β} {P : β → Session → Prop}
    (h : Each f l s bs s') (keep : ∀ b s s', L.Step s s' → P b s → P b s')
    (step : ∀ a ∈ l, ∀ s b s', (f a).Gives s b s' → L.Step s s' ∧ P b s') :
    L.Step s s' ∧ ∀ b ∈ bs, P b s' :=
  h.preserve (P := P) L.refl L.trans keep step

theorem fits_headD (h : ∀ t ∈ ts, L.Fits s t) {d : TypeExpr} (hd : L.Fits s d) :
    L.Fits s (ts.headD d) := by
  cases ts with
  | nil => exact hd
  | cons t ts => exact h t List.mem_cons_self

theorem fits_branchTags {component : Option String} {branch : Schema} :
    ∀ t ∈ c.branchTags component branch, L.Fits s t := by
  intro t ht
  unfold branchTags at ht
  split at ht
  · cases ht
  · split at ht
    · rw [List.mem_singleton.1 ht]
      exact fits_tag _ _
    · cases ht

theorem fits_assemble {component : Option String} (h : ∀ t ∈ ts, L.Fits s t) :
    L.Fits s (c.assemble component x ts) := by
  unfold assemble
  split
  · exact fits_headD h fits_anyType
  · exact fits_headD h fits_anyType
  · apply Fits.union
    intro t ht
    obtain ⟨_, -, t', ht', rfl⟩ := mem_zipWith ht
    refine .intersection (List.forall_mem_cons.2 ⟨fits_tag _ _, ?_⟩)
    exact List.forall_mem_singleton.2 (h t' ht')
  · exact .union h
  · exact .union h
  · split
    · exact fits_headD h fits_anyType
    · exact .union h
  · apply Fits.intersection
    intro t ht
    rcases List.mem_append.1 ht with ht | ht
    · obtain ⟨l, hl, ht⟩ := List.mem_flatten.1 ht
      obtain ⟨branch, -, t', ht', rfl⟩ := mem_zipWith hl
      rcases List.mem_append.1 ht with ht | ht
      · exact fits_branchTags t ht
      · rw [List.mem_singleton.1 ht]
        exact h t' (List.mem_of_mem_take ht')
    · exact h t (List.mem_of_mem_drop ht)
  · exact fits_headD h fits_anyType
  · exact .tuple h
  · exact fits_headD h (fits_ofValues _)
  · exact .named (L.binary s)
  · cases Literal.ofJson? _ with
    | none => exact fits_anyType
    | some l => exact .of_names_eq_nil rfl
  · exact fits_primitiveType _

theorem Obeys.written {fuel : Nat} (ho : L.Obeys (c.typingWithin fuel)) (hfuel : fuel ≤ c.depth)
    {r : String} {views : List (View × String)} {us : List Unit}
    (h : Each (declareView (c.typingWithin fuel) r x) views s us s') :
    Written c L.Step L.Named r x views s s' := by
  induction views generalizing s us with
  | nil =>
    cases h
    exact .nil _
  | cons entry views ih =>
    cases h with
    | cons head tail =>
      simp only [declareView, declareType, gives_bind, gives_modify] at head
      obtain ⟨t, s₁, ht, rfl⟩ := head
      obtain ⟨hstep, hfits⟩ := ho _ _ _ _ _ ht
      exact .cons hfuel ht hstep hfits (ih tail)

theorem Obeys.referenceType {fuel : Nat} (ho : L.Obeys (c.typingWithin fuel))
    (hfuel : fuel ≤ c.depth) {r : String}
    (h : (c.referenceType (c.typingWithin fuel) view r).Gives s t s') :
    L.Step s s' ∧ L.Fits s' t := by
  simp only [Setting.referenceType, gives_bind, gives_get] at h
  obtain ⟨_, _, ⟨rfl, rfl⟩, h⟩ := h
  split at h
  · next names hr =>
    rw [gives_pure] at h
    obtain ⟨rfl, rfl⟩ := h
    exact ⟨L.refl _, .named (L.known hr view)⟩
  · next hr =>
    simp only [gives_bind, gives_lift] at h
    obtain ⟨y, _, ⟨hy, rfl⟩, h⟩ := h
    split at h
    · exact L.enum h
    · next hn =>
      simp only [gives_bind, gives_forM, gives_pure] at h
      obtain ⟨names, s₁, hnames, _, s₂, ⟨us, hus⟩, rfl, rfl⟩ := h
      obtain ⟨hstep, hnamed⟩ :=
        L.enter hr hy (Bool.not_eq_true _ ▸ hn) hnames (ho.written hfuel hus)
      exact ⟨hstep, .named (hnamed view)⟩

theorem fits_member {property : String × Schema} (h : L.Fits s t) :
    L.Fits s (c.member x property t).type := by
  unfold Setting.member
  dsimp only
  split
  · exact h.orKeyword
  · exact h

theorem fits_index (h : ∀ t ∈ ts, L.Fits s t) : ∀ t, c.index x ts = some t → L.Fits s t := by
  intro t ht
  unfold Setting.index at ht
  split at ht
  · exact h t (List.mem_of_mem_head? (Option.mem_def.2 ht))
  · cases ht
    exact fits_anyType
  · cases ht
  · cases ht

theorem fits_object {properties : List (String × Schema)} {is : List TypeExpr}
    (h : ∀ t ∈ ts, L.Fits s t) (hi : ∀ t ∈ is, L.Fits s t) :
    L.Fits s (.object (List.zipWith (c.member x) properties ts) (c.index x is)) := by
  refine .object (fun m hm => ?_) (fits_index hi)
  obtain ⟨property, -, t, ht, rfl⟩ := mem_zipWith hm
  exact fits_member (h t ht)

section Within

variable {fuel : Nat} (ho : L.Obeys (c.typingWithin fuel)) (hfuel : fuel ≤ c.depth)

include ho

theorem Obeys.objectType {skip : Option String}
    (h : (c.objectType (c.typingWithin fuel) view skip x).Gives s t s') :
    L.Step s s' ∧ L.Fits s' t := by
  obtain ⟨ts, s₁, is, hts, his, rfl⟩ := objectType_gives.1 h
  obtain ⟨hstep, hfits⟩ := each (P := fun t s => L.Fits s t) (each_map.1 hts)
    (fun _ _ _ hs ht => ht.keep hs) fun p _ s t s' hp => ho _ _ _ _ _ hp
  have hindex : L.Step s₁ s' ∧ ∀ t ∈ is, L.Fits s' t := by
    refine each (P := fun t s => L.Fits s t) his (fun _ _ _ hs ht => ht.keep hs) ?_
    intro p hp s t s' h
    obtain ⟨part, -, rfl⟩ := mem_indexPieces.1 hp
    exact ho _ _ _ _ _ h
  exact ⟨L.trans hstep hindex.1, fits_object (fun t ht => (hfits t ht).keep hindex.1) hindex.2⟩

include hfuel

theorem Obeys.pieces {pieces : List Piece}
    (h : Each (c.pieceType (c.typingWithin fuel) view) pieces s ts s') :
    L.Step s s' ∧ ∀ t ∈ ts, L.Fits s' t := by
  refine each (P := fun t s => L.Fits s t) h (fun _ _ _ hs ht => ht.keep hs) ?_
  intro piece _ s t s' h
  cases piece with
  | schema name component x => exact ho _ _ _ _ _ h
  | object skip x => exact ho.objectType h
  | reference target => exact ho.referenceType hfuel h
  | enum name x => exact L.enum h

theorem Obeys.step : L.Obeys (c.typingStep (c.typingWithin fuel)) := by
  intro place x s t s' h
  obtain ⟨-, ts, hts, rfl⟩ := typingStep_gives.1 h
  obtain ⟨hstep, hfits⟩ := ho.pieces hfuel hts
  refine ⟨hstep, ?_⟩
  split
  · exact (fits_assemble hfits).orKeyword
  · exact fits_assemble hfits

end Within

/-- Every typing obeys the law, however deep it may go. -/
theorem obeys_typingWithin (L : Law c) {fuel : Nat} (hfuel : fuel ≤ c.depth) :
    L.Obeys (c.typingWithin fuel) := by
  induction fuel with
  | zero => exact fun _ _ _ _ _ h => absurd h not_gives_throw
  | succ fuel ih =>
    have hfuel' : fuel ≤ c.depth := Nat.le_of_succ_le hfuel
    exact (ih hfuel').step hfuel'

theorem obeys_typing (L : Law c) : L.Obeys c.typing := L.obeys_typingWithin (Nat.le_refl _)

end Law

end Setting

end ClientGen
