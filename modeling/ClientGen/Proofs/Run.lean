import ClientGen.Session

namespace ClientGen.Run

variable {α β γ : Type} {s s' s'' : Session}

/-- What a run comes to from a session, and the session that it ends in. -/
def outcome (r : Run α) (s : Session) : Except Failure α × Session := r.run.run s

/-- From session `s` the run succeeds with `a` and ends in session `s'`. -/
def Gives (r : Run α) (s : Session) (a : α) (s' : Session) : Prop := r.outcome s = (.ok a, s')

theorem outcome_bind (r : Run α) (f : α → Run β) (s : Session) :
    (r >>= f).outcome s = match r.outcome s with
      | (.ok a, s') => (f a).outcome s'
      | (.error e, s') => (.error e, s') := by
  simp only [outcome, ExceptT.run_bind, StateT.run_bind]
  rcases (r.run.run s : Except Failure α × Session) with ⟨x, s'⟩
  cases x <;> rfl

def succeeds (r : Run α) (p : α → Bool) (s : Session) : Bool :=
  match (r.outcome s).1 with
  | .ok a => p a
  | .error _ => false

theorem exists_gives {r : Run α} {p : α → Bool} (h : r.succeeds p s = true) :
    ∃ a s', r.Gives s a s' ∧ p a = true := by
  unfold succeeds at h
  split at h
  · next a ha => exact ⟨a, _, Prod.ext ha rfl, h⟩
  · cases h

theorem Gives.unique {r : Run α} {a b : α} (h : r.Gives s a s') (h' : r.Gives s b s'') :
    a = b ∧ s' = s'' := by
  have he := Eq.trans (Eq.symm h) h'
  cases he
  exact ⟨rfl, rfl⟩

@[simp] theorem gives_pure {a b : α} : Gives (pure a) s b s' ↔ a = b ∧ s = s' := by
  constructor
  · intro h
    cases h
    exact ⟨rfl, rfl⟩
  · rintro ⟨rfl, rfl⟩
    rfl

@[simp] theorem gives_bind {r : Run α} {f : α → Run β} {b : β} :
    Gives (r >>= f) s b s'' ↔ ∃ a s', Gives r s a s' ∧ Gives (f a) s' b s'' := by
  simp only [Gives, outcome_bind]
  rcases r.outcome s with ⟨x, s'⟩
  cases x with
  | error e => simp
  | ok a =>
    constructor
    · intro h
      exact ⟨a, s', rfl, h⟩
    · rintro ⟨_, _, he, h⟩
      cases he
      exact h

@[simp] theorem gives_map {r : Run α} {f : α → β} {b : β} :
    Gives (f <$> r) s b s' ↔ ∃ a, Gives r s a s' ∧ f a = b := by
  rw [map_eq_pure_bind]
  simp only [gives_bind, gives_pure]
  constructor
  · rintro ⟨a, _, h, rfl, rfl⟩
    exact ⟨a, h, rfl⟩
  · rintro ⟨a, h, rfl⟩
    exact ⟨a, _, h, rfl, rfl⟩

@[simp] theorem not_gives_throw {e : Failure} {a : α} : ¬ Gives (throw e) s a s' := by
  intro h
  cases h

@[simp] theorem gives_get {t : Session} : Gives get s t s' ↔ t = s ∧ s' = s := by
  constructor
  · intro h
    cases h
    exact ⟨rfl, rfl⟩
  · rintro ⟨rfl, rfl⟩
    rfl

@[simp] theorem gives_modify {f : Session → Session} {u : Unit} :
    Gives (modify f) s u s' ↔ s' = f s := by
  constructor
  · intro h
    cases h
    rfl
  · rintro rfl
    rfl

@[simp] theorem gives_modifyGet {f : Session → α × Session} {a : α} :
    Gives (modifyGet f) s a s' ↔ a = (f s).1 ∧ s' = (f s).2 := by
  constructor
  · intro h
    cases h
    exact ⟨rfl, rfl⟩
  · rintro ⟨rfl, rfl⟩
    rfl

@[simp] theorem gives_lift {x : Except Failure α} {a : α} :
    Gives (liftM x) s a s' ↔ x = .ok a ∧ s' = s := by
  cases x with
  | error e =>
    constructor
    · intro h
      cases h
    · rintro ⟨h, -⟩
      cases h
  | ok b =>
    constructor
    · intro h
      cases h
      exact ⟨rfl, rfl⟩
    · rintro ⟨h, rfl⟩
      cases h
      rfl

/-- Wherever the run ends, successful or not, `I` holds if it held at the start. -/
def Keeps (I : Session → Prop) (r : Run α) (s : Session) : Prop := I s → I (r.outcome s).2

theorem Keeps.gives {I : Session → Prop} {r : Run α} {a : α} (h : Keeps I r s)
    (hr : Gives r s a s') (hs : I s) : I s' := by
  have he : (r.outcome s).2 = s' := congrArg Prod.snd hr
  exact he ▸ h hs

theorem Keeps.bind {I : Session → Prop} {r : Run α} {f : α → Run β} (h : Keeps I r s)
    (hf : ∀ a s', Gives r s a s' → Keeps I (f a) s') : Keeps I (r >>= f) s := by
  intro hs
  rw [outcome_bind]
  rcases hr : r.outcome s with ⟨x, s'⟩
  have hs' : I s' := by simpa only [hr] using h hs
  cases x with
  | error e => exact hs'
  | ok a => exact hf a s' hr hs'

theorem keeps_pure {I : Session → Prop} (a : α) : Keeps I (pure a) s := id

theorem keeps_get {I : Session → Prop} : Keeps I get s := id

theorem keeps_throw {I : Session → Prop} (e : Failure) : Keeps I (throw e : Run α) s := id

theorem keeps_lift {I : Session → Prop} (x : Except Failure α) : Keeps I (liftM x) s := by
  cases x <;> exact id

/-- The runs for the items of a list succeed one after the other, each from the session that the
one before ended in. -/
inductive Each (f : α → Run β) : List α → Session → List β → Session → Prop where
  | nil (s : Session) : Each f [] s [] s
  | cons {a : α} {b : β} {l : List α} {bs : List β} {s s' s'' : Session}
      (head : Gives (f a) s b s') (tail : Each f l s' bs s'') : Each f (a :: l) s (b :: bs) s''

@[simp] theorem gives_mapM {f : α → Run β} {l : List α} {bs : List β} :
    Gives (l.mapM f) s bs s' ↔ Each f l s bs s' := by
  induction l generalizing s bs with
  | nil =>
    simp only [List.mapM_nil, gives_pure]
    constructor
    · rintro ⟨rfl, rfl⟩
      exact .nil s
    · rintro ⟨⟩
      exact ⟨rfl, rfl⟩
  | cons a l ih =>
    simp only [List.mapM_cons, gives_bind, gives_pure]
    constructor
    · rintro ⟨b, s₁, hb, bs, s₂, hbs, rfl, rfl⟩
      exact .cons hb (ih.1 hbs)
    · intro h
      cases h with
      | cons hb hbs => exact ⟨_, _, hb, _, _, ih.2 hbs, rfl, rfl⟩

@[simp] theorem gives_forM {f : α → Run Unit} {l : List α} {u : Unit} :
    Gives (l.forM f) s u s' ↔ ∃ us, Each f l s us s' := by
  induction l generalizing s with
  | nil =>
    constructor
    · intro h
      cases h
      exact ⟨[], .nil _⟩
    · rintro ⟨_, h⟩
      cases h
      rfl
  | cons a l ih =>
    rw [List.forM_eq_forM, List.forM_cons, gives_bind]
    constructor
    · rintro ⟨v, s₁, hv, h⟩
      obtain ⟨us, hus⟩ := ih.1 h
      exact ⟨v :: us, .cons hv hus⟩
    · rintro ⟨_, h⟩
      cases h with
      | cons hv hus => exact ⟨_, _, hv, ih.2 ⟨_, hus⟩⟩

theorem forM_congr {f g : α → Run Unit} {l : List α} (h : ∀ a ∈ l, f a = g a) :
    l.forM f = l.forM g := by
  induction l with
  | nil => rfl
  | cons a l ih =>
    rw [List.forM_eq_forM, List.forM_cons, List.forM_cons,
      h a List.mem_cons_self]
    exact congrArg _ (funext fun _ => ih fun b hb => h b (List.mem_cons_of_mem a hb))

theorem Each.length_eq {f : α → Run β} {l : List α} {bs : List β} (h : Each f l s bs s') :
    bs.length = l.length := by
  induction h with
  | nil => rfl
  | cons _ _ ih => rw [List.length_cons, List.length_cons, ih]

/-- Where the value for an item tells something of the item, the values tell it of the whole
list. -/
theorem Each.map_eq {f : α → Run β} {g : β → γ} {h : α → γ} {l : List α} {bs : List β}
    (hf : ∀ a s b s', Gives (f a) s b s' → g b = h a) (heach : Each f l s bs s') :
    bs.map g = l.map h := by
  induction heach with
  | nil => rfl
  | cons head tail ih => rw [List.map_cons, List.map_cons, ih, hf _ _ _ _ head]

@[simp] theorem each_nil {f : α → Run β} {bs : List β} : Each f [] s bs s' ↔ bs = [] ∧ s = s' := by
  constructor
  · rintro ⟨⟩
    exact ⟨rfl, rfl⟩
  · rintro ⟨rfl, rfl⟩
    exact .nil s

@[simp] theorem each_cons {f : α → Run β} {a : α} {l : List α} {bs : List β} :
    Each f (a :: l) s bs s' ↔
      ∃ b s₁ bs', Gives (f a) s b s₁ ∧ Each f l s₁ bs' s' ∧ bs = b :: bs' := by
  constructor
  · rintro (_ | ⟨head, tail⟩)
    exact ⟨_, _, _, head, tail, rfl⟩
  · rintro ⟨b, s₁, bs', head, tail, rfl⟩
    exact .cons head tail

theorem exists_each_nil {f : α → Run β} {p : List β → Prop} :
    (∃ bs, Each f [] s bs s' ∧ p bs) ↔ s = s' ∧ p [] := by
  constructor
  · rintro ⟨_, hbs, hp⟩
    cases hbs
    exact ⟨rfl, hp⟩
  · rintro ⟨rfl, hp⟩
    exact ⟨[], .nil s, hp⟩

theorem exists_each_singleton {f : α → Run β} {a : α} {p : List β → Prop} :
    (∃ bs, Each f [a] s bs s' ∧ p bs) ↔ ∃ b, Gives (f a) s b s' ∧ p [b] := by
  constructor
  · rintro ⟨_, hbs, hp⟩
    cases hbs with
    | cons hb hnil =>
      cases hnil
      exact ⟨_, hb, hp⟩
  · rintro ⟨b, hb, hp⟩
    exact ⟨[b], .cons hb (.nil _), hp⟩

theorem each_map {π : Type} {g : π → Run β} {f : α → π} {l : List α} {bs : List β} :
    Each g (l.map f) s bs s' ↔ Each (fun a => g (f a)) l s bs s' := by
  induction l generalizing s bs with
  | nil => simp
  | cons a l ih => simp only [List.map_cons, each_cons, ih]

theorem each_append {f : α → Run β} {l l' : List α} {bs : List β} :
    Each f (l ++ l') s bs s' ↔
      ∃ bs₁ s₁ bs₂, Each f l s bs₁ s₁ ∧ Each f l' s₁ bs₂ s' ∧ bs = bs₁ ++ bs₂ := by
  induction l generalizing s bs with
  | nil =>
    simp only [List.nil_append, each_nil]
    constructor
    · intro h
      exact ⟨[], s, bs, ⟨rfl, rfl⟩, h, rfl⟩
    · rintro ⟨_, _, bs₂, ⟨rfl, rfl⟩, h, rfl⟩
      exact h
  | cons a l ih =>
    simp only [List.cons_append, each_cons, ih]
    constructor
    · rintro ⟨b, s₁, _, hb, ⟨bs₁, s₂, bs₂, h₁, h₂, rfl⟩, rfl⟩
      exact ⟨b :: bs₁, s₂, bs₂, ⟨b, s₁, bs₁, hb, h₁, rfl⟩, h₂, rfl⟩
    · rintro ⟨_, s₂, bs₂, ⟨b, s₁, bs₁, hb, h₁, rfl⟩, h₂, rfl⟩
      exact ⟨b, s₁, bs₁ ++ bs₂, hb, ⟨bs₁, s₂, bs₂, h₁, h₂, rfl⟩, rfl⟩

/-- Runs for items that each do what another run does for a part of the item, if the item is
right, and then work on its value. -/
theorem each_iff_zipWith {π : Type} {f : α → Run γ} {g : π → Run β} {p : α → π} {h : α → β → γ}
    {q : α → Prop} (hf : ∀ a s x s', Gives (f a) s x s' ↔
      q a ∧ ∃ b, Gives (g (p a)) s b s' ∧ h a b = x) {l : List α} {xs : List γ} :
    Each f l s xs s' ↔
      (∀ a ∈ l, q a) ∧ ∃ bs, Each g (l.map p) s bs s' ∧ List.zipWith h l bs = xs := by
  induction l generalizing s xs with
  | nil => simp [and_comm, eq_comm]
  | cons a l ih =>
    simp only [each_cons, hf, ih, List.map_cons, List.forall_mem_cons]
    constructor
    · rintro ⟨_, s₁, _, ⟨ha, b, hb, rfl⟩, ⟨hl, bs, hbs, rfl⟩, rfl⟩
      exact ⟨⟨ha, hl⟩, b :: bs, ⟨b, s₁, bs, hb, hbs, rfl⟩, rfl⟩
    · rintro ⟨⟨ha, hl⟩, _, ⟨b, s₁, bs, hb, hbs, rfl⟩, rfl⟩
      exact ⟨h a b, s₁, _, ⟨ha, b, hb, rfl⟩, ⟨hl, bs, hbs, rfl⟩, rfl⟩

/-- What each run of a list preserves, the whole list preserves, and what holds of each value still
holds at the end. -/
theorem Each.preserve {f : α → Run β} {R : Session → Session → Prop} {P : β → Session → Prop}
    (refl : ∀ s, R s s) (trans : ∀ {s s' s''}, R s s' → R s' s'' → R s s'')
    (keep : ∀ b s s', R s s' → P b s → P b s') {l : List α} {bs : List β}
    (step : ∀ a ∈ l, ∀ s b s', Gives (f a) s b s' → R s s' ∧ P b s') (h : Each f l s bs s') :
    R s s' ∧ ∀ b ∈ bs, P b s' := by
  induction h with
  | nil s => exact ⟨refl s, fun b hb => absurd hb List.not_mem_nil⟩
  | cons head tail ih =>
    obtain ⟨hR, hP⟩ := step _ List.mem_cons_self _ _ _ head
    obtain ⟨hR', hP'⟩ := ih fun a ha => step a (List.mem_cons_of_mem _ ha)
    refine ⟨trans hR hR', fun b hb => ?_⟩
    rcases List.mem_cons.1 hb with rfl | hb
    · exact keep _ _ _ hR' hP
    · exact hP' b hb

end ClientGen.Run
