import ClientGen.Proofs.Run

namespace ClientGen.Run

variable {α α' β β' γ : Type} {E : Failure → Prop} {R : Session → Session → Prop} {f : α → α'}
  {g : β → β'} {r : Run α} {r' : Run α'} {k : α → Run β} {k' : α' → Run β'}

/-- What can fail does the same in both cases, unless it fails for an excused reason in the first
one. -/
def Agree (E : Failure → Prop) (x x' : Except Failure α) : Prop :=
  (∃ e, E e ∧ x = .error e) ∨ x' = x

theorem Agree.refl (x : Except Failure α) : Agree E x x := .inr rfl

theorem Agree.bind {x x' : Except Failure α} {m m' : α → Except Failure β} (h : Agree E x x')
    (hm : ∀ a, x = .ok a → Agree E (m a) (m' a)) : Agree E (x >>= m) (x' >>= m') := by
  rcases h with ⟨e, he, rfl⟩ | rfl
  · exact .inl ⟨e, he, rfl⟩
  · cases x' with
    | error e => exact .refl _
    | ok a => exact hm a rfl

theorem Agree.mapM {m m' : α → Except Failure β} {l : List α}
    (h : ∀ a ∈ l, Agree E (m a) (m' a)) : Agree E (l.mapM m) (l.mapM m') := by
  induction l with
  | nil => exact .refl _
  | cons a l ih =>
    rw [List.mapM_cons, List.mapM_cons]
    have hrest := ih fun b hb => h b (List.mem_cons_of_mem a hb)
    exact (h a List.mem_cons_self).bind fun b _ => hrest.bind fun bs _ => .refl _

/-- From a session like the one where the first run starts, the second run comes to the picture of
what the first one comes to, and the sessions that they end in are like each other. -/
def Mirrors (E : Failure → Prop) (R : Session → Session → Prop) (f : α → α') (r : Run α)
    (r' : Run α') : Prop :=
  ∀ s s', R s s' → (∃ e, E e ∧ (r.outcome s).1 = .error e) ∨
    ((r'.outcome s').1 = (r.outcome s).1.map f ∧ R (r.outcome s).2 (r'.outcome s').2)

theorem Mirrors.pure {a : α} {a' : α'} (h : f a = a') :
    Mirrors E R f (Pure.pure a) (Pure.pure a') := by
  subst h
  exact fun s s' hs => .inr ⟨rfl, hs⟩

theorem Mirrors.throw (e : Failure) : Mirrors E R f (throw e) (throw e) :=
  fun _ _ hs => .inr ⟨rfl, hs⟩

theorem Mirrors.excused {e : Failure} (he : E e) (r' : Run α') :
    Mirrors E R f (MonadExcept.throw e) r' :=
  fun _ _ _ => .inl ⟨e, he, rfl⟩

theorem Mirrors.lift {x x' : Except Failure α} (h : Agree E x x') :
    Mirrors E R id (liftM x) (liftM x') := by
  intro s s' hs
  rcases h with ⟨e, he, rfl⟩ | rfl
  · exact .inl ⟨e, he, rfl⟩
  · cases x' <;> exact .inr ⟨rfl, hs⟩

theorem Mirrors.modify {m m' : Session → Session} (hm : ∀ s s', R s s' → R (m s) (m' s')) :
    Mirrors E R id (modify m) (modify m') :=
  fun s s' hs => .inr ⟨rfl, hm s s' hs⟩

theorem Mirrors.modifyGet {m : Session → α × Session} {m' : Session → α' × Session}
    (hm : ∀ s s', R s s' → (m' s').1 = f (m s).1 ∧ R (m s).2 (m' s').2) :
    Mirrors E R f (modifyGet m) (modifyGet m') := by
  intro s s' hs
  obtain ⟨hvalue, hR⟩ := hm s s' hs
  exact .inr ⟨congrArg Except.ok hvalue, hR⟩

theorem Mirrors.bind_gives (h : Mirrors E R f r r')
    (hk : ∀ a s s', Gives r s a s' → Mirrors E R g (k a) (k' (f a))) :
    Mirrors E R g (r >>= k) (r' >>= k') := by
  intro s s' hs
  have hfirst := h s s' hs
  rw [outcome_bind, outcome_bind]
  rcases hr : r.outcome s with ⟨x, t⟩
  rcases hr' : r'.outcome s' with ⟨x', t'⟩
  rw [hr, hr'] at hfirst
  rcases hfirst with ⟨e, he, rfl⟩ | ⟨rfl, hR⟩
  · exact .inl ⟨e, he, rfl⟩
  · cases x with
    | error e => exact .inr ⟨rfl, hR⟩
    | ok a => exact hk a s t hr t t' hR

theorem Mirrors.bind (h : Mirrors E R f r r') (hk : ∀ a, Mirrors E R g (k a) (k' (f a))) :
    Mirrors E R g (r >>= k) (r' >>= k') :=
  h.bind_gives fun a _ _ _ => hk a

theorem Mirrors.gives {s s' t : Session} {a : α} (h : Mirrors E R f r r') (hs : R s s')
    (hr : Gives r s a t) : ∃ t', Gives r' s' (f a) t' ∧ R t t' := by
  have hsame := h s s' hs
  rw [hr] at hsame
  rcases hsame with ⟨e, -, he⟩ | ⟨hvalue, hR⟩
  · cases he
  · exact ⟨_, Prod.ext hvalue rfl, hR⟩

/-- A first part after which the sessions are still like each other has nothing to mirror it. -/
theorem Mirrors.skip {a : α} {r' : Run β'} (h : ∀ s s', R s s' → ∃ t, Gives r s a t ∧ R t s')
    (hk : Mirrors E R g (k a) r') : Mirrors E R g (r >>= k) r' := by
  intro s s' hs
  obtain ⟨t, hr, ht⟩ := h s s' hs
  rw [outcome_bind, hr]
  exact hk t s' ht

theorem Mirrors.get_bind {m : Session → Run β} {m' : Session → Run β'}
    (hm : ∀ s s', R s s' → Mirrors E R g (m s) (m' s')) :
    Mirrors E R g (get >>= m) (get >>= m') := by
  intro s s' hs
  rw [outcome_bind, outcome_bind]
  exact hm s s' hs s s' hs

theorem Mirrors.value {u : α → β} {u' : α' → β'} (h : Mirrors E R f r r')
    (hu : ∀ a, g (u a) = u' (f a)) :
    Mirrors E R g (r >>= fun a => Pure.pure (u a)) (r' >>= fun a => Pure.pure (u' a)) :=
  h.bind fun a => .pure (hu a)

theorem Mirrors.map {u : α → β} {u' : α' → β'} (h : Mirrors E R f r r')
    (hu : ∀ a, g (u a) = u' (f a)) : Mirrors E R g (u <$> r) (u' <$> r') := by
  rw [map_eq_pure_bind, map_eq_pure_bind]
  exact h.value hu

theorem Mirrors.mapM {k : γ → Run β} {k' : γ → Run β'} {l : List γ}
    (h : ∀ a ∈ l, Mirrors E R g (k a) (k' a)) :
    Mirrors E R (List.map g) (l.mapM k) (l.mapM k') := by
  induction l with
  | nil => exact .pure rfl
  | cons a l ih =>
    rw [List.mapM_cons, List.mapM_cons]
    have hrest := ih fun b hb => h b (List.mem_cons_of_mem a hb)
    exact (h a List.mem_cons_self).bind fun b => hrest.value fun bs => rfl

theorem Mirrors.mapM_option {k : γ → Run β} {k' : γ → Run β'} {a : Option γ}
    (h : ∀ b, a = some b → Mirrors E R g (k b) (k' b)) :
    Mirrors E R (Option.map g) (a.mapM k) (a.mapM k') := by
  cases a with
  | none => exact .pure rfl
  | some a => exact (h a rfl).map fun _ => rfl

theorem Mirrors.forM {k k' : γ → Run Unit} {l : List γ} (h : ∀ a ∈ l, Mirrors E R id (k a) (k' a)) :
    Mirrors E R id (l.forM k) (l.forM k') := by
  induction l with
  | nil => exact .pure rfl
  | cons a l ih =>
    rw [List.forM_eq_forM, List.forM_cons, List.forM_cons]
    exact (h a List.mem_cons_self).bind fun _ => ih fun b hb => h b (List.mem_cons_of_mem a hb)

theorem Mirrors.foldlM {k k' : β → γ → Run β} {l : List γ} {b : β}
    (h : ∀ b, ∀ a ∈ l, Mirrors E R id (k b a) (k' b a)) :
    Mirrors E R id (l.foldlM k b) (l.foldlM k' b) := by
  induction l generalizing b with
  | nil => exact .pure rfl
  | cons a l ih =>
    rw [List.foldlM_cons, List.foldlM_cons]
    exact (h b a List.mem_cons_self).bind fun b' =>
      ih fun b a ha => h b a (List.mem_cons_of_mem _ ha)

end ClientGen.Run
