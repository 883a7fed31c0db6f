import ClientGen.Proofs.Run

namespace ClientGen.Run

variable {α β γ : Type} {s s' : Session}

/-- From session `s` the run does not reach the depth at which it would be cut off. -/
def Ends (r : Run α) (s : Session) : Prop := (r.outcome s).1 ≠ .error .endless

/-- The run ends, and the second one, which may go deeper, comes to the same. -/
def Settles (r r' : Run α) (s : Session) : Prop := r.Ends s ∧ r'.outcome s = r.outcome s

theorem Ends.settles {r : Run α} (h : r.Ends s) : Settles r r s := ⟨h, rfl⟩

theorem ends_pure (a : α) : Ends (pure a) s := nofun

theorem ends_get : Ends get s := nofun

theorem ends_modify (f : Session → Session) : Ends (modify f) s := nofun

theorem ends_modifyGet (f : Session → α × Session) : Ends (modifyGet f) s := nofun

theorem ends_throw {e : Failure} (he : e ≠ .endless) : Ends (throw e : Run α) s := by
  intro h
  cases h
  exact he rfl

theorem ends_lift {x : Except Failure α} (hx : x ≠ .error .endless) : Ends (liftM x : Run α) s := by
  cases x with
  | ok a => exact ends_pure a
  | error e =>
    apply ends_throw
    rintro rfl
    exact hx rfl

theorem Settles.bind {r r' : Run α} {f f' : α → Run β} (h : Settles r r' s)
    (hf : ∀ a s', Gives r s a s' → Settles (f a) (f' a) s') : Settles (r >>= f) (r' >>= f') s := by
  obtain ⟨hends, hsame⟩ := h
  unfold Settles Ends at *
  rw [outcome_bind, outcome_bind, hsame]
  rcases hr : r.outcome s with ⟨x, s'⟩
  cases x with
  | ok a => exact hf a s' hr
  | error e =>
    rw [hr] at hends
    refine ⟨fun h => hends ?_, rfl⟩
    cases h
    rfl

theorem Ends.bind {r : Run α} {f : α → Run β} (h : r.Ends s)
    (hf : ∀ a s', Gives r s a s' → (f a).Ends s') : Ends (r >>= f) s :=
  (h.settles.bind fun a s' ha => (hf a s' ha).settles).1

/-- Wherever `I` holds the run settles, and where it succeeds `I` still holds. -/
def SettlesUnder (I : Session → Prop) (r r' : Run α) : Prop :=
  ∀ s, I s → Settles r r' s ∧ ∀ a s', Gives r s a s' → I s'

variable {I : Session → Prop}

theorem SettlesUnder.of_ends {r : Run α} (h : ∀ s, r.Ends s)
    (hI : ∀ s a s', I s → Gives r s a s' → I s') : SettlesUnder I r r :=
  fun s hs => ⟨(h s).settles, fun a s' hr => hI s a s' hs hr⟩

theorem SettlesUnder.pure (a : α) : SettlesUnder I (Pure.pure a) (Pure.pure a) := by
  apply SettlesUnder.of_ends fun s => ends_pure a
  intro s b s' hs h
  rw [← (gives_pure.1 h).2]
  exact hs

theorem SettlesUnder.throw {e : Failure} (he : e ≠ .endless) :
    SettlesUnder I (throw e : Run α) (throw e) :=
  .of_ends (fun _ => ends_throw he) fun _ _ _ _ h => absurd h not_gives_throw

theorem SettlesUnder.bind {r r' : Run α} {f f' : α → Run β} (h : SettlesUnder I r r')
    (hf : ∀ a, SettlesUnder I (f a) (f' a)) : SettlesUnder I (r >>= f) (r' >>= f') := by
  intro s hs
  obtain ⟨hr, hI⟩ := h s hs
  refine ⟨hr.bind fun a s' ha => (hf a s' (hI a s' ha)).1, fun b s'' hb => ?_⟩
  obtain ⟨a, s', ha, hb⟩ := gives_bind.1 hb
  exact (hf a s' (hI a s' ha)).2 b s'' hb

theorem SettlesUnder.lift {x : Except Failure α} {f f' : α → Run β} (hx : x ≠ .error .endless)
    (hf : ∀ a, x = .ok a → SettlesUnder I (f a) (f' a)) :
    SettlesUnder I (liftM x >>= f) (liftM x >>= f') := by
  cases x with
  | ok a => exact hf a rfl
  | error e =>
    apply SettlesUnder.throw
    rintro rfl
    exact hx rfl

theorem SettlesUnder.value {r r' : Run α} (h : SettlesUnder I r r') (f : α → β) :
    SettlesUnder I (r >>= fun a => Pure.pure (f a)) (r' >>= fun a => Pure.pure (f a)) :=
  h.bind fun a => .pure (f a)

theorem SettlesUnder.map {r r' : Run α} (h : SettlesUnder I r r') (f : α → β) :
    SettlesUnder I (f <$> r) (f <$> r') := by
  rw [map_eq_pure_bind, map_eq_pure_bind]
  exact h.value f

theorem SettlesUnder.mapM {f f' : α → Run β} {l : List α}
    (h : ∀ a ∈ l, SettlesUnder I (f a) (f' a)) : SettlesUnder I (l.mapM f) (l.mapM f') := by
  induction l with
  | nil => exact .pure []
  | cons a l ih =>
    rw [List.mapM_cons, List.mapM_cons]
    have hrest : SettlesUnder I (l.mapM f) (l.mapM f') :=
      ih fun b hb => h b (List.mem_cons_of_mem a hb)
    exact (h a List.mem_cons_self).bind fun b => hrest.value _

theorem SettlesUnder.forM {f f' : α → Run Unit} {l : List α}
    (h : ∀ a ∈ l, SettlesUnder I (f a) (f' a)) : SettlesUnder I (l.forM f) (l.forM f') := by
  induction l with
  | nil => exact .pure ()
  | cons a l ih =>
    rw [List.forM_eq_forM, List.forM_cons, List.forM_cons]
    exact (h a List.mem_cons_self).bind fun _ => ih fun b hb => h b (List.mem_cons_of_mem a hb)

end ClientGen.Run
