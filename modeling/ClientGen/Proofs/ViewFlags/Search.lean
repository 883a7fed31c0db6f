import ClientGen.Proofs.ViewFlags.Found

namespace ClientGen.Setting

open Run

variable {c : Setting} {path : List String} {known known₁ known₂ : Dict ViewFlags}
  {f g : ViewFlags} {s s' : Session}

/-- A search is right if it answers what is to be found, from whatever session. -/
def Right (c : Setting) (find : FlagFinder) : Prop :=
  ∀ path x s f s', (find path x).Gives s f s' →
    c.Answer path s.flags s'.flags f fun v => c.Finds path s.flags v x

theorem KnownGrows.refl (known : Dict ViewFlags) : KnownGrows known known := fun _ _ h => h

theorem KnownGrows.trans (h : KnownGrows known known₁) (h' : KnownGrows known₁ known₂) :
    KnownGrows known known₂ :=
  fun r f hf => h' r f (h r f hf)

theorem KnownAdded.still : c.KnownAdded path known known f :=
  fun r g hn hg => by cases hn.symm.trans hg

theorem Answer.still {goal : View → Prop} (h : ∀ v, f.has v = true ↔ goal v) :
    c.Answer path known known f goal :=
  ⟨h, .refl known, .still⟩

theorem Answer.imp {goal goal' : View → Prop} (h : c.Answer path known known₁ f goal)
    (he : ∀ v, goal v ↔ goal' v) : c.Answer path known known₁ f goal' :=
  ⟨fun v => (h.has_iff v).trans (he v), h.grows, h.added⟩

theorem Answer.trans {goal : View → Prop} {l : List Schema}
    (h : c.Answer path known known₁ f goal)
    (h' : c.Answer path known₁ known₂ g fun v =>
      f.has v = true ∨ ∃ t ∈ l, c.Finds path known₁ v t) :
    c.Answer path known known₂ g fun v => goal v ∨ ∃ t ∈ l, c.Finds path known v t := by
  have hfg : ∀ v, f.has v = true → g.has v = true := fun v hv => (h'.has_iff v).2 (.inl hv)
  refine ⟨fun v => ?_, h.grows.trans h'.grows, ?_⟩
  · rw [h'.has_iff v, ← h.has_iff v]
    constructor
    · rintro (hv | ⟨t, ht, hv⟩)
      · exact .inl hv
      · exact .inr ⟨t, ht, hv.earlier h.grows h.added⟩
    · rintro (hv | ⟨t, ht, hv⟩)
      · exact .inl hv
      · exact (hv.later h.grows h.added).imp_right fun hv => ⟨t, ht, hv⟩
  · intro r g' hn hg'
    cases hk : known₁.get? r with
    | none =>
      obtain ⟨t, ht, hsound, hc⟩ := h'.added r g' hk hg'
      refine ⟨t, ht, fun v hv => (hsound v hv).earlier h.grows h.added, fun v hv => ?_⟩
      exact (hv.later h.grows h.added).elim (hfg v) (hc v)
    | some g₁ =>
      cases (h'.grows r g₁ hk).symm.trans hg'
      obtain ⟨t, ht, hsound, hc⟩ := h.added r g' hn hk
      exact ⟨t, ht, hsound, fun v hv => hfg v (hc v hv)⟩

theorem Answer.of_both {goal : View → Prop} (hb : f.both = true)
    (hgoal : ∀ v, f.has v = true → goal v) (hbase : ¬ goal .base) :
    c.Answer path known known f goal := by
  refine .still fun v => ⟨hgoal v, fun hv => ?_⟩
  apply ViewFlags.has_of_both hb
  rintro rfl
  exact hbase hv

theorem Right.list {find : FlagFinder} (hfind : c.Right find) {l : List Schema}
    (h : Gives (l.foldlM (addPart find path) f) s g s') :
    c.Answer path s.flags s'.flags g fun v =>
      f.has v = true ∨ ∃ t ∈ l, c.Finds path s.flags v t := by
  induction l generalizing f s with
  | nil =>
    simp only [List.foldlM_nil, gives_pure] at h
    obtain ⟨rfl, rfl⟩ := h
    exact .still fun v => by simp
  | cons t l ih =>
    simp only [List.foldlM_cons, gives_bind] at h
    obtain ⟨f₁, s₁, hstep, hrest⟩ := h
    unfold addPart at hstep
    have hgoal : c.Answer path s.flags s₁.flags f₁ fun v =>
        f.has v = true ∨ c.Finds path s.flags v t := by
      split at hstep
      · next hb =>
        rw [gives_pure] at hstep
        obtain ⟨rfl, rfl⟩ := hstep
        refine .of_both hb (fun v hv => .inl hv) ?_
        simpa using Finds.not_base
      · simp only [gives_bind, gives_pure] at hstep
        obtain ⟨f', _, hf', rfl, rfl⟩ := hstep
        have ha := hfind _ _ _ _ _ hf'
        refine ⟨fun v => ?_, ha.grows, fun r g' hn hg' => ?_⟩
        · rw [ViewFlags.has_merge, Bool.or_eq_true, ha.has_iff]
        · obtain ⟨t', ht', hsound, hc⟩ := ha.added r g' hn hg'
          refine ⟨t', ht', hsound, fun v hv => ?_⟩
          rw [ViewFlags.has_merge, hc v hv, Bool.or_true]
    refine (hgoal.trans (ih hrest)).imp fun v => ?_
    simp only [List.mem_cons, exists_eq_or_imp, or_assoc]

/-- What is added when a reference is done: what was added on the way, and its own flags. -/
theorem KnownAdded.put {r : String} {t : Schema} (hn : known.get? r = none)
    (ht : c.schema r = .ok t) (hadd : c.KnownAdded (r :: path) known known₁ f)
    (hiff : ∀ v, f.has v = true ↔ c.Finds (r :: path) known v t) :
    c.KnownAdded path known (known₁.put r f) f := by
  have hcut : ∀ v x, c.Finds path known v x → f.has v = true ∨ c.Finds (r :: path) known v x :=
    fun v x h => ((h.cut hn ht).imp_right (hiff v).2).symm
  have hlong : path ⊆ r :: path := List.subset_cons_self r path
  intro r' g hn' hg
  rw [Dict.get?_put] at hg
  split at hg
  · next he =>
    subst r'
    cases hg
    exact ⟨t, ht, fun v hv => ((hiff v).1 hv).shorten hlong,
      fun v hv => (hcut v t hv).elim id (hiff v).2⟩
  · obtain ⟨t', ht', hsound, hc⟩ := hadd r' g hn' hg
    exact ⟨t', ht', fun v hv => (hsound v hv).shorten hlong,
      fun v hv => (hcut v t' hv).elim id (hc v)⟩

theorem Right.reference {find : FlagFinder} (hfind : c.Right find) {r : String}
    (h : (c.referenceFlags find path r).Gives s f s') :
    c.Answer path s.flags s'.flags f fun v => c.FindsBehind path s.flags v r := by
  unfold referenceFlags at h
  split at h
  · next hr =>
    rw [gives_pure] at h
    obtain ⟨rfl, rfl⟩ := h
    refine .still fun v => ?_
    simp only [ViewFlags.has_empty, Bool.false_eq_true, false_iff]
    exact fun hb => hb.1 (List.contains_iff_mem.1 hr)
  · next hr =>
    have hr : r ∉ path := fun hm => hr (List.contains_iff_mem.2 hm)
    simp only [gives_bind, gives_get] at h
    obtain ⟨_, _, ⟨rfl, rfl⟩, h⟩ := h
    split at h
    · next known hk =>
      rw [gives_pure] at h
      obtain ⟨rfl, rfl⟩ := h
      refine .still fun v => ?_
      simp [FindsBehind, hr, hk]
    · next hk =>
      simp only [gives_bind, gives_lift, gives_pure, rememberFlags, gives_modify] at h
      obtain ⟨t, _, ⟨ht, rfl⟩, f', s₁, hf', _, _, rfl, rfl, rfl⟩ := h
      have ha := hfind _ _ _ _ _ hf'
      refine ⟨fun v => ?_, ?_, ha.added.put hk ht ha.has_iff⟩
      · rw [ha.has_iff]
        constructor
        · intro hv
          exact ⟨hr, .inr ⟨hk, t, ht, hv.shorten (List.subset_cons_self r path)⟩⟩
        · rintro ⟨-, ⟨g, hg, -⟩ | ⟨-, t', ht', hv⟩⟩
          · cases hk.symm.trans hg
          · cases ht.symm.trans ht'
            exact (hv.cut hk ht).elim id id
      · intro r' g hg
        rw [Dict.get?_put, if_neg]
        · exact ha.grows r' g hg
        · rintro rfl
          cases hk.symm.trans hg

theorem Right.step {find : FlagFinder} (hfind : c.Right find) : c.Right (c.flagsStep find) := by
  intro path x s f s' h
  unfold flagsStep at h
  split at h
  · next hb =>
    rw [gives_pure] at h
    obtain ⟨rfl, rfl⟩ := h
    exact .of_both hb (fun v hv => .own hv) Finds.not_base
  · split at h
    · next r hr =>
      simp only [gives_bind, gives_pure] at h
      obtain ⟨f', _, hf', rfl, rfl⟩ := h
      have ha := hfind.reference hf'
      refine ⟨fun v => ?_, ha.grows, fun r' g hn hg => ?_⟩
      · rw [ViewFlags.has_merge, Bool.or_eq_true, ha.has_iff, finds_iff_of_reference hr]
      · obtain ⟨t, ht, hsound, hc⟩ := ha.added r' g hn hg
        refine ⟨t, ht, hsound, fun v hv => ?_⟩
        rw [ViewFlags.has_merge, hc v hv, Bool.or_true]
    · next hr =>
      exact (hfind.list h).imp fun v => (finds_iff_of_no_reference hr).symm

theorem flagsWithin_right (c : Setting) (fuel : Nat) : c.Right (c.flagsWithin fuel) := by
  induction fuel with
  | zero =>
    intro path x s f s' h
    exact absurd h not_gives_throw
  | succ fuel ih => exact ih.step

/-- A question is answered by what is found behind the reference, given what is known. -/
theorem flagsOf_has_iff {r : String} (h : (c.flagsOf r).Gives s f s') (v : View) :
    f.has v = true ↔ c.FindsBehind [] s.flags v r :=
  ((c.flagsWithin_right _).reference h).has_iff v

end ClientGen.Setting
