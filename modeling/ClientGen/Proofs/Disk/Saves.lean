import ClientGen.Proofs.Disk.Places

namespace ClientGen.Disk

variable {d d₁ d' : Disk} {path text : String} {p : List String}
  {targets targets' : List (String × String)}

theorem read_of_file? (hp : d.place path = .ok p) (h : d.file? p = some text) :
    d.read path = .ok text := by
  unfold file? at h
  rw [read, hp]
  dsimp only
  split at h
  · next hnode =>
    cases h
    rw [hnode]
  · cases h

theorem read_congr {path' : String} (h : d.place path = d.place path') :
    d.read path = d.read path' := by
  rw [read, read, h]

/-- A text that is saved stands at the place of its path, and all other files are as before. -/
theorem save_ok (h : d.save path text = .ok d') : d.Within d' ∧
    ∃ directory, d'.place path = .ok (directory ++ [lastName path]) ∧ ∀ other, d'.file? other =
      if other = directory ++ [lastName path] then some text else d.file? other := by
  unfold save at h
  obtain ⟨hwithin, hsame⟩ := d.ensureDirectories_keeps ((Path.parent? path).getD "")
  rcases hmade : d.ensureDirectories ((Path.parent? path).getD "") with ⟨result, d₁⟩
  rw [hmade] at h hwithin hsame
  cases result with
  | error fault => cases h
  | ok _ =>
    obtain ⟨directory, hplace, hnode, rfl⟩ := write_ok h
    have hput := within_put hnode (.file text)
    refine ⟨hwithin.trans hput, directory, hput.place hplace, ?_⟩
    intro other
    rw [file?_put hnode, hsame other]

/-- Texts are saved one after the other, each under its path. -/
inductive Saved : Disk → List (String × String) → Disk → Prop where
  | nil (d : Disk) : Saved d [] d
  | cons {path text : String} {rest : List (String × String)} {d d₁ d' : Disk}
      (head : d.save path text = .ok d₁) (tail : Saved d₁ rest d') :
      Saved d ((path, text) :: rest) d'

theorem Saved.append (h : d.Saved targets d₁) (h' : d₁.Saved targets' d') :
    d.Saved (targets ++ targets') d' := by
  induction h with
  | nil => exact h'
  | cons head _ ih => exact .cons head (ih h')

theorem Saved.of_append (h : d.Saved (targets ++ targets') d') :
    ∃ d₁, d.Saved targets d₁ ∧ d₁.Saved targets' d' := by
  induction targets generalizing d with
  | nil => exact ⟨d, .nil d, h⟩
  | cons t targets ih =>
    cases h with
    | cons head tail =>
      obtain ⟨d₁, hfirst, hlast⟩ := ih tail
      exact ⟨d₁, .cons head hfirst, hlast⟩

theorem Saved.within (h : d.Saved targets d') : d.Within d' := by
  induction h with
  | nil d => exact .refl d
  | cons head _ ih => exact (save_ok head).1.trans ih

theorem Saved.exists_place (h : d.Saved targets d') {t : String × String} (ht : t ∈ targets) :
    ∃ directory, d'.place t.1 = .ok (directory ++ [lastName t.1]) := by
  induction h with
  | nil => cases ht
  | cons head tail ih =>
    rcases List.mem_cons.1 ht with rfl | ht
    · obtain ⟨-, directory, hplace, -⟩ := save_ok head
      exact ⟨directory, tail.within.place hplace⟩
    · exact ih ht

theorem Saved.place_ne (h : d.Saved targets d') {t t' : String × String} (ht : t ∈ targets)
    (ht' : t' ∈ targets) (hne : lastName t.1 ≠ lastName t'.1) : d'.place t.1 ≠ d'.place t'.1 := by
  obtain ⟨directory, hplace⟩ := h.exists_place ht
  obtain ⟨directory', hplace'⟩ := h.exists_place ht'
  intro hsame
  rw [hplace, hplace'] at hsame
  exact hne (List.append_singleton_inj.1 (Except.ok.inj hsame)).2

theorem Saved.file?_of_not_target (h : d.Saved targets d')
    (hp : ∀ t ∈ targets, d'.place t.1 ≠ .ok p) : d'.file? p = d.file? p := by
  induction h with
  | nil => rfl
  | cons head tail ih =>
    obtain ⟨-, directory, hplace, hfile⟩ := save_ok head
    rw [ih fun t ht => hp t (List.mem_cons_of_mem _ ht), hfile, if_neg]
    rintro rfl
    exact hp _ List.mem_cons_self (tail.within.place hplace)

/-- A text is read back unless a later one is saved at the same place. -/
theorem Saved.read_of_last (h : d.Saved (targets ++ (path, text) :: targets') d')
    (hlast : ∀ t ∈ targets', d'.place t.1 ≠ d'.place path) : d'.read path = .ok text := by
  obtain ⟨d₁, -, hrest⟩ := h.of_append
  cases hrest with
  | cons head tail =>
    obtain ⟨-, directory, hplace, hfile⟩ := save_ok head
    have hp := tail.within.place hplace
    refine read_of_file? hp ?_
    rw [tail.file?_of_not_target, hfile, if_pos rfl]
    intro t ht
    rw [← hp]
    exact hlast t ht

/-- Of some texts the first ones are saved, the next one is refused, and the files stay as they are
then. -/
structure Stopped (d : Disk) (targets done : List (String × String)) (d' : Disk) : Prop where
  exists_refused : ∃ path text rest d₁, targets = done ++ (path, text) :: rest ∧ d.Saved done d₁ ∧
    (∀ d₂, d₁.save path text ≠ .ok d₂) ∧ d₁.Within d' ∧ d₁.SameFiles d'

theorem Stopped.refused (h : ∀ d₂, d.save path text ≠ .ok d₂)
    (hwithin : d.Within d') (hsame : d.SameFiles d') : d.Stopped [(path, text)] [] d' :=
  ⟨path, text, [], d, rfl, .nil d, h, hwithin, hsame⟩

theorem Stopped.after {done : List (String × String)} (h : d₁.Stopped targets' done d')
    (hsaved : d.Saved targets d₁) : d.Stopped (targets ++ targets') (targets ++ done) d' := by
  obtain ⟨path, text, rest, d₂, rfl, hdone, hrefused⟩ := h.exists_refused
  exact ⟨path, text, rest, d₂, (List.append_assoc ..).symm, hsaved.append hdone, hrefused⟩

theorem Stopped.append (targets' : List (String × String)) {done : List (String × String)}
    (h : d.Stopped targets done d') : d.Stopped (targets ++ targets') done d' := by
  obtain ⟨path, text, rest, d₁, rfl, hrest⟩ := h.exists_refused
  exact ⟨path, text, rest ++ targets', d₁, by rw [List.append_assoc, List.cons_append], hrest⟩

/-- Files change only at the places of the texts that were saved. -/
theorem Stopped.sameFiles_iff {done : List (String × String)} (h : d.Stopped targets done d') :
    d.SameFiles d' ↔ ∀ t ∈ done, ∀ p, d'.place t.1 = .ok p → d'.file? p = d.file? p := by
  obtain ⟨_, _, _, d₁, -, hsaved, -, hwithin, hsame⟩ := h.exists_refused
  constructor
  · intro hall t _ p _
    exact hall p
  · intro hdone p
    by_cases hp : ∃ t ∈ done, d'.place t.1 = .ok p
    · obtain ⟨t, ht, hplace⟩ := hp
      exact hdone t ht p hplace
    · rw [hsame p, hsaved.file?_of_not_target]
      intro t ht hplace
      exact hp ⟨t, ht, hwithin.place hplace⟩

end ClientGen.Disk
