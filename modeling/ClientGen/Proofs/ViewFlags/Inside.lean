import ClientGen.Proofs.ViewFlags.Found

namespace ClientGen

namespace ViewFlags

theorem has_foldl_merge {α : Type} {f : α → ViewFlags} {l : List α} {found : ViewFlags} {v : View} :
    (l.foldl (fun found a => found.merge (f a)) found).has v = true ↔
      found.has v = true ∨ ∃ a ∈ l, (f a).has v = true := by
  induction l generalizing found with
  | nil => simp
  | cons a l ih =>
    simp only [List.foldl_cons, ih, has_merge, Bool.or_eq_true, List.mem_cons, exists_eq_or_imp,
      or_assoc]

end ViewFlags

namespace Schema

variable {s t : Schema} {v : View}

/-- From the first schema one gets to the second through items, or else through properties and
branches. No way leads on from a schema that is a reference. -/
inductive Reaches : Schema → Schema → Prop where
  | self (s : Schema) : Reaches s s
  | part {s p t : Schema} (hs : s.reference = none) (hp : p ∈ s.parts) (h : Reaches p t) :
      Reaches s t

def ReadFlagged (s : Schema) : Prop := ∃ t, s.Reaches t ∧ t.readOnly = some true

def WriteFlagged (s : Schema) : Prop := ∃ t, s.Reaches t ∧ t.writeOnly = some true

/-- Whether a view of an object has a property with this schema. -/
def VisibleIn : View → Schema → Prop
  | .base, s => ¬ s.ReadFlagged ∧ ¬ s.WriteFlagged
  | .read, s => s.ReadFlagged ∨ ¬ s.WriteFlagged
  | .write, s => s.WriteFlagged ∨ ¬ s.ReadFlagged

theorem flags_eq (s : Schema) : s.flags =
    if s.reference.isSome then s.ownFlags
    else s.parts.foldl (fun found part => found.merge part.flags) s.ownFlags := by
  have hfold := s.parts.foldl_attach (f := fun (found : ViewFlags) p => found.merge p.flags)
    (b := s.ownFlags)
  rw [flags, hfold]

theorem exists_reaches {q : Schema → Prop} : (∃ t, s.Reaches t ∧ q t) ↔
    q s ∨ s.reference = none ∧ ∃ p ∈ s.parts, ∃ t, p.Reaches t ∧ q t := by
  constructor
  · rintro ⟨t, h, ht⟩
    cases h with
    | self => exact .inl ht
    | part hs hp h => exact .inr ⟨hs, _, hp, t, h, ht⟩
  · rintro (hq | ⟨hs, p, hp, t, h, ht⟩)
    · exact ⟨s, .self s, hq⟩
    · exact ⟨t, .part hs hp h, ht⟩

theorem has_flags_iff (s : Schema) :
    s.flags.has v = true ↔ ∃ t, s.Reaches t ∧ t.ownFlags.has v = true := by
  rw [exists_reaches, flags_eq]
  cases hs : s.reference with
  | some r => simp
  | none =>
    rw [Option.isSome_none, if_neg Bool.false_ne_true, ViewFlags.has_foldl_merge]
    have hparts : (∃ p ∈ s.parts, p.flags.has v = true) ↔
        ∃ p ∈ s.parts, ∃ t, p.Reaches t ∧ t.ownFlags.has v = true :=
      exists_congr fun p => and_congr_right fun _ => p.has_flags_iff
    rw [hparts, eq_self, true_and]
termination_by sizeOf s
decreasing_by exact sizeOf_lt_of_mem_parts ‹_›

theorem readFlagged_iff : s.ReadFlagged ↔ s.flags.readOnly = true := by
  have h := s.has_flags_iff (v := .read)
  simp only [ViewFlags.has, ownFlags, decide_eq_true_eq] at h
  exact h.symm

theorem writeFlagged_iff : s.WriteFlagged ↔ s.flags.writeOnly = true := by
  have h := s.has_flags_iff (v := .write)
  simp only [ViewFlags.has, ownFlags, decide_eq_true_eq] at h
  exact h.symm

instance : Decidable s.ReadFlagged := decidable_of_iff _ readFlagged_iff.symm

instance : Decidable s.WriteFlagged := decidable_of_iff _ writeFlagged_iff.symm

instance : (v : View) → (s : Schema) → Decidable (VisibleIn v s)
  | .base, s => inferInstanceAs (Decidable (¬ s.ReadFlagged ∧ ¬ s.WriteFlagged))
  | .read, s => inferInstanceAs (Decidable (s.ReadFlagged ∨ ¬ s.WriteFlagged))
  | .write, s => inferInstanceAs (Decidable (s.WriteFlagged ∨ ¬ s.ReadFlagged))

theorem visible_read_or_write (s : Schema) : s.VisibleIn .read ∨ s.VisibleIn .write := by
  by_cases h : s.ReadFlagged
  · exact .inl (.inl h)
  · exact .inr (.inr h)

theorem VisibleIn.of_base (h : s.VisibleIn .base) (v : View) : s.VisibleIn v := by
  cases v with
  | base => exact h
  | read => exact .inr h.2
  | write => exact .inr h.1

end Schema

theorem Setting.keeps_iff {c : Setting} (hsplit : c.options.mergeViews = false) (view : View)
    (s : Schema) : c.keeps view s = true ↔ s.VisibleIn view := by
  rw [keeps]
  rw [hsplit, Bool.false_or]
  cases view <;> simp [Schema.VisibleIn, Schema.readFlagged_iff, Schema.writeFlagged_iff]

end ClientGen
