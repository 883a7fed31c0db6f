import ClientGen.Proofs.Run
import ClientGen.ViewFlags
import Mathlib.Logic.Relation

namespace ClientGen

namespace ViewFlags

/-- Whether something is told to be seen in a view only. -/
def has (f : ViewFlags) : View → Bool
  | .base => false
  | .read => f.readOnly
  | .write => f.writeOnly

@[simp] theorem has_base (f : ViewFlags) : f.has .base = false := rfl

@[simp] theorem has_empty (v : View) : has {} v = false := by
  cases v <;> rfl

@[simp] theorem has_merge (f g : ViewFlags) (v : View) :
    (f.merge g).has v = (f.has v || g.has v) := by
  cases v <;> rfl

theorem has_of_both {f : ViewFlags} (h : f.both = true) {v : View} (hv : v ≠ .base) :
    f.has v = true := by
  simp only [both, Bool.and_eq_true] at h
  cases v with
  | base => exact absurd rfl hv
  | read => exact h.1
  | write => exact h.2

end ViewFlags

namespace Setting

variable {c : Setting} {path : List String} {known known₁ known₂ : Dict ViewFlags} {v : View}

/-- Something of view `v` is found in a schema by a search that enters no reference on its path and
none that is known, for which its known flags count. -/
inductive Finds (c : Setting) (path : List String) (known : Dict ViewFlags) (v : View) :
    Schema → Prop where
  | own {s : Schema} (h : s.ownFlags.has v = true) : Finds c path known v s
  | part {s t : Schema} (hs : s.reference = none) (ht : t ∈ s.parts) (h : Finds c path known v t) :
      Finds c path known v s
  | known {s : Schema} {r : String} {f : ViewFlags} (hs : s.reference = some r) (hr : r ∉ path)
      (hf : known.get? r = some f) (h : f.has v = true) : Finds c path known v s
  | enter {s t : Schema} {r : String} (hs : s.reference = some r) (hr : r ∉ path)
      (hn : known.get? r = none) (ht : c.schema r = .ok t) (h : Finds c path known v t) :
      Finds c path known v s

def FindsBehind (c : Setting) (path : List String) (known : Dict ViewFlags) (v : View)
    (r : String) : Prop :=
  r ∉ path ∧ ((∃ f, known.get? r = some f ∧ f.has v = true) ∨
    known.get? r = none ∧ ∃ t, c.schema r = .ok t ∧ c.Finds path known v t)

theorem Finds.not_base {s : Schema} : ¬ c.Finds path known .base s := by
  intro h
  induction h with
  | own h => cases h
  | part _ _ _ ih => exact ih
  | known _ _ _ h => cases h
  | enter _ _ _ _ _ ih => exact ih

theorem finds_iff_of_reference {s : Schema} {r : String} (hs : s.reference = some r) :
    c.Finds path known v s ↔ s.ownFlags.has v = true ∨ c.FindsBehind path known v r := by
  constructor
  · intro h
    cases h with
    | own h => exact .inl h
    | part hs' => cases hs.symm.trans hs'
    | known hs' hr hf h =>
      cases hs.symm.trans hs'
      exact .inr ⟨hr, .inl ⟨_, hf, h⟩⟩
    | enter hs' hr hn ht h =>
      cases hs.symm.trans hs'
      exact .inr ⟨hr, .inr ⟨hn, _, ht, h⟩⟩
  · rintro (h | ⟨hr, ⟨f, hf, h⟩ | ⟨hn, t, ht, h⟩⟩)
    · exact .own h
    · exact .known hs hr hf h
    · exact .enter hs hr hn ht h

theorem finds_iff_of_no_reference {s : Schema} (hs : s.reference = none) :
    c.Finds path known v s ↔
      s.ownFlags.has v = true ∨ ∃ t ∈ s.parts, c.Finds path known v t := by
  constructor
  · intro h
    cases h with
    | own h => exact .inl h
    | part _ ht h => exact .inr ⟨_, ht, h⟩
    | known hs' => cases hs.symm.trans hs'
    | enter hs' => cases hs.symm.trans hs'
  · rintro (h | ⟨t, ht, h⟩)
    · exact .own h
    · exact .part hs ht h

theorem Finds.shorten {path' : List String} {s : Schema} (h : c.Finds path known v s)
    (hp : path' ⊆ path) : c.Finds path' known v s := by
  induction h with
  | own h => exact .own h
  | part hs ht _ ih => exact .part hs ht ih
  | known hs hr hf h => exact .known hs (fun hm => hr (hp hm)) hf h
  | enter hs hr hn ht _ ih => exact .enter hs (fun hm => hr (hp hm)) hn ht ih

/-- A way that comes back to a reference can start there anew. -/
theorem Finds.cut {s t : Schema} {r : String} (h : c.Finds path known v s)
    (hn : known.get? r = none) (ht : c.schema r = .ok t) :
    c.Finds (r :: path) known v s ∨ c.Finds (r :: path) known v t := by
  induction h with
  | own h => exact .inl (.own h)
  | part hs hm _ ih => exact ih.imp_left (.part hs hm)
  | @known s r' f hs hr hf h =>
    refine .inl (.known hs ?_ hf h)
    rintro (_ | hm)
    · cases hn.symm.trans hf
    · exact hr ‹_›
  | @enter s t' r' hs hr hn' ht' _ ih =>
    by_cases he : r' = r
    · subst r'
      cases ht.symm.trans ht'
      exact .inr (ih.elim id id)
    · exact ih.imp_left (.enter hs (by simp [he, hr]) hn' ht')

/-- What is known grows: no known flags change. -/
def KnownGrows (known known₁ : Dict ViewFlags) : Prop :=
  ∀ r f, known.get? r = some f → known₁.get? r = some f

/-- What a search that answers `f` may add: for a reference off its path flags that it was to find
there, while all that it was to find there is in its answer. -/
def KnownAdded (c : Setting) (path : List String) (known known₁ : Dict ViewFlags)
    (f : ViewFlags) : Prop :=
  ∀ r g, known.get? r = none → known₁.get? r = some g → ∃ t, c.schema r = .ok t ∧
    (∀ v, g.has v = true → c.Finds path known v t) ∧
    ∀ v, c.Finds path known v t → f.has v = true

/-- The answer `f` of a search for what `goal` says, and what is known before and after it. -/
structure Answer (c : Setting) (path : List String) (known known₁ : Dict ViewFlags)
    (f : ViewFlags) (goal : View → Prop) : Prop where
  has_iff : ∀ v, f.has v = true ↔ goal v
  grows : KnownGrows known known₁
  added : c.KnownAdded path known known₁ f

/-- With more known, what was to be found is found, unless it is in the answer already. -/
theorem Finds.later {s : Schema} {f : ViewFlags} (h : c.Finds path known v s)
    (hg : KnownGrows known known₁) (ha : c.KnownAdded path known known₁ f) :
    f.has v = true ∨ c.Finds path known₁ v s := by
  induction h with
  | own h => exact .inr (.own h)
  | part hs ht _ ih => exact ih.imp_right (.part hs ht)
  | known hs hr hf h => exact .inr (.known hs hr (hg _ _ hf) h)
  | @enter s t r hs hr hn ht h ih =>
    cases hk : known₁.get? r with
    | none => exact ih.imp_right (.enter hs hr hk ht)
    | some g =>
      obtain ⟨t', ht', -, hc⟩ := ha r g hn hk
      cases ht.symm.trans ht'
      exact .inl (hc v h)

theorem Finds.earlier {s : Schema} {f : ViewFlags} (h : c.Finds path known₁ v s)
    (hg : KnownGrows known known₁) (ha : c.KnownAdded path known known₁ f) :
    c.Finds path known v s := by
  induction h with
  | own h => exact .own h
  | part hs ht _ ih => exact .part hs ht ih
  | @known s r g hs hr hf h =>
    cases hk : known.get? r with
    | none =>
      obtain ⟨t, ht, hsound, -⟩ := ha r g hk hf
      exact .enter hs hr hk ht (hsound v h)
    | some g' =>
      cases (hg r g' hk).symm.trans hf
      exact .known hs hr hk h
  | @enter s t r hs hr hn ht _ ih =>
    cases hk : known.get? r with
    | none => exact .enter hs hr hk ht ih
    | some g => cases (hg r g hk).symm.trans hn

end Setting

end ClientGen
