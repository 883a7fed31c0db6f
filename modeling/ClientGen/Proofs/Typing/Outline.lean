import ClientGen.Proofs.Typing.Pieces
import Mathlib.Data.List.Forall2

namespace ClientGen

open TypeScript

namespace TypeScript.TypeExpr

variable {t t' : TypeExpr} {ts ts' : List TypeExpr}

/-- Both types are unions of as many members, with the same keywords among them, or neither is one
and they are the same keyword, if any. -/
def SameOutline : TypeExpr → TypeExpr → Prop
  | .union ts, t' => ∃ ts', t' = .union ts' ∧ ts.length = ts'.length ∧
      ∀ word, ts.any (isKeyword word) = ts'.any (isKeyword word)
  | t, t' => (∀ ts', t' ≠ .union ts') ∧ ∀ word, t.isKeyword word = t'.isKeyword word

theorem SameOutline.refl (t : TypeExpr) : SameOutline t t := by
  cases t with
  | union ts => exact ⟨ts, rfl, rfl, fun _ => rfl⟩
  | _ => exact ⟨nofun, fun _ => rfl⟩

theorem SameOutline.isKeyword (h : SameOutline t t') (word : Keyword) :
    t.isKeyword word = t'.isKeyword word := by
  cases t with
  | union ts =>
    obtain ⟨ts', rfl, -⟩ := h
    rfl
  | _ => exact h.2 word

theorem any_isKeyword (h : List.Forall₂ SameOutline ts ts') (word : Keyword) :
    ts.any (isKeyword word) = ts'.any (isKeyword word) := by
  induction h with
  | nil => rfl
  | cons h _ ih => rw [List.any_cons, List.any_cons, h.isKeyword, ih]

theorem SameOutline.union (h : List.Forall₂ SameOutline ts ts') :
    SameOutline (.union ts) (.union ts') :=
  ⟨ts', rfl, h.length_eq, any_isKeyword h⟩

theorem orKeyword_of_ne_union (h : ∀ ts, t ≠ .union ts) (word : Keyword) :
    t.orKeyword word = if t.isKeyword word then t else .union [t, .keyword word] := by
  cases t with
  | union ts => exact absurd rfl (h ts)
  | _ => rfl

theorem SameOutline.cases (h : SameOutline t t') :
    (∃ ts ts', t = .union ts ∧ t' = .union ts' ∧ ts.length = ts'.length ∧
      ∀ word, ts.any (TypeExpr.isKeyword word) = ts'.any (TypeExpr.isKeyword word)) ∨
    (∀ ts, t ≠ .union ts) ∧ ∀ ts, t' ≠ .union ts := by
  cases t with
  | union ts =>
    obtain ⟨ts', rfl, hlen, hany⟩ := h
    exact .inl ⟨ts, ts', rfl, rfl, hlen, hany⟩
  | _ => exact .inr ⟨nofun, h.1⟩

theorem SameOutline.orKeyword (h : SameOutline t t') (word : Keyword) :
    SameOutline (t.orKeyword word) (t'.orKeyword word) := by
  obtain ⟨ts, ts', rfl, rfl, hlen, hany⟩ | ⟨ht, ht'⟩ := h.cases
  · simp only [TypeExpr.orKeyword, hany word]
    split
    · exact h
    · refine ⟨_, rfl, by simp [hlen], fun other => ?_⟩
      rw [List.any_append, List.any_append, hany other]
  · rw [orKeyword_of_ne_union ht, orKeyword_of_ne_union ht', h.isKeyword word]
    split
    · exact h
    · exact .union (.cons h (.cons (.refl _) .nil))

theorem SameOutline.orKeyword_inj (h : SameOutline t t') {word : Keyword}
    (he : t.orKeyword word = t'.orKeyword word) : t = t' := by
  obtain ⟨ts, ts', rfl, rfl, hlen, hany⟩ | ⟨ht, ht'⟩ := h.cases
  · simp only [TypeExpr.orKeyword, hany word, union.injEq] at he
    split at he
    · rw [he]
    · rw [List.append_cancel_right he]
  · rw [orKeyword_of_ne_union ht, orKeyword_of_ne_union ht', h.isKeyword word] at he
    split at he
    · exact he
    · cases he
      rfl

end TypeScript.TypeExpr

namespace Setting

open TypeExpr

variable {c : Setting} {x : Schema} {t t' : TypeExpr} {ts ts' : List TypeExpr}

theorem zipWith_inj {α β : Type} {f : α → TypeExpr → β}
    (hf : ∀ a {t t'}, SameOutline t t' → f a t = f a t' → t = t')
    (h : List.Forall₂ SameOutline ts ts') {l : List α} (hlen : ts.length = l.length)
    (he : List.zipWith f l ts = List.zipWith f l ts') : ts = ts' := by
  induction h generalizing l with
  | nil => rfl
  | @cons t t' ts ts' h _ ih =>
    obtain ⟨a, l, rfl⟩ : ∃ a l', l = a :: l' := List.exists_cons_of_length_eq_add_one hlen.symm
    simp only [List.zipWith_cons_cons, List.cons.injEq] at he
    rw [hf a h he.1, ih (Nat.succ.inj hlen) he.2]

theorem member_inj {property : String × Schema} (h : SameOutline t t')
    (he : c.member x property t = c.member x property t') : t = t' := by
  simp only [member, Member.mk.injEq, true_and, and_true] at he
  split at he
  · exact h.orKeyword_inj he
  · exact he

/-- An intersection of branches, each after its tags, and what comes after them. -/
theorem branches_inj {α : Type} {f : α → List TypeExpr} {l : List α} {own own' : List TypeExpr}
    (hlen : ts.length = l.length) (hlen' : ts'.length = l.length)
    (he : (List.zipWith (fun a t => f a ++ [t]) l ts).flatten ++ own =
      (List.zipWith (fun a t => f a ++ [t]) l ts').flatten ++ own') : ts = ts' ∧ own = own' := by
  induction l generalizing ts ts' with
  | nil =>
    obtain rfl := List.eq_nil_of_length_eq_zero hlen
    obtain rfl := List.eq_nil_of_length_eq_zero hlen'
    exact ⟨rfl, he⟩
  | cons a l ih =>
    obtain ⟨t, ts, rfl⟩ := List.exists_cons_of_length_eq_add_one hlen
    obtain ⟨t', ts', rfl⟩ := List.exists_cons_of_length_eq_add_one hlen'
    simp only [List.zipWith_cons_cons, List.flatten_cons, List.append_assoc, List.cons_append,
      List.nil_append] at he
    obtain ⟨rfl, hrest⟩ := List.cons.inj (List.append_cancel_left he)
    obtain ⟨rfl, rfl⟩ := ih (Nat.succ.inj hlen) (Nat.succ.inj hlen') hrest
    exact ⟨rfl, rfl⟩

theorem headD_outline (h : List.Forall₂ SameOutline ts ts') (hlen : ts.length ≤ 1)
    (d : TypeExpr) :
    SameOutline (ts.headD d) (ts'.headD d) ∧ (ts.headD d = ts'.headD d → ts = ts') := by
  cases h with
  | nil => exact ⟨.refl d, fun _ => rfl⟩
  | cons ht htail =>
    obtain rfl := List.eq_nil_of_length_eq_zero (Nat.le_zero.1 (Nat.le_of_succ_le_succ hlen))
    cases htail
    exact ⟨ht, fun he => congrArg (fun t => [t]) he⟩

theorem eq_of_length_eq_zero (h : List.Forall₂ SameOutline ts ts') (hlen : ts.length = 0) :
    ts = ts' := by
  obtain rfl := List.eq_nil_of_length_eq_zero hlen
  cases h
  rfl

/-- The types put together from types of the same outline have the same outline, and they are the
same only if the pieces are. A keyword is added to a type unless it is there, and types of one
outline do not become the same by that. -/
theorem assemble_outline {name component : Option String}
    (hlen : ts.length = (c.pieces name component x).length)
    (h : List.Forall₂ SameOutline ts ts') :
    SameOutline (c.assemble component x ts) (c.assemble component x ts') ∧
      (c.assemble component x ts = c.assemble component x ts' → ts = ts') := by
  have hlen' := h.length_eq ▸ hlen
  unfold assemble
  cases hk : x.kind with
  | reference target =>
    simp only [pieces, hk] at hlen
    exact headD_outline h (Nat.le_of_eq hlen) _
  | oneOf variants d =>
    cases d with
    | none => exact ⟨.union h, union.inj⟩
    | some d =>
      simp only [pieces, hk, List.length_map] at hlen hlen'
      have hany (ts : List TypeExpr) (word : Keyword) : (List.zipWith (fun v t =>
          intersection [variantTag d v, t]) variants ts).any (isKeyword word) = false := by
        refine List.any_eq_false.2 fun t ht => ?_
        obtain ⟨_, -, _, -, rfl⟩ := mem_zipWith ht
        exact Bool.false_ne_true
      refine ⟨⟨_, rfl, by simp [hlen, hlen'], fun word => by rw [hany, hany]⟩, fun he => ?_⟩
      refine zipWith_inj (fun v t t' _ he => ?_) h hlen (union.inj he)
      simpa using he
  | anyOf variants => exact ⟨.union h, union.inj⟩
  | discriminated d =>
    simp only [pieces, hk] at hlen
    dsimp only
    cases hs : c.subtypes { component } d with
    | nil =>
      simp only [hs] at hlen
      exact headD_outline h (Nat.le_of_eq hlen) _
    | cons r rest => exact ⟨.union h, union.inj⟩
  | allOf branches =>
    refine ⟨⟨nofun, fun _ => rfl⟩, fun he => ?_⟩
    simp only [pieces, hk, List.length_append, List.length_map] at hlen hlen'
    obtain ⟨htake, hdrop⟩ := branches_inj (by simp; omega) (by simp; omega) (intersection.inj he)
    rw [← List.take_append_drop branches.length ts, htake, hdrop, List.take_append_drop]
  | array items =>
    simp only [pieces, hk] at hlen
    exact ⟨⟨nofun, fun _ => rfl⟩,
      fun he => (headD_outline h (Nat.le_of_eq hlen) _).2 (array.inj he)⟩
  | tuple items => exact ⟨⟨nofun, fun _ => rfl⟩, tuple.inj⟩
  | object =>
    simp only [pieces, hk] at hlen
    exact headD_outline h (Nat.le_of_eq hlen) _
  | enum values =>
    refine headD_outline h ?_ _
    simp only [pieces, hk] at hlen
    rw [hlen]
    split
    · split <;> simp
    · simp
  | _ =>
    simp only [pieces, hk] at hlen
    exact ⟨.refl _, fun _ => eq_of_length_eq_zero h hlen⟩

theorem index_inj (hlen : ts.length = (indexPieces x).length)
    (h : List.Forall₂ SameOutline ts ts') (he : c.index x ts = c.index x ts') : ts = ts' := by
  unfold indexPieces at hlen
  unfold index at he
  split at hlen
  · next part hx =>
    cases h with
    | nil => rfl
    | cons ht htail =>
      obtain rfl := List.eq_nil_of_length_eq_zero (Nat.succ.inj hlen)
      cases htail
      simp only [hx, List.head?_cons, Option.some.injEq] at he
      rw [he]
  · exact eq_of_length_eq_zero h hlen

end Setting

end ClientGen
