import ClientGen.Endpoint.OfOperation
import ClientGen.Proofs.Endpoint.QueryCalls

namespace ClientGen

namespace Parameter

variable {shared own ps : List Parameter} {p q : Parameter} {k : String × Location} {i : Nat}

/-- What tells parameters of an operation apart. -/
def key (p : Parameter) : String × Location := (p.name, p.location)

theorem sameKey_iff : p.sameKey q = true ↔ p.key = q.key := by
  rw [sameKey, Bool.and_eq_true, decide_eq_true_eq, decide_eq_true_eq, key, key, Prod.mk.injEq]

theorem keys_override (p : Parameter) (ps : List Parameter) : (p.override ps).map key =
    if p.key ∈ ps.map key then ps.map key else ps.map key ++ [p.key] := by
  induction ps with
  | nil => rfl
  | cons q ps ih =>
    rw [override]
    by_cases h : q.key = p.key
    · rw [if_pos (sameKey_iff.2 h)]
      simp [h]
    · rw [if_neg fun hs => h (sameKey_iff.1 hs), List.map_cons, ih]
      have hmem : p.key ∈ (q :: ps).map key ↔ p.key ∈ ps.map key := by
        simp [Ne.symm h]
      simp only [hmem]
      split <;> rfl

theorem find?_override : (p.override ps).find? (·.key = k) =
    if p.key = k then some p else ps.find? (·.key = k) := by
  induction ps with
  | nil => simp [override]
  | cons q ps ih =>
    rw [override]
    by_cases h : q.key = p.key
    · rw [if_pos (sameKey_iff.2 h), List.find?_cons, List.find?_cons, h]
      by_cases hk : p.key = k <;> simp [hk]
    · rw [if_neg fun hs => h (sameKey_iff.1 hs), List.find?_cons, ih, List.find?_cons]
      by_cases hk : p.key = k
      · have hq : q.key ≠ k := fun hq => h (hq.trans hk.symm)
        simp [hk, hq]
      · simp [hk]

theorem getElem?_override (hi : ps[i]? = some q) (hq : q.key ≠ p.key) :
    (p.override ps)[i]? = some q := by
  induction ps generalizing i with
  | nil => cases hi
  | cons r ps ih =>
    rw [override]
    split
    · next hs =>
      cases i with
      | zero =>
        cases hi
        exact absurd (sameKey_iff.1 hs) hq
      | succ i => exact hi
    · cases i with
      | zero => exact hi
      | succ i => exact ih hi

theorem overrideAll_concat (shared own : List Parameter) (p : Parameter) :
    overrideAll shared (own ++ [p]) = p.override (overrideAll shared own) := by
  rw [overrideAll, List.foldl_append]
  rfl

theorem getElem?_overrideAll (hi : shared[i]? = some p) (hp : p.key ∉ own.map key) :
    (overrideAll shared own)[i]? = some p := by
  induction own using List.reverseRecOn with
  | nil => exact hi
  | append_singleton own q ih =>
    rw [List.map_append, List.mem_append, not_or] at hp
    rw [overrideAll_concat]
    exact getElem?_override (ih hp.1) fun hq => hp.2 (by simp [hq])

theorem find?_overrideAll (shared own : List Parameter) :
    (overrideAll shared own).find? (·.key = k) =
      (own.reverse.find? (·.key = k)).or (shared.find? (·.key = k)) := by
  induction own using List.reverseRecOn with
  | nil => rfl
  | append_singleton own p ih =>
    rw [overrideAll_concat, find?_override, ih, List.reverse_append, List.reverse_singleton,
      List.singleton_append, List.find?_cons]
    by_cases hp : p.key = k <;> simp [hp]

theorem keys_overrideAll (shared own : List Parameter) : (overrideAll shared own).map key =
    shared.map key ++ ((own.map key).filter fun k => k ∉ shared.map key).eraseDups := by
  induction own using List.reverseRecOn with
  | nil => simp [overrideAll]
  | append_singleton own p ih =>
    rw [overrideAll_concat, keys_override, ih, List.map_append, List.filter_append,
      List.map_singleton]
    by_cases hshared : p.key ∈ shared.map key
    · rw [List.filter_cons_of_neg (by simpa using hshared), List.filter_nil, List.append_nil,
        if_pos (List.mem_append_left _ hshared)]
    · rw [List.filter_cons_of_pos (by simpa using hshared), List.filter_nil,
        eraseDups_append_singleton]
      simp only [List.mem_append, List.mem_eraseDups, hshared, false_or]
      split
      · rfl
      · rw [List.append_assoc]

/-- The merged parameters have those of a path in their places, as far as the operation does not
override them, and behind them what the operation has of its own. -/
structure Overrides (shared own merged : List Parameter) : Prop where
  kept : ∀ (i : Nat) p, shared[i]? = some p → p.key ∉ own.map key → merged[i]? = some p
  last : ∀ before p after, own = before ++ p :: after → p.key ∉ after.map key →
    merged.find? (·.key = p.key) = some p
  keys : merged.map key =
    shared.map key ++ ((own.map key).filter fun k => k ∉ shared.map key).eraseDups
  distinct : (shared.map key).Nodup → (merged.map key).Nodup

theorem overrides_overrideAll (shared own : List Parameter) :
    Overrides shared own (overrideAll shared own) where
  kept _ _ := getElem?_overrideAll
  last before p after h hafter := by
    have hnone : after.reverse.find? (·.key = p.key) = none := by
      rw [List.find?_eq_none]
      intro q hq hk
      exact hafter (List.mem_map.2 ⟨q, List.mem_reverse.1 hq, of_decide_eq_true hk⟩)
    rw [find?_overrideAll, h, List.reverse_append, List.reverse_cons, List.append_assoc,
      List.find?_append, hnone]
    simp
  keys := keys_overrideAll shared own
  distinct h := by
    rw [keys_overrideAll, List.nodup_append]
    refine ⟨h, nodup_eraseDups _, ?_⟩
    intro k hk k' hk' he
    subst he
    have hnew := (List.mem_filter.1 (List.mem_eraseDups.1 hk')).2
    exact of_decide_eq_true hnew hk

end Parameter

section FirstFailure

variable {α β ε : Type} {f : α → Except ε β} {l : List α} {bs : List β} {e : ε}

theorem mapM_eq_ok_of_forall₂ (h : List.Forall₂ (fun a b => f a = .ok b) l bs) :
    l.mapM f = .ok bs := by
  induction h with
  | nil => rfl
  | cons ha _ ih =>
    rw [List.mapM_cons, ha, ih]
    rfl

theorem mapM_eq_error_iff : l.mapM f = .error e ↔ ∃ before a after,
    l = before ++ a :: after ∧ (∀ b ∈ before, ∃ v, f b = .ok v) ∧ f a = .error e := by
  induction l with
  | nil =>
    constructor
    · intro h
      cases h
    · rintro ⟨before, a, after, h, -⟩
      cases before <;> cases h
  | cons x l ih =>
    rw [List.mapM_cons]
    cases hx : f x with
    | error e' =>
      constructor
      · intro h
        cases h
        exact ⟨[], x, l, rfl, fun _ hb => absurd hb List.not_mem_nil, hx⟩
      · rintro ⟨before, a, after, h, hbefore, ha⟩
        cases before with
        | nil =>
          cases h
          cases hx.symm.trans ha
          rfl
        | cons y before =>
          obtain ⟨v, hv⟩ := hbefore y List.mem_cons_self
          cases h
          cases hx.symm.trans hv
    | ok v =>
      have hrest : (do let bs ← l.mapM f; pure (v :: bs)) = .error e ↔ l.mapM f = .error e := by
        cases l.mapM f <;> simp [bind, Except.bind, pure, Except.pure]
      refine hrest.trans (ih.trans ⟨?_, ?_⟩)
      · rintro ⟨before, a, after, rfl, hbefore, ha⟩
        exact ⟨x :: before, a, after, rfl, List.forall_mem_cons.2 ⟨⟨v, hx⟩, hbefore⟩, ha⟩
      · rintro ⟨before, a, after, h, hbefore, ha⟩
        cases before with
        | nil =>
          cases h
          cases hx.symm.trans ha
        | cons y before =>
          cases h
          exact ⟨before, a, after, rfl, (List.forall_mem_cons.1 hbefore).2, ha⟩

end FirstFailure

namespace Setting

variable {c : Setting} {item : PathItem} {op : Operation}

/-- The two levels fail as one list does, the path's parameters first. -/
theorem parametersOf_eq_error_iff {e : Failure} : c.parametersOf item op = .error e ↔
    (item.parameters ++ op.parameters).mapM (Referable.resolve c.document Parameter.read) =
      .error e := by
  rw [parametersOf, List.mapM_append]
  cases item.parameters.mapM (Referable.resolve c.document Parameter.read) with
  | error e' => rfl
  | ok shared =>
    cases op.parameters.mapM (Referable.resolve c.document Parameter.read) with
    | error e' => rfl
    | ok own => simp [bind, Except.bind, pure, Except.pure]

/-- An operation overrides the parameters of its path, and loses none that it does not name. -/
theorem parametersOf_overrides (c : Setting) (item : PathItem) (op : Operation) :
    (∀ shared own,
      List.Forall₂ (fun r p => r.resolve c.document Parameter.read = .ok p)
        item.parameters shared →
      List.Forall₂ (fun r p => r.resolve c.document Parameter.read = .ok p) op.parameters own →
      ∃ merged, c.parametersOf item op = .ok merged ∧ Parameter.Overrides shared own merged) ∧
    ∀ e, c.parametersOf item op = .error e ↔ ∃ before r after,
      item.parameters ++ op.parameters = before ++ r :: after ∧
      (∀ q ∈ before, ∃ p, q.resolve c.document Parameter.read = .ok p) ∧
      r.resolve c.document Parameter.read = .error e := by
  constructor
  · intro shared own hshared hown
    refine ⟨Parameter.overrideAll shared own, ?_, Parameter.overrides_overrideAll shared own⟩
    rw [parametersOf, mapM_eq_ok_of_forall₂ hshared, mapM_eq_ok_of_forall₂ hown]
    rfl
  · intro e
    exact parametersOf_eq_error_iff.trans mapM_eq_error_iff

theorem parametersOf_overrides_id :
    let id (location : Location) (required : Bool) : Parameter :=
      { name := "id", location, required }
    let page : Parameter := { name := "page", location := .query }
    let item : PathItem := { parameters := [.inline (id .path true), .inline (id .query false)] }
    let op : Operation :=
      { parameters := [.inline page, .inline (id .query false), .inline (id .query true)] }
    ∃ merged, (ofDocument .null {} {}).parametersOf item op = .ok merged ∧
      Parameter.Overrides [id .path true, id .query false]
        [page, id .query false, id .query true] merged ∧
      merged.map Parameter.key = [("id", .path), ("id", .query), ("page", .query)] := by
  intro id page item op
  obtain ⟨hmerged, -⟩ := parametersOf_overrides (ofDocument .null {} {}) item op
  obtain ⟨merged, hgives, hoverrides⟩ := hmerged _ _
    (.cons rfl (.cons rfl .nil)) (.cons rfl (.cons rfl (.cons rfl .nil)))
  exact ⟨merged, hgives, hoverrides, hoverrides.keys.trans (by decide)⟩

end Setting

end ClientGen
