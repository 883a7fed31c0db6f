import ClientGen.Proofs.Json.Parts

namespace ClientGen

open Json (Part Reader)

namespace Schema

variable {n m : Nat} {r : String} {s t x : Schema} {j k : Json}

/-- The schemas that the object of a schema is made of: its properties, one apart, and what the
members besides are like. -/
def objectParts (skip : Option String) (s : Schema) : List Schema :=
  ((s.properties.getD []).filter fun property => skip ≠ some property.1).map Prod.snd ++
    match s.additional with
    | some (.like part) => [part]
    | _ => []

def inside (s : Schema) : List Schema :=
  s.objectParts none ++ s.items.toList ++ s.tupleItems.getD [] ++ s.oneOf.getD [] ++
    s.anyOf.getD [] ++ s.allOf.getD []

/-- Whether a schema is nested less than `n` deep. -/
def Nested : Nat → Schema → Prop
  | 0, _ => False
  | n + 1, s => ∀ t ∈ s.inside, Nested n t

/-- The reference is one of the schema or of a schema inside it. -/
inductive Mentions (r : String) : Schema → Prop where
  | reference {s : Schema} (h : s.reference = some r) : Mentions r s
  | mapped {s : Schema} {d : Discriminator} (hd : s.discriminator = some d)
      (h : r ∈ Dict.values (d.mapping.getD [])) : Mentions r s
  | inside {s t : Schema} (ht : t ∈ s.inside) (h : Mentions r t) : Mentions r s

theorem mem_objectParts {skip : Option String} :
    t ∈ s.objectParts skip ↔
      (∃ name, (name, t) ∈ s.properties.getD [] ∧ skip ≠ some name) ∨
        s.additional = some (.like t) := by
  unfold objectParts
  rw [List.mem_append]
  refine or_congr ?_ ?_
  · simp
  · split
    · next part hp => simp [hp, eq_comm]
    · next hp =>
      constructor
      · intro h
        cases h
      · intro h
        exact absurd h (hp t)

theorem objectParts_subset_inside (skip : Option String) : s.objectParts skip ⊆ s.inside := by
  intro t ht
  have hnone : t ∈ s.objectParts none := by
    rw [mem_objectParts] at ht ⊢
    exact ht.imp_left fun ⟨name, hname, _⟩ => ⟨name, hname, nofun⟩
  simp only [inside, List.mem_append]
  tauto

theorem mem_inside :
    t ∈ s.inside ↔ t ∈ s.objectParts none ∨ s.items = some t ∨ t ∈ s.tupleItems.getD [] ∨
      t ∈ s.oneOf.getD [] ∨ t ∈ s.anyOf.getD [] ∨ t ∈ s.allOf.getD [] := by
  simp only [inside, List.mem_append, Option.mem_toList, or_assoc]

theorem sizeOf_lt_of_mem_inside (h : t ∈ s.inside) : sizeOf t < sizeOf s := by
  have listed {l : Option (List Schema)} (h : t ∈ l.getD []) : sizeOf t < sizeOf l := by
    cases l with
    | none => cases h
    | some l =>
      have hlt : sizeOf t < sizeOf l := List.sizeOf_lt_of_mem h
      rw [Option.some.sizeOf_spec]
      omega
  have named {l : Option (List (String × Schema))} {name : String} (h : (name, t) ∈ l.getD []) :
      sizeOf t < sizeOf l := by
    cases l with
    | none => cases h
    | some l =>
      have hlt : sizeOf (name, t) < sizeOf l := List.sizeOf_lt_of_mem h
      rw [Prod.mk.sizeOf_spec] at hlt
      rw [Option.some.sizeOf_spec]
      omega
  rw [mem_inside, mem_objectParts] at h
  cases s
  dsimp only at h
  rw [Schema.mk.sizeOf_spec]
  rcases h with (⟨name, h, -⟩ | h) | h | h | h | h | h
  · have := named h
    omega
  · rw [h, Option.some.sizeOf_spec, Additional.like.sizeOf_spec]
    omega
  · rw [h, Option.some.sizeOf_spec]
    omega
  all_goals
    have := listed h
    omega

theorem Nested.pos (h : s.Nested n) : 0 < n := by
  cases n with
  | zero => cases h
  | succ n => exact Nat.succ_pos n

theorem Nested.inside (h : s.Nested n) (ht : t ∈ s.inside) : t.Nested (n - 1) := by
  cases n with
  | zero => cases h
  | succ n => exact h t ht

theorem Nested.mono (h : s.Nested n) (hm : n ≤ m) : s.Nested m := by
  induction n generalizing s m with
  | zero => cases h
  | succ n ih =>
    obtain ⟨m, rfl⟩ : ∃ k, m = k + 1 := ⟨m - 1, by omega⟩
    exact fun t ht => ih (h t ht) (Nat.le_of_succ_le_succ hm)

/-- Every schema is nested to some depth and mentions only so many references. -/
theorem exists_bounds (s : Schema) :
    ∃ (n : Nat) (refs : List String), s.Nested n ∧ ∀ r, s.Mentions r → r ∈ refs := by
  -- Bounds for each schema of a list add up to common ones.
  have common (l : List Schema) (h : ∀ t ∈ l, ∃ (n : Nat) (refs : List String),
      t.Nested n ∧ ∀ r, t.Mentions r → r ∈ refs) : ∃ (n : Nat) (refs : List String),
        ∀ t ∈ l, t.Nested n ∧ ∀ r, t.Mentions r → r ∈ refs := by
    induction l with
    | nil => exact ⟨0, [], fun t ht => absurd ht List.not_mem_nil⟩
    | cons t l ih =>
      obtain ⟨n, refs, hn, hrefs⟩ := h t List.mem_cons_self
      obtain ⟨n', refs', hl⟩ := ih fun t ht => h t (List.mem_cons_of_mem _ ht)
      refine ⟨n + n', refs ++ refs', List.forall_mem_cons.2 ⟨⟨hn.mono (by omega), ?_⟩, ?_⟩⟩
      · exact fun r hr => List.mem_append_left _ (hrefs r hr)
      · intro t ht
        obtain ⟨hn, hrefs⟩ := hl t ht
        exact ⟨hn.mono (by omega), fun r hr => List.mem_append_right _ (hrefs r hr)⟩
  obtain ⟨n, refs, hl⟩ := common s.inside fun t _ => t.exists_bounds
  refine ⟨n + 1, s.reference.toList ++
    Dict.values ((s.discriminator.bind Discriminator.mapping).getD []) ++ refs,
    fun t ht => (hl t ht).1, fun r hr => ?_⟩
  simp only [List.mem_append, Option.mem_toList]
  cases hr with
  | reference h => exact .inl (.inl h)
  | mapped hd h =>
    rw [hd]
    exact .inl (.inr h)
  | inside ht h => exact .inr ((hl _ ht).2 r h)
termination_by sizeOf s
decreasing_by exact sizeOf_lt_of_mem_inside ‹_›

theorem exists_record (h : readWithin (n + 1) j = some x) : ∃ r, j.record? 22 = some r ∧
    r.optional 0 "$ref" Reader.text = some x.reference ∧
    r.optional 5 "properties" (Reader.dict (readWithin n)) = some x.properties ∧
    r.optional 7 "additionalProperties"
      (Reader.either (Reader.truth.map .allowed) ((readWithin n).map .like)) = some x.additional ∧
    r.optional 8 "items" (readWithin n) = some x.items ∧
    r.optional 9 "prefixItems" (Reader.list (readWithin n)) = some x.tupleItems ∧
    r.optional 12 "oneOf" (Reader.list (readWithin n)) = some x.oneOf ∧
    r.optional 13 "anyOf" (Reader.list (readWithin n)) = some x.anyOf ∧
    r.optional 14 "allOf" (Reader.list (readWithin n)) = some x.allOf ∧
    r.optional 15 "discriminator" Discriminator.read = some x.discriminator := by
  obtain ⟨r, hr, h⟩ := Option.bind_eq_some_iff.1 h
  obtain ⟨reference, href, h⟩ := Option.bind_eq_some_iff.1 h
  obtain ⟨_, -, h⟩ := Option.bind_eq_some_iff.1 h
  obtain ⟨_, -, h⟩ := Option.bind_eq_some_iff.1 h
  obtain ⟨_, -, h⟩ := Option.bind_eq_some_iff.1 h
  obtain ⟨_, -, h⟩ := Option.bind_eq_some_iff.1 h
  obtain ⟨properties, hproperties, h⟩ := Option.bind_eq_some_iff.1 h
  obtain ⟨_, -, h⟩ := Option.bind_eq_some_iff.1 h
  obtain ⟨additional, hadditional, h⟩ := Option.bind_eq_some_iff.1 h
  obtain ⟨items, hitems, h⟩ := Option.bind_eq_some_iff.1 h
  obtain ⟨tupleItems, htuple, h⟩ := Option.bind_eq_some_iff.1 h
  obtain ⟨_, -, h⟩ := Option.bind_eq_some_iff.1 h
  obtain ⟨_, -, h⟩ := Option.bind_eq_some_iff.1 h
  obtain ⟨oneOf, hone, h⟩ := Option.bind_eq_some_iff.1 h
  obtain ⟨anyOf, hany, h⟩ := Option.bind_eq_some_iff.1 h
  obtain ⟨allOf, hall, h⟩ := Option.bind_eq_some_iff.1 h
  obtain ⟨discriminator, hd, h⟩ := Option.bind_eq_some_iff.1 h
  obtain ⟨_, -, h⟩ := Option.bind_eq_some_iff.1 h
  obtain ⟨_, -, h⟩ := Option.bind_eq_some_iff.1 h
  obtain ⟨_, -, h⟩ := Option.bind_eq_some_iff.1 h
  obtain ⟨_, -, h⟩ := Option.bind_eq_some_iff.1 h
  obtain ⟨_, -, h⟩ := Option.bind_eq_some_iff.1 h
  obtain ⟨_, -, h⟩ := Option.bind_eq_some_iff.1 h
  cases h
  exact ⟨r, hr, href, hproperties, hadditional, hitems, htuple, hone, hany, hall, hd⟩

/-- What stands inside a schema is read from a part of its tree. -/
theorem exists_part_of_mem_inside (h : readWithin (n + 1) j = some x) (ht : t ∈ x.inside) :
    ∃ k, Part k j ∧ readWithin n k = some t := by
  obtain ⟨r, hr, -, hproperties, hadditional, hitems, htuple, hone, hany, hall, -⟩ :=
    exists_record h
  have listed {place : Nat} {name : String} {l : Option (List Schema)}
      (hl : r.optional place name (Reader.list (readWithin n)) = some l) (ht : t ∈ l.getD []) :
      ∃ k, Part k j ∧ readWithin n k = some t := by
    cases l with
    | none => cases ht
    | some l =>
      obtain ⟨i, hi, hread⟩ := Json.Record.exists_of_optional hr hl
      obtain ⟨k, hk, ht⟩ := Reader.exists_of_list hread t ht
      exact ⟨k, (Part.child hk).trans (.child hi), ht⟩
  rw [mem_inside, mem_objectParts] at ht
  rcases ht with (⟨name, ht, -⟩ | ht) | ht | ht | ht | ht | ht
  · cases hp : x.properties with
    | none =>
      rw [hp] at ht
      cases ht
    | some properties =>
      rw [hp] at ht hproperties
      obtain ⟨i, hi, hread⟩ := Json.Record.exists_of_optional hr hproperties
      obtain ⟨k, hk, ht⟩ := Reader.exists_of_dict hread (name, t) ht
      exact ⟨k, (Part.child hk).trans (.child hi), ht⟩
  · rw [ht] at hadditional
    obtain ⟨k, hk, hread⟩ := Json.Record.exists_of_optional hr hadditional
    refine ⟨k, .child hk, ?_⟩
    unfold Reader.either Reader.map at hread
    split at hread
    · next a ha =>
      obtain ⟨b, -, hb⟩ := Option.map_eq_some_iff.1 ha
      cases hread
      cases hb
    · obtain ⟨part, hpart, he⟩ := Option.map_eq_some_iff.1 hread
      cases he
      exact hpart
  · rw [ht] at hitems
    obtain ⟨k, hk, hread⟩ := Json.Record.exists_of_optional hr hitems
    exact ⟨k, .child hk, hread⟩
  · exact listed htuple ht
  · exact listed hone ht
  · exact listed hany ht
  · exact listed hall ht

theorem mem_texts_of_reference (h : readWithin (n + 1) j = some x) (hr : x.reference = some r) :
    r ∈ j.texts := by
  obtain ⟨record, hrecord, href, -⟩ := exists_record h
  rw [hr] at href
  obtain ⟨k, hk, hread⟩ := Json.Record.exists_of_optional hrecord href
  exact Json.texts_subset_of_mem_children hk (Reader.mem_texts_of_text hread)

theorem mem_texts_of_mapped {d : Discriminator} (h : readWithin (n + 1) j = some x)
    (hd : x.discriminator = some d) (hr : r ∈ Dict.values (d.mapping.getD [])) : r ∈ j.texts := by
  obtain ⟨record, hrecord, -, -, -, -, -, -, -, -, hdisc⟩ := exists_record h
  rw [hd] at hdisc
  obtain ⟨k, hk, hread⟩ := Json.Record.exists_of_optional hrecord hdisc
  simp only [Discriminator.read, Option.bind_eq_bind, Option.bind_eq_some_iff, Option.pure_def,
    Option.some.injEq] at hread
  obtain ⟨record', hrecord', _, -, mapping, hmapping, rfl⟩ := hread
  cases mapping with
  | none => cases hr
  | some mapping =>
    obtain ⟨i, hi, hread⟩ := Json.Record.exists_of_optional hrecord' hmapping
    obtain ⟨e, he, rfl⟩ := List.mem_map.1 hr
    obtain ⟨text, htext, hread⟩ := Reader.exists_of_dict hread e he
    have hpart : Part text j := (Part.child htext).trans ((Part.child hi).trans (.child hk))
    exact hpart.texts_subset (Reader.mem_texts_of_text hread)

theorem nested_of_readWithin (h : readWithin n j = some x) : x.Nested n := by
  induction n generalizing j x with
  | zero => cases h
  | succ n ih =>
    intro t ht
    obtain ⟨k, -, hk⟩ := exists_part_of_mem_inside h ht
    exact ih hk

theorem mem_texts_of_mentions (h : readWithin n j = some x) (hr : x.Mentions r) : r ∈ j.texts := by
  induction hr generalizing n j with
  | reference hr =>
    cases n with
    | zero => cases h
    | succ n => exact mem_texts_of_reference h hr
  | mapped hd hr =>
    cases n with
    | zero => cases h
    | succ n => exact mem_texts_of_mapped h hd hr
  | inside ht _ ih =>
    cases n with
    | zero => cases h
    | succ n =>
      obtain ⟨k, hpart, hk⟩ := exists_part_of_mem_inside h ht
      exact hpart.texts_subset (ih hk)

end Schema

end ClientGen
