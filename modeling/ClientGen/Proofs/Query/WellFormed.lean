import ClientGen.Proofs.Query.Spread

namespace ClientGen.Query

variable {s : String} {parts : List String} {v : Json} {fields : Dict Json}

/-- A fragment that is empty, or pieces with an equals sign that are joined by ampersands. -/
def WellFormed (s : String) : Prop := ∀ p ∈ pieces s, p ≠ [] ∧ '=' ∈ p

/-- An empty text, or a question mark before a fragment that is not empty. -/
def WellFormedQuery (s : String) : Prop :=
  s = "" ∨ ∃ rest, s = "?" ++ rest ∧ rest ≠ "" ∧ WellFormed rest

/-- A value that has an empty text: an array without items, or an object that has no member but one
with an empty text. -/
inductive Blank : Json → Prop where
  | items : Blank (.arr [])
  | none {fields : Dict Json} (h : defined fields = []) : Blank (.obj fields)
  | only {fields : Dict Json} {m : String × Json} (h : defined fields = [m]) (hm : Blank m.2) :
      Blank (.obj fields)

/-- Somewhere in a value a member with an empty text has other members beside it. -/
inductive Gapped : Json → Prop where
  | here {fields : Dict Json} {m : String × Json} (hseveral : 1 < (defined fields).length)
      (hm : m ∈ defined fields) (hblank : Blank m.2) : Gapped (.obj fields)
  | inside {fields : Dict Json} {m : String × Json} (hm : m ∈ defined fields)
      (h : Gapped m.2) : Gapped (.obj fields)

theorem Blank.not_gapped (h : Blank v) : ¬ Gapped v := by
  induction h with
  | items => exact nofun
  | none hnone =>
    intro hgapped
    cases hgapped with
    | here _ hm _ => exact List.not_mem_nil (hnone ▸ hm)
    | inside hm _ => exact List.not_mem_nil (hnone ▸ hm)
  | only hone _ ih =>
    intro hgapped
    cases hgapped with
    | here hseveral _ _ =>
      rw [hone] at hseveral
      exact Nat.lt_irrefl 1 hseveral
    | inside hm hgapped =>
      rw [hone] at hm
      exact ih (List.mem_singleton.1 hm ▸ hgapped)

theorem not_gapped_obj_iff (hne : ¬ Blank (.obj fields)) :
    ¬ Gapped (.obj fields) ↔ ∀ m ∈ defined fields, ¬ Blank m.2 ∧ ¬ Gapped m.2 := by
  constructor
  · intro h m hm
    refine ⟨fun hblank => ?_, fun hgapped => h (.inside hm hgapped)⟩
    by_cases hseveral : 1 < (defined fields).length
    · exact h (.here hseveral hm hblank)
    · have hpos : 0 < (defined fields).length := List.length_pos_of_mem hm
      have hlength : (defined fields).length = 1 := by omega
      obtain ⟨m', hone⟩ := List.length_eq_one_iff.1 hlength
      rw [hone, List.mem_singleton] at hm
      exact hne (.only hone (hm ▸ hblank))
  · rintro h hgapped
    cases hgapped with
    | here _ hm hblank => exact (h _ hm).1 hblank
    | inside hm hgapped => exact (h _ hm).2 hgapped

theorem wellFormed_empty : WellFormed "" := by
  intro p hp
  rw [pieces_eq_nil_iff.2 rfl] at hp
  cases hp

theorem wellFormed_of_pieces {key value : List Char} (h : pieces s = [key ++ '=' :: value]) :
    WellFormed s := by
  intro p hp
  rw [h] at hp
  rw [List.mem_singleton.1 hp]
  exact ⟨List.append_ne_nil_of_right_ne_nil _ (List.cons_ne_nil _ _),
    List.mem_append_right _ List.mem_cons_self⟩

/-- A joined text is well-formed just if it is empty, or its parts are well-formed and none of them
is empty. -/
theorem wellFormed_join_iff :
    WellFormed (join parts) ↔ join parts = "" ∨ ∀ p ∈ parts, p ≠ "" ∧ WellFormed p := by
  by_cases he : join parts = ""
  · rw [he]
    exact ⟨fun _ => .inl rfl, fun _ => wellFormed_empty⟩
  · have hne : parts ≠ [] := fun hnil => he (join_eq_empty_iff.2 (.inl hnil))
    rw [or_iff_right he, WellFormed, pieces_of_ne he, splitAt_join hne]
    constructor
    · intro h p hp
      have hparts : ∀ q ∈ Text.splitAt '&' p.toList, q ≠ [] ∧ '=' ∈ q :=
        fun q hq => h q (List.mem_flatMap.2 ⟨p, hp, hq⟩)
      have hpne : p ≠ "" := by
        rintro rfl
        exact (hparts [] (List.mem_singleton_self _)).1 rfl
      rw [WellFormed, pieces_of_ne hpne]
      exact ⟨hpne, hparts⟩
    · intro h q hq
      obtain ⟨p, hp, hq⟩ := List.mem_flatMap.1 hq
      obtain ⟨hpne, hwell⟩ := h p hp
      rw [← pieces_of_ne hpne] at hq
      exact hwell q hq

section Spreads

variable {κ : Type} {write : κ → Json → String} {key : κ → String} {below : κ → String → κ} {k : κ}

/-- Just the blank values have an empty text. -/
theorem Spreads.eq_empty_iff (h : Spreads write key below) : write k v = "" ↔ Blank v := by
  induction v using Json.children_induction generalizing k with
  | step v ih =>
    cases v with
    | arr values =>
      rw [h.array, join_eq_empty_iff]
      constructor
      · rintro (he | he)
        · rw [List.map_eq_nil_iff.1 he]
          exact .items
        · obtain ⟨v, rfl, hv⟩ := List.map_eq_singleton_iff.1 he
          exact absurd hv (piece_ne _ v)
      · rintro ⟨⟩
        exact .inl rfl
    | obj fields =>
      rw [h.object, join_eq_empty_iff, List.map_eq_nil_iff, List.map_eq_singleton_iff]
      constructor
      · rintro (hnone | ⟨m, hm, he⟩)
        · exact .none hnone
        · have hmem : m ∈ defined fields := hm ▸ List.mem_singleton_self m
          exact .only hm ((ih m.2 (mem_children_of_mem_defined hmem)).1 he)
      · intro hblank
        cases hblank with
        | none hnone => exact .inl hnone
        | @only _ m hm hblank =>
          have hmem : m ∈ defined fields := hm ▸ List.mem_singleton_self m
          exact .inr ⟨m, hm, (ih m.2 (mem_children_of_mem_defined hmem)).2 hblank⟩
    | _ =>
      rw [h.scalar _ _ rfl]
      exact ⟨fun he => absurd he (piece_ne _ _), nofun⟩

/-- The text of a value is well-formed just if the value has no gap. -/
theorem Spreads.wellFormed_iff (h : Spreads write key below) :
    WellFormed (write k v) ↔ ¬ Gapped v := by
  induction v using Json.children_induction generalizing k with
  | step v ih =>
    cases v with
    | arr values =>
      refine ⟨fun _ => nofun, fun _ => ?_⟩
      rw [h.array, wellFormed_join_iff, List.forall_mem_map]
      exact .inr fun v _ => ⟨piece_ne _ v, wellFormed_of_pieces (pieces_piece (h.plain k) v)⟩
    | obj fields =>
      have hmember : ∀ m ∈ defined fields, (write (below k m.1) m.2 ≠ "" ∧
          WellFormed (write (below k m.1) m.2)) ↔ ¬ Blank m.2 ∧ ¬ Gapped m.2 := by
        intro m hm
        rw [ne_eq, h.eq_empty_iff, ih m.2 (mem_children_of_mem_defined hm)]
      -- The join says something of the members only if it is not empty itself.
      by_cases hblank : Blank (.obj fields)
      · rw [h.eq_empty_iff.2 hblank]
        exact ⟨fun _ => hblank.not_gapped, fun _ => wellFormed_empty⟩
      · have hne : write k (.obj fields) ≠ "" := fun he => hblank (h.eq_empty_iff.1 he)
        rw [h.object] at hne
        rw [not_gapped_obj_iff hblank, h.object, wellFormed_join_iff, or_iff_right hne,
          List.forall_mem_map]
        exact forall₂_congr hmember
    | _ => exact ⟨fun _ => nofun, fun _ => wellFormed_of_pieces (h.pieces_scalar rfl)⟩

end Spreads

def spreads : QueryStyle → Bool
  | .explode | .deep => true
  | _ => false

theorem wellFormed_encodeOne_iff (style : QueryStyle) (name : String) (v : Json) :
    WellFormed (encodeOne style name v) ↔ (spreads style = true → ¬ Gapped v) := by
  have hname : '&' ∉ (component name).toList := not_mem_component (by decide) name
  cases style with
  | explode =>
    have hiff : WellFormed (exploded name v) ↔ ¬ Gapped v := spreads_exploded.wellFormed_iff
    simpa only [encodeOne, spreads, forall_true_left] using hiff
  | deep =>
    have hiff : WellFormed (deep (KeyPath.key { name }) v) ↔ ¬ Gapped v :=
      spreads_deep.wellFormed_iff
    rw [KeyPath.key_name] at hiff
    simpa only [encodeOne, spreads, forall_true_left] using hiff
  | form | space | pipe =>
    exact iff_of_true (wellFormed_of_pieces (pieces_delimited (by decide) name v)) nofun
  | json => exact iff_of_true (wellFormed_of_pieces (pieces_piece hname (.str v.text))) nofun

theorem wellFormed_of_pieces_eq {α : Type} {l : List α} {f : α → String}
    (h : pieces s = l.flatMap fun a => pieces (f a)) :
    WellFormed s ↔ ∀ a ∈ l, WellFormed (f a) := by
  rw [WellFormed, h]
  exact List.forall_mem_flatMap

theorem wellFormed_fragment (style : QueryStyle) (values : List (String × Json)) :
    WellFormed (fragment style values) ↔
      ∀ e ∈ defined values, spreads style = true → ¬ Gapped e.2 := by
  rw [wellFormed_of_pieces_eq (pieces_fragment style values)]
  exact forall₂_congr fun e _ => wellFormed_encodeOne_iff style e.1 e.2

theorem wellFormedQuery_text (fragments : List String) :
    WellFormedQuery (text fragments) ↔ ∀ f ∈ fragments, WellFormed f := by
  rw [← wellFormed_of_pieces_eq (pieces_join_filter fragments), text]
  generalize join (fragments.filter fun f => !f.isEmpty) = joined
  by_cases he : joined = ""
  · subst he
    exact iff_of_true (.inl rfl) wellFormed_empty
  · have hne : "?" ++ joined ≠ "" := fun h => he (String.append_eq_empty_iff.1 h).2
    rw [if_neg (by simpa using he), WellFormedQuery, or_iff_right hne]
    constructor
    · rintro ⟨rest, heq, -, hrest⟩
      rwa [(String.append_right_inj _).1 heq]
    · exact fun h => ⟨joined, rfl, he, h⟩

/-- A fragment is well-formed just if its style does not spread values or none of them has a gap. A
query string is well-formed just if all its fragments are. -/
theorem query_wellFormed_iff (style : QueryStyle) (values : List (String × Json))
    (questions : List (QueryStyle × List (String × Json))) :
    (WellFormed (fragment style values) ↔
      ∀ e ∈ defined values, spreads style = true → ¬ Gapped e.2) ∧
    (WellFormedQuery (text (questions.map fun q => fragment q.1 q.2)) ↔
      ∀ q ∈ questions, ∀ e ∈ defined q.2, spreads q.1 = true → ¬ Gapped e.2) := by
  refine ⟨wellFormed_fragment style values, ?_⟩
  rw [wellFormedQuery_text, List.forall_mem_map]
  exact forall₂_congr fun q _ => wellFormed_fragment q.1 q.2

/-- An empty array beside another member leaves an ampersand in front. -/
theorem fragment_tags :
    fragment .deep [("q", .obj [("tags", .arr []), ("size", .int 1)])] = "&q[size]=1" ∧
    ¬ WellFormed "&q[size]=1" ∧
    ¬ WellFormedQuery (text ["&q[size]=1"]) := by
  have hpieces : [] ∈ pieces "&q[size]=1" := by decide
  have hfragment : ¬ WellFormed "&q[size]=1" := fun h => (h [] hpieces).1 rfl
  refine ⟨by decide +kernel, hfragment, fun h => hfragment ?_⟩
  exact (wellFormedQuery_text _).1 h _ (List.mem_singleton_self _)

end ClientGen.Query
