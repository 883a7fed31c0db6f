import ClientGen.Proofs.TypeText.NullText
import ClientGen.Proofs.Typing.EnumValues

namespace ClientGen

open Run TypeScript

namespace TypeScript.TypeExpr

variable {level : Nat} {t : TypeExpr}

/-- The members of a union; any other type is the only one. -/
def direct : TypeExpr → List TypeExpr
  | .union members => members
  | type => [type]

def readsNull (level : Nat) (t : TypeExpr) : Bool := t.text level = "null"

theorem isKeyword_iff {word : Keyword} : t.isKeyword word = true ↔ t = .keyword word := by
  refine ⟨eq_of_isKeyword, ?_⟩
  rintro rfl
  simp [isKeyword]

theorem direct_orKeyword (t : TypeExpr) : (t.orKeyword .null).direct =
    if t.direct.any (isKeyword .null) then t.direct else t.direct ++ [.keyword .null] := by
  cases t with
  | union members => rfl
  | keyword word => cases word <;> rfl
  | _ => rfl

theorem orKeyword_eq_or (t : TypeExpr) :
    t.orKeyword .null = .keyword .null ∨ ∃ members, t.orKeyword .null = .union members := by
  cases t with
  | keyword word =>
    cases word with
    | null => exact .inl rfl
    | _ => exact .inr ⟨_, rfl⟩
  | _ => exact .inr ⟨_, rfl⟩

theorem names_of_direct {u : TypeExpr} (hu : u ∈ t.direct) : ∀ n ∈ u.names, n ∈ t.names := by
  intro n hn
  cases t with
  | union members => exact mem_namesOf.2 ⟨u, hu, hn⟩
  | _ => exact List.mem_singleton.1 hu ▸ hn

theorem eq_of_countP_eq_one {α : Type} {p : α → Bool} {l : List α} {a b : α}
    (h : l.countP p = 1) (ha : a ∈ l) (hpa : p a = true) (hb : b ∈ l) (hpb : p b = true) :
    b = a := by
  obtain ⟨before, after, rfl⟩ := List.append_of_mem ha
  rw [List.countP_append, List.countP_cons_of_pos hpa] at h
  have hbefore : before.countP p = 0 := by omega
  have hafter : after.countP p = 0 := by omega
  rcases List.mem_append.1 hb with hb | hb
  · exact absurd hpb (List.countP_eq_zero.1 hbefore b hb)
  · exact (List.mem_cons.1 hb).resolve_right fun hb => List.countP_eq_zero.1 hafter b hb hpb

/-- The other members stay, and just one member is written `null` if there was at most one before
and this one is the keyword. -/
theorem readsNull_orKeyword (level : Nat) (t : TypeExpr) :
    (t.orKeyword .null).direct.filter (fun m => !m.readsNull level) =
        t.direct.filter (fun m => !m.readsNull level) ∧
      ((t.orKeyword .null).direct.countP (readsNull level) = 1 ↔
        t.direct.countP (readsNull level) ≤ 1 ∧
          ∀ m ∈ t.direct, m.readsNull level = true → m = .keyword .null) := by
  have hnull : readsNull level (.keyword .null) = true := by
    rw [readsNull, text]
    rfl
  rw [direct_orKeyword]
  -- Where the keyword is a member nothing is added, and else it is one more that is written so.
  split
  · next hthere =>
    obtain ⟨k, hk, hword⟩ := List.any_eq_true.1 hthere
    obtain rfl := isKeyword_iff.1 hword
    have hpos := List.countP_pos_iff.2 ⟨_, hk, hnull⟩
    refine ⟨rfl, fun hone => ⟨hone.le, ?_⟩, fun hboth => Nat.le_antisymm hboth.1 hpos⟩
    exact fun m hm hreads => eq_of_countP_eq_one hone hk hnull hm hreads
  · next hnone =>
    have hnot : ∀ m ∈ t.direct, m ≠ .keyword .null := by
      rintro m hm rfl
      exact hnone (List.any_eq_true.2 ⟨_, hm, isKeyword_iff.2 rfl⟩)
    rw [List.filter_append, List.countP_append, List.filter_singleton, List.countP_singleton,
      hnull, if_pos rfl, Nat.add_eq_right, List.countP_eq_zero]
    refine ⟨List.append_nil _, fun hzero => ⟨?_, ?_⟩, fun hboth m hm hreads => ?_⟩
    · exact (List.countP_eq_zero.2 hzero).le.trans (Nat.zero_le 1)
    · exact fun m hm hreads => absurd hreads (hzero m hm)
    · exact hnot m hm (hboth.2 m hm hreads)

end TypeScript.TypeExpr

namespace Setting

variable {c : Setting} {n : Nat} {place : Place} {x : Schema} {s s' : Session} {t' : TypeExpr}

theorem kindType_not_nullable (typing : Typing) :
    c.kindType typing place { x with nullable := none } = c.kindType typing place x :=
  rfl

theorem typing_nullable_gives (hnull : x.nullable = some true) :
    (c.typingWithin n place x).Gives s t' s' ↔
      ∃ t, (c.typingWithin n place { x with nullable := none }).Gives s t s' ∧
        t.orKeyword .null = t' := by
  cases n with
  | zero => exact iff_of_false not_gives_throw fun ⟨_, h, _⟩ => not_gives_throw h
  | succ n =>
    have hwith : x.isNullable = true := by
      rw [Schema.isNullable, hnull]
      rfl
    have hwithout : Schema.isNullable { x with nullable := none } = false := rfl
    simp only [typingWithin, typingStep, kindType_not_nullable, hwith, hwithout, if_true,
      Bool.false_eq_true, if_false, gives_bind, gives_pure]
    constructor
    · rintro ⟨t, _, ht, rfl, rfl⟩
      exact ⟨t, ⟨t, _, ht, rfl, rfl⟩, rfl⟩
    · rintro ⟨_, ⟨t, _, ht, rfl, rfl⟩, rfl⟩
      exact ⟨t, _, ht, rfl, rfl⟩

/-- The type of a nullable schema is `null` or a union. Beside what is written `null` it has the
members that the schema has without being nullable. It has one member that is written so just if
there was at most one, and that one the keyword: not a literal, and not null alone in a union or an
intersection. -/
theorem typing_null_once (hs : s.Reached) (hn : n ≤ c.depth) (hnull : x.nullable = some true)
    (h : (c.typingWithin n place x).Gives s t' s') (level : Nat) : ∃ t,
      (c.typingWithin n place { x with nullable := none }).Gives s t s' ∧
      (t' = .keyword .null ∨ ∃ members, t' = .union members) ∧
      t'.direct.filter (fun m => !m.readsNull level) =
        t.direct.filter (fun m => !m.readsNull level) ∧
      (t'.direct.countP (TypeExpr.readsNull level) = 1 ↔
        t.direct.countP (TypeExpr.readsNull level) ≤ 1 ∧
          ∀ m ∈ t.direct, m.readsNull level = true → m = .keyword .null) ∧
      ∀ m ∈ t.direct, m.readsNull level = true ↔
        m.core = .keyword .null ∨ m.core = .literal .null := by
  obtain ⟨t, ht, rfl⟩ := (typing_nullable_gives hnull).1 h
  obtain ⟨hothers, hone⟩ := TypeExpr.readsNull_orKeyword level t
  refine ⟨t, ht, t.orKeyword_eq_or, hothers, hone, fun m hm => ?_⟩
  rw [TypeExpr.readsNull, decide_eq_true_eq]
  exact text_typing_eq_null_iff hs hn ht (TypeExpr.names_of_direct hm)

def textOrNull : Schema := { oneOf := some [.ofType "string", .ofType "null"] }

theorem typing_null_once_textOrNull : ∃ t t',
    ((ofDocument .null {} {}).typing {} textOrNull).Gives {} t {} ∧
    ((ofDocument .null {} {}).typing {} { textOrNull with nullable := some true }).Gives {} t' {} ∧
    t.direct.countP (TypeExpr.readsNull 0) = 1 ∧ t'.direct.countP (TypeExpr.readsNull 0) = 1 := by
  have hplain : ((ofDocument .null {} {}).typing {} textOrNull).Gives {}
      (.union [.keyword .string, .keyword .null]) {} := by
    rfl
  have hgives : ((ofDocument .null {} {}).typing {} { textOrNull with nullable := some true }).Gives
      {} (.union [.keyword .string, .keyword .null]) {} := by
    rfl
  obtain ⟨t, ht, -, -, hone, -⟩ := typing_null_once .start (Nat.le_refl _) rfl hgives 0
  obtain ⟨rfl, -⟩ := hplain.unique ht
  have hcount : List.countP (TypeExpr.readsNull 0) [.keyword .string, .keyword .null] = 1 := by
    decide
  refine ⟨_, _, hplain, hgives, hcount, hone.2 ⟨hcount.le, ?_⟩⟩
  simp [TypeExpr.direct, TypeExpr.readsNull, TypeExpr.text, Keyword.text]

def redOrNull : Schema := { values := some [.str "red", .null] }

/-- The null among the values is a literal, and gets the keyword beside it. -/
theorem redOrNull_twice : ∃ t t',
    ((ofDocument .null {} {}).typing {} redOrNull).Gives {} t {} ∧
    ((ofDocument .null {} {}).typing {} { redOrNull with nullable := some true }).Gives {} t' {} ∧
    t.direct.countP (TypeExpr.readsNull 0) = 1 ∧ t'.text 0 = "\"red\" | null | null" ∧
    t'.direct.countP (TypeExpr.readsNull 0) = 2 := by
  refine ⟨.union [.literal (.text "red"), .literal .null],
    .union [.literal (.text "red"), .literal .null, .keyword .null], rfl, rfl, ?_, ?_, ?_⟩
  all_goals decide

end Setting

end ClientGen
