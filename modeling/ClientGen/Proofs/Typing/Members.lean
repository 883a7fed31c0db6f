import ClientGen.TypeScript.Module

namespace ClientGen.TypeScript.TypeExpr

variable {types : List TypeDecl} {p property value : String} {t : TypeExpr} {ts : List TypeExpr}
  {members : List (Member TypeExpr)} {index : Option TypeExpr} {word : Keyword}

/-- A property is a member of a type or of a type that it is made of. What a name stands for is
looked up among declarations. -/
inductive Has (types : List TypeDecl) (p : String) : TypeExpr → Prop where
  | member {members : List (Member TypeExpr)} {index : Option TypeExpr} {m : Member TypeExpr}
      (hm : m ∈ members) (hp : m.name = p) : Has types p (.object members index)
  | alternative {ts : List TypeExpr} {t : TypeExpr} (ht : t ∈ ts) (h : Has types p t) :
      Has types p (.union ts)
  | part {ts : List TypeExpr} {t : TypeExpr} (ht : t ∈ ts) (h : Has types p t) :
      Has types p (.intersection ts)
  | named {d : TypeDecl} {t : TypeExpr} (hd : d ∈ types) (hb : d.body = .alias t)
      (h : Has types p t) : Has types p (.named d.name)

theorem has_object :
    Has types p (.object members index) ↔ p ∈ members.map Member.name := by
  constructor
  · intro h
    cases h with
    | member hm hp => exact List.mem_map.2 ⟨_, hm, hp⟩
  · intro h
    obtain ⟨m, hm, hp⟩ := List.mem_map.1 h
    exact .member hm hp

theorem has_union : Has types p (.union ts) ↔ ∃ t ∈ ts, Has types p t := by
  constructor
  · intro h
    cases h with
    | alternative ht h => exact ⟨_, ht, h⟩
  · rintro ⟨t, ht, h⟩
    exact .alternative ht h

theorem has_intersection : Has types p (.intersection ts) ↔ ∃ t ∈ ts, Has types p t := by
  constructor
  · intro h
    cases h with
    | part ht h => exact ⟨_, ht, h⟩
  · rintro ⟨t, ht, h⟩
    exact .part ht h

theorem has_tag : Has types p (.tag property value) ↔ property = p := by
  rw [tag, has_object, List.map_singleton, List.mem_singleton]
  exact eq_comm

theorem not_has_keyword : ¬ Has types p (.keyword word) := nofun

mutual

/-- The members that a type has itself, and not behind a name. -/
def ownMembers : TypeExpr → List String
  | .object members _ => members.map Member.name
  | .union ts | .intersection ts => ownMembersOf ts
  | _ => []

def ownMembersOf : List TypeExpr → List String
  | [] => []
  | t :: ts => ownMembers t ++ ownMembersOf ts

end

mutual

def furtherNames : TypeExpr → List String
  | .named name => [name]
  | .union ts | .intersection ts => furtherNamesOf ts
  | _ => []

def furtherNamesOf : List TypeExpr → List String
  | [] => []
  | t :: ts => furtherNames t ++ furtherNamesOf ts

end

/-- The property is a member that the type has itself, or one of a type behind its names. -/
def Shows (types : List TypeDecl) (p : String) (t : TypeExpr) : Prop :=
  p ∈ t.ownMembers ∨
    ∃ d ∈ types, d.name ∈ t.furtherNames ∧ ∃ t', d.body = .alias t' ∧ Has types p t'

theorem mem_ownMembersOf : p ∈ ownMembersOf ts ↔ ∃ t ∈ ts, p ∈ t.ownMembers := by
  induction ts with
  | nil => simp [ownMembersOf]
  | cons t ts ih => simp [ownMembersOf, ih]

theorem mem_furtherNamesOf : p ∈ furtherNamesOf ts ↔ ∃ t ∈ ts, p ∈ t.furtherNames := by
  induction ts with
  | nil => simp [furtherNamesOf]
  | cons t ts ih => simp [furtherNamesOf, ih]

theorem shows_union : Shows types p (.union ts) ↔ ∃ t ∈ ts, Shows types p t := by
  unfold Shows
  simp only [ownMembers, furtherNames, mem_ownMembersOf, mem_furtherNamesOf]
  constructor
  · rintro (⟨t, ht, hown⟩ | ⟨d, hd, ⟨t, ht, hn⟩, hfurther⟩)
    · exact ⟨t, ht, .inl hown⟩
    · exact ⟨t, ht, .inr ⟨d, hd, hn, hfurther⟩⟩
  · rintro ⟨t, ht, hown | ⟨d, hd, hn, hfurther⟩⟩
    · exact .inl ⟨t, ht, hown⟩
    · exact .inr ⟨d, hd, ⟨t, ht, hn⟩, hfurther⟩

theorem shows_intersection : Shows types p (.intersection ts) ↔ ∃ t ∈ ts, Shows types p t :=
  shows_union

mutual

theorem Shows.has : ∀ {t : TypeExpr}, Shows types p t → Has types p t
  | .object .., h => has_object.2 (h.resolve_right fun ⟨_, _, hn, _⟩ => List.not_mem_nil hn)
  | .union _, h => has_union.2 (exists_has_of_shows (shows_union.1 h))
  | .intersection _, h => has_intersection.2 (exists_has_of_shows (shows_intersection.1 h))
  | .named _, h => by
    obtain ⟨d, hd, hn, t', hb, h⟩ := h.resolve_left List.not_mem_nil
    rw [← List.mem_singleton.1 hn]
    exact .named hd hb h
  | .keyword _, h | .array _, h | .tuple _, h | .literal _, h => by
    rcases h with h | ⟨_, _, h, _⟩ <;> cases h

theorem exists_has_of_shows : ∀ {ts : List TypeExpr}, (∃ t ∈ ts, Shows types p t) →
    ∃ t ∈ ts, Has types p t
  | [], h => by
    obtain ⟨_, ht, -⟩ := h
    cases ht
  | t :: ts, h => by
    obtain ⟨u, hu, h⟩ := h
    rcases List.mem_cons.1 hu with he | hu
    · exact ⟨t, List.mem_cons_self, Shows.has (he ▸ h)⟩
    · obtain ⟨t', ht', h⟩ := exists_has_of_shows ⟨u, hu, h⟩
      exact ⟨t', List.mem_cons_of_mem t ht', h⟩

end

/-- A type has its own members and those of the types behind its names. -/
theorem has_iff_shows : Has types p t ↔ Shows types p t := by
  constructor
  · intro h
    induction h with
    | member hm hp => exact .inl (List.mem_map.2 ⟨_, hm, hp⟩)
    | alternative ht _ ih => exact shows_union.2 ⟨_, ht, ih⟩
    | part ht _ ih => exact shows_intersection.2 ⟨_, ht, ih⟩
    | named hd hb h _ => exact .inr ⟨_, hd, List.mem_singleton_self _, _, hb, h⟩
  · exact Shows.has

theorem not_has_of_ownMembers (hnames : t.furtherNames = []) (hp : p ∉ t.ownMembers) :
    ¬ Has types p t := by
  intro h
  rcases has_iff_shows.1 h with hown | ⟨d, -, hd, -⟩
  · exact hp hown
  · rw [hnames] at hd
    cases hd

def declares (types : List TypeDecl) (name p : String) : Bool :=
  types.any fun d => d.name = name && match d.body with
    | .alias t => p ∈ t.ownMembers
    | .enum _ => false

theorem has_of_declares {name : String} (hname : name ∈ t.furtherNames)
    (h : declares types name p = true) : Has types p t := by
  obtain ⟨d, hd, h⟩ := List.any_eq_true.1 h
  obtain ⟨hd', hbody⟩ := Bool.and_eq_true_iff.1 h
  obtain rfl := of_decide_eq_true hd'
  split at hbody
  · next t' ht' =>
    have hmember : Has types p t' := Shows.has (.inl (of_decide_eq_true hbody))
    exact Shows.has (.inr ⟨d, hd, hname, t', ht', hmember⟩)
  · cases hbody

theorem has_orKeyword : Has types p (t.orKeyword word) ↔ Has types p t := by
  have hadded (ts : List TypeExpr) :
      (∃ t ∈ ts ++ [.keyword word], Has types p t) ↔ ∃ t ∈ ts, Has types p t := by
    simp [or_and_right, exists_or, not_has_keyword]
  cases t with
  | union ts =>
    rw [orKeyword, has_union, has_union]
    split
    · rfl
    · exact hadded ts
  | _ =>
    simp only [orKeyword]
    split
    · rfl
    · rw [has_union]
      simpa using hadded [_]

end ClientGen.TypeScript.TypeExpr
