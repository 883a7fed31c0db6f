import ClientGen.Proofs.Json.Printed
import ClientGen.Proofs.TypeText.Reached
import ClientGen.Proofs.Typing.EnumDispatch

namespace ClientGen

open Run TypeScript

namespace TypeScript

def Literal.IsTextOrNumber : Literal → Prop
  | .text _ | .int _ | .number _ => True
  | .truth _ | .null => False

namespace TypeExpr

/-- Beside some declarations a type admits a scalar: as one of its literals, as `null`, or as the
value of a member of an enum that it refers to. -/
inductive Admits (decls : List TypeDecl) (l : Literal) : TypeExpr → Prop where
  | literal : Admits decls l (.literal l)
  | null (h : l = .null) : Admits decls l (.keyword .null)
  | member {d : TypeDecl} {members : List EnumMember} (hd : d ∈ decls)
      (hbody : d.body = .enum members) (hl : l ∈ members.map EnumMember.value) :
      Admits decls l (.named d.name)
  | union {ts : List TypeExpr} {t : TypeExpr} (ht : t ∈ ts) (h : Admits decls l t) :
      Admits decls l (.union ts)

variable {decls : List TypeDecl} {l : Literal} {t : TypeExpr} {ts : List TypeExpr}

theorem admits_union : Admits decls l (.union ts) ↔ ∃ t ∈ ts, Admits decls l t := by
  constructor
  · rintro ⟨⟩
    next t h ht => exact ⟨t, ht, h⟩
  · rintro ⟨t, ht, h⟩
    exact .union ht h

theorem admits_null : Admits decls l (.keyword .null) ↔ l = .null := by
  constructor
  · rintro ⟨⟩
    assumption
  · exact .null

theorem admits_named {n : String} : Admits decls l (.named n) ↔
    ∃ d ∈ decls, d.name = n ∧ ∃ members, d.body = .enum members ∧
      l ∈ members.map EnumMember.value := by
  constructor
  · rintro ⟨⟩
    next hd hbody hl => exact ⟨_, hd, rfl, _, hbody, hl⟩
  · rintro ⟨d, hd, rfl, members, hbody, hl⟩
    exact .member hd hbody hl

theorem admits_ofValues {values : List Json} :
    Admits decls l (.ofValues values) ↔ l ∈ values.filterMap Literal.ofJson? := by
  rw [ofValues, admits_union]
  constructor
  · rintro ⟨_, ht, h⟩
    obtain ⟨k, hk, rfl⟩ := List.mem_map.1 ht
    cases h
    exact hk
  · intro hl
    exact ⟨_, List.mem_map_of_mem hl, .literal⟩

theorem eq_of_isKeyword {word : Keyword} (h : t.isKeyword word = true) : t = .keyword word := by
  unfold isKeyword at h
  split at h
  · rw [of_decide_eq_true h]
  · cases h

theorem admits_orKeyword_null :
    Admits decls l (t.orKeyword .null) ↔ Admits decls l t ∨ l = .null := by
  have hthere (h : Admits decls .null t) : Admits decls l t ↔ Admits decls l t ∨ l = .null := by
    refine ⟨.inl, ?_⟩
    rintro (hl | rfl)
    · exact hl
    · exact h
  unfold orKeyword
  split
  · next ts =>
    split
    · next hany =>
      obtain ⟨t, ht, hnull⟩ := List.any_eq_true.1 hany
      cases eq_of_isKeyword hnull
      exact hthere (.union ht (.null rfl))
    · simp only [admits_union, List.mem_append, List.mem_singleton, or_and_right, exists_or,
        exists_eq_left, admits_null]
  · split
    · next hnull =>
      cases eq_of_isKeyword hnull
      exact hthere (.null rfl)
    · simp only [admits_union, List.mem_cons, List.not_mem_nil, or_false, exists_eq_or_imp,
        exists_eq_left, admits_null]

end TypeExpr

end TypeScript

theorem Schema.values_of_kind {x : Schema} {values : List Json} (hk : x.kind = .enum values) :
    x.values = some values := by
  unfold kind at hk
  split at hk
  case h_8 =>
    unfold plainKind at hk
    split at hk
    · cases hk
    · split at hk
      · next hvalues =>
        cases hk
        exact hvalues
      · split at hk
        · cases hk
        · split at hk <;> cases hk
  all_goals cases hk

namespace NamedEnum

variable {x : Schema} {name : String} {values : List Json} {l : Literal} {s s' : Session}
  {t : TypeExpr} {d : TypeDecl}

theorem isSome_basis? : (basis? l).isSome = true ↔ l.IsTextOrNumber := by
  cases l <;> simp [basis?, Literal.IsTextOrNumber]

theorem values_members (names : AliasNames) (l : List (String × Literal)) :
    (members names l).map EnumMember.value = l.map Prod.snd := by
  induction l generalizing names with
  | nil => rfl
  | cons entry rest ih =>
    rw [members, List.map_cons, List.map_cons, ih]

theorem mem_entries (given : List String) : l ∈ (entries values given).map Prod.snd ↔
    l ∈ values.filterMap Literal.ofJson? ∧ l.IsTextOrNumber := by
  induction values generalizing given with
  | nil => simp [entries]
  | cons v rest ih =>
    rw [entries]
    cases hv : Literal.ofJson? v with
    | none =>
      rw [List.filterMap_cons_none hv]
      exact ih _
    | some k =>
      rw [List.filterMap_cons_some hv, List.mem_cons, or_and_right, Option.bind_some]
      cases hk : basis? k with
      | none =>
        have hother : ¬ (l = k ∧ l.IsTextOrNumber) := by
          rintro ⟨rfl, hl⟩
          rw [← isSome_basis?, hk] at hl
          cases hl
        rw [or_iff_right hother]
        exact ih _
      | some basis =>
        have hmade : l = k ↔ l = k ∧ l.IsTextOrNumber := by
          rw [iff_self_and]
          rintro rfl
          rw [← isSome_basis?, hk]
          rfl
        rw [← hmade, ← ih]
        exact List.mem_cons

def Of (values : List Json) (d : TypeDecl) : Prop :=
  ∃ given, d.body = .enum (members {} (entries values given))

theorem Of.mem_values {ms : List EnumMember} (h : Of values d) (hbody : d.body = .enum ms) :
    l ∈ ms.map EnumMember.value ↔ l ∈ values.filterMap Literal.ofJson? ∧ l.IsTextOrNumber := by
  obtain ⟨given, hgiven⟩ := h
  cases hbody.symm.trans hgiven
  rw [values_members, mem_entries]

theorem Added.enums {n : String} (h : Added x name n s s')
    (gives : (declare x name).Gives s t s') : s'.enums = s.enums ++ [declaration x n] := by
  obtain ⟨-, -, hcount, -⟩ := declare_gives gives
  obtain ⟨s'', hgives, henums⟩ := declare_of_fresh hcount h.found
  obtain ⟨-, rfl⟩ := gives.unique hgives
  exact henums

end NamedEnum

namespace Session

variable {s s' : Session} {l : Literal}

/-- Every declared enum is that of some values, and every known one is declared with the values
that it is known by. -/
structure EnumsMade (s : Session) : Prop where
  declared : ∀ d ∈ s.enums, ∃ values, NamedEnum.Of values d
  known : ∀ proposed text n, s.enumNames.lookup proposed text = some n →
    ∃ d ∈ s.enums, d.name = n ∧ ∃ values, NamedEnum.Of values d ∧ Json.text (.arr values) = text

namespace EnumsMade

theorem of_eq (h : s.EnumsMade) (he : s'.enums = s.enums) (hn : s'.enumNames = s.enumNames) :
    s'.EnumsMade := by
  obtain ⟨hdeclared, hknown⟩ := h
  rw [← he] at hdeclared hknown
  rw [← hn] at hknown
  exact ⟨hdeclared, hknown⟩

theorem start : EnumsMade {} where
  declared _ hd := by cases hd
  known _ _ _ hn := by cases hn

theorem enum {x : Schema} {name : String} {t : TypeExpr} (h : s.EnumsMade)
    (gives : (NamedEnum.declare x name).Gives s t s') : s'.EnumsMade := by
  obtain ⟨n, -, -, -, rfl | hadd⟩ := NamedEnum.declare_gives gives
  · exact h
  · have henums := hadd.enums gives
    have hof : NamedEnum.Of (x.values.getD []) (NamedEnum.declaration x n) := ⟨_, rfl⟩
    constructor
    · intro d hd
      rw [henums, List.mem_append, List.mem_singleton] at hd
      rcases hd with hd | rfl
      · exact h.declared d hd
      · exact ⟨_, hof⟩
    · intro p text m hm
      rw [hadd.lookup] at hm
      rw [henums]
      split at hm
      · next hkey =>
        cases hm
        exact ⟨_, List.mem_append_right _ List.mem_cons_self, rfl, _, hof, hkey.2.symm⟩
      · obtain ⟨d, hd, hrest⟩ := h.known p text m hm
        exact ⟨d, List.mem_append_left _ hd, hrest⟩

/-- A known enum admits those of its values that make members. -/
theorem admits_iff {values : List Json} {proposed n : String} (h : s.EnumsMade)
    (hn : s.enumNames.lookup proposed (Json.text (.arr values)) = some n)
    (hl : l ∈ values.filterMap Literal.ofJson?) :
    (TypeExpr.named n).Admits s.enums l ↔ l.IsTextOrNumber := by
  rw [TypeExpr.admits_named]
  constructor
  · rintro ⟨d, hd, -, members, hbody, hmember⟩
    obtain ⟨values', hof⟩ := h.declared d hd
    exact ((hof.mem_values hbody).1 hmember).2
  · intro hmade
    obtain ⟨d, hd, rfl, values', hof, htext⟩ := h.known _ _ _ hn
    cases Json.text_injective htext
    obtain ⟨given, hbody⟩ := hof
    exact ⟨d, hd, rfl, _, hbody, (NamedEnum.Of.mem_values ⟨given, hbody⟩ hbody).2 ⟨hl, hmade⟩⟩

end EnumsMade

theorem invariant_enumsMade : Invariant EnumsMade where
  start := .start
  aside _ _ _ h := h.of_eq rfl rfl
  enum h gives := h.enum gives
  names h _ gives := by
    obtain ⟨⟨_, _, _, rfl⟩, -⟩ := Setting.takeNames_gives gives
    exact h.of_eq rfl rfl

end Session

namespace Setting

variable {c : Setting} {place : Place} {x : Schema} {values : List Json} {v : Json} {l : Literal}
  {s r s' : Session} {t : TypeExpr}

def namingEnums (c : Setting) (on : Bool) : Setting :=
  { c with options := { c.options with namedEnums := on } }

/-- An enum that is declared where enums are: it stands under a name, and is no boolean. -/
def GoesByName (place : Place) (x : Schema) : Prop :=
  place.name.isSome = true ∧ x.hasType "boolean" = false

theorem typing_enum_gives {n : Nat} (hk : x.kind = .enum values) :
    (c.typingWithin (n + 1) place x).Gives s t s' ↔ ∃ u, (c.enumType place x values).Gives s u s' ∧
      t = if x.isNullable then u.orKeyword .null else u := by
  rw [typingWithin, typingStep]
  simp only [kindType, hk, gives_bind, gives_pure]
  constructor
  · rintro ⟨u, _, hu, rfl, rfl⟩
    exact ⟨u, hu, rfl⟩
  · rintro ⟨u, hu, rfl⟩
    exact ⟨u, s', hu, rfl, rfl⟩

theorem admits_nullable {decls : List TypeDecl} {u : TypeExpr} :
    (if x.isNullable then u.orKeyword .null else u).Admits decls l ↔
      u.Admits decls l ∨ l = .null ∧ x.isNullable = true := by
  cases x.isNullable with
  | true => simp [TypeExpr.admits_orKeyword_null]
  | false => simp

theorem enumType_off (hplain : c.options.namedEnums = true → ¬ GoesByName place x) :
    c.enumType place x values = pure (.ofValues values) := by
  unfold enumType
  split
  · next name hname =>
    apply if_neg
    intro henum
    simp only [namesEnum, Bool.and_eq_true, Bool.not_eq_true'] at henum
    obtain ⟨⟨hon, -⟩, htype⟩ := henum
    exact hplain hon ⟨by rw [hname]; rfl, htype⟩
  · rfl

theorem enumType_on (hon : c.options.namedEnums = true) (hx : x.values = some values)
    (hname : GoesByName place x) :
    ∃ name, c.enumType place x values = NamedEnum.declare x name := by
  obtain ⟨hsome, htype⟩ := hname
  obtain ⟨name, hname⟩ := Option.isSome_iff_exists.1 hsome
  refine ⟨name, ?_⟩
  unfold enumType
  rw [hname]
  apply if_pos
  rw [namesEnum, hon, hx, htype]
  rfl

/-- As a union of literals an enum admits all its scalars. -/
theorem plain_admits {n : Nat} (hplain : c.options.namedEnums = true → ¬ GoesByName place x)
    (hk : x.kind = .enum values) (hl : l ∈ values.filterMap Literal.ofJson?) :
    ∃ t, (c.typingWithin (n + 1) place x).Gives s t s ∧ t.Admits s.enums l := by
  have hgives : (c.enumType place x values).Gives s (.ofValues values) s := by
    rw [enumType_off hplain, gives_pure]
    exact ⟨rfl, rfl⟩
  refine ⟨_, (typing_enum_gives hk).2 ⟨_, hgives, rfl⟩, ?_⟩
  rw [admits_nullable, TypeExpr.admits_ofValues]
  exact .inl hl

/-- Declared under a name an enum admits its texts and numbers, and null if it is nullable. -/
theorem named_admits {n : Nat} (hon : c.options.namedEnums = true) (hs : s.EnumsMade)
    (hname : GoesByName place x) (hk : x.kind = .enum values)
    (hl : l ∈ values.filterMap Literal.ofJson?)
    (h : (c.typingWithin (n + 1) place x).Gives s t s') :
    t.Admits s'.enums l ↔ l.IsTextOrNumber ∨ l = .null ∧ x.isNullable = true := by
  have hx := Schema.values_of_kind hk
  obtain ⟨name, htype⟩ := enumType_on hon hx hname
  obtain ⟨u, hu, rfl⟩ := (typing_enum_gives hk).1 h
  rw [htype] at hu
  have hs' := hs.enum hu
  obtain ⟨m, rfl, -, hlookup, -⟩ := NamedEnum.declare_gives hu
  rw [NamedEnum.valuesText, hx] at hlookup
  rw [admits_nullable, hs'.admits_iff hlookup hl]

theorem named_gives_iff {n : Nat} (hon : c.options.namedEnums = true)
    (hname : GoesByName place x) (hk : x.kind = .enum values) :
    (∃ t s', (c.typingWithin (n + 1) place x).Gives s t s') ↔ ¬ NamedEnum.Miscounted x := by
  obtain ⟨name, htype⟩ := enumType_on hon (Schema.values_of_kind hk) hname
  constructor
  · rintro ⟨t, s', h⟩
    obtain ⟨u, hu, -⟩ := (typing_enum_gives hk).1 h
    rw [htype] at hu
    obtain ⟨-, -, hcount, -⟩ := NamedEnum.declare_gives hu
    exact hcount
  · intro hcount
    obtain ⟨u, s', hu⟩ := NamedEnum.exists_declare hcount name s
    rw [← htype] at hu
    exact ⟨_, s', (typing_enum_gives hk).2 ⟨u, hu, rfl⟩⟩

/-- An enum admits the same values whether enums are declared under names or not, except that a
declared enum leaves out the truth values, and null unless its schema is nullable. -/
theorem typing_enum_admits {n : Nat} (hs : s.Reached) (hk : x.kind = .enum values)
    (hv : v ∈ values) (hl : Literal.ofJson? v = some l) :
    (∃ t, ((c.namingEnums false).typingWithin (n + 1) place x).Gives r t r ∧
      t.Admits r.enums l) ∧
    ((∃ t s', ((c.namingEnums true).typingWithin (n + 1) place x).Gives s t s') ↔
      ¬ (GoesByName place x ∧ NamedEnum.Miscounted x)) ∧
    ∀ t s', ((c.namingEnums true).typingWithin (n + 1) place x).Gives s t s' →
      (t.Admits s'.enums l ↔
        (GoesByName place x → l.IsTextOrNumber ∨ l = .null ∧ x.isNullable = true)) := by
  have hl : l ∈ values.filterMap Literal.ofJson? := List.mem_filterMap.2 ⟨v, hv, hl⟩
  refine ⟨plain_admits (fun hon => Bool.noConfusion hon) hk hl, ?_⟩
  by_cases hname : GoesByName place x
  · simp only [hname, true_and, true_implies]
    exact ⟨named_gives_iff rfl hname hk,
      fun t s' h => named_admits rfl (hs.holds Session.invariant_enumsMade) hname hk hl h⟩
  · obtain ⟨t, hgives, hadmits⟩ := plain_admits (c := c.namingEnums true) (n := n) (s := s)
      (fun _ => hname) hk hl
    simp only [hname, false_and, not_false_iff, iff_true, false_implies]
    refine ⟨⟨t, s, hgives⟩, ?_⟩
    intro t' s' h
    obtain ⟨rfl, rfl⟩ := hgives.unique h
    exact hadmits

def color : Schema := { values := some [.str "red", .null] }

theorem typing_enum_admits_color : ∃ t s',
    (((ofDocument .null {} {}).namingEnums true).typingWithin 1 { name := some "color" }
      { color with nullable := some true }).Gives {} t s' ∧ t.Admits s'.enums .null := by
  have hvalue : Json.null ∈ [Json.str "red", .null] := by simp
  obtain ⟨-, hgives, hadmits⟩ := typing_enum_admits (c := ofDocument .null {} {}) (n := 0)
    (r := {}) (x := { color with nullable := some true }) (l := .null) .start rfl hvalue rfl
  have hcount : ¬ NamedEnum.Miscounted { color with nullable := some true } :=
    fun h => Bool.noConfusion h.1
  obtain ⟨t, s', h⟩ := hgives.2 fun hboth => hcount hboth.2
  exact ⟨t, s', h, (hadmits t s' h).2 fun _ => .inr ⟨rfl, rfl⟩⟩

/-- Declared under a name, the enum leaves out the null that it admits as a union of literals. -/
theorem color_leaves_null :
    (∃ t, (((ofDocument .null {} {}).namingEnums false).typingWithin 1 { name := some "color" }
      color).Gives {} t {} ∧ t.Admits [] .null) ∧
    ∃ t s', (((ofDocument .null {} {}).namingEnums true).typingWithin 1 { name := some "color" }
      color).Gives {} t s' ∧ ¬ t.Admits s'.enums .null := by
  have hl : Literal.null ∈ [Json.str "red", .null].filterMap Literal.ofJson? := by
    simp [Literal.ofJson?]
  have hname : GoesByName { name := some "color" } color := ⟨rfl, rfl⟩
  refine ⟨plain_admits (fun hon => Bool.noConfusion hon) rfl hl, ?_⟩
  obtain ⟨t, s', h⟩ := (named_gives_iff (c := (ofDocument .null {} {}).namingEnums true) (n := 0)
    (s := {}) rfl hname rfl).2 fun h => Bool.noConfusion h.1
  refine ⟨t, s', h, ?_⟩
  rw [named_admits rfl .start hname rfl hl h]
  rintro (hmember | ⟨-, hnullable⟩)
  · exact hmember
  · cases hnullable

end Setting

end ClientGen
