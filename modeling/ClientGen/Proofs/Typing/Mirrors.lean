import ClientGen.Proofs.Document.Refers
import ClientGen.Proofs.Document.Indexed
import ClientGen.Proofs.Run.Mirrors
import ClientGen.Proofs.Typing.AnyWord
import ClientGen.Proofs.ViewFlags.Ends

namespace ClientGen

open Json (Reader)
open Run TypeScript

namespace Schema

variable {x : Schema} {r : String} {d : Discriminator}

def Kind.parts : Kind → List Schema
  | .oneOf schemas _ | .anyOf schemas | .allOf schemas | .tuple schemas => schemas
  | .array items => [items]
  | _ => []

inductive Kind.Of (x : Schema) : Kind → Prop where
  | reference {r : String} (h : x.reference = some r) : Kind.Of x (.reference r)
  | discriminated {d : Discriminator} (h : x.discriminator = some d) : Kind.Of x (.discriminated d)
  | parts {k : Kind} (h : k.parts ⊆ x.inside) (hr : ∀ r, k ≠ .reference r)
      (hd : ∀ d, k ≠ .discriminated d) : Kind.Of x k

theorem kind_of (x : Schema) : Kind.Of x x.kind := by
  have hin {t : Schema} := (mem_inside (s := x) (t := t)).2
  have hplain : Kind.Of x x.plainKind := by
    unfold plainKind
    split
    · exact .parts (List.nil_subset _) nofun nofun
    · split
      · exact .parts (List.nil_subset _) nofun nofun
      · split
        · exact .parts (List.nil_subset _) nofun nofun
        · split <;> exact .parts (List.nil_subset _) nofun nofun
  unfold kind
  split
  · next hr => exact .reference hr
  · next hone => exact .parts (fun t ht => hin (by rw [hone]; tauto)) nofun nofun
  · next hany => exact .parts (fun t ht => hin (by rw [hany]; tauto)) nofun nofun
  · next hd => exact .discriminated hd
  · next hall => exact .parts (fun t ht => hin (by rw [hall]; tauto)) nofun nofun
  · next hitems =>
    refine .parts (fun t ht => hin ?_) nofun nofun
    rw [List.mem_singleton.1 ht, hitems]
    tauto
  · next htuple => exact .parts (fun t ht => hin (by rw [htuple]; tauto)) nofun nofun
  · exact hplain

theorem reference_of_kind (h : x.kind = .reference r) : x.reference = some r := by
  have hof := x.kind_of
  rw [h] at hof
  cases hof with
  | reference h => exact h
  | parts _ hr => exact absurd rfl (hr r)

theorem discriminator_of_kind (h : x.kind = .discriminated d) : x.discriminator = some d := by
  have hof := x.kind_of
  rw [h] at hof
  cases hof with
  | discriminated h => exact h
  | parts _ _ hd => exact absurd rfl (hd d)

theorem parts_kind_subset_inside (x : Schema) : x.kind.parts ⊆ x.inside := by
  have hof := x.kind_of
  generalize x.kind = k at hof
  cases hof with
  | reference | discriminated => exact List.nil_subset _
  | parts h => exact h

end Schema

namespace Setting

/-- How one setting is mirrored by another: as far as the references go that are asked for, they
lead to the same values, and the index says the same of them. -/
structure Mirror (c c' : Setting) where
  /-- What stands in the place of `any`. -/
  word : Keyword
  /-- The events in which the runs have to agree. -/
  Seen : Event → Bool
  /-- The references that may be asked for. -/
  Asked : String → Prop
  /-- The failures of the first run after which nothing is asked of the second. -/
  Excused : Failure → Prop
  word_eq : word = .any ∨ word = .unknown
  anyType : c'.anyType = c.anyType.withAny word
  namedEnums : c'.options.namedEnums = c.options.namedEnums
  mergeViews : c'.options.mergeViews = c.options.mergeViews
  unionUndefined : c'.options.unionUndefined = c.options.unionUndefined
  size : c'.size = c.size ∨ c.size ≤ c'.size ∧ Excused .endless
  lookup : ∀ {r}, Asked r →
    Agree Excused (Reference.lookup c.document r) (Reference.lookup c'.document r)
  closed : ∀ {r j q}, Asked r → Reference.lookup c.document r = .ok j → j.Refers q → Asked q
  entry : ∀ {r}, Asked r → c'.discriminators.get? r = c.discriminators.get? r
  subtype : ∀ {r d q}, Asked r → c.discriminators.get? r = some d → q ∈ d.mapping.values → Asked q

/-- Where views are merged, any two of them are the same. -/
def SameView (c : Setting) (view view' : View) : Prop :=
  c.options.mergeViews = true ∨ view = view'

/-- Where views are merged, every reference has one name. -/
def Merged (c : Setting) (s : Session) : Prop :=
  c.options.mergeViews = true → ∀ entry ∈ s.references, entry.2.read = none ∧ entry.2.write = none

variable {c c' : Setting} {view view' : View} {name component : Option String} {x : Schema}
  {typing typing' : Typing}

/-- A setting is mirrored under other options that matter to no typing, or to the word only that it
has for what nothing is known of. -/
def Mirror.ofOptions {c : Setting} {options : Options} (word : Keyword) (Seen : Event → Bool)
    (word_eq : word = .any ∨ word = .unknown)
    (anyType : { c with options }.anyType = c.anyType.withAny word)
    (namedEnums : options.namedEnums = c.options.namedEnums)
    (mergeViews : options.mergeViews = c.options.mergeViews)
    (unionUndefined : options.unionUndefined = c.options.unionUndefined) :
    Mirror c { c with options } where
  word := word
  Seen := Seen
  Asked _ := True
  Excused _ := False
  word_eq := word_eq
  anyType := anyType
  namedEnums := namedEnums
  mergeViews := mergeViews
  unionUndefined := unionUndefined
  size := .inl rfl
  lookup _ := .refl _
  closed _ _ _ := trivial
  entry _ := rfl
  subtype _ _ _ := trivial

theorem Mirror.word_any : Keyword.any = .any ∨ Keyword.any = .unknown := .inl rfl

def Mirror.itself (c : Setting) : Mirror c c :=
  .ofOptions .any (fun _ => true) word_any c.anyType.withAny_any.symm rfl rfl rfl

theorem SameView.name_eq {names : ViewNames} (hview : c.SameView view view')
    (hnames : c.options.mergeViews = true → names.read = none ∧ names.write = none) :
    names.name view = names.name view' := by
  rcases hview with hmerge | rfl
  · obtain ⟨hread, hwrite⟩ := hnames hmerge
    have hbase : ∀ v, names.name v = names.base := by
      intro v
      cases v with
      | base => rfl
      | read => rw [ViewNames.name, ViewNames.own?, hread, Option.getD_none]
      | write => rw [ViewNames.name, ViewNames.own?, hwrite, Option.getD_none]
    rw [hbase view, hbase view']
  · rfl

theorem SameView.refl (view : View) : c.SameView view view := .inr rfl

namespace Mirror

variable (M : Mirror c c')

/-- All references that the schema mentions may be asked for. -/
def Covers (x : Schema) : Prop := ∀ r, x.Mentions r → M.Asked r

/-- The component under which a schema stands, if any, may be asked for. -/
def AskedOf (component : Option String) : Prop := ∀ r, component = some r → M.Asked r

/-- The second session is the first one with the word in the place of `any`, apart from events that
are not seen. -/
def Like (s s' : Session) : Prop :=
  c.Merged s ∧ ∃ events, s' = { s.withAny M.word with events } ∧
    events.filter M.Seen = s.events.filter M.Seen

/-- Runs that mirror each other when the word stands in the place of `any`. -/
abbrev Mirrored {α β : Type} (f : α → β) (r : Run α) (r' : Run β) : Prop :=
  Mirrors M.Excused M.Like f r r'

/-- A typing goes as deep as the other one, or it is cut off before, which is excused. -/
inductive Deep : Nat → Nat → Prop where
  | cut (he : M.Excused .endless) (m : Nat) : Deep 0 m
  | zero : Deep 0 0
  | succ {n m : Nat} (h : Deep n m) : Deep (n + 1) (m + 1)

/-- Typings that mirror each other in the same views. -/
def MirroredTyping (typing typing' : Typing) : Prop :=
  ∀ {view view' : View} (name : Option String) {component : Option String} {x : Schema},
    c.SameView view view' → M.AskedOf component → M.Covers x →
    M.Mirrored (TypeExpr.withAny M.word) (typing { view, name, component } x)
      (typing' { view := view', name, component } x)

variable {M}

theorem Like.eq {s s' : Session} (h : M.Like s s') (hseen : ∀ e, M.Seen e = true) :
    s' = s.withAny M.word := by
  obtain ⟨-, events, rfl, he⟩ := h
  rw [List.filter_eq_self.2 fun e _ => hseen e, List.filter_eq_self.2 fun e _ => hseen e] at he
  rw [he, Session.withAny]

theorem Like.same {s s' : Session} (h : M.Like s s') (hword : M.word = .any) :
    s' = { s with events := s'.events } ∧ s'.events.filter M.Seen = s.events.filter M.Seen := by
  obtain ⟨-, events, rfl, he⟩ := h
  rw [hword, Session.withAny_any]
  exact ⟨rfl, he⟩

section Asked

variable {α : Type} {read : Reader α} {mentions : String → α → Prop} {a : α} {r q : String}
  {y t : Schema}

theorem askedOf_none : M.AskedOf none := by
  rintro r ⟨⟩

theorem askedOf_some (hr : M.Asked r) : M.AskedOf (some r) := by
  rintro _ ⟨⟩
  exact hr

theorem Covers.reference (h : M.Covers x) (hr : x.reference = some r) : M.Asked r :=
  h r (.reference hr)

theorem Covers.inside (h : M.Covers x) (ht : t ∈ x.inside) : M.Covers t :=
  fun r hr => h r (.inside ht hr)

theorem Covers.bare (h : M.Covers x) :
    M.Covers { x with discriminator := none, nullable := none } := by
  intro r hr
  cases hr with
  | reference hr => exact h r (.reference hr)
  | mapped hd => cases hd
  | inside ht hr => exact h r (.inside ht hr)

variable (M)

theorem agree_resolve (hr : M.Asked r) : Agree M.Excused (Reference.resolve c.document read r)
    (Reference.resolve c'.document read r) := by
  unfold Reference.resolve
  rcases M.lookup hr with ⟨e, he, hfail⟩ | hsame
  · rw [hfail]
    exact .inl ⟨e, he, rfl⟩
  · rw [hsame]
    exact .refl _

/-- What a reference leads to mentions only references that may be asked for. -/
theorem asked_of_resolve (hread : read.Faithful mentions) (hr : M.Asked r)
    (ha : Reference.resolve c.document read r = .ok a) (hq : mentions q a) : M.Asked q := by
  unfold Reference.resolve at ha
  split at ha
  · cases ha
  · next j hj =>
    split at ha
    · next b hb =>
      cases ha
      exact M.closed hr hj (hread _ _ _ hb hq)
    · cases ha

theorem covers_schema (hr : M.Asked r) (hy : c.schema r = .ok y) : M.Covers y :=
  fun _ hq => M.asked_of_resolve Schema.faithful hr hy hq

theorem mirrored_schema (hr : M.Asked r) :
    M.Mirrored id (liftM (c.schema r)) (liftM (c'.schema r)) :=
  .lift (M.agree_resolve hr)

theorem namesEnum (M : Mirror c c') (x : Schema) : c'.namesEnum x = c.namesEnum x := by
  rw [Setting.namesEnum, Setting.namesEnum, M.namedEnums]

end Asked

theorem Deep.refl (n : Nat) : M.Deep n n := by
  induction n with
  | zero => exact .zero
  | succ n ih => exact .succ ih

theorem Deep.of_le (he : M.Excused .endless) {n m : Nat} (h : n ≤ m) : M.Deep n m := by
  induction n generalizing m with
  | zero => exact .cut he m
  | succ n ih =>
    cases m with
    | zero => exact absurd h (Nat.not_succ_le_zero n)
    | succ m => exact .succ (ih (Nat.le_of_succ_le_succ h))

theorem deep_of_size (M : Mirror c c') (bound : Nat → Nat) (hmono : Monotone bound) :
    M.Deep (bound c.size) (bound c'.size) := by
  rcases M.size with hsize | ⟨hle, he⟩
  · rw [hsize]
    exact .refl _
  · exact .of_le he (hmono hle)

theorem deep_depth (M : Mirror c c') : M.Deep c.depth c'.depth :=
  M.deep_of_size (fun size => 4 * (size + 2) ^ 3) fun _ _ hle =>
    Nat.mul_le_mul_left 4 (Nat.pow_le_pow_left (Nat.add_le_add_right hle 2) 3)

theorem deep_flags (M : Mirror c c') : M.Deep ((c.size + 2).pow 2) ((c'.size + 2).pow 2) :=
  M.deep_of_size (fun size => (size + 2).pow 2) fun _ _ hle =>
    Nat.pow_le_pow_left (Nat.add_le_add_right hle 2) 2

section Steps

variable (M)

theorem mirrored_takeAlias (name : String) : M.Mirrored id (takeAlias name) (takeAlias name) := by
  apply Mirrors.modifyGet
  rintro s _ ⟨hs, events, rfl, he⟩
  exact ⟨rfl, hs, events, rfl, he⟩

theorem mirrored_takeEnum (name values : String) :
    M.Mirrored id (takeEnum name values) (takeEnum name values) := by
  apply Mirrors.modifyGet
  rintro s _ ⟨hs, events, rfl, he⟩
  exact ⟨rfl, hs, events, rfl, he⟩

theorem mirrored_report (e : Event) : M.Mirrored id (report e) (report e) := by
  apply Mirrors.modify
  rintro s _ ⟨hs, events, rfl, he⟩
  refine ⟨hs, events ++ [e], rfl, ?_⟩
  rw [List.filter_append, List.filter_append, he]

theorem mirrored_declareEnum (d : TypeDecl) :
    M.Mirrored id (declareEnum d) (declareEnum d) := by
  apply Mirrors.modify
  rintro s _ ⟨hs, events, rfl, he⟩
  exact ⟨hs, events, rfl, he⟩

theorem mirrored_rememberFlags (r : String) (flags : ViewFlags) :
    M.Mirrored id (rememberFlags r flags) (rememberFlags r flags) := by
  apply Mirrors.modify
  rintro s _ ⟨hs, events, rfl, he⟩
  exact ⟨hs, events, rfl, he⟩

theorem mirrored_declareType (d : TypeDecl) :
    M.Mirrored id (declareType d) (declareType (d.withAny M.word)) := by
  apply Mirrors.modify
  rintro s _ ⟨hs, events, rfl, he⟩
  refine ⟨hs, events, ?_, he⟩
  simp only [Session.withAny, List.map_append, List.map_singleton]

theorem mirrored_register {names : ViewNames}
    (hnames : c.options.mergeViews = true → names.read = none ∧ names.write = none) (r : String) :
    M.Mirrored id (register r names) (register r names) := by
  apply Mirrors.modify
  rintro s _ ⟨hs, events, rfl, he⟩
  refine ⟨fun hmerge entry hentry => ?_, events, rfl, he⟩
  rcases Dict.mem_put hentry with hentry | rfl
  · exact hs hmerge entry hentry
  · exact hnames hmerge

end Steps

theorem mirrored_declare (M : Mirror c c') (x : Schema) (name : String) :
    M.Mirrored (TypeExpr.withAny M.word) (NamedEnum.declare x name)
      (NamedEnum.declare x name) := by
  unfold NamedEnum.declare
  dsimp only
  split
  · exact .throw _
  · refine (M.mirrored_takeEnum _ _).bind fun found => ?_
    cases found with
    | reused n => exact .pure rfl
    | fresh n =>
      exact (M.mirrored_report _).bind fun _ => (M.mirrored_declareEnum _).value fun _ => rfl

section Flags

variable {find find' : FlagFinder}

def MirroredFinder (M : Mirror c c') (find find' : FlagFinder) : Prop :=
  ∀ path x, M.Covers x → M.Mirrored id (find path x) (find' path x)

theorem mirrored_referenceFlags (h : M.MirroredFinder find find') (path : List String) {r : String}
    (hr : M.Asked r) :
    M.Mirrored id (c.referenceFlags find path r) (c'.referenceFlags find' path r) := by
  unfold referenceFlags
  split
  · exact .pure rfl
  · apply Mirrors.get_bind
    rintro s _ ⟨-, events, rfl, -⟩
    dsimp only [Session.withAny]
    split
    · exact .pure rfl
    · refine (M.mirrored_schema hr).bind_gives fun y _ _ hy => ?_
      have hcovers : M.Covers y := M.covers_schema hr (gives_lift.1 hy).1
      refine (h _ y hcovers).bind fun found => ?_
      exact (M.mirrored_rememberFlags r found).value fun _ => rfl

theorem mirrored_flagsStep (h : M.MirroredFinder find find') :
    M.MirroredFinder (c.flagsStep find) (c'.flagsStep find') := by
  intro path x hx
  unfold flagsStep
  split
  · exact .pure rfl
  · split
    · next r hr => exact (mirrored_referenceFlags h path (hx.reference hr)).value fun _ => rfl
    · refine .foldlM fun found part hpart => ?_
      have hin : part ∈ x.inside := x.parts_subset_inside hpart
      unfold addPart
      split
      · exact .pure rfl
      · exact (h path part (hx.inside hin)).value fun _ => rfl

theorem mirrored_flagsWithin {n m : Nat} (hdeep : M.Deep n m) :
    M.MirroredFinder (c.flagsWithin n) (c'.flagsWithin m) := by
  induction hdeep with
  | cut he m => exact fun _ _ _ => .excused he _
  | zero => exact fun _ _ _ => .throw _
  | succ _ ih => exact mirrored_flagsStep ih

theorem mirrored_namingFlags {r : String} (hr : M.Asked r) :
    M.Mirrored id (c.namingFlags r) (c'.namingFlags r) := by
  rw [namingFlags, namingFlags, M.mergeViews]
  split
  · exact .pure rfl
  · exact mirrored_referenceFlags (mirrored_flagsWithin M.deep_flags) [] hr

end Flags

section Names

theorem mirrored_takeOwnName (M : Mirror c c') (name : String) (view : View) (own : Bool) :
    M.Mirrored id (takeOwnName name view own) (takeOwnName name view own) := by
  unfold takeOwnName
  split
  · exact (M.mirrored_takeAlias _).map fun _ => rfl
  · exact .pure rfl

theorem ownNames_merged {r name : String} {flags : ViewFlags} {read write : Option String}
    {s s' u u' v v' : Session} (hmerge : c.options.mergeViews = true)
    (hflags : (c.namingFlags r).Gives s flags s')
    (hread : (takeOwnName name .read flags.readOnly).Gives u read u')
    (hwrite : (takeOwnName name .write flags.writeOnly).Gives v write v') :
    read = none ∧ write = none := by
  rw [namingFlags, if_pos hmerge, gives_pure] at hflags
  obtain ⟨rfl, -⟩ := hflags
  exact ⟨(gives_pure.1 hread).1.symm, (gives_pure.1 hwrite).1.symm⟩

theorem takeNames_merged {r name : String} {names : ViewNames} {s s' : Session}
    (h : (c.takeNames r name).Gives s names s') (hmerge : c.options.mergeViews = true) :
    names.read = none ∧ names.write = none := by
  simp only [takeNames, gives_bind, gives_pure] at h
  obtain ⟨_, _, -, flags, _, hflags, read, _, hread, write, _, hwrite, _, _, -, _, _, -, rfl, -⟩ :=
    h
  exact ownNames_merged hmerge hflags hread hwrite

theorem mirrored_takeNames {r : String} (hr : M.Asked r) (name : String) :
    M.Mirrored id (c.takeNames r name) (c'.takeNames r name) := by
  unfold takeNames
  refine (M.mirrored_takeAlias _).bind fun base => ?_
  refine (mirrored_namingFlags hr).bind_gives fun flags _ _ hflags => ?_
  refine (M.mirrored_takeOwnName name .read flags.readOnly).bind_gives fun read _ _ hread => ?_
  refine (M.mirrored_takeOwnName name .write flags.writeOnly).bind_gives fun write _ _ hwrite => ?_
  refine (M.mirrored_report _).bind fun _ => ?_
  -- The invariant asks of the new names what the flags have decided three steps before.
  refine (M.mirrored_register (fun hmerge => ?_) r).value fun _ => rfl
  exact ownNames_merged hmerge hflags hread hwrite

end Names

theorem mirrored_enumType (M : Mirror c c') (values : List Json) :
    M.Mirrored (TypeExpr.withAny M.word) (c.enumType { view, name, component } x values)
      (c'.enumType { view := view', name, component } x values) := by
  cases name with
  | none => exact .pure (TypeExpr.withAny_ofValues values)
  | some n =>
    unfold enumType
    dsimp only
    rw [M.namesEnum]
    split
    · exact M.mirrored_declare x n
    · exact .pure (TypeExpr.withAny_ofValues values)

theorem mirrored_declareView (h : M.MirroredTyping typing typing') {r : String}
    (hr : M.Asked r) (hx : M.Covers x) (v : View × String) :
    M.Mirrored id (declareView typing r x v) (declareView typing' r x v) := by
  unfold declareView
  exact (h none (.refl v.1) (askedOf_some hr) hx).bind fun type => M.mirrored_declareType _

/-- A reference goes by the same name in both views, at its first use and later. -/
theorem mirrored_referenceType (h : M.MirroredTyping typing typing')
    (hview : c.SameView view view') {r : String} (hr : M.Asked r) :
    M.Mirrored (TypeExpr.withAny M.word) (c.referenceType typing view r)
      (c'.referenceType typing' view' r) := by
  unfold referenceType
  apply Mirrors.get_bind
  rintro s _ ⟨hs, events, rfl, -⟩
  dsimp only [Session.withAny]
  cases hget : s.references.get? r with
  | some names =>
    -- By the invariant the names that were registered call both views the same.
    refine .pure ?_
    rw [hview.name_eq fun hmerge => hs hmerge _ (Dict.mem_of_get? hget), TypeExpr.withAny]
  | none =>
    refine (M.mirrored_schema hr).bind_gives fun y _ _ hy => ?_
    have hcovers : M.Covers y := M.covers_schema hr (gives_lift.1 hy).1
    simp only [id, M.namesEnum]
    split
    · exact M.mirrored_declare y _
    · refine (mirrored_takeNames hr _).bind_gives fun names _ _ htaken => ?_
      refine (Mirrors.forM fun v _ => mirrored_declareView h hr hcovers v).value fun _ => ?_
      rw [hview.name_eq (takeNames_merged htaken), TypeExpr.withAny]
      rfl

theorem mirrored_typesOf (h : M.MirroredTyping typing typing') (hview : c.SameView view view')
    {schemas : List Schema} (hx : ∀ t ∈ schemas, M.Covers t) :
    M.Mirrored (List.map (TypeExpr.withAny M.word)) (typesOf typing view schemas)
      (typesOf typing' view' schemas) :=
  .mapM fun t ht => h none hview askedOf_none (hx t ht)

section Types

variable (M)

theorem orKeyword {k : Keyword} (hk : k = .null ∨ k = .undefined) (t : TypeExpr) :
    (t.orKeyword k).withAny M.word = (t.withAny M.word).orKeyword k := by
  apply TypeExpr.withAny_orKeyword
  · rcases hk with rfl | rfl <;> exact nofun
  · rcases M.word_eq with h | h <;> rw [h] <;> rcases hk with rfl | rfl <;> exact nofun

theorem namedType (name : String) : c'.namedType name = (c.namedType name).withAny M.word := by
  unfold Setting.namedType
  split
  · rfl
  · rfl
  · rfl
  · rfl
  · rfl
  · rw [M.anyType, TypeExpr.withAny_object, List.map_nil, Option.map_some]
  · rw [M.anyType, TypeExpr.withAny]
  · exact M.anyType

theorem primitiveType (types : Option TypeNames) :
    c'.primitiveType types = (c.primitiveType types).withAny M.word := by
  unfold Setting.primitiveType
  split
  · exact M.anyType
  · exact M.namedType _
  · rw [TypeExpr.withAny_union, List.map_map]
    exact congrArg _ (List.map_congr_left fun name _ => M.namedType name)

variable {M}

theorem mirrored_memberOf (h : M.MirroredTyping typing typing') (hview : c.SameView view view')
    {property : String × Schema} (hp : M.Covers property.2) :
    M.Mirrored (TypeExpr.withAnyMember M.word) (c.memberOf typing view x property)
      (c'.memberOf typing' view' x property) := by
  unfold memberOf
  refine (h (some property.1) hview askedOf_none hp).value fun t => ?_
  rw [M.unionUndefined, TypeExpr.withAnyMember]
  split
  · rw [M.orKeyword (.inr rfl)]
  · rfl

theorem mirrored_indexOf (h : M.MirroredTyping typing typing') (hview : c.SameView view view')
    (hx : M.Covers x) :
    M.Mirrored (Option.map (TypeExpr.withAny M.word)) (c.indexOf typing view x)
      (c'.indexOf typing' view' x) := by
  unfold indexOf
  split
  · exact .pure (congrArg some M.anyType.symm)
  · next part hpart =>
    have hin : part ∈ x.inside :=
      x.objectParts_subset_inside none (Schema.mem_objectParts.2 (.inr hpart))
    exact (h none hview askedOf_none (hx.inside hin)).map fun _ => rfl
  · exact .pure rfl
  · exact .pure rfl

theorem propertiesOf_eq (M : Mirror c c') (hview : c.SameView view view') (skip : Option String)
    (x : Schema) : c'.propertiesOf view' skip x = c.propertiesOf view skip x := by
  unfold propertiesOf keeps
  rw [M.mergeViews]
  rcases hview with hmerge | rfl
  · simp only [hmerge, Bool.true_or]
  · rfl

theorem mirrored_objectType (h : M.MirroredTyping typing typing') (hview : c.SameView view view')
    (skip : Option String) (hx : M.Covers x) :
    M.Mirrored (TypeExpr.withAny M.word) (c.objectType typing view skip x)
      (c'.objectType typing' view' skip x) := by
  unfold objectType
  rw [M.propertiesOf_eq hview]
  refine (Mirrors.mapM fun property hproperty => ?_).bind fun members =>
    (mirrored_indexOf h hview hx).value fun index => TypeExpr.withAny_object _ _
  have hmem : property ∈ x.properties.getD [] := (List.mem_filter.1 hproperty).1
  have hin : property.2 ∈ x.inside :=
    x.objectParts_subset_inside none (Schema.mem_objectParts.2 (.inl ⟨property.1, hmem, nofun⟩))
  exact mirrored_memberOf h hview (hx.inside hin)

theorem mirrored_taggedUnion (h : M.MirroredTyping typing typing')
    (hview : c.SameView view view') (d : Discriminator) {variants : List Schema}
    (hx : ∀ t ∈ variants, M.Covers t) :
    M.Mirrored (TypeExpr.withAny M.word)
      (taggedUnion typing { view, name, component } d variants)
      (taggedUnion typing' { view := view', name, component } d variants) := by
  unfold taggedUnion
  dsimp only
  split
  · exact .throw _
  · refine Mirrors.value (.mapM fun variant hvariant => ?_) TypeExpr.withAny_union
    unfold taggedVariant
    split
    · exact .throw _
    · refine (h none hview askedOf_none (hx variant hvariant)).value fun t => ?_
      exact TypeExpr.withAny_intersection _

theorem subtypes_same (M : Mirror c c') (view view' : View) (hcomponent : M.AskedOf component)
    (d : Discriminator) :
    c'.subtypes { view := view', name, component } d = c.subtypes { view, name, component } d := by
  unfold subtypes
  cases component with
  | none => rfl
  | some r =>
    dsimp only [Option.bind_some]
    rw [M.entry (hcomponent r rfl)]

theorem asked_of_mem_subtypes (hcomponent : M.AskedOf component)
    (hx : M.Covers x) {d : Discriminator} (hd : x.discriminator = some d) {r : String}
    (hr : r ∈ c.subtypes { view, name, component } d) : M.Asked r := by
  unfold subtypes at hr
  split at hr
  · next known hknown =>
    obtain ⟨q, hq, hentry⟩ := Option.bind_eq_some_iff.1 hknown
    exact M.subtype (hcomponent q hq) hentry hr
  · exact hx r (.mapped hd hr)

theorem mirrored_subtypeUnion (h : M.MirroredTyping typing typing')
    (hview : c.SameView view view') (hcomponent : M.AskedOf component)
    (hx : M.Covers x) {d : Discriminator} (hd : x.discriminator = some d) :
    M.Mirrored (TypeExpr.withAny M.word)
      (c.subtypeUnion typing { view, name, component } d x)
      (c'.subtypeUnion typing' { view := view', name, component } d x) := by
  have hasked : ∀ r ∈ c.subtypes { view, name, component } d, M.Asked r :=
    fun r hr => asked_of_mem_subtypes hcomponent hx hd hr
  unfold subtypeUnion
  rw [M.subtypes_same view view' hcomponent]
  split
  · exact h name hview hcomponent hx.bare
  · refine Mirrors.value (.mapM fun r hr => ?_) TypeExpr.withAny_union
    exact mirrored_referenceType h hview (hasked r hr)

theorem mirrored_branchTypes (h : M.MirroredTyping typing typing') (hview : c.SameView view view')
    {branch : Schema} (hb : M.Covers branch) :
    M.Mirrored (List.map (TypeExpr.withAny M.word))
      (c.branchTypes typing { view, name, component } branch)
      (c'.branchTypes typing' { view := view', name, component } branch) := by
  have hsame : (branch.reference.bind fun r => (c'.discriminators.get? r).map fun d => (r, d)) =
      branch.reference.bind fun r => (c.discriminators.get? r).map fun d => (r, d) := by
    cases hr : branch.reference with
    | none => rfl
    | some r =>
      dsimp only [Option.bind_some]
      rw [M.entry (hb.reference hr)]
  unfold branchTypes
  rw [hsame]
  cases hparent : branch.reference.bind fun r =>
      (c.discriminators.get? r).map fun d => (r, d) with
  | none => exact (h none hview askedOf_none hb).value fun _ => rfl
  | some found =>
    obtain ⟨r, hr, he⟩ := Option.bind_eq_some_iff.1 hparent
    obtain ⟨d, -, rfl⟩ := Option.map_eq_some_iff.1 he
    have hasked : M.Asked r := hb.reference hr
    refine (M.mirrored_schema hasked).bind_gives fun y _ _ hy => ?_
    have hcovers : M.Covers y := M.covers_schema hasked (gives_lift.1 hy).1
    refine (mirrored_objectType h hview d.property hcovers).value fun t => ?_
    rw [List.map_append, List.map_singleton]
    refine congrArg (· ++ _) ?_
    dsimp only
    cases d.property with
    | none => rfl
    | some property => cases component.bind d.tag? <;> rfl

theorem mirrored_intersectionType (h : M.MirroredTyping typing typing')
    (hview : c.SameView view view') (hx : M.Covers x) {branches : List Schema}
    (hbranches : ∀ b ∈ branches, M.Covers b) :
    M.Mirrored (TypeExpr.withAny M.word)
      (c.intersectionType typing { view, name, component } branches x)
      (c'.intersectionType typing' { view := view', name, component } branches x) := by
  unfold intersectionType
  refine (Mirrors.mapM fun b hb => mirrored_branchTypes h hview (hbranches b hb)).bind
    fun types => ?_
  have hlast : ∀ own, (TypeExpr.intersection (types.flatten ++ own)).withAny M.word = .intersection
      ((types.map (List.map (TypeExpr.withAny M.word))).flatten ++ own.map (.withAny M.word)) := by
    intro own
    rw [TypeExpr.withAny_intersection, List.map_append, List.map_flatten]
  dsimp only
  split
  · have hown := mirrored_objectType h hview none hx
    exact (hown.map (g := List.map (TypeExpr.withAny M.word)) fun _ => rfl).value hlast
  · exact .pure (hlast [])

/-- The types of a kind mirror each other if the types of the schemas inside and below do. -/
theorem mirrored_kindType (h : M.MirroredTyping typing typing') (hview : c.SameView view view')
    (hcomponent : M.AskedOf component) (hx : M.Covers x) :
    M.Mirrored (TypeExpr.withAny M.word) (c.kindType typing { view, name, component } x)
      (c'.kindType typing' { view := view', name, component } x) := by
  have hparts : ∀ t ∈ x.kind.parts, M.Covers t :=
    fun t ht => hx.inside (x.parts_kind_subset_inside ht)
  unfold kindType
  cases hkind : x.kind with
  | reference target =>
    exact mirrored_referenceType h hview (hx.reference (Schema.reference_of_kind hkind))
  | oneOf variants d =>
    rw [hkind] at hparts
    cases d with
    | none => exact (mirrored_typesOf h hview hparts).value TypeExpr.withAny_union
    | some d => exact mirrored_taggedUnion h hview d hparts
  | anyOf variants =>
    rw [hkind] at hparts
    exact (mirrored_typesOf h hview hparts).value TypeExpr.withAny_union
  | discriminated d =>
    exact mirrored_subtypeUnion h hview hcomponent hx (Schema.discriminator_of_kind hkind)
  | allOf branches =>
    rw [hkind] at hparts
    exact mirrored_intersectionType h hview hx hparts
  | array items =>
    rw [hkind] at hparts
    exact (h name hview askedOf_none (hparts items List.mem_cons_self)).value fun _ => rfl
  | tuple items =>
    rw [hkind] at hparts
    exact (mirrored_typesOf h hview hparts).value TypeExpr.withAny_tuple
  | object => exact mirrored_objectType h hview none hx
  | enum values => exact M.mirrored_enumType values
  | binary => exact .pure rfl
  | const value =>
    refine .pure ?_
    cases Literal.ofJson? value with
    | none => exact M.anyType.symm
    | some literal => rfl
  | primitive types => exact .pure (M.primitiveType types).symm

theorem mirrored_typingStep (h : M.MirroredTyping typing typing') :
    M.MirroredTyping (c.typingStep typing) (c'.typingStep typing') := by
  intro view view' name component x hview hcomponent hx
  refine (mirrored_kindType h hview hcomponent hx).value fun t => ?_
  split
  · exact M.orKeyword (.inl rfl) t
  · rfl

theorem mirrored_typingWithin {n m : Nat} (hdeep : M.Deep n m) :
    M.MirroredTyping (c.typingWithin n) (c'.typingWithin m) := by
  induction hdeep with
  | cut he m =>
    intro view view' name component x _ _ _
    exact .excused he _
  | zero =>
    intro view view' name component x _ _ _
    exact .throw _
  | succ _ ih => exact mirrored_typingStep ih

theorem mirrored_typing (M : Mirror c c') : M.MirroredTyping c.typing c'.typing :=
  mirrored_typingWithin M.deep_depth

end Types

end Mirror

end Setting

end ClientGen
