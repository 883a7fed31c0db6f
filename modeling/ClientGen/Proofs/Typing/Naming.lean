import ClientGen.Proofs.Run
import ClientGen.Typing

namespace ClientGen

open Run TypeScript

def Session.SameButFlags (s s' : Session) : Prop := ∃ flags, s' = { s with flags }

namespace Setting

variable {c : Setting} {r name : String} {s s₀ s' : Session}

/-- Wherever it ends, a search for flags changes nothing else. -/
def OnlyFlags (find : FlagFinder) : Prop :=
  ∀ path x s₀ s, Keeps (Session.SameButFlags s₀) (find path x) s

theorem OnlyFlags.reference {find : FlagFinder} (h : OnlyFlags find) (path : List String) :
    Keeps (Session.SameButFlags s₀) (c.referenceFlags find path r) s := by
  unfold referenceFlags
  split
  · exact keeps_pure _
  · refine keeps_get.bind fun _ _ _ => ?_
    split
    · exact keeps_pure _
    · refine (keeps_lift _).bind fun x _ _ => (h _ x s₀ _).bind fun f _ _ => ?_
      refine Keeps.bind ?_ fun _ _ _ => keeps_pure _
      rintro ⟨flags, rfl⟩
      exact ⟨_, rfl⟩

theorem OnlyFlags.list {find : FlagFinder} (h : OnlyFlags find) (path : List String)
    (l : List Schema) (f : ViewFlags) :
    Keeps (Session.SameButFlags s₀) (l.foldlM (addPart find path) f) s := by
  induction l generalizing f s with
  | nil => exact keeps_pure f
  | cons x l ih =>
    rw [List.foldlM_cons]
    refine Keeps.bind ?_ fun f' _ _ => ih f'
    unfold addPart
    split
    · exact keeps_pure _
    · exact (h path x s₀ _).bind fun _ _ _ => keeps_pure _

theorem flagsWithin_onlyFlags (c : Setting) (fuel : Nat) : OnlyFlags (c.flagsWithin fuel) := by
  induction fuel with
  | zero => exact fun _ _ _ _ => keeps_throw _
  | succ fuel ih =>
    intro path x s₀ s
    rw [flagsWithin, flagsStep]
    split
    · exact keeps_pure _
    · split
      · exact (ih.reference path).bind fun _ _ _ => keeps_pure _
      · exact ih.list path x.parts x.ownFlags

theorem namingFlags_sameButFlags {f : ViewFlags} (h : (c.namingFlags r).Gives s f s') :
    s.SameButFlags s' := by
  unfold namingFlags at h
  split at h
  · rw [gives_pure] at h
    exact ⟨s.flags, h.2.symm⟩
  · exact ((c.flagsWithin_onlyFlags _).reference []).gives h ⟨s.flags, rfl⟩

theorem takeOwnName_gives {view : View} {own : Bool} {n : Option String}
    (h : (takeOwnName name view own).Gives s n s') : (∃ aliases, s' = { s with aliases }) ∧
      ∀ m, n = some m →
        ∃ taken : AliasNames, m = (taken.unique (Identifier.ofText name true view)).1 := by
  unfold takeOwnName at h
  split at h
  · simp only [gives_map, Run.takeAlias, gives_modifyGet] at h
    obtain ⟨m, ⟨hm, rfl⟩, rfl⟩ := h
    exact ⟨⟨_, rfl⟩, fun m' hm' => ⟨s.aliases, Option.some_inj.1 hm' ▸ hm⟩⟩
  · rw [gives_pure] at h
    obtain ⟨rfl, rfl⟩ := h
    exact ⟨⟨s.aliases, rfl⟩, fun m hm => by cases hm⟩

/-- Taking the names of a reference registers them, and nothing is declared by it. Each is one that
was asked for, made unique. -/
theorem takeNames_gives {names : ViewNames} (h : (c.takeNames r name).Gives s names s') :
    (∃ aliases flags events,
      s' = { s with aliases, flags, events, references := s.references.put r names }) ∧
    ∀ view n, names.own? view = some n →
      ∃ taken : AliasNames, n = (taken.unique (Identifier.ofText name true view)).1 := by
  simp only [takeNames, gives_bind, gives_pure] at h
  obtain ⟨base, s₁, hbase, f, s₂, hflags, read, s₃, hread, write, s₄, hwrite, _, s₅, hreport, _, _,
    hregister, rfl, rfl⟩ := h
  obtain ⟨htaken, rfl⟩ := gives_modifyGet.1 hbase
  obtain ⟨_, rfl⟩ := namingFlags_sameButFlags hflags
  obtain ⟨⟨_, rfl⟩, htakenRead⟩ := takeOwnName_gives hread
  obtain ⟨⟨_, rfl⟩, htakenWrite⟩ := takeOwnName_gives hwrite
  cases gives_modify.1 hreport
  cases gives_modify.1 hregister
  refine ⟨⟨_, _, _, rfl⟩, fun view n hn => ?_⟩
  cases view with
  | base => exact ⟨s.aliases, Option.some_inj.1 hn ▸ htaken⟩
  | read => exact htakenRead n hn
  | write => exact htakenWrite n hn

end Setting

namespace EnumNames

def lookup (t : EnumNames) (proposed values : String) : Option String :=
  (((t.given.get? proposed).getD []).find? fun entry => entry.2 = values).map Prod.fst

variable {t t' : EnumNames} {proposed values n : String} {aliases aliases' : AliasNames}

theorem nameFor_reused (h : t.nameFor proposed values aliases = (.reused n, t', aliases')) :
    t.lookup proposed values = some n ∧ t' = t ∧ aliases' = aliases := by
  unfold nameFor at h
  dsimp only at h
  split at h
  · next name _ hfind =>
    cases h
    exact ⟨by rw [lookup, hfind]; rfl, rfl, rfl⟩
  · cases h

theorem nameFor_of_lookup (h : t.lookup proposed values = some n) :
    t.nameFor proposed values aliases = (.reused n, t, aliases) := by
  obtain ⟨⟨m, v⟩, hfind, rfl⟩ := Option.map_eq_some_iff.1 h
  simp only [nameFor, hfind]

theorem nameFor_of_lookup_eq_none (aliases : AliasNames)
    (h : t.lookup proposed values = none) :
    ∃ t', t.nameFor proposed values aliases =
      (.fresh (aliases.unique proposed).1, t', (aliases.unique proposed).2) := by
  have hfind := Option.map_eq_none_iff.1 h
  simp only [nameFor, hfind]
  exact ⟨_, rfl⟩

theorem nameFor_fresh (h : t.nameFor proposed values aliases = (.fresh n, t', aliases')) :
    n = (aliases.unique proposed).1 ∧ t.lookup proposed values = none ∧ ∀ p v, t'.lookup p v =
      if p = proposed ∧ v = values then some n else t.lookup p v := by
  unfold nameFor at h
  dsimp only at h
  split at h
  · cases h
  · next hfind =>
    have hnone : t.lookup proposed values = none := by rw [lookup, hfind]; rfl
    cases h
    refine ⟨rfl, hnone, fun p v => ?_⟩
    simp only [lookup, Dict.get?_put]
    by_cases hp : p = proposed
    · subst hp
      by_cases hv : v = values
      · subst hv
        simp [List.find?_append, hfind]
      · simp [List.find?_append, hv, Ne.symm hv]
    · simp [hp, Ne.symm hp]

end EnumNames

namespace NamedEnum

variable {x : Schema} {name : String} {s s' : Session} {t : TypeExpr}

def proposed (x : Schema) (name : String) : String := typeName (x.title.getD name)

def valuesText (x : Schema) : String := Json.text (.arr (x.values.getD []))

/-- Names are given for the values of an enum, but not as many as there are values. -/
def Miscounted (x : Schema) : Prop :=
  x.memberNames?.isSome ∧ (x.memberNames?.getD []).length ≠ (x.values.getD []).length

/-- An enum that was not known gets a name and is declared under it. -/
structure Added (x : Schema) (name n : String) (s s' : Session) : Prop where
  found : s.enumNames.nameFor (proposed x name) (valuesText x) s.aliases =
    (.fresh n, s'.enumNames, s'.aliases)
  taken : n = (s.aliases.unique (proposed x name)).1
  unknown : s.enumNames.lookup (proposed x name) (valuesText x) = none
  lookup : ∀ p v, s'.enumNames.lookup p v =
    if p = proposed x name ∧ v = valuesText x then some n else s.enumNames.lookup p v
  only : ∃ aliases enumNames events members doc, s' = { s with
    aliases, enumNames, events, enums := s.enums ++ [{ name := n, body := .enum members, doc }] }

theorem Added.keep {n p v m : String} (h : Added x name n s s')
    (hm : s.enumNames.lookup p v = some m) : s'.enumNames.lookup p v = some m := by
  rw [h.lookup, if_neg]
  · exact hm
  · rintro ⟨rfl, rfl⟩
    cases hm.symm.trans h.unknown

theorem Added.exists_lookup_iff {n p m : String} (h : Added x name n s s') :
    (∃ values, s'.enumNames.lookup p values = some m) ↔
      (∃ values, s.enumNames.lookup p values = some m) ∨ (p, m) = (proposed x name, n) := by
  constructor
  · rintro ⟨values, hm⟩
    rw [h.lookup] at hm
    split at hm
    · next he =>
      cases hm
      exact .inr (congrArg (·, n) he.1)
    · exact .inl ⟨values, hm⟩
  · rintro (⟨values, hm⟩ | he)
    · exact ⟨values, h.keep hm⟩
    · cases he
      exact ⟨_, (h.lookup _ _).trans (if_pos ⟨rfl, rfl⟩)⟩

theorem takeEnum_gives {proposed values : String} {found : EnumName} :
    (takeEnum proposed values).Gives s found s' ↔ ∃ enumNames aliases,
      s.enumNames.nameFor proposed values s.aliases = (found, enumNames, aliases) ∧
      s' = { s with enumNames, aliases } := by
  rw [takeEnum, gives_modifyGet]
  rcases s.enumNames.nameFor proposed values s.aliases with ⟨found', enumNames, aliases⟩
  constructor
  · rintro ⟨rfl, rfl⟩
    exact ⟨_, _, rfl, rfl⟩
  · rintro ⟨_, _, h, rfl⟩
    cases h
    exact ⟨rfl, rfl⟩

theorem declare_gives (h : (declare x name).Gives s t s') : ∃ n, t = .named n ∧ ¬ Miscounted x ∧
    s'.enumNames.lookup (proposed x name) (valuesText x) = some n ∧
    (s' = s ∨ Added x name n s s') := by
  unfold declare at h
  dsimp only at h
  split at h
  · simp only [gives_bind] at h
    obtain ⟨_, _, h, -⟩ := h
    exact absurd h not_gives_throw
  · next hcount =>
    have hcount : ¬ Miscounted x := by simpa [Miscounted] using hcount
    rw [gives_bind] at h
    obtain ⟨found, _, htake, h⟩ := h
    obtain ⟨enumNames, aliases, hfound, rfl⟩ := takeEnum_gives.1 htake
    cases found with
    | reused n =>
      obtain ⟨hlookup, rfl, rfl⟩ := EnumNames.nameFor_reused hfound
      obtain ⟨rfl, rfl⟩ := gives_pure.1 h
      exact ⟨n, rfl, hcount, hlookup, .inl rfl⟩
    | fresh n =>
      obtain ⟨htaken, hnone, hlookup⟩ := EnumNames.nameFor_fresh hfound
      simp only [gives_bind, report, declareEnum, gives_modify, gives_pure] at h
      obtain ⟨_, _, rfl, _, _, rfl, rfl, rfl⟩ := h
      refine ⟨n, rfl, hcount, ?_, .inr ⟨hfound, htaken, hnone, hlookup, ⟨_, _, _, _, _, rfl⟩⟩⟩
      rw [hlookup, if_pos ⟨rfl, rfl⟩]

theorem declare_of_lookup {n : String} (hcount : ¬ Miscounted x)
    (h : s.enumNames.lookup (proposed x name) (valuesText x) = some n) :
    (declare x name).Gives s (.named n) s := by
  have hcount : ¬ (x.memberNames?.isSome &&
      decide ((x.memberNames?.getD []).length ≠ (x.values.getD []).length)) = true := by
    simpa [Miscounted] using hcount
  have htake : (takeEnum (proposed x name) (valuesText x)).Gives s (.reused n) s :=
    takeEnum_gives.2 ⟨_, _, EnumNames.nameFor_of_lookup h, rfl⟩
  unfold declare
  dsimp only
  rw [if_neg hcount, gives_bind]
  exact ⟨_, _, htake, gives_pure.2 ⟨rfl, rfl⟩⟩

def declaration (x : Schema) (n : String) : TypeDecl where
  name := n
  body := .enum (members {} (entries (x.values.getD []) (x.memberNames?.getD [])))
  doc := x.description.bind Doc.ofText?

theorem declare_of_fresh {n : String} {enumNames : EnumNames} {aliases : AliasNames}
    (hcount : ¬ Miscounted x) (h : s.enumNames.nameFor (proposed x name) (valuesText x) s.aliases =
      (.fresh n, enumNames, aliases)) :
    ∃ s', (declare x name).Gives s (.named n) s' ∧ s'.enums = s.enums ++ [declaration x n] := by
  have hcount : ¬ (x.memberNames?.isSome &&
      decide ((x.memberNames?.getD []).length ≠ (x.values.getD []).length)) = true := by
    simpa [Miscounted] using hcount
  have htake := takeEnum_gives.2 ⟨enumNames, aliases, h, rfl⟩
  let size := (members {} (entries (x.values.getD []) (x.memberNames?.getD []))).length
  refine ⟨{ s with
    enumNames, aliases, events := s.events ++ [.enumDeclared n size],
    enums := s.enums ++ [declaration x n] }, ?_, rfl⟩
  unfold declare
  dsimp only
  rw [if_neg hcount, gives_bind]
  refine ⟨_, _, htake, ?_⟩
  simp only [gives_bind, report, declareEnum, gives_modify, gives_pure]
  exact ⟨(), _, rfl, (), _, rfl, trivial, rfl⟩

end NamedEnum

end ClientGen
